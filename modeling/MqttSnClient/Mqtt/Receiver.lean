import MqttSnClient.Mqtt.Client

namespace Mqtt
open Memory

def mqttDataFlagLast : UInt8 := 1

/-- `MQTT_CTL_PACKET_TYPE`. -/
def mqttCtlPacketType (byte0 : UInt8) : UInt8 := (byte0 &&& 0xf0) >>> 4

/-- `MQTT_CTL_PACKET_QOS`. -/
def mqttCtlPacketQos (byte0 : UInt8) : UInt8 := (byte0 &&& 0x6) >>> 1

/-- `pub_ack_rec_rel_response`. -/
def pubAckRecRelResponse (net : Net) (msg : UInt8) (pktId : UInt16) (qos : UInt8) (w : World) :
    Except Fault (World × Err) :=
  if mqttOutputCheckSpace w.client.output 2 then do
    let w := w.withOutput fun rb =>
      mqttOutputAppendU16 pktId (mqttOutputAppendFixedHeader msg 0 qos 0 2 rb)
    let w ← w.outputSend net
    .ok (w, .ok)
  else .ok (w, .mem)

/-- `mqtt_incomming_suback`. -/
def mqttIncommingSuback (r : MqttRequest) (result : UInt8) : List Answer :=
  r.answer (if result < 3 then .ok else .abrt)

/-- The 16-bit field at offset `i` of the receive buffer, high byte first. -/
def rxU16 (c : MqttClient) (i : ℕ) : UInt16 :=
  ((c.rxBuffer i).toUInt16 <<< 8) + (c.rxBuffer (i + 1)).toUInt16

def connackReceived (net : Net) (fixedHdrIdx : ℕ) (w : World) :
    Except Fault (World × MqttConnectionStatus) :=
  if w.client.connState = .mqttConnecting then
    let res := .code (w.client.rxBuffer (fixedHdrIdx + 1))
    if res = mqttConnectAccepted then
      let w := { w with client.cyclicTick := 0, client.connState := .mqttConnected }
      if w.client.connectCb then do
        let w ← mqttConnectionCb net res w
        .ok (w, res)
      else .ok (w, res)
    else .ok (w, res)
  else .ok (w, mqttConnectAccepted)

/-- The bytes that must follow the topic: the packet id, or one byte even without, for the
terminator of the topic. -/
def topicRoom (qos : UInt8) : ℕ := if qos ≠ 0 then 2 else 1

def pktIdLen (qos : UInt8) : ℕ := if qos > 0 then 2 else 0

def inpubId (c : MqttClient) (i : ℕ) (qos : UInt8) : UInt16 := if qos > 0 then rxU16 c i else 0

/-- The call of `pub_cb`, with the topic up to its first zero byte. -/
def tellTopic (fixedHdrIdx topicLen : ℕ) (totLen : UInt32) (w : World) : World :=
  if w.client.pubCb then
    w.tell (.publish w.client.inpubArg
      ((slice w.client.rxBuffer (fixedHdrIdx + 2) topicLen).takeWhile (· ≠ 0)) totLen)
  else w

/-- The first part of a PUBLISH, with the topic and the packet id: where the payload
starts, or nothing when the topic does not fit. The byte after the topic is zero while
the application reads the topic; it lies outside the buffer where `after_topic` wraps. -/
def publishTopic (fixedHdrIdx length : ℕ) (remainingLength : UInt32) (qos : UInt8) (w : World) :
    Except Fault (Option (World × ℕ)) :=
  let topicLen := rxU16 w.client fixedHdrIdx
  let afterTopic := 2 + topicLen
  if afterTopic.toNat + topicRoom qos > length then .ok none
  else
    let pktId := inpubId w.client (fixedHdrIdx + afterTopic.toNat) qos
    let w := { w with client.inpubPktId := pktId }
    let payloadOffset := afterTopic.toNat + pktIdLen qos
    if fixedHdrIdx + 2 + topicLen.toNat ≥ mqttVarHeaderBufferLen then .error .outOfBounds
    else
      let totLen := remainingLength + UInt32.ofNat (length - payloadOffset)
      .ok (some (tellTopic fixedHdrIdx topicLen.toNat totLen w, payloadOffset))

/-- The answer to the last part of a PUBLISH; its result is not looked at. -/
def publishAnswer (net : Net) (remainingLength : UInt32) (qos : UInt8) (w : World) :
    Except Fault World :=
  if remainingLength = 0 ∧ qos > 0 then do
    let respMsg := if qos = 1 then mqttMsgTypePuback else mqttMsgTypePubrec
    let r ← pubAckRecRelResponse net respMsg w.client.inpubPktId 0 w
    .ok r.1
  else .ok w

/-- The payload of a PUBLISH as far as it is in the buffer. -/
def publishData (net : Net) (fixedHdrIdx payloadOffset payloadLength : ℕ)
    (remainingLength : UInt32) (qos : UInt8) (w : World) : Except Fault World :=
  if payloadLength > 0 ∨ remainingLength = 0 then
    if !w.client.dataCb then .error .nullCall
    else
      let data := slice w.client.rxBuffer (fixedHdrIdx + payloadOffset) payloadLength
      let flags := if remainingLength = 0 then mqttDataFlagLast else 0
      publishAnswer net remainingLength qos (w.tell (.data w.client.inpubArg data flags))
  else .ok w

/-- A PUBLISH, or a further part of one. -/
def publishReceived (net : Net) (fixedHdrIdx length : ℕ) (remainingLength : UInt32) (w : World) :
    Except Fault (World × MqttConnectionStatus) :=
  let qos := mqttCtlPacketQos (w.client.rxBuffer 0)
  if w.client.msgIdx.toNat ≤ mqttVarHeaderBufferLen then do
    let start ← publishTopic fixedHdrIdx length remainingLength qos w
    match start with
    | none => .ok (w, .mqttConnectDisconnected)
    | some (w, payloadOffset) =>
      let w ← publishData net fixedHdrIdx payloadOffset (length - payloadOffset) remainingLength
        qos w
      .ok (w, mqttConnectAccepted)
  else do
    let w ← publishData net fixedHdrIdx 0 length remainingLength qos w
    .ok (w, mqttConnectAccepted)

/-- A SUBACK, UNSUBACK, PUBCOMP or PUBACK. A SUBACK that is too short leaves its request
taken from the queue but in use. -/
def replyReceived (pktType : UInt8) (pktId : UInt16) (fixedHdrIdx length : ℕ) (w : World) :
    Except Fault (World × MqttConnectionStatus) := do
  let taken ← w.client.requests.mqttTakeRequest pktId
  let w := w.withRequests taken.2
  match taken.1 with
  | none => .ok (w, mqttConnectAccepted)
  | some r =>
    let request := taken.2.reqList r
    if pktType = mqttMsgTypeSuback ∧ length < 3 then .ok (w, .mqttConnectDisconnected)
    else
      let answers := if pktType = mqttMsgTypeSuback
        then mqttIncommingSuback request (w.client.rxBuffer (fixedHdrIdx + 2))
        else request.answer .ok
      .ok (w.answered (taken.2.mqttDeleteRequest r) answers, mqttConnectAccepted)

/-- `mqtt_message_received`: a message is complete or the buffer is full. -/
def mqttMessageReceived (net : Net) (fixedHdrIdx length : ℕ) (remainingLength : UInt32)
    (w : World) : Except Fault (World × MqttConnectionStatus) :=
  let pktType := mqttCtlPacketType (w.client.rxBuffer 0)
  if pktType = mqttMsgTypeConnack then connackReceived net fixedHdrIdx w
  else if pktType = mqttMsgTypePingresp then .ok (w, mqttConnectAccepted)
  else if pktType = mqttMsgTypePublish then
    publishReceived net fixedHdrIdx length remainingLength w
  else
    let pktId := rxU16 w.client fixedHdrIdx
    if pktId = 0 then .ok (w, .mqttConnectDisconnected)
    else if pktType = mqttMsgTypePubrec then do
      let r ← pubAckRecRelResponse net mqttMsgTypePubrel pktId 1 w
      .ok (r.1, mqttConnectAccepted)
    else if pktType = mqttMsgTypePubrel then do
      let r ← pubAckRecRelResponse net mqttMsgTypePubcomp pktId 0 w
      .ok (r.1, mqttConnectAccepted)
    else if pktType = mqttMsgTypeSuback ∨ pktType = mqttMsgTypeUnsuback ∨
        pktType = mqttMsgTypePubcomp ∨ pktType = mqttMsgTypePuback then
      replyReceived pktType pktId fixedHdrIdx length w
    else .ok (w, .mqttConnectDisconnected)

/-- The local variables of `mqtt_parse_incoming`. -/
structure Locals where
  fixedHdrIdx : ℕ
  msgRemLen : UInt32
  b : UInt8

/-- The loop of the parser is still in the fixed header. -/
def Locals.header (l : Locals) : Prop := l.fixedHdrIdx < 2 ∨ l.b &&& 0x80 ≠ 0

instance (l : Locals) : Decidable l.header := inferInstanceAs (Decidable (_ ∨ _))

def World.storeRx (w : World) (b : UInt8) : World :=
  { w with
    client.rxBuffer := Function.update w.client.rxBuffer w.client.msgIdx.toNat b
    client.msgIdx := w.client.msgIdx + 1 }

/-- Seven more bits of the remaining length, from the last byte of a header of `n` bytes. -/
def addLength (msgRemLen : UInt32) (b : UInt8) (n : ℕ) : UInt32 :=
  msgRemLen ||| ((b &&& 0x7f).toUInt32 <<< UInt32.ofNat ((n - 2) * 7))

/-- The rest of a turn of the loop in the fixed header, on its byte `b`. -/
def headerByte (net : Net) (w : World) (l : Locals) (b : UInt8) (input : List UInt8) :
    Except Fault (World × Locals × List UInt8) :=
  let fixedHdrIdx := l.fixedHdrIdx + 1
  if fixedHdrIdx < 2 then .ok (w, ⟨fixedHdrIdx, l.msgRemLen, b⟩, input)
  else if (fixedHdrIdx - 2) * 7 ≥ 32 then .error .shift
  else
    let msgRemLen := addLength l.msgRemLen b fixedHdrIdx
    if b &&& 0x80 ≠ 0 then .ok (w, ⟨fixedHdrIdx, msgRemLen, b⟩, input)
    else if msgRemLen = 0 then do
      let r ← mqttMessageReceived net fixedHdrIdx 0 0 w
      .ok ({ r.1 with client.msgIdx := 0 }, ⟨0, msgRemLen, b⟩, input)
    else .ok (w, ⟨fixedHdrIdx, msgRemLen + UInt32.ofNat fixedHdrIdx - w.client.msgIdx, b⟩, input)

/-- A turn of the loop in the fixed header: a byte that an earlier segment brought, or the
next one of this segment. -/
def headerTurn (net : Net) (w : World) (l : Locals) (input : List UInt8) :
    Except Fault (World × Locals × List UInt8) :=
  if l.fixedHdrIdx < w.client.msgIdx.toNat then
    headerByte net w l (w.client.rxBuffer l.fixedHdrIdx) input
  else headerByte net (w.storeRx (input.headD 0)) l (input.headD 0) input.tail

/-- Where the next bytes of the body go: round and round behind the fixed header. -/
def cpyStart (fixedHdrIdx : ℕ) (msgIdx : UInt32) : ℕ :=
  (msgIdx - UInt32.ofNat fixedHdrIdx).toNat % (mqttVarHeaderBufferLen - fixedHdrIdx) + fixedHdrIdx

/-- The end of a turn behind the fixed header: the message is complete, or the buffer is full,
or there is nothing to do yet. -/
def bodyEnd (net : Net) (w : World) (l : Locals) (full : Bool) (length : ℕ) (msgRemLen : UInt32)
    (input : List UInt8) : Except Fault (World × Locals × List UInt8 × MqttConnectionStatus) :=
  if msgRemLen = 0 ∨ full then do
    let r ← mqttMessageReceived net l.fixedHdrIdx length msgRemLen w
    if r.2 ≠ mqttConnectAccepted then .ok (r.1, ⟨l.fixedHdrIdx, msgRemLen, l.b⟩, input, r.2)
    else if msgRemLen = 0 then
      .ok ({ r.1 with client.msgIdx := 0 }, ⟨0, msgRemLen, l.b⟩, input, r.2)
    else .ok (r.1, ⟨l.fixedHdrIdx, msgRemLen, l.b⟩, input, r.2)
  else .ok (w, ⟨l.fixedHdrIdx, msgRemLen, l.b⟩, input, mqttConnectAccepted)

/-- The bytes of the body that a turn copies. -/
def World.copyRx (w : World) (start : ℕ) (data : List UInt8) : World :=
  { w with
    client.rxBuffer := memcpy w.client.rxBuffer start data
    client.msgIdx := w.client.msgIdx + UInt32.ofNat data.length }

/-- A turn of the loop behind the fixed header. -/
def bodyTurn (net : Net) (w : World) (l : Locals) (input : List UInt8) :
    Except Fault (World × Locals × List UInt8 × MqttConnectionStatus) :=
  let start := cpyStart l.fixedHdrIdx w.client.msgIdx
  let bufferSpace := mqttVarHeaderBufferLen - start
  let cpyLen := min (min input.length l.msgRemLen.toNat) bufferSpace
  bodyEnd net (w.copyRx start (input.take cpyLen)) l (cpyLen = bufferSpace)
    (start + cpyLen - l.fixedHdrIdx) (l.msgRemLen - UInt32.ofNat cpyLen) (input.drop cpyLen)

/-- The loop of `mqtt_parse_incoming`. -/
def parseLoop (net : Net) : ℕ → World → Locals → List UInt8 →
    Except Fault (World × MqttConnectionStatus)
  | _, w, _, [] => .ok (w, mqttConnectAccepted)
  | 0, _, _, _ :: _ => .error .hang
  | n + 1, w, l, input@(_ :: _) =>
    if l.header then do
      let r ← headerTurn net w l input
      parseLoop net n r.1 r.2.1 r.2.2
    else do
      let r ← bodyTurn net w l input
      if r.2.2.2 ≠ mqttConnectAccepted then .ok (r.1, r.2.2.2)
      else parseLoop net n r.1 r.2.1 r.2.2.1

/-- `mqtt_parse_incoming`. A turn takes a byte of `p`, or one of at most six that wait in the
buffer, or it ends the message they are the header of. -/
def mqttParseIncoming (net : Net) (p : List UInt8) (w : World) :
    Except Fault (World × MqttConnectionStatus) :=
  parseLoop net (p.length + 7) w ⟨0, 0, 0⟩ p

/-- A message that was refused closes the connection. -/
def closeRefused (net : Net) (r : World × MqttConnectionStatus) : Except Fault World :=
  if r.2 ≠ mqttConnectAccepted then mqttClose net r.2 r.1 else .ok r.1

/-- The server has given a sign of life. -/
def feedWatchdog (w : World) : World :=
  if w.client.keepAlive ≠ 0 then { w with client.serverWatchdog := 0 } else w

/-- `mqtt_tcp_recv_cb`; there is no `p` once the server has closed the connection. -/
def mqttTcpRecvCb (net : Net) (p : Option (List UInt8)) (err : Err) (w : World) :
    Except Fault World :=
  match p with
  | none => mqttClose net .mqttConnectDisconnected w
  | some p =>
    if err ≠ .ok then .ok w
    else do
      let r ← mqttParseIncoming net p w
      let w ← closeRefused net r
      .ok (feedWatchdog w)

/-- The loop of `mqtt_tcp_sent_cb`: requests with the reserved id are publishes with QoS 0,
which no answer of the server completes. -/
def qos0Loop : ℕ → Requests → Except Fault (Requests × List Answer)
  | 0, _ => .error .hang
  | n + 1, rs => do
    let taken ← rs.mqttTakeRequest 0
    match taken.1 with
    | none => .ok (taken.2, [])
    | some r => do
      let rest ← qos0Loop n (taken.2.mqttDeleteRequest r)
      .ok (rest.1, (taken.2.reqList r).answer .ok ++ rest.2)

/-- `mqtt_tcp_sent_cb`. -/
def mqttTcpSentCb (net : Net) (w : World) : Except Fault World :=
  if w.client.connState = .mqttConnected then do
    let w := { w with client.cyclicTick := 0, client.serverWatchdog := 0 }
    let r ← qos0Loop (mqttReqMaxInFlight + 1) w.client.requests
    (w.answered r.1 r.2).outputSend net
  else .ok w

/-- `mqtt_tcp_err_cb`; the pcb is already gone. -/
def mqttTcpErrCb (net : Net) (w : World) : Except Fault World :=
  mqttClose net .mqttConnectDisconnected { w with client.conn := false }

/-- `mqtt_tcp_poll_cb`. -/
def mqttTcpPollCb (net : Net) (w : World) : Except Fault World :=
  if w.client.connState = .mqttConnected then w.outputSend net else .ok w

/-- `mqtt_tcp_connect_cb`, which also registers the other callbacks and starts the cyclic
timer. -/
def mqttTcpConnectCb (net : Net) (err : Err) (w : World) : Except Fault World :=
  if err ≠ .ok then .ok w
  else
    { w with
      client.msgIdx := 0
      client.connState := .mqttConnecting
      client.cyclicTick := 0
      pcb := .established
      timers := w.timers + 1 }.outputSend net

end Mqtt
