import MqttSnClient.Lib.Bytes
import MqttSnClient.Mqtt.Output
import MqttSnClient.Mqtt.Requests

namespace Mqtt
open Bytes

def mqttVarHeaderBufferLen : ℕ := 128
def mqttCyclicTimerInterval : ℕ := 5
def mqttConnectTimout : ℕ := 100

inductive ConnState
  | tcpDisconnected
  | tcpConnecting
  | mqttConnecting
  | mqttConnected
  deriving DecidableEq

def mqttMsgTypeConnect : UInt8 := 1
def mqttMsgTypeConnack : UInt8 := 2
def mqttMsgTypePublish : UInt8 := 3
def mqttMsgTypePuback : UInt8 := 4
def mqttMsgTypePubrec : UInt8 := 5
def mqttMsgTypePubrel : UInt8 := 6
def mqttMsgTypePubcomp : UInt8 := 7
def mqttMsgTypeSubscribe : UInt8 := 8
def mqttMsgTypeSuback : UInt8 := 9
def mqttMsgTypeUnsubscribe : UInt8 := 10
def mqttMsgTypeUnsuback : UInt8 := 11
def mqttMsgTypePingreq : UInt8 := 12
def mqttMsgTypePingresp : UInt8 := 13

def mqttConnectFlagWillRetain : UInt8 := 0x20
def mqttConnectFlagWill : UInt8 := 0x04
def mqttConnectFlagCleanSession : UInt8 := 0x02

/-- `mqtt_connection_status_t`: a code that the server sends in a CONNACK is stored in it
unchecked, `MQTT_CONNECT_ACCEPTED` being 0. -/
inductive MqttConnectionStatus
  | code (c : UInt8)
  | mqttConnectDisconnected
  | mqttConnectTimeout
  deriving DecidableEq

def mqttConnectAccepted : MqttConnectionStatus := .code 0

/-- `mqtt_client_t`. A callback is set or null; `conn` is null or the pcb of the world. -/
structure MqttClient where
  cyclicTick : UInt16
  keepAlive : UInt16
  serverWatchdog : UInt16
  pktIdSeq : UInt16
  inpubPktId : UInt16
  connState : ConnState
  conn : Bool
  connectArg : ℕ
  connectCb : Bool
  requests : Requests
  inpubArg : ℕ
  dataCb : Bool
  pubCb : Bool
  msgIdx : UInt32
  rxBuffer : ℕ → UInt8
  output : MqttRingbuf

/-- What `memset` leaves. -/
def MqttClient.zero : MqttClient where
  cyclicTick := 0
  keepAlive := 0
  serverWatchdog := 0
  pktIdSeq := 0
  inpubPktId := 0
  connState := .tcpDisconnected
  conn := false
  connectArg := 0
  connectCb := false
  requests := ⟨none, fun _ => ⟨none, none, 0, 0, 0⟩⟩
  inpubArg := 0
  dataCb := false
  pubCb := false
  msgIdx := 0
  rxBuffer := fun _ => 0
  output := ⟨0, 0, fun _ => 0⟩

/-- What the application sees: its callbacks and the results of its calls. -/
inductive Upcall
  | connection (status : MqttConnectionStatus)
  | publish (arg : ℕ) (topic : List UInt8) (totLen : UInt32)
  | data (arg : ℕ) (data : List UInt8) (flags : UInt8)
  | request (answer : Answer)
  | connectReturned (err : Err)
  | requestReturned (cb : Option RequestCb) (arg : ℕ) (err : Err)
  deriving DecidableEq

/-- The pcb, by the callbacks that TCP may still call on it. -/
inductive Pcb
  | closed
  | connecting
  | established
  deriving DecidableEq

/-- What `tcp_new`, `tcp_bind` and `tcp_connect` answer. -/
structure DialAnswer where
  tcpNew : Bool
  tcpBind : Err
  tcpConnect : Err

/-- The answers of TCP, call by call. -/
structure Net where
  send : ℕ → SendAnswer
  dial : ℕ → DialAnswer

/-- The client, the cyclic timers that are due, its pcb, the bytes that TCP took on this
pcb, and what the application saw. -/
structure World where
  client : MqttClient
  timers : ℕ
  pcb : Pcb
  wire : List UInt8
  log : List Upcall
  sends : ℕ
  dials : ℕ

/-- `mqtt_connect_client_info_t`. Nothing reads its user name and password. -/
structure ConnectInfo where
  clientId : CString
  keepAlive : UInt16
  willTopic : Option CString
  willMsg : Option CString
  willQos : UInt8
  willRetain : UInt8

namespace World

def tell (w : World) (u : Upcall) : World := { w with log := w.log ++ [u] }

def withOutput (w : World) (f : MqttRingbuf → MqttRingbuf) : World :=
  { w with client.output := f w.client.output }

def withRequests (w : World) (rs : Requests) : World := { w with client.requests := rs }

/-- The queue of requests as it is left, and the callbacks called on the way. -/
def answered (w : World) (rs : Requests) (answers : List Answer) : World :=
  { w.withRequests rs with log := w.log ++ answers.map Upcall.request }

/-- `mqtt_output_send(&client->output, client->conn)`. -/
def outputSend (net : Net) (w : World) : Except Fault World :=
  if !w.client.conn then .error .nullPcb else
  let (rb, taken) := mqttOutputSend (net.send w.sends) w.client.output
  .ok { w with client.output := rb, wire := w.wire ++ taken, sends := w.sends + 1 }

end World

/-- `msg_generate_packet_id`. -/
def msgGeneratePacketId (seq : UInt16) : UInt16 := if seq + 1 = 0 then seq + 1 + 1 else seq + 1

/-- The second half of `mqtt_publish` and `mqtt_sub_unsub`: a request object, the check of the
space, the message, and the request at the end of the queue. -/
def sendRequest (net : Net) (pktId : UInt16) (cb : Option RequestCb) (arg : ℕ)
    (remainingLength : UInt16) (append : Except Fault (MqttRingbuf → MqttRingbuf)) (w : World) :
    Except Fault (World × Err) :=
  match w.client.requests.mqttCreateRequest pktId cb arg with
  | none => .ok (w, .mem)
  | some (r, rs) =>
    if !mqttOutputCheckSpace w.client.output remainingLength then
      .ok (w.withRequests (rs.mqttDeleteRequest r), .mem)
    else do
      let f ← append
      let rs ← rs.mqttAppendRequest r
      let w ← ((w.withOutput f).withRequests rs).outputSend net
      .ok (w, .ok)

/-- What `mqtt_publish` copies from the payload. One that is shorter than `payload_length`
would be read past its end. -/
def payloadBytes (payload : Option (List UInt8)) (payloadLength : UInt16) :
    Except Fault (List UInt8) :=
  match payload with
  | none => .ok []
  | some payload =>
    if payload.length < payloadLength.toNat then .error .overread
    else .ok (payload.take payloadLength.toNat)

def appendPublish (topic : CString) (qos retain : UInt8) (pktId remainingLength : UInt16)
    (data : List UInt8) (rb : MqttRingbuf) : MqttRingbuf :=
  let rb := mqttOutputAppendFixedHeader mqttMsgTypePublish 0 qos retain remainingLength rb
  let rb := mqttOutputAppendString topic.bytes (UInt16.ofNat topic.strlen) rb
  let rb := if qos > 0 then mqttOutputAppendU16 pktId rb else rb
  mqttOutputAppendBuf data rb

/-- `mqtt_publish`. -/
def mqttPublish (net : Net) (topic : CString) (payload : Option (List UInt8))
    (payloadLength : UInt16) (qos retain : UInt8) (cb : Option RequestCb) (arg : ℕ)
    (w : World) : Except Fault (World × Err) :=
  if w.client.connState = .tcpDisconnected then .ok (w, .conn)
  else if topic.strlen > 0xFFFF - 2 then .ok (w, .arg)
  else
    let totalLen := 2 + topic.strlen + payloadLength.toNat
    if totalLen > 0xFFFF then .ok (w, .arg)
    else
      let remainingLength := UInt16.ofNat totalLen + (if qos > 0 then 2 else 0)
      let pktId := if qos > 0 then msgGeneratePacketId w.client.pktIdSeq else 0
      let w := if qos > 0 then { w with client.pktIdSeq := pktId } else w
      sendRequest net pktId cb arg remainingLength
        (appendPublish topic qos retain pktId remainingLength <$>
          payloadBytes payload payloadLength) w

/-- The SUBSCRIBE or UNSUBSCRIBE message, appended piece by piece. -/
def appendSubUnsub (topic : CString) (qos : UInt8) (sub : Bool) (pktId remainingLength : UInt16)
    (rb : MqttRingbuf) : MqttRingbuf :=
  let msgType := if sub then mqttMsgTypeSubscribe else mqttMsgTypeUnsubscribe
  let rb := mqttOutputAppendFixedHeader msgType 0 1 0 remainingLength rb
  let rb := mqttOutputAppendU16 pktId rb
  let rb := mqttOutputAppendString topic.bytes (UInt16.ofNat topic.strlen) rb
  if sub then mqttOutputAppendU8 (min qos 2) rb else rb

/-- `total_len` of `mqtt_sub_unsub`: the topic, the packet id, and the quality of service of a
subscription. -/
def subUnsubLen (topic : CString) (sub : Bool) : ℕ :=
  topic.strlen + 2 + 2 + (if sub then 1 else 0)

/-- `mqtt_sub_unsub`. -/
def mqttSubUnsub (net : Net) (topic : CString) (qos : UInt8) (cb : Option RequestCb) (arg : ℕ)
    (sub : Bool) (w : World) : Except Fault (World × Err) :=
  if topic.strlen > 0xFFFF - 2 then .ok (w, .arg)
  else if subUnsubLen topic sub > 0xFFFF then .ok (w, .arg)
  else if w.client.connState = .tcpDisconnected then .ok (w, .conn)
  else
    let remainingLength := UInt16.ofNat (subUnsubLen topic sub)
    let pktId := msgGeneratePacketId w.client.pktIdSeq
    sendRequest net pktId cb arg remainingLength
      (.ok (appendSubUnsub topic qos sub pktId remainingLength))
      { w with client.pktIdSeq := pktId }

/-- `mqtt_set_inpub_callback`. -/
def mqttSetInpubCallback (pubCb dataCb : Bool) (arg : ℕ) (w : World) : World :=
  { w with client.dataCb := dataCb, client.pubCb := pubCb, client.inpubArg := arg }

/-- "MQTT", the protocol name. -/
def protocolName : List UInt8 := [0x4D, 0x51, 0x54, 0x54]

/-- The will that `mqtt_client_connect` sends: it needs a topic and a message. -/
def ConnectInfo.will (info : ConnectInfo) : Option (CString × CString) :=
  match info.willTopic, info.willMsg with
  | some topic, some msg => some (topic, msg)
  | _, _ => none

def ConnectInfo.flags (info : ConnectInfo) : UInt8 :=
  (match info.will with
    | some _ => mqttConnectFlagWill ||| ((info.willQos &&& 3) <<< 3) |||
        (if info.willRetain ≠ 0 then mqttConnectFlagWillRetain else 0)
    | none => 0) ||| mqttConnectFlagCleanSession

/-- The client that `mqtt_client_connect` wipes and sets up again. -/
def wiped (cb : Bool) (arg : ℕ) (info : ConnectInfo) : MqttClient :=
  { MqttClient.zero with
    connectArg := arg
    connectCb := cb
    keepAlive := info.keepAlive
    requests := MqttClient.zero.requests.mqttInitRequests }

/-- The will at the end of a CONNECT. -/
def appendWill (will : Option (CString × CString)) (rb : MqttRingbuf) : MqttRingbuf :=
  match will with
  | some (topic, msg) =>
    mqttOutputAppendString msg.bytes (UInt16.ofNat msg.strlen)
      (mqttOutputAppendString topic.bytes (UInt16.ofNat topic.strlen) rb)
  | none => rb

def appendConnect (info : ConnectInfo) (remainingLength : UInt16) (rb : MqttRingbuf) :
    MqttRingbuf :=
  let rb := mqttOutputAppendFixedHeader mqttMsgTypeConnect 0 0 0 remainingLength rb
  let rb := mqttOutputAppendString protocolName 4 rb
  let rb := mqttOutputAppendU8 4 rb
  let rb := mqttOutputAppendU8 info.flags rb
  let rb := mqttOutputAppendU16 info.keepAlive rb
  let rb := mqttOutputAppendString info.clientId.bytes (UInt16.ofNat info.clientId.strlen) rb
  appendWill info.will rb

/-- The lengths that `mqtt_client_connect` checks, one after the other; `none` where it
returns `ERR_VAL`. -/
def ConnectInfo.remainingLength (info : ConnectInfo) : Option UInt16 := do
  let remainingLength ← match info.will with
    | none => some 10
    | some (topic, msg) =>
      if topic.strlen > 0xFF then none
      else if topic.strlen = 0 then none
      else if msg.strlen > 0xFF then none
      else if 10 + 2 + topic.strlen + 2 + msg.strlen > 0xFFFF then none
      else some (10 + 2 + topic.strlen + 2 + msg.strlen)
  if info.clientId.strlen > 0xFFFF then none
  else if remainingLength + 2 + info.clientId.strlen > 0xFFFF then none
  else some (UInt16.ofNat (remainingLength + 2 + info.clientId.strlen))

/-- `mqtt_client_connect`. -/
def mqttClientConnect (net : Net) (cb : Bool) (arg : ℕ) (info : ConnectInfo) (w : World) :
    World × Err :=
  if w.client.connState ≠ .tcpDisconnected then (w, .isconn) else
  let w := { w with client := wiped cb arg info }
  match info.remainingLength with
  | none => (w, .val)
  | some remainingLength =>
    if !mqttOutputCheckSpace w.client.output remainingLength then (w, .mem) else
    let tcp := net.dial w.dials
    let w := { w with dials := w.dials + 1 }
    if !tcp.tcpNew then (w, .mem)
    else if tcp.tcpBind ≠ .ok then (w, tcp.tcpBind)
    else if tcp.tcpConnect ≠ .ok then (w, tcp.tcpConnect)
    else
      ({ w with
          client.conn := true
          client.connState := .tcpConnecting
          client.output := appendConnect info remainingLength w.client.output
          pcb := .connecting
          wire := [] }, .ok)

theorem lwip_test_nonul : 0 ∉ "lwip_test".toList.map fun c => UInt8.ofNat c.toNat := by decide

theorem print_payload_nonul :
    0 ∉ "print_payload".toList.map fun c => UInt8.ofNat c.toNat := by decide

/-- The client id of `example_do_connect`. -/
def clientId : CString := .ofChars "lwip_test".toList lwip_test_nonul

def printPayload : CString := .ofChars "print_payload".toList print_payload_nonul

/-- The connection options of `example_do_connect`. -/
def exampleInfo : ConnectInfo := ⟨clientId, 60, none, none, 0, 0⟩

/-- `mqtt_client_connect` with its result reported. -/
def connectCall (net : Net) (cb : Bool) (arg : ℕ) (info : ConnectInfo) (w : World) : World :=
  let r := mqttClientConnect net cb arg info w
  r.1.tell (.connectReturned r.2)

/-- `mqtt_sub_unsub` with its result reported. -/
def subUnsubCall (net : Net) (topic : CString) (qos : UInt8) (cb : Option RequestCb) (arg : ℕ)
    (sub : Bool) (w : World) : Except Fault World := do
  let r ← mqttSubUnsub net topic qos cb arg sub w
  .ok (r.1.tell (.requestReturned cb arg r.2))

/-- `mqtt_publish` with its result reported. -/
def publishCall (net : Net) (topic : CString) (payload : Option (List UInt8))
    (payloadLength : UInt16) (qos retain : UInt8) (cb : Option RequestCb) (arg : ℕ)
    (w : World) : Except Fault World := do
  let r ← mqttPublish net topic payload payloadLength qos retain cb arg w
  .ok (r.1.tell (.requestReturned cb arg r.2))

/-- `example_do_connect`. -/
def exampleDoConnect (net : Net) (w : World) : World := connectCall net true 0 exampleInfo w

/-- `mqtt_connection_cb`: subscribe once the server accepts, connect again otherwise. -/
def mqttConnectionCb (net : Net) (status : MqttConnectionStatus) (w : World) :
    Except Fault World :=
  let w := w.tell (.connection status)
  if status = mqttConnectAccepted then
    let w := mqttSetInpubCallback true true w.client.connectArg w
    subUnsubCall net printPayload 1 (some .mqttSubRequestCb) w.client.connectArg true w
  else .ok (exampleDoConnect net w)

/-- The first lines of `mqtt_close`, which take the receive, error and sent callbacks off the pcb.
The poll callback stays as long as `tcp_close` keeps the pcb, to no effect: it only offers a
connected client's output ring to `tcp_write`, which fails on a closing pcb. -/
def closeTcp (w : World) : World :=
  if w.client.conn then { w with client.conn := false, pcb := .closed } else w

/-- The end of `mqtt_close`: the upper layer is told if the state changes. -/
def notifyClosed (net : Net) (reason : MqttConnectionStatus) (w : World) : Except Fault World :=
  if w.client.connState = .tcpDisconnected then .ok w
  else
    let w := { w with client.connState := .tcpDisconnected }
    if w.client.connectCb then mqttConnectionCb net reason w else .ok w

/-- `mqtt_close`. -/
def mqttClose (net : Net) (reason : MqttConnectionStatus) (w : World) : Except Fault World := do
  let rs ← w.client.requests.mqttClearRequests
  notifyClosed net reason { (closeTcp w).withRequests rs with timers := w.timers - 1 }

/-- `mqtt_disconnect`. -/
def mqttDisconnect (net : Net) (w : World) : Except Fault World :=
  if w.client.connState = .tcpDisconnected then .ok w
  else mqttClose net (.code 0) { w with client.connState := .tcpDisconnected }

/-- The server has been silent for one and a half keep-alive times. -/
def serverLate (c : MqttClient) : Bool :=
  c.serverWatchdog.toNat * mqttCyclicTimerInterval > c.keepAlive.toNat + c.keepAlive.toNat / 2

/-- The end of the keep-alive part of the timer: ask the server for a sign of life once
nothing was sent for the keep-alive time. -/
def pingTurn (w : World) : World :=
  if w.client.cyclicTick.toNat * mqttCyclicTimerInterval ≥ w.client.keepAlive.toNat then
    if mqttOutputCheckSpace w.client.output 0 then
      { w.withOutput (mqttOutputAppendFixedHeader mqttMsgTypePingreq 0 0 0 0) with
        client.cyclicTick := 0 }
    else w
  else { w with client.cyclicTick := w.client.cyclicTick + 1 }

/-- The keep-alive part of the timer, run when `keep_alive` is not zero, and whether the
timer starts again. Its end also runs when the connection was just closed. -/
def keepAliveTurn (net : Net) (w : World) : Except Fault (World × Bool) :=
  let w := { w with client.serverWatchdog := w.client.serverWatchdog + 1 }
  if serverLate w.client then do
    let w ← mqttClose net .mqttConnectTimeout w
    .ok (pingTurn w, false)
  else .ok (pingTurn w, true)

/-- The timer in the state `MQTT_CONNECTING`. -/
def connectingTurn (net : Net) (w : World) : Except Fault (World × Bool) :=
  let w := { w with client.cyclicTick := w.client.cyclicTick + 1 }
  if w.client.cyclicTick.toNat * mqttCyclicTimerInterval ≥ mqttConnectTimout then do
    let w ← mqttClose net .mqttConnectTimeout w
    .ok (w, false)
  else .ok (w, true)

/-- The timer in the state `MQTT_CONNECTED`. -/
def connectedTurn (net : Net) (w : World) : Except Fault (World × Bool) := do
  let r ← w.client.requests.mqttRequestTimeElapsed (UInt8.ofNat mqttCyclicTimerInterval)
  let w := w.answered r.1 r.2
  if w.client.keepAlive > 0 then keepAliveTurn net w else .ok (w, true)

/-- What `mqtt_cyclic_timer` does in each state, and whether it restarts. -/
def timerTurn (net : Net) (w : World) : Except Fault (World × Bool) :=
  match w.client.connState with
  | .mqttConnecting => connectingTurn net w
  | .mqttConnected => connectedTurn net w
  | .tcpDisconnected | .tcpConnecting => .ok (w, false)

/-- `mqtt_cyclic_timer`, called for a timer that is no longer in the list. -/
def mqttCyclicTimer (net : Net) (w : World) : Except Fault World := do
  let r ← timerTurn net w
  .ok (if r.2 then { r.1 with timers := r.1.timers + 1 } else r.1)

end Mqtt
