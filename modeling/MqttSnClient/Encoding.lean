import MqttSnClient.Sound

namespace MqttSnClient
open Memory Bytes

/-- The bits of the flags that hold the topic type. -/
def topicTypeMask : UInt8 := 0x03

/-- What a datagram says, field by field. The fields that follow the header fill the
datagram up to its length. -/
inductive Message
  | connect (flags protocolId : UInt8) (duration : UInt16) (clientId : List UInt8)
  | register (topicId messageId : UInt16) (topicName : List UInt8)
  | publish (dup : Bool) (qos : Int8) (retain : Bool) (topicType : UInt8)
      (topicId messageId : UInt16) (data : List UInt8)
  | subscribeName (dup : Bool) (qos : Int8) (messageId : UInt16) (topicName : List UInt8)
  | subscribeId (dup : Bool) (qos : Int8) (messageId topicId : UInt16)
  | unsubscribeName (messageId : UInt16) (topicName : List UInt8)
  | unsubscribeId (messageId topicId : UInt16)
  deriving DecidableEq

def qosOf (flags : UInt8) : Int8 :=
  if flags &&& mqttSnFlagQosMask = mqttSnFlagQos0 then 0
  else if flags &&& mqttSnFlagQosMask = mqttSnFlagQos1 then 1
  else if flags &&& mqttSnFlagQosMask = mqttSnFlagQos2 then 2
  else -1

def dupOf (flags : UInt8) : Bool := flags &&& mqttSnFlagDup ≠ 0
def retainOf (flags : UInt8) : Bool := flags &&& mqttSnFlagRetain ≠ 0
def topicTypeOf (flags : UInt8) : UInt8 := flags &&& topicTypeMask

/-- `subscribe_packet_t` read back; the topic type says which member of the union it holds. -/
def decodeSubscribe (name : Bool → Int8 → UInt16 → List UInt8 → Message)
    (id : Bool → Int8 → UInt16 → UInt16 → Message) (d : List UInt8) : Message :=
  let b := asArray d
  if topicTypeOf (b 2) = mqttSnTopicTypePredefined then
    id (dupOf (b 2)) (qosOf (b 2)) (u16At b 3) (u16At b 5)
  else name (dupOf (b 2)) (qosOf (b 2)) (u16At b 3) (d.drop 5)

/-- The fields of a datagram at their offsets in the struct of its type. -/
def decode (d : List UInt8) : Option Message :=
  let b := asArray d
  if b 1 = mqttSnTypeConnect then some (.connect (b 2) (b 3) (u16At b 4) (d.drop 6))
  else if b 1 = mqttSnTypeRegister then some (.register (u16At b 2) (u16At b 4) (d.drop 6))
  else if b 1 = mqttSnTypePublish then
    some (.publish (dupOf (b 2)) (qosOf (b 2)) (retainOf (b 2)) (topicTypeOf (b 2)) (u16At b 3)
      (u16At b 5) (d.drop 7))
  else if b 1 = mqttSnTypeSubscribe then some (decodeSubscribe .subscribeName .subscribeId d)
  else if b 1 = mqttSnTypeUnsubscribe then
    some (decodeSubscribe (fun _ _ => .unsubscribeName) (fun _ _ => .unsubscribeId) d)
  else none

/-- What a call asks to be sent, where `pktId` is the next message id. -/
def AppCall.message (pktId : UInt16) : AppCall → Option Message
  | .sendConnect clientId keepalive flags =>
    some (.connect flags mqttSnProtocolId keepalive clientId.bytes)
  | .sendRegister topicName => some (.register 0 pktId topicName.bytes)
  | .sendPublish topicId topicType data dataLen qos retain dup =>
    some (.publish (dup ≠ 0) qos (retain ≠ 0) topicType topicId pktId
      (slice data 0 dataLen.toNat))
  | .sendSubscribeTopicName topicName qos dup =>
    some (.subscribeName (dup ≠ 0) qos pktId topicName.bytes)
  | .sendSubscribeTopicId topicId qos dup => some (.subscribeId (dup ≠ 0) qos pktId topicId)
  | .sendUnsubscribeTopicName topicName => some (.unsubscribeName pktId topicName.bytes)
  | .sendUnsubscribeTopicId topicId => some (.unsubscribeId pktId topicId)
  | _ => none

def AppCall.carriesId : AppCall → Bool
  | .sendRegister _ | .sendPublish _ _ _ _ _ _ _ | .sendSubscribeTopicName _ _ _
  | .sendSubscribeTopicId _ _ _ | .sendUnsubscribeTopicName _ | .sendUnsubscribeTopicId _ => true
  | _ => false

def qosLevels : List Int8 := [-1, 0, 1, 2]

/-- The arguments that the encoders are written for. -/
def AppCall.Encodable : AppCall → Prop
  | .sendConnect clientId _ _ => clientId.strlen ≤ mqttSnMaxClientIdLength
  | .sendRegister topicName => topicName.strlen ≤ mqttSnMaxTopicLength
  | .sendPublish _ topicType _ dataLen qos _ _ => dataLen.toNat ≤ mqttSnMaxPayloadLength ∧
      topicType ∈ [0, 1, 2] ∧ qos ∈ qosLevels
  | .sendSubscribeTopicName topicName qos _ =>
    topicName.strlen ≤ mqttSnMaxTopicLength ∧ qos ∈ qosLevels
  | .sendSubscribeTopicId _ qos _ => qos ∈ qosLevels
  | .sendUnsubscribeTopicName topicName => topicName.strlen ≤ mqttSnMaxTopicLength
  | .sendUnsubscribeTopicId _ => True
  | _ => False

/-- The call has handed one datagram to the socket: its first byte is its size, it decodes to
what was asked for, and it has used one message id if it carries one. -/
structure Encodes (call : AppCall) (w w' : World) (d : List UInt8) : Prop where
  sent : ∃ pk : Packet, w'.sent = w.sent ++ [pk] ∧ pk.data = d
  size : d.head?.map UInt8.toNat = some d.length
  faithful : decode d = call.message w.client.pktId
  advances : call.carriesId = true → w'.client.pktId = w.client.pktId + 1

/-- The overlapping bit fields of the flags are read back one by one. -/
theorem flags_decode : ∀ qos ∈ qosLevels, ∀ topicType ∈ ([0, 1, 2] : List UInt8),
    ∀ retain dup : Bool,
    let flags := qosFlags qos ||| (if retain then mqttSnFlagRetain else 0) |||
      (if dup then mqttSnFlagDup else 0) ||| topicType
    qosOf flags = qos ∧ dupOf flags = dup ∧ retainOf flags = retain ∧
      topicTypeOf flags = topicType := by
  decide +kernel

theorem publishFlags_decode (topicType : UInt8) {qos : Int8} (retain dup : UInt8)
    (ht : topicType ∈ ([0, 1, 2] : List UInt8)) (hq : qos ∈ qosLevels) :
    qosOf (publishFlags topicType qos retain dup) = qos ∧
      dupOf (publishFlags topicType qos retain dup) = decide (dup ≠ 0) ∧
      retainOf (publishFlags topicType qos retain dup) = decide (retain ≠ 0) ∧
      topicTypeOf (publishFlags topicType qos retain dup) = topicType := by
  have h := flags_decode qos hq topicType ht (decide (retain ≠ 0)) (decide (dup ≠ 0))
  simpa [publishFlags, dupFlag] using h

/-- SUBSCRIBE has no retain bit and puts the topic type first. -/
theorem subscribeFlags_decode (topicType : UInt8) {qos : Int8} (dup : UInt8)
    (ht : topicType ∈ ([0, 1, 2] : List UInt8)) (hq : qos ∈ qosLevels) :
    qosOf (topicType ||| qosFlags qos ||| dupFlag dup) = qos ∧
      dupOf (topicType ||| qosFlags qos ||| dupFlag dup) = decide (dup ≠ 0) ∧
      topicTypeOf (topicType ||| qosFlags qos ||| dupFlag dup) = topicType := by
  have hflags : topicType ||| qosFlags qos ||| dupFlag dup = publishFlags topicType qos 0 dup := by
    simp only [publishFlags]
    rw [UInt8.or_comm topicType, UInt8.or_assoc, UInt8.or_comm topicType, ← UInt8.or_assoc]
    simp
  obtain ⟨hqos, hdup, -, htype⟩ := publishFlags_decode topicType 0 dup ht hq
  rw [hflags]
  exact ⟨hqos, hdup, htype⟩

theorem head_size (n : ℕ) (rest : List UInt8) (hn : n = rest.length + 1) (hmax : n ≤ 255) :
    (UInt8.ofNat n :: rest).head?.map UInt8.toNat = some (UInt8.ofNat n :: rest).length := by
  simp only [List.head?_cons, Option.map_some, List.length_cons, UInt8.toNat_ofNat']
  congr 1
  omega

theorem connectMsg_size {clientId : CString} (h : clientId.strlen ≤ mqttSnMaxClientIdLength)
    (keepalive : UInt16) (flags : UInt8) :
    (connectMsg clientId keepalive flags).head?.map UInt8.toNat =
      some (connectMsg clientId keepalive flags).length := by
  unfold mqttSnMaxClientIdLength at h
  apply head_size
  · simp [CString.strlen]
    omega
  · omega

theorem registerMsg_size (messageId : UInt16) {topicName : CString}
    (h : topicName.strlen ≤ mqttSnMaxTopicLength) :
    (registerMsg messageId topicName).head?.map UInt8.toNat =
      some (registerMsg messageId topicName).length := by
  unfold mqttSnMaxTopicLength at h
  apply head_size
  · simp [CString.strlen]
    omega
  · omega

theorem publishMsg_size (flags : UInt8) (topicId messageId : UInt16) {data : List UInt8}
    (h : data.length ≤ mqttSnMaxPayloadLength) :
    (publishMsg flags topicId messageId data).head?.map UInt8.toNat =
      some (publishMsg flags topicId messageId data).length := by
  unfold mqttSnMaxPayloadLength mqttSnMaxPacketLength at h
  apply head_size
  · simp
    omega
  · omega

theorem subscribeMsg_size (type flags : UInt8) (messageId : UInt16) {topic : List UInt8}
    (h : topic.length ≤ mqttSnMaxTopicLength) :
    (subscribeMsg type flags messageId topic).head?.map UInt8.toNat =
      some (subscribeMsg type flags messageId topic).length := by
  unfold mqttSnMaxTopicLength at h
  apply head_size
  · simp
    omega
  · omega

/-- The fields of a datagram stand where the struct has them. -/
theorem connectMsg_decode (clientId : CString) (keepalive : UInt16) (flags : UInt8) :
    decode (connectMsg clientId keepalive flags) =
      some (.connect flags mqttSnProtocolId keepalive clientId.bytes) := by
  have hduration : u16At (asArray (connectMsg clientId keepalive flags)) 4 = keepalive :=
    u16At_le16 _ _ _ rfl rfl
  dsimp only [decode]
  rw [if_pos (by rfl), hduration]
  rfl

theorem registerMsg_decode (messageId : UInt16) (topicName : CString) :
    decode (registerMsg messageId topicName) =
      some (.register 0 messageId topicName.bytes) := by
  have htype : asArray (registerMsg messageId topicName) 1 = mqttSnTypeRegister := rfl
  have htopic : u16At (asArray (registerMsg messageId topicName)) 2 = 0 :=
    u16At_le16 _ _ _ rfl rfl
  have hid : u16At (asArray (registerMsg messageId topicName)) 4 = messageId :=
    u16At_le16 _ _ _ rfl rfl
  dsimp only [decode]
  rw [htype, if_neg (by decide), if_pos rfl, htopic, hid]
  rfl

theorem publishMsg_decode (flags : UInt8) (topicId messageId : UInt16) (data : List UInt8) :
    decode (publishMsg flags topicId messageId data) =
      some (.publish (dupOf flags) (qosOf flags) (retainOf flags) (topicTypeOf flags) topicId
        messageId data) := by
  have htype : asArray (publishMsg flags topicId messageId data) 1 = mqttSnTypePublish := rfl
  have htopic : u16At (asArray (publishMsg flags topicId messageId data)) 3 = topicId :=
    u16At_le16 _ _ _ rfl rfl
  have hid : u16At (asArray (publishMsg flags topicId messageId data)) 5 = messageId :=
    u16At_le16 _ _ _ rfl rfl
  dsimp only [decode]
  rw [htype, if_neg (by decide), if_neg (by decide), if_pos rfl, htopic, hid]
  rfl

/-- Which member the union is read through follows from the topic type. -/
theorem decodeSubscribe_name (name : Bool → Int8 → UInt16 → List UInt8 → Message)
    (id : Bool → Int8 → UInt16 → UInt16 → Message) (type : UInt8) {flags : UInt8}
    (messageId : UInt16) (topic : List UInt8)
    (hflags : topicTypeOf flags = mqttSnTopicTypeNormal) :
    decodeSubscribe name id (subscribeMsg type flags messageId topic) =
      name (dupOf flags) (qosOf flags) messageId topic := by
  have hat : asArray (subscribeMsg type flags messageId topic) 2 = flags := rfl
  have hid : u16At (asArray (subscribeMsg type flags messageId topic)) 3 = messageId :=
    u16At_le16 _ _ _ rfl rfl
  dsimp only [decodeSubscribe]
  rw [hat, hflags, if_neg (by decide), hid]
  rfl

theorem decodeSubscribe_id (name : Bool → Int8 → UInt16 → List UInt8 → Message)
    (id : Bool → Int8 → UInt16 → UInt16 → Message) (type : UInt8) {flags : UInt8}
    (messageId topicId : UInt16) (hflags : topicTypeOf flags = mqttSnTopicTypePredefined) :
    decodeSubscribe name id (subscribeMsg type flags messageId (le16 topicId)) =
      id (dupOf flags) (qosOf flags) messageId topicId := by
  have hat : asArray (subscribeMsg type flags messageId (le16 topicId)) 2 = flags := rfl
  have hid : u16At (asArray (subscribeMsg type flags messageId (le16 topicId))) 3 = messageId :=
    u16At_le16 _ _ _ rfl rfl
  have htopic : u16At (asArray (subscribeMsg type flags messageId (le16 topicId))) 5 = topicId :=
    u16At_le16 _ _ _ rfl rfl
  dsimp only [decodeSubscribe]
  rw [hat, if_pos hflags, hid, htopic]

theorem subscribeMsg_decode (flags : UInt8) (messageId : UInt16) (topic : List UInt8) :
    decode (subscribeMsg mqttSnTypeSubscribe flags messageId topic) =
        some (decodeSubscribe .subscribeName .subscribeId
          (subscribeMsg mqttSnTypeSubscribe flags messageId topic)) ∧
      decode (subscribeMsg mqttSnTypeUnsubscribe flags messageId topic) =
        some (decodeSubscribe (fun _ _ => .unsubscribeName) (fun _ _ => .unsubscribeId)
          (subscribeMsg mqttSnTypeUnsubscribe flags messageId topic)) := by
  have htype (type : UInt8) : asArray (subscribeMsg type flags messageId topic) 1 = type := rfl
  constructor
  · dsimp only [decode]
    rw [htype, if_neg (by decide), if_neg (by decide), if_neg (by decide), if_pos rfl]
  · dsimp only [decode]
    rw [htype, if_neg (by decide), if_neg (by decide), if_neg (by decide), if_neg (by decide),
      if_pos rfl]

/-- A call that the encoders are written for hands over its datagram and advances the id. -/
theorem encodes_of_encodable (env : Env) {call : AppCall} (h : call.Encodable) (w : World) :
    ∃ w' d, runAppCall env call w = .ok w' ∧ Encodes call w w' d := by
  cases call with
  | sendConnect clientId keepalive flags =>
    exact ⟨_, connectMsg clientId keepalive flags, if_neg (Nat.not_lt.mpr h), ⟨_, rfl, rfl⟩,
      connectMsg_size h keepalive flags, connectMsg_decode clientId keepalive flags, nofun⟩
  | sendRegister topicName =>
    exact ⟨_, registerMsg w.client.pktId topicName, if_neg (Nat.not_lt.mpr h), ⟨_, rfl, rfl⟩,
      registerMsg_size _ h, registerMsg_decode _ topicName, fun _ => rfl⟩
  | sendPublish topicId topicType data dataLen qos retain dup =>
    obtain ⟨hlen, htype, hq⟩ := h
    obtain ⟨hqos, hdup, hretain, htopic⟩ := publishFlags_decode topicType retain dup htype hq
    obtain ⟨w', hrun, hsent, hid⟩ : ∃ w', mqttSnSendPublish env topicId topicType (.app data)
        dataLen qos retain dup w = .ok w' ∧
        w'.sent = w.sent ++ [⟨w.remoteIp, w.remotePort, publishMsg
          (publishFlags topicType qos retain dup) topicId w.client.pktId
          (slice data 0 dataLen.toNat)⟩] ∧ w'.client.pktId = w.client.pktId + 1 := by
      unfold mqttSnSendPublish
      rw [if_neg (Nat.not_lt.mpr hlen)]
      split_ifs
      · exact ⟨_, rfl, rfl, rfl⟩
      · exact ⟨_, rfl, rfl, rfl⟩
    refine ⟨w', _, hrun, ⟨_, hsent, rfl⟩, publishMsg_size _ _ _ (by simpa using hlen), ?_,
      fun _ => hid⟩
    rw [publishMsg_decode, hqos, hdup, hretain, htopic]
    rfl
  | sendSubscribeTopicName topicName qos dup =>
    obtain ⟨hlen, hq⟩ := h
    obtain ⟨hqos, hdup, htopic⟩ :=
      subscribeFlags_decode mqttSnTopicTypeNormal dup (by decide) hq
    obtain ⟨w', hrun, hsent, hid⟩ : ∃ w',
        mqttSnSendSubscribeTopicName env topicName qos dup w = .ok w' ∧
        w'.sent = w.sent ++ [⟨w.remoteIp, w.remotePort, subscribeMsg mqttSnTypeSubscribe
          (mqttSnTopicTypeNormal ||| qosFlags qos ||| dupFlag dup) w.client.pktId
          topicName.bytes⟩] ∧ w'.client.pktId = w.client.pktId + 1 := by
      unfold mqttSnSendSubscribeTopicName
      rw [if_neg (Nat.not_lt.mpr hlen)]
      split_ifs
      · exact ⟨_, rfl, rfl, rfl⟩
      · exact ⟨_, rfl, rfl, rfl⟩
    refine ⟨w', _, hrun, ⟨_, hsent, rfl⟩, subscribeMsg_size _ _ _ hlen, ?_, fun _ => hid⟩
    rw [(subscribeMsg_decode _ _ _).1, decodeSubscribe_name _ _ _ _ _ htopic, hqos, hdup]
    rfl
  | sendSubscribeTopicId topicId qos dup =>
    obtain ⟨hqos, hdup, htopic⟩ :=
      subscribeFlags_decode mqttSnTopicTypePredefined dup (by decide) h
    obtain ⟨hsent, hid⟩ : (mqttSnSendSubscribeTopicId env topicId qos dup w).sent =
        w.sent ++ [⟨w.remoteIp, w.remotePort, subscribeMsg mqttSnTypeSubscribe
          (mqttSnTopicTypePredefined ||| qosFlags qos ||| dupFlag dup) w.client.pktId
          (le16 topicId)⟩] ∧
        (mqttSnSendSubscribeTopicId env topicId qos dup w).client.pktId =
          w.client.pktId + 1 := by
      unfold mqttSnSendSubscribeTopicId
      split_ifs
      · exact ⟨rfl, rfl⟩
      · exact ⟨rfl, rfl⟩
    refine ⟨_, _, rfl, ⟨_, hsent, rfl⟩, subscribeMsg_size _ _ _ (by simp [mqttSnMaxTopicLength]),
      ?_, fun _ => hid⟩
    rw [(subscribeMsg_decode _ _ _).1, decodeSubscribe_id _ _ _ _ _ htopic, hqos, hdup]
    rfl
  | sendUnsubscribeTopicName topicName =>
    refine ⟨_, subscribeMsg mqttSnTypeUnsubscribe mqttSnTopicTypeNormal w.client.pktId
      topicName.bytes, if_neg (Nat.not_lt.mpr h), ⟨_, rfl, rfl⟩, subscribeMsg_size _ _ _ h, ?_,
      fun _ => rfl⟩
    rw [(subscribeMsg_decode _ _ _).2, decodeSubscribe_name _ _ _ _ _ (by decide)]
    rfl
  | sendUnsubscribeTopicId topicId =>
    refine ⟨_, subscribeMsg mqttSnTypeUnsubscribe mqttSnTopicTypePredefined w.client.pktId
      (le16 topicId), rfl, ⟨_, rfl, rfl⟩,
      subscribeMsg_size _ _ _ (by simp [mqttSnMaxTopicLength]), ?_, fun _ => rfl⟩
    rw [(subscribeMsg_decode _ _ _).2, decodeSubscribe_id _ _ _ _ _ (by decide)]
    rfl
  | _ => exact h.elim

/-- Every call hands over a datagram of the size that its first byte gives, which decodes to the
call's arguments and message id; so datagrams of calls that differ in them differ. -/
theorem outbound_encoding_faithful (env env' : Env) (call call' : AppCall)
    (h : call.Encodable) (h' : call'.Encodable) (w v : World) :
    ∃ w' v' d d', runAppCall env call w = .ok w' ∧ runAppCall env' call' v = .ok v' ∧
      Encodes call w w' d ∧ Encodes call' v v' d' ∧
      (d = d' → call.message w.client.pktId = call'.message v.client.pktId) := by
  obtain ⟨w', d, hrun, hd⟩ := encodes_of_encodable env h w
  obtain ⟨v', d', hrun', hd'⟩ := encodes_of_encodable env' h' v
  refine ⟨w', v', d, d', hrun, hrun', hd, hd', fun heq => ?_⟩
  rw [← hd.faithful, heq, hd'.faithful]

theorem outbound_encoding_faithful_dup : ∃ w' v' d d',
    runAppCall quietEnv (.sendSubscribeTopicId 7 1 0) bootWorld = .ok w' ∧
      runAppCall quietEnv (.sendSubscribeTopicId 7 1 1) bootWorld = .ok v' ∧
      Encodes (.sendSubscribeTopicId 7 1 0) bootWorld w' d ∧
      Encodes (.sendSubscribeTopicId 7 1 1) bootWorld v' d' ∧ d ≠ d' := by
  obtain ⟨w', v', d, d', hrun, hrun', hd, hd', hinj⟩ :=
    outbound_encoding_faithful quietEnv quietEnv (.sendSubscribeTopicId 7 1 0)
      (.sendSubscribeTopicId 7 1 1) (by decide : (1 : Int8) ∈ qosLevels)
      (by decide : (1 : Int8) ∈ qosLevels) bootWorld bootWorld
  exact ⟨w', v', d, d', hrun, hrun', hd, hd', fun heq => absurd (hinj heq) (by decide)⟩

end MqttSnClient
