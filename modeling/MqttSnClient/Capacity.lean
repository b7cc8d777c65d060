import MqttSnClient.Encoding
import MqttSnClient.MainLoop
import MqttSnClient.Records

namespace MqttSnClient
open Memory Bytes

/-- An argument on its way into a packet: the size that is added to its length for the length
byte, and the array with the place in it that takes the first byte. -/
structure PacketCopy where
  header : ℕ
  start : ℕ
  capacity : ℕ
  bytes : List UInt8

/-- The copies of the seven encoders. -/
def AppCall.copy : AppCall → Option PacketCopy
  | .sendConnect clientId _ _ => some ⟨6, 0, mqttSnMaxClientIdLength, clientId.bytes⟩
  | .sendRegister topicName => some ⟨6, 0, mqttSnMaxTopicLength, topicName.bytes⟩
  | .sendPublish _ _ data dataLen _ _ _ =>
    some ⟨7, 0, mqttSnMaxPayloadLength, slice data 0 dataLen.toNat⟩
  | .sendSubscribeTopicName topicName _ _ | .sendUnsubscribeTopicName topicName =>
    some ⟨5, 0, mqttSnMaxTopicLength, topicName.bytes⟩
  | .sendWilltopic topicName => some ⟨3, 3, 30, topicName.bytes⟩
  | .sendWillMSG topicName => some ⟨2, 2, 30, topicName.bytes⟩
  | _ => none

/-- A datagram of the size that its first byte gives, which is that of its header and its
argument, and which ends with the argument. -/
structure PacketCopy.Whole (c : PacketCopy) (d : List UInt8) : Prop where
  lenth : d.head?.map UInt8.toNat = some (c.header + c.bytes.length)
  size : d.length = c.header + c.bytes.length
  argument : d.drop c.header = c.bytes

/-- The call sends nothing, or it copies inside its array and sends one whole datagram. -/
def KeepsWithin (env : Env) (call : AppCall) (c : PacketCopy) (w : World) : Prop :=
  ∃ w', runAppCall env call w = .ok w' ∧ (newlySent w w' = [] ∨
    (∀ i < c.bytes.length, c.start + i < c.capacity) ∧
      ∃ pk, newlySent w w' = [pk] ∧ c.Whole pk.data)

variable {env : Env} {call : AppCall} {c : PacketCopy} {w : World}

/-- What fits its array fits the length byte. -/
theorem AppCall.copy_short (hc : call.copy = some c)
    (hfit : c.start + c.bytes.length ≤ c.capacity) :
    c.header + c.bytes.length ≤ mqttSnMaxPacketLength := by
  have hname : mqttSnMaxTopicLength = mqttSnMaxPacketLength - 6 := rfl
  have hdata : mqttSnMaxPayloadLength = mqttSnMaxPacketLength - 7 := rfl
  have hid : mqttSnMaxClientIdLength = 23 := rfl
  -- REGISTER and PUBLISH reach 255 exactly, the others stay below
  have hpacket : mqttSnMaxPacketLength = 255 := rfl
  cases call <;> simp only [AppCall.copy, Option.some.injEq, reduceCtorEq] at hc <;>
    subst hc <;> dsimp only at hfit ⊢ <;> omega

theorem PacketCopy.whole (c : PacketCopy) (rest : List UInt8) (hrest : rest.length + 1 = c.header)
    (hshort : c.header + c.bytes.length ≤ mqttSnMaxPacketLength) :
    c.Whole (UInt8.ofNat (c.bytes.length + c.header) :: rest ++ c.bytes) := by
  have hbyte : (UInt8.ofNat (c.bytes.length + c.header)).toNat = c.header + c.bytes.length := by
    unfold mqttSnMaxPacketLength at hshort
    rw [UInt8.toNat_ofNat', Nat.add_comm]
    exact Nat.mod_eq_of_lt (by omega)
  refine ⟨congrArg some hbyte, ?_, ?_⟩
  · rw [List.length_append, List.length_cons, hrest]
  · exact List.drop_left' (by rw [List.length_cons, hrest])

/-- An encoder whose copy fits sends its header and the argument. -/
theorem copy_sent (hc : call.copy = some c) (hfit : c.start + c.bytes.length ≤ c.capacity)
    (env : Env) (w : World) :
    ∃ w' pk rest, runAppCall env call w = .ok w' ∧ w'.sent = w.sent ++ [pk] ∧
      pk.data = UInt8.ofNat (c.bytes.length + c.header) :: rest ++ c.bytes ∧
      rest.length + 1 = c.header := by
  cases call with
  | sendConnect clientId keepalive flags =>
    cases hc
    rw [Nat.zero_add] at hfit
    exact ⟨_, _, [mqttSnTypeConnect, flags, mqttSnProtocolId] ++ le16 keepalive,
      if_neg (Nat.not_lt.mpr hfit), rfl, rfl, rfl⟩
  | sendRegister topicName =>
    cases hc
    rw [Nat.zero_add] at hfit
    exact ⟨_, _, [mqttSnTypeRegister] ++ le16 0 ++ le16 w.client.pktId,
      if_neg (Nat.not_lt.mpr hfit), rfl, rfl, rfl⟩
  | sendPublish topicId topicType data dataLen qos retain dup =>
    cases hc
    have hlen : dataLen.toNat ≤ mqttSnMaxPayloadLength := by
      rwa [Nat.zero_add, slice_length] at hfit
    obtain ⟨w', hrun⟩ := mqttSnSendPublish_fits hlen env topicId topicType (.app data) qos retain
      dup w
    exact ⟨w', _, [mqttSnTypePublish, publishFlags topicType qos retain dup] ++ le16 topicId ++
      le16 w.client.pktId, hrun, (mqttSnSendPublish_record hrun).1, rfl, rfl⟩
  | sendSubscribeTopicName topicName qos dup =>
    cases hc
    rw [Nat.zero_add] at hfit
    obtain ⟨w', hrun⟩ := mqttSnSendSubscribeTopicName_fits hfit env qos dup w
    exact ⟨w', _, [mqttSnTypeSubscribe, mqttSnTopicTypeNormal ||| qosFlags qos ||| dupFlag dup] ++
      le16 w.client.pktId, hrun, (mqttSnSendSubscribeTopicName_record hrun).1, rfl, rfl⟩
  | sendUnsubscribeTopicName topicName =>
    cases hc
    rw [Nat.zero_add] at hfit
    exact ⟨_, _, [mqttSnTypeUnsubscribe, mqttSnTopicTypeNormal] ++ le16 w.client.pktId,
      if_neg (Nat.not_lt.mpr hfit), rfl, rfl, rfl⟩
  | sendWilltopic topicName =>
    cases hc
    rw [Nat.add_comm] at hfit
    exact ⟨_, _, [mqttSnTypeWilltopic, 0], if_neg (Nat.not_lt.mpr hfit), rfl, rfl, rfl⟩
  | sendWillMSG topicName =>
    cases hc
    rw [Nat.add_comm] at hfit
    exact ⟨_, _, [mqttSnTypeWillmsg], if_neg (Nat.not_lt.mpr hfit), rfl, rfl, rfl⟩
  | _ => cases hc

/-- A longer argument runs past the end of the array. -/
theorem copy_overruns (hc : call.copy = some c) (hover : c.capacity < c.start + c.bytes.length)
    (env : Env) (w : World) : runAppCall env call w = .error .undefined := by
  cases call with
  | sendConnect | sendRegister | sendSubscribeTopicName | sendUnsubscribeTopicName =>
    cases hc
    rw [Nat.zero_add] at hover
    exact if_pos hover
  | sendPublish =>
    cases hc
    rw [Nat.zero_add, slice_length] at hover
    exact if_pos hover
  | sendWilltopic | sendWillMSG =>
    cases hc
    rw [Nat.add_comm] at hover
    exact if_pos hover
  | _ => cases hc

/-- An encoder keeps within its array and its length byte exactly for the arguments that the
array has room for. -/
theorem encoders_keep_within_iff (hc : call.copy = some c) (env : Env) (w : World) :
    KeepsWithin env call c w ↔ c.start + c.bytes.length ≤ c.capacity := by
  constructor
  · rintro ⟨w', hrun, -⟩
    by_contra hover
    rw [copy_overruns hc (Nat.not_le.mp hover)] at hrun
    cases hrun
  · intro hfit
    obtain ⟨w', pk, rest, hrun, hsent, hdata, hrest⟩ := copy_sent hc hfit env w
    refine ⟨w', hrun, Or.inr ⟨fun i hi => by omega, pk, newlySent_of_append hsent, ?_⟩⟩
    rw [hdata]
    exact c.whole rest hrest (AppCall.copy_short hc hfit)

theorem encoders_keep_within_willtopic : KeepsWithin quietEnv (.sendWilltopic lwipTest)
    ⟨3, 3, 30, lwipTest.bytes⟩ bootWorld :=
  (encoders_keep_within_iff rfl quietEnv bootWorld).mpr (by decide)

/-- A will topic of 28 characters ends past the array. -/
def longWilltopic : CString := .ofChars (List.replicate 28 'a') (by decide)

theorem long_willtopic_overruns :
    ¬∀ env call c w, call.copy = some c → KeepsWithin env call c w := by
  intro h
  obtain ⟨w', hrun, -⟩ := h quietEnv (.sendWilltopic longWilltopic) _ bootWorld rfl
  rw [copy_overruns rfl (by decide)] at hrun
  cases hrun

end MqttSnClient
