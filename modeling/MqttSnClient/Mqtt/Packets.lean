import MqttSnClient.Mqtt.Client
import MqttSnClient.Mqtt.Ring

namespace Mqtt
open Bytes MqttRingbuf

structure Will where
  topic : CString
  msg : CString
  qos : ℕ
  retain : Bool

inductive Packet
  | connect (clientId : CString) (keepAlive : UInt16) (will : Option Will)
  | publish (topic : CString) (data : List UInt8) (qos : ℕ) (retain : Bool) (pktId : UInt16)
  | puback (pktId : UInt16)
  | pubrec (pktId : UInt16)
  | pubrel (pktId : UInt16)
  | pubcomp (pktId : UInt16)
  | subscribe (pktId : UInt16) (topic : CString) (qos : UInt8)
  | unsubscribe (pktId : UInt16) (topic : CString)
  | pingreq

/-- A string with its length before it. -/
def str (s : CString) : List UInt8 := be16 (UInt16.ofNat s.strlen) ++ s.bytes

@[simp] theorem length_str (s : CString) : (str s).length = s.strlen + 2 := by
  rw [str, List.length_append, length_be16, Nat.add_comm]
  rfl

namespace Packet

def control : Packet → UInt8
  | connect .. => 0x10
  | publish _ _ qos retain _ => UInt8.ofNat (0x30 + 2 * qos + retain.toNat)
  | puback _ => 0x40
  | pubrec _ => 0x50
  | pubrel _ => 0x62
  | pubcomp _ => 0x70
  | subscribe .. => 0x82
  | unsubscribe .. => 0xA2
  | pingreq => 0xC0

/-- A clean session, and the will if there is one. -/
def connectFlags : Option Will → UInt8
  | none => 2
  | some w => UInt8.ofNat (2 + 4 + 8 * w.qos + 32 * w.retain.toNat)

/-- The fields of the will. -/
def willBytes : Option Will → List UInt8
  | none => []
  | some w => str w.topic ++ str w.msg

def body : Packet → List UInt8
  | connect clientId keepAlive will =>
    be16 4 ++ protocolName ++ [4] ++ [connectFlags will] ++ be16 keepAlive ++ str clientId ++
      willBytes will
  | publish topic data qos _ pktId => str topic ++ (if qos = 0 then [] else be16 pktId) ++ data
  | puback pktId | pubrec pktId | pubrel pktId | pubcomp pktId => be16 pktId
  | subscribe pktId topic qos => be16 pktId ++ str topic ++ [qos]
  | unsubscribe pktId topic => be16 pktId ++ str topic
  | pingreq => []

def encode (p : Packet) : List UInt8 :=
  p.control :: Varint.encode p.body.length ++ p.body

/-- What the protocol asks of a message besides its layout: every length fits its field, the
quality of service is 0, 1 or 2, and what the server answers by id has one. -/
def WellFormed (p : Packet) : Prop :=
  p.body.length ≤ maxRemainingLength ∧ match p with
    | publish _ _ qos _ pktId => qos ≤ 2 ∧ (qos = 0 ∨ pktId ≠ 0)
    | pubrel pktId | pubcomp pktId | unsubscribe pktId _ => pktId ≠ 0
    | subscribe pktId _ qos => pktId ≠ 0 ∧ qos ≤ 2
    | connect .. | puback _ | pubrec _ | pingreq => True

theorem length_encode (p : Packet) : p.encode.length = messageLength p.body.length := by
  rw [encode, List.cons_append, List.length_cons, List.length_append, messageLength]
  omega

/-- A message as a reader of the stream sees it: the first byte, and what follows the length. -/
def frame (p : Packet) : UInt8 × List UInt8 := (p.control, p.body)

theorem encode_prefix {p q : Packet} {xs ys : List UInt8}
    (h : p.encode ++ xs = q.encode ++ ys) : p.frame = q.frame ∧ xs = ys := by
  rw [encode, encode, List.append_assoc, List.append_assoc] at h
  obtain ⟨hcontrol, hrest⟩ := List.cons.inj h
  have hsize := Varint.terminated_unique (Varint.terminated_encode p.body.length)
    (Varint.terminated_encode q.body.length) hrest
  have hlength : p.body.length = q.body.length := by
    calc p.body.length = Varint.value (Varint.encode p.body.length) :=
          (Varint.value_encode _).symm
      _ = Varint.value (Varint.encode q.body.length) := by rw [hsize]
      _ = q.body.length := Varint.value_encode _
  rw [hsize] at hrest
  obtain ⟨hbody, htail⟩ := List.append_inj (List.append_cancel_left hrest) hlength
  exact ⟨Prod.ext hcontrol hbody, htail⟩

/-- The stream of messages can be read in one way only. -/
theorem stream_unique {ps qs : List Packet} (h : ps.flatMap encode = qs.flatMap encode) :
    ps.map frame = qs.map frame := by
  induction ps generalizing qs with
  | nil =>
    cases qs with
    | nil => rfl
    | cons q qs => exact absurd h (List.cons_ne_nil _ _).symm
  | cons p ps ih =>
    cases qs with
    | nil => exact absurd h (List.cons_ne_nil _ _)
    | cons q qs =>
      rw [List.flatMap_cons, List.flatMap_cons] at h
      obtain ⟨hframe, hrest⟩ := encode_prefix h
      rw [List.map_cons, List.map_cons, hframe, ih hrest]

/-- Without a quality of service the packet id is not sent. -/
theorem stream_unique_unnumbered :
    [pingreq, publish ⟨[0x61], by decide⟩ [1] 0 false 1].map frame =
      [pingreq, publish ⟨[0x61], by decide⟩ [1] 0 false 2].map frame :=
  stream_unique rfl

end Packet

open Packet

theorem toNat_ofNat_length {n : ℕ} (h : n ≤ maxRemainingLength) : (UInt16.ofNat n).toNat = n := by
  rw [UInt16.toNat_ofNat']
  exact Nat.mod_eq_of_lt (Nat.lt_of_le_of_lt h (by decide))

/-- A header and the body that goes with it. -/
theorem writes_packet {msgType dup qos retain : UInt8} {rLength : UInt16}
    {f : MqttRingbuf → MqttRingbuf} {p : Packet}
    (hcontrol : controlByte msgType dup qos retain = p.control)
    (hlen : rLength.toNat = p.body.length) (hf : Writes f p.body) :
    Writes (fun rb => f (mqttOutputAppendFixedHeader msgType dup qos retain rLength rb))
      p.encode := by
  have hheader := writes_fixed_header msgType dup qos retain rLength
  rw [hcontrol, hlen] at hheader
  exact hheader.trans hf

theorem writes_str (s : CString) :
    Writes (mqttOutputAppendString s.bytes (UInt16.ofNat s.strlen)) (str s) :=
  writes_string s.bytes _

/-- The lowest bit of a byte. -/
theorem retain_bit (retain : UInt8) : retain &&& 1 = if retain.toNat % 2 = 1 then 1 else 0 := by
  have hmask := Nat.and_two_pow_sub_one_eq_mod retain.toNat 1
  have hval : (retain &&& 1).toNat = retain.toNat % 2 := (UInt8.toNat_and retain 1).trans hmask
  apply UInt8.toNat_inj.mp
  rw [hval]
  split_ifs with h
  · exact h
  · simp only [UInt8.toNat_zero]
    omega

/-- The quality of service that the API documents. -/
theorem qos_cases {qos : UInt8} (h : qos ≤ 2) : qos = 0 ∨ qos = 1 ∨ qos = 2 := by
  have hle : qos.toNat ≤ 2 := h
  have hval : qos.toNat = 0 ∨ qos.toNat = 1 ∨ qos.toNat = 2 := by omega
  rcases hval with h0 | h1 | h2
  · exact .inl (UInt8.toNat_inj.mp h0)
  · exact .inr (.inl (UInt8.toNat_inj.mp h1))
  · exact .inr (.inr (UInt8.toNat_inj.mp h2))

theorem control_publish {qos : UInt8} (retain : UInt8) (h : qos ≤ 2) (topic : CString)
    (data : List UInt8) (pktId : UInt16) :
    controlByte mqttMsgTypePublish 0 qos retain =
      (publish topic data qos.toNat (retain.toNat % 2 = 1) pktId).control := by
  rw [controlByte, retain_bit retain]
  rcases qos_cases h with rfl | rfl | rfl
  all_goals
    by_cases hr : retain.toNat % 2 = 1
    · simp only [hr, decide_true, if_true]
      rfl
    · simp only [hr, decide_false, if_false]
      rfl

theorem writes_publish (topic : CString) (data : List UInt8) {qos : UInt8} (retain : UInt8)
    (pktId : UInt16) {rLength : UInt16} (hqos : qos ≤ 2)
    (hlen : rLength.toNat =
      (publish topic data qos.toNat (retain.toNat % 2 = 1) pktId).body.length) :
    Writes (appendPublish topic qos retain pktId rLength data)
      (publish topic data qos.toNat (retain.toNat % 2 = 1) pktId).encode := by
  have hid : Writes (fun rb => if qos > 0 then mqttOutputAppendU16 pktId rb else rb)
      (if qos.toNat = 0 then [] else be16 pktId) := by
    rcases qos_cases hqos with rfl | rfl | rfl
    · exact writes_id
    · exact writes_u16 pktId
    · exact writes_u16 pktId
  exact writes_packet (control_publish retain hqos topic data pktId) hlen
    (((writes_str topic).trans hid).trans (writes_buf data))

theorem writes_subscribe (topic : CString) (qos : UInt8) (pktId : UInt16) {rLength : UInt16}
    (hlen : rLength.toNat = (subscribe pktId topic (min qos 2)).body.length) :
    Writes (appendSubUnsub topic qos true pktId rLength)
      (subscribe pktId topic (min qos 2)).encode :=
  writes_packet rfl hlen (((writes_u16 pktId).trans (writes_str topic)).trans (writes_put _))

theorem writes_unsubscribe (topic : CString) (qos : UInt8) (pktId : UInt16) {rLength : UInt16}
    (hlen : rLength.toNat = (unsubscribe pktId topic).body.length) :
    Writes (appendSubUnsub topic qos false pktId rLength) (unsubscribe pktId topic).encode :=
  writes_packet rfl hlen ((writes_u16 pktId).trans (writes_str topic))

theorem writes_pingreq : Writes (mqttOutputAppendFixedHeader mqttMsgTypePingreq 0 0 0 0)
    pingreq.encode := by
  have hcontrol : controlByte mqttMsgTypePingreq 0 0 0 = pingreq.control := rfl
  have hlen : (0 : UInt16).toNat = pingreq.body.length := rfl
  have hheader := writes_packet hcontrol hlen writes_id
  exact hheader

/-- The four answers by id. -/
theorem writes_response {msgType qos : UInt8} (pktId : UInt16) {p : Packet}
    (hcontrol : controlByte msgType 0 qos 0 = p.control) (hbody : p.body = be16 pktId) :
    Writes (fun rb => mqttOutputAppendU16 pktId
      (mqttOutputAppendFixedHeader msgType 0 qos 0 2 rb)) p.encode := by
  apply writes_packet hcontrol
  · rw [hbody]
    rfl
  · rw [hbody]
    exact writes_u16 pktId

/-- The will of the connection options. -/
def ConnectInfo.asWill (info : ConnectInfo) : Option Will :=
  info.will.map fun w => ⟨w.1, w.2, info.willQos.toNat % 4, info.willRetain ≠ 0⟩

/-- The CONNECT that the connection options ask for. -/
def ConnectInfo.packet (info : ConnectInfo) : Packet :=
  connect info.clientId info.keepAlive info.asWill

theorem will_qos_bits (qos : UInt8) :
    (mqttConnectFlagWill ||| ((qos &&& 3) <<< 3)).toNat = 4 + 8 * (qos.toNat % 4) := by
  have hmask := Nat.and_two_pow_sub_one_eq_mod qos.toNat 2
  have hval : (qos &&& 3).toNat = qos.toNat % 4 := (UInt8.toNat_and qos 3).trans hmask
  have hlt : qos.toNat % 4 < 4 := Nat.mod_lt _ (by decide)
  have hcases : qos &&& 3 = UInt8.ofNat (qos.toNat % 4) := by
    rw [← hval, UInt8.ofNat_toNat]
  rw [hcases]
  generalize qos.toNat % 4 = k at hlt
  interval_cases k <;> rfl

theorem connect_flags (info : ConnectInfo) : info.flags = connectFlags info.asWill := by
  unfold ConnectInfo.flags ConnectInfo.asWill
  cases info.will with
  | none =>
    have hclean : (0 : UInt8) ||| mqttConnectFlagCleanSession = 2 := by decide
    exact hclean
  | some w =>
    have hlt : info.willQos.toNat % 4 < 4 := Nat.mod_lt _ (by decide)
    have hbits : mqttConnectFlagWill ||| ((info.willQos &&& 3) <<< 3) =
        UInt8.ofNat (4 + 8 * (info.willQos.toNat % 4)) := by
      rw [← will_qos_bits, UInt8.ofNat_toNat]
    simp only [Option.map_some, connectFlags, hbits]
    generalize info.willQos.toNat % 4 = k at hlt
    by_cases hr : info.willRetain = 0
    · simp only [hr, ne_eq, not_true_eq_false, decide_false, if_false]
      interval_cases k <;> rfl
    · simp only [hr, ne_eq, not_false_eq_true, decide_true, if_true]
      interval_cases k <;> rfl

theorem writes_connect (info : ConnectInfo) {rLength : UInt16}
    (hlen : rLength.toNat = info.packet.body.length) :
    Writes (appendConnect info rLength) info.packet.encode := by
  have hwill : Writes (appendWill info.will) (willBytes info.asWill) := by
    unfold ConnectInfo.asWill
    cases info.will with
    | none => exact writes_id
    | some w => exact (writes_str w.1).trans (writes_str w.2)
  have hfixed := ((writes_string protocolName 4).trans (writes_put 4)).trans (writes_put info.flags)
  have hclient := (hfixed.trans (writes_u16 info.keepAlive)).trans (writes_str info.clientId)
  have hbody := hclient.trans hwill
  rw [connect_flags] at hbody
  have hcontrol : controlByte mqttMsgTypeConnect 0 0 0 = info.packet.control := rfl
  have hpacket := writes_packet (p := info.packet) hcontrol hlen hbody
  rw [← connect_flags] at hpacket
  exact hpacket

end Mqtt
