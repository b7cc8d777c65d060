import MqttSnClient.Capacity
import MqttSnClient.Confinement
import MqttSnClient.Senders

namespace MqttSnClient
open Memory Bytes

/-- A 16-bit number by the rule of ADVERTISE, the most significant byte first. -/
def msbFirst (d : ℕ → UInt8) (i : ℕ) : ℕ := 256 * (d i).toNat + (d (i + 1)).toNat

/-- The 16-bit numbers of the datagram that a call sends, with their offsets, where `pktId` is
the next message id. -/
def AppCall.numbers (pktId : UInt16) : AppCall → List (ℕ × UInt16)
  | .sendConnect _ keepalive _ => [(4, keepalive)]
  | .sendRegister _ => [(2, 0), (4, pktId)]
  | .sendDisconnect duration => [(2, duration)]
  -- without a duration the datagram ends before the field
  | .sendDisconnectTopicId duration => if duration = 0 then [] else [(2, duration)]
  | .sendPublish topicId _ _ _ _ _ _ => [(3, topicId), (5, pktId)]
  | .sendPublishack messageId topicId _ => [(2, topicId), (4, messageId)]
  | .sendSubscribeTopicName _ _ _ | .sendUnsubscribeTopicName _ => [(3, pktId)]
  | .sendSubscribeTopicId topicId _ _ | .sendUnsubscribeTopicId topicId =>
    [(3, pktId), (5, topicId)]
  | _ => []

/-- The step sends one datagram, in which the rule of ADVERTISE finds the number `v`. -/
def SendsMsbFirst (w w' : World) (i : ℕ) (v : UInt16) : Prop :=
  ∃ pk, newlySent w w' = [pk] ∧ msbFirst (asArray pk.data) i = v.toNat

/-- The handler of an ADVERTISE writes the gateway to the entry `k`, with the duration that the
two bytes give. -/
def StoresDuration (env : Env) (g : GwInfor) (w : World) (k : ℕ) (gwid b0 b1 : UInt8) : Prop :=
  ∃ u keepalive, apiAdvertisePress g env w = .ok u ∧
    u.gwList.gwList k = .heard w.client.cyclicTick g.addr g.port gwid keepalive ∧
      keepalive.toNat = 256 * b0.toNat + b1.toNat

section Advertise

variable {env : Env} {g : GwInfor} {w : World} {k : ℕ} {gwid b0 b1 : UInt8}

/-- The shift takes the first byte of the duration out, so the last one is stored alone. -/
theorem apiAdvertisePress_keeps_last (hw : Sound w)
    (hhead : w.headFrame = some [5, mqttSnTypeAdvertise, gwid, b0, b1])
    (hk : w.gwList.slotFor gwid = some k) (env : Env) (g : GwInfor) :
    ∃ u, apiAdvertisePress g env w = .ok u ∧
      u.gwList.gwList k = .heard w.client.cyclicTick g.addr g.port gwid b1.toUInt16 := by
  obtain ⟨u, hu, hheard⟩ := apiAdvertisePress_stores hw env g hhead hk
  rw [shifted_out, UInt16.zero_or] at hheard
  exact ⟨u, hu, hheard⟩

theorem storesDuration_iff (hw : Sound w)
    (hhead : w.headFrame = some [5, mqttSnTypeAdvertise, gwid, b0, b1])
    (hk : w.gwList.slotFor gwid = some k) : StoresDuration env g w k gwid b0 b1 ↔ b0 = 0 := by
  obtain ⟨u, hu, hheard⟩ := apiAdvertisePress_keeps_last hw hhead hk env g
  constructor
  · rintro ⟨u', keepalive, hu', hheard', hval⟩
    obtain rfl := Except.ok.inj (hu.symm.trans hu')
    have hkeep : b1.toUInt16 = keepalive :=
      congrArg GwItem.gwKeepalive (hheard.symm.trans hheard')
    rw [← hkeep, UInt8.toNat_toUInt16] at hval
    apply UInt8.toNat_inj.mp
    show b0.toNat = 0
    omega
  · rintro rfl
    refine ⟨u, b1.toUInt16, hu, hheard, ?_⟩
    rw [UInt8.toNat_toUInt16]
    exact (Nat.zero_add _).symm

end Advertise

section Encoders

variable {env : Env} {call : AppCall} {w w' : World} {i : ℕ} {v : UInt16}

/-- Every number of a datagram lies in it as the core stores it. -/
theorem numbers_sent (h : runAppCall env call w = .ok w')
    (hv : (i, v) ∈ call.numbers w.client.pktId) :
    ∃ pk, newlySent w w' = [pk] ∧ (pk.data.drop i).take 2 = le16 v := by
  cases call with
  | sendConnect clientId keepalive flags =>
    obtain ⟨rfl, rfl⟩ := Prod.mk.inj (List.mem_singleton.mp hv)
    simp only [runAppCall, mqttSnSendConnect] at h
    split_ifs at h
    cases h
    exact ⟨_, newlySent_of_append rfl, rfl⟩
  | sendRegister topicName =>
    simp only [runAppCall, mqttSnSendRegister] at h
    split_ifs at h
    cases h
    simp only [AppCall.numbers, List.mem_cons, Prod.mk.injEq, List.not_mem_nil, or_false] at hv
    rcases hv with ⟨rfl, rfl⟩ | ⟨rfl, rfl⟩ <;> exact ⟨_, newlySent_of_append rfl, rfl⟩
  | sendDisconnect duration =>
    obtain ⟨rfl, rfl⟩ := Prod.mk.inj (List.mem_singleton.mp hv)
    cases h
    exact ⟨_, newlySent_of_append rfl, rfl⟩
  | sendDisconnectTopicId duration =>
    simp only [AppCall.numbers] at hv
    split_ifs at hv with hzero
    · cases hv
    obtain ⟨rfl, rfl⟩ := Prod.mk.inj (List.mem_singleton.mp hv)
    cases h
    refine ⟨_, newlySent_of_append rfl, ?_⟩
    rw [if_pos hzero]
    rfl
  | sendPublish topicId topicType data dataLen qos retain dup =>
    have hsent := (mqttSnSendPublish_record h).1
    simp only [AppCall.numbers, List.mem_cons, Prod.mk.injEq, List.not_mem_nil, or_false] at hv
    rcases hv with ⟨rfl, rfl⟩ | ⟨rfl, rfl⟩ <;> exact ⟨_, newlySent_of_append hsent, rfl⟩
  | sendPublishack messageId topicId returnCode =>
    cases h
    simp only [AppCall.numbers, List.mem_cons, Prod.mk.injEq, List.not_mem_nil, or_false] at hv
    rcases hv with ⟨rfl, rfl⟩ | ⟨rfl, rfl⟩ <;> exact ⟨_, newlySent_of_append rfl, rfl⟩
  | sendSubscribeTopicName topicName qos dup =>
    obtain ⟨rfl, rfl⟩ := Prod.mk.inj (List.mem_singleton.mp hv)
    exact ⟨_, newlySent_of_append (mqttSnSendSubscribeTopicName_record h).1, rfl⟩
  | sendSubscribeTopicId topicId qos dup =>
    cases h
    have hsent := (mqttSnSendSubscribeTopicId_record env topicId qos dup w).1
    simp only [AppCall.numbers, List.mem_cons, Prod.mk.injEq, List.not_mem_nil, or_false] at hv
    rcases hv with ⟨rfl, rfl⟩ | ⟨rfl, rfl⟩ <;> exact ⟨_, newlySent_of_append hsent, rfl⟩
  | sendUnsubscribeTopicName topicName =>
    obtain ⟨rfl, rfl⟩ := Prod.mk.inj (List.mem_singleton.mp hv)
    simp only [runAppCall, mqttSnSendUnsubscribeTopicName] at h
    split_ifs at h
    cases h
    exact ⟨_, newlySent_of_append rfl, rfl⟩
  | sendUnsubscribeTopicId topicId =>
    cases h
    simp only [AppCall.numbers, List.mem_cons, Prod.mk.injEq, List.not_mem_nil, or_false] at hv
    rcases hv with ⟨rfl, rfl⟩ | ⟨rfl, rfl⟩ <;> exact ⟨_, newlySent_of_append rfl, rfl⟩
  | _ => cases hv

/-- The bytes of a number in a datagram. -/
theorem msbFirst_stored {d : List UInt8} (h : (d.drop i).take 2 = le16 v) :
    msbFirst (asArray d) i = 256 * (v.toNat % 256) + v.toNat / 256 := by
  have hbyte : ∀ j < 2, asArray d (i + j) = (le16 v).getD j 0 := by
    intro j hj
    rw [← h, asArray, List.getD_eq_getElem?_getD, List.getD_eq_getElem?_getD,
      List.getElem?_take_of_lt hj, List.getElem?_drop]
  have hv := v.toNat_lt
  have hlo : (asArray d i).toNat = v.toNat % 256 := by
    have hfirst : asArray d i = (le16 v).getD 0 0 := hbyte 0 (by decide)
    rw [hfirst]
    simp [le16]
  have hhi : (asArray d (i + 1)).toNat = v.toNat / 256 := by
    rw [hbyte 1 (by decide)]
    simp only [le16, List.getD_cons_succ, List.getD_cons_zero, UInt8.toNat_ofNat']
    omega
  rw [msbFirst, hlo, hhi]

/-- The rule of ADVERTISE reads an encoded number back if its two bytes are the same. -/
theorem sendsMsbFirst_iff (h : runAppCall env call w = .ok w')
    (hv : (i, v) ∈ call.numbers w.client.pktId) :
    SendsMsbFirst w w' i v ↔ v.toNat / 256 = v.toNat % 256 := by
  obtain ⟨pk, hpk, hdata⟩ := numbers_sent h hv
  have hread := msbFirst_stored hdata
  constructor
  · rintro ⟨pk', hpk', hval⟩
    obtain rfl := List.singleton_inj.mp (hpk.symm.trans hpk')
    omega
  · intro hsame
    refine ⟨pk, hpk, ?_⟩
    omega

end Encoders

/-- The duration of an ADVERTISE is stored as it was sent exactly if its first byte is 0, and a
number is encoded in the order of ADVERTISE exactly if its two bytes are the same. -/
theorem one_byte_order_iff (env : Env) :
    (∀ (g : GwInfor) (w : World) (k : ℕ) (gwid b0 b1 : UInt8), Sound w →
      w.headFrame = some [5, mqttSnTypeAdvertise, gwid, b0, b1] →
        w.gwList.slotFor gwid = some k → (StoresDuration env g w k gwid b0 b1 ↔ b0 = 0)) ∧
      ∀ (call : AppCall) (w w' : World) (i : ℕ) (v : UInt16),
        runAppCall env call w = .ok w' → (i, v) ∈ call.numbers w.client.pktId →
          (SendsMsbFirst w w' i v ↔ v.toNat / 256 = v.toNat % 256) :=
  ⟨fun _ _ _ _ _ _ hw hhead hk => storesDuration_iff hw hhead hk,
    fun _ _ _ _ _ h hv => sendsMsbFirst_iff h hv⟩

/-- The ADVERTISE of a gateway waits to be handled. -/
def advertiseWaiting (b0 b1 : UInt8) : World :=
  (udpServerRecvCb quietEnv (datagram [5, mqttSnTypeAdvertise, 7, b0, b1]) 1 10000 bootWorld).2

theorem advertiseWaiting_sound (b0 b1 : UInt8) : Sound (advertiseWaiting b0 b1) :=
  udpServerRecvCb_sound (mqttClientInit_booted bootWorld_init).sound _ _ _ _

def connectSent (keepalive : UInt16) : World :=
  match mqttSnSendConnect 0 lwipTest keepalive 0 bootWorld with
  | .ok w => w
  | .error _ => bootWorld

theorem connectSent_run (keepalive : UInt16) :
    runAppCall quietEnv (.sendConnect lwipTest keepalive 0) bootWorld =
      .ok (connectSent keepalive) := rfl

/-- Two minutes in an ADVERTISE, and a keep-alive of 257 seconds in a CONNECT. -/
theorem one_byte_order_aligned :
    StoresDuration quietEnv ⟨1, 10000⟩ (advertiseWaiting 0 120) 0 7 0 120 ∧
      SendsMsbFirst bootWorld (connectSent 257) 4 257 :=
  ⟨((one_byte_order_iff quietEnv).1 ⟨1, 10000⟩ (advertiseWaiting 0 120) 0 7 0 120
      (advertiseWaiting_sound 0 120) (by decide) (by decide)).mpr rfl,
    ((one_byte_order_iff quietEnv).2 (.sendConnect lwipTest 257 0) bootWorld (connectSent 257) 4 257
      (connectSent_run 257) (List.mem_singleton.mpr rfl)).mpr rfl⟩

/-- Of 900 seconds in an ADVERTISE the client stores 132, and its CONNECT offers 15360 seconds
in place of 60. -/
theorem durations_misread :
    (¬∀ (env : Env) (g : GwInfor) (w : World) (k : ℕ) (gwid b0 b1 : UInt8), Sound w →
      w.headFrame = some [5, mqttSnTypeAdvertise, gwid, b0, b1] →
        w.gwList.slotFor gwid = some k → StoresDuration env g w k gwid b0 b1) ∧
      ¬∀ (env : Env) (call : AppCall) (w w' : World) (i : ℕ) (v : UInt16),
        runAppCall env call w = .ok w' → (i, v) ∈ call.numbers w.client.pktId →
          SendsMsbFirst w w' i v := by
  constructor
  · intro h
    have hhead : (advertiseWaiting 3 132).headFrame =
        some [5, mqttSnTypeAdvertise, 7, 3, 132] := by decide
    have hk : (advertiseWaiting 3 132).gwList.slotFor 7 = some 0 := by decide
    have hstored := h quietEnv ⟨1, 10000⟩ _ 0 7 3 132 (advertiseWaiting_sound 3 132) hhead hk
    exact absurd ((storesDuration_iff (advertiseWaiting_sound 3 132) hhead hk).mp hstored)
      (by decide)
  · intro h
    have hfield : (4, 60) ∈ (AppCall.sendConnect lwipTest 60 0).numbers bootWorld.client.pktId :=
      List.mem_singleton.mpr rfl
    have hsent := h quietEnv _ _ _ 4 60 (connectSent_run 60) hfield
    exact absurd ((sendsMsbFirst_iff (connectSent_run 60) hfield).mp hsent) (by decide)

end MqttSnClient
