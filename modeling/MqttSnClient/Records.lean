import MqttSnClient.Queues
import MqttSnClient.Touches

namespace MqttSnClient
open Memory Bytes

variable {tick : UInt32} {env : Env} {w w' : World}

/-- The record of a PUBLISH that waits for its PUBACK. -/
def PubInfor.recorded (p : PubInfor) (topicId : UInt16) (data : DataPtr) (dataLen : UInt16)
    (retain : UInt8) : PubInfor :=
  { p with
    data := data, dataLenth := dataLen, qos := 1, dup := 1, retain := retain, topicId := topicId }

/-- A PUBLISH with QoS 1 is recorded and has its timer armed; another one has neither. -/
theorem mqttSnSendPublish_record {topicId : UInt16} {topicType : UInt8} {data : DataPtr}
    {dataLen : UInt16} {qos : Int8} {retain dup : UInt8}
    (h : mqttSnSendPublish env topicId topicType data dataLen qos retain dup w = .ok w') :
    w'.sent = w.sent ++ [⟨w.remoteIp, w.remotePort, publishMsg
        (publishFlags topicType qos retain dup) topicId w.client.pktId
        (data.read env dataLen.toNat)⟩] ∧
      (qos = 1 ∧ w'.publishinfor = w.publishinfor.recorded topicId data dataLen retain ∧
          w'.systime = (timerAdd (env.tick 0) timerModeSingle 10000 .publishTimeoutCb .publishinfor
            timerIdOfPublish w.systime).2 ∨
        qos ≠ 1 ∧ w'.publishinfor = w.publishinfor ∧ w'.systime = w.systime) := by
  simp only [mqttSnSendPublish] at h
  split_ifs at h with _ hqos
  · cases h
    exact ⟨rfl, Or.inl ⟨hqos, by rw [hqos]; rfl, rfl⟩⟩
  · cases h
    exact ⟨rfl, Or.inr ⟨hqos, rfl, rfl⟩⟩

theorem mqttSnSendPublish_fits {dataLen : UInt16} (h : dataLen.toNat ≤ mqttSnMaxPayloadLength)
    (env : Env) (topicId : UInt16) (topicType : UInt8) (data : DataPtr) (qos : Int8)
    (retain dup : UInt8) (w : World) :
    ∃ w', mqttSnSendPublish env topicId topicType data dataLen qos retain dup w = .ok w' := by
  unfold mqttSnSendPublish
  rw [if_neg (Nat.not_lt.mpr h)]
  split_ifs
  · exact ⟨_, rfl⟩
  · exact ⟨_, rfl⟩

/-- Sending a recorded PUBLISH again leaves the record as it is. -/
theorem publish_again {p : PubInfor} (hqos : p.qos = 1) (hdup : p.dup = 1)
    (hp : w.publishinfor = p) (h : mqttSnClientPublishTimeoutCb env p w = .ok w') :
    w'.publishinfor = p := by
  obtain ⟨-, ⟨-, hrec, -⟩ | ⟨hno, -⟩⟩ := mqttSnSendPublish_record h
  · rw [hrec, hp]
    obtain ⟨data, dataLenth, topicId, topicType, qos, dup, retain⟩ := p
    exact (PubInfor.mk.injEq ..).mpr ⟨rfl, rfl, rfl, rfl, hqos.symm, hdup.symm, rfl⟩
  · exact absurd hqos hno

/-- The record of a SUBSCRIBE that waits for its SUBACK. -/
def SubInfor.recorded (s : SubInfor) (topic : List UInt8) : SubInfor where
  subscri := memcpy s.subscri 0 topic
  qos := 1
  dup := 1

theorem mqttSnSendSubscribeTopicName_record {topicName : CString} {qos : Int8} {dup : UInt8}
    (h : mqttSnSendSubscribeTopicName env topicName qos dup w = .ok w') :
    w'.sent = w.sent ++ [⟨w.remoteIp, w.remotePort, subscribeMsg mqttSnTypeSubscribe
        (mqttSnTopicTypeNormal ||| qosFlags qos ||| dupFlag dup) w.client.pktId
        topicName.bytes⟩] ∧ topicName.strlen ≤ mqttSnMaxTopicLength ∧
      (qos = 1 ∧ w'.subscribeInfor = w.subscribeInfor.recorded (topicName.bytes ++ [0]) ∧
          w'.systime = (timerAdd (env.tick 0) timerModeSingle 10000 .subscribeTimeoutCb
            .subscribeInfor timerIdOfPublish w.systime).2 ∨
        qos ≠ 1 ∧ w'.subscribeInfor = w.subscribeInfor ∧ w'.systime = w.systime) := by
  simp only [mqttSnSendSubscribeTopicName] at h
  split_ifs at h with hlen hqos
  · cases h
    exact ⟨rfl, by omega, Or.inl ⟨hqos, by rw [hqos]; rfl, rfl⟩⟩
  · cases h
    exact ⟨rfl, by omega, Or.inr ⟨hqos, rfl, rfl⟩⟩

theorem mqttSnSendSubscribeTopicName_fits {topicName : CString}
    (h : topicName.strlen ≤ mqttSnMaxTopicLength) (env : Env) (qos : Int8) (dup : UInt8)
    (w : World) : ∃ w', mqttSnSendSubscribeTopicName env topicName qos dup w = .ok w' := by
  unfold mqttSnSendSubscribeTopicName
  rw [if_neg (Nat.not_lt.mpr h)]
  split_ifs
  · exact ⟨_, rfl⟩
  · exact ⟨_, rfl⟩

theorem mqttSnSendSubscribeTopicId_record (env : Env) (topicId : UInt16) (qos : Int8)
    (dup : UInt8) (w : World) :
    (mqttSnSendSubscribeTopicId env topicId qos dup w).sent = w.sent ++
        [⟨w.remoteIp, w.remotePort, subscribeMsg mqttSnTypeSubscribe
          (mqttSnTopicTypePredefined ||| qosFlags qos ||| dupFlag dup) w.client.pktId
          (le16 topicId)⟩] ∧
      (qos = 1 ∧ (mqttSnSendSubscribeTopicId env topicId qos dup w).subscribeInfor =
            w.subscribeInfor.recorded (le16 topicId) ∧
          (mqttSnSendSubscribeTopicId env topicId qos dup w).systime =
            (timerAdd (env.tick 0) timerModeSingle 10000 .subscribeTimeoutIdCb .subscribeInfor
              timerIdOfPublish w.systime).2 ∨
        qos ≠ 1 ∧
          (mqttSnSendSubscribeTopicId env topicId qos dup w).subscribeInfor = w.subscribeInfor ∧
          (mqttSnSendSubscribeTopicId env topicId qos dup w).systime = w.systime) := by
  simp only [mqttSnSendSubscribeTopicId]
  split_ifs with hqos
  · exact ⟨rfl, Or.inl ⟨hqos, by rw [hqos]; rfl, rfl⟩⟩
  · exact ⟨rfl, Or.inr ⟨hqos, rfl, rfl⟩⟩

/-- The name that a record holds stands there with its terminator. -/
theorem SubInfor.topicName_stands {s : SubInfor} (hqos : s.qos = 1) (hdup : s.dup = 1)
    {name : CString} (h : s.topicName = some name) :
    memcpy s.subscri 0 (name.bytes ++ [0]) = s.subscri := by
  obtain ⟨rest, hrest⟩ := CString.ofMemory_spec h
  rw [hqos, hdup] at hrest
  have hcell : ∀ i : ℕ, (slice s.subscri 0 mqttSnMaxTopicLength ++
      [(1 : Int8).toUInt8, (1 : Int8).toUInt8])[i]? = (name.bytes ++ 0 :: rest)[i]? := by
    intro i
    rw [hrest]
  -- the terminator is none of the two bytes behind the union
  have hlt : name.bytes.length < mqttSnMaxTopicLength := by
    by_contra hge
    have hzero := hcell name.bytes.length
    rw [List.getElem?_append_right (by simpa using hge), List.getElem?_append_right le_rfl,
      Nat.sub_self, slice_length, List.getElem?_cons_zero] at hzero
    have hmem := List.mem_of_getElem? hzero
    revert hmem
    decide
  refine memcpy_self _ _ _ fun i hi => ?_
  rw [List.length_append, List.length_singleton] at hi
  have hget := hcell i
  rw [List.getElem?_append_left (by rw [slice_length]; omega),
    List.getElem?_eq_getElem (by rw [slice_length]; omega), slice_getElem] at hget
  have hpre : (name.bytes ++ 0 :: rest)[i]? = (name.bytes ++ [0])[i]? := by
    rw [show name.bytes ++ 0 :: rest = name.bytes ++ [0] ++ rest by simp,
      List.getElem?_append_left (by simpa using hi)]
  rw [hpre, List.getElem?_eq_getElem (by simpa using hi)] at hget
  exact Option.some.inj hget

theorem SubInfor.recorded_self {s : SubInfor} (hqos : s.qos = 1) (hdup : s.dup = 1)
    {topic : List UInt8} (h : memcpy s.subscri 0 topic = s.subscri) : s.recorded topic = s := by
  obtain ⟨subscri, qos, dup⟩ := s
  exact (SubInfor.mk.injEq ..).mpr ⟨h, hqos.symm, hdup.symm⟩

/-- Sending a recorded SUBSCRIBE again leaves the record as it is, whichever of the two
callbacks does it. -/
theorem subscribe_again (hqos : w.subscribeInfor.qos = 1) (hdup : w.subscribeInfor.dup = 1)
    (h : mqttSnClientSubscribeTimeoutCb env w = .ok w') : w'.subscribeInfor = w.subscribeInfor := by
  obtain ⟨name, hname, hsend⟩ := mqttSnClientSubscribeTimeoutCb_ok h
  obtain ⟨-, -, ⟨-, hrec, -⟩ | ⟨hno, -⟩⟩ := mqttSnSendSubscribeTopicName_record hsend
  · exact hrec.trans (SubInfor.recorded_self hqos hdup (SubInfor.topicName_stands hqos hdup hname))
  · exact absurd hqos hno

theorem subscribe_id_again (hqos : w.subscribeInfor.qos = 1) (hdup : w.subscribeInfor.dup = 1) :
    (mqttSnClientSubscribeTimeoutIdCb env w).subscribeInfor = w.subscribeInfor := by
  obtain ⟨-, ⟨-, hrec, -⟩ | ⟨hno, -⟩⟩ := mqttSnSendSubscribeTopicId_record env
    w.subscribeInfor.topicId w.subscribeInfor.qos w.subscribeInfor.dup.toUInt8 w
  · have hstands : memcpy w.subscribeInfor.subscri 0 (le16 w.subscribeInfor.topicId) =
        w.subscribeInfor.subscri := by
      rw [SubInfor.topicId, le16_u16At]
      refine memcpy_self _ _ _ fun i hi => ?_
      match i, hi with
      | 0, _ => rfl
      | 1, _ => rfl
    exact hrec.trans (SubInfor.recorded_self hqos hdup hstands)
  · exact absurd hqos hno

/-- The timers that the handler of PUBACK arms carry the address of the client. -/
theorem apiPubackPress_timers (h : apiPubackPress env w = .ok w') :
    TimerActs (fun t => t.arg = .client) (· = timerIdOfPublish) w.systime w'.systime := by
  rcases press_ok h with ⟨-, -, -, hbody⟩ | ⟨-, rfl⟩
  · split_ifs at hbody <;> cases hbody
    · exact .cancel _ .refl rfl
    · exact .add _ _ _ _ _ _ (.cancel _ .refl rfl) rfl
    · exact .cancel _ .refl rfl
    · exact .cancel _ .refl rfl
    · exact .refl
  · exact .refl

end MqttSnClient
