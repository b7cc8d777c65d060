import MqttSnClient.Acknowledgement
import MqttSnClient.Confinement
import MqttSnClient.MainLoop

namespace MqttSnClient
open Memory Bytes

structure PublishFrame (fr : List UInt8) : Prop where
  size : 7 ≤ fr.length
  begins : BeginsWithLenth fr
  type : fr[1]? = some mqttSnTypePublish

/-- The seven bytes of a PUBACK that accepts a message. -/
structure PubackFor (topicId messageId : UInt16) (data : List UInt8) : Prop where
  size : data.length = 7
  lenth : asArray data 0 = 7
  type : asArray data 1 = mqttSnTypePuback
  topicId_eq : u16At (asArray data) 2 = topicId
  messageId_eq : u16At (asArray data) 4 = messageId
  accepted : asArray data 6 = mqttSnAccepted

/-- The client's own handler takes the bytes for the PUBACK of a message, in any state in which
they are the next frame, and clears the message where it waits for it. -/
def ReadAsPuback (topicId messageId : UInt16) (data : List UInt8) : Prop :=
  ∀ env w, Sound w → w.headFrame = some data →
    Api.puback.ackFound env w = some (.publish, messageId) ∧
      u16At (memcpy env.inputdata 0 data) 2 = topicId ∧
      (w.client.status = .connected → w.client.inpubPktId .publish = messageId →
        ∃ u, apiPubackPress env w = .ok u ∧ u.client.inpubPktId .publish = 0)

/-- A PUBLISH of level 1 is answered with one PUBACK for its topic id and its message id, which
the client would recognise; a PUBLISH of another level is not answered. -/
def AnsweredPerQos (env : Env) (w : World) (fr : List UInt8) : Prop :=
  ∃ u, apiPublishPress env w = .ok u ∧
    if asArray fr 2 &&& mqttSnFlagQosMask = mqttSnFlagQos1 then
      ∃ pk, newlySent w u = [pk] ∧
        PubackFor (u16At (asArray fr) 3) (u16At (asArray fr) 5) pk.data ∧
        ReadAsPuback (u16At (asArray fr) 3) (u16At (asArray fr) 5) pk.data
    else newlySent w u = []

variable {env : Env} {w : World} {fr : List UInt8}

/-- A field of a frame in the array that it was read into. -/
theorem u16At_asArray (f : ℕ → UInt8) {i : ℕ} (hi : i + 1 < fr.length) :
    u16At (memcpy f 0 fr) i = u16At (asArray fr) i := by
  unfold u16At
  rw [memcpy_getD f (Nat.lt_of_succ_lt hi), memcpy_getD f hi]
  rfl

theorem asArray_of_getElem? {i : ℕ} {b : UInt8} (h : fr[i]? = some b) : asArray fr i = b := by
  rw [asArray, List.getD_eq_getElem?_getD, h, Option.getD_some]

theorem suback_ne_puback : mqttSnTypeSuback ≠ mqttSnTypePuback := by decide

/-- Level 1 has the bit that the handler tests. -/
theorem qos1_bit {flags : UInt8} (h : flags &&& mqttSnFlagQosMask = mqttSnFlagQos1) :
    flags &&& mqttSnFlagQos1 ≠ 0 := by
  intro hbit
  have hmask : mqttSnFlagQosMask &&& mqttSnFlagQos1 = mqttSnFlagQos1 := by decide
  have hboth : flags &&& mqttSnFlagQos1 = mqttSnFlagQos1 := by
    calc flags &&& mqttSnFlagQos1
        = flags &&& (mqttSnFlagQosMask &&& mqttSnFlagQos1) := by rw [hmask]
      _ = mqttSnFlagQos1 &&& mqttSnFlagQos1 := by rw [← UInt8.and_assoc, h]
      _ = mqttSnFlagQos1 := by decide
  rw [hboth] at hbit
  exact absurd hbit (by decide)

/-- What the handler sends: seven bytes with the type of a SUBACK, for all flags with the low
bit of the two. -/
theorem publish_press_sent (hw : Sound w) (hhead : w.headFrame = some fr) (hfr : PublishFrame fr)
    (env : Env) : ∃ u, apiPublishPress env w = .ok u ∧
      newlySent w u = if asArray fr 2 &&& mqttSnFlagQos1 = 0 then [] else
        [⟨w.remoteIp, w.remotePort, [7, mqttSnTypeSuback] ++ le16 (u16At (asArray fr) 3) ++
          le16 (u16At (asArray fr) 5) ++ [mqttSnAccepted]⟩] := by
  have hsize := hfr.size
  have htype : memcpy env.inputdata 0 fr 1 = mqttSnTypePublish := by
    rw [memcpy_getD _ (by omega)]
    exact asArray_of_getElem? hfr.type
  have hrun : apiPublishPress env w = if asArray fr 2 &&& mqttSnFlagQos1 ≠ 0 then
      .ok (mqttSnSendPublishack (u16At (asArray fr) 5) (u16At (asArray fr) 3) 0
        (w.consumed (nextFrame env w)))
      else .ok (w.consumed (nextFrame env w)) := by
    rw [apiPublishPress, press_eq hw hhead, if_pos rfl, if_pos hfr.begins,
      memcpy_getD _ (by omega : 2 < fr.length), u16At_asArray _ (by omega : 3 + 1 < fr.length),
      u16At_asArray _ (by omega : 5 + 1 < fr.length)]
    simp only [htype, true_and]
    rfl
  by_cases hbit : asArray fr 2 &&& mqttSnFlagQos1 = 0
  · rw [if_neg (not_not_intro hbit)] at hrun
    refine ⟨_, hrun, ?_⟩
    rw [if_pos hbit]
    exact newlySent_self w
  · rw [if_pos hbit] at hrun
    refine ⟨_, hrun, ?_⟩
    rw [if_neg hbit]
    exact newlySent_of_append rfl

/-- The handler of PUBACK reads the fields from where such an answer has them. -/
theorem PubackFor.read_back {topicId messageId : UInt16} {data : List UInt8}
    (h : PubackFor topicId messageId data) : ReadAsPuback topicId messageId data := by
  intro env w hw hhead
  have hsize := h.size
  have htype : memcpy env.inputdata 0 data 1 = mqttSnTypePuback :=
    (memcpy_getD _ (by omega)).trans h.type
  have hmid : u16At (memcpy env.inputdata 0 data) 4 = messageId :=
    (u16At_asArray _ (by omega)).trans h.messageId_eq
  have hcode : memcpy env.inputdata 0 data 6 = mqttSnAccepted :=
    (memcpy_getD _ (by omega)).trans h.accepted
  refine ⟨?_, (u16At_asArray _ (by omega)).trans h.topicId_eq, fun hstatus hpending => ?_⟩
  · simp only [Api.ackFound, hhead, Option.bind_some]
    rw [if_pos htype, hmid]
  · have hbegins : BeginsWithLenth data := by
      rw [beginsWithLenth_iff (by omega), hsize]
      exact h.lenth
    have hstatus' : (w.consumed (nextFrame env w)).client.status = .connected := hstatus
    have hpending' : (w.consumed (nextFrame env w)).client.inpubPktId .publish = messageId :=
      hpending
    rw [apiPubackPress, press_eq hw hhead, if_pos rfl, if_pos hbegins]
    simp only [id, htype, hmid, hcode, hstatus', hpending', and_self, if_true]
    refine ⟨_, rfl, ?_⟩
    show Function.update w.client.inpubPktId .publish 0 .publish = 0
    exact Function.update_self _ _ _

/-- A PUBLISH is acknowledged as its quality of service asks exactly where the low bit of the
level is clear, so that nothing is to be sent. -/
theorem publish_answered_iff (hw : Sound w) (hhead : w.headFrame = some fr)
    (hfr : PublishFrame fr) (env : Env) :
    AnsweredPerQos env w fr ↔ asArray fr 2 &&& mqttSnFlagQos1 = 0 := by
  obtain ⟨u, hrun, hsent⟩ := publish_press_sent hw hhead hfr env
  constructor
  · rintro ⟨v, hv, hanswer⟩
    obtain rfl : u = v := Except.ok.inj (hrun.symm.trans hv)
    by_contra hbit
    rw [if_neg hbit] at hsent
    by_cases hqos : asArray fr 2 &&& mqttSnFlagQosMask = mqttSnFlagQos1
    -- level 1 is answered with the wrong type, level -1 is answered at all
    · rw [if_pos hqos] at hanswer
      obtain ⟨pk, hpk, hpuback, -⟩ := hanswer
      obtain rfl := (List.cons.inj (hsent.symm.trans hpk)).1
      exact suback_ne_puback hpuback.type
    · rw [if_neg hqos, hsent] at hanswer
      exact List.cons_ne_nil _ _ hanswer
  · intro hbit
    rw [if_pos hbit] at hsent
    refine ⟨u, hrun, ?_⟩
    rw [if_neg fun hqos => qos1_bit hqos hbit]
    exact hsent

/-- A PUBLISH on topic 1 waits to be handled. -/
def publishWaiting (flags : UInt8) : World :=
  (udpServerRecvCb quietEnv (datagram [7, mqttSnTypePublish, flags, 1, 0, 5, 0]) 0 10000 bootWorld).2

theorem publishWaiting_sound (flags : UInt8) : Sound (publishWaiting flags) :=
  udpServerRecvCb_sound (mqttClientInit_booted bootWorld_init).sound _ _ _ _

/-- With level 2 it is rightly not answered. -/
theorem publish_answered_qos2 : AnsweredPerQos quietEnv (publishWaiting mqttSnFlagQos2)
    [7, mqttSnTypePublish, mqttSnFlagQos2, 1, 0, 5, 0] :=
  (publish_answered_iff (publishWaiting_sound _) (by decide)
    ⟨by decide, by decide, by decide⟩ quietEnv).mpr (by decide)

/-- With level 1 it is answered with a SUBACK. -/
theorem qos1_answered_with_suback :
    ¬∀ env w fr, Sound w → w.headFrame = some fr → PublishFrame fr → AnsweredPerQos env w fr := by
  intro h
  have hframe : PublishFrame [7, mqttSnTypePublish, mqttSnFlagQos1, 1, 0, 5, 0] :=
    ⟨by decide, by decide, by decide⟩
  have hhead : (publishWaiting mqttSnFlagQos1).headFrame =
      some [7, mqttSnTypePublish, mqttSnFlagQos1, 1, 0, 5, 0] := by decide
  obtain ⟨u, hrun, hanswer⟩ := h quietEnv _ _ (publishWaiting_sound _) hhead hframe
  obtain ⟨v, hv, hsent⟩ := publish_press_sent (publishWaiting_sound _) hhead hframe quietEnv
  obtain rfl : u = v := Except.ok.inj (hrun.symm.trans hv)
  rw [if_pos (by decide)] at hanswer
  obtain ⟨pk, hpk, hpuback, -⟩ := hanswer
  rw [if_neg (by decide)] at hsent
  obtain rfl := (List.cons.inj (hsent.symm.trans hpk)).1
  exact suback_ne_puback hpuback.type

end MqttSnClient
