import MqttSnClient.System

namespace MqttSnClient
open Bytes

section Returns

variable {env : Env} {topics : Topics} {w w' : World}

/-- A turn of `mqtt_sn_send_register_cb` sends for a topic that is registering, or does nothing. -/
theorem registerTurn_ok {i : ℕ} (h : registerTurn env topics w i = .ok w') :
    w' = w ∨ ∃ name t, topics.names[i]? = some name ∧ w.topicMap.toppiclist[i]? = some t ∧
      t.status = .registering ∧ mqttSnSendRegister (env.tick i) name w = .ok w' := by
  unfold registerTurn at h
  split at h
  · rename_i name t hname ht
    split_ifs at h with hst
    · exact Or.inr ⟨name, t, hname, ht, hst, h⟩
    · cases h
      exact Or.inl rfl
  · cases h
    exact Or.inl rfl

theorem mqttSnSendConnectCb_ok (h : mqttSnSendConnectCb env w = .ok w') :
    w.client.status = .connected ∧ w' = w ∨ w.client.status ≠ .connected ∧
      mqttSnSendConnect (env.tick 0) lwipTest 60 (env.flag ||| mqttSnFlagClean) w = .ok w' := by
  unfold mqttSnSendConnectCb at h
  split_ifs at h with hst
  · cases h
    exact Or.inl ⟨hst, rfl⟩
  · exact Or.inr ⟨hst, h⟩

theorem mqttSnClientSubscribeTimeoutCb_ok (h : mqttSnClientSubscribeTimeoutCb env w = .ok w') :
    ∃ name, w.subscribeInfor.topicName = some name ∧
      mqttSnSendSubscribeTopicName env name w.subscribeInfor.qos w.subscribeInfor.dup.toUInt8 w =
        .ok w' := by
  unfold mqttSnClientSubscribeTimeoutCb at h
  split at h
  · rename_i name hname
    exact ⟨name, hname, h⟩
  · cases h

theorem appendGateway_ok {g : GwInfor} {gwid : UInt8} {keepalive : UInt16}
    (h : appendGateway g gwid keepalive w = .ok w') :
    ∃ r, gwListappend w.client.cyclicTick g.addr g.port gwid keepalive w.gwList = some r ∧
      w' = { w with gwList := r.2 } := by
  unfold appendGateway at h
  split at h
  · rename_i r hr
    cases h
    exact ⟨r, hr, rfl⟩
  · cases h

/-- `registeralltopic` registers the first topic that no one registered, while none is
registering. -/
theorem registeralltopic_ok (h : registeralltopic env topics w = .ok w') :
    ((∃ t ∈ w.topicMap.toppiclist, t.status = .registering) ∨
      ∀ i, w.topicMap.toppiclist.findIdx? (fun t => t.status = .unregister) = some i →
        topics.names[i]? = none) ∧ w' = w ∨
    (∀ t ∈ w.topicMap.toppiclist, t.status ≠ .registering) ∧ ∃ i name u,
      w.topicMap.toppiclist.findIdx? (fun t => t.status = .unregister) = some i ∧
      topics.names[i]? = some name ∧ mqttSnSendRegister (env.tick 0) name w = .ok u ∧
      w' = { u with topicMap := (topicidRegistering name u.topicMap).2 } := by
  unfold registeralltopic at h
  split_ifs at h with hany
  · obtain ⟨t, ht, hst⟩ := List.any_eq_true.mp hany
    cases h
    exact Or.inl ⟨Or.inl ⟨t, ht, of_decide_eq_true hst⟩, rfl⟩
  · have hnone : ∀ t ∈ w.topicMap.toppiclist, t.status ≠ .registering := by
      intro t ht hst
      exact hany (List.any_eq_true.mpr ⟨t, ht, decide_eq_true hst⟩)
    split at h
    · rename_i i hfind
      split at h
      · rename_i name hname
        obtain ⟨u, hsend, h⟩ := Runs.bind_ok.mp h
        cases h
        exact Or.inr ⟨hnone, i, name, u, hfind, hname, hsend, rfl⟩
      · rename_i hname
        cases h
        refine Or.inl ⟨Or.inr fun j hj => ?_, rfl⟩
        obtain rfl := Option.some.inj (hfind.symm.trans hj)
        exact hname
    · rename_i hfind
      cases h
      refine Or.inl ⟨Or.inr fun j hj => ?_, rfl⟩
      cases hfind.symm.trans hj

def World.ticked (w : World) : World :=
  { w with
    client := { w.client with cyclicTick := w.client.cyclicTick + 1 }
    gwList := gwListupdata (w.client.cyclicTick + 1) w.gwList }

def World.watchedDown (w : World) : World :=
  { w with client := { w.client with serverWatchdog := w.client.serverWatchdog - 1 } }

theorem mqttSnClientCyclic_ok (h : mqttSnClientCyclic env topics w = .ok w') :
    w.client.status ≠ .connected ∧ w' = w.ticked ∨
      w.client.status = .connected ∧ ∃ u, registeralltopic env topics w.ticked = .ok u ∧
        (u.client.serverWatchdog - 1 ≠ 0 ∧ w' = u.watchedDown ∨
          u.client.serverWatchdog - 1 = 0 ∧
            w' = mqttSnSendPingreq (env.tick 1) weakup u.watchedDown) := by
  simp only [mqttSnClientCyclic] at h
  split_ifs at h with hst
  · obtain ⟨u, hreg, h⟩ := Runs.bind_ok.mp h
    refine Or.inr ⟨hst, u, hreg, ?_⟩
    split_ifs at h with hzero
    · cases h
      exact Or.inr ⟨hzero, rfl⟩
    · cases h
      exact Or.inl ⟨hzero, rfl⟩
  · cases h
    exact Or.inl ⟨hst, rfl⟩

end Returns

/-- The ID that timers of a callback are armed with. -/
def Callback.armedID : Callback → UInt8
  | .null | .press _ | .cyclicCb => 0
  | .pingreqTimeoutCb => timerIdOfPingreq
  | .sendConnectCb => timerIdOfConncet
  | .sendRegisterCb => timerIdOfRegister
  | .publishTimeoutCb | .subscribeTimeoutCb | .subscribeTimeoutIdCb => timerIdOfPublish

/-- The pointers that timers of a callback are armed with. -/
def Callback.takes : Callback → List Arg
  | .null => []
  | .press _ => [.gw]
  | .sendConnectCb | .sendRegisterCb | .pingreqTimeoutCb => [.client]
  | .publishTimeoutCb => [.publishinfor, .client]
  | .subscribeTimeoutCb | .subscribeTimeoutIdCb => [.subscribeInfor]
  | .cyclicCb => [.null]

/-- A timer as the client arms it. -/
structure TimerOk (t : SwTimer Callback Arg) : Prop where
  id_eq : t.timerID = t.timerCallback.armedID
  loop_eq : t.loop = if t.timerCallback = .cyclicCb then timerModeLoop else timerModeSingle
  arg_mem : t.arg ∈ t.timerCallback.takes

/-- A timer of one of the callbacks `K`. -/
def Armed (K : List Callback) (t : SwTimer Callback Arg) : Prop :=
  TimerOk t ∧ t.timerCallback ∈ K

/-- The callbacks that a callback arms timers of. -/
def Callback.arms : Callback → List Callback
  | .press .regack => [.sendRegisterCb]
  | .press .puback => [.publishTimeoutCb]
  | .press _ | .null => []
  | .cyclicCb => [.sendRegisterCb, .pingreqTimeoutCb]
  | cb => [cb]

/-- The IDs that a callback cancels. -/
def Callback.cancels : Callback → List UInt8
  | .press .connack => [timerIdOfConncet]
  | .press .regack => [timerIdOfRegister]
  | .press .puback => [timerIdOfPublish]
  | .press .suback => [timerIdOfSubscribe]
  | .press .disconnet => [timerIdOfDisconncet]
  | .press .pingres => [timerIdOfPingreq]
  | _ => []

def AppCall.arms : AppCall → List Callback
  | .sendConnect _ _ _ => [.sendConnectCb]
  | .sendRegister _ => [.sendRegisterCb]
  | .sendPingreq _ => [.pingreqTimeoutCb]
  | .sendPublish _ _ _ _ _ _ _ => [.publishTimeoutCb]
  | .sendSubscribeTopicName _ _ _ => [.subscribeTimeoutCb]
  | .sendSubscribeTopicId _ _ _ => [.subscribeTimeoutIdCb]
  | _ => []

/-- The step arms timers of `K`, cancels IDs of `C`, and leaves the receive queues alone. -/
structure Acts (K : List Callback) (C : List UInt8) (w w' : World) : Prop where
  timers : TimerActs (Armed K) (· ∈ C) w.systime w'.systime
  rxBuffer : w'.client.rxBuffer = w.client.rxBuffer
  buffBody : w'.buffBody = w.buffBody

namespace Acts

variable {K L : List Callback} {C D : List UInt8} {w w' w'' : World}

theorem same (hs : w'.systime = w.systime) (hr : w'.client.rxBuffer = w.client.rxBuffer)
    (hb : w'.buffBody = w.buffBody) : Acts K C w w' :=
  ⟨hs ▸ .refl, hr, hb⟩

theorem refl (w : World) : Acts K C w w := .same rfl rfl rfl

theorem trans (h : Acts K C w w') (h' : Acts K C w' w'') : Acts K C w w'' :=
  ⟨h.timers.trans h'.timers, h'.rxBuffer.trans h.rxBuffer, h'.buffBody.trans h.buffBody⟩

theorem mono (hK : K ⊆ L) (hC : C ⊆ D) (h : Acts K C w w') : Acts L D w w' :=
  ⟨h.timers.mono (fun _ ht => ⟨ht.1, hK ht.2⟩) fun _ hi => hC hi, h.rxBuffer, h.buffBody⟩

theorem add {tick timeout : UInt32} {cb : Callback} {arg : Arg} {timerID : UInt8}
    (h : Acts K C w w')
    (hok : cb ∈ K ∧ cb ≠ .cyclicCb ∧ timerID = cb.armedID ∧ arg ∈ cb.takes) :
    Acts K C w (addTimer tick timerModeSingle timeout cb arg timerID w') :=
  ⟨.add _ _ _ _ _ _ h.timers ⟨⟨hok.2.2.1, by rw [if_neg hok.2.1], hok.2.2.2⟩, hok.1⟩,
    h.rxBuffer, h.buffBody⟩

theorem cancel {timerID : UInt8} (h : Acts K C w w') (hid : timerID ∈ C) :
    Acts K C w (cancelTimer timerID w') :=
  ⟨.cancel _ h.timers hid, h.rxBuffer, h.buffBody⟩

theorem reload {tick : UInt32} {timerID : UInt8} (h : Acts K C w w') :
    Acts K C w (reloadTimer tick timerID w') :=
  ⟨.reload _ _ h.timers, h.rxBuffer, h.buffBody⟩

end Acts

theorem mqttSnSendConnect_acts {tick : UInt32} {clientId : CString} {keepalive : UInt16}
    {flags : UInt8} {w w' : World}
    (h : mqttSnSendConnect tick clientId keepalive flags w = .ok w') :
    Acts [.sendConnectCb] [] w w' := by
  simp only [mqttSnSendConnect] at h
  split_ifs at h
  cases h
  exact .add (.same rfl rfl rfl) (by decide)

theorem mqttSnSendRegister_acts {tick : UInt32} {topicName : CString} {w w' : World}
    (h : mqttSnSendRegister tick topicName w = .ok w') : Acts [.sendRegisterCb] [] w w' := by
  simp only [mqttSnSendRegister] at h
  split_ifs at h
  cases h
  exact .add (.same rfl rfl rfl) (by decide)

theorem registerTurn_acts {env : Env} {topics : Topics} {w w' : World} {i : ℕ}
    (h : registerTurn env topics w i = .ok w') : Acts [.sendRegisterCb] [] w w' := by
  rcases registerTurn_ok h with rfl | ⟨_, _, -, -, -, hsend⟩
  · exact .refl _
  · exact mqttSnSendRegister_acts hsend

theorem mqttSnSendRegisterCb_acts {env : Env} {topics : Topics} {w w' : World}
    (h : mqttSnSendRegisterCb env topics w = .ok w') : Acts [.sendRegisterCb] [] w w' :=
  Runs.foldlM_ok (R := Acts [.sendRegisterCb] []) .refl Acts.trans
    registerTurn_acts h

theorem mqttSnSendPublish_acts {env : Env} {topicId : UInt16} {topicType : UInt8} {data : DataPtr}
    {dataLen : UInt16} {qos : Int8} {retain dup : UInt8} {w w' : World}
    (h : mqttSnSendPublish env topicId topicType data dataLen qos retain dup w = .ok w') :
    Acts [.publishTimeoutCb] [] w w' := by
  simp only [mqttSnSendPublish] at h
  split_ifs at h
  · cases h
    exact .add (.same rfl rfl rfl) (by decide)
  · cases h
    exact .same rfl rfl rfl

theorem mqttSnSendSubscribeTopicName_acts {env : Env} {topicName : CString} {qos : Int8}
    {dup : UInt8} {w w' : World}
    (h : mqttSnSendSubscribeTopicName env topicName qos dup w = .ok w') :
    Acts [.subscribeTimeoutCb] [] w w' := by
  simp only [mqttSnSendSubscribeTopicName] at h
  split_ifs at h
  · cases h
    exact .add (.same rfl rfl rfl) (by decide)
  · cases h
    exact .same rfl rfl rfl

theorem mqttSnSendSubscribeTopicId_acts (env : Env) (topicId : UInt16) (qos : Int8) (dup : UInt8)
    (w : World) :
    Acts [.subscribeTimeoutIdCb] [] w (mqttSnSendSubscribeTopicId env topicId qos dup w) := by
  simp only [mqttSnSendSubscribeTopicId]
  split_ifs
  · exact .add (.same rfl rfl rfl) (by decide)
  · exact .same rfl rfl rfl

theorem mqttSnSendPingreq_acts (tick : UInt32) (mode : UInt8) (w : World) :
    Acts [.pingreqTimeoutCb] [] w (mqttSnSendPingreq tick mode w) :=
  .add (.same rfl rfl rfl) (by decide)

theorem mqttSnSendWilltopic_acts {K : List Callback} {C : List UInt8} {topicName : CString}
    {w w' : World} (h : mqttSnSendWilltopic topicName w = .ok w') : Acts K C w w' := by
  simp only [mqttSnSendWilltopic] at h
  split_ifs at h
  cases h
  exact .same rfl rfl rfl

theorem mqttSnSendWillMSG_acts {K : List Callback} {C : List UInt8} {topicName : CString}
    {w w' : World} (h : mqttSnSendWillMSG topicName w = .ok w') : Acts K C w w' := by
  simp only [mqttSnSendWillMSG] at h
  split_ifs at h
  cases h
  exact .same rfl rfl rfl

theorem mqttSnSendUnsubscribeTopicName_acts {K : List Callback} {C : List UInt8}
    {topicName : CString} {w w' : World}
    (h : mqttSnSendUnsubscribeTopicName topicName w = .ok w') : Acts K C w w' := by
  simp only [mqttSnSendUnsubscribeTopicName] at h
  split_ifs at h
  cases h
  exact .same rfl rfl rfl

theorem registeralltopic_acts {env : Env} {topics : Topics} {w w' : World}
    (h : registeralltopic env topics w = .ok w') : Acts [.sendRegisterCb] [] w w' := by
  rcases registeralltopic_ok h with ⟨-, rfl⟩ | ⟨-, _, _, u, -, -, hsend, rfl⟩
  · exact .refl _
  · exact (mqttSnSendRegister_acts hsend).trans (.same rfl rfl rfl)

theorem mqttSnClientCyclic_acts {env : Env} {topics : Topics} {w w' : World}
    (h : mqttSnClientCyclic env topics w = .ok w') :
    Acts [.sendRegisterCb, .pingreqTimeoutCb] [] w w' := by
  rcases mqttSnClientCyclic_ok h with ⟨-, rfl⟩ | ⟨-, u, hreg, hend⟩
  · exact .same rfl rfl rfl
  · have hsub : Acts [.sendRegisterCb, .pingreqTimeoutCb] [] w.ticked u :=
      (registeralltopic_acts hreg).mono (by simp) (by simp)
    have hticked : Acts [.sendRegisterCb, .pingreqTimeoutCb] [] w w.ticked := .same rfl rfl rfl
    have hdown : Acts [.sendRegisterCb, .pingreqTimeoutCb] [] u u.watchedDown := .same rfl rfl rfl
    have hu := (hticked.trans hsub).trans hdown
    rcases hend with ⟨-, rfl⟩ | ⟨-, rfl⟩
    · exact hu
    · exact .add (hu.trans (.same rfl rfl rfl)) (by decide)

/-- How a handler that reads a frame ends. -/
theorem press_ok {pre : World → World} {fits : UInt8 → Bool}
    {body : (ℕ → UInt8) → World → Except Fault World} {env : Env} {w w' : World}
    (h : press pre fits body env w = .ok w') :
    ((nextFrame env w).result = errorNone ∧ fits (nextFrame env w).freamlenth = true ∧
        (nextFrame env w).inputdata 0 = (nextFrame env w).freamlenth ∧
        body (nextFrame env w).inputdata (pre (w.consumed (nextFrame env w))) = .ok w') ∨
      ¬((nextFrame env w).result = errorNone ∧ fits (nextFrame env w).freamlenth = true) ∧
        w' = pre (w.consumed (nextFrame env w)) := by
  simp only [press] at h
  split_ifs at h with hread hlen
  · exact Or.inl ⟨hread.1, hread.2, hlen, h⟩
  · cases h
    exact Or.inr ⟨hread, rfl⟩

theorem press_acts {K : List Callback} {C : List UInt8} {pre : World → World}
    {fits : UInt8 → Bool} {body : (ℕ → UInt8) → World → Except Fault World} {env : Env}
    {w w' : World} (h : press pre fits body env w = .ok w') (hpre : ∀ u, Acts K C u (pre u))
    (hbody : ∀ d u u', body d u = .ok u' → Acts K C u u') :
    Acts K C (w.consumed (nextFrame env w)) w' := by
  rcases press_ok h with ⟨-, -, -, h⟩ | ⟨-, rfl⟩
  · exact (hpre _).trans (hbody _ _ _ h)
  · exact hpre _

theorem appendGateway_acts {K : List Callback} {C : List UInt8} {g : GwInfor} {gwid : UInt8}
    {keepalive : UInt16} {w w' : World} (h : appendGateway g gwid keepalive w = .ok w') :
    Acts K C w w' := by
  obtain ⟨_, -, rfl⟩ := appendGateway_ok h
  exact .same rfl rfl rfl

theorem apiRegackPress_acts {env : Env} {w w' : World} (h : apiRegackPress env w = .ok w') :
    Acts [.sendRegisterCb] [timerIdOfRegister] (w.consumed (nextFrame env w)) w' := by
  refine press_acts h .refl fun d u u' hb => ?_
  have hcancel : Acts [.sendRegisterCb] [timerIdOfRegister] u (cancelTimer timerIdOfRegister u) :=
    .cancel (.refl u) (by simp)
  split_ifs at hb
  · cases hb
    exact hcancel.trans (.same rfl rfl rfl)
  · cases hb
    exact .add hcancel (by decide)
  · cases hb
    exact .add hcancel (by decide)
  · cases hb
    exact .same rfl rfl rfl

theorem apiPubackPress_acts {env : Env} {w w' : World} (h : apiPubackPress env w = .ok w') :
    Acts [.publishTimeoutCb] [timerIdOfPublish] (w.consumed (nextFrame env w)) w' := by
  refine press_acts h .refl fun d u u' hb => ?_
  have hcancel : ∀ v : World, v.systime = u.systime → v.client.rxBuffer = u.client.rxBuffer →
      v.buffBody = u.buffBody →
      Acts [.publishTimeoutCb] [timerIdOfPublish] u (cancelTimer timerIdOfPublish v) :=
    fun v hs hr hb => .cancel (.same hs hr hb) (by simp)
  split_ifs at hb
  · cases hb
    exact hcancel _ rfl rfl rfl
  · cases hb
    exact .add (hcancel _ rfl rfl rfl) (by decide)
  · cases hb
    exact (hcancel _ rfl rfl rfl).trans (.same rfl rfl rfl)
  · cases hb
    exact hcancel _ rfl rfl rfl
  · cases hb
    exact .same rfl rfl rfl

theorem apiGwinfoPress_acts {K : List Callback} {C : List UInt8} {g : GwInfor} {env : Env}
    {w w' : World} (h : apiGwinfoPress g env w = .ok w') :
    Acts K C (w.consumed (nextFrame env w)) w' := by
  refine press_acts h .refl fun d u u' hb => ?_
  split_ifs at hb
  · exact appendGateway_acts hb
  · cases hb
    exact .same rfl rfl rfl

theorem apiAdvertisePress_acts {K : List Callback} {C : List UInt8} {g : GwInfor} {env : Env}
    {w w' : World} (h : apiAdvertisePress g env w = .ok w') :
    Acts K C (w.consumed (nextFrame env w)) w' := by
  refine press_acts h .refl fun d u u' hb => ?_
  split_ifs at hb
  · exact appendGateway_acts hb
  · cases hb
    exact .same rfl rfl rfl

theorem apiConnackPress_acts {K : List Callback} {env : Env} {w w' : World}
    (h : apiConnackPress env w = .ok w') :
    Acts K [timerIdOfConncet] (w.consumed (nextFrame env w)) w' := by
  refine press_acts h (fun u => .cancel (.refl u) (by simp)) fun d u u' hb => ?_
  split_ifs at hb <;> cases hb <;> exact .same rfl rfl rfl

theorem willReqPress_acts {K : List Callback} {C : List UInt8} {type : UInt8}
    {send : CString → World → Except Fault World} {env : Env} {w w' : World}
    (hsend : ∀ {name u u'}, send name u = .ok u' → Acts K C u u')
    (h : willReqPress type send env w = .ok w') : Acts K C (w.consumed (nextFrame env w)) w' := by
  refine press_acts h (fun u => .reload (.refl u)) fun d u u' hb => ?_
  split_ifs at hb
  · exact hsend hb
  · cases hb
    exact .same rfl rfl rfl

theorem apiSubackPress_acts {K : List Callback} {env : Env} {w w' : World}
    (h : apiSubackPress env w = .ok w') :
    Acts K [timerIdOfSubscribe] (w.consumed (nextFrame env w)) w' := by
  refine press_acts h .refl fun d u u' hb => ?_
  split_ifs at hb <;> cases hb
  · exact .cancel (.refl _) (by simp)
  · exact .same rfl rfl rfl

theorem apiUnsubackPress_acts {K : List Callback} {C : List UInt8} {env : Env} {w w' : World}
    (h : apiUnsubackPress env w = .ok w') : Acts K C (w.consumed (nextFrame env w)) w' := by
  refine press_acts h .refl fun d u u' hb => ?_
  cases hb
  exact .same rfl rfl rfl

theorem apiDisconnetPress_acts {K : List Callback} {env : Env} {w w' : World}
    (h : apiDisconnetPress env w = .ok w') :
    Acts K [timerIdOfDisconncet] (w.consumed (nextFrame env w)) w' := by
  refine press_acts h .refl fun d u u' hb => ?_
  split_ifs at hb <;> cases hb
  · exact Acts.trans (.cancel (.refl u) (by simp)) (.same rfl rfl rfl)
  · exact .same rfl rfl rfl

theorem apiPingresPress_acts {K : List Callback} {env : Env} {w w' : World}
    (h : apiPingresPress env w = .ok w') :
    Acts K [timerIdOfPingreq] (w.consumed (nextFrame env w)) w' := by
  refine press_acts h .refl fun d u u' hb => ?_
  split_ifs at hb <;> cases hb
  · exact .cancel (.same rfl rfl rfl) (by simp)
  · exact .same rfl rfl rfl

theorem apiPingreqPress_acts {K : List Callback} {C : List UInt8} {env : Env} {w w' : World}
    (h : apiPingreqPress env w = .ok w') : Acts K C (w.consumed (nextFrame env w)) w' := by
  refine press_acts h .refl fun d u u' hb => ?_
  split_ifs at hb <;> cases hb <;> exact .same rfl rfl rfl

theorem apiPublishPress_acts {K : List Callback} {C : List UInt8} {env : Env} {w w' : World}
    (h : apiPublishPress env w = .ok w') : Acts K C (w.consumed (nextFrame env w)) w' := by
  refine press_acts h .refl fun d u u' hb => ?_
  split_ifs at hb <;> cases hb <;> exact .same rfl rfl rfl

/-- Whether a handler takes a frame from the receive queues. -/
def Api.consumes : Api → Bool
  | .pubcomp | .pubrec | .pubrel => false
  | _ => true

/-- The world without the frame that a callback takes from the receive queues. -/
def Callback.fetched (cb : Callback) (env : Env) (w : World) : World :=
  match cb with
  | .press api => if api.consumes then w.consumed (nextFrame env w) else w
  | _ => w

theorem func_acts {api : Api} {env : Env} {g : GwInfor} {w w' : World}
    (h : api.func env g w = .ok w') :
    Acts (Callback.press api).arms (Callback.press api).cancels
      ((Callback.press api).fetched env w) w' := by
  cases api with
  | advertise => exact apiAdvertisePress_acts h
  | gwinfo => exact apiGwinfoPress_acts h
  | connack => exact apiConnackPress_acts h
  | willtopicreq => exact willReqPress_acts mqttSnSendWilltopic_acts h
  | willmsgreq => exact willReqPress_acts mqttSnSendWillMSG_acts h
  | regack => exact apiRegackPress_acts h
  | puback => exact apiPubackPress_acts h
  | suback => exact apiSubackPress_acts h
  | unsuback => exact apiUnsubackPress_acts h
  | disconnet => exact apiDisconnetPress_acts h
  | pingres => exact apiPingresPress_acts h
  | pingreq => exact apiPingreqPress_acts h
  | publish => exact apiPublishPress_acts h
  | pubcomp | pubrec | pubrel =>
    cases h
    exact .same rfl rfl rfl

theorem runCallback_press {topics : Topics} {env : Env} {api : Api} {arg : Arg} {w u : World}
    (h : runCallback topics env (.press api) arg w = .ok u) : api.func env w.gw w = .ok u := by
  cases arg <;> first | exact h | cases h

theorem runCallback_connect {topics : Topics} {env : Env} {arg : Arg} {w u : World}
    (h : runCallback topics env .sendConnectCb arg w = .ok u) :
    mqttSnSendConnectCb env w = .ok u := by
  cases arg <;> first | exact h | cases h

theorem runCallback_register {topics : Topics} {env : Env} {arg : Arg} {w u : World}
    (h : runCallback topics env .sendRegisterCb arg w = .ok u) :
    mqttSnSendRegisterCb env topics w = .ok u := by
  cases arg <;> first | exact h | cases h

theorem runCallback_cyclic {topics : Topics} {env : Env} {arg : Arg} {w u : World}
    (h : runCallback topics env .cyclicCb arg w = .ok u) :
    mqttSnClientCyclic env topics w = .ok u := by
  cases arg <;> first | exact h | cases h

theorem runCallback_pingTimeout {topics : Topics} {env : Env} {arg : Arg} {w u : World}
    (h : runCallback topics env .pingreqTimeoutCb arg w = .ok u) :
    u = mqttSnClientPingreqTimeoutCb env w := by
  cases arg <;> cases h
  rfl

theorem runCallback_subscribe {topics : Topics} {env : Env} {arg : Arg} {w u : World}
    (h : runCallback topics env .subscribeTimeoutCb arg w = .ok u) :
    mqttSnClientSubscribeTimeoutCb env w = .ok u := by
  cases arg <;> first | exact h | cases h

theorem runCallback_subscribeId {topics : Topics} {env : Env} {arg : Arg} {w u : World}
    (h : runCallback topics env .subscribeTimeoutIdCb arg w = .ok u) :
    u = mqttSnClientSubscribeTimeoutIdCb env w := by
  cases arg <;> cases h
  rfl

/-- What a callback that returns has done to the timer table and the receive queues. -/
theorem runCallback_acts {topics : Topics} {env : Env} {cb : Callback} {arg : Arg} {w w' : World}
    (h : runCallback topics env cb arg w = .ok w') :
    Acts cb.arms cb.cancels (cb.fetched env w) w' := by
  unfold runCallback at h
  split at h
  · exact func_acts h
  · rcases mqttSnSendConnectCb_ok h with ⟨-, rfl⟩ | ⟨-, hsend⟩
    · exact .refl _
    · exact mqttSnSendConnect_acts hsend
  · exact mqttSnSendRegisterCb_acts h
  · cases h
    simp only [mqttSnClientPingreqTimeoutCb]
    split_ifs
    · exact .add (.same rfl rfl rfl) (by decide)
    · exact .same rfl rfl rfl
  · exact mqttSnSendPublish_acts h
  · exact mqttSnSendPublish_acts h
  · obtain ⟨_, -, hsend⟩ := mqttSnClientSubscribeTimeoutCb_ok h
    exact mqttSnSendSubscribeTopicName_acts hsend
  · cases h
    exact mqttSnSendSubscribeTopicId_acts _ _ _ _ _
  · exact mqttSnClientCyclic_acts h
  · cases h

theorem runAppCall_acts {env : Env} {call : AppCall} {w w' : World}
    (h : runAppCall env call w = .ok w') : Acts call.arms [] w w' := by
  cases call with
  | sendConnect => exact mqttSnSendConnect_acts h
  | sendRegister => exact mqttSnSendRegister_acts h
  | sendWilltopic => exact mqttSnSendWilltopic_acts h
  | sendWillMSG => exact mqttSnSendWillMSG_acts h
  | sendPingreq =>
    cases h
    exact mqttSnSendPingreq_acts _ _ _
  | sendPublish => exact mqttSnSendPublish_acts h
  | sendSubscribeTopicName => exact mqttSnSendSubscribeTopicName_acts h
  | sendSubscribeTopicId =>
    cases h
    exact mqttSnSendSubscribeTopicId_acts _ _ _ _ _
  | sendUnsubscribeTopicName => exact mqttSnSendUnsubscribeTopicName_acts h
  | sendDisconnect | sendDisconnectTopicId | getgatewayInfo | sendPublishack
  | sendUnsubscribeTopicId =>
    cases h
    exact .same rfl rfl rfl

end MqttSnClient
