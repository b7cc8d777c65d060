import MqttSnClient.Touches

namespace MqttSnClient
open Bytes

/-- The fields of the client that one callback or two change. -/
inductive Setting
  | cyclicTick
  | clientID
  | pingReqResLostNum
  deriving DecidableEq

def Setting.Same (w w' : World) : Setting → Prop
  | .cyclicTick => w'.client.cyclicTick = w.client.cyclicTick
  | .clientID => w'.client.clientID = w.client.clientID
  | .pingReqResLostNum => w'.client.pingReqResLostNum = w.client.pingReqResLostNum

/-- The step leaves the settings outside `S` as they are. -/
structure Keeps (S : List Setting) (w w' : World) : Prop where
  same : ∀ s, s ∉ S → s.Same w w'

/-- The step leaves the tick and the client id as they are. -/
structure Settled (w w' : World) : Prop where
  cyclicTick : w'.client.cyclicTick = w.client.cyclicTick
  clientID : w'.client.clientID = w.client.clientID

namespace Keeps

variable {S : List Setting} {w w' w'' : World}

theorem other (ht : w'.client.cyclicTick = w.client.cyclicTick)
    (hi : w'.client.clientID = w.client.clientID)
    (hn : w'.client.pingReqResLostNum = w.client.pingReqResLostNum) : Keeps S w w' :=
  ⟨fun s _ => by cases s <;> assumption⟩

theorem refl (w : World) : Keeps S w w := other rfl rfl rfl

theorem trans (h : Keeps S w w') (h' : Keeps S w' w'') : Keeps S w w'' := by
  refine ⟨fun s hs => ?_⟩
  have hsame := h.same s hs
  have hsame' := h'.same s hs
  cases s <;> exact Eq.trans hsame' hsame

theorem settled (h : Keeps S w w') (ht : .cyclicTick ∉ S) (hi : .clientID ∉ S) : Settled w w' :=
  ⟨h.same .cyclicTick ht, h.same .clientID hi⟩

end Keeps

variable {S : List Setting}

variable {tick : UInt32} {env : Env} {topics : Topics} {w w' : World}

theorem mqttSnSendRegister_keeps {topicName : CString}
    (h : mqttSnSendRegister tick topicName w = .ok w') : Keeps S w w' := by
  simp only [mqttSnSendRegister] at h
  split_ifs at h
  cases h
  exact .other rfl rfl rfl

theorem mqttSnSendRegisterCb_keeps (h : mqttSnSendRegisterCb env topics w = .ok w') :
    Keeps S w w' := by
  refine Runs.foldlM_ok (R := Keeps S) .refl Keeps.trans (fun {u i u'} hturn => ?_) h
  rcases registerTurn_ok hturn with rfl | ⟨_, _, -, -, -, hsend⟩
  · exact .refl _
  · exact mqttSnSendRegister_keeps hsend

theorem mqttSnSendWilltopic_keeps {topicName : CString}
    (h : mqttSnSendWilltopic topicName w = .ok w') : Keeps S w w' := by
  simp only [mqttSnSendWilltopic] at h
  split_ifs at h
  cases h
  exact .other rfl rfl rfl

theorem mqttSnSendWillMSG_keeps {topicName : CString}
    (h : mqttSnSendWillMSG topicName w = .ok w') : Keeps S w w' := by
  simp only [mqttSnSendWillMSG] at h
  split_ifs at h
  cases h
  exact .other rfl rfl rfl

theorem mqttSnSendPublish_keeps {topicId : UInt16} {topicType : UInt8} {data : DataPtr}
    {dataLen : UInt16} {qos : Int8} {retain dup : UInt8}
    (h : mqttSnSendPublish env topicId topicType data dataLen qos retain dup w = .ok w') :
    Keeps S w w' := by
  simp only [mqttSnSendPublish] at h
  split_ifs at h <;> cases h <;> exact .other rfl rfl rfl

theorem mqttSnSendSubscribeTopicName_keeps {topicName : CString} {qos : Int8} {dup : UInt8}
    (h : mqttSnSendSubscribeTopicName env topicName qos dup w = .ok w') : Keeps S w w' := by
  simp only [mqttSnSendSubscribeTopicName] at h
  split_ifs at h <;> cases h <;> exact .other rfl rfl rfl

theorem mqttSnSendSubscribeTopicId_keeps (topicId : UInt16) (qos : Int8) (dup : UInt8)
    (w : World) : Keeps S w (mqttSnSendSubscribeTopicId env topicId qos dup w) := by
  simp only [mqttSnSendSubscribeTopicId]
  split_ifs <;> exact .other rfl rfl rfl

theorem mqttSnSendUnsubscribeTopicName_keeps {topicName : CString}
    (h : mqttSnSendUnsubscribeTopicName topicName w = .ok w') : Keeps S w w' := by
  simp only [mqttSnSendUnsubscribeTopicName] at h
  split_ifs at h
  cases h
  exact .other rfl rfl rfl

theorem registeralltopic_keeps (h : registeralltopic env topics w = .ok w') :
    Keeps S w w' := by
  rcases registeralltopic_ok h with ⟨-, rfl⟩ | ⟨-, _, _, u, -, -, hsend, rfl⟩
  · exact .refl _
  · exact (mqttSnSendRegister_keeps hsend).trans (.other rfl rfl rfl)

theorem mqttSnClientCyclic_tick (h : mqttSnClientCyclic env topics w = .ok w') :
    w'.client.cyclicTick = w.client.cyclicTick + 1 := by
  rcases mqttSnClientCyclic_ok h with ⟨-, rfl⟩ | ⟨-, u, hreg, hend⟩
  · rfl
  · have hu : Keeps [] w.ticked u := registeralltopic_keeps hreg
    have htick := hu.same .cyclicTick List.not_mem_nil
    rcases hend with ⟨-, rfl⟩ | ⟨-, rfl⟩ <;> exact htick

theorem mqttSnClientCyclic_keeps (h : mqttSnClientCyclic env topics w = .ok w') :
    Keeps [.cyclicTick] w w' := by
  have hticked : Keeps [.cyclicTick] w w.ticked := by
    refine ⟨?_⟩
    rintro (_ | _ | _) hs <;> first | rfl | simp at hs
  rcases mqttSnClientCyclic_ok h with ⟨-, rfl⟩ | ⟨-, u, hreg, hend⟩
  · exact hticked
  · have hu := hticked.trans (registeralltopic_keeps hreg)
    rcases hend with ⟨-, rfl⟩ | ⟨-, rfl⟩ <;> exact hu.trans (.other rfl rfl rfl)

theorem mqttSnSendConnect_keeps {clientId : CString} {keepalive : UInt16} {flags : UInt8}
    (h : mqttSnSendConnect tick clientId keepalive flags w = .ok w') :
    Keeps [.clientID] w w' := by
  simp only [mqttSnSendConnect] at h
  split_ifs at h
  cases h
  refine ⟨?_⟩
  rintro (_ | _ | _) hs <;> first | rfl | simp at hs

theorem press_keeps {pre : World → World} {fits : UInt8 → Bool}
    {body : (ℕ → UInt8) → World → Except Fault World} (h : press pre fits body env w = .ok w')
    (hpre : ∀ u, Keeps S u (pre u)) (hbody : ∀ d u u', body d u = .ok u' → Keeps S u u') :
    Keeps S w w' := by
  have htake : Keeps S w (w.consumed (nextFrame env w)) := .other rfl rfl rfl
  have hread := htake.trans (hpre _)
  rcases press_ok h with ⟨-, -, -, h⟩ | ⟨-, rfl⟩
  · exact hread.trans (hbody _ _ _ h)
  · exact hread

theorem appendGateway_keeps {g : GwInfor} {gwid : UInt8} {keepalive : UInt16}
    (h : appendGateway g gwid keepalive w = .ok w') : Keeps S w w' := by
  obtain ⟨_, -, rfl⟩ := appendGateway_ok h
  exact .other rfl rfl rfl

def Callback.sets : Callback → List Setting
  | .cyclicCb => [.cyclicTick]
  | .sendConnectCb => [.clientID]
  | .pingreqTimeoutCb | .press .pingres => [.pingReqResLostNum]
  | _ => []

def AppCall.sets : AppCall → List Setting
  | .sendConnect _ _ _ => [.clientID]
  | _ => []

theorem func_keeps {api : Api} {g : GwInfor} (h : api.func env g w = .ok w') :
    Keeps (Callback.press api).sets w w' := by
  cases api with
  | advertise =>
    have hpress : apiAdvertisePress g env w = .ok w' := h
    refine press_keeps hpress (fun _ => .other rfl rfl rfl) fun d u u' hb => ?_
    split_ifs at hb
    · exact appendGateway_keeps hb
    · cases hb
      exact .refl u
  | gwinfo =>
    have hpress : apiGwinfoPress g env w = .ok w' := h
    refine press_keeps hpress (fun _ => .other rfl rfl rfl) fun d u u' hb => ?_
    split_ifs at hb
    · exact appendGateway_keeps hb
    · cases hb
      exact .refl u
  | willtopicreq =>
    have hpress : willReqPress mqttSnTypeWilltopicreq mqttSnSendWilltopic env w = .ok w' := h
    refine press_keeps hpress (fun _ => .other rfl rfl rfl) fun d u u' hb => ?_
    split_ifs at hb
    · exact mqttSnSendWilltopic_keeps hb
    · cases hb
      exact .refl u
  | willmsgreq =>
    have hpress : willReqPress mqttSnTypeWillmsgreq mqttSnSendWillMSG env w = .ok w' := h
    refine press_keeps hpress (fun _ => .other rfl rfl rfl) fun d u u' hb => ?_
    split_ifs at hb
    · exact mqttSnSendWillMSG_keeps hb
    · cases hb
      exact .refl u
  | connack =>
    have hpress : apiConnackPress env w = .ok w' := h
    refine press_keeps hpress (fun _ => .other rfl rfl rfl) fun d u u' hb => ?_
    split_ifs at hb <;> cases hb <;> exact .other rfl rfl rfl
  | regack =>
    have hpress : apiRegackPress env w = .ok w' := h
    refine press_keeps hpress (fun _ => .other rfl rfl rfl) fun d u u' hb => ?_
    split_ifs at hb <;> cases hb <;> exact .other rfl rfl rfl
  | puback =>
    have hpress : apiPubackPress env w = .ok w' := h
    refine press_keeps hpress (fun _ => .other rfl rfl rfl) fun d u u' hb => ?_
    split_ifs at hb <;> cases hb <;> exact .other rfl rfl rfl
  | suback =>
    have hpress : apiSubackPress env w = .ok w' := h
    refine press_keeps hpress (fun _ => .other rfl rfl rfl) fun d u u' hb => ?_
    split_ifs at hb <;> cases hb <;> exact .other rfl rfl rfl
  | disconnet =>
    have hpress : apiDisconnetPress env w = .ok w' := h
    refine press_keeps hpress (fun _ => .other rfl rfl rfl) fun d u u' hb => ?_
    split_ifs at hb <;> cases hb <;> exact .other rfl rfl rfl
  | pingres =>
    have hpress : apiPingresPress env w = .ok w' := h
    refine press_keeps hpress .refl fun d u u' hb => ?_
    split_ifs at hb <;> cases hb
    · refine ⟨?_⟩
      rintro (_ | _ | _) hs <;> first | rfl | simp [Callback.sets] at hs
    · exact .refl _
  | pingreq =>
    have hpress : apiPingreqPress env w = .ok w' := h
    refine press_keeps hpress (fun _ => .other rfl rfl rfl) fun d u u' hb => ?_
    split_ifs at hb <;> cases hb <;> exact .other rfl rfl rfl
  | publish =>
    have hpress : apiPublishPress env w = .ok w' := h
    refine press_keeps hpress (fun _ => .other rfl rfl rfl) fun d u u' hb => ?_
    split_ifs at hb <;> cases hb <;> exact .other rfl rfl rfl
  | unsuback =>
    have hpress : apiUnsubackPress env w = .ok w' := h
    refine press_keeps hpress (fun _ => .other rfl rfl rfl) fun d u u' hb => ?_
    cases hb
    exact .refl u
  | pubcomp | pubrec | pubrel =>
    cases h
    exact .refl w

/-- A callback that returns has changed no setting that is not in its list. -/
theorem runCallback_keeps {cb : Callback} {arg : Arg}
    (h : runCallback topics env cb arg w = .ok w') : Keeps cb.sets w w' := by
  unfold runCallback at h
  split at h
  · exact func_keeps h
  · rcases mqttSnSendConnectCb_ok h with ⟨-, rfl⟩ | ⟨-, hsend⟩
    · exact .refl _
    · exact mqttSnSendConnect_keeps hsend
  · exact mqttSnSendRegisterCb_keeps h
  · cases h
    simp only [mqttSnClientPingreqTimeoutCb]
    refine ⟨?_⟩
    rintro (_ | _ | _) hs
    · split_ifs <;> rfl
    · split_ifs <;> rfl
    · simp [Callback.sets] at hs
  · exact mqttSnSendPublish_keeps h
  · exact mqttSnSendPublish_keeps h
  · obtain ⟨_, -, hsend⟩ := mqttSnClientSubscribeTimeoutCb_ok h
    exact mqttSnSendSubscribeTopicName_keeps hsend
  · cases h
    exact mqttSnSendSubscribeTopicId_keeps _ _ _ _
  · exact mqttSnClientCyclic_keeps h
  · cases h

theorem runAppCall_keeps {call : AppCall} (h : runAppCall env call w = .ok w') :
    Keeps call.sets w w' := by
  cases call with
  | sendConnect => exact mqttSnSendConnect_keeps h
  | sendRegister => exact mqttSnSendRegister_keeps h
  | sendWilltopic => exact mqttSnSendWilltopic_keeps h
  | sendWillMSG => exact mqttSnSendWillMSG_keeps h
  | sendPublish => exact mqttSnSendPublish_keeps h
  | sendSubscribeTopicName => exact mqttSnSendSubscribeTopicName_keeps h
  | sendSubscribeTopicId =>
    cases h
    exact mqttSnSendSubscribeTopicId_keeps _ _ _ _
  | sendUnsubscribeTopicName => exact mqttSnSendUnsubscribeTopicName_keeps h
  | _ =>
    cases h
    exact .other rfl rfl rfl

theorem runCallback_settled {cb : Callback} {arg : Arg}
    (h : runCallback topics env cb arg w = .ok w') (hconn : cb ≠ .sendConnectCb)
    (hcyc : cb ≠ .cyclicCb) : Settled w w' := by
  apply (runCallback_keeps h).settled
  all_goals
    cases cb with
    | press api => cases api <;> decide
    | sendConnectCb => exact absurd rfl hconn
    | cyclicCb => exact absurd rfl hcyc
    | _ => decide

theorem runAppCall_settled {call : AppCall} (h : runAppCall env call w = .ok w')
    (hconn : ∀ clientId keepalive flags, call ≠ .sendConnect clientId keepalive flags) :
    Settled w w' := by
  apply (runAppCall_keeps h).settled
  all_goals
    cases call with
    | sendConnect clientId keepalive flags => exact absurd rfl (hconn clientId keepalive flags)
    | _ => exact List.not_mem_nil

/-- Only the cyclic callback counts the tick. -/
theorem runCallback_cyclicTick {cb : Callback} {arg : Arg}
    (h : runCallback topics env cb arg w = .ok w') (hcyc : cb ≠ .cyclicCb) :
    w'.client.cyclicTick = w.client.cyclicTick := by
  apply (runCallback_keeps h).same .cyclicTick
  cases cb with
  | press api => cases api <;> decide
  | cyclicCb => exact absurd rfl hcyc
  | _ => decide

theorem runAppCall_cyclicTick {call : AppCall} (h : runAppCall env call w = .ok w') :
    w'.client.cyclicTick = w.client.cyclicTick := by
  apply (runAppCall_keeps h).same .cyclicTick
  cases call <;> simp [AppCall.sets]

/-- A REGISTER leaves both. -/
theorem mqttSnSendRegister_settled {topicName : CString}
    (h : mqttSnSendRegister tick topicName w = .ok w') : Settled w w' :=
  (mqttSnSendRegister_keeps (S := []) h).settled List.not_mem_nil List.not_mem_nil

end MqttSnClient
