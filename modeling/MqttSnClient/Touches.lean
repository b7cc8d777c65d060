import MqttSnClient.Sound

namespace MqttSnClient
open Bytes

/-- The parts of the state that the requests and their answers are about. -/
inductive Field
  | status
  | pktId
  | pending (kind : PackPending)
  | publishinfor
  | subscribeInfor
  | topicMap
  deriving DecidableEq

def Field.Same (w w' : World) : Field → Prop
  | .status => w'.client.status = w.client.status
  | .pktId => w'.client.pktId = w.client.pktId
  | .pending kind => w'.client.inpubPktId kind = w.client.inpubPktId kind
  | .publishinfor => w'.publishinfor = w.publishinfor
  | .subscribeInfor => w'.subscribeInfor = w.subscribeInfor
  | .topicMap => w'.topicMap = w.topicMap

def Packet.cmd (pk : Packet) : UInt8 := pk.data.getD 1 0

/-- The step changes no field outside `F`, and sends datagrams of the types `T` only. -/
structure Touches (F : List Field) (T : List UInt8) (w w' : World) : Prop where
  same : ∀ f, f ∉ F → f.Same w w'
  emits : ∃ new, w'.sent = w.sent ++ new ∧ ∀ pk ∈ new, pk.cmd ∈ T

namespace Touches

variable {F G : List Field} {T U : List UInt8} {w w' w'' : World}

theorem refl (w : World) : Touches F T w w := by
  refine ⟨fun f _ => ?_, [], by simp, by simp⟩
  cases f <;> rfl

theorem trans (h : Touches F T w w') (h' : Touches F T w' w'') : Touches F T w w'' := by
  obtain ⟨new, hnew, hT⟩ := h.emits
  obtain ⟨new', hnew', hT'⟩ := h'.emits
  refine ⟨fun f hf => ?_, new ++ new', by rw [hnew', hnew, List.append_assoc], ?_⟩
  · have hsame := h.same f hf
    have hsame' := h'.same f hf
    cases f <;> exact Eq.trans hsame' hsame
  · intro pk hpk
    rcases List.mem_append.mp hpk with hpk | hpk
    · exact hT pk hpk
    · exact hT' pk hpk

theorem mono (hF : F ⊆ G) (hT : T ⊆ U) (h : Touches F T w w') : Touches G U w w' := by
  obtain ⟨new, hnew, hemits⟩ := h.emits
  exact ⟨fun f hf => h.same f fun hmem => hf (hF hmem), new, hnew, fun pk hpk => hT (hemits pk hpk)⟩

theorem silent (hs : w'.sent = w.sent) (h : ∀ f, f ∉ F → f.Same w w') : Touches F T w w' :=
  ⟨h, [], by rw [hs, List.append_nil], by simp⟩

theorem sends (pk : Packet) (hs : w'.sent = w.sent ++ [pk]) (hT : pk.cmd ∈ T)
    (h : ∀ f, f ∉ F → f.Same w w') : Touches F T w w' :=
  ⟨h, [pk], hs, by simpa using hT⟩

/-- The timer table and the receive queues are none of the fields. -/
theorem same_fields {f : Field} (hc : w'.client.status = w.client.status)
    (hp : w'.client.pktId = w.client.pktId) (hk : w'.client.inpubPktId = w.client.inpubPktId)
    (hpub : w'.publishinfor = w.publishinfor) (hsub : w'.subscribeInfor = w.subscribeInfor)
    (hm : w'.topicMap = w.topicMap) : f.Same w w' := by
  cases f with
  | pending kind => exact congrFun hk kind
  | _ => assumption

theorem other (hc : w'.client.status = w.client.status) (hp : w'.client.pktId = w.client.pktId)
    (hk : w'.client.inpubPktId = w.client.inpubPktId) (hpub : w'.publishinfor = w.publishinfor)
    (hsub : w'.subscribeInfor = w.subscribeInfor) (hm : w'.topicMap = w.topicMap)
    (hs : w'.sent = w.sent) : Touches F T w w' :=
  silent hs fun _ _ => same_fields hc hp hk hpub hsub hm

/-- A step after others that change and send nothing of this. -/
theorem after {v : World} (h : Touches F T v w') (hc : v.client.status = w.client.status)
    (hp : v.client.pktId = w.client.pktId) (hk : v.client.inpubPktId = w.client.inpubPktId)
    (hpub : v.publishinfor = w.publishinfor) (hsub : v.subscribeInfor = w.subscribeInfor)
    (hm : v.topicMap = w.topicMap) (hs : v.sent = w.sent) : Touches F T w w' :=
  trans (other hc hp hk hpub hsub hm hs) h

/-- A request that takes a message id and is remembered in its record, if it has one. -/
theorem request {kind : PackPending} (pk : Packet) (hc : w'.client = w.client.takePktId kind)
    (hs : w'.sent = w.sent ++ [pk]) (hT : pk.cmd ∈ T) (hm : w'.topicMap = w.topicMap)
    (hpub : Field.publishinfor ∉ F → w'.publishinfor = w.publishinfor)
    (hsub : Field.subscribeInfor ∉ F → w'.subscribeInfor = w.subscribeInfor) :
    Touches (.pktId :: .pending kind :: F) T w w' := by
  refine sends pk hs hT fun f hf => ?_
  simp only [List.mem_cons, not_or] at hf
  cases f with
  | status => exact (congrArg Client.status hc).trans rfl
  | pktId => exact absurd rfl hf.1
  | pending k =>
    have hne : k ≠ kind := fun he => hf.2.1 (by rw [he])
    show w'.client.inpubPktId k = w.client.inpubPktId k
    rw [hc]
    exact Function.update_of_ne hne _ _
  | publishinfor => exact hpub hf.2.2
  | subscribeInfor => exact hsub hf.2.2
  | topicMap => exact hm

end Touches

variable {tick : UInt32} {env : Env} {topics : Topics} {w w' : World}

theorem mqttSnSendConnect_touches {clientId : CString} {keepalive : UInt16} {flags : UInt8}
    (h : mqttSnSendConnect tick clientId keepalive flags w = .ok w') :
    Touches [.status, .pktId] [mqttSnTypeConnect] w w' := by
  simp only [mqttSnSendConnect] at h
  split_ifs at h
  cases h
  refine .sends ⟨_, _, connectMsg clientId keepalive flags⟩ rfl (by simp [Packet.cmd, connectMsg]) ?_
  rintro (_ | _ | _ | _ | _ | _) hf <;> first | rfl | simp at hf

theorem mqttSnSendRegister_touches {topicName : CString}
    (h : mqttSnSendRegister tick topicName w = .ok w') :
    Touches [.pktId, .pending .reggister] [mqttSnTypeRegister] w w' := by
  simp only [mqttSnSendRegister] at h
  split_ifs at h
  cases h
  exact .request ⟨_, _, registerMsg _ _⟩ rfl rfl (by simp [Packet.cmd, registerMsg]) rfl
    (fun _ => rfl) fun _ => rfl

theorem registerTurn_touches {i : ℕ} (h : registerTurn env topics w i = .ok w') :
    Touches [.pktId, .pending .reggister] [mqttSnTypeRegister] w w' := by
  rcases registerTurn_ok h with rfl | ⟨_, _, -, -, -, hsend⟩
  · exact .refl _
  · exact mqttSnSendRegister_touches hsend

theorem mqttSnSendRegisterCb_touches (h : mqttSnSendRegisterCb env topics w = .ok w') :
    Touches [.pktId, .pending .reggister] [mqttSnTypeRegister] w w' :=
  Runs.foldlM_ok (R := Touches [.pktId, .pending .reggister] [mqttSnTypeRegister]) .refl
    Touches.trans registerTurn_touches h

theorem mqttSnSendPublish_touches {topicId : UInt16} {topicType : UInt8} {data : DataPtr}
    {dataLen : UInt16} {qos : Int8} {retain dup : UInt8}
    (h : mqttSnSendPublish env topicId topicType data dataLen qos retain dup w = .ok w') :
    Touches [.pktId, .pending .publish, .publishinfor] [mqttSnTypePublish] w w' := by
  simp only [mqttSnSendPublish] at h
  split_ifs at h
  · cases h
    exact .request ⟨_, _, publishMsg _ _ _ _⟩ rfl rfl (by simp [Packet.cmd, publishMsg]) rfl
      (fun hf => absurd (by simp) hf) fun _ => rfl
  · cases h
    exact .request ⟨_, _, publishMsg _ _ _ _⟩ rfl rfl (by simp [Packet.cmd, publishMsg]) rfl
      (fun _ => rfl) fun _ => rfl

theorem mqttSnSendSubscribeTopicName_touches {topicName : CString} {qos : Int8} {dup : UInt8}
    (h : mqttSnSendSubscribeTopicName env topicName qos dup w = .ok w') :
    Touches [.pktId, .pending .subscaribe, .subscribeInfor] [mqttSnTypeSubscribe] w w' := by
  simp only [mqttSnSendSubscribeTopicName] at h
  split_ifs at h
  · cases h
    exact .request ⟨_, _, subscribeMsg _ _ _ _⟩ rfl rfl (by simp [Packet.cmd, subscribeMsg]) rfl
      (fun _ => rfl) fun hf => absurd (by simp) hf
  · cases h
    exact .request ⟨_, _, subscribeMsg _ _ _ _⟩ rfl rfl (by simp [Packet.cmd, subscribeMsg]) rfl
      (fun _ => rfl) fun _ => rfl

theorem mqttSnSendSubscribeTopicId_touches (env : Env) (topicId : UInt16) (qos : Int8)
    (dup : UInt8) (w : World) :
    Touches [.pktId, .pending .subscaribe, .subscribeInfor] [mqttSnTypeSubscribe] w
      (mqttSnSendSubscribeTopicId env topicId qos dup w) := by
  simp only [mqttSnSendSubscribeTopicId]
  split_ifs
  · exact .request ⟨_, _, subscribeMsg _ _ _ _⟩ rfl rfl (by simp [Packet.cmd, subscribeMsg]) rfl
      (fun _ => rfl) fun hf => absurd (by simp) hf
  · exact .request ⟨_, _, subscribeMsg _ _ _ _⟩ rfl rfl (by simp [Packet.cmd, subscribeMsg]) rfl
      (fun _ => rfl) fun _ => rfl

theorem mqttSnSendUnsubscribeTopicName_touches {topicName : CString}
    (h : mqttSnSendUnsubscribeTopicName topicName w = .ok w') :
    Touches [.pktId, .pending .unsubscaribe] [mqttSnTypeUnsubscribe] w w' := by
  simp only [mqttSnSendUnsubscribeTopicName] at h
  split_ifs at h
  cases h
  exact .request ⟨_, _, subscribeMsg _ _ _ _⟩ rfl rfl (by simp [Packet.cmd, subscribeMsg]) rfl
    (fun _ => rfl) fun _ => rfl

theorem mqttSnSendUnsubscribeTopicId_touches (topicId : UInt16) (w : World) :
    Touches [.pktId, .pending .unsubscaribe] [mqttSnTypeUnsubscribe] w
      (mqttSnSendUnsubscribeTopicId topicId w) := by
  exact .request ⟨_, _, subscribeMsg _ _ _ _⟩ rfl rfl (by simp [Packet.cmd, subscribeMsg]) rfl
    (fun _ => rfl) fun _ => rfl

/-- A datagram that no record keeps. -/
theorem sendOther_touches {F : List Field} {T : List UInt8} (pk : Packet) (hT : pk.cmd ∈ T)
    (hs : w'.sent = w.sent ++ [pk]) (hc : w'.client = w.client)
    (hpub : w'.publishinfor = w.publishinfor) (hsub : w'.subscribeInfor = w.subscribeInfor)
    (hm : w'.topicMap = w.topicMap) : Touches F T w w' :=
  .sends pk hs hT fun _ _ =>
    Touches.same_fields (by rw [hc]) (by rw [hc]) (by rw [hc]) hpub hsub hm

theorem mqttSnSendWilltopic_touches {topicName : CString}
    (h : mqttSnSendWilltopic topicName w = .ok w') : Touches [] [mqttSnTypeWilltopic] w w' := by
  simp only [mqttSnSendWilltopic] at h
  split_ifs at h
  cases h
  exact sendOther_touches ⟨_, _, [_, _, _] ++ topicName.bytes⟩ (by simp [Packet.cmd]) rfl
    rfl rfl rfl rfl

theorem mqttSnSendWillMSG_touches {topicName : CString}
    (h : mqttSnSendWillMSG topicName w = .ok w') : Touches [] [mqttSnTypeWillmsg] w w' := by
  simp only [mqttSnSendWillMSG] at h
  split_ifs at h
  cases h
  exact sendOther_touches ⟨_, _, [_, _] ++ topicName.bytes⟩ (by simp [Packet.cmd]) rfl
    rfl rfl rfl rfl

theorem mqttSnSendPingreq_touches {F : List Field} {T : List UInt8} (hT : mqttSnTypePingreq ∈ T)
    (mode : UInt8) (w : World) : Touches F T w (mqttSnSendPingreq tick mode w) :=
  sendOther_touches ⟨_, _, UInt8.ofNat _ :: mqttSnTypePingreq :: _⟩ hT rfl rfl rfl rfl rfl

theorem mqttSnSendDisconnect_touches {T : List UInt8} (hT : mqttSnTypeDisconnect ∈ T)
    (duration : UInt16) (w : World) :
    Touches [.status] T w (mqttSnSendDisconnect duration w) := by
  refine .sends ⟨_, _, [_, _] ++ le16 duration⟩ rfl hT ?_
  rintro (_ | _ | _ | _ | _ | _) hf <;> first | rfl | simp at hf

theorem mqttSnSendPublishack_touches (messageId topicId : UInt16) (returnCode : UInt8)
    (w : World) :
    Touches [] [mqttSnTypeSuback] w (mqttSnSendPublishack messageId topicId returnCode w) :=
  sendOther_touches ⟨_, _, [_, _] ++ le16 _ ++ le16 _ ++ [_]⟩ (by simp [Packet.cmd]) rfl
    rfl rfl rfl rfl

theorem mqttSnGetgatewayInfo_touches (port : UInt16) (w : World) :
    Touches [] [mqttSnTypeSearchgw] w (mqttSnGetgatewayInfo port w) :=
  sendOther_touches ⟨_, _, [_, _, _]⟩ (by simp [Packet.cmd]) rfl rfl rfl rfl rfl

theorem registeralltopic_touches (h : registeralltopic env topics w = .ok w') :
    Touches [.pktId, .pending .reggister, .topicMap] [mqttSnTypeRegister] w w' := by
  rcases registeralltopic_ok h with ⟨-, rfl⟩ | ⟨-, _, _, u, -, -, hsend, rfl⟩
  · exact .refl _
  · refine ((mqttSnSendRegister_touches hsend).mono (by simp) (by simp)).trans (.silent rfl ?_)
    rintro (_ | _ | _ | _ | _ | _) hf <;> first | rfl | simp at hf

theorem mqttSnClientCyclic_touches (h : mqttSnClientCyclic env topics w = .ok w') :
    Touches [.pktId, .pending .reggister, .topicMap] [mqttSnTypeRegister, mqttSnTypePingreq] w
      w' := by
  rcases mqttSnClientCyclic_ok h with ⟨-, rfl⟩ | ⟨-, u, hreg, hend⟩
  · exact .other rfl rfl rfl rfl rfl rfl rfl
  · have hu : Touches [.pktId, .pending .reggister, .topicMap]
        [mqttSnTypeRegister, mqttSnTypePingreq] w u :=
      .after ((registeralltopic_touches hreg).mono (by simp) (by simp)) rfl rfl rfl rfl rfl rfl rfl
    rcases hend with ⟨-, rfl⟩ | ⟨-, rfl⟩
    · exact hu.trans (.other rfl rfl rfl rfl rfl rfl rfl)
    · exact hu.trans (.after (mqttSnSendPingreq_touches (by simp) _ _) rfl rfl rfl rfl rfl rfl rfl)

theorem press_touches {F : List Field} {T : List UInt8} {pre : World → World}
    {fits : UInt8 → Bool} {body : (ℕ → UInt8) → World → Except Fault World}
    (h : press pre fits body env w = .ok w') (hpre : ∀ u, Touches F T u (pre u))
    (hbody : ∀ d u u', body d u = .ok u' → Touches F T u u') : Touches F T w w' := by
  have htake : Touches F T w (w.consumed (nextFrame env w)) :=
    .other rfl rfl rfl rfl rfl rfl rfl
  have hread := htake.trans (hpre _)
  rcases press_ok h with ⟨-, -, -, h⟩ | ⟨-, rfl⟩
  · exact hread.trans (hbody _ _ _ h)
  · exact hread

def Callback.changes : Callback → List Field
  | .press .connack | .press .disconnet | .pingreqTimeoutCb => [.status]
  | .press .regack => [.topicMap]
  | .press .puback => [.pending .publish, .topicMap]
  | .press _ | .null => []
  | .sendConnectCb => [.status, .pktId]
  | .sendRegisterCb => [.pktId, .pending .reggister]
  | .publishTimeoutCb => [.pktId, .pending .publish, .publishinfor]
  | .subscribeTimeoutCb | .subscribeTimeoutIdCb => [.pktId, .pending .subscaribe, .subscribeInfor]
  | .cyclicCb => [.pktId, .pending .reggister, .topicMap]

def Callback.emits : Callback → List UInt8
  | .press .connack => [mqttSnTypeSearchgw]
  | .press .willtopicreq => [mqttSnTypeWilltopic]
  | .press .willmsgreq => [mqttSnTypeWillmsg]
  | .press .pingreq => [mqttSnTypePingresp]
  | .press .publish => [mqttSnTypeSuback]
  | .press _ | .null => []
  | .sendConnectCb => [mqttSnTypeConnect]
  | .sendRegisterCb => [mqttSnTypeRegister]
  | .pingreqTimeoutCb => [mqttSnTypePingreq, mqttSnTypeDisconnect]
  | .publishTimeoutCb => [mqttSnTypePublish]
  | .subscribeTimeoutCb | .subscribeTimeoutIdCb => [mqttSnTypeSubscribe]
  | .cyclicCb => [mqttSnTypeRegister, mqttSnTypePingreq]

theorem appendGateway_touches {F : List Field} {T : List UInt8} {g : GwInfor} {gwid : UInt8}
    {keepalive : UInt16} (h : appendGateway g gwid keepalive w = .ok w') : Touches F T w w' := by
  obtain ⟨_, -, rfl⟩ := appendGateway_ok h
  exact .other rfl rfl rfl rfl rfl rfl rfl

theorem willReqPress_touches {T : List UInt8} {type : UInt8}
    {send : CString → World → Except Fault World}
    (hsend : ∀ {name u u'}, send name u = .ok u' → Touches [] T u u')
    (h : willReqPress type send env w = .ok w') : Touches [] T w w' := by
  refine press_touches h (fun u => .other rfl rfl rfl rfl rfl rfl rfl) fun d u u' hb => ?_
  split_ifs at hb
  · exact hsend hb
  · cases hb
    exact .refl _

theorem apiConnackPress_touches (h : apiConnackPress env w = .ok w') :
    Touches [.status] [mqttSnTypeSearchgw] w w' := by
  refine press_touches h (fun u => .other rfl rfl rfl rfl rfl rfl rfl) fun d u u' hb => ?_
  split_ifs at hb <;> cases hb
  · refine .sends ⟨_, _, [_, _, _]⟩ rfl (by simp [Packet.cmd]) ?_
    rintro (_ | _ | _ | _ | _ | _) hf <;> first | rfl | simp at hf
  · exact .refl _

theorem apiRegackPress_touches {T : List UInt8} (h : apiRegackPress env w = .ok w') :
    Touches [.topicMap] T w w' := by
  refine press_touches h .refl fun d u u' hb => ?_
  split_ifs at hb <;> cases hb
  · refine .silent rfl ?_
    rintro (_ | _ | _ | _ | _ | _) hf <;> first | rfl | simp at hf
  · exact .other rfl rfl rfl rfl rfl rfl rfl
  · exact .other rfl rfl rfl rfl rfl rfl rfl
  · exact .refl _

theorem apiPubackPress_touches {T : List UInt8} (h : apiPubackPress env w = .ok w') :
    Touches [.pending .publish, .topicMap] T w w' := by
  refine press_touches h .refl fun d u u' hb => ?_
  split_ifs at hb <;> cases hb
  on_goal 5 => exact .refl _
  all_goals
    refine .silent rfl ?_
    rintro (_ | _ | (_ | _ | _ | _) | _ | _ | _) hf <;> first | rfl | simp at hf

theorem apiDisconnetPress_touches {T : List UInt8} (h : apiDisconnetPress env w = .ok w') :
    Touches [.status] T w w' := by
  refine press_touches h .refl fun d u u' hb => ?_
  split_ifs at hb <;> cases hb
  · refine .silent rfl ?_
    rintro (_ | _ | _ | _ | _ | _) hf <;> first | rfl | simp at hf
  · exact .refl _

theorem apiAdvertisePress_touches {F : List Field} {T : List UInt8} {g : GwInfor}
    (h : apiAdvertisePress g env w = .ok w') : Touches F T w w' := by
  refine press_touches h .refl fun d u u' hb => ?_
  split_ifs at hb
  · exact appendGateway_touches hb
  · cases hb
    exact .refl _

theorem apiGwinfoPress_touches {F : List Field} {T : List UInt8} {g : GwInfor}
    (h : apiGwinfoPress g env w = .ok w') : Touches F T w w' := by
  refine press_touches h .refl fun d u u' hb => ?_
  split_ifs at hb
  · exact appendGateway_touches hb
  · cases hb
    exact .refl _

theorem apiSubackPress_touches {F : List Field} {T : List UInt8}
    (h : apiSubackPress env w = .ok w') : Touches F T w w' := by
  refine press_touches h .refl fun d u u' hb => ?_
  split_ifs at hb <;> cases hb
  · exact .other rfl rfl rfl rfl rfl rfl rfl
  · exact .refl _

theorem apiUnsubackPress_touches {F : List Field} {T : List UInt8}
    (h : apiUnsubackPress env w = .ok w') : Touches F T w w' := by
  refine press_touches h .refl fun d u u' hb => ?_
  cases hb
  exact .refl _

theorem apiPingresPress_touches {F : List Field} {T : List UInt8}
    (h : apiPingresPress env w = .ok w') : Touches F T w w' := by
  refine press_touches h .refl fun d u u' hb => ?_
  split_ifs at hb <;> cases hb
  · exact .other rfl rfl rfl rfl rfl rfl rfl
  · exact .refl _

theorem apiPingreqPress_touches (h : apiPingreqPress env w = .ok w') :
    Touches [] [mqttSnTypePingresp] w w' := by
  refine press_touches h .refl fun d u u' hb => ?_
  split_ifs at hb <;> cases hb
  · exact sendOther_touches ⟨_, _, [_, _]⟩ (by simp [Packet.cmd]) rfl rfl rfl rfl rfl
  · exact .refl _

theorem apiPublishPress_touches (h : apiPublishPress env w = .ok w') :
    Touches [] [mqttSnTypeSuback] w w' := by
  refine press_touches h .refl fun d u u' hb => ?_
  split_ifs at hb <;> cases hb
  · exact mqttSnSendPublishack_touches _ _ _ _
  · exact .refl _

theorem func_touches {api : Api} {g : GwInfor} (h : api.func env g w = .ok w') :
    Touches (Callback.press api).changes (Callback.press api).emits w w' := by
  cases api with
  | advertise => exact apiAdvertisePress_touches h
  | gwinfo => exact apiGwinfoPress_touches h
  | connack => exact apiConnackPress_touches h
  | willtopicreq => exact willReqPress_touches mqttSnSendWilltopic_touches h
  | willmsgreq => exact willReqPress_touches mqttSnSendWillMSG_touches h
  | regack => exact apiRegackPress_touches h
  | puback => exact apiPubackPress_touches h
  | suback => exact apiSubackPress_touches h
  | unsuback => exact apiUnsubackPress_touches h
  | disconnet => exact apiDisconnetPress_touches h
  | pingres => exact apiPingresPress_touches h
  | pingreq => exact apiPingreqPress_touches h
  | publish => exact apiPublishPress_touches h
  | pubcomp | pubrec | pubrel =>
    cases h
    exact .refl _

/-- A callback that returns has changed and sent no more than its lists say. -/
theorem runCallback_touches {cb : Callback} {arg : Arg}
    (h : runCallback topics env cb arg w = .ok w') : Touches cb.changes cb.emits w w' := by
  unfold runCallback at h
  split at h
  · exact func_touches h
  · rcases mqttSnSendConnectCb_ok h with ⟨-, rfl⟩ | ⟨-, hsend⟩
    · exact .refl _
    · exact mqttSnSendConnect_touches hsend
  · exact mqttSnSendRegisterCb_touches h
  · cases h
    simp only [mqttSnClientPingreqTimeoutCb]
    split_ifs
    · exact .after (mqttSnSendPingreq_touches (by simp [Callback.emits]) _ _) rfl rfl rfl rfl rfl rfl
        rfl
    · exact .after (mqttSnSendDisconnect_touches (by simp [Callback.emits]) _ _) rfl rfl rfl rfl rfl
        rfl rfl
  · exact mqttSnSendPublish_touches h
  · exact mqttSnSendPublish_touches h
  · obtain ⟨_, -, hsend⟩ := mqttSnClientSubscribeTimeoutCb_ok h
    exact mqttSnSendSubscribeTopicName_touches hsend
  · cases h
    exact mqttSnSendSubscribeTopicId_touches _ _ _ _ _
  · exact mqttSnClientCyclic_touches h
  · cases h

def AppCall.changes : AppCall → List Field
  | .sendConnect _ _ _ => [.status, .pktId]
  | .sendRegister _ => [.pktId, .pending .reggister]
  | .sendDisconnect _ => [.status]
  | .sendPublish _ _ _ _ _ _ _ => [.pktId, .pending .publish, .publishinfor]
  | .sendSubscribeTopicName _ _ _ | .sendSubscribeTopicId _ _ _ =>
    [.pktId, .pending .subscaribe, .subscribeInfor]
  | .sendUnsubscribeTopicName _ | .sendUnsubscribeTopicId _ => [.pktId, .pending .unsubscaribe]
  | .sendWilltopic _ | .sendWillMSG _ | .sendPingreq _ | .sendDisconnectTopicId _
  | .getgatewayInfo _ | .sendPublishack _ _ _ => []

def AppCall.emits : AppCall → List UInt8
  | .sendConnect _ _ _ => [mqttSnTypeConnect]
  | .sendRegister _ => [mqttSnTypeRegister]
  | .sendWilltopic _ => [mqttSnTypeWilltopic]
  | .sendWillMSG _ => [mqttSnTypeWillmsg]
  | .sendPingreq _ => [mqttSnTypePingreq]
  | .sendDisconnect _ | .sendDisconnectTopicId _ => [mqttSnTypeDisconnect]
  | .getgatewayInfo _ => [mqttSnTypeSearchgw]
  | .sendPublish _ _ _ _ _ _ _ => [mqttSnTypePublish]
  | .sendPublishack _ _ _ => [mqttSnTypeSuback]
  | .sendSubscribeTopicName _ _ _ | .sendSubscribeTopicId _ _ _ => [mqttSnTypeSubscribe]
  | .sendUnsubscribeTopicName _ | .sendUnsubscribeTopicId _ => [mqttSnTypeUnsubscribe]

theorem mqttSnSendDisconnectTopicId_touches (duration : UInt16) (w : World) :
    Touches [] [mqttSnTypeDisconnect] w (mqttSnSendDisconnectTopicId duration w) := by
  refine sendOther_touches ⟨_, _, ([_, _] ++ le16 duration).take _⟩ ?_ rfl rfl rfl rfl rfl
  by_cases hd : duration = 0
  · simp [Packet.cmd, hd]
  · simp [Packet.cmd, hd]

theorem runAppCall_touches {call : AppCall} (h : runAppCall env call w = .ok w') :
    Touches call.changes call.emits w w' := by
  cases call with
  | sendConnect => exact mqttSnSendConnect_touches h
  | sendRegister => exact mqttSnSendRegister_touches h
  | sendWilltopic => exact mqttSnSendWilltopic_touches h
  | sendWillMSG => exact mqttSnSendWillMSG_touches h
  | sendPingreq =>
    cases h
    exact mqttSnSendPingreq_touches (List.mem_singleton_self _) _ _
  | sendDisconnect =>
    cases h
    exact mqttSnSendDisconnect_touches (List.mem_singleton_self _) _ _
  | sendDisconnectTopicId =>
    cases h
    exact mqttSnSendDisconnectTopicId_touches _ _
  | getgatewayInfo =>
    cases h
    exact mqttSnGetgatewayInfo_touches _ _
  | sendPublish => exact mqttSnSendPublish_touches h
  | sendPublishack =>
    cases h
    exact mqttSnSendPublishack_touches _ _ _ _
  | sendSubscribeTopicName => exact mqttSnSendSubscribeTopicName_touches h
  | sendSubscribeTopicId =>
    cases h
    exact mqttSnSendSubscribeTopicId_touches _ _ _ _ _
  | sendUnsubscribeTopicName => exact mqttSnSendUnsubscribeTopicName_touches h
  | sendUnsubscribeTopicId =>
    cases h
    exact mqttSnSendUnsubscribeTopicId_touches _ _

/-- The receive callback changes none of the fields and sends nothing. -/
theorem Received.touches {addr : UInt32} {port : UInt16} (h : Received addr port w w') :
    Touches [] [] w w' := by
  obtain ⟨rx, b, g, s, rfl, -⟩ := h
  exact .other rfl rfl rfl rfl rfl rfl rfl

end MqttSnClient
