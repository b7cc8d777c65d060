import MqttSnClient.Touches

namespace MqttSnClient
open Bytes

/-- The parts of the state that say which gateway there is and whether it answers. -/
inductive Part
  | gwList
  | keepAlive
  | serverWatchdog
  deriving DecidableEq

def Part.Same (w w' : World) : Part → Prop
  | .gwList => w'.gwList = w.gwList
  | .keepAlive => w'.client.keepAlive = w.client.keepAlive
  | .serverWatchdog => w'.client.serverWatchdog = w.client.serverWatchdog

/-- The remote end that the socket has stored. -/
def World.remote (w : World) : UInt32 × UInt16 := (w.remoteIp, w.remotePort)

def Packet.dest (pk : Packet) : UInt32 × UInt16 := (pk.addr, pk.port)

/-- A datagram of the session; CONNECT and SEARCHGW go to addresses of their own. -/
def Packet.InSession (pk : Packet) : Prop :=
  pk.cmd ≠ mqttSnTypeConnect ∧ pk.cmd ≠ mqttSnTypeSearchgw

/-- The step leaves the remote end, the recorded sender and the parts outside `F` as they
are, and sends the datagrams of the session to the remote end. -/
structure Leaves (F : List Part) (w w' : World) : Prop where
  remote : w'.remote = w.remote
  gw : w'.gw = w.gw
  same : ∀ f, f ∉ F → f.Same w w'
  sends : ∃ new, w'.sent = w.sent ++ new ∧ ∀ pk ∈ new, pk.InSession → pk.dest = w.remote

namespace Leaves

variable {F G : List Part} {w w' w'' : World}

theorem silent (hr : w'.remote = w.remote) (hg : w'.gw = w.gw) (hs : w'.sent = w.sent)
    (h : ∀ f, f ∉ F → f.Same w w') : Leaves F w w' :=
  ⟨hr, hg, h, [], by rw [hs, List.append_nil], by simp⟩

theorem one (pk : Packet) (hr : w'.remote = w.remote) (hg : w'.gw = w.gw)
    (hs : w'.sent = w.sent ++ [pk]) (hpk : pk.InSession → pk.dest = w.remote)
    (h : ∀ f, f ∉ F → f.Same w w') : Leaves F w w' :=
  ⟨hr, hg, h, [pk], hs, by simpa using hpk⟩

theorem same_parts {f : Part} (hl : w'.gwList = w.gwList)
    (hk : w'.client.keepAlive = w.client.keepAlive)
    (hd : w'.client.serverWatchdog = w.client.serverWatchdog) : f.Same w w' := by
  cases f <;> assumption

/-- A step that sends nothing and changes none of the parts. -/
theorem other (hr : w'.remote = w.remote) (hg : w'.gw = w.gw) (hs : w'.sent = w.sent)
    (hl : w'.gwList = w.gwList) (hk : w'.client.keepAlive = w.client.keepAlive)
    (hd : w'.client.serverWatchdog = w.client.serverWatchdog) : Leaves F w w' :=
  silent hr hg hs fun _ _ => same_parts hl hk hd

/-- A step that sends one datagram to the remote end and changes none of the parts. -/
theorem toRemote (data : List UInt8) (hr : w'.remote = w.remote) (hg : w'.gw = w.gw)
    (hs : w'.sent = w.sent ++ [⟨w.remoteIp, w.remotePort, data⟩]) (hl : w'.gwList = w.gwList)
    (hk : w'.client.keepAlive = w.client.keepAlive)
    (hd : w'.client.serverWatchdog = w.client.serverWatchdog) : Leaves F w w' :=
  one _ hr hg hs (fun _ => rfl) fun _ _ => same_parts hl hk hd

theorem refl (w : World) : Leaves F w w := other rfl rfl rfl rfl rfl rfl

theorem trans (h : Leaves F w w') (h' : Leaves F w' w'') : Leaves F w w'' := by
  obtain ⟨new, hnew, hto⟩ := h.sends
  obtain ⟨new', hnew', hto'⟩ := h'.sends
  refine ⟨h'.remote.trans h.remote, h'.gw.trans h.gw, fun f hf => ?_, new ++ new',
    by rw [hnew', hnew, List.append_assoc], fun pk hpk hin => ?_⟩
  · have hsame := h.same f hf
    have hsame' := h'.same f hf
    cases f <;> exact Eq.trans hsame' hsame
  · rcases List.mem_append.mp hpk with hpk | hpk
    · exact hto pk hpk hin
    · exact (hto' pk hpk hin).trans h.remote

theorem mono (hF : F ⊆ G) (h : Leaves F w w') : Leaves G w w' :=
  ⟨h.remote, h.gw, fun f hf => h.same f fun hmem => hf (hF hmem), h.sends⟩

end Leaves

variable {tick : UInt32} {env : Env} {topics : Topics} {w w' : World} {F : List Part}

/-- A CONNECT sets the watchdog to the keep-alive that it names. -/
theorem mqttSnSendConnect_watch {clientId : CString} {keepalive : UInt16} {flags : UInt8}
    (h : mqttSnSendConnect tick clientId keepalive flags w = .ok w') :
    w'.client.status = .connecting ∧ w'.client.keepAlive = keepalive ∧
      w'.client.serverWatchdog = keepalive := by
  simp only [mqttSnSendConnect] at h
  split_ifs at h
  cases h
  exact ⟨rfl, rfl, rfl⟩

theorem mqttSnSendConnect_leaves {clientId : CString} {keepalive : UInt16} {flags : UInt8}
    (h : mqttSnSendConnect tick clientId keepalive flags w = .ok w') :
    Leaves [.keepAlive, .serverWatchdog] w w' := by
  simp only [mqttSnSendConnect] at h
  split_ifs at h
  cases h
  refine .one ⟨_, _, connectMsg clientId keepalive flags⟩ rfl rfl rfl
    (fun hin => absurd rfl hin.1) ?_
  rintro (_ | _ | _) hf <;> first | rfl | simp at hf

theorem mqttSnSendRegister_leaves {topicName : CString}
    (h : mqttSnSendRegister tick topicName w = .ok w') : Leaves F w w' := by
  simp only [mqttSnSendRegister] at h
  split_ifs at h
  cases h
  exact .toRemote (registerMsg _ _) rfl rfl rfl rfl rfl rfl

theorem mqttSnSendRegisterCb_leaves (h : mqttSnSendRegisterCb env topics w = .ok w') :
    Leaves F w w' := by
  refine Runs.foldlM_ok (R := Leaves F) .refl Leaves.trans (fun {u i u'} hturn => ?_) h
  rcases registerTurn_ok hturn with rfl | ⟨_, _, -, -, -, hsend⟩
  · exact .refl _
  · exact mqttSnSendRegister_leaves hsend

theorem mqttSnSendPublish_leaves {topicId : UInt16} {topicType : UInt8} {data : DataPtr}
    {dataLen : UInt16} {qos : Int8} {retain dup : UInt8}
    (h : mqttSnSendPublish env topicId topicType data dataLen qos retain dup w = .ok w') :
    Leaves F w w' := by
  simp only [mqttSnSendPublish] at h
  split_ifs at h <;> cases h <;> exact .toRemote (publishMsg _ _ _ _) rfl rfl rfl rfl rfl rfl

theorem mqttSnSendSubscribeTopicName_leaves {topicName : CString} {qos : Int8} {dup : UInt8}
    (h : mqttSnSendSubscribeTopicName env topicName qos dup w = .ok w') : Leaves F w w' := by
  simp only [mqttSnSendSubscribeTopicName] at h
  split_ifs at h <;> cases h <;> exact .toRemote (subscribeMsg _ _ _ _) rfl rfl rfl rfl rfl rfl

theorem mqttSnSendSubscribeTopicId_leaves (topicId : UInt16) (qos : Int8) (dup : UInt8)
    (w : World) : Leaves F w (mqttSnSendSubscribeTopicId env topicId qos dup w) := by
  simp only [mqttSnSendSubscribeTopicId]
  split_ifs <;> exact .toRemote (subscribeMsg _ _ _ _) rfl rfl rfl rfl rfl rfl

theorem mqttSnSendUnsubscribeTopicName_leaves {topicName : CString}
    (h : mqttSnSendUnsubscribeTopicName topicName w = .ok w') : Leaves F w w' := by
  simp only [mqttSnSendUnsubscribeTopicName] at h
  split_ifs at h
  cases h
  exact .toRemote (subscribeMsg _ _ _ _) rfl rfl rfl rfl rfl rfl

theorem mqttSnSendWilltopic_leaves {topicName : CString}
    (h : mqttSnSendWilltopic topicName w = .ok w') : Leaves F w w' := by
  simp only [mqttSnSendWilltopic] at h
  split_ifs at h
  cases h
  exact .toRemote ([_, _, _] ++ topicName.bytes) rfl rfl rfl rfl rfl rfl

theorem mqttSnSendWillMSG_leaves {topicName : CString}
    (h : mqttSnSendWillMSG topicName w = .ok w') : Leaves F w w' := by
  simp only [mqttSnSendWillMSG] at h
  split_ifs at h
  cases h
  exact .toRemote ([_, _] ++ topicName.bytes) rfl rfl rfl rfl rfl rfl

theorem mqttSnSendPingreq_leaves (mode : UInt8) (w : World) :
    Leaves F w (mqttSnSendPingreq tick mode w) :=
  .toRemote ([_, _] ++ _) rfl rfl rfl rfl rfl rfl

theorem mqttSnSendDisconnect_leaves (duration : UInt16) (w : World) :
    Leaves F w (mqttSnSendDisconnect duration w) :=
  .toRemote ([_, _] ++ le16 duration) rfl rfl rfl rfl rfl rfl

theorem mqttSnGetgatewayInfo_leaves (port : UInt16) (w : World) :
    Leaves F w (mqttSnGetgatewayInfo port w) :=
  .one ⟨_, _, [_, _, _]⟩ rfl rfl rfl (fun hin => absurd rfl hin.2) fun _ _ =>
    Leaves.same_parts rfl rfl rfl

theorem registeralltopic_leaves (h : registeralltopic env topics w = .ok w') : Leaves F w w' := by
  rcases registeralltopic_ok h with ⟨-, rfl⟩ | ⟨-, _, _, u, -, -, hsend, rfl⟩
  · exact .refl _
  · exact (mqttSnSendRegister_leaves hsend).trans (.other rfl rfl rfl rfl rfl rfl)

theorem mqttSnClientCyclic_leaves (h : mqttSnClientCyclic env topics w = .ok w') :
    Leaves [.gwList, .serverWatchdog] w w' := by
  -- a change of the clock, of the gateways and of the watchdog
  have hparts : ∀ {v v' : World}, v'.remote = v.remote → v'.gw = v.gw → v'.sent = v.sent →
      v'.client.keepAlive = v.client.keepAlive → Leaves [.gwList, .serverWatchdog] v v' := by
    intro v v' hr hg hs hk
    refine .silent hr hg hs ?_
    rintro (_ | _ | _) hf <;> first | exact hk | simp at hf
  have hticked : Leaves [.gwList, .serverWatchdog] w w.ticked := hparts rfl rfl rfl rfl
  rcases mqttSnClientCyclic_ok h with ⟨-, rfl⟩ | ⟨-, u, hreg, hend⟩
  · exact hticked
  · have hdown : Leaves [.gwList, .serverWatchdog] u u.watchedDown := hparts rfl rfl rfl rfl
    have hu := (hticked.trans (registeralltopic_leaves hreg)).trans hdown
    rcases hend with ⟨-, rfl⟩ | ⟨-, rfl⟩
    · exact hu
    · exact hu.trans (mqttSnSendPingreq_leaves _ _)

theorem press_leaves {pre : World → World} {fits : UInt8 → Bool}
    {body : (ℕ → UInt8) → World → Except Fault World} (h : press pre fits body env w = .ok w')
    (hpre : ∀ u, Leaves F u (pre u)) (hbody : ∀ d u u', body d u = .ok u' → Leaves F u u') :
    Leaves F w w' := by
  have htake : Leaves F w (w.consumed (nextFrame env w)) := .other rfl rfl rfl rfl rfl rfl
  have hread := htake.trans (hpre _)
  rcases press_ok h with ⟨-, -, -, h⟩ | ⟨-, rfl⟩
  · exact hread.trans (hbody _ _ _ h)
  · exact hread

def Callback.parts : Callback → List Part
  | .press .advertise | .press .gwinfo => [.gwList]
  | .press .pingres => [.serverWatchdog]
  | .sendConnectCb => [.keepAlive, .serverWatchdog]
  | .cyclicCb => [.gwList, .serverWatchdog]
  | _ => []

def AppCall.parts : AppCall → List Part
  | .sendConnect _ _ _ => [.keepAlive, .serverWatchdog]
  | _ => []

theorem appendGateway_leaves {g : GwInfor} {gwid : UInt8} {keepalive : UInt16}
    (h : appendGateway g gwid keepalive w = .ok w') : Leaves [.gwList] w w' := by
  obtain ⟨_, -, rfl⟩ := appendGateway_ok h
  refine .silent rfl rfl rfl ?_
  rintro (_ | _ | _) hf <;> first | rfl | simp at hf

theorem func_leaves {api : Api} {g : GwInfor} (h : api.func env g w = .ok w') :
    Leaves (Callback.press api).parts w w' := by
  cases api with
  | advertise =>
    have hpress : apiAdvertisePress g env w = .ok w' := h
    refine press_leaves hpress .refl fun d u u' hb => ?_
    split_ifs at hb
    · exact appendGateway_leaves hb
    · cases hb
      exact .refl u
  | gwinfo =>
    have hpress : apiGwinfoPress g env w = .ok w' := h
    refine press_leaves hpress .refl fun d u u' hb => ?_
    split_ifs at hb
    · exact appendGateway_leaves hb
    · cases hb
      exact .refl u
  | connack =>
    have hpress : apiConnackPress env w = .ok w' := h
    refine press_leaves hpress (fun u => .other rfl rfl rfl rfl rfl rfl) fun d u u' hb => ?_
    split_ifs at hb <;> cases hb
    · refine Leaves.trans (.other ?_ ?_ ?_ ?_ ?_ ?_) (mqttSnGetgatewayInfo_leaves _ _) <;> rfl
    · exact .refl u
  | willtopicreq =>
    have hpress : willReqPress mqttSnTypeWilltopicreq mqttSnSendWilltopic env w = .ok w' := h
    refine press_leaves hpress (fun u => .other rfl rfl rfl rfl rfl rfl) fun d u u' hb => ?_
    split_ifs at hb
    · exact mqttSnSendWilltopic_leaves hb
    · cases hb
      exact .refl u
  | willmsgreq =>
    have hpress : willReqPress mqttSnTypeWillmsgreq mqttSnSendWillMSG env w = .ok w' := h
    refine press_leaves hpress (fun u => .other rfl rfl rfl rfl rfl rfl) fun d u u' hb => ?_
    split_ifs at hb
    · exact mqttSnSendWillMSG_leaves hb
    · cases hb
      exact .refl u
  | regack =>
    have hpress : apiRegackPress env w = .ok w' := h
    refine press_leaves hpress .refl fun d u u' hb => ?_
    split_ifs at hb <;> cases hb <;> exact .other rfl rfl rfl rfl rfl rfl
  | puback =>
    have hpress : apiPubackPress env w = .ok w' := h
    refine press_leaves hpress .refl fun d u u' hb => ?_
    split_ifs at hb <;> cases hb <;> exact .other rfl rfl rfl rfl rfl rfl
  | suback =>
    have hpress : apiSubackPress env w = .ok w' := h
    refine press_leaves hpress .refl fun d u u' hb => ?_
    split_ifs at hb <;> cases hb <;> exact .other rfl rfl rfl rfl rfl rfl
  | unsuback =>
    have hpress : apiUnsubackPress env w = .ok w' := h
    refine press_leaves hpress .refl fun d u u' hb => ?_
    cases hb
    exact .refl u
  | disconnet =>
    have hpress : apiDisconnetPress env w = .ok w' := h
    refine press_leaves hpress .refl fun d u u' hb => ?_
    split_ifs at hb <;> cases hb <;> exact .other rfl rfl rfl rfl rfl rfl
  | pingres =>
    have hpress : apiPingresPress env w = .ok w' := h
    refine press_leaves hpress .refl fun d u u' hb => ?_
    split_ifs at hb <;> cases hb
    · refine .silent rfl rfl rfl ?_
      rintro (_ | _ | _) hf <;> first | rfl | simp [Callback.parts] at hf
    · exact .refl u
  | pingreq =>
    have hpress : apiPingreqPress env w = .ok w' := h
    refine press_leaves hpress .refl fun d u u' hb => ?_
    split_ifs at hb <;> cases hb
    · exact .toRemote [_, _] rfl rfl rfl rfl rfl rfl
    · exact .refl u
  | publish =>
    have hpress : apiPublishPress env w = .ok w' := h
    refine press_leaves hpress .refl fun d u u' hb => ?_
    split_ifs at hb <;> cases hb
    · exact .toRemote ([_, _] ++ le16 _ ++ le16 _ ++ [_]) rfl rfl rfl rfl rfl rfl
    · exact .refl u
  | pubcomp | pubrec | pubrel =>
    cases h
    exact .refl w

theorem runCallback_leaves {cb : Callback} {arg : Arg}
    (h : runCallback topics env cb arg w = .ok w') : Leaves cb.parts w w' := by
  unfold runCallback at h
  split at h
  · exact func_leaves h
  · rcases mqttSnSendConnectCb_ok h with ⟨-, rfl⟩ | ⟨-, hsend⟩
    · exact .refl _
    · exact mqttSnSendConnect_leaves hsend
  · exact mqttSnSendRegisterCb_leaves h
  · cases h
    simp only [mqttSnClientPingreqTimeoutCb]
    split_ifs
    · refine Leaves.trans (.other ?_ ?_ ?_ ?_ ?_ ?_) (mqttSnSendPingreq_leaves _ _) <;> rfl
    · refine Leaves.trans (.other ?_ ?_ ?_ ?_ ?_ ?_) (mqttSnSendDisconnect_leaves _ _) <;> rfl
  · exact mqttSnSendPublish_leaves h
  · exact mqttSnSendPublish_leaves h
  · obtain ⟨_, -, hsend⟩ := mqttSnClientSubscribeTimeoutCb_ok h
    exact mqttSnSendSubscribeTopicName_leaves hsend
  · cases h
    exact mqttSnSendSubscribeTopicId_leaves _ _ _ _
  · exact mqttSnClientCyclic_leaves h
  · cases h

theorem runAppCall_leaves {call : AppCall} (h : runAppCall env call w = .ok w') :
    Leaves call.parts w w' := by
  cases call with
  | sendConnect => exact mqttSnSendConnect_leaves h
  | sendRegister => exact mqttSnSendRegister_leaves h
  | sendWilltopic => exact mqttSnSendWilltopic_leaves h
  | sendWillMSG => exact mqttSnSendWillMSG_leaves h
  | sendPingreq =>
    cases h
    exact mqttSnSendPingreq_leaves _ _
  | sendDisconnect =>
    cases h
    exact mqttSnSendDisconnect_leaves _ _
  | sendDisconnectTopicId =>
    cases h
    exact .toRemote (([_, _] ++ le16 _).take _) rfl rfl rfl rfl rfl rfl
  | getgatewayInfo =>
    cases h
    exact mqttSnGetgatewayInfo_leaves _ _
  | sendPublish => exact mqttSnSendPublish_leaves h
  | sendPublishack =>
    cases h
    exact .toRemote ([_, _] ++ le16 _ ++ le16 _ ++ [_]) rfl rfl rfl rfl rfl rfl
  | sendSubscribeTopicName => exact mqttSnSendSubscribeTopicName_leaves h
  | sendSubscribeTopicId =>
    cases h
    exact mqttSnSendSubscribeTopicId_leaves _ _ _ _
  | sendUnsubscribeTopicName => exact mqttSnSendUnsubscribeTopicName_leaves h
  | sendUnsubscribeTopicId =>
    cases h
    exact .toRemote (subscribeMsg _ _ _ _) rfl rfl rfl rfl rfl rfl

end MqttSnClient
