import MqttSnClient.Queues
import MqttSnClient.Touches

/-! Acknowledgements and the requests that they answer. A history notes the message ids of
the requests on their way; the client itself keeps one id for each kind. -/
namespace MqttSnClient
open Memory Bytes

/-- The message ids of the requests sent and not yet acknowledged, by kind, and whether the
id that the client keeps is that of such a request. -/
structure Requests where
  outstanding : PackPending → List UInt16
  opened : PackPending → Bool

def Requests.none : Requests := { outstanding := fun _ => [], opened := fun _ => false }

def Requests.request (kind : PackPending) (mid : UInt16) (g : Requests) : Requests where
  outstanding := Function.update g.outstanding kind (mid :: g.outstanding kind)
  opened := Function.update g.opened kind true

/-- A datagram is sent. A PUBLISH that asks for no PUBACK still takes the place of the one
before. -/
def Requests.note (g : Requests) (pk : Packet) : Requests :=
  let data := asArray pk.data
  if pk.cmd = mqttSnTypeRegister then g.request .reggister (u16At data 4)
  else if pk.cmd = mqttSnTypePublish then
    if data 2 &&& mqttSnFlagQosMask = mqttSnFlagQos1 then g.request .publish (u16At data 5)
    else { g with opened := Function.update g.opened .publish false }
  else if pk.cmd = mqttSnTypeSubscribe then g.request .subscaribe (u16At data 3)
  else g

/-- An acknowledgement settles all requests with its message id. -/
def Requests.settle (kind : PackPending) (mid pending : UInt16) (g : Requests) : Requests where
  outstanding :=
    Function.update g.outstanding kind ((g.outstanding kind).filter fun m => m ≠ mid)
  opened := if mid = pending then Function.update g.opened kind false else g.opened

/-- The kind and the message id of the acknowledgement that a handler finds. -/
def Api.ackFound (api : Api) (env : Env) (w : World) : Option (PackPending × UInt16) :=
  w.headFrame.bind fun fr =>
    let d := memcpy env.inputdata 0 fr
    match api with
    | .regack => if d 1 = mqttSnTypeRegack then some (.reggister, u16At d 4) else .none
    | .puback => if d 1 = mqttSnTypePuback then some (.publish, u16At d 4) else .none
    | .suback => if d 1 = mqttSnTypeSuback then some (.subscaribe, u16At d 5) else .none
    | _ => .none

def Event.ack (e : Event) (w : World) : Option (PackPending × UInt16) :=
  match e.action with
  | .visit num now _ =>
    if timerDue num now w then
      match (w.systime.timerT num).timerCallback with
      | .press api => api.ackFound e.env w
      | _ => .none
    else .none
  | _ => .none

def Requests.settled (g : Requests) (w : World) : Option (PackPending × UInt16) → Requests
  | some (kind, mid) => g.settle kind mid (w.client.inpubPktId kind)
  | .none => g

def trackRequests (w : World) (e : Event) (w' : World) (g : Requests) : Requests :=
  (w'.sent.drop w.sent.length).foldl Requests.note (g.settled w (e.ack w))

/-- A handler that finds an acknowledgement with the message id that the client keeps finds
it for a request that is still open: for a REGISTER, or for the last PUBLISH, sent with QoS
1, of which no acknowledgement has been handled. -/
def AcksOpen (s : World × Requests) (e : Event) : Prop :=
  ∀ kind mid, kind = .reggister ∨ kind = .publish → e.ack s.1 = some (kind, mid) →
    s.1.client.status = .connected → mid = s.1.client.inpubPktId kind → s.2.opened kind = true

/-- The step takes a frame from the queues and its own timer from the table, nothing else. -/
def OnlyConsumes (num : ℕ) (env : Env) (w w' : World) : Prop :=
  ∃ s, w' = { w.consumed (nextFrame env w) with systime := s } ∧
    s.live = Function.update w.systime.live num .none

/-- A handler of acknowledgements does more than that only when it finds the acknowledgement
of a request that has been sent and not yet been acknowledged. -/
def ActsOnOutstanding (s : World × Requests) (e : Event) (s' : World × Requests) : Prop :=
  ∀ num now valid api, e.action = .visit num now valid → timerDue num now s.1 = true →
    (s.1.systime.timerT num).timerCallback = .press api →
    api = .regack ∨ api = .puback ∨ api = .suback →
      (∃ kind mid, api.ackFound e.env s.1 = some (kind, mid) ∧ mid ∈ s.2.outstanding kind) ∨
        OnlyConsumes num e.env s.1 s'.1

/-- The id that the client keeps is that of an outstanding request where the history says
so. -/
def Linked (w : World) (g : Requests) : Prop :=
  ∀ kind, kind = .reggister ∨ kind = .publish → g.opened kind = true →
    w.client.inpubPktId kind ∈ g.outstanding kind

/-- A step that keeps this link for the datagrams that it sends. -/
def KeepsLink (w w' : World) : Prop :=
  ∃ new, w'.sent = w.sent ++ new ∧ ∀ g, Linked w g → Linked w' (new.foldl Requests.note g)

namespace KeepsLink

variable {w w' w'' : World}

theorem refl (w : World) : KeepsLink w w := ⟨[], by simp, fun _ h => h⟩

theorem trans (h : KeepsLink w w') (h' : KeepsLink w' w'') : KeepsLink w w'' := by
  obtain ⟨new, hnew, hlink⟩ := h
  obtain ⟨new', hnew', hlink'⟩ := h'
  refine ⟨new ++ new', by rw [hnew', hnew, List.append_assoc], fun g hg => ?_⟩
  rw [List.foldl_append]
  exact hlink' _ (hlink g hg)

end KeepsLink

theorem note_other {g : Requests} {pk : Packet} (hr : pk.cmd ≠ mqttSnTypeRegister)
    (hp : pk.cmd ≠ mqttSnTypePublish) {kind : PackPending}
    (hk : kind = .reggister ∨ kind = .publish) :
    (g.note pk).outstanding kind = g.outstanding kind ∧
      (g.note pk).opened kind = g.opened kind := by
  have hne : kind ≠ .subscaribe := by rcases hk with rfl | rfl <;> decide
  simp only [Requests.note, if_neg hr, if_neg hp]
  split_ifs
  · exact ⟨Function.update_of_ne hne _ _, Function.update_of_ne hne _ _⟩
  · exact ⟨rfl, rfl⟩

/-- A step that sends neither REGISTER nor PUBLISH and leaves their ids alone. -/
theorem Touches.keepsLink {F : List Field} {T : List UInt8} {w w' : World} (h : Touches F T w w')
    (hreg : Field.pending .reggister ∉ F) (hpub : Field.pending .publish ∉ F)
    (hr : mqttSnTypeRegister ∉ T) (hp : mqttSnTypePublish ∉ T) : KeepsLink w w' := by
  obtain ⟨new, hnew, hT⟩ := h.emits
  refine ⟨new, hnew, fun g hg kind hk hopen => ?_⟩
  have hsame : w'.client.inpubPktId kind = w.client.inpubPktId kind := by
    rcases hk with rfl | rfl
    · exact h.same (.pending .reggister) hreg
    · exact h.same (.pending .publish) hpub
  have hfold : ∀ g : Requests, (new.foldl Requests.note g).outstanding kind = g.outstanding kind ∧
      (new.foldl Requests.note g).opened kind = g.opened kind := by
    clear hnew hopen
    induction new with
    | nil => exact fun g => ⟨rfl, rfl⟩
    | cons pk new ih =>
      intro g
      have hcmd := hT pk (by simp)
      obtain ⟨hout, hop⟩ := note_other (g := g) (fun he => hr (he ▸ hcmd))
        (fun he => hp (he ▸ hcmd)) hk
      obtain ⟨hout', hop'⟩ := ih (fun pk hpk => hT pk (List.mem_cons_of_mem _ hpk)) (g.note pk)
      exact ⟨hout'.trans hout, hop'.trans hop⟩
  obtain ⟨hout, hop⟩ := hfold g
  rw [hsame, hout]
  exact hg kind hk (hop ▸ hopen)

/-- A request whose datagram carries the id that is kept for its kind. -/
theorem linked_request {w w' : World} {g : Requests} {kind : PackPending} {mid : UInt16}
    (hg : Linked w g) (hc : w'.client.inpubPktId = Function.update w.client.inpubPktId kind mid) :
    Linked w' (g.request kind mid) := by
  intro k hk hopen
  rw [hc]
  by_cases hkk : k = kind
  · subst hkk
    simp [Requests.request]
  · simp only [Requests.request, Function.update_of_ne hkk] at hopen ⊢
    exact hg k hk hopen

theorem mqttSnSendRegister_keepsLink {tick : UInt32} {name : CString} {w w' : World}
    (h : mqttSnSendRegister tick name w = .ok w') : KeepsLink w w' := by
  simp only [mqttSnSendRegister] at h
  split_ifs at h
  cases h
  refine ⟨[⟨_, _, registerMsg w.client.pktId name⟩], rfl, fun g hg => ?_⟩
  have hmid : u16At (asArray (registerMsg w.client.pktId name)) 4 = w.client.pktId :=
    u16At_le16 _ _ _ rfl rfl
  simp only [List.foldl_cons, List.foldl_nil, Requests.note]
  rw [if_pos (by simp [Packet.cmd, registerMsg]), hmid]
  exact linked_request hg rfl

theorem mqttSnSendPublish_keepsLink {env : Env} {topicId : UInt16} {topicType : UInt8}
    {data : DataPtr} {dataLen : UInt16} {qos : Int8} {retain dup : UInt8} {w w' : World}
    (h : mqttSnSendPublish env topicId topicType data dataLen qos retain dup w = .ok w') :
    KeepsLink w w' := by
  have hsent : ∃ pk : Packet, w'.sent = w.sent ++ [pk] ∧ pk.cmd = mqttSnTypePublish ∧
      u16At (asArray pk.data) 5 = w.client.pktId ∧
      w'.client.inpubPktId = Function.update w.client.inpubPktId .publish w.client.pktId := by
    simp only [mqttSnSendPublish] at h
    split_ifs at h <;> cases h <;>
      exact ⟨⟨_, _, publishMsg _ _ w.client.pktId _⟩, rfl, by simp [Packet.cmd, publishMsg],
        u16At_le16 _ _ _ rfl rfl, rfl⟩
  obtain ⟨pk, hs, hcmd, hmid, hc⟩ := hsent
  refine ⟨[pk], hs, fun g hg => ?_⟩
  simp only [List.foldl_cons, List.foldl_nil, Requests.note]
  rw [if_neg (by rw [hcmd]; decide), if_pos hcmd, hmid]
  split_ifs
  · exact linked_request hg hc
  -- no PUBACK is due for this PUBLISH
  · intro kind hk hopen
    have hne : kind ≠ .publish := by
      rintro rfl
      simp at hopen
    simp only [Function.update_of_ne hne] at hopen
    rw [hc, Function.update_of_ne hne]
    exact hg kind hk hopen

variable {topics : Topics} {env : Env} {w w' : World}

theorem registerTurn_keepsLink {i : ℕ} (h : registerTurn env topics w i = .ok w') :
    KeepsLink w w' := by
  rcases registerTurn_ok h with rfl | ⟨_, _, -, -, -, hsend⟩
  · exact .refl _
  · exact mqttSnSendRegister_keepsLink hsend

theorem mqttSnSendRegisterCb_keepsLink (h : mqttSnSendRegisterCb env topics w = .ok w') :
    KeepsLink w w' :=
  Runs.foldlM_ok (R := KeepsLink) .refl KeepsLink.trans registerTurn_keepsLink h

theorem registeralltopic_keepsLink (h : registeralltopic env topics w = .ok w') :
    KeepsLink w w' := by
  rcases registeralltopic_ok h with ⟨-, rfl⟩ | ⟨-, _, _, u, -, -, hsend, rfl⟩
  · exact .refl _
  · have hlink := mqttSnSendRegister_keepsLink hsend
    exact hlink

theorem mqttSnClientCyclic_keepsLink (h : mqttSnClientCyclic env topics w = .ok w') :
    KeepsLink w w' := by
  rcases mqttSnClientCyclic_ok h with ⟨-, rfl⟩ | ⟨-, u, hreg, hend⟩
  · exact .refl w
  · have hlink := registeralltopic_keepsLink hreg
    have hu : KeepsLink w u := hlink
    rcases hend with ⟨-, rfl⟩ | ⟨-, rfl⟩
    · exact hu
    · refine hu.trans (Touches.keepsLink (F := []) (T := [mqttSnTypePingreq]) ?_ List.not_mem_nil
        List.not_mem_nil (by decide) (by decide))
      exact .after (mqttSnSendPingreq_touches (by simp) _ _) rfl rfl rfl rfl rfl rfl rfl

/-- Only the handler of PUBACK changes an id without sending. -/
theorem runCallback_keepsLink {cb : Callback} {arg : Arg} (hcb : cb ≠ .press .puback)
    (h : runCallback topics env cb arg w = .ok w') : KeepsLink w w' := by
  have ht := runCallback_touches h
  cases cb with
  | press api =>
    cases api with
    | puback => exact absurd rfl hcb
    | _ => exact ht.keepsLink (by decide) (by decide) (by decide) (by decide)
  | sendRegisterCb =>
    cases arg <;> first | exact mqttSnSendRegisterCb_keepsLink h | cases h
  | cyclicCb =>
    cases arg <;> first | exact mqttSnClientCyclic_keepsLink h | cases h
  | publishTimeoutCb =>
    cases arg <;> first | exact mqttSnSendPublish_keepsLink h | cases h
  | _ => exact ht.keepsLink (by decide) (by decide) (by decide) (by decide)

theorem runAppCall_keepsLink {call : AppCall} (h : runAppCall env call w = .ok w') :
    KeepsLink w w' := by
  have ht := runAppCall_touches h
  cases call with
  | sendRegister => exact mqttSnSendRegister_keepsLink h
  | sendPublish => exact mqttSnSendPublish_keepsLink h
  | _ =>
    simp only [AppCall.changes, AppCall.emits] at ht
    exact ht.keepsLink (by decide) (by decide) (by decide) (by decide)

/-- An acknowledgement with the id that is kept closes it. -/
theorem Linked.settle {g : Requests} (h : Linked w g) (kind : PackPending) (mid : UInt16) :
    Linked w (g.settle kind mid (w.client.inpubPktId kind)) := by
  intro k hk hopen
  by_cases hkk : k = kind
  · subst hkk
    by_cases hmid : mid = w.client.inpubPktId k
    · simp [Requests.settle, hmid] at hopen
    · simp only [Requests.settle, if_neg hmid] at hopen
      simp only [Requests.settle, Function.update_self, List.mem_filter]
      exact ⟨h k hk hopen, by simpa using Ne.symm hmid⟩
  · simp only [Requests.settle, Function.update_of_ne hkk] at hopen ⊢
    split_ifs at hopen
    · exact h k hk (by rwa [Function.update_of_ne hkk] at hopen)
    · exact h k hk hopen

theorem Linked.settled {g : Requests} (h : Linked w g) (ack : Option (PackPending × UInt16)) :
    Linked w (g.settled w ack) := by
  rcases ack with _ | ⟨kind, mid⟩
  · exact h
  · exact h.settle kind mid

theorem KeepsLink.tracked (h : KeepsLink w w') {e : Event} {g : Requests} (hg : Linked w g) :
    Linked w' (trackRequests w e w' g) := by
  obtain ⟨new, hnew, hlink⟩ := h
  rw [trackRequests, hnew, List.drop_left]
  exact hlink _ (hg.settled _)

/-- A handler that tests for its type and for the id that is kept acts only on such an
acknowledgement. -/
theorem press_ack_cases {type : UInt8} {kind : PackPending}
    {act : (ℕ → UInt8) → World → Except Fault World} (hw : Sound w)
    (h : press id (fun _ => true)
      (fun d w => if d 1 = type ∧ w.client.status = .connected ∧
        u16At d 4 = w.client.inpubPktId kind then act d w else .ok w) env w = .ok w') :
    (w.client.status = .connected ∧ ∃ fr, w.headFrame = some fr ∧
        memcpy env.inputdata 0 fr 1 = type ∧
        u16At (memcpy env.inputdata 0 fr) 4 = w.client.inpubPktId kind) ∨
      w' = w.consumed (nextFrame env w) := by
  rcases press_frame hw h with ⟨fr, hhead, -, -, hbody⟩ | ⟨-, rfl⟩
  · split at hbody
    · rename_i hacc
      exact Or.inl ⟨hacc.2.1, fr, hhead, hacc.1, hacc.2.2⟩
    · cases hbody
      exact Or.inr rfl
  · exact Or.inr rfl

theorem apiRegackPress_cases (hw : Sound w) (h : apiRegackPress env w = .ok w') :
    (w.client.status = .connected ∧
        Api.regack.ackFound env w = some (.reggister, w.client.inpubPktId .reggister)) ∨
      w' = w.consumed (nextFrame env w) := by
  rcases press_ack_cases hw h with ⟨hst, fr, hhead, htype, hmid⟩ | hsame
  · refine Or.inl ⟨hst, ?_⟩
    simp only [Api.ackFound, hhead, Option.bind_some, hmid, if_pos htype]
  · exact Or.inr hsame

theorem apiPubackPress_cases (hw : Sound w) (h : apiPubackPress env w = .ok w') :
    (w.client.status = .connected ∧
        Api.puback.ackFound env w = some (.publish, w.client.inpubPktId .publish)) ∨
      w' = w.consumed (nextFrame env w) := by
  rcases press_ack_cases hw h with ⟨hst, fr, hhead, htype, hmid⟩ | hsame
  · refine Or.inl ⟨hst, ?_⟩
    simp only [Api.ackFound, hhead, Option.bind_some, hmid, if_pos htype]
  · exact Or.inr hsame

/-- The handler of SUBACK cancels an ID that no timer has. -/
theorem apiSubackPress_idle (hw : Sound w) (h : apiSubackPress env w = .ok w') :
    ∃ s, w' = { w.consumed (nextFrame env w) with systime := s } ∧
      s.live = w.systime.live := by
  have hidle := timerCancelByID_subscribe hw
  rcases press_ok h with ⟨-, -, -, hbody⟩ | ⟨-, rfl⟩
  · split_ifs at hbody <;> cases hbody
    · exact ⟨_, rfl, congrArg Timer.live hidle⟩
    · exact ⟨_, rfl, rfl⟩
  · exact ⟨_, rfl, rfl⟩

/-- What carries this through a run. -/
def LinkInv (s : World × Requests) : Prop := Sound s.1 ∧ Linked s.1 s.2

theorem link_step (s : World × Requests) (e : Event) (s' : World × Requests) (hs : LinkInv s)
    (h : Runs.tracked (step topics) trackRequests s e = .ok s') : LinkInv s' := by
  obtain ⟨w, g⟩ := s
  obtain ⟨w', g'⟩ := s'
  obtain ⟨action, env⟩ := e
  obtain ⟨hstep, rfl⟩ := Runs.tracked_ok.mp h
  have hw : Sound w := hs.1
  refine ⟨sound_step hw hstep, ?_⟩
  cases action with
  | recv p addr port =>
    cases hstep
    exact ((udpServerRecvCb_received env p addr port w).touches.keepsLink List.not_mem_nil
      List.not_mem_nil List.not_mem_nil List.not_mem_nil).tracked hs.2
  | app call => exact (runAppCall_keepsLink hstep).tracked hs.2
  | visit num now valid =>
    rcases timerVisit_ok hw valid hstep with
      ⟨-, rfl⟩ | ⟨t, u, s, hdue, ht, -, hrun, -, -, rfl, -, -⟩
    · exact (KeepsLink.refl w').tracked hs.2
    by_cases hkind : t.timerCallback = .press .puback
    · have hcb := (live_running hw.timers_wf ht).2.2.1.trans hkind
      have htouch := runCallback_touches hrun
      rw [hkind] at hrun htouch
      have hpress : apiPubackPress env w = .ok u := runCallback_press hrun
      rcases apiPubackPress_cases hw hpress with ⟨-, hack⟩ | rfl
      -- the id is cleared, and the history says that it is settled
      · have hfound : Event.ack ⟨.visit num now valid, env⟩ w =
            some (.publish, w.client.inpubPktId .publish) := by
          simp only [Event.ack, hdue, if_true, hcb, hack]
        obtain ⟨new, hnew, hT⟩ := htouch.emits
        obtain rfl : new = [] := List.eq_nil_iff_forall_not_mem.mpr fun pk hpk => by
          simpa [Callback.emits] using hT pk hpk
        have htrack : trackRequests w ⟨.visit num now valid, env⟩ { u with systime := s } g =
            g.settle .publish (w.client.inpubPktId .publish) (w.client.inpubPktId .publish) := by
          rw [trackRequests, hfound]
          show (u.sent.drop w.sent.length).foldl Requests.note _ = _
          rw [hnew, List.drop_left]
          rfl
        show Linked _ (trackRequests w _ _ g)
        rw [htrack]
        intro kind hk hopen
        have hreg : kind = .reggister := by
          rcases hk with rfl | rfl
          · rfl
          · simp [Requests.settle] at hopen
        subst hreg
        have hsame : u.client.inpubPktId .reggister = w.client.inpubPktId .reggister :=
          htouch.same (.pending .reggister) (by decide)
        show u.client.inpubPktId .reggister ∈ _
        rw [hsame]
        exact hs.2.settle .publish _ .reggister (Or.inl rfl) hopen
      · exact (KeepsLink.refl w).tracked hs.2
    · exact (runCallback_keepsLink hkind hrun).tracked hs.2

theorem acts_on_outstanding_step (s : World × Requests) (e : Event) (s' : World × Requests)
    (hs : LinkInv s) (hc : AcksOpen s e)
    (h : Runs.tracked (step topics) trackRequests s e = .ok s') : ActsOnOutstanding s e s' := by
  obtain ⟨w, g⟩ := s
  obtain ⟨w', g'⟩ := s'
  obtain ⟨hstep, -⟩ := Runs.tracked_ok.mp h
  have hw : Sound w := hs.1
  intro num now valid api haction hdue hcb happ
  obtain ⟨action, env⟩ := e
  obtain rfl : action = .visit num now valid := haction
  rcases timerVisit_ok hw valid hstep with
    ⟨hnot, -⟩ | ⟨t, u, s, -, ht, -, hrun, -, -, rfl, -, hlive⟩
  · rw [hnot] at hdue
    cases hdue
  have hkind : t.timerCallback = .press api := (live_running hw.timers_wf ht).2.2.1.symm.trans hcb
  rw [hkind] at hrun hlive
  have hpress := runCallback_press hrun
  rw [if_neg (by simp)] at hlive
  have hfound : Event.ack ⟨.visit num now valid, env⟩ w = api.ackFound env w := by
    have hdue : timerDue num now w = true := hdue
    have hcb : (w.systime.timerT num).timerCallback = .press api := hcb
    simp only [Event.ack, hdue, if_true, hcb]
  -- an acknowledgement that is acted on is open, so it is outstanding
  have hopen : ∀ kind, kind = .reggister ∨ kind = .publish → w.client.status = .connected →
      api.ackFound env w = some (kind, w.client.inpubPktId kind) →
      ∃ kind mid, api.ackFound env w = some (kind, mid) ∧ mid ∈ g.outstanding kind := by
    intro kind hk hst hack
    refine ⟨kind, _, hack, hs.2 kind hk (hc kind _ hk ?_ hst rfl)⟩
    rw [hfound]
    exact hack
  rcases happ with rfl | rfl | rfl
  · rcases apiRegackPress_cases hw hpress with ⟨hst, hack⟩ | rfl
    · exact Or.inl (hopen .reggister (Or.inl rfl) hst hack)
    · exact Or.inr ⟨s, rfl, hlive⟩
  · rcases apiPubackPress_cases hw hpress with ⟨hst, hack⟩ | rfl
    · exact Or.inl (hopen .publish (Or.inr rfl) hst hack)
    · exact Or.inr ⟨s, rfl, hlive⟩
  · obtain ⟨v, rfl, hv⟩ := apiSubackPress_idle hw hpress
    exact Or.inr ⟨s, rfl, by rw [hlive, ← hv]⟩

/-- In every run in which the ids that are kept are acknowledged only while they are open,
acknowledgements act on outstanding requests only. -/
theorem acks_act_on_outstanding (hinit : mqttClientInit env (startup topics) = .ok w)
    (es : List Event)
    (hc : Runs.Meets (Runs.tracked (step topics) trackRequests) AcksOpen (w, .none) es) :
    Runs.EachStep (Runs.tracked (step topics) trackRequests) ActsOnOutstanding (w, .none) es := by
  have hstart : LinkInv (w, .none) := by
    refine ⟨(mqttClientInit_booted hinit).sound, ?_⟩
    intro kind _ hopen
    cases hopen
  refine Runs.eachStep_of_meets (J := LinkInv) (fun s e s' hs hc h => ?_) hstart hc
  exact ⟨link_step s e s' hs h, acts_on_outstanding_step s e s' hs hc h⟩

def connackEvents : List Event :=
  [⟨.recv (datagram [3, mqttSnTypeConnack, 0]) 0 10000, quietEnv⟩,
    ⟨.visit 2 200 two_lt_maxTimerNum, quietEnv⟩]

/-- A PUBLISH with QoS 1 is sent, and its PUBACK handled. -/
def pubackEvents : List Event :=
  connackEvents ++ [⟨.app (.sendPublish 5 0 (fun _ => 0) 1 1 0 0), quietEnv⟩,
    ⟨.recv (datagram [7, mqttSnTypePuback, 5, 0, 1, 0, 0]) 0 10000, quietEnv⟩,
    ⟨.visit 2 200 two_lt_maxTimerNum, quietEnv⟩]

/-- Where a step handles no acknowledgement there is nothing to ask. -/
theorem acksOpen_of_none {s : World × Requests} {e : Event} (h : e.ack s.1 = none) :
    AcksOpen s e := by
  intro kind mid _ hack
  rw [h] at hack
  cases hack

theorem acks_act_on_outstanding_puback :
    Runs.EachStep (Runs.tracked (step topiclist) trackRequests) ActsOnOutstanding
      (bootWorld, .none) pubackEvents := by
  refine acks_act_on_outstanding bootWorld_init _ ?_
  refine ⟨acksOpen_of_none rfl, fun s hs => ?_⟩
  cases hs
  refine ⟨acksOpen_of_none (by decide), fun s hs => ?_⟩
  cases hs
  refine ⟨acksOpen_of_none rfl, fun s hs => ?_⟩
  cases hs
  refine ⟨acksOpen_of_none rfl, fun s hs => ?_⟩
  cases hs
  refine ⟨?_, fun _ _ => trivial⟩
  intro kind mid hk hack _ _
  rcases hk with rfl | rfl
  · have hkind : _ = some PackPending.reggister := congrArg (Option.map Prod.fst) hack
    exact absurd hkind (by decide)
  · decide

/-- A PUBACK with the message id 0, to which no request has been sent. -/
def idlePubackEvents : List Event :=
  [⟨.recv (datagram [7, mqttSnTypePuback, 0, 0, 0, 0, mqttSnRejectedCongestion]) 0 10000, quietEnv⟩,
    ⟨.visit 0 200 (by decide), quietEnv⟩]

/-- The idle client takes it for the answer to its last PUBLISH and arms a timer. -/
theorem idle_puback_acts :
    ¬∀ (topics : Topics) (env : Env) (w : World) (es : List Event),
      mqttClientInit env (startup topics) = .ok w →
        Runs.EachStep (Runs.tracked (step topics) trackRequests) ActsOnOutstanding
          (w, .none) es := by
  intro h
  have hlast := h topiclist quietEnv bootWorld (connackEvents ++ idlePubackEvents) bootWorld_init
    (connackEvents ++ [⟨.recv (datagram
      [7, mqttSnTypePuback, 0, 0, 0, 0, mqttSnRejectedCongestion]) 0 10000, quietEnv⟩])
    ⟨.visit 0 200 (by decide), quietEnv⟩ [] _ _ rfl rfl rfl
  rcases hlast 0 200 (by decide) .puback rfl (by decide) (by decide) (Or.inr (Or.inl rfl)) with
    ⟨kind, mid, -, hmem⟩ | ⟨s, heq, hlive⟩
  · cases kind <;> cases hmem
  · have hs := congrArg (fun w : World => (w.systime.live 2).isSome) heq
    have hfree := congrArg Option.isSome (congrFun hlive 2)
    exact absurd (hs.trans hfree) (by decide)

end MqttSnClient
