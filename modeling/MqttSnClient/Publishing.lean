import MqttSnClient.MainLoop

namespace MqttSnClient
open Memory Bytes

/-- The topic id that a REGACK assigns, if it is accepted. -/
def World.assigns (w : World) (d : ℕ → UInt8) : Option UInt16 :=
  if d 1 = mqttSnTypeRegack ∧ w.client.status = .connected ∧
      u16At d 4 = w.client.inpubPktId .reggister ∧ d 6 = mqttSnAccepted then
    some (u16At d 2)
  else none

/-- The topic id that a PUBACK invalidates, if it is accepted. -/
def World.invalidates (w : World) (d : ℕ → UInt8) : Option UInt16 :=
  if d 1 = mqttSnTypePuback ∧ w.client.status = .connected ∧
      u16At d 4 = w.client.inpubPktId .publish ∧ d 6 = mqttSnRejectedInvalid then
    some (u16At d 2)
  else none

/-- The frame that the handler `api` finds, if the step runs it. -/
def Event.found (e : Event) (api : Api) (w : World) : Option (ℕ → UInt8) :=
  match e.action with
  | .visit num now _ =>
    if timerDue num now w ∧ (w.systime.timerT num).timerCallback = .press api then
      w.headFrame.map (memcpy e.env.inputdata 0)
    else none
  | _ => none

def TopicMap.firstRegistering (m : TopicMap) : Bool :=
  m.toppiclist[0]?.any fun t => t.status = .registering

/-- The topic id that was assigned to the first topic and has not been invalidated since. -/
def trackAssigned (s : Task) (e : TaskEvent) (_ : Task) (g : Option UInt16) : Option UInt16 :=
  match e with
  | .client e _ =>
    match (e.found .regack s.world).bind s.world.assigns,
        (e.found .puback s.world).bind s.world.invalidates with
    | some topicid, _ => if s.world.topicMap.firstRegistering then some topicid else g
    | none, some topicid => if g = some topicid then none else g
    | none, none => g
  | .test _ _ => g

/-- Where `registertopicfinsh` is called and returns non-zero, all topics are registered, and
what the task publishes carries the id of the first topic. -/
def PublishesRegistered (s : Task × Option UInt16) (e : TaskEvent)
    (s' : Task × Option UInt16) : Prop :=
  ∀ systick env, e = .test systick env →
    (systick % 10000 = 0 → registertopicfinsh s.1.world.topicMap = true →
      ∀ t ∈ s.1.world.topicMap.toppiclist, t.status = .registered) ∧
    ∀ pk ∈ newlySent s.1.world s'.1.world, pk.cmd = mqttSnTypePublish →
      s.2 = some (u16At (asArray pk.data) 3)

/-- When the gate is asked, a topic that is registering does not stand alone with registered
ones. -/
def GateKept (s : Task × Option UInt16) (e : TaskEvent) : Prop :=
  ∀ systick env, e = .test systick env → systick % 10000 = 0 →
    (∃ t ∈ s.1.world.topicMap.toppiclist, t.status = .registering) →
      ∃ t ∈ s.1.world.topicMap.toppiclist, t.status = .unregister

/-- The history knows the id of the first topic while it is registered. -/
def FirstAssigned (m : TopicMap) (g : Option UInt16) : Prop :=
  ∀ t, m.toppiclist[0]? = some t → t.status = .registered → g = some t.topicId

variable {env : Env} {w u : World} {topics : Topics}

/-- The first item of the map is changed exactly when it passes the test. -/
theorem changeFirst_head (p : TopicMapItem → Bool) (f : TopicMapItem → TopicMapItem)
    (m : TopicMap) : (changeFirst p f m).2.toppiclist[0]? =
      m.toppiclist[0]?.map fun t => if p t then f t else t := by
  rcases changeFirst_spec p f m with ⟨i, t, hi, ht, hlow, heq⟩ | ⟨hno, heq⟩
  · rw [heq, modify_getElem?]
    by_cases hzero : i = 0
    · subst hzero
      rw [if_pos rfl, hi, Option.map_some, Option.map_some, if_pos ht]
    · rw [if_neg hzero]
      cases hfirst : m.toppiclist[0]? with
      | none => rfl
      | some v =>
        have hv := hlow 0 (Nat.pos_of_ne_zero hzero) v hfirst
        rw [Option.map_some, if_neg (by simp [hv])]
  · rw [heq]
    cases hfirst : m.toppiclist[0]? with
    | none => rfl
    | some v =>
      have hv := hno v (List.mem_of_getElem? hfirst)
      rw [Option.map_some, if_neg (by simp [hv])]

/-- What the handler of REGACK does to the topic map, by the frame that it finds. -/
theorem apiRegackPress_assigns (hw : Sound w) (h : apiRegackPress env w = .ok u) :
    u.topicMap = match (w.headFrame.map (memcpy env.inputdata 0)).bind w.assigns with
      | some topicid => (topicidRegistered topicid w.topicMap).2
      | none => w.topicMap := by
  rcases press_frame hw h with ⟨fr, hhead, -, -, hbody⟩ | ⟨hno, rfl⟩
  · rw [hhead]
    simp only [Option.map_some, Option.bind_some, World.assigns]
    split_ifs at hbody with hack haccepted
    · cases hbody
      rw [if_pos ⟨hack.1, hack.2.1, hack.2.2, haccepted⟩]
      rfl
    · cases hbody
      rw [if_neg fun hc => haccepted hc.2.2.2]
      rfl
    · cases hbody
      rw [if_neg fun hc => haccepted hc.2.2.2]
      rfl
    · cases hbody
      rw [if_neg fun hc => hack ⟨hc.1, hc.2.1, hc.2.2.1⟩]
      rfl
  · cases hhead : w.headFrame with
    | none => rfl
    | some fr => exact absurd (hno fr hhead) (by simp)

/-- A PUBACK that invalidates an id unregisters the first topic that stores it. -/
theorem apiPubackPress_invalidates (hw : Sound w) (h : apiPubackPress env w = .ok u)
    {topicid : UInt16}
    (hid : (w.headFrame.map (memcpy env.inputdata 0)).bind w.invalidates = some topicid) :
    u.topicMap = (topicidUnregister topicid w.topicMap).2 := by
  rcases press_frame hw h with ⟨fr, hhead, -, -, hbody⟩ | ⟨hno, rfl⟩
  · rw [hhead] at hid
    simp only [Option.map_some, Option.bind_some, World.invalidates] at hid
    split_ifs at hid with hc
    obtain ⟨htype, hst, hmid, hcode⟩ := hc
    cases hid
    rw [if_pos ⟨htype, hst, hmid⟩] at hbody
    simp only [hcode] at hbody
    cases hbody
    rfl
  · cases hhead : w.headFrame with
    | none =>
      rw [hhead] at hid
      cases hid
    | some fr => exact absurd (hno fr hhead) (by simp)

theorem Event.found_eq {num : ℕ} {now : UInt32} (env : Env) (hnum : num < maxTimerNum) {api : Api}
    (hdue : timerDue num now w = true) (hcb : (w.systime.timerT num).timerCallback = .press api) :
    Event.found ⟨.visit num now hnum, env⟩ api w = w.headFrame.map (memcpy env.inputdata 0) :=
  if_pos ⟨hdue, hcb⟩

theorem Event.found_none {num : ℕ} {now : UInt32} {hnum : num < maxTimerNum} {api : Api}
    (h : timerDue num now w = true → (w.systime.timerT num).timerCallback ≠ .press api) :
    Event.found ⟨.visit num now hnum, env⟩ api w = none :=
  if_neg fun hc => h hc.1 hc.2

/-- An assignment goes to the first topic if this is registering. -/
theorem FirstAssigned.assign {m : TopicMap} {g : Option UInt16} (h : FirstAssigned m g)
    (topicid : UInt16) : FirstAssigned (topicidRegistered topicid m).2
      (if m.firstRegistering then some topicid else g) := by
  intro t ht hst
  rw [topicidRegistered, changeFirst_head] at ht
  obtain ⟨v, hv, rfl⟩ := Option.map_eq_some_iff.mp ht
  have hfirst : m.firstRegistering = decide (v.status = .registering) := by
    rw [TopicMap.firstRegistering, hv, Option.any_some]
  by_cases hreg : v.status = .registering
  · simp [hfirst, hreg]
  · simp only [hfirst, hreg, decide_false, Bool.false_eq_true, if_false] at hst ⊢
    exact h v hv hst

/-- An invalidation of the id of the first topic unregisters it. -/
theorem FirstAssigned.invalidate {m : TopicMap} {g : Option UInt16} (h : FirstAssigned m g)
    (topicid : UInt16) : FirstAssigned (topicidUnregister topicid m).2
      (if g = some topicid then none else g) := by
  intro t ht hst
  rw [topicidUnregister, changeFirst_head] at ht
  obtain ⟨v, hv, rfl⟩ := Option.map_eq_some_iff.mp ht
  by_cases hid : v.topicId = topicid
  · simp [hid] at hst
  · simp only [hid, decide_false, Bool.false_eq_true, if_false] at hst ⊢
    have hg := h v hv hst
    rw [if_neg, hg]
    rw [hg]
    intro heq
    exact hid (Option.some.inj heq)

/-- A step of the client keeps the history right. -/
theorem firstAssigned_client {s : Task} {e : Event} (own : ∀ call, e.action ≠ .app call)
    {g : Option UInt16} (hw : Sound s.world) (h : FirstAssigned s.world.topicMap g)
    (hstep : step topiclist s.world e = .ok u) (s' : Task) :
    FirstAssigned u.topicMap (trackAssigned s (.client e own) s' g) := by
  obtain ⟨w, flag⟩ := s
  obtain ⟨action, env⟩ := e
  cases action with
  | app call => exact absurd rfl (own call)
  | recv p addr port =>
    cases hstep
    have hsame := (udpServerRecvCb_received env p addr port w).touches.same .topicMap
      List.not_mem_nil
    intro t ht hst
    exact h t (hsame ▸ ht) hst
  | visit num now hnum =>
    rcases timerVisit_ok hw hnum hstep with
      ⟨hdue, heq⟩ | ⟨t, v, x, hdue, ht, -, hrun, -, -, rfl, -, -⟩
    · obtain rfl : w = u := heq.symm
      have hno : ∀ api, Event.found ⟨.visit num now hnum, env⟩ api w = none := by
        intro api
        apply Event.found_none
        intro hyes
        rw [hdue] at hyes
        cases hyes
      simp only [trackAssigned, hno]
      exact h
    have hkind := (live_running hw.timers_wf ht).2.2.1
    have hno : ∀ api, t.timerCallback ≠ .press api →
        Event.found ⟨.visit num now hnum, env⟩ api w = none := by
      intro api hne
      apply Event.found_none
      intro _ hcb
      exact hne (hkind.symm.trans hcb)
    by_cases hreg : t.timerCallback = .press .regack
    · have hfound := Event.found_eq env hnum hdue (hkind.trans hreg)
      have hother := hno .puback (by rw [hreg]; decide)
      rw [hreg] at hrun
      have hmap := apiRegackPress_assigns hw (runCallback_press hrun)
      simp only [trackAssigned, hfound, hother]
      show FirstAssigned v.topicMap _
      rw [hmap]
      cases hassign : (w.headFrame.map (memcpy env.inputdata 0)).bind w.assigns with
      | some topicid => exact h.assign topicid
      | none => exact h
    -- without a REGACK, a topic that is registered was so before
    have hold : FirstAssigned v.topicMap g := by
      intro t' ht' hst
      exact h t' (registered_origin hrun hreg ht' hst) hst
    have hfound := hno .regack hreg
    by_cases hpub : t.timerCallback = .press .puback
    · have hack := Event.found_eq env hnum hdue (hkind.trans hpub)
      rw [hpub] at hrun
      simp only [trackAssigned, hfound, hack, Option.bind_none]
      show FirstAssigned v.topicMap _
      cases hinv : (w.headFrame.map (memcpy env.inputdata 0)).bind w.invalidates with
      | some topicid =>
        rw [apiPubackPress_invalidates hw (runCallback_press hrun) hinv]
        exact h.invalidate topicid
      | none => exact hold
    · simp only [trackAssigned, hfound, hno .puback hpub, Option.bind_none]
      exact hold

/-- What the task does leaves the topics alone. -/
theorem testTurn_keeps {s s' : Task} {systick : UInt32} (hw : TaskWorld s.world)
    (h : testTurn systick env s = .ok s') :
    TaskWorld s'.world ∧ s'.world.topicMap = s.world.topicMap := by
  unfold testTurn at h
  split_ifs at h
  · rcases flag_cases s.flag with hflag | hflag | hflag
    · obtain ⟨hreq, -⟩ := testBody_counting hflag h
      exact ⟨hreq.taskWorld hw, hreq.touches.same .topicMap (by decide)⟩
    · rw [testBody_disconnects hflag] at h
      cases h
      exact ⟨hw.disconnects 0, rfl⟩
    · rw [testBody_done hflag] at h
      cases h
      exact ⟨hw, rfl⟩
  · cases h
    exact ⟨hw, rfl⟩

/-- A PUBLISH of the task comes from its body and carries what `GetTopicID` returns. -/
theorem testTurn_publishes {s s' : Task} {systick : UInt32}
    (h : testTurn systick env s = .ok s') {pk : Packet}
    (hpk : pk ∈ newlySent s.world s'.world) (hcmd : pk.cmd = mqttSnTypePublish) :
    testDue systick s.world = true ∧
      u16At (asArray pk.data) 3 = (getTopicID topiclist.names[0] s.world.topicMap).toUInt16 := by
  unfold testTurn at h
  split_ifs at h with hdue
  · refine ⟨hdue, ?_⟩
    rcases flag_cases s.flag with hflag | hflag | hflag
    · exact testBody_publishes hflag h hpk hcmd
    · rw [testBody_disconnects hflag] at h
      cases h
      have hpk : pk ∈ newlySent s.world (mqttSnSendDisconnectTopicId 0 s.world) := hpk
      obtain ⟨sent, hsent, hdis⟩ := mqttSnSendDisconnectTopicId_sends 0 s.world
      rw [hsent, List.mem_singleton] at hpk
      rw [hpk, hdis] at hcmd
      cases hcmd
    · rw [testBody_done hflag] at h
      cases h
      exact absurd hcmd (no_publish_self s.world pk hpk)
  · cases h
    exact absurd hcmd (no_publish_self s.world pk hpk)

theorem getTopicID_first {m : TopicMap} {t : TopicMapItem}
    (hnames : m.toppiclist.map TopicMapItem.topicName = topiclist.names)
    (ht : m.toppiclist[0]? = some t) (hst : t.status = .registered) :
    (getTopicID topiclist.names[0] m).toUInt16 = t.topicId := by
  cases hlist : m.toppiclist with
  | nil =>
    rw [hlist] at ht
    cases ht
  | cons v rest =>
    rw [hlist] at ht hnames
    cases ht
    have hname : topiclist.names[0] = t.topicName := by
      have hhead := congrArg List.head? hnames
      exact (Option.some.inj hhead).symm
    have hpass : (topiclist.names[0] = t.topicName ∧ t.status = .registered) := ⟨hname, hst⟩
    simp only [getTopicID, hlist, List.find?_cons, decide_eq_true hpass]
    exact UInt16.toUInt16_toInt16 t.topicId

/-- What carries the publications through a run. -/
structure AssignedInv (s : Task × Option UInt16) : Prop extends TaskWorld s.1.world where
  assigned : FirstAssigned s.1.world.topicMap s.2

theorem assignedInv_step (s : Task × Option UInt16) (e : TaskEvent) (s' : Task × Option UInt16)
    (h : AssignedInv s) (hstep : Runs.tracked taskStep trackAssigned s e = .ok s') :
    AssignedInv s' := by
  obtain ⟨s, g⟩ := s
  obtain ⟨s', g'⟩ := s'
  obtain ⟨hs', rfl⟩ := Runs.tracked_ok.mp hstep
  have hw : TaskWorld s.world := h.toTaskWorld
  cases e with
  | client e own =>
    obtain ⟨u, hu, hs'⟩ := Runs.bind_ok.mp hs'
    cases hs'
    refine ⟨hw.step own hu, ?_⟩
    exact firstAssigned_client own hw.sound h.assigned hu { s with world := u }
  | test systick env =>
    obtain ⟨hkeep, hmap⟩ := testTurn_keeps hw hs'
    refine ⟨hkeep, ?_⟩
    show FirstAssigned s'.world.topicMap g
    rw [hmap]
    exact h.assigned

/-- Where the gate passes and its condition is met, all topics are registered. -/
theorem registertopicfinsh_registered {m : TopicMap} (hpass : registertopicfinsh m = true)
    (hgate : (∃ t ∈ m.toppiclist, t.status = .registering) →
      ∃ t ∈ m.toppiclist, t.status = .unregister) :
    ∀ t ∈ m.toppiclist, t.status = .registered := by
  have hnone : ∀ t ∈ m.toppiclist, t.status ≠ .unregister := by
    intro t ht
    exact of_decide_eq_true (List.all_eq_true.mp hpass t ht)
  intro t ht
  cases hst : t.status with
  | registered => rfl
  | unregister => exact absurd hst (hnone t ht)
  | registering =>
    obtain ⟨u, hu, hun⟩ := hgate ⟨t, ht, hst⟩
    exact absurd hun (hnone u hu)

theorem publishesRegistered_of_gateKept (s : Task × Option UInt16) (e : TaskEvent)
    (s' : Task × Option UInt16) (h : AssignedInv s) (hc : GateKept s e)
    (hstep : Runs.tracked taskStep trackAssigned s e = .ok s') : PublishesRegistered s e s' := by
  rintro systick env rfl
  obtain ⟨s, g⟩ := s
  obtain ⟨s', g'⟩ := s'
  obtain ⟨hs', rfl⟩ := Runs.tracked_ok.mp hstep
  have hall : systick % 10000 = 0 → registertopicfinsh s.world.topicMap = true →
      ∀ t ∈ s.world.topicMap.toppiclist, t.status = .registered := by
    intro htick hpass
    exact registertopicfinsh_registered hpass (hc systick env rfl htick)
  refine ⟨hall, fun pk hpk hcmd => ?_⟩
  obtain ⟨hdue, hid⟩ := testTurn_publishes hs' hpk hcmd
  simp only [testDue, Bool.and_eq_true, decide_eq_true_eq] at hdue
  -- the first topic is registered, so the lookup finds it
  obtain ⟨t, ht⟩ : ∃ t, s.world.topicMap.toppiclist[0]? = some t := by
    have hlen := congrArg List.length h.bound.names
    rw [List.length_map] at hlen
    have hpos : 0 < s.world.topicMap.toppiclist.length := by
      rw [hlen]
      decide
    exact ⟨_, List.getElem?_eq_getElem hpos⟩
  have hst := hall hdue.1 hdue.2 t (List.mem_of_getElem? ht)
  rw [hid, getTopicID_first h.bound.names ht hst]
  exact h.assigned t ht hst

/-- A topic that is registering among registered ones lets the gate pass. -/
theorem gate_breaks (s : Task × Option UInt16) (e : TaskEvent) (h : ¬GateKept s e) :
    ∃ s', Runs.tracked taskStep trackAssigned s e = .ok s' ∧ ¬PublishesRegistered s e s' := by
  simp only [GateKept, not_forall] at h
  obtain ⟨systick, env, rfl, htick, hreg, hnone⟩ := h
  obtain ⟨s, g⟩ := s
  have hpass : registertopicfinsh s.world.topicMap = true := by
    apply List.all_eq_true.mpr
    intro t ht
    apply decide_eq_true
    intro hst
    exact hnone ⟨t, ht, hst⟩
  have hdue : testDue systick s.world = true := by
    rw [testDue, hpass, htick]
    rfl
  obtain ⟨s', hs'⟩ := testBody_returns env s
  have hstep : taskStep s (.test systick env) = .ok s' := (if_pos hdue).trans hs'
  refine ⟨_, Runs.tracked_ok.mpr ⟨hstep, rfl⟩, fun hgood => ?_⟩
  obtain ⟨t, ht, hst⟩ := hreg
  have hregistered := (hgood systick env rfl).1 htick hpass t ht
  rw [hst] at hregistered
  cases hregistered

theorem Booted.assignedInv {w : World} (h : Booted topiclist w) :
    AssignedInv (⟨w, 0⟩, none) where
  toTaskWorld := h.phaseInv.toTaskWorld
  assigned := by
    intro t ht hst
    have ht : w.topicMap.toppiclist[0]? = some t := ht
    rw [h.topicMap_eq, topicInitConfig, List.getElem?_map] at ht
    obtain ⟨name, -, rfl⟩ := Option.map_eq_some_iff.mp ht
    cases hst

/-- A run of the program publishes only with assigned ids, behind a gate that passes only
registered topics, exactly when the gate is never asked while a topic is registering and no
topic is unregistered. -/
theorem publishes_registered_iff {env : Env} {w : World}
    (hinit : mqttClientInit env (startup topiclist) = .ok w) (es : List TaskEvent) :
    Runs.EachStep (Runs.tracked taskStep trackAssigned) PublishesRegistered (⟨w, 0⟩, none) es ↔
      Runs.Meets (Runs.tracked taskStep trackAssigned) GateKept (⟨w, 0⟩, none) es :=
  Runs.eachStep_iff_meets (J := AssignedInv)
    (fun s e s' h _ hs => assignedInv_step s e s' h hs) publishesRegistered_of_gateKept
    (fun s e _ hc => gate_breaks s e hc) (mqttClientInit_booted hinit).assignedInv

/-- The two topics are registered with the ids 1 and 2. -/
def registeredEvents : List TaskEvent :=
  connectedEvents ++
    [.recv (datagram [7, mqttSnTypeRegack, 1, 0, 1, 0, 0]) 0 10000 quietEnv,
      .visit ⟨2, two_lt_maxTimerNum⟩ 2200 quietEnv, .visit ⟨1, one_lt_maxTimerNum⟩ 4000 quietEnv,
      .recv (datagram [7, mqttSnTypeRegack, 2, 0, 2, 0, 0]) 0 10000 quietEnv,
      .visit ⟨2, two_lt_maxTimerNum⟩ 4200 quietEnv]

theorem gateKept_of_ne {s : Task × Option UInt16} {e : TaskEvent}
    (h : ∀ systick env, e ≠ .test systick env) : GateKept s e :=
  fun systick env he => absurd he (h systick env)

/-- Then the task publishes with the id 1. -/
theorem publishes_registered_first :
    Runs.EachStep (Runs.tracked taskStep trackAssigned) PublishesRegistered (⟨bootWorld, 0⟩, none)
      (registeredEvents ++ [.test 10000 quietEnv]) := by
  apply (publishes_registered_iff bootWorld_init _).mpr
  apply Runs.meets_snoc
  · apply Runs.meets_of_forall_mem
    intro e he s
    apply gateKept_of_ne
    rintro systick env rfl
    simp [registeredEvents, connectedEvents, TaskEvent.recv, TaskEvent.visit] at he
  · intro s hs
    cases hs
    intro systick env _ _ hreg
    revert hreg
    decide +kernel

/-- Then a PUBACK rejects the first id, and the topic is being registered again. -/
def rejectedEvents : List TaskEvent :=
  registeredEvents ++
    [.recv (datagram [7, mqttSnTypePuback, 1, 0, 0, 0, mqttSnRejectedInvalid]) 0 10000 quietEnv,
      .visit ⟨0, zero_lt_maxTimerNum⟩ 4400 quietEnv, .visit ⟨1, one_lt_maxTimerNum⟩ 6000 quietEnv]

/-- The task publishes with the id 0xFFFF. -/
theorem publishes_unfound_id :
    ¬∀ (env : Env) (w : World) (es : List TaskEvent),
      mqttClientInit env (startup topiclist) = .ok w →
        Runs.EachStep (Runs.tracked taskStep trackAssigned) PublishesRegistered
          (⟨w, 0⟩, none) es := by
  intro h
  have hlast := h quietEnv bootWorld (rejectedEvents ++ [.test 10000 quietEnv]) bootWorld_init
    rejectedEvents (.test 10000 quietEnv) [] _ _ rfl rfl rfl
  have hsends := (hlast 10000 quietEnv rfl).2
  revert hsends
  decide +kernel

end MqttSnClient
