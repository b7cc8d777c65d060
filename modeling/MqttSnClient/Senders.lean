import MqttSnClient.Boundaries
import MqttSnClient.Connecting
import MqttSnClient.Footprint
import MqttSnClient.Gateways

namespace MqttSnClient
open Memory

abbrev Sender : Type := UInt32 × UInt16

/-- The queued bytes with their senders, the sender of the last datagram that was stored,
and the sender of the CONNACK by which the client is connected. -/
structure Senders where
  bytes : List (UInt8 × Sender)
  last : Option Sender
  session : Option Sender

def Senders.head (g : Senders) : Option Sender := g.bytes.head?.map Prod.snd

/-- What a datagram adds to the queued bytes. -/
def arrived (w : World) (e : Event) : List (UInt8 × Sender) :=
  match e.action with
  | .recv p addr port => if Stores w p then p.bytes.map fun b => (b, (addr, port)) else []
  | _ => []

def trackSenders (w : World) (e : Event) (w' : World) (g : Senders) : Senders where
  bytes :=
    let bytes := g.bytes ++ arrived w e
    bytes.drop (bytes.length - (queued w'.buffBody).length)
  last := match e.action with
    | .recv p addr port => if Stores w p then some (addr, port) else g.last
    | _ => g.last
  session :=
    if w'.client.status ≠ .connected then none
    else if w.client.status = .connected then g.session else g.head

/-- Bytes leave the ring at its front only. -/
theorem nextFrame_suffix {w : World} (hw : Sound w) (env : Env) :
    queued (nextFrame env w).buffBody <:+ queued w.buffBody := by
  obtain ⟨q, hq⟩ := hw.buff
  simp only [nextFrame]
  by_cases hn : 1 ≤ (readClientImportindex w.client.rxBuffer).1.toNat ∧
      (readClientImportindex w.client.rxBuffer).1.toNat ≤ q.length
  · rw [(readBUFF_ok hq env.inputdata hn.1 hn.2).2.2.queued_eq, hq.queued_eq]
    exact List.drop_suffix _ _
  · rw [(readBUFF_refused hq (some env.inputdata) hn).2]

theorem queued_suffix_step {topics : Topics} {w w' : World} {e : Event} (hw : Sound w)
    (h : step topics w e = .ok w') :
    queued w'.buffBody <:+ queued w.buffBody ++ (arrived w e).map Prod.fst := by
  unfold step at h
  unfold arrived
  split at h
  · rename_i p addr port haction
    cases h
    simp only [haction]
    by_cases hp : Stores w p
    · obtain ⟨q, hq⟩ := hw.buff
      have hstored : queued (w.stored p addr port).buffBody = queued w.buffBody ++ p.bytes := by
        rw [hq.queued_eq]
        exact (stored_bytes hq hp).2.queued_eq
      simp only [if_pos hp, List.map_map, Function.comp_def, List.map_id']
      rw [← hstored, udpServerRecvCb_stores hw hp, mqttSnSocketIncommCb]
      cases getAPIFUN p.cmd with
      | some api => exact List.suffix_refl _
      | none =>
        have hsound : Sound { w.stored p addr port with gw := { addr := addr, port := port } } :=
          ⟨hw.timers_wf, hw.timers_ok, ⟨_, (stored_bytes hq hp).2⟩, hw.rx.write _⟩
        exact nextFrame_suffix hsound e.env
    · obtain ⟨-, hb, -, -⟩ := udpServerRecvCb_refuses hw hp e.env addr port
      simp only [if_neg hp, List.map_nil, List.append_nil, hb]
      exact List.suffix_refl _
  · rename_i num now hnum haction
    simp only [haction, List.map_nil, List.append_nil]
    rcases timerVisit_ok hw hnum h with ⟨-, rfl⟩ | ⟨t, u, s, -, -, -, hu, -, -, rfl, -, -⟩
    · exact List.suffix_refl _
    · show queued u.buffBody <:+ _
      rw [(runCallback_acts hu).buffBody]
      unfold Callback.fetched
      split
      · split_ifs
        · exact nextFrame_suffix hw e.env
        · exact List.suffix_refl _
      · exact List.suffix_refl _
  · rename_i call haction
    simp only [haction, List.map_nil, List.append_nil, (runAppCall_acts h).buffBody]
    exact List.suffix_refl _

/-- The history is about the queued bytes, and the recorded sender is the last one. -/
structure SendersInv (s : World × Senders) : Prop where
  sound : Sound s.1
  bytes_eq : s.2.bytes.map Prod.fst = queued s.1.buffBody
  last_eq : ∀ sender, s.2.last = some sender → (s.1.gw.addr, s.1.gw.port) = sender
  stored : s.2.last = none → s.2.bytes = []

theorem step_gw {topics : Topics} {w w' : World} {e : Event} (hw : Sound w)
    (h : step topics w e = .ok w') :
    w'.gw = match e.action with
      | .recv p addr port => if Stores w p then { addr := addr, port := port } else w.gw
      | _ => w.gw := by
  unfold step at h
  split at h
  · rename_i p addr port haction
    cases h
    simp only [haction]
    exact udpServerRecvCb_gw hw _ _ _ _
  · rename_i num now hnum haction
    simp only [haction]
    rcases timerVisit_ok hw hnum h with ⟨-, rfl⟩ | ⟨t, u, s, -, -, -, hu, -, -, rfl, -, -⟩
    · rfl
    · exact (runCallback_leaves hu).gw
  · rename_i call haction
    simp only [haction]
    exact (runAppCall_leaves h).gw

theorem sendersInv_step {topics : Topics} (s : World × Senders) (e : Event) (s' : World × Senders)
    (h : SendersInv s) (hstep : Runs.tracked (step topics) trackSenders s e = .ok s') :
    SendersInv s' := by
  obtain ⟨w, g⟩ := s
  obtain ⟨w', g'⟩ := s'
  obtain ⟨hw', rfl⟩ := Runs.tracked_ok.mp hstep
  have hw : Sound w := h.sound
  have hgw := step_gw hw hw'
  refine ⟨sound_step hw hw', ?_, ?_, ?_⟩
  · have hsuffix := List.suffix_iff_eq_drop.mp (queued_suffix_step hw hw')
    have hbytes : g.bytes.map Prod.fst = queued w.buffBody := h.bytes_eq
    rw [← hbytes, ← List.map_append, List.length_map] at hsuffix
    simp only [trackSenders, List.map_drop]
    exact hsuffix.symm
  · intro sender hlast
    simp only [trackSenders] at hlast
    rw [hgw]
    split at hlast
    · split_ifs at hlast ⊢ with hp
      · exact Option.some.inj hlast
      · exact h.last_eq sender hlast
    · exact h.last_eq sender hlast
  · intro hlast
    have hnone : arrived w e = [] ∧ g.last = none := by
      simp only [trackSenders] at hlast
      unfold arrived
      split at hlast
      · split_ifs at hlast ⊢
        exact ⟨rfl, hlast⟩
      · exact ⟨rfl, hlast⟩
    have hempty : g.bytes = [] := h.stored hnone.2
    simp only [trackSenders, hnone.1, hempty, List.append_nil, List.drop_nil]

/-- A well-formed ADVERTISE that is about to be handled, the entry that it is written to, and
its sender. -/
def Advertises (s : World × Senders) (e : Event) (k : ℕ) (sender : Sender) : Prop :=
  match e.action with
  | .visit num now _ => timerDue num now s.1 = true ∧
      (s.1.systime.timerT num).timerCallback = .press .advertise ∧
      (∃ gwid d0 d1, s.1.headFrame = some [5, mqttSnTypeAdvertise, gwid, d0, d1] ∧
        s.1.gwList.slotFor gwid = some k) ∧ s.2.head = some sender
  | _ => False

/-- The entry that the step creates or refreshes has the address of the ADVERTISE's sender. -/
def EntryOfSender (s : World × Senders) (e : Event) (s' : World × Senders) : Prop :=
  ∀ k sender, Advertises s e k sender →
    ((s'.1.gwList.gwList k).gwAddr, (s'.1.gwList.gwList k).gwPort) = sender

/-- Since the ADVERTISE no datagram of another sender was stored. -/
def LastIsSender (s : World × Senders) (e : Event) : Prop :=
  ∀ k sender, Advertises s e k sender → s.2.last = some sender

/-- A well-formed ADVERTISE is written to its entry, with the sender that is recorded. -/
theorem apiAdvertisePress_stores {w : World} (hw : Sound w) (env : Env) (g : GwInfor)
    {gwid d0 d1 : UInt8} {k : ℕ}
    (hhead : w.headFrame = some [5, mqttSnTypeAdvertise, gwid, d0, d1])
    (hk : w.gwList.slotFor gwid = some k) :
    ∃ u, apiAdvertisePress g env w = .ok u ∧ u.gwList.gwList k =
      .heard w.client.cyclicTick g.addr g.port gwid (d0.toUInt16 >>> 8 ||| d1.toUInt16) := by
  obtain ⟨hres, hlen, hdata, -⟩ := nextFrame_some hw env hhead
  obtain ⟨d, hd⟩ : ∃ d, d = memcpy env.inputdata 0 [5, mqttSnTypeAdvertise, gwid, d0, d1] :=
    ⟨_, rfl⟩
  obtain ⟨hzero, hone, htwo, hthree, hfour⟩ :
      d 0 = 5 ∧ d 1 = mqttSnTypeAdvertise ∧ d 2 = gwid ∧ d 3 = d0 ∧ d 4 = d1 := by
    simp [hd, memcpy]
  obtain ⟨l', happend, hheard⟩ := gwListappend_heard hk w.client.cyclicTick g.addr g.port
    (d0.toUInt16 >>> 8 ||| d1.toUInt16)
  refine ⟨{ w.consumed (nextFrame env w) with gwList := l' }, ?_, hheard⟩
  have hsame : (id (w.consumed (nextFrame env w))).gwList = w.gwList := rfl
  have htick : (id (w.consumed (nextFrame env w))).client.cyclicTick = w.client.cyclicTick := rfl
  have hfirst : d 0 = UInt8.ofNat [5, mqttSnTypeAdvertise, gwid, d0, d1].length := hzero
  simp only [apiAdvertisePress, press, hres, hlen, hdata, ← hd, true_and, if_true]
  rw [if_pos hfirst, if_pos hone, htwo, hthree, hfour, appendGateway, hsame, htick, happend]
  rfl

/-- The step that handles an ADVERTISE returns, and the entry gets the recorded sender. -/
theorem advertises_step {topics : Topics} {s : World × Senders} {e : Event} (h : SendersInv s)
    {k : ℕ} {sender : Sender} (hadv : Advertises s e k sender) :
    ∃ s', Runs.tracked (step topics) trackSenders s e = .ok s' ∧
      ((s'.1.gwList.gwList k).gwAddr, (s'.1.gwList.gwList k).gwPort) =
        (s.1.gw.addr, s.1.gw.port) := by
  obtain ⟨w, g⟩ := s
  obtain ⟨action, env⟩ := e
  cases action with
  | recv => exact hadv.elim
  | app => exact hadv.elim
  | visit num now hnum =>
    obtain ⟨hdue, hcb, ⟨gwid, d0, d1, hhead, hk⟩, -⟩ := hadv
    have hw : Sound w := h.sound
    obtain ⟨u, hu, hheard⟩ := apiAdvertisePress_stores hw env w.gw hhead hk
    have haddr : (u.gwList.gwList k).gwAddr = w.gw.addr := congrArg GwItem.gwAddr hheard
    have hport : (u.gwList.gwList k).gwPort = w.gw.port := congrArg GwItem.gwPort hheard
    have hpress : runCallback topics env (.press .advertise) .gw w = .ok u := hu
    have hrun := timerDue_run hw hnum hdue hcb rfl hpress
    obtain ⟨t, v, -, -, -, -, -, -, hvisit, -⟩ := timerVisit_due hw hnum hdue hrun
    exact ⟨_, Runs.tracked_ok.mpr ⟨hvisit, rfl⟩, Prod.ext haddr hport⟩

/-- Every entry gets the sender of its ADVERTISE exactly when each ADVERTISE is handled before
a datagram of another sender is stored. -/
theorem entries_of_senders_iff {topics : Topics} {env : Env} {w : World}
    (hinit : mqttClientInit env (startup topics) = .ok w) (es : List Event) :
    Runs.EachStep (Runs.tracked (step topics) trackSenders) EntryOfSender (w, ⟨[], none, none⟩) es ↔
      Runs.Meets (Runs.tracked (step topics) trackSenders) LastIsSender (w, ⟨[], none, none⟩)
        es := by
  have hboot := mqttClientInit_booted hinit
  have hstart : SendersInv (w, ⟨[], none, none⟩) := by
    refine ⟨hboot.sound, ?_, nofun, fun _ => rfl⟩
    rw [hboot.eq_startup]
    exact buffInit_view.queued_eq.symm
  refine Runs.eachStep_iff_meets (J := SendersInv)
    (fun s e s' h _ => sendersInv_step s e s' h) ?_ ?_ hstart
  · intro s e s' h hc hstep k sender hadv
    obtain ⟨t, ht, hentry⟩ := advertises_step h hadv
    obtain rfl := Except.ok.inj (hstep.symm.trans ht)
    exact hentry.trans (h.last_eq sender (hc k sender hadv))
  · intro s e h hc
    simp only [LastIsSender, Classical.not_forall] at hc
    obtain ⟨k, sender, hadv, hlast⟩ := hc
    obtain ⟨t, ht, hentry⟩ := advertises_step h hadv
    refine ⟨t, ht, fun hQ => hlast ?_⟩
    have hgw : (s.1.gw.addr, s.1.gw.port) = sender := hentry.symm.trans (hQ k sender hadv)
    cases hl : s.2.last with
    | some other => rw [← h.last_eq other hl, hgw]
    | none =>
      exfalso
      have hhead : s.2.head = some sender := by
        unfold Advertises at hadv
        split at hadv
        · exact hadv.2.2.2
        · exact hadv.elim
      rw [Senders.head, h.stored hl] at hhead
      cases hhead

def advertiseEvent : Event :=
  ⟨.recv (datagram [5, mqttSnTypeAdvertise, 7, 3, 132]) 1 10000, quietEnv⟩

theorem entries_of_senders_advertise :
    Runs.EachStep (Runs.tracked (step topiclist) trackSenders) EntryOfSender
      (bootWorld, ⟨[], none, none⟩)
      [advertiseEvent, ⟨.visit 2 200 two_lt_maxTimerNum, quietEnv⟩] := by
  refine (entries_of_senders_iff bootWorld_init _).mpr ⟨fun _ _ => False.elim, fun s hs => ?_⟩
  cases hs
  refine ⟨fun k sender hadv => ?_, fun _ _ => trivial⟩
  obtain ⟨-, -, -, hhead⟩ := hadv
  exact Eq.trans (by decide) hhead

/-- A PINGRESP from address 2 arrives before the ADVERTISE of address 1 is handled. -/
theorem entry_of_other_sender :
    ¬∀ (topics : Topics) (env : Env) (w : World) (es : List Event),
      mqttClientInit env (startup topics) = .ok w →
        Runs.EachStep (Runs.tracked (step topics) trackSenders) EntryOfSender
          (w, ⟨[], none, none⟩) es := by
  intro h
  have hlast := h topiclist quietEnv bootWorld
    [advertiseEvent, ⟨.recv (datagram [2, mqttSnTypePingresp]) 2 10000, quietEnv⟩,
      ⟨.visit 2 200 two_lt_maxTimerNum, quietEnv⟩] bootWorld_init
    [advertiseEvent, ⟨.recv (datagram [2, mqttSnTypePingresp]) 2 10000, quietEnv⟩]
    ⟨.visit 2 200 two_lt_maxTimerNum, quietEnv⟩ [] _ _ rfl rfl rfl 0 (1, 10000)
    ⟨by decide, by decide, ⟨7, 3, 132, by decide, by decide⟩, by decide⟩
  exact absurd (congrArg Prod.fst hlast) (by decide)

section Session

/-- A datagram that arrives during a session comes from the session's gateway; the CONNACK
that opens one is handled before a datagram of another sender arrives. -/
def OnlyGateway (s : World × Senders) (e : Event) : Prop :=
  match e.action with
  | .recv _ addr port => ∀ gateway, s.2.session = some gateway → (addr, port) = gateway
  | .visit num now _ => timerDue num now s.1 = true →
      (s.1.systime.timerT num).timerCallback = .press .connack →
      s.1.client.status = .connecting → s.1.headFrame = some [3, mqttSnTypeConnack, 0] →
      s.2.head = some s.1.remote
  | .app _ => True

/-- Whatever happens next, the datagrams of the session go to its gateway. -/
def SendsToGateway (topics : Topics) (s : World × Senders) : Prop :=
  ∀ gateway, s.2.session = some gateway → ∀ e w' new, step topics s.1 e = .ok w' →
    w'.sent = s.1.sent ++ new → ∀ pk ∈ new, pk.InSession → pk.dest = gateway

/-- During a session the socket has the gateway as its remote end. -/
structure SessionInv (s : World × Senders) : Prop extends SendersInv s where
  connected : ∀ gateway, s.2.session = some gateway →
    s.1.client.status = .connected ∧ s.1.remote = gateway

variable {topics : Topics}

theorem step_remote {w w' : World} {e : Event} (hw : Sound w) (h : step topics w e = .ok w') :
    (∃ p addr port, e.action = .recv p addr port ∧ w'.remote = (addr, port) ∧
        w'.client.status = w.client.status ∧ w'.sent = w.sent) ∨
      (∀ p addr port, e.action ≠ .recv p addr port) ∧ w'.remote = w.remote ∧
        ∃ new, w'.sent = w.sent ++ new ∧ ∀ pk ∈ new, pk.InSession → pk.dest = w.remote := by
  unfold step at h
  split at h
  · rename_i p addr port haction
    cases h
    left
    obtain ⟨rx, b, g, s, heq, -⟩ := udpServerRecvCb_received e.env p addr port w
    rw [heq]
    exact ⟨p, addr, port, haction, rfl, rfl, rfl⟩
  · rename_i num now hnum haction
    right
    refine ⟨by simp [haction], ?_⟩
    rcases timerVisit_ok hw hnum h with ⟨-, rfl⟩ | ⟨t, u, s, -, -, -, hu, -, -, rfl, -, -⟩
    · exact ⟨rfl, [], by simp, by simp⟩
    · exact ⟨(runCallback_leaves hu).remote, (runCallback_leaves hu).sends⟩
  · rename_i call haction
    right
    exact ⟨by simp [haction], (runAppCall_leaves h).remote, (runAppCall_leaves h).sends⟩

/-- A session begins where the CONNACK that accepts is handled. -/
theorem session_origin {w w' : World} {e : Event} (hw : Sound w) (h : step topics w e = .ok w')
    (hst : w.client.status ≠ .connected) (hst' : w'.client.status = .connected) :
    ∃ num now hnum, e.action = .visit num now hnum ∧ timerDue num now w = true ∧
      (w.systime.timerT num).timerCallback = .press .connack ∧ w.client.status = .connecting ∧
      w.headFrame = some [3, mqttSnTypeConnack, 0] := by
  unfold step at h
  split at h
  · cases h
    exfalso
    obtain ⟨rx, b, g, s, heq, -⟩ := udpServerRecvCb_received e.env _ _ _ w
    rw [heq] at hst'
    exact hst hst'
  · rename_i num now hnum haction
    rcases timerVisit_ok hw hnum h with ⟨-, rfl⟩ | ⟨t, u, s, hdue, ht, -, hu, -, -, rfl, -, -⟩
    · exact absurd hst' hst
    · obtain ⟨hcb, hconn, hhead⟩ := connected_origin hw hu hst hst'
      have hkind := (live_running hw.timers_wf ht).2.2.1
      exact ⟨num, now, hnum, haction, hdue, hkind.trans hcb, hconn, hhead⟩
  · exact absurd hst' (runAppCall_not_connected h hst)

theorem session_step (s : World × Senders) (e : Event) (s' : World × Senders) (h : SessionInv s)
    (hc : OnlyGateway s e) (hstep : Runs.tracked (step topics) trackSenders s e = .ok s') :
    SessionInv s' := by
  refine ⟨sendersInv_step s e s' h.toSendersInv hstep, ?_⟩
  obtain ⟨w, g⟩ := s
  obtain ⟨w', g'⟩ := s'
  obtain ⟨hw', rfl⟩ := Runs.tracked_ok.mp hstep
  have hw : Sound w := h.sound
  intro gateway hsession
  simp only [trackSenders] at hsession
  split_ifs at hsession with hst' hst
  -- the session goes on
  · refine ⟨not_not.mp hst', ?_⟩
    rcases step_remote hw hw' with ⟨p, addr, port, haction, hremote, -⟩ | ⟨-, hremote, -⟩
    · simp only [OnlyGateway, haction] at hc
      exact hremote.trans (hc gateway hsession)
    · exact hremote.trans (h.connected gateway hsession).2
  -- a session begins
  · refine ⟨not_not.mp hst', ?_⟩
    obtain ⟨num, now, hnum, haction, hdue, hcb, hconn, hhead⟩ :=
      session_origin hw hw' hst (not_not.mp hst')
    simp only [OnlyGateway, haction] at hc
    have hown : g.head = some w.remote := hc hdue hcb hconn hhead
    rcases step_remote hw hw' with ⟨p, addr, port, hrecv, -⟩ | ⟨-, hremote, -⟩
    · rw [haction] at hrecv
      cases hrecv
    · exact hremote.trans (Option.some.inj (hown.symm.trans hsession))

theorem SessionInv.sends {s : World × Senders} (h : SessionInv s) : SendsToGateway topics s := by
  intro gateway hsession e w' new hstep hnew pk hpk hin
  obtain ⟨-, hremote⟩ := h.connected gateway hsession
  rcases step_remote h.sound hstep with ⟨-, -, -, -, -, -, hsent⟩ | ⟨-, -, more, hsent, hdest⟩
  · rw [hsent] at hnew
    rw [List.self_eq_append_right.mp hnew] at hpk
    cases hpk
  · obtain rfl := List.append_cancel_left (hnew.symm.trans hsent)
    exact (hdest pk hpk hin).trans hremote

/-- In a session with another remote end than the gateway, the next DISCONNECT goes there. -/
theorem not_sendsToGateway {s : World × Senders} (gateway : Sender)
    (hsession : s.2.session = some gateway) (hne : s.1.remote ≠ gateway) :
    ¬SendsToGateway topics s := by
  intro h
  refine hne (h gateway hsession ⟨.app (.sendDisconnectTopicId 0), quietEnv⟩ _
    [⟨s.1.remoteIp, s.1.remotePort, [2, mqttSnTypeDisconnect]⟩] rfl rfl _
    (List.mem_singleton_self _) ?_)
  exact ⟨by simp [Packet.cmd, mqttSnTypeDisconnect, mqttSnTypeConnect],
    by simp [Packet.cmd, mqttSnTypeDisconnect, mqttSnTypeSearchgw]⟩

theorem apiConnackPress_accepts {w : World} (hw : Sound w) (env : Env)
    (hst : w.client.status = .connecting) (hhead : w.headFrame = some [3, mqttSnTypeConnack, 0]) :
    ∃ u, apiConnackPress env w = .ok u ∧ u.client.status = .connected := by
  obtain ⟨hres, hlen, hdata, -⟩ := nextFrame_some hw env hhead
  obtain ⟨hzero, hone, htwo⟩ := memcpy_three env.inputdata 3 mqttSnTypeConnack 0
  have hlen3 : (nextFrame env w).freamlenth = 3 := hlen
  let v := cancelTimer timerIdOfConncet (w.consumed (nextFrame env w))
  refine ⟨mqttSnGetgatewayInfo 10000 { v with client := { v.client with status := .connected } },
    ?_, rfl⟩
  simp only [apiConnackPress, press, hres, hlen3, hdata, decide_true, and_self, if_true]
  rw [if_pos hzero, if_pos ⟨hone, htwo, hst⟩]

theorem session_step_breaks (s : World × Senders) (e : Event) (h : SessionInv s)
    (hc : ¬OnlyGateway s e) :
    ∃ s', Runs.tracked (step topics) trackSenders s e = .ok s' ∧ ¬SendsToGateway topics s' := by
  obtain ⟨w, g⟩ := s
  obtain ⟨action, env⟩ := e
  have hw : Sound w := h.sound
  cases action with
  | app call => exact absurd trivial hc
  | recv p addr port =>
    simp only [OnlyGateway, Classical.not_forall] at hc
    obtain ⟨gateway, hsession, hne⟩ := hc
    have hstep : step topics w ⟨.recv p addr port, env⟩ =
        .ok (udpServerRecvCb env p addr port w).2 := rfl
    refine ⟨_, Runs.tracked_ok.mpr ⟨hstep, rfl⟩, ?_⟩
    rcases step_remote hw hstep with ⟨p', addr', port', haction, hremote, hst', -⟩ | ⟨hno, -⟩
    · cases haction
      have hst : w.client.status = .connected := (h.connected gateway hsession).1
      refine not_sendsToGateway gateway ?_ ?_
      · simp only [trackSenders]
        rw [if_neg (not_not.mpr (hst'.trans hst)), if_pos hst]
        exact hsession
      · exact fun heq => hne (hremote.symm.trans heq)
    · exact absurd rfl (hno p addr port)
  | visit num now hnum =>
    simp only [OnlyGateway, Classical.not_imp] at hc
    obtain ⟨hdue, hcb, hst, hhead, hne⟩ := hc
    obtain ⟨u, hu, hconn⟩ := apiConnackPress_accepts hw env hst hhead
    have hpress : runCallback topics env (.press .connack) .gw w = .ok u := hu
    have hrun := timerDue_run hw hnum hdue hcb rfl hpress
    obtain ⟨t, v, -, -, -, -, -, -, hvisit, -⟩ := timerVisit_due hw hnum hdue hrun
    refine ⟨_, Runs.tracked_ok.mpr ⟨hvisit, rfl⟩, ?_⟩
    have hbytes : g.bytes.map Prod.fst = queued w.buffBody := h.bytes_eq
    cases hown : g.head with
    | none =>
      exfalso
      have hempty : g.bytes = [] := by simpa [Senders.head] using hown
      rw [hempty] at hbytes
      simp only [World.headFrame, ← hbytes] at hhead
      simp at hhead
    | some gateway =>
      refine not_sendsToGateway gateway ?_ ?_
      · simp only [trackSenders]
        rw [if_neg (not_not.mpr hconn), if_neg (by rw [hst]; decide)]
        exact hown
      · intro heq
        refine hne ?_
        rw [hown, ← heq]
        exact congrArg some (runCallback_leaves hrun).remote

/-- All datagrams of a session go to its gateway exactly when no datagram of another sender
arrives during the session, or between the CONNACK and its handling as the last one. -/
theorem session_sends_to_gateway_iff {env : Env} {w : World}
    (hinit : mqttClientInit env (startup topics) = .ok w) (es : List Event) :
    Runs.Always (Runs.tracked (step topics) trackSenders) (SendsToGateway topics)
        (w, ⟨[], none, none⟩) es ↔
      Runs.Meets (Runs.tracked (step topics) trackSenders) OnlyGateway (w, ⟨[], none, none⟩) es := by
  have hboot := mqttClientInit_booted hinit
  have hstart : SessionInv (w, ⟨[], none, none⟩) := by
    refine ⟨⟨hboot.sound, ?_, nofun, fun _ => rfl⟩, nofun⟩
    rw [hboot.eq_startup]
    exact buffInit_view.queued_eq.symm
  exact Runs.always_iff_meets (J := SessionInv) (fun _ h => h.sends) session_step
    session_step_breaks hstart

/-- A CONNACK from address 1 and its handling. -/
def sessionEvents : List Event :=
  [⟨.recv (datagram [3, mqttSnTypeConnack, 0]) 1 10000, quietEnv⟩,
    ⟨.visit 2 200 two_lt_maxTimerNum, quietEnv⟩]

theorem session_sends_to_gateway_connack :
    Runs.Always (Runs.tracked (step topiclist) trackSenders) (SendsToGateway topiclist)
      (bootWorld, ⟨[], none, none⟩) sessionEvents := by
  refine (session_sends_to_gateway_iff bootWorld_init _).mpr ⟨nofun, fun s hs => ?_⟩
  cases hs
  exact ⟨fun _ _ _ _ => by decide, fun _ _ => trivial⟩

/-- A datagram of a type that is refused, from address 2, takes the session over. -/
theorem refused_datagram_takes_session :
    ¬∀ (topics : Topics) (env : Env) (w : World) (es : List Event),
      mqttClientInit env (startup topics) = .ok w →
        Runs.Always (Runs.tracked (step topics) trackSenders) (SendsToGateway topics)
          (w, ⟨[], none, none⟩) es := by
  intro h
  have hlast := h topiclist quietEnv bootWorld
    (sessionEvents ++ [⟨.recv (datagram [2, 3]) 2 10000, quietEnv⟩]) bootWorld_init
    (sessionEvents ++ [⟨.recv (datagram [2, 3]) 2 10000, quietEnv⟩]) [] _
    (List.append_nil _).symm rfl
  exact not_sendsToGateway (1, 10000) (by decide) (by decide) hlast

end Session

end MqttSnClient
