import MqttSnClient.MainLoop
import MqttSnClient.Settings

/-! When the client gives its server up. A PINGREQ whose timer runs out counts as lost, and the
loss that brings the count above `mqttSnCilentNadv` ends the session. Only a PINGRESP starts the
count again; a new session goes on with the count of the one before. -/
namespace MqttSnClient
open Memory Bytes

/-- The PINGREQs sent since the session was opened or the server last answered: which slots hold
their timers, and how many have timed out. -/
structure Pings where
  since : ℕ → Bool
  lost : ℕ

def Pings.none : Pings := { since := fun _ => false, lost := 0 }

/-- The slot holds the timer of a PINGREQ. -/
def World.pinging (w : World) (i : ℕ) : Bool :=
  (w.systime.timerT i).runing && (w.systime.timerT i).timerCallback = .pingreqTimeoutCb

/-- The slot whose timer runs out in a step, and its callback. -/
def Event.fires (e : Event) (w : World) : Option (ℕ × Callback) :=
  match e.action with
  | .visit num now _ =>
    if timerDue num now w then some (num, (w.systime.timerT num).timerCallback) else none
  | _ => none

def Event.opens (e : Event) (w : World) : Bool :=
  ((e.fires w).any fun slot => slot.2 = .press .connack) && w.client.status = .connecting &&
    w.headFrame = some [3, mqttSnTypeConnack, 0]

def Event.answers (e : Event) (w : World) : Bool :=
  ((e.fires w).any fun slot => slot.2 = .press .pingres) && w.client.status = .connected &&
    w.headFrame.any fun fr => memcpy e.env.inputdata 0 fr 1 = mqttSnTypePingresp

/-- The slot in which the timer of a PINGREQ runs out. -/
def Event.loses (e : Event) (w : World) : Option ℕ :=
  match e.fires w with
  | some (num, .pingreqTimeoutCb) => some num
  | _ => none

/-- The history after a step. A timer is noted if it is armed in a step that sends a PINGREQ. -/
def trackPings (w : World) (e : Event) (w' : World) (p : Pings) : Pings :=
  if e.opens w || e.answers w then .none else
  { since := fun i => w'.pinging i && (p.since i ||
      !w.pinging i && (newlySent w w').any fun pk => pk.cmd = mqttSnTypePingreq)
    lost := if (e.loses w).any p.since then p.lost + 1 else p.lost }

/-- A lost PINGREQ is answered with a DISCONNECT only if it is at least the fourth of those that
were sent, and have timed out, since the session was opened or the server last answered. -/
def GivesUpLate (s : World × Pings) (e : Event) (s' : World × Pings) : Prop :=
  (e.loses s.1).isSome = true →
    ((newlySent s.1 s'.1).any fun pk => pk.cmd = mqttSnTypeDisconnect) = true →
      mqttSnCilentNadv.toNat + 1 ≤ s'.2.lost

/-- The count is not above the losses, unless there are enough of them. -/
def NotAhead (count : UInt8) (lost : ℕ) : Prop :=
  count.toNat ≤ lost ∨ mqttSnCilentNadv.toNat + 1 ≤ lost

instance (count : UInt8) (lost : ℕ) : Decidable (NotAhead count lost) :=
  inferInstanceAs (Decidable (_ ∨ _))

/-- A session is opened with a count of 0, or of 255, which the next loss turns into 0; and a
timer that runs out belongs to a PINGREQ sent since, or takes the count not above the losses. -/
def CountsSince (s : World × Pings) (e : Event) : Prop :=
  (e.opens s.1 = true →
      s.1.client.pingReqResLostNum = 0 ∨ s.1.client.pingReqResLostNum = 255) ∧
    ∀ num ∈ e.loses s.1,
      s.2.since num = true ∨ NotAhead (s.1.client.pingReqResLostNum + 1) s.2.lost

instance (s : World × Pings) (e : Event) : Decidable (CountsSince s e) :=
  inferInstanceAs (Decidable (_ ∧ _))

theorem notAhead_lost {count : UInt8} {lost : ℕ} (h : NotAhead count lost ∨ count = 255) :
    NotAhead (count + 1) (lost + 1) := by
  rcases h with (hle | henough) | rfl
  · left
    have hadd : (count + 1).toNat = (count.toNat + 1) % 256 := UInt8.toNat_add count 1
    have hmod := Nat.mod_le (count.toNat + 1) 256
    omega
  · right
    omega
  · exact Or.inl (Nat.zero_le _)

theorem NotAhead.late {count : UInt8} {lost : ℕ} (h : NotAhead count lost)
    (hmany : ¬count ≤ mqttSnCilentNadv) : mqttSnCilentNadv.toNat + 1 ≤ lost := by
  rcases h with hle | henough
  · have hlt : mqttSnCilentNadv.toNat < count.toNat := UInt8.lt_iff_toNat_lt.mp (UInt8.not_le.mp hmany)
    omega
  · exact henough

/-- The step leaves the count of the losses as it is. -/
def KeepsCount (w w' : World) : Prop := w'.client.pingReqResLostNum = w.client.pingReqResLostNum

section Steps

variable {env : Env} {topics : Topics} {w w' : World} {e : Event} {num : ℕ}

theorem runCallback_count {cb : Callback} {arg : Arg} (hping : cb ≠ .pingreqTimeoutCb)
    (hres : cb ≠ .press .pingres) (h : runCallback topics env cb arg w = .ok w') :
    KeepsCount w w' := by
  apply (runCallback_keeps h).same .pingReqResLostNum
  cases cb with
  | press api =>
    cases api with
    | pingres => exact absurd rfl hres
    | _ => exact List.not_mem_nil
  | pingreqTimeoutCb => exact absurd rfl hping
  | _ => decide

theorem runAppCall_count {call : AppCall} (h : runAppCall env call w = .ok w') :
    KeepsCount w w' := by
  apply (runAppCall_keeps h).same .pingReqResLostNum
  cases call <;> simp [AppCall.sets]

theorem loses_iff : e.loses w = some num ↔ e.fires w = some (num, .pingreqTimeoutCb) := by
  unfold Event.loses
  split
  · rename_i k hfires
    rw [hfires]
    simp
  · rename_i hno
    constructor
    · intro h
      cases h
    · intro hfires
      exact absurd hfires (hno num)

/-- A step that loses a PINGREQ opens no session and processes no PINGRESP. -/
theorem loses_alone (h : e.loses w = some num) : e.opens w = false ∧ e.answers w = false := by
  rw [loses_iff] at h
  simp [Event.opens, Event.answers, h]

/-- The handler of PINGRESP starts the count again if it finds one and the client is connected. -/
theorem apiPingresPress_count {u : World} (hw : Sound w) (h : apiPingresPress env w = .ok u) :
    (∃ fr, w.headFrame = some fr ∧ memcpy env.inputdata 0 fr 1 = mqttSnTypePingresp ∧
        w.client.status = .connected ∧ u.client.pingReqResLostNum = 0) ∨
      (w.client.status = .connected →
        ∀ fr, w.headFrame = some fr → memcpy env.inputdata 0 fr 1 ≠ mqttSnTypePingresp) ∧
        KeepsCount w u := by
  rcases press_frame hw h with ⟨fr, hhead, -, -, hbody⟩ | ⟨hno, rfl⟩
  · split_ifs at hbody with hacc <;> cases hbody
    · exact Or.inl ⟨fr, hhead, hacc.1, hacc.2, rfl⟩
    · refine Or.inr ⟨fun hst fr' hhead' hres => hacc ⟨?_, hst⟩, rfl⟩
      rw [Option.some.inj (hhead.symm.trans hhead')]
      exact hres
  · refine Or.inr ⟨fun _ fr hhead => ?_, rfl⟩
    exact absurd (hno fr hhead) Bool.noConfusion

/-- What a step can do to the count. -/
theorem step_count (hw : Sound w) (h : step topics w e = .ok w') :
    (e.answers w = true ∧ w'.client.pingReqResLostNum = 0) ∨
      (∃ num, e.loses w = some num ∧
        w'.client.pingReqResLostNum = w.client.pingReqResLostNum + 1) ∨
      e.answers w = false ∧ e.loses w = none ∧ KeepsCount w w' := by
  obtain ⟨action, env⟩ := e
  cases action with
  | recv p addr port =>
    cases h
    obtain ⟨rx, b, g, s, heq, -⟩ := udpServerRecvCb_received env p addr port w
    refine Or.inr (Or.inr ⟨rfl, rfl, ?_⟩)
    rw [heq]
    rfl
  | app call => exact Or.inr (Or.inr ⟨rfl, rfl, runAppCall_count h⟩)
  | visit num now hnum =>
    rcases timerVisit_runs h with ⟨hdue, rfl⟩ | ⟨u, s, hdue, hrun, rfl⟩
    · refine Or.inr (Or.inr ⟨?_, ?_, rfl⟩)
      · simp [Event.answers, Event.fires, hdue]
      · simp [Event.loses, Event.fires, hdue]
    have hfires : Event.fires ⟨.visit num now hnum, env⟩ w =
        some (num, (w.systime.timerT num).timerCallback) := if_pos hdue
    by_cases hping : (w.systime.timerT num).timerCallback = .pingreqTimeoutCb
    · rw [hping] at hrun hfires
      refine Or.inr (Or.inl ⟨num, loses_iff.mpr hfires, ?_⟩)
      rw [runCallback_pingTimeout hrun]
      simp only [mqttSnClientPingreqTimeoutCb]
      split_ifs <;> rfl
    have hkept : Event.loses ⟨.visit num now hnum, env⟩ w = none := by
      apply Option.eq_none_iff_forall_ne_some.mpr
      intro k hk
      rw [loses_iff, hfires] at hk
      exact hping (Prod.mk.inj (Option.some.inj hk)).2
    by_cases hres : (w.systime.timerT num).timerCallback = .press .pingres
    · rw [hres] at hrun hfires
      rcases apiPingresPress_count hw (runCallback_press hrun) with
        ⟨fr, hhead, htype, hst, hzero⟩ | ⟨hno, hsame⟩
      · left
        refine ⟨?_, hzero⟩
        simp [Event.answers, hfires, hhead, htype, hst]
      · refine Or.inr (Or.inr ⟨?_, hkept, hsame⟩)
        simp only [Event.answers, hfires, Option.any_some, decide_true, Bool.true_and]
        rw [Bool.and_eq_false_iff, decide_eq_false_iff_not, Option.any_eq_false]
        by_cases hst : w.client.status = .connected
        · exact Or.inr fun fr hhead => by simpa using hno hst fr hhead
        · exact Or.inl hst
    · have hsame : KeepsCount w u := runCallback_count hping hres hrun
      refine Or.inr (Or.inr ⟨?_, hkept, hsame⟩)
      simp [Event.answers, hfires, hres]

/-- The callback of a lost PINGREQ sends a DISCONNECT when the count has passed its bound. -/
theorem loses_disconnects (h : step topics w e = .ok w') (hlost : e.loses w = some num)
    (hsent : ((newlySent w w').any fun pk => pk.cmd = mqttSnTypeDisconnect) = true) :
    ¬w.client.pingReqResLostNum + 1 ≤ mqttSnCilentNadv := by
  intro hfew
  obtain ⟨action, env⟩ := e
  have hfires := loses_iff.mp hlost
  cases action with
  | recv p addr port => cases hfires
  | app call => cases hfires
  | visit k now hk =>
    simp only [Event.fires] at hfires
    split_ifs at hfires with hdue
    obtain ⟨rfl, hkind⟩ := Prod.mk.inj (Option.some.inj hfires)
    rcases timerVisit_runs h with ⟨hno, -⟩ | ⟨u, s, -, hrun, rfl⟩
    · rw [hno] at hdue
      cases hdue
    rw [hkind] at hrun
    obtain rfl := runCallback_pingTimeout hrun
    have hsame : newlySent w { mqttSnClientPingreqTimeoutCb env w with systime := s } =
        newlySent w (mqttSnClientPingreqTimeoutCb env w) := rfl
    rcases ping_cases env w with ⟨-, -, pk, hpk, hcmd⟩ | ⟨hmany, -⟩
    · rw [hsame, hpk, List.any_cons, List.any_nil, Bool.or_false, decide_eq_true_eq, hcmd] at hsent
      exact absurd hsent (by decide)
    · exact hmany hfew

theorem pinging_iff (hw : Sound w) {i : ℕ} (hi : i < maxTimerNum) : w.pinging i = true ↔
    ∃ t, w.systime.live i = some t ∧ t.timerCallback = .pingreqTimeoutCb := by
  rw [World.pinging, Bool.and_eq_true, decide_eq_true_eq]
  constructor
  · rintro ⟨hrun, hcb⟩
    exact ⟨_, live_of_runing hw.timers_wf hi hrun, hcb⟩
  · rintro ⟨t, ht, hcb⟩
    obtain ⟨-, hrun, hsame, -⟩ := live_running hw.timers_wf ht
    exact ⟨hrun, hsame.trans hcb⟩

theorem mqttSnSendPingreq_sends (tick : UInt32) (mode : UInt8) (w : World) :
    ∃ pk, (mqttSnSendPingreq tick mode w).sent = w.sent ++ [pk] ∧ pk.cmd = mqttSnTypePingreq :=
  ⟨⟨_, _, [_, _] ++ _⟩, rfl, rfl⟩

/-- The tick arms the timer of a PINGREQ only together with the PINGREQ. -/
theorem mqttSnClientCyclic_arms {u : World} (hw : Sound w)
    (h : mqttSnClientCyclic env topics w = .ok u) {i : ℕ} {t : SwTimer Callback Arg}
    (ht : u.systime.live i = some t) (hcb : t.timerCallback = .pingreqTimeoutCb) :
    w.systime.live i = some t ∨ ∃ pk ∈ newlySent w u, pk.cmd = mqttSnTypePingreq := by
  rcases mqttSnClientCyclic_ok h with ⟨-, rfl⟩ | ⟨-, v, hreg, ⟨-, rfl⟩ | ⟨-, rfl⟩⟩
  · exact Or.inl ht
  · have hother : t.timerCallback ∉ [Callback.sendRegisterCb] := by
      rw [hcb]
      decide
    exact Or.inl ((registeralltopic_acts hreg).live_old hw.timers_wf ht hother)
  · right
    obtain ⟨new, hnew, -⟩ := (registeralltopic_touches hreg).emits
    obtain ⟨pk, hpk, hcmd⟩ := mqttSnSendPingreq_sends (env.tick 1) weakup v.watchedDown
    refine ⟨pk, ?_, hcmd⟩
    rw [newlySent, hpk]
    show pk ∈ (v.sent ++ [pk]).drop w.sent.length
    rw [hnew]
    show pk ∈ (w.sent ++ new ++ [pk]).drop w.sent.length
    simp

theorem runCallback_arms_ping {cb : Callback} {arg : Arg} {u : World} (hw : Sound w)
    (h : runCallback topics env cb arg w = .ok u) {i : ℕ} {t : SwTimer Callback Arg}
    (ht : u.systime.live i = some t) (hcb : t.timerCallback = .pingreqTimeoutCb) :
    w.systime.live i = some t ∨ ∃ pk ∈ newlySent w u, pk.cmd = mqttSnTypePingreq := by
  by_cases harms : Callback.pingreqTimeoutCb ∈ cb.arms
  · cases cb with
    | cyclicCb => exact mqttSnClientCyclic_arms hw (runCallback_cyclic h) ht hcb
    | pingreqTimeoutCb =>
      obtain rfl := runCallback_pingTimeout h
      rcases ping_cases env w with ⟨-, -, pk, hpk, hcmd⟩ | ⟨hmany, -⟩
      · exact Or.inr ⟨pk, hpk ▸ List.mem_singleton_self pk, hcmd⟩
      · left
        simp only [mqttSnClientPingreqTimeoutCb, if_neg hmany] at ht
        exact ht
    | press api => cases api <;> exact absurd harms (by decide)
    | _ => exact absurd harms (by decide)
  · exact Or.inl (runCallback_live_old hw h ht (hcb ▸ harms))

/-- A slot takes the timer of a PINGREQ only in a step that sends one. -/
theorem pinging_sends (hw : Sound w) (h : step topics w e = .ok w') {i : ℕ}
    (hi : i < maxTimerNum) (hnew : w'.pinging i = true) (hold : w.pinging i = false) :
    ((newlySent w w').any fun pk => pk.cmd = mqttSnTypePingreq) = true := by
  obtain ⟨t, ht, hcb⟩ := (pinging_iff (sound_step hw h) hi).mp hnew
  have hno : w.systime.live i ≠ some t := by
    intro hlive
    rw [(pinging_iff hw hi).mpr ⟨t, hlive, hcb⟩] at hold
    cases hold
  obtain ⟨action, env⟩ := e
  cases action with
  | recv p addr port =>
    cases h
    obtain ⟨rx, b, g, s, heq, hacts⟩ := udpServerRecvCb_received env p addr port w
    rw [heq] at ht
    rcases hacts.origin hw.timers_wf ht with hlive | hdispatch
    · exact absurd hlive hno
    · obtain ⟨-, api, hpress⟩ := hdispatch
      rw [hcb] at hpress
      cases hpress
  | app call =>
    by_cases harms : Callback.pingreqTimeoutCb ∈ call.arms
    · cases call with
      | sendPingreq mode =>
        cases h
        obtain ⟨pk, hpk, hcmd⟩ := mqttSnSendPingreq_sends (env.tick 0) mode w
        rw [newlySent_of_append hpk, List.any_cons, hcmd]
        rfl
      | _ => simp [AppCall.arms] at harms
    · exact absurd ((runAppCall_acts h).live_old hw.timers_wf ht (hcb ▸ harms)) hno
  | visit num now hnum =>
    rcases timerVisit_ok hw hnum h with ⟨-, rfl⟩ | ⟨v, u, s, -, -, -, hrun, -, -, rfl, -, hlive⟩
    · exact absurd ht hno
    obtain ⟨pk, hpk, hcmd⟩ :=
      (runCallback_arms_ping hw hrun (visit_live hlive ht) hcb).resolve_left hno
    exact List.any_eq_true.mpr ⟨pk, hpk, by simpa using hcmd⟩

/-- Until the next session or answer the history notes every timer of a PINGREQ that is armed. -/
theorem trackPings_since (hw : Sound w) (h : step topics w e = .ok w') (hopens : e.opens w = false)
    (hans : e.answers w = false) (p : Pings) {i : ℕ} (hi : i < maxTimerNum) :
    (trackPings w e w' p).since i = (w'.pinging i && (p.since i || !w.pinging i)) := by
  simp only [trackPings, hopens, hans, Bool.or_self, Bool.false_eq_true, if_false]
  by_cases hnew : w'.pinging i = true ∧ w.pinging i = false
  · rw [pinging_sends hw h hi hnew.1 hnew.2, Bool.and_true]
  · cases hw' : w'.pinging i with
    | false => rfl
    | true =>
      have hold : w.pinging i = true := by
        rw [← Bool.not_eq_false]
        exact fun hold => hnew ⟨hw', hold⟩
      rw [hold]
      rfl

end Steps

/-- What carries the losses through a run. -/
def CountInv (s : World × Pings) : Prop :=
  Sound s.1 ∧ (NotAhead s.1.client.pingReqResLostNum s.2.lost ∨
    s.1.client.pingReqResLostNum = 255)

variable {topics : Topics} {env : Env} {w : World}

theorem count_step (s : World × Pings) (e : Event) (s' : World × Pings) (hs : CountInv s)
    (hc : CountsSince s e) (h : Runs.tracked (step topics) trackPings s e = .ok s') :
    CountInv s' ∧ GivesUpLate s e s' := by
  obtain ⟨w, p⟩ := s
  obtain ⟨w', p'⟩ := s'
  obtain ⟨hstep, rfl⟩ := Runs.tracked_ok.mp h
  obtain ⟨hw, hcount⟩ := hs
  have hw' : Sound w' := sound_step hw hstep
  rcases step_count hw hstep with ⟨hans, hzero⟩ | ⟨num, hlost, hplus⟩ | ⟨hans, hkept, hsame⟩
  -- the count starts again, and so does the history
  · refine ⟨⟨hw', Or.inl (Or.inl ?_)⟩, fun hloses => ?_⟩
    · show w'.client.pingReqResLostNum.toNat ≤ _
      rw [hzero]
      exact Nat.zero_le _
    · obtain ⟨num, hnum⟩ := Option.isSome_iff_exists.mp hloses
      rw [(loses_alone hnum).2] at hans
      cases hans
  -- a loss counts once, and once in the history if its PINGREQ was sent since
  · have hahead : NotAhead (w.client.pingReqResLostNum + 1)
        (if p.since num then p.lost + 1 else p.lost) := by
      split_ifs with hsince
      · exact notAhead_lost hcount
      · exact (hc.2 num hlost).resolve_left hsince
    have htrack : (trackPings w e w' p).lost = if p.since num then p.lost + 1 else p.lost := by
      obtain ⟨hopens, hans⟩ := loses_alone hlost
      rw [trackPings, hopens, hans, hlost]
      rfl
    refine ⟨⟨hw', Or.inl ?_⟩, fun _ hsent => ?_⟩
    · show NotAhead w'.client.pingReqResLostNum _
      rw [hplus, htrack]
      exact hahead
    · show _ ≤ (trackPings w e w' p).lost
      rw [htrack]
      exact hahead.late (loses_disconnects hstep hlost hsent)
  -- the history starts again where a session is opened, and the count does not
  · have hloses : GivesUpLate (w, p) e (w', trackPings w e w' p) := by
      intro hsome
      have hsome : (e.loses w).isSome = true := hsome
      rw [hkept] at hsome
      cases hsome
    refine ⟨⟨hw', ?_⟩, hloses⟩
    show NotAhead w'.client.pingReqResLostNum _ ∨ w'.client.pingReqResLostNum = 255
    rw [hsame]
    by_cases hopens : e.opens w = true
    · rcases hc.1 hopens with hzero | hfull
      · have hzero : w.client.pingReqResLostNum = 0 := hzero
        rw [hzero]
        exact Or.inl (Or.inl (Nat.zero_le _))
      · exact Or.inr hfull
    · have htrack : (trackPings w e w' p).lost = p.lost := by
        rw [trackPings, Bool.eq_false_iff.mpr hopens, hans, hkept]
        rfl
      show NotAhead _ (trackPings w e w' p).lost ∨ _
      rw [htrack]
      exact hcount

/-- In every run in which the sessions are opened with a count of 0 and only PINGREQs of the
session time out, the client gives up after four of them. -/
theorem gives_up_late (hinit : mqttClientInit env (startup topics) = .ok w) (es : List Event)
    (hc : Runs.Meets (Runs.tracked (step topics) trackPings) CountsSince (w, .none) es) :
    Runs.EachStep (Runs.tracked (step topics) trackPings) GivesUpLate (w, .none) es := by
  have hbooted := mqttClientInit_booted hinit
  have hzero : w.client.pingReqResLostNum = 0 := by
    rw [hbooted.eq_startup]
    rfl
  have hstart : CountInv (w, .none) := by
    refine ⟨hbooted.sound, Or.inl (Or.inl ?_)⟩
    show w.client.pingReqResLostNum.toNat ≤ 0
    rw [hzero]
    exact Nat.le_refl 0
  exact Runs.eachStep_of_meets count_step hstart hc

/-- The clock of the client at a tick. -/
def envAt (tick : UInt32) : Env := { quietEnv with tick := fun _ => tick, reload := tick }

/-- The gateway accepts the connection, and the application sends a PINGREQ. -/
def pingEvents (tick : UInt32) : List Event :=
  [⟨.recv (datagram [3, mqttSnTypeConnack, 0]) 1 10000, envAt tick⟩,
    ⟨.visit 2 (tick + 200) two_lt_maxTimerNum, envAt (tick + 200)⟩,
    ⟨.app (.sendPingreq 0), envAt (tick + 1000)⟩]

/-- It is not answered, and neither are those that the client sends after it. -/
def lossEvents : List Event :=
  [⟨.visit 0 11200 zero_lt_maxTimerNum, envAt 11200⟩,
    ⟨.visit 2 21300 two_lt_maxTimerNum, envAt 21300⟩,
    ⟨.visit 0 31400 zero_lt_maxTimerNum, envAt 31400⟩,
    ⟨.visit 2 41500 two_lt_maxTimerNum, envAt 41500⟩]

theorem gives_up_late_fourth :
    Runs.EachStep (Runs.tracked (step topiclist) trackPings) GivesUpLate (bootWorld, .none)
      (pingEvents 100 ++ lossEvents) := by
  refine gives_up_late bootWorld_init _ ?_
  refine ⟨by decide, fun s hs => ?_⟩
  cases hs
  refine ⟨by decide, fun s hs => ?_⟩
  cases hs
  refine ⟨by decide, fun s hs => ?_⟩
  cases hs
  refine ⟨by decide, fun s hs => ?_⟩
  cases hs
  refine ⟨by decide, fun s hs => ?_⟩
  cases hs
  refine ⟨by decide, fun s hs => ?_⟩
  cases hs
  exact ⟨by decide, fun _ _ => trivial⟩

/-- The application connects again, and the first PINGREQ of the new session is lost. -/
def reconnectEvents : List Event :=
  [⟨.app (.sendConnect lwipTest 60 0), envAt 50000⟩] ++ pingEvents 50100

/-- The DISCONNECT of the new session follows a single loss. -/
theorem second_session_given_up_early :
    ¬∀ (topics : Topics) (env : Env) (w : World) (es : List Event),
      mqttClientInit env (startup topics) = .ok w →
        Runs.EachStep (Runs.tracked (step topics) trackPings) GivesUpLate (w, .none) es := by
  intro h
  have hlast := h topiclist quietEnv bootWorld
    (pingEvents 100 ++ lossEvents ++ reconnectEvents ++
      [⟨.visit 0 61200 zero_lt_maxTimerNum, envAt 61200⟩]) bootWorld_init
    (pingEvents 100 ++ lossEvents ++ reconnectEvents)
    ⟨.visit 0 61200 zero_lt_maxTimerNum, envAt 61200⟩ [] _ _ rfl rfl rfl
  exact absurd (hlast (by decide) (by decide)) (by decide)

end MqttSnClient
