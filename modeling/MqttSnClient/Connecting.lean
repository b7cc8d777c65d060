import MqttSnClient.Queues
import MqttSnClient.Touches

/-! The retry of CONNECT. While the client is connecting, some timer has to send CONNECT
again; the timer is armed by the functions that send CONNECT and cancelled by the handler
of CONNACK, before that handler has read the frame. -/
namespace MqttSnClient
open Memory Bytes

/-- A running timer that sends CONNECT again. -/
def ConnectTimer (w : World) (i : ℕ) : Prop :=
  i < maxTimerNum ∧ (w.systime.timerT i).runing = true ∧
    (w.systime.timerT i).timerCallback = .sendConnectCb

/-- While the client is connecting there is such a timer. -/
def RetriesConnect (w : World) : Prop :=
  w.client.status = .connecting → ∃ i, ConnectTimer w i

/-- The frame that waits has three bytes and is the CONNACK that accepts, or its first byte
is not its length, in which case the handler does not return. -/
def AnswersConnect (w : World) : Prop :=
  ∃ fr, w.headFrame = some fr ∧ fr.length = 3 ∧ (fr[0]? = some 3 → fr = [3, mqttSnTypeConnack, 0])

/-- A CONNACK is handled only if it accepts the connection, or beside another timer than
the one it cancels; a CONNECT is sent only when a slot is free for its timer, or beside
another timer that stays. -/
def KeepsRetry (w : World) (e : Event) : Prop :=
  match e.action with
  | .recv _ _ _ => True
  | .visit num now _ => timerDue num now w = true →
    match (w.systime.timerT num).timerCallback with
    | .press .connack => w.client.status = .connecting → AnswersConnect w ∨
        ∃ i, i ≠ findTimerIndexbyID timerIdOfConncet w.systime ∧ ConnectTimer w i
    | .sendConnectCb => w.client.status ≠ .connected → 0 < w.systime.free ∨
        ∃ i, i ≠ num ∧ ConnectTimer w i
    | _ => True
  | .app (.sendConnect clientId _ _) => clientId.strlen ≤ mqttSnMaxClientIdLength →
      0 < w.systime.free ∨ ∃ i, ConnectTimer w i
  | .app _ => True

theorem connectTimer_iff {w : World} (hs : w.systime.Wf) {i : ℕ} :
    ConnectTimer w i ↔ ∃ t, w.systime.live i = some t ∧ t.timerCallback = .sendConnectCb := by
  constructor
  · rintro ⟨hi, hrun, hcb⟩
    exact ⟨_, live_of_runing hs hi hrun, hcb⟩
  · rintro ⟨t, ht, hcb⟩
    obtain ⟨hi, hrun, hsame, -⟩ := live_running hs ht
    exact ⟨hi, hrun, hsame.trans hcb⟩

/-- The handler of CONNACK cancels the first timer of its ID, whatever the frame is. -/
theorem apiConnackPress_systime {env : Env} {w u : World} (h : apiConnackPress env w = .ok u) :
    u.systime = timerCancelByID timerIdOfConncet w.systime := by
  rcases press_ok h with ⟨-, -, -, hbody⟩ | ⟨-, rfl⟩
  · split_ifs at hbody <;> cases hbody <;> rfl
  · rfl

/-- Unless the frame accepts, the client stays connecting. -/
theorem apiConnackPress_stays {env : Env} {w u : World} (hw : Sound w)
    (h : apiConnackPress env w = .ok u) :
    u.client.status = w.client.status ∨
      w.headFrame = some [3, mqttSnTypeConnack, 0] ∧ u.client.status = .connected := by
  rcases press_frame hw h with ⟨fr, hhead, hfits, hfirst, hbody⟩ | ⟨-, rfl⟩
  · split_ifs at hbody with hacc
    · cases hbody
      right
      refine ⟨?_, rfl⟩
      obtain ⟨hpos, hlt⟩ := headFrame_length hhead
      simp only [decide_eq_true_eq] at hfits
      have hlen : fr.length = 3 := by
        have hnat := congrArg UInt8.toNat hfits
        rw [UInt8.toNat_ofNat', Nat.mod_eq_of_lt hlt] at hnat
        exact hnat
      obtain ⟨a, b, c, rfl⟩ := List.length_eq_three.mp hlen
      obtain ⟨htype, hcode, -⟩ := hacc
      simp only [memcpy, Nat.zero_le, if_true] at htype hcode
      have ha : a = 3 := Option.some.inj hfirst
      have hb : b = mqttSnTypeConnack := htype
      have hc : c = 0 := hcode
      rw [hhead, ha, hb, hc]
    · cases hbody
      exact Or.inl rfl
  · exact Or.inl rfl

theorem memcpy_three (f : ℕ → UInt8) (a b c : UInt8) :
    memcpy f 0 [a, b, c] 0 = a ∧ memcpy f 0 [a, b, c] 1 = b ∧ memcpy f 0 [a, b, c] 2 = c := by
  simp [memcpy]

/-- The CONNACK that accepts ends the connecting, if its handler returns. -/
theorem apiConnackPress_answers {env : Env} {w u : World} (hw : Sound w)
    (h : apiConnackPress env w = .ok u) (hans : AnswersConnect w)
    (hst : w.client.status = .connecting) : u.client.status = .connected := by
  obtain ⟨fr, hhead, hlen, hacc⟩ := hans
  rcases press_frame hw h with ⟨fr', hhead', -, hfirst, hbody⟩ | ⟨hno, -⟩
  · obtain rfl := Option.some.inj (hhead.symm.trans hhead')
    rw [hlen] at hfirst
    obtain rfl := hacc hfirst
    obtain ⟨-, hone, htwo⟩ := memcpy_three env.inputdata 3 mqttSnTypeConnack 0
    rw [if_pos ⟨hone, htwo, hst⟩] at hbody
    cases hbody
    rfl
  · have hfits := hno fr hhead
    rw [hlen] at hfits
    exact absurd hfits (by decide)

/-- Any other frame leaves the client connecting. -/
theorem apiConnackPress_stuck {w : World} (hw : Sound w) (hst : w.client.status = .connecting)
    (hno : ¬AnswersConnect w) (env : Env) :
    ∃ u, apiConnackPress env w = .ok u ∧ u.client.status = .connecting := by
  let v := cancelTimer timerIdOfConncet (w.consumed (nextFrame env w))
  by_cases hread : (nextFrame env w).result = errorNone ∧ (nextFrame env w).freamlenth = 3
  · cases hhead : w.headFrame with
    | none => exact absurd hread.1 (nextFrame_none hw env hhead)
    | some fr =>
      obtain ⟨-, hfl, hdata, -⟩ := nextFrame_some hw env hhead
      have hlen : fr.length = 3 := by
        have hnat := congrArg UInt8.toNat (hfl.symm.trans hread.2)
        rw [UInt8.toNat_ofNat', Nat.mod_eq_of_lt (headFrame_length hhead).2] at hnat
        exact hnat
      obtain ⟨a, b, c, rfl⟩ := List.length_eq_three.mp hlen
      have hacc : a = 3 ∧ ¬(b = mqttSnTypeConnack ∧ c = 0) := by
        by_contra hcon
        refine hno ⟨[a, b, c], hhead, hlen, fun hfirst => ?_⟩
        obtain rfl := Option.some.inj hfirst
        obtain ⟨rfl, rfl⟩ := not_not.mp fun hbc => hcon ⟨rfl, hbc⟩
        rfl
      obtain ⟨hzero, hone, htwo⟩ := memcpy_three env.inputdata a b c
      refine ⟨v, ?_, hst⟩
      simp only [apiConnackPress, press, hread.1, hread.2, hdata]
      rw [if_pos ⟨trivial, by decide⟩, if_pos (hzero.trans hacc.1), if_neg]
      rintro ⟨htype, hcode, -⟩
      exact hacc.2 ⟨hone.symm.trans htype, htwo.symm.trans hcode⟩
  · refine ⟨v, ?_, hst⟩
    simp only [apiConnackPress, press, decide_eq_true_eq]
    rw [if_neg hread]

/-- Only the callback of CONNECT makes the client connecting. -/
theorem connecting_origin {topics : Topics} {env : Env} {cb : Callback} {arg : Arg}
    {w u : World} (hw : Sound w) (h : runCallback topics env cb arg w = .ok u)
    (hcb : cb ≠ .sendConnectCb) (hu : u.client.status = .connecting) :
    w.client.status = .connecting := by
  by_cases hch : Field.status ∈ cb.changes
  · cases cb with
    | press api =>
      have hfunc := runCallback_press h
      cases api with
      | connack =>
        rcases apiConnackPress_stays hw hfunc with hsame | ⟨-, hconn⟩
        · exact hsame.symm.trans hu
        · rw [hconn] at hu
          cases hu
      | disconnet =>
        have hpress : apiDisconnetPress env w = .ok u := hfunc
        rcases press_ok hpress with ⟨-, -, -, hbody⟩ | ⟨-, rfl⟩
        · split_ifs at hbody <;> cases hbody
          · cases hu
          · exact hu
        · exact hu
      | _ => simp [Callback.changes] at hch
    | pingreqTimeoutCb =>
      obtain rfl := runCallback_pingTimeout h
      simp only [mqttSnClientPingreqTimeoutCb] at hu
      split_ifs at hu
      · exact hu
      · cases hu
    | sendConnectCb => exact absurd rfl hcb
    | _ => simp [Callback.changes] at hch
  · have hsame := (runCallback_touches h).same .status hch
    exact hsame.symm.trans hu

/-- Only the CONNACK that accepts makes the client connected. -/
theorem connected_origin {topics : Topics} {env : Env} {cb : Callback} {arg : Arg}
    {w u : World} (hw : Sound w) (h : runCallback topics env cb arg w = .ok u)
    (hst : w.client.status ≠ .connected) (hu : u.client.status = .connected) :
    cb = .press .connack ∧ w.client.status = .connecting ∧
      w.headFrame = some [3, mqttSnTypeConnack, 0] := by
  have hch : Field.status ∈ cb.changes := by
    by_contra hch
    exact hst (((runCallback_touches h).same .status hch).symm.trans hu)
  cases cb with
  | press api =>
    have hfunc := runCallback_press h
    cases api with
    | connack =>
      rcases apiConnackPress_stays hw hfunc with hsame | ⟨hhead, -⟩
      · exact absurd (hsame.symm.trans hu) hst
      · refine ⟨rfl, ?_, hhead⟩
        by_contra hno
        have hpress : apiConnackPress env w = .ok u := hfunc
        rcases press_ok hpress with ⟨-, -, -, hbody⟩ | ⟨-, rfl⟩
        · rw [if_neg fun hacc => hno hacc.2.2] at hbody
          cases hbody
          exact hst hu
        · exact hst hu
    | disconnet =>
      have hpress : apiDisconnetPress env w = .ok u := hfunc
      rcases press_ok hpress with ⟨-, -, -, hbody⟩ | ⟨-, rfl⟩
      · split_ifs at hbody <;> cases hbody
        · cases hu
        · exact absurd hu hst
      · exact absurd hu hst
    | _ => simp [Callback.changes] at hch
  | pingreqTimeoutCb =>
    obtain rfl := runCallback_pingTimeout h
    simp only [mqttSnClientPingreqTimeoutCb] at hu
    split_ifs at hu
    · exact absurd hu hst
    · cases hu
  | sendConnectCb =>
    obtain ⟨-, hsend⟩ := (mqttSnSendConnectCb_ok (runCallback_connect h)).resolve_left
      fun hconnected => hst hconnected.1
    simp only [mqttSnSendConnect] at hsend
    split_ifs at hsend
    cases hsend
    cases hu
  | _ => simp [Callback.changes] at hch

theorem runAppCall_not_connected {env : Env} {call : AppCall} {w u : World}
    (h : runAppCall env call w = .ok u) (hst : w.client.status ≠ .connected) :
    u.client.status ≠ .connected := by
  intro hu
  have hch : Field.status ∈ call.changes := by
    by_contra hch
    exact hst (((runAppCall_touches h).same .status hch).symm.trans hu)
  cases call with
  | sendConnect =>
    simp only [runAppCall, mqttSnSendConnect] at h
    split_ifs at h
    cases h
    cases hu
  | sendDisconnect =>
    cases h
    cases hu
  | _ => simp [AppCall.changes] at hch

/-- A CONNECT makes the client connecting, and arms a timer if a slot is free. -/
theorem mqttSnSendConnect_timer {tick : UInt32} {clientId : CString} {keepalive : UInt16}
    {flags : UInt8} {w u : World} (hs : w.systime.Wf)
    (h : mqttSnSendConnect tick clientId keepalive flags w = .ok u) :
    u.client.status = .connecting ∧ (w.systime.free = 0 ∧ u.systime.live = w.systime.live ∨
      0 < w.systime.free ∧ ∃ j t, w.systime.live j = none ∧ t.timerCallback = .sendConnectCb ∧
        u.systime.live = Function.update w.systime.live j (some t)) := by
  simp only [mqttSnSendConnect] at h
  split_ifs at h
  cases h
  refine ⟨rfl, ?_⟩
  rcases live_timerAdd hs tick timerModeSingle 4000 Callback.sendConnectCb Arg.client
    timerIdOfConncet with ⟨hfull, hadd⟩ | ⟨j, hj, hnone, -, -, hlive⟩
  · exact Or.inl ⟨hfull, congrArg (fun r => Timer.live r.2) hadd⟩
  · exact Or.inr ⟨live_free_pos hs hj hnone, j, _, hnone, rfl, hlive⟩

/-- What carries the retry through a run. -/
def ConnectInv (w : World) : Prop := Sound w ∧ RetriesConnect w

/-- Live timers of CONNECT outlast a step that does not cancel their ID. -/
theorem Acts.connect_live {K : List Callback} {C : List UInt8} {w u : World} (h : Acts K C w u)
    (hw : Sound w) (hC : timerIdOfConncet ∉ C) {i : ℕ} {t : SwTimer Callback Arg}
    (ht : w.systime.live i = some t) (hcb : t.timerCallback = .sendConnectCb) :
    u.systime.live i = some t := by
  apply h.live_kept hw ht
  rw [hcb]
  exact hC

theorem cancels_connect {cb : Callback} (h : timerIdOfConncet ∈ cb.cancels) :
    cb = .press .connack := by
  cases cb with
  | press api => cases api <;> first | rfl | exact absurd h (by decide)
  | _ => exact absurd h (by decide)

theorem connect_visit {topics : Topics} {w w' : World} {num : ℕ} {now : UInt32}
    (hnum : num < maxTimerNum) {env : Env} (hw : ConnectInv w)
    (hc : KeepsRetry w ⟨.visit num now hnum, env⟩) (hw' : Sound w')
    (h : timerVisit topics num now env w = .ok w') : RetriesConnect w' := by
  obtain ⟨hsound, hretry⟩ := hw
  rcases timerVisit_ok hsound hnum h with
    ⟨-, rfl⟩ | ⟨t, u, s, hdue, ht, -, hrun, hu, hstay, rfl, hs, hlive⟩
  · exact hretry
  intro hst
  have hst : u.client.status = .connecting := hst
  have hkind := (live_running hsound.timers_wf ht).2.2.1
  have hcond := hc hdue
  -- a timer in another slot that is live after the callback stays
  have hkeep : ∀ {i v}, i ≠ num → u.systime.live i = some v →
      v.timerCallback = .sendConnectCb → ∃ i, ConnectTimer { u with systime := s } i := by
    intro i v hi hv hcb
    refine ⟨i, (connectTimer_iff hs).mpr ⟨v, ?_, hcb⟩⟩
    show s.live i = some v
    rw [hlive]
    split_ifs
    · exact hv
    · rw [Function.update_of_ne hi]
      exact hv
  by_cases hconn : t.timerCallback = .sendConnectCb
  · simp only [hkind, hconn] at hcond
    rw [hconn] at hrun
    rcases mqttSnSendConnectCb_ok (runCallback_connect hrun) with
      ⟨hconnected, rfl⟩ | ⟨hconnected, hsend⟩
    · rw [hconnected] at hst
      cases hst
    · obtain ⟨-, hadd⟩ := mqttSnSendConnect_timer hsound.timers_wf hsend
      rcases hadd with ⟨hfull, hsame⟩ | ⟨-, j, v, hnone, hcb, hadded⟩
      · obtain ⟨i, hi, hother⟩ := (hcond hconnected).resolve_left (by omega)
        obtain ⟨v, hv, hcb⟩ := (connectTimer_iff hsound.timers_wf).mp hother
        exact hkeep hi (hsame ▸ hv) hcb
      · refine hkeep (i := j) ?_ (by rw [hadded, Function.update_self]) hcb
        rintro rfl
        rw [hnone] at ht
        cases ht
  · have hwst := connecting_origin hsound hrun hconn hst
    by_cases hack : t.timerCallback = .press .connack
    · simp only [hkind, hack] at hcond
      rw [hack] at hrun
      have hpress : apiConnackPress env w = .ok u := runCallback_press hrun
      rcases hcond hwst with hans | ⟨i, hi, hother⟩
      · rw [apiConnackPress_answers hsound hpress hans hwst] at hst
        cases hst
      · obtain ⟨v, hv, hcb⟩ := (connectTimer_iff hsound.timers_wf).mp hother
        refine hkeep (i := i) ?_ ?_ hcb
        · rintro rfl
          rw [Option.some.inj (hv.symm.trans ht), hack] at hcb
          cases hcb
        · rw [apiConnackPress_systime hpress, live_timerCancelByID hsound.timers_wf,
            Function.update_of_ne hi]
          exact hv
    · obtain ⟨i, hother⟩ := hretry hwst
      obtain ⟨v, hv, hcb⟩ := (connectTimer_iff hsound.timers_wf).mp hother
      refine hkeep (i := i) ?_ ?_ hcb
      · rintro rfl
        rw [Option.some.inj (hv.symm.trans ht)] at hcb
        exact hconn hcb
      · refine (runCallback_acts hrun).connect_live (hsound.fetched _ env) ?_ ?_ hcb
        · exact fun hmem => hack (cancels_connect hmem)
        · rw [fetched_systime]
          exact hv

theorem connect_step {topics : Topics} (w : World) (e : Event) (w' : World) (hw : ConnectInv w)
    (hc : KeepsRetry w e) (h : step topics w e = .ok w') : ConnectInv w' := by
  obtain ⟨action, env⟩ := e
  have hw' := sound_step hw.1 h
  refine ⟨hw', ?_⟩
  cases action with
  | recv p addr port =>
    cases h
    have hrecv := udpServerRecvCb_received env p addr port w
    intro hst
    have hsame := hrecv.touches.same .status (by simp)
    obtain ⟨i, hother⟩ := hw.2 (hsame.symm.trans hst)
    obtain ⟨t, ht, hcb⟩ := (connectTimer_iff hw.1.timers_wf).mp hother
    obtain ⟨rx, b, g, s, heq, hs⟩ := hrecv
    refine ⟨i, (connectTimer_iff hw'.timers_wf).mpr ⟨t, ?_, hcb⟩⟩
    rw [heq]
    exact hs.persists hw.1.timers_wf ht id
  | visit num now valid => exact connect_visit valid hw hc hw' h
  | app call =>
    intro hst
    have hacts := runAppCall_acts h
    have htouches := runAppCall_touches h
    have hkeep : ∀ {i}, ConnectTimer w i → ∃ i, ConnectTimer w' i := by
      intro i hother
      obtain ⟨t, ht, hcb⟩ := (connectTimer_iff hw.1.timers_wf).mp hother
      exact ⟨i, (connectTimer_iff hw'.timers_wf).mpr
        ⟨t, hacts.connect_live hw.1 (by simp) ht hcb, hcb⟩⟩
    cases call with
    | sendConnect clientId keepalive flags =>
      have hsend : mqttSnSendConnect (env.tick 0) clientId keepalive flags w = .ok w' := h
      obtain ⟨-, hadd⟩ := mqttSnSendConnect_timer hw.1.timers_wf hsend
      rcases hadd with ⟨hfull, -⟩ | ⟨-, j, v, hnone, hcb, hadded⟩
      · have hfits : clientId.strlen ≤ mqttSnMaxClientIdLength := by
          simp only [mqttSnSendConnect] at hsend
          split_ifs at hsend with hlong
          omega
        obtain ⟨i, hother⟩ := (hc hfits).resolve_left (by omega)
        exact hkeep hother
      · exact ⟨j, (connectTimer_iff hw'.timers_wf).mpr
          ⟨v, by rw [hadded, Function.update_self], hcb⟩⟩
    | sendDisconnect duration =>
      cases h
      cases hst
    | _ =>
      have hsame := htouches.same .status (by simp [AppCall.changes])
      obtain ⟨i, hother⟩ := hw.2 (hsame.symm.trans hst)
      exact hkeep hother

/-- The client is left connecting without a timer. -/
theorem not_retries {w : World} (hs : w.systime.Wf) (hst : w.client.status = .connecting)
    (hno : ∀ i t, w.systime.live i = some t → t.timerCallback ≠ .sendConnectCb) :
    ¬RetriesConnect w := by
  intro h
  obtain ⟨i, hother⟩ := h hst
  obtain ⟨t, ht, hcb⟩ := (connectTimer_iff hs).mp hother
  exact hno i t ht hcb

/-- A visit that breaks the condition leaves it so. -/
theorem connect_visit_breaks {topics : Topics} {w : World} {num : ℕ} {now : UInt32}
    (hnum : num < maxTimerNum) {env : Env} (hsound : Sound w)
    (hc : ¬KeepsRetry w ⟨.visit num now hnum, env⟩) :
    ∃ w', timerVisit topics num now env w = .ok w' ∧ ¬RetriesConnect w' := by
  simp only [KeepsRetry, Classical.not_imp] at hc
  obtain ⟨hdue, hc⟩ := hc
  have hno : ∀ {i v}, w.systime.live i = some v → v.timerCallback = .sendConnectCb →
      ConnectTimer w i := fun hv hcb => (connectTimer_iff hsound.timers_wf).mpr ⟨_, hv, hcb⟩
  cases hkind : (w.systime.timerT num).timerCallback with
  | press api =>
    cases api with
    | connack =>
      simp only [hkind, Classical.not_imp, not_or, not_exists, not_and] at hc
      obtain ⟨hst, hans, hother⟩ := hc
      obtain ⟨u, hu, hust⟩ := apiConnackPress_stuck hsound hst hans env
      have hpress : runCallback topics env (.press .connack) .gw w = .ok u := hu
      have hrun := timerDue_run hsound hnum hdue hkind rfl hpress
      obtain ⟨t, s, ht, -, htcb, -, hsu, -, hstep, hs, hslive⟩ :=
        timerVisit_due hsound hnum hdue hrun
      refine ⟨_, hstep, not_retries hs hust fun i v hv hcb => ?_⟩
      have hv : s.live i = some v := hv
      rw [hslive, htcb, hkind, if_neg (by simp), apiConnackPress_systime hu,
        live_timerCancelByID hsound.timers_wf] at hv
      by_cases hi : i = num
      · rw [hi, Function.update_self] at hv
        cases hv
      · rw [Function.update_of_ne hi] at hv
        by_cases hj : i = findTimerIndexbyID timerIdOfConncet w.systime
        · rw [hj, Function.update_self] at hv
          cases hv
        · rw [Function.update_of_ne hj] at hv
          exact hother i hj (hno hv hcb)
    | _ => simp [hkind] at hc
  | sendConnectCb =>
    simp only [hkind, Classical.not_imp, not_or, not_exists, not_and] at hc
    obtain ⟨hst, hfull, hother⟩ := hc
    obtain ⟨u, hu⟩ : ∃ u, mqttSnSendConnect (env.tick 0) lwipTest 60
        (env.flag ||| mqttSnFlagClean) w = .ok u := by
      simp only [mqttSnSendConnect]
      rw [if_neg (by decide)]
      exact ⟨_, rfl⟩
    have hsend : runCallback topics env .sendConnectCb .client w = .ok u := (if_neg hst).trans hu
    have hrun := timerDue_run hsound hnum hdue hkind rfl hsend
    obtain ⟨hust, hadd⟩ := mqttSnSendConnect_timer hsound.timers_wf hu
    have hsame : u.systime.live = w.systime.live := by
      rcases hadd with ⟨-, hsame⟩ | ⟨hfree, -⟩
      · exact hsame
      · exact absurd hfree hfull
    obtain ⟨t, s, ht, -, htcb, -, hsu, -, hstep, hs, hslive⟩ :=
      timerVisit_due hsound hnum hdue hrun
    refine ⟨_, hstep, not_retries hs hust fun i v hv hcb => ?_⟩
    have hv : s.live i = some v := hv
    rw [hslive, htcb, hkind, if_neg (by simp), hsame] at hv
    by_cases hi : i = num
    · rw [hi, Function.update_self] at hv
      cases hv
    · rw [Function.update_of_ne hi] at hv
      exact hother i hi (hno hv hcb)
  | _ => simp [hkind] at hc

theorem connect_step_breaks {topics : Topics} (w : World) (e : Event) (hw : ConnectInv w)
    (hc : ¬KeepsRetry w e) : ∃ w', step topics w e = .ok w' ∧ ¬RetriesConnect w' := by
  obtain ⟨action, env⟩ := e
  cases action with
  | recv p addr port => exact absurd trivial hc
  | visit num now valid => exact connect_visit_breaks valid hw.1 hc
  | app call =>
    cases call with
    | sendConnect clientId keepalive flags =>
      simp only [KeepsRetry, Classical.not_imp, not_or, not_exists] at hc
      obtain ⟨hfits, hfull, hother⟩ := hc
      obtain ⟨u, hu⟩ : ∃ u, mqttSnSendConnect (env.tick 0) clientId keepalive flags w = .ok u := by
        simp only [mqttSnSendConnect]
        rw [if_neg (by omega)]
        exact ⟨_, rfl⟩
      obtain ⟨hust, hadd⟩ := mqttSnSendConnect_timer hw.1.timers_wf hu
      have hsame : u.systime.live = w.systime.live := by
        rcases hadd with ⟨-, hsame⟩ | ⟨hfree, -⟩
        · exact hsame
        · exact absurd hfree hfull
      have hwf := (mqttSnSendConnect_acts hu).timers.wf hw.1.timers_wf
      refine ⟨u, hu, not_retries hwf hust fun i v hv hcb => ?_⟩
      rw [hsame] at hv
      exact hother i ((connectTimer_iff hw.1.timers_wf).mpr ⟨v, hv, hcb⟩)
    | _ => exact absurd trivial hc

theorem Booted.connectInv {topics : Topics} {w : World} (h : Booted topics w) : ConnectInv w := by
  refine ⟨h.sound, fun _ => ?_⟩
  have hlive : w.systime.live 0 = bootTimers 0 := by rw [h.live_eq]
  exact ⟨0, (connectTimer_iff h.timers_wf).mpr ⟨_, hlive, rfl⟩⟩

/-- A run keeps a timer for CONNECT while it is connecting exactly when all its steps meet
the condition. -/
theorem connecting_retried_iff {topics : Topics} {env : Env} {w : World}
    (hinit : mqttClientInit env (startup topics) = .ok w) (es : List Event) :
    Runs.Always (step topics) RetriesConnect w es ↔ Runs.Meets (step topics) KeepsRetry w es :=
  Runs.always_iff_meets (J := ConnectInv) (P := RetriesConnect) (C := KeepsRetry)
    (fun _ h => h.2) connect_step connect_step_breaks (mqttClientInit_booted hinit).connectInv

/-- The accepting CONNACK is answered by the handler in the third slot. -/
theorem connecting_retried_connack :
    Runs.Always (step topiclist) RetriesConnect bootWorld
      [⟨.recv (datagram [3, mqttSnTypeConnack, 0]) 0 10000, quietEnv⟩,
        ⟨.visit 2 200 two_lt_maxTimerNum, quietEnv⟩] := by
  refine (connecting_retried_iff bootWorld_init _).mpr ⟨trivial, fun w hw => ⟨?_, ?_⟩⟩
  · cases hw
    intro _ _
    exact Or.inl ⟨[3, mqttSnTypeConnack, 0], by decide, rfl, fun _ => rfl⟩
  · exact fun _ _ => trivial

/-- A CONNACK with return code 1 leaves the client connecting without a timer. -/
theorem connack_refusal_sticks :
    ¬∀ (topics : Topics) (env : Env) (w : World) (es : List Event),
      mqttClientInit env (startup topics) = .ok w →
        Runs.Always (step topics) RetriesConnect w es := by
  intro h
  let es : List Event :=
    [⟨.recv (datagram [3, mqttSnTypeConnack, 1]) 0 10000, quietEnv⟩,
      ⟨.visit 2 200 two_lt_maxTimerNum, quietEnv⟩]
  have hend := h topiclist quietEnv bootWorld es bootWorld_init es [] _
    (List.append_nil es).symm rfl
  obtain ⟨i, hi, hother⟩ := hend (by decide)
  revert hother
  simp only [maxTimerNum] at hi
  interval_cases i <;> decide

end MqttSnClient
