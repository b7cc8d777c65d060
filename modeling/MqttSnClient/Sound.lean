import MqttSnClient.Effects

namespace MqttSnClient
open Memory

/-- The pointers and the flag of the length queue. Once a length has been written to a
full queue nothing more than this is kept. -/
structure RxOk (b : ImportBuff) : Prop where
  rPtr_lt : b.rPtr < mqttSnImportMax
  wPtr_lt : b.wPtr < mqttSnImportMax
  ring_bit : b.ring = 0 ∨ b.ring = 1

structure Sound (w : World) : Prop where
  timers_wf : w.systime.Wf
  timers_ok : ∀ i t, w.systime.live i = some t → TimerOk t
  buff : ∃ q, BuffView w.buffBody q
  rx : RxOk w.client.rxBuffer

theorem ImportView.rxOk {b : ImportBuff} {q : List UInt8} (h : ImportView b q) : RxOk b := by
  refine ⟨h.rPtr_lt, h.wPtr_lt, ?_⟩
  rw [h.ring_eq]
  split_ifs
  · exact Or.inr rfl
  · exact Or.inl rfl

theorem RxOk.write {b : ImportBuff} (h : RxOk b) (data : UInt8) :
    RxOk (writeClientImportindex data b).2 := by
  by_cases hd : data = 0
  · rw [hd, write_zero]
    exact h
  · rw [write_eq hd h.wPtr_lt h.rPtr_lt]
    refine ⟨h.rPtr_lt, Nat.mod_lt _ (by decide), ?_⟩
    simp only
    split_ifs
    · exact Or.inr rfl
    · exact h.ring_bit

theorem RxOk.read {b : ImportBuff} (h : RxOk b) : RxOk (readClientImportindex b).2 := by
  by_cases hempty : 1 > toUint16 (getAvalidofpktinput b.wPtr b.rPtr b.ring)
  · have hread : readClientImportindex b = (0, b) := by
      unfold readClientImportindex
      simp only [if_pos hempty]
    rw [hread]
    exact h
  · rw [read_eq h.rPtr_lt hempty]
    exact ⟨Nat.mod_lt _ (by decide), h.wPtr_lt, Or.inl rfl⟩

theorem writeBUFF_view {b : LoopBuff} {q data : List UInt8} {n : ℕ} (h : BuffView b q)
    (hd : n ≤ data.length) : ∃ q', BuffView (writeBUFF (some data) n b).2 q' := by
  by_cases hn : 1 ≤ n ∧ n ≤ maxBuffSize - q.length
  · exact ⟨_, (writeBUFF_ok h hd hn.1 hn.2).2⟩
  · rw [(writeBUFF_refused h (some data) hn).2]
    exact ⟨q, h⟩

theorem readBUFF_view {b : LoopBuff} {q : List UInt8} (h : BuffView b q) (data : ℕ → UInt8)
    (n : ℕ) : ∃ q', BuffView (readBUFF (some data) n b).2.2 q' := by
  by_cases hn : 1 ≤ n ∧ n ≤ q.length
  · exact ⟨_, (readBUFF_ok h data hn.1 hn.2).2.2⟩
  · rw [(readBUFF_refused h (some data) hn).2]
    exact ⟨q, h⟩

namespace Sound

variable {w w' : World}

theorem consumed (hw : Sound w) (env : Env) : Sound (w.consumed (nextFrame env w)) := by
  obtain ⟨q, hq⟩ := hw.buff
  exact ⟨hw.timers_wf, hw.timers_ok, readBUFF_view hq _ _, hw.rx.read⟩

theorem fetched (hw : Sound w) (cb : Callback) (env : Env) : Sound (cb.fetched env w) := by
  unfold Callback.fetched
  split
  · split_ifs
    · exact hw.consumed env
    · exact hw
  · exact hw

theorem acts {K : List Callback} {C : List UInt8} (hw : Sound w) (h : Acts K C w w') :
    Sound w' := by
  refine ⟨h.timers.wf hw.timers_wf, ?_, ?_, ?_⟩
  · intro i t ht
    rcases h.timers.origin hw.timers_wf ht with ht | ht
    · exact hw.timers_ok i t ht
    · exact ht.1
  · rw [h.buffBody]
    exact hw.buff
  · rw [h.rxBuffer]
    exact hw.rx

end Sound

theorem fetched_systime (cb : Callback) (env : Env) (w : World) :
    (cb.fetched env w).systime = w.systime := by
  unfold Callback.fetched
  split
  · split_ifs <;> rfl
  · rfl

/-- A live timer of a callback that the step does not arm was there before. -/
theorem Acts.live_old {K : List Callback} {C : List UInt8} {w w' : World} (h : Acts K C w w')
    (hs : w.systime.Wf) {j : ℕ} {t : SwTimer Callback Arg} (ht : w'.systime.live j = some t)
    (hK : t.timerCallback ∉ K) : w.systime.live j = some t :=
  (h.timers.origin hs ht).resolve_right fun harmed => hK harmed.2

/-- A live timer whose ID the step does not cancel stays. -/
theorem Acts.live_kept {K : List Callback} {C : List UInt8} {w w' : World} (h : Acts K C w w')
    (hw : Sound w) {j : ℕ} {t : SwTimer Callback Arg} (ht : w.systime.live j = some t)
    (hC : t.timerCallback.armedID ∉ C) : w'.systime.live j = some t := by
  apply h.timers.persists hw.timers_wf ht
  rw [(hw.timers_ok j t ht).id_eq]
  exact hC

theorem runCallback_live_kept {topics : Topics} {env : Env} {cb : Callback} {arg : Arg}
    {w u : World} (hw : Sound w) (h : runCallback topics env cb arg w = .ok u) {j : ℕ}
    {t : SwTimer Callback Arg} (ht : w.systime.live j = some t)
    (hC : t.timerCallback.armedID ∉ cb.cancels) : u.systime.live j = some t := by
  apply (runCallback_acts h).live_kept (hw.fetched cb env) _ hC
  rw [fetched_systime]
  exact ht

theorem runCallback_live_old {topics : Topics} {env : Env} {cb : Callback} {arg : Arg}
    {w u : World} (hw : Sound w) (h : runCallback topics env cb arg w = .ok u) {j : ℕ}
    {t : SwTimer Callback Arg} (ht : u.systime.live j = some t) (hK : t.timerCallback ∉ cb.arms) :
    w.systime.live j = some t := by
  rw [← fetched_systime cb env w]
  exact (runCallback_acts h).live_old (hw.fetched cb env).timers_wf ht hK

theorem timerDue_live {w : World} (hw : w.systime.Wf) {num : ℕ} {now : UInt32}
    (hnum : num < maxTimerNum) (hdue : timerDue num now w = true) :
    w.systime.live num = some (w.systime.timerT num).untimed := by
  have hrun : (w.systime.timerT num).runing = true := by
    simp only [timerDue, Bool.and_eq_true] at hdue
    exact hdue.1
  exact live_of_runing hw hnum hrun

/-- A due timer holds one of the pointers that its callback is armed with. -/
theorem timerDue_arg_mem {w : World} (hw : Sound w) {num : ℕ} {now : UInt32}
    (hnum : num < maxTimerNum) (hdue : timerDue num now w = true) :
    (w.systime.timerT num).arg ∈ (w.systime.timerT num).timerCallback.takes :=
  (hw.timers_ok _ _ (timerDue_live hw.timers_wf hnum hdue)).arg_mem

theorem timerDue_arg {w : World} (hw : Sound w) {num : ℕ} {now : UInt32}
    (hnum : num < maxTimerNum) (hdue : timerDue num now w = true) {cb : Callback} {arg : Arg}
    (hcb : (w.systime.timerT num).timerCallback = cb) (hone : cb.takes = [arg]) :
    (w.systime.timerT num).arg = arg := by
  have hmem := timerDue_arg_mem hw hnum hdue
  rw [hcb, hone] at hmem
  exact List.mem_singleton.mp hmem

/-- What a due callback does with its pointer, the loop of `TimerCheck` does. -/
theorem timerDue_run {topics : Topics} {env : Env} {w u : World} (hw : Sound w) {num : ℕ}
    {now : UInt32} (hnum : num < maxTimerNum) (hdue : timerDue num now w = true)
    {cb : Callback} {arg : Arg} (hcb : (w.systime.timerT num).timerCallback = cb)
    (hone : cb.takes = [arg]) (h : runCallback topics env cb arg w = .ok u) :
    runCallback topics env (w.systime.timerT num).timerCallback (w.systime.timerT num).arg w =
      .ok u := by
  rw [hcb, timerDue_arg hw hnum hdue hcb hone]
  exact h

/-- A callback does not cancel timers of its own ID. -/
theorem own_id_not_cancelled {t : SwTimer Callback Arg} (ht : TimerOk t) :
    t.timerID ∉ t.timerCallback.cancels := by
  rw [ht.id_eq]
  cases t.timerCallback with
  | press api => cases api <;> decide
  | _ => decide

/-- A turn of the loop skips the slot, or runs its callback and then changes the table only. -/
theorem timerVisit_runs {topics : Topics} {num : ℕ} {now : UInt32} {env : Env} {w w' : World}
    (h : timerVisit topics num now env w = .ok w') :
    timerDue num now w = false ∧ w' = w ∨ ∃ u s, timerDue num now w = true ∧
      runCallback topics env (w.systime.timerT num).timerCallback (w.systime.timerT num).arg w =
        .ok u ∧ w' = { u with systime := s } := by
  unfold timerVisit at h
  by_cases hdue : timerDue num now w = true
  · rw [if_pos hdue] at h
    obtain ⟨u, hrun, h⟩ := Runs.bind_ok.mp h
    right
    split_ifs at h <;> cases h <;> exact ⟨u, _, hdue, hrun, rfl⟩
  · rw [if_neg hdue] at h
    cases h
    exact Or.inl ⟨Bool.eq_false_iff.mpr hdue, rfl⟩

/-- After a due callback has run, a one-shot timer gives its slot back. -/
theorem timerVisit_due {topics : Topics} {num : ℕ} {now : UInt32} {env : Env} {w u : World}
    (hw : Sound w) (hnum : num < maxTimerNum) (hdue : timerDue num now w = true)
    (hu : runCallback topics env (w.systime.timerT num).timerCallback (w.systime.timerT num).arg w =
      .ok u) :
    ∃ t s, w.systime.live num = some t ∧ TimerOk t ∧
      t.timerCallback = (w.systime.timerT num).timerCallback ∧ t.arg = (w.systime.timerT num).arg ∧
      Sound u ∧ u.systime.live num = some t ∧
      timerVisit topics num now env w = .ok { u with systime := s } ∧ s.Wf ∧
      s.live = if t.timerCallback = .cyclicCb then u.systime.live
        else Function.update u.systime.live num none := by
  have hlive := timerDue_live hw.timers_wf hnum hdue
  have hok := hw.timers_ok _ _ hlive
  have hacts := runCallback_acts hu
  have hsound : Sound u := (hw.fetched _ env).acts hacts
  have hstay : u.systime.live num = some (w.systime.timerT num).untimed := by
    have hown := own_id_not_cancelled hok
    refine hacts.timers.persists (hw.fetched _ env).timers_wf ?_ hown
    rw [fetched_systime]
    exact hlive
  have hloop : (u.systime.timerT num).loop = (w.systime.timerT num).loop := by
    obtain ⟨v, hv, hvt⟩ := Option.map_eq_some_iff.mp hstay
    rw [(Timer.slot_eq_some.mp hv).2.2]
    have hsame := congrArg SwTimer.loop hvt
    exact hsame
  have hmode := hok.loop_eq
  have hrun : timerVisit topics num now env w =
      if (u.systime.timerT num).loop = timerModeLoop then
        .ok { u with systime := (timerReload env.reload num u.systime).2 }
      else .ok { u with systime := timerStopDel num u.systime } := by
    simp only [timerVisit, hdue, if_true, hu]
    rfl
  refine ⟨(w.systime.timerT num).untimed, ?_⟩
  by_cases hcyc : (w.systime.timerT num).timerCallback = .cyclicCb
  -- a loop timer is reloaded
  · have hl : (u.systime.timerT num).loop = timerModeLoop := by
      rw [hloop]
      exact hmode.trans (if_pos hcyc)
    rw [hrun, if_pos hl]
    exact ⟨_, hlive, hok, rfl, rfl, hsound, hstay, rfl, timerReload_wf hsound.timers_wf _ _,
      (live_timerReload hsound.timers_wf _ _).trans (if_pos hcyc).symm⟩
  -- a one-shot timer is stopped and deleted
  · have hl : (u.systime.timerT num).loop ≠ timerModeLoop := by
      rw [hloop, show (w.systime.timerT num).loop = _ from hmode.trans (if_neg hcyc)]
      decide
    rw [hrun, if_neg hl]
    exact ⟨_, hlive, hok, rfl, rfl, hsound, hstay, rfl, timerStopDel_wf hsound.timers_wf _,
      (live_timerStopDel hsound.timers_wf _).trans (if_neg hcyc).symm⟩

/-- One turn of `TimerCheck` on a slot: either nothing is due, or the callback of the live
timer runs while the timer still holds its slot, which a one-shot timer then gives back. -/
theorem timerVisit_ok {topics : Topics} {num : ℕ} {now : UInt32} {env : Env} {w w' : World}
    (hw : Sound w) (hnum : num < maxTimerNum) (h : timerVisit topics num now env w = .ok w') :
    (timerDue num now w = false ∧ w' = w) ∨
      ∃ t u s, timerDue num now w = true ∧ w.systime.live num = some t ∧ TimerOk t ∧
        runCallback topics env t.timerCallback t.arg w = .ok u ∧ Sound u ∧
        u.systime.live num = some t ∧ w' = { u with systime := s } ∧ s.Wf ∧
        s.live = if t.timerCallback = .cyclicCb then u.systime.live
          else Function.update u.systime.live num none := by
  rcases timerVisit_runs h with hidle | ⟨u, _, hdue, hu, -⟩
  · exact Or.inl hidle
  · right
    obtain ⟨t, s, ht, hok, hcb, harg, hsound, hstay, hstep, hs, hlive⟩ :=
      timerVisit_due hw hnum hdue hu
    rw [hstep] at h
    cases h
    rw [← hcb, ← harg] at hu
    exact ⟨t, u, s, hdue, ht, hok, hu, hsound, hstay, rfl, hs, hlive⟩

/-- A timer that is live after the turn was so after the callback. -/
theorem visit_live {s u : Timer Callback Arg} {t : SwTimer Callback Arg} {num : ℕ}
    (hlive : s.live = if t.timerCallback = .cyclicCb then u.live
      else Function.update u.live num none) {j : ℕ} {v : SwTimer Callback Arg}
    (hj : s.live j = some v) : u.live j = some v := by
  rw [hlive] at hj
  split_ifs at hj
  · exact hj
  · by_cases hnum : j = num
    · rw [hnum, Function.update_self] at hj
      cases hj
    · rwa [Function.update_of_ne hnum] at hj

/-- A timer that dispatches a received frame. -/
def Dispatch (t : SwTimer Callback Arg) : Prop :=
  TimerOk t ∧ ∃ api, t.timerCallback = .press api

/-- What the receive callback can change: the peer address, the sender, the receive
queues, and the timer table by one more handler. -/
def Received (addr : UInt32) (port : UInt16) (w w' : World) : Prop :=
  ∃ rx b g s, w' = { w with
      remotePort := port, remoteIp := addr, client := { w.client with rxBuffer := rx }
      buffBody := b, gw := g, systime := s } ∧
    TimerActs Dispatch (fun _ => False) w.systime s

theorem mqttSnSocketIncommCb_received (env : Env) (addr : UInt32) (port : UInt16) (cmd : UInt8)
    (w : World) :
    ∃ rx b s, (mqttSnSocketIncommCb env addr port cmd w).2 = { w with
        client := { w.client with rxBuffer := rx }, buffBody := b
        gw := { addr := addr, port := port }, systime := s } ∧
      TimerActs Dispatch (fun _ => False) w.systime s := by
  unfold mqttSnSocketIncommCb
  cases getAPIFUN cmd with
  | some api =>
    exact ⟨_, _, _, rfl, .add _ _ _ _ _ _ .refl
      ⟨⟨rfl, by simp, by simp [Callback.takes]⟩, api, rfl⟩⟩
  | none => exact ⟨_, _, _, rfl, .refl⟩

theorem udpServerRecvCb_received (env : Env) (p : Pbuf) (addr : UInt32) (port : UInt16)
    (w : World) : Received addr port w (udpServerRecvCb env p addr port w).2 := by
  simp only [udpServerRecvCb]
  split_ifs
  · exact ⟨_, _, _, _, rfl, .refl⟩
  · exact ⟨_, _, _, _, rfl, .refl⟩
  · exact ⟨_, _, _, _, rfl, .refl⟩
  · obtain ⟨rx, b, s, h, hs⟩ := mqttSnSocketIncommCb_received env addr port p.cmd
      { w with
        remotePort := port, remoteIp := addr
        client := { w.client with
          rxBuffer := (writeClientImportindex (UInt8.ofNat p.totLen.toNat) w.client.rxBuffer).2 }
        buffBody := (writeBUFF (some p.bytes) p.totLen.toNat w.buffBody).2 }
    exact ⟨rx, b, _, s, h, hs⟩
  · exact ⟨_, _, _, _, rfl, .refl⟩

theorem mqttSnSocketIncommCb_sound {w : World} (hw : Sound w) (env : Env) (addr : UInt32)
    (port : UInt16) (cmd : UInt8) : Sound (mqttSnSocketIncommCb env addr port cmd w).2 := by
  unfold mqttSnSocketIncommCb
  cases getAPIFUN cmd with
  | some api =>
    have hacts : TimerActs Dispatch (fun _ => False) w.systime
        (timerAdd (env.tick 0) timerModeSingle 100 (.press api) .gw 0 w.systime).2 :=
      .add _ _ _ _ _ _ .refl ⟨⟨rfl, by simp, by simp [Callback.takes]⟩, api, rfl⟩
    refine ⟨hacts.wf hw.timers_wf, ?_, hw.buff, hw.rx⟩
    intro i t ht
    rcases hacts.origin hw.timers_wf ht with ht | ht
    · exact hw.timers_ok i t ht
    · exact ht.1
  | none =>
    obtain ⟨q, hq⟩ := hw.buff
    exact ⟨hw.timers_wf, hw.timers_ok, readBUFF_view hq _ _, hw.rx.read⟩

theorem Pbuf.bytes_length (p : Pbuf) : p.bytes.length = p.totLen.toNat := slice_length _ _ _

theorem udpServerRecvCb_sound {w : World} (hw : Sound w) (env : Env) (p : Pbuf) (addr : UInt32)
    (port : UInt16) : Sound (udpServerRecvCb env p addr port w).2 := by
  obtain ⟨q, hq⟩ := hw.buff
  have hwrite := writeBUFF_view hq p.bytes_length.ge
  simp only [udpServerRecvCb]
  split_ifs
  · exact ⟨hw.timers_wf, hw.timers_ok, hw.buff, hw.rx⟩
  · exact ⟨hw.timers_wf, hw.timers_ok, hw.buff, hw.rx.write _⟩
  · exact ⟨hw.timers_wf, hw.timers_ok, hwrite, hw.rx.write _⟩
  · apply mqttSnSocketIncommCb_sound
    exact ⟨hw.timers_wf, hw.timers_ok, hwrite, hw.rx.write _⟩
  · exact ⟨hw.timers_wf, hw.timers_ok, hw.buff, hw.rx⟩

theorem sound_step {topics : Topics} {w w' : World} {e : Event} (hw : Sound w)
    (h : step topics w e = .ok w') : Sound w' := by
  unfold step at h
  split at h
  · cases h
    exact udpServerRecvCb_sound hw _ _ _ _
  · rename_i num now hnum _
    rcases timerVisit_ok hw hnum h with ⟨-, rfl⟩ | ⟨t, u, s, -, -, -, -, hu, -, rfl, hs, hlive⟩
    · exact hw
    · exact ⟨hs, fun i v hv => hu.timers_ok i v (visit_live hlive hv), hu.buff, hu.rx⟩
  · exact hw.acts (runAppCall_acts h)

theorem timerInit_wf : (timerInit : Timer Callback Arg).Wf :=
  ⟨rfl, fun _ _ => rfl⟩

/-- The timers that `MQTTClientInit` leaves armed. -/
def bootTimers : ℕ → Option (SwTimer Callback Arg) :=
  Function.update (Function.update (fun _ => none) 0 (some
      { loop := timerModeSingle, runing := true, prevTick := 0, timeOut := 4000
        timerID := timerIdOfConncet, arg := .client, timerCallback := .sendConnectCb })) 1 (some
    { loop := timerModeLoop, runing := true, prevTick := 0, timeOut := 1000, timerID := 0
      arg := .null, timerCallback := .cyclicCb })

/-- The state after `MQTTClientInit`. -/
structure Booted (topics : Topics) (w : World) : Prop where
  timers_wf : w.systime.Wf
  live_eq : w.systime.live = bootTimers
  eq_startup : w = { startup topics with
    client := { (startup topics).client with
      keepAlive := 60, serverWatchdog := 60, pktId := 1, status := .connecting
      clientID := memcpy (fun _ => 0) 0 (lwipTest.bytes ++ [0]) }
    buffBody := buffInit
    systime := w.systime
    sent := [⟨myIp4Addr 192 168 45 119, 10000, connectMsg lwipTest 60 mqttSnFlagClean⟩] }

theorem mqttClientInit_booted {topics : Topics} {env : Env} {w : World}
    (h : mqttClientInit env (startup topics) = .ok w) : Booted topics w := by
  obtain ⟨u, hu, h⟩ := Runs.bind_ok.mp h
  cases h
  simp only [mqttSnSendConnect] at hu
  split_ifs at hu
  cases hu
  refine ⟨timerAdd_wf (timerAdd_wf timerInit_wf _ _ _ _ _ _) _ _ _ _ _ _, ?_, rfl⟩
  -- both calls find the lowest free slot
  funext i
  rcases i with _ | _ | i
  · rfl
  · rfl
  · rcases Nat.lt_or_ge (i + 2) maxTimerNum with hi | hi
    · rw [live_eq_none.mpr]
      · rfl
      · exact Timer.slot_eq_none.mpr fun _ => rfl
    · rw [live_eq_none.mpr]
      · rfl
      · exact Timer.slot_eq_none.mpr fun hlt => absurd hlt (Nat.not_lt.mpr hi)

theorem bootTimers_ok {i : ℕ} {t : SwTimer Callback Arg} (h : bootTimers i = some t) :
    (i = 0 ∧ t.timerCallback = .sendConnectCb ∨ i = 1 ∧ t.timerCallback = .cyclicCb) ∧
      TimerOk t := by
  rcases i with _ | _ | i
  · cases h
    exact ⟨Or.inl ⟨rfl, rfl⟩, rfl, rfl, by decide⟩
  · cases h
    exact ⟨Or.inr ⟨rfl, rfl⟩, rfl, rfl, by decide⟩
  · cases h

theorem Booted.sound {topics : Topics} {w : World} (h : Booted topics w) : Sound w := by
  refine ⟨h.timers_wf, ?_, ⟨[], ?_⟩, ?_⟩
  · intro i t ht
    rw [h.live_eq] at ht
    exact (bootTimers_ok ht).2
  · rw [h.eq_startup]
    exact buffInit_view
  · rw [h.eq_startup]
    exact importZero_view.rxOk

theorem Reachable.sound {topics : Topics} {w : World} (h : Reachable topics w) : Sound w := by
  obtain ⟨env, w0, es, hinit, hrun⟩ := h
  exact Runs.run_invariant_always (fun _ _ _ hs hstep => sound_step hs hstep)
    (mqttClientInit_booted hinit).sound hrun

/-- An environment in which the clock stands still and all memory is zero. -/
def quietEnv : Env where
  tick := fun _ => 0
  reload := 0
  inputdata := fun _ => 0
  flag := 0
  mem := fun _ => 0

/-- The client that boots there with the names of the source. -/
def bootWorld : World :=
  match mqttClientInit quietEnv (startup topiclist) with
  | .ok w => w
  | .error _ => startup topiclist

theorem bootWorld_init : mqttClientInit quietEnv (startup topiclist) = .ok bootWorld := rfl

def datagram (bytes : List UInt8) : Pbuf where
  payload := Bytes.asArray bytes
  totLen := UInt16.ofNat bytes.length

theorem armedID_ne_subscribe (cb : Callback) : cb.armedID ≠ timerIdOfSubscribe := by
  cases cb with
  | press api => exact (by decide : (0 : UInt8) ≠ timerIdOfSubscribe)
  | _ => decide

/-- No timer has the ID that the handler of SUBACK cancels. -/
theorem timerCancelByID_subscribe (hw : Sound w) :
    timerCancelByID timerIdOfSubscribe w.systime = w.systime := by
  simp only [timerCancelByID]
  split_ifs with hfound
  · obtain ⟨hlt, hid⟩ := findTimerIndexbyID_lt hfound
    rw [timerStopDel_spec hw.timers_wf, if_neg]
    rintro ⟨-, hused⟩
    have hrun : (w.systime.timerT (findTimerIndexbyID timerIdOfSubscribe w.systime)).runing =
        true := by
      rw [hw.timers_wf.runing_eq _ hlt, hused]
      rfl
    have hok := hw.timers_ok _ _ (live_of_runing hw.timers_wf hlt hrun)
    exact armedID_ne_subscribe _ (hok.id_eq.symm.trans hid)
  · rfl

theorem cancelTimer_subscribe (hw : Sound w) : cancelTimer timerIdOfSubscribe w = w := by
  rw [cancelTimer, timerCancelByID_subscribe hw]

end MqttSnClient
