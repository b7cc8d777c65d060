import MqttSnClient.Passes

/-! When timers fire. Time is a natural number, of which the tick shows the low 32 bits; a
history notes at which time each slot was armed and the argument of `TimerCheck` was sampled. -/
namespace MqttSnClient

variable {κ α : Type}

/-- What `xTaskGetTickCount` returns at a time. -/
def tickAt (time : ℕ) : UInt32 := UInt32.ofNat time

/-- What happens to the table, with the time at which the tick is read. -/
inductive ClockedEvent (κ α : Type)
  | add (time : ℕ) (mode : UInt8) (timeout : UInt32) (cb : κ) (arg : α) (timerID : UInt8)
  | stop (timerindex : UInt8)
  | del (timerindex : UInt8)
  | reload (time : ℕ) (timerindex : UInt8)
  | check (time : ℕ)
  | turn
  | returns (time : ℕ)

def ClockedEvent.timing : ClockedEvent κ α → TimingEvent κ α
  | .add time mode timeout cb arg timerID =>
    .call (.add (tickAt time) mode timeout cb arg timerID)
  | .stop timerindex => .call (.stop timerindex)
  | .del timerindex => .call (.del timerindex)
  | .reload time timerindex => .call (.reload (tickAt time) timerindex)
  | .check time => .check (tickAt time)
  | .turn => .turn
  | .returns time => .returns (tickAt time)

def clockedStep (s : Timing κ α) (e : ClockedEvent κ α) : Except Unit (Timing κ α) :=
  timingStep s e.timing

/-- When each slot was armed, and when the argument of the pass was sampled. -/
structure Armings where
  armed : ℕ → ℕ
  sampled : ℕ

def Armings.zero : Armings := { armed := fun _ => 0, sampled := 0 }

def Armings.arm (g : Armings) (num time : ℕ) : Armings :=
  { g with armed := Function.update g.armed num time }

/-- A slot is armed by a `TimerAdd` that returns it, and by a `TimerReload` that succeeds,
also when it is called by the pass itself. -/
def trackArmings (s : Timing κ α) (e : ClockedEvent κ α) (_ : Timing κ α) (g : Armings) : Armings :=
  match e with
  | .add time mode timeout cb arg timerID =>
    match (timerAdd (tickAt time) mode timeout cb arg timerID s.systime).1 with
    | some num => if num < 0 then g else g.arm num.toNat time
    | none => g
  | .reload time timerindex =>
    if (timerReload (tickAt time) timerindex.toNat s.systime).1 = errorTimerNone then
      g.arm timerindex.toNat time
    else g
  | .check time => { g with sampled := time }
  | .returns time =>
    match s.pass with
    | some p =>
      if (s.systime.timerT p.num).loop = timerModeLoop ∧
          (timerReload (tickAt time) p.num s.systime).1 = errorTimerNone then
        g.arm p.num time
      else g
    | none => g
  | _ => g

/-- The pass stands before a running slot whose timeout, and whose distance from the sample,
are below half the range of the tick. -/
def Reaches (s : Timing κ α) (g : Armings) (nowtimetick : UInt32) (num : ℕ) : Prop :=
  s.pass = some ⟨nowtimetick, num, false⟩ ∧ num < maxTimerNum ∧
    (s.systime.timerT num).runing = true ∧
    ((g.sampled : ℤ) - g.armed num).natAbs < 2 ^ 31 ∧ (s.systime.timerT num).timeOut.toNat < 2 ^ 31

/-- A pass that reaches a running timer runs its callback if and only if its timeout has
elapsed between the arming and the sample. -/
def FiresWhenDue (s : Timing κ α × Armings) (e : ClockedEvent κ α) (s' : Timing κ α × Armings) :
    Prop :=
  ∀ nowtimetick num, e = .turn → Reaches s.1 s.2 nowtimetick num →
    (s'.1.pass = some ⟨nowtimetick, num, true⟩ ↔
      ((s.1.systime.timerT num).timeOut.toNat : ℤ) < (s.2.sampled : ℤ) - s.2.armed num)

/-- The sample is not older than the timer; and where the tick has wrapped in between, the
timeout is not exceeded by exactly one tick. -/
def SampledAfter (s : Timing κ α × Armings) (e : ClockedEvent κ α) : Prop :=
  ∀ nowtimetick num, e = .turn → Reaches s.1 s.2 nowtimetick num →
    s.2.armed num ≤ s.2.sampled ∧
      (s.2.sampled % 2 ^ 32 < s.2.armed num % 2 ^ 32 →
        s.2.sampled ≠ s.2.armed num + (s.1.systime.timerT num).timeOut.toNat + 1)

theorem tickAt_toNat (time : ℕ) : (tickAt time).toNat = time % 2 ^ 32 := UInt32.toNat_ofNat'

/-- Across the wrap of the tick the macro is one short. -/
theorem timeSubAbs_toNat (prev now : UInt32) : (timeSubAbs prev now).toNat =
    if prev.toNat ≤ now.toNat then now.toNat - prev.toNat
    else 2 ^ 32 - 1 - prev.toNat + now.toNat := by
  unfold timeSubAbs
  by_cases hle : prev ≤ now
  · rw [if_pos hle, if_pos (UInt32.le_iff_toNat_le.mp hle)]
    exact UInt32.toNat_sub_of_le _ _ hle
  · have hlt : now.toNat < prev.toNat := by
      have hno := UInt32.le_iff_toNat_le.not.mp hle
      omega
    have hmax : prev ≤ 0xFFFFFFFF := by
      rw [UInt32.le_iff_toNat_le]
      have hbound := prev.toNat_lt
      simp only [UInt32.reduceToNat]
      omega
    rw [if_neg hle, if_neg (by omega), UInt32.toNat_add, UInt32.toNat_sub_of_le _ _ hmax]
    simp only [UInt32.reduceToNat]
    have hbound := prev.toNat_lt
    omega

/-- What the test of the pass amounts to. -/
theorem isTimeOut_tickAt {armed sampled : ℕ} {timeOut : UInt32}
    (hnear : ((sampled : ℤ) - armed).natAbs < 2 ^ 31) (hshort : timeOut.toNat < 2 ^ 31) :
    isTimeOut (tickAt armed) (tickAt sampled) timeOut = true ↔
      sampled < armed ∨
        if sampled % 2 ^ 32 < armed % 2 ^ 32 then armed + timeOut.toNat + 1 < sampled
        else armed + timeOut.toNat < sampled := by
  rw [isTimeOut, decide_eq_true_eq, gt_iff_lt, UInt32.lt_iff_toNat_lt, timeSubAbs_toNat,
    tickAt_toNat, tickAt_toNat]
  split_ifs <;> omega

theorem isTimeOut_exact {armed sampled : ℕ} {timeOut : UInt32}
    (hnear : ((sampled : ℤ) - armed).natAbs < 2 ^ 31) (hshort : timeOut.toNat < 2 ^ 31) :
    (isTimeOut (tickAt armed) (tickAt sampled) timeOut = true ↔
        (timeOut.toNat : ℤ) < (sampled : ℤ) - armed) ↔
      armed ≤ sampled ∧
        (sampled % 2 ^ 32 < armed % 2 ^ 32 → sampled ≠ armed + timeOut.toNat + 1) := by
  rw [isTimeOut_tickAt hnear hshort]
  split_ifs <;> omega

/-- What carries the times through a run: a running slot and the pass have the ticks of the
times that the history notes. -/
structure ClockedInv (s : Timing κ α × Armings) : Prop where
  consistent : s.1.systime.Consistent
  armed : ∀ i < maxTimerNum, (s.1.systime.timerT i).runing = true →
    (s.1.systime.timerT i).prevTick = tickAt (s.2.armed i)
  sampled : ∀ p, s.1.pass = some p → p.nowtimetick = tickAt s.2.sampled

/-- The armed slots of a table have the ticks of their times. -/
def Armings.Match (g : Armings) (t : Timer κ α) : Prop :=
  ∀ i < maxTimerNum, (t.timerT i).runing = true → (t.timerT i).prevTick = tickAt (g.armed i)

section Match

variable {g : Armings} {t : Timer κ α}

theorem Armings.Match.add (h : g.Match t) (ht : t.Consistent) (time : ℕ) (mode : UInt8)
    (timeout : UInt32) (cb : κ) (arg : α) (timerID : UInt8) :
    (match (timerAdd (tickAt time) mode timeout cb arg timerID t).1 with
      | some num => if num < 0 then g else g.arm num.toNat time
      | none => g).Match (timerAdd (tickAt time) mode timeout cb arg timerID t).2 := by
  rcases timerAdd_total ht.free_eq (tickAt time) mode timeout cb arg timerID with
    ⟨-, hadd⟩ | ⟨num, -, -, -, hadd⟩
  · rw [hadd]
    exact h
  · have hnonneg : ¬(num : ℤ) < 0 := by omega
    simp only [hadd, if_neg hnonneg, Int.toNat_natCast]
    intro i hi hrun
    by_cases hin : i = num
    · subst hin
      simp [Timer.armAt, Armings.arm]
    · simp only [Timer.armAt, Armings.arm, Function.update_of_ne hin] at hrun ⊢
      exact h i hi hrun

theorem Armings.Match.reload (h : g.Match t) (time i : ℕ) :
    (if (timerReload (tickAt time) i t).1 = errorTimerNone then g.arm i time else g).Match
      (timerReload (tickAt time) i t).2 := by
  rcases timerReload_cases (tickAt time) i t with ⟨-, code, hcode, hreload⟩ | ⟨-, hreload⟩
  · rw [hreload, if_neg hcode]
    exact h
  · rw [hreload, if_pos rfl]
    intro j hj hrun
    by_cases hji : j = i
    · subst hji
      simp [Armings.arm]
    · simp only [Armings.arm, Function.update_of_ne hji] at hrun ⊢
      exact h j hj hrun

theorem Armings.Match.stop (h : g.Match t) (i : ℕ) : g.Match (timerStop i t).2 := by
  rcases timerStop_cases i t with ⟨-, hstop⟩ | ⟨-, hstop⟩
  · rw [hstop]
    exact h
  · rw [hstop]
    intro j hj hrun
    by_cases hji : j = i
    · subst hji
      simp at hrun
    · simp only [Function.update_of_ne hji] at hrun ⊢
      exact h j hj hrun

theorem Armings.Match.del (h : g.Match t) (i : ℕ) : g.Match (timerDel i t).2 := by
  rcases timerDel_cases i t with ⟨-, code, -, hdel⟩ | ⟨-, hdel⟩
  · rw [hdel]
    exact h
  · rw [hdel]
    exact h

end Match

theorem clockedInv_step (s : Timing κ α × Armings) (e : ClockedEvent κ α)
    (s' : Timing κ α × Armings) (h : ClockedInv s)
    (hstep : Runs.tracked clockedStep trackArmings s e = .ok s') : ClockedInv s' := by
  obtain ⟨⟨t, pass⟩, g⟩ := s
  obtain ⟨s', g'⟩ := s'
  obtain ⟨hs', rfl⟩ := Runs.tracked_ok.mp hstep
  have hcons : s'.systime.Consistent := consistent_step h.consistent hs'
  have hmatch : g.Match t := h.armed
  cases e with
  | add time mode timeout cb arg timerID =>
    cases hs'
    have hadd := hmatch.add h.consistent time mode timeout cb arg timerID
    refine ⟨hcons, hadd, fun p hp => ?_⟩
    simp only [trackArmings]
    split
    · split_ifs <;> exact h.sampled p hp
    · exact h.sampled p hp
  | stop timerindex =>
    cases hs'
    exact ⟨hcons, hmatch.stop _, h.sampled⟩
  | del timerindex =>
    cases hs'
    exact ⟨hcons, hmatch.del _, h.sampled⟩
  | reload time timerindex =>
    cases hs'
    have hreload := hmatch.reload time timerindex.toNat
    refine ⟨hcons, hreload, fun p hp => ?_⟩
    simp only [trackArmings]
    split_ifs <;> exact h.sampled p hp
  | check time =>
    cases pass with
    | some p => cases hs'
    | none =>
      cases hs'
      refine ⟨hcons, hmatch, fun p hp => ?_⟩
      cases hp
      rfl
  | turn =>
    rcases pass with _ | ⟨nowtimetick, num, _ | _⟩
    · cases hs'
    · have hnow := h.sampled _ rfl
      simp only [clockedStep, ClockedEvent.timing, timingStep] at hs'
      split_ifs at hs' <;> cases hs'
      · exact ⟨hcons, hmatch, fun p hp => by cases hp; exact hnow⟩
      · exact ⟨hcons, hmatch, fun p hp => by cases hp; exact hnow⟩
      · exact ⟨hcons, hmatch, fun p hp => by cases hp⟩
    · cases hs'
  | returns time =>
    rcases pass with _ | ⟨nowtimetick, num, _ | _⟩
    · cases hs'
    · cases hs'
    · have hnow := h.sampled _ rfl
      cases hs'
      refine ⟨hcons, ?_, fun p hp => ?_⟩
      · simp only [trackArmings]
        by_cases hloop : (t.timerT num).loop = timerModeLoop
        · simp only [hloop, if_true, true_and]
          exact hmatch.reload time num
        · simp only [hloop, if_false, false_and]
          exact (hmatch.stop num).del num
      · cases hp
        simp only [trackArmings]
        split_ifs <;> exact hnow

/-- The turn at a running slot calls its callback exactly when the test of the pass says so. -/
theorem clockedStep_turn {t : Timer κ α} (nowtimetick : UInt32) {num : ℕ}
    (hnum : num < maxTimerNum) (hrun : (t.timerT num).runing = true) :
    ∃ pass, clockedStep ⟨t, some ⟨nowtimetick, num, false⟩⟩ .turn = .ok ⟨t, some pass⟩ ∧
      (some pass = some ⟨nowtimetick, num, true⟩ ↔
        isTimeOut (t.timerT num).prevTick nowtimetick (t.timerT num).timeOut = true) := by
  simp only [clockedStep, ClockedEvent.timing, timingStep, if_pos hnum, hrun, Bool.true_and]
  split_ifs with hdue
  · exact ⟨_, rfl, iff_of_true rfl hdue⟩
  · exact ⟨_, rfl, iff_of_false (by simp) hdue⟩

/-- A turn is one that the property allows exactly when it meets the condition. -/
theorem fires_iff_sampledAfter {s : Timing κ α × Armings} (h : ClockedInv s) {nowtimetick : UInt32}
    {num : ℕ} (hreach : Reaches s.1 s.2 nowtimetick num) :
    ∃ s', Runs.tracked clockedStep trackArmings s .turn = .ok s' ∧
      ((s'.1.pass = some ⟨nowtimetick, num, true⟩ ↔
          ((s.1.systime.timerT num).timeOut.toNat : ℤ) < (s.2.sampled : ℤ) - s.2.armed num) ↔
        s.2.armed num ≤ s.2.sampled ∧
          (s.2.sampled % 2 ^ 32 < s.2.armed num % 2 ^ 32 →
            s.2.sampled ≠ s.2.armed num + (s.1.systime.timerT num).timeOut.toNat + 1)) := by
  obtain ⟨⟨t, pass⟩, g⟩ := s
  obtain ⟨hpass, hnum, hrun, hnear, hshort⟩ := hreach
  cases hpass
  have hprev : (t.timerT num).prevTick = tickAt (g.armed num) := h.armed num hnum hrun
  have hnow : nowtimetick = tickAt g.sampled := h.sampled _ rfl
  obtain ⟨pass', hstep, hcalled⟩ := clockedStep_turn nowtimetick hnum hrun
  refine ⟨(⟨t, some pass'⟩, g), Runs.tracked_ok.mpr ⟨hstep, rfl⟩, ?_⟩
  show (some pass' = some ⟨nowtimetick, num, true⟩ ↔ _) ↔ _
  rw [hcalled, hprev, hnow]
  exact isTimeOut_exact hnear hshort

/-- In every run from `TimerInit`, timers fire exactly when due if and only if every running
timer that a pass reaches is not younger than the sample, and is not exceeded by one tick
across a wrap. -/
theorem fires_when_due_iff [Inhabited κ] [Inhabited α] (es : List (ClockedEvent κ α)) :
    Runs.EachStep (Runs.tracked clockedStep trackArmings) FiresWhenDue
        (timingInit, Armings.zero) es ↔
      Runs.Meets (Runs.tracked clockedStep trackArmings) SampledAfter
        (timingInit, Armings.zero) es := by
  refine Runs.eachStep_iff_meets (J := ClockedInv)
    (fun s e s' h _ hs => clockedInv_step s e s' h hs) ?_ ?_ ?_
  · rintro s e s' h hc hs nowtimetick num rfl hreach
    obtain ⟨s'', hs'', hfires⟩ := fires_iff_sampledAfter h hreach
    obtain rfl := Except.ok.inj (hs''.symm.trans hs)
    exact hfires.mpr (hc nowtimetick num rfl hreach)
  · intro s e h hc
    simp only [SampledAfter, not_forall] at hc
    obtain ⟨nowtimetick, num, rfl, hreach, hc⟩ := hc
    obtain ⟨s', hs', hfires⟩ := fires_iff_sampledAfter h hreach
    exact ⟨s', hs', fun hgood => hc (hfires.mp (hgood nowtimetick num rfl hreach))⟩
  · refine ⟨Timer.Consistent.init, fun i _ hrun => ?_, fun p hp => ?_⟩
    · cases hrun
    · cases hp

/-- The tick is sampled at 5; then the receive callback arms a timer of 100 ticks. -/
def skewedEvents : List (ClockedEvent Callback Arg) :=
  [.check 5, .add 6 timerModeSingle 100 .null .null 0]

/-- The pass runs it at once. -/
theorem fires_before_timeout :
    ¬∀ es : List (ClockedEvent Callback Arg), Runs.EachStep
      (Runs.tracked clockedStep trackArmings) FiresWhenDue (timingInit, Armings.zero) es := by
  intro h
  have hreach : Reaches ⟨(timerAdd 6 timerModeSingle 100 Callback.null Arg.null 0 timerInit).2,
      some ⟨5, 0, false⟩⟩ ⟨Function.update (fun _ => 0) 0 6, 5⟩ 5 0 :=
    ⟨rfl, by decide, rfl, by decide, by decide⟩
  have hlast := h (skewedEvents ++ [.turn]) skewedEvents .turn [] _ _ rfl rfl rfl 5 0 rfl hreach
  have hfired := hlast.mp rfl
  revert hfired
  decide

end MqttSnClient
