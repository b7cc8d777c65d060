import MqttSnClient.Sound

namespace MqttSnClient
open Counting

variable {κ α : Type}

/-- A call of a timer function, with the tick that it reads. -/
inductive TimerOp (κ α : Type)
  | add (tick : UInt32) (mode : UInt8) (timeout : UInt32) (cb : κ) (arg : α) (timerID : UInt8)
  | stop (timerindex : UInt8)
  | del (timerindex : UInt8)
  | reload (tick : UInt32) (timerindex : UInt8)

def TimerOp.apply (s : Timer κ α) : TimerOp κ α → Timer κ α
  | .add tick mode timeout cb arg timerID => (timerAdd tick mode timeout cb arg timerID s).2
  | .stop timerindex => (timerStop timerindex.toNat s).2
  | .del timerindex => (timerDel timerindex.toNat s).2
  | .reload tick timerindex => (timerReload tick timerindex.toNat s).2

/-- Where `TimerCheck` stands: the slot of its loop, and whether the callback of this slot
has been called and has not returned. -/
structure Pass where
  nowtimetick : UInt32
  num : ℕ
  called : Bool

structure Timing (κ α : Type) where
  systime : Timer κ α
  pass : Option Pass

/-- What happens to the table: a call at any time, the start of a pass, the next turn of its
loop up to the call of a callback, or the rest of the turn after the callback returns. -/
inductive TimingEvent (κ α : Type)
  | call (op : TimerOp κ α)
  | check (nowtimetick : UInt32)
  | turn
  | returns (tick : UInt32)

/-- One step; there is none where `TimerCheck` does not stand at this event. -/
def timingStep (s : Timing κ α) : TimingEvent κ α → Except Unit (Timing κ α)
  | .call op => .ok { s with systime := op.apply s.systime }
  | .check nowtimetick =>
    match s.pass with
    | none => .ok { s with pass := some ⟨nowtimetick, 0, false⟩ }
    | some _ => .error ()
  | .turn =>
    match s.pass with
    | some ⟨nowtimetick, num, false⟩ =>
      if num < maxTimerNum then
        let t := s.systime.timerT num
        if t.runing && isTimeOut t.prevTick nowtimetick t.timeOut then
          .ok { s with pass := some ⟨nowtimetick, num, true⟩ }
        else .ok { s with pass := some ⟨nowtimetick, num + 1, false⟩ }
      else .ok { s with pass := none }
    | _ => .error ()
  | .returns tick =>
    match s.pass with
    | some ⟨nowtimetick, num, true⟩ =>
      let systime := if (s.systime.timerT num).loop = timerModeLoop then
        (timerReload tick num s.systime).2 else timerStopDel num s.systime
      .ok { systime := systime, pass := some ⟨nowtimetick, num + 1, false⟩ }
    | _ => .error ()

def timingInit [Inhabited κ] [Inhabited α] : Timing κ α where
  systime := timerInit
  pass := none

/-- The free count is that of the unused slots, and a running slot is in use. -/
structure Timer.Consistent (s : Timer κ α) : Prop where
  free_eq : s.free = Nat.count (s.unused ·) maxTimerNum
  runing_used : ∀ i < maxTimerNum, (s.timerT i).runing = true → s.unused i = false

/-- Besides, `TimerAdd` fails exactly when all slots are in use, and otherwise takes an
unused slot, whose index it returns, and leaves the others alone. -/
structure Timer.Allocates (s : Timer κ α) : Prop extends s.Consistent where
  empty_iff : ∀ tick mode timeout cb arg timerID,
    (timerAdd tick mode timeout cb arg timerID s).1 = some errorTimerAddEmpty ↔
      ∀ i < maxTimerNum, s.unused i = false
  takes : ∀ tick mode timeout cb arg timerID, (∃ i < maxTimerNum, s.unused i = true) →
    ∃ num < maxTimerNum, s.unused num = true ∧
      (timerAdd tick mode timeout cb arg timerID s).1 = some (num : ℤ) ∧
      (timerAdd tick mode timeout cb arg timerID s).2.unused num = false ∧
      (timerAdd tick mode timeout cb arg timerID s).2.timerT num =
        { loop := mode, timeOut := timeout, prevTick := tick, runing := true
          timerCallback := cb, arg := arg, timerID := timerID } ∧
      ∀ j ≠ num, (timerAdd tick mode timeout cb arg timerID s).2.unused j = s.unused j ∧
        (timerAdd tick mode timeout cb arg timerID s).2.timerT j = s.timerT j

namespace Timer.Consistent

variable {s : Timer κ α}

theorem allocates (h : s.Consistent) : s.Allocates := by
  refine { h with empty_iff := ?_, takes := ?_ }
  · intro tick mode timeout cb arg timerID
    rcases timerAdd_total h.free_eq tick mode timeout cb arg timerID with
      ⟨hzero, hadd⟩ | ⟨num, hnum, hu, -, hadd⟩
    · rw [h.free_eq, count_eq_zero] at hzero
      rw [hadd]
      exact iff_of_true rfl hzero
    · rw [hadd]
      refine iff_of_false ?_ fun hall => ?_
      · simp only [errorTimerAddEmpty, Option.some.injEq]
        omega
      · rw [hall num hnum] at hu
        cases hu
  · rintro tick mode timeout cb arg timerID ⟨i, hi, hfree⟩
    rcases timerAdd_total h.free_eq tick mode timeout cb arg timerID with
      ⟨hzero, -⟩ | ⟨num, hnum, hu, -, hadd⟩
    · rw [h.free_eq, count_eq_zero] at hzero
      rw [hzero i hi] at hfree
      cases hfree
    · rw [hadd]
      refine ⟨num, hnum, hu, rfl, ?_, ?_, fun j hj => ⟨?_, ?_⟩⟩
      · exact Function.update_self _ _ _
      · exact Function.update_self _ _ _
      · exact Function.update_of_ne hj _ _
      · exact Function.update_of_ne hj _ _

theorem add (h : s.Consistent) (tick : UInt32) (mode : UInt8) (timeout : UInt32) (cb : κ)
    (arg : α) (timerID : UInt8) :
    (timerAdd tick mode timeout cb arg timerID s).2.Consistent := by
  rcases timerAdd_total h.free_eq tick mode timeout cb arg timerID with
    ⟨-, hadd⟩ | ⟨num, hnum, hu, -, hadd⟩
  · rw [hadd]
    exact h
  · rw [hadd]
    refine ⟨?_, fun j hj hrun => ?_⟩
    · have hcount := count_update s.unused false hnum
      have hfree := h.free_eq
      simp only [hu, Bool.toNat_false, Bool.toNat_true] at hcount
      show s.free - 1 = Nat.count (Function.update s.unused num false ·) maxTimerNum
      omega
    · by_cases hjn : j = num
      · subst hjn
        exact Function.update_self _ _ _
      · simp only [Timer.armAt, Function.update_of_ne hjn] at hrun ⊢
        exact h.runing_used j hj hrun

theorem stop (h : s.Consistent) (i : ℕ) : (timerStop i s).2.Consistent := by
  rcases timerStop_cases i s with ⟨-, hstop⟩ | ⟨-, hstop⟩
  · rw [hstop]
    exact h
  · rw [hstop]
    refine ⟨h.free_eq, fun j hj hrun => ?_⟩
    by_cases hji : j = i
    · subst hji
      simp at hrun
    · simp only [Function.update_of_ne hji] at hrun
      exact h.runing_used j hj hrun

theorem del (h : s.Consistent) (i : ℕ) : (timerDel i s).2.Consistent := by
  rcases timerDel_cases i s with ⟨-, code, -, hdel⟩ | ⟨⟨hi, -, hu, hrun⟩, hdel⟩
  · rw [hdel]
    exact h
  -- the slot was stopped before
  · rw [hdel]
    refine ⟨?_, fun j hj hrunj => ?_⟩
    · have hcount := count_update s.unused true hi
      have hfree := h.free_eq
      simp only [hu, Bool.toNat_false, Bool.toNat_true] at hcount
      show s.free + 1 = Nat.count (Function.update s.unused i true ·) maxTimerNum
      omega
    · have hji : j ≠ i := by
        rintro rfl
        have hrunj : (s.timerT j).runing = true := hrunj
        rw [hrun] at hrunj
        cases hrunj
      show Function.update s.unused i true j = false
      rw [Function.update_of_ne hji]
      exact h.runing_used j hj hrunj

theorem reload (h : s.Consistent) (tick : UInt32) (i : ℕ) :
    (timerReload tick i s).2.Consistent := by
  rcases timerReload_cases tick i s with ⟨-, code, -, hreload⟩ | ⟨⟨-, hirun, -⟩, hreload⟩
  · rw [hreload]
    exact h
  · rw [hreload]
    refine ⟨h.free_eq, fun j hj hrun => ?_⟩
    by_cases hji : j = i
    · subst hji
      exact h.runing_used j hj hirun
    · simp only [Function.update_of_ne hji] at hrun
      exact h.runing_used j hj hrun

theorem stopDel (h : s.Consistent) (i : ℕ) : (timerStopDel i s).Consistent := (h.stop i).del i

theorem apply (h : s.Consistent) (op : TimerOp κ α) : (op.apply s).Consistent := by
  cases op with
  | add tick mode timeout cb arg timerID => exact h.add tick mode timeout cb arg timerID
  | stop timerindex => exact h.stop _
  | del timerindex => exact h.del _
  | reload tick timerindex => exact h.reload tick _

theorem init [Inhabited κ] [Inhabited α] : (timerInit : Timer κ α).Consistent := by
  refine ⟨rfl, fun i _ hrun => ?_⟩
  cases hrun

end Timer.Consistent

/-- Whatever calls come at whichever point of a pass, the table stays consistent. -/
theorem consistent_step {s s' : Timing κ α} {e : TimingEvent κ α} (h : s.systime.Consistent)
    (hstep : timingStep s e = .ok s') : s'.systime.Consistent := by
  obtain ⟨systime, pass⟩ := s
  cases e with
  | call op =>
    cases hstep
    exact h.apply op
  | check nowtimetick =>
    cases pass with
    | none =>
      cases hstep
      exact h
    | some p => cases hstep
  | turn =>
    match pass with
    | none => cases hstep
    | some ⟨nowtimetick, num, true⟩ => cases hstep
    | some ⟨nowtimetick, num, false⟩ =>
      simp only [timingStep] at hstep
      split_ifs at hstep <;> cases hstep <;> exact h
  | returns tick =>
    match pass with
    | none => cases hstep
    | some ⟨nowtimetick, num, false⟩ => cases hstep
    | some ⟨nowtimetick, num, true⟩ =>
      cases hstep
      show (if _ then _ else _ : Timer κ α).Consistent
      split_ifs
      · exact h.reload tick num
      · exact h.stopDel num

/-- In every state of every run from `TimerInit`, also inside a callback, the three views of
the table agree and `TimerAdd` is a total allocation. -/
theorem timers_allocate [Inhabited κ] [Inhabited α] (es : List (TimingEvent κ α)) :
    Runs.Always timingStep (fun s => s.systime.Allocates) timingInit es := by
  refine Runs.always_of_meets (J := fun s => s.systime.Consistent)
    (fun s h => h.allocates) (fun s e s' h _ hstep => consistent_step h hstep)
    Timer.Consistent.init (Runs.meets_of_forall (C := fun _ _ => True) ?_ _ _)
  exact fun _ _ => trivial

/-- What a callback does to the table is a list of calls. -/
theorem TimerActs.calls {P : SwTimer κ α → Prop} {C : UInt8 → Prop} {s t : Timer κ α}
    (h : TimerActs P C s t) : ∃ ops : List (TimerOp κ α), ops.foldl TimerOp.apply s = t := by
  have hindex : ∀ {timerID : UInt8} {t : Timer κ α}, findTimerIndexbyID timerID t ≠ 0xFF →
      (UInt8.ofNat (findTimerIndexbyID timerID t)).toNat = findTimerIndexbyID timerID t := by
    intro timerID t hne
    have hlt := (findTimerIndexbyID_lt hne).1
    simp only [maxTimerNum] at hlt
    rw [UInt8.toNat_ofNat']
    omega
  induction h with
  | refl => exact ⟨[], rfl⟩
  | add tick mode timeout cb arg timerID _ _ ih =>
    obtain ⟨ops, hops⟩ := ih
    refine ⟨ops ++ [.add tick mode timeout cb arg timerID], ?_⟩
    rw [List.foldl_append, hops]
    rfl
  | @cancel t timerID _ _ ih =>
    obtain ⟨ops, hops⟩ := ih
    simp only [timerCancelByID]
    split_ifs with hne
    · refine ⟨ops ++ [.stop (UInt8.ofNat (findTimerIndexbyID timerID t)),
        .del (UInt8.ofNat (findTimerIndexbyID timerID t))], ?_⟩
      rw [List.foldl_append, hops]
      simp only [List.foldl_cons, List.foldl_nil, TimerOp.apply, hindex hne]
      rfl
    · exact ⟨ops, hops⟩
  | @reload t tick timerID _ ih =>
    obtain ⟨ops, hops⟩ := ih
    simp only [timerReloadByID]
    split_ifs with hne
    · refine ⟨ops ++ [.reload tick (UInt8.ofNat (findTimerIndexbyID timerID t))], ?_⟩
      rw [List.foldl_append, hops]
      simp only [List.foldl_cons, List.foldl_nil, TimerOp.apply, hindex hne]
    · exact ⟨ops, hops⟩

theorem run_calls (ops : List (TimerOp κ α)) (s : Timer κ α) (pass : Option Pass)
    (es : List (TimingEvent κ α)) :
    Runs.run timingStep ⟨s, pass⟩ (ops.map .call ++ es) =
      Runs.run timingStep ⟨ops.foldl TimerOp.apply s, pass⟩ es := by
  induction ops generalizing s with
  | nil => rfl
  | cons op ops ih => exact ih (op.apply s)

/-- A visit of the client's `TimerCheck` to a slot is a turn of the pass, with the calls of
the callback, and its return, if the timer is due. -/
theorem timerVisit_timing {topics : Topics} {num : ℕ} {now : UInt32} {env : Env} {w w' : World}
    (hnum : num < maxTimerNum) (h : timerVisit topics num now env w = .ok w') :
    ∃ es : List (TimingEvent Callback Arg),
      Runs.run timingStep ⟨w.systime, some ⟨now, num, false⟩⟩ (.turn :: es) =
        .ok ⟨w'.systime, some ⟨now, num + 1, false⟩⟩ := by
  unfold timerVisit at h
  by_cases hdue : timerDue num now w = true
  · rw [if_pos hdue] at h
    obtain ⟨u, hu, h⟩ := Runs.bind_ok.mp h
    have hacts := (runCallback_acts hu).timers
    rw [fetched_systime] at hacts
    obtain ⟨ops, hops⟩ := hacts.calls
    have hturn : timingStep ⟨w.systime, some ⟨now, num, false⟩⟩ TimingEvent.turn =
        .ok ⟨w.systime, some ⟨now, num, true⟩⟩ := by
      simp only [timingStep, if_pos hnum]
      exact if_pos hdue
    refine ⟨ops.map .call ++ [.returns env.reload], ?_⟩
    rw [Runs.run, hturn]
    simp only []
    rw [run_calls, hops]
    simp only [Runs.run, timingStep]
    split_ifs at h ⊢ <;> cases h <;> rfl
  · rw [if_neg hdue] at h
    cases h
    have hturn : timingStep ⟨w.systime, some ⟨now, num, false⟩⟩ TimingEvent.turn =
        .ok ⟨w.systime, some ⟨now, num + 1, false⟩⟩ := by
      simp only [timingStep, if_pos hnum]
      exact if_neg hdue
    refine ⟨[], ?_⟩
    rw [Runs.run, hturn]
    rfl

/-- The search returns a slot that is in use and has the ID if there is one, and 0xFF if
there is none; so stopping and deleting the result cancels a timer of this ID. -/
structure Timer.FindsLive (s : Timer κ α) (timerID : UInt8) : Prop where
  finds : (∃ i < maxTimerNum, s.unused i = false ∧ (s.timerT i).timerID = timerID) →
    findTimerIndexbyID timerID s < maxTimerNum ∧
      s.unused (findTimerIndexbyID timerID s) = false ∧
      (s.timerT (findTimerIndexbyID timerID s)).timerID = timerID
  absent : (¬∃ i < maxTimerNum, s.unused i = false ∧ (s.timerT i).timerID = timerID) →
    findTimerIndexbyID timerID s = 0xFF
  cancels : (∃ i < maxTimerNum, s.unused i = false ∧ (s.timerT i).timerID = timerID) →
    ∃ i < maxTimerNum, s.unused i = false ∧ (s.timerT i).timerID = timerID ∧
      (timerCancelByID timerID s).unused i = true

/-- A slot that is not in use and still carries the ID stands behind one that is in use. -/
def Timer.StaleBehind (s : Timer κ α) (timerID : UInt8) : Prop :=
  ∀ i < maxTimerNum, s.unused i = true → (s.timerT i).timerID = timerID →
    ∃ j < i, s.unused j = false ∧ (s.timerT j).timerID = timerID

/-- The search returns the lowest slot that carries the ID. -/
theorem findTimerIndexbyID_cases (s : Timer κ α) (timerID : UInt8) :
    (findTimerIndexbyID timerID s = 0xFF ∧ ∀ i < maxTimerNum, (s.timerT i).timerID ≠ timerID) ∨
      findTimerIndexbyID timerID s < maxTimerNum ∧
        (s.timerT (findTimerIndexbyID timerID s)).timerID = timerID ∧
        ∀ j < findTimerIndexbyID timerID s, (s.timerT j).timerID ≠ timerID := by
  unfold findTimerIndexbyID
  cases hfind : (List.range maxTimerNum).find? fun num => (s.timerT num).timerID = timerID with
  | none =>
    refine Or.inl ⟨rfl, fun i hi => ?_⟩
    simpa using List.find?_eq_none.mp hfind i (List.mem_range.mpr hi)
  | some num =>
    obtain ⟨hid, hmem, hlow⟩ := List.find?_range_eq_some.mp hfind
    refine Or.inr ⟨List.mem_range.mp hmem, by simpa using hid, fun j hj => ?_⟩
    simpa using hlow j hj

theorem Timer.Consistent.free_lt {s : Timer κ α} (h : s.Consistent) {i : ℕ}
    (hi : i < maxTimerNum) (hu : s.unused i = false) : s.free < maxTimerNum := by
  have hcount := count_update s.unused true hi
  have hle := Nat.count_le (Function.update s.unused i true ·) (n := maxTimerNum)
  have hfree := h.free_eq
  simp only [hu, Bool.toNat_false, Bool.toNat_true] at hcount
  omega

/-- Stopping and deleting a slot in use gives it back, and leaves the other slots alone. -/
theorem Timer.Consistent.stopDel_frees {s : Timer κ α} (h : s.Consistent) {i : ℕ}
    (hi : i < maxTimerNum) (hu : s.unused i = false) :
    (timerStopDel i s).unused = Function.update s.unused i true ∧
      ∀ j, j ≠ i → (timerStopDel i s).timerT j = s.timerT j := by
  have hfree := h.free_lt hi hu
  unfold timerStopDel
  rcases timerStop_cases i s with ⟨hno, hstop⟩ | ⟨-, hstop⟩
  · have hoff : (s.timerT i).runing = false := by
      by_contra hrun
      rw [Bool.not_eq_false] at hrun
      exact hno ⟨hi, hrun, hu⟩
    rw [hstop]
    rcases timerDel_cases i s with ⟨hno, -⟩ | ⟨-, hdel⟩
    · exact absurd ⟨hi, hfree, hu, hoff⟩ hno
    · rw [hdel]
      exact ⟨rfl, fun _ _ => rfl⟩
  · rw [hstop]
    dsimp only
    rcases timerDel_cases i { s with
      timerT := Function.update s.timerT i { s.timerT i with runing := false } } with
        ⟨hno, -⟩ | ⟨-, hdel⟩
    · refine absurd ⟨hi, hfree, hu, ?_⟩ hno
      simp
    · rw [hdel]
      exact ⟨rfl, fun j hj => Function.update_of_ne hj _ _⟩

theorem Timer.Consistent.findsLive_iff {s : Timer κ α} (h : s.Consistent) (timerID : UInt8) :
    s.FindsLive timerID ↔ s.StaleBehind timerID := by
  constructor
  · intro hfind i hi hu hid
    rcases findTimerIndexbyID_cases s timerID with ⟨-, hnone⟩ | ⟨hlt, hfid, hlow⟩
    · exact absurd hid (hnone i hi)
    · have hex : ∃ i < maxTimerNum, s.unused i = false ∧ (s.timerT i).timerID = timerID := by
        by_contra hno
        rw [hfind.absent hno] at hlt
        exact absurd hlt (by decide)
      obtain ⟨-, hused, -⟩ := hfind.finds hex
      refine ⟨findTimerIndexbyID timerID s, ?_, hused, hfid⟩
      rcases Nat.lt_trichotomy (findTimerIndexbyID timerID s) i with hlt | heq | hgt
      · exact hlt
      · rw [heq, hu] at hused
        cases hused
      · exact absurd hid (hlow i hgt)
  · intro hstale
    rcases findTimerIndexbyID_cases s timerID with ⟨hff, hnone⟩ | ⟨hlt, hfid, hlow⟩
    · refine ⟨fun hex => ?_, fun _ => hff, fun hex => ?_⟩
      · obtain ⟨i, hi, -, hid⟩ := hex
        exact absurd hid (hnone i hi)
      · obtain ⟨i, hi, -, hid⟩ := hex
        exact absurd hid (hnone i hi)
    -- the lowest slot with the ID is in use, or a lower one would be
    · have hused : s.unused (findTimerIndexbyID timerID s) = false := by
        by_contra hu
        obtain ⟨j, hj, -, hjid⟩ := hstale _ hlt (by simpa using hu) hfid
        exact hlow j hj hjid
      refine ⟨fun _ => ⟨hlt, hused, hfid⟩, fun hno => absurd ⟨_, hlt, hused, hfid⟩ hno,
        fun _ => ⟨_, hlt, hused, hfid, ?_⟩⟩
      have hne : findTimerIndexbyID timerID s ≠ 0xFF := by
        intro hff
        rw [hff] at hlt
        exact absurd hlt (by decide)
      simp only [timerCancelByID, if_pos hne, (h.stopDel_frees hlt hused).1]
      exact Function.update_self _ _ _

/-- In every state of every run from `TimerInit` and for every ID, the search finds live
timers only exactly where no stale slot of this ID stands before them. -/
theorem lookup_finds_live_iff [Inhabited κ] [Inhabited α] (es : List (TimingEvent κ α)) :
    Runs.Always timingStep (fun s => ∀ timerID, s.systime.FindsLive timerID ↔
      s.systime.StaleBehind timerID) timingInit es := by
  refine Runs.always_of_meets (J := fun s => s.systime.Consistent)
    (fun s h timerID => h.findsLive_iff timerID)
    (fun s e s' h _ hstep => consistent_step h hstep)
    Timer.Consistent.init (Runs.meets_of_forall (C := fun _ _ => True) ?_ _ _)
  exact fun _ _ => trivial

def deletedEvents : List (TimingEvent Callback Arg) :=
  [.call (.add 0 timerModeSingle 10000 .sendRegisterCb .client timerIdOfRegister),
    .call (.stop 0), .call (.del 0)]

/-- Its slot is found all the same. -/
theorem lookup_finds_deleted :
    ¬∀ es : List (TimingEvent Callback Arg), Runs.Always timingStep
      (fun s => ∀ timerID, s.systime.FindsLive timerID) timingInit es := by
  intro h
  have hlast := h deletedEvents deletedEvents [] _ rfl rfl timerIdOfRegister
  have habsent := hlast.absent (by decide)
  exact absurd habsent (by decide)

end MqttSnClient
