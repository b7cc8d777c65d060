import MqttSnClient.Lib.Counting

namespace MqttSnClient

def maxTimerNum : ℕ := 10
def timerModeLoop : UInt8 := 1
def timerModeSingle : UInt8 := 0
def errorTimerNone : ℤ := 0
def errorTimerAddEmpty : ℤ := -1
def errorTimerDelEmpty : ℤ := -2
def errorTimerDelRuning : ℤ := -3
def errorTimerUnused : ℤ := -4
def errorTimerIndex : ℤ := -5

/-- `SW_TIMER_T`. -/
structure SwTimer (κ α : Type) where
  loop : UInt8
  runing : Bool
  prevTick : UInt32
  timeOut : UInt32
  timerID : UInt8
  arg : α
  timerCallback : κ

/-- `TIMER`. -/
structure Timer (κ α : Type) where
  free : ℕ
  unused : ℕ → Bool
  timerT : ℕ → SwTimer κ α

variable {κ α : Type}

/-- The macro `_TIME_SUB_ABS`. -/
def timeSubAbs (prevTimeTick nowTimeTick : UInt32) : UInt32 :=
  if nowTimeTick ≥ prevTimeTick then nowTimeTick - prevTimeTick
  else 0xFFFFFFFF - prevTimeTick + nowTimeTick

/-- The macro `_IS_TIME_OUT`. -/
def isTimeOut (prevTimeTick nowTimeTick timeOut : UInt32) : Bool :=
  timeSubAbs prevTimeTick nowTimeTick > timeOut

def timerInit [Inhabited κ] [Inhabited α] : Timer κ α where
  free := maxTimerNum
  unused := fun _ => true
  timerT := fun _ =>
    { loop := 0, runing := false, prevTick := 0, timeOut := 0, timerID := 0
      arg := default, timerCallback := default }

namespace Timer

/-- A timer put into the slot `num`. -/
def armAt (s : Timer κ α) (num : ℕ) (t : SwTimer κ α) : Timer κ α where
  free := s.free - 1
  unused := Function.update s.unused num false
  timerT := Function.update s.timerT num t

end Timer

/-- `TimerAdd`; `tick` is what `xTaskGetTickCount` returns. There is no result
where the loop ends without finding a slot, since the function has no `return` there. -/
def timerAdd (tick : UInt32) (mode : UInt8) (timeout : UInt32) (cb : κ) (arg : α)
    (timerID : UInt8) (s : Timer κ α) : Option ℤ × Timer κ α :=
  if s.free ≤ 0 then (some errorTimerAddEmpty, s) else
  match (List.range maxTimerNum).find? s.unused with
  | some num =>
    (some num, s.armAt num
      { loop := mode, timeOut := timeout, prevTick := tick, runing := true
        timerCallback := cb, arg := arg, timerID := timerID })
  | none => (none, s)

/-- `FindTimerIndexbyID`: the slots that are not in use are searched as well. -/
def findTimerIndexbyID (timerID : UInt8) (s : Timer κ α) : ℕ :=
  ((List.range maxTimerNum).find? fun num => (s.timerT num).timerID = timerID).getD 0xFF

/-- `TimerDel`. -/
def timerDel (timerindex : ℕ) (s : Timer κ α) : ℤ × Timer κ α :=
  if timerindex ≥ maxTimerNum then (errorTimerIndex, s)
  else if s.free ≥ maxTimerNum then (errorTimerDelEmpty, s)
  else if s.unused timerindex then (errorTimerDelEmpty, s)
  else if (s.timerT timerindex).runing then (errorTimerDelRuning, s)
  else (errorTimerNone,
    { s with unused := Function.update s.unused timerindex true, free := s.free + 1 })

/-- `TimerReload`. -/
def timerReload (tick : UInt32) (timerindex : ℕ) (s : Timer κ α) : ℤ × Timer κ α :=
  if timerindex ≥ maxTimerNum then (errorTimerIndex, s)
  else if ¬(s.timerT timerindex).runing then (errorTimerUnused, s)
  else if s.unused timerindex then (errorTimerUnused, s)
  else
    let t := { s.timerT timerindex with prevTick := tick }
    (errorTimerNone, { s with timerT := Function.update s.timerT timerindex t })

/-- `TimerStop`. -/
def timerStop (timerindex : ℕ) (s : Timer κ α) : ℤ × Timer κ α :=
  if timerindex ≥ maxTimerNum then (errorTimerIndex, s)
  else if ¬(s.timerT timerindex).runing then (errorTimerNone, s)
  else if s.unused timerindex then (errorTimerUnused, s)
  else
    let t := { s.timerT timerindex with runing := false }
    (errorTimerNone, { s with timerT := Function.update s.timerT timerindex t })

/-- `TimerStop` and `TimerDel` of one slot, which always come together. -/
def timerStopDel (timerindex : ℕ) (s : Timer κ α) : Timer κ α :=
  (timerDel timerindex (timerStop timerindex s).2).2

/-- What the handlers do to cancel a timer by its ID. -/
def timerCancelByID (timerID : UInt8) (s : Timer κ α) : Timer κ α :=
  let deltimeIndex := findTimerIndexbyID timerID s
  if deltimeIndex ≠ 0xFF then timerStopDel deltimeIndex s else s

def timerReloadByID (tick : UInt32) (timerID : UInt8) (s : Timer κ α) : Timer κ α :=
  let reloadtimeIndex := findTimerIndexbyID timerID s
  if reloadtimeIndex ≠ 0xFF then (timerReload tick reloadtimeIndex s).2 else s

/-- `TimerReload` refuses a slot or gives it a new tick. -/
theorem timerReload_cases (tick : UInt32) (i : ℕ) (s : Timer κ α) :
    (¬(i < maxTimerNum ∧ (s.timerT i).runing = true ∧ s.unused i = false) ∧
        ∃ code, code ≠ errorTimerNone ∧ timerReload tick i s = (code, s)) ∨
      (i < maxTimerNum ∧ (s.timerT i).runing = true ∧ s.unused i = false) ∧
        timerReload tick i s = (errorTimerNone,
          { s with timerT := Function.update s.timerT i { s.timerT i with prevTick := tick } }) := by
  have hunused : errorTimerUnused ≠ errorTimerNone := by decide
  have hindex : errorTimerIndex ≠ errorTimerNone := by decide
  by_cases hi : i < maxTimerNum
  · cases hrun : (s.timerT i).runing with
    | false =>
      exact Or.inl ⟨by simp, _, hunused, by simp [timerReload, Nat.not_le.mpr hi, hrun]⟩
    | true =>
      cases hu : s.unused i with
      | true =>
        exact Or.inl ⟨by simp, _, hunused, by simp [timerReload, Nat.not_le.mpr hi, hrun, hu]⟩
      | false =>
        exact Or.inr ⟨⟨hi, rfl, rfl⟩, by simp [timerReload, Nat.not_le.mpr hi, hrun, hu]⟩
  · exact Or.inl ⟨fun h => hi h.1, _, hindex, if_pos (Nat.not_lt.mp hi)⟩

/-- `TimerStop` stops a slot that is running and in use, and leaves any other as it is. -/
theorem timerStop_cases (i : ℕ) (s : Timer κ α) :
    (¬(i < maxTimerNum ∧ (s.timerT i).runing = true ∧ s.unused i = false) ∧
        (timerStop i s).2 = s) ∨
      (i < maxTimerNum ∧ (s.timerT i).runing = true ∧ s.unused i = false) ∧
        timerStop i s = (errorTimerNone,
          { s with timerT := Function.update s.timerT i { s.timerT i with runing := false } }) := by
  by_cases hi : i < maxTimerNum
  · cases hrun : (s.timerT i).runing with
    | false => exact Or.inl ⟨by simp, by simp [timerStop, Nat.not_le.mpr hi, hrun]⟩
    | true =>
      cases hu : s.unused i with
      | true => exact Or.inl ⟨by simp, by simp [timerStop, Nat.not_le.mpr hi, hrun, hu]⟩
      | false =>
        exact Or.inr ⟨⟨hi, rfl, rfl⟩, by simp [timerStop, Nat.not_le.mpr hi, hrun, hu]⟩
  · refine Or.inl ⟨fun h => hi h.1, ?_⟩
    rw [timerStop, if_pos (Nat.not_lt.mp hi)]

/-- `TimerDel` refuses a slot or gives it back. -/
theorem timerDel_cases (i : ℕ) (s : Timer κ α) :
    (¬(i < maxTimerNum ∧ s.free < maxTimerNum ∧ s.unused i = false ∧
          (s.timerT i).runing = false) ∧
        ∃ code, code ≠ errorTimerNone ∧ timerDel i s = (code, s)) ∨
      (i < maxTimerNum ∧ s.free < maxTimerNum ∧ s.unused i = false ∧
          (s.timerT i).runing = false) ∧
        timerDel i s = (errorTimerNone,
          { s with unused := Function.update s.unused i true, free := s.free + 1 }) := by
  have hempty : errorTimerDelEmpty ≠ errorTimerNone := by decide
  have hruning : errorTimerDelRuning ≠ errorTimerNone := by decide
  have hindex : errorTimerIndex ≠ errorTimerNone := by decide
  by_cases hi : i < maxTimerNum
  · by_cases hfree : s.free < maxTimerNum
    · cases hu : s.unused i with
      | true => exact Or.inl ⟨by simp, _, hempty,
          by simp [timerDel, Nat.not_le.mpr hi, Nat.not_le.mpr hfree, hu]⟩
      | false =>
        cases hrun : (s.timerT i).runing with
        | true => exact Or.inl ⟨by simp, _, hruning,
            by simp [timerDel, Nat.not_le.mpr hi, Nat.not_le.mpr hfree, hu, hrun]⟩
        | false => exact Or.inr ⟨⟨hi, hfree, rfl, rfl⟩,
            by simp [timerDel, Nat.not_le.mpr hi, Nat.not_le.mpr hfree, hu, hrun]⟩
    · exact Or.inl ⟨fun h => hfree h.2.1, _, hempty,
        by simp [timerDel, Nat.not_le.mpr hi, Nat.not_lt.mp hfree]⟩
  · exact Or.inl ⟨fun h => hi h.1, _, hindex, if_pos (Nat.not_lt.mp hi)⟩

namespace Timer

/-- The live timer of a slot, if there is one. -/
def slot (s : Timer κ α) (i : ℕ) : Option (SwTimer κ α) :=
  if i < maxTimerNum ∧ s.unused i = false then some (s.timerT i) else none

/-- The free count is right, and the slots in use are exactly those that run. -/
structure Wf (s : Timer κ α) : Prop where
  free_eq : s.free = Nat.count (s.unused ·) maxTimerNum
  runing_eq : ∀ i < maxTimerNum, (s.timerT i).runing = !s.unused i

theorem slot_eq_some {s : Timer κ α} {i : ℕ} {t : SwTimer κ α} :
    s.slot i = some t ↔ i < maxTimerNum ∧ s.unused i = false ∧ s.timerT i = t := by
  unfold slot
  split_ifs with h
  · simp [h.1, h.2]
  · simp only [false_iff]
    exact fun hi => h ⟨hi.1, hi.2.1⟩

theorem slot_eq_none {s : Timer κ α} {i : ℕ} :
    s.slot i = none ↔ (i < maxTimerNum → s.unused i = true) := by
  unfold slot
  split_ifs with h
  · simp [h.1, h.2]
  · simp only [true_iff]
    intro hi
    by_contra hu
    exact h ⟨hi, by simpa using hu⟩

theorem Wf.slot_runing {s : Timer κ α} (hs : s.Wf) {i : ℕ} (hi : i < maxTimerNum) :
    (s.timerT i).runing = true ↔ s.slot i = some (s.timerT i) := by
  rw [hs.runing_eq i hi, slot_eq_some]
  simp [hi]

theorem Wf.free_pos {s : Timer κ α} (hs : s.Wf) {i : ℕ} (hi : i < maxTimerNum)
    (hu : s.unused i = true) : 0 < s.free := by
  rw [hs.free_eq]
  exact Counting.count_pos hi hu

theorem Wf.free_lt {s : Timer κ α} (hs : s.Wf) {i : ℕ} (hi : i < maxTimerNum)
    (hu : s.unused i = false) : s.free < maxTimerNum := by
  have h := Counting.count_update s.unused true hi
  have hle := Nat.count_le (Function.update s.unused i true ·) (n := maxTimerNum)
  have hf : s.free = Nat.count (s.unused ·) maxTimerNum := hs.free_eq
  simp only [hu, Bool.toNat_false, Bool.toNat_true] at h
  omega

theorem Wf.unused_iff {s : Timer κ α} (hs : s.Wf) :
    s.free = 0 ↔ ∀ i < maxTimerNum, s.unused i = false := by
  constructor
  · intro h i hi
    by_contra hu
    have := hs.free_pos hi (by simpa using hu)
    omega
  · intro h
    rw [hs.free_eq]
    exact Counting.count_eq_zero.mpr h

theorem Wf.armAt {s : Timer κ α} (hs : s.Wf) {num : ℕ} {t : SwTimer κ α}
    (hnum : num < maxTimerNum) (hu : s.unused num = true) (ht : t.runing = true) :
    (s.armAt num t).Wf := by
  constructor
  · have h := Counting.count_update s.unused false hnum
    have hf : s.free = Nat.count (s.unused ·) maxTimerNum := hs.free_eq
    simp only [hu, Bool.toNat_false, Bool.toNat_true] at h
    change s.free - 1 = Nat.count (Function.update s.unused num false ·) maxTimerNum
    omega
  · intro i hi
    by_cases h : i = num
    · subst h
      simp [Timer.armAt, ht]
    · simp [Timer.armAt, h, hs.runing_eq i hi]

theorem slot_armAt (s : Timer κ α) {num : ℕ} (t : SwTimer κ α) (hnum : num < maxTimerNum) :
    (s.armAt num t).slot = Function.update s.slot num (some t) := by
  funext i
  by_cases h : i = num
  · subst h
    simp [slot, Timer.armAt, hnum]
  · simp [slot, Timer.armAt, h]

def freeAt (s : Timer κ α) (i : ℕ) : Timer κ α where
  free := s.free + 1
  unused := Function.update s.unused i true
  timerT := Function.update s.timerT i { s.timerT i with runing := false }

theorem Wf.freeAt {s : Timer κ α} (hs : s.Wf) {i : ℕ} (hi : i < maxTimerNum)
    (hu : s.unused i = false) : (s.freeAt i).Wf := by
  constructor
  · have h := Counting.count_update s.unused true hi
    have hf : s.free = Nat.count (s.unused ·) maxTimerNum := hs.free_eq
    simp only [hu, Bool.toNat_false, Bool.toNat_true] at h
    change s.free + 1 = Nat.count (Function.update s.unused i true ·) maxTimerNum
    omega
  · intro j hj
    by_cases h : j = i
    · subst h
      simp [Timer.freeAt]
    · simp [Timer.freeAt, h, hs.runing_eq j hj]

theorem slot_freeAt (s : Timer κ α) (i : ℕ) :
    (s.freeAt i).slot = Function.update s.slot i none := by
  funext j
  by_cases h : j = i
  · subst h
    simp [slot, Timer.freeAt]
  · simp [slot, Timer.freeAt, h]

end Timer

/-- `TimerAdd` takes the lowest free slot, or none when the table is full, as long as the
free count is right. -/
theorem timerAdd_total {s : Timer κ α} (hfree : s.free = Nat.count (s.unused ·) maxTimerNum)
    (tick : UInt32) (mode : UInt8) (timeout : UInt32) (cb : κ) (arg : α) (timerID : UInt8) :
    (s.free = 0 ∧ timerAdd tick mode timeout cb arg timerID s = (some errorTimerAddEmpty, s)) ∨
      ∃ num < maxTimerNum, s.unused num = true ∧ (∀ j < num, s.unused j = false) ∧
        timerAdd tick mode timeout cb arg timerID s = (some (num : ℤ), s.armAt num
          { loop := mode, timeOut := timeout, prevTick := tick, runing := true
            timerCallback := cb, arg := arg, timerID := timerID }) := by
  by_cases hzero : s.free = 0
  · exact Or.inl ⟨hzero, by simp [timerAdd, hzero]⟩
  · right
    cases hfind : (List.range maxTimerNum).find? s.unused with
    | none =>
      exfalso
      rw [hfree, Counting.count_eq_zero] at hzero
      refine hzero fun i hi => ?_
      simpa using List.find?_eq_none.mp hfind i (List.mem_range.mpr hi)
    | some num =>
      obtain ⟨hu, hlow⟩ := List.find?_range_eq_some.mp hfind
      refine ⟨num, List.mem_range.mp hlow.1, hu, fun j hj => by simpa using hlow.2 j hj, ?_⟩
      simp [timerAdd, hzero, hfind]

theorem timerAdd_spec {s : Timer κ α} (hs : s.Wf) (tick : UInt32) (mode : UInt8)
    (timeout : UInt32) (cb : κ) (arg : α) (timerID : UInt8) :
    (s.free = 0 ∧ timerAdd tick mode timeout cb arg timerID s = (some errorTimerAddEmpty, s)) ∨
      ∃ num < maxTimerNum, s.unused num = true ∧ (∀ j < num, s.unused j = false) ∧
        timerAdd tick mode timeout cb arg timerID s = (some (num : ℤ), s.armAt num
          { loop := mode, timeOut := timeout, prevTick := tick, runing := true
            timerCallback := cb, arg := arg, timerID := timerID }) :=
  timerAdd_total hs.free_eq tick mode timeout cb arg timerID

/-- Stopping and deleting a slot frees it if it is in use. -/
theorem timerStopDel_spec {s : Timer κ α} (hs : s.Wf) (i : ℕ) :
    timerStopDel i s = if i < maxTimerNum ∧ s.unused i = false then s.freeAt i else s := by
  unfold timerStopDel timerStop
  by_cases hi : i < maxTimerNum
  · cases hu : s.unused i with
    | false =>
      have hrun : (s.timerT i).runing = true := by
        rw [hs.runing_eq i hi, hu]
        rfl
      have hfree := hs.free_lt hi hu
      simp [timerDel, hu, hrun, Nat.not_le.mpr hi, Nat.not_le.mpr hfree, hi, Timer.freeAt]
    | true =>
      have hrun : (s.timerT i).runing = false := by
        rw [hs.runing_eq i hi, hu]
        rfl
      simp [timerDel, hu, hrun, Nat.not_le.mpr hi]
  · simp [timerDel, Nat.not_lt.mp hi, hi]

theorem slot_timerStopDel {s : Timer κ α} (hs : s.Wf) (i : ℕ) :
    (timerStopDel i s).slot = Function.update s.slot i none := by
  rw [timerStopDel_spec hs]
  split_ifs with h
  · exact s.slot_freeAt i
  · symm
    rw [Function.update_eq_self_iff, Timer.slot, if_neg h]

theorem timerStopDel_wf {s : Timer κ α} (hs : s.Wf) (i : ℕ) : (timerStopDel i s).Wf := by
  rw [timerStopDel_spec hs]
  split_ifs with h
  · exact hs.freeAt h.1 h.2
  · exact hs

theorem timerReload_spec {s : Timer κ α} (hs : s.Wf) (tick : UInt32) (i : ℕ) :
    (timerReload tick i s).2 =
      let t := { s.timerT i with prevTick := tick }
      if i < maxTimerNum ∧ s.unused i = false then
        { s with timerT := Function.update s.timerT i t }
      else s := by
  unfold timerReload
  by_cases hi : i < maxTimerNum
  · have hrun := hs.runing_eq i hi
    cases hu : s.unused i with
    | false => simp [Nat.not_le.mpr hi, hi, hrun, hu]
    | true => simp [Nat.not_le.mpr hi, hrun, hu]
  · simp [Nat.not_lt.mp hi, hi]

theorem timerReload_wf {s : Timer κ α} (hs : s.Wf) (tick : UInt32) (i : ℕ) :
    (timerReload tick i s).2.Wf := by
  rw [timerReload_spec hs]
  split_ifs with h
  · refine ⟨hs.free_eq, fun j hj => ?_⟩
    by_cases hji : j = i
    · subst hji
      simp [hs.runing_eq j hj]
    · simp [hji, hs.runing_eq j hj]
  · exact hs

theorem slot_timerReload {s : Timer κ α} (hs : s.Wf) (tick : UInt32) (i : ℕ) :
    (timerReload tick i s).2.slot =
      Function.update s.slot i ((s.slot i).map fun t => { t with prevTick := tick }) := by
  rw [timerReload_spec hs]
  funext j
  split_ifs with h
  · by_cases hji : j = i
    · subst hji
      simp [Timer.slot, h]
    · simp [Timer.slot, hji]
  · by_cases hji : j = i
    · subst hji
      simp [Timer.slot, h]
    · simp [hji]

theorem findTimerIndexbyID_lt {s : Timer κ α} {timerID : UInt8}
    (h : findTimerIndexbyID timerID s ≠ 0xFF) :
    findTimerIndexbyID timerID s < maxTimerNum ∧
      (s.timerT (findTimerIndexbyID timerID s)).timerID = timerID := by
  unfold findTimerIndexbyID at *
  cases hfind : (List.range maxTimerNum).find? fun num => (s.timerT num).timerID = timerID with
  | none => simp [hfind] at h
  | some num =>
    have hmem := List.mem_of_find?_eq_some hfind
    have hid := List.find?_some hfind
    exact ⟨List.mem_range.mp hmem, by simpa using hid⟩

theorem slot_index_none (s : Timer κ α) : s.slot 0xFF = none := by
  rw [Timer.slot_eq_none]
  intro h
  exact absurd h (by decide)

/-- Cancelling by ID empties the slot that the search returns. -/
theorem slot_timerCancelByID {s : Timer κ α} (hs : s.Wf) (timerID : UInt8) :
    (timerCancelByID timerID s).slot =
      Function.update s.slot (findTimerIndexbyID timerID s) none := by
  simp only [timerCancelByID]
  split_ifs with h
  · exact slot_timerStopDel hs _
  · symm
    rw [not_not.mp h, Function.update_eq_self_iff, slot_index_none]

theorem timerCancelByID_wf {s : Timer κ α} (hs : s.Wf) (timerID : UInt8) :
    (timerCancelByID timerID s).Wf := by
  simp only [timerCancelByID]
  split_ifs with h
  · exact timerStopDel_wf hs _
  · exact hs

/-- A live timer of another ID survives a cancellation. -/
theorem slot_timerCancelByID_other {s : Timer κ α} (hs : s.Wf) {timerID : UInt8} {i : ℕ}
    {t : SwTimer κ α} (h : s.slot i = some t) (hid : t.timerID ≠ timerID) :
    (timerCancelByID timerID s).slot i = some t := by
  rw [slot_timerCancelByID hs, Function.update_of_ne, h]
  rintro rfl
  have hne : findTimerIndexbyID timerID s ≠ 0xFF := by
    intro hff
    rw [hff, slot_index_none] at h
    cases h
  have hfound := (findTimerIndexbyID_lt hne).2
  rw [(Timer.slot_eq_some.mp h).2.2] at hfound
  exact hid hfound

theorem timerReloadByID_wf {s : Timer κ α} (hs : s.Wf) (tick : UInt32) (timerID : UInt8) :
    (timerReloadByID tick timerID s).Wf := by
  simp only [timerReloadByID]
  split_ifs with h
  · exact timerReload_wf hs tick _
  · exact hs

/-- A timer without the tick it was armed or reloaded at. -/
def SwTimer.untimed (t : SwTimer κ α) : SwTimer κ α := { t with prevTick := 0 }

/-- The live timer of a slot, its tick forgotten. -/
def Timer.live (s : Timer κ α) (i : ℕ) : Option (SwTimer κ α) := (s.slot i).map SwTimer.untimed

theorem live_update {s s' : Timer κ α} {i : ℕ} {t : Option (SwTimer κ α)}
    (h : s'.slot = Function.update s.slot i t) :
    s'.live = Function.update s.live i (t.map SwTimer.untimed) := by
  funext j
  unfold Timer.live
  rw [h]
  by_cases hj : j = i
  · subst hj
    simp
  · simp [hj]

theorem live_timerCancelByID {s : Timer κ α} (hs : s.Wf) (timerID : UInt8) :
    (timerCancelByID timerID s).live =
      Function.update s.live (findTimerIndexbyID timerID s) none :=
  live_update (slot_timerCancelByID hs timerID)

theorem live_timerStopDel {s : Timer κ α} (hs : s.Wf) (i : ℕ) :
    (timerStopDel i s).live = Function.update s.live i none :=
  live_update (slot_timerStopDel hs i)

theorem live_timerReload {s : Timer κ α} (hs : s.Wf) (tick : UInt32) (i : ℕ) :
    (timerReload tick i s).2.live = s.live := by
  rw [live_update (slot_timerReload hs tick i), Function.update_eq_self_iff, Timer.live]
  cases s.slot i with
  | none => rfl
  | some t => rfl

theorem live_timerReloadByID {s : Timer κ α} (hs : s.Wf) (tick : UInt32) (timerID : UInt8) :
    (timerReloadByID tick timerID s).live = s.live := by
  simp only [timerReloadByID]
  split_ifs with h
  · exact live_timerReload hs tick _
  · rfl

theorem live_eq_none {s : Timer κ α} {i : ℕ} : s.live i = none ↔ s.slot i = none :=
  Option.map_eq_none_iff

theorem live_free_pos {s : Timer κ α} (hs : s.Wf) {i : ℕ} (hi : i < maxTimerNum)
    (h : s.live i = none) : 0 < s.free :=
  hs.free_pos hi (Timer.slot_eq_none.mp (live_eq_none.mp h) hi)

theorem live_running {s : Timer κ α} (hs : s.Wf) {i : ℕ} {t : SwTimer κ α}
    (h : s.live i = some t) :
    i < maxTimerNum ∧ (s.timerT i).runing = true ∧
      (s.timerT i).timerCallback = t.timerCallback ∧ (s.timerT i).arg = t.arg := by
  obtain ⟨v, hv, rfl⟩ := Option.map_eq_some_iff.mp h
  obtain ⟨hi, hu, rfl⟩ := Timer.slot_eq_some.mp hv
  refine ⟨hi, ?_, rfl, rfl⟩
  rw [hs.runing_eq i hi, hu]
  rfl

theorem live_of_runing {s : Timer κ α} (hs : s.Wf) {i : ℕ} (hi : i < maxTimerNum)
    (h : (s.timerT i).runing = true) : s.live i = some (s.timerT i).untimed := by
  rw [Timer.live, (hs.slot_runing hi).mp h, Option.map_some]

/-- A full table stays as it is; else the lowest free slot takes the timer. -/
theorem live_timerAdd {s : Timer κ α} (hs : s.Wf) (tick : UInt32) (mode : UInt8)
    (timeout : UInt32) (cb : κ) (arg : α) (timerID : UInt8) :
    (s.free = 0 ∧ timerAdd tick mode timeout cb arg timerID s = (some errorTimerAddEmpty, s)) ∨
      ∃ num < maxTimerNum, s.live num = none ∧
        (timerAdd tick mode timeout cb arg timerID s).1 = some (num : ℤ) ∧
        (timerAdd tick mode timeout cb arg timerID s).2.Wf ∧
        (timerAdd tick mode timeout cb arg timerID s).2.live = Function.update s.live num (some
          { loop := mode, timeOut := timeout, prevTick := 0, runing := true
            timerCallback := cb, arg := arg, timerID := timerID }) := by
  rcases timerAdd_spec hs tick mode timeout cb arg timerID with hfull | ⟨num, hnum, hu, -, h⟩
  · exact Or.inl hfull
  · right
    refine ⟨num, hnum, ?_, ?_, ?_, ?_⟩
    · rw [live_eq_none, Timer.slot_eq_none]
      exact fun _ => hu
    · rw [h]
    · rw [h]
      exact hs.armAt hnum hu rfl
    · rw [h]
      exact live_update (s.slot_armAt _ hnum)

def Timer.freeSlot (s : Timer κ α) : Option ℕ := (List.range maxTimerNum).find? s.unused

/-- What `TimerAdd` leaves live, by the slot it takes. -/
theorem live_timerAdd_freeSlot {s : Timer κ α} (hs : s.Wf) (tick : UInt32) (mode : UInt8)
    (timeout : UInt32) (cb : κ) (arg : α) (timerID : UInt8) :
    (s.freeSlot = none ∧ timerAdd tick mode timeout cb arg timerID s =
        (some errorTimerAddEmpty, s)) ∨
      ∃ num, s.freeSlot = some num ∧
        (timerAdd tick mode timeout cb arg timerID s).2.live = Function.update s.live num (some
          { loop := mode, timeOut := timeout, prevTick := 0, runing := true
            timerCallback := cb, arg := arg, timerID := timerID }) := by
  rcases timerAdd_spec hs tick mode timeout cb arg timerID with ⟨hfree, h⟩ | ⟨num, hnum, hu, hlow, h⟩
  · refine Or.inl ⟨?_, h⟩
    rw [Timer.freeSlot, List.find?_eq_none]
    intro i hi
    simp [hs.unused_iff.mp hfree i (List.mem_range.mp hi)]
  · refine Or.inr ⟨num, ?_, ?_⟩
    · rw [Timer.freeSlot, List.find?_range_eq_some]
      exact ⟨hu, List.mem_range.mpr hnum, fun j hj => by simp [hlow j hj]⟩
    · rw [h]
      exact live_update (s.slot_armAt _ hnum)

theorem timerAdd_wf {s : Timer κ α} (hs : s.Wf) (tick : UInt32) (mode : UInt8)
    (timeout : UInt32) (cb : κ) (arg : α) (timerID : UInt8) :
    (timerAdd tick mode timeout cb arg timerID s).2.Wf := by
  rcases live_timerAdd hs tick mode timeout cb arg timerID with ⟨-, h⟩ | ⟨_, _, _, _, h, _⟩
  · rw [h]
    exact hs
  · exact h

/-- What a callback can do to the table: it arms timers that meet `P`, and cancels and
reloads by ID, where the IDs it cancels meet `C`. -/
inductive TimerActs (P : SwTimer κ α → Prop) (C : UInt8 → Prop) (s : Timer κ α) : Timer κ α → Prop
  | refl : TimerActs P C s s
  | add {t : Timer κ α} (tick : UInt32) (mode : UInt8) (timeout : UInt32) (cb : κ) (arg : α)
      (timerID : UInt8) (h : TimerActs P C s t)
      (hP : P { loop := mode, timeOut := timeout, prevTick := 0, runing := true
                timerCallback := cb, arg := arg, timerID := timerID }) :
      TimerActs P C s (timerAdd tick mode timeout cb arg timerID t).2
  | cancel {t : Timer κ α} (timerID : UInt8) (h : TimerActs P C s t) (hC : C timerID) :
      TimerActs P C s (timerCancelByID timerID t)
  | reload {t : Timer κ α} (tick : UInt32) (timerID : UInt8) (h : TimerActs P C s t) :
      TimerActs P C s (timerReloadByID tick timerID t)

namespace TimerActs

variable {P Q : SwTimer κ α → Prop} {C D : UInt8 → Prop} {s t : Timer κ α}

theorem wf (h : TimerActs P C s t) (hs : s.Wf) : t.Wf := by
  induction h with
  | refl => exact hs
  | add tick mode timeout cb arg timerID _ _ ih => exact timerAdd_wf ih _ _ _ _ _ _
  | cancel timerID _ _ ih => exact timerCancelByID_wf ih timerID
  | reload tick timerID _ ih => exact timerReloadByID_wf ih tick timerID

theorem mono (hPQ : ∀ u, P u → Q u) (hCD : ∀ i, C i → D i) (h : TimerActs P C s t) :
    TimerActs Q D s t := by
  induction h with
  | refl => exact .refl
  | add tick mode timeout cb arg timerID _ hP ih => exact .add _ _ _ _ _ _ ih (hPQ _ hP)
  | cancel timerID _ hC ih => exact .cancel _ ih (hCD _ hC)
  | reload tick timerID _ ih => exact .reload _ _ ih

theorem trans {u : Timer κ α} (h : TimerActs P C s t) (h' : TimerActs P C t u) :
    TimerActs P C s u := by
  induction h' with
  | refl => exact h
  | add tick mode timeout cb arg timerID _ hP ih => exact .add _ _ _ _ _ _ ih hP
  | cancel timerID _ hC ih => exact .cancel _ ih hC
  | reload tick timerID _ ih => exact .reload _ _ ih

/-- A live timer whose ID is not cancelled stays in its slot. -/
theorem persists (h : TimerActs P C s t) (hs : s.Wf) {i : ℕ} {u : SwTimer κ α}
    (hu : s.live i = some u) (hC : ¬C u.timerID) : t.live i = some u := by
  induction h with
  | refl => exact hu
  | add tick mode timeout cb arg timerID h _ ih =>
    rcases live_timerAdd (h.wf hs) tick mode timeout cb arg timerID with
      ⟨-, hfull⟩ | ⟨num, -, hnone, -, -, hlive⟩
    · rw [hfull]
      exact ih
    · rw [hlive, Function.update_of_ne, ih]
      rintro rfl
      rw [hnone] at ih
      cases ih
  | cancel timerID h hid ih =>
    obtain ⟨v, hv, rfl⟩ := Option.map_eq_some_iff.mp ih
    have hne : v.timerID ≠ timerID := fun he => hC (by rw [SwTimer.untimed, he]; exact hid)
    rw [Timer.live, slot_timerCancelByID_other (h.wf hs) hv hne]
    rfl
  | reload tick timerID h ih => rw [live_timerReloadByID (h.wf hs), ih]

/-- A live timer was there before or has been armed. -/
theorem origin (h : TimerActs P C s t) (hs : s.Wf) {i : ℕ} {u : SwTimer κ α}
    (hu : t.live i = some u) : s.live i = some u ∨ P u := by
  induction h generalizing i u with
  | refl => exact Or.inl hu
  | add tick mode timeout cb arg timerID h hP ih =>
    rcases live_timerAdd (h.wf hs) tick mode timeout cb arg timerID with
      ⟨-, hfull⟩ | ⟨num, -, -, -, -, hlive⟩
    · rw [hfull] at hu
      exact ih hu
    · by_cases hi : i = num
      · subst hi
        rw [hlive, Function.update_self, Option.some.injEq] at hu
        subst hu
        exact Or.inr hP
      · rw [hlive, Function.update_of_ne hi] at hu
        exact ih hu
  | cancel timerID h _ ih =>
    rw [live_timerCancelByID (h.wf hs)] at hu
    by_cases hi : i = findTimerIndexbyID timerID ‹Timer κ α›
    · rw [hi, Function.update_self] at hu
      cases hu
    · rw [Function.update_of_ne hi] at hu
      exact ih hu
  | reload tick timerID h ih =>
    rw [live_timerReloadByID (h.wf hs)] at hu
    exact ih hu

end TimerActs

end MqttSnClient
