import MqttSnClient.Passes

namespace MqttSnClient
open Counting

variable {κ α : Type}

inductive Happening
  | check
  | ran (timer : ℕ)
  | stopped (timer : ℕ)
  | deleted (timer : ℕ)
  deriving DecidableEq

/-- The timers added so far, the last one put into each slot, the slot and the mode of each
timer, and what happened, newest first. -/
structure History where
  added : ℕ
  owner : ℕ → ℕ
  slot : ℕ → ℕ
  mode : ℕ → UInt8
  log : List Happening

def History.none : History where
  added := 0
  owner := fun _ => 0
  slot := fun _ => 0
  mode := fun _ => 0
  log := []

def History.add (h : History) (num : ℕ) (mode : UInt8) : History :=
  { h with added := h.added + 1, owner := Function.update h.owner num h.added
           slot := Function.update h.slot h.added num
           mode := Function.update h.mode h.added mode }

def History.note (h : History) (x : Happening) : History := { h with log := x :: h.log }

/-- Noting one happening says nothing about another. -/
theorem History.mem_note (h : History) {x y : Happening} (hne : y ≠ x) :
    y ∈ (h.note x).log ↔ y ∈ h.log := by
  rw [History.note, List.mem_cons, or_iff_right hne]

/-- A call of `TimerStop` on a slot in use stops the timer there, and a call of `TimerDel`
that succeeds deletes it. -/
def trackTimers (s : Timing κ α) (e : TimingEvent κ α) (s' : Timing κ α) (h : History) :
    History :=
  match e with
  | .call (.add tick mode timeout cb arg timerID) =>
    match (timerAdd tick mode timeout cb arg timerID s.systime).1 with
    | some num => if num < 0 then h else h.add num.toNat mode
    | none => h
  | .call (.stop i) =>
    if i.toNat < maxTimerNum ∧ s.systime.unused i.toNat = false then
      h.note (.stopped (h.owner i.toNat))
    else h
  | .call (.del i) =>
    if (timerDel i.toNat s.systime).1 = errorTimerNone then h.note (.deleted (h.owner i.toNat))
    else h
  | .call (.reload _ _) => h
  | .check _ => h.note .check
  | .turn =>
    match s'.pass with
    | some ⟨_, num, true⟩ => h.note (.ran (h.owner num))
    | _ => h
  | .returns _ => h

def Timing.active (s : Timing κ α) : Option ℕ :=
  match s.pass with
  | some ⟨_, num, true⟩ => some num
  | _ => none

/-- No callback stops or deletes the slot that it is run from. -/
def SparesOwn (s : Timing κ α × History) (e : TimingEvent κ α) : Prop :=
  ∀ i : UInt8, e = .call (.stop i) ∨ e = .call (.del i) → s.1.active ≠ some i.toNat

def History.Holds (h : History) (t : Timer κ α) (timer : ℕ) : Prop :=
  t.unused (h.slot timer) = false ∧ h.owner (h.slot timer) = timer

/-- A timer that does not loop runs at most once, no timer runs after it was stopped, and a
timer leaves its slot only after it was deleted or was run, not being a loop, to the end; a
loop runs on until it is stopped. -/
structure Orderly (s : Timing κ α × History) : Prop where
  once : ∀ timer < s.2.added, s.2.mode timer ≠ timerModeLoop →
    s.2.log.count (.ran timer) ≤ 1
  not_after_stop : s.2.log.Pairwise fun new old =>
    ∀ timer, new = .ran timer → old ≠ .stopped timer
  given_back : ∀ timer < s.2.added, s.2.mode timer ≠ timerModeLoop → .ran timer ∈ s.2.log →
    s.1.active ≠ some (s.2.slot timer) →
      s.1.systime.unused (s.2.slot timer) = true ∨ timer < s.2.owner (s.2.slot timer)
  loops : ∀ timer < s.2.added, s.2.mode timer = timerModeLoop → .stopped timer ∉ s.2.log →
    s.2.Holds s.1.systime timer ∧ (s.1.systime.timerT (s.2.slot timer)).runing = true
  stays : ∀ timer < s.2.added, .deleted timer ∉ s.2.log →
    (s.2.mode timer = timerModeLoop ∨ .ran timer ∉ s.2.log) → s.2.Holds s.1.systime timer

/-- What holds between the table, the history and the slot whose callback is being run. -/
structure SlotsInv (t : Timer κ α) (h : History) (active : Option ℕ) : Prop where
  consistent : t.Consistent
  owner_added : ∀ i < maxTimerNum, t.unused i = false → h.owner i < h.added
  slot_owner : ∀ i < maxTimerNum, t.unused i = false → h.slot (h.owner i) = i
  loop_eq : ∀ i < maxTimerNum, t.unused i = false → (t.timerT i).loop = h.mode (h.owner i)
  slot_lt : ∀ timer < h.added, h.slot timer < maxTimerNum
  latest : ∀ timer < h.added, timer ≤ h.owner (h.slot timer)
  runing_iff : ∀ i < maxTimerNum, t.unused i = false →
    ((t.timerT i).runing = true ↔ .stopped (h.owner i) ∉ h.log)
  fresh : ∀ timer, h.added ≤ timer → .ran timer ∉ h.log ∧ .stopped timer ∉ h.log
  deleted_stopped : ∀ timer, .deleted timer ∈ h.log → .stopped timer ∈ h.log
  once : ∀ timer, h.mode timer ≠ timerModeLoop → h.log.count (.ran timer) ≤ 1
  order : h.log.Pairwise fun new old => ∀ timer, new = .ran timer → old ≠ .stopped timer
  gone : ∀ timer < h.added, ¬h.Holds t timer →
    .deleted timer ∈ h.log ∨ h.mode timer ≠ timerModeLoop ∧ .ran timer ∈ h.log
  ran_active : ∀ i < maxTimerNum, t.unused i = false → h.mode (h.owner i) ≠ timerModeLoop →
    .ran (h.owner i) ∈ h.log → active = some i
  active_runs : ∀ num, active = some num → num < maxTimerNum ∧ (t.timerT num).runing = true ∧
    .ran (h.owner num) ∈ h.log

namespace SlotsInv

variable {t : Timer κ α} {h : History} {active : Option ℕ}

theorem active_used (hs : SlotsInv t h active) {num : ℕ} (ha : active = some num) :
    t.unused num = false := by
  obtain ⟨hnum, hrun, -⟩ := hs.active_runs num ha
  exact hs.consistent.runing_used num hnum hrun

/-- Two slots in use do not hold the same timer. -/
theorem owner_inj (hs : SlotsInv t h active) {i j : ℕ} (hi : i < maxTimerNum)
    (hj : j < maxTimerNum) (hui : t.unused i = false) (huj : t.unused j = false)
    (heq : h.owner i = h.owner j) : i = j := by
  rw [← hs.slot_owner i hi hui, heq, hs.slot_owner j hj huj]

/-- What follows for the timers. -/
theorem orderly {s : Timing κ α} (hs : SlotsInv s.systime h s.active) : Orderly (s, h) := by
  have hholds : ∀ timer < h.added, .deleted timer ∉ h.log →
      (h.mode timer = timerModeLoop ∨ .ran timer ∉ h.log) → h.Holds s.systime timer := by
    intro timer hlt hdel hloop
    by_contra hno
    rcases hs.gone timer hlt hno with hmem | ⟨hmode, hran⟩
    · exact hdel hmem
    · exact hloop.elim hmode fun h => h hran
  refine ⟨fun timer _ => hs.once timer, hs.order, fun timer hlt hmode hran hact => ?_,
    fun timer hlt hmode hstop => ?_, hholds⟩
  · by_contra hno
    rw [not_or, Bool.not_eq_true] at hno
    have hown : h.owner (h.slot timer) = timer :=
      Nat.le_antisymm (Nat.not_lt.mp hno.2) (hs.latest timer hlt)
    apply hact
    apply hs.ran_active _ (hs.slot_lt timer hlt) hno.1
    · rwa [hown]
    · rwa [hown]
  · have hdel : .deleted timer ∉ h.log := fun hmem => hstop (hs.deleted_stopped timer hmem)
    have hin := hholds timer hlt hdel (Or.inl hmode)
    refine ⟨hin, (hs.runing_iff _ (hs.slot_lt timer hlt) hin.1).mpr ?_⟩
    rwa [hin.2]

/-- A change of the table that keeps what is in use, what runs and what loops. -/
theorem same {t' : Timer κ α} (hs : SlotsInv t h active) (hc : t'.Consistent)
    (hu : t'.unused = t.unused)
    (hrun : ∀ i, (t'.timerT i).runing = (t.timerT i).runing)
    (hloop : ∀ i, (t'.timerT i).loop = (t.timerT i).loop) : SlotsInv t' h active where
  consistent := hc
  owner_added := by rw [hu]; exact hs.owner_added
  slot_owner := by rw [hu]; exact hs.slot_owner
  loop_eq := by simp only [hu, hloop]; exact hs.loop_eq
  slot_lt := hs.slot_lt
  latest := hs.latest
  runing_iff := by simp only [hu, hrun]; exact hs.runing_iff
  fresh := hs.fresh
  deleted_stopped := hs.deleted_stopped
  once := hs.once
  order := hs.order
  gone := by simp only [History.Holds, hu]; exact hs.gone
  ran_active := by rw [hu]; exact hs.ran_active
  active_runs := by simp only [hrun]; exact hs.active_runs

theorem reload (hs : SlotsInv t h active) (tick : UInt32) (i : ℕ) :
    SlotsInv (timerReload tick i t).2 h active := by
  have hc := hs.consistent.reload tick i
  rcases timerReload_cases tick i t with ⟨-, code, -, heq⟩ | ⟨-, heq⟩
  · rw [heq]
    exact hs
  · rw [heq] at hc ⊢
    have hupd : ∀ j, Function.update t.timerT i { t.timerT i with prevTick := tick } j =
        if j = i then { t.timerT i with prevTick := tick } else t.timerT j := by
      intro j
      rw [Function.update_apply]
    refine hs.same hc rfl (fun j => ?_) fun j => ?_
    · show (Function.update t.timerT i { t.timerT i with prevTick := tick } j).runing = _
      rw [hupd]
      split_ifs with hji
      · rw [hji]
      · rfl
    · show (Function.update t.timerT i { t.timerT i with prevTick := tick } j).loop = _
      rw [hupd]
      split_ifs with hji
      · rw [hji]
      · rfl

/-- The slots after a timer was added: the one that it takes, and the others. -/
theorem add_slot (t : Timer κ α) (h : History) (num : ℕ) (mode : UInt8) (x : SwTimer κ α) (i : ℕ) :
    (i = num ∧ (t.armAt num x).unused i = false ∧ (t.armAt num x).timerT i = x ∧
        (h.add num mode).owner i = h.added) ∨
      (i ≠ num ∧ (t.armAt num x).unused i = t.unused i ∧
        (t.armAt num x).timerT i = t.timerT i ∧ (h.add num mode).owner i = h.owner i) := by
  by_cases hi : i = num
  · subst hi
    exact Or.inl ⟨rfl, Function.update_self _ _ _, Function.update_self _ _ _,
      Function.update_self _ _ _⟩
  · exact Or.inr ⟨hi, Function.update_of_ne hi _ _, Function.update_of_ne hi _ _,
      Function.update_of_ne hi _ _⟩

/-- The timers after one was added: the new one, and those from before. -/
theorem add_timer (h : History) (num : ℕ) (mode : UInt8) {timer : ℕ}
    (hlt : timer < (h.add num mode).added) :
    (timer = h.added ∧ (h.add num mode).slot timer = num ∧ (h.add num mode).mode timer = mode) ∨
      (timer < h.added ∧ (h.add num mode).slot timer = h.slot timer ∧
        (h.add num mode).mode timer = h.mode timer) := by
  have hlt : timer < h.added + 1 := hlt
  by_cases heq : timer = h.added
  · subst heq
    exact Or.inl ⟨rfl, Function.update_self _ _ _, Function.update_self _ _ _⟩
  · exact Or.inr ⟨by omega, Function.update_of_ne heq _ _, Function.update_of_ne heq _ _⟩

/-- A new timer has a number of its own. -/
theorem add (hs : SlotsInv t h active) {num : ℕ} {mode : UInt8} {x : SwTimer κ α}
    (hc : (t.armAt num x).Consistent) (hnum : num < maxTimerNum) (hfree : t.unused num = true)
    (hrun : x.runing = true) (hloop : x.loop = mode) :
    SlotsInv (t.armAt num x) (h.add num mode) active := by
  have hslot := add_slot t h num mode x
  have hfresh := hs.fresh h.added le_rfl
  refine { consistent := hc, owner_added := ?_, slot_owner := ?_, loop_eq := ?_, slot_lt := ?_
           latest := ?_, runing_iff := ?_, fresh := ?_, deleted_stopped := hs.deleted_stopped
           once := ?_, order := hs.order, gone := ?_, ran_active := ?_, active_runs := ?_ }
  · intro i hi hu
    rcases hslot i with ⟨-, -, -, hown⟩ | ⟨-, hsame, -, hown⟩
    · rw [hown]
      exact Nat.lt_succ_self _
    · rw [hsame] at hu
      rw [hown]
      exact Nat.lt_succ_of_lt (hs.owner_added i hi hu)
  · intro i hi hu
    rcases hslot i with ⟨hin, -, -, hown⟩ | ⟨-, hsame, -, hown⟩
    · rw [hown, hin]
      exact Function.update_self _ _ _
    · rw [hsame] at hu
      have hlt := hs.owner_added i hi hu
      rw [hown]
      exact (Function.update_of_ne hlt.ne _ _).trans (hs.slot_owner i hi hu)
  · intro i hi hu
    rcases hslot i with ⟨-, -, hx, hown⟩ | ⟨-, hsame, hx, hown⟩
    · have hmode : (h.add num mode).mode h.added = mode := Function.update_self _ _ _
      rw [hx, hown, hloop, hmode]
    · rw [hsame] at hu
      have hlt := hs.owner_added i hi hu
      have hmode : (h.add num mode).mode (h.owner i) = h.mode (h.owner i) :=
        Function.update_of_ne hlt.ne _ _
      rw [hx, hown, hmode, hs.loop_eq i hi hu]
  · intro timer hlt
    rcases add_timer h num mode hlt with ⟨-, hin, -⟩ | ⟨hlt, hin, -⟩
    · rw [hin]
      exact hnum
    · rw [hin]
      exact hs.slot_lt timer hlt
  · intro timer hlt
    rcases hslot ((h.add num mode).slot timer) with ⟨-, -, -, hown⟩ | ⟨hne, -, -, hown⟩
    · rw [hown]
      exact Nat.le_of_lt_succ hlt
    · rw [hown]
      rcases add_timer h num mode hlt with ⟨-, hin, -⟩ | ⟨hlt, hin, -⟩
      · exact absurd hin hne
      · rw [hin]
        exact hs.latest timer hlt
  · intro i hi hu
    rcases hslot i with ⟨-, -, hx, hown⟩ | ⟨-, hsame, hx, hown⟩
    · rw [hx, hown]
      exact iff_of_true hrun hfresh.2
    · rw [hsame] at hu
      rw [hx, hown]
      exact hs.runing_iff i hi hu
  · intro timer hle
    have hle : h.added + 1 ≤ timer := hle
    exact hs.fresh timer (by omega)
  · intro timer hmode
    by_cases heq : timer = h.added
    · have hcount : h.log.count (.ran h.added) = 0 := List.count_eq_zero.mpr hfresh.1
      show h.log.count (.ran timer) ≤ 1
      rw [heq, hcount]
      exact Nat.zero_le _
    · have hmode' : (h.add num mode).mode timer = h.mode timer := Function.update_of_ne heq _ _
      rw [hmode'] at hmode
      exact hs.once timer hmode
  · intro timer hlt hno
    rw [History.Holds] at hno
    rcases add_timer h num mode hlt with ⟨heq, hin, -⟩ | ⟨hlt, hin, hmode⟩
    · rw [hin] at hno
      rcases hslot num with ⟨-, hu, -, hown⟩ | ⟨hne, -⟩
      · exact absurd ⟨hu, hown.trans heq.symm⟩ hno
      · exact absurd rfl hne
    · rw [hmode]
      apply hs.gone timer hlt
      rintro ⟨hu, hown⟩
      rw [hin] at hno
      rcases hslot (h.slot timer) with ⟨hnum, -⟩ | ⟨-, hsame, -, hsame'⟩
      · rw [hnum, hfree] at hu
        cases hu
      · exact hno ⟨hsame.trans hu, hsame'.trans hown⟩
  · intro i hi hu hmode hran
    rcases hslot i with ⟨-, -, -, hown⟩ | ⟨-, hsame, -, hown⟩
    · rw [hown] at hran
      exact absurd hran hfresh.1
    · rw [hsame] at hu
      rw [hown] at hran hmode
      have hlt := hs.owner_added i hi hu
      have hmode' : (h.add num mode).mode (h.owner i) = h.mode (h.owner i) :=
        Function.update_of_ne hlt.ne _ _
      rw [hmode'] at hmode
      exact hs.ran_active i hi hu hmode hran
  · intro i hi
    rcases hslot i with ⟨hin, -⟩ | ⟨-, -, hx, hown⟩
    · have hu := hs.active_used hi
      rw [hin, hfree] at hu
      cases hu
    · rw [hx, hown]
      exact hs.active_runs i hi

/-- A slot is given back, by a deletion or after the run of its timer. -/
theorem free {t' : Timer κ α} (hs : SlotsInv t h active) {i : ℕ} {active' : Option ℕ}
    (hc : t'.Consistent) (hu : t'.unused = Function.update t.unused i true)
    (hkeep : ∀ j, j ≠ i → t'.timerT j = t.timerT j)
    (ha : ∀ num, active' = some num → active = some num ∧ num ≠ i)
    (ha' : ∀ num, active = some num → num ≠ i → active' = some num)
    (hgone : .deleted (h.owner i) ∈ h.log ∨
      h.mode (h.owner i) ≠ timerModeLoop ∧ .ran (h.owner i) ∈ h.log) :
    SlotsInv t' h active' := by
  have hused : ∀ j, t'.unused j = false → j ≠ i ∧ t.unused j = false := by
    intro j hj
    rw [hu] at hj
    have hne : j ≠ i := by
      rintro rfl
      simp at hj
    rw [Function.update_of_ne hne] at hj
    exact ⟨hne, hj⟩
  refine { consistent := hc, owner_added := ?_, slot_owner := ?_, loop_eq := ?_
           slot_lt := hs.slot_lt, latest := hs.latest, runing_iff := ?_, fresh := hs.fresh
           deleted_stopped := hs.deleted_stopped, once := hs.once, order := hs.order, gone := ?_
           ran_active := ?_, active_runs := ?_ }
  · intro j hj huj
    exact hs.owner_added j hj (hused j huj).2
  · intro j hj huj
    exact hs.slot_owner j hj (hused j huj).2
  · intro j hj huj
    rw [hkeep j (hused j huj).1]
    exact hs.loop_eq j hj (hused j huj).2
  · intro j hj huj
    rw [hkeep j (hused j huj).1]
    exact hs.runing_iff j hj (hused j huj).2
  · intro timer hlt hno
    by_cases hold : h.Holds t timer
    -- it was in the slot that is given back
    · have hslot : h.slot timer = i := by
        by_contra hne
        apply hno
        rw [History.Holds, hu, Function.update_of_ne hne]
        exact hold
      have hown := hold.2
      rw [hslot] at hown
      rw [← hown]
      exact hgone
    · exact hs.gone timer hlt hold
  · intro j hj huj hmode hran
    exact ha' j (hs.ran_active j hj (hused j huj).2 hmode hran) (hused j huj).1
  · intro num hnum
    obtain ⟨hact, hne⟩ := ha num hnum
    rw [hkeep num hne]
    exact hs.active_runs num hact

/-- A happening that is neither a run nor a stop of a timer. -/
theorem note (hs : SlotsInv t h active) {x : Happening} (hran : ∀ timer, x ≠ .ran timer)
    (hstop : ∀ timer, x ≠ .stopped timer)
    (hdel : ∀ timer, x = .deleted timer → .stopped timer ∈ h.log) :
    SlotsInv t (h.note x) active := by
  have hmem : ∀ {y : Happening}, y ∈ h.log → y ∈ (h.note x).log :=
    fun hy => List.mem_cons_of_mem x hy
  have hranmem (timer : ℕ) := h.mem_note (Ne.symm (hran timer))
  have hstopmem (timer : ℕ) := h.mem_note (Ne.symm (hstop timer))
  refine { consistent := hs.consistent, owner_added := hs.owner_added
           slot_owner := hs.slot_owner, loop_eq := hs.loop_eq, slot_lt := hs.slot_lt
           latest := hs.latest, runing_iff := ?_, fresh := ?_, deleted_stopped := ?_, once := ?_
           order := ?_, gone := ?_, ran_active := ?_, active_runs := ?_ }
  · intro i hi hu
    rw [hstopmem]
    exact hs.runing_iff i hi hu
  · intro timer hle
    rw [hranmem, hstopmem]
    exact hs.fresh timer hle
  · intro timer hmemdel
    rw [hstopmem]
    rcases List.mem_cons.mp hmemdel with heq | hold
    · exact hdel timer heq.symm
    · exact hs.deleted_stopped timer hold
  · intro timer hmode
    show (x :: h.log).count (.ran timer) ≤ 1
    rw [List.count_cons_of_ne (hran timer)]
    exact hs.once timer hmode
  · apply List.pairwise_cons.mpr
    exact ⟨fun old _ timer hx => absurd hx (hran timer), hs.order⟩
  · intro timer hlt hno
    rw [hranmem]
    exact (hs.gone timer hlt hno).imp_left hmem
  · intro i hi hu hmode
    rw [hranmem]
    exact hs.ran_active i hi hu hmode
  · intro num ha
    rw [hranmem]
    exact hs.active_runs num ha

/-- The timer of a slot is stopped, which is not the one being run. -/
theorem stopped {t' : Timer κ α} (hs : SlotsInv t h active) {i : ℕ} (ha : active ≠ some i)
    (hi : i < maxTimerNum) (hused : t.unused i = false) (hc : t'.Consistent)
    (hu : t'.unused = t.unused) (hloop : ∀ j, (t'.timerT j).loop = (t.timerT j).loop)
    (hoff : (t'.timerT i).runing = false)
    (hother : ∀ j, j ≠ i → (t'.timerT j).runing = (t.timerT j).runing) :
    SlotsInv t' (h.note (.stopped (h.owner i))) active := by
  have hranmem (timer : ℕ) : .ran timer ∈ (h.note (.stopped (h.owner i))).log ↔
      .ran timer ∈ h.log := h.mem_note (by simp)
  refine { consistent := hc, owner_added := ?_, slot_owner := ?_, loop_eq := ?_
           slot_lt := hs.slot_lt, latest := hs.latest, runing_iff := ?_, fresh := ?_
           deleted_stopped := ?_, once := ?_, order := ?_, gone := ?_, ran_active := ?_
           active_runs := ?_ }
  · rw [hu]
    exact hs.owner_added
  · rw [hu]
    exact hs.slot_owner
  · intro j hj huj
    rw [hu] at huj
    rw [hloop]
    exact hs.loop_eq j hj huj
  · intro j hj huj
    rw [hu] at huj
    by_cases hji : j = i
    · rw [hji, hoff]
      simp [History.note]
    · have hne : h.owner j ≠ h.owner i :=
        fun heq => hji (hs.owner_inj hj hi huj hused heq)
      have hmem : .stopped (h.owner j) ∈ (h.note (.stopped (h.owner i))).log ↔
          .stopped (h.owner j) ∈ h.log := h.mem_note (by simpa using hne)
      rw [hother j hji]
      exact (hs.runing_iff j hj huj).trans (not_congr hmem.symm)
  · intro timer hle
    have hlt := hs.owner_added i hi hused
    have hadded : h.added ≤ timer := hle
    have hne : timer ≠ h.owner i := by omega
    rw [hranmem]
    refine ⟨(hs.fresh timer hle).1, ?_⟩
    rw [h.mem_note (by simpa using hne)]
    exact (hs.fresh timer hle).2
  · intro timer hmem
    apply List.mem_cons_of_mem
    rcases List.mem_cons.mp hmem with heq | hold
    · cases heq
    · exact hs.deleted_stopped timer hold
  · intro timer hmode
    show (Happening.stopped (h.owner i) :: h.log).count (.ran timer) ≤ 1
    rw [List.count_cons_of_ne (by simp)]
    exact hs.once timer hmode
  · apply List.pairwise_cons.mpr
    refine ⟨fun old _ timer hx => ?_, hs.order⟩
    cases hx
  · intro timer hlt hno
    rw [hranmem]
    have hno : ¬h.Holds t timer := by
      rw [History.Holds, ← hu]
      exact hno
    exact (hs.gone timer hlt hno).imp_left fun hmem => List.mem_cons_of_mem _ hmem
  · intro j hj huj hmode
    rw [hu] at huj
    rw [hranmem]
    exact hs.ran_active j hj huj hmode
  · intro num hnum
    have hne : num ≠ i := by
      rintro rfl
      exact ha hnum
    rw [hranmem, hother num hne]
    exact hs.active_runs num hnum

/-- `TimerStop` of a slot that is not being run. -/
theorem stop (hs : SlotsInv t h active) {i : ℕ} (ha : active ≠ some i) :
    SlotsInv (timerStop i t).2
      (if i < maxTimerNum ∧ t.unused i = false then h.note (.stopped (h.owner i)) else h)
      active := by
  have hc := hs.consistent.stop i
  rcases timerStop_cases i t with ⟨hno, heq⟩ | ⟨⟨hi, hrun, hu⟩, heq⟩
  · rw [heq] at hc ⊢
    split_ifs with hin
    · have hoff : (t.timerT i).runing = false := by
        by_contra hrun
        rw [Bool.not_eq_false] at hrun
        exact hno ⟨hin.1, hrun, hin.2⟩
      exact hs.stopped ha hin.1 hin.2 hc rfl (fun _ => rfl) hoff fun _ _ => rfl
    · exact hs
  · rw [heq] at hc ⊢
    rw [if_pos ⟨hi, hu⟩]
    refine hs.stopped ha hi hu hc rfl (fun j => ?_) ?_ fun j hj => ?_
    · by_cases hji : j = i
      · simp [hji]
      · simp [hji]
    · simp
    · simp [hj]

/-- `TimerDel` gives back a slot whose timer was stopped. -/
theorem del (hs : SlotsInv t h active) (i : ℕ) :
    SlotsInv (timerDel i t).2
      (if (timerDel i t).1 = errorTimerNone then h.note (.deleted (h.owner i)) else h) active := by
  have hc := hs.consistent.del i
  rcases timerDel_cases i t with ⟨-, code, hcode, heq⟩ | ⟨⟨hi, -, hu, hrun⟩, heq⟩
  · rw [heq, if_neg hcode]
    exact hs
  rw [heq] at hc ⊢
  rw [if_pos rfl]
  have hstop : .stopped (h.owner i) ∈ h.log := by
    by_contra hno
    rw [(hs.runing_iff i hi hu).mpr hno] at hrun
    cases hrun
  have hnote : SlotsInv t (h.note (.deleted (h.owner i))) active := by
    refine hs.note (by simp) (by simp) ?_
    rintro timer heq
    cases heq
    exact hstop
  have hna : active ≠ some i := by
    intro ha
    rw [(hs.active_runs i ha).2.1] at hrun
    cases hrun
  refine hnote.free hc rfl (fun _ _ => rfl) (fun num hnum => ⟨hnum, ?_⟩) (fun _ hact _ => hact)
    (Or.inl List.mem_cons_self)
  rintro rfl
  exact hna hnum

/-- The callback of a running slot is called. -/
theorem ran (hs : SlotsInv t h none) {num : ℕ} (hnum : num < maxTimerNum)
    (hrun : (t.timerT num).runing = true) :
    SlotsInv t (h.note (.ran (h.owner num))) (some num) := by
  have hu := hs.consistent.runing_used num hnum hrun
  have hstopmem (timer : ℕ) : .stopped timer ∈ (h.note (.ran (h.owner num))).log ↔
      .stopped timer ∈ h.log := h.mem_note (by simp)
  have hnostop := (hs.runing_iff num hnum hu).mp hrun
  refine { consistent := hs.consistent, owner_added := hs.owner_added
           slot_owner := hs.slot_owner, loop_eq := hs.loop_eq, slot_lt := hs.slot_lt
           latest := hs.latest, runing_iff := ?_, fresh := ?_, deleted_stopped := ?_, once := ?_
           order := ?_, gone := ?_, ran_active := ?_, active_runs := ?_ }
  · intro i hi hui
    rw [hstopmem]
    exact hs.runing_iff i hi hui
  · intro timer hle
    have hlt := hs.owner_added num hnum hu
    have hadded : h.added ≤ timer := hle
    have hne : timer ≠ h.owner num := by omega
    rw [hstopmem, h.mem_note (by simpa using hne)]
    exact hs.fresh timer hle
  · intro timer hmem
    rw [hstopmem]
    rcases List.mem_cons.mp hmem with heq | hold
    · cases heq
    · exact hs.deleted_stopped timer hold
  · intro timer hmode
    show (Happening.ran (h.owner num) :: h.log).count (.ran timer) ≤ 1
    by_cases heq : timer = h.owner num
    -- it has not run before, since its callback would still be active
    · have hno : .ran (h.owner num) ∉ h.log := by
        intro hran
        rw [heq] at hmode
        cases hs.ran_active num hnum hu hmode hran
      rw [heq, List.count_cons_self, List.count_eq_zero.mpr hno]
    · rw [List.count_cons_of_ne (by simpa using Ne.symm heq)]
      exact hs.once timer hmode
  · apply List.pairwise_cons.mpr
    refine ⟨fun old hold timer hx hstop => ?_, hs.order⟩
    cases hx
    rw [hstop] at hold
    exact hnostop hold
  · intro timer hlt hno
    apply (hs.gone timer hlt hno).imp
    · exact fun hmem => List.mem_cons_of_mem _ hmem
    · exact fun hgone => ⟨hgone.1, List.mem_cons_of_mem _ hgone.2⟩
  · intro i hi hui hmode hmem
    rcases List.mem_cons.mp hmem with heq | hold
    · have heq : h.owner i = h.owner num := by simpa [History.note] using heq
      rw [hs.owner_inj hi hnum hui hu heq]
    · cases hs.ran_active i hi hui hmode hold
  · intro i hi
    cases hi
    exact ⟨hnum, hrun, List.mem_cons_self⟩

/-- The turn ends after the callback: a loop goes on, any other timer leaves its slot. -/
theorem returns {num : ℕ} (hs : SlotsInv t h (some num)) (tick : UInt32) :
    SlotsInv (if (t.timerT num).loop = timerModeLoop then (timerReload tick num t).2
      else timerStopDel num t) h none := by
  have hu := hs.active_used rfl
  obtain ⟨hnum, -, hran⟩ := hs.active_runs num rfl
  split_ifs with hloop
  · have hreload := hs.reload tick num
    refine { hreload with ran_active := ?_, active_runs := ?_ }
    · intro i hi hui hmode hmem
      have hactive := hreload.ran_active i hi hui hmode hmem
      cases hactive
      rw [← hs.loop_eq num hnum hu] at hmode
      exact absurd hloop hmode
    · intro i hi
      cases hi
  · obtain ⟨hunused, hkeep⟩ := hs.consistent.stopDel_frees hnum hu
    refine hs.free (hs.consistent.stopDel num) hunused hkeep (fun i hi => ?_)
      (fun i hi hne => ?_) (Or.inr ⟨?_, hran⟩)
    · cases hi
    · cases hi
      exact absurd rfl hne
    · rwa [← hs.loop_eq num hnum hu]

theorem init [Inhabited κ] [Inhabited α] :
    SlotsInv (timerInit : Timer κ α) History.none none where
  consistent := Timer.Consistent.init
  owner_added := fun _ _ hu => by cases hu
  slot_owner := fun _ _ hu => by cases hu
  loop_eq := fun _ _ hu => by cases hu
  slot_lt := fun _ hlt => absurd hlt (Nat.not_lt_zero _)
  latest := fun _ hlt => absurd hlt (Nat.not_lt_zero _)
  runing_iff := fun _ _ hu => by cases hu
  fresh := fun _ _ => ⟨List.not_mem_nil, List.not_mem_nil⟩
  deleted_stopped := fun _ hmem => absurd hmem List.not_mem_nil
  once := fun _ _ => Nat.zero_le _
  order := List.Pairwise.nil
  gone := fun _ hlt => absurd hlt (Nat.not_lt_zero _)
  ran_active := fun _ _ hu => by cases hu
  active_runs := fun _ ha => by cases ha

end SlotsInv

theorem slotsInv_step (s : Timing κ α × History) (e : TimingEvent κ α) (s' : Timing κ α × History)
    (h : SlotsInv s.1.systime s.2 s.1.active) (hc : SparesOwn s e)
    (hstep : Runs.tracked timingStep trackTimers s e = .ok s') :
    SlotsInv s'.1.systime s'.2 s'.1.active := by
  obtain ⟨⟨t, pass⟩, g⟩ := s
  obtain ⟨s', g'⟩ := s'
  obtain ⟨hs', rfl⟩ := Runs.tracked_ok.mp hstep
  cases e with
  | call op =>
    cases hs'
    cases op with
    | add tick mode timeout cb arg timerID =>
      have hadds := h.consistent.add tick mode timeout cb arg timerID
      rcases timerAdd_total h.consistent.free_eq tick mode timeout cb arg timerID with
        ⟨-, hadd⟩ | ⟨num, hnum, hfree, -, hadd⟩
      · simp only [TimerOp.apply, trackTimers, hadd]
        exact h
      · have hnonneg : ¬(num : ℤ) < 0 := by omega
        rw [hadd] at hadds
        simp only [TimerOp.apply, trackTimers, hadd, if_neg hnonneg, Int.toNat_natCast]
        exact h.add hadds hnum hfree rfl rfl
    | stop timerindex => exact h.stop (hc timerindex (Or.inl rfl))
    | del timerindex => exact h.del _
    | reload tick timerindex => exact h.reload tick _
  | check nowtimetick =>
    cases pass with
    | some p => cases hs'
    | none =>
      cases hs'
      exact h.note (by simp) (by simp) fun timer heq => by cases heq
  | turn =>
    rcases pass with _ | ⟨nowtimetick, num, _ | _⟩
    · cases hs'
    · simp only [timingStep] at hs'
      split_ifs at hs' with hnum hdue <;> cases hs'
      · exact h.ran hnum (Bool.and_eq_true_iff.mp hdue).1
      · exact h
      · exact h
    · cases hs'
  | returns tick =>
    rcases pass with _ | ⟨nowtimetick, num, _ | _⟩
    · cases hs'
    · cases hs'
    · cases hs'
      exact h.returns tick

/-- In every state of every run whose callbacks spare their own slot, the timers are in
order. -/
theorem timers_orderly [Inhabited κ] [Inhabited α] (es : List (TimingEvent κ α))
    (h : Runs.Meets (Runs.tracked timingStep trackTimers) SparesOwn
      (timingInit, History.none) es) :
    Runs.Always (Runs.tracked timingStep trackTimers) Orderly (timingInit, History.none) es :=
  Runs.always_of_meets (J := fun s => SlotsInv s.1.systime s.2 s.1.active)
    (fun _ h => h.orderly) slotsInv_step SlotsInv.init h

def History.thisPass (h : History) : List Happening := h.log.takeWhile fun x => x ≠ .check

/-- At the end of a pass, the slots of the single timers that it ran are free. -/
def FreesSingle (_ : Timing κ α × History) (e : TimingEvent κ α) (s' : Timing κ α × History) :
    Prop :=
  e = .turn → s'.1.pass = none → ∀ timer < s'.2.added, s'.2.mode timer = timerModeSingle →
    .ran timer ∈ s'.2.thisPass → s'.1.systime.unused (s'.2.slot timer) = true

/-- Two single timers are due; the callback of the second one adds a third. -/
def refillingEvents : List (TimingEvent Callback Arg) :=
  [.call (.add 0 timerModeSingle 100 .null .null 0), .call (.add 0 timerModeSingle 100 .null .null 0),
    .check 200, .turn, .returns 200, .turn,
    .call (.add 200 timerModeSingle 100 .null .null 0), .returns 200] ++ List.replicate 8 .turn

theorem sparesOwn_of_ne {s : Timing κ α × History} {e : TimingEvent κ α}
    (h : ∀ i, e ≠ .call (.stop i) ∧ e ≠ .call (.del i)) : SparesOwn s e := by
  rintro i (he | he)
  · exact absurd he (h i).1
  · exact absurd he (h i).2

theorem refilling_spares : Runs.Meets (Runs.tracked timingStep trackTimers) SparesOwn
    (timingInit, History.none) (refillingEvents ++ [.turn]) := by
  apply Runs.meets_of_forall_mem
  intro e he s
  apply sparesOwn_of_ne
  intro i
  constructor
  all_goals
    rintro rfl
    simp [refillingEvents] at he

theorem timers_orderly_refilling : Runs.Always (Runs.tracked timingStep trackTimers) Orderly
    (timingInit, History.none) (refillingEvents ++ [.turn]) :=
  timers_orderly _ refilling_spares

/-- The third timer takes the slot of the first, before the pass ends. -/
theorem freed_slot_taken :
    ¬∀ es : List (TimingEvent Callback Arg),
      Runs.Meets (Runs.tracked timingStep trackTimers) SparesOwn (timingInit, History.none) es →
        Runs.EachStep (Runs.tracked timingStep trackTimers) FreesSingle
          (timingInit, History.none) es := by
  intro h
  have hlast := h (refillingEvents ++ [.turn]) refilling_spares refillingEvents .turn [] _ _
    rfl rfl rfl rfl rfl 0 (by decide) rfl (by decide)
  revert hlast
  decide

end MqttSnClient
