import Mathlib

/-! Queues of timeouts in which every entry holds its time relative to the entry before it:
how appending, removing and the passing of time change the time that each entry has left. -/
namespace DeltaQueue

variable {α : Type*} {q : List (α × ℕ)} {a : α} {d s t limit : ℕ} {p : α → Bool}

/-- The time of the last entry. -/
def total (q : List (α × ℕ)) : ℕ := (q.map Prod.snd).sum

/-- The time that each entry has left, `s` being that of the entry before. -/
def left : ℕ → List (α × ℕ) → List (α × ℕ)
  | _, [] => []
  | s, (a, d) :: q => (a, s + d) :: left (s + d) q

/-- A new entry runs out after all others. -/
def push (limit : ℕ) (a : α) (q : List (α × ℕ)) : List (α × ℕ) := q ++ [(a, limit - total q)]

/-- The time of an entry that goes is added to the entry behind it. -/
def addHead (d : ℕ) : List (α × ℕ) → List (α × ℕ)
  | [] => []
  | (b, e) :: q => (b, e + d) :: q

/-- The first entry that meets `p` goes. -/
def remove (p : α → Bool) : List (α × ℕ) → List (α × ℕ)
  | [] => []
  | (a, d) :: q => if p a then addHead d q else (a, d) :: remove p q

/-- After the time `t`: the entries that have run out, as long as some of the time is left
for them, and the queue behind them. -/
def elapse : ℕ → List (α × ℕ) → List α × List (α × ℕ)
  | _, [] => ([], [])
  | t, (a, d) :: q =>
    if t = 0 then ([], (a, d) :: q)
    else if d ≤ t then (a :: (elapse (t - d) q).1, (elapse (t - d) q).2)
    else ([], (a, d - t) :: q)

theorem total_cons : total ((a, d) :: q) = d + total q := by
  simp [total]

theorem total_push (h : total q ≤ limit) : total (push limit a q) = limit := by
  simp only [total, push, List.map_append, List.sum_append, List.map_cons, List.map_nil,
    List.sum_cons, List.sum_nil] at h ⊢
  omega

theorem left_append (s : ℕ) (q q' : List (α × ℕ)) :
    left s (q ++ q') = left s q ++ left (s + total q) q' := by
  induction q generalizing s with
  | nil => rfl
  | cons e q ih =>
    obtain ⟨a, d⟩ := e
    rw [List.cons_append, left, left, ih, total_cons, List.cons_append, Nat.add_assoc]

/-- A new entry has the whole limit left. -/
theorem left_push (h : total q ≤ limit) :
    left 0 (push limit a q) = left 0 q ++ [(a, limit)] := by
  rw [push, left_append, Nat.zero_add, left, left, Nat.add_sub_cancel' h]

theorem left_addHead (s d : ℕ) (q : List (α × ℕ)) : left s (addHead d q) = left (s + d) q := by
  cases q with
  | nil => rfl
  | cons e q =>
    obtain ⟨b, e⟩ := e
    rw [addHead, left, left, Nat.add_assoc s d e, Nat.add_comm d e]

/-- Nobody else's time changes when an entry goes. -/
theorem left_remove (s : ℕ) (q : List (α × ℕ)) :
    left s (remove p q) = (left s q).eraseP fun e => p e.1 := by
  induction q generalizing s with
  | nil => rfl
  | cons e q ih =>
    obtain ⟨a, d⟩ := e
    by_cases hp : p a
    · simp only [remove, left, hp, if_true, List.eraseP_cons_of_pos, left_addHead]
    · rw [remove, if_neg hp, left, left, List.eraseP_cons_of_neg (by simpa using hp), ih]

/-- The entry that goes is the first match. -/
theorem remove_first {q' : List (α × ℕ)} (hq : ∀ e ∈ q, p e.1 = false) (ha : p a = true) :
    remove p (q ++ (a, d) :: q') = q ++ addHead d q' := by
  induction q with
  | nil => simp [remove, ha]
  | cons e q ih =>
    obtain ⟨b, c⟩ := e
    have hb := hq (b, c) List.mem_cons_self
    rw [List.cons_append, remove, if_neg (by simpa using hb),
      ih fun e he => hq e (List.mem_cons_of_mem _ he)]
    rfl

theorem total_append (q q' : List (α × ℕ)) : total (q ++ q') = total q + total q' := by
  simp [total]

theorem total_addHead_le (d : ℕ) (q : List (α × ℕ)) : total (addHead d q) ≤ d + total q := by
  cases q with
  | nil => simp [addHead, total]
  | cons e q =>
    obtain ⟨b, e⟩ := e
    rw [addHead, total_cons, total_cons]
    omega

theorem total_remove_le (q : List (α × ℕ)) : total (remove p q) ≤ total q := by
  induction q with
  | nil => exact le_rfl
  | cons e q ih =>
    obtain ⟨a, d⟩ := e
    by_cases hp : p a
    · rw [remove, if_pos hp, total_cons]
      exact total_addHead_le d q
    · rw [remove, if_neg hp, total_cons, total_cons]
      omega

theorem total_elapse_le (t : ℕ) (q : List (α × ℕ)) : total (elapse t q).2 ≤ total q := by
  induction q generalizing t with
  | nil => exact le_rfl
  | cons e q ih =>
    obtain ⟨a, d⟩ := e
    unfold elapse
    split_ifs
    · exact le_rfl
    · have hrest := ih (t - d)
      simp only [total_cons]
      omega
    · simp only [total_cons]
      omega

/-- The entries that run out are the oldest ones; the others stay in their order. -/
theorem elapse_split (t : ℕ) (q : List (α × ℕ)) :
    (elapse t q).1 ++ (elapse t q).2.map Prod.fst = q.map Prod.fst := by
  induction q generalizing t with
  | nil => rfl
  | cons e q ih =>
    obtain ⟨a, d⟩ := e
    unfold elapse
    split_ifs
    · rfl
    · rw [List.cons_append, ih, List.map_cons]
    · rfl

theorem left_shift (s t : ℕ) (q : List (α × ℕ)) :
    left (s + t) q = (left s q).map fun e => (e.1, e.2 + t) := by
  induction q generalizing s with
  | nil => rfl
  | cons e q ih =>
    obtain ⟨a, d⟩ := e
    rw [left, left, List.map_cons, ← ih, Nat.add_right_comm]

/-- The times are relative, the entries are the same. -/
theorem left_fst (s : ℕ) (q : List (α × ℕ)) : (left s q).map Prod.fst = q.map Prod.fst := by
  induction q generalizing s with
  | nil => rfl
  | cons e q ih =>
    obtain ⟨a, d⟩ := e
    rw [left, List.map_cons, List.map_cons, ih]

theorem le_of_mem_left {e : α × ℕ} (h : e ∈ left s q) : s ≤ e.2 := by
  induction q generalizing s with
  | nil => cases h
  | cons e' q ih =>
    obtain ⟨a, d⟩ := e'
    rcases List.mem_cons.mp h with rfl | h
    · exact Nat.le_add_right s d
    · exact (Nat.le_add_right s d).trans (ih h)

end DeltaQueue
