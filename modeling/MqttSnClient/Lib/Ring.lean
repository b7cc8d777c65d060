import MqttSnClient.Lib.Memory

/-! A circular array that tells full from empty by a flag: which queue it holds,
and how moving one of its pointers changes that queue. -/
namespace Memory

variable {α : Type*} {cap rPtr wPtr : ℕ} {ring : UInt8} {cells : ℕ → α} {q : List α}

/-- The number of cells in use, computed from the pointers and the flag in `int`. -/
def validLenth (cap wPtr rPtr : ℕ) (ring : UInt8) : ℤ :=
  if ring ≠ 0 then cap
  else if wPtr = rPtr then 0
  else if wPtr > rPtr then wPtr - rPtr
  else cap - rPtr + wPtr

/-- The array holds the queue `q`, oldest item at `rPtr`. -/
structure RingView (cap rPtr wPtr : ℕ) (ring : UInt8) (cells : ℕ → α) (q : List α) : Prop where
  rPtr_lt : rPtr < cap
  bound : q.length ≤ cap
  wPtr_eq : wPtr = (rPtr + q.length) % cap
  ring_eq : ring = if q.length = cap then 1 else 0
  cells_eq : window cells cap rPtr q.length = q

namespace RingView

theorem wPtr_lt (h : RingView cap rPtr wPtr ring cells q) : wPtr < cap := by
  rw [h.wPtr_eq]
  exact Nat.mod_lt _ (by have := h.rPtr_lt; omega)

theorem valid (h : RingView cap rPtr wPtr ring cells q) :
    validLenth cap wPtr rPtr ring = q.length := by
  have hr := h.rPtr_lt
  have hq := h.bound
  have hw := h.wPtr_eq.trans (wrap_index cap rPtr q.length hr hq)
  unfold validLenth
  rw [h.ring_eq]
  by_cases hfull : q.length = cap
  · simp [hfull]
  · simp only [hfull, if_false, ne_eq, not_true_eq_false]
    by_cases hwrap : rPtr + q.length < cap
    · rw [if_pos hwrap] at hw
      split_ifs <;> omega
    · rw [if_neg hwrap] at hw
      split_ifs <;> omega

theorem ring_iff (h : RingView cap rPtr wPtr ring cells q) : ring = 1 ↔ q.length = cap := by
  rw [h.ring_eq]
  by_cases hq : q.length = cap
  · simp [hq]
  · simp [hq]

/-- With the flag clear, two pointers inside the array always describe a queue. -/
theorem of_clear (hr : rPtr < cap) (hw : wPtr < cap) :
    RingView cap rPtr wPtr 0 cells (window cells cap rPtr (validLenth cap wPtr rPtr 0).toNat) := by
  have hlen : (validLenth cap wPtr rPtr 0).toNat < cap ∧
      wPtr = (rPtr + (validLenth cap wPtr rPtr 0).toNat) % cap := by
    unfold validLenth
    simp only [ne_eq, not_true_eq_false, if_false]
    split_ifs with heq hgt
    · subst heq
      simp [Nat.mod_eq_of_lt hr]
      omega
    · rw [Nat.mod_eq_of_lt] <;> omega
    · rw [Nat.mod_eq_sub_mod (by omega), Nat.mod_eq_of_lt] <;> omega
  refine ⟨hr, ?_, ?_, ?_, ?_⟩ <;> rw [window_length]
  · exact hlen.1.le
  · exact hlen.2
  · rw [if_neg hlen.1.ne]

/-- The writer moves over the block that was copied in behind the queue. -/
theorem append {xs : List α} {cells' : ℕ → α} {wPtr' : ℕ} {ring' : UInt8}
    (h : RingView cap rPtr wPtr ring cells q) (hfit : q.length + xs.length ≤ cap)
    (hw : wPtr' = (rPtr + (q.length + xs.length)) % cap)
    (hring : ring' = if q.length + xs.length = cap then 1 else 0)
    (hcells : window cells' cap rPtr (q.length + xs.length) = q ++ xs) :
    RingView cap rPtr wPtr' ring' cells' (q ++ xs) := by
  refine ⟨h.rPtr_lt, ?_, ?_, ?_, ?_⟩ <;> rw [List.length_append]
  · exact hfit
  · exact hw
  · exact hring
  · exact hcells

/-- The reader moves over the `n` oldest items. -/
theorem drop {n rPtr' : ℕ} {ring' : UInt8} (h : RingView cap rPtr wPtr ring cells q)
    (hn : n ≤ q.length) (hr : rPtr' = (rPtr + n) % cap)
    (hring : ring' = if q.length - n = cap then 1 else 0) :
    RingView cap rPtr' wPtr ring' cells (q.drop n) := by
  have hlt : rPtr' < cap := by
    rw [hr]
    exact Nat.mod_lt _ (by have := h.rPtr_lt; omega)
  refine ⟨hlt, ?_, ?_, ?_, ?_⟩ <;> rw [List.length_drop]
  · exact (Nat.sub_le _ _).trans h.bound
  · rw [h.wPtr_eq, hr, Nat.mod_add_mod, Nat.add_assoc, Nat.add_sub_cancel' hn]
  · exact hring
  · have hsplit := window_drop cells cap rPtr n (q.length - n)
    rw [Nat.add_sub_cancel' hn, h.cells_eq] at hsplit
    rw [hr]
    exact hsplit.symm

theorem oldest {n : ℕ} (h : RingView cap rPtr wPtr ring cells q) (hn : n ≤ q.length) :
    window cells cap rPtr n = q.take n := by
  have hsplit := window_take cells cap rPtr n (q.length - n)
  rw [Nat.add_sub_cancel' hn, h.cells_eq] at hsplit
  exact hsplit.symm

/-- A block copied in behind the queue, in one piece, extends the window. -/
theorem copy (h : RingView cap rPtr wPtr ring cells q) (xs : List α)
    (hfit : q.length + xs.length ≤ cap) (hend : wPtr + xs.length ≤ cap) :
    window (memcpy cells wPtr xs) cap rPtr (q.length + xs.length) = q ++ xs := by
  have hw := h.wPtr_eq
  subst hw
  rw [window_memcpy cells cap rPtr q.length xs h.rPtr_lt hfit hend, h.cells_eq]

/-- The same in two pieces, cut at the end of the array. -/
theorem copy_split (h : RingView cap rPtr wPtr ring cells q) (xs : List α) (k : ℕ)
    (hfit : q.length + xs.length ≤ cap) (hk : k ≤ xs.length) (hend : wPtr + k = cap) :
    window (memcpy (memcpy cells wPtr (xs.take k)) 0 (xs.drop k)) cap rPtr
      (q.length + xs.length) = q ++ xs := by
  have hw := h.wPtr_eq
  subst hw
  rw [window_memcpy_split cells cap rPtr q.length k xs h.rPtr_lt hfit hk hend, h.cells_eq]

end RingView

end Memory
