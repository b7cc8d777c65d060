import Mathlib

namespace Memory

variable {α : Type*}

/-- The block copy `memcpy(&f[at], xs, xs.length)`. -/
def memcpy (f : ℕ → α) (start : ℕ) (xs : List α) : ℕ → α := fun i =>
  if start ≤ i then (xs[i - start]?).getD (f i) else f i

theorem memcpy_inside (f : ℕ → α) (start : ℕ) (xs : List α) (i : ℕ) (hi : i < xs.length) :
    memcpy f start xs (start + i) = xs[i] := by
  simp [memcpy, List.getElem?_eq_getElem hi]

theorem memcpy_outside (f : ℕ → α) (start : ℕ) (xs : List α) (i : ℕ)
    (hi : i < start ∨ start + xs.length ≤ i) : memcpy f start xs i = f i := by
  unfold memcpy
  split_ifs with h
  · rw [List.getElem?_eq_none (by omega), Option.getD_none]
  · rfl

/-- Copying in what is there already changes nothing. -/
theorem memcpy_append (f : ℕ → α) (start : ℕ) (xs ys : List α) :
    memcpy f start (xs ++ ys) = memcpy (memcpy f start xs) (start + xs.length) ys := by
  ext i
  by_cases hi : start + xs.length ≤ i
  · have hys : i - start - xs.length = i - (start + xs.length) := by omega
    have hout := memcpy_outside f start xs i (.inr hi)
    rw [memcpy, if_pos (by omega), List.getElem?_append_right (by omega), hys]
    rw [memcpy, if_pos hi, hout]
  · rw [memcpy_outside _ _ ys i (.inl (by omega)), memcpy, memcpy]
    split_ifs
    · rw [List.getElem?_append_left (by omega)]
    · rfl

theorem memcpy_self (f : ℕ → α) (start : ℕ) (xs : List α)
    (h : ∀ i, (hi : i < xs.length) → f (start + i) = xs[i]) : memcpy f start xs = f := by
  funext i
  unfold memcpy
  split_ifs with hi
  · rcases Nat.lt_or_ge (i - start) xs.length with hlt | hge
    · rw [List.getElem?_eq_getElem hlt, Option.getD_some, ← h _ hlt, Nat.add_sub_cancel' hi]
    · rw [List.getElem?_eq_none hge, Option.getD_none]
  · rfl

theorem memcpy_idem (f : ℕ → α) (start : ℕ) (xs : List α) :
    memcpy (memcpy f start xs) start xs = memcpy f start xs :=
  memcpy_self _ _ _ fun i hi => memcpy_inside f start xs i hi

/-- The `n` cells from index `start` on. -/
def slice (f : ℕ → α) (start n : ℕ) : List α := (List.range n).map fun i => f (start + i)

@[simp] theorem slice_length (f : ℕ → α) (start n : ℕ) : (slice f start n).length = n := by
  simp [slice]

@[simp] theorem slice_getElem (f : ℕ → α) (start n i : ℕ) (hi : i < (slice f start n).length) :
    (slice f start n)[i] = f (start + i) := by
  simp [slice]

theorem slice_congr (f g : ℕ → α) (start n : ℕ) (h : ∀ i < n, f (start + i) = g (start + i)) :
    slice f start n = slice g start n := by
  apply List.map_congr_left
  intro i hi
  exact h i (List.mem_range.mp hi)

theorem slice_append (f : ℕ → α) (start m n : ℕ) :
    slice f start (m + n) = slice f start m ++ slice f (start + m) n := by
  unfold slice
  rw [List.range_add, List.map_append, List.map_map]
  simp only [Function.comp_def, Nat.add_assoc]

/-- A block that was copied in is read back. -/
theorem slice_memcpy (f : ℕ → α) (start : ℕ) (xs : List α) :
    slice (memcpy f start xs) start xs.length = xs := by
  apply List.ext_getElem
  · simp
  · intro i hi hx
    rw [slice_getElem, memcpy_inside f start xs i hx]

/-- The first part of a block that was copied to the start of an array. -/
theorem slice_memcpy_left (f : ℕ → α) (xs ys : List α) :
    slice (memcpy f 0 (xs ++ ys)) 0 xs.length = xs := by
  have hall := slice_memcpy f 0 (xs ++ ys)
  rw [List.length_append, slice_append] at hall
  exact (List.append_inj hall (slice_length _ _ _)).1

/-- What was copied to the start of an array stands at the start of any longer slice. -/
theorem slice_memcpy_zero (f : ℕ → α) (xs : List α) {n : ℕ} (h : xs.length ≤ n) :
    slice (memcpy f 0 xs) 0 n = xs ++ slice (memcpy f 0 xs) xs.length (n - xs.length) := by
  have hsplit := slice_append (memcpy f 0 xs) 0 xs.length (n - xs.length)
  rwa [Nat.add_sub_cancel' h, Nat.zero_add, slice_memcpy] at hsplit

/-- The `n` cells from index `r` on in an array of `cap` cells that wraps round. -/
def window (f : ℕ → α) (cap r n : ℕ) : List α := (List.range n).map fun i => f ((r + i) % cap)

@[simp] theorem window_length (f : ℕ → α) (cap r n : ℕ) : (window f cap r n).length = n := by
  simp [window]

@[simp] theorem window_zero (f : ℕ → α) (cap r : ℕ) : window f cap r 0 = [] := rfl

theorem window_congr (f g : ℕ → α) (cap r n : ℕ)
    (h : ∀ i < n, f ((r + i) % cap) = g ((r + i) % cap)) :
    window f cap r n = window g cap r n := by
  apply List.map_congr_left
  intro i hi
  exact h i (List.mem_range.mp hi)

theorem window_add (f : ℕ → α) (cap r m n : ℕ) :
    window f cap r (m + n) = window f cap r m ++ window f cap ((r + m) % cap) n := by
  unfold window
  rw [List.range_add, List.map_append, List.map_map]
  congr 1
  apply List.map_congr_left
  intro i _
  simp only [Function.comp_apply, Nat.mod_add_mod, Nat.add_assoc]

/-- A window that does not reach the end of the array is a plain slice. -/
theorem window_eq_slice (f : ℕ → α) (cap r n : ℕ) (h : r + n ≤ cap) :
    window f cap r n = slice f r n := by
  apply List.map_congr_left
  intro i hi
  have hi := List.mem_range.mp hi
  rw [Nat.mod_eq_of_lt (by omega)]

theorem window_drop (f : ℕ → α) (cap r m n : ℕ) :
    (window f cap r (m + n)).drop m = window f cap ((r + m) % cap) n := by
  rw [window_add, List.drop_left' (window_length f cap r m)]

theorem window_take (f : ℕ → α) (cap r m n : ℕ) :
    (window f cap r (m + n)).take m = window f cap r m := by
  rw [window_add, List.take_left' (window_length f cap r m)]

theorem window_succ (f : ℕ → α) (cap r n : ℕ) (hr : r < cap) :
    window f cap r (n + 1) = f r :: window f cap ((r + 1) % cap) n := by
  rw [Nat.add_comm n 1, window_add]
  simp [window, Nat.mod_eq_of_lt hr]

theorem wrap_index (cap r i : ℕ) (hr : r < cap) (hi : i ≤ cap) :
    (r + i) % cap = if r + i < cap then r + i else r + i - cap := by
  split_ifs with h
  · exact Nat.mod_eq_of_lt h
  · rw [Nat.mod_eq_sub_mod (by omega), Nat.mod_eq_of_lt (by omega)]

/-- Copying a block behind the `n` cells in use appends it to the window, as long
as it fits both before the end of the array and before the window's start. -/
theorem window_memcpy (f : ℕ → α) (cap r n : ℕ) (xs : List α) (hr : r < cap)
    (hfit : n + xs.length ≤ cap) (hend : (r + n) % cap + xs.length ≤ cap) :
    window (memcpy f ((r + n) % cap) xs) cap r (n + xs.length) = window f cap r n ++ xs := by
  rw [window_add]
  congr 1
  · apply window_congr
    intro i hi
    apply memcpy_outside
    have hw := wrap_index cap r n hr (by omega)
    have hj := wrap_index cap r i hr (by omega)
    rw [hw] at hend ⊢
    rw [hj]
    split_ifs at * <;> omega
  · rw [window_eq_slice _ _ _ _ hend, slice_memcpy]

/-- The same with the block cut in two at the end of the array. -/
theorem window_memcpy_split (f : ℕ → α) (cap r n k : ℕ) (xs : List α) (hr : r < cap)
    (hfit : n + xs.length ≤ cap) (hk : k ≤ xs.length) (hend : (r + n) % cap + k = cap) :
    window (memcpy (memcpy f ((r + n) % cap) (xs.take k)) 0 (xs.drop k)) cap r (n + xs.length) =
      window f cap r n ++ xs := by
  have htake : (xs.take k).length = k := by simp [hk]
  have hdrop : (xs.drop k).length = xs.length - k := by simp
  have hzero : (r + (n + k)) % cap = 0 := by
    rw [← Nat.add_assoc, ← Nat.mod_add_mod, hend, Nat.mod_self]
  have hfirst := window_memcpy f cap r n (xs.take k) hr (by omega) (by omega)
  have hsecond := window_memcpy (memcpy f ((r + n) % cap) (xs.take k)) cap r (n + k) (xs.drop k)
    hr (by omega) (by omega)
  rw [htake] at hfirst
  rw [hzero, hfirst, List.append_assoc, List.take_append_drop, hdrop] at hsecond
  rwa [show n + k + (xs.length - k) = n + xs.length from by omega] at hsecond

end Memory
