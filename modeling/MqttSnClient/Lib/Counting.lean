import Mathlib

namespace Counting

variable {u : ℕ → Bool} {n : ℕ}

/-- How the count changes when one mark does. -/
theorem count_update (u : ℕ → Bool) {num : ℕ} (v : Bool) (hnum : num < n) :
    Nat.count (Function.update u num v ·) n + (u num).toNat = Nat.count (u ·) n + v.toNat := by
  induction n with
  | zero => omega
  | succ n ih =>
    rw [Nat.count_succ, Nat.count_succ]
    by_cases hlast : num = n
    · -- the slots below the last one keep their marks
      have hrest : Nat.count (Function.update u n v ·) n = Nat.count (u ·) n := by
        apply le_antisymm <;> apply Nat.count_mono_left
        · intro k hk hu
          rwa [Function.update_of_ne hk.ne] at hu
        · intro k hk hu
          rwa [Function.update_of_ne hk.ne]
      rw [hlast, Function.update_self, hrest]
      cases u n <;> cases v <;> simp
    · have hrest := ih (by omega)
      rw [Function.update_of_ne (Ne.symm hlast)]
      omega

theorem count_pos {i : ℕ} (hi : i < n) (hu : u i = true) : 0 < Nat.count (u ·) n :=
  Nat.pos_of_ne_zero (Nat.count_ne_iff_exists.mpr ⟨i, hi, hu⟩)

theorem count_eq_zero : Nat.count (u ·) n = 0 ↔ ∀ i < n, u i = false := by
  rw [Nat.count_iff_forall_not]
  simp only [Bool.not_eq_true]

/-- Fewer marks than slots leave one unmarked. -/
theorem exists_unmarked (h : Nat.count (u ·) n < n) : ∃ i < n, u i = false := by
  by_contra hno
  have hfull : Nat.count (u ·) n = n := by
    apply Nat.count_iff_forall.mpr
    intro i hi
    by_contra hu
    exact hno ⟨i, hi, by simpa using hu⟩
  omega

end Counting
