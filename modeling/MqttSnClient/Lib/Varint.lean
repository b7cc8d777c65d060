import Mathlib

namespace Varint

/-- The encoding that writes at least one byte. -/
def encode (n : ℕ) : List UInt8 :=
  if n < 128 then [UInt8.ofNat n] else UInt8.ofNat (n % 128 + 128) :: encode (n / 128)
termination_by n
decreasing_by omega

/-- The number that a list of bytes stands for. -/
def value : List UInt8 → ℕ
  | [] => 0
  | b :: bs => b.toNat % 128 + 128 * value bs

/-- All bytes but the last have the high bit set. -/
def Terminated : List UInt8 → Prop
  | [] => False
  | [b] => b.toNat < 128
  | b :: b' :: bs => 128 ≤ b.toNat ∧ Terminated (b' :: bs)

theorem encode_small {n : ℕ} (h : n < 128) : encode n = [UInt8.ofNat n] := by
  rw [encode, if_pos h]

theorem encode_large {n : ℕ} (h : 128 ≤ n) :
    encode n = UInt8.ofNat (n % 128 + 128) :: encode (n / 128) := by
  rw [encode, if_neg (by omega)]

theorem encode_ne_nil (n : ℕ) : encode n ≠ [] := by
  rcases Nat.lt_or_ge n 128 with h | h
  · rw [encode_small h]
    exact List.cons_ne_nil _ _
  · rw [encode_large h]
    exact List.cons_ne_nil _ _

theorem terminated_cons {b : UInt8} {bs : List UInt8} (hne : bs ≠ []) :
    Terminated (b :: bs) ↔ 128 ≤ b.toNat ∧ Terminated bs := by
  cases bs with
  | nil => exact absurd rfl hne
  | cons b' bs => exact Iff.rfl

theorem value_encode (n : ℕ) : value (encode n) = n := by
  induction n using Nat.strongRecOn with
  | ind n ih =>
    rcases Nat.lt_or_ge n 128 with h | h
    · rw [encode_small h]
      simp only [value, UInt8.toNat_ofNat']
      omega
    · rw [encode_large h, value, ih (n / 128) (by omega), UInt8.toNat_ofNat']
      omega

theorem terminated_encode (n : ℕ) : Terminated (encode n) := by
  induction n using Nat.strongRecOn with
  | ind n ih =>
    rcases Nat.lt_or_ge n 128 with h | h
    · rw [encode_small h]
      simp only [Terminated, UInt8.toNat_ofNat']
      omega
    · rw [encode_large h, terminated_cons (encode_ne_nil _), UInt8.toNat_ofNat']
      exact ⟨by omega, ih (n / 128) (by omega)⟩

/-- Two encodings at the start of one list of bytes are the same. -/
theorem terminated_unique {xs ys rest rest' : List UInt8} (hx : Terminated xs)
    (hy : Terminated ys) (h : xs ++ rest = ys ++ rest') : xs = ys := by
  induction xs generalizing ys with
  | nil => exact hx.elim
  | cons x xs ih =>
    cases ys with
    | nil => exact hy.elim
    | cons y ys =>
      obtain ⟨rfl, htail⟩ := List.cons.inj h
      cases xs with
      | nil =>
        cases ys with
        | nil => rfl
        | cons y' ys =>
          have hlow : x.toNat < 128 := hx
          exact absurd hy.1 (by omega)
      | cons x' xs =>
        cases ys with
        | nil =>
          have hlow : x.toNat < 128 := hy
          exact absurd hx.1 (by omega)
        | cons y' ys => rw [ih hx.2 hy.2 htail]

theorem encode_length_pos (n : ℕ) : 1 ≤ (encode n).length :=
  List.length_pos_iff.mpr (encode_ne_nil n)

/-- A number below `128 ^ k` takes at most `k` bytes. -/
theorem encode_length_le {k n : ℕ} (hk : 1 ≤ k) (h : n < 128 ^ k) : (encode n).length ≤ k := by
  induction k generalizing n with
  | zero => omega
  | succ k ih =>
    rcases Nat.lt_or_ge n 128 with hn | hn
    · rw [encode_small hn]
      simp
    · have hk : 1 ≤ k := by
        by_contra hk
        have hzero : k = 0 := by omega
        rw [hzero] at h
        omega
      have hdiv : n / 128 < 128 ^ k := by
        apply Nat.div_lt_of_lt_mul
        rwa [pow_succ, Nat.mul_comm] at h
      have hrest := ih hk hdiv
      rw [encode_large hn, List.length_cons]
      omega

end Varint
