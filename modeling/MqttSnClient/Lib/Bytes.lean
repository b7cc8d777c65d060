import Mathlib

namespace Bytes

/-- The characters of a C string before its terminator. -/
structure CString where
  bytes : List UInt8
  nonul : 0 ∉ bytes
  deriving DecidableEq

namespace CString

def strlen (s : CString) : ℕ := s.bytes.length

def ofChars (cs : List Char) (h : 0 ∉ cs.map fun c => UInt8.ofNat c.toNat) : CString :=
  ⟨cs.map fun c => UInt8.ofNat c.toNat, h⟩

/-- The string that starts a stretch of memory, if it ends inside that stretch. -/
def ofMemory (mem : List UInt8) : Option CString :=
  if 0 ∈ mem then
    some ⟨mem.takeWhile (· ≠ 0), fun h => by simpa using List.mem_takeWhile_imp h⟩
  else none

/-- What `strlen` counts goes on behind the characters of a string. -/
theorem takeWhile_append (s : CString) (rest : List UInt8) :
    (s.bytes ++ rest).takeWhile (· ≠ 0) = s.bytes ++ rest.takeWhile (· ≠ 0) := by
  apply List.takeWhile_append_of_pos
  intro x hx
  rw [decide_eq_true_eq]
  rintro rfl
  exact s.nonul hx

theorem takeWhile_stored (s : CString) (rest : List UInt8) :
    (s.bytes ++ 0 :: rest).takeWhile (· ≠ 0) = s.bytes := by
  rw [takeWhile_append, List.takeWhile_cons_of_neg (by simp), List.append_nil]

/-- A string stored with its terminator is found again, whatever follows it. -/
theorem ofMemory_stored (s : CString) (rest : List UInt8) :
    ofMemory (s.bytes ++ 0 :: rest) = some s := by
  unfold ofMemory
  rw [if_pos (by simp)]
  congr 1
  obtain ⟨bytes, nonul⟩ := s
  simp only [CString.mk.injEq]
  exact takeWhile_stored ⟨bytes, nonul⟩ rest

/-- A string that is found stands there with its terminator. -/
theorem ofMemory_spec {mem : List UInt8} {s : CString} (h : ofMemory mem = some s) :
    ∃ rest, mem = s.bytes ++ 0 :: rest := by
  unfold ofMemory at h
  split_ifs at h with hmem
  obtain ⟨as, bs, rfl, has⟩ := List.eq_append_cons_of_mem hmem
  have hfound := ofMemory_stored ⟨as, has⟩ bs
  rw [ofMemory, if_pos hmem] at hfound
  rw [hfound] at h
  cases h
  exact ⟨bs, rfl⟩

end CString

/-- The two bytes of a 16-bit field on a little-endian core. -/
def le16 (v : UInt16) : List UInt8 := [UInt8.ofNat (v.toNat % 256), UInt8.ofNat (v.toNat / 256)]

/-- The 16-bit field at offset `i`. -/
def u16At (f : ℕ → UInt8) (i : ℕ) : UInt16 :=
  UInt16.ofNat ((f i).toNat + 256 * (f (i + 1)).toNat)

@[simp] theorem le16_length (v : UInt16) : (le16 v).length = 2 := rfl

/-- Reading back what was stored. -/
theorem u16At_le16 (f : ℕ → UInt8) (i : ℕ) (v : UInt16) (h0 : f i = (le16 v)[0])
    (h1 : f (i + 1) = (le16 v)[1]) : u16At f i = v := by
  have hv := v.toNat_lt
  have hlo : (f i).toNat = v.toNat % 256 := by
    rw [h0]
    simp [le16]
  have hhi : (f (i + 1)).toNat = v.toNat / 256 := by
    rw [h1]
    simp only [le16, List.getElem_cons_succ, List.getElem_cons_zero, UInt8.toNat_ofNat']
    omega
  unfold u16At
  rw [hlo, hhi, Nat.mod_add_div, UInt16.ofNat_toNat]

/-- Storing what was read. -/
theorem le16_u16At (f : ℕ → UInt8) (i : ℕ) : le16 (u16At f i) = [f i, f (i + 1)] := by
  have hlo := (f i).toNat_lt
  have hhi := (f (i + 1)).toNat_lt
  have hval : (u16At f i).toNat = (f i).toNat + 256 * (f (i + 1)).toNat := by
    simp only [u16At, UInt16.toNat_ofNat']
    omega
  have hmod : (u16At f i).toNat % 256 = (f i).toNat := by omega
  have hdiv : (u16At f i).toNat / 256 = (f (i + 1)).toNat := by omega
  simp only [le16, hmod, hdiv, UInt8.ofNat_toNat]

/-- The bytes of a list as an array, with zero past its end. -/
def asArray (bs : List UInt8) : ℕ → UInt8 := fun i => bs.getD i 0

end Bytes
