import Mathlib

namespace Links

variable {ι : Type*} {next next' : ι → Option ι} {head : Option ι} {l xs ys : List ι} {i j : ι}

/-- From `head` the links lead through the nodes of `l` to the end. -/
def Chain (next : ι → Option ι) : Option ι → List ι → Prop
  | head, [] => head = none
  | head, i :: l => head = some i ∧ Chain next (next i) l

theorem chain_cons : Chain next head (i :: l) ↔ head = some i ∧ Chain next (next i) l := Iff.rfl

theorem chain_none : Chain next none l ↔ l = [] := by
  cases l with
  | nil => simp [Chain]
  | cons i l => simp [Chain]

theorem chain_some : Chain next (some i) l ↔ ∃ l', l = i :: l' ∧ Chain next (next i) l' := by
  cases l with
  | nil => simp [Chain]
  | cons j l =>
    constructor
    · rintro ⟨hij, hl⟩
      cases hij
      exact ⟨l, rfl, hl⟩
    · rintro ⟨l', hl, hchain⟩
      cases hl
      exact ⟨rfl, hchain⟩

/-- There is one chain from a head. -/
theorem Chain.unique (h : Chain next head xs) (h' : Chain next head ys) : xs = ys := by
  induction xs generalizing head ys with
  | nil =>
    rw [show head = none from h] at h'
    exact (chain_none.mp h').symm
  | cons i xs ih =>
    rw [h.1] at h'
    obtain ⟨zs, rfl, hzs⟩ := chain_some.mp h'
    rw [ih h.2 hzs]

/-- A chain from a node inside a chain. -/
theorem Chain.suffix (h : Chain next head (xs ++ i :: ys)) : Chain next (next i) ys := by
  induction xs generalizing head with
  | nil => exact h.2
  | cons j xs ih => exact ih h.2

/-- A chain that ends passes no node twice. -/
theorem Chain.nodup (h : Chain next head l) : l.Nodup := by
  induction l generalizing head with
  | nil => exact List.nodup_nil
  | cons i l ih =>
    refine List.nodup_cons.mpr ⟨fun hmem => ?_, ih h.2⟩
    -- behind the second visit the same chain would start again, and it is shorter
    obtain ⟨xs, ys, hsplit⟩ := List.append_of_mem hmem
    have hagain : Chain next (next i) ys := by
      have htail := h.2
      rw [hsplit] at htail
      exact htail.suffix
    have hsame : l = ys := h.2.unique hagain
    have hlen := congrArg List.length hsplit
    rw [hsame, List.length_append, List.length_cons] at hlen
    omega

/-- Only the links of the chain's own nodes matter. -/
theorem Chain.congr (h : Chain next head l) (hl : ∀ i ∈ l, next' i = next i) :
    Chain next' head l := by
  induction l generalizing head with
  | nil => exact h
  | cons i l ih =>
    refine ⟨h.1, ?_⟩
    rw [hl i List.mem_cons_self]
    exact ih h.2 fun j hj => hl j (List.mem_cons_of_mem i hj)

/-- The link of the node before a place leads to that place. -/
theorem Chain.link (h : Chain next head (xs ++ i :: j :: ys)) : next i = some j :=
  (chain_cons.mp h.suffix).1

theorem Chain.last (h : Chain next head (xs ++ [i])) : next i = none := h.suffix

variable [DecidableEq ι]

/-- A node is put behind the last one. -/
theorem Chain.snoc (h : Chain next head (xs ++ [i])) (hj : j ∉ xs ++ [i]) (hend : next j = none) :
    Chain (Function.update next i (some j)) head (xs ++ [i, j]) := by
  have hji : j ≠ i := fun he => hj (by simp [he])
  induction xs generalizing head with
  | nil =>
    refine ⟨h.1, ?_, ?_⟩
    · exact Function.update_self i (some j) next
    · rw [Chain, Function.update_of_ne hji]
      exact hend
  | cons k xs ih =>
    have hki : k ≠ i := by
      rintro rfl
      exact (List.nodup_cons.mp h.nodup).1 (by simp)
    refine ⟨h.1, ?_⟩
    rw [Function.update_of_ne hki]
    exact ih h.2 (fun hmem => hj (List.mem_cons_of_mem k hmem))

/-- The node `j` is unlinked from behind `i`. -/
theorem Chain.unlink (h : Chain next head (xs ++ i :: j :: ys)) :
    Chain (Function.update next i (next j)) head (xs ++ i :: ys) := by
  induction xs generalizing head with
  | nil =>
    have hnodup := h.nodup
    have hij : i ∉ j :: ys := (List.nodup_cons.mp hnodup).1
    refine ⟨h.1, ?_⟩
    rw [Function.update_self]
    apply (chain_cons.mp h.2).2.congr
    intro k hk
    apply Function.update_of_ne
    rintro rfl
    exact hij (List.mem_cons_of_mem j hk)
  | cons k xs ih =>
    have hki : k ≠ i := by
      rintro rfl
      exact (List.nodup_cons.mp h.nodup).1 (by simp)
    refine ⟨h.1, ?_⟩
    rw [Function.update_of_ne hki]
    exact ih h.2

end Links
