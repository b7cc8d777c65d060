import Mathlib

namespace Fifo

variable {α σ τ ο ρ : Type*}

/-- A queue that cannot hold more than `cap` items. -/
structure Queue (α : Type*) (cap : ℕ) where
  items : List α
  le_cap : items.length ≤ cap

inductive Op (α : Type*)
  | push (xs : List α)
  | pop (n : ℕ)

inductive Reply (α : Type*)
  | refused
  | pushed
  | popped (xs : List α)
  deriving DecidableEq

namespace Queue

variable {cap : ℕ}

def empty : Queue α cap := ⟨[], Nat.zero_le cap⟩

def space (q : Queue α cap) : ℕ := cap - q.items.length

/-- A block is taken whole or refused; so is a request for the `n` oldest items. -/
def step (q : Queue α cap) : Op α → Reply α × Queue α cap
  | .push xs =>
    if h : 1 ≤ xs.length ∧ xs.length ≤ q.space then
      (.pushed, ⟨q.items ++ xs, by
        have := q.le_cap
        have := h.2
        simp only [space] at this
        simp only [List.length_append]
        omega⟩)
    else (.refused, q)
  | .pop n =>
    if 1 ≤ n ∧ n ≤ q.items.length then
      (.popped (q.items.take n), ⟨q.items.drop n, (by simp : _ ≤ _).trans q.le_cap⟩)
    else (.refused, q)

theorem step_push_ok (q : Queue α cap) (xs : List α) (h1 : 1 ≤ xs.length)
    (h2 : xs.length ≤ q.space) :
    (q.step (.push xs)).1 = .pushed ∧ (q.step (.push xs)).2.items = q.items ++ xs := by
  simp [step, h1, h2]

theorem step_push_refused (q : Queue α cap) (xs : List α)
    (h : ¬(1 ≤ xs.length ∧ xs.length ≤ q.space)) : q.step (.push xs) = (.refused, q) := by
  simp [step, h]

theorem step_pop_ok (q : Queue α cap) (n : ℕ) (h1 : 1 ≤ n) (h2 : n ≤ q.items.length) :
    (q.step (.pop n)).1 = .popped (q.items.take n) ∧
      (q.step (.pop n)).2.items = q.items.drop n := by
  simp [step, h1, h2]

theorem step_pop_refused (q : Queue α cap) (n : ℕ) (h : ¬(1 ≤ n ∧ n ≤ q.items.length)) :
    q.step (.pop n) = (.refused, q) := by
  simp [step, h]

end Queue

/-- The replies of a machine to a list of calls. -/
def replies (step : σ → ο → ρ × σ) : σ → List ο → List ρ
  | _, [] => []
  | s, o :: os => (step s o).1 :: replies step (step s o).2 os

def after (step : σ → ο → ρ × σ) : σ → List ο → σ
  | s, [] => s
  | s, o :: os => after step (step s o).2 os

/-- Every call of the list finds a state of the machine that meets `C`. -/
def AllCalls {κ : Type*} (g : τ → ο → ρ × τ) (m : κ → ο) (C : τ → κ → Prop) : τ → List κ → Prop
  | _, [] => True
  | t, c :: cs => C t c ∧ AllCalls g m C (g t (m c)).2 cs

/-- Two machines whose related states answer every call alike, and stay related,
as long as the calls meet `C`, answer such a list of calls alike. The second
machine reads a call through `m`. -/
theorem simulation_map {κ : Type*} {f : σ → κ → ρ × σ} {g : τ → ο → ρ × τ} {m : κ → ο}
    {R : σ → τ → Prop} {C : τ → κ → Prop}
    (hstep : ∀ s t c, R s t → C t c → (f s c).1 = (g t (m c)).1 ∧ R (f s c).2 (g t (m c)).2)
    {s : σ} {t : τ} (h : R s t) {cs : List κ} (hC : AllCalls g m C t cs) :
    replies f s cs = replies g t (cs.map m) ∧ R (after f s cs) (after g t (cs.map m)) := by
  induction cs generalizing s t with
  | nil => exact ⟨rfl, h⟩
  | cons c cs ih =>
    obtain ⟨hc, hR⟩ := hstep s t c h hC.1
    obtain ⟨hcs, hR⟩ := ih hR hC.2
    exact ⟨by simp only [replies, List.map_cons, hc, hcs], hR⟩

theorem allCalls_of_forall {κ : Type*} {g : τ → ο → ρ × τ} {m : κ → ο} {C : τ → κ → Prop}
    (h : ∀ t c, C t c) (t : τ) (cs : List κ) : AllCalls g m C t cs := by
  induction cs generalizing t with
  | nil => trivial
  | cons c cs ih => exact ⟨h t c, ih _⟩

/-- Where a call that breaks `C` is answered differently, equal answers to a list
of calls mean that none of them breaks `C`. -/
theorem allCalls_of_replies {κ : Type*} {f : σ → κ → ρ × σ} {g : τ → ο → ρ × τ} {m : κ → ο}
    {R : σ → τ → Prop} {C : τ → κ → Prop}
    (hstep : ∀ s t c, R s t → C t c → (f s c).1 = (g t (m c)).1 ∧ R (f s c).2 (g t (m c)).2)
    (hbreak : ∀ s t c, R s t → ¬C t c → (f s c).1 ≠ (g t (m c)).1)
    {s : σ} {t : τ} (h : R s t) {cs : List κ}
    (heq : replies f s cs = replies g t (cs.map m)) : AllCalls g m C t cs := by
  induction cs generalizing s t with
  | nil => trivial
  | cons c cs ih =>
    simp only [replies, List.map_cons, List.cons.injEq] at heq
    have hc : C t c := by
      by_contra hn
      exact hbreak s t c h hn heq.1
    exact ⟨hc, ih (hstep s t c h hc).2 heq.2⟩

end Fifo
