import MqttSnClient.Lib.Runs

/-! Postconditions of computations that may fault: one for the result, one for the fault. -/
namespace Outcome

variable {α β φ : Type*} {P Q : α → Prop} {R : β → Prop} {E E' : φ → Prop}

/-- The result meets `Q`, or the fault meets `E`. -/
def Post (Q : α → Prop) (E : φ → Prop) : Except φ α → Prop
  | .ok a => Q a
  | .error e => E e

@[simp] theorem post_ok {a : α} : Post Q E (.ok a : Except φ α) ↔ Q a := Iff.rfl

@[simp] theorem post_error {e : φ} : Post Q E (.error e : Except φ α) ↔ E e := Iff.rfl

theorem Post.mono {x : Except φ α} (h : Post P E x) (hQ : ∀ a, P a → Q a)
    (hE : ∀ e, E e → E' e) : Post Q E' x := by
  cases x with
  | ok a => exact hQ a h
  | error e => exact hE e h

/-- What follows a computation starts from its postcondition. -/
theorem Post.bind.{u} {α β : Type u} {φ : Type*} {P : α → Prop} {R : β → Prop} {E : φ → Prop}
    {x : Except φ α} {f : α → Except φ β} (h : Post P E x)
    (hf : ∀ a, P a → Post R E (f a)) : Post R E (x >>= f) := by
  cases x with
  | ok a => exact hf a h
  | error e => exact h

/-- Continuations that agree wherever the computation may end. -/
theorem Post.bind_congr.{u} {α β : Type u} {φ : Type*} {P : α → Prop} {E : φ → Prop}
    {x : Except φ α} {f g : α → Except φ β} (h : Post P E x) (hf : ∀ a, P a → f a = g a) :
    x >>= f = x >>= g := by
  cases x with
  | ok a => exact hf a h
  | error e => rfl

theorem Post.and {x : Except φ α} (h : Post P E x) (h' : Post Q E' x) :
    Post (fun a => P a ∧ Q a) E x := by
  cases x with
  | ok a => exact ⟨h, h'⟩
  | error e => exact h

theorem Post.result {x : Except φ α} {a : α} (h : Post Q E x) (hx : x = .ok a) : Q a := by
  rw [hx] at h
  exact h

theorem Post.fault {x : Except φ α} {e : φ} (h : Post Q E x) (hx : x = .error e) : E e := by
  rw [hx] at h
  exact h

instance [DecidablePred Q] [DecidablePred E] : ∀ x : Except φ α, Decidable (Post Q E x)
  | .ok a => inferInstanceAs (Decidable (Q a))
  | .error e => inferInstanceAs (Decidable (E e))

theorem Post.ok {x : Except φ α} (h : Post Q (fun _ => False) x) : ∃ a, x = .ok a ∧ Q a := by
  cases x with
  | ok a => exact ⟨a, rfl, h⟩
  | error e => exact h.elim

/-- A step that keeps an invariant or faults as its event may: a run keeps the invariant, or
one of its events faults as it may. -/
theorem post_run {σ ε : Type*} {step : σ → ε → Except φ σ} {I : σ → Prop} {D : ε → Prop}
    {F : ε → φ → Prop} (hstep : ∀ s e, I s → D e → Post I (F e) (step s e)) {s : σ} {es : List ε}
    (hs : I s) (hes : ∀ e ∈ es, D e) :
    Post I (fun f => ∃ es₁ e es₂ t, es = es₁ ++ e :: es₂ ∧ Runs.run step s es₁ = .ok t ∧
      step t e = .error f ∧ F e f) (Runs.run step s es) := by
  induction es generalizing s with
  | nil => exact hs
  | cons e es ih =>
    have hfirst := hstep s e hs (hes e List.mem_cons_self)
    cases hx : step s e with
    | error f =>
      rw [hx] at hfirst
      simp only [Runs.run, hx]
      exact ⟨[], e, es, s, rfl, rfl, hx, hfirst⟩
    | ok t =>
      rw [hx] at hfirst
      simp only [Runs.run, hx]
      refine (ih hfirst fun e' he' => hes e' (List.mem_cons_of_mem e he')).mono
        (fun _ hu => hu) ?_
      rintro f ⟨es₁, e', es₂, u, rfl, hrun, hu⟩
      exact ⟨e :: es₁, e', es₂, u, rfl, Runs.run_cons_ok.mpr ⟨t, hx, hrun⟩, hu⟩

end Outcome
