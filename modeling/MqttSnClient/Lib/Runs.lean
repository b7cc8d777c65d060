import Mathlib

/-! Computations that may fault, and runs of a system whose steps are such
computations. A run stops at its first fault, so an invariant speaks about the states
before it. -/
namespace Runs

theorem bind_ok.{u, v} {α β : Type u} {φ : Type v} {x : Except φ α} {f : α → Except φ β} {b : β} :
    (x >>= f) = .ok b ↔ ∃ a, x = .ok a ∧ f a = .ok b := by
  cases x with
  | ok a =>
    constructor
    · intro h
      exact ⟨a, rfl, h⟩
    · rintro ⟨a', ha, h⟩
      cases ha
      exact h
  | error e =>
    constructor
    · intro h
      cases h
    · rintro ⟨a', ha, -⟩
      cases ha

/-- A loop keeps what every one of its turns keeps. -/
theorem foldlM_ok {α β φ : Type*} {f : α → β → Except φ α} {R : α → α → Prop}
    (hrefl : ∀ a, R a a) (htrans : ∀ {a b c}, R a b → R b c → R a c)
    (hf : ∀ {a i b}, f a i = .ok b → R a b) {is : List β} {a b : α}
    (h : is.foldlM f a = .ok b) : R a b := by
  induction is generalizing a with
  | nil =>
    cases h
    exact hrefl _
  | cons i is ih =>
    rw [List.foldlM_cons] at h
    obtain ⟨c, hc, h⟩ := bind_ok.mp h
    exact htrans (hf hc) (ih h)

/-- A loop faults only where one of its turns does. -/
theorem foldlM_error {α β φ : Type*} {f : α → β → Except φ α} {e : φ} (hf : ∀ a i, f a i ≠ .error e)
    (is : List β) (a : α) : is.foldlM f a ≠ .error e := by
  induction is generalizing a with
  | nil => exact nofun
  | cons i is ih =>
    rw [List.foldlM_cons]
    cases hi : f a i with
    | ok b => exact ih b
    | error e' =>
      rintro ⟨⟩
      exact hf a i hi

/-- Turns that leave the state as it is. -/
theorem foldlM_stay {α β φ : Type*} {f : α → β → Except φ α} {is : List β} {a : α}
    (hf : ∀ i ∈ is, f a i = .ok a) : is.foldlM f a = .ok a := by
  induction is with
  | nil => rfl
  | cons i is ih =>
    rw [List.foldlM_cons, hf i List.mem_cons_self]
    exact ih fun j hj => hf j (List.mem_cons_of_mem i hj)

variable {σ ε φ γ : Type*} (step : σ → ε → Except φ σ)

/-- The state after a list of events, or the first fault. -/
def run : σ → List ε → Except φ σ
  | s, [] => .ok s
  | s, e :: es => match step s e with
    | .ok s' => run s' es
    | .error f => .error f

/-- Every event of the run finds a state that meets `C`. -/
def Meets (C : σ → ε → Prop) : σ → List ε → Prop
  | _, [] => True
  | s, e :: es => C s e ∧ ∀ s', step s e = .ok s' → Meets C s' es

variable {step}

theorem run_cons_ok {s s' : σ} {e : ε} {es : List ε} :
    run step s (e :: es) = .ok s' ↔ ∃ t, step s e = .ok t ∧ run step t es = .ok s' := by
  simp only [run]
  cases step s e with
  | ok t => simp
  | error f => simp

theorem run_append (s : σ) (es fs : List ε) :
    run step s (es ++ fs) = run step s es >>= fun t => run step t fs := by
  induction es generalizing s with
  | nil => rfl
  | cons e es ih =>
    simp only [List.cons_append, run]
    cases step s e with
    | ok t => exact ih t
    | error f => rfl

theorem meets_append {C : σ → ε → Prop} {s t : σ} {es fs : List ε}
    (h : Meets step C s (es ++ fs)) (hr : run step s es = .ok t) : Meets step C t fs := by
  induction es generalizing s with
  | nil =>
    cases hr
    exact h
  | cons e es ih =>
    obtain ⟨u, hu, hr⟩ := run_cons_ok.mp hr
    exact ih (h.2 u hu) hr

theorem meets_prefix {C : σ → ε → Prop} {s : σ} {es fs : List ε}
    (h : Meets step C s (es ++ fs)) : Meets step C s es := by
  induction es generalizing s with
  | nil => trivial
  | cons e es ih => exact ⟨h.1, fun t ht => ih (h.2 t ht)⟩

theorem meets_of_forall {C : σ → ε → Prop} (h : ∀ s e, C s e) (s : σ) (es : List ε) :
    Meets step C s es := by
  induction es generalizing s with
  | nil => trivial
  | cons e es ih => exact ⟨h s e, fun t _ => ih t⟩

theorem meets_of_mem {C : ε → Prop} {s : σ} {es : List ε} (h : ∀ e ∈ es, C e) :
    Meets step (fun _ e => C e) s es := by
  induction es generalizing s with
  | nil => trivial
  | cons e es ih =>
    exact ⟨h e (by simp), fun t _ => ih fun f hf => h f (List.mem_cons_of_mem e hf)⟩

theorem meets_snoc {C : σ → ε → Prop} {s : σ} {es : List ε} {e : ε} (h : Meets step C s es)
    (he : ∀ t, run step s es = .ok t → C t e) : Meets step C s (es ++ [e]) := by
  induction es generalizing s with
  | nil => exact ⟨he s rfl, fun _ _ => trivial⟩
  | cons f es ih =>
    refine ⟨h.1, fun t ht => ih (h.2 t ht) fun u hu => ?_⟩
    exact he u (run_cons_ok.mpr ⟨t, ht, hu⟩)

theorem meets_of_forall_mem {C : σ → ε → Prop} {s : σ} {es : List ε} (h : ∀ e ∈ es, ∀ s, C s e) :
    Meets step C s es := by
  induction es generalizing s with
  | nil => trivial
  | cons e es ih =>
    exact ⟨h e List.mem_cons_self s, fun t _ => ih fun f hf => h f (List.mem_cons_of_mem e hf)⟩

/-- An invariant that every step meeting `C` keeps, and under which a step that meets `C`
meets `D`. -/
theorem meets_of_meets {J : σ → Prop} {C D : σ → ε → Prop}
    (hstep : ∀ s e s', J s → C s e → step s e = .ok s' → J s') (hD : ∀ s e, J s → C s e → D s e)
    {s : σ} {es : List ε} (hs : J s) (hC : Meets step C s es) : Meets step D s es := by
  induction es generalizing s with
  | nil => trivial
  | cons e es ih =>
    exact ⟨hD s e hs hC.1, fun t ht => ih (hstep s e t hs hC.1 ht) (hC.2 t ht)⟩

/-- What holds at the start and is kept by every step that meets `C` holds at the
end of every run whose steps all meet `C`. -/
theorem run_invariant {I : σ → Prop} {C : σ → ε → Prop}
    (hstep : ∀ s e s', I s → C s e → step s e = .ok s' → I s') {s s' : σ} {es : List ε}
    (hs : I s) (hC : Meets step C s es) (hr : run step s es = .ok s') : I s' := by
  induction es generalizing s with
  | nil =>
    cases hr
    exact hs
  | cons e es ih =>
    obtain ⟨t, ht, hr⟩ := run_cons_ok.mp hr
    exact ih (hstep s e t hs hC.1 ht) (hC.2 t ht) hr

theorem run_invariant_always {I : σ → Prop} (hstep : ∀ s e s', I s → step s e = .ok s' → I s')
    {s s' : σ} {es : List ε} (hs : I s) (hr : run step s es = .ok s') : I s' :=
  run_invariant (C := fun _ _ => True) (fun s e s' hI _ => hstep s e s' hI) hs
    (meets_of_forall (fun _ _ => trivial) s es) hr

/-- `P` holds in every state that the run reaches, the first one included. -/
def Always (step : σ → ε → Except φ σ) (P : σ → Prop) (s : σ) (es : List ε) : Prop :=
  ∀ es₁ es₂ t, es = es₁ ++ es₂ → run step s es₁ = .ok t → P t

theorem always_cons {P : σ → Prop} {s : σ} {e : ε} {es : List ε} :
    Always step P s (e :: es) ↔ P s ∧ ∀ s', step s e = .ok s' → Always step P s' es := by
  constructor
  · intro h
    refine ⟨h [] (e :: es) s rfl rfl, fun s' hs' es₁ es₂ t hes ht => ?_⟩
    exact h (e :: es₁) es₂ t (by rw [hes, List.cons_append]) (run_cons_ok.mpr ⟨s', hs', ht⟩)
  · rintro ⟨hP, h⟩ es₁ es₂ t hes ht
    cases es₁ with
    | nil =>
      cases ht
      exact hP
    | cons f es₁ =>
      obtain ⟨rfl, rfl⟩ := List.cons.inj hes
      obtain ⟨s', hs', ht⟩ := run_cons_ok.mp ht
      exact h s' hs' es₁ es₂ t rfl ht

theorem always_nil {P : σ → Prop} {s : σ} : Always step P s [] ↔ P s := by
  constructor
  · intro h
    exact h [] [] s rfl rfl
  · intro hP es₁ es₂ t hes ht
    obtain ⟨rfl, -⟩ := List.append_eq_nil_iff.mp hes.symm
    cases ht
    exact hP

/-- An invariant `J` that is kept by every step that meets `C` gives its consequence
`P` in every state of every run whose steps all meet `C`. -/
theorem always_of_meets {J P : σ → Prop} {C : σ → ε → Prop} (hJ : ∀ s, J s → P s)
    (hstep : ∀ s e s', J s → C s e → step s e = .ok s' → J s') {s : σ} {es : List ε}
    (hs : J s) (hC : Meets step C s es) : Always step P s es := by
  induction es generalizing s with
  | nil => exact always_nil.mpr (hJ s hs)
  | cons e es ih =>
    exact always_cons.mpr ⟨hJ s hs, fun s' hs' => ih (hstep s e s' hs hC.1 hs') (hC.2 s' hs')⟩

/-- In runs of events that meet `D`: where a step that breaks `C` also breaks `P`, all steps
meet `C` exactly when `P` holds all along. -/
theorem always_iff_meets_of_mem {J P : σ → Prop} {C : σ → ε → Prop} {D : ε → Prop}
    (hJ : ∀ s, J s → P s)
    (hstep : ∀ s e s', D e → J s → C s e → step s e = .ok s' → J s')
    (hbreak : ∀ s e, D e → J s → ¬C s e → ∃ s', step s e = .ok s' ∧ ¬P s') {s : σ} {es : List ε}
    (hD : ∀ e ∈ es, D e) (hs : J s) : Always step P s es ↔ Meets step C s es := by
  induction es generalizing s with
  | nil => exact ⟨fun _ => trivial, fun _ => always_nil.mpr (hJ s hs)⟩
  | cons e es ih =>
    have hhead : D e := hD e List.mem_cons_self
    have htail : ∀ f ∈ es, D f := fun f hf => hD f (List.mem_cons_of_mem e hf)
    rw [always_cons]
    constructor
    · rintro ⟨-, h⟩
      have hC : C s e := by
        by_contra hn
        obtain ⟨s', hs', hP⟩ := hbreak s e hhead hs hn
        exact hP (h s' hs' [] es s' rfl rfl)
      exact ⟨hC, fun s' hs' => (ih htail (hstep s e s' hhead hs hC hs')).mp (h s' hs')⟩
    · rintro ⟨hC, h⟩
      exact ⟨hJ s hs, fun s' hs' => (ih htail (hstep s e s' hhead hs hC hs')).mpr (h s' hs')⟩

/-- The same for all runs. -/
theorem always_iff_meets {J P : σ → Prop} {C : σ → ε → Prop} (hJ : ∀ s, J s → P s)
    (hstep : ∀ s e s', J s → C s e → step s e = .ok s' → J s')
    (hbreak : ∀ s e, J s → ¬C s e → ∃ s', step s e = .ok s' ∧ ¬P s') {s : σ} {es : List ε}
    (hs : J s) : Always step P s es ↔ Meets step C s es :=
  always_iff_meets_of_mem (D := fun _ => True) hJ (fun s e s' _ => hstep s e s')
    (fun s e _ => hbreak s e) (fun _ _ => trivial) hs

/-- Where a step ends in the fault `f` exactly when it breaks `C`, a run ends in it exactly
when one of its steps does. -/
theorem run_ne_error_iff {J : σ → Prop} {C : σ → ε → Prop} {f : φ}
    (hstep : ∀ s e s', J s → step s e = .ok s' → J s')
    (hC : ∀ s e, J s → (step s e ≠ .error f ↔ C s e)) {s : σ} {es : List ε} (hs : J s) :
    run step s es ≠ .error f ↔ Meets step C s es := by
  induction es generalizing s with
  | nil => exact ⟨fun _ => trivial, fun _ => nofun⟩
  | cons e es ih =>
    simp only [run, Meets, ← hC s e hs]
    cases h : step s e with
    | ok t =>
      rw [ih (hstep s e t hs h)]
      simp
    | error f' => simp

/-- Every step of the run is one that `Q` allows. -/
def EachStep (step : σ → ε → Except φ σ) (Q : σ → ε → σ → Prop) (s : σ) (es : List ε) : Prop :=
  ∀ es₁ e es₂ t u, es = es₁ ++ e :: es₂ → run step s es₁ = .ok t → step t e = .ok u → Q t e u

/-- An invariant that every step meeting `C` keeps, and under which such steps are ones that
`Q` allows. -/
theorem eachStep_of_meets {J : σ → Prop} {C : σ → ε → Prop} {Q : σ → ε → σ → Prop}
    (hstep : ∀ s e s', J s → C s e → step s e = .ok s' → J s' ∧ Q s e s') {s : σ} {es : List ε}
    (hs : J s) (hC : Meets step C s es) : EachStep step Q s es := by
  rintro es₁ e es₂ t u rfl hrun hu
  have hkeep : ∀ s e s', J s → C s e → step s e = .ok s' → J s' :=
    fun s e s' hJ hCe h => (hstep s e s' hJ hCe h).1
  have hfirst : Meets step C s es₁ := meets_prefix hC
  exact (hstep t e u (run_invariant hkeep hs hfirst hrun) (meets_append hC hrun).1 hu).2

/-- Where a step is one that `Q` allows exactly when it meets `C`. -/
theorem eachStep_iff_meets {J : σ → Prop} {C : σ → ε → Prop} {Q : σ → ε → σ → Prop}
    (hstep : ∀ s e s', J s → C s e → step s e = .ok s' → J s')
    (hQ : ∀ s e s', J s → C s e → step s e = .ok s' → Q s e s')
    (hbreak : ∀ s e, J s → ¬C s e → ∃ s', step s e = .ok s' ∧ ¬Q s e s') {s : σ} {es : List ε}
    (hs : J s) : EachStep step Q s es ↔ Meets step C s es := by
  constructor
  · intro h
    induction es generalizing s with
    | nil => trivial
    | cons e es ih =>
      have hC : C s e := by
        by_contra hC
        obtain ⟨t, ht, hn⟩ := hbreak s e hs hC
        exact hn (h [] e es s t rfl rfl ht)
      refine ⟨hC, fun t ht => ih (hstep s e t hs hC ht) fun es₁ e' es₂ u v hes hu hv => ?_⟩
      exact h (e :: es₁) e' es₂ u v (by rw [hes, List.cons_append])
        (run_cons_ok.mpr ⟨t, ht, hu⟩) hv
  · exact eachStep_of_meets (fun s e s' hJ hC h => ⟨hstep s e s' hJ hC h, hQ s e s' hJ hC h⟩) hs

/-- The same system with a history variable, which no step reads. -/
def tracked (step : σ → ε → Except φ σ) (upd : σ → ε → σ → γ → γ) :
    σ × γ → ε → Except φ (σ × γ)
  | (s, g), e => match step s e with
    | .ok s' => .ok (s', upd s e s' g)
    | .error f => .error f

theorem tracked_ok {upd : σ → ε → σ → γ → γ} {s s' : σ} {g g' : γ} {e : ε} :
    tracked step upd (s, g) e = .ok (s', g') ↔ step s e = .ok s' ∧ g' = upd s e s' g := by
  cases h : step s e with
  | ok t =>
    simp only [tracked, h, Except.ok.injEq, Prod.mk.injEq]
    constructor
    · rintro ⟨rfl, rfl⟩
      exact ⟨rfl, rfl⟩
    · rintro ⟨rfl, rfl⟩
      exact ⟨rfl, rfl⟩
  | error f => simp [tracked, h]

end Runs
