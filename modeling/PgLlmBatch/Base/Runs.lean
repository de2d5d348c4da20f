import Mathlib

/-! Finite runs of a partial step function, and the induction over them. -/
namespace PgLlmBatch.Base.Runs
variable {σ ε : Type}

def run (step : σ → ε → Option σ) : σ → List ε → Option σ
  | s, [] => some s
  | s, e::es => (step s e).bind (fun s' => run step s' es)

def Every (step : σ → ε → Option σ) (ok : σ → ε → Prop) : σ → List ε → Prop
  | _, [] => True
  | s, e::es => ok s e ∧ ∀ s', step s e = some s' → Every step ok s' es

@[simp] theorem runNil (step : σ → ε → Option σ) (s : σ) : run step s [] = some s := rfl

theorem runConsSource {step : σ → ε → Option σ} {s e es out} (h : run step s (e::es) = some out) :
    ∃ mid, step s e = some mid ∧ run step mid es = some out := Option.bind_eq_some_iff.mp h

theorem runInvariant {step : σ → ε → Option σ} {Inv : σ → Prop}
    (keep : ∀ s e s', Inv s → step s e = some s' → Inv s') {s es out}
    (start : Inv s) (h : run step s es = some out) : Inv out := by
  induction es generalizing s with
  | nil => cases Option.some.inj h; exact start
  | cons e es ih =>
    obtain ⟨mid,first,rest⟩ := runConsSource h
    exact ih (keep s e mid start first) rest

theorem runInvariantOn {step : σ → ε → Option σ} {ok : σ → ε → Prop} {Inv : σ → Prop}
    (keep : ∀ s e s', Inv s → ok s e → step s e = some s' → Inv s') {s es out}
    (start : Inv s) (every : Every step ok s es) (h : run step s es = some out) : Inv out := by
  induction es generalizing s with
  | nil => cases Option.some.inj h; exact start
  | cons e es ih =>
    obtain ⟨mid,first,rest⟩ := runConsSource h
    exact ih (keep s e mid start every.1 first) (every.2 mid first) rest

theorem everyImp {step : σ → ε → Option σ} {ok ok' : σ → ε → Prop} (imp : ∀ s e, ok s e → ok' s e)
    {s : σ} {es : List ε} (h : Every step ok s es) : Every step ok' s es := by
  induction es generalizing s with
  | nil => trivial
  | cons e es ih => exact ⟨imp s e h.1,fun s' next => ih (h.2 s' next)⟩

def every (step : σ → ε → Option σ) (ok : σ → ε → Bool) : σ → List ε → Bool
  | _, [] => true
  | s, e::es => ok s e && match step s e with
      | none => true
      | some s' => every step ok s' es

theorem everySource {step : σ → ε → Option σ} {ok : σ → ε → Bool} {s : σ} {es : List ε}
    (h : every step ok s es = true) : Every step (fun s e => ok s e = true) s es := by
  induction es generalizing s with
  | nil => trivial
  | cons e es ih =>
    simp only [every,Bool.and_eq_true] at h
    refine ⟨h.1,fun s' next => ?_⟩
    have rest := h.2
    rw [next] at rest
    exact ih rest

theorem everyTrivial (step : σ → ε → Option σ) {ok : σ → ε → Prop} (all : ∀ s e, ok s e)
    (s : σ) (es : List ε) : Every step ok s es := by
  induction es generalizing s with
  | nil => trivial
  | cons e es ih => exact ⟨all s e,fun s' _ => ih s'⟩

theorem foldInvariant {step : σ → ε → σ} {Inv : σ → Prop} (keep : ∀ s e, Inv s → Inv (step s e)) {s : σ}
    (start : Inv s) (es : List ε) : Inv (es.foldl step s) := by
  induction es generalizing s with
  | nil => exact start
  | cons e es ih => exact ih (keep s e start)

theorem foldRelated {step : σ → ε → σ} {Inv : σ → Prop} {R : σ → σ → Prop} (refl : ∀ s, R s s)
    (trans : ∀ a b c, R a b → R b c → R a c) (keep : ∀ s e, Inv s → Inv (step s e))
    (next : ∀ s e, Inv s → R s (step s e)) {s : σ} (start : Inv s) (es : List ε) : R s (es.foldl step s) := by
  induction es generalizing s with
  | nil => exact refl s
  | cons e es ih => exact trans _ _ _ (next s e start) (ih (keep s e start))

end PgLlmBatch.Base.Runs
