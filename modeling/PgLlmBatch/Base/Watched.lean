import PgLlmBatch.Base.Loop

/-! One run against an environment that may answer anything: its outcome, what an observer has
seen of it, and the rule that proves a property of both for every environment. -/
namespace PgLlmBatch.Base.Program
variable {S : Type} {Reply : S → Type} {E α σ γ : Type}

def watched (observe : γ → Loop.Event S Reply → γ) (answer : (s : S) → σ → Reply s × σ) :
    (s : S) → σ × γ → Reply s × (σ × γ) :=
  fun s st => ((answer s st.1).1,(answer s st.1).2,observe st.2 ⟨s,(answer s st.1).1⟩)

def everyReply (observe : γ → Loop.Event S Reply → γ) : Spec S Reply γ := fun s g Q => ∀ r, Q r (observe g ⟨s,r⟩)

variable {observe : γ → Loop.Event S Reply → γ}

theorem everyReplyMono : Monotone (everyReply observe) := fun _ _ _ _ h weaker r => weaker r _ (h r)

theorem watchedHolds {p : Program S Reply E α} {g : γ} {Q : Except E α → γ → Prop}
    (h : p.wp (everyReply observe) g Q) (answer : (s : S) → σ → Reply s × σ) (st : σ) :
    Q (p.eval (watched observe answer) (st,g)).1 (p.eval (watched observe answer) (st,g)).2.2 := by
  induction p generalizing st g with
  | ret a => exact h
  | raise e => exact h
  | call s next ih => exact ih _ (h _) _

theorem watchedOutcome (p : Program S Reply E α) (answer : (s : S) → σ → Reply s × σ) (st : σ) (g : γ) :
    (p.eval (watched observe answer) (st,g)).1 = (p.eval answer st).1 := by
  induction p generalizing st g with
  | ret a => rfl
  | raise e => rfl
  | call s next ih => exact ih _ _ _

end PgLlmBatch.Base.Program
