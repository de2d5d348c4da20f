import PgLlmBatch.Base.Program

/-! Loops without a bound of their own: a body goes on with a state or stops with a value. What
an observer has seen of a run, and the rule that carries an invariant of the loop through it. -/
namespace PgLlmBatch.Base

namespace Program
variable {S : Type} {Reply : S → Type} {E α σ : Type}

def caught (p : Program S Reply E α) : Program S Reply E (Except E α) :=
  match p with
  | .ret a => .ret (.ok a)
  | .raise e => .ret (.error e)
  | .call s next => .call s (fun r => (next r).caught)

theorem wpCaught {spec : Spec S Reply σ} (mono : Monotone spec) {p : Program S Reply E α} {st : σ}
    {Q : Except E (Except E α) → σ → Prop} (body : p.wp spec st (fun r st' => Q (.ok r) st')) :
    p.caught.wp spec st Q := by
  induction p generalizing st with
  | ret a => exact body
  | raise e => exact body
  | call s next ih => exact mono s st _ _ body (fun r st' hr => ih r hr)

theorem evalCaught (answer : (s : S) → σ → Reply s × σ) (p : Program S Reply E α) (st : σ) :
    p.caught.eval answer st = (.ok (p.eval answer st).1,(p.eval answer st).2) := by
  induction p generalizing st with
  | ret a => rfl
  | raise e => rfl
  | call s next ih => exact ih _ _

end Program

namespace Loop

structure Event (S : Type) (Reply : S → Type) where
  statement : S
  reply : Reply statement

variable {S : Type} {Reply : S → Type} {E α σ γ : Type}

inductive Runs (body : σ → Program S Reply E (σ ⊕ α)) :
    Program S Reply E (σ ⊕ α) → List (Event S Reply) → Program S Reply E (σ ⊕ α) → Prop where
  | here (p) : Runs body p [] p
  | again {st events q} (next : Runs body (body st) events q) : Runs body (.ret (.inl st)) events q
  | reply {s next r events q} (rest : Runs body (next r) events q) : Runs body (.call s next) (⟨s,r⟩::events) q

def play (body : σ → Program S Reply E (σ ⊕ α)) (answer : (s : S) → γ → Reply s × γ) :
    Nat → Program S Reply E (σ ⊕ α) → γ → List (Event S Reply) × Program S Reply E (σ ⊕ α)
  | n+1, .ret (.inl st), g => play body answer n (body st) g
  | n+1, .call s next, g =>
      let (r,g') := answer s g
      let (events,q) := play body answer n (next r) g'
      (⟨s,r⟩::events,q)
  | _, p, _ => ([],p)

theorem playRuns (body : σ → Program S Reply E (σ ⊕ α)) (answer : (s : S) → γ → Reply s × γ) (n : Nat)
    (p : Program S Reply E (σ ⊕ α)) (g : γ) : Runs body p (play body answer n p g).1 (play body answer n p g).2 := by
  induction n generalizing p g with
  | zero => exact .here p
  | succ n ih =>
    cases p with
    | ret ended =>
      cases ended with
      | inl st => exact .again (ih (body st) g)
      | inr a => exact .here _
    | raise e => exact .here _
    | call s next => exact .reply (ih (next (answer s g).1) (answer s g).2)

section
variable (allowed : S → γ → Prop) (observe : γ → Event S Reply → γ)

def watching : Program.Spec S Reply γ := fun s g Q => allowed s g ∧ ∀ r, Q r (observe g ⟨s,r⟩)

theorem watchingMono : Program.Monotone (watching allowed observe) :=
  fun _ _ _ _ h weaker => ⟨h.1,fun r => weaker r _ (h.2 r)⟩

def Allowed : γ → List (Event S Reply) → Prop
  | _, [] => True
  | g, e::events => allowed e.statement g ∧ Allowed (observe g e) events

def Continues (Inv : σ → γ → Prop) : Except E (σ ⊕ α) → γ → Prop
  | .ok (.inl st), g => Inv st g
  | _, _ => True

variable {allowed observe}

theorem allowedAppend {g : γ} {before after : List (Event S Reply)} (h : Allowed allowed observe g (before ++ after)) :
    Allowed allowed observe (before.foldl observe g) after := by
  induction before generalizing g with
  | nil => exact h
  | cons e before ih => exact ih h.2

theorem runAllowed {body : σ → Program S Reply E (σ ⊕ α)} {Inv : σ → γ → Prop}
    (keep : ∀ st g, Inv st g → (body st).wp (watching allowed observe) g (Continues Inv))
    {p q : Program S Reply E (σ ⊕ α)} {events : List (Event S Reply)} (run : Runs body p events q) {g : γ}
    (start : p.wp (watching allowed observe) g (Continues Inv)) :
    Allowed allowed observe g events ∧ q.wp (watching allowed observe) (events.foldl observe g) (Continues Inv) := by
  induction run generalizing g with
  | here p => exact ⟨trivial,start⟩
  | again next ih => exact ih (keep _ _ start)
  | @reply s next r events q rest ih =>
    obtain ⟨own,later⟩ := ih (start.2 r)
    exact ⟨⟨start.1,own⟩,later⟩

end

end Loop
end PgLlmBatch.Base
