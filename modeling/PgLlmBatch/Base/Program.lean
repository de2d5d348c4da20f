import Mathlib

/-! Programs that issue statements to a server, and a weakest precondition for
them. A statement is a value and its reply has a type of its own; what the server
does with it is not fixed here, so one program can run alone or interleaved. -/
namespace PgLlmBatch.Base

inductive Program (S : Type) (Reply : S → Type) (E α : Type) where
  | ret (value : α)
  | raise (error : E)
  | call (statement : S) (next : Reply statement → Program S Reply E α)

namespace Program
variable {S : Type} {Reply : S → Type} {E α β γ σ : Type}

def bind (p : Program S Reply E α) (f : α → Program S Reply E β) : Program S Reply E β :=
  match p with
  | .ret a => f a
  | .raise e => .raise e
  | .call s next => .call s (fun r => (next r).bind f)

def handle (p : Program S Reply E α) (h : E → Program S Reply E α) : Program S Reply E α :=
  match p with
  | .ret a => .ret a
  | .raise e => h e
  | .call s next => .call s (fun r => (next r).handle h)

instance : Monad (Program S Reply E) where
  pure := .ret
  bind := bind

instance : MonadExcept E (Program S Reply E) where
  throw := .raise
  tryCatch := handle

def ask (s : S) : Program S Reply E (Reply s) := .call s .ret

def ofExcept : Except E α → Program S Reply E α
  | .ok a => .ret a
  | .error e => .raise e

@[simp] theorem pureEq (a : α) : (pure a : Program S Reply E α) = .ret a := rfl
@[simp] theorem throwEq (e : E) : (throw e : Program S Reply E α) = .raise e := rfl
theorem bindEq (p : Program S Reply E α) (f : α → Program S Reply E β) : p.bind f = (p >>= f) := rfl
@[simp] theorem bindRet (a : α) (f : α → Program S Reply E β) : (.ret a >>= f) = f a := rfl
@[simp] theorem bindRaise (e : E) (f : α → Program S Reply E β) : (.raise e >>= f) = .raise e := rfl
@[simp] theorem bindCall (s : S) (next : Reply s → Program S Reply E α)
    (f : α → Program S Reply E β) :
    (.call s next >>= f) = .call s (fun r => next r >>= f) := rfl
@[simp] theorem bindAsk (s : S) (f : Reply s → Program S Reply E β) :
    (ask s >>= f) = .call s f := rfl
@[simp] theorem ofExceptOk (a : α) : (ofExcept (.ok a) : Program S Reply E α) = .ret a := rfl
@[simp] theorem ofExceptError (e : E) : (ofExcept (.error e) : Program S Reply E α) = .raise e := rfl

def result : Program S Reply E α → Option (Except E α)
  | .ret a => some (.ok a)
  | .raise e => some (.error e)
  | .call _ _ => none

-- `spec s st Q` says that `Q` holds of every reply to `s` in the situation `st` and
-- of the situation after it.
abbrev Spec (S : Type) (Reply : S → Type) (σ : Type) :=
  (s : S) → σ → (Reply s → σ → Prop) → Prop

def Monotone (spec : Spec S Reply σ) : Prop :=
  ∀ s st Q R, spec s st Q → (∀ r st', Q r st' → R r st') → spec s st R

def wp (spec : Spec S Reply σ) (p : Program S Reply E α) (st : σ)
    (Q : Except E α → σ → Prop) : Prop :=
  match p with
  | .ret a => Q (.ok a) st
  | .raise e => Q (.error e) st
  | .call s next => spec s st (fun r st' => (next r).wp spec st' Q)

@[simp] theorem wpRet (spec : Spec S Reply σ) (a : α) (st) (Q : Except E α → σ → Prop) :
    (@ret S Reply E α a).wp spec st Q ↔ Q (.ok a) st := Iff.rfl
@[simp] theorem wpRaise (spec : Spec S Reply σ) (e : E) (st) (Q : Except E α → σ → Prop) :
    (@raise S Reply E α e).wp spec st Q ↔ Q (.error e) st := Iff.rfl
@[simp] theorem wpCall (spec : Spec S Reply σ) (s : S) (next : Reply s → Program S Reply E α)
    (st) (Q : Except E α → σ → Prop) :
    (call s next).wp spec st Q ↔ spec s st (fun r st' => (next r).wp spec st' Q) := Iff.rfl

theorem wpMono {spec : Spec S Reply σ} (mono : Monotone spec) {p : Program S Reply E α} {st : σ}
    {Q R : Except E α → σ → Prop} (h : p.wp spec st Q) (weaker : ∀ r st', Q r st' → R r st') :
    p.wp spec st R := by
  induction p generalizing st with
  | ret a => exact weaker _ _ h
  | raise e => exact weaker _ _ h
  | call s next ih => exact mono s st _ _ h (fun r st' hr => ih r hr)

theorem wpResult {spec : Spec S Reply σ} {p : Program S Reply E α} {r : Except E α} {st : σ}
    {Q : Except E α → σ → Prop} (done : p.result = some r) : p.wp spec st Q ↔ Q r st := by
  cases p with
  | ret a => cases Option.some.inj done; exact Iff.rfl
  | raise e => cases Option.some.inj done; exact Iff.rfl
  | call s next => cases done

theorem wpBind {spec : Spec S Reply σ} (mono : Monotone spec) {p : Program S Reply E α}
    {f : α → Program S Reply E β} {st : σ} {Q : Except E β → σ → Prop}
    (h : p.wp spec st (fun r st' => match r with
      | .ok a => (f a).wp spec st' Q
      | .error e => Q (.error e) st')) :
    (p >>= f).wp spec st Q := by
  induction p generalizing st with
  | ret a => exact h
  | raise e => exact h
  | call s next ih => exact mono s st _ _ h (fun r st' hr => ih r hr)

theorem wpBindIff (spec : Spec S Reply σ) (p : Program S Reply E α) (f : α → Program S Reply E β) (st : σ)
    (Q : Except E β → σ → Prop) :
    (p >>= f).wp spec st Q ↔ p.wp spec st (fun r st' => match r with
      | .ok a => (f a).wp spec st' Q
      | .error e => Q (.error e) st') := by
  induction p generalizing st with
  | ret a => exact Iff.rfl
  | raise e => exact Iff.rfl
  | call s next ih =>
    have same : (fun r st' => (next r >>= f).wp spec st' Q) = fun r st' => (next r).wp spec st' (fun r st' =>
        match r with
        | .ok a => (f a).wp spec st' Q
        | .error e => Q (.error e) st') := funext fun r => funext fun st' => propext (ih r st')
    rw [bindCall,wpCall,wpCall,same]

theorem wpOfExcept (spec : Spec S Reply σ) (e : Except E α) (f : α → Program S Reply E β) (st : σ)
    (Q : Except E β → σ → Prop) (ok : ∀ a, e = .ok a → (f a).wp spec st Q)
    (failed : ∀ x, e = .error x → Q (.error x) st) : (ofExcept e >>= f).wp spec st Q := by
  cases e with
  | ok a => exact ok a rfl
  | error x => exact failed x rfl

theorem wpHandle {spec : Spec S Reply σ} (mono : Monotone spec) {p : Program S Reply E α}
    {h : E → Program S Reply E α} {st : σ} {Q : Except E α → σ → Prop}
    (body : p.wp spec st (fun r st' => match r with
      | .ok a => Q (.ok a) st'
      | .error e => (h e).wp spec st' Q)) :
    (p.handle h).wp spec st Q := by
  induction p generalizing st with
  | ret a => exact body
  | raise e => exact body
  | call s next ih => exact mono s st _ _ body (fun r st' hr => ih r hr)

-- Run a program to its end against a server that answers at once; `none` when a
-- statement has to wait.
def alone (answer : (s : S) → σ → Option (Reply s × σ)) :
    Program S Reply E α → σ → Option (Except E α × σ)
  | .ret a, st => some (.ok a, st)
  | .raise e, st => some (.error e, st)
  | .call s next, st => match answer s st with
    | none => none
    | some (r, st') => (next r).alone answer st'

@[simp] theorem aloneRet (answer : (s : S) → σ → Option (Reply s × σ)) (a : α) (st) :
    (@ret S Reply E α a).alone answer st = some (.ok a, st) := rfl
@[simp] theorem aloneRaise (answer : (s : S) → σ → Option (Reply s × σ)) (e : E) (st) :
    (@raise S Reply E α e).alone answer st = some (.error e, st) := rfl

section
variable (answer : (s : S) → σ → Option (Reply s × σ))

theorem aloneBind (p : Program S Reply E α) (f : α → Program S Reply E β) (st : σ) :
    (p >>= f).alone answer st = match p.alone answer st with
      | none => none
      | some (.ok a,st') => (f a).alone answer st'
      | some (.error e,st') => some (.error e,st') := by
  induction p generalizing st with
  | ret a => rfl
  | raise e => rfl
  | call s next ih =>
    rw [bindCall,alone,alone]
    cases answer s st with
    | none => rfl
    | some r => exact ih r.1 r.2

theorem aloneHandle (p : Program S Reply E α) (h : E → Program S Reply E α) (st : σ) :
    (p.handle h).alone answer st = match p.alone answer st with
      | some (.error e,st') => (h e).alone answer st'
      | done => done := by
  induction p generalizing st with
  | ret a => rfl
  | raise e =>
    rw [handle,aloneRaise]
  | call s next ih =>
    rw [handle,alone,alone]
    cases answer s st with
    | none => rfl
    | some r => exact ih r.1 r.2

end

def eval (answer : (s : S) → σ → Reply s × σ) : Program S Reply E α → σ → Except E α × σ
  | .ret a, st => (.ok a,st)
  | .raise e, st => (.error e,st)
  | .call s next, st => (next (answer s st).1).eval answer (answer s st).2

section
variable (answer : (s : S) → σ → Reply s × σ)

@[simp] theorem evalRet (a : α) (st : σ) : (@ret S Reply E α a).eval answer st = (.ok a,st) := rfl
@[simp] theorem evalRaise (e : E) (st : σ) : (@raise S Reply E α e).eval answer st = (.error e,st) := rfl
@[simp] theorem evalCall (s : S) (next : Reply s → Program S Reply E α) (st : σ) :
    (call s next).eval answer st = (next (answer s st).1).eval answer (answer s st).2 := rfl

@[simp] theorem evalAsk (s : S) (st : σ) :
    (ask s : Program S Reply E (Reply s)).eval answer st = (.ok (answer s st).1,(answer s st).2) := rfl

@[simp] theorem evalOfExcept (e : Except E α) (st : σ) :
    (ofExcept e : Program S Reply E α).eval answer st = (e,st) := by
  cases e <;> rfl

theorem aloneEval (p : Program S Reply E α) (st : σ) :
    p.alone (fun s st => some (answer s st)) st = some (p.eval answer st) := by
  induction p generalizing st with
  | ret a => rfl
  | raise e => rfl
  | call s next ih => exact ih _ _

theorem evalBind (p : Program S Reply E α) (f : α → Program S Reply E β) (st : σ) :
    (p >>= f).eval answer st = match p.eval answer st with
      | (.ok a,st') => (f a).eval answer st'
      | (.error e,st') => (.error e,st') := by
  induction p generalizing st with
  | ret a => rfl
  | raise e => rfl
  | call s next ih => exact ih _ _

variable {answer} in
theorem evalHandled {p : Program S Reply E α} {h : E → Program S Reply E α} {st st' : σ} {a : α}
    (ran : p.eval answer st = (.ok a,st')) : (p.handle h).eval answer st = (.ok a,st') := by
  induction p generalizing st with
  | ret b => exact ran
  | raise e => cases ran
  | call s next ih => exact ih _ ran

variable {answer} in
theorem evalRecovered {p : Program S Reply E α} {h : E → Program S Reply E α} {st st' : σ} {e : E}
    (ran : p.eval answer st = (.error e,st')) : (p.handle h).eval answer st = (h e).eval answer st' := by
  induction p generalizing st with
  | ret b => cases ran
  | raise e =>
    cases ran
    rfl
  | call s next ih => exact ih _ ran

end

end Program
end PgLlmBatch.Base
