import Mathlib

/-! Generators: what one yields before it ends and how it ends, and loops over them. Two of them
agree when both fail or both end alike, and neither yields what contradicts the other. -/
namespace PgLlmBatch.Base

structure Generator (Y E α : Type) where
  yields : List Y
  ended : Except E α

namespace Generator
variable {X Y Z E α β σ τ : Type}

def bind (g : Generator Y E α) (f : α → Generator Y E β) : Generator Y E β :=
  match g.ended with
  | .ok a => ⟨g.yields ++ (f a).yields,(f a).ended⟩
  | .error e => ⟨g.yields,.error e⟩

instance : Monad (Generator Y E) where
  pure a := ⟨[],.ok a⟩
  bind := bind

instance : MonadExceptOf E (Generator Y E) where
  throw e := ⟨[],.error e⟩
  tryCatch g h := match g.ended with
    | .ok a => ⟨g.yields,.ok a⟩
    | .error e => ⟨g.yields ++ (h e).yields,(h e).ended⟩

def yield (y : Y) : Generator Y E Unit := ⟨[y],.ok ()⟩

def ofExcept (e : Except E α) : Generator Y E α := ⟨[],e⟩

theorem bindOk {g : Generator Y E α} {a : α} (f : α → Generator Y E β) (h : g.ended = .ok a) :
    (g >>= f) = ⟨g.yields ++ (f a).yields,(f a).ended⟩ := by
  change bind g f = _
  rw [bind,h]

theorem bindError {g : Generator Y E α} {e : E} (f : α → Generator Y E β) (h : g.ended = .error e) :
    (g >>= f) = ⟨g.yields,.error e⟩ := by
  change bind g f = _
  rw [bind,h]

@[simp] theorem pureBind (a : α) (f : α → Generator Y E β) : ((pure a : Generator Y E α) >>= f) = f a := rfl
@[simp] theorem throwBind (e : E) (f : α → Generator Y E β) : ((throw e : Generator Y E α) >>= f) = throw e := rfl
@[simp] theorem yieldBind (y : Y) (f : Unit → Generator Y E β) :
    (yield y >>= f) = ⟨y :: (f ()).yields,(f ()).ended⟩ := rfl

@[simp] theorem ofExceptOk (a : α) (f : α → Generator Y E β) : (ofExcept (.ok a) >>= f) = f a := rfl
@[simp] theorem ofExceptError (e : E) (f : α → Generator Y E β) : (ofExcept (.error e) >>= f) = throw e := rfl

theorem ofExceptBind (e : Except E α) (f : α → Except E β) :
    (ofExcept (e >>= f) : Generator Y E β) = ofExcept e >>= fun a => ofExcept (f a) := by
  cases e <;> rfl

theorem bindAssoc (g : Generator Y E α) (f : α → Generator Y E β) {γ : Type} (h : β → Generator Y E γ) :
    (g >>= f) >>= h = g >>= fun a => f a >>= h := by
  cases ended : g.ended with
  | error e => rw [bindError f ended,bindError _ ended,bindError h rfl]
  | ok a =>
    rw [bindOk f ended,bindOk _ ended]
    cases further : (f a).ended with
    | error e => rw [bindError h rfl,bindError h further]
    | ok b => rw [bindOk h rfl,bindOk h further,List.append_assoc]

theorem bindPure (g : Generator Y E α) : (g >>= pure) = g := by
  obtain ⟨ys,ended⟩ := g
  cases ended with
  | error e => rfl
  | ok a => exact congrArg (Generator.mk · _) (List.append_nil ys)

def forEach (body : σ → X → Generator Y E σ) (s : σ) : List X → Generator Y E σ
  | [] => pure s
  | x::xs => do
      let s ← body s x
      forEach body s xs

-- `async for x in g: body`, and then what `g` ended with.
def through (g : Generator X E α) (body : σ → X → Generator Y E σ) (s : σ) : Generator Y E (α × σ) := do
  let s ← forEach body s g.yields
  let a ← ofExcept g.ended
  pure (a,s)

theorem forEachAppend (body : σ → X → Generator Y E σ) (s : σ) (xs ys : List X) :
    forEach body s (xs ++ ys) = forEach body s xs >>= fun s => forEach body s ys := by
  induction xs generalizing s with
  | nil => rfl
  | cons x xs ih =>
    simp only [List.cons_append,forEach,bindAssoc]
    exact congrArg (body s x >>= ·) (funext fun s => ih s)

theorem throughBind (g : Generator X E α) (f : α → Generator X E β) (body : σ → X → Generator Y E σ) (s : σ) :
    through (g >>= f) body s = through g body s >>= fun r => through (f r.1) body r.2 := by
  cases ended : g.ended with
  | error e =>
    rw [bindError f ended]
    simp only [through,ended,bindAssoc]
    rfl
  | ok a =>
    rw [bindOk f ended]
    simp only [through,ended,forEachAppend,bindAssoc]
    rfl

structure Agree (g h : Generator Y E α) : Prop where
  ends : g.ended.isOk = h.ended.isOk
  same : g.ended.isOk = true → g = h
  comparable : g.yields <+: h.yields ∨ h.yields <+: g.yields

theorem agreeSelf (g : Generator Y E α) : Agree g g := ⟨rfl,fun _ => rfl,.inl List.prefix_rfl⟩

theorem agreeFailed {g h : Generator Y E α} {e e' : E} (first : g.ended = .error e) (second : h.ended = .error e')
    (comparable : g.yields <+: h.yields ∨ h.yields <+: g.yields) : Agree g h where
  ends := by
    rw [first,second]
    rfl
  same ok := by
    rw [first] at ok
    cases ok
  comparable := comparable

theorem agreeCases {g h : Generator Y E α} (agree : Agree g h) :
    g = h ∨ ∃ e e', g.ended = .error e ∧ h.ended = .error e' := by
  cases first : g.ended with
  | ok a => exact .inl (agree.same (by rw [first]; rfl))
  | error e =>
    have ends := agree.ends
    cases second : h.ended with
    | ok a =>
      rw [first,second] at ends
      cases ends
    | error e' => exact .inr ⟨e,e',rfl,rfl⟩

theorem agreeBind {g h : Generator Y E α} {f k : α → Generator Y E β} (agree : Agree g h)
    (rest : ∀ a, Agree (f a) (k a)) : Agree (g >>= f) (h >>= k) := by
  rcases agreeCases agree with rfl | ⟨e,e',first,second⟩
  · cases ended : g.ended with
    | error e =>
      rw [bindError f ended,bindError k ended]
      exact agreeSelf _
    | ok a =>
      rw [bindOk f ended,bindOk k ended]
      refine ⟨(rest a).ends,fun ok => ?_,(rest a).comparable.imp ?_ ?_⟩
      · rw [(rest a).same ok]
      · exact (List.prefix_append_right_inj _).mpr
      · exact (List.prefix_append_right_inj _).mpr
  · rw [bindError f first,bindError k second]
    exact agreeFailed rfl rfl agree.comparable

theorem agreeForEach {body other : σ → X → Generator Y E σ} (agree : ∀ s x, Agree (body s x) (other s x)) (s : σ)
    (xs : List X) : Agree (forEach body s xs) (forEach other s xs) := by
  induction xs generalizing s with
  | nil => exact agreeSelf _
  | cons x xs ih => exact agreeBind (agree s x) ih

theorem forEachPrefix (body : σ → X → Generator Y E σ) (s : σ) {xs ys : List X} (less : xs <+: ys) :
    (forEach body s xs).yields <+: (forEach body s ys).yields := by
  obtain ⟨more,rfl⟩ := less
  rw [forEachAppend]
  cases ended : (forEach body s xs).ended with
  | error e =>
    rw [bindError _ ended]
  | ok s' =>
    rw [bindOk _ ended]
    exact List.prefix_append _ _

theorem throughFailed {g : Generator X E α} {e : E} (failed : g.ended = .error e) (body : σ → X → Generator Y E σ)
    (s : σ) : ∃ e', through g body s = ⟨(forEach body s g.yields).yields,.error e'⟩ := by
  unfold through
  cases ended : (forEach body s g.yields).ended with
  | error e' => exact ⟨e',bindError _ ended⟩
  | ok s' =>
    rw [bindOk _ ended,failed]
    exact ⟨e,congrArg (Generator.mk · _) (List.append_nil _)⟩

theorem agreeThrough {g h : Generator X E α} (agree : Agree g h) (body : σ → X → Generator Y E σ) (s : σ) :
    Agree (through g body s) (through h body s) := by
  rcases agreeCases agree with rfl | ⟨e,e',first,second⟩
  · exact agreeSelf _
  · obtain ⟨e₁,left⟩ := throughFailed first body s
    obtain ⟨e₂,right⟩ := throughFailed second body s
    rw [left,right]
    exact agreeFailed rfl rfl (agree.comparable.imp (forEachPrefix body s) (forEachPrefix body s))

end Generator
end PgLlmBatch.Base
