import PgLlmBatch.Base.Budgeted

/-! What has been yielded so far as an invariant of a generator, and a consumer of loops inside loops
as one loop over the innermost values. -/
namespace PgLlmBatch.Base
namespace Generator
variable {W X Y Z E α β σ τ : Type}

theorem throughPure (a : α) (body : σ → X → Generator Y E σ) (s : σ) :
    through (pure a : Generator X E α) body s = pure (a,s) := rfl

theorem throughExcept (e : Except E α) (body : σ → X → Generator Y E σ) (s : σ) :
    through (ofExcept e : Generator X E α) body s = ofExcept e >>= fun a => pure (a,s) := rfl

theorem throughYield (x : X) (body : σ → X → Generator Y E σ) (s : σ) :
    through (yield x : Generator X E Unit) body s = body s x >>= fun s => pure ((),s) := by
  simp only [through,yield,forEach,bindAssoc,pureBind]
  rfl

theorem throughEach (step : τ → W → Generator X E τ) (body : σ → X → Generator Y E σ) (t : τ) (s : σ) (ws : List W) :
    through (forEach step t ws) body s = forEach (fun (r : τ × σ) w => through (step r.1 w) body r.2) (t,s) ws := by
  induction ws generalizing t s with
  | nil => rfl
  | cons w ws ih =>
    simp only [forEach,throughBind]
    exact congrArg (_ >>= ·) (funext fun r => ih r.1 r.2)

theorem throughThrough (g : Generator W E α) (step : τ → W → Generator X E τ) (body : σ → X → Generator Y E σ) (t : τ) (s : σ) :
    through (through g step t) body s =
      through g (fun (r : τ × σ) w => through (step r.1 w) body r.2) (t,s) >>= fun r => pure ((r.1,r.2.1),r.2.2) := by
  rw [through.eq_def g step t,throughBind,throughEach,through,bindAssoc]
  refine congrArg (_ >>= ·) (funext fun r => ?_)
  rw [throughBind,throughExcept,bindAssoc,bindAssoc]
  rfl

theorem forEachRenamed (name : σ → τ) {body : σ → X → Generator Y E σ} {renamed : τ → X → Generator Y E τ}
    (same : ∀ s x, renamed (name s) x = body s x >>= fun s => pure (name s)) (s : σ) (xs : List X) :
    forEach renamed (name s) xs = forEach body s xs >>= fun s => pure (name s) := by
  induction xs generalizing s with
  | nil => rfl
  | cons x xs ih =>
    simp only [forEach,same,bindAssoc,pureBind]
    exact congrArg (_ >>= ·) (funext fun s => ih s)

theorem bindDone {g : Generator Y E α} {f : α → Generator Y E β} {b : β} (done : (g >>= f).ended = .ok b) :
    ∃ a, g.ended = .ok a ∧ (f a).ended = .ok b ∧ (g >>= f).yields = g.yields ++ (f a).yields := by
  cases ended : g.ended with
  | error e =>
    rw [bindError f ended] at done
    cases done
  | ok a =>
    rw [bindOk f ended] at done ⊢
    exact ⟨a,rfl,done,rfl⟩

theorem eachYields (out : X → List Y) {body : σ → X → Generator Y E σ}
    (step : ∀ s x s', (body s x).ended = .ok s' → (body s x).yields = out x) {s s' : σ} {xs : List X}
    (done : (forEach body s xs).ended = .ok s') : (forEach body s xs).yields = xs.flatMap out := by
  induction xs generalizing s with
  | nil => rfl
  | cons x xs ih =>
    rw [forEach] at done ⊢
    obtain ⟨next,first,rest,whole⟩ := bindDone done
    rw [whole,step s x next first,ih rest,List.flatMap_cons]

theorem unnotedThrough (g : Generator W E α) (body : σ → W → Generator (Z ⊕ Y) E σ) (s : σ) :
    (through g body s).unnoted = through g (fun s w => (body s w).unnoted) s := by
  unfold through
  simp only [unnotedBind,unnotedEach,unnotedExcept,unnotedPure]

def Good (good : List W → W → Prop) : List W → List W → Prop
  | _, [] => True
  | before, w::ws => good before w ∧ Good good (before ++ [w]) ws

theorem goodAppend {good : List W → W → Prop} {before xs ys : List W} :
    Good good before (xs ++ ys) ↔ Good good before xs ∧ Good good (before ++ xs) ys := by
  induction xs generalizing before with
  | nil =>
    rw [List.nil_append,List.append_nil]
    exact ⟨fun h => ⟨trivial,h⟩,And.right⟩
  | cons x xs ih => simp only [List.cons_append,Good,ih,and_assoc,List.append_assoc,List.nil_append]

theorem goodAt {good : List W → W → Prop} {before ws : List W} (each : Good good before ws) {k : Nat} {w : W}
    (here : ws[k]? = some w) : good (before ++ ws.take k) w := by
  induction ws generalizing before k with
  | nil => cases here
  | cons x ws ih =>
    cases k with
    | zero =>
      cases here
      rw [List.take_zero,List.append_nil]
      exact each.1
    | succ k =>
      have later := ih each.2 here
      rwa [List.append_assoc] at later

-- `before` has been yielded when `g` starts, and `post` holds of what it returns and of all that has
-- been yielded then.
structure Traced (good : List W → W → Prop) (before : List W) (g : Generator W E α) (post : α → List W → Prop) : Prop where
  each : Good good before g.yields
  ends : ∀ a, g.ended = .ok a → post a (before ++ g.yields)

section
variable {good : List W → W → Prop} {before : List W}

theorem tracedPure {a : α} {post : α → List W → Prop} (holds : post a before) :
    Traced good before (pure a : Generator W E α) post where
  each := trivial
  ends a' ended := by
    cases ended
    exact (List.append_nil before).symm ▸ holds

theorem tracedExcept {e : Except E α} {post : α → List W → Prop} (holds : ∀ a, e = .ok a → post a before) :
    Traced good before (ofExcept e : Generator W E α) post where
  each := trivial
  ends a ended := (List.append_nil before).symm ▸ holds a ended

theorem tracedYield {w : W} {post : Unit → List W → Prop} (own : good before w) (holds : post () (before ++ [w])) :
    Traced good before (yield w : Generator W E Unit) post where
  each := ⟨own,trivial⟩
  ends _ _ := holds

theorem tracedBind {g : Generator W E α} {f : α → Generator W E β} (mid : α → List W → Prop) {post : β → List W → Prop}
    (first : Traced good before g mid) (next : ∀ a before', mid a before' → Traced good before' (f a) post) :
    Traced good before (g >>= f) post := by
  cases ended : g.ended with
  | error e =>
    rw [bindError f ended]
    exact ⟨first.each,fun b other => nomatch other⟩
  | ok a =>
    rw [bindOk f ended]
    have rest := next a _ (first.ends a ended)
    refine ⟨goodAppend.mpr ⟨first.each,rest.each⟩,fun b done => ?_⟩
    rw [← List.append_assoc]
    exact rest.ends b done

theorem tracedEach {body : σ → X → Generator W E σ} (inv : σ → List W → Prop) {xs : List X}
    (step : ∀ s before x, x ∈ xs → inv s before → Traced good before (body s x) inv) (s : σ) (start : inv s before) :
    Traced good before (forEach body s xs) inv := by
  induction xs generalizing s before with
  | nil => exact tracedPure start
  | cons x xs ih =>
    refine tracedBind inv (step s before x List.mem_cons_self start) (fun s' before' reached => ?_)
    exact ih (fun s before x mem => step s before x (List.mem_cons_of_mem _ mem)) s' reached

theorem tracedThrough {g : Generator X E α} {body : σ → X → Generator W E σ} (inv : σ → List W → Prop)
    (step : ∀ s before x, x ∈ g.yields → inv s before → Traced good before (body s x) inv) (s : σ) (start : inv s before) :
    Traced good before (through g body s) (fun r before => inv r.2 before) :=
  tracedBind inv (tracedEach inv step s start) (fun _ before reached =>
    tracedBind (fun _ before' => before' = before) (tracedExcept (fun _ _ => rfl))
      (fun _ _ same => tracedPure (same ▸ reached)))

theorem tracedThrow {e : E} {post : α → List W → Prop} : Traced good before (throw e : Generator W E α) post where
  each := trivial
  ends _ ended := by cases ended

theorem tracedOver {goodSource : List X → X → Prop} {body : σ → X → Generator W E σ} (inv : List X → σ → List W → Prop)
    (step : ∀ seen s before x, goodSource seen x → inv seen s before →
      Traced good before (body s x) (inv (seen ++ [x]))) {seen xs : List X} (own : Good goodSource seen xs) (s : σ)
    (start : inv seen s before) : Traced good before (forEach body s xs) (inv (seen ++ xs)) := by
  induction xs generalizing seen s before with
  | nil =>
    rw [List.append_nil]
    exact tracedPure start
  | cons x xs ih =>
    refine tracedBind (inv (seen ++ [x])) (step seen s before x own.1 start) (fun s' before' reached => ?_)
    have rest := ih own.2 s' reached
    rwa [List.append_assoc,List.singleton_append] at rest

theorem tracedFollows {goodSource : List X → X → Prop} {g : Generator X E α} {ends : α → List X → Prop}
    {body : σ → X → Generator W E σ} (source : Traced goodSource [] g ends) (inv : List X → σ → List W → Prop)
    (step : ∀ seen s before x, goodSource seen x → inv seen s before →
      Traced good before (body s x) (inv (seen ++ [x]))) (s : σ) (start : inv [] s before) :
    Traced good before (through g body s) (fun r before => ∃ seen, ends r.1 seen ∧ inv seen r.2 before) :=
  tracedBind (inv g.yields) (tracedOver inv step source.each s start) (fun _ _ reached =>
    tracedBind (fun a before' => before' = _ ∧ g.ended = .ok a) (tracedExcept (fun _ ended => ⟨rfl,ended⟩))
      (fun a _ both => tracedPure ⟨g.yields,source.ends a both.2,both.1 ▸ reached⟩))

end

def notesThrough : Nat → List (Z ⊕ Y) → Option (List Z)
  | _, [] => none
  | k, .inl z::ws => (notesThrough k ws).map (z :: ·)
  | 0, .inr _::_ => some []
  | k+1, .inr _::ws => notesThrough k ws

def notesOf (ws : List (Z ⊕ Y)) : List Z := ws.filterMap Sum.getLeft?
def valuesOf (ws : List (Z ⊕ Y)) : List Y := ws.filterMap Sum.getRight?

theorem notesBelow {k : Nat} {ws : List (Z ⊕ Y)} {zs : List Z} (h : notesThrough k ws = some zs) :
    k < (valuesOf ws).length := by
  induction ws generalizing k zs with
  | nil => cases h
  | cons w ws ih =>
    cases w with
    | inl z =>
      unfold notesThrough at h
      obtain ⟨later,rest,-⟩ := Option.map_eq_some_iff.mp h
      exact ih rest
    | inr y =>
      cases k with
      | zero => exact Nat.succ_pos _
      | succ k => exact Nat.succ_lt_succ (ih h)

theorem valueAt {good : List (Z ⊕ Y) → Z ⊕ Y → Prop} {before ws : List (Z ⊕ Y)} (each : Good good before ws) {k : Nat} {y : Y}
    (here : (valuesOf ws)[k]? = some y) : ∃ zs front, notesThrough k ws = some zs ∧ good (before ++ front) (.inr y) ∧
      notesOf front = zs ∧ (valuesOf front).length = k := by
  induction ws generalizing before k with
  | nil => cases here
  | cons w ws ih =>
    obtain ⟨first,rest⟩ := each
    cases w with
    | inl z =>
      obtain ⟨zs,front,notes,own,same,count⟩ := ih rest here
      refine ⟨z::zs,.inl z::front,?_,?_,congrArg (z :: ·) same,count⟩
      · unfold notesThrough
        rw [notes]
        rfl
      · rwa [List.append_assoc] at own
    | inr y' =>
      cases k with
      | zero =>
        cases here
        exact ⟨[],[],rfl,by rwa [List.append_nil],rfl,rfl⟩
      | succ k =>
        obtain ⟨zs,front,notes,own,same,count⟩ := ih rest here
        refine ⟨zs,.inr y'::front,notes,?_,same,congrArg (· + 1) count⟩
        rwa [List.append_assoc] at own

end Generator
end PgLlmBatch.Base
