import PgLlmBatch.Base.Generator

/-! Generators within a budget: what they yield costs, every state they reach accounts for the cost
so far, and no more than a limit is spent. Notes are yields that pass through a consumer, and a
source that may never end is read as far as it is asked for. -/
namespace PgLlmBatch.Base
namespace Generator
variable {W X Y Z E α β σ : Type}

def spent (cost : W → Nat) (ws : List W) : Nat := (ws.map cost).sum

@[simp] theorem spentNil (cost : W → Nat) : spent cost [] = 0 := rfl
@[simp] theorem spentCons (cost : W → Nat) (w : W) (ws : List W) : spent cost (w::ws) = cost w + spent cost ws := by
  simp [spent]
@[simp] theorem spentAppend (cost : W → Nat) (ws vs : List W) :
    spent cost (ws ++ vs) = spent cost ws + spent cost vs := by
  simp [spent]

-- `before` has been spent when `g` starts, and `post` holds of what it returns and of what has been
-- spent then.
structure Budgeted (cost : W → Nat) (fits : W → Prop) (limit before : Nat) (g : Generator W E α) (post : α → Nat → Prop) :
    Prop where
  fits : ∀ w ∈ g.yields, fits w
  within : before ≤ limit → before + spent cost g.yields ≤ limit
  ends : ∀ a, g.ended = .ok a → post a (before + spent cost g.yields)

section
variable {cost : W → Nat} {fits : W → Prop} {limit before : Nat}

theorem budgetedPure {a : α} {post : α → Nat → Prop} (holds : post a before) :
    Budgeted cost fits limit before (pure a : Generator W E α) post where
  fits _ mem := nomatch mem
  within enough := enough
  ends a' ended := by
    cases ended
    exact holds

theorem budgetedExcept {e : Except E α} {post : α → Nat → Prop} (holds : ∀ a, e = .ok a → post a before) :
    Budgeted cost fits limit before (ofExcept e : Generator W E α) post where
  fits _ mem := nomatch mem
  within enough := enough
  ends a ended := holds a ended

theorem budgetedThrow {e : E} {post : α → Nat → Prop} :
    Budgeted cost fits limit before (throw e : Generator W E α) post where
  fits _ mem := nomatch mem
  within enough := enough
  ends _ ended := nomatch ended

theorem budgetedYield {w : W} {post : Unit → Nat → Prop} (good : fits w)
    (enough : before ≤ limit → before + cost w ≤ limit) (holds : post () (before + cost w)) : Budgeted cost fits limit before (yield w : Generator W E Unit) post where
  fits w' mem := by
    rw [List.mem_singleton.mp mem]
    exact good
  within start := by
    simp only [yield,spentCons,spentNil]
    exact enough start
  ends a _ := by
    simp only [yield,spentCons,spentNil,Nat.add_zero]
    exact holds

theorem budgetedBind {g : Generator W E α} {f : α → Generator W E β} (mid : α → Nat → Prop) {post : β → Nat → Prop}
    (first : Budgeted cost fits limit before g mid)
    (next : ∀ a n, mid a n → Budgeted cost fits limit n (f a) post) :
    Budgeted cost fits limit before (g >>= f) post := by
  cases ended : g.ended with
  | error e =>
    rw [bindError f ended]
    exact ⟨first.fits,first.within,fun b other => nomatch other⟩
  | ok a =>
    rw [bindOk f ended]
    have rest := next a _ (first.ends a ended)
    refine ⟨fun w mem => ?_,fun enough => ?_,fun b done => ?_⟩
    · rcases List.mem_append.mp mem with here | there
      · exact first.fits w here
      · exact rest.fits w there
    · have both := rest.within (first.within enough)
      simp only [spentAppend]
      omega
    · have holds := rest.ends b done
      simpa only [spentAppend,Nat.add_assoc] using holds

theorem budgetedEach {body : σ → X → Generator W E σ} {inv : σ → Nat → Prop} {xs : List X}
    (step : ∀ s n x, x ∈ xs → inv s n → Budgeted cost fits limit n (body s x) inv) (s : σ) (start : inv s before) :
    Budgeted cost fits limit before (forEach body s xs) inv := by
  induction xs generalizing s before with
  | nil => exact budgetedPure start
  | cons x xs ih =>
    refine budgetedBind inv (step s before x List.mem_cons_self start) (fun s' n reached => ?_)
    exact ih (fun s n x mem => step s n x (List.mem_cons_of_mem _ mem)) s' reached

theorem budgetedThrough {g : Generator X E α} {body : σ → X → Generator W E σ} (inv : σ → Nat → Prop)
    (step : ∀ s n x, x ∈ g.yields → inv s n → Budgeted cost fits limit n (body s x) inv) (s : σ) (start : inv s before) :
    Budgeted cost fits limit before (through g body s) (fun r n => inv r.2 n) :=
  budgetedBind inv (budgetedEach step s start) (fun _ n reached =>
    budgetedBind (fun _ m => m = n) (budgetedExcept (fun _ _ => rfl)) (fun _ _ same => budgetedPure (same ▸ reached)))

end

def note (z : Z) : Generator (Z ⊕ Y) E Unit := yield (.inl z)

def lift (g : Generator Y E α) : Generator (Z ⊕ Y) E α := ⟨g.yields.map .inr,g.ended⟩

def unnoted (g : Generator (Z ⊕ Y) E α) : Generator Y E α := ⟨g.yields.filterMap Sum.getRight?,g.ended⟩

@[simp] theorem unnotedPure (a : α) : (pure a : Generator (Z ⊕ Y) E α).unnoted = pure a := rfl
@[simp] theorem unnotedThrow (e : E) : (throw e : Generator (Z ⊕ Y) E α).unnoted = throw e := rfl
@[simp] theorem unnotedExcept (e : Except E α) : (ofExcept e : Generator (Z ⊕ Y) E α).unnoted = ofExcept e := rfl
@[simp] theorem unnotedYield (y : Y) : (yield (.inr y) : Generator (Z ⊕ Y) E Unit).unnoted = yield y := rfl
@[simp] theorem unnotedNote (z : Z) : (note z : Generator (Z ⊕ Y) E Unit).unnoted = pure () := rfl

@[simp] theorem unnotedBind (g : Generator (Z ⊕ Y) E α) (f : α → Generator (Z ⊕ Y) E β) :
    (g >>= f).unnoted = g.unnoted >>= fun a => (f a).unnoted := by
  cases ended : g.ended with
  | error e =>
    rw [bindError f ended,bindError _ (show g.unnoted.ended = .error e from ended)]
    rfl
  | ok a =>
    rw [bindOk f ended,bindOk _ (show g.unnoted.ended = .ok a from ended)]
    simp only [unnoted,List.filterMap_append]

@[simp] theorem unnotedLift (g : Generator Y E α) : (lift g : Generator (Z ⊕ Y) E α).unnoted = g := by
  obtain ⟨ys,ended⟩ := g
  have kept : (ys.map (Sum.inr : Y → Z ⊕ Y)).filterMap Sum.getRight? = ys := by
    induction ys with
    | nil => rfl
    | cons y ys ih => simpa using ih
  exact congrArg (Generator.mk · ended) kept

theorem unnotedEach (body : σ → X → Generator (Z ⊕ Y) E σ) (s : σ) (xs : List X) :
    (forEach body s xs).unnoted = forEach (fun s x => (body s x).unnoted) s xs := by
  induction xs generalizing s with
  | nil => rfl
  | cons x xs ih =>
    simp only [forEach,unnotedBind]
    exact congrArg (_ >>= ·) (funext ih)

def passing (body : σ → X → Generator Y E σ) (s : σ) : Z ⊕ X → Generator (Z ⊕ Y) E σ
  | .inl z => note z >>= fun _ => pure s
  | .inr x => lift (body s x)

def noted (g : Generator (Z ⊕ X) E α) (body : σ → X → Generator Y E σ) (s : σ) : Generator (Z ⊕ Y) E (α × σ) :=
  through g (passing body) s

theorem unnotedPassing (body : σ → X → Generator Y E σ) (s : σ) (ws : List (Z ⊕ X)) :
    (forEach (passing body) s ws).unnoted = forEach body s (ws.filterMap Sum.getRight?) := by
  induction ws generalizing s with
  | nil => rfl
  | cons w ws ih =>
    simp only [forEach,unnotedBind]
    cases w with
    | inl z =>
      simp only [passing,unnotedBind,unnotedNote,unnotedPure,pureBind]
      exact ih s
    | inr x =>
      simp only [passing,unnotedLift,List.filterMap_cons,Sum.getRight?_inr,forEach]
      exact congrArg (_ >>= ·) (funext ih)

theorem unnotedNoted (g : Generator (Z ⊕ X) E α) (body : σ → X → Generator Y E σ) (s : σ) :
    (noted g body s).unnoted = through g.unnoted body s := by
  simp only [noted,through,unnotedBind,unnotedPassing,unnotedExcept,unnotedPure]
  rfl

theorem throughYields (g : Generator X E α) (body : σ → X → Generator Y E σ) (s : σ) :
    (through g body s).yields = (forEach body s g.yields).yields := by
  unfold through
  cases ended : (forEach body s g.yields).ended with
  | error e => rw [bindError _ ended]
  | ok s' =>
    rw [bindOk _ ended]
    cases g.ended with
    | error e => exact List.append_nil _
    | ok a => exact List.append_nil _

theorem throughOk {g : Generator X E α} {body : σ → X → Generator Y E σ} {s : σ} {r : α × σ}
    (done : (through g body s).ended = .ok r) : g.ended = .ok r.1 ∧ (forEach body s g.yields).ended = .ok r.2 := by
  unfold through at done
  cases ended : (forEach body s g.yields).ended with
  | error e =>
    rw [bindError _ ended] at done
    cases done
  | ok s' =>
    rw [bindOk _ ended] at done
    cases last : g.ended with
    | error e =>
      rw [last] at done
      cases done
    | ok a =>
      rw [last] at done
      cases done
      exact ⟨rfl,rfl⟩

section
variable {cost : Z → Nat} {fits : Z → Prop} {limit before : Nat}

theorem freeYields (ys : List Y) : spent (Sum.elim cost (fun _ => 0)) (ys.map (Sum.inr : Y → Z ⊕ Y)) = 0 := by
  induction ys with
  | nil => rfl
  | cons y ys ih => simpa using ih

variable (cost) in
theorem passingSpent (body : σ → X → Generator Y E σ) (s : σ) (ws : List (Z ⊕ X)) :
    spent (Sum.elim cost (fun _ => 0)) (forEach (passing body) s ws).yields ≤ spent (Sum.elim cost (fun _ => 0)) ws ∧
    ((forEach (passing body) s ws).ended.isOk = true →
      spent (Sum.elim cost (fun _ => 0)) (forEach (passing body) s ws).yields = spent (Sum.elim cost (fun _ => 0)) ws) := by
  induction ws generalizing s with
  | nil => exact ⟨Nat.le_refl _,fun _ => rfl⟩
  | cons w ws ih =>
    cases w with
    | inl z =>
      obtain ⟨less,same⟩ := ih s
      have turned : forEach (passing body) s (.inl z::ws) =
          ⟨.inl z::(forEach (passing body) s ws).yields,(forEach (passing body) s ws).ended⟩ := rfl
      rw [turned]
      simp only [spentCons,Sum.elim_inl]
      exact ⟨by omega,fun ok => by rw [same ok]⟩
    | inr x =>
      simp only [forEach,spentCons,Sum.elim_inr,Nat.zero_add]
      have start : spent (Sum.elim cost (fun _ => 0)) (passing body s (.inr x) : Generator (Z ⊕ Y) E σ).yields = 0 :=
        freeYields _
      cases ended : (body s x).ended with
      | error e =>
        rw [bindError _ (show (passing body s (.inr x)).ended = .error e from ended)]
        refine ⟨?_,fun other => ?_⟩
        · simp only [start,Nat.zero_le]
        · cases other
      | ok s' =>
        rw [bindOk _ (show (passing body s (.inr x)).ended = .ok s' from ended)]
        simpa only [spentAppend,start,Nat.zero_add] using ih s'

theorem passingFits (body : σ → X → Generator Y E σ) (s : σ) {ws : List (Z ⊕ X)}
    (all : ∀ w ∈ ws, Sum.elim fits (fun _ => True) w) :
    ∀ w ∈ (forEach (passing body) s ws).yields, Sum.elim fits (fun _ => True) w := by
  induction ws generalizing s with
  | nil => exact fun w mem => nomatch mem
  | cons w ws ih =>
    have rest := fun s => ih s (fun w mem => all w (List.mem_cons_of_mem _ mem))
    cases w with
    | inl z =>
      intro w mem
      rcases List.mem_cons.mp mem with rfl | there
      · exact all _ List.mem_cons_self
      · exact rest s w there
    | inr x =>
      have free : ∀ w ∈ (passing body s (.inr x) : Generator (Z ⊕ Y) E σ).yields, Sum.elim fits (fun _ => True) w := by
        intro w mem
        obtain ⟨y,_,rfl⟩ := List.mem_map.mp mem
        trivial
      simp only [forEach]
      cases ended : (body s x).ended with
      | error e =>
        rw [bindError _ (show (passing body s (.inr x)).ended = .error e from ended)]
        exact free
      | ok s' =>
        rw [bindOk _ (show (passing body s (.inr x)).ended = .ok s' from ended)]
        intro w mem
        rcases List.mem_append.mp mem with here | there
        · exact free w here
        · exact rest s' w there

theorem budgetedNoted {g : Generator (Z ⊕ X) E α} {post : α → Nat → Prop}
    (budget : Budgeted (Sum.elim cost (fun _ => 0)) (Sum.elim fits (fun _ => True)) limit before g post)
    (body : σ → X → Generator Y E σ) (s : σ) :
    Budgeted (Sum.elim cost (fun _ => 0)) (Sum.elim fits (fun _ => True)) limit before (noted g body s)
      (fun r n => post r.1 n) := by
  have yields : (noted g body s).yields = (forEach (passing body) s g.yields).yields := throughYields _ _ _
  obtain ⟨less,same⟩ := passingSpent cost body s g.yields
  refine ⟨?_,fun enough => ?_,fun r done => ?_⟩
  · rw [yields]
    exact passingFits body s budget.fits
  · have whole := budget.within enough
    rw [yields]
    omega
  · obtain ⟨first,last⟩ := throughOk done
    rw [yields,same (by rw [last]; rfl)]
    exact budget.ends r.1 first

end

inductive Pull (X E : Type) where
  | value (x : X)
  | exhausted
  | raised (e : E)

-- The loop over a source that may never end, given up when it asks for a value too many.
def pulls (body : σ → X → Generator Y E σ) (source : Nat → Pull X E) (fuel k : Nat) (s : σ) : Generator Y E (Option σ) :=
  match source k with
  | .exhausted => pure (some s)
  | .raised e => throw e
  | .value x => match fuel with
      | 0 => pure none
      | fuel+1 => body s x >>= fun s => pulls body source fuel (k + 1) s

def pulled (source : Nat → Pull X E) (fuel k : Nat) : List X × Except E Unit :=
  match source k with
  | .exhausted => ([],.ok ())
  | .raised e => ([],.error e)
  | .value x => match fuel with
      | 0 => ([],.ok ())
      | fuel+1 => (x::(pulled source fuel (k + 1)).1,(pulled source fuel (k + 1)).2)

theorem pullsEnd {body : σ → X → Generator Y E σ} (progress : σ → Nat) {limit : Nat}
    (step : ∀ s x s', (body s x).ended = .ok s' → progress s < progress s' ∧ progress s' ≤ limit)
    (source : Nat → Pull X E) (fuel k : Nat) (s : σ) (enough : limit < progress s + fuel) (fits : progress s ≤ limit) :
    pulls body source fuel k s = forEach body s (pulled source fuel k).1 >>= fun s' =>
      ofExcept (pulled source fuel k).2 >>= fun _ => pure (some s') := by
  induction fuel generalizing k s with
  | zero => omega
  | succ fuel ih =>
    unfold pulls pulled
    cases source k with
    | exhausted => rfl
    | raised e => rfl
    | value x =>
      dsimp only
      rw [forEach,bindAssoc]
      cases ended : (body s x).ended with
      | error e => rw [bindError _ ended,bindError _ ended]
      | ok s' =>
        obtain ⟨more,kept⟩ := step s x s' ended
        rw [bindOk _ ended,bindOk _ ended,ih (k + 1) s' (by omega) kept]

theorem bindYields {g : Generator Y E α} {f : α → Generator Y E β} {y : Y} (mem : y ∈ (g >>= f).yields) :
    y ∈ g.yields ∨ ∃ a, g.ended = .ok a ∧ y ∈ (f a).yields := by
  cases ended : g.ended with
  | error e =>
    rw [bindError f ended] at mem
    exact .inl mem
  | ok a =>
    rw [bindOk f ended] at mem
    exact (List.mem_append.mp mem).imp id (fun there => ⟨a,rfl,there⟩)

theorem pullsYields {body : σ → X → Generator Y E σ} {good : Y → Prop} (step : ∀ s x, ∀ y ∈ (body s x).yields, good y)
    (source : Nat → Pull X E) (fuel k : Nat) (s : σ) : ∀ y ∈ (pulls body source fuel k s).yields, good y := by
  induction fuel generalizing k s with
  | zero =>
    intro y mem
    unfold pulls at mem
    split at mem <;> cases mem
  | succ fuel ih =>
    intro y mem
    unfold pulls at mem
    split at mem
    · cases mem
    · cases mem
    · rename_i x _
      rcases bindYields mem with here | ⟨s',_,there⟩
      · exact step s x y here
      · exact ih (k + 1) s' y there

end Generator
end PgLlmBatch.Base
