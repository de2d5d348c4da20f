import PgLlmBatch.Base.Pool

/-! Sessions of a pool whose programs issue only what a discipline allows: what such statements
keep of the server and of every open transaction holds in every state of every run. -/
namespace PgLlmBatch.Base.Discipline
open Function (update)
open Pool (Caller Engine Session State Step start step)

structure Rules (S : Type) (Reply : S → Type) where
  allowed : S → Prop
  replies : (s : S) → Reply s → Prop

section
variable {S : Type} {Reply : S → Type} {E α β Call Choice Shared Scratch : Type}

def Rules.spec (k : Rules S Reply) : Program.Spec S Reply Unit :=
  fun s _ Q => k.allowed s ∧ ∀ r, k.replies s r → Q r ()

def Obeys (k : Rules S Reply) (p : Program S Reply E α) : Prop := p.wp k.spec () (fun _ _ => True)

variable {k : Rules S Reply}

theorem rulesMono : Program.Monotone k.spec :=
  fun _ _ _ _ h weaker => ⟨h.1,fun r given => weaker r () (h.2 r given)⟩

theorem obeysBind {p : Program S Reply E α} {f : α → Program S Reply E β} (first : Obeys k p)
    (rest : ∀ a, Obeys k (f a)) : Obeys k (p >>= f) := by
  refine Program.wpBind rulesMono (Program.wpMono rulesMono first ?_)
  rintro (e | a) st' -
  · trivial
  · exact rest a

theorem obeysOfExcept {e : Except E α} {f : α → Program S Reply E β} (rest : ∀ a, e = .ok a → Obeys k (f a)) :
    Obeys k (Program.ofExcept e >>= f) :=
  Program.wpOfExcept _ e f () _ rest (fun _ _ => trivial)

theorem obeysHandle {p : Program S Reply E α} {h : E → Program S Reply E α} (body : Obeys k p)
    (rescue : ∀ e, Obeys k (h e)) : Obeys k (p.handle h) := by
  refine Program.wpHandle rulesMono (Program.wpMono rulesMono body ?_)
  rintro (e | a) st' -
  · exact rescue e
  · trivial

-- What a proof has to give: one statement keeps the server's invariant and its own transaction's.
structure Keeps (engine : Engine S Reply Call Choice Shared Scratch) (code : Call → Program S Reply E α)
    (k : Rules S Reply) (inv : Shared → Prop) (own : Scratch → Prop) (chosen : Choice → Prop) : Prop where
  fresh : own engine.fresh
  calls : ∀ call, Obeys k (code call)
  exec : ∀ c s choice sh sc reply out sc', k.allowed s → chosen choice → inv sh → own sc →
    engine.exec c s choice sh sc = some (reply,out,sc') → k.replies s reply ∧ inv out ∧ own sc'
  committed : ∀ t sh sc, inv sh → own sc → inv (engine.commit t sh sc)
  rolledBack : ∀ t sh sc, inv sh → inv (engine.rollback t sh sc)

structure Orderly (k : Rules S Reply) (inv : Shared → Prop) (own : Scratch → Prop)
    (w : State S Reply E α Call Shared Scratch) : Prop where
  shared : inv w.shared
  scratch : ∀ t, own (w.session t).scratch
  running : ∀ t call p, (w.session t).current = some (call,p) → Obeys k p

def ChosenBy (chosen : Choice → Prop) : Pool.Event Call Choice → Prop
  | .advance _ choice => chosen choice
  | .invoke _ _ | .commit _ | .rollback _ => True

theorem settledRunning {s : Session S Reply E α Call Scratch} {call c : Call} {p q : Program S Reply E α}
    (obeys : Obeys k p) (waiting : (s.settle call p).current = some (c,q)) : Obeys k q := by
  cases result : p.result with
  | some r =>
    rw [Pool.settleDone s call result] at waiting
    cases waiting
  | none =>
    rw [Pool.settleWaiting s call result] at waiting
    cases waiting
    exact obeys

section
variable {inv : Shared → Prop} {own : Scratch → Prop}

theorem orderlyUpdate {w : State S Reply E α Call Shared Scratch} (h : Orderly k inv own w) {out : Shared} {t : Nat}
    {s : Session S Reply E α Call Scratch} (shared : inv out) (scratch : own s.scratch)
    (running : ∀ call p, s.current = some (call,p) → Obeys k p) : Orderly k inv own ⟨out,update w.session t s⟩ := by
  refine ⟨shared,fun u => ?_,fun u => ?_⟩
  · by_cases same : u = t
    · rw [same]
      simpa only [Function.update_self] using scratch
    · simpa only [Function.update_of_ne same] using h.scratch u
  · by_cases same : u = t
    · rw [same]
      simpa only [Function.update_self] using running
    · simpa only [Function.update_of_ne same] using h.running u

variable {engine : Engine S Reply Call Choice Shared Scratch} {code : Call → Program S Reply E α} {chosen : Choice → Prop}

theorem stepOrderly (keeps : Keeps engine code k inv own chosen) {w w' : State S Reply E α Call Shared Scratch}
    {e : Pool.Event Call Choice} (h : Orderly k inv own w) (choice : ChosenBy chosen e)
    (next : step engine code w e = some w') : Orderly k inv own w' := by
  cases Pool.stepSource next with
  | invoke t call active idle =>
    refine orderlyUpdate h h.shared ?_ (fun c p waiting => settledRunning (keeps.calls call) waiting)
    rw [Pool.settleScratch]
    exact h.scratch t
  | advance t choice' call stmt next reply shared scratch active waiting done =>
    obtain ⟨allowed,later⟩ := h.running t call _ waiting
    obtain ⟨given,kept,mine⟩ := keeps.exec _ _ _ _ _ _ _ _ allowed choice h.shared (h.scratch t) done
    refine orderlyUpdate h kept ?_ (fun c p waits => settledRunning (later reply given) waits)
    rw [Pool.settleScratch]
    exact mine
  | commit t active idle =>
    refine orderlyUpdate h (keeps.committed t _ _ h.shared (h.scratch t)) keeps.fresh (fun c p waiting => ?_)
    exact h.running t c p waiting
  | rollback t active =>
    exact orderlyUpdate h (keeps.rolledBack t _ _ h.shared) keeps.fresh (fun c p none_ => by cases none_)

theorem runOrderly (keeps : Keeps engine code k inv own chosen) {w w' : State S Reply E α Call Shared Scratch}
    {es : List (Pool.Event Call Choice)} (h : Orderly k inv own w) (choices : ∀ e ∈ es, ChosenBy chosen e)
    (ran : Runs.run (step engine code) w es = some w') : Orderly k inv own w' := by
  induction es generalizing w with
  | nil =>
    cases ran
    exact h
  | cons e es ih =>
    obtain ⟨mid,first,rest⟩ := Runs.runConsSource ran
    exact ih (stepOrderly keeps h (choices e List.mem_cons_self) first)
      (fun e' here => choices e' (List.mem_cons_of_mem _ here)) rest

theorem reachableOrderly (keeps : Keeps engine code k inv own chosen) {sh : Shared} (begun : inv sh)
    {w : State S Reply E α Call Shared Scratch} {es : List (Pool.Event Call Choice)}
    (choices : ∀ e ∈ es, ChosenBy chosen e) (ran : Runs.run (step engine code) (start engine sh) es = some w) :
    Orderly k inv own w :=
  runOrderly keeps ⟨begun,fun _ => keeps.fresh,fun _ _ _ none_ => by cases none_⟩ choices ran

end
end
end PgLlmBatch.Base.Discipline
