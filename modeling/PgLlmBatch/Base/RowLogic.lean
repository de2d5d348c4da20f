import PgLlmBatch.Base.RowLocking

/-! A program logic for transactions over a row-locking table. A transaction may
rely on the rows it holds locked and on nothing else; what each of its acts must
satisfy is a rule. The server meets the logic's specification of every statement. -/
namespace PgLlmBatch.Base.RowLocking
open Function (update)
open Pool (Caller)

section
variable {Key Row Scope Work Answer Call E α : Type}

def Linked : Option Row → List (Write Key Row) → Option Row → Prop
  | a, [], b => a = b
  | a, w::ws, b => w.before = a ∧ Linked (some w.after) ws b

theorem linkedAppend {a c : Option Row} {xs ys : List (Write Key Row)} :
    Linked a (xs ++ ys) c ↔ ∃ b, Linked a xs b ∧ Linked b ys c := by
  induction xs generalizing a with
  | nil => simp [Linked]
  | cons w ws ih => simp [Linked,ih,and_assoc]

def values (a : Option Row) (ws : List (Write Key Row)) : List Row := a.toList ++ ws.map Write.after

theorem linkedLast {a b : Option Row} {ws : List (Write Key Row)} (h : Linked a ws b) :
    b = (values a ws).getLast? := by
  induction ws generalizing a with
  | nil => cases a <;> exact h.symm
  | cons w ws ih =>
    rw [ih h.2]
    simp [values,List.getLast?_append,List.getLast?_cons]

theorem linkedPairwise {R : Row → Row → Prop} (trans : ∀ x y z, R x y → R y z → R x z)
    {a b : Option Row} {ws : List (Write Key Row)} (grows : ∀ w ∈ ws, ∀ old ∈ w.before, R old w.after)
    (h : Linked a ws b) : (values a ws).Pairwise R := by
  induction ws generalizing a with
  | nil => cases a <;> simp [values]
  | cons w ws ih =>
    have rest := ih (fun x here => grows x (List.mem_cons_of_mem w here)) h.2
    cases a with
    | none => exact rest
    | some old =>
      have first : R old w.after := grows w (by simp) old (by simp [h.1])
      refine List.Pairwise.cons (fun x here => ?_) rest
      obtain rfl | later := List.mem_cons.mp here
      · exact first
      · exact trans _ _ _ first (List.rel_of_pairwise_cons rest later)

-- `known` are the rows the transaction holds locked, `made` what this call has done.
structure Situation (Key Row Scope Work : Type) where
  scope : Option Scope
  known : Key → Option Row
  made : List (Act Key Row Work)

section
variable [DecidableEq Key]

def Situation.learn (st : Situation Key Row Scope Work) (k : Key) (row : Row) : Situation Key Row Scope Work :=
  {st with known := update st.known k (some row)}

def Situation.wrote (st : Situation Key Row Scope Work) (w : Write Key Row) : Situation Key Row Scope Work :=
  {st with known := update st.known w.key (some w.after), made := st.made ++ [.write w]}

def Situation.did (st : Situation Key Row Scope Work) (item : Work) : Situation Key Row Scope Work :=
  {st with made := st.made ++ [.work item]}

-- `rule` is what every act must satisfy, `accepts` which replies are considered.
def spec (policy : Scope → Key → Bool) (rule : Act Key Row Work → Prop)
    (accepts : (s : Statement Key Row Scope Work) → Reply Answer s → Prop) :
    Program.Spec (Statement Key Row Scope Work) (Reply Answer) (Situation Key Row Scope Work)
  | .setScope scope, st, Q => Q () {st with scope := some scope}
  | .select k, st, Q => ∀ r, accepts (.select k) r → Q r st
  | .selectForUpdate k, st, Q =>
      (visible policy st.scope k = false → accepts (.selectForUpdate k) none → Q none st) ∧
      (visible policy st.scope k = true →
        match st.known k with
        | some row => accepts (.selectForUpdate k) (some row) → Q (some row) st
        | none => (accepts (.selectForUpdate k) none → Q none st) ∧
            ∀ row, accepts (.selectForUpdate k) (some row) → Q (some row) (st.learn k row))
  | .insertIfAbsent k row, st, Q =>
      visible policy st.scope k = true →
        (accepts (.insertIfAbsent k row) false → Q false st) ∧
        (st.known k = none → rule (.write ⟨k,none,row⟩) ∧
          (accepts (.insertIfAbsent k row) true → Q true (st.wrote ⟨k,none,row⟩)))
  | .update k row, st, Q =>
      (visible policy st.scope k = false → accepts (.update k row) 0 → Q (0 : Nat) st) ∧
      (visible policy st.scope k = true → ∃ old, st.known k = some old ∧ rule (.write ⟨k,some old,row⟩) ∧
        (accepts (.update k row) 1 → Q (1 : Nat) (st.wrote ⟨k,some old,row⟩)))
  | .work item, st, Q => rule (.work item) ∧
      ∀ answer, accepts (.work item) answer → Q answer (st.did item)

theorem specMonotone (policy : Scope → Key → Bool) (rule : Act Key Row Work → Prop)
    (accepts : (s : Statement Key Row Scope Work) → Reply Answer s → Prop) :
    Program.Monotone (spec policy rule accepts) := by
  intro s st Q R h weaker
  cases s with
  | setScope scope => exact weaker _ _ h
  | select k => exact fun r ok => weaker _ _ (h r ok)
  | selectForUpdate k =>
    refine ⟨fun hidden ok => weaker _ _ (h.1 hidden ok),fun shown => ?_⟩
    have seen := h.2 shown
    cases known : st.known k with
    | some row =>
      simp only [known] at seen ⊢
      exact fun ok => weaker _ _ (seen ok)
    | none =>
      simp only [known] at seen ⊢
      exact ⟨fun ok => weaker _ _ (seen.1 ok),fun row ok => weaker _ _ (seen.2 row ok)⟩
  | insertIfAbsent k row =>
    intro shown
    obtain ⟨conflict,inserted⟩ := h shown
    exact ⟨fun ok => weaker _ _ (conflict ok),
      fun absent => ⟨(inserted absent).1,fun ok => weaker _ _ ((inserted absent).2 ok)⟩⟩
  | update k row =>
    refine ⟨fun hidden ok => weaker _ _ (h.1 hidden ok),fun shown => ?_⟩
    obtain ⟨old,known,allowed,done⟩ := h.2 shown
    exact ⟨old,known,allowed,fun ok => weaker _ _ (done ok)⟩
  | work item => exact ⟨h.1,fun answer ok => weaker _ _ (h.2 answer ok)⟩

def knownOf (sh : Shared Call Key Row Work) (sc : Scratch Call Key Row Scope Work) (t : Nat) :
    Key → Option Row :=
  fun k => if sh.holder k = some t then view sh sc k else none

inductive Change (rule : Act Key Row Work → Prop) (caller : Caller Call)
    (sh : Shared Call Key Row Work) (sc : Scratch Call Key Row Scope Work) :
    Shared Call Key Row Work → Scratch Call Key Row Scope Work → List (Act Key Row Work) → Prop where
  | quiet (scope : Option Scope) : Change rule caller sh sc sh {sc with scope := scope} []
  | lock (k : Key) (row : Row) (seen : view sh sc k = some row) (open_ : free sh caller.tx k) :
      Change rule caller sh sc (take sh caller.tx k) sc []
  | write (w : Write Key Row) (seen : view sh sc w.key = w.before) (open_ : free sh caller.tx w.key)
      (allowed : rule (.write w)) :
      Change rule caller sh sc (take sh caller.tx w.key) (put sc caller w) [.write w]
  | work (item : Work) (allowed : rule (.work item)) :
      Change rule caller sh sc sh (perform sc caller item) [.work item]

@[simp] theorem putScope (sc : Scratch Call Key Row Scope Work) (caller : Caller Call)
    (w : Write Key Row) : (put sc caller w).scope = sc.scope := rfl
omit [DecidableEq Key] in
@[simp] theorem performScope (sc : Scratch Call Key Row Scope Work) (caller : Caller Call)
    (item : Work) : (perform sc caller item).scope = sc.scope := rfl
@[simp] theorem knownTake (sh : Shared Call Key Row Work) (sc : Scratch Call Key Row Scope Work)
    (t : Nat) (k : Key) : knownOf (take sh t k) sc t = update (knownOf sh sc t) k (view sh sc k) := by
  funext j
  by_cases same : j = k
  · subst j; simp [knownOf,take,view]
  · simp [knownOf,take,view,same]

theorem knownPut (sh : Shared Call Key Row Work) (sc : Scratch Call Key Row Scope Work)
    (caller : Caller Call) (w : Write Key Row) :
    knownOf (take sh caller.tx w.key) (put sc caller w) caller.tx =
      update (knownOf sh sc caller.tx) w.key (some w.after) := by
  funext j
  by_cases same : j = w.key
  · subst j; simp [knownOf,take,view,put]
  · simp [knownOf,take,view,put,same]

theorem execSound {policy : Scope → Key → Bool} {rule : Act Key Row Work → Prop}
    {accepts : (s : Statement Key Row Scope Work) → Reply Answer s → Prop}
    {caller : Caller Call} {s : Statement Key Row Scope Work} {answer : Answer}
    {sh sh' : Shared Call Key Row Work} {sc sc' : Scratch Call Key Row Scope Work}
    {r : Reply Answer s} {made : List (Act Key Row Work)} {Q : Reply Answer s → Situation Key Row Scope Work → Prop}
    (done : exec policy caller s answer sh sc = some (r,sh',sc'))
    (ok : accepts s r)
    (h : spec policy rule accepts s ⟨sc.scope,knownOf sh sc caller.tx,made⟩ Q) :
    ∃ added, Change rule caller sh sc sh' sc' added ∧
      Q r ⟨sc'.scope,knownOf sh' sc' caller.tx,made ++ added⟩ := by
  cases s with
  | setScope scope =>
    cases Option.some.inj done
    exact ⟨[],.quiet (some scope),by rw [List.append_nil]; exact h⟩
  | select k =>
    cases Option.some.inj done
    exact ⟨[],.quiet sc.scope,by simpa using h _ ok⟩
  | work item =>
    cases Option.some.inj done
    exact ⟨[.work item],.work item h.1,h.2 _ ok⟩
  | selectForUpdate k =>
    simp only [exec] at done
    split at done
    · rename_i shown
      have seen := h.2 shown
      split at done
      · rename_i absent
        cases Option.some.inj done
        have unknown : knownOf sh sc caller.tx k = none := by simp [knownOf,absent]
        simp only [unknown] at seen
        exact ⟨[],.quiet sc.scope,by simpa using seen.1 ok⟩
      · rename_i row present
        split at done <;> try contradiction
        rename_i available
        cases Option.some.inj done
        refine ⟨[],.lock k row present available,?_⟩
        by_cases mine : sh.holder k = some caller.tx
        · have known : knownOf sh sc caller.tx k = some row := by simp [knownOf,mine,present]
          simp only [known] at seen
          have same : update (knownOf sh sc caller.tx) k (view sh sc k) = knownOf sh sc caller.tx := by
            rw [present,← known]; exact Function.update_eq_self k _
          simpa [same] using seen ok
        · have unknown : knownOf sh sc caller.tx k = none := by simp [knownOf,mine]
          simp only [unknown] at seen
          simpa [Situation.learn,present] using seen.2 row ok
    · rename_i hidden
      cases Option.some.inj done
      exact ⟨[],.quiet sc.scope,by simpa using h.1 (by simpa using hidden) ok⟩
  | insertIfAbsent k row =>
    simp only [exec] at done
    split at done <;> try contradiction
    rename_i guard
    obtain ⟨conflict,inserted⟩ := h guard.1
    split at done
    · cases Option.some.inj done
      exact ⟨[],.quiet sc.scope,by simpa using conflict ok⟩
    · rename_i absent
      cases Option.some.inj done
      have unknown : knownOf sh sc caller.tx k = none := by simp [knownOf,absent]
      obtain ⟨allowed,next⟩ := inserted unknown
      refine ⟨[.write ⟨k,none,row⟩],.write ⟨k,none,row⟩ absent guard.2 allowed,?_⟩
      simpa [Situation.wrote,knownPut sh sc caller ⟨k,none,row⟩] using next ok
  | update k row =>
    simp only [exec] at done
    split at done
    · rename_i shown
      obtain ⟨old,known,allowed,next⟩ := h.2 shown
      have mine : sh.holder k = some caller.tx := by
        by_contra other
        simp [knownOf,other] at known
      have present : view sh sc k = some old := by simpa [knownOf,mine] using known
      simp only [present] at done
      split at done <;> try contradiction
      rename_i available
      cases Option.some.inj done
      refine ⟨[.write ⟨k,some old,row⟩],.write ⟨k,some old,row⟩ present available allowed,?_⟩
      simpa [Situation.wrote,knownPut sh sc caller ⟨k,some old,row⟩] using next ok
    · rename_i hidden
      cases Option.some.inj done
      exact ⟨[],.quiet sc.scope,by simpa using h.1 (by simpa using hidden) ok⟩

end
end
end PgLlmBatch.Base.RowLocking
