import PgLlmBatch.Base.Pool

/-! A keyed table under READ COMMITTED with row locks, a unique key and row-level
security, as the statements of concurrent transactions see it. A plain SELECT takes
no lock; SELECT FOR UPDATE and a conflicting INSERT wait for the transaction that
holds the key, and a row is visible under the bound scope only. `work` is anything
else the transaction does. The journal is ghost state: what was committed, in order. -/
namespace PgLlmBatch.Base.RowLocking
open Function (update)
open Pool (Caller)

inductive Statement (Key Row Scope Work : Type) where
  | setScope (scope : Scope)
  | select (key : Key)
  | selectForUpdate (key : Key)
  | insertIfAbsent (key : Key) (row : Row)
  | update (key : Key) (row : Row)
  | work (item : Work)
  deriving DecidableEq, Repr

section
variable {Key Row Scope Work Answer Call : Type}

-- INSERT replies whether it returned a row, UPDATE how many rows it changed.
abbrev Reply (Answer : Type) : Statement Key Row Scope Work → Type
  | .setScope _ => Unit
  | .select _ => Option Row
  | .selectForUpdate _ => Option Row
  | .insertIfAbsent _ _ => Bool
  | .update _ _ => Nat
  | .work _ => Answer

structure Write (Key Row : Type) where
  key : Key
  before : Option Row
  after : Row
  deriving DecidableEq, Repr

inductive Act (Key Row Work : Type) where
  | write (w : Write Key Row)
  | work (item : Work)
  deriving DecidableEq, Repr

structure Entry (Call Key Row Work : Type) where
  caller : Caller Call
  act : Act Key Row Work
  deriving DecidableEq, Repr

structure Shared (Call Key Row Work : Type) where
  committed : Key → Option Row
  holder : Key → Option Nat
  journal : List (Entry Call Key Row Work)

structure Scratch (Call Key Row Scope Work : Type) where
  scope : Option Scope
  pending : Key → Option Row
  log : List (Entry Call Key Row Work)

def view (sh : Shared Call Key Row Work) (sc : Scratch Call Key Row Scope Work) (k : Key) : Option Row :=
  (sc.pending k).or (sh.committed k)

def visible (policy : Scope → Key → Bool) (scope : Option Scope) (k : Key) : Bool :=
  match scope with
  | none => false
  | some s => policy s k

def free (sh : Shared Call Key Row Work) (t : Nat) (k : Key) : Prop :=
  sh.holder k = none ∨ sh.holder k = some t
instance (sh : Shared Call Key Row Work) (t k) : Decidable (free sh t k) := by
  unfold free; infer_instance

section
variable [DecidableEq Key]

def take (sh : Shared Call Key Row Work) (t : Nat) (k : Key) : Shared Call Key Row Work :=
  {sh with holder := update sh.holder k (some t)}

def put (sc : Scratch Call Key Row Scope Work) (caller : Caller Call) (w : Write Key Row) :
    Scratch Call Key Row Scope Work :=
  {sc with pending := update sc.pending w.key (some w.after), log := sc.log ++ [⟨caller,.write w⟩]}

def perform (sc : Scratch Call Key Row Scope Work) (caller : Caller Call) (item : Work) :
    Scratch Call Key Row Scope Work :=
  {sc with log := sc.log ++ [⟨caller,.work item⟩]}

-- `none`: the statement waits for another transaction, or is refused by the row
-- policy, after which its transaction can only be rolled back.
def exec (policy : Scope → Key → Bool) (caller : Caller Call) :
    (s : Statement Key Row Scope Work) → Answer → Shared Call Key Row Work →
    Scratch Call Key Row Scope Work →
    Option (Reply Answer s × Shared Call Key Row Work × Scratch Call Key Row Scope Work)
  | .setScope scope, _, sh, sc => some ((),sh,{sc with scope := some scope})
  | .select k, _, sh, sc => some (if visible policy sc.scope k then view sh sc k else none,sh,sc)
  | .selectForUpdate k, _, sh, sc =>
      if visible policy sc.scope k then
        match view sh sc k with
        | none => some (none,sh,sc)
        | some row => if free sh caller.tx k then some (some row,take sh caller.tx k,sc) else none
      else some (none,sh,sc)
  | .insertIfAbsent k row, _, sh, sc =>
      if visible policy sc.scope k ∧ free sh caller.tx k then
        match view sh sc k with
        | some _ => some (false,sh,sc)
        | none => some (true,take sh caller.tx k,put sc caller ⟨k,none,row⟩)
      else none
  | .update k row, _, sh, sc =>
      if visible policy sc.scope k then
        match view sh sc k with
        | none => some (0,sh,sc)
        | some old =>
            if free sh caller.tx k then some (1,take sh caller.tx k,put sc caller ⟨k,some old,row⟩)
            else none
      else some (0,sh,sc)
  | .work item, answer, sh, sc => some (answer,sh,perform sc caller item)

end

def release (sh : Shared Call Key Row Work) (t : Nat) : Key → Option Nat :=
  fun k => if sh.holder k = some t then none else sh.holder k

def blank : Scratch Call Key Row Scope Work := ⟨none,fun _ => none,[]⟩

def commitTo (t : Nat) (sh : Shared Call Key Row Work) (sc : Scratch Call Key Row Scope Work) :
    Shared Call Key Row Work :=
  ⟨view sh sc,release sh t,sh.journal ++ sc.log⟩

def rollbackTo (t : Nat) (sh : Shared Call Key Row Work) (_ : Scratch Call Key Row Scope Work) :
    Shared Call Key Row Work :=
  {sh with holder := release sh t}

def engine [DecidableEq Key] (policy : Scope → Key → Bool) :
    Pool.Engine (Statement Key Row Scope Work) (Reply Answer) Call Answer
      (Shared Call Key Row Work) (Scratch Call Key Row Scope Work) where
  fresh := blank
  exec := exec policy
  commit := commitTo
  rollback := rollbackTo

end
end PgLlmBatch.Base.RowLocking
