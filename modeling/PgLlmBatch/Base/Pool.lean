import PgLlmBatch.Base.Program
import PgLlmBatch.Base.Runs

/-! Sessions that run programs against one shared server, one statement at a time
and in any order. The server decides whether a statement can proceed: a statement
that has to wait is not enabled. Nothing here fixes what the server stores. -/
namespace PgLlmBatch.Base.Pool
open Function (update)

structure Caller (Call : Type) where
  tx : Nat
  seq : Nat
  call : Call
  deriving DecidableEq, Repr

structure Engine (S : Type) (Reply : S → Type) (Call Choice Shared Scratch : Type) where
  fresh : Scratch
  exec : Caller Call → (s : S) → Choice → Shared → Scratch → Option (Reply s × Shared × Scratch)
  commit : Nat → Shared → Scratch → Shared
  rollback : Nat → Shared → Scratch → Shared

inductive Status where | active | committed | rolledBack
  deriving DecidableEq, Repr

inductive Event (Call Choice : Type) where
  | invoke (tx : Nat) (call : Call)
  | advance (tx : Nat) (choice : Choice)
  | commit (tx : Nat)
  | rollback (tx : Nat)
  deriving DecidableEq, Repr

section
variable {S : Type} {Reply : S → Type} {E α Call Choice Shared Scratch : Type}

structure Session (S : Type) (Reply : S → Type) (E α Call Scratch : Type) where
  scratch : Scratch
  current : Option (Call × Program S Reply E α)
  outcomes : List (Call × Except E α)
  status : Status

structure State (S : Type) (Reply : S → Type) (E α Call Shared Scratch : Type) where
  shared : Shared
  session : Nat → Session S Reply E α Call Scratch

def Session.settle (s : Session S Reply E α Call Scratch) (call : Call)
    (p : Program S Reply E α) : Session S Reply E α Call Scratch :=
  match p.result with
  | some r => {s with current := none, outcomes := s.outcomes ++ [(call,r)]}
  | none => {s with current := some (call,p)}

@[simp] theorem settleScratch (s : Session S Reply E α Call Scratch) (call p) :
    (s.settle call p).scratch = s.scratch := by
  cases p <;> rfl
@[simp] theorem settleStatus (s : Session S Reply E α Call Scratch) (call p) :
    (s.settle call p).status = s.status := by
  cases p <;> rfl

theorem settleDone (s : Session S Reply E α Call Scratch) (call) {p : Program S Reply E α} {r}
    (done : p.result = some r) :
    s.settle call p = {s with current := none, outcomes := s.outcomes ++ [(call,r)]} := by
  simp [Session.settle,done]
theorem settleWaiting (s : Session S Reply E α Call Scratch) (call) {p : Program S Reply E α}
    (waits : p.result = none) : s.settle call p = {s with current := some (call,p)} := by
  simp [Session.settle,waits]

variable (engine : Engine S Reply Call Choice Shared Scratch) (code : Call → Program S Reply E α)

def step (w : State S Reply E α Call Shared Scratch) :
    Event Call Choice → Option (State S Reply E α Call Shared Scratch)
  | .invoke t call =>
      let s := w.session t
      if s.status = .active ∧ s.current.isNone then
        some {w with session := update w.session t (s.settle call (code call))}
      else none
  | .advance t choice =>
      let s := w.session t
      match s.status, s.current with
      | .active, some (call,.call stmt next) =>
          match engine.exec ⟨t,s.outcomes.length,call⟩ stmt choice w.shared s.scratch with
          | none => none
          | some (reply,shared,scratch) =>
              some ⟨shared,update w.session t ({s with scratch := scratch}.settle call (next reply))⟩
      | _, _ => none
  | .commit t =>
      let s := w.session t
      if s.status = .active ∧ s.current.isNone then
        some ⟨engine.commit t w.shared s.scratch,
          update w.session t {s with scratch := engine.fresh, status := .committed}⟩
      else none
  | .rollback t =>
      let s := w.session t
      if s.status = .active then
        some ⟨engine.rollback t w.shared s.scratch,
          update w.session t {s with scratch := engine.fresh, current := none, status := .rolledBack}⟩
      else none

inductive Step (w : State S Reply E α Call Shared Scratch) :
    Event Call Choice → State S Reply E α Call Shared Scratch → Prop where
  | invoke (t : Nat) (call : Call) (active : (w.session t).status = .active)
      (idle : (w.session t).current = none) :
      Step w (.invoke t call)
        {w with session := update w.session t ((w.session t).settle call (code call))}
  | advance (t : Nat) (choice : Choice) (call : Call) (stmt : S)
      (next : Reply stmt → Program S Reply E α) (reply : Reply stmt) (shared : Shared)
      (scratch : Scratch) (active : (w.session t).status = .active)
      (waiting : (w.session t).current = some (call,.call stmt next))
      (done : engine.exec ⟨t,(w.session t).outcomes.length,call⟩ stmt choice w.shared
        (w.session t).scratch = some (reply,shared,scratch)) :
      Step w (.advance t choice)
        ⟨shared,update w.session t ({w.session t with scratch := scratch}.settle call (next reply))⟩
  | commit (t : Nat) (active : (w.session t).status = .active)
      (idle : (w.session t).current = none) :
      Step w (.commit t) ⟨engine.commit t w.shared (w.session t).scratch,
        update w.session t {w.session t with scratch := engine.fresh, status := .committed}⟩
  | rollback (t : Nat) (active : (w.session t).status = .active) :
      Step w (.rollback t) ⟨engine.rollback t w.shared (w.session t).scratch,
        update w.session t
          {w.session t with scratch := engine.fresh, current := none, status := .rolledBack}⟩

variable {engine code}

theorem stepSource {w e w'} (h : step engine code w e = some w') : Step engine code w e w' := by
  cases e with
  | invoke t call =>
    simp only [step] at h
    split at h <;> try contradiction
    rename_i guard
    cases Option.some.inj h
    exact .invoke t call guard.1 (by simpa using guard.2)
  | advance t choice =>
    simp only [step] at h
    split at h <;> try contradiction
    rename_i call stmt next active waiting
    split at h <;> try contradiction
    rename_i reply shared scratch done
    cases Option.some.inj h
    exact .advance t choice call stmt next reply shared scratch active waiting done
  | commit t =>
    simp only [step] at h
    split at h <;> try contradiction
    rename_i guard
    cases Option.some.inj h
    exact .commit t guard.1 (by simpa using guard.2)
  | rollback t =>
    simp only [step] at h
    split at h <;> try contradiction
    rename_i active
    cases Option.some.inj h
    exact .rollback t active

def start (engine : Engine S Reply Call Choice Shared Scratch) (shared : Shared) :
    State S Reply E α Call Shared Scratch :=
  ⟨shared,fun _ => ⟨engine.fresh,none,[],.active⟩⟩

end
end PgLlmBatch.Base.Pool
