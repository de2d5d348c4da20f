import PgLlmBatch.SingleFlightSessions

/-! One context from its entry to its end: how often the session holds the lock of its identity
before and after, whatever the driver tells of the two statements and however the body ends. -/
namespace PgLlmBatch
open Base

/-! What one session meets. A reply that tells a boolean tells the statement's own, and the other
sessions take and give back locks of their own before each statement. -/
structure FlightSurroundings {ι : Type} [DecidableEq ι] (i : ι) where
  told : LockSql → Told
  outcome : Except FlightError Unit
  others : FlightStatement → AdvisoryLocks ι Int → AdvisoryLocks ι Int
  honest : ∀ sql performed reply, told sql = .obscured performed reply → tellsBoolean reply = false
  apart : ∀ s locks key, (others s locks).count i key = locks.count i key

namespace FlightSurroundings
variable {ι : Type} [DecidableEq ι] {i : ι} (around : FlightSurroundings i)

def answer : (s : FlightStatement) → AdvisoryLocks ι Int → FlightReply s × AdvisoryLocks ι Int
  | .execute sql key, locks =>
      let there := around.others (.execute sql key) locks
      let (b,taken) := FlightWorld.performed there i key sql
      match around.told sql with
      | .plainly => (.ok (.sequence [.bool b]),taken)
      | .obscured performed reply => (reply,if performed then taken else there)
  | .body acquired, locks => (around.outcome,around.others (.body acquired) locks)

def finish (call : FlightCall) (locks : AdvisoryLocks ι Int) : Except FlightError Unit × AdvisoryLocks ι Int :=
  (reconciliationSingleFlight call).eval around.answer locks

def UnlockPerformed : Prop := ∀ performed reply, around.told .advisoryUnlock = .obscured performed reply → performed = true

-- The database takes the lock, and its reply does not say so.
def TakesUntold (call : FlightCall) (locks : AdvisoryLocks ι Int) : Prop :=
  ∃ key reply, flightKey call = .ok key ∧ around.told .tryAdvisoryLock = .obscured true reply ∧
    ((around.others (.execute .tryAdvisoryLock key) locks).tryLock i key).1 = true

variable {around}

theorem lockOperation (sql : LockSql) (key : Int) (phase : String) (locks : AdvisoryLocks ι Int) :
    (executeBooleanLockOperation sql key phase).eval around.answer locks =
      (booleanResult phase (around.answer (.execute sql key) locks).1,(around.answer (.execute sql key) locks).2) := by
  change (Program.ofExcept (booleanResult phase _) : FlightProgram Bool).eval _ _ = _
  rw [Program.evalOfExcept]

theorem releaseLocks (key : Int) (locks : AdvisoryLocks ι Int) :
    ((releaseSingleFlight key).eval around.answer locks).2 = (around.answer (.execute .advisoryUnlock key) locks).2 := by
  unfold releaseSingleFlight
  rw [Program.evalBind,lockOperation]
  cases booleanResult "release" (around.answer (.execute .advisoryUnlock key) locks).1 with
  | error e => rfl
  | ok released => cases released <;> rfl

theorem heldLocks (key : Int) (locks : AdvisoryLocks ι Int) :
    ((heldContext key).eval around.answer locks).2 =
      (around.answer (.execute .advisoryUnlock key) (around.others (.body true) locks)).2 := by
  change (((releaseSingleFlight key).caught >>= fun released =>
    Program.ofExcept (ending around.outcome released) : FlightProgram Unit).eval around.answer
      (around.others (.body true) locks)).2 = _
  rw [Program.evalBind,Program.evalCaught]
  simp only [Program.evalOfExcept,releaseLocks]

theorem deferredLocks (locks : AdvisoryLocks ι Int) :
    (deferredContext.eval around.answer locks).2 = around.others (.body false) locks := by
  change ((Program.ofExcept around.outcome : FlightProgram Unit).eval around.answer (around.others (.body false) locks)).2 = _
  rw [Program.evalOfExcept]

theorem unlockedCount (performs : around.UnlockPerformed) {key : Int} {locks : AdvisoryLocks ι Int} (held : 0 < locks.count i key)
    (other : Int) : (around.answer (.execute .advisoryUnlock key) locks).2.count i other +
      (if other = key then 1 else 0) = locks.count i other := by
  have there : 0 < (around.others (.execute .advisoryUnlock key) locks).count i key := by rwa [around.apart]
  have given := AdvisoryLocks.countUnlock there other
  rw [around.apart] at given
  unfold answer
  simp only []
  cases told : around.told .advisoryUnlock with
  | plainly => exact given
  | obscured performed reply =>
    cases performs performed reply told
    exact given

theorem finishEval {call : FlightCall} {key : Int} (own : flightKey call = .ok key) (locks : AdvisoryLocks ι Int) :
    around.finish call locks = match booleanResult "acquire" (around.answer (.execute .tryAdvisoryLock key) locks).1 with
      | .ok acquired => (if !acquired then deferredContext else heldContext key).eval around.answer
          (around.answer (.execute .tryAdvisoryLock key) locks).2
      | .error e => (.error e,(around.answer (.execute .tryAdvisoryLock key) locks).2) := by
  unfold finish reconciliationSingleFlight
  rw [own]
  change (executeBooleanLockOperation .tryAdvisoryLock key "acquire" >>= fun acquired =>
    if !acquired then deferredContext else heldContext key).eval around.answer locks = _
  rw [Program.evalBind,lockOperation]
  cases booleanResult "acquire" (around.answer (.execute .tryAdvisoryLock key) locks).1 <;> rfl

theorem toldBalanced {call : FlightCall} {key : Int} (own : flightKey call = .ok key) (performs : around.UnlockPerformed)
    (told : around.told .tryAdvisoryLock = .plainly) (locks : AdvisoryLocks ι Int) (other : Int) :
    (around.finish call locks).2.count i other = locks.count i other := by
  have counted := AdvisoryLocks.countLock (around.others (.execute .tryAdvisoryLock key) locks) i key other
  rw [around.apart] at counted
  have tried : around.answer (.execute .tryAdvisoryLock key) locks =
      (.ok (.sequence [.bool ((around.others (.execute .tryAdvisoryLock key) locks).tryLock i key).1]),
        ((around.others (.execute .tryAdvisoryLock key) locks).tryLock i key).2) := by
    simp only [answer,told,FlightWorld.performed]
  rw [finishEval own,tried]
  cases taken : ((around.others (.execute .tryAdvisoryLock key) locks).tryLock i key).1 with
  | false =>
    simp only [taken,Bool.false_eq_true,and_false,if_false] at counted
    change (deferredContext.eval around.answer _).2.count i other = _
    rw [deferredLocks,around.apart,counted,Nat.add_zero]
  | true =>
    simp only [taken,and_true] at counted
    have held : 0 < (around.others (.body true)
        ((around.others (.execute .tryAdvisoryLock key) locks).tryLock i key).2).count i key := by
      have mine := AdvisoryLocks.countLock (around.others (.execute .tryAdvisoryLock key) locks) i key key
      rw [taken] at mine
      rw [around.apart,mine]
      simp
    have given := unlockedCount performs held other
    rw [around.apart,counted] at given
    change ((heldContext key).eval around.answer _).2.count i other = _
    rw [heldLocks]
    exact Nat.add_right_cancel given

theorem untoldLocks {call : FlightCall} {key : Int} (own : flightKey call = .ok key) {performed : Bool}
    {reply : Except FlightError FetchedRow} (told : around.told .tryAdvisoryLock = .obscured performed reply)
    (locks : AdvisoryLocks ι Int) : (around.finish call locks).2 =
      if performed then ((around.others (.execute .tryAdvisoryLock key) locks).tryLock i key).2
      else around.others (.execute .tryAdvisoryLock key) locks := by
  obtain ⟨e,failed⟩ := @untoldError "acquire" reply (around.honest _ _ _ told)
  have tried : around.answer (.execute .tryAdvisoryLock key) locks = (reply,
      if performed then ((around.others (.execute .tryAdvisoryLock key) locks).tryLock i key).2
      else around.others (.execute .tryAdvisoryLock key) locks) := by
    simp only [answer,told,FlightWorld.performed]
  rw [finishEval own,tried]
  simp only [failed]

theorem refusedLocks {call : FlightCall} {e : PyError} (own : flightKey call = .error e) (locks : AdvisoryLocks ι Int) :
    (around.finish call locks).2 = locks := by
  unfold finish reconciliationSingleFlight
  rw [own]
  rfl

end FlightSurroundings

/-- A finished context leaves the session's hold counts as they were, unless the database took the lock and its
reply did not tell it. -/
theorem lockBalance {ι : Type} [DecidableEq ι] {i : ι} (around : FlightSurroundings i) (call : FlightCall)
    (locks : AdvisoryLocks ι Int) (performs : around.UnlockPerformed) :
    (∀ key, (around.finish call locks).2.count i key = locks.count i key) ↔ ¬around.TakesUntold call locks := by
  constructor
  · rintro balanced ⟨key,reply,own,told,taken⟩
    have counted := AdvisoryLocks.countLock (around.others (.execute .tryAdvisoryLock key) locks) i key key
    rw [around.apart,taken] at counted
    have same := balanced key
    rw [FlightSurroundings.untoldLocks own told,if_pos rfl,counted] at same
    simp at same
  · intro untaken key
    cases own : flightKey call with
    | error e => rw [FlightSurroundings.refusedLocks own]
    | ok mine =>
      cases told : around.told .tryAdvisoryLock with
      | plainly => exact FlightSurroundings.toldBalanced own performs told locks key
      | obscured performed reply =>
        rw [FlightSurroundings.untoldLocks own told]
        cases performed with
        | false => exact around.apart _ _ _
        | true =>
          rw [if_pos rfl,AdvisoryLocks.countLock,around.apart]
          cases taken : ((around.others (.execute .tryAdvisoryLock mine) locks).tryLock i mine).1 with
          | false => simp
          | true => exact absurd ⟨mine,reply,own,told,taken⟩ untaken

def aloneSession (told : Told) (honest : ∀ performed reply, told = .obscured performed reply → tellsBoolean reply = false) :
    FlightSurroundings () where
  told := fun sql => match sql with
    | .tryAdvisoryLock => told
    | .advisoryUnlock => .plainly
  outcome := .ok ()
  others := fun _ locks => locks
  honest := fun sql performed reply h => by
    cases sql with
    | tryAdvisoryLock => exact honest performed reply h
    | advisoryUnlock => cases h
  apart := fun _ _ _ => rfl

theorem lockBalanceSample : ((aloneSession .plainly nofun).finish (sampleFlight "gateway") .free).1.isOk = true ∧
    ∀ key, ((aloneSession .plainly nofun).finish (sampleFlight "gateway") .free).2.count () key =
      AdvisoryLocks.free.count () key := by
  refine ⟨by decide +kernel,(lockBalance (aloneSession .plainly nofun) (sampleFlight "gateway") .free ?_).mpr ?_⟩
  · intro performed reply told
    cases told
  · rintro ⟨key,reply,-,told,-⟩
    cases told

def dictRow : Told := .obscured true (.ok .other)

theorem dictRowLeavesLock : ∃ around : FlightSurroundings (), around.told .tryAdvisoryLock = dictRow ∧
    around.UnlockPerformed ∧ ∃ key, (around.finish (sampleFlight "gateway") .free).2.count () key = 1 ∧
      AdvisoryLocks.free.count () key = 0 := by
  have waits : (reconciliationSingleFlight (sampleFlight "gateway")).result.isNone = true := by decide +kernel
  obtain ⟨key,own⟩ := contextKey (Option.isNone_iff_eq_none.mp waits)
  have honest : ∀ performed reply, dictRow = .obscured performed reply → tellsBoolean reply = false := by
    intro performed reply told
    cases told
    rfl
  refine ⟨aloneSession dictRow honest,rfl,nofun,key,?_,rfl⟩
  rw [FlightSurroundings.untoldLocks own rfl,if_pos rfl,AdvisoryLocks.countLock]
  simp [aloneSession,AdvisoryLocks.count,AdvisoryLocks.tryLock,AdvisoryLocks.free]

end PgLlmBatch
