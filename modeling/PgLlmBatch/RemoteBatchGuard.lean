import PgLlmBatch.BatchCreationRecords
import PgLlmBatch.RemoteBatchReport

/-! The upsert's guard in INTEGER arithmetic: the histories in which it compares the counts, and
those in which their sum leaves the type and the whole call fails. -/
namespace PgLlmBatch
open Base

def Inconsistent (old : RemoteBatchJob) (s : RemoteBatchSnapshot) : Prop :=
  (old.totalRequestsKnown || s.totalRequestsKnown) = true ∧ max old.totalRequests s.totalRequests <
    max old.completedRequests s.completedRequests + max old.failedRequests s.failedRequests

-- The observation is newer, a total is known, and a completed count of one of the two goes beyond
-- an INTEGER together with a failed count of one of the two.
structure CountsOverflow (old : RemoteBatchJob) (s : RemoteBatchSnapshot) : Prop where
  newer : old.observationOrder < s.observationOrder
  known : (old.totalRequestsKnown || s.totalRequestsKnown) = true
  large : ∃ completed ∈ [old.completedRequests,s.completedRequests], ∃ failed ∈ [old.failedRequests,s.failedRequests],
    2 ^ 31 ≤ completed + failed

section
variable (pg : Postgres) (i : Interpreter)

-- The guard gives a boolean; where the observation fits the schema the call returns, and an inconsistent merge is skipped.
structure GuardHolds (e : PersistEvent) (s : RemoteBatchSnapshot) (m : PyStr) (old : RemoteBatchJob)
    (jobs : List RemoteBatchJob) : Prop where
  evaluated : ∀ stored, ∃ passed, mergeGuard old.toJobColumns (s.columns stored) = .ok passed
  returns : FitsSchema pg s m → ∃ d jobs', transact pg e.bound (e.call.program i e.now) jobs = (.ok d,jobs')
  skipped : FitsSchema pg s m → Inconsistent old s →
    transact pg e.bound (e.call.program i e.now) jobs = (.ok (e.call.returned old.dict),jobs)

variable {pg i}

theorem largeMaxima (old : RemoteBatchJob) (s : RemoteBatchSnapshot) :
    (∃ completed ∈ [old.completedRequests,s.completedRequests], ∃ failed ∈ [old.failedRequests,s.failedRequests],
      2 ^ 31 ≤ completed + failed) ↔
      2 ^ 31 ≤ max old.completedRequests s.completedRequests + max old.failedRequests s.failedRequests := by
  simp only [List.mem_cons,List.not_mem_nil,or_false,exists_eq_or_imp,exists_eq_left]
  omega

theorem sumFits {old : RemoteBatchJob} {s : RemoteBatchSnapshot} (stored : Json) (small : ¬2 ^ 31 ≤
    max old.completedRequests s.completedRequests + max old.failedRequests s.failedRequests) :
    integerSum (max old.completedRequests (s.columns stored).completedRequests)
      (max old.failedRequests (s.columns stored).failedRequests) =
      .ok (max old.completedRequests s.completedRequests + max old.failedRequests s.failedRequests) := by
  have own := (checksMet _).mp old.checked
  have completed := own.completed
  have failed := own.failed
  have range : inInteger (max old.completedRequests s.completedRequests + max old.failedRequests s.failedRequests) = true := by
    simp only [inInteger,Bool.and_eq_true,decide_eq_true_eq]
    omega
  exact if_pos range

theorem sumOverflows {old : RemoteBatchJob} {s : RemoteBatchSnapshot} (stored : Json) (large : 2 ^ 31 ≤
    max old.completedRequests s.completedRequests + max old.failedRequests s.failedRequests) :
    integerSum (max old.completedRequests (s.columns stored).completedRequests)
      (max old.failedRequests (s.columns stored).failedRequests) = .error outOfRange := by
  have range : ¬inInteger (max old.completedRequests s.completedRequests + max old.failedRequests s.failedRequests) = true := by
    simp only [inInteger,Bool.and_eq_true,decide_eq_true_eq]
    omega
  exact if_neg range

theorem guardOverflows {old : RemoteBatchJob} {s : RemoteBatchSnapshot} (beyond : CountsOverflow old s) (stored : Json) :
    mergeGuard old.toJobColumns (s.columns stored) = .error outOfRange := by
  have large := sumOverflows stored ((largeMaxima old s).mp beyond.large)
  have known : (old.totalRequestsKnown || (s.columns stored).totalRequestsKnown) = true := beyond.known
  have newer : old.observationOrder < (s.columns stored).observationOrder := beyond.newer
  unfold mergeGuard progressGuard
  rw [if_pos newer,if_pos known,large]
  rfl

theorem guardEvaluates {old : RemoteBatchJob} {s : RemoteBatchSnapshot} (within : ¬CountsOverflow old s) (stored : Json) :
    ∃ passed, mergeGuard old.toJobColumns (s.columns stored) = .ok passed := by
  by_cases newer : old.observationOrder < (s.columns stored).observationOrder
  · by_cases known : (old.totalRequestsKnown || (s.columns stored).totalRequestsKnown) = true
    · have small := sumFits stored (fun large => within ⟨newer,known,(largeMaxima old s).mpr large⟩)
      have progress : progressGuard old.toJobColumns (s.columns stored) = .ok (decide
          (max old.completedRequests s.completedRequests + max old.failedRequests s.failedRequests ≤
            max old.totalRequests s.totalRequests)) := by
        unfold progressGuard
        rw [if_pos known,small]
        rfl
      exact guardRuns progress
    · have progress : progressGuard old.toJobColumns (s.columns stored) = .ok true := if_neg known
      exact guardRuns progress
  · exact ⟨false,if_neg newer⟩

theorem inconsistentGuard {old : RemoteBatchJob} {s : RemoteBatchSnapshot} (inconsistent : Inconsistent old s) (stored : Json)
    {passed : Bool} (guard : mergeGuard old.toJobColumns (s.columns stored) = .ok passed) : passed = false := by
  cases passed with
  | false => rfl
  | true =>
    have within := guardProgress guard inconsistent.1
    exact absurd inconsistent.2 (not_lt.mpr within)

theorem skippedOutcome {s : RemoteBatchSnapshot} {m : PyStr} {jobs : List RemoteBatchJob} {old : RemoteBatchJob}
    (fits : FitsSchema pg s m) (present : Table.find RemoteBatchJob.key jobs s.key = some old)
    (guard : ∀ stored, mergeGuard old.toJobColumns (s.columns stored) = .ok false) :
    persistOutcome pg s m jobs = .ok (old.dict,jobs) := by
  obtain ⟨stored,row,text,cast,built⟩ := fits.inserted
  have columns := newColumns built
  have own : ¬some s.tenantScope ≠ some (s.columns stored).tenantScope := fun other => other rfl
  unfold persistOutcome upsert
  simp only [bind,Except.bind,text,cast,if_neg own,built,rowKey columns,columns,present,guard,Bool.false_eq_true,if_false,
    pure,Except.pure,if_true]

end

section
variable {pg : Postgres} {i : Interpreter}

/-- After any calls, the guard holds for an observation of a row exactly when no completed count and failed count of
the two leave the INTEGER range together. -/
theorem progressGuardHolds (events : List PersistEvent) (e : PersistEvent) {s : RemoteBatchSnapshot} {m : PyStr}
    {old : RemoteBatchJob} (normal : e.normalized i = .ok (s,m))
    (here : (Lifecycle.after pg i events).row s.key = some old) :
    GuardHolds pg i e s m old (Lifecycle.after pg i events).jobs ↔ ¬CountsOverflow old s := by
  constructor
  · intro holds beyond
    obtain ⟨passed,guard⟩ := holds.evaluated .null
    rw [guardOverflows beyond] at guard
    cases guard
  · intro within
    have called := @callTransact pg i e (Lifecycle.after pg i events).jobs
    rw [normal] at called
    simp only [] at called
    refine ⟨guardEvaluates within,fun fits => ?_,fun fits inconsistent => ?_⟩
    · obtain ⟨d,jobs',ended⟩ := outcomeSucceeds fits (fun other found => by
        cases Option.some.inj (here.symm.trans found)
        exact guardEvaluates within)
      rw [ended] at called
      exact ⟨_,_,called⟩
    · have guard : ∀ stored, mergeGuard old.toJobColumns (s.columns stored) = .ok false := by
        intro stored
        obtain ⟨passed,guard⟩ := guardEvaluates within stored
        rwa [inconsistentGuard inconsistent stored guard] at guard
      rw [skippedOutcome fits here guard] at called
      exact called

end

def counted (order total completed failed : Int) : PersistEvent :=
  reported order [(py "request_counts",.obj [(py "total",.int total),(py "completed",.int completed),
    (py "failed",.int failed)])]

def afterCounted (first : PersistEvent) : Lifecycle := Lifecycle.after samplePostgres sampleInterpreter [first]

theorem smallCountsHold : ∃ s m old, (counted 2 10 2 1).normalized sampleInterpreter = .ok (s,m) ∧
    (afterCounted (counted 1 10 3 0)).row s.key = some old ∧
    (GuardHolds samplePostgres sampleInterpreter (counted 2 10 2 1) s m old (afterCounted (counted 1 10 3 0)).jobs ↔
      ¬CountsOverflow old s) := by
  have accepted : (match (counted 2 10 2 1).normalized sampleInterpreter with
      | .ok (s,_) => ((afterCounted (counted 1 10 3 0)).row s.key).isSome
      | .error _ => false) = true := by decide +kernel
  split at accepted <;> try contradiction
  rename_i s m normal
  obtain ⟨old,here⟩ := Option.isSome_iff_exists.mp accepted
  exact ⟨s,m,old,normal,here,progressGuardHolds [counted 1 10 3 0] (counted 2 10 2 1) normal here⟩

def largest : Int := 2 ^ 31 - 1

def countsFit (e : PersistEvent) : Bool :=
  match e.normalized sampleInterpreter with
  | .ok (s,_) => inInteger s.totalRequests && inInteger s.completedRequests && inInteger s.failedRequests
  | .error _ => false

def raisedOutOfRange : Except PyError Projection → Bool
  | .error (.database state) => state == "22003"
  | _ => false

theorem outOfRangeRaised {r : Except PyError Projection} (h : raisedOutOfRange r = true) : r = .error outOfRange := by
  unfold raisedOutOfRange at h
  split at h <;> try contradiction
  rw [eq_of_beq h]
  rfl

theorem largeCountsFail : countsFit (counted 2 largest 0 1) = true ∧
    (transact samplePostgres none ((counted 2 largest 0 1).call.program sampleInterpreter 0)
      (afterCounted (counted 1 largest largest 0)).jobs).1 = .error outOfRange := by
  have state : raisedOutOfRange (transact samplePostgres none ((counted 2 largest 0 1).call.program sampleInterpreter 0)
      (afterCounted (counted 1 largest largest 0)).jobs).1 = true := by decide +kernel
  exact ⟨by decide +kernel,outOfRangeRaised state⟩

end PgLlmBatch
