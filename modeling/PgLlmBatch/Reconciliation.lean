import PgLlmBatch.SingleFlight
import PgLlmBatch.ReconciliationStore
import PgLlmBatch.Base.FirstDistinct

/-! `reconcile_batch_candidates`: a bounded scan of candidates for the first identities that differ,
then one status call, and one download where it is due, for each. -/
namespace PgLlmBatch.Reconciliation
open Base

def maxReconciliationJobs : Nat := 100

structure WorkBudget where
  maxJobs : Nat
  positive : 0 < maxJobs
  bounded : maxJobs ≤ maxReconciliationJobs

def invalidBudget : PyError :=
  .redactedValidation "max_jobs" "must be an integer within the supported reconciliation budget"
    "Reconciliation work budget is invalid"

def validateWorkBudget : Json → Except PyError WorkBudget
  | .int n =>
      if h : 0 < n.toNat ∧ n.toNat ≤ maxReconciliationJobs then .ok ⟨n.toNat,h.1,h.2⟩ else .error invalidBudget
  | _ => .error invalidBudget

def invalidCandidate : PyError :=
  .redactedValidation "reconciliation_candidate" "must contain a valid endpoint alias and remote batch identifier"
    "Reconciliation candidate identity is invalid"

def saturatedScan : PyError :=
  .redactedValidation "reconciliation_candidates" "candidate scan exceeded the bounded reconciliation limit"
    "Reconciliation candidate scan is saturated"

-- An object of another class is no str, as None is none.
def valueOf : Evidence → Json
  | .value v => v
  | .object _ => .null

-- `none` is a candidate without the two attributes.
abbrev Candidate := Option FlightCandidate

def validateCandidate : Candidate → Except PyError ReconciliationCandidate
  | none => .error invalidCandidate
  | some candidate =>
      match (do
        let endpointAlias ← validateEndpointAlias (valueOf candidate.endpointAlias)
        let remoteBatchId ← validateRemoteResourceId (valueOf candidate.remoteBatchId) "remote_batch_id"
        return ReconciliationCandidate.mk endpointAlias remoteBatchId : Except PyError ReconciliationCandidate) with
      | .ok identity => .ok identity
      | .error _ => .error invalidCandidate

inductive ReconcileStatement where
  | next
  | getBatchStatus (batchId endpointAlias : PyStr)
  | downloadResults (batchId endpointAlias : PyStr)

-- `next` answers none when the iterator is exhausted; a client call answers a mapping or raises.
abbrev ReconcileReply : ReconcileStatement → Type
  | .next => Option Candidate
  | .getBatchStatus _ _ => Except PyError (List (PyStr × Json))
  | .downloadResults _ _ => Except PyError (List (PyStr × Json))

abbrev ReconcileProgram := Program ReconcileStatement ReconcileReply PyError

def issueReconcile (s : ReconcileStatement) : ReconcileProgram (ReconcileReply s) := Program.ask s

-- The first argument is what `islice` has left; the result is full, or the loop has ended before.
def scanCandidates (maxJobs : Nat) : Nat → List ReconciliationCandidate → List (PyStr × PyStr) →
    ReconcileProgram (List ReconciliationCandidate ⊕ List ReconciliationCandidate)
  | 0, selected, _ => return .inr selected
  | n+1, selected, seen => do
      match ← issueReconcile .next with
      | none => return .inr selected
      | some candidate =>
          let validated ← Program.ofExcept (validateCandidate candidate)
          let identity := (validated.endpointAlias,validated.remoteBatchId)
          if seen.contains identity then scanCandidates maxJobs n selected seen
          else if (selected ++ [validated]).length = maxJobs then return .inl (selected ++ [validated])
          else scanCandidates maxJobs n (selected ++ [validated]) (identity::seen)

def selectCandidates (maxJobs : Nat) : ReconcileProgram (List ReconciliationCandidate) := do
  match ← scanCandidates maxJobs maxReconciliationCandidates.toNat [] [] with
  | .inl selected => return selected
  | .inr selected => match ← issueReconcile .next with
      | none => return selected
      | some _ => throw saturatedScan

structure ReconciliationOutcome where
  outcome : String
  batchStatus : Option PyStr
  errorType : Option String

structure ReconciliationReport where
  processedCount : Nat
  retrievedCount : Nat
  failedCount : Nat
  outcomes : List ReconciliationOutcome

def publicBatchStatuses : List PyStr :=
  [py "validating",py "failed",py "in_progress",py "finalizing",py "completed",py "expired",py "cancelling",py "cancelled"]

-- `_PUBLIC_BATCH_STATUSES.get(value, "_OTHER")`; a list or dict does not hash.
def publicStatus : Json → Except PyError PyStr
  | .str s => .ok (if s ∈ publicBatchStatuses then s else py "_OTHER")
  | .arr _ | .obj _ => .error .raised
  | _ => .ok (py "_OTHER")

def boundedErrorType : PyError → String
  | .gateway _ _ _ => "GatewayError"
  | .validation _ _ _ | .redactedValidation _ _ _ => "ValidationError"
  | _ => "_OTHER"

def isTrue : Json → Bool
  | .bool b => b
  | _ => false

def reconcileCandidate (candidate : ReconciliationCandidate) : ReconcileProgram (ReconciliationOutcome × Bool) := do
  let status ← Program.ofExcept (← issueReconcile (.getBatchStatus candidate.remoteBatchId candidate.endpointAlias))
  let batchStatus ← Program.ofExcept (publicStatus (Json.get status (py "status")))
  if isTrue (Json.get status (py "is_complete")) then do
    let retrieval ← Program.ofExcept
      (← issueReconcile (.downloadResults candidate.remoteBatchId candidate.endpointAlias))
    let succeeded := isTrue (Json.get retrieval (py "success"))
    return (⟨if succeeded then "retrieved" else "deferred",some batchStatus,none⟩,succeeded)
  else return (⟨"polled",some batchStatus,none⟩,false)

-- `except Exception`
def candidateOutcome (candidate : ReconciliationCandidate) : ReconcileProgram (ReconciliationOutcome × Bool × Bool) := do
  match ← (reconcileCandidate candidate).caught with
  | .ok (outcome,retrieved) => return (outcome,retrieved,false)
  | .error e =>
      if e.isInterrupted then throw e
      else return (⟨"failed",none,some (boundedErrorType e)⟩,false,true)

def reconcileSelected : List ReconciliationCandidate → ReconciliationReport → ReconcileProgram ReconciliationReport
  | [], report => return report
  | candidate::rest, report => do
      let (outcome,retrieved,failed) ← candidateOutcome candidate
      reconcileSelected rest ⟨report.processedCount + 1,report.retrievedCount + retrieved.toNat,
        report.failedCount + failed.toNat,report.outcomes ++ [outcome]⟩

def reconcileBatchCandidates (maxJobs : Json) : ReconcileProgram ReconciliationReport := do
  let workBudget ← Program.ofExcept (validateWorkBudget maxJobs)
  let selected ← selectCandidates workBudget.maxJobs
  reconcileSelected selected ⟨0,0,0,[]⟩

section
variable (source : Nat → Option Candidate)

def iterate (client : (s : ReconcileStatement) → ReconcileReply s) :
    (s : ReconcileStatement) → Nat → ReconcileReply s × Nat
  | .next, given => (source given,given + (source given).isSome.toNat)
  | .getBatchStatus batchId endpointAlias, given => (client (.getBatchStatus batchId endpointAlias),given)
  | .downloadResults batchId endpointAlias, given => (client (.downloadResults batchId endpointAlias),given)

def elements : Nat → Nat → List Candidate
  | _, 0 => []
  | given, n+1 => match source given with
      | none => []
      | some candidate => candidate::elements (given + 1) n

def scanned : List Candidate := elements source 0 maxReconciliationCandidates.toNat

end

def identityOf (candidate : Candidate) : Option ReconciliationCandidate := (validateCandidate candidate).toOption

def Valid (candidate : Candidate) : Prop := FirstDistinct.Accepted identityOf candidate

def distinct (candidates : List Candidate) : List ReconciliationCandidate :=
  (FirstDistinct.values identityOf candidates).eraseDups

theorem refusedCandidate {candidate : Candidate} {e : PyError} (h : validateCandidate candidate = .error e) :
    e = invalidCandidate := by
  unfold validateCandidate at h
  split at h
  · exact (Except.error.inj h).symm
  · split at h <;> cases h
    rfl

theorem identityValid {candidate : Candidate} {identity : ReconciliationCandidate}
    (h : validateCandidate candidate = .ok identity) : identityOf candidate = some identity := by
  unfold identityOf
  rw [h]
  rfl

section
variable {source : Nat → Option Candidate} {client : (s : ReconcileStatement) → ReconcileReply s} {maxJobs : Nat}

def scanResult : FirstDistinct.Scan ReconciliationCandidate → Except PyError (List ReconciliationCandidate ⊕ List ReconciliationCandidate)
  | .full selected => .ok (.inl selected)
  | .rejected => .error invalidCandidate
  | .ended selected => .ok (.inr selected)

theorem elementsShort (given n : Nat) : (elements source given n).length ≤ n := by
  induction n generalizing given with
  | zero => exact Nat.le_refl _
  | succ n ih =>
    unfold elements
    split
    · exact Nat.zero_le _
    · exact Nat.succ_le_succ (ih _)

theorem elementsEnd (given n : Nat) :
    (elements source given n).length = n ∨ source (given + (elements source given n).length) = none := by
  induction n generalizing given with
  | zero => exact .inl rfl
  | succ n ih =>
    unfold elements
    cases here : source given with
    | none => exact .inr here
    | some candidate =>
      have rest := ih (given + 1)
      simp only [List.length_cons,Nat.add_left_inj]
      rwa [Nat.add_assoc,Nat.add_comm 1] at rest

def Taken (given taken : Nat) (elements : List Candidate) : FirstDistinct.Scan ReconciliationCandidate → Prop
  | .ended _ => taken = given + elements.length
  | _ => taken ≤ given + elements.length

theorem takenMore {given taken : Nat} {candidate : Candidate} {rest : List Candidate}
    {scan : FirstDistinct.Scan ReconciliationCandidate} (h : Taken (given + 1) taken rest scan) :
    Taken given taken (candidate::rest) scan := by
  cases scan <;> simp only [Taken,List.length_cons] at h ⊢ <;> omega

theorem scanEval (n given : Nat) (selected : List ReconciliationCandidate) (seen : List (PyStr × PyStr))
    (same : ∀ c : ReconciliationCandidate, seen.contains (c.endpointAlias,c.remoteBatchId) = true ↔ c ∈ selected) :
    ((scanCandidates maxJobs n selected seen).eval (iterate source client) given).1 =
        scanResult (FirstDistinct.scan identityOf maxJobs selected (elements source given n)) ∧
      Taken given ((scanCandidates maxJobs n selected seen).eval (iterate source client) given).2 (elements source given n)
        (FirstDistinct.scan identityOf maxJobs selected (elements source given n)) := by
  induction n generalizing given selected seen with
  | zero => exact ⟨rfl,rfl⟩
  | succ n ih =>
    unfold scanCandidates elements
    cases here : source given with
    | none =>
      have none_ : iterate source client .next given = (none,given) := by simp [iterate,here]
      simp only [issueReconcile,Program.bindAsk,Program.evalCall,none_]
      exact ⟨rfl,rfl⟩
    | some candidate =>
      have given_ : iterate source client .next given = (some candidate,given + 1) := by simp [iterate,here]
      simp only [issueReconcile,Program.bindAsk,Program.evalCall,given_]
      cases valid : validateCandidate candidate with
      | error e =>
        have unnamed : identityOf candidate = none := by
          unfold identityOf
          rw [valid]
          rfl
        cases refusedCandidate valid
        simp only [FirstDistinct.scan,unnamed,Program.ofExceptError,Program.bindRaise,Program.evalRaise]
        exact ⟨rfl,by simp [Taken]⟩
      | ok validated =>
        have named := identityValid valid
        simp only [FirstDistinct.scan,named,Program.ofExceptOk,Program.bindRet]
        by_cases again : validated ∈ selected
        · rw [if_pos ((same validated).mpr again),if_pos again]
          obtain ⟨result,taken⟩ := ih (given + 1) selected seen same
          exact ⟨result,takenMore taken⟩
        · rw [if_neg (fun seen => again ((same validated).mp seen)),if_neg again]
          by_cases full : (selected ++ [validated]).length = maxJobs
          · rw [if_pos full,if_pos full]
            exact ⟨rfl,by simp [Taken]⟩
          · rw [if_neg full,if_neg full]
            obtain ⟨result,taken⟩ := ih (given + 1) (selected ++ [validated])
              ((validated.endpointAlias,validated.remoteBatchId)::seen) (fun c => by
                have own := same c
                simp only [List.contains_cons,Bool.or_eq_true,beq_iff_eq,Prod.mk.injEq,own,List.mem_append,List.mem_singleton]
                cases c
                cases validated
                simp only [ReconciliationCandidate.mk.injEq]
                tauto)
            exact ⟨result,takenMore taken⟩

end

section
variable (source : Nat → Option Candidate) (client : (s : ReconcileStatement) → ReconcileReply s)

def selection (maxJobs : Nat) : Except PyError (List ReconciliationCandidate) × Nat :=
  (selectCandidates maxJobs).eval (iterate source client) 0

inductive Selected (maxJobs : Nat) : Except PyError (List ReconciliationCandidate) → Nat → Prop where
  | full (taken : Nat) (most : taken ≤ (scanned source).length) (met : maxJobs ≤ (distinct (scanned source)).length) :
      Selected maxJobs (.ok ((distinct (scanned source)).take maxJobs)) taken
  | invalid (taken : Nat) (most : taken ≤ (scanned source).length) (room : (distinct (scanned source)).length < maxJobs)
      (rejected : ¬∀ c ∈ scanned source, Valid c) : Selected maxJobs (.error invalidCandidate) taken
  | ended (room : (distinct (scanned source)).length < maxJobs) (valid : ∀ c ∈ scanned source, Valid c)
      (last : source (scanned source).length = none) :
      Selected maxJobs (.ok (distinct (scanned source))) (scanned source).length
  | saturated (room : (distinct (scanned source)).length < maxJobs) (valid : ∀ c ∈ scanned source, Valid c)
      (all_ : (scanned source).length = maxReconciliationCandidates.toNat)
      (further : (source maxReconciliationCandidates.toNat).isSome = true) :
      Selected maxJobs (.error saturatedScan) (maxReconciliationCandidates.toNat + 1)

theorem selectionCases {maxJobs : Nat} (some_ : 0 < maxJobs) :
    Selected source maxJobs (selection source client maxJobs).1 (selection source client maxJobs).2 := by
  obtain ⟨result,taken⟩ := @scanEval source client maxJobs maxReconciliationCandidates.toNat 0 [] [] (by simp)
  have outcome := @FirstDistinct.scanOutcome _ _ _ identityOf maxJobs [] (by simpa using some_) (scanned source)
  change FirstDistinct.scan identityOf maxJobs [] (scanned source) =
    if maxJobs ≤ (distinct (scanned source)).length then .full ((distinct (scanned source)).take maxJobs)
    else if (FirstDistinct.values identityOf (scanned source)).length < (scanned source).length then .rejected
    else .ended (distinct (scanned source)) at outcome
  unfold selection selectCandidates
  rw [Program.evalBind]
  generalize (scanCandidates maxJobs maxReconciliationCandidates.toNat [] []).eval (iterate source client) 0 = ran
    at result taken ⊢
  obtain ⟨result',given⟩ := ran
  change _ = scanResult (FirstDistinct.scan identityOf maxJobs [] (scanned source)) at result
  change Taken 0 given (scanned source) (FirstDistinct.scan identityOf maxJobs [] (scanned source)) at taken
  simp only [] at result
  subst result
  by_cases met : maxJobs ≤ (distinct (scanned source)).length
  · rw [if_pos met] at outcome
    rw [outcome] at taken ⊢
    exact .full given (by simpa [Taken] using taken) met
  · have room := not_le.mp met
    rw [if_neg met] at outcome
    by_cases short : (FirstDistinct.values identityOf (scanned source)).length < (scanned source).length
    · rw [if_pos short] at outcome
      rw [outcome] at taken ⊢
      have rejected : ¬∀ c ∈ scanned source, Valid c := fun valid =>
        absurd (FirstDistinct.valuesWhole.mpr valid) (by omega)
      exact .invalid given (by simpa [Taken] using taken) room rejected
    · have whole : (FirstDistinct.values identityOf (scanned source)).length = (scanned source).length :=
        le_antisymm (FirstDistinct.valuesShort _) (not_lt.mp short)
      have valid := FirstDistinct.valuesWhole.mp whole
      rw [if_neg short] at outcome
      rw [outcome] at taken ⊢
      have position : given = (scanned source).length := by simpa [Taken] using taken
      subst position
      simp only [scanResult,issueReconcile,Program.bindAsk,Program.evalCall]
      cases next : source (scanned source).length with
      | none =>
        have none_ : iterate source client .next (scanned source).length = (none,(scanned source).length) := by
          simp [iterate,next]
        simp only [none_]
        exact .ended room valid next
      | some candidate =>
        have some_ : iterate source client .next (scanned source).length =
            (some candidate,(scanned source).length + 1) := by simp [iterate,next]
        have all_ : (scanned source).length = maxReconciliationCandidates.toNat := by
          rcases @elementsEnd source 0 maxReconciliationCandidates.toNat with all_ | last
          · exact all_
          · rw [Nat.zero_add] at last
            exact absurd (next.symm.trans last) nofun
        simp only [some_]
        rw [all_]
        exact .saturated room valid all_ (by rw [← all_,next]; rfl)

theorem distinctErrors : invalidCandidate ≠ saturatedScan := by
  intro same
  have fields : ("reconciliation_candidate" : String) = "reconciliation_candidates" := (PyError.redactedValidation.inj same).1
  exact absurd fields (by decide)

theorem invalidBefore {maxJobs : Nat} {candidates : List Candidate} :
    ((distinct candidates).length < maxJobs ∧ ¬∀ c ∈ candidates, Valid c) ↔
      ∃ before candidate after, candidates = before ++ candidate::after ∧ (∀ c ∈ before, Valid c) ∧
        ¬Valid candidate ∧ (distinct before).length < maxJobs := by
  constructor
  · rintro ⟨room,rejected⟩
    have short : (FirstDistinct.values identityOf candidates).length < candidates.length :=
      lt_of_le_of_ne (FirstDistinct.valuesShort _) (fun whole => rejected (FirstDistinct.valuesWhole.mp whole))
    obtain ⟨before,candidate,after,rfl,fine,none_⟩ := FirstDistinct.firstRejected short
    refine ⟨before,candidate,after,rfl,fine,?_,?_⟩
    · rintro ⟨identity,named⟩
      rw [none_] at named
      cases named
    · unfold distinct at room ⊢
      rwa [FirstDistinct.rejectedValues fine none_] at room
  · rintro ⟨before,candidate,after,rfl,fine,invalid,room⟩
    have none_ : identityOf candidate = none := by
      cases named : identityOf candidate with
      | none => rfl
      | some identity => exact absurd ⟨identity,named⟩ invalid
    refine ⟨?_,fun valid => invalid (valid candidate (by simp))⟩
    unfold distinct at room ⊢
    rwa [FirstDistinct.rejectedValues fine none_]

/-- What `_select_candidates` takes, returns and raises, for every iterator and every accepted budget. -/
theorem candidateSelection (budget : WorkBudget) :
    (selection source client budget.maxJobs).2 ≤ maxReconciliationCandidates.toNat + 1 ∧
    (∀ selected, (selection source client budget.maxJobs).1 = .ok selected →
      selected = (distinct (scanned source)).take (min budget.maxJobs (distinct (scanned source)).length)) ∧
    ((selection source client budget.maxJobs).1 = .error invalidCandidate ↔
      ∃ before candidate after, scanned source = before ++ candidate::after ∧ (∀ c ∈ before, Valid c) ∧
        ¬Valid candidate ∧ (distinct before).length < budget.maxJobs) ∧
    ((selection source client budget.maxJobs).1 = .error saturatedScan ↔
      (∀ c ∈ scanned source, Valid c) ∧ (distinct (scanned source)).length < budget.maxJobs ∧
        (scanned source).length = maxReconciliationCandidates.toNat ∧
        (source maxReconciliationCandidates.toNat).isSome = true) ∧
    ∀ e, (selection source client budget.maxJobs).1 = .error e → e = invalidCandidate ∨ e = saturatedScan := by
  have most : (scanned source).length ≤ maxReconciliationCandidates.toNat := elementsShort 0 _
  have cases_ := selectionCases source client budget.positive
  rw [← invalidBefore]
  generalize selection source client budget.maxJobs = ran at cases_ ⊢
  obtain ⟨result,taken⟩ := ran
  cases cases_ with
  | full taken within met =>
    refine ⟨by simp only; omega,?_,?_,?_,nofun⟩
    · rintro selected ⟨⟩
      rw [Nat.min_eq_left met]
    · exact iff_of_false nofun (fun both => absurd met (not_le.mpr both.1))
    · exact iff_of_false nofun (fun both => absurd met (not_le.mpr both.2.1))
  | invalid taken within room rejected =>
    refine ⟨by simp only; omega,nofun,iff_of_true rfl ⟨room,rejected⟩,?_,?_⟩
    · exact iff_of_false (fun same => distinctErrors (Except.error.inj same)) (fun all_ => rejected all_.1)
    · rintro e ⟨⟩
      exact .inl rfl
  | ended room valid last =>
    refine ⟨by simp only; omega,?_,?_,?_,nofun⟩
    · rintro selected ⟨⟩
      rw [Nat.min_eq_right room.le,List.take_length]
    · exact iff_of_false nofun (fun both => both.2 valid)
    · refine iff_of_false nofun (fun both => ?_)
      obtain ⟨-,-,all_,further⟩ := both
      rw [← all_,last] at further
      cases further
  | saturated room valid all_ further =>
    refine ⟨le_refl _,nofun,?_,iff_of_true rfl ⟨valid,room,all_,further⟩,?_⟩
    · exact iff_of_false (fun same => distinctErrors (Except.error.inj same).symm) (fun both => both.2 valid)
    · rintro e ⟨⟩
      exact .inr rfl

end

section
variable {σ : Type} {answer : (s : ReconcileStatement) → σ → ReconcileReply s × σ}

theorem outcomeCounted {candidate : ReconciliationCandidate} {st : σ} {outcome : ReconciliationOutcome} {retrieved failed : Bool}
    (h : ((candidateOutcome candidate).eval answer st).1 = .ok (outcome,retrieved,failed)) :
    retrieved.toNat + failed.toNat ≤ 1 := by
  unfold candidateOutcome at h
  rw [Program.evalBind,Program.evalCaught] at h
  simp only [] at h
  cases ran : ((reconcileCandidate candidate).eval answer st).1 with
  | ok made =>
    rw [ran] at h
    cases h
    cases made.2 <;> decide
  | error e =>
    rw [ran] at h
    simp only [] at h
    split at h <;> cases h
    decide

structure Totals (report : ReconciliationReport) : Prop where
  processed : report.processedCount = report.outcomes.length
  counted : report.retrievedCount + report.failedCount ≤ report.processedCount

theorem reportTotals {candidates : List ReconciliationCandidate} {report report' : ReconciliationReport} {st : σ}
    (h : ((reconcileSelected candidates report).eval answer st).1 = .ok report') (totals : Totals report) :
    Totals report' ∧ report'.processedCount = report.processedCount + candidates.length := by
  induction candidates generalizing report st with
  | nil =>
    cases Except.ok.inj h
    exact ⟨totals,rfl⟩
  | cons candidate rest ih =>
    unfold reconcileSelected at h
    rw [Program.evalBind] at h
    have counted := @outcomeCounted σ answer candidate st
    generalize (candidateOutcome candidate).eval answer st = ran at h counted
    obtain ⟨_ | ⟨outcome,retrieved,failed⟩,st'⟩ := ran
    · cases h
    · obtain ⟨kept,processed⟩ := ih h ⟨by simp [totals.processed],by
        have one := counted rfl
        have before := totals.counted
        simp only
        omega⟩
      simp only [] at processed
      exact ⟨kept,by rw [processed,List.length_cons]; omega⟩

end

end PgLlmBatch.Reconciliation
