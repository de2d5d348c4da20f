import PgLlmBatch.RemoteBatchStore

/-! The page of oldest lifecycle rows that a reconciliation worker of one tenant takes up. -/
namespace PgLlmBatch
open Base

def maxReconciliationCandidates : Int := 400

structure ReconciliationCandidate where
  endpointAlias : PyStr
  remoteBatchId : PyStr
  deriving DecidableEq, Repr

def validateCandidateBudget : Json → Except PyError Nat
  | .int n =>
      if n < 1 ∨ maxReconciliationCandidates < n then
        .error (.redactedValidation "max_candidates"
          "must be an integer within the supported reconciliation scan budget"
          "Reconciliation candidate query budget is invalid")
      else .ok n.toNat
  | _ => .error (.redactedValidation "max_candidates"
      "must be an integer within the supported reconciliation scan budget"
      "Reconciliation candidate query budget is invalid")

def validateCandidateTenant (tenantScope : Json) : Except PyError PyStr :=
  match validateTenantScope tenantScope with
  | .ok tenant => .ok tenant
  | .error _ => .error (.redactedValidation "tenant_scope" "must be a valid host-authorized tenant scope"
      "Reconciliation tenant scope is invalid")

def candidateFromPersistedRow (row : PyStr × PyStr) : Except PyError ReconciliationCandidate :=
  let refused : PyError := .redactedValidation "reconciliation_candidate"
    "durable candidate identity failed validation" "Persisted reconciliation candidate is invalid"
  match validateEndpointAlias (.str row.1), validateRemoteResourceId (.str row.2) "remote_batch_id" with
  | .ok endpointAlias, .ok remoteBatchId =>
      if endpointAlias ≠ row.1 then .error refused else .ok ⟨endpointAlias,remoteBatchId⟩
  | _, _ => .error refused

def selectCandidates (tenantScope : PyStr) (budget : Nat) : JobProgram (List (PyStr × PyStr)) := do
  setJobTenantScope tenantScope
  Program.ask (JobStatement.selectCandidates tenantScope budget)

def loadReconciliationCandidatesInTransaction (tenantScope maxCandidates : Json) :
    JobProgram (List ReconciliationCandidate) := do
  let budget ← Program.ofExcept (validateCandidateBudget maxCandidates)
  let tenant ← Program.ofExcept (validateCandidateTenant tenantScope)
  let rows ← (selectCandidates tenant budget).handle
    (fun e => if e.isInterrupted then throw e else throw .reconciliationStore)
  Program.ofExcept (rows.mapM candidateFromPersistedRow)

end PgLlmBatch
