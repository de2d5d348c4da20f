import PgLlmBatch.RemoteBatchStore

/-! `DurableBatchAPIClient` after a provider operation has succeeded: the response is normalized
once more before the recorder sees it, and whatever fails becomes one gateway error. -/
namespace PgLlmBatch
open Base

def normalizeOptionalProviderText : Json → Option PyStr
  | .str s => if s.isEmpty || s.contains nul then none else some s
  | _ => none

def normalizeProviderMetadata (i : Interpreter) (value : Json) : Json := (providerMetadata i value).1

def textOrNull : Option PyStr → Json
  | none => .null
  | some s => .str s

namespace DurableClient

-- The recorder seam: an alias, a provider batch and an observation order.
abbrev LifecycleRecorder (σ : Type) := Json → ProviderBatch → Json → σ → Except PyError Unit × σ

-- `persist_remote_batch_state` on a connection of its own; `now` is the clock's reading.
def defaultRecorder (pg : Postgres) (i : Interpreter) (now : Int) : LifecycleRecorder (List RemoteBatchJob) :=
  fun endpointAlias providerBatch observationOrder jobs =>
    let (result,jobs) := transact pg none
      (persistRemoteBatchState i now endpointAlias providerBatch observationOrder .absent) jobs
    (result.map (fun _ => ()),jobs)

def boundedLifecycleErrorType : PyError → String
  | .validation .. | .redactedValidation .. => "ValidationError"
  | .valueError _ | .unicodeEncodeError => "ValueError"
  | _ => "RuntimeError"

-- `derived` is that of the provider batch.
structure Observation where
  endpointAlias : Json
  providerBatch : List (PyStr × Json)
  derived : List PyStr
  observationOrder : Json
  operation : String
  expectedBatchId : Option Json

def resourceFields : List String := ["input_file_id","output_file_id","error_file_id"]

def withResourceIds : List String → List (PyStr × Json) → Except PyError (List (PyStr × Json))
  | [], snapshot => .ok snapshot
  | field::fields, snapshot => do
      let id ← validateOptionalRemoteResourceId (Json.get snapshot (py field)) field
      withResourceIds fields (Json.set snapshot (py field) (textOrNull id))

def expectedRecovery : Option Json → Except PyError (Option PyStr)
  | none => .ok none
  | some expected => some <$> validateRemoteResourceId expected "expected_batch_id"

def validatedBatchId (o : Observation) : Except PyError PyStr := do
  let recovery ← expectedRecovery o.expectedBatchId
  let id ← validateRemoteResourceId (Json.get o.providerBatch (py "id")) "remote_batch_id"
  if recovery.isSome ∧ recovery ≠ some id then
    throw (.redactedValidation "remote_batch_id" "does not match requested batch id"
      "provider batch id does not match requested batch id")
  return id

def recoveryBatchId (o : Observation) : Option PyStr :=
  match o.expectedBatchId with
  | some expected => (validateRemoteResourceId expected "expected_batch_id").toOption
  | none => (validateRemoteResourceId (Json.get o.providerBatch (py "id")) "remote_batch_id").toOption

def withEndpoint (snapshot : List (PyStr × Json)) : List (PyStr × Json) :=
  Json.set snapshot (py "endpoint") (textOrNull (normalizeOptionalProviderText (Json.get snapshot (py "endpoint"))))

def withStatus (snapshot : List (PyStr × Json)) : List (PyStr × Json) :=
  Json.set snapshot (py "status")
    (.str ((normalizeOptionalProviderText (Json.get snapshot (py "status"))).getD (py "unknown")))

-- Metadata is replaced only where the provider sent some.
def withMetadata (i : Interpreter) (providerBatch snapshot : List (PyStr × Json)) : List (PyStr × Json) :=
  match Json.get? providerBatch (py "metadata") with
  | none => snapshot
  | some metadata => Json.set snapshot (py "metadata") (normalizeProviderMetadata i metadata)

def providerSnapshot (i : Interpreter) (o : Observation) : Except PyError (List (PyStr × Json)) := do
  let id ← validatedBatchId o
  let snapshot ← withResourceIds resourceFields (Json.set o.providerBatch (py "id") (.str id))
  return withMetadata i o.providerBatch (withStatus (withEndpoint snapshot))

def keptDerived (o : Observation) : List PyStr :=
  o.derived.filter (fun name => (normalizeOptionalProviderText (Json.get o.providerBatch name)).isSome)

def persistenceError (o : Observation) (e : PyError) : PyError :=
  .gateway (o.operation ++ " succeeded but lifecycle persistence failed") none
    [("operation",.str (py o.operation)),("phase",.str (py "persistence")),("endpoint_alias",o.endpointAlias),
      ("batch_id",textOrNull (recoveryBatchId o)),("observation_order",o.observationOrder),
      ("error_type",.str (py (boundedLifecycleErrorType e)))]

def recorded {σ : Type} (i : Interpreter) (recorder : LifecycleRecorder σ) (o : Observation) (store : σ) :
    Except PyError Unit × σ :=
  match providerSnapshot i o with
  | .error e => (.error e,store)
  | .ok snapshot => recorder o.endpointAlias ⟨.obj snapshot,keptDerived o⟩ o.observationOrder store

def persistSnapshot {σ : Type} (i : Interpreter) (recorder : LifecycleRecorder σ) (o : Observation) (store : σ) :
    Except PyError Unit × σ :=
  match recorded i recorder o store with
  | (.ok (),after) => (.ok (),after)
  | (.error e,after) => (.error (if e.isInterrupted then e else persistenceError o e),after)

end DurableClient
end PgLlmBatch
