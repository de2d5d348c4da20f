import PgLlmBatch.DurableClient

/-! Creating a remote batch through the durable client: what is checked before the POST goes out,
and the observation that is recorded once the provider has answered. -/
namespace PgLlmBatch
open Base
open Base.JsonText (dumps DumpStyle)

def slash : PyChar := chr '/'

def endpointRootChar (c : PyChar) : Bool := c.alphanumeric || c == chr '_' || c == chr '~' || c == chr '-'
def endpointChar (c : PyChar) : Bool := endpointRootChar c || c == chr '.'

def endpointSegment (s : PyStr) : Bool := !s.isEmpty && s.all endpointChar

-- `/[A-Za-z0-9_~-]+(?:/[A-Za-z0-9._~-]+){0,15}\Z` as a full match.
def batchEndpointPattern (s : PyStr) : Bool :=
  match s.splitOn slash with
  | []::root::segments =>
      !root.isEmpty && root.all endpointRootChar && segments.all endpointSegment && segments.length ≤ 15
  | _ => false

def traversalSegment (s : PyStr) : Bool := s == py "." || s == py ".."

def batchEndpointReason : String :=
  "must be an absolute 1-256 character API path with 1-16 non-empty ASCII segments using only letters, " ++
    "digits, dot, underscore, tilde, or hyphen; traversal, queries, fragments, percent escapes, and " ++
    "trailing slashes are not allowed"

def validateBatchEndpoint (given : PyValue) : Except PyError PyStr :=
  let value := given.value
  match value with
  | .str s =>
      if decide (256 < s.length) || !batchEndpointPattern s || ((s.splitOn slash).drop 1).any traversalSegment then
        .error (.validation "endpoint" (.value value) batchEndpointReason)
      else .ok s
  | _ => .error (.validation "endpoint" (.value value) batchEndpointReason)

namespace DurableClient

structure CreateArguments where
  inputFileId : Json
  endpointAlias : Json
  endpoint : PyValue
  metadata : Json

-- What the client calls out to. The provider answers a POST; whatever else uses the store runs meanwhile.
structure Seams (σ : Type) where
  observationReserver : σ → Except PyError Json × σ
  credentials : PyStr → Except PyError Unit
  provider : List (PyStr × Json) → σ → Except PyError (List (PyStr × Json)) × σ
  lifecycleRecorder : LifecycleRecorder σ

-- The payload is set once a POST has been issued.
structure CreateRun (σ : Type) where
  result : Except PyError (List (PyStr × Json))
  store : σ
  posted : Option (List (PyStr × Json))

def positiveOrder : Json → Bool
  | .int n => decide (0 < n)
  | _ => false

def reservationError (operation : String) (endpointAlias : PyStr) (batchId : Option PyStr) (e : PyError) : PyError :=
  .gateway (operation ++ " lifecycle reservation failed") none
    [("operation",.str (py operation)),("phase",.str (py "reservation")),("endpoint_alias",.str endpointAlias),
      ("batch_id",textOrNull batchId),("error_type",.str (py (boundedLifecycleErrorType e)))]

def reserveObservationOrder {σ : Type} (seams : Seams σ) (endpointAlias : PyStr) (operation : String)
    (batchId : Option PyStr) (store : σ) : Except PyError Json × σ :=
  match seams.observationReserver store with
  | (.ok order,after) =>
      if positiveOrder order then (.ok order,after)
      else (.error (reservationError operation endpointAlias batchId
        (.valueError "observation reserver must return a positive integer")),after)
  | (.error e,after) => (.error (if e.isInterrupted then e else reservationError operation endpointAlias batchId e),after)

-- The JSON body is serialized before anything is sent.
def postStyle : DumpStyle := ⟨false,false,true⟩

def batchPayload (inputFileId endpoint : PyStr) (metadata : Json) : List (PyStr × Json) :=
  [(py "input_file_id",.str inputFileId),(py "endpoint",.str endpoint),(py "completion_window",.str (py "24h"))] ++
    (if metadata.truthy then [(py "metadata",metadata)] else [])

def serialized (i : Interpreter) (payload : List (PyStr × Json)) : Except PyError Unit :=
  match dumps i postStyle (.obj payload) with
  | .ok _ => .ok ()
  | .error .recursion => .error (.runtimeError "maximum recursion depth exceeded")
  | .error _ => .error (.valueError "payload is not JSON serializable")

-- `BatchAPIClient.create_batch_job` up to its POST.
def createPayload {σ : Type} (i : Interpreter) (seams : Seams σ) (inputFileId endpointAlias : PyStr) (a : CreateArguments) :
    Except PyError (List (PyStr × Json)) := do
  let fileId ← validateRemoteResourceId (.str inputFileId) "input_file_id"
  let endpoint ← validateBatchEndpoint a.endpoint
  seams.credentials endpointAlias
  let payload := batchPayload fileId endpoint a.metadata
  serialized i payload
  return payload

def createdSnapshot (result : List (PyStr × Json)) (inputFileId : PyStr) (a : CreateArguments) : List (PyStr × Json) :=
  let snapshot := Json.setDefault result (py "input_file_id") (.str inputFileId)
  let snapshot := Json.setDefault snapshot (py "endpoint") a.endpoint.value
  match a.metadata with
  | .null => snapshot
  | metadata => Json.setDefault snapshot (py "metadata") metadata

-- An endpoint that the provider echoes has come from JSON; one that it leaves out is the caller's.
def createdDerived (result : List (PyStr × Json)) (a : CreateArguments) : List PyStr :=
  if a.endpoint.builtin || (Json.get? result (py "endpoint")).isSome then [] else [py "endpoint"]

def createIdentities (a : CreateArguments) : Except PyError (PyStr × PyStr) := do
  let endpointAlias ← validateEndpointAlias a.endpointAlias
  let fileId ← validateRemoteResourceId a.inputFileId "input_file_id"
  return (endpointAlias,fileId)

def createObservation (result : List (PyStr × Json)) (endpointAlias fileId : PyStr) (order : Json) (a : CreateArguments) :
    Observation where
  endpointAlias := .str endpointAlias
  providerBatch := createdSnapshot result fileId a
  derived := createdDerived result a
  observationOrder := order
  operation := "Batch creation"
  expectedBatchId := none

def createBatchJob {σ : Type} (i : Interpreter) (seams : Seams σ) (a : CreateArguments) (store : σ) : CreateRun σ :=
  match createIdentities a with
  | .error e => ⟨.error e,store,none⟩
  | .ok (endpointAlias,fileId) =>
    match reserveObservationOrder seams endpointAlias "Batch creation" none store with
    | (.error e,store) => ⟨.error e,store,none⟩
    | (.ok order,store) =>
      match createPayload i seams fileId endpointAlias a with
      | .error e => ⟨.error e,store,none⟩
      | .ok payload =>
        match seams.provider payload store with
        | (.error e,store) => ⟨.error e,store,some payload⟩
        | (.ok result,store) =>
          match persistSnapshot i seams.lifecycleRecorder (createObservation result endpointAlias fileId order a) store with
          | (.error e,store) => ⟨.error e,store,some payload⟩
          | (.ok (),store) => ⟨.ok result,store,some payload⟩

end DurableClient
end PgLlmBatch
