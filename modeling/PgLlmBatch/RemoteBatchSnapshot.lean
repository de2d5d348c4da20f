import PgLlmBatch.Identifiers
import PgLlmBatch.Base.Fallible
import PgLlmBatch.Base.JsonText

/-! One provider observation of a remote batch, normalized before anything is written. -/
namespace PgLlmBatch
open Base
open Base.JsonText (dumps loads defaultHooks DumpStyle)

def maxProviderMetadataBytes : Nat := 64 * 1024

inductive BatchStatus where
  | unknown | validating | failed | inProgress | finalizing | completed | expired | cancelling | cancelled
  deriving DecidableEq, Repr

namespace BatchStatus

def text : BatchStatus → PyStr
  | unknown => py "unknown"
  | validating => py "validating"
  | failed => py "failed"
  | inProgress => py "in_progress"
  | finalizing => py "finalizing"
  | completed => py "completed"
  | expired => py "expired"
  | cancelling => py "cancelling"
  | cancelled => py "cancelled"

def supported : List BatchStatus :=
  [validating,failed,inProgress,finalizing,completed,expired,cancelling,cancelled]

-- REMOTE_TERMINAL_STATUSES
def terminal (s : BatchStatus) : Bool := s == completed || s == failed || s == expired || s == cancelled

end BatchStatus

inductive BatchEndpoint where | responses | chatCompletions | embeddings | completions | moderations
  deriving DecidableEq, Repr

namespace BatchEndpoint

def text : BatchEndpoint → PyStr
  | responses => py "/v1/responses"
  | chatCompletions => py "/v1/chat/completions"
  | embeddings => py "/v1/embeddings"
  | completions => py "/v1/completions"
  | moderations => py "/v1/moderations"

def supported : List BatchEndpoint := [responses,chatCompletions,embeddings,completions,moderations]

end BatchEndpoint

-- A value given for a text. `builtin` is false where its text belongs to a proper subclass of `str`, which
-- `isinstance(value, str)` takes and `type(value) is str` does not.
structure PyValue where
  value : Json
  builtin : Bool

def providerBatchStatus : PyValue → Except PyError BatchStatus
  | ⟨.null,_⟩ | ⟨.str [],_⟩ => .ok .unknown
  | ⟨.str s,true⟩ => match BatchStatus.supported.find? (fun status => status.text == s) with
      | some status => .ok status
      | none => .error (.valueError "batch_status is not a supported provider status")
  | _ => .error (.valueError "batch_status is not a supported provider status")

def providerBatchEndpoint : PyValue → Except PyError (Option BatchEndpoint)
  | ⟨.null,_⟩ | ⟨.str [],_⟩ => .ok none
  | ⟨.str s,true⟩ => match BatchEndpoint.supported.find? (fun endpoint => endpoint.text == s) with
      | some endpoint => .ok (some endpoint)
      | none => .error (.valueError "batch_endpoint is not a supported provider batch endpoint")
  | _ => .error (.valueError "batch_endpoint is not a supported provider batch endpoint")

def providerCount : Json → Int
  | .int n => if 0 ≤ n then n else 0
  | _ => 0

def knownCount : Json → Bool
  | .int n => 0 ≤ n
  | _ => false

def validateOptionalRemoteResourceId (value : Json) (field : String) : Except PyError (Option PyStr) :=
  match value with
  | .str (c::s) => some <$> validateRemoteResourceId (.str (c::s)) field
  | _ => .ok none

def persistedRemoteResourceId (value : Json) (field : String) : Except PyError (Option PyStr) :=
  match validateOptionalRemoteResourceId value field with
  | .ok id => .ok id
  | .error _ => .error (.valueError (field ++ " must be a supported optional remote resource identifier"))

def nul : PyChar := 0

mutual
def metadataSize : Json → Nat
  | .arr xs => metadataItems xs + 1
  | .obj ms => metadataMembers ms + 1
  | .null | .bool _ | .int _ | .float _ | .str _ => 1
def metadataItems : List Json → Nat
  | [] => 0
  | x::xs => metadataSize x + metadataItems xs
def metadataMembers : List (PyStr × Json) → Nat
  | [] => 0
  | (_,x)::ms => metadataSize x + metadataMembers ms
end

-- The worklist with its last value first. The first argument bounds the values still to pop.
def nulPending : Nat → List Json → Bool
  | 0, _ | _, [] => false
  | n+1, .str s::pending => if s.contains nul then true else nulPending n pending
  | n+1, .arr xs::pending => nulPending n (xs.reverse ++ pending)
  | n+1, .obj ms::pending =>
      if ms.any (fun m => m.1.contains nul) then true
      else nulPending n ((ms.map Prod.snd).reverse ++ pending)
  | n+1, _::pending => nulPending n pending

def metadataContainsNul (value : Json) : Bool := nulPending (metadataSize value) [value]

def metadataStyle : DumpStyle := ⟨true,true,false⟩

def emptyMetadata : Json × PyStr := (.obj [],py "\x7b\x7d")

def providerMetadata (i : Interpreter) (value : Json) : Json × PyStr :=
  match value with
  | .obj _ => match dumps i metadataStyle value with
      | .error _ => emptyMetadata
      | .ok metadataJson => match metadataJson.encodeUtf8 with
          | none => emptyMetadata
          | some metadataBytes =>
              if maxProviderMetadataBytes < metadataBytes.length then emptyMetadata
              else match loads i defaultHooks metadataJson with
                | .error _ => emptyMetadata
                | .ok metadata => if metadataContainsNul metadata then emptyMetadata else (metadata,metadataJson)
  | _ => emptyMetadata

-- The members named in `derived` hold a text of a proper subclass of `str`.
structure ProviderBatch where
  value : Json
  derived : List PyStr

def ProviderBatch.obj (members : List (PyStr × Json)) : ProviderBatch := ⟨.obj members,[]⟩

def typedMember (derived : List PyStr) (members : List (PyStr × Json)) (name : PyStr) : PyValue :=
  ⟨Json.get members name,!derived.contains name⟩

-- `observed_at`: absent, a datetime with an offset (its instant in microseconds), or anything else.
inductive ObservedAt where
  | absent
  | aware (instant : Int)
  | other
  deriving DecidableEq, Repr

structure RemoteBatchSnapshot where
  tenantScope : PyStr
  endpointAlias : PyStr
  remoteBatchId : PyStr
  observationOrder : Int
  inputFileId : Option PyStr
  batchEndpoint : Option BatchEndpoint
  batchStatus : BatchStatus
  outputFileId : Option PyStr
  errorFileId : Option PyStr
  totalRequests : Int
  totalRequestsKnown : Bool
  completedRequests : Int
  failedRequests : Int
  providerMetadata : Json
  observedAt : Int
  terminalAt : Option Int
  deriving Repr

def observationOrderField : Json → Except PyError Int
  | .int n => if n ≤ 0 then .error (.valueError "observation_order must be a positive integer") else .ok n
  | _ => .error (.valueError "observation_order must be a positive integer")

def persistedEndpointAlias (value : Json) : Except PyError PyStr :=
  match validateEndpointAlias value with
  | .ok normalized => .ok normalized
  | .error _ => .error (.valueError ("endpoint_alias must be a non-empty NUL-free string of at most " ++
      s!"{maxEndpointAliasCharacters} characters"))

def providerMapping : Json → Except PyError (List (PyStr × Json))
  | .obj ms => .ok ms
  | _ => .error (.valueError "provider_batch must be a mapping object")

def persistedRemoteBatchId (value : Json) : Except PyError PyStr :=
  match validateRemoteResourceId value "remote_batch_id" with
  | .ok id => .ok id
  | .error _ => .error (.valueError ("remote_batch_id (provider batch id) must be a supported non-empty " ++
      s!"string of at most {maxRemoteResourceIdCharacters} characters"))

def observedInstant (now : Int) : ObservedAt → Except PyError Int
  | .absent => .ok now
  | .aware instant => .ok instant
  | .other => .error (.valueError "observed_at must be a timezone-aware datetime")

def requestCounts : Json → List (PyStr × Json)
  | .obj ms => ms
  | _ => []

def normalizeRemoteBatchSnapshot (i : Interpreter) (now : Int) (tenantScope endpointAlias : Json)
    (providerBatch : ProviderBatch) (observationOrder : Json) (observedAt : ObservedAt) :
    Except PyError (RemoteBatchSnapshot × PyStr) := do
  let tenant ← validateTenantScope tenantScope
  let order ← observationOrderField observationOrder
  let normalizedAlias ← persistedEndpointAlias endpointAlias
  let batch ← providerMapping providerBatch.value
  let remoteBatchId ← persistedRemoteBatchId (Json.get batch (py "id"))
  let observed ← observedInstant now observedAt
  let inputFileId ← persistedRemoteResourceId (Json.get batch (py "input_file_id")) "input_file_id"
  let outputFileId ← persistedRemoteResourceId (Json.get batch (py "output_file_id")) "output_file_id"
  let errorFileId ← persistedRemoteResourceId (Json.get batch (py "error_file_id")) "error_file_id"
  let batchStatus ← providerBatchStatus (typedMember providerBatch.derived batch (py "status"))
  let batchEndpoint ← providerBatchEndpoint (typedMember providerBatch.derived batch (py "endpoint"))
  let counts := requestCounts (Json.get batch (py "request_counts"))
  let rawTotal := Json.get counts (py "total")
  let total := providerCount rawTotal
  let completed := providerCount (Json.get counts (py "completed"))
  let failed := providerCount (Json.get counts (py "failed"))
  if knownCount rawTotal ∧ total < completed + failed then
    throw (.valueError "request_counts progress is inconsistent")
  let (metadata,metadataJson) := providerMetadata i (Json.get batch (py "metadata"))
  return (⟨tenant,normalizedAlias,remoteBatchId,order,inputFileId,batchEndpoint,batchStatus,outputFileId,
    errorFileId,total,knownCount rawTotal,completed,failed,metadata,observed,
    if batchStatus.terminal then some observed else none⟩,metadataJson)

structure RemoteBatchSnapshot.Normalized (s : RemoteBatchSnapshot) : Prop where
  scope : identifierPattern maxTenantScopeCharacters s.tenantScope = true
  aliasLength : 1 ≤ s.endpointAlias.length ∧ s.endpointAlias.length ≤ maxEndpointAliasCharacters
  batchId : identifierPattern maxRemoteResourceIdCharacters s.remoteBatchId = true
  order : 0 < s.observationOrder
  fileIds : ∀ id, s.inputFileId = some id ∨ s.outputFileId = some id ∨ s.errorFileId = some id →
    identifierPattern maxRemoteResourceIdCharacters id = true
  counts : 0 ≤ s.totalRequests ∧ 0 ≤ s.completedRequests ∧ 0 ≤ s.failedRequests
  known : 0 < s.totalRequests → s.totalRequestsKnown = true
  progress : s.totalRequestsKnown = true → s.completedRequests + s.failedRequests ≤ s.totalRequests
  terminal : s.terminalAt = if s.batchStatus.terminal then some s.observedAt else none

theorem orderPositive {value : Json} {n : Int} (h : observationOrderField value = .ok n) : 0 < n := by
  unfold observationOrderField at h
  split at h <;> try contradiction
  split at h <;> cases h
  omega

theorem aliasBounded {value : Json} {s : PyStr} (h : validateEndpointAlias value = .ok s) :
    1 ≤ s.length ∧ s.length ≤ maxEndpointAliasCharacters := by
  unfold validateEndpointAlias at h
  split at h <;> try contradiction
  simp only [] at h
  split at h <;> cases h
  rename_i accepted
  simp only [Bool.or_eq_true,List.isEmpty_iff,decide_eq_true_eq,not_or,not_lt] at accepted
  exact ⟨List.length_pos_iff.mpr accepted.1.1,accepted.2⟩

theorem persistedAlias {value : Json} {s : PyStr} (h : persistedEndpointAlias value = .ok s) :
    validateEndpointAlias value = .ok s := by
  unfold persistedEndpointAlias at h
  split at h <;> cases h
  assumption

theorem persistedBatchId {value : Json} {s : PyStr} (h : persistedRemoteBatchId value = .ok s) :
    identifierPattern maxRemoteResourceIdCharacters s = true := by
  unfold persistedRemoteBatchId at h
  split at h <;> cases h
  rename_i accepted
  exact (validIdentifier accepted).2

theorem optionalIdentifier {value : Json} {field : String} {id : Option PyStr}
    (h : persistedRemoteResourceId value field = .ok id) :
    ∀ s, id = some s → identifierPattern maxRemoteResourceIdCharacters s = true := by
  rintro s rfl
  unfold persistedRemoteResourceId at h
  split at h <;> cases h
  rename_i accepted
  unfold validateOptionalRemoteResourceId at accepted
  split at accepted
  · obtain ⟨t,valid,same⟩ := Fallible.mapOk.mp accepted
    cases Option.some.inj same
    exact (validIdentifier valid).2
  · cases Except.ok.inj accepted

theorem countNatural (value : Json) : 0 ≤ providerCount value := by
  unfold providerCount
  split
  · split <;> omega
  · exact Int.le_refl 0

theorem countKnown {value : Json} (h : 0 < providerCount value) : knownCount value = true := by
  unfold providerCount at h
  unfold knownCount
  split at h
  · split at h
    · simpa
    · omega
  · omega

structure RemoteBatchSnapshot.MadeFrom (s : RemoteBatchSnapshot) (i : Interpreter) (now : Int)
    (tenantScope endpointAlias : Json) (batch : List (PyStr × Json)) (derived : List PyStr) (observationOrder : Json)
    (observedAt : ObservedAt) (metadataJson : PyStr) : Prop where
  scope : validateTenantScope tenantScope = .ok s.tenantScope
  order : observationOrderField observationOrder = .ok s.observationOrder
  named : persistedEndpointAlias endpointAlias = .ok s.endpointAlias
  batchId : persistedRemoteBatchId (Json.get batch (py "id")) = .ok s.remoteBatchId
  observed : observedInstant now observedAt = .ok s.observedAt
  inputFile : persistedRemoteResourceId (Json.get batch (py "input_file_id")) "input_file_id" = .ok s.inputFileId
  outputFile : persistedRemoteResourceId (Json.get batch (py "output_file_id")) "output_file_id" = .ok s.outputFileId
  errorFile : persistedRemoteResourceId (Json.get batch (py "error_file_id")) "error_file_id" = .ok s.errorFileId
  status : providerBatchStatus (typedMember derived batch (py "status")) = .ok s.batchStatus
  endpoint : providerBatchEndpoint (typedMember derived batch (py "endpoint")) = .ok s.batchEndpoint
  total : s.totalRequests = providerCount (Json.get (requestCounts (Json.get batch (py "request_counts"))) (py "total"))
  known : s.totalRequestsKnown = knownCount (Json.get (requestCounts (Json.get batch (py "request_counts"))) (py "total"))
  completed : s.completedRequests =
    providerCount (Json.get (requestCounts (Json.get batch (py "request_counts"))) (py "completed"))
  failed : s.failedRequests = providerCount (Json.get (requestCounts (Json.get batch (py "request_counts"))) (py "failed"))
  progress : ¬(s.totalRequestsKnown = true ∧ s.totalRequests < s.completedRequests + s.failedRequests)
  metadata : (s.providerMetadata,metadataJson) = PgLlmBatch.providerMetadata i (Json.get batch (py "metadata"))
  terminal : s.terminalAt = if s.batchStatus.terminal then some s.observedAt else none

section
variable {i : Interpreter} {now : Int} {tenantScope endpointAlias order : Json} {providerBatch : ProviderBatch}
  {observedAt : ObservedAt}
  {s : RemoteBatchSnapshot} {m : PyStr}

theorem normalizedFrom
    (h : normalizeRemoteBatchSnapshot i now tenantScope endpointAlias providerBatch order observedAt = .ok (s,m)) :
    ∃ batch, providerBatch.value = .obj batch ∧
      s.MadeFrom i now tenantScope endpointAlias batch providerBatch.derived order observedAt m := by
  obtain ⟨tenant,authorized,h⟩ := Fallible.bindOk.mp h
  obtain ⟨order,ordered,h⟩ := Fallible.bindOk.mp h
  obtain ⟨endpoint,named,h⟩ := Fallible.bindOk.mp h
  obtain ⟨batch,mapping,h⟩ := Fallible.bindOk.mp h
  obtain ⟨batchId,identified,h⟩ := Fallible.bindOk.mp h
  obtain ⟨observed,instant,h⟩ := Fallible.bindOk.mp h
  obtain ⟨inputFileId,input,h⟩ := Fallible.bindOk.mp h
  obtain ⟨outputFileId,output,h⟩ := Fallible.bindOk.mp h
  obtain ⟨errorFileId,error,h⟩ := Fallible.bindOk.mp h
  obtain ⟨status,reported,h⟩ := Fallible.bindOk.mp h
  obtain ⟨batchEndpoint,routed,h⟩ := Fallible.bindOk.mp h
  have members : providerBatch.value = .obj batch := by
    unfold providerMapping at mapping
    split at mapping
    · rename_i same
      cases mapping
      exact same
    · cases mapping
  simp only [] at h
  split at h
  · contradiction
  rename_i consistent
  cases Except.ok.inj h
  exact ⟨batch,members,authorized,ordered,named,identified,instant,input,output,error,reported,routed,rfl,rfl,rfl,rfl,
    consistent,rfl,rfl⟩

theorem normalizes {batch : List (PyStr × Json)} {derived : List PyStr}
    (made : s.MadeFrom i now tenantScope endpointAlias batch derived order observedAt m) :
    normalizeRemoteBatchSnapshot i now tenantScope endpointAlias ⟨.obj batch,derived⟩ order observedAt = .ok (s,m) := by
  have mapping : providerMapping (.obj batch) = .ok batch := rfl
  have value := made.metadata
  have progress := made.progress
  have terminal := made.terminal
  rw [made.total,made.known,made.completed,made.failed] at progress
  obtain ⟨tenant,named,id,number,input,endpoint,status,output,error,total,known,completed,failed,metadata,observed,ended⟩ := s
  unfold normalizeRemoteBatchSnapshot
  simp only [bind,Except.bind,made.scope,made.order,made.named,mapping,made.batchId,made.observed,made.inputFile,
    made.outputFile,made.errorFile,made.status,made.endpoint,← value,if_neg progress]
  have totals := made.total
  have knowns := made.known
  have completeds := made.completed
  have faileds := made.failed
  simp only [] at totals knowns completeds faileds terminal
  rw [← totals,← knowns,← completeds,← faileds,← terminal]
  rfl

theorem normalizedSnapshot
    (h : normalizeRemoteBatchSnapshot i now tenantScope endpointAlias providerBatch order observedAt = .ok (s,m)) :
    s.Normalized := by
  obtain ⟨batch,-,made⟩ := normalizedFrom h
  exact {
    scope := (validIdentifier made.scope).2
    aliasLength := aliasBounded (persistedAlias made.named)
    batchId := persistedBatchId made.batchId
    order := orderPositive made.order
    fileIds := by
      rintro id (same | same | same)
      · exact optionalIdentifier made.inputFile id same
      · exact optionalIdentifier made.outputFile id same
      · exact optionalIdentifier made.errorFile id same
    counts := by
      rw [made.total,made.completed,made.failed]
      exact ⟨countNatural _,countNatural _,countNatural _⟩
    known := by
      rw [made.total,made.known]
      exact countKnown
    progress := fun known => by
      have within := fun beyond => made.progress ⟨known,beyond⟩
      exact not_lt.mp within
    terminal := made.terminal}

end
end PgLlmBatch
