import PgLlmBatch.Exceptions

/-! The identifiers shared by every store and client: endpoint aliases, tenant scopes,
provider resource ids and checkpoint consumer names. -/
namespace PgLlmBatch
open Base

def maxEndpointAliasCharacters : Nat := 128
def maxRemoteResourceIdCharacters : Nat := 256
def maxTenantScopeCharacters : Nat := 128
def maxCheckpointConsumerCharacters : Nat := 128
def defaultTenantScope : PyStr := py "standalone"

def identifierChar (c : PyChar) : Bool :=
  c.alphanumeric || c == chr '.' || c == chr '_' || c == chr ':' || c == chr '-'

-- `[A-Za-z0-9][A-Za-z0-9._:-]{0,limit-1}\Z` as a full match.
def identifierPattern (limit : Nat) : PyStr → Bool
  | [] => false
  | c::s => c.alphanumeric && s.all identifierChar && s.length ≤ limit - 1

def identifierReason (limit : Nat) : String :=
  s!"must be 1-{limit} ASCII characters beginning with an alphanumeric character and " ++
    "containing only letters, digits, dot, underscore, colon, or hyphen"

def validateIdentifier (limit : Nat) (field : String) (value : Json) : Except PyError PyStr :=
  match value with
  | .str s =>
      if identifierPattern limit s then .ok s
      else .error (.validation field (.value value) (identifierReason limit))
  | _ => .error (.validation field (.value value) (identifierReason limit))

def validateRemoteResourceId (value : Json) (field : String) : Except PyError PyStr :=
  validateIdentifier maxRemoteResourceIdCharacters field value

def validateTenantScope (value : Json) : Except PyError PyStr :=
  validateIdentifier maxTenantScopeCharacters "tenant_scope" value

def validateCheckpointConsumerName (value : Json) : Except PyError PyStr :=
  validateIdentifier maxCheckpointConsumerCharacters "consumer_name" value

def endpointAliasReason : String :=
  s!"must be a non-empty NUL-free string of at most {maxEndpointAliasCharacters} characters"

def validateEndpointAlias (value : Json) : Except PyError PyStr :=
  match value with
  | .str s =>
      let normalized := s.strip
      if normalized.isEmpty || normalized.contains (chr '\x00') ||
          decide (maxEndpointAliasCharacters < normalized.length) then
        .error (.validation "endpoint_alias" (.value value) endpointAliasReason)
      else .ok normalized
  | _ => .error (.validation "endpoint_alias" (.value value) endpointAliasReason)

theorem validIdentifier {limit : Nat} {field : String} {value : Json} {s : PyStr}
    (h : validateIdentifier limit field value = .ok s) :
    value = .str s ∧ identifierPattern limit s = true := by
  unfold validateIdentifier at h
  split at h <;> try contradiction
  split at h <;> try contradiction
  rename_i accepted
  cases Except.ok.inj h
  exact ⟨rfl,accepted⟩

theorem identifierAccepted {limit : Nat} {s : PyStr} (field : String)
    (h : identifierPattern limit s = true) : validateIdentifier limit field (.str s) = .ok s := by
  simp [validateIdentifier,h]

theorem aliasSettled {value : Json} {s : PyStr} (h : validateEndpointAlias value = .ok s) :
    validateEndpointAlias (.str s) = .ok s := by
  unfold validateEndpointAlias at h
  split at h <;> try contradiction
  rename_i t
  simp only [] at h
  split at h
  · cases h
  rename_i accepted
  cases Except.ok.inj h
  unfold validateEndpointAlias
  simp only [stripSettled,if_neg accepted]

end PgLlmBatch
