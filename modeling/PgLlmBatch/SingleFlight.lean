import PgLlmBatch.Identifiers
import PgLlmBatch.Base.AdvisoryLocks
import PgLlmBatch.Base.Loop
import PgLlmBatch.Base.Sha256

/-! `reconciliation_single_flight`: a context that tries for the advisory lock of a reconciliation
identity, hands its body whether it got it, and gives back what it got. -/
namespace PgLlmBatch
open Base

inductive FlightError where
  | py (error : PyError)
  | singleFlight (phase reason : String)
  deriving Repr

-- `isinstance(error, Exception)`
def FlightError.isException : FlightError → Bool
  | .py e => !e.isInterrupted
  | .singleFlight _ _ => true

structure FlightCandidate where
  endpointAlias : Evidence
  remoteBatchId : Evidence

-- `none` stands for a candidate of any other type.
structure FlightCall where
  tenantScope : Evidence
  candidate : Option FlightCandidate

def invalidIdentity : PyError :=
  .redactedValidation "reconciliation_single_flight_identity"
    "must contain a valid trusted tenant scope, endpoint alias, and remote batch identifier"
    "Reconciliation single-flight identity is invalid"

-- `type(value) is str`
def exactText : Evidence → Option PyStr
  | .value (.str s) => some s
  | _ => none

structure FlightIdentity where
  tenant : PyStr
  endpointAlias : PyStr
  remoteBatchId : PyStr
  deriving DecidableEq

def validatedIdentity (call : FlightCall) : Except PyError FlightIdentity :=
  match exactText call.tenantScope, call.candidate with
  | some tenantScope, some candidate =>
      match exactText candidate.endpointAlias, exactText candidate.remoteBatchId with
      | some endpointValue, some remoteValue =>
          match (do
            let tenant ← validateTenantScope (.str tenantScope)
            let endpointAlias ← validateEndpointAlias (.str endpointValue)
            let remoteBatchId ← validateRemoteResourceId (.str remoteValue) "remote_batch_id"
            return FlightIdentity.mk tenant endpointAlias remoteBatchId : Except PyError FlightIdentity) with
          | .ok identity => .ok identity
          | .error _ => .error invalidIdentity
      | _, _ => .error invalidIdentity
  | _, _ => .error invalidIdentity

def lockDomain : Bytes := ("pg-llm-batch:reconciliation-single-flight:v1".toList.map (fun c => .ofNat c.toNat))

def encoded (s : PyStr) : Except PyError Bytes :=
  match s.encodeUtf8 with
  | some bs => .ok bs
  | none => .error .unicodeEncodeError

def framed (bs : Bytes) : Bytes := bigEndian 4 bs.length ++ bs

-- `int.from_bytes(…, signed=True)` of eight bytes.
def signedWord (bs : Bytes) : Int :=
  let n := natOfBigEndian bs
  if n < 2 ^ 63 then n else n - 2 ^ 64

def lockKey (identity : FlightIdentity) : Except PyError Int := do
  let tenant ← encoded identity.tenant
  let endpointAlias ← encoded identity.endpointAlias
  let remoteBatchId ← encoded identity.remoteBatchId
  return signedWord ((sha256 (lockDomain ++ framed tenant ++ framed endpointAlias ++ framed remoteBatchId)).take 8)

inductive LockSql where | tryAdvisoryLock | advisoryUnlock
  deriving DecidableEq, Repr

-- A tuple or list, or any other thing that `fetchone` returns.
inductive FetchedRow where
  | sequence (items : List Json)
  | other

inductive FlightStatement where
  | execute (sql : LockSql) (lockKey : Int)
  | body (acquired : Bool)

abbrev FlightReply : FlightStatement → Type
  | .execute _ _ => Except FlightError FetchedRow
  | .body _ => Except FlightError Unit

abbrev FlightProgram := Program FlightStatement FlightReply FlightError

def issueFlight (s : FlightStatement) : FlightProgram (FlightReply s) := Program.ask s

def booleanResult (phase : String) : Except FlightError FetchedRow → Except FlightError Bool
  | .error e => .error (if e.isException then .singleFlight phase "database_operation_failed" else e)
  | .ok (.sequence [.bool b]) => .ok b
  | .ok _ => .error (.singleFlight phase
      (if phase = "acquire" then "invalid_database_result" else "lock_release_not_confirmed"))

def executeBooleanLockOperation (sql : LockSql) (lockKey : Int) (phase : String) : FlightProgram Bool := do
  let reply ← issueFlight (.execute sql lockKey)
  Program.ofExcept (booleanResult phase reply)

def releaseSingleFlight (lockKey : Int) : FlightProgram Unit := do
  let released ← executeBooleanLockOperation .advisoryUnlock lockKey "release"
  if !released then throw (.singleFlight "release" "lock_release_not_confirmed")

-- What leaves the context: a release failure replaces an Exception of the body and no other signal.
def ending : Except FlightError Unit → Except FlightError Unit → Except FlightError Unit
  | .error callerError, .error (.singleFlight phase reason) =>
      if callerError.isException then .error (.singleFlight phase reason) else .error callerError
  | _, .error releaseError => .error releaseError
  | outcome, .ok () => outcome

def heldContext (lockKey : Int) : FlightProgram Unit := do
  let outcome ← issueFlight (.body true)
  let released ← (releaseSingleFlight lockKey).caught
  Program.ofExcept (ending outcome released)

def deferredContext : FlightProgram Unit := do
  let outcome ← issueFlight (.body false)
  Program.ofExcept outcome

def flightKey (call : FlightCall) : Except PyError Int := do
  let identity ← validatedIdentity call
  lockKey identity

def reconciliationSingleFlight (call : FlightCall) : FlightProgram Unit := do
  let key ← Program.ofExcept ((flightKey call).mapError .py)
  let acquired ← executeBooleanLockOperation .tryAdvisoryLock key "acquire"
  if !acquired then deferredContext else heldContext key

end PgLlmBatch
