import PgLlmBatch.PreparationStore

/-! Preparation of a batch: its queued rows are read and assembled, and the payloads are
persisted in one transaction, unless the batch has files already. -/
namespace PgLlmBatch
open Base

structure BatchSelector where
  text : PyStr
  value : Nat

structure BatchPayload where
  filePath : PyStr
  requestCount : Nat
  totalTokens : Nat
  deriving DecidableEq, Repr

structure Prepared where
  ready : List BatchPayload
  overflow : List BatchPayload
  deriving DecidableEq, Repr

def Prepared.append (done : Prepared) (isReady : Bool) (payload : BatchPayload) : Prepared :=
  if isReady then {done with ready := done.ready ++ [payload]}
  else {done with overflow := done.overflow ++ [payload]}

def Prepared.all (done : Prepared) : List BatchPayload := done.ready ++ done.overflow

def validateEffectiveTokenLimit : Json → Except PyError (Option Int)
  | .null => .ok none
  | .int n => if 0 < n then .ok (some n) else
      .error (.validation "effective_token_limit" (.int n) "must be a positive integer when provided")
  | v => .error (.validation "effective_token_limit" (.value v) "must be a positive integer when provided")

def TokenCounter.limited (counter : TokenCounter) : Option Int → TokenCounter
  | none => counter
  | some limit => {counter with effectiveLimit := min counter.effectiveLimit limit}

structure PrepareCall where
  batch : BatchSelector
  effectiveTokenLimit : Json
  counter : TokenCounter
  lookup : Nat → PyStr → Option ModelMetadata

namespace Preparation

abbrev Code (α : Type) := Program Statement Reply PyError α

def query (s : Statement) : Code (Result s) := Program.ask s >>= Program.ofExcept

-- A connection rolls back when its block raises.
def transaction {α : Type} (body : Code α) : Code α :=
  body.handle (fun e => do
    let _ ← (Program.ask .rollback : Code _)
    throw e)

def newPayloadFileId (hex : PyStr) : PyStr := py "file_" ++ hex

def batchLockKey (batchUuid : Nat) : Nat := batchUuid &&& 0x7FFFFFFFFFFFFFFF

def categorizeExistingPayloads (rows : List BatchFile) (immediateLimit : Nat) : Prepared :=
  rows.foldl (fun done row => done.append (row.partIndex < immediateLimit)
    ⟨row.filePath,row.requestCount,row.totalTokens⟩) ⟨[],[]⟩

def loadExistingPayloads (batchUuid immediateLimit : Nat) : Code (Option Prepared) := do
  let rows ← query (.existingFiles batchUuid)
  if rows.isEmpty then return none else return some (categorizeExistingPayloads rows immediateLimit)

-- `enumerate(zip(request_ids, lines), start=1)`.
def lineRows (fileId : PyStr) (requestIds lines : List PyStr) : List JsonlLine :=
  ((requestIds.zip lines).zipIdx 1).map (fun p => ⟨fileId,p.1.1,p.2,p.1.2⟩)

def assignLines (batchUuid : Nat) (fileId fileUuid : PyStr) (part : BatchPayloadPart) : Code Unit := do
  let params := lineRows fileId part.requestIds part.lines
  if params.isEmpty then return ()
  else do
    query (.insertLines params)
    let count : Nat ← query (.assignRequests fileUuid batchUuid part.requestIds)
    if count ≠ part.requestIds.length then
      throw (.validation "request_ids" (.value (.arr (part.requestIds.map .str)))
        "queued request assignment changed during batch preparation")
    else return ()

def persistPart (batchUuid queueUuid : Nat) (part : BatchPayloadPart) : Code BatchPayload := do
  let hex ← query .uuid4
  let fileId := newPayloadFileId hex
  query (.insertPayload ⟨fileId,payloadDocument part.lines⟩)
  let filePath := py "memory://" ++ fileId
  let row ← query (.insertFile batchUuid queueUuid filePath part.partIndex part.recordCount part.totalTokens fileId)
  match row with
  | none => throw (.runtimeError "Persisted batch file did not return file_uuid")
  | some fileUuid => do
      assignLines batchUuid fileId fileUuid part
      return ⟨filePath,part.recordCount,part.totalTokens⟩

def persistParts (batchUuid queueUuid immediateLimit : Nat) :
    Nat → Prepared → List BatchPayloadPart → Code Prepared
  | _, done, [] => return done
  | idx, done, part::parts => do
      let payload ← persistPart batchUuid queueUuid part
      persistParts batchUuid queueUuid immediateLimit (idx+1) (done.append (idx < immediateLimit) payload) parts

def persistNew (batch : BatchSelector) (queueUuid immediateLimit : Nat) (payloads : List BatchPayloadPart) :
    Code Prepared := do
  let done ← persistParts batch.value queueUuid immediateLimit 0 ⟨[],[]⟩ payloads
  query (.updateTotals batch.value (done.all.map BatchPayload.requestCount).sum
    (done.all.map BatchPayload.totalTokens).sum)
  query .commit
  return done

def returnExisting (batch : BatchSelector) (existing : Prepared) : Code Prepared := do
  let hasUnassigned : Bool ← query (.existsUnassigned batch.value)
  if hasUnassigned then
    throw (.validation "batch_uuid" (.text batch.text)
      "batch already has prepared files; additional queued requests require a new batch")
  else do
    query .commit
    return existing

def persistUnderLock (payloads : List BatchPayloadPart) (batch : BatchSelector) (counter : TokenCounter) :
    Code Prepared := do
  query (.advisoryXactLock (batchLockKey batch.value))
  let batchRow ← query (.lockBatch batch.value)
  match batchRow with
  | none => throw (.validation "batch_uuid" (.text batch.text)
      "batch disappeared before preparation could be persisted")
  | some queueUuid => do
      let existing ← loadExistingPayloads batch.value counter.azureMaxFilesPerJob
      match existing with
      | some existing => returnExisting batch existing
      | none => persistNew batch queueUuid counter.azureMaxFilesPerJob payloads

def persistPayloads (payloads : List BatchPayloadPart) (batch : BatchSelector) (counter : TokenCounter) :
    Code Prepared := transaction (persistUnderLock payloads batch counter)

def prepareBatches (i : Interpreter) (c : PrepareCall) : Code Prepared := do
  let limit ← Program.ofExcept (validateEffectiveTokenLimit c.effectiveTokenLimit)
  let rows ← query (.queuedRequests c.batch.value)
  let counter := c.counter.limited limit
  let payloads ← Program.ofExcept (assemblePayloads i counter c.lookup rows)
  persistPayloads payloads c.batch counter

inductive Change where
  | insertBatch (row : Batch)
  | insertRequest (row : RequestRow) (batch : Nat) (createdAt : Int)
  | updateStatus (request : PyStr) (status : RequestStatus)

def Change.perform : Change → Code Unit
  | .insertBatch row => query (.insertBatch row)
  | .insertRequest row batch createdAt => query (.insertRequest row batch createdAt)
  | .updateStatus request status => do
      let _ ← query (.updateStatus request status)
      return ()

def performAll : List Change → Code Unit
  | [] => return ()
  | change::changes => do
      change.perform
      performAll changes

inductive Call where
  | prepare (c : PrepareCall)
  | change (changes : List Change)

-- Only a preparation returns payloads.
def code (i : Interpreter) : Call → Code (Option Prepared)
  | .prepare c => do
      let prepared ← prepareBatches i c
      return some prepared
  | .change changes => transaction do
      performAll changes
      query .commit
      return none

end Preparation
end PgLlmBatch
