import PgLlmBatch.ResultCheckpoint
import PgLlmBatch.Base.RowLogic

/-! The PostgreSQL checkpoint store: one row per tenant, consumer, endpoint and batch,
loaded without a lock and saved by compare-and-swap in the caller's transaction. -/
namespace PgLlmBatch
open Base
open Base.RowLocking (Statement Reply Situation Write Act)

def postgresBigintMax : Int := 2 ^ 63 - 1

structure CheckpointKey where
  tenantScope : PyStr
  consumerName : PyStr
  endpointAlias : PyStr
  remoteBatchId : PyStr
  deriving DecidableEq, Repr

-- The columns outside the key, in the order of `_checkpoint_values`.
structure StoredCheckpoint where
  schemaVersion : Int
  fileKind : PyStr
  fileId : PyStr
  fileLineNumber : Int
  batchLineCount : Int
  recordCount : Int
  prefixSha256 : PyStr
  deriving DecidableEq, Repr

-- USING and WITH CHECK of the row policy, for the bound `pg_llm_batch.tenant_scope`.
def checkpointPolicy (scope : PyStr) (key : CheckpointKey) : Bool := scope == key.tenantScope

structure PostgresBatchResultCheckpointStore where
  tenantScope : PyStr
  accepted : (validateTenantScope (.str tenantScope)).isOk = true

theorem defaultScopeAccepted : (validateTenantScope (.str defaultTenantScope)).isOk = true := by decide +kernel

def bigintField (field name : String) (count : Int) : Except PyError Unit :=
  if postgresBigintMax < count then
    .error (.validation (field ++ "." ++ name) .redacted
      s!"must be no greater than PostgreSQL BIGINT maximum {postgresBigintMax}")
  else .ok ()

def validatedCheckpoint (value : BatchResultCheckpoint) (field : String) :
    Except PyError BatchResultCheckpoint := do
  bigintField field "file_line_number" value.fileLineNumber
  bigintField field "batch_line_count" value.batchLineCount
  bigintField field "record_count" value.recordCount
  return value

def validatedExactEndpointAlias (value : PyStr) : Except PyError PyStr :=
  match validateEndpointAlias (.str value) with
  | .error _ => .error (.validation "endpoint_alias" (.text value) "must be a supported endpoint alias")
  | .ok normalized =>
      if normalized ≠ value then
        .error (.validation "endpoint_alias" (.text value)
          "must already be normalized without surrounding whitespace")
      else .ok normalized

def validatedBatchId (value : PyStr) : Except PyError PyStr :=
  match validateRemoteResourceId (.str value) "batch_id" with
  | .ok id => .ok id
  | .error _ => .error (.validation "batch_id" (.text value) "must be a supported provider identifier")

def checkpointFromRow (key : CheckpointKey) (row : StoredCheckpoint) :
    Except PyError BatchResultCheckpoint :=
  BatchResultCheckpoint.new ⟨row.schemaVersion,key.remoteBatchId,key.endpointAlias,row.fileKind,row.fileId,
    row.fileLineNumber,row.batchLineCount,row.recordCount,row.prefixSha256⟩

def checkpointValues (c : BatchResultCheckpoint) : StoredCheckpoint :=
  ⟨c.schemaVersion,c.fileKind,c.fileId,c.fileLineNumber,c.batchLineCount,c.recordCount,c.prefixSha256⟩

section
variable {Work Answer : Type}

abbrev CheckpointProgram (Work Answer α : Type) :=
  Program (Statement CheckpointKey StoredCheckpoint PyStr Work) (Reply Answer) PyError α

def setTransactionTenantScope (scope : PyStr) : CheckpointProgram Work Answer Unit :=
  Program.ask (Statement.setScope scope)

def selectCheckpoint (key : CheckpointKey) : CheckpointProgram Work Answer (Option StoredCheckpoint) := do
  let _ ← Program.ofExcept (bindText key.endpointAlias)
  Program.ask (Statement.select key)

def selectCheckpointForUpdate (key : CheckpointKey) :
    CheckpointProgram Work Answer (Option StoredCheckpoint) := do
  let _ ← Program.ofExcept (bindText key.endpointAlias)
  Program.ask (Statement.selectForUpdate key)

def insertCheckpoint (key : CheckpointKey) (row : StoredCheckpoint) : CheckpointProgram Work Answer Bool :=
  Program.ask (Statement.insertIfAbsent key row)

def updateCheckpoint (key : CheckpointKey) (row : StoredCheckpoint) : CheckpointProgram Work Answer Nat :=
  Program.ask (Statement.update key row)

namespace PostgresBatchResultCheckpointStore
variable (store : PostgresBatchResultCheckpointStore)

def keyOf (consumer : PyStr) (checkpoint : BatchResultCheckpoint) : CheckpointKey :=
  ⟨store.tenantScope,consumer,checkpoint.endpointAlias,checkpoint.batchId⟩

def loadInTransaction (consumerName batchId endpointAlias : PyStr) :
    CheckpointProgram Work Answer (Option BatchResultCheckpoint) := do
  let consumer ← Program.ofExcept (validateCheckpointConsumerName (.str consumerName))
  let remoteBatchId ← Program.ofExcept (validatedBatchId batchId)
  let endpoint ← Program.ofExcept (validatedExactEndpointAlias endpointAlias)
  setTransactionTenantScope store.tenantScope
  let key : CheckpointKey := ⟨store.tenantScope,consumer,endpoint,remoteBatchId⟩
  match ← selectCheckpoint key with
  | none => return none
  | some row => some <$> Program.ofExcept (checkpointFromRow key row)

-- INSERT found the key taken: the winner's row is read under its lock.
def concurrentCheckpoint (consumer : PyStr) (current : BatchResultCheckpoint) :
    CheckpointProgram Work Answer BatchResultCheckpoint := do
  let key := store.keyOf consumer current
  match ← selectCheckpointForUpdate key with
  | none => throw (.runtimeError "result checkpoint insert conflict row disappeared")
  | some row =>
      let concurrent ← Program.ofExcept (checkpointFromRow key row)
      if concurrent = current then return concurrent
      else throw (.checkpointConflict consumer current.batchId "initial_checkpoint_race")

def createCheckpoint (consumer : PyStr) (current : BatchResultCheckpoint)
    (previous : Option BatchResultCheckpoint) : CheckpointProgram Work Answer BatchResultCheckpoint := do
  if previous.isSome then
    throw (.checkpointConflict consumer current.batchId "expected_previous_missing")
  else if ← insertCheckpoint (store.keyOf consumer current) (checkpointValues current) then
    return current
  else store.concurrentCheckpoint consumer current

def advanceCheckpoint (consumer : PyStr) (current : BatchResultCheckpoint)
    (previous : Option BatchResultCheckpoint) (row : StoredCheckpoint) :
    CheckpointProgram Work Answer BatchResultCheckpoint := do
  let key := store.keyOf consumer current
  let durable ← Program.ofExcept (checkpointFromRow key row)
  if durable = current then return durable
  else if previous ≠ some durable then
    throw (.checkpointConflict consumer current.batchId "expected_previous_stale")
  else if current.recordCount ≤ durable.recordCount ∨ current.batchLineCount ≤ durable.batchLineCount then
    throw (.checkpointConflict consumer current.batchId "checkpoint_regression")
  else do
    let _ ← updateCheckpoint key (checkpointValues current)
    return current

def samePosition (current : BatchResultCheckpoint) : Option BatchResultCheckpoint → Except PyError Unit
  | none => .ok ()
  | some previous =>
      if previous.batchId ≠ current.batchId ∨ previous.endpointAlias ≠ current.endpointAlias then
        .error (.validation "expected_previous" (.object "BatchResultCheckpoint")
          "must identify the same batch and endpoint as checkpoint")
      else .ok ()

def saveInTransaction (consumerName : PyStr) (checkpoint : BatchResultCheckpoint)
    (expectedPrevious : Option BatchResultCheckpoint) :
    CheckpointProgram Work Answer BatchResultCheckpoint := do
  let consumer ← Program.ofExcept (validateCheckpointConsumerName (.str consumerName))
  let current ← Program.ofExcept (validatedCheckpoint checkpoint "checkpoint")
  let previous ← Program.ofExcept
    (expectedPrevious.mapM (fun p => validatedCheckpoint p "expected_previous"))
  Program.ofExcept (samePosition current previous)
  setTransactionTenantScope store.tenantScope
  match ← selectCheckpointForUpdate (store.keyOf consumer current) with
  | none => store.createCheckpoint consumer current previous
  | some row => store.advanceCheckpoint consumer current previous row

end PostgresBatchResultCheckpointStore
end
end PgLlmBatch
