import PgLlmBatch.CheckpointChain

/-! Local application of one streamed result: load the durable predecessor, run the record
effect, advance the checkpoint, all in the caller's transaction. The store and the callback
are any programs over the transaction's statements. -/
namespace PgLlmBatch
open Base

structure CheckpointedBatchResultRecord where
  batchId : PyStr
  fileKind : PyStr
  record : List (PyStr × Json)
  checkpoint : BatchResultCheckpoint

structure ResultApplicationOutcome where
  applied : Bool
  checkpoint : BatchResultCheckpoint
  deriving DecidableEq

-- What a store method returns: None, an exact checkpoint, or anything else.
inductive StoreValue where
  | absent
  | checkpoint (c : BatchResultCheckpoint)
  | other
  deriving DecidableEq

inductive EffectResult where | returnedNone | returnedOther
  deriving DecidableEq, Repr

section
variable {S : Type} {Reply : S → Type}

structure ResultCheckpointStore (S : Type) (Reply : S → Type) where
  loadInTransaction : (consumerName batchId endpointAlias : PyStr) → Program S Reply PyError StoreValue
  saveInTransaction : (consumerName : PyStr) → (checkpoint : BatchResultCheckpoint) →
    (expectedPrevious : Option BatchResultCheckpoint) → Program S Reply PyError StoreValue

structure ApplyRecord (S : Type) (Reply : S → Type) where
  callable : Bool
  asynchronous : Bool
  call : List (PyStr × Json) → Program S Reply PyError EffectResult

def validateItemAndEffect (item : CheckpointedBatchResultRecord) (applyRecord : ApplyRecord S Reply) :
    Except PyError CheckpointedBatchResultRecord := do
  if applyRecord.callable = false then
    throw (.validation "apply_record" .redacted "must be callable")
  if applyRecord.asynchronous = true then
    throw (.validation "apply_record" .redacted "must complete synchronously in the caller transaction")
  if item.batchId ≠ item.checkpoint.batchId then
    throw (.validation "item.batch_id" .redacted "must match the checkpoint batch identity")
  if item.fileKind ≠ item.checkpoint.fileKind then
    throw (.validation "item.file_kind" .redacted "must match the checkpoint file kind")
  return item

-- Errors that `keep` lets through stay; any other becomes the phase's own error.
def inPhase (keep : PyError → Bool) (phase : String) {α : Type} (p : Program S Reply PyError α) :
    Program S Reply PyError α :=
  p.handle (fun e => if keep e then throw e else throw (.resultApplication phase))

def keepConflict (e : PyError) : Bool := e.isCheckpointConflict || e.isInterrupted

def applyFreshResult (store : ResultCheckpointStore S Reply) (consumerName : PyStr)
    (candidate : CheckpointedBatchResultRecord) (applyRecord : ApplyRecord S Reply)
    (previous : Option BatchResultCheckpoint) : Program S Reply PyError ResultApplicationOutcome := do
  match ← inPhase PyError.isInterrupted "record_effect" (applyRecord.call candidate.record) with
  | .returnedOther => throw (.resultApplication "record_effect")
  | .returnedNone =>
      let saved ← inPhase keepConflict "checkpoint_save"
        (store.saveInTransaction consumerName candidate.checkpoint previous)
      if saved = .checkpoint candidate.checkpoint then return ⟨true,candidate.checkpoint⟩
      else throw (.resultApplication "checkpoint_save")

def sameFile (previous candidate : BatchResultCheckpoint) : Bool :=
  previous.batchId == candidate.batchId && previous.endpointAlias == candidate.endpointAlias &&
    previous.fileKind == candidate.fileKind && previous.fileId == candidate.fileId

def applyAfter (store : ResultCheckpointStore S Reply) (consumerName : PyStr)
    (candidate : CheckpointedBatchResultRecord) (applyRecord : ApplyRecord S Reply)
    (previous : BatchResultCheckpoint) : Program S Reply PyError ResultApplicationOutcome :=
  if sameFile previous candidate.checkpoint = false then throw (.resultApplication "checkpoint_load")
  else if previous = candidate.checkpoint then return ⟨false,candidate.checkpoint⟩
  else if candidate.checkpoint.recordCount ≤ previous.recordCount ∨
      candidate.checkpoint.batchLineCount ≤ previous.batchLineCount then
    throw (.checkpointConflict consumerName candidate.batchId "checkpoint_regression")
  else applyFreshResult store consumerName candidate applyRecord (some previous)

def applyCheckpointedResultInTransaction (store : ResultCheckpointStore S Reply) (consumerName : PyStr)
    (item : CheckpointedBatchResultRecord) (applyRecord : ApplyRecord S Reply) :
    Program S Reply PyError ResultApplicationOutcome := do
  let candidate ← Program.ofExcept (validateItemAndEffect item applyRecord)
  match ← inPhase keepConflict "checkpoint_load"
      (store.loadInTransaction consumerName candidate.batchId candidate.checkpoint.endpointAlias) with
  | .absent => applyFreshResult store consumerName candidate applyRecord none
  | .other => throw (.resultApplication "checkpoint_load")
  | .checkpoint previous => applyAfter store consumerName candidate applyRecord previous

theorem validatedItem {item candidate : CheckpointedBatchResultRecord} {applyRecord : ApplyRecord S Reply}
    (h : validateItemAndEffect item applyRecord = .ok candidate) : candidate = item := by
  unfold validateItemAndEffect at h
  simp only [bind,Except.bind] at h
  split at h <;> try contradiction
  split at h <;> try contradiction
  split at h <;> try contradiction
  split at h <;> try contradiction
  exact (Except.ok.inj h).symm

end
end PgLlmBatch
