import PgLlmBatch.Identifiers

/-! Checkpoints of streamed results. `postInit` is the dataclass check of every field, and
a `BatchResultCheckpoint` is a record of fields that it accepts. -/
namespace PgLlmBatch
open Base

def checkpointSchemaVersion : Int := 1

structure CheckpointFields where
  schemaVersion : Int
  batchId : PyStr
  endpointAlias : PyStr
  fileKind : PyStr
  fileId : PyStr
  fileLineNumber : Int
  batchLineCount : Int
  recordCount : Int
  prefixSha256 : PyStr
  deriving DecidableEq, Repr

def sha256Pattern (s : PyStr) : Bool :=
  s.length == 64 && s.all (fun c => c.digit || (0x61 ≤ c.val && c.val ≤ 0x66))

def strictPositiveInteger (field : String) (value : Int) : Except PyError Unit :=
  if value ≤ 0 then .error (.validation field (.int value) "must be a positive integer") else .ok ()

def supportedIdentifier (field : String) (value : PyStr) : Except PyError Unit :=
  match validateRemoteResourceId (.str value) field with
  | .ok _ => .ok ()
  | .error _ => .error (.validation field (.text value) "must be a supported provider identifier")

def CheckpointFields.postInit (f : CheckpointFields) : Except PyError Unit := do
  if f.schemaVersion ≠ checkpointSchemaVersion then
    throw (.validation "schema_version" (.int f.schemaVersion) "must be the integer 1")
  supportedIdentifier "batch_id" f.batchId
  let normalizedAlias ← validateEndpointAlias (.str f.endpointAlias)
  if normalizedAlias ≠ f.endpointAlias then
    throw (.validation "endpoint_alias" (.text f.endpointAlias)
      "must already be normalized without surrounding whitespace")
  if f.fileKind ≠ py "result" ∧ f.fileKind ≠ py "error" then
    throw (.validation "file_kind" (.text f.fileKind) "must be 'result' or 'error'")
  supportedIdentifier "file_id" f.fileId
  strictPositiveInteger "file_line_number" f.fileLineNumber
  strictPositiveInteger "batch_line_count" f.batchLineCount
  strictPositiveInteger "record_count" f.recordCount
  if f.batchLineCount < f.fileLineNumber then
    throw (.validation "batch_line_count" (.int f.batchLineCount)
      "must be greater than or equal to file_line_number")
  if f.batchLineCount < f.recordCount then
    throw (.validation "record_count" (.int f.recordCount) "must not exceed batch_line_count")
  if sha256Pattern f.prefixSha256 = false then
    throw (.validation "prefix_sha256" (.text f.prefixSha256)
      "must be exactly 64 lowercase hexadecimal characters")

structure BatchResultCheckpoint extends CheckpointFields where
  accepted : toCheckpointFields.postInit.isOk = true

theorem checkpointExt {a b : BatchResultCheckpoint}
    (h : a.toCheckpointFields = b.toCheckpointFields) : a = b := by
  cases a; cases b; cases h; rfl

instance : DecidableEq BatchResultCheckpoint := fun a b =>
  decidable_of_iff (a.toCheckpointFields = b.toCheckpointFields)
    ⟨checkpointExt,congrArg BatchResultCheckpoint.toCheckpointFields⟩

def BatchResultCheckpoint.new (f : CheckpointFields) : Except PyError BatchResultCheckpoint :=
  match h : f.postInit with
  | .ok () => .ok ⟨f,by rw [h]; rfl⟩
  | .error e => .error e

theorem newFields {f : CheckpointFields} {c : BatchResultCheckpoint}
    (h : BatchResultCheckpoint.new f = .ok c) : c.toCheckpointFields = f := by
  unfold BatchResultCheckpoint.new at h
  split at h <;> cases h
  rfl

theorem newAccepted (c : BatchResultCheckpoint) :
    BatchResultCheckpoint.new c.toCheckpointFields = .ok c := by
  unfold BatchResultCheckpoint.new
  split
  · exact congrArg _ (checkpointExt rfl)
  · rename_i e rejected
    have accepted := c.accepted
    rw [rejected] at accepted
    contradiction

end PgLlmBatch
