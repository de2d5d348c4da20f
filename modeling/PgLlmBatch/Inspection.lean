import PgLlmBatch.Base.Sha256
import PgLlmBatch.Base.Watched
import PgLlmBatch.Exceptions
import PgLlmBatch.RecoveryReceipt

/-! Inspection of backup artifacts and of the packaged schema: what the two functions ask of
the operating system and of the package's resource loader, and which evidence they return. -/
namespace PgLlmBatch
open Base

inductive OsFailure where | osError | valueError | interrupted
  deriving DecidableEq, Repr

structure FileStatus where
  dev : Int
  ino : Int
  mode : Nat
  size : Int
  mtimeNs : Int
  ctimeNs : Int
  deriving DecidableEq, Repr

def Chunk (n : Nat) := {bytes : Bytes // bytes.length ≤ n}

-- A resource loader's `read` may return something that is not `bytes`.
inductive ResourceChunk (n : Nat) where
  | bytes (chunk : Chunk n)
  | other

inductive InspectionCall where
  | openDirectory (directory : Option Nat) (name : PyStr)
  | openFile (directory : Nat) (name : PyStr)
  | close (descriptor : Nat)
  | fstat (descriptor : Nat)
  | read (descriptor size : Nat)
  | openResource
  | readResource (size : Nat)
  | closeResource

namespace InspectionCall

abbrev Reply : InspectionCall → Type
  | .openDirectory _ _ => Except OsFailure Nat
  | .openFile _ _ => Except OsFailure Nat
  | .close _ => Except OsFailure Unit
  | .fstat _ => Except OsFailure FileStatus
  | .read _ size => Except OsFailure (Chunk size)
  | .openResource => Except OsFailure Unit
  | .readResource size => Except OsFailure (ResourceChunk size)
  | .closeResource => Except OsFailure Unit

end InspectionCall

abbrev InspectionProgram := Program InspectionCall InspectionCall.Reply RecoveryError

-- `except OSError` and its kin: the failures of one kind become the module's own error.
def OsFailure.raised (caught : OsFailure → Bool) (own : RecoveryError) (failure : OsFailure) : RecoveryError :=
  if caught failure then own else match failure with
    | .osError => .osError
    | .valueError => .valueError
    | .interrupted => .interrupted

def OsFailure.isOsError : OsFailure → Bool
  | .osError => true
  | _ => false

-- `except Exception`.
def OsFailure.isException : OsFailure → Bool
  | .interrupted => false
  | _ => true

def expecting {α : Type} (caught : OsFailure → Bool) (own : RecoveryError) : Except OsFailure α → InspectionProgram α
  | .ok a => .ret a
  | .error failure => .raise (failure.raised caught own)

def requireThat (p : Prop) [Decidable p] (own : RecoveryError) : InspectionProgram Unit :=
  if p then .ret () else .raise own

structure InspectionEvidence where
  sha256 : PyStr
  sizeBytes : Int
  deriving DecidableEq, Repr

namespace Backup

def hashChunkBytes : Nat := 1024 * 1024
def maxPathCharacters : Nat := 4096
def defaultMaxInspectionBytes : Int := 64 * 1024 * 1024 * 1024

def invalidPath : RecoveryError := .backupEvidence "invalid backup artifact path"
def invalidBudget : RecoveryError := .backupEvidence "invalid backup artifact size budget"
def unavailable : RecoveryError :=
  .backupEvidence "secure backup artifact inspection is unavailable on this platform"
def notOpened : RecoveryError := .backupEvidence "PostgreSQL backup artifact could not be opened"
def notClosed : RecoveryError := .backupEvidence "PostgreSQL backup artifact descriptor could not be closed"
def notInspected : RecoveryError := .backupEvidence "PostgreSQL backup artifact could not be inspected"
def notRegular : RecoveryError := .backupEvidence "PostgreSQL backup artifact must be a regular file"
def wrongSize : RecoveryError := .backupEvidence "PostgreSQL backup artifact must have a positive bounded size"
def notRead : RecoveryError := .backupEvidence "PostgreSQL backup artifact could not be read"
def changed : RecoveryError := .backupEvidence "PostgreSQL backup artifact changed during inspection"

def separator : PyChar := chr '/'

def pathParts (path : PyStr) : Except RecoveryError (PyStr × List PyStr × PyStr) :=
  let anchor := if path.head? = some separator then py "/" else py "."
  let words := (path.splitOn separator).filter (fun word => word != [] && word != py ".")
  if words.contains (py "..") then .error invalidPath
  else match words.getLast? with
    | none => .error invalidPath
    | some name => .ok (anchor,words.dropLast,name)

def openCaught : OsFailure → Bool := OsFailure.isException

-- Only `OSError` is swallowed.
def quietClose (descriptor : Nat) : InspectionProgram Unit :=
  .call (.close descriptor) (fun
    | .ok () => .ret ()
    | .error .osError => .ret ()
    | .error failure => .raise (failure.raised OsFailure.isOsError notClosed))

def closeDescriptor (descriptor : Nat) : InspectionProgram Unit :=
  .call (.close descriptor) (expecting OsFailure.isOsError notClosed)

def closeParent (parent next : Nat) : InspectionProgram Unit :=
  (closeDescriptor parent).handle (fun e =>
    if e = notClosed then do
      quietClose next
      throw e
    else throw e)

def opened (parent : Nat) : Except OsFailure Nat → InspectionProgram Nat
  | .ok descriptor => .ret descriptor
  | .error failure =>
      if openCaught failure then do
        quietClose parent
        throw notOpened
      else .raise (failure.raised openCaught notOpened)

def openParents (parent : Nat) : List PyStr → InspectionProgram Nat
  | [] => .ret parent
  | component::components => do
      let next ← .call (.openDirectory (some parent) component) (opened parent)
      closeParent parent next
      openParents next components

def openBackupArtifact (path : PyStr) : InspectionProgram Nat := do
  let (anchor,parents,name) ← Program.ofExcept (pathParts path)
  let root ← .call (.openDirectory none anchor) (expecting openCaught notOpened)
  let parent ← openParents root parents
  let artifact ← .call (.openFile parent name) (opened parent)
  closeParent parent artifact
  return artifact

def sIfmt (mode : Nat) : Nat := mode &&& 0o170000
def sIsreg (mode : Nat) : Bool := sIfmt mode == 0o100000

def artifactIdentity (status : FileStatus) : Int × Int × Nat × Int × Int × Int :=
  (status.dev,status.ino,sIfmt status.mode,status.size,status.mtimeNs,status.ctimeNs)

def readChunks (descriptor maximum bytesRead : Nat) (digest : Bytes) : InspectionProgram (Nat × Bytes) :=
  if bytesRead < maximum then
    .call (.read descriptor (min hashChunkBytes (maximum - bytesRead))) (fun
      | .error failure => .raise (failure.raised OsFailure.isOsError notRead)
      | .ok ⟨[],_⟩ => .ret (bytesRead,digest)
      | .ok ⟨b::bytes,_⟩ => readChunks descriptor maximum (bytesRead + (b::bytes).length) (digest ++ b::bytes))
  else .ret (bytesRead,digest)
termination_by maximum - bytesRead
decreasing_by
  simp only [List.length_cons]
  omega

def inspectDescriptor (descriptor : Nat) (maximumSizeBytes : Int) : InspectionProgram InspectionEvidence := do
  let initialStatus ← .call (.fstat descriptor) (expecting OsFailure.isOsError notInspected)
  requireThat (sIsreg initialStatus.mode = true) notRegular
  requireThat (0 < initialStatus.size ∧ initialStatus.size ≤ maximumSizeBytes) wrongSize
  let (bytesRead,digest) ← readChunks descriptor maximumSizeBytes.toNat 0 []
  let finalStatus ← .call (.fstat descriptor) (expecting OsFailure.isOsError notRead)
  requireThat (bytesRead = initialStatus.size ∧ artifactIdentity initialStatus = artifactIdentity finalStatus) changed
  return ⟨sha256Hex digest,bytesRead⟩

end Backup

def inspectPostgresBackupArtifact (secureFileFlagsAvailable : Bool) (path : PyStr) (maximumSizeBytes : Int) :
    InspectionProgram InspectionEvidence := do
  requireThat (1 ≤ path.length ∧ path.length ≤ Backup.maxPathCharacters) Backup.invalidPath
  requireThat (1 ≤ maximumSizeBytes ∧ maximumSizeBytes ≤ maxSignedBigint) Backup.invalidBudget
  requireThat (secureFileFlagsAvailable = true) Backup.unavailable
  let descriptor ← Backup.openBackupArtifact path
  let evidence ← (Backup.inspectDescriptor descriptor maximumSizeBytes).handle (fun e => do
    Backup.quietClose descriptor
    throw e)
  Backup.closeDescriptor descriptor
  return evidence

namespace Schema

def maxSchemaBytes : Nat := 16 * 1024 * 1024

def notOpened : RecoveryError := .schemaEvidence "PostgreSQL package schema could not be opened"
def notClosed : RecoveryError := .schemaEvidence "PostgreSQL package schema stream could not be closed"
def notRead : RecoveryError := .schemaEvidence "PostgreSQL package schema could not be read"
def wrongSize : RecoveryError := .schemaEvidence "PostgreSQL package schema must have a positive bounded size"

def quietClose : InspectionProgram Unit :=
  .call .closeResource (fun
    | .ok () => .ret ()
    | .error failure => if failure.isException then .ret () else .raise (failure.raised OsFailure.isException notClosed))

-- One byte past the budget tells a schema at the budget from a larger one.
def readSchema (sizeBytes : Nat) (digest : Bytes) : InspectionProgram (Nat × Bytes) :=
  .call (.readResource (min Backup.hashChunkBytes (maxSchemaBytes - sizeBytes + 1))) (fun
    | .error failure => .raise (failure.raised OsFailure.isException notRead)
    | .ok .other => .raise notRead
    | .ok (.bytes ⟨[],_⟩) => .ret (sizeBytes,digest)
    | .ok (.bytes ⟨b::bytes,_⟩) =>
        if maxSchemaBytes < sizeBytes + (b::bytes).length then .raise wrongSize
        else readSchema (sizeBytes + (b::bytes).length) (digest ++ b::bytes))
termination_by maxSchemaBytes + 1 - sizeBytes
decreasing_by
  simp only [List.length_cons] at *
  omega

def inspectStream : InspectionProgram InspectionEvidence := do
  let (sizeBytes,digest) ← readSchema 0 []
  requireThat (sizeBytes ≠ 0) wrongSize
  return ⟨sha256Hex digest,sizeBytes⟩

end Schema

def inspectPostgresSchema : InspectionProgram InspectionEvidence := do
  .call .openResource (expecting OsFailure.isException Schema.notOpened)
  let evidence ← Schema.inspectStream.handle (fun e => do
    Schema.quietClose
    throw e)
  .call .closeResource (expecting OsFailure.isException Schema.notClosed)
  return evidence

end PgLlmBatch
