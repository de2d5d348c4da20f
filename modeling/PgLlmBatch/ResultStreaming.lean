import PgLlmBatch.GatewayRequest
import PgLlmBatch.ResultApplication
import PgLlmBatch.Base.Generator
import PgLlmBatch.Base.Sha256

/-! Streamed retrieval of a batch's result and error files: physical lines out of chunks, strict
records out of lines, and checkpoints of the stream's prefix. The provider is what it answers to
each request of one retrieval. -/
namespace PgLlmBatch
open Base
open Base.JsonText (loads strictHooks)

def downloadChunkBytes : Nat := 64 * 1024

structure StreamLimits where
  maxDownloadBytes : Nat
  maxJsonlLineBytes : Nat
  maxJsonlRecords : Nat
  maxJsonlPhysicalLines : Nat
  positive : 0 < maxDownloadBytes ∧ 0 < maxJsonlLineBytes ∧ 0 < maxJsonlRecords ∧ 0 < maxJsonlPhysicalLines

def StreamLimits.init (maxDownloadBytes maxJsonlLineBytes maxJsonlRecords maxJsonlPhysicalLines : Json) :
    Except PyError StreamLimits := do
  let ⟨line,someLine⟩ ← positiveInt "max_jsonl_line_bytes" "must be a positive integer" maxJsonlLineBytes
  let ⟨records,someRecords⟩ ← positiveInt "max_jsonl_records" "must be a positive integer" maxJsonlRecords
  let ⟨lines,someLines⟩ ← positiveInt "max_jsonl_physical_lines" "must be a positive integer" maxJsonlPhysicalLines
  let ⟨download,someDownload⟩ ← positiveInt "max_download_bytes" "must be a positive integer number of bytes"
    maxDownloadBytes
  return ⟨download,line,records,lines,someDownload,someLine,someRecords,someLines⟩

inductive FileKind where | result | error
  deriving DecidableEq, Repr

namespace FileKind

def name : FileKind → String
  | .result => "result"
  | .error => "error"

def capitalized : FileKind → String
  | .result => "Result"
  | .error => "Error"

def operation (kind : FileKind) : String := kind.capitalized ++ " file download"

def json (kind : FileKind) : Json := .str (py kind.name)

end FileKind

-- bytes, a bytearray or a memoryview, by its bytes; or anything else.
inductive BodyChunk where
  | bytes (bs : Bytes)
  | other
  deriving DecidableEq, Repr

-- `iterChunked` is the chunks that the body yields and how it ends, if it can be iterated.
structure FileResponse where
  status : Int
  contentLength : Json
  iterChunked : Option (List BodyChunk × Except PyError Unit)

def FileResponse.declaredBytes (response : FileResponse) : Option Nat :=
  match response.contentLength with
  | .int n => if 0 ≤ n then some n.toNat else none
  | _ => none

-- What a status answer is read for.
structure RetrievalStatus where
  status : PyStr
  isComplete : Bool
  outputFileId : Json
  errorFileId : Json

-- The status request and the two downloads of one retrieval, with what they raise.
structure Provider where
  getBatchStatus : Except PyError RetrievalStatus
  download : FileKind → PyStr → Except PyError FileResponse

def natJson (n : Nat) : Json := .int n
def optionalNat (n : Option Nat) : Json := n.elim .null natJson

def downloadLimitError (response : FileResponse) (operation : String) (maxBytes : Nat) (bytesRead : Nat) : PyError :=
  .gateway (operation ++ " exceeded download limit") (some response.status)
    [("limit_bytes",natJson maxBytes),("declared_bytes",optionalNat response.declaredBytes),
     ("bytes_read",natJson bytesRead)]

def missingStreamError (response : FileResponse) (operation : String) : PyError :=
  .gateway (operation ++ " response does not expose a bounded byte stream") (some response.status)
    [("error_type",.str (py "MissingBoundedStream"))]

def invalidChunkError (response : FileResponse) (operation : String) : PyError :=
  .gateway (operation ++ " response yielded a non-byte stream chunk") (some response.status)
    [("error_type",.str (py "InvalidByteChunk"))]

structure PhysicalJsonlLine where
  fileLineNumber : Nat
  rawLine : Bytes
  newlineTerminated : Bool
  record : Option (List (PyStr × Json))

def lineFeed : UInt8 := 0x0A
def carriageReturn : UInt8 := 0x0D

def dropReturn (line : Bytes) : Bytes := if line.getLast? = some carriageReturn then line.dropLast else line

def cutLines : Bytes → List Bytes × Bytes
  | [] => ([],[])
  | b::bs =>
      if b = lineFeed then ([] :: (cutLines bs).1,(cutLines bs).2)
      else match cutLines bs with
        | ([],pending) => ([],b::pending)
        | (line::lines,pending) => ((b::line)::lines,pending)

section
variable (c : StreamLimits)

def lineLimitError (kind : FileKind) (lineNumber bytesBuffered : Nat) : PyError :=
  .gateway "Provider JSONL line exceeded byte limit" none
    [("file_kind",kind.json),("line_number",natJson lineNumber),("limit_bytes",natJson c.maxJsonlLineBytes),
     ("bytes_buffered",natJson bytesBuffered)]

-- `_PhysicalLineBudget.observe`, and the lines observed with this one.
def observeLine (kind : FileKind) (fileLineNumber observed : Nat) : Except PyError Nat :=
  if c.maxJsonlPhysicalLines < observed + 1 then
    .error (.gateway "Provider JSONL physical line limit exceeded" none
      [("file_kind",kind.json),("file_line_number",natJson fileLineNumber),("batch_line_count",natJson (observed + 1)),
       ("limit_lines",natJson c.maxJsonlPhysicalLines)])
  else .ok (observed + 1)

variable (i : Interpreter)

def parseJsonlLine (kind : FileKind) (lineNumber : Nat) (line : Bytes) :
    Except PyError (Option (List (PyStr × Json))) := do
  if c.maxJsonlLineBytes < line.length then
    throw (lineLimitError c kind lineNumber line.length)
  let line := dropReturn line
  if line.isEmpty then
    return none
  let place := [("file_kind",kind.json),("line_number",natJson lineNumber)]
  match decodeUtf8 line with
  | .error start => throw (.gateway (kind.capitalized ++ " file returned invalid UTF-8") none
      (place ++ [("error_type",.str (py "UnicodeDecodeError")),("byte_offset",natJson start)]))
  | .ok text =>
      match loads i strictHooks text with
      | .error _ => throw (.gateway s!"Malformed {kind.name} line {lineNumber}" none place)
      | .ok (.obj record) => return some record
      | .ok parsed => throw (.gateway s!"Non-object {kind.name} line {lineNumber}" none
          (place ++ [("response_type",.str (py parsed.typeName))]))

structure LineCount where
  lineNumber : Nat
  observed : Nat
  deriving DecidableEq, Repr

def yieldLine (kind : FileKind) (newlineTerminated : Bool) (count : LineCount) (line : Bytes) :
    Generator (PhysicalJsonlLine × Nat) PyError LineCount := do
  let lineNumber := count.lineNumber + 1
  let observed ← Generator.ofExcept (observeLine c kind lineNumber count.observed)
  let record ← Generator.ofExcept (parseJsonlLine c i kind lineNumber line)
  Generator.yield (⟨lineNumber,line,newlineTerminated,record⟩,observed)
  return ⟨lineNumber,observed⟩

structure LineBuffer where
  pending : Bytes
  bytesRead : Nat
  count : LineCount

def takeChunk (kind : FileKind) (response : FileResponse) (b : LineBuffer) (chunk : BodyChunk) :
    Generator (PhysicalJsonlLine × Nat) PyError LineBuffer :=
  match chunk with
  | .other => throw (invalidChunkError response kind.operation)
  | .bytes bs => do
      if bs.length = 0 then
        throw (.gateway (kind.operation ++ " response yielded an empty stream chunk") (some response.status)
          [("error_type",.str (py "NoForwardProgress"))])
      if downloadChunkBytes < bs.length then
        throw (.gateway (kind.operation ++ " response chunk exceeded byte limit") (some response.status)
          [("error_type",.str (py "OversizedByteChunk")),("limit_bytes",natJson downloadChunkBytes),
           ("chunk_bytes",natJson bs.length)])
      if c.maxDownloadBytes < b.bytesRead + bs.length then
        throw (downloadLimitError response kind.operation c.maxDownloadBytes b.bytesRead)
      let (lines,pending) := cutLines (b.pending ++ bs)
      let count ← Generator.forEach (yieldLine c i kind true) b.count lines
      if c.maxJsonlLineBytes < pending.length then
        throw (lineLimitError c kind (count.lineNumber + 1) pending.length)
      return ⟨pending,b.bytesRead + bs.length,count⟩

def readJsonlLines (kind : FileKind) (response : FileResponse) (observed : Nat) :
    Generator (PhysicalJsonlLine × Nat) PyError Nat := do
  if response.status ≠ 200 then
    throw (.gateway (kind.operation ++ s!" failed: {response.status}") (some response.status) [("file_kind",kind.json)])
  if (response.declaredBytes.map (decide <| c.maxDownloadBytes < ·)).getD false then
    throw (downloadLimitError response kind.operation c.maxDownloadBytes 0)
  match response.iterChunked with
  | none => throw (missingStreamError response kind.operation)
  | some (chunks,exhausted) =>
      let b ← Generator.forEach (takeChunk c i kind response) ⟨[],0,⟨0,observed⟩⟩ chunks
      Generator.ofExcept exhausted
      if b.pending.isEmpty then
        return b.count.observed
      else
        let count ← yieldLine c i kind false b.count b.pending
        return count.observed

variable (p : Provider)

def iterJsonlFileLines (kind : FileKind) (fileId : Json) (observed : Nat) :
    Generator (PhysicalJsonlLine × Nat) PyError Nat := do
  let validatedFileId ← Generator.ofExcept (validateRemoteResourceId fileId (kind.name ++ "_file_id"))
  let response ← Generator.ofExcept (p.download kind validatedFileId)
  readJsonlLines c i kind response observed

-- `_iter_jsonl_file`, with the lines of the batch after it.
def iterJsonlFile (kind : FileKind) (fileId : Json) (observed : Nat) :
    Generator (List (PyStr × Json)) PyError Nat := do
  let (observed,_) ← Generator.through (iterJsonlFileLines c i p kind fileId observed) (fun _ line =>
    match line.1.record with
    | none => return ()
    | some record => Generator.yield record) ()
  return observed

def validatedStreamFiles (batchId : PyStr) : Except PyError (PyStr × List (FileKind × Json)) := do
  let validatedBatchId ← validateRemoteResourceId (.str batchId) "batch_id"
  let status ← p.getBatchStatus
  if status.isComplete = false then
    throw (.gateway "Batch is not complete" none
      [("batch_id",.str validatedBatchId),("batch_status",.str status.status)])
  let files := [(FileKind.result,status.outputFileId),(FileKind.error,status.errorFileId)]
  if files.any (fun file => file.2.truthy) = false then
    throw (.gateway "Batch exposes no output or error file" none [("batch_id",.str validatedBatchId)])
  return (validatedBatchId,files)

def enforceRecordLimit (kind : FileKind) (recordCount : Nat) : Except PyError Unit :=
  if c.maxJsonlRecords < recordCount then
    .error (.gateway "Provider JSONL record limit exceeded" none
      [("file_kind",kind.json),("limit_records",natJson c.maxJsonlRecords),("record_count",natJson recordCount)])
  else .ok ()

structure BatchResultRecord where
  batchId : PyStr
  fileKind : FileKind
  record : List (PyStr × Json)

structure StreamCount where
  observed : Nat
  recordCount : Nat
  deriving DecidableEq, Repr

def fileRecords (batchId : PyStr) (count : StreamCount) (file : FileKind × Json) :
    Generator BatchResultRecord PyError StreamCount :=
  if file.2.truthy = false then return count
  else do
    let (observed,recordCount) ← Generator.through (iterJsonlFile c i p file.1 file.2 count.observed)
      (fun recordCount record => do
        let recordCount := recordCount + 1
        Generator.ofExcept (enforceRecordLimit c file.1 recordCount)
        Generator.yield ⟨batchId,file.1,record⟩
        return recordCount) count.recordCount
    return ⟨observed,recordCount⟩

def iterBatchRecords (batchId : PyStr) : Generator BatchResultRecord PyError Unit := do
  let (validatedBatchId,files) ← Generator.ofExcept (validatedStreamFiles p batchId)
  let _ ← Generator.forEach (fileRecords c i p validatedBatchId) ⟨0,0⟩ files

def checkpointDomain : Bytes := (py "pg-llm-batch/result-checkpoint/v1").map (fun c => .ofNat c.val)

-- `n.to_bytes(width, "big")`, which raises OverflowError.
def toBytes (width n : Nat) : Except PyError Bytes :=
  if n < 256 ^ width then .ok (bigEndian width n) else .error .raised

def encodeText (s : PyStr) : Except PyError Bytes :=
  match s.encodeUtf8 with
  | some bytes => .ok bytes
  | none => .error .unicodeEncodeError

def encodeAscii (s : PyStr) : Except PyError Bytes :=
  if s.all (fun c => c.val < 0x80) then .ok (s.map (fun c => .ofNat c.val)) else .error .unicodeEncodeError

def tagBytes (tag : String) : Bytes := (py tag).map (fun c => .ofNat c.val)

-- What a hasher has been fed is kept; its digest is taken of it.
def checkpointFrame (hashed : Bytes) (tag : String) (payload : Bytes) : Except PyError Bytes := do
  let tag := tagBytes tag
  let tagLength ← toBytes 2 tag.length
  let payloadLength ← toBytes 8 payload.length
  return hashed ++ tagLength ++ tag ++ payloadLength ++ payload

def newCheckpointHasher (batchId endpointAlias : PyStr) : Except PyError Bytes := do
  let hashed ← checkpointFrame [] "domain" checkpointDomain
  let hashed ← checkpointFrame hashed "batch_id" (← encodeText batchId)
  checkpointFrame hashed "endpoint_alias" (← encodeText endpointAlias)

def addCheckpointFile (hashed : Bytes) (fileKind fileId : PyStr) : Except PyError Bytes := do
  let hashed ← checkpointFrame hashed "file_kind" (← encodeAscii fileKind)
  checkpointFrame hashed "file_id" (← encodeAscii fileId)

def addCheckpointLine (hashed : Bytes) (line : PhysicalJsonlLine) : Except PyError Bytes := do
  let hashed ← checkpointFrame hashed "file_line_number" (← toBytes 8 line.fileLineNumber)
  let hashed ← checkpointFrame hashed "line_bytes" line.rawLine
  checkpointFrame hashed "newline_terminated" [if line.newlineTerminated then 1 else 0]

structure PrefixScan where
  hashed : Bytes
  recordCount : Nat

-- One physical line into the prefix, and the record that it holds with its checkpoint.
def scanLine (batchId endpointAlias : PyStr) (kind : FileKind) (fileId : PyStr) (scan : PrefixScan)
    (line : PhysicalJsonlLine × Nat) : Except PyError (PrefixScan × Option CheckpointedBatchResultRecord) := do
  let hashed ← addCheckpointLine scan.hashed line.1
  match line.1.record with
  | none => return (⟨hashed,scan.recordCount⟩,none)
  | some record =>
      let recordCount := scan.recordCount + 1
      enforceRecordLimit c kind recordCount
      let checkpoint ← BatchResultCheckpoint.new {
        schemaVersion := checkpointSchemaVersion
        batchId := batchId
        endpointAlias := endpointAlias
        fileKind := py kind.name
        fileId := fileId
        fileLineNumber := line.1.fileLineNumber
        batchLineCount := line.2
        recordCount := recordCount
        prefixSha256 := sha256Hex hashed }
      return (⟨hashed,recordCount⟩,some ⟨batchId,py kind.name,record,checkpoint⟩)

def checkpointMismatchError (checkpoint : BatchResultCheckpoint) (kind : FileKind) : PyError :=
  .gateway "Provider result checkpoint does not match current stream" none
    [("checkpoint_status",.str (py "mismatch")),("file_kind",kind.json),("record_count",.int checkpoint.recordCount)]

def checkpointNotFoundError (checkpoint : BatchResultCheckpoint) : PyError :=
  .gateway "Provider result checkpoint was not found in current stream" none
    [("checkpoint_status",.str (py "not_found")),("file_kind",.str checkpoint.fileKind),
     ("record_count",.int checkpoint.recordCount)]

-- `waiting` is the resume checkpoint until it has been matched.
def deliver (kind : FileKind) (waiting : Option BatchResultCheckpoint) (item : CheckpointedBatchResultRecord) :
    Generator CheckpointedBatchResultRecord PyError (Option BatchResultCheckpoint) :=
  match waiting with
  | some checkpoint =>
      if item.checkpoint.recordCount < checkpoint.recordCount then return waiting
      else if item.checkpoint ≠ checkpoint then throw (checkpointMismatchError checkpoint kind)
      else return none
  | none => do
      Generator.yield item
      return none

abbrev ResumeScan := PrefixScan × Option BatchResultCheckpoint

def checkpointedLine (batchId endpointAlias : PyStr) (kind : FileKind) (fileId : PyStr) (scan : ResumeScan)
    (line : PhysicalJsonlLine × Nat) : Generator CheckpointedBatchResultRecord PyError ResumeScan := do
  let (next,item) ← Generator.ofExcept (scanLine c batchId endpointAlias kind fileId scan.1 line)
  match item with
  | none => return (next,scan.2)
  | some item =>
      let waiting ← deliver kind scan.2 item
      return (next,waiting)

def checkpointedFile (batchId endpointAlias : PyStr) (scan : Nat × ResumeScan) (file : FileKind × Json) :
    Generator CheckpointedBatchResultRecord PyError (Nat × ResumeScan) :=
  if file.2.truthy = false then return scan
  else do
    let validatedFileId ← Generator.ofExcept (validateRemoteResourceId file.2 (file.1.name ++ "_file_id"))
    let hashed ← Generator.ofExcept (addCheckpointFile scan.2.1.hashed (py file.1.name) validatedFileId)
    Generator.through (iterJsonlFileLines c i p file.1 (.str validatedFileId) scan.1)
      (checkpointedLine c batchId endpointAlias file.1 validatedFileId) ({scan.2.1 with hashed := hashed},scan.2.2)

def validateResumeCheckpoint (resumeAfter : Option BatchResultCheckpoint) (batchId endpointAlias : PyStr) :
    Except PyError (Option BatchResultCheckpoint) :=
  match resumeAfter with
  | none => .ok none
  | some checkpoint =>
      if checkpoint.batchId ≠ batchId then
        .error (.validation "resume_after.batch_id" (.text checkpoint.batchId) "must match the requested batch_id")
      else if checkpoint.endpointAlias ≠ endpointAlias then
        .error (.validation "resume_after.endpoint_alias" (.text checkpoint.endpointAlias)
          "must match the requested endpoint_alias")
      else .ok (some checkpoint)

def iterCheckpointedBatchRecords (batchId endpointAlias : PyStr) (resumeAfter : Option BatchResultCheckpoint) :
    Generator CheckpointedBatchResultRecord PyError Unit := do
  let validatedBatchId ← Generator.ofExcept (validateRemoteResourceId (.str batchId) "batch_id")
  let validatedAlias ← Generator.ofExcept (validateEndpointAlias (.str endpointAlias))
  if validatedAlias ≠ endpointAlias then
    throw (.validation "endpoint_alias" (.text endpointAlias) "must already be normalized without surrounding whitespace")
  let checkpoint ← Generator.ofExcept (validateResumeCheckpoint resumeAfter validatedBatchId validatedAlias)
  let (validatedBatchId,files) ← Generator.ofExcept (validatedStreamFiles p validatedBatchId)
  let hashed ← Generator.ofExcept (newCheckpointHasher validatedBatchId validatedAlias)
  let scan ← Generator.forEach (checkpointedFile c i p validatedBatchId validatedAlias) (0,⟨hashed,0⟩,checkpoint) files
  match scan.2.2 with
  | some checkpoint => throw (checkpointNotFoundError checkpoint)
  | none => return ()

structure StreamStart where
  batchId : PyStr
  endpointAlias : PyStr
  waiting : Option BatchResultCheckpoint
  files : List (FileKind × Json)
  hashed : Bytes

def streamStart (batchId endpointAlias : PyStr) (resumeAfter : Option BatchResultCheckpoint) : Except PyError StreamStart := do
  let validatedBatchId ← validateRemoteResourceId (.str batchId) "batch_id"
  let validatedAlias ← validateEndpointAlias (.str endpointAlias)
  if validatedAlias ≠ endpointAlias then
    throw (.validation "endpoint_alias" (.text endpointAlias) "must already be normalized without surrounding whitespace")
  let checkpoint ← validateResumeCheckpoint resumeAfter validatedBatchId validatedAlias
  let (validatedBatchId,files) ← validatedStreamFiles p validatedBatchId
  let hashed ← newCheckpointHasher validatedBatchId validatedAlias
  return ⟨validatedBatchId,validatedAlias,checkpoint,files,hashed⟩

def checkpointedFiles (start : StreamStart) (waiting : Option BatchResultCheckpoint) :
    Generator CheckpointedBatchResultRecord PyError (Nat × ResumeScan) :=
  Generator.forEach (checkpointedFile c i p start.batchId start.endpointAlias) (0,⟨start.hashed,0⟩,waiting) start.files

def foundCheckpoint (scan : Nat × ResumeScan) : Generator CheckpointedBatchResultRecord PyError Unit :=
  match scan.2.2 with
  | some checkpoint => throw (checkpointNotFoundError checkpoint)
  | none => return ()

theorem checkpointedStarts (batchId endpointAlias : PyStr) (resumeAfter : Option BatchResultCheckpoint) :
    iterCheckpointedBatchRecords c i p batchId endpointAlias resumeAfter =
      Generator.ofExcept (streamStart p batchId endpointAlias resumeAfter) >>= fun start =>
        checkpointedFiles c i p start start.waiting >>= foundCheckpoint := by
  unfold iterCheckpointedBatchRecords streamStart
  simp only [Generator.ofExceptBind,Generator.bindAssoc]
  refine congrArg (_ >>= ·) (funext fun batchId => congrArg (_ >>= ·) (funext fun validated => ?_))
  by_cases normalized : validated ≠ endpointAlias
  · simp only [if_pos normalized]
    rfl
  · simp only [if_neg normalized,Generator.ofExceptBind,Generator.bindAssoc]
    rfl

end
end PgLlmBatch
