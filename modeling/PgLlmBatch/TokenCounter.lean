import PgLlmBatch.Exceptions

/-! Token counts and the accumulator of one payload's lines, with its three limits. The
tokenizer itself is the database's. -/
namespace PgLlmBatch
open Base

structure TokenCounter where
  tiktokenCount : PyStr → PyStr → Nat
  effectiveLimit : Int
  azureMaxRecordsPerFile : Nat
  azureMaxBytesPerFile : Nat
  azureMaxFilesPerJob : Nat
  positive : 0 < azureMaxRecordsPerFile ∧ 0 < azureMaxBytesPerFile ∧ 0 < azureMaxFilesPerJob

def TokenCounter.countTokens (counter : TokenCounter) (text model : PyStr) : Nat :=
  if text.isEmpty then 0 else counter.tiktokenCount text model

structure BatchAccumulator where
  counter : TokenCounter
  model : PyStr
  entries : List (PyStr × PyStr × Nat)
  totalTokens : Nat
  recordCount : Nat
  byteSize : Nat

structure Drained where
  recordCount : Nat
  totalTokens : Nat
  requestIds : List PyStr
  lines : List PyStr
  byteSize : Nat
  deriving DecidableEq, Repr

namespace BatchAccumulator

def new (counter : TokenCounter) (model : PyStr) : BatchAccumulator := ⟨counter,model,[],0,0,0⟩

def computeTokens (acc : BatchAccumulator) (systemPrompt userPrompt : PyStr) : Nat :=
  acc.counter.countTokens systemPrompt acc.model + acc.counter.countTokens userPrompt acc.model

def computeByteSize (jsonLine : PyStr) : Except PyError Nat :=
  match jsonLine.encodeUtf8 with
  | some bytes => .ok (bytes.length + 1)
  | none => .error .unicodeEncodeError

def wouldExceed (acc : BatchAccumulator) (tokens byteSize : Nat) : Bool :=
  if acc.recordCount = 0 then false
  else if acc.counter.effectiveLimit < (acc.totalTokens + tokens : Nat) then true
  else if acc.counter.azureMaxBytesPerFile < acc.byteSize + byteSize then true
  else if acc.counter.azureMaxRecordsPerFile < acc.recordCount + 1 then true
  else false

def addEntry (acc : BatchAccumulator) (requestId jsonLine : PyStr) (tokens byteSize : Nat) :
    Except PyError BatchAccumulator :=
  if acc.counter.effectiveLimit < (tokens : Int) then
    .error (.tokenLimitExceeded tokens acc.counter.effectiveLimit (some requestId))
  else if acc.counter.azureMaxBytesPerFile < byteSize then
    .error (.validation "byte_size" (.int byteSize)
      s!"single JSONL record exceeds max_bytes={acc.counter.azureMaxBytesPerFile}")
  else .ok {acc with
    entries := acc.entries ++ [(requestId,jsonLine,tokens)]
    totalTokens := acc.totalTokens + tokens
    recordCount := acc.recordCount + 1
    byteSize := acc.byteSize + byteSize}

def drain (acc : BatchAccumulator) : Option Drained :=
  match acc.entries with
  | [] => none
  | entries => some ⟨acc.recordCount,acc.totalTokens,entries.map (fun e => e.1),entries.map (fun e => e.2.1),
      acc.byteSize⟩

end BatchAccumulator
end PgLlmBatch
