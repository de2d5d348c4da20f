import PgLlmBatch.TokenCounter
import PgLlmBatch.Base.JsonText

/-! Request rows become JSONL lines, and lines become payloads: one pass that opens a new
payload at a change of model and whenever the next line would break a limit. -/
namespace PgLlmBatch
open Base
open Base.JsonText (dumps DumpStyle)

structure RequestRow where
  requestUuid : PgText
  systemPrompt : PgText
  userPrompt : PgText
  modelName : PgText
  deriving DecidableEq

structure ModelMetadata where
  mode : Option PyStr
  deriving DecidableEq, Repr

-- `str.lower`; the comparison with "embedding" depends on ASCII letters only.
def lower (s : PyStr) : PyStr :=
  s.map (fun c => if 0x41 ≤ c.val ∧ c.val ≤ 0x5A then Fin.ofNat _ (c.val + 32) else c)

def modeOf (metadata : Option ModelMetadata) : PyStr := lower ((metadata.bind ModelMetadata.mode).getD [])

def embeddingMode : PyStr := py "embedding"

def systemForTokens (mode : PyStr) (row : RequestRow) : PyStr :=
  if mode ≠ embeddingMode then row.systemPrompt.text else []

def buildJsonEntry (requestId modelName mode system userPrompt : PyStr) : Json :=
  if mode = embeddingMode then .obj [(py "custom_id",.str requestId),(py "method",.str (py "POST")),
    (py "url",.str (py "/v1/embeddings")),
    (py "body",.obj [(py "model",.str modelName),(py "input",.str userPrompt)])]
  else
    let user : Json := .obj [(py "role",.str (py "user")),(py "content",.str userPrompt)]
    let messages : List Json := if system.isEmpty then [user]
      else [.obj [(py "role",.str (py "system")),(py "content",.str system)],user]
    .obj [(py "custom_id",.str requestId),(py "method",.str (py "POST")),
      (py "url",.str (py "/v1/chat/completions")),
      (py "body",.obj [(py "model",.str modelName),(py "messages",.arr messages)])]

def rowEntry (metadata : Option ModelMetadata) (row : RequestRow) : Json :=
  buildJsonEntry row.requestUuid.text row.modelName.text (modeOf metadata)
    (systemForTokens (modeOf metadata) row) row.userPrompt.text

-- The separators of `json.dumps` by default, with `ensure_ascii=False`.
def lineStyle : DumpStyle := ⟨false,false,true⟩

def dumpLine (i : Interpreter) (entry : Json) : Except PyError PyStr :=
  match dumps i lineStyle entry with
  | .ok line => .ok line
  | .error _ => .error .raised

structure BatchPayloadPart extends Drained where
  partIndex : Nat
  deriving DecidableEq, Repr

structure Assembly where
  lookups : Nat
  partIndex : Nat
  currentModel : Option PyStr
  acc : Option BatchAccumulator
  payloads : List BatchPayloadPart

namespace Assembly

def start : Assembly := ⟨0,0,none,none,[]⟩

def push (st : Assembly) : Option Drained → Assembly
  | none => st
  | some d => {st with payloads := st.payloads ++ [⟨d,st.partIndex⟩], partIndex := st.partIndex + 1}

def switchModel (st : Assembly) (modelName : PyStr) : Assembly :=
  match st.acc with
  | some acc => if st.currentModel ≠ some modelName then {st.push acc.drain with acc := none} else st
  | none => st

-- The open accumulator, or a new one that makes its model the current one.
def opened (st : Assembly) (counter : TokenCounter) (modelName : PyStr) : BatchAccumulator × Assembly :=
  match st.acc with
  | some acc => (acc,st)
  | none => (.new counter modelName,{st with currentModel := some modelName})

-- `lookup n` is what the n-th metadata query of the pass returns.
def row (i : Interpreter) (counter : TokenCounter) (lookup : Nat → PyStr → Option ModelMetadata)
    (st : Assembly) (r : RequestRow) : Except PyError Assembly := do
  let metadata := lookup st.lookups r.modelName.text
  let system := systemForTokens (modeOf metadata) r
  let (acc,st) := (st.switchModel r.modelName.text).opened counter r.modelName.text
  let totalTokens := acc.computeTokens system r.userPrompt.text
  let line ← dumpLine i (rowEntry metadata r)
  let byteSize ← BatchAccumulator.computeByteSize line
  let (acc,st) := if acc.wouldExceed totalTokens byteSize then match acc.drain with
      | none => (acc,st)
      | some d => (BatchAccumulator.new counter r.modelName.text,st.push (some d))
    else (acc,st)
  let acc ← acc.addEntry r.requestUuid.text line totalTokens byteSize
  return {st with acc := some acc, lookups := st.lookups + 1}

def finish (st : Assembly) : List BatchPayloadPart :=
  match st.acc with
  | some acc => if 0 < acc.recordCount then (st.push acc.drain).payloads else st.payloads
  | none => st.payloads

end Assembly

def assemblePayloads (i : Interpreter) (counter : TokenCounter) (lookup : Nat → PyStr → Option ModelMetadata)
    (rows : List RequestRow) : Except PyError (List BatchPayloadPart) := do
  let st ← rows.foldlM (Assembly.row i counter lookup) .start
  return st.finish

def newline : PyChar := 0x0A

def payloadContent (lines : List PyStr) : PyStr :=
  [newline].intercalate lines ++ if lines.isEmpty then [] else [newline]

end PgLlmBatch
