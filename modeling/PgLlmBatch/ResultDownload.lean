import PgLlmBatch.Base.JsonPadding
import PgLlmBatch.Base.TextLines
import PgLlmBatch.Base.Traced
import PgLlmBatch.Base.Utf8
import PgLlmBatch.BoundedReading
import PgLlmBatch.GatewayUrl
import PgLlmBatch.ResultStreamingChunks

/-! `download_results`, which reads each file of a batch whole and trims it before it cuts the lines,
beside the stream of the same files. Where the stream ends they agree, but for one kind of line. -/
namespace PgLlmBatch
open Base
open Base.JsonText (loads defaultHooks strictHooks jsonSpace)

abbrev JsonRecord := List (PyStr × Json)

def newlineChar : PyChar := 0x0A
def returnChar : PyChar := 0x0D

def malformedLineError (batchId : PyStr) (kind : FileKind) (lineNumber : Nat) : PyError :=
  .gateway s!"Malformed {kind.name} line {lineNumber} for batch {shown batchId}" none
    [("file_kind",kind.json),("line_number",natJson lineNumber)]

section
variable (i : Interpreter) (batchId : PyStr) (kind : FileKind)

-- `except json.JSONDecodeError` lets the limits on nesting and digits through.
def parseContentLine (lineNumber : Nat) (line : PyStr) : Except PyError (Option JsonRecord) :=
  if line.isEmpty then .ok none
  else match loads i defaultHooks line with
    | .ok (.obj parsed) => .ok (some parsed)
    | .ok parsed => .error (.gateway s!"Non-object {kind.name} line {lineNumber} for batch {shown batchId}" none
        [("file_kind",kind.json),("line_number",natJson lineNumber),("response_type",.str (py parsed.typeName))])
    | .error .malformed => .error (malformedLineError batchId kind lineNumber)
    | .error _ => .error .raised

def parseContentLines (lineNumber : Nat) : List PyStr → Except PyError (List JsonRecord)
  | [] => .ok []
  | line::lines => do
      let parsed ← parseContentLine i batchId kind lineNumber line
      let later ← parseContentLines (lineNumber + 1) lines
      return parsed.toList ++ later

def parseJsonlContent (content : PyStr) : Except PyError (List JsonRecord) :=
  parseContentLines i batchId kind 1 (content.strip.splitOn newlineChar)

end

section
variable (c : StreamLimits) (i : Interpreter) (p : Provider) (batchId : PyStr)

def downloadJsonlFile (kind : FileKind) (fileId : Json) : Except PyError (List JsonRecord) := do
  let validatedFileId ← validateResourceId fileId (kind.name ++ "_file_id")
  let response ← p.download kind validatedFileId
  if response.status ≠ 200 then
    throw (.gateway (kind.operation ++ s!" failed: {response.status}") (some response.status)
      [("error_type",.str (py "ProviderHTTPError"))])
  let content ← (readBoundedUtf8 response kind.operation c.maxDownloadBytes).ended
  parseJsonlContent i batchId kind content

structure DownloadedResults where
  batchSucceeded : Bool
  batchId : PyStr
  batchStatus : PyStr
  outputFileId : Json
  errorFileId : Json
  responseCount : Nat
  errorCount : Nat
  hasErrors : Bool
  responses : List JsonRecord
  errors : List JsonRecord

inductive RetrievedResults where
  | unsuccessful (reason : PyStr)
  | downloaded (results : DownloadedResults)

def downloadedResults (status : RetrievalStatus) (responses errors : List JsonRecord) : DownloadedResults where
  batchSucceeded := decide (status.status = py "completed")
  batchId := batchId
  batchStatus := status.status
  outputFileId := status.outputFileId
  errorFileId := status.errorFileId
  responseCount := responses.length
  errorCount := errors.length
  hasErrors := !errors.isEmpty
  responses := responses
  errors := errors

def downloadExposed (kind : FileKind) (fileId : Json) : Except PyError (List JsonRecord) :=
  if fileId.truthy then downloadJsonlFile c i p batchId kind fileId else .ok []

def downloadResults : Except PyError RetrievedResults := do
  let status ← p.getBatchStatus
  if status.isComplete = false then
    return .unsuccessful (py "Batch not complete: " ++ status.status)
  if status.outputFileId.truthy = false ∧ status.errorFileId.truthy = false then
    return .unsuccessful (py "No output_file_id on batch")
  let responses ← downloadExposed c i p batchId .result status.outputFileId
  let errors ← downloadExposed c i p batchId .error status.errorFileId
  return .downloaded (downloadedResults batchId status responses errors)

end

def skippedLine (line : Bytes) : Bool := (dropReturn line).isEmpty

def innerLines (bytes : Bytes) : List Bytes := ((bytes.splitOn lineFeed).dropWhile skippedLine).rdropWhile skippedLine

-- Where the first of them is that holds a lone carriage return: blank for the stream, but no empty text.
def strayReturn (bytes : Bytes) : Option Nat :=
  ((innerLines bytes).findIdx? (· == [carriageReturn])).map (1 + ·)

theorem blankForms {line : Bytes} : skippedLine line = true ↔ line = [] ∨ line = [carriageReturn] := by
  unfold skippedLine dropReturn
  split
  · rename_i last
    obtain ⟨front,rfl⟩ := List.getLast?_eq_some_iff.mp last
    simp
  · rename_i other
    rw [List.isEmpty_iff]
    refine ⟨.inl,fun forms => forms.elim id (fun same => absurd ?_ other)⟩
    rw [same]
    rfl

def Reads (i : Interpreter) (line : PyStr) (record : JsonRecord) : Prop :=
  ∃ w x c v, line = w ++ (x::c ++ v) ∧ (∀ y ∈ w, jsonSpace y = true) ∧ (∀ y ∈ v, jsonSpace y = true) ∧
    JsonText.Ink x ∧ JsonText.Closed (x::c) ∧
    ∀ w' v', (∀ y ∈ w', jsonSpace y = true) → (∀ y ∈ v', jsonSpace y = true) →
      loads i defaultHooks (w' ++ (x::c ++ v')) = .ok (.obj record)

inductive LineShape (i : Interpreter) : PyStr → Bytes × Option JsonRecord → Prop where
  | empty : LineShape i [] ([],none)
  | return_ : LineShape i [returnChar] ([carriageReturn],none)
  | record {line : PyStr} {raw : Bytes} {record : JsonRecord} (reads : Reads i line record) (some_ : skippedLine raw = false) :
      LineShape i line (raw,some record)

section
variable {i : Interpreter}

theorem strictKept : JsonText.Keeps (fun _ => True) strictHooks defaultHooks where
  items _ _ _ _ := trivial
  pairs ms j h _ := by
    unfold strictHooks at h
    dsimp only at h
    split at h
    · cases h
    · rename_i fresh
      cases h
      have distinct : (ms.map Prod.fst).Nodup := by simpa [JsonText.hasDuplicateNames] using fresh
      exact ⟨by simp [defaultHooks,JsonText.dictDistinct distinct],fun _ _ => trivial⟩
  float f j h _ := by
    unfold strictHooks at h
    dsimp only at h
    split at h
    · exact h
    · cases h
  constant _ _ h _ := by cases h

theorem strictReads {line : PyStr} {record : JsonRecord} (h : loads i strictHooks line = .ok (.obj record)) :
    Reads i line record :=
  JsonText.loadsPadded (JsonText.loadsKept strictKept h trivial)

theorem readsReturn {line : PyStr} {record : JsonRecord} (h : Reads i line record) : Reads i (line ++ [returnChar]) record := by
  obtain ⟨w,x,c,v,rfl,before,after,ink,closed,padded⟩ := h
  refine ⟨w,x,c,v ++ [returnChar],by simp,before,?_,ink,closed,padded⟩
  intro y here
  rcases List.mem_append.mp here with own | last
  · exact after y own
  · rw [List.mem_singleton.mp last]
    decide

theorem readsSome {line : PyStr} {record : JsonRecord} (h : Reads i line record) : line.all PyChar.space = false := by
  obtain ⟨w,x,c,v,rfl,-,-,ink,-,-⟩ := h
  rw [Bool.eq_false_iff]
  intro blank
  have own := List.all_eq_true.mp blank x (by simp)
  rw [ink.1] at own
  cases own

theorem blanksDropped {w : PyStr} (blank : ∀ y ∈ w, jsonSpace y = true) {x : PyChar} (ink : JsonText.Ink x) (s : PyStr) :
    (w ++ x::s).dropWhile PyChar.space = x::s := by
  rw [List.dropWhile_append_of_pos (fun y here => JsonText.blankSpace (blank y here)),List.dropWhile_cons_of_neg]
  rw [ink.1]
  exact Bool.false_ne_true

theorem blanksDroppedBack {v : PyStr} (blank : ∀ y ∈ v, jsonSpace y = true) {s : PyStr} (closed : JsonText.Closed s) :
    (s ++ v).rdropWhile PyChar.space = s := by
  obtain ⟨y,last,ink⟩ := closed
  obtain ⟨front,rfl⟩ := List.getLast?_eq_some_iff.mp last
  rw [List.rdropWhile,List.reverse_append,List.dropWhile_append_of_pos,List.reverse_append,List.reverse_singleton,
    List.singleton_append,List.dropWhile_cons_of_neg]
  · simp
  · rw [ink]
    exact Bool.false_ne_true
  · intro a here
    exact JsonText.blankSpace (blank a (List.mem_reverse.mp here))

theorem readsFront {line : PyStr} {record : JsonRecord} (h : Reads i line record) :
    Reads i (line.dropWhile PyChar.space) record := by
  obtain ⟨w,x,c,v,rfl,before,after,ink,closed,padded⟩ := h
  refine ⟨[],x,c,v,?_,fun y none_ => (by cases none_),after,ink,closed,padded⟩
  rw [List.cons_append,blanksDropped before ink,List.nil_append]

theorem readsBack {line : PyStr} {record : JsonRecord} (h : Reads i line record) :
    Reads i (line.rdropWhile PyChar.space) record := by
  obtain ⟨w,x,c,v,rfl,before,after,ink,closed,padded⟩ := h
  refine ⟨w,x,c,[],?_,before,fun y none_ => (by cases none_),ink,closed,padded⟩
  rw [← List.append_assoc,blanksDroppedBack after (JsonText.closedAfter closed w),List.append_nil]

theorem shapeBlank {line : PyStr} {entry : Bytes × Option JsonRecord} (h : LineShape i line entry) :
    line.all PyChar.space = entry.2.isNone := by
  cases h with
  | empty => rfl
  | return_ => decide
  | record reads some_ => exact readsSome reads

theorem shapeRaw {line : PyStr} {entry : Bytes × Option JsonRecord} (h : LineShape i line entry) :
    skippedLine entry.1 = entry.2.isNone := by
  cases h with
  | empty => rfl
  | return_ => rfl
  | record reads some_ => exact some_

theorem shapeFront {line : PyStr} {entry : Bytes × Option JsonRecord} (h : LineShape i line entry)
    (some_ : entry.2.isNone = false) : LineShape i (line.dropWhile PyChar.space) entry := by
  cases h with
  | empty => cases some_
  | return_ => cases some_
  | record reads inked => exact .record (readsFront reads) inked

theorem shapeBack {line : PyStr} {entry : Bytes × Option JsonRecord} (h : LineShape i line entry)
    (some_ : entry.2.isNone = false) : LineShape i (line.rdropWhile PyChar.space) entry := by
  cases h with
  | empty => cases some_
  | return_ => cases some_
  | record reads inked => exact .record (readsBack reads) inked

theorem returnAppended {line : Bytes} {text : PyStr} (h : decodeUtf8 line = .ok text) :
    decodeUtf8 (line ++ [carriageReturn]) = .ok (text ++ [returnChar]) :=
  decodedIff.mpr (encodeAppend (decodedIff.mp h) rfl)

theorem dropReturnCases (line : Bytes) : dropReturn line = line ∨ line = dropReturn line ++ [carriageReturn] := by
  unfold dropReturn
  split
  · rename_i last
    obtain ⟨front,rfl⟩ := List.getLast?_eq_some_iff.mp last
    exact .inr (by simp)
  · exact .inl rfl

theorem lineShaped {c : StreamLimits} {kind : FileKind} {n : Nat} {line : Bytes} {out : Option JsonRecord}
    (h : parseJsonlLine c i kind n line = .ok out) : ∃ text, decodeUtf8 line = .ok text ∧ LineShape i text (line,out) := by
  unfold parseJsonlLine at h
  split at h
  · cases h
  dsimp only at h
  by_cases blank : skippedLine line = true
  · rw [skippedLine] at blank
    rw [if_pos blank] at h
    cases h
    rcases blankForms.mp blank with rfl | rfl
    · exact ⟨[],rfl,.empty⟩
    · exact ⟨[returnChar],rfl,.return_⟩
  have inked := Bool.eq_false_iff.mpr blank
  rw [skippedLine] at blank
  rw [if_neg blank] at h
  cases decoded : decodeUtf8 (dropReturn line) with
  | error start =>
    rw [decoded] at h
    cases h
  | ok text =>
    rw [decoded] at h
    dsimp only at h
    split at h
    · cases h
    · rename_i record loaded
      cases h
      have reads := strictReads loaded
      rcases dropReturnCases line with same | same
      · rw [same] at decoded
        exact ⟨text,decoded,.record reads inked⟩
      · have whole := returnAppended decoded
        rw [← same] at whole
        exact ⟨_,whole,.record (readsReturn reads) inked⟩
    · cases h

theorem readsNonempty {line : PyStr} {record : JsonRecord} (h : Reads i line record) : line.isEmpty = false := by
  obtain ⟨w,x,c,v,rfl,-⟩ := h
  simp

theorem readsLoads {line : PyStr} {record : JsonRecord} (h : Reads i line record) :
    loads i defaultHooks line = .ok (.obj record) := by
  obtain ⟨w,x,c,v,rfl,before,after,-,-,padded⟩ := h
  exact padded w v before after

def linesOutcome (batchId : PyStr) (kind : FileKind) (n : Nat) (entries : List (Bytes × Option JsonRecord)) :
    Except PyError (List JsonRecord) :=
  match entries.findIdx? (fun entry => entry.1 == [carriageReturn]) with
  | some k => .error (malformedLineError batchId kind (n + k))
  | none => .ok (entries.filterMap (·.2))

theorem outcomeLater (batchId : PyStr) (kind : FileKind) (n : Nat) {entry : Bytes × Option JsonRecord}
    (other : (entry.1 == [carriageReturn]) = false) (entries : List (Bytes × Option JsonRecord)) :
    linesOutcome batchId kind n (entry::entries) = (linesOutcome batchId kind (n + 1) entries).map (entry.2.toList ++ ·) := by
  unfold linesOutcome
  rw [List.findIdx?_cons,other]
  cases entries.findIdx? (fun entry => entry.1 == [carriageReturn]) with
  | none =>
    obtain ⟨raw,out⟩ := entry
    cases out <;> rfl
  | some k =>
    change Except.error _ = Except.error _
    rw [show n + 1 + k = n + (k + 1) by omega]

theorem linesParsed (batchId : PyStr) (kind : FileKind) (n : Nat) {lines : List PyStr}
    {entries : List (Bytes × Option JsonRecord)} (h : List.Forall₂ (LineShape i) lines entries) :
    parseContentLines i batchId kind n lines = linesOutcome batchId kind n entries := by
  have followed {line : PyStr} {parsed : Option JsonRecord} {n : Nat} {lines : List PyStr}
      (own : parseContentLine i batchId kind n line = .ok parsed) : parseContentLines i batchId kind n (line::lines) =
        (parseContentLines i batchId kind (n + 1) lines).map (parsed.toList ++ ·) := by
    rw [parseContentLines,own]
    rfl
  induction h generalizing n with
  | nil => rfl
  | @cons line entry lines entries first rest ih =>
    cases first with
    | empty =>
      have own : parseContentLine i batchId kind n [] = .ok none := rfl
      rw [followed own,outcomeLater batchId kind n rfl,ih]
    | return_ =>
      rw [parseContentLines]
      rfl
    | @record _ raw record reads inked =>
      have own : parseContentLine i batchId kind n line = .ok (some record) := by
        rw [parseContentLine,readsNonempty reads,if_neg Bool.false_ne_true,readsLoads reads]
      have other : (raw == [carriageReturn]) = false := by
        rw [beq_eq_false_iff_ne]
        rintro rfl
        cases inked
      rw [followed own,outcomeLater batchId kind n other,ih]

def ContentLine (i : Interpreter) (line : PyStr) (entry : Bytes × Option JsonRecord) : Prop :=
  newlineChar ∉ line ∧ LineShape i line entry

def innerEntries (entries : List (Bytes × Option JsonRecord)) : List (Bytes × Option JsonRecord) :=
  (entries.dropWhile (fun entry => skippedLine entry.1)).rdropWhile (fun entry => skippedLine entry.1)

theorem strippedLines {lines : List PyStr} {entries : List (Bytes × Option JsonRecord)}
    (h : List.Forall₂ (ContentLine i) lines entries) : ∃ inner, List.Forall₂ (ContentLine i) inner (innerEntries entries) ∧
      PyStr.strip ([newlineChar].intercalate lines) = [newlineChar].intercalate inner := by
  have blank : PyChar.space newlineChar = true := by decide
  have same (line : PyStr) (entry : Bytes × Option JsonRecord) (own : ContentLine i line entry) :
      line.all PyChar.space = skippedLine entry.1 := (shapeBlank own.2).trans (shapeRaw own.2).symm
  have trimmed (line : PyStr) (entry : Bytes × Option JsonRecord) (own : ContentLine i line entry)
      (inked : skippedLine entry.1 = false) : ContentLine i (line.dropWhile PyChar.space) entry :=
    ⟨fun here => own.1 ((List.dropWhile_sublist _).subset here),shapeFront own.2 (shapeRaw own.2 ▸ inked)⟩
  have trimmedEnd (line : PyStr) (entry : Bytes × Option JsonRecord) (own : ContentLine i line entry)
      (inked : skippedLine entry.1 = false) : ContentLine i (line.rdropWhile PyChar.space) entry :=
    ⟨fun here => own.1 ((List.rdropWhile_prefix _ _).subset here),shapeBack own.2 (shapeRaw own.2 ▸ inked)⟩
  have front := trimmedFront same trimmed h
  have back := trimmedBack same trimmedEnd front
  refine ⟨_,back,?_⟩
  rw [PyStr.strip,joinedFront blank,joinedBack blank]

theorem contentParsed (batchId : PyStr) (kind : FileKind) {lines : List PyStr} {entries : List (Bytes × Option JsonRecord)}
    (h : List.Forall₂ (ContentLine i) lines entries) :
    parseJsonlContent i batchId kind ([newlineChar].intercalate lines) = linesOutcome batchId kind 1 (innerEntries entries) := by
  obtain ⟨inner,shaped,stripped⟩ := strippedLines h
  obtain ⟨clean,shapes⟩ := (List.forall₂_and_left _ _).mp shaped
  rw [parseJsonlContent,stripped]
  cases inner with
  | nil =>
    rw [List.forall₂_nil_left_iff.mp shapes]
    rfl
  | cons line inner => rw [List.splitOn_intercalate newlineChar clean (List.cons_ne_nil line inner),linesParsed batchId kind 1 shapes]

theorem newlineDecoded {raw : Bytes} {text : PyStr} (h : decodeUtf8 raw = .ok text) (clean : lineFeed ∉ raw) :
    newlineChar ∉ text := by
  intro here
  have own : newlineChar.utf8 = some [lineFeed] := rfl
  exact clean (encodedMember (decodedIff.mp h) here own List.mem_cons_self)

theorem bodyLines {entries : List (Bytes × Option JsonRecord)} (some_ : entries ≠ [])
    (each : ∀ entry ∈ entries, lineFeed ∉ entry.1 ∧ ∃ text, decodeUtf8 entry.1 = .ok text ∧ LineShape i text entry) :
    ∃ lines, List.Forall₂ (ContentLine i) lines entries ∧
      decodeUtf8 ([lineFeed].intercalate (entries.map Prod.fst)) = .ok ([newlineChar].intercalate lines) := by
  induction entries with
  | nil => exact absurd rfl some_
  | cons entry entries ih =>
    obtain ⟨clean,text,decoded,shape⟩ := each entry List.mem_cons_self
    have own : ContentLine i text entry := ⟨newlineDecoded decoded clean,shape⟩
    cases entries with
    | nil => exact ⟨[text],.cons own .nil,by simpa using decoded⟩
    | cons next entries =>
      obtain ⟨lines,rest,later⟩ := ih (List.cons_ne_nil next entries) (fun entry here => each entry (List.mem_cons_of_mem _ here))
      refine ⟨text::lines,.cons own rest,?_⟩
      have more : lines ≠ [] := by
        rintro rfl
        cases rest
      rw [List.map_cons,joinedCons lineFeed (by simp) entry.1,joinedCons newlineChar more text]
      have separated := encodeAppend (s := [newlineChar]) (a := [lineFeed]) rfl (decodedIff.mp later)
      exact decodedIff.mpr (encodeAppend (decodedIff.mp decoded) separated)

end

section
variable {c : StreamLimits} {i : Interpreter} {p : Provider} {kind : FileKind}

theorem chunkRead {response : FileResponse} {b b' : LineBuffer} {chunk : BodyChunk}
    (done : (takeChunk c i kind response b chunk).ended = .ok b') : ∃ bs, chunk = .bytes bs ∧ bs ≠ [] ∧
      bs.length ≤ downloadChunkBytes ∧ b.bytesRead + bs.length ≤ c.maxDownloadBytes ∧ b'.bytesRead = b.bytesRead + bs.length := by
  cases chunk with
  | other => cases done
  | bytes bs =>
    by_cases empty : bs.length = 0
    · unfold takeChunk at done
      simp only [if_pos empty] at done
      cases done
    by_cases large : downloadChunkBytes < bs.length
    · unfold takeChunk at done
      simp only [if_neg empty,if_pos large] at done
      cases done
    by_cases beyond : c.maxDownloadBytes < b.bytesRead + bs.length
    · obtain ⟨e,refused⟩ := @chunkRefused c i kind response b bs beyond
      rw [refused] at done
      cases done
    have some_ : bs ≠ [] := fun none_ => empty (List.length_eq_zero_iff.mpr none_)
    rw [chunkTaken some_ (Nat.not_lt.mp large) (Nat.not_lt.mp beyond)] at done
    obtain ⟨count,-,rest,-⟩ := Generator.bindDone done
    refine ⟨bs,rfl,some_,Nat.not_lt.mp large,Nat.not_lt.mp beyond,?_⟩
    split at rest
    · cases rest
    · cases rest
      rfl

theorem chunksRead {response : FileResponse} {b b' : LineBuffer} {chunks : List BodyChunk}
    (read : b.bytesRead ≤ c.maxDownloadBytes) (done : (Generator.forEach (takeChunk c i kind response) b chunks).ended = .ok b') :
    ∃ bytes, SplitInto bytes chunks ∧ b.bytesRead + bytes.length ≤ c.maxDownloadBytes := by
  induction chunks generalizing b with
  | nil => exact ⟨[],.nil,read⟩
  | cons chunk chunks ih =>
    obtain ⟨next,first,rest,-⟩ := Generator.bindDone done
    obtain ⟨bs,rfl,some_,fits,within,total⟩ := chunkRead first
    obtain ⟨bytes,split_,whole⟩ := ih (by omega) rest
    refine ⟨bs ++ bytes,.cons some_ fits split_,?_⟩
    rw [List.length_append]
    omega

structure WholeBody (c : StreamLimits) (response : FileResponse) (bytes : Bytes) : Prop where
  ok : response.status = 200
  declared : declaredTooLarge response c.maxDownloadBytes = false
  chunks : ∃ chunks, response.iterChunked = some (chunks,.ok ()) ∧ SplitInto bytes chunks
  fits : bytes.length ≤ c.maxDownloadBytes

theorem bodyRead {response : FileResponse} {observed n : Nat}
    (done : (readJsonlLines c i kind response observed).ended = .ok n) : ∃ bytes, WholeBody c response bytes := by
  unfold readJsonlLines at done
  by_cases failed : response.status ≠ 200
  · rw [if_pos failed] at done
    cases done
  rw [if_neg failed] at done
  by_cases declared : (response.declaredBytes.map (decide <| c.maxDownloadBytes < ·)).getD false = true
  · simp only [if_pos declared] at done
    cases done
  simp only [if_neg declared] at done
  cases stream : response.iterChunked with
  | none =>
    rw [stream] at done
    cases done
  | some body =>
    obtain ⟨chunks,exhausted⟩ := body
    rw [stream] at done
    obtain ⟨b,first,rest,-⟩ := Generator.bindDone done
    obtain ⟨_,ends,-,-⟩ := Generator.bindDone rest
    obtain ⟨bytes,split_,fits⟩ := chunksRead (Nat.zero_le _) first
    rw [Nat.zero_add] at fits
    refine ⟨bytes,not_not.mp failed,Bool.eq_false_iff.mpr declared,⟨chunks,?_,split_⟩,fits⟩
    exact stream.trans (congrArg (fun e => some (chunks,e)) ends)

theorem wholeCollected {response : FileResponse} {operation : String} {maxBytes : Nat} {bytes payload : Bytes}
    {chunks : List BodyChunk} (split_ : SplitInto bytes chunks) (fits : payload.length + bytes.length ≤ maxBytes) :
    (Generator.forEach (collectChunk response operation maxBytes) payload chunks).ended = .ok (payload ++ bytes) := by
  induction split_ generalizing payload with
  | nil => exact congrArg Except.ok (List.append_nil payload).symm
  | @cons bs rest chunks some_ small later ih =>
    rw [List.length_append] at fits
    have own := (collectEnded response operation maxBytes payload (.bytes bs)).mpr ⟨bs,rfl,by omega,rfl⟩
    rw [Generator.forEach,Generator.bindOk _ own,ih (by rw [List.length_append]; omega),List.append_assoc]

theorem wholeRead {response : FileResponse} {bytes : Bytes} (whole : WholeBody c response bytes) (operation : String) :
    (readBoundedUtf8 response operation c.maxDownloadBytes).ended = decodeBody response operation bytes := by
  obtain ⟨chunks,stream,split_⟩ := whole.chunks
  have collected : (Generator.forEach (collectChunk response operation c.maxDownloadBytes) [] chunks).ended = .ok ([] ++ bytes) := by
    refine wholeCollected split_ ?_
    rw [List.length_nil,Nat.zero_add]
    exact whole.fits
  unfold readBoundedUtf8
  rw [whole.declared,stream]
  change (Generator.forEach (collectChunk response operation c.maxDownloadBytes) [] chunks >>= _).ended = _
  rw [Generator.bindOk _ collected]
  rfl

-- The lines between the line feeds of a file, each with the record that the stream yields for it.
structure StreamedFile (i : Interpreter) (bytes : Bytes) (entries : List (Bytes × Option JsonRecord)) : Prop where
  segments : entries.map Prod.fst = bytes.splitOn lineFeed
  parsed : ∀ entry ∈ entries, ∃ text, decodeUtf8 entry.1 = .ok text ∧ LineShape i text entry

theorem segmentsCut (bytes : Bytes) : bytes.splitOn lineFeed =
    (physicalLines bytes).map Prod.fst ++ if (cutLines bytes).2.isEmpty then [[]] else [] := by
  rw [splitLines,physicalCut]
  cases (cutLines bytes).2 with
  | nil => simp [Function.comp_def]
  | cons b rest => simp [Function.comp_def]

def linesEntries (lines : List (PhysicalJsonlLine × Nat)) : List (Bytes × Option JsonRecord) :=
  lines.map (fun line => (line.1.rawLine,line.1.record))

theorem linesStreamed {lines : List (PhysicalJsonlLine × Nat)} {bytes : Bytes} {observed : Nat}
    (h : lines.map entryOf = (physicalLines bytes).mapIdx (lineEntry c i kind observed)) :
    (linesEntries lines).map Prod.fst = (physicalLines bytes).map Prod.fst ∧
      ∀ entry ∈ linesEntries lines, ∃ text, decodeUtf8 entry.1 = .ok text ∧ LineShape i text entry := by
  constructor
  · have raw := congrArg (List.map (fun entry => entry.2.1)) h
    rw [List.map_map] at raw
    rw [linesEntries,List.map_map]
    refine raw.trans ?_
    refine List.ext_getElem? (fun n => ?_)
    simp [lineEntry,List.getElem?_map,List.getElem?_mapIdx,Function.comp_def]
  · intro entry here
    obtain ⟨line,mem,rfl⟩ := List.mem_map.mp here
    have own : entryOf line ∈ (physicalLines bytes).mapIdx (lineEntry c i kind observed) := h ▸ List.mem_map_of_mem mem
    obtain ⟨n,inside,same⟩ := List.mem_mapIdx.mp own
    simp only [lineEntry,entryOf,Prod.mk.injEq] at same
    have parsed : parseJsonlLine c i kind (n + 1) line.1.rawLine = .ok line.1.record := by
      rw [← same.2.1]
      exact same.2.2.2.1
    exact lineShaped parsed

theorem fileStreamed {fileId : Json} {observed n : Nat} (done : (iterJsonlFileLines c i p kind fileId observed).ended = .ok n) :
    ∃ validated response bytes entries, validateRemoteResourceId fileId (kind.name ++ "_file_id") = .ok validated ∧
      p.download kind validated = .ok response ∧ WholeBody c response bytes ∧ StreamedFile i bytes entries ∧
      (iterJsonlFileLines c i p kind fileId observed).yields.filterMap (·.1.record) = entries.filterMap (·.2) := by
  have start := done
  unfold iterJsonlFileLines at start
  obtain ⟨validated,valid,start,-⟩ := Generator.bindDone start
  obtain ⟨response,answered,read,-⟩ := Generator.bindDone start
  obtain ⟨bytes,whole⟩ := bodyRead read
  obtain ⟨chunks,stream,split_⟩ := whole.chunks
  obtain ⟨-,yielded⟩ := wholeFileLines valid answered stream split_ done
  obtain ⟨raw,parsed⟩ := linesStreamed yielded
  have ending : ∃ more : List (Bytes × Option JsonRecord), (if (cutLines bytes).2.isEmpty then [[]] else []) = more.map Prod.fst ∧ more.filterMap (·.2) = [] ∧
      ∀ entry ∈ more, ∃ text, decodeUtf8 entry.1 = .ok text ∧ LineShape i text entry := by
    by_cases blank : (cutLines bytes).2.isEmpty = true
    · rw [if_pos blank]
      refine ⟨[([],none)],rfl,rfl,fun entry here => ?_⟩
      rw [List.mem_singleton.mp here]
      exact ⟨[],rfl,.empty⟩
    · rw [if_neg blank]
      exact ⟨[],rfl,rfl,fun entry here => (by cases here)⟩
  obtain ⟨more,last,nothing,shapes⟩ := ending
  refine ⟨validated,response,bytes,linesEntries (iterJsonlFileLines c i p kind fileId observed).yields ++ more,valid,answered,whole,⟨?_,?_⟩,?_⟩
  · rw [List.map_append,raw,segmentsCut,last]
  · intro entry here
    exact (List.mem_append.mp here).elim (parsed entry) (shapes entry)
  · rw [List.filterMap_append,nothing,List.append_nil,linesEntries,List.filterMap_map]
    rfl

def fileOutcome (batchId : PyStr) (kind : FileKind) (bytes : Bytes) (records : List JsonRecord) : Except PyError (List JsonRecord) :=
  match strayReturn bytes with
  | some lineNumber => .error (malformedLineError batchId kind lineNumber)
  | none => .ok records

theorem blanksUnread {blank : Bytes × Option JsonRecord → Bool} {entries : List (Bytes × Option JsonRecord)}
    (unread : ∀ entry ∈ entries, blank entry = true → entry.2 = none) :
    (entries.dropWhile blank).filterMap (·.2) = entries.filterMap (·.2) := by
  induction entries with
  | nil => rfl
  | cons entry entries ih =>
    rw [List.dropWhile_cons]
    split
    · rename_i own
      rw [ih (fun entry here => unread entry (List.mem_cons_of_mem _ here)),
        List.filterMap_cons_none (unread entry List.mem_cons_self own)]
    · rfl

theorem innerUnread {entries : List (Bytes × Option JsonRecord)}
    (unread : ∀ entry ∈ entries, skippedLine entry.1 = true → entry.2 = none) :
    (innerEntries entries).filterMap (·.2) = entries.filterMap (·.2) := by
  have front := blanksUnread unread
  have turnedUnread : ∀ entry ∈ (entries.dropWhile (fun entry => skippedLine entry.1)).reverse,
      skippedLine entry.1 = true → entry.2 = none :=
    fun entry here => unread entry ((List.dropWhile_sublist _).subset (List.mem_reverse.mp here))
  have back := blanksUnread turnedUnread
  rw [innerEntries,List.rdropWhile,List.filterMap_reverse,back,List.filterMap_reverse,List.reverse_reverse,front]

theorem innerRaw (entries : List (Bytes × Option JsonRecord)) :
    (innerEntries entries).map Prod.fst = ((entries.map Prod.fst).dropWhile skippedLine).rdropWhile skippedLine := by
  rw [innerEntries,List.rdropWhile,List.rdropWhile,List.dropWhile_map,← List.map_reverse,List.dropWhile_map,← List.map_reverse]
  rfl

theorem outcomeStray (batchId : PyStr) (kind : FileKind) {bytes : Bytes} {entries : List (Bytes × Option JsonRecord)}
    (streamed : StreamedFile i bytes entries) :
    linesOutcome batchId kind 1 (innerEntries entries) = fileOutcome batchId kind bytes (entries.filterMap (·.2)) := by
  have unread (entry : Bytes × Option JsonRecord) (here : entry ∈ entries) (blank : skippedLine entry.1 = true) : entry.2 = none := by
    obtain ⟨text,-,shape⟩ := streamed.parsed entry here
    rw [shapeRaw shape] at blank
    exact Option.isNone_iff_eq_none.mp blank
  have located : (innerLines bytes).findIdx? (· == [carriageReturn]) =
      (innerEntries entries).findIdx? (fun entry => entry.1 == [carriageReturn]) := by
    rw [innerLines,← streamed.segments,← innerRaw,List.findIdx?_map]
    rfl
  unfold linesOutcome fileOutcome strayReturn
  rw [located,innerUnread unread]
  cases (innerEntries entries).findIdx? (fun entry => entry.1 == [carriageReturn]) <;> rfl

theorem wholeParsed (batchId : PyStr) (kind : FileKind) {bytes : Bytes} {entries : List (Bytes × Option JsonRecord)}
    (streamed : StreamedFile i bytes entries) : ∃ content, decodeUtf8 bytes = .ok content ∧
      parseJsonlContent i batchId kind content = fileOutcome batchId kind bytes (entries.filterMap (·.2)) := by
  have some_ : entries ≠ [] := by
    rintro rfl
    exact List.splitOn_ne_nil lineFeed bytes streamed.segments.symm
  have each (entry : Bytes × Option JsonRecord) (here : entry ∈ entries) :
      lineFeed ∉ entry.1 ∧ ∃ text, decodeUtf8 entry.1 = .ok text ∧ LineShape i text entry := by
    have segment : entry.1 ∈ bytes.splitOn lineFeed := streamed.segments ▸ List.mem_map_of_mem here
    exact ⟨splitClean bytes entry.1 segment,streamed.parsed entry here⟩
  obtain ⟨lines,shaped,decoded⟩ := bodyLines some_ each
  rw [streamed.segments,List.intercalate_splitOn] at decoded
  exact ⟨_,decoded,(contentParsed batchId kind shaped).trans (outcomeStray batchId kind streamed)⟩

theorem fileDownloaded (batchId : PyStr) {fileId : Json} {observed n : Nat}
    (done : (iterJsonlFileLines c i p kind fileId observed).ended = .ok n) : ∃ validated response bytes,
      validateRemoteResourceId fileId (kind.name ++ "_file_id") = .ok validated ∧ p.download kind validated = .ok response ∧
      WholeBody c response bytes ∧ downloadJsonlFile c i p batchId kind fileId = fileOutcome batchId kind bytes
        ((iterJsonlFileLines c i p kind fileId observed).yields.filterMap (·.1.record)) := by
  obtain ⟨validated,response,bytes,entries,valid,answered,whole,streamed,records⟩ := fileStreamed done
  obtain ⟨content,decoded,parsed⟩ := wholeParsed batchId kind streamed
  refine ⟨validated,response,bytes,valid,answered,whole,?_⟩
  have same : validateResourceId fileId (kind.name ++ "_file_id") = .ok validated := valid
  rw [downloadJsonlFile,same]
  change (p.download kind validated >>= _) = _
  rw [answered]
  change (if response.status ≠ 200 then _ else _) = _
  rw [if_neg (not_not.mpr whole.ok),wholeRead whole,decodeBody,decoded]
  exact parsed.trans (congrArg _ records.symm)

end

def BodyChunk.payload : BodyChunk → Bytes
  | .bytes bs => bs
  | .other => []

def FileResponse.body (response : FileResponse) : Bytes :=
  ((response.iterChunked.map Prod.fst).getD []).flatMap BodyChunk.payload

def exposedBody (p : Provider) (kind : FileKind) (fileId : Json) : Bytes :=
  if fileId.truthy then
    match validateRemoteResourceId fileId (kind.name ++ "_file_id") >>= p.download kind with
    | .ok response => response.body
    | .error _ => []
  else []

def firstStray (p : Provider) (status : RetrievalStatus) : Option (FileKind × Nat) :=
  ((strayReturn (exposedBody p .result status.outputFileId)).map (FileKind.result,·)).or
    ((strayReturn (exposedBody p .error status.errorFileId)).map (FileKind.error,·))

def kindRecords (kind : FileKind) (records : List BatchResultRecord) : List JsonRecord :=
  (records.filter (fun record => decide (record.fileKind = kind))).map BatchResultRecord.record

def retrievedOutcome (batchId : PyStr) (status : RetrievalStatus) (stray : Option (FileKind × Nat))
    (records : List BatchResultRecord) : Except PyError RetrievedResults :=
  match stray with
  | some (kind,lineNumber) => .error (malformedLineError batchId kind lineNumber)
  | none => .ok (.downloaded (downloadedResults batchId status (kindRecords .result records) (kindRecords .error records)))

section
variable {c : StreamLimits} {i : Interpreter} {p : Provider} {kind : FileKind}

theorem splitBody {bytes : Bytes} {chunks : List BodyChunk} (split_ : SplitInto bytes chunks) :
    chunks.flatMap BodyChunk.payload = bytes := by
  induction split_ with
  | nil => rfl
  | cons some_ fits later ih => rw [List.flatMap_cons,ih,BodyChunk.payload]

theorem wholeBodyIs {response : FileResponse} {bytes : Bytes} (whole : WholeBody c response bytes) : response.body = bytes := by
  obtain ⟨chunks,stream,split_⟩ := whole.chunks
  rw [FileResponse.body,stream]
  exact splitBody split_

theorem recordLines {fileId : Json} {observed n : Nat} (done : (iterJsonlFile c i p kind fileId observed).ended = .ok n) :
    (iterJsonlFileLines c i p kind fileId observed).ended = .ok n ∧ (iterJsonlFile c i p kind fileId observed).yields =
      (iterJsonlFileLines c i p kind fileId observed).yields.filterMap (·.1.record) := by
  obtain ⟨r,through,last,yielded⟩ := Generator.bindDone done
  cases last
  obtain ⟨lines,loop⟩ := Generator.throughOk through
  refine ⟨lines,?_⟩
  have each := Generator.eachYields (fun line => line.1.record.toList) (fun _ line _ _ => by
    cases line.1.record <;> rfl) loop
  rw [iterJsonlFile,yielded,Generator.throughYields,each]
  change _ ++ [] = _
  rw [List.append_nil,List.filterMap_eq_flatMap_toList]

theorem fileYields {batchId : PyStr} {count next : StreamCount} {fileId : Json}
    (done : (fileRecords c i p batchId count (kind,fileId)).ended = .ok next) : ∃ records,
      (fileRecords c i p batchId count (kind,fileId)).yields = records.map (BatchResultRecord.mk batchId kind) ∧
      ∀ own, downloadExposed c i p own kind fileId = fileOutcome own kind (exposedBody p kind fileId) records := by
  by_cases hidden : fileId.truthy = false
  · refine ⟨[],?_,fun own => ?_⟩
    · rw [fileRecords,if_pos hidden]
      rfl
    · rw [downloadExposed,exposedBody,hidden]
      rfl
  · rw [fileRecords,if_neg hidden] at done
    obtain ⟨r,through,last,yielded⟩ := Generator.bindDone done
    obtain ⟨records,loop⟩ := Generator.throughOk through
    obtain ⟨lines,read⟩ := recordLines records
    have each := Generator.eachYields (fun record => [BatchResultRecord.mk batchId kind record]) (fun _ _ _ step => by
      obtain ⟨_,_,_,own⟩ := Generator.bindDone step
      exact own) loop
    refine ⟨(iterJsonlFileLines c i p kind fileId count.observed).yields.filterMap (·.1.record),?_,fun own => ?_⟩
    · rw [fileRecords,if_neg hidden,yielded,Generator.throughYields,each,read]
      change _ ++ [] = _
      rw [List.append_nil,List.map_eq_flatMap]
    · obtain ⟨validated,response,bytes,valid,answered,whole,downloaded⟩ := fileDownloaded own lines
      have exposed : fileId.truthy = true := by simpa using hidden
      have body : exposedBody p kind fileId = bytes := by
        rw [exposedBody,if_pos exposed,valid]
        change (match p.download kind validated with
          | .ok response => response.body
          | .error _ => []) = bytes
        rw [answered]
        exact wholeBodyIs whole
      rw [downloadExposed,if_pos exposed,body]
      exact downloaded

theorem kindsApart (batchId : PyStr) (responses errors : List JsonRecord) :
    kindRecords .result (responses.map (BatchResultRecord.mk batchId .result) ++ errors.map (BatchResultRecord.mk batchId .error)) = responses ∧
      kindRecords .error (responses.map (BatchResultRecord.mk batchId .result) ++ errors.map (BatchResultRecord.mk batchId .error)) = errors := by
  constructor <;> simp [kindRecords,List.filter_map,Function.comp_def]

theorem outcomesJoined (batchId : PyStr) (status : RetrievalStatus) (responses errors : List JsonRecord) : (do
      let responses ← fileOutcome batchId .result (exposedBody p .result status.outputFileId) responses
      let errors ← fileOutcome batchId .error (exposedBody p .error status.errorFileId) errors
      return RetrievedResults.downloaded (downloadedResults batchId status responses errors)) =
    retrievedOutcome batchId status (firstStray p status)
      (responses.map (BatchResultRecord.mk batchId .result) ++ errors.map (BatchResultRecord.mk batchId .error)) := by
  obtain ⟨first,second⟩ := kindsApart batchId responses errors
  unfold retrievedOutcome firstStray fileOutcome
  rw [first,second]
  cases strayReturn (exposedBody p .result status.outputFileId) with
  | some n => rfl
  | none =>
    cases strayReturn (exposedBody p .error status.errorFileId) with
    | some n => rfl
    | none => rfl

end

theorem retrievalPathsAgree (c : StreamLimits) (i : Interpreter) (p : Provider) (batchId : PyStr)
    (streamed : (iterBatchRecords c i p batchId).ended = .ok ()) : ∃ status, p.getBatchStatus = .ok status ∧
      downloadResults c i p batchId =
        retrievedOutcome batchId status (firstStray p status) (iterBatchRecords c i p batchId).yields ∧
      (iterBatchRecords c i p batchId).yields =
        (kindRecords .result (iterBatchRecords c i p batchId).yields).map (BatchResultRecord.mk batchId .result) ++
          (kindRecords .error (iterBatchRecords c i p batchId).yields).map (BatchResultRecord.mk batchId .error) := by
  obtain ⟨⟨validated,files⟩,valid,loop,yielded⟩ := Generator.bindDone streamed
  obtain ⟨own,known,valid⟩ := Fallible.bindOk.mp valid
  obtain ⟨status,answered,valid⟩ := Fallible.bindOk.mp valid
  have same : own = batchId := Json.str.inj (validIdentifier known).1.symm
  by_cases running : status.isComplete = false
  · rw [if_pos running] at valid
    cases valid
  rw [if_neg running] at valid
  by_cases hidden : ([(FileKind.result,status.outputFileId),(FileKind.error,status.errorFileId)].any (fun file => file.2.truthy)) = false
  · simp only [if_pos hidden] at valid
    cases valid
  simp only [if_neg hidden] at valid
  cases valid
  subst same
  obtain ⟨_,files,-,last⟩ := Generator.bindDone loop
  obtain ⟨count,first,rest,both⟩ := Generator.bindDone files
  obtain ⟨final,second,-,ends⟩ := Generator.bindDone rest
  obtain ⟨responses,yields,results⟩ := fileYields first
  obtain ⟨errors,yields',failures⟩ := fileYields second
  have whole : (iterBatchRecords c i p validated).yields =
      responses.map (BatchResultRecord.mk validated .result) ++ errors.map (BatchResultRecord.mk validated .error) := by
    refine yielded.trans ?_
    rw [last]
    change (Generator.forEach _ _ _).yields ++ [] = _
    rw [List.append_nil,Generator.forEach,both,yields,Generator.forEach,ends,yields']
    change _ ++ (_ ++ []) = _
    rw [List.append_nil]
  have exposed : ¬(status.outputFileId.truthy = false ∧ status.errorFileId.truthy = false) := by
    rintro ⟨none_,nothing⟩
    exact hidden (by simp [none_,nothing])
  refine ⟨status,answered,?_,?_⟩
  · rw [whole,← outcomesJoined,downloadResults,answered]
    change (if status.isComplete = false then _ else _) = _
    rw [if_neg running,if_neg exposed,results,failures]
  · obtain ⟨apart,apart'⟩ := kindsApart validated responses errors
    rw [whole,apart,apart']

def strayLine : Bytes := [0x7B,0x7D,lineFeed,carriageReturn,lineFeed,0x7B,0x7D]
def strayProvider : Provider := resultFileProvider [.bytes strayLine]
def strayRecords : Generator BatchResultRecord PyError Unit :=
  iterBatchRecords tenByteLimits streamInterpreter strayProvider (py "batch-1")

theorem strayRetrieved : strayRecords.yields.length = 2 ∧ strayReturn strayLine = some 2 ∧
    ∃ status, strayProvider.getBatchStatus = .ok status ∧
      downloadResults tenByteLimits streamInterpreter strayProvider (py "batch-1") =
        retrievedOutcome (py "batch-1") status (firstStray strayProvider status) strayRecords.yields ∧
      strayRecords.yields = (kindRecords .result strayRecords.yields).map (BatchResultRecord.mk (py "batch-1") .result) ++
        (kindRecords .error strayRecords.yields).map (BatchResultRecord.mk (py "batch-1") .error) := by
  have ends : strayRecords.ended.isOk = true := by decide +kernel
  have streamed : strayRecords.ended = .ok () := by
    cases ended : strayRecords.ended with
    | ok done => rfl
    | error e =>
      rw [ended] at ends
      cases ends
  exact ⟨by decide +kernel,by decide,retrievalPathsAgree _ _ _ _ streamed⟩

end PgLlmBatch
