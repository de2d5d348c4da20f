import PgLlmBatch.FirstWriteWins

/-! Payloads read back: what assembly made of the rows and persistence stored is what the
reader of the document, of its lines and of the line rows gets. -/
namespace PgLlmBatch.Preparation
open Base
open Base.Pool (Caller)
open Base.RelyGuarantee (answerAlone)
open Base.JsonText (loads strictHooks)

section
variable (i : Interpreter)

def rowEntries (lookup : Nat → PyStr → Option ModelMetadata) : Nat → List RequestRow → List Json
  | _, [] => []
  | n, r::rs => rowEntry (lookup n r.modelName.text) r::rowEntries lookup (n+1) rs

def storedLines (db : Tables) (fileId : PyStr) : List PyStr :=
  ((db.linesOf fileId).mergeSort (fun l m => l.sequenceNo ≤ m.sequenceNo)).map JsonlLine.lineText

-- Every reader of the stored file gets `text`, which splits into the lines of the payload.
structure ReadsBack (db : Tables) (f : BatchFile) (part : BatchPayloadPart) (text : PyStr) : Prop where
  stored : db.payload? f.payloadFileId =
    some ⟨f.payloadFileId,.obj [(py "text",.str text),(py "line_count",.int part.lines.length)]⟩
  accepted : normalizePayloadContent i (.obj [(py "text",.str text),(py "line_count",.int part.lines.length)]) = .ok text
  ended : text.getLast? = some newline
  split : text.dropLast.splitOn newline = part.lines
  joined : joinedLines (storedLines db f.payloadFileId) = text

def LineReads (line : PyStr) (entry : Json) : Prop := loads i strictHooks line = .ok entry

-- `persistPayloads` alone on the server, with the choices made for its statements.
def persistAlone (c : Caller Call) (payloads : List BatchPayloadPart) (batch : BatchSelector) (counter : TokenCounter)
    (sv : Server) (choices : List Choice) : Option (Except PyError Prepared × Server) :=
  ((persistPayloads payloads batch counter).alone (answerAlone engine c) (sv,⟨[]⟩,choices)).map
    (fun out => (out.1,out.2.1))

variable {i}

theorem linesRead {counter : TokenCounter} {lookup : Nat → PyStr → Option ModelMetadata} {rows : List RequestRow}
    {n : Nat} {es : List EncodedRow} (h : encodeRows i counter lookup n rows = .ok es) :
    List.Forall₂ (LineReads i) (es.map EncodedRow.line) (rowEntries lookup n rows) := by
  induction rows generalizing n es with
  | nil =>
    cases Except.ok.inj h
    exact .nil
  | cons r rs ih =>
    obtain ⟨e,first,rest⟩ := Fallible.bindOk.mp h
    obtain ⟨later,others,made⟩ := Fallible.bindOk.mp rest
    cases Except.ok.inj made
    exact .cons (lineParses i (encodedParts i counter first).line) (ih others)

theorem packedLines {counter : TokenCounter} {ps : List BatchPayloadPart} {gs : List (List EncodedRow)}
    (holds : List.Forall₂ (Holds counter) ps gs) :
    ps.flatMap (fun p => p.lines) = gs.flatten.map EncodedRow.line := by
  induction holds with
  | nil => rfl
  | cons first _ ih => rw [List.flatMap_cons,ih,first.lines,List.flatten_cons,List.map_append]

theorem packedFilled {counter : TokenCounter} {ps : List BatchPayloadPart} {gs : List (List EncodedRow)}
    (holds : List.Forall₂ (Holds counter) ps gs) : ∀ p ∈ ps, p.lines ≠ [] := by
  intro p member
  obtain ⟨g,-,held⟩ := partnerOf holds member
  rw [held.lines]
  exact fun none_ => held.filled (List.map_eq_nil_iff.mp none_)

theorem lineRowsTexts (fileId : PyStr) {ids lines : List PyStr} (same : ids.length = lines.length) :
    (lineRows fileId ids lines).map JsonlLine.lineText = lines := by
  have seconds := @List.map_snd_zip _ _ ids lines (Nat.le_of_eq same.symm)
  unfold lineRows
  rw [List.map_map]
  have texts : (JsonlLine.lineText ∘ fun p : (PyStr × PyStr) × Nat => (⟨fileId,p.1.1,p.2,p.1.2⟩ : JsonlLine)) =
      Prod.snd ∘ Prod.fst := rfl
  rw [texts,← List.map_map,List.zipIdx_map_fst,seconds]

theorem lineRowsSorted (fileId : PyStr) (ids lines : List PyStr) :
    (lineRows fileId ids lines).mergeSort (fun l m => l.sequenceNo ≤ m.sequenceNo) = lineRows fileId ids lines := by
  refine List.mergeSort_of_pairwise ?_
  have numbers : ((lineRows fileId ids lines).map JsonlLine.sequenceNo).Pairwise (· ≤ ·) := by
    unfold lineRows
    rw [List.map_map]
    have places : (JsonlLine.sequenceNo ∘ fun p : (PyStr × PyStr) × Nat => (⟨fileId,p.1.1,p.2,p.1.2⟩ : JsonlLine)) =
        Prod.snd := rfl
    rw [places,List.zipIdx_map_snd]
    exact List.pairwise_le_range'
  simpa using List.pairwise_map.mp numbers

theorem storedReadsBack {db : Tables} {f : BatchFile} {part : BatchPayloadPart} (h : Stores i db f part)
    (filled : part.lines ≠ []) : ReadsBack i db f part (payloadContent part.lines) := by
  have own := canonicalLines h.wellFormed
  refine ⟨h.payload,contentAccepted i own,?_,contentSplits filled (fun l here => (own l here).1),?_⟩
  · rw [contentEnds filled,List.getLast?_concat]
  · rw [storedLines,h.lines,lineRowsSorted,lineRowsTexts _ h.wellFormed.each.length_eq,joinedLines,contentLines]

theorem ownCommit {t seq : Nat} {sv out : Server} (made : Relation.ReflTransGen (Respects t seq) sv out)
    (begun : ∀ e ∈ sv.history, ¬(e.tx = t ∧ e.seq = seq)) {before : List Commit} {ws : List Write}
    (history : out.history = before ++ [⟨t,seq,ws⟩]) (first : ∀ e ∈ before, ¬(e.tx = t ∧ e.seq = seq)) :
    before = sv.history := by
  have grown : ∃ extra, out.history = sv.history ++ extra ∧ ∀ e ∈ extra, e.tx = t ∧ e.seq = seq := by
    clear history
    induction made with
    | refl => exact ⟨[],(List.append_nil _).symm,by simp⟩
    | tail _ step ih =>
      obtain ⟨early,grown,own⟩ := ih
      obtain ⟨late,more,ownLate⟩ := step.history
      refine ⟨early ++ late,by rw [more,grown,List.append_assoc],fun e here => ?_⟩
      rcases List.mem_append.mp here with old | new
      · exact own e old
      · exact ownLate e new
  obtain ⟨extra,grown,own⟩ := grown
  rw [history] at grown
  rcases List.append_eq_append_iff.mp grown with ⟨more,left,right⟩ | ⟨more,left,right⟩
  · cases more with
    | nil => rw [left,List.append_nil]
    | cons e more =>
      have here : (⟨t,seq,ws⟩ : Commit) ∈ sv.history := by
        rw [left]
        cases List.cons.inj right |>.1
        simp
      exact absurd ⟨rfl,rfl⟩ (begun _ here)
  · cases more with
    | nil => rw [left,List.append_nil]
    | cons e more =>
      have inside : e ∈ before := by
        rw [left]
        simp
      exact absurd (own e (by rw [right]; simp)) (first e inside)

/-- What assembly made of the rows and persistence stored reads back, as documents and line by line. -/
theorem payloadsReadBack {es : List (Pool.Event Call Choice)} {w : World} (ran : run i es = some w) {t : Nat}
    (active : (w.session t).status = .active) (idle : (w.session t).current = none)
    {counter : TokenCounter} {lookup : Nat → PyStr → Option ModelMetadata} {rows : List RequestRow}
    {payloads : List BatchPayloadPart} (assembled : assemblePayloads i counter lookup rows = .ok payloads)
    {batch : BatchSelector} (first : w.shared.tables.filesOf batch.value = []) {call : Call} {choices : List Choice}
    {answer : Prepared} {out : Server}
    (persisted : persistAlone ⟨t,(w.session t).outcomes.length,call⟩ payloads batch counter w.shared choices =
      some (.ok answer,out)) :
    List.Forall₂ (fun f part => ∃ text, ReadsBack i out.tables f part text) (out.tables.filesOf batch.value) payloads ∧
      List.Forall₂ (LineReads i) (payloads.flatMap (fun p => p.lines)) (rowEntries lookup 0 rows) := by
  have good := reachableGood ran
  obtain ⟨-,begun⟩ := (good.sessions t).idle active idle
  obtain ⟨es,encoded,packed⟩ := assembledPacked assembled
  obtain ⟨gs,joined,holds,-⟩ := packed.packs
  obtain ⟨wellFormed,indexes⟩ := assembledParts assembled
  constructor
  · obtain ⟨⟨r,last⟩,ended,same⟩ := Option.map_eq_some_iff.mp persisted
    cases same
    have safe := @persistPayloadsSafe i ⟨t,(w.session t).outcomes.length,call⟩ w.shared ⟨[]⟩ payloads batch counter
      begun rfl wellFormed indexes
    obtain ⟨⟨-,before,ws,history,others,-,stored⟩,-,made⟩ := RelyGuarantee.safeAlone safe good.shared ended
    have start := ownCommit made begun history others
    rw [start] at stored
    have files := stored first
    have filled := packedFilled holds
    refine (List.forall₂_iff_zip.mpr ⟨files.length_eq,fun here => ?_⟩)
    have pair := (List.forall₂_iff_zip.mp files).2 here
    exact ⟨_,storedReadsBack pair (filled _ (List.of_mem_zip here).2)⟩
  · rw [packedLines holds,joined]
    exact linesRead encoded

end

def readBackWorld : Option World := run smallInterpreter (exampleRun.take 4)

def readBackChoices : List Choice :=
  let plain := exampleChoice [] ""
  [plain,plain,plain,exampleChoice [] "u1",plain,exampleChoice [] "u2",plain,plain,plain,plain]

def readBackParts : Except PyError (List BatchPayloadPart) :=
  assemblePayloads smallInterpreter exampleCall.counter exampleCall.lookup [exampleRequest]

def readBackEnd (w : World) (payloads : List BatchPayloadPart) : Option (Except PyError Prepared × Server) :=
  persistAlone ⟨1,(w.session 1).outcomes.length,.prepare exampleCall⟩ payloads exampleCall.batch exampleCall.counter
    w.shared readBackChoices

def readBackFiles : Option (Bool × Nat) := do
  let w ← readBackWorld
  let payloads ← readBackParts.toOption
  let (r,out) ← readBackEnd w payloads
  let _ ← r.toOption
  return ((w.session 1).status = .active && (w.session 1).current.isNone && (w.shared.tables.filesOf 7).isEmpty,
    (out.tables.filesOf 7).length)

theorem oneReadsBack : ∃ w payloads answer out, readBackWorld = some w ∧ readBackParts = .ok payloads ∧
    readBackEnd w payloads = some (.ok answer,out) ∧ (out.tables.filesOf 7).length = 1 ∧
    List.Forall₂ (fun f part => ∃ text, ReadsBack smallInterpreter out.tables f part text) (out.tables.filesOf 7)
      payloads ∧
    List.Forall₂ (LineReads smallInterpreter) (payloads.flatMap (fun p => p.lines))
      (rowEntries exampleCall.lookup 0 [exampleRequest]) := by
  have ended : readBackFiles = some (true,1) := by decide +kernel
  simp only [readBackFiles,bind,Option.bind_eq_some_iff] at ended
  obtain ⟨w,ran,payloads,assembled,⟨r,out⟩,persisted,answer,done,last⟩ := ended
  cases r with
  | error e => cases done
  | ok answered =>
    have made : readBackParts = .ok payloads := by
      cases same : readBackParts with
      | error e => rw [same] at assembled; cases assembled
      | ok ps => rw [same] at assembled; cases assembled; rfl
    have facts := Prod.mk.inj (Option.some.inj last)
    simp only [Bool.and_eq_true,decide_eq_true_eq,Option.isNone_iff_eq_none,List.isEmpty_iff] at facts
    exact ⟨w,payloads,answered,out,ran,made,persisted,facts.2,
      payloadsReadBack ran facts.1.1.1 facts.1.1.2 made facts.1.2 persisted⟩

end PgLlmBatch.Preparation
