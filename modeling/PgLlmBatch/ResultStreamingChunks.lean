import PgLlmBatch.ResultStreaming

/-! How a body is split into chunks does not matter to the streamed lines, records and checkpoints:
whole chunks are read as the lines that the body is cut into, except that a body over the byte
limit fails at the chunk that passes it. -/
namespace PgLlmBatch
open Base

theorem cutLinesAppend (a b : Bytes) : cutLines (a ++ b) =
    ((cutLines a).1 ++ (cutLines ((cutLines a).2 ++ b)).1,(cutLines ((cutLines a).2 ++ b)).2) := by
  induction a with
  | nil => rfl
  | cons x a ih =>
    rw [List.cons_append,cutLines,cutLines]
    split
    · rw [ih]
      rfl
    · rw [ih]
      obtain ⟨lines,pending⟩ := cutLines a
      rename_i other
      cases lines with
      | nil =>
        simp only [List.nil_append,List.cons_append]
        rw [cutLines,if_neg other]
      | cons line lines => rfl

theorem pendingClean (bs : Bytes) : lineFeed ∉ (cutLines bs).2 := by
  induction bs with
  | nil => exact List.not_mem_nil
  | cons b bs ih =>
    rw [cutLines]
    split
    · exact ih
    · rename_i other
      cases cut : cutLines bs with
      | mk lines pending =>
        rw [cut] at ih
        cases lines with
        | nil => exact fun here => (List.mem_cons.mp here).elim (fun same => other same.symm) ih
        | cons line lines => exact ih

theorem cleanAppend {pending : Bytes} (clean : lineFeed ∉ pending) (bs : Bytes) : cutLines (pending ++ bs) =
    match cutLines bs with
    | ([],rest) => ([],pending ++ rest)
    | (line::lines,rest) => ((pending ++ line)::lines,rest) := by
  induction pending with
  | nil =>
    rw [List.nil_append]
    rcases cutLines bs with ⟨_ | ⟨line,lines⟩,rest⟩ <;> rfl
  | cons x pending ih =>
    rw [List.mem_cons,not_or] at clean
    rw [List.cons_append,cutLines,if_neg (fun same => clean.1 same.symm),ih clean.2]
    rcases cutLines bs with ⟨_ | ⟨line,lines⟩,rest⟩ <;> rfl

theorem splitLines (bs : Bytes) : bs.splitOn lineFeed = (cutLines bs).1 ++ [(cutLines bs).2] := by
  induction bs with
  | nil => rfl
  | cons b bs ih =>
    rw [List.splitOn_cons_eq_if_modifyHead,cutLines,ih]
    by_cases same : b = lineFeed
    · rw [if_pos (beq_iff_eq.mpr same),if_pos same]
      rfl
    · rw [if_neg (fun h => same (beq_iff_eq.mp h)),if_neg same]
      obtain ⟨lines,rest⟩ := cutLines bs
      cases lines <;> rfl

def physicalLines (bytes : Bytes) : List (Bytes × Bool) :=
  let segments := bytes.splitOn lineFeed
  segments.dropLast.map (·,true) ++ (segments.getLast?.filter (fun last => !last.isEmpty)).toList.map (·,false)

theorem physicalCut (bytes : Bytes) : physicalLines bytes =
    (cutLines bytes).1.map (·,true) ++ if (cutLines bytes).2.isEmpty then [] else [((cutLines bytes).2,false)] := by
  unfold physicalLines
  rw [splitLines]
  cases (cutLines bytes).2 with
  | nil => simp
  | cons b rest => simp

inductive SplitInto : Bytes → List BodyChunk → Prop where
  | nil : SplitInto [] []
  | cons {bs rest : Bytes} {chunks : List BodyChunk} (some_ : bs ≠ []) (fits : bs.length ≤ downloadChunkBytes)
      (later : SplitInto rest chunks) : SplitInto (bs ++ rest) (.bytes bs :: chunks)

theorem splitWhole {bs : Bytes} (some_ : bs ≠ []) (fits : bs.length ≤ downloadChunkBytes) : SplitInto bs [.bytes bs] := by
  have split_ := SplitInto.cons some_ fits .nil
  rwa [List.append_nil] at split_

section
variable (c : StreamLimits) (i : Interpreter) (kind : FileKind)

abbrev LineGenerator (α : Type) := Generator (PhysicalJsonlLine × Nat) PyError α

def finishLines (count : LineCount) (pending : Bytes) : LineGenerator Nat :=
  if pending.isEmpty then pure count.observed
  else do
    let count ← yieldLine c i kind false count pending
    return count.observed

def remainingLines (count : LineCount) (pending bytes : Bytes) : LineGenerator Nat := do
  let (lines,pending) := cutLines (pending ++ bytes)
  let count ← Generator.forEach (yieldLine c i kind true) count lines
  finishLines c i kind count pending

def readChunks (response : FileResponse) (b : LineBuffer) (chunks : List BodyChunk) : LineGenerator Nat := do
  let b ← Generator.forEach (takeChunk c i kind response) b chunks
  finishLines c i kind b.count b.pending

structure KeepsTo {α : Type} (fits : Bool) (g r : LineGenerator α) : Prop where
  less : g.yields <+: r.yields
  ends : g.ended.isOk = (r.ended.isOk && fits)
  same : g.ended.isOk = true → g = r

variable {c i kind}

theorem followsBind {α β : Type} {fits : Bool} {g : LineGenerator α} {f k : α → LineGenerator β}
    (rest : ∀ a, KeepsTo fits (f a) (k a)) : KeepsTo fits (g >>= f) (g >>= k) := by
  cases ended : g.ended with
  | error e =>
    rw [Generator.bindError f ended,Generator.bindError k ended]
    exact ⟨List.prefix_rfl,rfl,fun _ => rfl⟩
  | ok a =>
    rw [Generator.bindOk f ended,Generator.bindOk k ended]
    exact ⟨(List.prefix_append_right_inj _).mpr (rest a).less,(rest a).ends,fun ok => by rw [(rest a).same ok]⟩

theorem followsThrown {α : Type} {fits : Bool} {r : LineGenerator α} (e : PyError)
    (fails : (r.ended.isOk && fits) = false) : KeepsTo fits (throw e) r :=
  ⟨List.nil_prefix,fails.symm,fun ok => nomatch ok⟩

theorem longLineFails {line : Bytes} (long : c.maxJsonlLineBytes < line.length) (terminated : Bool) (count : LineCount) :
    (yieldLine c i kind terminated count line).ended.isOk = false := by
  unfold yieldLine observeLine
  split
  · rfl
  · unfold parseJsonlLine
    simp only [if_pos long]
    rfl

theorem bindFails {α β : Type} {g : LineGenerator α} (f : α → LineGenerator β) (fails : g.ended.isOk = false) :
    (g >>= f).ended.isOk = false := by
  cases ended : g.ended with
  | error e =>
    rw [Generator.bindError f ended]
    rfl
  | ok a =>
    rw [ended] at fails
    cases fails

theorem longRemainderFails {pending : Bytes} (long : c.maxJsonlLineBytes < pending.length) (clean : lineFeed ∉ pending)
    (count : LineCount) (bytes : Bytes) : (remainingLines c i kind count pending bytes).ended.isOk = false := by
  unfold remainingLines
  rw [cleanAppend clean]
  rcases cutLines bytes with ⟨_ | ⟨line,lines⟩,rest⟩
  · have longer : c.maxJsonlLineBytes < (pending ++ rest).length := by
      rw [List.length_append]
      omega
    have nonempty : (pending ++ rest).isEmpty = false := by
      cases joined : pending ++ rest with
      | nil =>
        rw [joined] at longer
        exact absurd longer (Nat.not_lt_zero _)
      | cons b bs => rfl
    change (finishLines c i kind count (pending ++ rest)).ended.isOk = false
    rw [finishLines,nonempty]
    exact bindFails _ (longLineFails longer false count)
  · have longer : c.maxJsonlLineBytes < (pending ++ line).length := by
      rw [List.length_append]
      omega
    exact bindFails _ (bindFails _ (longLineFails longer true count))

theorem chunkTaken {response : FileResponse} {b : LineBuffer} {bs : Bytes} (some_ : bs ≠ [])
    (fits : bs.length ≤ downloadChunkBytes) (within : b.bytesRead + bs.length ≤ c.maxDownloadBytes) :
    takeChunk c i kind response b (.bytes bs) = (do
      let (lines,pending) := cutLines (b.pending ++ bs)
      let count ← Generator.forEach (yieldLine c i kind true) b.count lines
      if c.maxJsonlLineBytes < pending.length then
        throw (lineLimitError c kind (count.lineNumber + 1) pending.length)
      return ⟨pending,b.bytesRead + bs.length,count⟩) := by
  have counted : bs.length ≠ 0 := fun none_ => some_ (List.length_eq_zero_iff.mp none_)
  unfold takeChunk
  simp only [if_neg counted,if_neg (Nat.not_lt.mpr fits),if_neg (Nat.not_lt.mpr within)]

theorem chunkRefused {response : FileResponse} {b : LineBuffer} {bs : Bytes}
    (beyond : c.maxDownloadBytes < b.bytesRead + bs.length) :
    ∃ e, takeChunk c i kind response b (.bytes bs) = throw e := by
  unfold takeChunk
  by_cases empty : bs.length = 0
  · exact ⟨_,if_pos empty⟩
  by_cases large : downloadChunkBytes < bs.length
  · exact ⟨_,by simp only [if_neg empty,if_pos large]; rfl⟩
  · exact ⟨_,by simp only [if_neg empty,if_neg large,if_pos beyond]; rfl⟩

-- The induction is on the chunks; what is pending has no newline.
theorem chunksFollow {response : FileResponse} {bytes : Bytes} {chunks : List BodyChunk} (split_ : SplitInto bytes chunks)
    (b : LineBuffer) (clean : lineFeed ∉ b.pending) (read : b.bytesRead ≤ c.maxDownloadBytes) :
    KeepsTo (decide (b.bytesRead + bytes.length ≤ c.maxDownloadBytes)) (readChunks c i kind response b chunks)
      (remainingLines c i kind b.count b.pending bytes) := by
  induction split_ generalizing b with
  | nil =>
    have settled : remainingLines c i kind b.count b.pending [] = finishLines c i kind b.count b.pending := by
      rw [remainingLines,cleanAppend clean]
      exact congrArg (finishLines c i kind b.count) (List.append_nil _)
    rw [settled,List.length_nil,Nat.add_zero,decide_eq_true read]
    exact ⟨List.prefix_rfl,(Bool.and_true _).symm,fun _ => rfl⟩
  | @cons bs rest chunks some_ fits later ih =>
    by_cases within : b.bytesRead + bs.length ≤ c.maxDownloadBytes
    · have cut := cutLinesAppend (b.pending ++ bs) rest
      rw [List.append_assoc] at cut
      have whole : remainingLines c i kind b.count b.pending (bs ++ rest) =
          Generator.forEach (yieldLine c i kind true) b.count (cutLines (b.pending ++ bs)).1 >>= fun count =>
            remainingLines c i kind count (cutLines (b.pending ++ bs)).2 rest := by
        rw [remainingLines,cut]
        simp only [Generator.forEachAppend,Generator.bindAssoc]
        rfl
      have first : readChunks c i kind response b (.bytes bs :: chunks) =
          Generator.forEach (yieldLine c i kind true) b.count (cutLines (b.pending ++ bs)).1 >>= fun count =>
            if c.maxJsonlLineBytes < (cutLines (b.pending ++ bs)).2.length then
              throw (lineLimitError c kind (count.lineNumber + 1) (cutLines (b.pending ++ bs)).2.length)
            else readChunks c i kind response ⟨(cutLines (b.pending ++ bs)).2,b.bytesRead + bs.length,count⟩ chunks := by
        rw [readChunks,Generator.forEach,chunkTaken some_ fits within]
        simp only [Generator.bindAssoc]
        refine congrArg (_ >>= ·) (funext fun count => ?_)
        split
        · rfl
        · rfl
      rw [whole,first,List.length_append,← Nat.add_assoc]
      refine followsBind (fun count => ?_)
      have clean := pendingClean (b.pending ++ bs)
      split
      · rename_i long
        exact followsThrown _ (by rw [longRemainderFails long clean,Bool.false_and])
      · exact ih ⟨_,_,count⟩ clean within
    · obtain ⟨e,refused⟩ := @chunkRefused c i kind response b bs (by omega)
      have thrown : readChunks c i kind response b (.bytes bs :: chunks) = throw e := by
        rw [readChunks,Generator.forEach,refused]
        rfl
      rw [thrown]
      refine followsThrown e ?_
      rw [List.length_append,decide_eq_false (by omega),Bool.and_false]

def lineEntry (c : StreamLimits) (i : Interpreter) (kind : FileKind) (observed n : Nat) (segment : Bytes × Bool) :
    Nat × Bytes × Bool × Except PyError (Option (List (PyStr × Json))) × Nat :=
  (n + 1,segment.1,segment.2,parseJsonlLine c i kind (n + 1) segment.1,observed + n + 1)

def entryOf (line : PhysicalJsonlLine × Nat) : Nat × Bytes × Bool × Except PyError (Option (List (PyStr × Json))) × Nat :=
  (line.1.fileLineNumber,line.1.rawLine,line.1.newlineTerminated,.ok line.1.record,line.2)

theorem lineYielded {terminated : Bool} {count next : LineCount} {line : Bytes}
    (h : (yieldLine c i kind terminated count line).ended = .ok next) : next = ⟨count.lineNumber + 1,count.observed + 1⟩ ∧
      (yieldLine c i kind terminated count line).yields.map entryOf =
        [(count.lineNumber + 1,line,terminated,parseJsonlLine c i kind (count.lineNumber + 1) line,count.observed + 1)] := by
  unfold yieldLine at h ⊢
  dsimp only at h ⊢
  cases observed : observeLine c kind (count.lineNumber + 1) count.observed with
  | error e =>
    rw [observed] at h
    cases h
  | ok n =>
    rw [observed] at h
    cases parsed : parseJsonlLine c i kind (count.lineNumber + 1) line with
    | error e =>
      rw [parsed] at h
      cases h
    | ok record =>
      rw [parsed] at h
      cases h
      unfold observeLine at observed
      split at observed
      · cases observed
      · cases observed
        exact ⟨rfl,rfl⟩

theorem linesYielded {lines : List Bytes} {count next : LineCount}
    (h : (Generator.forEach (yieldLine c i kind true) count lines).ended = .ok next) :
    next = ⟨count.lineNumber + lines.length,count.observed + lines.length⟩ ∧
      (Generator.forEach (yieldLine c i kind true) count lines).yields.map entryOf =
        lines.mapIdx (fun n line => (count.lineNumber + n + 1,line,true,
          parseJsonlLine c i kind (count.lineNumber + n + 1) line,count.observed + n + 1)) := by
  induction lines generalizing count with
  | nil =>
    cases h
    exact ⟨rfl,rfl⟩
  | cons line lines ih =>
    rw [Generator.forEach] at h ⊢
    cases ended : (yieldLine c i kind true count line).ended with
    | error e =>
      rw [Generator.bindError _ ended] at h
      cases h
    | ok after =>
      rw [Generator.bindOk _ ended] at h ⊢
      obtain ⟨rfl,first⟩ := lineYielded ended
      obtain ⟨rfl,rest⟩ := ih h
      have later (m n : Nat) : m + 1 + n = m + (n + 1) := by omega
      simp only [later,List.length_cons,List.map_append,first,rest,List.mapIdx_cons]
      exact ⟨trivial,rfl⟩

theorem entriesYielded {bytes : Bytes} {observed n : Nat}
    (h : (remainingLines c i kind ⟨0,observed⟩ [] bytes).ended = .ok n) :
    n = observed + (physicalLines bytes).length ∧
      (remainingLines c i kind ⟨0,observed⟩ [] bytes).yields.map entryOf =
        (physicalLines bytes).mapIdx (lineEntry c i kind observed) := by
  rw [physicalCut]
  unfold remainingLines at h ⊢
  rw [List.nil_append] at h ⊢
  dsimp only at h ⊢
  cases ended : (Generator.forEach (yieldLine c i kind true) ⟨0,observed⟩ (cutLines bytes).1).ended with
  | error e =>
    rw [Generator.bindError _ ended] at h
    cases h
  | ok count =>
    rw [Generator.bindOk _ ended] at h ⊢
    obtain ⟨rfl,lines⟩ := linesYielded ended
    have terminated : (Generator.forEach (yieldLine c i kind true) ⟨0,observed⟩ (cutLines bytes).1).yields.map entryOf =
        ((cutLines bytes).1.map (·,true)).mapIdx (lineEntry c i kind observed) := by
      rw [lines,eq_comm,List.mapIdx_eq_iff]
      intro n
      simp only [lineEntry,Nat.zero_add,List.getElem?_mapIdx,List.getElem?_map,Option.map_map,Function.comp_def]
    unfold finishLines at h ⊢
    by_cases empty : (cutLines bytes).2.isEmpty = true
    · rw [if_pos empty] at h ⊢
      cases h
      rw [if_pos empty,List.append_nil,List.length_map]
      exact ⟨rfl,by rw [List.map_append,terminated]; exact List.append_nil _⟩
    · rw [if_neg empty] at h ⊢
      cases last : (yieldLine c i kind false ⟨0 + (cutLines bytes).1.length,observed + (cutLines bytes).1.length⟩
          (cutLines bytes).2).ended with
      | error e =>
        rw [Generator.bindError _ last] at h
        cases h
      | ok count =>
        rw [Generator.bindOk _ last] at h ⊢
        obtain ⟨rfl,final⟩ := lineYielded last
        cases h
        rw [if_neg empty,List.length_append,List.length_map,List.length_singleton,List.mapIdx_append,List.length_map]
        refine ⟨rfl,?_⟩
        have nothing : (pure (observed + (cutLines bytes).1.length + 1) : LineGenerator Nat).yields = [] := rfl
        rw [List.map_append,terminated,List.map_append,final]
        simp [lineEntry,nothing]

structure FileResponse.Rechunked (r s : FileResponse) : Prop where
  status : r.status = s.status
  declared : r.contentLength = s.contentLength
  body : ∃ bytes chunks chunks', r.iterChunked = some (chunks,.ok ()) ∧ s.iterChunked = some (chunks',.ok ()) ∧
    SplitInto bytes chunks ∧ SplitInto bytes chunks'

def refusedResponse (c : StreamLimits) (response : FileResponse) : Bool :=
  decide (response.status ≠ 200) || (response.declaredBytes.map (decide <| c.maxDownloadBytes < ·)).getD false

theorem readRefused {response : FileResponse} (refused : refusedResponse c response = true) (observed : Nat) :
    ∃ e, readJsonlLines c i kind response observed = throw e := by
  unfold readJsonlLines
  by_cases failed : response.status ≠ 200
  · exact ⟨_,by rw [if_pos failed]; rfl⟩
  · rw [if_neg failed]
    have declared : (response.declaredBytes.map (decide <| c.maxDownloadBytes < ·)).getD false = true := by
      rw [refusedResponse,decide_eq_false failed,Bool.false_or] at refused
      exact refused
    exact ⟨_,by simp only [if_pos declared]; rfl⟩

theorem readAccepted {response : FileResponse} (accepted : refusedResponse c response = false) {chunks : List BodyChunk}
    (stream : response.iterChunked = some (chunks,.ok ())) (observed : Nat) :
    readJsonlLines c i kind response observed = readChunks c i kind response ⟨[],0,⟨0,observed⟩⟩ chunks := by
  rw [refusedResponse,Bool.or_eq_false_iff,decide_eq_false_iff_not] at accepted
  unfold readJsonlLines
  rw [if_neg accepted.1]
  simp only [accepted.2,stream]
  rfl

theorem readFollows {response : FileResponse} (accepted : refusedResponse c response = false) {chunks : List BodyChunk}
    {bytes : Bytes} (stream : response.iterChunked = some (chunks,.ok ())) (split_ : SplitInto bytes chunks)
    (observed : Nat) : KeepsTo (decide (bytes.length ≤ c.maxDownloadBytes)) (readJsonlLines c i kind response observed)
      (remainingLines c i kind ⟨0,observed⟩ [] bytes) := by
  rw [readAccepted accepted stream]
  have follows := @chunksFollow c i kind response bytes chunks split_ ⟨[],0,⟨0,observed⟩⟩ List.not_mem_nil (Nat.zero_le _)
  simpa only [Nat.zero_add] using follows

theorem followsAgree {α : Type} {fits : Bool} {g h r : LineGenerator α} (first : KeepsTo fits g r) (second : KeepsTo fits h r) :
    Generator.Agree g h where
  ends := first.ends.trans second.ends.symm
  same ok := (first.same ok).trans (second.same (by rw [second.ends,← first.ends,ok])).symm
  comparable := List.prefix_or_prefix_of_prefix first.less second.less

theorem linesAgree {r s : FileResponse} (rechunked : r.Rechunked s) (observed : Nat) :
    Generator.Agree (readJsonlLines c i kind r observed) (readJsonlLines c i kind s observed) := by
  obtain ⟨bytes,chunks,chunks',left,right,split_,split'⟩ := rechunked.body
  have declared : r.declaredBytes = s.declaredBytes := by
    unfold FileResponse.declaredBytes
    rw [rechunked.declared]
  have refused : refusedResponse c r = refusedResponse c s := by
    unfold refusedResponse
    rw [rechunked.status,declared]
  cases decision : refusedResponse c r with
  | true =>
    obtain ⟨e,first⟩ := @readRefused c i kind r decision observed
    obtain ⟨e',second⟩ := @readRefused c i kind s (refused.symm.trans decision) observed
    rw [first,second]
    exact Generator.agreeFailed rfl rfl (.inl List.prefix_rfl)
  | false =>
    have first := @readFollows c i kind r decision chunks bytes left split_ observed
    have second := @readFollows c i kind s (refused.symm.trans decision) chunks' bytes right split' observed
    exact followsAgree first second

structure Provider.Rechunked (p q : Provider) : Prop where
  status : p.getBatchStatus = q.getBatchStatus
  bodies (kind : FileKind) (fileId : PyStr) : p.download kind fileId = q.download kind fileId ∨
    ∃ r s, p.download kind fileId = .ok r ∧ q.download kind fileId = .ok s ∧ r.Rechunked s

variable {p q : Provider} (rechunked : p.Rechunked q)
include rechunked

theorem fileLinesAgree (kind : FileKind) (fileId : Json) (observed : Nat) :
    Generator.Agree (iterJsonlFileLines c i p kind fileId observed) (iterJsonlFileLines c i q kind fileId observed) := by
  unfold iterJsonlFileLines
  refine Generator.agreeBind (Generator.agreeSelf _) (fun validated => ?_)
  rcases rechunked.bodies kind validated with same | ⟨r,s,first,second,split_⟩
  · rw [same]
    exact Generator.agreeSelf _
  · rw [first,second]
    exact linesAgree split_ observed

theorem fileAgrees (kind : FileKind) (fileId : Json) (observed : Nat) :
    Generator.Agree (iterJsonlFile c i p kind fileId observed) (iterJsonlFile c i q kind fileId observed) :=
  Generator.agreeBind (Generator.agreeThrough (fileLinesAgree rechunked kind fileId observed) _ _)
    (fun _ => Generator.agreeSelf _)

theorem fileRecordsAgree (batchId : PyStr) (count : StreamCount) (file : FileKind × Json) :
    Generator.Agree (fileRecords c i p batchId count file) (fileRecords c i q batchId count file) := by
  unfold fileRecords
  split
  · exact Generator.agreeSelf _
  · exact Generator.agreeBind (Generator.agreeThrough (fileAgrees rechunked file.1 file.2 count.observed) _ _)
      (fun _ => Generator.agreeSelf _)

theorem filesAgree (batchId : PyStr) : validatedStreamFiles p batchId = validatedStreamFiles q batchId := by
  unfold validatedStreamFiles
  rw [rechunked.status]

theorem recordsAgree (batchId : PyStr) : Generator.Agree (iterBatchRecords c i p batchId) (iterBatchRecords c i q batchId) := by
  unfold iterBatchRecords
  rw [filesAgree rechunked batchId]
  refine Generator.agreeBind (Generator.agreeSelf _) (fun files => ?_)
  refine Generator.agreeBind (Generator.agreeForEach (fun count file => ?_) _ _) (fun _ => Generator.agreeSelf _)
  exact fileRecordsAgree rechunked files.1 count file

theorem checkpointedFileAgrees (batchId endpointAlias : PyStr) (scan : Nat × ResumeScan) (file : FileKind × Json) :
    Generator.Agree (checkpointedFile c i p batchId endpointAlias scan file)
      (checkpointedFile c i q batchId endpointAlias scan file) := by
  unfold checkpointedFile
  split
  · exact Generator.agreeSelf _
  · refine Generator.agreeBind (Generator.agreeSelf _) (fun fileId => ?_)
    refine Generator.agreeBind (Generator.agreeSelf _) (fun hashed => ?_)
    exact Generator.agreeThrough (fileLinesAgree rechunked file.1 (.str fileId) scan.1) _ _

theorem startsAgree (batchId endpointAlias : PyStr) (resumeAfter : Option BatchResultCheckpoint) :
    streamStart p batchId endpointAlias resumeAfter = streamStart q batchId endpointAlias resumeAfter := by
  unfold streamStart
  simp only [filesAgree rechunked]

theorem checkpointsAgree (batchId endpointAlias : PyStr) (resumeAfter : Option BatchResultCheckpoint) :
    Generator.Agree (iterCheckpointedBatchRecords c i p batchId endpointAlias resumeAfter)
      (iterCheckpointedBatchRecords c i q batchId endpointAlias resumeAfter) := by
  rw [checkpointedStarts,checkpointedStarts,startsAgree rechunked]
  refine Generator.agreeBind (Generator.agreeSelf _) (fun start => ?_)
  refine Generator.agreeBind (Generator.agreeForEach (fun scan file => ?_) _ _) (fun _ => Generator.agreeSelf _)
  exact checkpointedFileAgrees rechunked start.batchId start.endpointAlias scan file

omit rechunked

theorem wholeFileLines {kind : FileKind} {fileId : Json} {validated : PyStr} {response : FileResponse}
    {chunks : List BodyChunk} {bytes : Bytes} {observed n : Nat}
    (valid : validateRemoteResourceId fileId (kind.name ++ "_file_id") = .ok validated)
    (answered : p.download kind validated = .ok response) (stream : response.iterChunked = some (chunks,.ok ()))
    (split_ : SplitInto bytes chunks) (completes : (iterJsonlFileLines c i p kind fileId observed).ended = .ok n) :
    n = observed + (physicalLines bytes).length ∧
      (iterJsonlFileLines c i p kind fileId observed).yields.map entryOf =
        (physicalLines bytes).mapIdx (lineEntry c i kind observed) := by
  have read : iterJsonlFileLines c i p kind fileId observed = readJsonlLines c i kind response observed := by
    rw [iterJsonlFileLines,valid]
    change (Generator.ofExcept (p.download kind validated) >>= fun response =>
      readJsonlLines c i kind response observed) = _
    rw [answered]
    rfl
  rw [read] at completes ⊢
  cases decision : refusedResponse c response with
  | true =>
    obtain ⟨e,thrown⟩ := @readRefused c i kind response decision observed
    rw [thrown] at completes
    cases completes
  | false =>
    have follows := @readFollows c i kind response decision chunks bytes stream split_ observed
    have same := follows.same (by rw [completes]; rfl)
    rw [same] at completes ⊢
    exact entriesYielded completes

end

theorem chunksImmaterial (c : StreamLimits) (i : Interpreter) (p q : Provider) (rechunked : p.Rechunked q) :
    (∀ kind fileId observed,
      Generator.Agree (iterJsonlFileLines c i p kind fileId observed) (iterJsonlFileLines c i q kind fileId observed)) ∧
    (∀ kind fileId observed validated response chunks bytes n,
      validateRemoteResourceId fileId (kind.name ++ "_file_id") = .ok validated →
      p.download kind validated = .ok response → response.iterChunked = some (chunks,.ok ()) → SplitInto bytes chunks →
      (iterJsonlFileLines c i p kind fileId observed).ended = .ok n →
      n = observed + (physicalLines bytes).length ∧
        (iterJsonlFileLines c i p kind fileId observed).yields.map entryOf =
          (physicalLines bytes).mapIdx (lineEntry c i kind observed)) ∧
    (∀ batchId, Generator.Agree (iterBatchRecords c i p batchId) (iterBatchRecords c i q batchId)) ∧
    ∀ batchId endpointAlias resumeAfter,
      Generator.Agree (iterCheckpointedBatchRecords c i p batchId endpointAlias resumeAfter)
        (iterCheckpointedBatchRecords c i q batchId endpointAlias resumeAfter) := by
  refine ⟨fileLinesAgree rechunked,?_,recordsAgree rechunked,checkpointsAgree rechunked⟩
  intro kind fileId observed validated response chunks bytes n valid answered stream split_ completes
  exact wholeFileLines valid answered stream split_ completes

def streamInterpreter : Interpreter := ⟨1000,some 4300,usualDepth⟩

def resultFileProvider (chunks : List BodyChunk) : Provider where
  getBatchStatus := .ok {
    status := py "completed"
    isComplete := true
    outputFileId := .str (py "file-1")
    errorFileId := .null }
  download _ _ := .ok ⟨200,.null,some (chunks,.ok ())⟩

def emptyObjectLine : Bytes := [0x7B,0x7D,lineFeed]

theorem twoLinesRechunked : (resultFileProvider [.bytes emptyObjectLine,.bytes emptyObjectLine]).Rechunked
    (resultFileProvider [.bytes (emptyObjectLine ++ emptyObjectLine)]) where
  status := rfl
  bodies _ _ := by
    have one : SplitInto emptyObjectLine [.bytes emptyObjectLine] := splitWhole (by decide) (by decide)
    have two : SplitInto (emptyObjectLine ++ emptyObjectLine) [.bytes emptyObjectLine,.bytes emptyObjectLine] :=
      .cons (by decide) (by decide) one
    have whole : SplitInto (emptyObjectLine ++ emptyObjectLine) [.bytes (emptyObjectLine ++ emptyObjectLine)] :=
      splitWhole (by decide) (by decide)
    exact .inr ⟨_,_,rfl,rfl,rfl,rfl,_,_,_,rfl,rfl,two,whole⟩

def fiveByteLimits : StreamLimits := ⟨5,5,5,5,by decide⟩
def tenByteLimits : StreamLimits := ⟨10,5,5,5,by decide⟩

theorem chunkingVisible :
    (resultFileProvider [.bytes emptyObjectLine,.bytes emptyObjectLine]).Rechunked
      (resultFileProvider [.bytes (emptyObjectLine ++ emptyObjectLine)]) ∧
    (iterBatchRecords fiveByteLimits streamInterpreter
      (resultFileProvider [.bytes emptyObjectLine,.bytes emptyObjectLine]) (py "batch-1")).yields.length = 1 ∧
    (iterBatchRecords fiveByteLimits streamInterpreter
      (resultFileProvider [.bytes (emptyObjectLine ++ emptyObjectLine)]) (py "batch-1")).yields.length = 0 :=
  ⟨twoLinesRechunked,by decide +kernel,by decide +kernel⟩

theorem chunkedStreamAgrees :
    (iterBatchRecords tenByteLimits streamInterpreter
      (resultFileProvider [.bytes emptyObjectLine,.bytes emptyObjectLine]) (py "batch-1")).ended.isOk = true ∧
    Generator.Agree
      (iterBatchRecords tenByteLimits streamInterpreter
        (resultFileProvider [.bytes emptyObjectLine,.bytes emptyObjectLine]) (py "batch-1"))
      (iterBatchRecords tenByteLimits streamInterpreter
        (resultFileProvider [.bytes (emptyObjectLine ++ emptyObjectLine)]) (py "batch-1")) :=
  ⟨by decide +kernel,(chunksImmaterial _ _ _ _ twoLinesRechunked).2.2.1 (py "batch-1")⟩

end PgLlmBatch
