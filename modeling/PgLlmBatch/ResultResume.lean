import PgLlmBatch.Base.Traced
import PgLlmBatch.CheckpointFraming
import PgLlmBatch.ResultStreamingChunks

/-! Resuming a stream after one of its checkpoints: the items after it when nothing changed, and
nothing at all of a stream whose physical prefix is another one. -/
namespace PgLlmBatch
open Base

section
variable (c : StreamLimits) (i : Interpreter) (p : Provider)

abbrev EventedItems (α : Type) := Generator (StreamEvent ⊕ CheckpointedBatchResultRecord) PyError α

def eventedLine (batchId endpointAlias : PyStr) (kind : FileKind) (fileId : PyStr) (scan : PrefixScan)
    (line : PhysicalJsonlLine × Nat) : EventedItems PrefixScan := do
  Generator.note (.line line.1.fileLineNumber line.1.rawLine line.1.newlineTerminated)
  let (next,item) ← Generator.ofExcept (scanLine c batchId endpointAlias kind fileId scan line)
  match item with
  | none => return next
  | some item => do
      Generator.yield (.inr item)
      return next

def eventedFile (batchId endpointAlias : PyStr) (scan : Nat × PrefixScan) (file : FileKind × Json) :
    EventedItems (Nat × PrefixScan) :=
  if file.2.truthy = false then return scan
  else do
    let validatedFileId ← Generator.ofExcept (validateRemoteResourceId file.2 (file.1.name ++ "_file_id"))
    let hashed ← Generator.ofExcept (addCheckpointFile scan.2.hashed (py file.1.name) validatedFileId)
    Generator.note (.file (py file.1.name) validatedFileId)
    Generator.through (iterJsonlFileLines c i p file.1 (.str validatedFileId) scan.1)
      (eventedLine c batchId endpointAlias file.1 validatedFileId) {scan.2 with hashed := hashed}

def eventedFiles (start : StreamStart) : EventedItems (Nat × PrefixScan) :=
  Generator.forEach (eventedFile c i p start.batchId start.endpointAlias) (0,⟨start.hashed,0⟩) start.files

def prefixThrough (batchId endpointAlias : PyStr) (k : Nat) : Option (List StreamEvent) :=
  match streamStart p batchId endpointAlias none with
  | .ok start => Generator.notesThrough k (eventedFiles c i p start).yields
  | .error _ => none

-- What the hasher was fed when it was asked for the digest of some record.
def DigestedBytes (batchId endpointAlias : PyStr) (bytes : Bytes) : Prop :=
  ∃ k events, prefixThrough c i p batchId endpointAlias k = some events ∧
    transcriptBytes ⟨batchId,endpointAlias,events⟩ = .ok bytes

end

structure ScannedItem (batchId endpointAlias : PyStr) (kind : FileKind) (line : PhysicalJsonlLine × Nat) (next : PrefixScan)
    (item : CheckpointedBatchResultRecord) : Prop where
  kind : item.fileKind = py kind.name
  own : item.batchId = item.checkpoint.batchId ∧ item.fileKind = item.checkpoint.fileKind
  lines : item.checkpoint.batchLineCount = line.2
  count : item.checkpoint.recordCount = next.recordCount
  digest : item.checkpoint.prefixSha256 = sha256Hex next.hashed
  batch : item.checkpoint.batchId = batchId
  alias_ : item.checkpoint.endpointAlias = endpointAlias

theorem lineScanned {c : StreamLimits} {batchId endpointAlias fileId : PyStr} {kind : FileKind} {scan next : PrefixScan}
    {line : PhysicalJsonlLine × Nat} {item : Option CheckpointedBatchResultRecord}
    (h : scanLine c batchId endpointAlias kind fileId scan line = .ok (next,item)) :
    addCheckpointLine scan.hashed line.1 = .ok next.hashed ∧
      (item = none ∧ next.recordCount = scan.recordCount ∨
        ∃ own, item = some own ∧ next.recordCount = scan.recordCount + 1 ∧ ScannedItem batchId endpointAlias kind line next own) := by
  unfold scanLine at h
  obtain ⟨hashed,fed,h⟩ := Fallible.bindOk.mp h
  dsimp only at h
  split at h
  · cases h
    exact ⟨fed,.inl ⟨rfl,rfl⟩⟩
  · obtain ⟨done,_,h⟩ := Fallible.bindOk.mp h
    obtain ⟨checkpoint,made,h⟩ := Fallible.bindOk.mp h
    have fields := newFields made
    cases h
    refine ⟨fed,.inr ⟨_,rfl,rfl,rfl,⟨?_,?_⟩,?_,?_,?_,?_,?_⟩⟩
    · exact (congrArg CheckpointFields.batchId fields).symm
    · exact (congrArg CheckpointFields.fileKind fields).symm
    · exact congrArg CheckpointFields.batchLineCount fields
    · exact congrArg CheckpointFields.recordCount fields
    · exact congrArg CheckpointFields.prefixSha256 fields
    · exact congrArg CheckpointFields.batchId fields
    · exact congrArg CheckpointFields.endpointAlias fields

def CheckpointedBatchResultRecord.kind (item : CheckpointedBatchResultRecord) : FileKind :=
  if item.fileKind = py "error" then .error else .result

theorem kindNamed {item : CheckpointedBatchResultRecord} {kind : FileKind} (h : item.fileKind = py kind.name) :
    item.kind = kind := by
  unfold CheckpointedBatchResultRecord.kind
  rw [h]
  cases kind with
  | result => exact if_neg (by decide)
  | error => exact if_pos rfl

def gate (waiting : Option BatchResultCheckpoint) (item : CheckpointedBatchResultRecord) :
    Generator CheckpointedBatchResultRecord PyError (Option BatchResultCheckpoint) :=
  deliver item.kind waiting item

theorem gateOpen (items : List CheckpointedBatchResultRecord) : Generator.forEach gate none items = ⟨items,.ok none⟩ := by
  induction items with
  | nil => rfl
  | cons item items ih =>
    rw [Generator.forEach,Generator.bindOk (a := none) _ rfl,ih]
    rfl

def CountedFrom (n : Nat) (items : List CheckpointedBatchResultRecord) : Prop :=
  ∀ k item, items[k]? = some item → item.checkpoint.recordCount = ((n + k + 1 : Nat) : Int)

theorem numberedLater {n : Nat} {item : CheckpointedBatchResultRecord} {items : List CheckpointedBatchResultRecord}
    (h : CountedFrom n (item::items)) : CountedFrom (n + 1) items := by
  intro k later here
  rw [h (k + 1) later here]
  congr 1
  omega

theorem gateMatched {n k : Nat} {items : List CheckpointedBatchResultRecord} {checkpoint : BatchResultCheckpoint}
    (numbered : CountedFrom n items) (count : checkpoint.recordCount = ((n + k + 1 : Nat) : Int)) :
    Generator.forEach gate (some checkpoint) items = match items[k]? with
      | none => ⟨[],.ok (some checkpoint)⟩
      | some item => if item.checkpoint = checkpoint then ⟨items.drop (k + 1),.ok none⟩
          else throw (checkpointMismatchError checkpoint item.kind) := by
  induction items generalizing n k with
  | nil => rfl
  | cons item items ih =>
    have own := numbered 0 item rfl
    rw [Generator.forEach]
    cases k with
    | zero =>
      have notBefore : ¬item.checkpoint.recordCount < checkpoint.recordCount := by omega
      simp only [gate,deliver,if_neg notBefore,List.getElem?_cons_zero]
      by_cases same : item.checkpoint = checkpoint
      · rw [if_neg (not_not_intro same),if_pos same]
        exact gateOpen items
      · rw [if_pos same,if_neg same]
        rfl
    | succ k =>
      have before : item.checkpoint.recordCount < checkpoint.recordCount := by omega
      simp only [gate,deliver,if_pos before,Generator.pureBind,List.getElem?_cons_succ,List.drop_succ_cons]
      exact ih (numberedLater numbered) (by rw [count]; congr 1; omega)

section
variable {c : StreamLimits} {i : Interpreter} {p : Provider}

theorem lineGated (batchId endpointAlias : PyStr) (kind : FileKind) (fileId : PyStr) (scan : ResumeScan)
    (line : PhysicalJsonlLine × Nat) : checkpointedLine c batchId endpointAlias kind fileId scan line =
      Generator.through (eventedLine c batchId endpointAlias kind fileId scan.1 line).unnoted gate scan.2 := by
  unfold checkpointedLine eventedLine
  simp only [Generator.unnotedBind,Generator.unnotedNote,Generator.pureBind,Generator.unnotedExcept,Generator.throughBind,
    Generator.throughExcept,Generator.bindAssoc]
  cases scanned : scanLine c batchId endpointAlias kind fileId scan.1 line with
  | error e => rfl
  | ok result =>
    obtain ⟨next,item⟩ := result
    cases item with
    | none => rfl
    | some item =>
      obtain ⟨-,⟨absent,-⟩ | ⟨own,same,-,fields⟩⟩ := lineScanned scanned
      · cases absent
      · cases same
        have gated : gate scan.2 item = deliver kind scan.2 item := congrArg (deliver · scan.2 item) (kindNamed fields.kind)
        simp only [Generator.ofExceptOk,Generator.pureBind,Generator.unnotedBind,Generator.unnotedYield,Generator.unnotedPure,
          Generator.throughBind,Generator.throughYield,Generator.bindAssoc,Generator.throughPure,gated]

def besideScan (r : (Nat × PrefixScan) × Option BatchResultCheckpoint) : Nat × ResumeScan := (r.1.1,r.1.2,r.2)

theorem fileGated (batchId endpointAlias : PyStr) (scan : (Nat × PrefixScan) × Option BatchResultCheckpoint)
    (file : FileKind × Json) : checkpointedFile c i p batchId endpointAlias (besideScan scan) file =
      Generator.through (eventedFile c i p batchId endpointAlias scan.1 file).unnoted gate scan.2 >>= fun r =>
        pure (besideScan r) := by
  unfold checkpointedFile eventedFile
  split
  · rfl
  · simp only [Generator.unnotedBind,Generator.unnotedNote,Generator.pureBind,Generator.unnotedExcept,Generator.throughBind,
      Generator.throughExcept,Generator.bindAssoc,Generator.unnotedThrough,Generator.throughThrough]
    refine congrArg (_ >>= ·) (funext fun fileId => congrArg (_ >>= ·) (funext fun hashed => ?_))
    simp only [← lineGated]
    exact (Generator.bindPure _).symm

theorem filesGated (start : StreamStart) (waiting : Option BatchResultCheckpoint) :
    checkpointedFiles c i p start waiting =
      Generator.through (eventedFiles c i p start).unnoted gate waiting >>= fun r => pure (besideScan r) := by
  unfold checkpointedFiles eventedFiles
  rw [Generator.unnotedEach,Generator.throughEach]
  exact Generator.forEachRenamed besideScan (fun scan file => fileGated start.batchId start.endpointAlias scan file)
    ((0,⟨start.hashed,0⟩),waiting) start.files

end

theorem eventAppended (hashed : Bytes) (before : List StreamEvent) (event : StreamEvent) :
    addCheckpointEvents hashed (before ++ [event]) =
      addCheckpointEvents hashed before >>= fun hashed => addCheckpointEvent hashed event := by
  induction before generalizing hashed with
  | nil =>
    change (addCheckpointEvent hashed event >>= fun hashed => .ok hashed) = addCheckpointEvent hashed event
    cases addCheckpointEvent hashed event <;> rfl
  | cons first before ih => simp only [List.cons_append,addCheckpointEvents,ih,bind_assoc]

abbrev ItemHistory := List (StreamEvent ⊕ CheckpointedBatchResultRecord)

structure Scanned (start : StreamStart) (scan : PrefixScan) (before : ItemHistory) : Prop where
  hashed : addCheckpointEvents start.hashed (Generator.notesOf before) = .ok scan.hashed
  counted : scan.recordCount = (Generator.valuesOf before).length

structure Stamped (start : StreamStart) (events : List StreamEvent) (k : Nat) (item : CheckpointedBatchResultRecord) : Prop where
  count : item.checkpoint.recordCount = ((k + 1 : Nat) : Int)
  batch : item.checkpoint.batchId = start.batchId
  alias_ : item.checkpoint.endpointAlias = start.endpointAlias
  digest : ∃ bytes, addCheckpointEvents start.hashed events = .ok bytes ∧ item.checkpoint.prefixSha256 = sha256Hex bytes

def StampedAfter (start : StreamStart) (before : ItemHistory) : StreamEvent ⊕ CheckpointedBatchResultRecord → Prop
  | .inl _ => True
  | .inr item => Stamped start (Generator.notesOf before) (Generator.valuesOf before).length item

theorem notesNoted (before : ItemHistory) (event : StreamEvent) :
    Generator.notesOf (before ++ [.inl event]) = Generator.notesOf before ++ [event] ∧
      Generator.valuesOf (before ++ [.inl event]) = Generator.valuesOf before := by
  unfold Generator.notesOf Generator.valuesOf
  rw [List.filterMap_append,List.filterMap_append]
  exact ⟨rfl,List.append_nil _⟩

theorem notesYielded (before : ItemHistory) (item : CheckpointedBatchResultRecord) :
    Generator.notesOf (before ++ [.inr item]) = Generator.notesOf before ∧
      Generator.valuesOf (before ++ [.inr item]) = Generator.valuesOf before ++ [item] := by
  unfold Generator.notesOf Generator.valuesOf
  rw [List.filterMap_append,List.filterMap_append]
  exact ⟨List.append_nil _,rfl⟩

theorem scannedEvent {start : StreamStart} {scan next : PrefixScan} {before : ItemHistory} {event : StreamEvent}
    (scanned : Scanned start scan before) (fed : addCheckpointEvent scan.hashed event = .ok next.hashed)
    (same : next.recordCount = scan.recordCount) : Scanned start next (before ++ [.inl event]) := by
  obtain ⟨notes,values⟩ := notesNoted before event
  refine ⟨?_,?_⟩
  · rw [notes,eventAppended,scanned.hashed]
    exact fed
  · rw [values,same,scanned.counted]

section
variable {c : StreamLimits} {i : Interpreter} {p : Provider}

theorem lineStamped {start : StreamStart} {scan : PrefixScan} {before : ItemHistory} (kind : FileKind) (fileId : PyStr)
    (line : PhysicalJsonlLine × Nat) (scanned : Scanned start scan before) :
    Generator.Traced (StampedAfter start) before
      (eventedLine c start.batchId start.endpointAlias kind fileId scan line) (Scanned start) := by
  unfold eventedLine
  let event := StreamEvent.line line.1.fileLineNumber line.1.rawLine line.1.newlineTerminated
  refine Generator.tracedBind (fun _ seen => before ++ [.inl event] = seen) (Generator.tracedYield trivial rfl) ?_
  rintro - _ rfl
  refine Generator.tracedBind (fun result seen => before ++ [.inl event] = seen ∧
    scanLine c start.batchId start.endpointAlias kind fileId scan line = .ok result)
    (Generator.tracedExcept (fun result ok => ⟨rfl,ok⟩)) ?_
  rintro ⟨next,item⟩ _ ⟨rfl,ok⟩
  obtain ⟨fed,⟨rfl,same⟩ | ⟨own,rfl,more,fields⟩⟩ := lineScanned ok
  · exact Generator.tracedPure (scannedEvent scanned fed same)
  · have hashed : Scanned start {next with recordCount := scan.recordCount} (before ++ [.inl event]) :=
      scannedEvent scanned fed rfl
    obtain ⟨notes,values⟩ := notesYielded (before ++ [.inl event]) own
    refine Generator.tracedBind (fun _ seen => before ++ [.inl event] ++ [.inr own] = seen)
      (Generator.tracedYield ⟨?_,fields.batch,fields.alias_,_,hashed.hashed,fields.digest⟩ rfl) ?_
    · rw [fields.count,more,← hashed.counted]
    · rintro - _ rfl
      refine Generator.tracedPure ⟨?_,?_⟩
      · rw [notes]
        exact hashed.hashed
      · rw [values,List.length_append,← hashed.counted,more]
        rfl

theorem fileStamped {start : StreamStart} {before : ItemHistory} (scan : Nat × PrefixScan) (file : FileKind × Json)
    (scanned : Scanned start scan.2 before) :
    Generator.Traced (StampedAfter start) before (eventedFile c i p start.batchId start.endpointAlias scan file)
      (fun next => Scanned start next.2) := by
  unfold eventedFile
  split
  · exact Generator.tracedPure scanned
  · refine Generator.tracedBind (fun _ seen => before = seen) (Generator.tracedExcept (fun _ _ => rfl)) ?_
    rintro fileId _ rfl
    refine Generator.tracedBind (fun hashed seen => before = seen ∧
      addCheckpointFile scan.2.hashed (py file.1.name) fileId = .ok hashed)
      (Generator.tracedExcept (fun hashed fed => ⟨rfl,fed⟩)) ?_
    rintro hashed _ ⟨rfl,fed⟩
    refine Generator.tracedBind (fun _ seen => Scanned start {scan.2 with hashed := hashed} seen)
      (Generator.tracedYield trivial (scannedEvent scanned fed rfl)) ?_
    intro _ seen noted
    exact Generator.tracedThrough (Scanned start)
      (fun scan before line _ reached => lineStamped file.1 fileId line reached) _ noted

theorem filesStamped (start : StreamStart) : Generator.Traced (StampedAfter start) [] (eventedFiles c i p start)
    (fun next => Scanned start next.2) :=
  Generator.tracedEach (fun (next : Nat × PrefixScan) => Scanned start next.2)
    (fun scan _ file _ reached => fileStamped scan file reached) _ ⟨rfl,rfl⟩

theorem itemStamped {start : StreamStart} {k : Nat} {item : CheckpointedBatchResultRecord}
    (here : (eventedFiles c i p start).unnoted.yields[k]? = some item) :
    ∃ events, Generator.notesThrough k (eventedFiles c i p start).yields = some events ∧ Stamped start events k item := by
  obtain ⟨events,front,noted,stamped,rfl,rfl⟩ := Generator.valueAt (filesStamped start).each here
  exact ⟨_,noted,stamped⟩

theorem itemsCounted (start : StreamStart) : CountedFrom 0 (eventedFiles c i p start).unnoted.yields := by
  intro k item here
  obtain ⟨events,-,stamped⟩ := itemStamped here
  rw [stamped.count,Nat.zero_add]

end

structure Started (batchId endpointAlias : PyStr) (start : StreamStart) : Prop where
  batch : start.batchId = batchId
  alias_ : start.endpointAlias = endpointAlias
  hashed : newCheckpointHasher batchId endpointAlias = .ok start.hashed
  waiting : start.waiting = none

theorem filesBatch {p : Provider} {batchId validated : PyStr} {files : List (FileKind × Json)}
    (h : validatedStreamFiles p batchId = .ok (validated,files)) : validated = batchId := by
  unfold validatedStreamFiles at h
  obtain ⟨own,valid,h⟩ := Fallible.bindOk.mp h
  obtain ⟨status,-,h⟩ := Fallible.bindOk.mp h
  have same : own = batchId := Json.str.inj (validIdentifier valid).1.symm
  dsimp only at h
  split at h
  · cases h
  · split at h
    · cases h
    · cases h
      exact same

theorem streamStarted {p : Provider} {batchId endpointAlias : PyStr} {start : StreamStart}
    (h : streamStart p batchId endpointAlias none = .ok start) : Started batchId endpointAlias start := by
  unfold streamStart at h
  obtain ⟨validated,valid,checked⟩ := Fallible.bindOk.mp h
  have own : validated = batchId := Json.str.inj (validIdentifier valid).1.symm
  obtain ⟨normalized,-,named⟩ := Fallible.bindOk.mp checked
  dsimp only at named
  split at named
  · cases named
  · rename_i same
    obtain ⟨checkpoint,none_,listed⟩ := Fallible.bindOk.mp named
    obtain ⟨⟨batch,files⟩,found,fed⟩ := Fallible.bindOk.mp listed
    obtain ⟨hashed,header,made⟩ := Fallible.bindOk.mp fed
    have batches : batch = batchId := (filesBatch found).trans own
    have aliases : normalized = endpointAlias := not_not.mp same
    cases none_
    cases made
    exact ⟨batches,aliases,batches ▸ aliases ▸ header,rfl⟩

theorem resumeAccepted (checkpoint : BatchResultCheckpoint) :
    validateResumeCheckpoint (some checkpoint) checkpoint.batchId checkpoint.endpointAlias = .ok (some checkpoint) := by
  unfold validateResumeCheckpoint
  simp only [ne_eq,not_true_eq_false,if_false]

theorem startResumed (p : Provider) {batchId endpointAlias : PyStr} {checkpoint : BatchResultCheckpoint}
    (batch : checkpoint.batchId = batchId) (named : checkpoint.endpointAlias = endpointAlias) :
    streamStart p batchId endpointAlias (some checkpoint) =
      (fun start => {start with waiting := some checkpoint}) <$> streamStart p batchId endpointAlias none := by
  unfold streamStart
  cases valid : validateRemoteResourceId (.str batchId) "batch_id" with
  | error e => rfl
  | ok validated =>
    have same : validated = batchId := Json.str.inj (validIdentifier valid).1.symm
    subst same
    cases validateEndpointAlias (.str endpointAlias) with
    | error e => rfl
    | ok normalized =>
      simp only [bind,Except.bind]
      split
      · rfl
      · rename_i unchanged
        have same := not_not.mp unchanged
        subst same
        have accepted := resumeAccepted checkpoint
        rw [batch,named] at accepted
        rw [accepted,show validateResumeCheckpoint none validated normalized = .ok none from rfl]
        cases validatedStreamFiles p validated with
        | error e => rfl
        | ok found => cases hasher : newCheckpointHasher found.1 normalized <;> simp only [hasher] <;> rfl

section
variable {c : StreamLimits} {i : Interpreter} {p : Provider} {batchId endpointAlias : PyStr} {start : StreamStart}

theorem streamUnresumed (h : streamStart p batchId endpointAlias none = .ok start) :
    iterCheckpointedBatchRecords c i p batchId endpointAlias none =
      ⟨(eventedFiles c i p start).unnoted.yields,(fun _ => ()) <$> (eventedFiles c i p start).unnoted.ended⟩ := by
  rw [checkpointedStarts,h,Generator.ofExceptOk,filesGated,(streamStarted h).waiting]
  unfold Generator.through
  rw [gateOpen]
  simp only [Generator.bindAssoc]
  rw [Generator.bindOk (a := none) _ rfl]
  cases ended : (eventedFiles c i p start).unnoted.ended with
  | error e => exact congrArg (Generator.mk · _) (List.append_nil _)
  | ok scan => exact congrArg (Generator.mk · _) (List.append_nil _)

theorem streamGated {checkpoint : BatchResultCheckpoint} (batch : checkpoint.batchId = batchId)
    (named : checkpoint.endpointAlias = endpointAlias) (h : streamStart p batchId endpointAlias none = .ok start) :
    iterCheckpointedBatchRecords c i p batchId endpointAlias (some checkpoint) =
      Generator.forEach gate (some checkpoint) (eventedFiles c i p start).unnoted.yields >>= fun waiting =>
        Generator.ofExcept (eventedFiles c i p start).unnoted.ended >>= fun scan => foundCheckpoint (besideScan (scan,waiting)) := by
  rw [checkpointedStarts,startResumed p batch named,h]
  change checkpointedFiles c i p {start with waiting := some checkpoint} (some checkpoint) >>= foundCheckpoint = _
  rw [filesGated,Generator.bindAssoc]
  unfold Generator.through
  simp only [Generator.bindAssoc]
  rfl

theorem streamMatched {checkpoint : BatchResultCheckpoint} {k : Nat} {item : CheckpointedBatchResultRecord}
    (batch : checkpoint.batchId = batchId) (named : checkpoint.endpointAlias = endpointAlias)
    (count : checkpoint.recordCount = ((k + 1 : Nat) : Int)) (h : streamStart p batchId endpointAlias none = .ok start)
    (here : (eventedFiles c i p start).unnoted.yields[k]? = some item) (same : item.checkpoint = checkpoint) :
    iterCheckpointedBatchRecords c i p batchId endpointAlias (some checkpoint) =
      ⟨(iterCheckpointedBatchRecords c i p batchId endpointAlias none).yields.drop (k + 1),
        (iterCheckpointedBatchRecords c i p batchId endpointAlias none).ended⟩ := by
  rw [streamUnresumed h,streamGated batch named h,
    gateMatched (itemsCounted start) (k := k) (by rw [count,Nat.zero_add]),here]
  dsimp only
  rw [if_pos same,Generator.bindOk (a := none) _ rfl]
  cases (eventedFiles c i p start).unnoted.ended with
  | error e => exact congrArg (Generator.mk · _) (List.append_nil _)
  | ok scan => exact congrArg (Generator.mk · _) (List.append_nil _)

theorem streamUnmatched {checkpoint : BatchResultCheckpoint} {k : Nat} (batch : checkpoint.batchId = batchId)
    (named : checkpoint.endpointAlias = endpointAlias) (count : checkpoint.recordCount = ((k + 1 : Nat) : Int))
    (h : streamStart p batchId endpointAlias none = .ok start)
    (other : ∀ item, (eventedFiles c i p start).unnoted.yields[k]? = some item → item.checkpoint ≠ checkpoint) :
    ∃ e, iterCheckpointedBatchRecords c i p batchId endpointAlias (some checkpoint) = throw e := by
  rw [streamGated batch named h,gateMatched (itemsCounted start) (k := k) (by rw [count,Nat.zero_add])]
  cases here : (eventedFiles c i p start).unnoted.yields[k]? with
  | none =>
    dsimp only
    rw [Generator.bindOk (a := some checkpoint) _ rfl]
    cases (eventedFiles c i p start).unnoted.ended with
    | error e => exact ⟨e,rfl⟩
    | ok scan => exact ⟨_,rfl⟩
  | some item =>
    dsimp only
    rw [if_neg (other item here)]
    exact ⟨_,rfl⟩

end

section
variable {c : StreamLimits} {i : Interpreter} {p : Provider} {batchId endpointAlias : PyStr}

theorem yieldsStarted {k : Nat} {item : CheckpointedBatchResultRecord}
    (here : (iterCheckpointedBatchRecords c i p batchId endpointAlias none).yields[k]? = some item) :
    ∃ start, streamStart p batchId endpointAlias none = .ok start ∧ (eventedFiles c i p start).unnoted.yields[k]? = some item := by
  cases started : streamStart p batchId endpointAlias none with
  | error e =>
    rw [checkpointedStarts,started] at here
    cases here
  | ok start =>
    rw [streamUnresumed started] at here
    exact ⟨start,rfl,here⟩

theorem checkpointDigests {k : Nat} {item : CheckpointedBatchResultRecord}
    (here : (iterCheckpointedBatchRecords c i p batchId endpointAlias none).yields[k]? = some item) :
    item.checkpoint.batchId = batchId ∧ item.checkpoint.endpointAlias = endpointAlias ∧
      item.checkpoint.recordCount = ((k + 1 : Nat) : Int) ∧
      ∃ events bytes, prefixThrough c i p batchId endpointAlias k = some events ∧
        transcriptBytes ⟨batchId,endpointAlias,events⟩ = .ok bytes ∧ item.checkpoint.prefixSha256 = sha256Hex bytes := by
  obtain ⟨start,started,own⟩ := yieldsStarted here
  have fields := streamStarted started
  obtain ⟨events,noted,stamped⟩ := itemStamped own
  obtain ⟨bytes,fed,digest⟩ := stamped.digest
  refine ⟨stamped.batch.trans fields.batch,stamped.alias_.trans fields.alias_,stamped.count,events,bytes,?_,?_,digest⟩
  · unfold prefixThrough
    rw [started]
    exact noted
  · unfold transcriptBytes
    rw [fields.hashed]
    exact fed

theorem resumedStream {k : Nat} {item : CheckpointedBatchResultRecord}
    (here : (iterCheckpointedBatchRecords c i p batchId endpointAlias none).yields[k]? = some item) :
    iterCheckpointedBatchRecords c i p batchId endpointAlias (some item.checkpoint) =
      ⟨(iterCheckpointedBatchRecords c i p batchId endpointAlias none).yields.drop (k + 1),
        (iterCheckpointedBatchRecords c i p batchId endpointAlias none).ended⟩ := by
  obtain ⟨batch,named,count,-⟩ := checkpointDigests here
  obtain ⟨start,started,own⟩ := yieldsStarted here
  exact streamMatched batch named count started own rfl

theorem resumedOrRefused {d : StreamLimits} {j : Interpreter} {q : Provider} {k : Nat} {item : CheckpointedBatchResultRecord}
    (here : (iterCheckpointedBatchRecords c i p batchId endpointAlias none).yields[k]? = some item) :
    (∃ item', (iterCheckpointedBatchRecords d j q batchId endpointAlias none).yields[k]? = some item' ∧
      item'.checkpoint = item.checkpoint) ∨
    ∃ e, iterCheckpointedBatchRecords d j q batchId endpointAlias (some item.checkpoint) = throw e := by
  obtain ⟨batch,named,count,-⟩ := checkpointDigests here
  cases started : streamStart q batchId endpointAlias none with
  | error e =>
    refine .inr ⟨e,?_⟩
    rw [checkpointedStarts,startResumed q batch named,started]
    rfl
  | ok start =>
    rw [streamUnresumed started]
    by_cases found : ∃ item', (eventedFiles d j q start).unnoted.yields[k]? = some item' ∧ item'.checkpoint = item.checkpoint
    · exact .inl found
    · exact .inr (streamUnmatched batch named count started (fun item' own same => found ⟨item',own,same⟩))

theorem rechunkedStream {q : Provider} (rechunked : p.Rechunked q) {resumeAfter : Option BatchResultCheckpoint}
    (completes : (iterCheckpointedBatchRecords c i p batchId endpointAlias resumeAfter).ended = .ok ()) :
    iterCheckpointedBatchRecords c i q batchId endpointAlias resumeAfter =
      iterCheckpointedBatchRecords c i p batchId endpointAlias resumeAfter :=
  ((checkpointsAgree rechunked batchId endpointAlias resumeAfter).same (by rw [completes]; rfl)).symm

end

/-- Resumed after any of its items, an unchanged stream goes on with exactly the items after that one, also when its
bodies come in other chunks. -/
theorem resumeContinues (c : StreamLimits) (i : Interpreter) (p : Provider) (batchId endpointAlias : PyStr) (k : Nat)
    (item : CheckpointedBatchResultRecord)
    (here : (iterCheckpointedBatchRecords c i p batchId endpointAlias none).yields[k]? = some item) :
    iterCheckpointedBatchRecords c i p batchId endpointAlias (some item.checkpoint) =
        ⟨(iterCheckpointedBatchRecords c i p batchId endpointAlias none).yields.drop (k + 1),
          (iterCheckpointedBatchRecords c i p batchId endpointAlias none).ended⟩ ∧
      ∀ q : Provider, p.Rechunked q → (iterCheckpointedBatchRecords c i p batchId endpointAlias none).ended = .ok () →
        iterCheckpointedBatchRecords c i q batchId endpointAlias (some item.checkpoint) =
          ⟨(iterCheckpointedBatchRecords c i p batchId endpointAlias none).yields.drop (k + 1),.ok ()⟩ := by
  have own := resumedStream here
  refine ⟨own,fun q rechunked completes => ?_⟩
  rw [rechunkedStream rechunked (by rw [own,completes]),own,completes]

def oneRecord : Provider := resultFileProvider [.bytes emptyObjectLine]
def blankFirst : Provider := resultFileProvider [.bytes (lineFeed::emptyObjectLine)]
def twoRecords : Provider := resultFileProvider [.bytes (emptyObjectLine ++ emptyObjectLine)]

abbrev sampleStream (p : Provider) (resumeAfter : Option BatchResultCheckpoint) :
    Generator CheckpointedBatchResultRecord PyError Unit :=
  iterCheckpointedBatchRecords tenByteLimits streamInterpreter p (py "batch-1") (py "default") resumeAfter

def twoChunks : Provider := resultFileProvider [.bytes emptyObjectLine,.bytes emptyObjectLine]

theorem firstOfTwo : (sampleStream twoChunks none).yields[0]?.isSome = true := by decide +kernel

theorem twoComplete : (sampleStream twoChunks none).ended = .ok () := by
  have completes : (sampleStream twoChunks none).ended.isOk = true := by decide +kernel
  cases ended : (sampleStream twoChunks none).ended with
  | ok u => rfl
  | error e =>
    rw [ended] at completes
    cases completes

theorem secondRecordResumed : ∃ item, (sampleStream twoChunks none).yields[0]? = some item ∧
    sampleStream twoChunks (some item.checkpoint) = ⟨(sampleStream twoChunks none).yields.drop 1,.ok ()⟩ ∧
    sampleStream twoRecords (some item.checkpoint) = ⟨(sampleStream twoChunks none).yields.drop 1,.ok ()⟩ := by
  have here := (Option.some_get firstOfTwo).symm
  have continues := resumeContinues tenByteLimits streamInterpreter twoChunks (py "batch-1") (py "default") 0 _ here
  have own := continues.1
  rw [twoComplete] at own
  exact ⟨_,here,own,continues.2 twoRecords twoLinesRechunked twoComplete⟩

/-- On any other stream, under other limits even, a checkpoint is answered with records only if the physical prefix
through its record is the one it was taken of, and then with that stream's own records after it. -/
theorem resumeConfined (c c' : StreamLimits) (i i' : Interpreter) (p p' : Provider) (batchId endpointAlias : PyStr) (k : Nat)
    (item : CheckpointedBatchResultRecord)
    (here : (iterCheckpointedBatchRecords c i p batchId endpointAlias none).yields[k]? = some item)
    (collisionFree : ∀ a b, DigestedBytes c i p batchId endpointAlias a → DigestedBytes c' i' p' batchId endpointAlias b →
      sha256Hex a = sha256Hex b → a = b) :
    (prefixThrough c' i' p' batchId endpointAlias k = prefixThrough c i p batchId endpointAlias k ∧
      iterCheckpointedBatchRecords c' i' p' batchId endpointAlias (some item.checkpoint) =
        ⟨(iterCheckpointedBatchRecords c' i' p' batchId endpointAlias none).yields.drop (k + 1),
          (iterCheckpointedBatchRecords c' i' p' batchId endpointAlias none).ended⟩) ∨
    ∃ e, iterCheckpointedBatchRecords c' i' p' batchId endpointAlias (some item.checkpoint) = ⟨[],.error e⟩ := by
  rcases resumedOrRefused (d := c') (j := i') (q := p') here with ⟨item',here',same⟩ | refused
  · obtain ⟨-,-,-,events,bytes,noted,fed,digest⟩ := checkpointDigests here
    obtain ⟨-,-,-,events',bytes',noted',fed',digest'⟩ := checkpointDigests here'
    rw [same] at digest'
    have one := collisionFree bytes bytes' ⟨k,events,noted,fed⟩ ⟨k,events',noted',fed'⟩ (digest.symm.trans digest')
    subst one
    have events_ := congrArg Transcript.events (transcriptFaithful fed' fed)
    refine .inl ⟨?_,same ▸ resumedStream here'⟩
    rw [noted,noted']
    exact congrArg some events_
  · exact .inr refused

def digestsOf (p : Provider) : List PyStr :=
  (sampleStream p none).yields.map (fun item => item.checkpoint.prefixSha256)

theorem oneDigest : digestsOf oneRecord = [py "b4f9c62eaf058d11107521916683dc047b3755444ac557d2f96654e3a57a5555"] := by
  decide +kernel

theorem blankDigest : digestsOf blankFirst = [py "4f3731c5cc4b32566736b1f60c186ec929bb4914bb9febcdc08a83ce43e4b348"] := by
  decide +kernel

theorem onlyDigest {p : Provider} {a : Bytes} {digest : PyStr} (single : digestsOf p = [digest])
    (digested : DigestedBytes tenByteLimits streamInterpreter p (py "batch-1") (py "default") a) : sha256Hex a = digest := by
  obtain ⟨item,yielded,rfl⟩ := List.map_eq_singleton_iff.mp single
  obtain ⟨-,-,-,events,bytes,noted,fed,own⟩ := checkpointDigests (k := 0) (show (sampleStream p none).yields[0]? = some item by rw [yielded]; rfl)
  obtain ⟨k,events',noted',fed'⟩ := digested
  have first : k = 0 := by
    unfold prefixThrough at noted'
    cases started : streamStart p (py "batch-1") (py "default") none with
    | error e =>
      rw [started] at noted'
      cases noted'
    | ok start =>
      rw [started] at noted'
      have below := Generator.notesBelow noted'
      have count := congrArg List.length yielded
      unfold sampleStream at count
      rw [streamUnresumed started] at count
      exact Nat.lt_one_iff.mp (lt_of_lt_of_le below (le_of_eq count))
  subst first
  cases noted.symm.trans noted'
  cases fed.symm.trans fed'
  exact own.symm

theorem insertedLineConfined : ∃ item, (sampleStream oneRecord none).yields[0]? = some item ∧
    ((prefixThrough tenByteLimits streamInterpreter blankFirst (py "batch-1") (py "default") 0 =
        prefixThrough tenByteLimits streamInterpreter oneRecord (py "batch-1") (py "default") 0 ∧
      sampleStream blankFirst (some item.checkpoint) =
        ⟨(sampleStream blankFirst none).yields.drop 1,(sampleStream blankFirst none).ended⟩) ∨
    ∃ e, sampleStream blankFirst (some item.checkpoint) = ⟨[],.error e⟩) := by
  obtain ⟨item,yielded,-⟩ := List.map_eq_singleton_iff.mp oneDigest
  have here : (sampleStream oneRecord none).yields[0]? = some item := by
    rw [yielded]
    rfl
  refine ⟨item,here,resumeConfined tenByteLimits tenByteLimits streamInterpreter streamInterpreter oneRecord blankFirst _ _
    0 item here ?_⟩
  intro a b first second same
  rw [onlyDigest oneDigest first,onlyDigest blankDigest second] at same
  exact absurd same (by decide)

end PgLlmBatch
