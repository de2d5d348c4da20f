import PgLlmBatch.ResultResume

/-! The physical lines of a batch are numbered on from one file to the next, so that every item of a
stream stands on a later line than the items before it. -/
namespace PgLlmBatch
open Base

section
variable {c : StreamLimits} {i : Interpreter} {p : Provider} {kind : FileKind}

abbrev CountedLines := List (PhysicalJsonlLine × Nat)

def NumberedLine (c : StreamLimits) (observed : Nat) (before : CountedLines) (line : PhysicalJsonlLine × Nat) : Prop :=
  line.2 = observed + before.length + 1 ∧ line.2 ≤ c.maxJsonlPhysicalLines

def NumberedTo (observed : Nat) (n : Nat) (before : CountedLines) : Prop := n = observed + before.length

theorem lineNumbered {observed : Nat} {before : CountedLines} (terminated : Bool) (count : LineCount) (line : Bytes)
    (counted : NumberedTo observed count.observed before) :
    Generator.Traced (NumberedLine c observed) before (yieldLine c i kind terminated count line)
      (fun next => NumberedTo observed next.observed) := by
  unfold yieldLine
  refine Generator.tracedBind (fun next seen => before = seen ∧ next = count.observed + 1 ∧ next ≤ c.maxJsonlPhysicalLines)
    (Generator.tracedExcept (fun next ok => ?_)) ?_
  · unfold observeLine at ok
    split at ok
    · cases ok
    · rename_i within
      cases ok
      exact ⟨rfl,rfl,Nat.not_lt.mp within⟩
  · rintro next _ ⟨rfl,rfl,enough⟩
    refine Generator.tracedBind (fun _ seen => before = seen) (Generator.tracedExcept (fun _ _ => rfl)) ?_
    rintro record _ rfl
    refine Generator.tracedBind (fun _ seen => seen.length = before.length + 1)
      (Generator.tracedYield ⟨congrArg (· + 1) counted,enough⟩ (by simp)) ?_
    intro _ seen more
    refine Generator.tracedPure ?_
    have here : count.observed = observed + before.length := counted
    show count.observed + 1 = observed + seen.length
    omega

theorem chunkNumbered {observed : Nat} {before : CountedLines} (response : FileResponse) (b : LineBuffer) (chunk : BodyChunk)
    (counted : NumberedTo observed b.count.observed before) :
    Generator.Traced (NumberedLine c observed) before (takeChunk c i kind response b chunk)
      (fun next => NumberedTo observed next.count.observed) := by
  unfold takeChunk
  cases chunk with
  | other => exact Generator.tracedThrow
  | bytes bs =>
    dsimp only
    split
    · exact Generator.tracedThrow
    split
    · exact Generator.tracedThrow
    split
    · exact Generator.tracedThrow
    refine Generator.tracedBind (fun (count : LineCount) => NumberedTo observed count.observed)
      (Generator.tracedEach (fun (count : LineCount) => NumberedTo observed count.observed)
        (fun count _ line _ reached => lineNumbered true count line reached) _ counted) ?_
    intro count seen reached
    split
    · exact Generator.tracedThrow
    · exact Generator.tracedPure reached

theorem linesNumbered (response : FileResponse) (observed : Nat) :
    Generator.Traced (NumberedLine c observed) [] (readJsonlLines c i kind response observed) (NumberedTo observed) := by
  unfold readJsonlLines
  dsimp only
  split
  · exact Generator.tracedThrow
  split
  · exact Generator.tracedThrow
  cases response.iterChunked with
  | none => exact Generator.tracedThrow
  | some body =>
    obtain ⟨chunks,exhausted⟩ := body
    refine Generator.tracedBind (fun (b : LineBuffer) => NumberedTo observed b.count.observed)
      (Generator.tracedEach (fun (b : LineBuffer) => NumberedTo observed b.count.observed)
        (fun b _ chunk _ reached => chunkNumbered response b chunk reached) _ rfl) ?_
    intro b seen reached
    refine Generator.tracedBind (fun _ after => seen = after) (Generator.tracedExcept (fun _ _ => rfl)) ?_
    rintro - _ rfl
    split
    · exact Generator.tracedPure reached
    · exact Generator.tracedBind (fun (count : LineCount) => NumberedTo observed count.observed)
        (lineNumbered false b.count b.pending reached) (fun _ _ => Generator.tracedPure)

theorem fileLinesNumbered (fileId : Json) (observed : Nat) :
    Generator.Traced (NumberedLine c observed) [] (iterJsonlFileLines c i p kind fileId observed) (NumberedTo observed) := by
  unfold iterJsonlFileLines
  refine Generator.tracedBind (fun _ seen => [] = seen) (Generator.tracedExcept (fun _ _ => rfl)) ?_
  rintro validated _ rfl
  refine Generator.tracedBind (fun _ seen => [] = seen) (Generator.tracedExcept (fun _ _ => rfl)) ?_
  rintro response _ rfl
  exact linesNumbered response observed

end

abbrev Items := List CheckpointedBatchResultRecord

structure Placed (c : StreamLimits) (before : Items) (item : CheckpointedBatchResultRecord) : Prop where
  later : ∀ earlier ∈ before, earlier.checkpoint.batchLineCount < item.checkpoint.batchLineCount
  bounded : item.checkpoint.batchLineCount ≤ c.maxJsonlPhysicalLines
  own : item.batchId = item.checkpoint.batchId ∧ item.fileKind = item.checkpoint.fileKind

def LinesWithin (n : Nat) (before : Items) : Prop := ∀ item ∈ before, item.checkpoint.batchLineCount ≤ (n : Int)

structure PlacedScan (n : Nat) (scan : ResumeScan) (before : Items) : Prop where
  waiting : scan.2 = none
  within : LinesWithin n before

section
variable {c : StreamLimits} {i : Interpreter} {p : Provider} {batchId endpointAlias : PyStr}

theorem linePlaced {before : Items} {n : Nat} {scan : ResumeScan} (kind : FileKind) (fileId : PyStr)
    (line : PhysicalJsonlLine × Nat) (reached : PlacedScan n scan before) (next : line.2 = n + 1)
    (enough : line.2 ≤ c.maxJsonlPhysicalLines) :
    Generator.Traced (Placed c) before (checkpointedLine c batchId endpointAlias kind fileId scan line)
      (fun next => PlacedScan line.2 next) := by
  have grown : LinesWithin line.2 before := by
    intro item here
    have known := reached.within item here
    omega
  unfold checkpointedLine
  refine Generator.tracedBind (fun result seen => before = seen ∧
    scanLine c batchId endpointAlias kind fileId scan.1 line = .ok result)
    (Generator.tracedExcept (fun result ok => ⟨rfl,ok⟩)) ?_
  rintro ⟨moved,item⟩ _ ⟨rfl,ok⟩
  obtain ⟨-,⟨rfl,-⟩ | ⟨own,rfl,-,fields⟩⟩ := lineScanned ok
  · exact Generator.tracedPure ⟨reached.waiting,grown⟩
  · refine Generator.tracedBind (fun waiting seen => waiting = none ∧ before ++ [own] = seen) ?_ ?_
    · rw [reached.waiting]
      refine Generator.tracedBind (fun _ seen => before ++ [own] = seen) (Generator.tracedYield ?_ rfl)
        (fun _ _ same => Generator.tracedPure ⟨rfl,same⟩)
      refine ⟨fun earlier here => ?_,?_,fields.own⟩
      · have known := reached.within earlier here
        rw [fields.lines]
        omega
      · rw [fields.lines]
        exact Int.ofNat_le.mpr enough
    · rintro waiting _ ⟨rfl,rfl⟩
      refine Generator.tracedPure ⟨rfl,?_⟩
      intro item here
      rcases List.mem_append.mp here with old | new
      · exact grown item old
      · rw [List.mem_singleton.mp new,fields.lines]

theorem lineFollowed {before : Items} {observed : Nat} {seen : CountedLines} {scan : ResumeScan} (kind : FileKind)
    (fileId : PyStr) (line : PhysicalJsonlLine × Nat) (numbered : NumberedLine c observed seen line)
    (reached : PlacedScan (observed + seen.length) scan before) :
    Generator.Traced (Placed c) before (checkpointedLine c batchId endpointAlias kind fileId scan line)
      (fun next => PlacedScan (observed + (seen ++ [line]).length) next) := by
  have stepped := @linePlaced c batchId endpointAlias before _ scan kind fileId line reached numbered.1 numbered.2
  rw [numbered.1] at stepped
  rw [List.length_append,List.length_singleton]
  exact stepped

theorem filePlaced {before : Items} (scan : Nat × ResumeScan) (file : FileKind × Json)
    (reached : PlacedScan scan.1 scan.2 before) :
    Generator.Traced (Placed c) before (checkpointedFile c i p batchId endpointAlias scan file)
      (fun next => PlacedScan next.1 next.2) := by
  unfold checkpointedFile
  split
  · exact Generator.tracedPure reached
  · refine Generator.tracedBind (fun _ seen => before = seen) (Generator.tracedExcept (fun _ _ => rfl)) ?_
    rintro fileId _ rfl
    refine Generator.tracedBind (fun _ seen => before = seen) (Generator.tracedExcept (fun _ _ => rfl)) ?_
    rintro hashed _ rfl
    have source : Generator.Traced (NumberedLine c scan.1) [] (iterJsonlFileLines c i p file.1 (.str fileId) scan.1)
      (NumberedTo scan.1) := fileLinesNumbered (.str fileId) scan.1
    have placed := Generator.tracedFollows source (fun seen next => PlacedScan (scan.1 + seen.length) next)
      (fun seen next after line => @lineFollowed c batchId endpointAlias after scan.1 seen next file.1 fileId line)
      ({scan.2.1 with hashed := hashed},scan.2.2) ⟨reached.waiting,reached.within⟩
    refine ⟨placed.each,fun next ended => ?_⟩
    obtain ⟨seen,counted,here⟩ := placed.ends next ended
    rw [counted]
    exact here

theorem itemsPlaced : Generator.Good (Placed c) []
    (iterCheckpointedBatchRecords c i p batchId endpointAlias none).yields := by
  cases started : streamStart p batchId endpointAlias none with
  | error e =>
    rw [checkpointedStarts,started]
    trivial
  | ok start =>
    rw [checkpointedStarts,started,Generator.ofExceptOk,(streamStarted started).waiting]
    have files : Generator.Traced (Placed c) [] (checkpointedFiles c i p start none)
      (fun (next : Nat × ResumeScan) => PlacedScan next.1 next.2) :=
      Generator.tracedEach (fun (next : Nat × ResumeScan) => PlacedScan next.1 next.2)
        (fun scan _ file _ reached => filePlaced scan file reached) _ ⟨rfl,fun _ here => absurd here List.not_mem_nil⟩
    have found : ∀ (next : Nat × ResumeScan) seen, PlacedScan next.1 next.2 seen →
        Generator.Traced (Placed c) seen (foundCheckpoint next) (fun _ _ => True) := by
      intro next seen reached
      unfold foundCheckpoint
      rw [reached.waiting]
      exact Generator.tracedPure trivial
    exact (Generator.tracedBind _ files found).each

end
end PgLlmBatch
