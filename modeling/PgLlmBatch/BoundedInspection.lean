import PgLlmBatch.Inspection

/-! What inspection reads at most, and when it returns evidence: against every environment the
work stays within its budget, and an undisturbed file or schema is always inspected whole. -/
namespace PgLlmBatch
open Base
open Program (everyReply everyReplyMono wpBind wpHandle wpMono)

structure InspectionWork where
  chunks : List Bytes := []
  reads : Nat := 0
  statuses : List FileStatus := []
  deriving DecidableEq

namespace InspectionWork

def observe (w : InspectionWork) (e : Loop.Event InspectionCall InspectionCall.Reply) : InspectionWork :=
  match e with
  | ⟨.read _ _,.ok chunk⟩ => {w with chunks := w.chunks ++ [chunk.1],reads := w.reads + 1}
  | ⟨.read _ _,.error _⟩ => {w with reads := w.reads + 1}
  | ⟨.readResource _,.ok (.bytes chunk)⟩ => {w with chunks := w.chunks ++ [chunk.1],reads := w.reads + 1}
  | ⟨.readResource _,_⟩ => {w with reads := w.reads + 1}
  | ⟨.fstat _,.ok status⟩ => {w with statuses := w.statuses ++ [status]}
  | _ => w

def content (w : InspectionWork) : Bytes := w.chunks.flatten

end InspectionWork

def Idle {α : Type} (p : InspectionProgram α) : Prop :=
  ∀ w, p.wp (everyReply InspectionWork.observe) w (fun _ w' => w' = w)

section
variable {α β : Type}

theorem idleRet (a : α) : Idle (.ret a) := fun _ => rfl
theorem idleRaise (e : RecoveryError) : Idle (.raise e : InspectionProgram α) := fun _ => rfl

theorem idleBind {p : InspectionProgram α} {f : α → InspectionProgram β} (first : Idle p) (next : ∀ a, Idle (f a)) :
    Idle (p >>= f) := by
  intro w
  refine wpBind everyReplyMono (wpMono everyReplyMono (first w) (fun r w' same => ?_))
  subst same
  cases r with
  | ok a => exact next a _
  | error e => rfl

theorem idleHandle {p : InspectionProgram α} {h : RecoveryError → InspectionProgram α} (body : Idle p)
    (next : ∀ e, Idle (h e)) : Idle (p.handle h) := by
  intro w
  refine wpHandle everyReplyMono (wpMono everyReplyMono (body w) (fun r w' same => ?_))
  subst same
  cases r with
  | ok a => rfl
  | error e => exact next e _

theorem idleExpecting (caught : OsFailure → Bool) (own : RecoveryError) (r : Except OsFailure α) :
    Idle (expecting caught own r) := by
  cases r with
  | ok a => exact idleRet a
  | error e => exact idleRaise _

theorem requiring {p : Prop} [Decidable p] {own : RecoveryError} {f : Unit → InspectionProgram α} {w : InspectionWork}
    {Q : Except RecoveryError α → InspectionWork → Prop}
    (holds : p → (f ()).wp (everyReply InspectionWork.observe) w Q) (fails : ¬p → Q (.error own) w) :
    (requireThat p own >>= f).wp (everyReply InspectionWork.observe) w Q := by
  unfold requireThat
  split
  · rename_i yes
    exact holds yes
  · rename_i no
    exact fails no

theorem requireHolds {p : Prop} [Decidable p] (holds : p) {own : RecoveryError} : requireThat p own = .ret () :=
  if_pos holds

theorem idleClose (descriptor : Nat) : Idle (Backup.closeDescriptor descriptor) :=
  fun w r => idleExpecting _ _ r w

theorem idleQuietClose (descriptor : Nat) : Idle (Backup.quietClose descriptor) := by
  intro w r
  cases r with
  | ok done => rfl
  | error failure => cases failure <;> rfl

theorem idleCloseParent (parent next : Nat) : Idle (Backup.closeParent parent next) := by
  refine idleHandle (idleClose parent) (fun e => ?_)
  split
  · exact idleBind (idleQuietClose next) (fun _ => idleRaise _)
  · exact idleRaise _

theorem idleOpened (parent : Nat) (r : Except OsFailure Nat) : Idle (Backup.opened parent r) := by
  cases r with
  | ok descriptor => exact idleRet _
  | error failure =>
    simp only [Backup.opened]
    split
    · exact idleBind (idleQuietClose parent) (fun _ => idleRaise _)
    · exact idleRaise _

theorem idleParents (parent : Nat) (components : List PyStr) : Idle (Backup.openParents parent components) := by
  induction components generalizing parent with
  | nil => exact idleRet _
  | cons component components ih =>
    exact idleBind (fun w r => idleOpened parent r w) (fun next => idleBind (idleCloseParent parent next) (fun _ => ih next))

theorem idleOpen (path : PyStr) : Idle (Backup.openBackupArtifact path) := by
  unfold Backup.openBackupArtifact
  have parts : Idle (Program.ofExcept (Backup.pathParts path)) := by
    cases Backup.pathParts path with
    | error e => exact idleRaise _
    | ok parts => exact idleRet _
  refine idleBind parts (fun parts => idleBind (fun w r => idleExpecting _ _ r w) (fun root =>
    idleBind (idleParents root _) (fun parent => ?_)))
  exact idleBind (fun w r => idleOpened parent r w)
    (fun artifact => idleBind (idleCloseParent parent artifact) (fun _ => idleRet _))

end

namespace Backup

-- What a run has read so far: everything hashed, within the budget, and no more calls than bytes.
structure Reading (maximum : Nat) (w : InspectionWork) (bytesRead : Nat) (digest : Bytes) : Prop where
  hashed : w.content = digest
  counted : digest.length = bytesRead
  budget : bytesRead ≤ maximum
  calls : w.reads ≤ bytesRead

def Spent (maximum : Nat) (statuses : List FileStatus) (w : InspectionWork) : Prop :=
  w.content.length ≤ maximum ∧ w.reads ≤ maximum ∧ w.statuses = statuses

theorem chunkJoined (w : InspectionWork) (descriptor size : Nat) (chunk : Chunk size) :
    (w.observe ⟨.read descriptor size,.ok chunk⟩).content = w.content ++ chunk.1 := by
  simp [InspectionWork.observe,InspectionWork.content]

theorem readChunksWork {descriptor maximum bytesRead : Nat} {digest : Bytes} {w : InspectionWork}
    (reading : Reading maximum w bytesRead digest) :
    (readChunks descriptor maximum bytesRead digest).wp (everyReply InspectionWork.observe) w
      (fun r w' => Spent maximum w.statuses w' ∧
        ∀ n hashed, r = .ok (n,hashed) → hashed = w'.content ∧ n = hashed.length) := by
  induction left : maximum - bytesRead using Nat.strongRecOn generalizing bytesRead digest w with
  | _ left' ih =>
    obtain ⟨hashed,counted,budget,calls⟩ := reading
    rw [readChunks]
    split
    · rename_i more
      intro r
      match r with
      | .error failure =>
        refine ⟨⟨?_,?_,rfl⟩,fun n hashed h => nomatch h⟩
        · exact (congrArg List.length hashed).trans_le (counted.trans_le budget)
        · exact Nat.succ_le_of_lt (calls.trans_lt more)
      | .ok ⟨[],_⟩ =>
        have same := (chunkJoined w descriptor _ ⟨[],by assumption⟩).trans ((List.append_nil _).trans hashed)
        refine ⟨⟨?_,?_,rfl⟩,fun n hashed h => ?_⟩
        · exact (congrArg List.length same).trans_le (counted.trans_le budget)
        · exact Nat.succ_le_of_lt (calls.trans_lt more)
        · cases h
          exact ⟨same.symm,counted.symm⟩
      | .ok ⟨b::bytes,fits⟩ =>
        have joined := chunkJoined w descriptor _ ⟨b::bytes,fits⟩
        have size : (b::bytes).length = bytes.length + 1 := rfl
        have within : (b::bytes).length ≤ maximum - bytesRead := fits.trans (Nat.min_le_right _ _)
        refine ih _ ?_ ⟨?_,?_,?_,?_⟩ rfl
        · omega
        · rw [joined,hashed]
        · rw [List.length_append,counted]
        · omega
        · show w.reads + 1 ≤ _
          omega
    · exact ⟨⟨(congrArg List.length hashed).trans_le (counted.trans_le budget),calls.trans budget,rfl⟩,
        fun n d h => by
          cases h
          exact ⟨hashed.symm,counted.symm⟩⟩

structure Bounded (maximumSizeBytes : Int) (out : Except RecoveryError InspectionEvidence) (w : InspectionWork) : Prop where
  budget : w.content.length ≤ maximumSizeBytes.toNat
  calls : w.reads ≤ maximumSizeBytes.toNat
  digest : ∀ e, out = .ok e → e.sha256 = sha256Hex w.content
  counted : ∀ e, out = .ok e → e.sizeBytes = w.content.length ∧ 1 ≤ e.sizeBytes ∧ e.sizeBytes ≤ maximumSizeBytes
  unchanged : ∀ e, out = .ok e → ∃ initial final, w.statuses = [initial,final] ∧ initial.size = e.sizeBytes ∧
    final.size = e.sizeBytes ∧ artifactIdentity initial = artifactIdentity final

theorem failedBounded {maximumSizeBytes : Int} {e : RecoveryError} {w : InspectionWork} {statuses : List FileStatus}
    (spent : Spent maximumSizeBytes.toNat statuses w) : Bounded maximumSizeBytes (.error e) w := by
  refine ⟨spent.1,spent.2.1,?_,?_,?_⟩ <;> exact fun _ h => nomatch h

theorem startSpent (maximum : Nat) : Spent maximum [] {} := ⟨Nat.zero_le _,Nat.zero_le _,rfl⟩

theorem descriptorBounded (descriptor : Nat) (maximumSizeBytes : Int) :
    (inspectDescriptor descriptor maximumSizeBytes).wp (everyReply InspectionWork.observe) {} (Bounded maximumSizeBytes) := by
  intro r
  cases r with
  | error failure => exact failedBounded (startSpent _)
  | ok initial =>
    have looked : Spent maximumSizeBytes.toNat [initial] (InspectionWork.observe {} ⟨.fstat descriptor,.ok initial⟩) :=
      ⟨Nat.zero_le _,Nat.zero_le _,rfl⟩
    refine requiring (fun _ => requiring (fun sized => ?_) (fun _ => failedBounded looked)) (fun _ => failedBounded looked)
    refine wpBind everyReplyMono (wpMono everyReplyMono (readChunksWork ⟨rfl,rfl,Nat.zero_le _,Nat.zero_le _⟩)
      (fun r w' after => ?_))
    obtain ⟨spent,read⟩ := after
    cases r with
    | error e => exact failedBounded spent
    | ok result =>
      obtain ⟨bytesRead,digest⟩ := result
      obtain ⟨hashed,length⟩ := read bytesRead digest rfl
      intro r
      cases r with
      | error failure => exact failedBounded spent
      | ok final =>
        have statuses : (w'.observe ⟨.fstat descriptor,.ok final⟩).statuses = [initial,final] :=
          congrArg (· ++ [final]) spent.2.2
        have content : (w'.observe ⟨.fstat descriptor,.ok final⟩).content = digest := hashed.symm
        have after : Spent maximumSizeBytes.toNat [initial,final] (w'.observe ⟨.fstat descriptor,.ok final⟩) :=
          ⟨spent.1,spent.2.1,statuses⟩
        refine requiring (fun steady => ?_) (fun _ => failedBounded after)
        obtain ⟨size,same⟩ := steady
        have sameSize : initial.size = final.size := congrArg (fun i => i.2.2.2.1) same
        refine ⟨after.1,after.2.1,fun e h => ?_,fun e h => ?_,fun e h => ?_⟩
        · cases h
          rw [content]
        · cases h
          rw [content]
          exact ⟨congrArg Nat.cast length,by simp only [size]; omega,by simp only [size]; omega⟩
        · cases h
          exact ⟨initial,final,statuses,size.symm,sameSize.symm.trans size.symm,same⟩

end Backup

theorem backupBounded (secure : Bool) (path : PyStr) (maximumSizeBytes : Int) :
    (inspectPostgresBackupArtifact secure path maximumSizeBytes).wp (everyReply InspectionWork.observe) {}
      (Backup.Bounded maximumSizeBytes) := by
  have failed {e : RecoveryError} : Backup.Bounded maximumSizeBytes (.error e) {} :=
    Backup.failedBounded (Backup.startSpent _)
  refine requiring (fun _ => requiring (fun _ => requiring (fun _ => ?_) (fun _ => failed)) (fun _ => failed))
    (fun _ => failed)
  refine wpBind everyReplyMono (wpMono everyReplyMono (idleOpen path {}) (fun r w same => ?_))
  subst same
  cases r with
  | error e => exact failed
  | ok descriptor =>
    refine wpBind everyReplyMono (wpHandle everyReplyMono
      (wpMono everyReplyMono (Backup.descriptorBounded descriptor maximumSizeBytes) (fun r w bounded => ?_)))
    cases r with
    | error e =>
      refine wpBind everyReplyMono (wpMono everyReplyMono (idleQuietClose descriptor w) (fun r w' same => ?_))
      subst same
      cases r with
      | error e' => exact Backup.failedBounded ⟨bounded.budget,bounded.calls,rfl⟩
      | ok done => exact Backup.failedBounded ⟨bounded.budget,bounded.calls,rfl⟩
    | ok evidence =>
      refine wpBind everyReplyMono (wpMono everyReplyMono (idleClose descriptor w) (fun r w' same => ?_))
      subst same
      cases r with
      | error e' => exact Backup.failedBounded ⟨bounded.budget,bounded.calls,rfl⟩
      | ok done => exact bounded

namespace Schema

structure Bounded (out : Except RecoveryError InspectionEvidence) (w : InspectionWork) : Prop where
  budget : w.content.length ≤ maxSchemaBytes + 1
  calls : w.reads ≤ maxSchemaBytes + 1
  digest : ∀ e, out = .ok e → e.sha256 = sha256Hex w.content
  counted : ∀ e, out = .ok e → e.sizeBytes = w.content.length ∧ 1 ≤ e.sizeBytes ∧ e.sizeBytes ≤ maxSchemaBytes

theorem failedBounded {e : RecoveryError} {w : InspectionWork} (budget : w.content.length ≤ maxSchemaBytes + 1)
    (calls : w.reads ≤ maxSchemaBytes + 1) : Bounded (.error e) w := by
  refine ⟨budget,calls,?_,?_⟩ <;> exact fun _ h => nomatch h

theorem chunkJoined (w : InspectionWork) (size : Nat) (chunk : Chunk size) :
    (w.observe ⟨.readResource size,.ok (.bytes chunk)⟩).content = w.content ++ chunk.1 := by
  simp [InspectionWork.observe,InspectionWork.content]

theorem readSchemaWork {sizeBytes : Nat} {digest : Bytes} {w : InspectionWork}
    (reading : Backup.Reading maxSchemaBytes w sizeBytes digest) :
    (readSchema sizeBytes digest).wp (everyReply InspectionWork.observe) w
      (fun r w' => w'.content.length ≤ maxSchemaBytes + 1 ∧ w'.reads ≤ maxSchemaBytes + 1 ∧
        ∀ n hashed, r = .ok (n,hashed) → hashed = w'.content ∧ n = hashed.length ∧ n ≤ maxSchemaBytes) := by
  induction left : maxSchemaBytes + 1 - sizeBytes using Nat.strongRecOn generalizing sizeBytes digest w with
  | _ left' ih =>
    obtain ⟨hashed,counted,budget,calls⟩ := reading
    have length : w.content.length = sizeBytes := (congrArg List.length hashed).trans counted
    rw [readSchema]
    intro r
    match r with
    | .error failure =>
      refine ⟨?_,Nat.succ_le_succ (calls.trans budget),fun n d h => nomatch h⟩
      exact length.trans_le (budget.trans (Nat.le_succ _))
    | .ok .other =>
      refine ⟨?_,Nat.succ_le_succ (calls.trans budget),fun n d h => nomatch h⟩
      exact length.trans_le (budget.trans (Nat.le_succ _))
    | .ok (.bytes ⟨[],_⟩) =>
      have same := (chunkJoined w _ ⟨[],by assumption⟩).trans ((List.append_nil _).trans hashed)
      refine ⟨?_,Nat.succ_le_succ (calls.trans budget),fun n d h => ?_⟩
      · exact (congrArg List.length same).trans_le (counted.trans_le (budget.trans (Nat.le_succ _)))
      · cases h
        exact ⟨same.symm,counted.symm,budget⟩
    | .ok (.bytes ⟨b::bytes,fits⟩) =>
      have joined := chunkJoined w _ ⟨b::bytes,fits⟩
      have size : (b::bytes).length = bytes.length + 1 := rfl
      have within : (b::bytes).length ≤ maxSchemaBytes - sizeBytes + 1 := fits.trans (Nat.min_le_right _ _)
      have grown : (w.observe ⟨.readResource _,.ok (.bytes ⟨b::bytes,fits⟩)⟩).content.length =
          sizeBytes + (b::bytes).length := by
        rw [joined,List.length_append,length]
      simp only
      split
      · refine ⟨?_,Nat.succ_le_succ (calls.trans budget),fun n d h => nomatch h⟩
        rw [grown]
        omega
      · rename_i fitting
        refine ih _ ?_ ⟨?_,?_,?_,?_⟩ rfl
        · omega
        · rw [joined,hashed]
        · rw [List.length_append,counted]
        · omega
        · show w.reads + 1 ≤ _
          omega

end Schema

theorem schemaBounded : inspectPostgresSchema.wp (everyReply InspectionWork.observe) {} Schema.Bounded := by
  have quiet (w : InspectionWork) : Idle Schema.quietClose := by
    intro w r
    cases r with
    | ok done => rfl
    | error failure => cases failure <;> rfl
  intro r
  cases r with
  | error failure => exact Schema.failedBounded (Nat.zero_le _) (Nat.zero_le _)
  | ok opened =>
    have start : Backup.Reading Schema.maxSchemaBytes {} 0 [] := ⟨rfl,rfl,Nat.zero_le _,Nat.zero_le _⟩
    change Program.wp _ (Program.handle Schema.inspectStream _ >>= _) {} Schema.Bounded
    refine wpBind everyReplyMono (wpHandle everyReplyMono (wpBind everyReplyMono
      (wpMono everyReplyMono (Schema.readSchemaWork start) (fun r w after => ?_))))
    obtain ⟨budget,calls,read⟩ := after
    have failing (e : RecoveryError) : (do
        Schema.quietClose
        throw e : InspectionProgram InspectionEvidence).wp (everyReply InspectionWork.observe) w
          (fun r w => ∃ e, r = .error e ∧ Schema.Bounded (.error e) w) := by
      refine wpBind everyReplyMono (wpMono everyReplyMono (quiet w w) (fun r w' same => ?_))
      subst same
      cases r with
      | error e' => exact ⟨e',rfl,Schema.failedBounded budget calls⟩
      | ok done => exact ⟨e,rfl,Schema.failedBounded budget calls⟩
    cases r with
    | error e =>
      refine wpMono everyReplyMono (failing e) (fun r w' after => ?_)
      obtain ⟨e',rfl,bounded⟩ := after
      exact bounded
    | ok result =>
      obtain ⟨sizeBytes,digest⟩ := result
      obtain ⟨hashed,length,fits⟩ := read sizeBytes digest rfl
      refine requiring (fun some_ => ?_) (fun _ => ?_)
      · intro r
        cases r with
        | error failure => exact Schema.failedBounded budget calls
        | ok done =>
          refine ⟨budget,calls,fun e h => ?_,fun e h => ?_⟩
          · cases h
            exact congrArg sha256Hex hashed
          · cases h
            exact ⟨congrArg Nat.cast (length.trans (congrArg List.length hashed)),by simp only; omega,
              by simp only; omega⟩
      · refine wpMono everyReplyMono (failing Schema.wrongSize) (fun r w' after => ?_)
        obtain ⟨e',rfl,bounded⟩ := after
        exact bounded

-- A read in an undisturbed stream: what comes next, and something unless the end is reached.
structure Continues (content : Bytes) (offset size : Nat) (chunk : Bytes) : Prop where
  next : chunk <+: content.drop offset
  some_ : 0 < size → offset < content.length → chunk ≠ []

theorem continuesTake {content chunk : Bytes} {offset size : Nat} (next : Continues content offset size chunk) :
    content.take offset ++ chunk = content.take (offset + chunk.length) := by
  rw [List.take_add,← List.prefix_iff_eq_take.mp next.next]

theorem continuesWithin {content chunk : Bytes} {offset size : Nat} (next : Continues content offset size chunk)
    (within : offset ≤ content.length) : offset + chunk.length ≤ content.length := by
  have short := next.next.length_le
  rw [List.length_drop] at short
  omega

section
variable {σ : Type} {answer : (s : InspectionCall) → σ → s.Reply × σ} {offset : σ → Nat} {content : Bytes}

-- A regular file that nothing changes while it is inspected; each read may be as short as it likes.
structure StableFile (answer : (s : InspectionCall) → σ → s.Reply × σ) (offset : σ → Nat) (content : Bytes)
    (status : FileStatus) : Prop where
  regular : Backup.sIsreg status.mode = true
  size : status.size = content.length
  directory : ∀ parent name st, ∃ descriptor, (answer (.openDirectory parent name) st).1 = .ok descriptor
  file : ∀ parent name st, ∃ descriptor, (answer (.openFile parent name) st).1 = .ok descriptor
  rewound : ∀ parent name st, offset (answer (.openFile parent name) st).2 = 0
  closed : ∀ descriptor st, (answer (.close descriptor) st).1 = .ok () ∧
    offset (answer (.close descriptor) st).2 = offset st
  fstat : ∀ descriptor st, (answer (.fstat descriptor) st).1 = .ok status ∧
    offset (answer (.fstat descriptor) st).2 = offset st
  read : ∀ descriptor size st, ∃ chunk, (answer (.read descriptor size) st).1 = .ok chunk ∧
    Continues content (offset st) size chunk.1 ∧
    offset (answer (.read descriptor size) st).2 = offset st + chunk.1.length

structure StableResource (answer : (s : InspectionCall) → σ → s.Reply × σ) (offset : σ → Nat) (content : Bytes) :
    Prop where
  opened : ∀ st, (answer .openResource st).1 = .ok () ∧ offset (answer .openResource st).2 = 0
  read : ∀ size st, ∃ chunk, (answer (.readResource size) st).1 = .ok (.bytes chunk) ∧
    Continues content (offset st) size chunk.1 ∧
    offset (answer (.readResource size) st).2 = offset st + chunk.1.length
  closed : ∀ st, (answer .closeResource st).1 = .ok ()

namespace Backup

theorem readChunksStable {status : FileStatus} (stable : StableFile answer offset content status)
    {descriptor maximum bytesRead : Nat} (fits : content.length ≤ maximum) {st : σ} (here : offset st = bytesRead)
    (within : bytesRead ≤ content.length) :
    ∃ st', (readChunks descriptor maximum bytesRead (content.take bytesRead)).eval answer st =
      (.ok (content.length,content),st') := by
  induction left : maximum - bytesRead using Nat.strongRecOn generalizing bytesRead st with
  | _ left' ih =>
    have whole (ended : bytesRead = content.length) : (bytesRead,content.take bytesRead) = (content.length,content) := by
      rw [ended,List.take_length]
    rw [readChunks]
    split
    · rename_i more
      obtain ⟨⟨chunk,short⟩,replied,next,moved⟩ := stable.read descriptor (min hashChunkBytes (maximum - bytesRead)) st
      rw [here] at next moved
      rw [Program.evalCall,replied]
      cases chunk with
      | nil =>
        have ended : bytesRead = content.length := by
          by_contra open_
          refine next.some_ ?_ (by omega) rfl
          exact lt_min (by decide) (by omega)
        exact ⟨_,congrArg (fun result => (Except.ok result,_)) (whole ended)⟩
      | cons b bytes =>
        have after := continuesWithin next within
        have size : (b::bytes).length = bytes.length + 1 := rfl
        have joined : content.take bytesRead ++ b::bytes = content.take (bytesRead + (b::bytes).length) :=
          continuesTake next
        simp only [joined]
        exact ih _ (by omega) moved after rfl
    · exact ⟨st,congrArg (fun result => (Except.ok result,_)) (whole (by omega))⟩

theorem closeStable {status : FileStatus} (stable : StableFile answer offset content status) (descriptor : Nat) (st : σ) :
    ∃ st', (closeDescriptor descriptor).eval answer st = (.ok (),st') ∧ offset st' = offset st := by
  obtain ⟨replied,kept⟩ := stable.closed descriptor st
  refine ⟨_,?_,kept⟩
  rw [closeDescriptor,Program.evalCall,replied]
  rfl

theorem closeParentStable {status : FileStatus} (stable : StableFile answer offset content status) (parent next : Nat)
    (st : σ) : ∃ st', (closeParent parent next).eval answer st = (.ok (),st') ∧ offset st' = offset st := by
  obtain ⟨replied,kept⟩ := stable.closed parent st
  refine ⟨_,?_,kept⟩
  change ((expecting OsFailure.isOsError notClosed (answer (.close parent) st).1).handle _).eval answer _ = _
  rw [replied]
  rfl

theorem parentsStable {status : FileStatus} (stable : StableFile answer offset content status) (parent : Nat)
    (components : List PyStr) (st : σ) :
    ∃ descriptor st', (openParents parent components).eval answer st = (.ok descriptor,st') := by
  induction components generalizing parent st with
  | nil => exact ⟨parent,st,rfl⟩
  | cons component components ih =>
    obtain ⟨next,replied⟩ := stable.directory (some parent) component st
    obtain ⟨after,closing,-⟩ := closeParentStable stable parent next (answer (.openDirectory (some parent) component) st).2
    obtain ⟨descriptor,ended,rest⟩ := ih next after
    refine ⟨descriptor,ended,?_⟩
    rw [openParents,Program.bindCall,Program.evalCall,replied]
    simp only [opened,Program.bindRet,Program.evalBind,closing,rest]

theorem openStable {status : FileStatus} (stable : StableFile answer offset content status) {path : PyStr}
    (known : (pathParts path).isOk = true) (st : σ) :
    ∃ descriptor st', (openBackupArtifact path).eval answer st = (.ok descriptor,st') ∧ offset st' = 0 := by
  unfold openBackupArtifact
  cases found : pathParts path with
  | error e => simp [found,Except.isOk,Except.toBool] at known
  | ok parts =>
    obtain ⟨anchor,parents,name⟩ := parts
    obtain ⟨root,rooted⟩ := stable.directory none anchor st
    obtain ⟨parent,walkedTo,walked⟩ := parentsStable stable root parents (answer (.openDirectory none anchor) st).2
    obtain ⟨artifact,replied⟩ := stable.file parent name walkedTo
    obtain ⟨ended,closing,kept⟩ := closeParentStable stable parent artifact (answer (.openFile parent name) walkedTo).2
    refine ⟨artifact,ended,?_,kept.trans (stable.rewound parent name walkedTo)⟩
    simp only [Program.ofExceptOk,Program.bindRet,Program.bindCall,Program.evalCall,rooted,expecting,Program.evalBind,
      walked,replied,opened,closing,Program.pureEq,Program.evalRet]

theorem descriptorStable {status : FileStatus} (stable : StableFile answer offset content status) (descriptor : Nat)
    {maximumSizeBytes : Int} (some_ : 1 ≤ content.length) (fits : content.length ≤ maximumSizeBytes) {st : σ}
    (start : offset st = 0) : ∃ st', (inspectDescriptor descriptor maximumSizeBytes).eval answer st =
      (.ok ⟨sha256Hex content,content.length⟩,st') := by
  obtain ⟨looked,kept⟩ := stable.fstat descriptor st
  obtain ⟨after,read⟩ := @readChunksStable _ answer offset content status stable descriptor maximumSizeBytes.toNat 0
    (by omega) _ (kept.trans start) (Nat.zero_le _)
  obtain ⟨again,-⟩ := stable.fstat descriptor after
  rw [List.take_zero] at read
  have sized : 0 < status.size ∧ status.size ≤ maximumSizeBytes := by
    rw [stable.size]
    omega
  have steady : (content.length : Int) = status.size ∧ True := ⟨stable.size.symm,trivial⟩
  refine ⟨(answer (.fstat descriptor) after).2,?_⟩
  unfold inspectDescriptor
  simp only [Program.bindCall,Program.evalCall,looked,expecting,Program.bindRet,requireHolds stable.regular,
    requireHolds sized,Program.evalBind,read,again,requireHolds steady,Program.pureEq,Program.evalRet]

end Backup

theorem backupStable {status : FileStatus} (stable : StableFile answer offset content status) {path : PyStr}
    (known : (Backup.pathParts path).isOk = true) (length : 1 ≤ path.length ∧ path.length ≤ Backup.maxPathCharacters)
    {maximumSizeBytes : Int} (allowed : maximumSizeBytes ≤ maxSignedBigint) (some_ : 1 ≤ content.length)
    (fits : content.length ≤ maximumSizeBytes) (st : σ) :
    ((inspectPostgresBackupArtifact true path maximumSizeBytes).eval answer st).1 =
      .ok ⟨sha256Hex content,content.length⟩ := by
  obtain ⟨descriptor,before,opening,start⟩ := Backup.openStable stable known st
  obtain ⟨after,inspected⟩ := Backup.descriptorStable stable descriptor some_ fits start
  obtain ⟨ended,closing,-⟩ := Backup.closeStable stable descriptor after
  have budget : 1 ≤ maximumSizeBytes ∧ maximumSizeBytes ≤ maxSignedBigint := ⟨by omega,allowed⟩
  have handled := Program.evalHandled (h := fun e => (do
    Backup.quietClose descriptor
    throw e : InspectionProgram InspectionEvidence)) inspected
  unfold inspectPostgresBackupArtifact
  simp only [requireHolds length,requireHolds budget,requireHolds trivial,Program.bindRet,Program.evalBind,opening,handled,
    closing,Program.pureEq,Program.evalRet]

namespace Schema

theorem readSchemaStable (stable : StableResource answer offset content) {sizeBytes : Nat} {st : σ}
    (here : offset st = sizeBytes) (within : sizeBytes ≤ content.length) (budget : sizeBytes ≤ maxSchemaBytes) :
    ∃ st', (readSchema sizeBytes (content.take sizeBytes)).eval answer st =
      (if content.length ≤ maxSchemaBytes then .ok (content.length,content) else .error wrongSize,st') := by
  induction left : maxSchemaBytes + 1 - sizeBytes using Nat.strongRecOn generalizing sizeBytes st with
  | _ left' ih =>
    rw [readSchema]
    obtain ⟨⟨chunk,short⟩,replied,next,moved⟩ :=
      stable.read (min Backup.hashChunkBytes (maxSchemaBytes - sizeBytes + 1)) st
    rw [here] at next moved
    rw [Program.evalCall,replied]
    cases chunk with
    | nil =>
      have ended : sizeBytes = content.length := by
        by_contra open_
        refine next.some_ ?_ (by omega) rfl
        exact lt_min (by decide) (by omega)
      have whole : (sizeBytes,content.take sizeBytes) = (content.length,content) := by
        rw [ended,List.take_length]
      rw [if_pos (ended ▸ budget)]
      exact ⟨_,congrArg (fun result => (Except.ok result,_)) whole⟩
    | cons b bytes =>
      have after : sizeBytes + (b::bytes).length ≤ content.length := continuesWithin next within
      have size : (b::bytes).length = bytes.length + 1 := rfl
      have joined : content.take sizeBytes ++ b::bytes = content.take (sizeBytes + (b::bytes).length) :=
        continuesTake next
      simp only
      split
      · rename_i larger
        rw [if_neg (by omega)]
        exact ⟨_,rfl⟩
      · rename_i fitting
        rw [joined]
        exact ih _ (by omega) moved after (by omega) rfl

theorem quietCloseStable (stable : StableResource answer offset content) (st : σ) :
    (quietClose.eval answer st).1 = .ok () := by
  rw [quietClose,Program.evalCall,stable.closed st]
  rfl

end Schema

theorem schemaStable (stable : StableResource answer offset content) (st : σ) :
    (inspectPostgresSchema.eval answer st).1 =
      if 1 ≤ content.length ∧ content.length ≤ Schema.maxSchemaBytes then .ok ⟨sha256Hex content,content.length⟩
      else .error Schema.wrongSize := by
  obtain ⟨opened,start⟩ := stable.opened st
  obtain ⟨after,read⟩ := Schema.readSchemaStable stable start (Nat.zero_le _) (Nat.zero_le _)
  rw [List.take_zero] at read
  have failing (ran : Schema.inspectStream.eval answer (answer .openResource st).2 = (.error Schema.wrongSize,after)) :
      (inspectPostgresSchema.eval answer st).1 = .error Schema.wrongSize := by
    have handled := Program.evalRecovered (h := fun e => (do
      Schema.quietClose
      throw e : InspectionProgram InspectionEvidence)) ran
    have quiet := Schema.quietCloseStable stable after
    unfold inspectPostgresSchema
    simp only [Program.bindCall,Program.evalCall,opened,expecting,Program.bindRet,Program.evalBind,handled]
    generalize Schema.quietClose.eval answer after = closing at quiet ⊢
    obtain ⟨out,last⟩ := closing
    subst quiet
    rfl
  by_cases fits : content.length ≤ Schema.maxSchemaBytes
  · rw [if_pos fits] at read
    by_cases some_ : content.length = 0
    · rw [if_neg (by omega)]
      refine failing ?_
      unfold Schema.inspectStream
      rw [Program.evalBind,read]
      simp only [some_]
      rfl
    · have ran : Schema.inspectStream.eval answer (answer .openResource st).2 =
          (.ok ⟨sha256Hex content,content.length⟩,after) := by
        unfold Schema.inspectStream
        simp only [Program.evalBind,read,requireHolds some_,Program.evalRet,Program.pureEq]
      have handled := Program.evalHandled (h := fun e => (do
        Schema.quietClose
        throw e : InspectionProgram InspectionEvidence)) ran
      rw [if_pos ⟨by omega,fits⟩]
      unfold inspectPostgresSchema
      simp only [Program.bindCall,Program.evalCall,opened,expecting,Program.bindRet,Program.evalBind,handled,
        stable.closed after,Program.pureEq,Program.evalRet]
  · rw [if_neg fits] at read
    rw [if_neg (fun both => fits both.2)]
    refine failing ?_
    unfold Schema.inspectStream
    rw [Program.evalBind,read]

end

def watchedRun {σ α : Type} (p : InspectionProgram α) (answer : (s : InspectionCall) → σ → s.Reply × σ) (st : σ) :
    Except RecoveryError α × InspectionWork :=
  let run := p.eval (Program.watched InspectionWork.observe answer) (st,{})
  (run.1,run.2.2)

theorem boundedInspection {σ : Type} (answer : (s : InspectionCall) → σ → s.Reply × σ) (st : σ) :
    (∀ secure path maximumSizeBytes out work,
      watchedRun (inspectPostgresBackupArtifact secure path maximumSizeBytes) answer st = (out,work) →
      Backup.Bounded maximumSizeBytes out work) ∧
    (∀ offset content status path (maximumSizeBytes : Int), StableFile answer offset content status →
      (Backup.pathParts path).isOk = true → 1 ≤ path.length ∧ path.length ≤ Backup.maxPathCharacters →
      1 ≤ content.length → content.length ≤ maximumSizeBytes → maximumSizeBytes ≤ maxSignedBigint →
      (watchedRun (inspectPostgresBackupArtifact true path maximumSizeBytes) answer st).1 =
        .ok ⟨sha256Hex content,content.length⟩) ∧
    (∀ out work, watchedRun inspectPostgresSchema answer st = (out,work) → Schema.Bounded out work) ∧
    (∀ offset content, StableResource answer offset content →
      (watchedRun inspectPostgresSchema answer st).1 =
        if 1 ≤ content.length ∧ content.length ≤ Schema.maxSchemaBytes then .ok ⟨sha256Hex content,content.length⟩
        else .error Schema.wrongSize) := by
  refine ⟨?_,?_,?_,?_⟩
  · rintro secure path maximumSizeBytes out work ran
    cases ran
    exact Program.watchedHolds (backupBounded secure path maximumSizeBytes) answer st
  · intro offset content status path maximumSizeBytes stable known length some_ fits allowed
    rw [watchedRun,Program.watchedOutcome]
    exact backupStable stable known length allowed some_ fits st
  · rintro out work ran
    cases ran
    exact Program.watchedHolds schemaBounded answer st
  · intro offset content stable
    rw [watchedRun,Program.watchedOutcome]
    exact schemaStable stable st

end PgLlmBatch
