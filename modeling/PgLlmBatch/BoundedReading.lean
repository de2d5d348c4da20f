import PgLlmBatch.Base.Budgeted
import PgLlmBatch.Base.Fallible
import PgLlmBatch.ResultStreaming

/-! The two readers of a response body over adapters that may never stop: the bounded UTF-8 body of
one response, and the line reader of the streaming client with notes of what it holds and parses. -/
namespace PgLlmBatch
open Base

abbrev ChunkSource := Nat → Generator.Pull BodyChunk PyError

structure StreamedResponse where
  status : Int
  contentLength : Json
  iterChunked : Option ChunkSource

def StreamedResponse.within (limit : Nat) (response : StreamedResponse) : FileResponse :=
  ⟨response.status,response.contentLength,response.iterChunked.map (fun source => Generator.pulled source (limit + 1) 0)⟩

def collectChunk (response : FileResponse) (operation : String) (maxBytes : Nat) (payload : Bytes) :
    BodyChunk → Generator Nat PyError Bytes
  | .other => throw (invalidChunkError response operation)
  | .bytes bs =>
      if maxBytes < payload.length + bs.length then
        throw (downloadLimitError response operation maxBytes payload.length)
      else do
        Generator.yield (payload ++ bs).length
        return payload ++ bs

def decodeBody (response : FileResponse) (operation : String) (payload : Bytes) : Except PyError PyStr :=
  match decodeUtf8 payload with
  | .ok decoded => .ok decoded
  | .error start => .error (.gateway (operation ++ " returned invalid UTF-8") (some response.status)
      [("error_type",.str (py "UnicodeDecodeError")),("byte_offset",natJson start)])

def declaredTooLarge (response : FileResponse) (maxBytes : Nat) : Bool :=
  (response.declaredBytes.map (decide <| maxBytes < ·)).getD false

def readBoundedUtf8 (response : FileResponse) (operation : String) (maxBytes : Nat) : Generator Nat PyError PyStr := do
  if declaredTooLarge response maxBytes then
    throw (downloadLimitError response operation maxBytes 0)
  match response.iterChunked with
  | none => throw (missingStreamError response operation)
  | some (chunks,exhausted) =>
      let payload ← Generator.forEach (collectChunk response operation maxBytes) [] chunks
      Generator.ofExcept exhausted
      Generator.ofExcept (decodeBody response operation payload)

-- The same over a source: `none` when it asks for more than `fuel` chunks.
def readStreamedUtf8 (response : StreamedResponse) (operation : String) (maxBytes fuel : Nat) :
    Generator Nat PyError (Option PyStr) := do
  let head := response.within maxBytes
  if declaredTooLarge head maxBytes then
    throw (downloadLimitError head operation maxBytes 0)
  match response.iterChunked with
  | none => throw (missingStreamError head operation)
  | some source =>
      let payload ← Generator.pulls (collectChunk head operation maxBytes) source fuel 0 []
      match payload with
      | none => return none
      | some payload =>
          let decoded ← Generator.ofExcept (decodeBody head operation payload)
          return some decoded

def Answers (source : ChunkSource) (k : Nat) (parts : List Bytes) : Prop :=
  ∀ j bs, parts[j]? = some bs → source (k + j) = .value (.bytes bs)

theorem answersCons {source : ChunkSource} {k : Nat} {bs : Bytes} {parts : List Bytes} :
    Answers source k (bs::parts) ↔ source k = .value (.bytes bs) ∧ Answers source (k + 1) parts := by
  refine ⟨fun answers => ⟨answers 0 bs rfl,fun j part here => ?_⟩,fun answers j part here => ?_⟩
  · have later := answers (j + 1) part here
    rwa [show k + (j + 1) = k + 1 + j by omega] at later
  · obtain ⟨first,rest⟩ := answers
    cases j with
    | zero =>
      cases here
      exact first
    | succ j =>
      have later := rest j part here
      rwa [show k + (j + 1) = k + 1 + j by omega]

-- Some `maxBytes + 1` byte chunks that together hold no more than `maxBytes`, and one more chunk
-- after them.
def StillReading (source : ChunkSource) (maxBytes : Nat) : Prop :=
  ∃ parts : List Bytes, parts.length = maxBytes + 1 ∧ parts.flatten.length ≤ maxBytes ∧ Answers source 0 parts ∧
    ∃ chunk, source (maxBytes + 1) = .value chunk

section
variable (response : FileResponse) (operation : String) (maxBytes : Nat)

theorem collectEnded (payload : Bytes) (chunk : BodyChunk) {payload' : Bytes} :
    (collectChunk response operation maxBytes payload chunk).ended = .ok payload' ↔
      ∃ bs, chunk = .bytes bs ∧ payload.length + bs.length ≤ maxBytes ∧ payload' = payload ++ bs := by
  cases chunk with
  | other => exact ⟨fun other => (by cases other),fun ⟨bs,other,_⟩ => by cases other⟩
  | bytes bs =>
    unfold collectChunk
    dsimp only
    by_cases beyond : maxBytes < payload.length + bs.length
    · rw [if_pos beyond]
      refine ⟨fun other => (by cases other),fun ⟨bs',same,fits,_⟩ => ?_⟩
      cases same
      omega
    · rw [if_neg beyond]
      refine ⟨fun ended => ?_,fun ⟨bs',same,_,next⟩ => ?_⟩
      · cases ended
        exact ⟨bs,rfl,Nat.not_lt.mp beyond,rfl⟩
      · cases same
        rw [next]
        rfl

theorem collectHolds (payload : Bytes) (chunk : BodyChunk) :
    ∀ held ∈ (collectChunk response operation maxBytes payload chunk).yields, held ≤ maxBytes := by
  intro held mem
  cases chunk with
  | other => cases mem
  | bytes bs =>
    unfold collectChunk at mem
    dsimp only at mem
    split at mem
    · cases mem
    · rename_i fits
      rw [Generator.yieldBind] at mem
      rcases List.mem_cons.mp mem with rfl | none_
      · rw [List.length_append]
        exact Nat.not_lt.mp fits
      · cases none_

theorem bodyEndless (source : ChunkSource) (fuel k : Nat) (payload : Bytes) :
    (Generator.pulls (collectChunk response operation maxBytes) source fuel k payload).ended = .ok none ↔
      ∃ parts : List Bytes, parts.length = fuel ∧ (fuel = 0 ∨ payload.length + parts.flatten.length ≤ maxBytes) ∧
        Answers source k parts ∧ ∃ chunk, source (k + fuel) = .value chunk := by
  induction fuel generalizing k payload with
  | zero =>
    unfold Generator.pulls
    cases pull : source k with
    | exhausted => exact ⟨fun other => (by cases other),by rintro ⟨_,_,_,_,_,more⟩; cases more⟩
    | raised e => exact ⟨fun other => (by cases other),by rintro ⟨_,_,_,_,_,more⟩; cases more⟩
    | value chunk => exact ⟨fun _ => ⟨[],rfl,.inl rfl,fun _ _ none_ => (by cases none_),chunk,rfl⟩,fun _ => rfl⟩
  | succ fuel ih =>
    have refused (stuck : ∀ bs, source k = .value (.bytes bs) → maxBytes < payload.length + bs.length) :
        ¬∃ parts : List Bytes, parts.length = fuel + 1 ∧
          (fuel + 1 = 0 ∨ payload.length + parts.flatten.length ≤ maxBytes) ∧ Answers source k parts ∧
          ∃ chunk, source (k + (fuel + 1)) = .value chunk := by
      rintro ⟨parts,count,fits,answers,_⟩
      cases parts with
      | nil => cases count
      | cons bs parts =>
        have beyond := stuck bs (answersCons.mp answers).1
        rcases fits with none_ | fits
        · cases none_
        · rw [List.flatten_cons,List.length_append] at fits
          omega
    unfold Generator.pulls
    cases pull : source k with
    | exhausted => exact ⟨fun other => (by cases other),fun found => absurd found (refused (fun bs same => by cases pull.symm.trans same))⟩
    | raised e => exact ⟨fun other => (by cases other),fun found => absurd found (refused (fun bs same => by cases pull.symm.trans same))⟩
    | value chunk =>
      dsimp only
      cases ended : (collectChunk response operation maxBytes payload chunk).ended with
      | error e =>
        rw [Generator.bindError _ ended]
        refine ⟨fun other => (by cases other),fun found => absurd found (refused (fun bs same => ?_))⟩
        rw [pull] at same
        cases same
        refine Nat.not_le.mp (fun fits => ?_)
        rw [(collectEnded response operation maxBytes payload (.bytes bs)).mpr ⟨bs,rfl,fits,rfl⟩] at ended
        cases ended
      | ok payload' =>
        obtain ⟨bs,rfl,fits,rfl⟩ := (collectEnded response operation maxBytes payload chunk).mp ended
        rw [Generator.bindOk _ ended,ih (k + 1) (payload ++ bs)]
        constructor
        · rintro ⟨parts,count,within,answers,more⟩
          refine ⟨bs::parts,congrArg (· + 1) count,.inr ?_,answersCons.mpr ⟨pull,answers⟩,?_⟩
          · rw [List.flatten_cons,List.length_append]
            rcases within with none_ | within
            · cases List.eq_nil_of_length_eq_zero (count.trans none_)
              simpa using fits
            · rw [List.length_append] at within
              omega
          · rwa [show k + (fuel + 1) = k + 1 + fuel by omega]
        · rintro ⟨parts,count,within,answers,more⟩
          cases parts with
          | nil => cases count
          | cons bs' parts =>
            obtain ⟨first,rest⟩ := answersCons.mp answers
            cases pull.symm.trans first
            refine ⟨parts,Nat.succ.inj count,.inr ?_,rest,?_⟩
            · rcases within with none_ | within
              · cases none_
              · rw [List.flatten_cons,List.length_append] at within
                rw [List.length_append]
                omega
            · rwa [show k + (fuel + 1) = k + 1 + fuel by omega] at more

end

theorem streamedEndless (response : StreamedResponse) (operation : String) (maxBytes : Nat) :
    (readStreamedUtf8 response operation maxBytes (maxBytes + 1)).ended = .ok none ↔
      declaredTooLarge (response.within maxBytes) maxBytes = false ∧
        ∃ source, response.iterChunked = some source ∧ StillReading source maxBytes := by
  unfold readStreamedUtf8
  dsimp only
  by_cases declared : declaredTooLarge (response.within maxBytes) maxBytes = true
  · rw [if_pos declared,declared]
    exact ⟨fun other => (by cases other),fun other => by cases other.1⟩
  rw [if_neg declared]
  cases body : response.iterChunked with
  | none => exact ⟨fun other => (by cases other),fun ⟨_,_,other,_⟩ => by cases other⟩
  | some source =>
    have endless := bodyEndless (response.within maxBytes) operation maxBytes source (maxBytes + 1) 0 []
    simp only [Nat.add_eq_zero_iff,Nat.one_ne_zero,and_false,false_or,List.length_nil,Nat.zero_add] at endless
    have same : StillReading source maxBytes ↔ ∃ found, some source = some found ∧ StillReading found maxBytes :=
      ⟨fun reading => ⟨source,rfl,reading⟩,fun ⟨_,found,reading⟩ => Option.some.inj found ▸ reading⟩
    rw [← same,and_iff_right (Bool.eq_false_iff.mpr declared)]
    refine Iff.trans ?_ endless
    dsimp only
    cases ended : (Generator.pulls (collectChunk (response.within maxBytes) operation maxBytes) source (maxBytes + 1) 0 []).ended with
    | error e =>
      rw [Generator.bindError _ ended]
      exact ⟨fun other => (by cases other),fun other => by cases other⟩
    | ok payload =>
      rw [Generator.bindOk _ ended]
      cases payload with
      | none => exact ⟨fun _ => rfl,fun _ => rfl⟩
      | some payload =>
        dsimp only
        cases decodeBody (response.within maxBytes) operation payload with
        | error e => exact ⟨fun other => (by cases other),fun other => by cases other⟩
        | ok decoded => exact ⟨fun other => (by cases other),fun other => by cases other⟩

theorem payloadHolds (response : StreamedResponse) (operation : String) (maxBytes fuel : Nat) :
    ∀ held ∈ (readStreamedUtf8 response operation maxBytes fuel).yields, held ≤ maxBytes := by
  unfold readStreamedUtf8
  dsimp only
  split
  · exact fun _ mem => by cases mem
  · cases response.iterChunked with
    | none => exact fun _ mem => by cases mem
    | some source =>
      intro held mem
      dsimp only at mem
      rcases Generator.bindYields mem with here | ⟨payload,_,there⟩
      · exact Generator.pullsYields (collectHolds _ operation maxBytes) source fuel 0 [] held here
      · cases payload with
        | none => cases there
        | some payload =>
          rcases Generator.bindYields there with here | ⟨_,_,there⟩
          · cases here
          · cases there

inductive ReadEvent where
  | held (pending accepted : Nat)
  | parsing
  deriving DecidableEq, Repr

abbrev NotedLines := Generator (ReadEvent ⊕ (PhysicalJsonlLine × Nat)) PyError

section
variable (c : StreamLimits) (i : Interpreter)

def notedLine (kind : FileKind) (newlineTerminated : Bool) (count : LineCount) (line : Bytes) : NotedLines LineCount := do
  let lineNumber := count.lineNumber + 1
  let observed ← Generator.ofExcept (observeLine c kind lineNumber count.observed)
  Generator.note .parsing
  let record ← Generator.ofExcept (parseJsonlLine c i kind lineNumber line)
  Generator.yield (.inr (⟨lineNumber,line,newlineTerminated,record⟩,observed))
  return ⟨lineNumber,observed⟩

def notedChunk (kind : FileKind) (response : FileResponse) (b : LineBuffer) (chunk : BodyChunk) : NotedLines LineBuffer :=
  match chunk with
  | .other => throw (invalidChunkError response kind.operation)
  | .bytes bs => do
      if bs.length = 0 then
        throw (.gateway (kind.operation ++ " response yielded an empty stream chunk") (some response.status)
          [("error_type",.str (py "NoForwardProgress"))])
      if downloadChunkBytes < bs.length then
        throw (.gateway (kind.operation ++ " response chunk exceeded byte limit") (some response.status)
          [("error_type",.str (py "OversizedByteChunk")),("limit_bytes",natJson downloadChunkBytes),
           ("chunk_bytes",natJson bs.length)])
      if c.maxDownloadBytes < b.bytesRead + bs.length then
        throw (downloadLimitError response kind.operation c.maxDownloadBytes b.bytesRead)
      Generator.note (.held (b.pending ++ bs).length (b.bytesRead + bs.length))
      let (lines,pending) := cutLines (b.pending ++ bs)
      let count ← Generator.forEach (notedLine c i kind true) b.count lines
      if c.maxJsonlLineBytes < pending.length then
        throw (lineLimitError c kind (count.lineNumber + 1) pending.length)
      return ⟨pending,b.bytesRead + bs.length,count⟩

def notedRefusal (kind : FileKind) (response : FileResponse) : Except PyError Unit :=
  if response.status ≠ 200 then
    .error (.gateway (kind.operation ++ s!" failed: {response.status}") (some response.status) [("file_kind",kind.json)])
  else if declaredTooLarge response c.maxDownloadBytes then
    .error (downloadLimitError response kind.operation c.maxDownloadBytes 0)
  else .ok ()

def notedRemainder (kind : FileKind) (b : LineBuffer) : NotedLines Nat :=
  if b.pending.isEmpty then return b.count.observed
  else do
    let count ← notedLine c i kind false b.count b.pending
    return count.observed

def notedJsonlLines (kind : FileKind) (response : FileResponse) (observed : Nat) : NotedLines Nat := do
  Generator.ofExcept (notedRefusal c kind response)
  match response.iterChunked with
  | none => throw (missingStreamError response kind.operation)
  | some (chunks,exhausted) =>
      let b ← Generator.forEach (notedChunk c i kind response) ⟨[],0,⟨0,observed⟩⟩ chunks
      Generator.ofExcept exhausted
      notedRemainder c i kind b

-- `_iter_jsonl_file_lines` over a source: `none` when it asks for more than `fuel` chunks.
def streamedJsonlLines (kind : FileKind) (response : StreamedResponse) (fuel observed : Nat) : NotedLines (Option Nat) := do
  let head := response.within c.maxDownloadBytes
  Generator.ofExcept (notedRefusal c kind head)
  match response.iterChunked with
  | none => throw (missingStreamError head kind.operation)
  | some source =>
      let b ← Generator.pulls (notedChunk c i kind head) source fuel 0 ⟨[],0,⟨0,observed⟩⟩
      match b with
      | none => return none
      | some b =>
          let observed ← notedRemainder c i kind b
          return some observed

theorem lineUnnoted (kind : FileKind) (terminated : Bool) (count : LineCount) (line : Bytes) :
    (notedLine c i kind terminated count line).unnoted = yieldLine c i kind terminated count line := by
  unfold notedLine yieldLine
  simp only [Generator.unnotedBind,Generator.unnotedExcept,Generator.unnotedNote,Generator.unnotedYield,
    Generator.unnotedPure,Generator.pureBind]

theorem chunkUnnoted (kind : FileKind) (response : FileResponse) (b : LineBuffer) (chunk : BodyChunk) :
    (notedChunk c i kind response b chunk).unnoted = takeChunk c i kind response b chunk := by
  unfold notedChunk takeChunk
  cases chunk with
  | other => rfl
  | bytes bs =>
    dsimp only
    by_cases empty : bs.length = 0
    · rw [if_pos empty,if_pos empty]
      rfl
    rw [if_neg empty,if_neg empty]
    by_cases large : downloadChunkBytes < bs.length
    · rw [if_pos large,if_pos large]
      rfl
    rw [if_neg large,if_neg large]
    by_cases beyond : c.maxDownloadBytes < b.bytesRead + bs.length
    · rw [if_pos beyond,if_pos beyond]
      rfl
    rw [if_neg beyond,if_neg beyond]
    simp only [Generator.unnotedBind,Generator.unnotedNote,Generator.pureBind,Generator.unnotedEach,lineUnnoted]
    refine congrArg (_ >>= ·) (funext fun count => ?_)
    split
    · rfl
    · rfl

theorem linesUnnoted (kind : FileKind) (response : FileResponse) (observed : Nat) :
    (notedJsonlLines c i kind response observed).unnoted = readJsonlLines c i kind response observed := by
  unfold notedJsonlLines readJsonlLines notedRefusal declaredTooLarge
  by_cases status : response.status ≠ 200
  · rw [if_pos status,if_pos status]
    rfl
  rw [if_neg status,if_neg status]
  by_cases declared : (response.declaredBytes.map (decide <| c.maxDownloadBytes < ·)).getD false = true
  · rw [if_pos declared,if_pos declared]
    rfl
  rw [if_neg declared,if_neg declared,Generator.ofExceptOk]
  cases response.iterChunked with
  | none => rfl
  | some body =>
    obtain ⟨chunks,exhausted⟩ := body
    simp only [Generator.unnotedBind,Generator.unnotedExcept,Generator.unnotedEach,chunkUnnoted]
    refine congrArg (_ >>= ·) (funext fun b => congrArg (_ >>= ·) (funext fun _ => ?_))
    unfold notedRemainder
    split
    · rfl
    · simp only [Generator.unnotedBind,lineUnnoted,Generator.unnotedPure]

theorem chunkAccepted (kind : FileKind) (response : FileResponse) (b : LineBuffer) (chunk : BodyChunk) :
    (∃ e, notedChunk c i kind response b chunk = throw e) ∨
    ∃ bs, 0 < bs.length ∧ bs.length ≤ downloadChunkBytes ∧ b.bytesRead + bs.length ≤ c.maxDownloadBytes ∧
      notedChunk c i kind response b chunk = (do
        Generator.note (.held (b.pending ++ bs).length (b.bytesRead + bs.length))
        let count ← Generator.forEach (notedLine c i kind true) b.count (cutLines (b.pending ++ bs)).1
        if c.maxJsonlLineBytes < (cutLines (b.pending ++ bs)).2.length then
          throw (lineLimitError c kind (count.lineNumber + 1) (cutLines (b.pending ++ bs)).2.length)
        return ⟨(cutLines (b.pending ++ bs)).2,b.bytesRead + bs.length,count⟩) := by
  unfold notedChunk
  cases chunk with
  | other => exact .inl ⟨_,rfl⟩
  | bytes bs =>
    dsimp only
    by_cases empty : bs.length = 0
    · rw [if_pos empty]
      exact .inl ⟨_,rfl⟩
    rw [if_neg empty]
    by_cases large : downloadChunkBytes < bs.length
    · rw [if_pos large]
      exact .inl ⟨_,rfl⟩
    rw [if_neg large]
    by_cases beyond : c.maxDownloadBytes < b.bytesRead + bs.length
    · rw [if_pos beyond]
      exact .inl ⟨_,rfl⟩
    rw [if_neg beyond]
    exact .inr ⟨bs,Nat.pos_of_ne_zero empty,Nat.not_lt.mp large,Nat.not_lt.mp beyond,rfl⟩

-- The notes of a run: what it holds stays within the limits of one line and of the file, and each
-- line parsed is one of the batch's.
def ReadEvent.Fits : ReadEvent → Prop
  | .held pending accepted => pending ≤ c.maxJsonlLineBytes + downloadChunkBytes ∧ accepted ≤ c.maxDownloadBytes
  | .parsing => True

def ReadEvent.lines : ReadEvent → Nat
  | .held _ _ => 0
  | .parsing => 1

abbrev WithinBudget {Y α : Type} (before : Nat) (g : Generator (ReadEvent ⊕ Y) PyError α) (post : α → Nat → Prop) : Prop :=
  Generator.Budgeted (Sum.elim ReadEvent.lines (fun _ => 0)) (Sum.elim (ReadEvent.Fits c) (fun _ => True))
    c.maxJsonlPhysicalLines before g post

variable {c i}

theorem lineBudget (kind : FileKind) (terminated : Bool) (count : LineCount) (line : Bytes) (n : Nat)
    (observed : count.observed = n) :
    WithinBudget c n (notedLine c i kind terminated count line) (fun count n => count.observed = n) := by
  unfold notedLine
  refine Generator.budgetedBind (fun observed m => observed = n + 1 ∧ n + 1 ≤ c.maxJsonlPhysicalLines ∧ m = n)
    (Generator.budgetedExcept (fun next seen => ?_)) (fun next m reached => ?_)
  · unfold observeLine at seen
    split at seen
    · cases seen
    · cases seen
      exact ⟨by omega,by omega,rfl⟩
  · obtain ⟨rfl,enough,rfl⟩ := reached
    refine Generator.budgetedBind (fun _ k => k = m + 1) (Generator.budgetedYield trivial (fun _ => enough) rfl) (fun _ k parsed => ?_)
    subst parsed
    refine Generator.budgetedBind (fun _ k => k = m + 1) (Generator.budgetedExcept (fun _ _ => rfl)) (fun _ k same => ?_)
    subst same
    refine Generator.budgetedBind (fun _ k => k = m + 1) (Generator.budgetedYield trivial (fun _ => enough) rfl) (fun _ k same => ?_)
    subst same
    exact Generator.budgetedPure rfl

structure KeptBuffer (c : StreamLimits) (b : LineBuffer) (n : Nat) : Prop where
  observed : b.count.observed = n
  pending : b.pending.length ≤ c.maxJsonlLineBytes
  accepted : b.bytesRead ≤ c.maxDownloadBytes

theorem chunkBudget (kind : FileKind) (response : FileResponse) (b : LineBuffer) (chunk : BodyChunk) (n : Nat)
    (kept : KeptBuffer c b n) : WithinBudget c n (notedChunk c i kind response b chunk) (KeptBuffer c) := by
  obtain ⟨e,refused⟩ | ⟨bs,_,fits,within,taken⟩ := chunkAccepted c i kind response b chunk
  · rw [refused]
    exact Generator.budgetedThrow
  · rw [taken]
    have pending := kept.pending
    refine Generator.budgetedBind (fun _ k => k = n) (Generator.budgetedYield ?_ id rfl) (fun _ k same => ?_)
    · exact ⟨by rw [List.length_append]; omega,within⟩
    · subst same
      refine Generator.budgetedBind (fun count n => count.observed = n)
        (Generator.budgetedEach (fun count n line _ observed => lineBudget kind true count line n observed) _ kept.observed)
        (fun count m observed => ?_)
      split
      · exact Generator.budgetedThrow
      · rename_i short
        exact Generator.budgetedPure ⟨observed,Nat.not_lt.mp short,within⟩

theorem chunkProgress (kind : FileKind) (response : FileResponse) (b : LineBuffer) (chunk : BodyChunk) (b' : LineBuffer)
    (ended : (notedChunk c i kind response b chunk).ended = .ok b') :
    b.bytesRead < b'.bytesRead ∧ b'.bytesRead ≤ c.maxDownloadBytes := by
  obtain ⟨e,refused⟩ | ⟨bs,some_,_,within,taken⟩ := chunkAccepted c i kind response b chunk
  · rw [refused] at ended
    cases ended
  · rw [taken] at ended
    cases counted : (Generator.forEach (notedLine c i kind true) b.count (cutLines (b.pending ++ bs)).1).ended with
    | error e =>
      rw [Generator.note,Generator.yieldBind,Generator.bindError _ counted] at ended
      cases ended
    | ok count =>
      rw [Generator.note,Generator.yieldBind,Generator.bindOk _ counted] at ended
      dsimp only at ended
      split at ended
      · cases ended
      · cases ended
        exact ⟨by simp only; omega,within⟩

theorem remainderBudget (kind : FileKind) (b : LineBuffer) (n : Nat) (kept : KeptBuffer c b n) :
    WithinBudget c n (notedRemainder c i kind b) (fun observed n => observed = n) := by
  unfold notedRemainder
  split
  · exact Generator.budgetedPure kept.observed
  · exact Generator.budgetedBind (fun count n => count.observed = n) (lineBudget kind false b.count b.pending n kept.observed)
      (fun count m observed => Generator.budgetedPure observed)

theorem linesBudget (kind : FileKind) (response : FileResponse) (observed : Nat) :
    WithinBudget c observed (notedJsonlLines c i kind response observed) (fun observed n => observed = n) := by
  have start : KeptBuffer c ⟨[],0,⟨0,observed⟩⟩ observed := ⟨rfl,Nat.zero_le _,Nat.zero_le _⟩
  unfold notedJsonlLines
  refine Generator.budgetedBind (fun _ n => n = observed) (Generator.budgetedExcept (fun _ _ => rfl)) (fun _ n same => ?_)
  subst same
  cases response.iterChunked with
  | none => exact Generator.budgetedThrow
  | some body =>
    refine Generator.budgetedBind (KeptBuffer c)
      (Generator.budgetedEach (fun b n chunk _ kept => chunkBudget kind response b chunk n kept) _ start) (fun b m kept => ?_)
    refine Generator.budgetedBind (fun _ k => k = m) (Generator.budgetedExcept (fun _ _ => rfl)) (fun _ k same => ?_)
    subst same
    exact remainderBudget kind b k kept

theorem streamStops (kind : FileKind) (response : StreamedResponse) (observed : Nat) :
    streamedJsonlLines c i kind response (c.maxDownloadBytes + 1) observed =
      notedJsonlLines c i kind (response.within c.maxDownloadBytes) observed >>= fun observed => pure (some observed) := by
  unfold streamedJsonlLines notedJsonlLines
  dsimp only
  rw [Generator.bindAssoc]
  refine congrArg (_ >>= ·) (funext fun _ => ?_)
  cases body : response.iterChunked with
  | none => simp only [StreamedResponse.within,body,Option.map_none,Generator.throwBind]
  | some source =>
    simp only [StreamedResponse.within,body,Option.map_some]
    rw [Generator.pullsEnd LineBuffer.bytesRead (chunkProgress kind _) source _ 0 _
      (by simp only; omega) (Nat.zero_le _)]
    simp only [Generator.bindAssoc,Generator.pureBind]

end

section
variable (c : StreamLimits) (i : Interpreter) (p : Provider)

def notedFileLines (kind : FileKind) (fileId : Json) (observed : Nat) : NotedLines Nat := do
  let validatedFileId ← Generator.ofExcept (validateRemoteResourceId fileId (kind.name ++ "_file_id"))
  let response ← Generator.ofExcept (p.download kind validatedFileId)
  notedJsonlLines c i kind response observed

def notedFile (kind : FileKind) (fileId : Json) (observed : Nat) :
    Generator (ReadEvent ⊕ List (PyStr × Json)) PyError Nat := do
  let (observed,_) ← Generator.noted (notedFileLines c i p kind fileId observed) (fun _ line =>
    match line.1.record with
    | none => return ()
    | some record => Generator.yield record) ()
  return observed

def notedFileRecords (batchId : PyStr) (count : StreamCount) (file : FileKind × Json) :
    Generator (ReadEvent ⊕ BatchResultRecord) PyError StreamCount :=
  if file.2.truthy = false then return count
  else do
    let (observed,recordCount) ← Generator.noted (notedFile c i p file.1 file.2 count.observed)
      (fun recordCount record => do
        let recordCount := recordCount + 1
        Generator.ofExcept (enforceRecordLimit c file.1 recordCount)
        Generator.yield ⟨batchId,file.1,record⟩
        return recordCount) count.recordCount
    return ⟨observed,recordCount⟩

-- `iter_batch_results`.
def notedBatchRecords (batchId : PyStr) : Generator (ReadEvent ⊕ BatchResultRecord) PyError Unit := do
  let (validatedBatchId,files) ← Generator.ofExcept (validatedStreamFiles p batchId)
  let _ ← Generator.forEach (notedFileRecords c i p validatedBatchId) ⟨0,0⟩ files

def notedCheckpointedFile (batchId endpointAlias : PyStr) (scan : Nat × ResumeScan) (file : FileKind × Json) :
    Generator (ReadEvent ⊕ CheckpointedBatchResultRecord) PyError (Nat × ResumeScan) :=
  if file.2.truthy = false then return scan
  else do
    let validatedFileId ← Generator.ofExcept (validateRemoteResourceId file.2 (file.1.name ++ "_file_id"))
    let hashed ← Generator.ofExcept (addCheckpointFile scan.2.1.hashed (py file.1.name) validatedFileId)
    Generator.noted (notedFileLines c i p file.1 (.str validatedFileId) scan.1)
      (checkpointedLine c batchId endpointAlias file.1 validatedFileId) ({scan.2.1 with hashed := hashed},scan.2.2)

-- `iter_checkpointed_batch_results`.
def notedCheckpointedRecords (batchId endpointAlias : PyStr) (resumeAfter : Option BatchResultCheckpoint) :
    Generator (ReadEvent ⊕ CheckpointedBatchResultRecord) PyError Unit := do
  let start ← Generator.ofExcept (streamStart p batchId endpointAlias resumeAfter)
  let scan ← Generator.forEach (notedCheckpointedFile c i p start.batchId start.endpointAlias)
    (0,⟨start.hashed,0⟩,start.waiting) start.files
  Generator.lift (foundCheckpoint scan)

theorem fileLinesUnnoted (kind : FileKind) (fileId : Json) (observed : Nat) :
    (notedFileLines c i p kind fileId observed).unnoted = iterJsonlFileLines c i p kind fileId observed := by
  unfold notedFileLines iterJsonlFileLines
  simp only [Generator.unnotedBind,Generator.unnotedExcept,linesUnnoted]

theorem fileUnnoted (kind : FileKind) (fileId : Json) (observed : Nat) :
    (notedFile c i p kind fileId observed).unnoted = iterJsonlFile c i p kind fileId observed := by
  unfold notedFile iterJsonlFile
  rw [Generator.unnotedBind,Generator.unnotedNoted,fileLinesUnnoted]
  rfl

theorem fileRecordsUnnoted (batchId : PyStr) (count : StreamCount) (file : FileKind × Json) :
    (notedFileRecords c i p batchId count file).unnoted = fileRecords c i p batchId count file := by
  unfold notedFileRecords fileRecords
  split
  · rfl
  · simp only [Generator.unnotedBind,Generator.unnotedNoted,fileUnnoted,Generator.unnotedPure]

theorem recordsUnnoted (batchId : PyStr) : (notedBatchRecords c i p batchId).unnoted = iterBatchRecords c i p batchId := by
  unfold notedBatchRecords iterBatchRecords
  simp only [Generator.unnotedBind,Generator.unnotedExcept,Generator.unnotedEach,fileRecordsUnnoted,Generator.unnotedPure]

theorem checkpointedFileUnnoted (batchId endpointAlias : PyStr) (scan : Nat × ResumeScan) (file : FileKind × Json) :
    (notedCheckpointedFile c i p batchId endpointAlias scan file).unnoted =
      checkpointedFile c i p batchId endpointAlias scan file := by
  unfold notedCheckpointedFile checkpointedFile
  split
  · rfl
  · simp only [Generator.unnotedBind,Generator.unnotedExcept,Generator.unnotedNoted,fileLinesUnnoted]

theorem checkpointedUnnoted (batchId endpointAlias : PyStr) (resumeAfter : Option BatchResultCheckpoint) :
    (notedCheckpointedRecords c i p batchId endpointAlias resumeAfter).unnoted =
      iterCheckpointedBatchRecords c i p batchId endpointAlias resumeAfter := by
  rw [checkpointedStarts]
  unfold notedCheckpointedRecords checkpointedFiles
  simp only [Generator.unnotedBind,Generator.unnotedExcept,Generator.unnotedEach,checkpointedFileUnnoted,
    Generator.unnotedLift]

variable {c i p}

theorem fileLinesBudget (kind : FileKind) (fileId : Json) (observed : Nat) :
    WithinBudget c observed (notedFileLines c i p kind fileId observed) (fun observed n => observed = n) := by
  unfold notedFileLines
  refine Generator.budgetedBind (fun _ n => n = observed) (Generator.budgetedExcept (fun _ _ => rfl)) (fun _ n same => ?_)
  subst same
  refine Generator.budgetedBind (fun _ m => m = n) (Generator.budgetedExcept (fun _ _ => rfl)) (fun response m same => ?_)
  subst same
  exact linesBudget kind response m

theorem fileBudget (kind : FileKind) (fileId : Json) (observed : Nat) :
    WithinBudget c observed (notedFile c i p kind fileId observed) (fun observed n => observed = n) :=
  Generator.budgetedBind (fun r n => r.1 = n) (Generator.budgetedNoted (fileLinesBudget kind fileId observed) _ _)
    (fun _ _ reached => Generator.budgetedPure reached)

theorem recordsBudget (batchId : PyStr) :
    WithinBudget c 0 (notedBatchRecords c i p batchId) (fun _ _ => True) := by
  unfold notedBatchRecords
  refine Generator.budgetedBind (fun _ n => n = 0) (Generator.budgetedExcept (fun _ _ => rfl)) (fun found n same => ?_)
  subst same
  refine Generator.budgetedBind (fun count n => count.observed = n)
    (Generator.budgetedEach (fun count n file _ observed => ?_) _ rfl) (fun _ _ _ => Generator.budgetedPure trivial)
  unfold notedFileRecords
  split
  · exact Generator.budgetedPure observed
  · subst observed
    exact Generator.budgetedBind (fun r n => r.1 = n)
      (Generator.budgetedNoted (fileBudget file.1 file.2 count.observed) _ _)
      (fun _ _ reached => Generator.budgetedPure reached)

theorem checkpointedBudget (batchId endpointAlias : PyStr) (resumeAfter : Option BatchResultCheckpoint) :
    WithinBudget c 0 (notedCheckpointedRecords c i p batchId endpointAlias resumeAfter) (fun _ _ => True) := by
  unfold notedCheckpointedRecords
  refine Generator.budgetedBind (fun _ n => n = 0) (Generator.budgetedExcept (fun _ _ => rfl)) (fun start n same => ?_)
  subst same
  refine Generator.budgetedBind (fun scan n => scan.1 = n)
    (Generator.budgetedEach (fun scan n file _ observed => ?_) _ rfl) (fun scan n _ => ?_)
  · unfold notedCheckpointedFile
    split
    · exact Generator.budgetedPure observed
    · subst observed
      refine Generator.budgetedBind (fun _ m => m = scan.1) (Generator.budgetedExcept (fun _ _ => rfl)) (fun _ m same => ?_)
      subst same
      refine Generator.budgetedBind (fun _ m => m = scan.1) (Generator.budgetedExcept (fun _ _ => rfl)) (fun _ m same => ?_)
      subst same
      exact Generator.budgetedNoted (fileLinesBudget file.1 _ scan.1) _ _
  · unfold foundCheckpoint
    split
    · exact Generator.budgetedThrow
    · exact Generator.budgetedPure trivial

abbrev WithinRecords {Y α : Type} (c : StreamLimits) (before : Nat) (g : Generator Y PyError α) (post : α → Nat → Prop) : Prop :=
  Generator.Budgeted (fun _ => 1) (fun _ => True) c.maxJsonlRecords before g post

theorem spentOne {Y : Type} (ys : List Y) : Generator.spent (fun _ => 1) ys = ys.length := by
  induction ys with
  | nil => rfl
  | cons y ys ih =>
    rw [Generator.spentCons,ih,List.length_cons,Nat.add_comm]

theorem recordEnforced {kind : FileKind} {recordCount : Nat} {done : Unit}
    (enforced : enforceRecordLimit c kind recordCount = .ok done) : recordCount ≤ c.maxJsonlRecords := by
  unfold enforceRecordLimit at enforced
  split at enforced
  · cases enforced
  · omega

theorem fewRecords (batchId : PyStr) : (iterBatchRecords c i p batchId).yields.length ≤ c.maxJsonlRecords := by
  have budget : WithinRecords c 0 (iterBatchRecords c i p batchId) (fun _ _ => True) := by
    unfold iterBatchRecords
    refine Generator.budgetedBind (fun _ n => n = 0) (Generator.budgetedExcept (fun _ _ => rfl)) (fun found n same => ?_)
    subst same
    refine Generator.budgetedBind (fun count n => count.recordCount = n)
      (Generator.budgetedEach (fun count n file _ counted => ?_) _ rfl) (fun _ _ _ => Generator.budgetedPure trivial)
    unfold fileRecords
    split
    · exact Generator.budgetedPure counted
    · refine Generator.budgetedBind (fun r n => r.2 = n)
        (Generator.budgetedThrough (fun recordCount n => recordCount = n) (fun recordCount n record _ counted => ?_) _ counted)
        (fun _ _ reached => Generator.budgetedPure reached)
      subst counted
      dsimp only
      refine Generator.budgetedBind (fun _ n => n = recordCount ∧ recordCount + 1 ≤ c.maxJsonlRecords)
        (Generator.budgetedExcept (fun _ enforced => ⟨rfl,recordEnforced enforced⟩)) (fun _ n reached => ?_)
      obtain ⟨rfl,enough⟩ := reached
      exact Generator.budgetedBind (fun _ m => m = n + 1) (Generator.budgetedYield trivial (fun _ => enough) rfl)
        (fun _ _ same => Generator.budgetedPure same.symm)
  have whole := budget.within (Nat.zero_le _)
  rwa [spentOne,Nat.zero_add] at whole

theorem lineRecords (batchId endpointAlias : PyStr) (kind : FileKind) (fileId : PyStr) (scan : ResumeScan)
    (line : PhysicalJsonlLine × Nat) {n : Nat} (counted : n ≤ scan.1.recordCount) :
    WithinRecords c n (checkpointedLine c batchId endpointAlias kind fileId scan line)
      (fun scan n => n ≤ scan.1.recordCount) := by
  unfold checkpointedLine
  refine Generator.budgetedBind (fun r m => m = n ∧ (r.2 = none → n ≤ r.1.recordCount) ∧
    (r.2.isSome = true → n + 1 ≤ r.1.recordCount ∧ r.1.recordCount ≤ c.maxJsonlRecords))
    (Generator.budgetedExcept (fun r scanned => ?_)) (fun r m reached => ?_)
  · unfold scanLine at scanned
    obtain ⟨hashed,_,scanned⟩ := Fallible.bindOk.mp scanned
    dsimp only at scanned
    split at scanned
    · cases scanned
      exact ⟨rfl,fun _ => counted,fun other => by cases other⟩
    · obtain ⟨done,enforced,scanned⟩ := Fallible.bindOk.mp scanned
      obtain ⟨checkpoint,_,scanned⟩ := Fallible.bindOk.mp scanned
      cases scanned
      exact ⟨rfl,(fun other => by cases other),fun _ => ⟨Nat.succ_le_succ counted,recordEnforced enforced⟩⟩
  · obtain ⟨rfl,plain,whole⟩ := reached
    obtain ⟨next,item⟩ := r
    cases item with
    | none => exact Generator.budgetedPure (plain rfl)
    | some item =>
      obtain ⟨more,enough⟩ := whole rfl
      refine Generator.budgetedBind (fun _ k => k ≤ next.recordCount) ?_ (fun _ k reached => Generator.budgetedPure reached)
      unfold deliver
      split
      · split
        · exact Generator.budgetedPure (Nat.le_of_succ_le more)
        · split
          · exact Generator.budgetedThrow
          · exact Generator.budgetedPure (Nat.le_of_succ_le more)
      · exact Generator.budgetedBind (fun _ k => k = m + 1)
          (Generator.budgetedYield trivial (fun _ => Nat.le_trans more enough) rfl)
          (fun _ _ same => Generator.budgetedPure (same ▸ more))

theorem fewCheckpointed (batchId endpointAlias : PyStr) (resumeAfter : Option BatchResultCheckpoint) :
    (iterCheckpointedBatchRecords c i p batchId endpointAlias resumeAfter).yields.length ≤ c.maxJsonlRecords := by
  have budget : WithinRecords c 0 (iterCheckpointedBatchRecords c i p batchId endpointAlias resumeAfter) (fun _ _ => True) := by
    rw [checkpointedStarts]
    refine Generator.budgetedBind (fun _ n => n = 0) (Generator.budgetedExcept (fun _ _ => rfl)) (fun start n same => ?_)
    subst same
    refine Generator.budgetedBind (fun scan n => n ≤ scan.2.1.recordCount)
      (Generator.budgetedEach (fun scan n file _ counted => ?_) _ (Nat.le_refl _)) (fun scan n _ => ?_)
    · unfold checkpointedFile
      split
      · exact Generator.budgetedPure counted
      · refine Generator.budgetedBind (fun _ m => m = n) (Generator.budgetedExcept (fun _ _ => rfl)) (fun _ m same => ?_)
        subst same
        refine Generator.budgetedBind (fun _ k => k = m) (Generator.budgetedExcept (fun _ _ => rfl)) (fun _ k same => ?_)
        subst same
        exact Generator.budgetedThrough (fun (scan : ResumeScan) n => n ≤ scan.1.recordCount)
          (fun scan n line _ counted => lineRecords start.batchId start.endpointAlias file.1 _ scan line counted) _ counted
    · unfold foundCheckpoint
      split
      · exact Generator.budgetedThrow
      · exact Generator.budgetedPure trivial
  have whole := budget.within (Nat.zero_le _)
  rwa [spentOne,Nat.zero_add] at whole

end

def parsedLines {Y α : Type} (g : Generator (ReadEvent ⊕ Y) PyError α) : Nat :=
  Generator.spent (Sum.elim ReadEvent.lines (fun _ => 0)) g.yields

theorem readersBounded (c : StreamLimits) (i : Interpreter) (response : StreamedResponse) (operation : String) (maxBytes : Nat)
    (kind : FileKind) (observed : Nat) (p : Provider) (batchId endpointAlias : PyStr)
    (resumeAfter : Option BatchResultCheckpoint) :
    ((readStreamedUtf8 response operation maxBytes (maxBytes + 1)).ended ≠ .ok none ↔
      ¬(declaredTooLarge (response.within maxBytes) maxBytes = false ∧
        ∃ source, response.iterChunked = some source ∧ StillReading source maxBytes)) ∧
    (∀ fuel, ∀ held ∈ (readStreamedUtf8 response operation maxBytes fuel).yields, held ≤ maxBytes) ∧
    (streamedJsonlLines c i kind response (c.maxDownloadBytes + 1) observed).ended ≠ .ok none ∧
    (∀ w ∈ (streamedJsonlLines c i kind response (c.maxDownloadBytes + 1) observed).yields,
      Sum.elim (ReadEvent.Fits c) (fun _ => True) w) ∧
    streamedJsonlLines c i kind response (c.maxDownloadBytes + 1) observed =
      (notedJsonlLines c i kind (response.within c.maxDownloadBytes) observed >>= fun observed => pure (some observed)) ∧
    ((notedBatchRecords c i p batchId).unnoted = iterBatchRecords c i p batchId ∧
      (iterBatchRecords c i p batchId).yields.length ≤ c.maxJsonlRecords ∧
      parsedLines (notedBatchRecords c i p batchId) ≤ c.maxJsonlPhysicalLines) ∧
    (notedCheckpointedRecords c i p batchId endpointAlias resumeAfter).unnoted =
      iterCheckpointedBatchRecords c i p batchId endpointAlias resumeAfter ∧
      (iterCheckpointedBatchRecords c i p batchId endpointAlias resumeAfter).yields.length ≤ c.maxJsonlRecords ∧
      parsedLines (notedCheckpointedRecords c i p batchId endpointAlias resumeAfter) ≤ c.maxJsonlPhysicalLines := by
  have stops := streamStops (i := i) (c := c) kind response observed
  have reads : WithinBudget c observed (streamedJsonlLines c i kind response (c.maxDownloadBytes + 1) observed)
      (fun found _ => found ≠ none) := by
    rw [stops]
    exact Generator.budgetedBind _ (linesBudget kind _ observed) (fun _ _ _ => Generator.budgetedPure (fun other => by cases other))
  refine ⟨not_congr (streamedEndless response operation maxBytes),payloadHolds response operation maxBytes,
    fun endless => reads.ends none endless rfl,reads.fits,stops,
    ⟨recordsUnnoted c i p batchId,fewRecords batchId,?_⟩,checkpointedUnnoted c i p batchId endpointAlias resumeAfter,
    fewCheckpointed batchId endpointAlias resumeAfter,?_⟩
  · have whole := (recordsBudget (c := c) (i := i) (p := p) batchId).within (Nat.zero_le _)
    rwa [Nat.zero_add] at whole
  · have whole := (checkpointedBudget (c := c) (i := i) (p := p) batchId endpointAlias resumeAfter).within (Nat.zero_le _)
    rwa [Nat.zero_add] at whole

def emptyChunks : StreamedResponse := ⟨200,.null,some (fun _ => .value (.bytes []))⟩

-- Empty chunks count for nothing, so however many are read, the next one is asked for.
theorem emptyChunksEndless :
    ¬∃ fuel, (readStreamedUtf8 emptyChunks "Result download" 8 fuel).ended ≠ .ok none := by
  rintro ⟨fuel,finished⟩
  refine finished ?_
  have endless := (bodyEndless (emptyChunks.within 8) "Result download" 8 (fun _ => .value (.bytes [])) fuel 0 []).mpr
    ⟨List.replicate fuel [],List.length_replicate,.inr (by simp),fun j bs here => ?_,_,rfl⟩
  · change (Generator.pulls _ _ fuel 0 [] >>= _ : Generator Nat PyError (Option PyStr)).ended = _
    rw [Generator.bindOk _ endless]
    rfl
  · rw [(List.getElem?_eq_some_iff.mp here).2.symm]
    simp

end PgLlmBatch
