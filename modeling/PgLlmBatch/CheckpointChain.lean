import PgLlmBatch.CheckpointStore
import PgLlmBatch.Base.RowRuns

/-! Compare-and-swap over every interleaving: the committed values of a checkpoint row form
one chain, each value the expected predecessor of the writer that replaced it. -/
namespace PgLlmBatch
open Base
open Base.RowLocking

theorem consumerSame {name consumer : PyStr}
    (h : validateCheckpointConsumerName (.str name) = .ok consumer) : consumer = name := by
  cases (validIdentifier h).1
  rfl

theorem validatedSame {value c : BatchResultCheckpoint} {field : String}
    (h : validatedCheckpoint value field = .ok c) : c = value := by
  unfold validatedCheckpoint at h
  simp only [bind,Except.bind] at h
  split at h <;> try contradiction
  split at h <;> try contradiction
  split at h <;> try contradiction
  exact (Except.ok.inj h).symm

theorem previousSame {expected previous : Option BatchResultCheckpoint}
    (h : expected.mapM (fun p => validatedCheckpoint p "expected_previous") = .ok previous) :
    previous = expected := by
  cases expected with
  | none => exact (Except.ok.inj h).symm
  | some p =>
    cases checked : validatedCheckpoint p "expected_previous" with
    | error e => simp [checked] at h
    | ok c =>
      cases validatedSame checked
      simp [checked] at h
      exact h.symm

theorem rowValues {key : CheckpointKey} {row : StoredCheckpoint} {c : BatchResultCheckpoint}
    (h : checkpointFromRow key row = .ok c) :
    checkpointValues c = row ∧ c.batchId = key.remoteBatchId ∧ c.endpointAlias = key.endpointAlias := by
  have fields := newFields h
  simp [checkpointValues,fields]

structure Advance (store : PostgresBatchResultCheckpointStore) (consumer : PyStr)
    (checkpoint : BatchResultCheckpoint) (expectedPrevious : Option BatchResultCheckpoint)
    (w : Write CheckpointKey StoredCheckpoint) : Prop where
  own : w.key = store.keyOf consumer checkpoint
  stored : w.after = checkpointValues checkpoint
  swapped : w.before = expectedPrevious.map checkpointValues
  same : ∀ p ∈ expectedPrevious, p.batchId = checkpoint.batchId ∧ p.endpointAlias = checkpoint.endpointAlias
  grows : ∀ old ∈ w.before, old.recordCount < checkpoint.recordCount ∧
    old.batchLineCount < checkpoint.batchLineCount

section
variable {Work Answer : Type} (store : PostgresBatchResultCheckpointStore)
  (accepts : (s : Statement CheckpointKey StoredCheckpoint PyStr Work) → Reply Answer s → Prop)
  {rule : Act CheckpointKey StoredCheckpoint Work → Prop} {consumer : PyStr}
  {checkpoint : BatchResultCheckpoint} {expected : Option BatchResultCheckpoint}

-- What a save has done when it ends: nothing if it raised, and at most one write of its own
-- row if it returned. Only a row that equals the candidate makes it return without a write.
def SaveEnds (made : List (Act CheckpointKey StoredCheckpoint Work)) (consumer : PyStr)
    (checkpoint : BatchResultCheckpoint) :
    Except PyError BatchResultCheckpoint → Situation CheckpointKey StoredCheckpoint PyStr Work → Prop
  | .error _, st => st.made = made
  | .ok saved, st => saved = checkpoint ∧
      st.known (store.keyOf consumer checkpoint) = some (checkpointValues checkpoint) ∧
      ((accepts (.selectForUpdate (store.keyOf consumer checkpoint)) (some (checkpointValues checkpoint)) ∧
          st.made = made) ∨
        ∃ before, st.made =
          made ++ [.write ⟨store.keyOf consumer checkpoint,before,checkpointValues checkpoint⟩])

variable {store accepts}

theorem selectForUpdateEnds {α : Type} {key : CheckpointKey}
    {next : Option StoredCheckpoint → CheckpointProgram Work Answer α}
    {st : Situation CheckpointKey StoredCheckpoint PyStr Work}
    {Q : Except PyError α → Situation CheckpointKey StoredCheckpoint PyStr Work → Prop}
    (bound : st.scope = some key.tenantScope) (failed : Q (.error .unicodeEncodeError) st)
    (absent : st.known key = none → (next none).wp (spec checkpointPolicy rule accepts) st Q)
    (present : ∀ row st', accepts (.selectForUpdate key) (some row) → st'.scope = st.scope →
      st'.made = st.made → st'.known key = some row →
      (next (some row)).wp (spec checkpointPolicy rule accepts) st' Q) :
    (selectCheckpointForUpdate key >>= next).wp (spec checkpointPolicy rule accepts) st Q := by
  have shown : visible checkpointPolicy st.scope key = true := by
    simp [bound,visible,checkpointPolicy]
  unfold selectCheckpointForUpdate bindText
  split
  · refine ⟨fun hidden => by simp [shown] at hidden,fun _ => ?_⟩
    cases known : st.known key with
    | some row => exact fun ok => present row st ok rfl rfl known
    | none =>
      exact ⟨fun _ => absent known,fun row ok => present row (st.learn key row) ok rfl rfl
        (by simp [Situation.learn])⟩
  · exact failed

theorem concurrentEnds {st : Situation CheckpointKey StoredCheckpoint PyStr Work}
    (bound : st.scope = some store.tenantScope) :
    (store.concurrentCheckpoint consumer checkpoint).wp (spec checkpointPolicy rule accepts) st
      (SaveEnds store accepts st.made consumer checkpoint) := by
  unfold PostgresBatchResultCheckpointStore.concurrentCheckpoint
  refine selectForUpdateEnds bound rfl (fun _ => rfl) (fun row st' ok _ made known => ?_)
  refine Program.wpOfExcept _ _ _ _ _ (fun concurrent read => ?_) (fun _ _ => made)
  split
  · rename_i equal
    obtain ⟨values,-,-⟩ := rowValues read
    rw [equal] at values
    exact ⟨equal,by rw [values]; exact known,.inl ⟨by rw [values]; exact ok,made⟩⟩
  · exact made

theorem createEnds {st : Situation CheckpointKey StoredCheckpoint PyStr Work}
    (bound : st.scope = some store.tenantScope)
    (allowed : ∀ w, Advance store consumer checkpoint expected w → rule (.write w)) :
    (store.createCheckpoint consumer checkpoint expected).wp (spec checkpointPolicy rule accepts) st
      (SaveEnds store accepts st.made consumer checkpoint) := by
  unfold PostgresBatchResultCheckpointStore.createCheckpoint
  split
  · rfl
  · rename_i first
    have none_ : expected = none := by simpa using first
    intro shown
    refine ⟨fun _ => concurrentEnds bound,fun _ => ⟨allowed _ ?_,fun _ => ?_⟩⟩
    · exact ⟨rfl,rfl,by simp [none_],by simp [none_],nofun⟩
    · exact ⟨rfl,by simp [Situation.wrote],.inr ⟨none,rfl⟩⟩

theorem advanceEnds {st : Situation CheckpointKey StoredCheckpoint PyStr Work} {row : StoredCheckpoint}
    (bound : st.scope = some store.tenantScope)
    (known : st.known (store.keyOf consumer checkpoint) = some row)
    (ok : accepts (.selectForUpdate (store.keyOf consumer checkpoint)) (some row))
    (allowed : ∀ w, Advance store consumer checkpoint expected w → rule (.write w)) :
    (store.advanceCheckpoint consumer checkpoint expected row).wp (spec checkpointPolicy rule accepts) st
      (SaveEnds store accepts st.made consumer checkpoint) := by
  unfold PostgresBatchResultCheckpointStore.advanceCheckpoint
  refine Program.wpOfExcept _ _ _ _ _ (fun durable read => ?_) (fun _ _ => rfl)
  obtain ⟨values,batch,endpoint⟩ := rowValues read
  split
  · rename_i equal
    rw [equal] at values
    exact ⟨equal,by rw [values]; exact known,.inl ⟨by rw [values]; exact ok,rfl⟩⟩
  · split
    · rfl
    · rename_i previous
      split
      · rfl
      · rename_i forward
        have swapped : expected = some durable := by simpa using previous
        have shown : visible checkpointPolicy st.scope (store.keyOf consumer checkpoint) = true := by
          simp [bound,visible,checkpointPolicy,PostgresBatchResultCheckpointStore.keyOf]
        refine ⟨fun hidden => by simp [shown] at hidden,fun _ => ⟨row,known,allowed _ ?_,fun _ => ?_⟩⟩
        · refine ⟨rfl,rfl,by simp [swapped,values],?_,?_⟩
          · intro p here
            cases Option.some.inj (swapped.symm.trans here)
            exact ⟨batch,endpoint⟩
          · intro old here
            cases Option.some.inj here
            rw [← values]
            simpa [checkpointValues] using forward
        · exact ⟨rfl,by simp [Situation.wrote],.inr ⟨some row,rfl⟩⟩

theorem saveEnds {st : Situation CheckpointKey StoredCheckpoint PyStr Work}
    (allowed : ∀ w, Advance store consumer checkpoint expected w → rule (.write w)) :
    (store.saveInTransaction consumer checkpoint expected).wp (spec checkpointPolicy rule accepts) st
      (SaveEnds store accepts st.made consumer checkpoint) := by
  unfold PostgresBatchResultCheckpointStore.saveInTransaction
  refine Program.wpOfExcept _ _ _ _ _ (fun name valid => ?_) (fun _ _ => rfl)
  cases consumerSame valid
  refine Program.wpOfExcept _ _ _ _ _ (fun current valid => ?_) (fun _ _ => rfl)
  cases validatedSame valid
  refine Program.wpOfExcept _ _ _ _ _ (fun previous valid => ?_) (fun _ _ => rfl)
  cases previousSame valid
  refine Program.wpOfExcept _ _ _ _ _ (fun _ _ => ?_) (fun _ _ => rfl)
  refine selectForUpdateEnds rfl rfl (fun _ => createEnds rfl allowed) (fun row st' ok scope made known => ?_)
  have ends : (store.advanceCheckpoint consumer checkpoint expected row).wp
      (spec checkpointPolicy rule accepts) st' (SaveEnds store accepts st'.made consumer checkpoint) :=
    advanceEnds scope known ok allowed
  rwa [made] at ends

end

structure SaveCall where
  store : PostgresBatchResultCheckpointStore
  consumerName : PyStr
  checkpoint : BatchResultCheckpoint
  expectedPrevious : Option BatchResultCheckpoint

namespace SaveCall

def key (call : SaveCall) : CheckpointKey := call.store.keyOf call.consumerName call.checkpoint

def code {Work Answer : Type} (call : SaveCall) : CheckpointProgram Work Answer BatchResultCheckpoint :=
  call.store.saveInTransaction call.consumerName call.checkpoint call.expectedPrevious

def rule {Work : Type} (call : SaveCall) : Act CheckpointKey StoredCheckpoint Work → Prop
  | .write w => Advance call.store call.consumerName call.checkpoint call.expectedPrevious w
  | .work _ => False

end SaveCall

def Precedes (old new : StoredCheckpoint) : Prop :=
  old.recordCount < new.recordCount ∧ old.batchLineCount < new.batchLineCount

theorem precedesTrans (a b c : StoredCheckpoint) (first : Precedes a b) (second : Precedes b c) :
    Precedes a c :=
  ⟨Int.lt_trans first.1 second.1,Int.lt_trans first.2 second.2⟩

abbrev Writers (Work Answer : Type) :=
  World CheckpointKey StoredCheckpoint PyStr Work Answer SaveCall PyError BatchResultCheckpoint

abbrev writersNext {Work Answer : Type} : Writers Work Answer → Pool.Event SaveCall Answer → Option (Writers Work Answer) :=
  World.next checkpointPolicy SaveCall.code

def anyReply (Work Answer : Type) (_ : SaveCall)
    (s : Statement CheckpointKey StoredCheckpoint PyStr Work) (_ : Reply Answer s) : Prop := True

def savePost (Work Answer : Type) (call : SaveCall) : Except PyError BatchResultCheckpoint →
    Situation CheckpointKey StoredCheckpoint PyStr Work → Prop :=
  SaveEnds call.store (anyReply Work Answer call) [] call.consumerName call.checkpoint

def saveKept {Work : Type} (_ : SaveCall) : Except PyError BatchResultCheckpoint →
    List (Act CheckpointKey StoredCheckpoint Work) → Prop
  | .error _, made => made = []
  | .ok _, _ => True

section
variable {Work Answer : Type}

theorem saveVerified : Verified checkpointPolicy (@SaveCall.code Work Answer) SaveCall.rule
    (anyReply Work Answer) (savePost Work Answer) saveKept where
  meets _ _ _ := saveEnds (fun _ advance => advance)
  promise _ r _ h := by
    cases r with
    | error => exact h
    | ok => trivial

def committedValues (initial : CheckpointKey → Option StoredCheckpoint) (w : Writers Work Answer)
    (key : CheckpointKey) : List StoredCheckpoint :=
  values (initial key) (onKey key w.shared.journal)

theorem checkpointsFormChain (initial : CheckpointKey → Option StoredCheckpoint)
    (events : List (Pool.Event SaveCall Answer)) (w : Writers Work Answer)
    (run : Runs.run writersNext (.begin checkpointPolicy initial) events = some w) :
    (∀ key, (committedValues initial w key).Pairwise Precedes ∧
      w.shared.committed key = (committedValues initial w key).getLast?) ∧
    (∀ t, ∀ e ∈ entriesOf w t, ∃ x, e.act = .write x ∧ x.key = e.caller.call.key ∧
      x.before = e.caller.call.expectedPrevious.map checkpointValues ∧
      (∀ p ∈ e.caller.call.expectedPrevious, p.batchId = x.key.remoteBatchId ∧
        p.endpointAlias = x.key.endpointAlias) ∧
      x.after = checkpointValues e.caller.call.checkpoint) ∧
    (∀ t n call error, (w.session t).outcomes[n]? = some (call,.error error) → madeBy w t n = []) ∧
    (∀ event w' t call saved, writersNext w event = some w' →
      (w'.session t).outcomes = (w.session t).outcomes ++ [(call,.ok saved)] →
      saved = call.checkpoint ∧
      view w'.shared (w'.session t).scratch call.key = some (checkpointValues call.checkpoint)) := by
  have inv := runSound saveVerified (everyReply _ events) run
  have advances : ∀ t, ∀ e ∈ entriesOf w t, ∃ x, e.act = .write x ∧ Advance e.caller.call.store
      e.caller.call.consumerName e.caller.call.checkpoint e.caller.call.expectedPrevious x := by
    intro t e here
    have obeys := inv.sound.ruled t e here
    cases act : e.act with
    | write x => exact ⟨x,rfl,by simpa [act,SaveCall.rule] using obeys⟩
    | work item => simp [act,SaveCall.rule] at obeys
  refine ⟨fun key => ?_,fun t e here => ?_,fun t n call error ended => ?_,
    fun event w' t call saved step ended => ?_⟩
  · have grows : ∀ x ∈ onKey key w.shared.journal, ∀ old ∈ x.before, Precedes old x.after := by
      intro x here old replaced
      obtain ⟨-,e,member,act⟩ := onKeyMember here
      obtain ⟨y,write,advance⟩ := advances e.caller.tx e
        (List.mem_append_left _ (List.mem_filter.mpr ⟨member,by simp⟩))
      cases Act.write.inj (act.symm.trans write)
      rw [advance.stored]
      exact advance.grows old replaced
    have history := inv.consistent.history key
    exact ⟨linkedPairwise precedesTrans grows history,linkedLast history⟩
  · obtain ⟨x,write,advance⟩ := advances t e here
    have key : x.key = e.caller.call.key := advance.own
    refine ⟨x,write,key,advance.swapped,fun p expected => ?_,advance.stored⟩
    rw [key]
    exact advance.same p expected
  · by_cases gone : (w.session t).status = .rolledBack
    · simp [madeBy,rolledBackNothing inv gone]
    · exact inv.sound.ended t n call _ gone ended
  · obtain ⟨same,known,-⟩ := endsWith saveVerified inv.sound
      (fun _ _ _ _ _ _ _ _ _ _ _ => trivial) step ended
    refine ⟨same,?_⟩
    simp only [knownOf] at known
    split at known <;> try contradiction
    exact known

end

def firstCheckpoint : BatchResultCheckpoint where
  schemaVersion := 1
  batchId := py "batch-1"
  endpointAlias := py "primary"
  fileKind := py "result"
  fileId := py "file-out"
  fileLineNumber := 1
  batchLineCount := 1
  recordCount := 1
  prefixSha256 := List.replicate 64 (chr 'a')
  accepted := by decide +kernel

def secondCheckpoint : BatchResultCheckpoint :=
  {firstCheckpoint with
    fileLineNumber := 2, batchLineCount := 2, recordCount := 2, accepted := by decide +kernel}

def standaloneStore : PostgresBatchResultCheckpointStore := ⟨defaultTenantScope,defaultScopeAccepted⟩

def twoWriters : List (Pool.Event SaveCall Unit) :=
  let create : SaveCall := ⟨standaloneStore,py "worker",firstCheckpoint,none⟩
  let advance : SaveCall := ⟨standaloneStore,py "worker",secondCheckpoint,some firstCheckpoint⟩
  [.invoke 0 create,.advance 0 (),.advance 0 (),.invoke 1 advance,.advance 1 (),.advance 0 (),.commit 0,
    .advance 1 (),.advance 1 (),.commit 1]

def afterTwoWriters : Option (Writers Unit Unit) :=
  Runs.run writersNext (.begin checkpointPolicy (fun _ => none)) twoWriters

theorem twoWritersFinish : afterTwoWriters.isSome = true := by decide +kernel

theorem twoWritersChain :
    (committedValues (fun _ => none) (afterTwoWriters.get twoWritersFinish)
      (standaloneStore.keyOf (py "worker") firstCheckpoint)).Pairwise Precedes :=
  ((checkpointsFormChain (fun _ => none) twoWriters _ (Option.some_get twoWritersFinish).symm).1 _).1

end PgLlmBatch
