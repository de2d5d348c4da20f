import PgLlmBatch.ResultApplication

/-! Concurrent application of results through the PostgreSQL checkpoint store. A save that
finds its own candidate already stored takes it for its own earlier work, so two workers
can both apply one record. Without such a save the checkpoint chain makes every applied
checkpoint the work of one call. -/
namespace PgLlmBatch
open Base
open Base.RowLocking

abbrev Record := List (PyStr × Json)

inductive EffectAnswer where | returnedNone | returnedOther | raised | interrupted
  deriving DecidableEq, Repr

abbrev ResultStatement := Statement CheckpointKey StoredCheckpoint PyStr Record
abbrev ResultSituation := Situation CheckpointKey StoredCheckpoint PyStr Record
abbrev ResultAct := Act CheckpointKey StoredCheckpoint Record

def postgresStore (store : PostgresBatchResultCheckpointStore) :
    ResultCheckpointStore ResultStatement (Reply EffectAnswer) where
  loadInTransaction consumerName batchId endpointAlias := do
    match ← store.loadInTransaction consumerName batchId endpointAlias with
    | none => return .absent
    | some c => return .checkpoint c
  saveInTransaction consumerName checkpoint expectedPrevious := do
    let saved ← store.saveInTransaction consumerName checkpoint expectedPrevious
    return .checkpoint saved

-- A synchronous callback: its work in the transaction, and how it ends.
def recordEffect : ApplyRecord ResultStatement (Reply EffectAnswer) where
  callable := true
  asynchronous := false
  call record := do
    match ← Program.ask (Statement.work record) with
    | .returnedNone => return .returnedNone
    | .returnedOther => return .returnedOther
    | .raised => throw .raised
    | .interrupted => throw .interrupted

structure ApplyCall where
  store : PostgresBatchResultCheckpointStore
  consumerName : PyStr
  item : CheckpointedBatchResultRecord

namespace ApplyCall

def key (call : ApplyCall) : CheckpointKey := call.store.keyOf call.consumerName call.item.checkpoint

def code (call : ApplyCall) : Program ResultStatement (Reply EffectAnswer) PyError ResultApplicationOutcome :=
  applyCheckpointedResultInTransaction (postgresStore call.store) call.consumerName call.item recordEffect

def rule (call : ApplyCall) : ResultAct → Prop
  | .write w => ∃ expected, Advance call.store call.consumerName call.item.checkpoint expected w
  | .work record => record = call.item.record

def unconfirmed (call : ApplyCall) : (s : ResultStatement) → Reply EffectAnswer s → Prop
  | .selectForUpdate _, row => row ≠ some (checkpointValues call.item.checkpoint)
  | .setScope _, _ | .select _, _ | .insertIfAbsent _ _, _ | .update _ _, _ | .work _, _ => True

def kept (call : ApplyCall) : Except PyError ResultApplicationOutcome → List ResultAct → Prop
  | .error _, _ => True
  | .ok out, made => out.checkpoint = call.item.checkpoint ∧
      if out.applied then ∃ before, made = [.work call.item.record,
        .write ⟨call.key,before,checkpointValues call.item.checkpoint⟩]
      else made = []

def post (call : ApplyCall) (r : Except PyError ResultApplicationOutcome) (st : ResultSituation) : Prop :=
  call.kept r st.made

end ApplyCall

section
variable {rule : ResultAct → Prop}
  {accepts : (s : ResultStatement) → Reply EffectAnswer s → Prop} {st : ResultSituation}

theorem inPhaseEnds {α : Type} {keep : PyError → Bool} {phase : String}
    {p : Program ResultStatement (Reply EffectAnswer) PyError α}
    {Q : Except PyError α → ResultSituation → Prop} (failed : ∀ e st', Q (.error e) st')
    (body : p.wp (spec checkpointPolicy rule accepts) st Q) :
    (inPhase keep phase p).wp (spec checkpointPolicy rule accepts) st Q := by
  refine Program.wpHandle (specMonotone _ _ _) (Program.wpMono (specMonotone _ _ _) body ?_)
  intro r st' ends
  cases r with
  | ok a => exact ends
  | error e =>
    dsimp only
    split
    · exact failed e st'
    · exact failed _ st'

theorem selectEnds {α : Type} {key : CheckpointKey}
    {next : Option StoredCheckpoint → CheckpointProgram Record EffectAnswer α}
    {Q : Except PyError α → ResultSituation → Prop} (failed : Q (.error .unicodeEncodeError) st)
    (read : ∀ row, accepts (.select key) row →
      (next row).wp (spec checkpointPolicy rule accepts) st Q) :
    (selectCheckpoint key >>= next).wp (spec checkpointPolicy rule accepts) st Q := by
  unfold selectCheckpoint bindText
  split
  · exact read
  · exact failed

theorem loadQuiet (store : PostgresBatchResultCheckpointStore)
    (consumerName batchId endpointAlias : PyStr) :
    (store.loadInTransaction consumerName batchId endpointAlias).wp
      (spec checkpointPolicy rule accepts) st (fun _ st' => st'.made = st.made) := by
  unfold PostgresBatchResultCheckpointStore.loadInTransaction
  refine Program.wpOfExcept _ _ _ _ _ (fun consumer _ => ?_) (fun _ _ => rfl)
  refine Program.wpOfExcept _ _ _ _ _ (fun batch _ => ?_) (fun _ _ => rfl)
  refine Program.wpOfExcept _ _ _ _ _ (fun endpoint _ => ?_) (fun _ _ => rfl)
  refine selectEnds rfl (fun row _ => ?_)
  cases row with
  | none => rfl
  | some row =>
    dsimp only
    cases checkpointFromRow ⟨store.tenantScope,consumer,endpoint,batch⟩ row <;> rfl

theorem loadEnds (store : PostgresBatchResultCheckpointStore)
    (consumerName batchId endpointAlias : PyStr) :
    ((postgresStore store).loadInTransaction consumerName batchId endpointAlias).wp
      (spec checkpointPolicy rule accepts) st (fun _ st' => st'.made = st.made) := by
  refine Program.wpBind (specMonotone _ _ _)
    (Program.wpMono (specMonotone _ _ _) (loadQuiet store consumerName batchId endpointAlias) ?_)
  intro r st' quiet
  rcases r with e | _ | c <;> exact quiet

theorem effectEnds (record : Record) (allowed : rule (.work record)) :
    (recordEffect.call record).wp (spec checkpointPolicy rule accepts) st
      (fun _ st' => st'.made = st.made ++ [.work record]) := by
  refine ⟨allowed,fun answer _ => ?_⟩
  cases answer <;> rfl

theorem confirmEnds {store : PostgresBatchResultCheckpointStore} {consumer : PyStr}
    {checkpoint : BatchResultCheckpoint} {expected : Option BatchResultCheckpoint}
    (allowed : ∀ w, Advance store consumer checkpoint expected w → rule (.write w)) :
    ((postgresStore store).saveInTransaction consumer checkpoint expected).wp
      (spec checkpointPolicy rule accepts) st (fun r st' => match r with
        | .error _ => True
        | .ok _ => (accepts (.selectForUpdate (store.keyOf consumer checkpoint))
              (some (checkpointValues checkpoint)) ∧ st'.made = st.made) ∨
            ∃ before, st'.made = st.made ++
              [.write ⟨store.keyOf consumer checkpoint,before,checkpointValues checkpoint⟩]) := by
  refine Program.wpBind (specMonotone _ _ _)
    (Program.wpMono (specMonotone _ _ _) (saveEnds allowed) ?_)
  intro r st' ends
  cases r with
  | error e => trivial
  | ok saved => exact ends.2.2

theorem freshEnds {call : ApplyCall} (expected : Option BatchResultCheckpoint) (idle : st.made = []) :
    (applyFreshResult (postgresStore call.store) call.consumerName call.item recordEffect expected).wp
      (spec checkpointPolicy call.rule call.unconfirmed) st call.post := by
  refine Program.wpBind (specMonotone _ _ _) (inPhaseEnds (fun _ _ => trivial) ?_)
  refine Program.wpMono (specMonotone _ _ _) (effectEnds call.item.record rfl) ?_
  intro r worked did
  rcases r with e | _ | _
  · trivial
  · refine Program.wpBind (specMonotone _ _ _) (inPhaseEnds (fun _ _ => trivial) ?_)
    refine Program.wpMono (specMonotone _ _ _) (confirmEnds (fun w advance => ⟨expected,advance⟩)) ?_
    intro r st' ends
    cases r with
    | error e => trivial
    | ok saved =>
      dsimp only
      split
      · obtain found | ⟨before,wrote⟩ := ends
        · exact absurd rfl found.1
        · refine ⟨rfl,before,?_⟩
          rw [wrote,did,idle]
          rfl
      · trivial
  · trivial

theorem applyEnds (call : ApplyCall) (idle : st.made = []) :
    call.code.wp (spec checkpointPolicy call.rule call.unconfirmed) st call.post := by
  unfold ApplyCall.code applyCheckpointedResultInTransaction
  refine Program.wpOfExcept _ _ _ _ _ (fun candidate valid => ?_) (fun _ _ => trivial)
  cases validatedItem valid
  refine Program.wpBind (specMonotone _ _ _) (inPhaseEnds (fun _ _ => trivial) ?_)
  refine Program.wpMono (specMonotone _ _ _) (loadEnds call.store _ _ _) ?_
  intro r st' quiet
  rw [idle] at quiet
  rcases r with e | _ | previous | _
  · trivial
  · exact freshEnds none quiet
  · unfold applyAfter
    dsimp only
    split
    · trivial
    · split
      · exact ⟨rfl,quiet⟩
      · split
        · trivial
        · exact freshEnds (some previous) quiet
  · trivial

end

abbrev Workers :=
  World CheckpointKey StoredCheckpoint PyStr Record EffectAnswer ApplyCall PyError ResultApplicationOutcome

abbrev workersNext : Workers → Pool.Event ApplyCall EffectAnswer → Option Workers :=
  World.next checkpointPolicy ApplyCall.code

def AppliedBy (w : Workers) (key : CheckpointKey) (c : BatchResultCheckpoint) (t n : Nat) : Prop :=
  (w.session t).status = .committed ∧
    ∃ call, (w.session t).outcomes[n]? = some (call,.ok ⟨true,c⟩) ∧ call.key = key

-- The step is a save's SELECT FOR UPDATE, and the row already holds what is to be saved.
def findsCandidate (w : Workers) : Pool.Event ApplyCall EffectAnswer → Bool
  | .advance t _ => match (w.session t).current with
      | some (call,.call (.selectForUpdate key) _) =>
          view w.shared (w.session t).scratch key == some (checkpointValues call.item.checkpoint)
      | _ => false
  | _ => false

theorem unconfirmedStep {w : Workers} {e : Pool.Event ApplyCall EffectAnswer}
    (h : findsCandidate w e = false) : Accepted checkpointPolicy ApplyCall.unconfirmed w e := by
  intro t answer call stmt next reply sh sc advance waiting done
  cases stmt with
  | selectForUpdate key =>
    subst advance
    simp only [findsCandidate,waiting,beq_eq_false_iff_ne] at h
    intro found
    simp only [exec] at done
    split at done
    · split at done
      · cases Option.some.inj done; contradiction
      · rename_i row seen
        split at done <;> try contradiction
        cases Option.some.inj done
        exact h (seen.trans found)
    · cases Option.some.inj done; contradiction
  | setScope => trivial
  | select => trivial
  | insertIfAbsent => trivial
  | update => trivial
  | work => trivial

-- Of all committed transactions at most one call reports a checkpoint applied.
def AppliedOnce (w : Workers) : Prop :=
  ∀ key c t n u m, AppliedBy w key c t n → AppliedBy w key c u m → t = u ∧ n = m

-- A call that returns has performed its record's effect exactly if it reports so.
def EffectsReported (w : Workers) : Prop :=
  ∀ t n call out, (w.session t).status ≠ .rolledBack →
    (w.session t).outcomes[n]? = some (call,.ok out) →
    ∀ record, .work record ∈ madeBy w t n ↔ out.applied ∧ record = call.item.record

theorem applyVerified : Verified checkpointPolicy ApplyCall.code ApplyCall.rule ApplyCall.unconfirmed
    ApplyCall.post ApplyCall.kept where
  meets call _ _ := applyEnds call rfl
  promise _ _ _ h := h

abbrev AppliedInvariant (initial : CheckpointKey → Option StoredCheckpoint) : Workers → Prop :=
  Invariant checkpointPolicy ApplyCall.rule ApplyCall.unconfirmed ApplyCall.post ApplyCall.kept initial

theorem appliedEntry {initial : CheckpointKey → Option StoredCheckpoint} {w : Workers}
    (inv : AppliedInvariant initial w) {key : CheckpointKey} {c : BatchResultCheckpoint} {t n : Nat}
    (applied : AppliedBy w key c t n) :
    ∃ e ∈ w.shared.journal, e.caller.tx = t ∧ e.caller.seq = n ∧
      ∃ before, e.act = .write ⟨key,before,checkpointValues c⟩ := by
  obtain ⟨committed,call,ended,rfl⟩ := applied
  obtain ⟨same,before,made⟩ := inv.sound.ended t n call _ (by simp [committed]) ended
  have wrote : .write ⟨call.key,before,checkpointValues c⟩ ∈ madeBy w t n := by
    have confirmed : c = call.item.checkpoint := same
    simp [made,confirmed]
  obtain ⟨e,here,tx,seq,act⟩ := committedEntry inv committed wrote
  exact ⟨e,here,tx,seq,before,act⟩

theorem appliedOnceUnconfirmed (initial : CheckpointKey → Option StoredCheckpoint)
    (events : List (Pool.Event ApplyCall EffectAnswer)) (w : Workers)
    (run : Runs.run workersNext (.begin checkpointPolicy initial) events = some w)
    (unconfirmed : Runs.Every workersNext (fun w e => findsCandidate w e = false)
      (.begin checkpointPolicy initial) events) :
    AppliedOnce w ∧ EffectsReported w := by
  have accepted := Runs.everyImp (fun _ _ => unconfirmedStep) unconfirmed
  have inv : AppliedInvariant initial w := runSound applyVerified accepted run
  refine ⟨?_,?_⟩
  · intro key c t n u m first second
    obtain ⟨e,he,tx,seq,before,act⟩ := appliedEntry inv first
    obtain ⟨f,hf,tx',seq',before',act'⟩ := appliedEntry inv second
    have grows : ∀ x ∈ onKey key w.shared.journal, ∀ old ∈ x.before, Precedes old x.after := by
      intro x here old replaced
      obtain ⟨-,g,member,write⟩ := onKeyMember here
      have obeys := inv.sound.ruled g.caller.tx g
        (List.mem_append_left _ (List.mem_filter.mpr ⟨member,by simp⟩))
      rw [write] at obeys
      obtain ⟨expected,advance⟩ := obeys
      rw [advance.stored]
      exact advance.grows old replaced
    have one := writtenOnce precedesTrans (fun x h => Int.lt_irrefl _ h.1) grows
      (inv.consistent.history key) he hf act act' rfl rfl rfl
    subst one
    exact ⟨tx.symm.trans tx',seq.symm.trans seq'⟩
  · intro t n call out kept ended record
    obtain ⟨-,made⟩ := inv.sound.ended t n call _ kept ended
    split at made
    · rename_i applied
      obtain ⟨before,made⟩ := made
      simp [made,applied]
    · rename_i replayed
      simp [made,replayed]

def firstItem : CheckpointedBatchResultRecord :=
  ⟨firstCheckpoint.batchId,firstCheckpoint.fileKind,[(py "custom_id",.str (py "request-1"))],firstCheckpoint⟩

def firstResult : ApplyCall := ⟨standaloneStore,py "worker",firstItem⟩

def advanceWorker (t : Nat) : Pool.Event ApplyCall EffectAnswer := .advance t .returnedNone

def workersInTurn : List (Pool.Event ApplyCall EffectAnswer) :=
  [.invoke 0 firstResult,advanceWorker 0,advanceWorker 0,advanceWorker 0,advanceWorker 0,
    advanceWorker 0,advanceWorker 0,.commit 0,.invoke 1 firstResult,advanceWorker 1,advanceWorker 1,.commit 1]

def afterTurns : Option Workers :=
  Runs.run workersNext (.begin checkpointPolicy (fun _ => none)) workersInTurn

theorem turnsFinish : afterTurns.isSome = true := by decide +kernel

theorem turnsUnconfirmed : Runs.every workersNext (fun w e => !findsCandidate w e)
    (.begin checkpointPolicy (fun _ => none)) workersInTurn = true := by decide +kernel

theorem turnsApplyOnce : AppliedOnce (afterTurns.get turnsFinish) :=
  (appliedOnceUnconfirmed (fun _ => none) workersInTurn _ (Option.some_get turnsFinish).symm
    (Runs.everyImp (fun _ _ h => by simpa using h) (Runs.everySource turnsUnconfirmed))).1

def racingWorkers : List (Pool.Event ApplyCall EffectAnswer) :=
  [.invoke 0 firstResult,advanceWorker 0,advanceWorker 0,.invoke 1 firstResult,advanceWorker 1,
    advanceWorker 1,advanceWorker 0,advanceWorker 0,advanceWorker 0,advanceWorker 0,.commit 0,
    advanceWorker 1,advanceWorker 1,advanceWorker 1,.commit 1]

def afterRace : Option Workers :=
  Runs.run workersNext (.begin checkpointPolicy (fun _ => none)) racingWorkers

theorem raceFinishes : afterRace.isSome = true := by decide +kernel

theorem raceAppliesTwice : ¬∀ (initial : CheckpointKey → Option StoredCheckpoint)
    (events : List (Pool.Event ApplyCall EffectAnswer)) (w : Workers),
    Runs.run workersNext (.begin checkpointPolicy initial) events = some w → AppliedOnce w := by
  intro always
  have once := always (fun _ => none) racingWorkers _ (Option.some_get raceFinishes).symm
  have apart := once firstResult.key firstCheckpoint 0 0 1 0
    ⟨by decide +kernel,firstResult,rfl,rfl⟩ ⟨by decide +kernel,firstResult,rfl,rfl⟩
  exact absurd apart.1 (by decide)

end PgLlmBatch
