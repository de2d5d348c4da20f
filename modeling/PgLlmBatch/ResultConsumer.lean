import PgLlmBatch.Base.RowSolo
import PgLlmBatch.CheckpointRow
import PgLlmBatch.ResultExactlyOnce
import PgLlmBatch.ResultPositions

/-! A consumer of a batch's results: it loads its durable checkpoint, opens the stream after it and
applies each record in a transaction of its own. What one of these transactions does. -/
namespace PgLlmBatch
open Base
open Base.RowLocking

abbrev CheckpointRows := CheckpointKey → Option StoredCheckpoint

def recordsOf (log : List (Entry Unit CheckpointKey StoredCheckpoint Record)) : List Record :=
  log.filterMap (fun entry => match entry.act with
    | .work record => some record
    | .write _ => none)

-- One transaction: its rows and its records when it commits, and no change when it raises. The callback answers
-- with `answer`.
def transactResults {α : Type} (answer : EffectAnswer) (p : Program ResultStatement (Reply EffectAnswer) PyError α)
    (rows : CheckpointRows) : Except PyError α × CheckpointRows × List Record :=
  match p.alone (soloExec checkpointPolicy answer) (soloStart none rows) with
  | some (.ok a,st) => (.ok a,view st.1 st.2,recordsOf st.2.log)
  | some (.error e,_) => (.error e,rows,[])
  | none => (.error .raised,rows,[])

structure ResultConsumer where
  limits : StreamLimits
  interpreter : Interpreter
  store : PostgresBatchResultCheckpointStore
  consumerName : PyStr
  batchId : PyStr
  endpointAlias : PyStr

structure ConsumerState where
  rows : CheckpointRows
  effects : List Record
  reading : Option (Generator CheckpointedBatchResultRecord PyError Unit)
  failures : List PyError
  finished : Bool

inductive ConsumerEvent where
  | start (provider : Provider)
  | next (answer : EffectAnswer)
  | stop

def ConsumerState.initial (rows : CheckpointRows) : ConsumerState := ⟨rows,[],none,[],false⟩

def ConsumerState.failed (s : ConsumerState) (e : PyError) : ConsumerState :=
  {s with reading := none, failures := s.failures ++ [e]}

namespace ResultConsumer
variable (w : ResultConsumer)

def key : CheckpointKey := ⟨w.store.tenantScope,w.consumerName,w.endpointAlias,w.batchId⟩

def stream (p : Provider) (resumeAfter : Option BatchResultCheckpoint) :
    Generator CheckpointedBatchResultRecord PyError Unit :=
  iterCheckpointedBatchRecords w.limits w.interpreter p w.batchId w.endpointAlias resumeAfter

def load : Program ResultStatement (Reply EffectAnswer) PyError (Option BatchResultCheckpoint) :=
  w.store.loadInTransaction w.consumerName w.batchId w.endpointAlias

def applying (item : CheckpointedBatchResultRecord) :
    Program ResultStatement (Reply EffectAnswer) PyError ResultApplicationOutcome :=
  ApplyCall.code ⟨w.store,w.consumerName,item⟩

def begin (p : Provider) (s : ConsumerState) : ConsumerState :=
  match transactResults .returnedNone w.load s.rows with
  | (.error e,_) => s.failed e
  | (.ok resumeAfter,rows,_) => {s with rows := rows, reading := some (w.stream p resumeAfter)}

def take (answer : EffectAnswer) (item : CheckpointedBatchResultRecord)
    (later : Generator CheckpointedBatchResultRecord PyError Unit) (s : ConsumerState) : ConsumerState :=
  match transactResults answer (w.applying item) s.rows with
  | (.error e,_) => s.failed e
  | (.ok _,rows,records) => {s with rows := rows, effects := s.effects ++ records, reading := some later}

-- A stop at any moment leaves what was committed before it: the open transaction is rolled back.
def step (s : ConsumerState) : ConsumerEvent → ConsumerState
  | .start p => w.begin p s
  | .stop => {s with reading := none}
  | .next answer => match s.reading with
    | none => s
    | some ⟨item::items,ended⟩ => w.take answer item ⟨items,ended⟩ s
    | some ⟨[],.ok ()⟩ => {s with reading := none, finished := true}
    | some ⟨[],.error e⟩ => s.failed e

def run (events : List ConsumerEvent) (s : ConsumerState) : ConsumerState := events.foldl w.step s

end ResultConsumer

structure NamedConsumer (w : ResultConsumer) : Prop where
  consumer : validateCheckpointConsumerName (.str w.consumerName) = .ok w.consumerName
  batch : validatedBatchId w.batchId = .ok w.batchId
  endpoint : validatedExactEndpointAlias w.endpointAlias = .ok w.endpointAlias
  text : bindText w.endpointAlias = .ok w.endpointAlias

section
variable {w : ResultConsumer} {rows : CheckpointRows} {previous : Option BatchResultCheckpoint}

structure Standing (w : ResultConsumer) (rows : CheckpointRows) (previous : Option BatchResultCheckpoint) : Prop where
  row : rows w.key = previous.map checkpointValues
  own : ∀ c ∈ previous, c.batchId = w.batchId ∧ c.endpointAlias = w.endpointAlias

def boundTo (w : ResultConsumer) (rows : CheckpointRows) : Solo CheckpointKey StoredCheckpoint PyStr Record :=
  (⟨rows,fun _ => none,[]⟩,⟨some w.store.tenantScope,fun _ => none,[]⟩)

theorem rowOfCheckpoint {c : BatchResultCheckpoint} (batch : c.batchId = w.batchId) (named : c.endpointAlias = w.endpointAlias) :
    checkpointFromRow w.key (checkpointValues c) = .ok c := by
  have fields : checkpointFromRow w.key (checkpointValues c) = BatchResultCheckpoint.new c.toCheckpointFields := by
    unfold checkpointFromRow checkpointValues ResultConsumer.key
    rw [← batch,← named]
  rw [fields,newAccepted]

theorem loadAlone (answer : EffectAnswer) (named : NamedConsumer w) (standing : Standing w rows previous) :
    w.load.alone (soloExec checkpointPolicy answer) (soloStart none rows) = some (.ok previous,boundTo w rows) := by
  have shown : checkpointPolicy w.store.tenantScope w.key = true := beq_self_eq_true _
  have bound : soloExec checkpointPolicy answer (.setScope w.store.tenantScope) (soloStart none rows) =
      some ((),boundTo w rows) := rfl
  have seen : soloExec checkpointPolicy answer (.select w.key) (boundTo w rows) =
      some (previous.map checkpointValues,boundTo w rows) := by
    simp [soloExec,exec,boundTo,visible,view,shown,standing.row]
  unfold ResultConsumer.load PostgresBatchResultCheckpointStore.loadInTransaction selectCheckpoint
  rw [named.consumer,named.batch,named.endpoint]
  simp only [Program.ofExceptOk,Program.bindRet,named.text,setTransactionTenantScope,Program.bindAsk,Program.alone]
  rw [bound]
  dsimp only
  unfold ResultConsumer.key at seen
  rw [seen]
  cases previous with
  | none => rfl
  | some c =>
    obtain ⟨batch,endpoint⟩ := standing.own c rfl
    have read : checkpointFromRow w.key (checkpointValues c) = .ok c := rowOfCheckpoint batch endpoint
    unfold ResultConsumer.key at read
    simp only [Option.map_some,read]
    rfl

def performed (w : ResultConsumer) (rows : CheckpointRows) (record : Record) :
    Solo CheckpointKey StoredCheckpoint PyStr Record :=
  (⟨rows,fun _ => none,[]⟩,⟨some w.store.tenantScope,fun _ => none,[⟨soloCaller,.work record⟩]⟩)

def locked (w : ResultConsumer) (rows : CheckpointRows) (record : Record) (previous : Option BatchResultCheckpoint) :
    Solo CheckpointKey StoredCheckpoint PyStr Record :=
  (match previous with
    | none => (performed w rows record).1
    | some _ => RowLocking.take (performed w rows record).1 0 w.key,(performed w rows record).2)

theorem writtenView {rows : CheckpointRows} {holder : CheckpointKey → Option Nat} {scope : Option PyStr}
    {log : List (Entry Unit CheckpointKey StoredCheckpoint Record)} (k : CheckpointKey) (row : StoredCheckpoint) :
    view ⟨rows,holder,[]⟩ (⟨scope,Function.update (fun _ => none) k (some row),log⟩ : Scratch Unit _ _ _ _) =
      Function.update rows k (some row) := by
  funext j
  show (Function.update (fun _ => none) k (some row) j).or (rows j) = Function.update rows k (some row) j
  by_cases own : j = k
  · subst own
    rw [Function.update_self,Function.update_self]
    rfl
  · rw [Function.update_of_ne own,Function.update_of_ne own]
    rfl

structure Advances (w : ResultConsumer) (previous : Option BatchResultCheckpoint) (c : BatchResultCheckpoint) : Prop where
  batch : c.batchId = w.batchId
  endpoint : c.endpointAlias = w.endpointAlias
  fits : c.batchLineCount ≤ postgresBigintMax
  fitted : ∀ before ∈ previous, before.batchLineCount ≤ postgresBigintMax
  more : ∀ before ∈ previous, before.recordCount < c.recordCount ∧ before.batchLineCount < c.batchLineCount

theorem checkpointFits {c : BatchResultCheckpoint} (field : String) (fits : c.batchLineCount ≤ postgresBigintMax) :
    validatedCheckpoint c field = .ok c := by
  have own := checkpointAccepted c
  refine validatedOk.mpr ⟨rfl,le_trans own.lines.2 fits,fits,le_trans own.records.2 fits⟩

theorem expectedFits {c : BatchResultCheckpoint} (standing : Standing w rows previous) (advances : Advances w previous c) :
    previous.mapM (fun p => validatedCheckpoint p "expected_previous") = .ok previous := by
  cases previous with
  | none => rfl
  | some before =>
    rw [Option.mapM_some,checkpointFits _ (advances.fitted before rfl)]
    rfl

theorem sameStanding {c : BatchResultCheckpoint} (standing : Standing w rows previous) (advances : Advances w previous c) :
    PostgresBatchResultCheckpointStore.samePosition c previous = .ok () := by
  cases previous with
  | none => rfl
  | some before =>
    obtain ⟨batch,endpoint⟩ := standing.own before rfl
    refine if_neg ?_
    rw [batch,endpoint,advances.batch,advances.endpoint]
    simp

section
variable {c : BatchResultCheckpoint} {record : Record} (answer : EffectAnswer)

def Saved (w : ResultConsumer) (rows : CheckpointRows) (c : BatchResultCheckpoint) (record : Record)
    (done : Option (Except PyError BatchResultCheckpoint × Solo CheckpointKey StoredCheckpoint PyStr Record)) : Prop :=
  ∃ st, done = some (.ok c,st) ∧ view st.1 st.2 = Function.update rows w.key (some (checkpointValues c)) ∧
    recordsOf st.2.log = [record]

theorem keyShown : checkpointPolicy w.store.tenantScope w.key = true := beq_self_eq_true _

theorem keyAdvanced (advances : Advances w previous c) : w.store.keyOf w.consumerName c = w.key := by
  unfold PostgresBatchResultCheckpointStore.keyOf ResultConsumer.key
  rw [advances.batch,advances.endpoint]

theorem createAlone (standing : Standing w rows none) (advances : Advances w none c) :
    Saved w rows c record ((w.store.createCheckpoint w.consumerName c none).alone (soloExec checkpointPolicy answer)
      (performed w rows record)) := by
  have inserted : soloExec checkpointPolicy answer (.insertIfAbsent w.key (checkpointValues c)) (performed w rows record) =
      some (true,take (performed w rows record).1 0 w.key,
        put (performed w rows record).2 soloCaller ⟨w.key,none,checkpointValues c⟩) := by
    simp [soloExec,exec,performed,visible,view,keyShown,standing.row,free,soloCaller]
  unfold PostgresBatchResultCheckpointStore.createCheckpoint insertCheckpoint
  rw [keyAdvanced advances]
  simp only [Option.isSome_none,Bool.false_eq_true,if_false,Program.bindAsk,Program.alone]
  rw [inserted]
  exact ⟨_,rfl,writtenView _ _,rfl⟩

theorem advanceAlone {before : BatchResultCheckpoint} (standing : Standing w rows (some before))
    (advances : Advances w (some before) c) :
    Saved w rows c record ((w.store.advanceCheckpoint w.consumerName c (some before) (checkpointValues before)).alone
      (soloExec checkpointPolicy answer) (locked w rows record (some before))) := by
  have updated : soloExec checkpointPolicy answer (.update w.key (checkpointValues c)) (locked w rows record (some before)) =
      some (1,RowLocking.take (locked w rows record (some before)).1 0 w.key,
        put (performed w rows record).2 soloCaller ⟨w.key,some (checkpointValues before),checkpointValues c⟩) := by
    simp [soloExec,exec,performed,locked,visible,view,keyShown,standing.row,free,soloCaller,RowLocking.take]
  obtain ⟨batch,endpoint⟩ := standing.own before rfl
  obtain ⟨records,lines⟩ := advances.more before rfl
  have read : checkpointFromRow w.key (checkpointValues before) = .ok before := rowOfCheckpoint batch endpoint
  have other : before ≠ c := by
    rintro rfl
    exact absurd records (lt_irrefl _)
  unfold PostgresBatchResultCheckpointStore.advanceCheckpoint updateCheckpoint
  rw [keyAdvanced advances]
  simp only [read,Program.ofExceptOk,Program.bindRet,if_neg other,ne_eq,not_true_eq_false,if_false,
    if_neg (not_or.mpr ⟨not_le.mpr records,not_le.mpr lines⟩),Program.bindAsk,Program.alone]
  rw [updated]
  exact ⟨_,rfl,writtenView _ _,rfl⟩

theorem lockedRow {k : CheckpointKey} (own : k = w.key) (standing : Standing w rows previous) :
    soloExec checkpointPolicy answer (.selectForUpdate k) (performed w rows record) =
      some (previous.map checkpointValues,locked w rows record previous) := by
  subst own
  cases previous with
  | none => simp [soloExec,exec,performed,locked,visible,view,keyShown,standing.row]
  | some before => simp [soloExec,exec,performed,locked,visible,view,keyShown,standing.row,free,soloCaller]

theorem saveAlone (named : NamedConsumer w) (standing : Standing w rows previous) (advances : Advances w previous c) :
    Saved w rows c record ((w.store.saveInTransaction w.consumerName c previous).alone (soloExec checkpointPolicy answer)
      (performed w rows record)) := by
  have bound : soloExec checkpointPolicy answer (.setScope w.store.tenantScope) (performed w rows record) =
      some ((),performed w rows record) := rfl
  have text : bindText w.key.endpointAlias = .ok w.endpointAlias := named.text
  unfold PostgresBatchResultCheckpointStore.saveInTransaction
  rw [named.consumer,checkpointFits "checkpoint" advances.fits,expectedFits standing advances]
  simp only [Program.ofExceptOk,Program.bindRet,sameStanding standing advances,setTransactionTenantScope,Program.bindAsk,
    selectCheckpointForUpdate,keyAdvanced advances,text,Program.alone]
  rw [bound]
  dsimp only
  rw [lockedRow answer (keyAdvanced advances) standing]
  cases previous with
  | none => exact createAlone answer standing advances
  | some before => exact advanceAlone answer standing advances

end

section
variable {item : CheckpointedBatchResultRecord} (answer : EffectAnswer)

theorem effectAlone : (recordEffect.call item.record).alone (soloExec checkpointPolicy answer) (boundTo w rows) =
    some (match answer with
      | .returnedNone => .ok .returnedNone
      | .returnedOther => .ok .returnedOther
      | .raised => .error .raised
      | .interrupted => .error .interrupted,performed w rows item.record) := by
  cases answer <;> rfl

def Applied (w : ResultConsumer) (rows : CheckpointRows) (item : CheckpointedBatchResultRecord)
    (done : Option (Except PyError ResultApplicationOutcome × Solo CheckpointKey StoredCheckpoint PyStr Record)) : Prop :=
  ∃ st, done = some (.ok ⟨true,item.checkpoint⟩,st) ∧
    view st.1 st.2 = Function.update rows w.key (some (checkpointValues item.checkpoint)) ∧ recordsOf st.2.log = [item.record]

theorem freshApplied (named : NamedConsumer w) (standing : Standing w rows previous)
    (advances : Advances w previous item.checkpoint) :
    Applied w rows item ((applyFreshResult (postgresStore w.store) w.consumerName item recordEffect previous).alone
      (soloExec checkpointPolicy .returnedNone) (boundTo w rows)) := by
  obtain ⟨st,saved,rows_,records⟩ := @saveAlone w rows previous item.checkpoint item.record .returnedNone named standing
    advances
  refine ⟨st,?_,rows_,records⟩
  unfold applyFreshResult inPhase
  rw [Program.aloneBind,Program.aloneHandle,effectAlone]
  simp only [Program.aloneBind,Program.aloneHandle,postgresStore,saved,Program.aloneRet,Program.pureEq,if_true]

theorem freshFails (bad : answer ≠ .returnedNone) :
    ∃ e st, (applyFreshResult (postgresStore w.store) w.consumerName item recordEffect previous).alone
      (soloExec checkpointPolicy answer) (boundTo w rows) = some (.error e,st) := by
  unfold applyFreshResult inPhase
  rw [Program.aloneBind,Program.aloneHandle,effectAlone]
  cases answer with
  | returnedNone => exact absurd rfl bad
  | returnedOther => exact ⟨_,_,rfl⟩
  | raised => exact ⟨_,_,rfl⟩
  | interrupted => exact ⟨_,_,rfl⟩

def admits (item : CheckpointedBatchResultRecord) : Option BatchResultCheckpoint → Bool
  | none => true
  | some before => sameFile before item.checkpoint

theorem afterAdmits (store : ResultCheckpointStore ResultStatement (Reply EffectAnswer)) (consumerName : PyStr)
    {before : BatchResultCheckpoint} (more : before.recordCount < item.checkpoint.recordCount ∧
      before.batchLineCount < item.checkpoint.batchLineCount) :
    applyAfter store consumerName item recordEffect before = if admits item (some before) then
        applyFreshResult store consumerName item recordEffect (some before)
      else throw (.resultApplication "checkpoint_load") := by
  have other : before ≠ item.checkpoint := by
    rintro rfl
    exact absurd more.1 (lt_irrefl _)
  have admitted : admits item (some before) = sameFile before item.checkpoint := rfl
  unfold applyAfter
  rw [admitted,if_neg other,if_neg (not_or.mpr ⟨not_le.mpr more.1,not_le.mpr more.2⟩)]
  cases sameFile before item.checkpoint <;> rfl

theorem applyingAlone (named : NamedConsumer w) (standing : Standing w rows previous)
    (advances : Advances w previous item.checkpoint)
    (own : item.batchId = item.checkpoint.batchId ∧ item.fileKind = item.checkpoint.fileKind) :
    (w.applying item).alone (soloExec checkpointPolicy answer) (soloStart none rows) =
      if admits item previous then
        (applyFreshResult (postgresStore w.store) w.consumerName item recordEffect previous).alone
          (soloExec checkpointPolicy answer) (boundTo w rows)
      else some (.error (.resultApplication "checkpoint_load"),boundTo w rows) := by
  have valid : validateItemAndEffect item recordEffect = .ok item := by
    unfold validateItemAndEffect
    rw [if_neg (not_not.mpr own.1),if_neg (not_not.mpr own.2)]
    rfl
  have loaded := loadAlone answer named standing
  unfold ResultConsumer.load at loaded
  unfold ResultConsumer.applying ApplyCall.code applyCheckpointedResultInTransaction inPhase
  rw [valid]
  simp only [Program.ofExceptOk,Program.bindRet,Program.aloneBind,Program.aloneHandle,postgresStore,own.1,advances.batch,
    advances.endpoint,loaded]
  cases previous with
  | none => rfl
  | some before =>
    simp only [Program.aloneRet,Program.pureEq,afterAdmits _ _ (advances.more before rfl)]
    cases admits item (some before) <;> rfl

theorem loadTransacted (named : NamedConsumer w) (standing : Standing w rows previous) :
    transactResults answer w.load rows = (.ok previous,rows,[]) := by
  unfold transactResults
  rw [loadAlone answer named standing]
  rfl

section
variable (named : NamedConsumer w) (standing : Standing w rows previous) (advances : Advances w previous item.checkpoint)
  (own : item.batchId = item.checkpoint.batchId ∧ item.fileKind = item.checkpoint.fileKind)
include named standing advances own

theorem refusedTransacted (refused : admits item previous = false) :
    transactResults answer (w.applying item) rows = (.error (.resultApplication "checkpoint_load"),rows,[]) := by
  unfold transactResults
  rw [applyingAlone answer named standing advances own,refused]
  rfl

theorem appliedTransacted (admitted : admits item previous = true) :
    transactResults .returnedNone (w.applying item) rows = (.ok ⟨true,item.checkpoint⟩,
      Function.update rows w.key (some (checkpointValues item.checkpoint)),[item.record]) := by
  obtain ⟨st,done,written,records⟩ := freshApplied named standing advances
  unfold transactResults
  rw [applyingAlone _ named standing advances own,if_pos admitted,done]
  simp only [written,records]

theorem failedTransacted (admitted : admits item previous = true) (bad : answer ≠ .returnedNone) :
    ∃ e, transactResults answer (w.applying item) rows = (.error e,rows,[]) := by
  obtain ⟨e,st,done⟩ := @freshFails w rows previous item answer bad
  refine ⟨e,?_⟩
  unfold transactResults
  rw [applyingAlone answer named standing advances own,if_pos admitted,done]

end
end
end

end PgLlmBatch
