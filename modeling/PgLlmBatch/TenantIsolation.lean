import PgLlmBatch.ReconciliationStore
import PgLlmBatch.CheckpointStore
import PgLlmBatch.RemoteBatchLifecycle
import PgLlmBatch.Base.RowSolo

/-! Tenants that share both tables: what one tenant sees and is returned does not depend on
what the others do. Every function binds its own scope before its first statement, and the
row policies show it nothing else. -/
namespace PgLlmBatch
open Base
open Base.Noninterference
open Base.RowLocking (binding using_ solo scopeView)

theorem normalizedScope {i : Interpreter} {now : Int} {tenantScope endpointAlias order : Json} {providerBatch : ProviderBatch}
    {observedAt : ObservedAt} {s : RemoteBatchSnapshot} {m : PyStr}
    (h : normalizeRemoteBatchSnapshot i now tenantScope endpointAlias providerBatch order observedAt = .ok (s,m)) :
    tenantScope = .str s.tenantScope := by
  obtain ⟨tenant,authorized,h⟩ := Fallible.bindOk.mp h
  obtain ⟨_,-,h⟩ := Fallible.bindOk.mp h
  obtain ⟨_,-,h⟩ := Fallible.bindOk.mp h
  obtain ⟨_,-,h⟩ := Fallible.bindOk.mp h
  obtain ⟨_,-,h⟩ := Fallible.bindOk.mp h
  obtain ⟨_,-,h⟩ := Fallible.bindOk.mp h
  obtain ⟨_,-,h⟩ := Fallible.bindOk.mp h
  obtain ⟨_,-,h⟩ := Fallible.bindOk.mp h
  obtain ⟨_,-,h⟩ := Fallible.bindOk.mp h
  obtain ⟨_,-,h⟩ := Fallible.bindOk.mp h
  obtain ⟨_,-,h⟩ := Fallible.bindOk.mp h
  simp only [] at h
  split at h
  · contradiction
  cases Except.ok.inj h
  exact (validIdentifier authorized).1

def tenantJobs (tenant : Option PyStr) (jobs : List RemoteBatchJob) : List RemoteBatchJob :=
  Table.shown RemoteBatchJob.key (tenantPolicy tenant) jobs

def bindsJobs (tenant : PyStr) (s : JobStatement) : Prop := s = .setScope tenant
def usesJobs (s : JobStatement) : Prop := ∀ tenant, s ≠ .setScope tenant

section
variable (pg : Postgres)

def answersJob (s : JobStatement) (session : JobSession) : Option (JobReply s × JobSession) :=
  some (answerJob pg s session)

structure SameJobs (tenant : PyStr) (bound : Bool) (a b : JobSession) : Prop where
  rows : tenantJobs (some tenant) a.jobs = tenantJobs (some tenant) b.jobs
  scopes : bound = true → a.scope = some tenant ∧ b.scope = some tenant

theorem upsertTenant {scope : Option PyStr} {s : RemoteBatchSnapshot} {m : PyStr} {jobs jobs' : List RemoteBatchJob}
    {n : Nat} (h : upsert pg scope s m jobs = .ok (n,jobs')) : scope = some s.tenantScope := by
  obtain ⟨c,cast,h⟩ := Fallible.bindOk.mp h
  obtain ⟨metadata,rfl⟩ := insertedColumns cast
  split at h
  · contradiction
  rename_i same
  exact not_not.mp same

theorem putShown {tenant : PyStr} {row : RemoteBatchJob} (own : row.key.tenantScope = tenant)
    (jobs : List RemoteBatchJob) : tenantJobs (some tenant) (Table.put RemoteBatchJob.key row jobs) =
      Table.put RemoteBatchJob.key row (tenantJobs (some tenant) jobs) := by
  have seen : tenantPolicy (some tenant) row.key = true := by simp [tenantPolicy,own]
  unfold tenantJobs
  rw [Table.shownPut,if_pos seen]

theorem putHidden {party : Option PyStr} {row : RemoteBatchJob} (other : some row.key.tenantScope ≠ party)
    (jobs : List RemoteBatchJob) :
    tenantJobs party (Table.put RemoteBatchJob.key row jobs) = tenantJobs party jobs := by
  have unseen : ¬tenantPolicy party row.key = true := by
    simp only [tenantPolicy,beq_iff_eq]
    exact fun same => other same.symm
  unfold tenantJobs
  rw [Table.shownPut,if_neg unseen]

theorem upsertShown (tenant : PyStr) (s : RemoteBatchSnapshot) (m : PyStr) (jobs : List RemoteBatchJob) :
    (upsert pg (some tenant) s m jobs).map (fun r => (r.1,tenantJobs (some tenant) r.2)) =
      upsert pg (some tenant) s m (tenantJobs (some tenant) jobs) := by
  unfold upsert
  cases cast : insertedRow pg s m with
  | error e => rfl
  | ok columns =>
    simp only [bind,Except.bind]
    by_cases own : some tenant = some columns.tenantScope
    · cases Option.some.inj own
      simp only [ne_eq,not_true_eq_false,if_false]
      cases stored : RemoteBatchJob.new columns with
      | error e => rfl
      | ok excluded =>
        have own : excluded.key.tenantScope = columns.tenantScope := by
          simp [RemoteBatchJob.key,newColumns stored]
        have seen : tenantPolicy (some columns.tenantScope) excluded.key = true := by simp [tenantPolicy,own]
        have found : Table.find RemoteBatchJob.key (tenantJobs (some columns.tenantScope) jobs) excluded.key =
            Table.find RemoteBatchJob.key jobs excluded.key := Table.findShown seen jobs
        simp only [found]
        cases present : Table.find RemoteBatchJob.key jobs excluded.key with
        | none => exact congrArg (fun rows => Except.ok (1,rows)) (putShown own jobs)
        | some old =>
          simp only []
          cases mergeGuard old.toJobColumns excluded.toJobColumns with
          | error e => rfl
          | ok passed => cases passed with
            | false => rfl
            | true =>
              simp only [if_true]
              cases updated : RemoteBatchJob.new (merged old.toJobColumns excluded.toJobColumns) with
              | error e => rfl
              | ok row =>
                have key := (mergedKey (newColumns updated)).trans (Table.findKey present)
                exact congrArg (fun rows => Except.ok (1,rows)) (putShown (by rw [key,own]) jobs)
    · simp only [ne_eq,own,not_false_eq_true,if_true]
      rfl

theorem upsertHidden {scope : Option PyStr} {s : RemoteBatchSnapshot} {m : PyStr} {jobs jobs' : List RemoteBatchJob}
    {n : Nat} {party : Option PyStr} (h : upsert pg scope s m jobs = .ok (n,jobs')) (other : scope ≠ party) :
    tenantJobs party jobs' = tenantJobs party jobs := by
  rw [upsertTenant pg h] at other
  cases upsertSource h with
  | inserted row metadata columns absent => exact putHidden (by rw [rowKey columns]; exact other) jobs
  | merged old row metadata present guard columns =>
    have key := (mergedKey columns).trans (Table.findKey present)
    exact putHidden (by rw [key]; exact other) jobs
  | kept old metadata present guard => rfl

theorem jobsBinding {tenant : PyStr} {s : JobStatement} {b : Bool} {st st' : JobSession} (binds : bindsJobs tenant s)
    (same : SameJobs tenant b st st') : Agree (SameJobs tenant true) (answersJob pg s st) (answersJob pg s st') := by
  cases binds
  exact ⟨rfl,same.rows,fun _ => ⟨rfl,rfl⟩⟩

theorem jobsUsing {tenant : PyStr} {s : JobStatement} {st st' : JobSession} (use : usesJobs s)
    (same : SameJobs tenant true st st') :
    Agree (SameJobs tenant true) (answersJob pg s st) (answersJob pg s st') := by
  obtain ⟨left,right⟩ := same.scopes rfl
  have visible : st.visible = st'.visible := by
    unfold JobSession.visible
    rw [left,right]
    exact same.rows
  cases s with
  | setScope other => exact absurd rfl (use other)
  | selectState k => exact ⟨by simp only [visible],same⟩
  | selectCandidates scope limit => exact ⟨by simp only [visible],same⟩
  | upsert s m =>
    have one := upsertShown pg tenant s m st.jobs
    have two := upsertShown pg tenant s m st'.jobs
    rw [same.rows] at one
    have both := one.trans two.symm
    simp only [answersJob,answerJob,left,right]
    cases first : upsert pg (some tenant) s m st.jobs with
    | error e => cases second : upsert pg (some tenant) s m st'.jobs with
      | error e' =>
        rw [first,second] at both
        cases Except.error.inj both
        exact ⟨rfl,same⟩
      | ok r' =>
        rw [first,second] at both
        cases both
    | ok r => cases second : upsert pg (some tenant) s m st'.jobs with
      | error e' =>
        rw [first,second] at both
        cases both
      | ok r' =>
        rw [first,second] at both
        obtain ⟨count,rows⟩ := Prod.mk.inj (Except.ok.inj both)
        exact ⟨by rw [count],rows,fun _ => ⟨rfl,rfl⟩⟩

section
variable {α : Type} {p : JobProgram α} {tenant : PyStr}

theorem transactDetermined (confined : Confined (bindsJobs tenant) usesJobs false p) (bound bound' : Option PyStr)
    {jobs jobs' : List RemoteBatchJob} (same : tenantJobs (some tenant) jobs = tenantJobs (some tenant) jobs') :
    (transact pg bound p jobs).1 = (transact pg bound' p jobs').1 ∧
      tenantJobs (some tenant) (transact pg bound p jobs).2 =
        tenantJobs (some tenant) (transact pg bound' p jobs').2 := by
  have start : SameJobs tenant false ⟨bound,jobs⟩ ⟨bound',jobs'⟩ := ⟨same,fun h => nomatch h⟩
  have agreed := confinedAgree (answersJob pg) (SameJobs tenant) (fun _ _ h => ⟨h.rows,fun h => nomatch h⟩)
    (fun _ _ _ _ => jobsBinding pg) (fun _ _ _ => jobsUsing pg) confined start
  unfold answersJob at agreed
  rw [Program.aloneEval,Program.aloneEval] at agreed
  obtain ⟨returned,related⟩ := agreed
  unfold transact
  generalize p.eval (answerJob pg) ⟨bound,jobs⟩ = x at returned related
  generalize p.eval (answerJob pg) ⟨bound',jobs'⟩ = y at returned related
  obtain ⟨r,session⟩ := x
  obtain ⟨r',session'⟩ := y
  cases returned
  cases r with
  | ok a => exact ⟨rfl,related.rows⟩
  | error e => exact ⟨rfl,same⟩

theorem transactIsolated (confined : Confined (bindsJobs tenant) usesJobs false p) (bound : Option PyStr)
    (jobs : List RemoteBatchJob) {party : Option PyStr} (other : some tenant ≠ party) :
    tenantJobs party (transact pg bound p jobs).2 = tenantJobs party jobs := by
  have kept := confinedKeeps (answersJob pg)
    (fun b session => tenantJobs party session.jobs = tenantJobs party jobs ∧
      (b = true → session.scope = some tenant))
    (fun _ h => ⟨h.1,fun h => nomatch h⟩)
    (fun s b st r st' binds inv done => by
      cases binds
      cases Option.some.inj done
      exact ⟨inv.1,fun _ => rfl⟩)
    (fun s st r st' use inv done => by
      have scope := inv.2 rfl
      cases s with
      | setScope scope => exact absurd rfl (use scope)
      | selectState k =>
        cases Option.some.inj done
        exact inv
      | selectCandidates scope limit =>
        cases Option.some.inj done
        exact inv
      | upsert s m =>
        simp only [answersJob,answerJob] at done
        cases ran : upsert pg st.scope s m st.jobs with
        | error e =>
          rw [ran] at done
          cases Option.some.inj done
          exact inv
        | ok x =>
          rw [ran] at done
          cases Option.some.inj done
          exact ⟨(upsertHidden pg ran (by rw [scope]; exact other)).trans inv.1,fun _ => scope⟩)
    confined ⟨rfl,fun h => nomatch h⟩ (Program.aloneEval (answerJob pg) p ⟨bound,jobs⟩)
  unfold transact
  generalize p.eval (answerJob pg) ⟨bound,jobs⟩ = x at kept
  obtain ⟨r,session⟩ := x
  cases r with
  | ok a => exact kept.1
  | error e => rfl

end
end

structure Database where
  jobs : List RemoteBatchJob
  checkpoints : CheckpointKey → Option StoredCheckpoint

inductive TenantCall where
  | persist (a : PersistArguments) (now : Int)
  | getState (tenantScope endpointAlias remoteBatchId : Json)
  | loadCandidates (tenantScope maxCandidates : Json)
  | loadCheckpoint (store : PostgresBatchResultCheckpointStore) (consumerName batchId endpointAlias : PyStr)
  | saveCheckpoint (store : PostgresBatchResultCheckpointStore) (consumerName : PyStr)
      (checkpoint : BatchResultCheckpoint) (expectedPrevious : Option BatchResultCheckpoint)

structure TenantOperation where
  call : TenantCall
  bound : Option PyStr

inductive Returned where
  | projection (d : Projection)
  | state (d : Option Projection)
  | candidates (cs : List ReconciliationCandidate)
  | loaded (c : Option BatchResultCheckpoint)
  | saved (c : BatchResultCheckpoint)

def namedScope : Json → Option PyStr
  | .str s => some s
  | _ => none

def TenantCall.tenant : TenantCall → Option PyStr
  | .persist a _ => namedScope a.tenantScope
  | .getState tenantScope _ _ => namedScope tenantScope
  | .loadCandidates tenantScope _ => namedScope tenantScope
  | .loadCheckpoint store _ _ _ => some store.tenantScope
  | .saveCheckpoint store _ _ _ => some store.tenantScope

section
variable (pg : Postgres) (i : Interpreter)

inductive CallProgram where
  | jobs (p : JobProgram Returned)
  | checkpoints (p : CheckpointProgram Empty Unit Returned)

def TenantCall.program : TenantCall → CallProgram
  | .persist a now => .jobs (persistTenantRemoteBatchState i now a >>= fun d => pure (.projection d))
  | .getState tenantScope endpointAlias remoteBatchId =>
      .jobs (getTenantRemoteBatchState tenantScope endpointAlias remoteBatchId >>= fun d => pure (.state d))
  | .loadCandidates tenantScope maxCandidates =>
      .jobs (loadReconciliationCandidatesInTransaction tenantScope maxCandidates >>= fun cs => pure (.candidates cs))
  | .loadCheckpoint store consumerName batchId endpointAlias =>
      .checkpoints (store.loadInTransaction consumerName batchId endpointAlias >>= fun c => pure (.loaded c))
  | .saveCheckpoint store consumerName checkpoint expectedPrevious =>
      .checkpoints (store.saveInTransaction consumerName checkpoint expectedPrevious >>= fun c => pure (.saved c))

def Database.step (db : Database) (o : TenantOperation) : Except PyError Returned × Database :=
  match o.call.program i with
  | .jobs p =>
      let r := transact pg o.bound p db.jobs
      (r.1,{db with jobs := r.2})
  | .checkpoints p =>
      let r := solo checkpointPolicy () (.database "42501") o.bound p db.checkpoints
      (r.1,{db with checkpoints := r.2})

def Database.rowsOf (party : Option PyStr) (db : Database) :
    List RemoteBatchJob × (CheckpointKey → Option StoredCheckpoint) :=
  (tenantJobs party db.jobs,fun k => if party = some k.tenantScope then db.checkpoints k else none)

def tenantSystem : System Database TenantOperation TenantCall (Except PyError Returned) (Option PyStr)
    (List RemoteBatchJob × (CheckpointKey → Option StoredCheckpoint)) where
  step := Database.step pg i
  call := TenantOperation.call
  owner := TenantCall.tenant
  view := Database.rowsOf

def OwnScope (tenant : Option PyStr) : CallProgram → Prop
  | .jobs p => match tenant with
      | some t => Confined (bindsJobs t) usesJobs false p
      | none => ∃ e, p = .raise e
  | .checkpoints p => ∃ t, tenant = some t ∧ Confined (binding t) using_ false p

theorem unnamedRefused {value : Json} (h : namedScope value = none) : ∃ e, validateTenantScope value = .error e := by
  cases value <;> first | exact ⟨_,rfl⟩ | cases h

theorem namedTenant {value : Json} {t s : PyStr} (h : namedScope value = some t)
    (valid : validateTenantScope value = .ok s) : s = t := by
  have same := (validIdentifier valid).1
  rw [same] at h
  exact Option.some.inj h

section
variable {b : Bool} {t : PyStr}

theorem upsertConfined (s : RemoteBatchSnapshot) (m : PyStr) : Confined (bindsJobs t) usesJobs true (upsertJob s m) := by
  refine confinedExcept (fun _ _ => ?_)
  exact confinedUsing (by rintro _ ⟨⟩) (fun _ => confinedOfExcept)

theorem selectConfined (k : JobKey) : Confined (bindsJobs t) usesJobs true (selectJob k) := by
  refine confinedExcept (fun _ _ => ?_)
  exact .use (by rintro _ ⟨⟩) (fun r => .ret r)

theorem persistConfined {s : RemoteBatchSnapshot} (m : PyStr) (own : s.tenantScope = t) :
    Confined (bindsJobs t) usesJobs false (persistSnapshot s m) := by
  refine confinedBinding (by rw [own]; rfl) (fun _ => ?_)
  refine confinedThen (upsertConfined s m) (fun c n bound => ?_)
  cases bound rfl
  split
  · refine confinedThen (selectConfined _) (fun c row _ => ?_)
    cases row with
    | none => exact .raise _
    | some row => exact .ret _
  · exact .ret _

end

section
variable (store : PostgresBatchResultCheckpointStore) (consumer : PyStr)

theorem lockConfined (k : CheckpointKey) {t : PyStr} :
    Confined (binding t) using_ true (selectCheckpointForUpdate k : CheckpointProgram Empty Unit _) :=
  confinedExcept (fun _ _ => .use (by rintro _ ⟨⟩) (fun r => .ret r))

theorem concurrentConfined (current : BatchResultCheckpoint) {t : PyStr} :
    Confined (binding t) using_ true (store.concurrentCheckpoint consumer current : CheckpointProgram Empty Unit _) := by
  refine confinedThen (lockConfined _) (fun c row bound => ?_)
  cases bound rfl
  cases row with
  | none => exact .raise _
  | some row =>
    refine confinedExcept (fun _ _ => ?_)
    split
    · exact .ret _
    · exact .raise _

theorem createConfined (current : BatchResultCheckpoint) (previous : Option BatchResultCheckpoint) {t : PyStr} :
    Confined (binding t) using_ true
      (store.createCheckpoint consumer current previous : CheckpointProgram Empty Unit _) := by
  unfold PostgresBatchResultCheckpointStore.createCheckpoint
  split
  · exact .raise _
  · refine confinedUsing (by rintro _ ⟨⟩) (fun inserted => ?_)
    split
    · exact .ret _
    · exact concurrentConfined store consumer current

theorem advanceConfined (current : BatchResultCheckpoint) (previous : Option BatchResultCheckpoint)
    (row : StoredCheckpoint) {t : PyStr} :
    Confined (binding t) using_ true
      (store.advanceCheckpoint consumer current previous row : CheckpointProgram Empty Unit _) := by
  refine confinedExcept (fun _ _ => ?_)
  split
  · exact .ret _
  split
  · exact .raise _
  split
  · exact .raise _
  · exact confinedUsing (by rintro _ ⟨⟩) (fun _ => .ret _)

theorem saveConfined (checkpoint : BatchResultCheckpoint) (previous : Option BatchResultCheckpoint) :
    Confined (binding store.tenantScope) using_ false
      (store.saveInTransaction consumer checkpoint previous : CheckpointProgram Empty Unit _) := by
  refine confinedExcept (fun _ _ => confinedExcept (fun current _ => confinedExcept (fun before _ => ?_)))
  refine confinedExcept (fun _ _ => confinedBinding rfl (fun _ => ?_))
  refine confinedThen (lockConfined _) (fun c row bound => ?_)
  cases bound rfl
  cases row with
  | none => exact createConfined store _ current before
  | some row => exact advanceConfined store _ current before row

theorem loadConfined (batchId endpointAlias : PyStr) :
    Confined (binding store.tenantScope) using_ false
      (store.loadInTransaction consumer batchId endpointAlias : CheckpointProgram Empty Unit _) := by
  refine confinedExcept (fun _ _ => confinedExcept (fun _ _ => confinedExcept (fun _ _ => ?_)))
  refine confinedBinding rfl (fun _ => confinedThen ?_ (fun c row _ => ?_))
  · exact confinedExcept (fun _ _ => .use (by rintro _ ⟨⟩) (fun r => .ret r))
  · cases row with
    | none => exact .ret _
    | some row => exact confinedExcept (fun _ _ => .ret _)

end

theorem callOwnScope (call : TenantCall) : OwnScope call.tenant (call.program i) := by
  cases call with
  | persist a now =>
    simp only [TenantCall.tenant,TenantCall.program,OwnScope]
    cases named : namedScope a.tenantScope with
    | none =>
      obtain ⟨e,refused⟩ := unnamedRefused named
      refine ⟨e,?_⟩
      simp only [persistTenantRemoteBatchState,persistState,normalizeRemoteBatchSnapshot,refused]
      rfl
    | some t =>
      refine confinedThen (confinedThen (confinedExcept (fun r normal => ?_)) (fun _ _ _ => .ret _)) (fun _ _ _ => .ret _)
      obtain ⟨s,m⟩ := r
      have same := normalizedScope normal
      rw [same] at named
      exact persistConfined m (Option.some.inj named)
  | getState tenantScope endpointAlias remoteBatchId =>
    simp only [TenantCall.tenant,TenantCall.program,OwnScope]
    cases named : namedScope tenantScope with
    | none =>
      obtain ⟨e,refused⟩ := unnamedRefused named
      refine ⟨e,?_⟩
      simp only [getTenantRemoteBatchState,refused]
      rfl
    | some t =>
      refine confinedThen (confinedExcept (fun s valid => ?_)) (fun _ _ _ => .ret _)
      refine confinedExcept (fun _ _ => confinedExcept (fun _ _ => ?_))
      refine confinedBinding (by rw [namedTenant named valid]; rfl) (fun _ => ?_)
      exact confinedThen (selectConfined _) (fun _ _ _ => .ret _)
  | loadCandidates tenantScope maxCandidates =>
    simp only [TenantCall.tenant,TenantCall.program,OwnScope]
    cases named : namedScope tenantScope with
    | none =>
      obtain ⟨e,refused⟩ := unnamedRefused named
      cases budget : validateCandidateBudget maxCandidates with
      | error x => exact ⟨x,by simp only [loadReconciliationCandidatesInTransaction,budget]; rfl⟩
      | ok n =>
        cases tenant : validateCandidateTenant tenantScope with
        | error x => exact ⟨x,by simp only [loadReconciliationCandidatesInTransaction,budget,tenant]; rfl⟩
        | ok s =>
          simp only [validateCandidateTenant,refused] at tenant
          cases tenant
    | some t =>
      refine confinedThen (confinedExcept (fun n _ => confinedExcept (fun s valid => ?_))) (fun _ _ _ => .ret _)
      have own : validateTenantScope tenantScope = .ok s := by
        unfold validateCandidateTenant at valid
        split at valid <;> cases valid
        assumption
      refine confinedThen (confinedHandle ?_ (fun c e => ?_)) (fun _ _ _ => confinedOfExcept)
      · refine confinedBinding (by rw [namedTenant named own]; rfl) (fun _ => ?_)
        exact .use (by rintro _ ⟨⟩) (fun r => .ret r)
      · split <;> exact .raise _
  | loadCheckpoint store consumerName batchId endpointAlias =>
    exact ⟨store.tenantScope,rfl,confinedThen (loadConfined store _ _ _) (fun _ _ _ => .ret _)⟩
  | saveCheckpoint store consumerName checkpoint expectedPrevious =>
    exact ⟨store.tenantScope,rfl,confinedThen (saveConfined store _ _ _) (fun _ _ _ => .ret _)⟩

theorem checkpointView (t : PyStr) (db : Database) :
    (db.rowsOf (some t)).2 = scopeView checkpointPolicy t db.checkpoints := by
  funext k
  simp [Database.rowsOf,scopeView,checkpointPolicy]

theorem systemSecure : (tenantSystem pg i).Secure where
  isolated := by
    intro db o party other
    have own := callOwnScope i o.call
    simp only [tenantSystem,Database.step] at other ⊢
    cases program : o.call.program i with
    | jobs p =>
      rw [program] at own
      cases named : o.call.tenant with
      | none =>
        rw [named] at own
        obtain ⟨e,rfl⟩ := own
        rfl
      | some t =>
        rw [named] at own other
        have kept := transactIsolated pg own o.bound db.jobs other
        simp only [Database.rowsOf,kept]
    | checkpoints p =>
      rw [program] at own
      obtain ⟨t,named,confined⟩ := own
      rw [named] at other
      simp only [Database.rowsOf,Prod.mk.injEq,true_and]
      funext k
      split
      · rename_i same
        have hidden : checkpointPolicy t k = false := by
          simp only [checkpointPolicy,beq_eq_false_iff_ne]
          rintro rfl
          exact other same.symm
        exact RowLocking.soloIsolated () confined _ o.bound db.checkpoints hidden
      · rfl
  determined := by
    intro db db' o o' called same
    obtain ⟨call,bound⟩ := o
    obtain ⟨other,bound'⟩ := o'
    cases (called : call = other)
    have own := callOwnScope i call
    simp only [tenantSystem,Database.step] at same ⊢
    cases program : call.program i with
    | jobs p =>
      rw [program] at own
      cases named : call.tenant with
      | none =>
        rw [named] at own
        obtain ⟨e,rfl⟩ := own
        rw [named] at same
        exact ⟨rfl,same⟩
      | some t =>
        rw [named] at own same
        obtain ⟨jobs,checkpoints⟩ := Prod.mk.inj same
        obtain ⟨returned,rows⟩ := transactDetermined pg own bound bound' jobs
        exact ⟨returned,Prod.ext rows checkpoints⟩
    | checkpoints p =>
      rw [program] at own
      obtain ⟨t,named,confined⟩ := own
      rw [named] at same ⊢
      obtain ⟨jobs,checkpoints⟩ := Prod.mk.inj same
      have visible : scopeView checkpointPolicy t db.checkpoints = scopeView checkpointPolicy t db'.checkpoints := by
        rw [← checkpointView,← checkpointView]
        exact checkpoints
      obtain ⟨returned,rows⟩ := RowLocking.soloDetermined () confined (.database "42501") bound bound' visible
      refine ⟨returned,Prod.ext jobs ?_⟩
      rw [checkpointView,checkpointView]
      exact rows

/-- What a tenant's calls return, and the rows it is left with, come of its own calls: not of the other tenants' calls
between them, nor of the scopes that the connections were bound to before. -/
theorem tenantNoninterference (db : Database) (ops alone : List TenantOperation) (a : PyStr)
    (calls : alone.map TenantOperation.call =
      (ops.map TenantOperation.call).filter (fun c => c.tenant = some a)) :
    (((tenantSystem pg i).run db ops).1.filter (fun r => r.1.call.tenant = some a)).map (fun r => (r.1.call,r.2)) =
        ((tenantSystem pg i).run db alone).1.map (fun r => (r.1.call,r.2)) ∧
      ((tenantSystem pg i).run db ops).2.rowsOf (some a) = ((tenantSystem pg i).run db alone).2.rowsOf (some a) :=
  unwinding (systemSecure pg i) (some a) rfl ops alone calls

end

def firstState (tenant : PyStr) : TenantCall :=
  .persist ⟨.str tenant,.str (py "primary"),.obj [(py "id",.str (py "batch-1")),(py "status",.str (py "in_progress"))],
    .int 1,.absent⟩ 0

def firstRead (tenant : PyStr) : TenantCall := .getState (.str tenant) (.str (py "primary")) (.str (py "batch-1"))

-- Between the two calls of one tenant, the other one persists a batch of the same name.
def interleaved : List TenantOperation :=
  [⟨firstState (py "tenant-a"),none⟩,⟨firstState (py "tenant-b"),some (py "tenant-a")⟩,
    ⟨firstRead (py "tenant-a"),some (py "tenant-b")⟩]

def unaccompanied : List TenantOperation :=
  [⟨firstState (py "tenant-a"),some (py "tenant-b")⟩,⟨firstRead (py "tenant-a"),none⟩]

theorem tenantUndisturbed :
    (((tenantSystem samplePostgres sampleInterpreter).run ⟨[],fun _ => none⟩ interleaved).1.filter
        (fun r => r.1.call.tenant = some (py "tenant-a"))).map (fun r => (r.1.call,r.2)) =
      ((tenantSystem samplePostgres sampleInterpreter).run ⟨[],fun _ => none⟩ unaccompanied).1.map
        (fun r => (r.1.call,r.2)) ∧
      ((tenantSystem samplePostgres sampleInterpreter).run ⟨[],fun _ => none⟩ interleaved).2.rowsOf (some (py "tenant-a")) =
        ((tenantSystem samplePostgres sampleInterpreter).run ⟨[],fun _ => none⟩ unaccompanied).2.rowsOf
          (some (py "tenant-a")) :=
  tenantNoninterference samplePostgres sampleInterpreter _ _ _ (py "tenant-a") rfl

end PgLlmBatch
