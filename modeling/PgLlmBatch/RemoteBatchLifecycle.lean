import PgLlmBatch.RemoteBatchStore
import PgLlmBatch.Base.Runs

/-! Any sequence of persist calls, in any order of arrival: what a lifecycle row has kept of
the observations that it accepted, and how it can change from one call to a later one. -/
namespace PgLlmBatch
open Base

inductive PersistCall where
  | tenant (a : PersistArguments)
  | standalone (endpointAlias : Json) (providerBatch : ProviderBatch) (observationOrder : Json) (observedAt : ObservedAt)

def PersistCall.arguments : PersistCall → PersistArguments
  | .tenant a => a
  | .standalone endpointAlias providerBatch order observedAt =>
      ⟨.str defaultTenantScope,endpointAlias,providerBatch,order,observedAt⟩

def PersistCall.program (i : Interpreter) (now : Int) : PersistCall → JobProgram Projection
  | .tenant a => persistTenantRemoteBatchState i now a
  | .standalone endpointAlias providerBatch order observedAt =>
      persistRemoteBatchState i now endpointAlias providerBatch order observedAt

structure PersistEvent where
  call : PersistCall
  now : Int
  bound : Option PyStr

section
variable (pg : Postgres) (i : Interpreter)

def PersistEvent.run (e : PersistEvent) (jobs : List RemoteBatchJob) : List RemoteBatchJob :=
  (transact pg e.bound (e.call.program i e.now) jobs).2

def PersistEvent.normalized (e : PersistEvent) : Except PyError (RemoteBatchSnapshot × PyStr) :=
  normalizeRemoteBatchSnapshot i e.now e.call.arguments.tenantScope e.call.arguments.endpointAlias
    e.call.arguments.providerBatch e.call.arguments.observationOrder e.call.arguments.observedAt

def PersistEvent.accepted (e : PersistEvent) (jobs : List RemoteBatchJob) : Option RemoteBatchSnapshot :=
  match e.normalized i with
  | .error _ => none
  | .ok (s,m) => match bindText s.endpointAlias with
      | .error _ => none
      | .ok _ => match upsert pg (some s.tenantScope) s m jobs with
          | .ok (1,_) => some s
          | _ => none

structure Lifecycle where
  jobs : List RemoteBatchJob
  accepted : List RemoteBatchSnapshot

def Lifecycle.step (l : Lifecycle) (e : PersistEvent) : Lifecycle :=
  ⟨e.run pg i l.jobs,l.accepted ++ (e.accepted pg i l.jobs).toList⟩

def Lifecycle.after (events : List PersistEvent) : Lifecycle := events.foldl (Lifecycle.step pg i) ⟨[],[]⟩

def Lifecycle.row (l : Lifecycle) (k : JobKey) : Option RemoteBatchJob := Table.find RemoteBatchJob.key l.jobs k

def Lifecycle.seen (l : Lifecycle) (k : JobKey) : List RemoteBatchSnapshot := l.accepted.filter (fun s => s.key == k)

def persistOutcome (s : RemoteBatchSnapshot) (m : PyStr) (jobs : List RemoteBatchJob) :
    Except PyError (Projection × List RemoteBatchJob) := do
  let _ ← bindText s.endpointAlias
  let (rowcount,jobs') ← upsert pg (some s.tenantScope) s m jobs
  if rowcount = 0 then match Table.find RemoteBatchJob.key jobs' s.key with
    | none => throw (.runtimeError "remote batch progress update was rejected without persisted state")
    | some row => return (row.dict,jobs')
  else return (s.dict,jobs')

def settled {α : Type} (jobs : List RemoteBatchJob) : Except PyError (α × List RemoteBatchJob) →
    Except PyError α × List RemoteBatchJob
  | .ok (a,jobs') => (.ok a,jobs')
  | .error e => (.error e,jobs)

theorem selectOwn (scope : PyStr) (jobs : List RemoteBatchJob) (k : JobKey) (own : k.tenantScope = scope) :
    Table.find RemoteBatchJob.key (JobSession.visible ⟨some scope,jobs⟩) k = Table.find RemoteBatchJob.key jobs k := by
  have seen : tenantPolicy (some scope) k = true := by simp [tenantPolicy,own]
  exact Table.findShown seen jobs

theorem upsertEval (s : RemoteBatchSnapshot) (m : PyStr) (session : JobSession) :
    (upsertJob s m).eval (answerJob pg) session = match bindText s.endpointAlias with
      | .error e => (.error e,session)
      | .ok _ => match upsert pg session.scope s m session.jobs with
          | .ok (n,jobs) => (.ok n,{session with jobs := jobs})
          | .error e => (.error e,session) := by
  unfold upsertJob
  simp only [Program.evalBind,Program.evalAsk,Program.evalOfExcept,answerJob]
  cases bindText s.endpointAlias with
  | error e => rfl
  | ok t => cases done : upsert pg session.scope s m session.jobs <;> simp only [done]

theorem selectEval (k : JobKey) (session : JobSession) :
    (selectJob k).eval (answerJob pg) session =
      ((bindText k.endpointAlias).map (fun _ => Table.find RemoteBatchJob.key session.visible k),session) := by
  unfold selectJob
  simp only [Program.evalBind,Program.evalAsk,Program.evalOfExcept,answerJob]
  cases bindText k.endpointAlias with
  | error e => rfl
  | ok t => rfl

theorem persistTransact (bound : Option PyStr) (s : RemoteBatchSnapshot) (m : PyStr) (jobs : List RemoteBatchJob) :
    transact pg bound (persistSnapshot s m) jobs = settled jobs (persistOutcome pg s m jobs) := by
  unfold transact persistSnapshot persistOutcome setJobTenantScope
  simp only [Program.evalBind,Program.evalAsk,upsertEval,answerJob]
  cases text : bindText s.endpointAlias with
  | error e => rfl
  | ok t =>
    cases done : upsert pg (some s.tenantScope) s m jobs with
    | error e => rfl
    | ok r =>
      obtain ⟨n,jobs'⟩ := r
      cases n with
      | succ n => rfl
      | zero =>
        have found := selectOwn s.tenantScope jobs' s.key rfl
        have read := selectEval pg s.key ⟨some s.tenantScope,jobs'⟩
        have same : bindText s.key.endpointAlias = .ok t := text
        rw [found,same] at read
        simp only [bind,Except.bind,if_true]
        unfold RemoteBatchSnapshot.key at read ⊢
        simp only [Program.bindEq,Program.evalBind,read,Except.map]
        generalize Table.find RemoteBatchJob.key jobs' _ = row
        cases row <;> rfl

theorem transactMap {α β : Type} (bound : Option PyStr) (p : JobProgram α) (f : α → β)
    (jobs : List RemoteBatchJob) : transact pg bound (p >>= fun a => pure (f a)) jobs =
      ((transact pg bound p jobs).1.map f,(transact pg bound p jobs).2) := by
  unfold transact
  rw [Program.evalBind]
  generalize p.eval (answerJob pg) ⟨bound,jobs⟩ = r
  obtain ⟨_ | a,session⟩ := r <;> rfl

theorem stateJobs (bound : Option PyStr) (now : Int) (a : PersistArguments) (jobs : List RemoteBatchJob) :
    transact pg bound (persistState i now a) jobs =
      match normalizeRemoteBatchSnapshot i now a.tenantScope a.endpointAlias a.providerBatch
        a.observationOrder a.observedAt with
      | .error e => (.error e,jobs)
      | .ok (s,m) => settled jobs (persistOutcome pg s m jobs) := by
  unfold persistState
  cases normalizeRemoteBatchSnapshot i now a.tenantScope a.endpointAlias a.providerBatch
    a.observationOrder a.observedAt with
  | error e => rfl
  | ok r => exact persistTransact pg bound r.1 r.2 jobs

theorem calledJobs (e : PersistEvent) (jobs : List RemoteBatchJob) :
    e.run pg i jobs = match e.normalized i with
      | .error _ => jobs
      | .ok (s,m) => (settled jobs (persistOutcome pg s m jobs)).2 := by
  have ran : e.run pg i jobs = (transact pg e.bound (persistState i e.now e.call.arguments) jobs).2 := by
    unfold PersistEvent.run
    cases e.call with
    | tenant a =>
      have popped := transactMap pg e.bound (persistState i e.now a) (fun d => d.pop "total_requests_known") jobs
      have jobs_ := congrArg Prod.snd popped
      exact jobs_
    | standalone endpointAlias providerBatch order observedAt =>
      have popped := transactMap pg e.bound (persistState i e.now
        ⟨.str defaultTenantScope,endpointAlias,providerBatch,order,observedAt⟩)
        (fun d => (d.pop "tenant_scope").pop "total_requests_known") jobs
      have jobs_ := congrArg Prod.snd popped
      exact jobs_
  rw [ran,stateJobs]
  unfold PersistEvent.normalized
  split <;> rfl

theorem stepCases (e : PersistEvent) (jobs : List RemoteBatchJob) :
    (e.accepted pg i jobs = none ∧ e.run pg i jobs = jobs) ∨
      ∃ s m, e.normalized i = .ok (s,m) ∧ e.accepted pg i jobs = some s ∧
        Upserted s jobs 1 (e.run pg i jobs) := by
  rw [calledJobs]
  unfold PersistEvent.accepted
  cases normal : e.normalized i with
  | error x => exact .inl ⟨rfl,rfl⟩
  | ok r =>
    obtain ⟨s,m⟩ := r
    simp only [persistOutcome]
    cases text : bindText s.endpointAlias with
    | error x => exact .inl ⟨rfl,rfl⟩
    | ok t =>
      cases done : upsert pg (some s.tenantScope) s m jobs with
      | error x => exact .inl ⟨rfl,rfl⟩
      | ok r =>
        obtain ⟨n,jobs'⟩ := r
        have source := upsertSource done
        cases source with
        | inserted row metadata columns absent =>
          exact .inr ⟨s,m,rfl,rfl,.inserted row metadata columns absent⟩
        | merged old row metadata present guard columns =>
          exact .inr ⟨s,m,rfl,rfl,.merged old row metadata present guard columns⟩
        | kept old metadata present guard =>
          simp only [bind,Except.bind,if_true,present]
          exact .inl ⟨trivial,rfl⟩

structure Recorded (seen : List RemoteBatchSnapshot) (row : RemoteBatchJob) : Prop where
  increasing : (seen.map RemoteBatchSnapshot.observationOrder).Pairwise (· < ·)
  last : ∃ s, seen.getLast? = some s ∧ row.observationOrder = s.observationOrder ∧ row.batchStatus = s.batchStatus
  first : ∃ s, seen.head? = some s ∧ row.firstSeenAt = s.observedAt
  ended : row.terminalAt = (seen.find? (fun s => s.batchStatus.terminal)).map RemoteBatchSnapshot.observedAt
  terminal : row.terminalAt.isSome = row.batchStatus.terminal
  known : 0 < row.totalRequests → row.totalRequestsKnown = true
  progress : row.totalRequestsKnown = true → row.completedRequests + row.failedRequests ≤ row.totalRequests

structure Grown (old new : RemoteBatchJob) : Prop where
  changes : new = old ∨ old.observationOrder < new.observationOrder
  settled : old.batchStatus.terminal = true → new.batchStatus = old.batchStatus
  firstSeen : new.firstSeenAt = old.firstSeenAt
  inputFile : old.inputFileId.isSome = true → new.inputFileId.isSome = true
  outputFile : old.outputFileId.isSome = true → new.outputFileId.isSome = true
  errorFile : old.errorFileId.isSome = true → new.errorFileId.isSome = true
  endpoint : old.batchEndpoint.isSome = true → new.batchEndpoint.isSome = true
  metadata : emptyJsonb old.providerMetadata = false → emptyJsonb new.providerMetadata = false
  total : old.totalRequests ≤ new.totalRequests
  completed : old.completedRequests ≤ new.completedRequests
  failed : old.failedRequests ≤ new.failedRequests

omit pg i in
theorem grownRefl (row : RemoteBatchJob) : Grown row row := by
  constructor <;> simp

theorem grownTrans {a b c : RemoteBatchJob} (first : Grown a b) (second : Grown b c) : Grown a c where
  changes := by
    rcases second.changes with rfl | later
    · exact first.changes
    · rcases first.changes with rfl | earlier
      · exact .inr later
      · exact .inr (lt_trans earlier later)
  settled := fun h => by
    have same := first.settled h
    rw [second.settled (by rw [same]; exact h),same]
  firstSeen := second.firstSeen.trans first.firstSeen
  inputFile := fun h => second.inputFile (first.inputFile h)
  outputFile := fun h => second.outputFile (first.outputFile h)
  errorFile := fun h => second.errorFile (first.errorFile h)
  endpoint := fun h => second.endpoint (first.endpoint h)
  metadata := fun h => second.metadata (first.metadata h)
  total := le_trans first.total second.total
  completed := le_trans first.completed second.completed
  failed := le_trans first.failed second.failed

theorem guardPassed {old excluded : JobColumns} (h : mergeGuard old excluded = .ok true) :
    old.observationOrder < excluded.observationOrder ∧
      (old.batchStatus.terminal = true → excluded.batchStatus = old.batchStatus) := by
  unfold mergeGuard at h
  split at h
  · rename_i newer
    obtain ⟨progress,-,h⟩ := Fallible.bindOk.mp h
    cases progress with
    | false => cases Except.ok.inj h
    | true =>
      have settled := Except.ok.inj h
      simp only [Bool.or_eq_true,Bool.not_eq_true',beq_iff_eq] at settled
      refine ⟨newer,fun terminal => ?_⟩
      rcases settled with running | same
      · rw [terminal] at running
        contradiction
      · exact same
  · cases Except.ok.inj h

theorem orKeeps {α : Type} (a b : Option α) (h : b.isSome = true) : (a.or b).isSome = true := by
  cases a <;> simp [h]

theorem mergedGrown {old row : RemoteBatchJob} {excluded : JobColumns}
    (guard : mergeGuard old.toJobColumns excluded = .ok true)
    (columns : row.toJobColumns = merged old.toJobColumns excluded) : Grown old row := by
  obtain ⟨newer,settled⟩ := guardPassed guard
  constructor <;> rw [columns]
  · exact .inr newer
  · exact settled
  · rfl
  · exact orKeeps _ _
  · exact orKeeps _ _
  · exact orKeeps _ _
  · exact orKeeps _ _
  · intro present
    simp only [merged]
    split
    · exact present
    · rename_i full
      exact Bool.eq_false_iff.mpr full
  · exact le_max_left _ _
  · exact le_max_left _ _
  · exact le_max_left _ _

theorem checkedProgress (row : RemoteBatchJob) (known : row.totalRequestsKnown = true) :
    row.completedRequests + row.failedRequests ≤ row.totalRequests := by
  have checked := row.checked
  simp only [JobColumns.checks,JobColumns.knownProgress,Bool.and_eq_true] at checked
  have progress := checked.2
  simpa [known] using progress

theorem recordedFirst {s : RemoteBatchSnapshot} {row : RemoteBatchJob} {metadata : Json}
    (normal : s.Normalized) (columns : row.toJobColumns = s.columns metadata) : Recorded [s] row where
  increasing := by simp
  last := ⟨s,rfl,by rw [columns]; rfl,by rw [columns]; rfl⟩
  first := ⟨s,rfl,by rw [columns]; rfl⟩
  ended := by
    rw [columns]
    simp only [RemoteBatchSnapshot.columns,normal.terminal,List.find?_cons]
    split <;> simp_all
  terminal := by
    rw [columns]
    simp only [RemoteBatchSnapshot.columns,normal.terminal]
    split <;> simp_all
  known := by
    rw [columns]
    exact normal.known
  progress := checkedProgress row

theorem ordersBelow {seen : List RemoteBatchSnapshot} {row : RemoteBatchJob} (h : Recorded seen row) :
    ∀ s ∈ seen, s.observationOrder ≤ row.observationOrder := by
  obtain ⟨l,last,order,-⟩ := h.last
  obtain ⟨before,rfl⟩ := List.getLast?_eq_some_iff.mp last
  have increasing := h.increasing
  rw [List.map_append,List.pairwise_append] at increasing
  intro s here
  rw [order]
  rcases List.mem_append.mp here with earlier | same
  · exact le_of_lt (increasing.2.2 _ (List.mem_map_of_mem earlier) _ (by simp))
  · cases List.mem_singleton.mp same
    exact le_refl _

theorem recordedNext {seen : List RemoteBatchSnapshot} {old row : RemoteBatchJob} {s : RemoteBatchSnapshot}
    {metadata : Json} (h : Recorded seen old) (normal : s.Normalized)
    (guard : mergeGuard old.toJobColumns (s.columns metadata) = .ok true)
    (columns : row.toJobColumns = merged old.toJobColumns (s.columns metadata)) :
    Recorded (seen ++ [s]) row := by
  obtain ⟨newer,settled⟩ := guardPassed guard
  have some_ : seen ≠ [] := by
    obtain ⟨l,last,-⟩ := h.last
    rintro rfl
    cases last
  exact {
    increasing := by
      rw [List.map_append,List.pairwise_append]
      refine ⟨h.increasing,by simp,?_⟩
      intro a before b same
      obtain ⟨x,here,rfl⟩ := List.mem_map.mp before
      have below := ordersBelow h x here
      have order : b = s.observationOrder := by simpa using same
      rw [order]
      exact lt_of_le_of_lt below newer
    last := ⟨s,by simp,by rw [columns]; rfl,by rw [columns]; rfl⟩
    first := by
      obtain ⟨f,head,at_⟩ := h.first
      refine ⟨f,by rw [List.head?_append_of_ne_nil _ some_,head],?_⟩
      rw [columns]
      exact at_
    ended := by
      rw [columns,List.find?_append]
      simp only [merged,RemoteBatchSnapshot.columns,h.ended,normal.terminal,List.find?_cons]
      cases seen.find? (fun s => s.batchStatus.terminal) with
      | some f => rfl
      | none => split <;> simp_all
    terminal := by
      have before := h.terminal
      rw [columns]
      simp only [merged,RemoteBatchSnapshot.columns,normal.terminal] at settled ⊢
      cases ended : old.terminalAt with
      | some at_ =>
        have finished : old.batchStatus.terminal = true := by rw [← before,ended]; rfl
        rw [settled finished,finished]
        rfl
      | none => cases s.batchStatus.terminal <;> rfl
    known := by
      rw [columns]
      simp only [merged,RemoteBatchSnapshot.columns,Bool.or_eq_true]
      intro positive
      have either : 0 < old.totalRequests ∨ 0 < s.totalRequests := by omega
      exact either.imp h.known normal.known
    progress := checkedProgress row}

def Lifecycle.Recorded (l : Lifecycle) : Prop := ∀ k, match l.row k with
  | none => l.seen k = []
  | some row => PgLlmBatch.Recorded (l.seen k) row

def Lifecycle.Follows (l l' : Lifecycle) : Prop :=
  ∀ k old, l.row k = some old → ∃ new, l'.row k = some new ∧ Grown old new

theorem followsRefl (l : Lifecycle) : l.Follows l := fun _ old here => ⟨old,here,grownRefl old⟩

theorem followsTrans (a b c : Lifecycle) (first : a.Follows b) (second : b.Follows c) : a.Follows c := by
  intro k old here
  obtain ⟨mid,there,grown⟩ := first k old here
  obtain ⟨new,last,more⟩ := second k mid there
  exact ⟨new,last,grownTrans grown more⟩

theorem acceptedRow {l : Lifecycle} {s : RemoteBatchSnapshot} {jobs : List RemoteBatchJob} (h : l.Recorded)
    (normal : s.Normalized) (done : Upserted s l.jobs 1 jobs) :
    ∃ row, row.key = s.key ∧ jobs = Table.put RemoteBatchJob.key row l.jobs ∧
      Recorded (l.seen s.key ++ [s]) row ∧ ∀ old, l.row s.key = some old → Grown old row := by
  have recorded := h s.key
  cases done with
  | inserted row metadata columns absent =>
    have empty : l.row s.key = none := absent
    rw [empty] at recorded
    refine ⟨row,rowKey columns,rfl,?_,?_⟩
    · rw [recorded]
      exact recordedFirst normal columns
    · intro old here
      rw [empty] at here
      cases here
  | merged old row metadata present guard columns =>
    have there : l.row s.key = some old := present
    rw [there] at recorded
    refine ⟨row,(mergedKey columns).trans (Table.findKey present),rfl,recordedNext recorded normal guard columns,?_⟩
    intro other here
    rw [there] at here
    cases here
    exact mergedGrown guard columns

theorem seenStep (l : Lifecycle) (jobs : List RemoteBatchJob) (s : RemoteBatchSnapshot) (k : JobKey) :
    (Lifecycle.mk jobs (l.accepted ++ [s])).seen k = if s.key = k then l.seen k ++ [s] else l.seen k := by
  simp only [Lifecycle.seen,List.filter_append,List.filter_cons,List.filter_nil,beq_iff_eq]
  split <;> simp

theorem stepRecorded (l : Lifecycle) (e : PersistEvent) (h : l.Recorded) :
    (l.step pg i e).Recorded ∧ l.Follows (l.step pg i e) := by
  unfold Lifecycle.step
  rcases stepCases pg i e l.jobs with ⟨quiet,same⟩ | ⟨s,m,normal,quiet,done⟩
  · rw [quiet,same]
    have kept : (⟨l.jobs,l.accepted ++ none.toList⟩ : Lifecycle) = l := by simp
    rw [kept]
    exact ⟨h,followsRefl l⟩
  · rw [quiet]
    obtain ⟨row,key,put,recorded,grown⟩ := acceptedRow h (normalizedSnapshot normal) done
    have rows : ∀ k, Lifecycle.row ⟨e.run pg i l.jobs,l.accepted ++ [s]⟩ k =
        if s.key = k then some row else l.row k := by
      intro k
      unfold Lifecycle.row
      rw [put,Table.findPut,key]
    constructor
    · intro k
      rw [Option.toList_some,rows,seenStep]
      by_cases own : s.key = k
      · subst own
        simpa using recorded
      · simpa [own] using h k
    · intro k old here
      rw [Option.toList_some,rows]
      by_cases own : s.key = k
      · subst own
        exact ⟨row,by simp,grown old here⟩
      · exact ⟨old,by simpa [own] using here,grownRefl old⟩

theorem emptyRecorded : (⟨[],[]⟩ : Lifecycle).Recorded := fun _ => rfl

theorem afterRecorded (events : List PersistEvent) : (Lifecycle.after pg i events).Recorded :=
  Runs.foldInvariant (fun l e h => (stepRecorded pg i l e h).1) emptyRecorded events

theorem lifecycleInvariant (earlier later : List PersistEvent) (k : JobKey) (old : RemoteBatchJob)
    (h : (Lifecycle.after pg i earlier).row k = some old) :
    Recorded ((Lifecycle.after pg i earlier).seen k) old ∧
      ∃ new, (Lifecycle.after pg i (earlier ++ later)).row k = some new ∧ Grown old new := by
  have recorded := afterRecorded pg i earlier
  have follows : (Lifecycle.after pg i earlier).Follows (Lifecycle.after pg i (earlier ++ later)) := by
    unfold Lifecycle.after
    rw [List.foldl_append]
    exact Runs.foldRelated followsRefl followsTrans (fun l e h => (stepRecorded pg i l e h).1)
      (fun l e h => (stepRecorded pg i l e h).2) recorded later
  have here := recorded k
  rw [h] at here
  exact ⟨here,follows k old h⟩

end

def sampleInterpreter : Interpreter := ⟨1000,some 4300,usualDepth⟩
def samplePostgres : Postgres := ⟨fun _ => .ok (.obj []),fun a b => decide (a = b) || decide (List.Lex (· < ·) a b)⟩

def sampleObservation (order : Int) (status : String) (observed : Int) : PersistEvent where
  call := .tenant ⟨.str (py "tenant-a"),.str (py " primary "),.obj [(py "id",.str (py "batch-1")),
    (py "status",.str (py status)),(py "request_counts",.obj [(py "total",.int 2),(py "completed",.int 1)])],
    .int order,.aware observed⟩
  now := 0
  bound := some (py "tenant-b")

theorem staleAfterCompleted :
    ∃ old new, (Lifecycle.after samplePostgres sampleInterpreter [sampleObservation 7 "completed" 50]).row
        ⟨py "tenant-a",py "primary",py "batch-1"⟩ = some old ∧
      (Lifecycle.after samplePostgres sampleInterpreter ([sampleObservation 7 "completed" 50] ++
        [sampleObservation 9 "in_progress" 60,sampleObservation 3 "completed" 40])).row
          ⟨py "tenant-a",py "primary",py "batch-1"⟩ = some new ∧
      old.batchStatus.terminal = true ∧ new.batchStatus = old.batchStatus ∧
        old.observationOrder ≤ new.observationOrder := by
  have present : ((Lifecycle.after samplePostgres sampleInterpreter [sampleObservation 7 "completed" 50]).row
      ⟨py "tenant-a",py "primary",py "batch-1"⟩).map (fun r => r.batchStatus.terminal) = some true := by
    decide +kernel
  obtain ⟨old,here,finished⟩ := Option.map_eq_some_iff.mp present
  obtain ⟨-,new,there,grown⟩ := lifecycleInvariant samplePostgres sampleInterpreter
    [sampleObservation 7 "completed" 50]
    [sampleObservation 9 "in_progress" 60,sampleObservation 3 "completed" 40]
    ⟨py "tenant-a",py "primary",py "batch-1"⟩ old here
  refine ⟨old,new,here,there,finished,grown.settled finished,?_⟩
  rcases grown.changes with same | later
  · exact le_of_eq (congrArg (fun r => r.observationOrder) same.symm)
  · exact le_of_lt later

end PgLlmBatch
