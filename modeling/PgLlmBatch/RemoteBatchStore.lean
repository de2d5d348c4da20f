import PgLlmBatch.RemoteBatchSnapshot
import PgLlmBatch.Base.Program
import PgLlmBatch.Base.Table

/-! `llm_remote_batch_jobs`: its columns and CHECK constraints, the one upsert with its merge
and guard, and the package's lifecycle functions as transactions over it. -/
namespace PgLlmBatch
open Base

structure JobKey where
  tenantScope : PyStr
  endpointAlias : PyStr
  remoteBatchId : PyStr
  deriving DecidableEq, Repr

structure JobColumns where
  tenantScope : PyStr
  endpointAlias : PyStr
  remoteBatchId : PyStr
  observationOrder : Int
  inputFileId : Option PyStr
  batchEndpoint : Option BatchEndpoint
  batchStatus : BatchStatus
  outputFileId : Option PyStr
  errorFileId : Option PyStr
  totalRequests : Int
  totalRequestsKnown : Bool
  completedRequests : Int
  failedRequests : Int
  providerMetadata : Json
  firstSeenAt : Int
  lastObservedAt : Int
  terminalAt : Option Int
  updatedAt : Int
  deriving Repr

def inBigint (n : Int) : Bool := -2 ^ 63 ≤ n && n < 2 ^ 63
def inInteger (n : Int) : Bool := -2 ^ 31 ≤ n && n < 2 ^ 31

namespace JobColumns

def resourceIdCheck (id : PyStr) : Bool := identifierPattern maxRemoteResourceIdCharacters id

def optionalIdCheck : Option PyStr → Bool
  | none => true
  | some id => resourceIdCheck id

def knownProgress (c : JobColumns) : Bool :=
  !c.totalRequestsKnown || decide (c.completedRequests + c.failedRequests ≤ c.totalRequests)

def checks (c : JobColumns) : Bool :=
  identifierPattern maxTenantScopeCharacters c.tenantScope &&
    (1 ≤ c.endpointAlias.length && c.endpointAlias.length ≤ 128) && resourceIdCheck c.remoteBatchId &&
    decide (0 < c.observationOrder) && optionalIdCheck c.inputFileId && optionalIdCheck c.outputFileId &&
    optionalIdCheck c.errorFileId && decide (0 ≤ c.totalRequests) && decide (0 ≤ c.completedRequests) &&
    decide (0 ≤ c.failedRequests) && c.knownProgress

end JobColumns

structure JobColumns.Checked (c : JobColumns) : Prop where
  scope : identifierPattern maxTenantScopeCharacters c.tenantScope = true
  endpointAlias : 1 ≤ c.endpointAlias.length ∧ c.endpointAlias.length ≤ 128
  batchId : JobColumns.resourceIdCheck c.remoteBatchId = true
  order : 0 < c.observationOrder
  inputFile : JobColumns.optionalIdCheck c.inputFileId = true
  outputFile : JobColumns.optionalIdCheck c.outputFileId = true
  errorFile : JobColumns.optionalIdCheck c.errorFileId = true
  total : 0 ≤ c.totalRequests
  completed : 0 ≤ c.completedRequests
  failed : 0 ≤ c.failedRequests
  progress : c.totalRequestsKnown = true → c.completedRequests + c.failedRequests ≤ c.totalRequests

theorem checksMet (c : JobColumns) : c.checks = true ↔ c.Checked := by
  simp only [JobColumns.checks,JobColumns.knownProgress,Bool.and_eq_true,Bool.or_eq_true,Bool.not_eq_true',
    decide_eq_true_eq]
  constructor
  · rintro ⟨⟨⟨⟨⟨⟨⟨⟨⟨⟨scope,named⟩,id⟩,order⟩,input⟩,output⟩,error⟩,total⟩,completed⟩,failed⟩,progress⟩
    exact ⟨scope,named,id,order,input,output,error,total,completed,failed,fun known => by
      rcases progress with unknown | within
      · rw [known] at unknown
        cases unknown
      · exact within⟩
  · intro h
    refine ⟨⟨⟨⟨⟨⟨⟨⟨⟨⟨h.scope,h.endpointAlias⟩,h.batchId⟩,h.order⟩,h.inputFile⟩,h.outputFile⟩,h.errorFile⟩,h.total⟩,
      h.completed⟩,h.failed⟩,?_⟩
    cases known : c.totalRequestsKnown with
    | false => exact .inl rfl
    | true => exact .inr (h.progress known)

structure RemoteBatchJob extends JobColumns where
  checked : toJobColumns.checks = true

namespace RemoteBatchJob

def key (row : RemoteBatchJob) : JobKey := ⟨row.tenantScope,row.endpointAlias,row.remoteBatchId⟩

def new (c : JobColumns) : Except PyError RemoteBatchJob :=
  if h : c.checks = true then .ok ⟨c,h⟩ else .error (.database "23514")

end RemoteBatchJob

-- What the server brings: the text to jsonb cast, and the collation that ORDER BY uses.
structure Postgres where
  jsonb : PyStr → Except String Json
  textLe : PyStr → PyStr → Bool

-- `current_setting('pg_llm_batch.tenant_scope', true)` shows and admits the rows of one tenant.
def tenantPolicy (scope : Option PyStr) (key : JobKey) : Bool := scope == some key.tenantScope

def emptyJsonb : Json → Bool
  | .obj [] => true
  | _ => false

def outOfRange : PyError := .database "22003"

def RemoteBatchSnapshot.columns (s : RemoteBatchSnapshot) (metadata : Json) : JobColumns where
  tenantScope := s.tenantScope
  endpointAlias := s.endpointAlias
  remoteBatchId := s.remoteBatchId
  observationOrder := s.observationOrder
  inputFileId := s.inputFileId
  batchEndpoint := s.batchEndpoint
  batchStatus := s.batchStatus
  outputFileId := s.outputFileId
  errorFileId := s.errorFileId
  totalRequests := s.totalRequests
  totalRequestsKnown := s.totalRequestsKnown
  completedRequests := s.completedRequests
  failedRequests := s.failedRequests
  providerMetadata := metadata
  firstSeenAt := s.observedAt
  lastObservedAt := s.observedAt
  terminalAt := s.terminalAt
  updatedAt := s.observedAt

-- The VALUES row, every parameter cast to its column's type.
def insertedRow (pg : Postgres) (s : RemoteBatchSnapshot) (metadataJson : PyStr) : Except PyError JobColumns :=
  if inBigint s.observationOrder && inInteger s.totalRequests && inInteger s.completedRequests &&
      inInteger s.failedRequests then
    match pg.jsonb metadataJson with
    | .error sqlState => .error (.database sqlState)
    | .ok metadata => .ok (s.columns metadata)
  else .error outOfRange

-- ON CONFLICT ... DO UPDATE SET
def merged (old excluded : JobColumns) : JobColumns where
  tenantScope := old.tenantScope
  endpointAlias := old.endpointAlias
  remoteBatchId := old.remoteBatchId
  observationOrder := excluded.observationOrder
  inputFileId := excluded.inputFileId.or old.inputFileId
  batchEndpoint := excluded.batchEndpoint.or old.batchEndpoint
  batchStatus := excluded.batchStatus
  outputFileId := excluded.outputFileId.or old.outputFileId
  errorFileId := excluded.errorFileId.or old.errorFileId
  totalRequests := max old.totalRequests excluded.totalRequests
  totalRequestsKnown := old.totalRequestsKnown || excluded.totalRequestsKnown
  completedRequests := max old.completedRequests excluded.completedRequests
  failedRequests := max old.failedRequests excluded.failedRequests
  providerMetadata := if emptyJsonb excluded.providerMetadata then old.providerMetadata
    else excluded.providerMetadata
  firstSeenAt := old.firstSeenAt
  lastObservedAt := excluded.lastObservedAt
  terminalAt := old.terminalAt.or excluded.terminalAt
  updatedAt := excluded.updatedAt

def integerSum (a b : Int) : Except PyError Int := if inInteger (a + b) then .ok (a + b) else .error outOfRange

-- The guard's middle conjunct: INTEGER addition, evaluated only when a total is known.
def progressGuard (old excluded : JobColumns) : Except PyError Bool :=
  if old.totalRequestsKnown || excluded.totalRequestsKnown then do
    let sum ← integerSum (max old.completedRequests excluded.completedRequests)
      (max old.failedRequests excluded.failedRequests)
    return decide (sum ≤ max old.totalRequests excluded.totalRequests)
  else return true

def mergeGuard (old excluded : JobColumns) : Except PyError Bool :=
  if old.observationOrder < excluded.observationOrder then do
    if ← progressGuard old excluded then
      return !old.batchStatus.terminal || excluded.batchStatus == old.batchStatus
    else return false
  else return false

-- The rows after the upsert and the row count that it reports.
def upsert (pg : Postgres) (scope : Option PyStr) (s : RemoteBatchSnapshot) (metadataJson : PyStr)
    (jobs : List RemoteBatchJob) : Except PyError (Nat × List RemoteBatchJob) := do
  let columns ← insertedRow pg s metadataJson
  if scope ≠ some columns.tenantScope then throw (.database "42501")
  let excluded ← RemoteBatchJob.new columns
  match Table.find RemoteBatchJob.key jobs excluded.key with
  | none => return (1,Table.put RemoteBatchJob.key excluded jobs)
  | some old =>
      if ← mergeGuard old.toJobColumns excluded.toJobColumns then do
        let row ← RemoteBatchJob.new (merged old.toJobColumns excluded.toJobColumns)
        return (1,Table.put RemoteBatchJob.key row jobs)
      else return (0,jobs)

def RemoteBatchSnapshot.key (s : RemoteBatchSnapshot) : JobKey := ⟨s.tenantScope,s.endpointAlias,s.remoteBatchId⟩

inductive Upserted (s : RemoteBatchSnapshot) (jobs : List RemoteBatchJob) : Nat → List RemoteBatchJob → Prop where
  | inserted (row : RemoteBatchJob) (metadata : Json) (columns : row.toJobColumns = s.columns metadata)
      (absent : Table.find RemoteBatchJob.key jobs s.key = none) :
      Upserted s jobs 1 (Table.put RemoteBatchJob.key row jobs)
  | merged (old row : RemoteBatchJob) (metadata : Json)
      (present : Table.find RemoteBatchJob.key jobs s.key = some old)
      (guard : mergeGuard old.toJobColumns (s.columns metadata) = .ok true)
      (columns : row.toJobColumns = merged old.toJobColumns (s.columns metadata)) :
      Upserted s jobs 1 (Table.put RemoteBatchJob.key row jobs)
  | kept (old : RemoteBatchJob) (metadata : Json)
      (present : Table.find RemoteBatchJob.key jobs s.key = some old)
      (guard : mergeGuard old.toJobColumns (s.columns metadata) = .ok false) : Upserted s jobs 0 jobs

theorem newColumns {c : JobColumns} {row : RemoteBatchJob} (h : RemoteBatchJob.new c = .ok row) :
    row.toJobColumns = c := by
  unfold RemoteBatchJob.new at h
  split at h <;> cases h
  rfl

theorem rowKey {row : RemoteBatchJob} {s : RemoteBatchSnapshot} {metadata : Json}
    (columns : row.toJobColumns = s.columns metadata) : row.key = s.key := by
  simp only [RemoteBatchJob.key,columns]
  rfl

theorem mergedKey {old row : RemoteBatchJob} {excluded : JobColumns}
    (columns : row.toJobColumns = merged old.toJobColumns excluded) : row.key = old.key := by
  simp only [RemoteBatchJob.key,columns]
  rfl

theorem insertedColumns {pg : Postgres} {s : RemoteBatchSnapshot} {m : PyStr} {c : JobColumns}
    (h : insertedRow pg s m = .ok c) : ∃ metadata, c = s.columns metadata := by
  unfold insertedRow at h
  split at h <;> try contradiction
  split at h <;> cases h
  exact ⟨_,rfl⟩

theorem upsertSource {pg : Postgres} {scope : Option PyStr} {s : RemoteBatchSnapshot} {m : PyStr}
    {jobs jobs' : List RemoteBatchJob} {n : Nat} (h : upsert pg scope s m jobs = .ok (n,jobs')) :
    Upserted s jobs n jobs' := by
  obtain ⟨c,cast,h⟩ := Fallible.bindOk.mp h
  obtain ⟨metadata,rfl⟩ := insertedColumns cast
  split at h
  · contradiction
  obtain ⟨excluded,stored,h⟩ := Fallible.bindOk.mp h
  have columns := newColumns stored
  have key : excluded.key = s.key := by
    simp only [RemoteBatchJob.key,columns]
    rfl
  rw [key] at h
  split at h
  · rename_i absent
    cases Except.ok.inj h
    exact .inserted excluded metadata columns absent
  · rename_i old present
    rw [columns] at h
    obtain ⟨passed,guard,h⟩ := Fallible.bindOk.mp h
    cases passed with
    | false =>
      cases Except.ok.inj h
      exact .kept old metadata present guard
    | true =>
      obtain ⟨row,updated,h⟩ := Fallible.bindOk.mp h
      cases Except.ok.inj h
      exact .merged old row metadata present guard (newColumns updated)

inductive JobStatement where
  | setScope (scope : PyStr)
  | upsert (snapshot : RemoteBatchSnapshot) (metadataJson : PyStr)
  | selectState (key : JobKey)
  | selectCandidates (tenantScope : PyStr) (limit : Nat)

abbrev JobReply : JobStatement → Type
  | .setScope _ => Unit
  | .upsert _ _ => Except PyError Nat
  | .selectState _ => Option RemoteBatchJob
  | .selectCandidates _ _ => List (PyStr × PyStr)

structure JobSession where
  scope : Option PyStr
  jobs : List RemoteBatchJob

def JobSession.visible (s : JobSession) : List RemoteBatchJob :=
  Table.shown RemoteBatchJob.key (tenantPolicy s.scope) s.jobs

def candidateLe (pg : Postgres) (a b : RemoteBatchJob) : Bool :=
  if a.lastObservedAt ≠ b.lastObservedAt then a.lastObservedAt ≤ b.lastObservedAt
  else if a.endpointAlias ≠ b.endpointAlias then pg.textLe a.endpointAlias b.endpointAlias
  else pg.textLe a.remoteBatchId b.remoteBatchId

def answerJob (pg : Postgres) : (s : JobStatement) → JobSession → JobReply s × JobSession
  | .setScope scope, session => ((),{session with scope := some scope})
  | .upsert snapshot metadataJson, session => match upsert pg session.scope snapshot metadataJson session.jobs with
      | .ok (count,jobs) => (.ok count,{session with jobs := jobs})
      | .error e => (.error e,session)
  | .selectState k, session => (Table.find RemoteBatchJob.key session.visible k,session)
  | .selectCandidates tenant limit, session =>
      ((((session.visible.filter (fun r => r.tenantScope == tenant)).mergeSort (candidateLe pg)).take limit).map
        (fun r => (r.endpointAlias,r.remoteBatchId)),session)

abbrev JobProgram (α : Type) := Program JobStatement JobReply PyError α

-- One connection: commit when the body returns, roll back when it raises. `bound` is whatever
-- scope the reused connection still carries.
def transact (pg : Postgres) {α : Type} (bound : Option PyStr) (p : JobProgram α) (jobs : List RemoteBatchJob) :
    Except PyError α × List RemoteBatchJob :=
  match p.eval (answerJob pg) ⟨bound,jobs⟩ with
  | (.ok a,session) => (.ok a,session.jobs)
  | (.error e,_) => (.error e,jobs)

inductive ProjectedValue where
  | json (value : Json)
  | time (instant : Option Int)
  deriving Repr

abbrev Projection := List (String × ProjectedValue)

def optionalText : Option PyStr → ProjectedValue
  | none => .json .null
  | some s => .json (.str s)

def RemoteBatchSnapshot.dict (s : RemoteBatchSnapshot) : Projection :=
  [("tenant_scope",.json (.str s.tenantScope)),("endpoint_alias",.json (.str s.endpointAlias)),
    ("remote_batch_id",.json (.str s.remoteBatchId)),("observation_order",.json (.int s.observationOrder)),
    ("input_file_id",optionalText s.inputFileId),
    ("batch_endpoint",optionalText (s.batchEndpoint.map BatchEndpoint.text)),
    ("batch_status",.json (.str s.batchStatus.text)),("output_file_id",optionalText s.outputFileId),
    ("error_file_id",optionalText s.errorFileId),("total_requests",.json (.int s.totalRequests)),
    ("total_requests_known",.json (.bool s.totalRequestsKnown)),
    ("completed_requests",.json (.int s.completedRequests)),("failed_requests",.json (.int s.failedRequests)),
    ("provider_metadata",.json s.providerMetadata),("observed_at",.time (some s.observedAt)),
    ("terminal_at",.time s.terminalAt)]

-- `dict(zip(_REMOTE_BATCH_STATE_FIELDS, row))`
def RemoteBatchJob.dict (row : RemoteBatchJob) : Projection :=
  [("tenant_scope",.json (.str row.tenantScope)),("endpoint_alias",.json (.str row.endpointAlias)),
    ("remote_batch_id",.json (.str row.remoteBatchId)),("observation_order",.json (.int row.observationOrder)),
    ("input_file_id",optionalText row.inputFileId),
    ("batch_endpoint",optionalText (row.batchEndpoint.map BatchEndpoint.text)),
    ("batch_status",.json (.str row.batchStatus.text)),("output_file_id",optionalText row.outputFileId),
    ("error_file_id",optionalText row.errorFileId),("total_requests",.json (.int row.totalRequests)),
    ("completed_requests",.json (.int row.completedRequests)),
    ("failed_requests",.json (.int row.failedRequests)),("provider_metadata",.json row.providerMetadata),
    ("first_seen_at",.time (some row.firstSeenAt)),("last_observed_at",.time (some row.lastObservedAt)),
    ("terminal_at",.time row.terminalAt),("updated_at",.time (some row.updatedAt))]

def Projection.pop (d : Projection) (name : String) : Projection := d.filter (fun item => item.1 != name)

def setJobTenantScope (scope : PyStr) : JobProgram Unit := Program.ask (JobStatement.setScope scope)

def upsertJob (snapshot : RemoteBatchSnapshot) (metadataJson : PyStr) : JobProgram Nat := do
  let _ ← Program.ofExcept (bindText snapshot.endpointAlias)
  Program.ofExcept (← Program.ask (JobStatement.upsert snapshot metadataJson))

def selectJob (key : JobKey) : JobProgram (Option RemoteBatchJob) := do
  let _ ← Program.ofExcept (bindText key.endpointAlias)
  Program.ask (JobStatement.selectState key)

def persistSnapshot (snapshot : RemoteBatchSnapshot) (metadataJson : PyStr) : JobProgram Projection := do
  setJobTenantScope snapshot.tenantScope
  let rowcount ← upsertJob snapshot metadataJson
  if rowcount = 0 then
    match ← selectJob ⟨snapshot.tenantScope,snapshot.endpointAlias,snapshot.remoteBatchId⟩ with
    | none => throw (.runtimeError "remote batch progress update was rejected without persisted state")
    | some row => return row.dict
  else return snapshot.dict

structure PersistArguments where
  tenantScope : Json
  endpointAlias : Json
  providerBatch : ProviderBatch
  observationOrder : Json
  observedAt : ObservedAt

-- `_persist_remote_batch_state`; `now` is the clock's reading.
def persistState (i : Interpreter) (now : Int) (a : PersistArguments) : JobProgram Projection := do
  let (snapshot,metadataJson) ← Program.ofExcept (normalizeRemoteBatchSnapshot i now a.tenantScope
    a.endpointAlias a.providerBatch a.observationOrder a.observedAt)
  persistSnapshot snapshot metadataJson

def persistTenantRemoteBatchState (i : Interpreter) (now : Int) (a : PersistArguments) : JobProgram Projection := do
  let snapshot ← persistState i now a
  return snapshot.pop "total_requests_known"

def persistRemoteBatchState (i : Interpreter) (now : Int) (endpointAlias : Json) (providerBatch : ProviderBatch)
    (observationOrder : Json) (observedAt : ObservedAt) : JobProgram Projection := do
  let snapshot ← persistState i now
    ⟨.str defaultTenantScope,endpointAlias,providerBatch,observationOrder,observedAt⟩
  return (snapshot.pop "tenant_scope").pop "total_requests_known"

def getTenantRemoteBatchState (tenantScope endpointAlias remoteBatchId : Json) : JobProgram (Option Projection) := do
  let tenant ← Program.ofExcept (validateTenantScope tenantScope)
  let normalizedAlias ← Program.ofExcept (validateEndpointAlias endpointAlias)
  let id ← Program.ofExcept (validateRemoteResourceId remoteBatchId "remote_batch_id")
  setJobTenantScope tenant
  let row ← selectJob ⟨tenant,normalizedAlias,id⟩
  return row.map RemoteBatchJob.dict

def getRemoteBatchState (endpointAlias remoteBatchId : Json) : JobProgram (Option Projection) :=
  getTenantRemoteBatchState (.str defaultTenantScope) endpointAlias remoteBatchId

end PgLlmBatch
