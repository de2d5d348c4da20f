import PgLlmBatch.RemoteBatchLifecycle

/-! What a persist call returns against what a read of the same key returns right after it. -/
namespace PgLlmBatch
open Base

def Projection.field (d : Projection) (name : String) : Option ProjectedValue :=
  (d.find? (fun item => item.1 == name)).map Prod.snd

def providerId : Json → Json
  | .obj ms => Json.get ms (py "id")
  | _ => .null

def PersistCall.read : PersistCall → JobProgram (Option Projection)
  | .tenant a => getTenantRemoteBatchState a.tenantScope a.endpointAlias (providerId a.providerBatch.value)
  | .standalone endpointAlias providerBatch _ _ => getRemoteBatchState endpointAlias (providerId providerBatch.value)

section
variable {pg : Postgres} {i : Interpreter}

def Left (s : RemoteBatchSnapshot) (metadata : Json) (n : Nat) (row : RemoteBatchJob) : Option RemoteBatchJob → Prop
  | none => n = 1 ∧ row.toJobColumns = s.columns metadata
  | some old => (n = 1 ∧ mergeGuard old.toJobColumns (s.columns metadata) = .ok true ∧
      row.toJobColumns = merged old.toJobColumns (s.columns metadata)) ∨
    n = 0 ∧ mergeGuard old.toJobColumns (s.columns metadata) = .ok false ∧ row = old

theorem insertedMetadata {s : RemoteBatchSnapshot} {m : PyStr} {c : JobColumns} (h : insertedRow pg s m = .ok c) :
    ∃ metadata, pg.jsonb m = .ok metadata ∧ c = s.columns metadata := by
  unfold insertedRow at h
  split at h <;> try contradiction
  split at h <;> cases h
  exact ⟨_,by assumption,rfl⟩

theorem upsertLeaves {scope : Option PyStr} {s : RemoteBatchSnapshot} {m : PyStr} {jobs jobs' : List RemoteBatchJob}
    {n : Nat} (h : upsert pg scope s m jobs = .ok (n,jobs')) :
    ∃ metadata row, pg.jsonb m = .ok metadata ∧ Table.find RemoteBatchJob.key jobs' s.key = some row ∧
      Left s metadata n row (Table.find RemoteBatchJob.key jobs s.key) := by
  obtain ⟨c,cast,h⟩ := Fallible.bindOk.mp h
  obtain ⟨metadata,read,rfl⟩ := insertedMetadata cast
  split at h
  · contradiction
  obtain ⟨excluded,stored,h⟩ := Fallible.bindOk.mp h
  have columns := newColumns stored
  have key := rowKey columns
  rw [key] at h
  split at h
  · rename_i absent
    cases Except.ok.inj h
    refine ⟨metadata,excluded,read,?_,?_⟩
    · rw [Table.findPut,key,if_pos rfl]
    · rw [absent]
      exact ⟨rfl,columns⟩
  · rename_i old present
    rw [columns] at h
    obtain ⟨passed,guard,h⟩ := Fallible.bindOk.mp h
    cases passed with
    | false =>
      cases Except.ok.inj h
      refine ⟨metadata,old,read,present,?_⟩
      rw [present]
      exact Or.inr ⟨rfl,guard,rfl⟩
    | true =>
      obtain ⟨row,updated,h⟩ := Fallible.bindOk.mp h
      cases Except.ok.inj h
      have made := newColumns updated
      have same : row.key = s.key := (mergedKey made).trans (Table.findKey present)
      refine ⟨metadata,row,read,?_,?_⟩
      · rw [Table.findPut,same,if_pos rfl]
      · rw [present]
        exact Or.inl ⟨rfl,guard,made⟩

def PersistCall.returned : PersistCall → Projection → Projection
  | .tenant _, d => d.pop "total_requests_known"
  | .standalone .., d => (d.pop "tenant_scope").pop "total_requests_known"

theorem callTransact (e : PersistEvent) (jobs : List RemoteBatchJob) :
    transact pg e.bound (e.call.program i e.now) jobs = match e.normalized i with
      | .error x => (.error x,jobs)
      | .ok (s,m) => ((settled jobs (persistOutcome pg s m jobs)).1.map e.call.returned,
          (settled jobs (persistOutcome pg s m jobs)).2) := by
  have ran : transact pg e.bound (e.call.program i e.now) jobs =
      ((transact pg e.bound (persistState i e.now e.call.arguments) jobs).1.map e.call.returned,
        (transact pg e.bound (persistState i e.now e.call.arguments) jobs).2) := by
    obtain ⟨call,now,bound⟩ := e
    cases call with
    | tenant a => exact transactMap pg bound (persistState i now a) _ jobs
    | standalone endpointAlias providerBatch order observedAt => exact transactMap pg bound (persistState i now _) _ jobs
  rw [ran,stateJobs]
  unfold PersistEvent.normalized
  generalize normalizeRemoteBatchSnapshot i e.now e.call.arguments.tenantScope e.call.arguments.endpointAlias
    e.call.arguments.providerBatch e.call.arguments.observationOrder e.call.arguments.observedAt = made
  cases made <;> rfl

theorem normalizedKey {now : Int} {tenantScope endpointAlias order : Json} {providerBatch : ProviderBatch} {observedAt : ObservedAt}
    {s : RemoteBatchSnapshot} {m : PyStr}
    (h : normalizeRemoteBatchSnapshot i now tenantScope endpointAlias providerBatch order observedAt = .ok (s,m)) :
    validateTenantScope tenantScope = .ok s.tenantScope ∧ validateEndpointAlias endpointAlias = .ok s.endpointAlias ∧
      validateRemoteResourceId (providerId providerBatch.value) "remote_batch_id" = .ok s.remoteBatchId := by
  obtain ⟨batch,members,made⟩ := normalizedFrom h
  have identified := made.batchId
  rw [members]
  refine ⟨made.scope,persistedAlias made.named,?_⟩
  unfold persistedRemoteBatchId at identified
  split at identified <;> cases identified
  assumption

theorem persistedSource {e : PersistEvent} {jobs jobs' : List RemoteBatchJob} {r : Projection}
    (ran : transact pg e.bound (e.call.program i e.now) jobs = (.ok r,jobs')) :
    ∃ s m d, e.normalized i = .ok (s,m) ∧ persistOutcome pg s m jobs = .ok (d,jobs') ∧ r = e.call.returned d := by
  rw [callTransact] at ran
  cases normal : e.normalized i with
  | error x =>
    rw [normal] at ran
    cases ran
  | ok made =>
    obtain ⟨s,m⟩ := made
    rw [normal] at ran
    cases outcome : persistOutcome pg s m jobs with
    | error x =>
      simp only [outcome] at ran
      cases ran
    | ok done =>
      obtain ⟨d,after⟩ := done
      simp only [outcome] at ran
      cases ran
      exact ⟨s,m,d,rfl,outcome,rfl⟩

theorem outcomeSource {s : RemoteBatchSnapshot} {m : PyStr} {jobs jobs' : List RemoteBatchJob} {d : Projection}
    (h : persistOutcome pg s m jobs = .ok (d,jobs')) : ∃ t n metadata row, bindText s.endpointAlias = .ok t ∧
      pg.jsonb m = .ok metadata ∧ Table.find RemoteBatchJob.key jobs' s.key = some row ∧
      Left s metadata n row (Table.find RemoteBatchJob.key jobs s.key) ∧ d = if n = 0 then row.dict else s.dict := by
  obtain ⟨t,text,h⟩ := Fallible.bindOk.mp h
  obtain ⟨⟨n,after⟩,upserted,h⟩ := Fallible.bindOk.mp h
  obtain ⟨metadata,row,read,found,left_⟩ := upsertLeaves upserted
  simp only [] at h
  split at h
  · rename_i none_
    rw [found] at h
    cases h
    exact ⟨t,n,metadata,row,text,read,found,left_,by rw [if_pos none_]⟩
  · rename_i some_
    cases h
    exact ⟨t,n,metadata,row,text,read,found,left_,by rw [if_neg some_]⟩

end

def reported (order : Int) (members : List (PyStr × Json)) : PersistEvent where
  call := .tenant ⟨.str (py "tenant-a"),.str (py "primary"),
    .obj ((py "id",.str (py "batch-1"))::(py "status",.str (py "in_progress"))::members),.int order,.aware order⟩
  now := 0
  bound := none

end PgLlmBatch
