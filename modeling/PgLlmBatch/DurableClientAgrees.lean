import PgLlmBatch.ProviderMetadata
import PgLlmBatch.DurableClient
import PgLlmBatch.RemoteBatchReport

/-! The client and the recorder normalize the same response one after the other: what the recorder
makes of the client's output, against what it makes of the response itself. -/
namespace PgLlmBatch
open Base
open Base.JsonText (Held)

section
variable {i : Interpreter}

theorem optionalSettled {value : Json} {field : String} {id : Option PyStr}
    (h : validateOptionalRemoteResourceId value field = .ok id) :
    validateOptionalRemoteResourceId (textOrNull id) field = .ok id := by
  unfold validateOptionalRemoteResourceId at h
  split at h
  · obtain ⟨s,valid,rfl⟩ := Fallible.mapOk.mp h
    have own := (validIdentifier valid).1
    cases own
    exact h
  · cases Except.ok.inj h
    rfl

theorem persistedSettled {value : Json} {field : String} {id : Option PyStr}
    (h : validateOptionalRemoteResourceId value field = .ok id) :
    persistedRemoteResourceId (textOrNull id) field = persistedRemoteResourceId value field := by
  unfold persistedRemoteResourceId
  rw [h,optionalSettled h]

theorem supportedText {s : PyStr} (h : s ∈ BatchStatus.supported.map BatchStatus.text ++
    BatchEndpoint.supported.map BatchEndpoint.text) : normalizeOptionalProviderText (.str s) = some s := by
  have plain : ((BatchStatus.supported.map BatchStatus.text ++ BatchEndpoint.supported.map BatchEndpoint.text).all
      (fun s => !s.isEmpty && !s.contains nul)) = true := by decide
  have own := List.all_eq_true.mp plain s h
  simp only [Bool.and_eq_true,Bool.not_eq_true'] at own
  simp only [normalizeOptionalProviderText,own.1,own.2,Bool.or_self,Bool.false_eq_true,if_false]

theorem endpointSettled {value : Json} {builtin kept : Bool} {endpoint : Option BatchEndpoint}
    (h : providerBatchEndpoint ⟨value,builtin⟩ = .ok endpoint)
    (typed : ∀ s, normalizeOptionalProviderText value = some s → kept = builtin) :
    providerBatchEndpoint ⟨textOrNull (normalizeOptionalProviderText value),kept⟩ =
      providerBatchEndpoint ⟨value,builtin⟩ := by
  unfold providerBatchEndpoint at h
  split at h
  · rename_i same
    cases same
    rfl
  · rename_i same
    cases same
    rfl
  · rename_i s _ same
    cases same
    split at h
    · rename_i found
      have named := List.find?_some found
      have own : s ∈ BatchEndpoint.supported.map BatchEndpoint.text :=
        List.mem_map.mpr ⟨_,List.mem_of_find?_eq_some found,by simpa using named⟩
      have text := supportedText (List.mem_append_right _ own)
      rw [text,typed s text]
      rfl
    · cases h
  · cases h

def StatusGiven (providerBatch : List (PyStr × Json)) : Prop :=
  Json.get providerBatch (py "status") ≠ .null ∧ Json.get providerBatch (py "status") ≠ .str []

theorem statusText {value : Json} {builtin : Bool} {status : BatchStatus}
    (h : providerBatchStatus ⟨value,builtin⟩ = .ok status) (given : value ≠ .null ∧ value ≠ .str []) :
    value = .str status.text ∧ normalizeOptionalProviderText value = some status.text := by
  unfold providerBatchStatus at h
  split at h
  · rename_i same
    cases same
    exact absurd rfl given.1
  · rename_i same
    cases same
    exact absurd rfl given.2
  · rename_i s _ same
    cases same
    split at h
    · rename_i found
      cases Except.ok.inj h
      have named := List.find?_some found
      have same : status.text = s := by simpa using named
      have own : status.text ∈ BatchStatus.supported.map BatchStatus.text :=
        List.mem_map_of_mem (List.mem_of_find?_eq_some found)
      rw [← same]
      exact ⟨rfl,supportedText (List.mem_append_left _ own)⟩
    · cases h
  · cases h

theorem unknownRefused {value : Json} (absent : ¬(value ≠ .null ∧ value ≠ .str [])) :
    ∀ builtin status, providerBatchStatus ⟨.str ((normalizeOptionalProviderText value).getD (py "unknown")),builtin⟩ ≠
      .ok status := by
  intro builtin status h
  have none_ : normalizeOptionalProviderText value = none := by
    rw [not_and_or,not_not,not_not] at absent
    rcases absent with rfl | rfl
    · rfl
    · rfl
  have refused : ∀ builtin, (providerBatchStatus ⟨.str (py "unknown"),builtin⟩).toOption = none := by decide
  have refused := refused builtin
  rw [none_,Option.getD_none] at h
  rw [h] at refused
  cases refused

structure IdentifiedResponse (providerBatch : List (PyStr × Json)) : Prop where
  batchId : ∃ id, validateRemoteResourceId (Json.get providerBatch (py "id")) "remote_batch_id" = .ok id
  inputFile : ∃ id, validateOptionalRemoteResourceId (Json.get providerBatch (py "input_file_id")) "input_file_id" = .ok id
  outputFile : ∃ id, validateOptionalRemoteResourceId (Json.get providerBatch (py "output_file_id")) "output_file_id" = .ok id
  errorFile : ∃ id, validateOptionalRemoteResourceId (Json.get providerBatch (py "error_file_id")) "error_file_id" = .ok id

structure AcceptedResponse (providerBatch : List (PyStr × Json)) (derived : List PyStr) : Prop
    extends IdentifiedResponse providerBatch where
  endpoint : ∃ endpoint, providerBatchEndpoint (typedMember derived providerBatch (py "endpoint")) = .ok endpoint
  status : ∃ status, providerBatchStatus (typedMember derived providerBatch (py "status")) = .ok status

theorem persistedOptional {value : Json} {field : String} {id : Option PyStr}
    (h : persistedRemoteResourceId value field = .ok id) : validateOptionalRemoteResourceId value field = .ok id := by
  unfold persistedRemoteResourceId at h
  split at h <;> cases h
  assumption

theorem normalizedAccepted {now : Int} {tenantScope endpointAlias order : Json} {p : List (PyStr × Json)}
    {derived : List PyStr} {observedAt : ObservedAt} {made : RemoteBatchSnapshot × PyStr}
    (h : normalizeRemoteBatchSnapshot i now tenantScope endpointAlias ⟨.obj p,derived⟩ order observedAt = .ok made) :
    AcceptedResponse p derived := by
  obtain ⟨-,-,identified⟩ := normalizedKey (m := made.2) h
  obtain ⟨batch,members,from_⟩ := normalizedFrom (m := made.2) h
  cases members
  exact {
    batchId := ⟨_,identified⟩
    inputFile := ⟨_,persistedOptional from_.inputFile⟩
    outputFile := ⟨_,persistedOptional from_.outputFile⟩
    errorFile := ⟨_,persistedOptional from_.errorFile⟩
    endpoint := ⟨_,from_.endpoint⟩
    status := ⟨_,from_.status⟩}

structure SameObserved (i : Interpreter) (q : List (PyStr × Json)) (kept : List PyStr) (p : List (PyStr × Json))
    (derived : List PyStr) : Prop where
  batchId : Json.get q (py "id") = Json.get p (py "id")
  files : ∀ field ∈ DurableClient.resourceFields,
    persistedRemoteResourceId (Json.get q (py field)) field = persistedRemoteResourceId (Json.get p (py field)) field
  endpoint : providerBatchEndpoint (typedMember kept q (py "endpoint")) =
    providerBatchEndpoint (typedMember derived p (py "endpoint"))
  status : providerBatchStatus (typedMember kept q (py "status")) =
    providerBatchStatus (typedMember derived p (py "status"))
  counts : Json.get q (py "request_counts") = Json.get p (py "request_counts")
  metadata : providerMetadata i (Json.get q (py "metadata")) = providerMetadata i (Json.get p (py "metadata"))

theorem sameNormalized {q p : List (PyStr × Json)} {kept derived : List PyStr} (same : SameObserved i q kept p derived)
    (now : Int) (tenantScope endpointAlias order : Json) (observedAt : ObservedAt) :
    normalizeRemoteBatchSnapshot i now tenantScope endpointAlias ⟨.obj q,kept⟩ order observedAt =
      normalizeRemoteBatchSnapshot i now tenantScope endpointAlias ⟨.obj p,derived⟩ order observedAt := by
  have input := same.files "input_file_id" (by decide)
  have output := same.files "output_file_id" (by decide)
  have error := same.files "error_file_id" (by decide)
  have mapping : ∀ ms, providerMapping (.obj ms) = .ok ms := fun _ => rfl
  unfold normalizeRemoteBatchSnapshot
  rw [mapping,mapping]
  simp only [bind,Except.bind,same.batchId,input,output,error,same.endpoint,same.status,same.counts,same.metadata]

theorem sameProgram {q p : List (PyStr × Json)} {kept derived : List PyStr} (same : SameObserved i q kept p derived)
    (now : Int) (endpointAlias order : Json) (observedAt : ObservedAt) :
    persistRemoteBatchState i now endpointAlias ⟨.obj q,kept⟩ order observedAt =
      persistRemoteBatchState i now endpointAlias ⟨.obj p,derived⟩ order observedAt := by
  unfold persistRemoteBatchState persistState
  rw [sameNormalized same]

structure ClientFields (i : Interpreter) (q p : List (PyStr × Json)) : Prop where
  batchId : Json.get q (py "id") = Json.get p (py "id")
  files : ∀ field ∈ DurableClient.resourceFields, ∃ id,
    validateOptionalRemoteResourceId (Json.get p (py field)) field = .ok id ∧ Json.get q (py field) = textOrNull id
  endpoint : Json.get q (py "endpoint") = textOrNull (normalizeOptionalProviderText (Json.get p (py "endpoint")))
  status : Json.get q (py "status") =
    .str ((normalizeOptionalProviderText (Json.get p (py "status"))).getD (py "unknown"))
  counts : Json.get q (py "request_counts") = Json.get p (py "request_counts")
  metadata : Json.get? q (py "metadata") = (Json.get? p (py "metadata")).map (normalizeProviderMetadata i)

theorem getSetApart (members : List (PyStr × Json)) {name other : PyStr} (value : Json) (apart : other ≠ name) :
    Json.get (Json.set members name value) other = Json.get members other := by
  unfold Json.get
  rw [Json.getSetOther members value apart]

open DurableClient in
theorem resourceIdsSet {p t : List (PyStr × Json)} (h : withResourceIds resourceFields p = .ok t) :
    (∀ field ∈ resourceFields, ∃ id, validateOptionalRemoteResourceId (Json.get p (py field)) field = .ok id ∧
      Json.get t (py field) = textOrNull id) ∧
    ∀ other, (∀ field ∈ resourceFields, other ≠ py field) → Json.get? t other = Json.get? p other := by
  obtain ⟨input,first,h⟩ := Fallible.bindOk.mp h
  obtain ⟨output,second,h⟩ := Fallible.bindOk.mp h
  obtain ⟨error,third,h⟩ := Fallible.bindOk.mp h
  cases Except.ok.inj h
  have ab : py "output_file_id" ≠ py "input_file_id" := by decide
  have ac : py "error_file_id" ≠ py "input_file_id" := by decide
  have bc : py "error_file_id" ≠ py "output_file_id" := by decide
  rw [getSetApart _ _ ab] at second
  rw [getSetApart _ _ bc,getSetApart _ _ ac] at third
  constructor
  · simp only [resourceFields,List.forall_mem_cons]
    refine ⟨⟨input,first,?_⟩,⟨output,second,?_⟩,⟨error,third,?_⟩,by simp⟩
    · rw [getSetApart _ _ ac.symm,getSetApart _ _ ab.symm,Json.getSet]
    · rw [getSetApart _ _ bc.symm,Json.getSet]
    · rw [Json.getSet]
  · intro other apart
    simp only [resourceFields,List.forall_mem_cons] at apart
    rw [Json.getSetOther _ _ apart.2.2.1,Json.getSetOther _ _ apart.2.1,Json.getSetOther _ _ apart.1]

open DurableClient in
theorem metadataOther (p t : List (PyStr × Json)) {name : PyStr} (apart : name ≠ py "metadata") :
    Json.get? (withMetadata i p t) name = Json.get? t name := by
  unfold withMetadata
  split
  · rfl
  · exact Json.getSetOther _ _ apart

open DurableClient in
theorem dressedOther (p t : List (PyStr × Json)) {name : PyStr} (metadata : name ≠ py "metadata")
    (status : name ≠ py "status") (endpoint : name ≠ py "endpoint") :
    Json.get? (withMetadata i p (withStatus (withEndpoint t))) name = Json.get? t name := by
  rw [metadataOther _ _ metadata,withStatus,Json.getSetOther _ _ status,withEndpoint,Json.getSetOther _ _ endpoint]

open DurableClient in
theorem validatedId {o : Observation} {id : PyStr} (h : validatedBatchId o = .ok id) :
    Json.get o.providerBatch (py "id") = .str id := by
  obtain ⟨recovery,-,h⟩ := Fallible.bindOk.mp h
  obtain ⟨own,valid,h⟩ := Fallible.bindOk.mp h
  split at h
  · contradiction
  cases Except.ok.inj h
  exact (validIdentifier valid).1

open DurableClient in
theorem clientFields {o : Observation} {q : List (PyStr × Json)} (h : providerSnapshot i o = .ok q) :
    ClientFields i q o.providerBatch := by
  obtain ⟨id,validated,h⟩ := Fallible.bindOk.mp h
  obtain ⟨t,resources,h⟩ := Fallible.bindOk.mp h
  cases Except.ok.inj h
  obtain ⟨ids,kept⟩ := resourceIdsSet resources
  have resourceApart : ∀ field ∈ resourceFields, py field ≠ py "id" ∧ py field ≠ py "metadata" ∧
      py field ≠ py "status" ∧ py field ≠ py "endpoint" := by decide
  have keyApart : ∀ name ∈ [py "id",py "endpoint",py "status",py "request_counts",py "metadata"],
      ∀ field ∈ resourceFields, name ≠ py field := by decide
  have original : ∀ name ∈ [py "endpoint",py "status",py "request_counts",py "metadata"],
      Json.get? t name = Json.get? o.providerBatch name := by
    intro name here
    have other : ∀ name ∈ [py "endpoint",py "status",py "request_counts",py "metadata"], name ≠ py "id" := by decide
    rw [kept name (keyApart name (List.mem_cons_of_mem _ here)),Json.getSetOther _ _ (other name here)]
  constructor
  · have same : Json.get? t (py "id") = Json.get? (Json.set o.providerBatch (py "id") (.str id)) (py "id") :=
      kept _ (keyApart _ (by simp))
    unfold Json.get
    rw [dressedOther _ _ (by decide) (by decide) (by decide),same]
    exact (Json.getSet _ _ _).trans (validatedId validated).symm
  · intro field here
    obtain ⟨id,valid,stored⟩ := ids field here
    obtain ⟨notId,notMetadata,notStatus,notEndpoint⟩ := resourceApart field here
    refine ⟨id,?_,?_⟩
    · rw [getSetApart _ _ notId] at valid
      exact valid
    · rw [← stored]
      unfold Json.get
      rw [dressedOther _ _ notMetadata notStatus notEndpoint]
  · have same := original (py "endpoint") (by simp)
    unfold Json.get
    rw [metadataOther _ _ (by decide),withStatus,Json.getSetOther _ _ (by decide : py "endpoint" ≠ py "status"),withEndpoint]
    refine (Json.getSet _ _ _).trans ?_
    unfold Json.get
    rw [same]
  · have same := original (py "status") (by simp)
    unfold Json.get
    rw [metadataOther _ _ (by decide),withStatus]
    refine (Json.getSet _ _ _).trans ?_
    unfold Json.get
    rw [withEndpoint,Json.getSetOther _ _ (by decide : py "status" ≠ py "endpoint"),same]
  · have same := original (py "request_counts") (by simp)
    unfold Json.get
    rw [dressedOther _ _ (by decide) (by decide) (by decide),same]
  · have same := original (py "metadata") (by simp)
    unfold withMetadata
    cases sent : Json.get? o.providerBatch (py "metadata") with
    | none =>
      simp only [Option.map_none]
      rw [withStatus,Json.getSetOther _ _ (by decide),withEndpoint,Json.getSetOther _ _ (by decide),same,sent]
    | some metadata =>
      simp only [Option.map_some]
      exact Json.getSetSome _ _ _

open DurableClient in
theorem clientReady {o : Observation} (accepted : IdentifiedResponse o.providerBatch)
    (own : ∀ expected, o.expectedBatchId = some expected → expected = Json.get o.providerBatch (py "id")) :
    ∃ q, providerSnapshot i o = .ok q := by
  obtain ⟨id,identified⟩ := accepted.batchId
  obtain ⟨input,first⟩ := accepted.inputFile
  obtain ⟨output,second⟩ := accepted.outputFile
  obtain ⟨error,third⟩ := accepted.errorFile
  have text := (validIdentifier identified).1
  have recovery : ∃ r, expectedRecovery o.expectedBatchId = .ok r ∧ ¬(r.isSome = true ∧ r ≠ some id) := by
    cases expected : o.expectedBatchId with
    | none => exact ⟨none,rfl,fun bad => Bool.false_ne_true bad.1⟩
    | some e =>
      have same := own e expected
      rw [text] at same
      subst same
      have valid : validateRemoteResourceId (.str id) "expected_batch_id" = .ok id :=
        identifierAccepted "expected_batch_id" (validIdentifier identified).2
      exact ⟨some id,by rw [expectedRecovery,valid]; rfl,fun bad => bad.2 rfl⟩
  obtain ⟨r,recovered,matches_⟩ := recovery
  have validated : validatedBatchId o = .ok id := by
    unfold validatedBatchId
    rw [recovered,identified]
    exact if_neg matches_
  unfold providerSnapshot
  simp only [validated,resourceFields,withResourceIds,bind,Except.bind]
  rw [getSetApart _ _ (by decide),first]
  simp only []
  rw [getSetApart _ _ (by decide),getSetApart _ _ (by decide),second]
  simp only []
  rw [getSetApart _ _ (by decide),getSetApart _ _ (by decide),getSetApart _ _ (by decide),third]
  exact ⟨_,rfl⟩

open DurableClient in
theorem keptTyped {o : Observation} {name s : PyStr}
    (text : normalizeOptionalProviderText (Json.get o.providerBatch name) = some s) :
    (keptDerived o).contains name = o.derived.contains name := by
  unfold keptDerived
  rw [List.contains_eq_mem,List.contains_eq_mem]
  simp [List.mem_filter,text]

open DurableClient in
theorem clientObserved {q : List (PyStr × Json)} {o : Observation} (fields : ClientFields i q o.providerBatch)
    (accepted : AcceptedResponse o.providerBatch o.derived) (held : Held (.obj o.providerBatch))
    (given : StatusGiven o.providerBatch) : SameObserved i q (keptDerived o) o.providerBatch o.derived := by
  obtain ⟨endpoint,routed⟩ := accepted.endpoint
  obtain ⟨status,reported⟩ := accepted.status
  constructor
  · exact fields.batchId
  · intro field here
    obtain ⟨id,valid,stored⟩ := fields.files field here
    rw [stored,persistedSettled valid]
  · unfold typedMember at routed ⊢
    rw [fields.endpoint]
    exact endpointSettled routed (fun s text => by rw [keptTyped text])
  · unfold typedMember at reported ⊢
    obtain ⟨own,text⟩ := statusText reported given
    rw [fields.status,keptTyped text,text,own]
    rfl
  · exact fields.counts
  · unfold Json.get
    rw [fields.metadata]
    cases sent : Json.get? o.providerBatch (py "metadata") with
    | none => rfl
    | some metadata =>
      obtain ⟨m,found,rfl⟩ := Option.map_eq_some_iff.mp sent
      cases held with
      | obj _ _ each => exact metadataSettled (each m (List.mem_of_find?_eq_some found))

end

section
variable {pg : Postgres} {i : Interpreter}

open DurableClient in
theorem recordedBy {o : Observation} {q : List (PyStr × Json)} (ready : providerSnapshot i o = .ok q) (now : Int)
    (jobs : List RemoteBatchJob) : recorded i (defaultRecorder pg i now) o jobs =
      ((transact pg none (persistRemoteBatchState i now o.endpointAlias ⟨.obj q,keptDerived o⟩ o.observationOrder .absent)
        jobs).1.map (fun _ => ()),
      (transact pg none (persistRemoteBatchState i now o.endpointAlias ⟨.obj q,keptDerived o⟩ o.observationOrder .absent)
        jobs).2) := by
  unfold recorded
  rw [ready]
  rfl

open DurableClient in
/-- Where the recorder accepts a response as the provider sent it, the client records the same exactly when
the response gives a status. -/
theorem clientAgrees {now : Int} {o : Observation} {jobs jobs' : List RemoteBatchJob} {r : Projection}
    (held : Held (.obj o.providerBatch))
    (own : ∀ expected, o.expectedBatchId = some expected → expected = Json.get o.providerBatch (py "id"))
    (direct : transact pg none (persistRemoteBatchState i now o.endpointAlias ⟨.obj o.providerBatch,o.derived⟩
      o.observationOrder .absent) jobs = (.ok r,jobs')) :
    DurableClient.persistSnapshot i (defaultRecorder pg i now) o jobs = (.ok (),jobs') ↔ StatusGiven o.providerBatch := by
  let e : PersistEvent := ⟨.standalone o.endpointAlias ⟨.obj o.providerBatch,o.derived⟩ o.observationOrder .absent,
    now,none⟩
  obtain ⟨s,m,d,normal,-,-⟩ := persistedSource (e := e) direct
  have accepted := normalizedAccepted normal
  obtain ⟨q,ready⟩ := clientReady (i := i) accepted.toIdentifiedResponse own
  have fields := clientFields ready
  unfold DurableClient.persistSnapshot
  rw [recordedBy ready]
  constructor
  · intro same
    by_contra absent
    have refused : ∀ made, normalizeRemoteBatchSnapshot i now (.str defaultTenantScope) o.endpointAlias
        ⟨.obj q,keptDerived o⟩ o.observationOrder .absent ≠ .ok made := by
      rintro ⟨s,m⟩ normal
      obtain ⟨status,reported⟩ := (normalizedAccepted normal).status
      unfold typedMember at reported
      rw [fields.status] at reported
      exact unknownRefused absent _ status reported
    cases ran : transact pg none (persistRemoteBatchState i now o.endpointAlias ⟨.obj q,keptDerived o⟩ o.observationOrder
        .absent) jobs with
    | mk result after =>
      cases result with
      | error x =>
        rw [ran] at same
        cases same
      | ok r =>
        let e : PersistEvent := ⟨.standalone o.endpointAlias ⟨.obj q,keptDerived o⟩ o.observationOrder .absent,now,none⟩
        obtain ⟨s,m,d,normal,-,-⟩ := persistedSource (e := e) ran
        exact refused _ normal
  · intro given
    rw [sameProgram (clientObserved fields accepted held given),direct]
    rfl

end

def polled (providerBatch : List (PyStr × Json)) : DurableClient.Observation where
  endpointAlias := .str (py "primary")
  providerBatch := providerBatch
  derived := []
  observationOrder := .int 1
  operation := "Batch status"
  expectedBatchId := none

def polledDirectly (providerBatch : List (PyStr × Json)) : Except PyError Projection × List RemoteBatchJob :=
  transact samplePostgres none (persistRemoteBatchState sampleInterpreter 0 (polled providerBatch).endpointAlias
    (.obj providerBatch) (polled providerBatch).observationOrder .absent) []

def polledByClient (providerBatch : List (PyStr × Json)) : Except PyError Unit × List RemoteBatchJob :=
  DurableClient.persistSnapshot sampleInterpreter (DurableClient.defaultRecorder samplePostgres sampleInterpreter 0)
    (polled providerBatch) []

-- A response that gives nothing but its id is stored directly and refused through the client.
theorem sparseRefused : ∃ r jobs, polledDirectly [(py "id",.str (py "batch-1"))] = (.ok r,jobs) ∧
    polledByClient [(py "id",.str (py "batch-1"))] ≠ (.ok (),jobs) := by
  have stored : (polledDirectly [(py "id",.str (py "batch-1"))]).1.toOption.isSome = true := by decide +kernel
  have refused : (polledByClient [(py "id",.str (py "batch-1"))]).1.toOption.isSome = false := by decide +kernel
  cases ran : polledDirectly [(py "id",.str (py "batch-1"))] with
  | mk result jobs =>
    cases result with
    | error x =>
      rw [ran] at stored
      cases stored
    | ok r =>
      refine ⟨r,jobs,rfl,fun same => ?_⟩
      rw [same] at refused
      cases refused

theorem runningAgrees : ∃ jobs, polledByClient [(py "id",.str (py "batch-1")),(py "status",.str (py "in_progress"))] =
    (.ok (),jobs) := by
  have stored : (polledDirectly [(py "id",.str (py "batch-1")),(py "status",.str (py "in_progress"))]).1.toOption.isSome =
      true := by decide +kernel
  have held : Held (.obj [(py "id",.str (py "batch-1")),(py "status",.str (py "in_progress"))]) := by
    refine .obj _ (by decide) ?_
    simp only [List.forall_mem_cons,List.not_mem_nil,false_implies,implies_true,and_true]
    exact ⟨.str _,.str _⟩
  cases ran : polledDirectly [(py "id",.str (py "batch-1")),(py "status",.str (py "in_progress"))] with
  | mk result jobs =>
    cases result with
    | error x =>
      rw [ran] at stored
      cases stored
    | ok r =>
      have agrees := clientAgrees (o := polled [(py "id",.str (py "batch-1")),(py "status",.str (py "in_progress"))]) held
        (fun _ absent => absurd absent.symm (Option.some_ne_none _)) ran
      exact ⟨jobs,agrees.mpr ⟨nofun,nofun⟩⟩

end PgLlmBatch
