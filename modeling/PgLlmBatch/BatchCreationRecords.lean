import PgLlmBatch.BatchCreation
import PgLlmBatch.DurableClientAgrees
import PgLlmBatch.RemoteBatchSchema

/-! Once the POST is out: whether the observation of the new job can be recorded, from what the
caller gave and what the provider answered. -/
namespace PgLlmBatch
open Base
open Base.JsonText (Held)

def JobColumns.typed (c : JobColumns) : Bool :=
  inBigint c.observationOrder && inInteger c.totalRequests && inInteger c.completedRequests && inInteger c.failedRequests

section
variable {pg : Postgres} {i : Interpreter}

theorem orChecked {a b : Option PyStr} (first : JobColumns.optionalIdCheck a = true)
    (second : JobColumns.optionalIdCheck b = true) : JobColumns.optionalIdCheck (a.or b) = true := by
  cases a with
  | none => exact second
  | some id => exact first

theorem guardProgress {old excluded : JobColumns} (h : mergeGuard old excluded = .ok true)
    (known : (old.totalRequestsKnown || excluded.totalRequestsKnown) = true) :
    max old.completedRequests excluded.completedRequests + max old.failedRequests excluded.failedRequests ≤
      max old.totalRequests excluded.totalRequests := by
  unfold mergeGuard at h
  split at h
  · obtain ⟨progress,passed,h⟩ := Fallible.bindOk.mp h
    cases progress with
    | false => cases Except.ok.inj h
    | true =>
      unfold progressGuard at passed
      rw [if_pos known] at passed
      obtain ⟨sum,added,within⟩ := Fallible.bindOk.mp passed
      unfold integerSum at added
      split at added <;> cases added
      exact of_decide_eq_true (Except.ok.inj within)
  · cases Except.ok.inj h

theorem mergedChecked {old excluded : JobColumns} (first : old.Checked) (second : excluded.Checked)
    (guard : mergeGuard old excluded = .ok true) : (merged old excluded).Checked where
  scope := first.scope
  endpointAlias := first.endpointAlias
  batchId := first.batchId
  order := second.order
  inputFile := orChecked second.inputFile first.inputFile
  outputFile := orChecked second.outputFile first.outputFile
  errorFile := orChecked second.errorFile first.errorFile
  total := le_trans first.total (le_max_left _ _)
  completed := le_trans first.completed (le_max_left _ _)
  failed := le_trans first.failed (le_max_left _ _)
  progress := guardProgress guard

def GuardEvaluated (s : RemoteBatchSnapshot) (old : RemoteBatchJob) : Prop :=
  ∀ stored, ∃ b, progressGuard old.toJobColumns (s.columns stored) = .ok b

theorem guardRuns {old excluded : JobColumns} {b : Bool} (h : progressGuard old excluded = .ok b) :
    ∃ passed, mergeGuard old excluded = .ok passed := by
  unfold mergeGuard
  split
  · rw [h]
    cases b
    · exact ⟨_,rfl⟩
    · exact ⟨_,rfl⟩
  · exact ⟨_,rfl⟩

theorem upsertSucceeds {s : RemoteBatchSnapshot} {m : PyStr} {jobs : List RemoteBatchJob} (fits : FitsSchema pg s m)
    (guarded : ∀ old, Table.find RemoteBatchJob.key jobs s.key = some old →
      ∀ stored, ∃ passed, mergeGuard old.toJobColumns (s.columns stored) = .ok passed) :
    ∃ n jobs', upsert pg (some s.tenantScope) s m jobs = .ok (n,jobs') := by
  obtain ⟨stored,row,-,cast,built⟩ := fits.inserted
  have columns := newColumns built
  have key := rowKey columns
  have own : ¬some s.tenantScope ≠ some (s.columns stored).tenantScope := fun other => other rfl
  unfold upsert
  simp only [bind,Except.bind,cast,if_neg own,built,key,columns]
  cases present : Table.find RemoteBatchJob.key jobs s.key with
  | none => exact ⟨_,_,rfl⟩
  | some old =>
    obtain ⟨passed,guard⟩ := guarded old present stored
    simp only [guard]
    cases passed with
    | false => exact ⟨_,_,rfl⟩
    | true =>
      have inserted : (s.columns stored).Checked := by
        have checked := row.checked
        rw [columns] at checked
        exact (checksMet _).mp checked
      have checked := (checksMet _).mpr (mergedChecked ((checksMet _).mp old.checked) inserted guard)
      simp only [if_true,RemoteBatchJob.new,dif_pos checked]
      exact ⟨_,_,rfl⟩

theorem outcomeSucceeds {s : RemoteBatchSnapshot} {m : PyStr} {jobs : List RemoteBatchJob} (fits : FitsSchema pg s m)
    (guarded : ∀ old, Table.find RemoteBatchJob.key jobs s.key = some old →
      ∀ stored, ∃ passed, mergeGuard old.toJobColumns (s.columns stored) = .ok passed) :
    ∃ d jobs', persistOutcome pg s m jobs = .ok (d,jobs') := by
  obtain ⟨stored,row,text,-,-⟩ := fits.inserted
  obtain ⟨n,jobs',ran⟩ := upsertSucceeds fits guarded
  obtain ⟨metadata,row,-,found,-⟩ := upsertLeaves ran
  unfold persistOutcome
  simp only [bind,Except.bind,text,ran,found]
  split
  · exact ⟨_,_,rfl⟩
  · exact ⟨_,_,rfl⟩

end

def answeredCounts (answer : List (PyStr × Json)) : List (PyStr × Json) :=
  requestCounts (Json.get answer (py "request_counts"))

structure PlausibleCounts (counts : List (PyStr × Json)) : Prop where
  progress : ¬(knownCount (Json.get counts (py "total")) = true ∧ providerCount (Json.get counts (py "total")) <
    providerCount (Json.get counts (py "completed")) + providerCount (Json.get counts (py "failed")))
  small : ∀ name ∈ [py "total",py "completed",py "failed"], ∀ n, Json.get counts name = .int n → n < 2 ^ 31

-- A valid id and a supported status; what the caller sent is echoed or left out. Counts are left out too, or
-- they are plausible and the id is new to the store.
structure Answered (a : DurableClient.CreateArguments) (answer : List (PyStr × Json)) (jobs : List RemoteBatchJob) :
    Prop where
  held : Held (.obj answer)
  batchId : ∃ id, Json.get answer (py "id") = .str id ∧ identifierPattern maxRemoteResourceIdCharacters id = true
  status : ∃ status ∈ BatchStatus.supported, Json.get answer (py "status") = .str status.text
  inputFile : Json.get? answer (py "input_file_id") = none ∨ Json.get? answer (py "input_file_id") = some a.inputFileId
  endpoint : Json.get? answer (py "endpoint") = none ∨ Json.get? answer (py "endpoint") = some a.endpoint.value
  metadata : Json.get? answer (py "metadata") = none ∨ Json.get? answer (py "metadata") = some a.metadata
  outputFile : ∃ id, validateOptionalRemoteResourceId (Json.get answer (py "output_file_id")) "output_file_id" = .ok id
  errorFile : ∃ id, validateOptionalRemoteResourceId (Json.get answer (py "error_file_id")) "error_file_id" = .ok id
  counts : answeredCounts answer = [] ∨
    PlausibleCounts (answeredCounts answer) ∧ ∀ row ∈ jobs, .str row.remoteBatchId ≠ Json.get answer (py "id")

def SupportedEndpoint (value : Json) : Prop := ∃ endpoint : BatchEndpoint, value = .str endpoint.text

-- The recorder sees a text of `str` itself: the caller's, or the provider's echo of it.
def BuiltinEndpoint (a : DurableClient.CreateArguments) (answer : List (PyStr × Json)) : Prop :=
  a.endpoint.builtin = true ∨ (Json.get? answer (py "endpoint")).isSome = true

def EncodableAlias (value : Json) : Prop := ∀ s, value = .str s → ∀ c ∈ s, c.surrogate = false

theorem emptyCountable : PlausibleCounts [] where
  progress := by decide
  small := by
    intro name here n same
    cases same

theorem answerCountable {a : DurableClient.CreateArguments} {answer : List (PyStr × Json)} {jobs : List RemoteBatchJob}
    (answered : Answered a answer jobs) : PlausibleCounts (answeredCounts answer) := by
  rcases answered.counts with empty | ⟨countable,-⟩
  · rw [empty]
    exact emptyCountable
  · exact countable

theorem splitCovers (s : PyStr) {c : PyChar} (here : c ∈ s) : c = slash ∨ ∃ l ∈ s.splitOn slash, c ∈ l := by
  induction s with
  | nil => cases here
  | cons d s ih =>
    rw [List.splitOn_cons_eq_if_modifyHead]
    split
    · rename_i same
      rcases List.mem_cons.mp here with rfl | later
      · exact .inl (beq_iff_eq.mp same)
      · rcases ih later with sep | ⟨l,member,inside⟩
        · exact .inl sep
        · exact .inr ⟨l,List.mem_cons_of_mem _ member,inside⟩
    · have some_ := List.splitOn_ne_nil slash s
      obtain ⟨l,ls,pieces⟩ := List.exists_cons_of_ne_nil some_
      rw [pieces] at ih ⊢
      rcases List.mem_cons.mp here with rfl | later
      · exact .inr ⟨c::l,by simp,by simp⟩
      · rcases ih later with sep | ⟨k,member,inside⟩
        · exact .inl sep
        · rcases List.mem_cons.mp member with rfl | other
          · exact .inr ⟨d::k,by simp,by simp [inside]⟩
          · exact .inr ⟨k,by simp [other],inside⟩

section
variable {pg : Postgres} {i : Interpreter} {a : DurableClient.CreateArguments} {answer : List (PyStr × Json)}

open DurableClient in
theorem createIssued {σ : Type} {seams : Seams σ} {store before later : σ} {order : Json} {payload : List (PyStr × Json)}
    (reserved : seams.observationReserver store = (.ok order,before))
    (posted : (createBatchJob i seams a store).posted = some payload)
    (answered : seams.provider payload before = (.ok answer,later)) :
    ∃ endpointAlias fileId, createIdentities a = .ok (endpointAlias,fileId) ∧
      createPayload i seams fileId endpointAlias a = .ok payload ∧
      (createBatchJob i seams a store).result =
        (DurableClient.persistSnapshot i seams.lifecycleRecorder (createObservation answer endpointAlias fileId order a)
          later).1.map (fun _ => answer) := by
  unfold createBatchJob at posted ⊢
  cases identities : createIdentities a with
  | error e =>
    rw [identities] at posted
    cases posted
  | ok pair =>
    obtain ⟨endpointAlias,fileId⟩ := pair
    rw [identities] at posted
    simp only [] at posted ⊢
    cases reservation : reserveObservationOrder seams endpointAlias "Batch creation" none store with
    | mk result after =>
      cases result with
      | error e =>
        rw [reservation] at posted
        cases posted
      | ok number =>
        have same : number = order ∧ after = before := by
          unfold reserveObservationOrder at reservation
          rw [reserved] at reservation
          simp only [] at reservation
          split at reservation <;> cases reservation
          exact ⟨rfl,rfl⟩
        obtain ⟨rfl,rfl⟩ := same
        rw [reservation] at posted
        simp only [] at posted ⊢
        cases made : createPayload i seams fileId endpointAlias a with
        | error e =>
          rw [made] at posted
          cases posted
        | ok body =>
          rw [made] at posted
          simp only [] at posted ⊢
          have same : body = payload := by
            split at posted
            · exact Option.some.inj posted
            · split at posted
              · exact Option.some.inj posted
              · exact Option.some.inj posted
          subst same
          refine ⟨endpointAlias,fileId,rfl,made,?_⟩
          rw [answered]
          simp only []
          cases DurableClient.persistSnapshot i seams.lifecycleRecorder
            (createObservation answer endpointAlias fileId number a) later with
          | mk result store =>
            cases result with
            | error e => rfl
            | ok u => rfl

open DurableClient in
theorem createdOther (fileId : PyStr) {name : PyStr} (input : name ≠ py "input_file_id") (endpoint : name ≠ py "endpoint")
    (metadata : name ≠ py "metadata") : Json.get? (createdSnapshot answer fileId a) name = Json.get? answer name := by
  unfold createdSnapshot
  simp only []
  split
  · rw [Json.setDefaultOther _ _ endpoint,Json.setDefaultOther _ _ input]
  · rw [Json.setDefaultOther _ _ metadata,Json.setDefaultOther _ _ endpoint,Json.setDefaultOther _ _ input]

theorem echoed {name : PyStr} {value : Json} (h : Json.get? answer name = none ∨ Json.get? answer name = some value) :
    (Json.get? answer name).getD value = value := by
  rcases h with none_ | some_
  · rw [none_]
    rfl
  · rw [some_]
    rfl

open DurableClient in
theorem createdEchoes {jobs : List RemoteBatchJob} (answered : Answered a answer jobs) {fileId : PyStr}
    (file : a.inputFileId = .str fileId) :
    Json.get (createdSnapshot answer fileId a) (py "input_file_id") = .str fileId ∧
      Json.get (createdSnapshot answer fileId a) (py "endpoint") = a.endpoint.value ∧
      Json.get (createdSnapshot answer fileId a) (py "metadata") = a.metadata := by
  have input := answered.inputFile
  rw [file] at input
  have inputSent := echoed input
  have endpointSent := echoed answered.endpoint
  have metadataSent := echoed answered.metadata
  have ie : py "input_file_id" ≠ py "endpoint" := by decide
  have im : py "input_file_id" ≠ py "metadata" := by decide
  have em : py "endpoint" ≠ py "metadata" := by decide
  unfold createdSnapshot Json.get
  simp only []
  split
  · rename_i none_
    rw [none_] at metadataSent
    refine ⟨?_,?_,?_⟩
    · rw [Json.setDefaultOther _ _ ie,Json.setDefaultOwn,Option.getD_some,inputSent]
    · rw [Json.setDefaultOwn,Json.setDefaultOther _ _ ie.symm,Option.getD_some,endpointSent]
    · rw [Json.setDefaultOther _ _ em.symm,Json.setDefaultOther _ _ im.symm,metadataSent,none_]
  · refine ⟨?_,?_,?_⟩
    · rw [Json.setDefaultOther _ _ im,Json.setDefaultOther _ _ ie,Json.setDefaultOwn,Option.getD_some,inputSent]
    · rw [Json.setDefaultOther _ _ em,Json.setDefaultOwn,Json.setDefaultOther _ _ ie.symm,Option.getD_some,endpointSent]
    · rw [Json.setDefaultOwn,Json.setDefaultOther _ _ em.symm,Json.setDefaultOther _ _ im.symm,Option.getD_some,
        metadataSent]

theorem endpointPlain {given : PyValue} {endpoint : PyStr} (h : validateBatchEndpoint given = .ok endpoint) :
    given.value = .str endpoint ∧ normalizeOptionalProviderText (.str endpoint) = some endpoint := by
  obtain ⟨value,builtin⟩ := given
  unfold validateBatchEndpoint at h
  simp only [] at h
  split at h <;> try contradiction
  rename_i s
  split at h
  · cases h
  rename_i accepted
  cases Except.ok.inj h
  simp only [Bool.or_eq_true,not_or,Bool.not_eq_true',Bool.not_eq_false] at accepted
  obtain ⟨⟨-,pattern⟩,-⟩ := accepted
  unfold batchEndpointPattern at pattern
  split at pattern
  · rename_i root segments pieces
    simp only [Bool.and_eq_true] at pattern
    obtain ⟨⟨⟨-,rootChars⟩,others⟩,-⟩ := pattern
    have filled : List.isEmpty endpoint = false := by
      cases endpoint with
      | nil => cases pieces
      | cons c s => rfl
    have plainNul : endpointChar nul = false ∧ endpointRootChar nul = false ∧ nul ≠ slash := by decide
    have nulFree : List.contains endpoint nul = false := by
      rw [List.contains_eq_mem,decide_eq_false_iff_not]
      intro here
      rcases splitCovers endpoint here with sep | ⟨l,member,inside⟩
      · exact plainNul.2.2 sep
      rw [pieces] at member
      rcases List.mem_cons.mp member with rfl | member
      · cases inside
      rcases List.mem_cons.mp member with rfl | member
      · have own := List.all_eq_true.mp rootChars nul inside
        rw [plainNul.2.1] at own
        cases own
      · have own := List.all_eq_true.mp others l member
        simp only [endpointSegment,Bool.and_eq_true] at own
        have char := List.all_eq_true.mp own.2 nul inside
        rw [plainNul.1] at char
        cases char
    refine ⟨rfl,?_⟩
    simp only [normalizeOptionalProviderText,filled,nulFree,Bool.or_self,Bool.false_eq_true,if_false]
  · cases pattern

theorem endpointSupported {endpoint : PyStr} {builtin : Bool} {e : Option BatchEndpoint} (some_ : endpoint ≠ [])
    (h : providerBatchEndpoint ⟨.str endpoint,builtin⟩ = .ok e) :
    (∃ route : BatchEndpoint, endpoint = route.text) ∧ builtin = true := by
  unfold providerBatchEndpoint at h
  split at h
  · rename_i same
    cases same
  · rename_i same
    cases same
    exact absurd rfl some_
  · rename_i s _ same
    cases same
    split at h
    · rename_i route found
      have named := List.find?_some found
      exact ⟨⟨route,(beq_iff_eq.mp named).symm⟩,rfl⟩
    · cases h
  · cases h

theorem supportedRoute (route : BatchEndpoint) : providerBatchEndpoint ⟨.str route.text,true⟩ = .ok (some route) := by
  cases route <;> rfl

theorem supportedStatus {status : BatchStatus} (h : status ∈ BatchStatus.supported) :
    providerBatchStatus ⟨.str status.text,true⟩ = .ok status := by
  cases status <;> first | rfl | exact absurd h (by decide)

open DurableClient in
theorem createdIdentified {jobs : List RemoteBatchJob} (answered : Answered a answer jobs) {fileId : PyStr}
    (file : validateRemoteResourceId a.inputFileId "input_file_id" = .ok fileId) :
    IdentifiedResponse (createdSnapshot answer fileId a) := by
  have named := (validIdentifier file).1
  have echoes := createdEchoes answered named
  obtain ⟨id,own,pattern⟩ := answered.batchId
  obtain ⟨output,outputValid⟩ := answered.outputFile
  obtain ⟨error,errorValid⟩ := answered.errorFile
  have other : ∀ name ∈ [py "id",py "output_file_id",py "error_file_id"],
      Json.get (createdSnapshot answer fileId a) name = Json.get answer name := by
    intro name here
    have apart : ∀ name ∈ [py "id",py "output_file_id",py "error_file_id"],
        name ≠ py "input_file_id" ∧ name ≠ py "endpoint" ∧ name ≠ py "metadata" := by decide
    obtain ⟨input,endpoint,metadata⟩ := apart name here
    unfold Json.get
    rw [createdOther fileId input endpoint metadata]
  refine ⟨⟨id,?_⟩,⟨some fileId,?_⟩,⟨output,?_⟩,⟨error,?_⟩⟩
  · rw [other _ (by simp),own]
    exact identifierAccepted _ pattern
  · rw [echoes.1]
    have valid := (validIdentifier file).2
    cases fileId with
    | nil => cases valid
    | cons c s =>
      have accepted : validateRemoteResourceId (.str (c::s)) "input_file_id" = .ok (c::s) := identifierAccepted _ valid
      simp only [validateOptionalRemoteResourceId,accepted]
      rfl
  · rw [other _ (by simp)]
    exact outputValid
  · rw [other _ (by simp)]
    exact errorValid

theorem persistedNormal {value : Json} {field : String} {id : Option PyStr}
    (h : validateOptionalRemoteResourceId value field = .ok id) : persistedRemoteResourceId (textOrNull id) field = .ok id := by
  unfold persistedRemoteResourceId
  rw [optionalSettled h]

theorem createdCounts {q : List (PyStr × Json)} {fileId : PyStr}
    (fields : ClientFields i q (DurableClient.createdSnapshot answer fileId a)) :
    requestCounts (Json.get q (py "request_counts")) = answeredCounts answer := by
  have other : Json.get? (DurableClient.createdSnapshot answer fileId a) (py "request_counts") =
      Json.get? answer (py "request_counts") := createdOther fileId (by decide) (by decide) (by decide)
  unfold answeredCounts
  rw [fields.counts,Json.get,other]
  rfl

theorem createdNormalizes {order : Int} {q : List (PyStr × Json)} {jobs : List RemoteBatchJob} {endpointAlias : PyStr}
    {route : BatchEndpoint} (answered : Answered a answer jobs) {fileId : PyStr}
    (file : validateRemoteResourceId a.inputFileId "input_file_id" = .ok fileId)
    (fields : ClientFields i q (DurableClient.createdSnapshot answer fileId a))
    (named : validateEndpointAlias a.endpointAlias = .ok endpointAlias) (positive : 0 < order)
    (supported : a.endpoint.value = .str route.text) (now : Int) : ∃ s m,
      normalizeRemoteBatchSnapshot i now (.str defaultTenantScope) (.str endpointAlias) (.obj q) (.int order) .absent =
        .ok (s,m) ∧ .str s.remoteBatchId = Json.get answer (py "id") := by
  have echoes := createdEchoes answered (validIdentifier file).1
  obtain ⟨id,own,pattern⟩ := answered.batchId
  obtain ⟨status,listed,reported⟩ := answered.status
  obtain ⟨inputFile,inputOwn,inputStored⟩ := fields.files "input_file_id" (by decide)
  obtain ⟨outputFile,outputOwn,outputStored⟩ := fields.files "output_file_id" (by decide)
  obtain ⟨errorFile,errorOwn,errorStored⟩ := fields.files "error_file_id" (by decide)
  have counts := createdCounts fields
  have countable := answerCountable answered
  have idOther : Json.get (DurableClient.createdSnapshot answer fileId a) (py "id") = .str id := by
    have other : Json.get? (DurableClient.createdSnapshot answer fileId a) (py "id") = Json.get? answer (py "id") :=
      createdOther fileId (by decide) (by decide) (by decide)
    rw [Json.get,other]
    exact own
  have statusOther : Json.get (DurableClient.createdSnapshot answer fileId a) (py "status") = .str status.text := by
    have other : Json.get? (DurableClient.createdSnapshot answer fileId a) (py "status") = Json.get? answer (py "status") :=
      createdOther fileId (by decide) (by decide) (by decide)
    rw [Json.get,other]
    exact reported
  have statusText := supportedText (List.mem_append_left (BatchEndpoint.supported.map BatchEndpoint.text)
    (List.mem_map_of_mem (f := BatchStatus.text) listed))
  have routed : route ∈ BatchEndpoint.supported := by cases route <;> decide
  have routeText := supportedText (List.mem_append_right (BatchStatus.supported.map BatchStatus.text)
    (List.mem_map_of_mem (f := BatchEndpoint.text) routed))
  let s : RemoteBatchSnapshot := {
    tenantScope := defaultTenantScope
    endpointAlias := endpointAlias
    remoteBatchId := id
    observationOrder := order
    inputFileId := inputFile
    batchEndpoint := some route
    batchStatus := status
    outputFileId := outputFile
    errorFileId := errorFile
    totalRequests := providerCount (Json.get (answeredCounts answer) (py "total"))
    totalRequestsKnown := knownCount (Json.get (answeredCounts answer) (py "total"))
    completedRequests := providerCount (Json.get (answeredCounts answer) (py "completed"))
    failedRequests := providerCount (Json.get (answeredCounts answer) (py "failed"))
    providerMetadata := (providerMetadata i (Json.get q (py "metadata"))).1
    observedAt := now
    terminalAt := if status.terminal then some now else none}
  have made : s.MadeFrom i now (.str defaultTenantScope) (.str endpointAlias) q [] (.int order) .absent
      (providerMetadata i (Json.get q (py "metadata"))).2 := by
    constructor
    · exact identifierAccepted "tenant_scope" (by decide)
    · exact if_neg (not_le.mpr positive)
    · unfold persistedEndpointAlias
      rw [aliasSettled named]
    · unfold persistedRemoteBatchId
      rw [fields.batchId,idOther,show validateRemoteResourceId (.str id) "remote_batch_id" = .ok id from
        identifierAccepted "remote_batch_id" pattern]
    · rfl
    · rw [inputStored]
      exact persistedNormal inputOwn
    · rw [outputStored]
      exact persistedNormal outputOwn
    · rw [errorStored]
      exact persistedNormal errorOwn
    · unfold typedMember
      rw [fields.status,statusOther,statusText]
      exact supportedStatus listed
    · unfold typedMember
      rw [fields.endpoint,echoes.2.1,supported,routeText]
      exact supportedRoute route
    · rw [counts]
    · rw [counts]
    · rw [counts]
    · rw [counts]
    · exact countable.progress
    · rfl
    · rfl
  exact ⟨s,_,normalizes made,own.symm⟩

theorem createdGuarded {jobs : List RemoteBatchJob} (answered : Answered a answer jobs)
    (typed : ∀ row ∈ jobs, row.typed = true) {s : RemoteBatchSnapshot} {m : PyStr} {now : Int}
    {tenantScope endpointAlias order : Json} {q : List (PyStr × Json)} {derived : List PyStr}
    (made : s.MadeFrom i now tenantScope endpointAlias q derived order .absent m)
    (counts : requestCounts (Json.get q (py "request_counts")) = answeredCounts answer)
    (own : .str s.remoteBatchId = Json.get answer (py "id")) {old : RemoteBatchJob}
    (present : Table.find RemoteBatchJob.key jobs s.key = some old) : GuardEvaluated s old := by
  have member := Table.findMember present
  rcases answered.counts with empty | ⟨-,fresh⟩
  · have known : s.totalRequestsKnown = false := by rw [made.known,counts,empty]; rfl
    have completed : s.completedRequests = 0 := by rw [made.completed,counts,empty]; rfl
    have failed : s.failedRequests = 0 := by rw [made.failed,counts,empty]; rfl
    have checked := (checksMet _).mp old.checked
    have ranges := typed old member
    simp only [JobColumns.typed,inInteger,Bool.and_eq_true,decide_eq_true_eq] at ranges
    intro stored
    unfold progressGuard
    simp only [RemoteBatchSnapshot.columns,known,completed,failed,Bool.or_false]
    split
    · rename_i bounded
      have within := checked.progress bounded
      have completedNatural := checked.completed
      have failedNatural := checked.failed
      have fits : inInteger (max old.completedRequests 0 + max old.failedRequests 0) = true := by
        simp only [inInteger,Bool.and_eq_true,decide_eq_true_eq]
        omega
      simp only [integerSum,fits,if_true]
      exact ⟨_,rfl⟩
    · exact ⟨_,rfl⟩
  · have same := congrArg JobKey.remoteBatchId (Table.findKey present)
    have batch : old.remoteBatchId = s.remoteBatchId := same
    exact absurd (by rw [batch]; exact own) (fresh old member)

theorem createdMetadata {q : List (PyStr × Json)} {jobs : List RemoteBatchJob} (answered : Answered a answer jobs)
    {fileId : PyStr} (file : a.inputFileId = .str fileId) (held : Held a.metadata)
    (fields : ClientFields i q (DurableClient.createdSnapshot answer fileId a)) : Held (Json.get q (py "metadata")) := by
  have echoes := (createdEchoes answered file).2.2
  unfold Json.get at echoes ⊢
  rw [fields.metadata]
  cases sent : Json.get? (DurableClient.createdSnapshot answer fileId a) (py "metadata") with
  | none => exact .null
  | some metadata =>
    rw [sent] at echoes
    cases echoes
    exact metadataHeld held

theorem namedSource {value : Json} {endpointAlias : PyStr} (h : validateEndpointAlias value = .ok endpointAlias) :
    ∃ t, value = .str t ∧ endpointAlias = t.strip := by
  have persisted : persistedEndpointAlias value = .ok endpointAlias := by
    unfold persistedEndpointAlias
    rw [h]
  obtain ⟨t,text,stripped,-⟩ := aliasSource persisted
  exact ⟨t,text,stripped⟩

open DurableClient in
theorem createdBuiltin (endpointAlias fileId : PyStr) (order : Json) (builtin : BuiltinEndpoint a answer) :
    keptDerived (createObservation answer endpointAlias fileId order a) = [] := by
  have none_ : createdDerived answer a = [] := by
    unfold createdDerived
    rw [if_pos]
    rwa [Bool.or_eq_true]
  unfold keptDerived createObservation
  rw [none_]
  rfl

open DurableClient in
theorem createdType {endpointAlias fileId endpoint : PyStr} {order : Json}
    (text : normalizeOptionalProviderText (Json.get (createdSnapshot answer fileId a) (py "endpoint")) = some endpoint)
    (own : (keptDerived (createObservation answer endpointAlias fileId order a)).contains (py "endpoint") = false) :
    BuiltinEndpoint a answer := by
  have typed := @keptTyped (createObservation answer endpointAlias fileId order a) _ _ text
  rw [own] at typed
  unfold createObservation createdDerived at typed
  split at typed
  · rename_i builtin
    rwa [Bool.or_eq_true] at builtin
  · cases typed

/-- An alias that is bound to a column holds no lone surrogate: stripping drops none. -/
theorem boundEncodable {value : Json} {endpointAlias shown sent : PyStr}
    (named : validateEndpointAlias value = .ok endpointAlias) (again : persistedEndpointAlias (.str endpointAlias) = .ok shown)
    (bound : bindText shown = .ok sent) : EncodableAlias value := by
  obtain ⟨t,rfl,stripped⟩ := namedSource named
  obtain ⟨u,same,trimmed,-⟩ := aliasSource again
  cases same
  rintro v same c here
  cases Json.str.inj same
  by_contra lone
  have surrogate : c.surrogate = true := by simpa using lone
  have inside : c ∈ shown := by
    rw [trimmed,stripped]
    exact stripKeeps surrogate (stripKeeps surrogate here)
  unfold bindText at bound
  split at bound
  · rename_i sent
    obtain ⟨bytes,written⟩ := Option.isSome_iff_exists.mp sent
    exact lone (encodedScalars written c inside)
  · cases bound

theorem createdRange {endpointAlias fileId : PyStr} {order : Int} {q : List (PyStr × Json)} {jobs : List RemoteBatchJob}
    (named : validateEndpointAlias a.endpointAlias = .ok endpointAlias) (answered : Answered a answer jobs)
    (small : order < 2 ^ 63) (fields : ClientFields i q (DurableClient.createdSnapshot answer fileId a))
    (encodable : EncodableAlias a.endpointAlias) : InRange (.str endpointAlias) (.int order) q := by
  obtain ⟨t,text,stripped⟩ := namedSource named
  constructor
  · rintro n same
    cases Json.int.inj same
    exact small
  · rw [createdCounts fields]
    exact (answerCountable answered).small
  · rintro v same c here
    cases Json.str.inj same
    rw [stripped] at here
    exact encodable t text c (stripWithin here)

open DurableClient in
/-- Once the POST of a creation is out and the provider has answered it, the observation is recorded exactly when
the endpoint is one of the supported ones, as a text of `str` itself unless the provider echoes it, and the alias holds
no lone surrogate. -/
theorem createRecords {seams : Seams (List RemoteBatchJob)} {now order : Int} {jobs before later : List RemoteBatchJob}
    {payload : List (PyStr × Json)} (reads : pg.ReadsMetadata i)
    (recorder : seams.lifecycleRecorder = defaultRecorder pg i now)
    (sequence : 0 < order ∧ order < 2 ^ 63) (reserved : seams.observationReserver jobs = (.ok (.int order),before))
    (issued : (createBatchJob i seams a jobs).posted = some payload)
    (response : seams.provider payload before = (.ok answer,later)) (answered : Answered a answer later)
    (typed : ∀ row ∈ later, row.typed = true) (held : Held a.metadata) :
    (createBatchJob i seams a jobs).result = .ok answer ↔
      SupportedEndpoint a.endpoint.value ∧ BuiltinEndpoint a answer ∧ EncodableAlias a.endpointAlias := by
  obtain ⟨endpointAlias,fileId,identities,made,result⟩ := createIssued reserved issued response
  obtain ⟨first,named,identities⟩ := Fallible.bindOk.mp identities
  obtain ⟨second,file,identities⟩ := Fallible.bindOk.mp identities
  cases Except.ok.inj identities
  obtain ⟨_,-,made⟩ := Fallible.bindOk.mp made
  obtain ⟨endpoint,routed,-⟩ := Fallible.bindOk.mp made
  obtain ⟨given,plain⟩ := endpointPlain routed
  obtain ⟨q,ready⟩ := clientReady (i := i) (o := createObservation answer endpointAlias fileId (.int order) a)
    (createdIdentified answered file) (fun _ absent => absurd absent.symm (Option.some_ne_none _))
  have fields : ClientFields i q (createdSnapshot answer fileId a) := clientFields ready
  have echoes := createdEchoes answered (validIdentifier file).1
  have sentText : normalizeOptionalProviderText (Json.get (createdSnapshot answer fileId a) (py "endpoint")) =
      some endpoint := by rw [echoes.2.1,given,plain]
  obtain ⟨kept,shown⟩ : ∃ kept, keptDerived (createObservation answer endpointAlias fileId (.int order) a) = kept := ⟨_,rfl⟩
  rw [result,recorder]
  unfold DurableClient.persistSnapshot
  rw [recordedBy ready,shown]
  constructor
  · intro done
    cases ran : transact pg none (persistRemoteBatchState i now (.str endpointAlias) ⟨.obj q,kept⟩ (.int order)
        .absent) later with
    | mk outcome after =>
      cases outcome with
      | error x =>
        simp only [createObservation,ran] at done
        cases done
      | ok r =>
        let e : PersistEvent := ⟨.standalone (.str endpointAlias) ⟨.obj q,kept⟩ (.int order) .absent,now,none⟩
        obtain ⟨s,m,d,normal,recorded,-⟩ := persistedSource (e := e) ran
        obtain ⟨members,same,from_⟩ := normalizedFrom normal
        cases same
        have route := from_.endpoint
        unfold typedMember at route
        rw [fields.endpoint,sentText] at route
        obtain ⟨⟨supported,same⟩,builtin⟩ := endpointSupported (by rintro rfl; cases plain) route
        have ownType : kept.contains (py "endpoint") = false := by
          change (!kept.contains (py "endpoint")) = true at builtin
          simpa using builtin
        rw [← shown] at ownType
        obtain ⟨sent,-,-,-,bound,-⟩ := outcomeSource recorded
        exact ⟨⟨supported,by rw [given,same]⟩,createdType sentText ownType,boundEncodable named from_.named bound⟩
  · rintro ⟨⟨route,supported⟩,builtin,encodable⟩
    obtain rfl : kept = [] := shown.symm.trans (createdBuiltin _ _ _ builtin)
    obtain ⟨s,m,normal,own⟩ := createdNormalizes answered file fields named sequence.1 supported now
    obtain ⟨members,same,from_⟩ := normalizedFrom normal
    cases same
    have counts := createdCounts fields
    have range := createdRange named answered sequence.2 fields encodable
    have metadata := createdMetadata answered (validIdentifier file).1 held fields
    have fits := rangeFits reads metadata normal range
    obtain ⟨d,after,recorded⟩ := outcomeSucceeds fits (fun old present stored => by
      obtain ⟨b,progress⟩ := createdGuarded answered typed from_ counts own present stored
      exact guardRuns progress)
    let e : PersistEvent := ⟨.standalone (.str endpointAlias) (.obj q) (.int order) .absent,now,none⟩
    have ran := @callTransact pg i e later
    have own_ : e.normalized i = .ok (s,m) := normal
    rw [own_] at ran
    simp only [recorded] at ran
    have sent : transact pg none (persistRemoteBatchState i now (.str endpointAlias) ⟨.obj q,[]⟩ (.int order)
      .absent) later = _ := ran
    simp only [createObservation,sent]
    rfl

end

def creation (endpoint : PyStr) : DurableClient.CreateArguments where
  inputFileId := .str (py "file-1")
  endpointAlias := .str (py "primary")
  endpoint := ⟨.str endpoint,true⟩
  metadata := .null

def createdAnswer : List (PyStr × Json) := [(py "id",.str (py "batch-1")),(py "status",.str (py "validating"))]

def creationSeams : DurableClient.Seams (List RemoteBatchJob) where
  observationReserver jobs := (.ok (.int 1),jobs)
  credentials _ := .ok ()
  provider _ jobs := (.ok createdAnswer,jobs)
  lifecycleRecorder := DurableClient.defaultRecorder samplePostgres sampleInterpreter 0

theorem sparselyAnswered (endpoint : PyStr) : Answered (creation endpoint) createdAnswer [] where
  held := by
    refine .obj _ (by decide) ?_
    simp only [createdAnswer,List.forall_mem_cons,List.not_mem_nil,false_implies,implies_true,and_true]
    exact ⟨.str _,.str _⟩
  batchId := ⟨py "batch-1",rfl,by decide⟩
  status := ⟨.validating,by decide,rfl⟩
  inputFile := .inl rfl
  endpoint := .inl rfl
  metadata := .inl rfl
  outputFile := ⟨none,rfl⟩
  errorFile := ⟨none,rfl⟩
  counts := .inl rfl

-- An endpoint of the right shape that the recorder does not know: the job exists and is not recorded.
theorem foreignEndpointOrphaned : ∃ payload, (DurableClient.createBatchJob sampleInterpreter creationSeams
    (creation (py "/v1/foo")) []).posted = some payload ∧ Answered (creation (py "/v1/foo")) createdAnswer [] ∧
    (DurableClient.createBatchJob sampleInterpreter creationSeams (creation (py "/v1/foo")) []).result ≠ .ok createdAnswer := by
  have sent : (DurableClient.createBatchJob sampleInterpreter creationSeams (creation (py "/v1/foo")) []).posted.isSome =
      true := by decide +kernel
  have refused : (DurableClient.createBatchJob sampleInterpreter creationSeams (creation (py "/v1/foo"))
      []).result.toOption.isSome = false := by decide +kernel
  obtain ⟨payload,posted⟩ := Option.isSome_iff_exists.mp sent
  refine ⟨payload,posted,sparselyAnswered _,fun same => ?_⟩
  rw [same] at refused
  cases refused

theorem embeddingsRecorded : (DurableClient.createBatchJob sampleInterpreter creationSeams
    (creation (py "/v1/embeddings")) []).result = .ok createdAnswer := by
  have sent : (DurableClient.createBatchJob sampleInterpreter creationSeams
      (creation (py "/v1/embeddings")) []).posted.isSome = true := by decide +kernel
  obtain ⟨payload,posted⟩ := Option.isSome_iff_exists.mp sent
  have recorder : creationSeams.lifecycleRecorder = DurableClient.defaultRecorder samplePostgres sampleInterpreter 0 := rfl
  have sequence : (0 : Int) < 1 ∧ (1 : Int) < 2 ^ 63 := by decide
  refine (createRecords (fun value text written => ⟨_,rfl⟩) recorder sequence rfl posted rfl (sparselyAnswered _)
    (fun row here => absurd here List.not_mem_nil) .null).mpr ⟨⟨.embeddings,rfl⟩,.inl rfl,?_⟩
  intro s same
  cases same
  exact fun c here => by simpa using List.all_eq_true.mp (by decide : (py "primary").all (fun c => !c.surrogate) = true) c here

-- The same text as a value of a `str` subclass is posted, and then not recorded.
example : (DurableClient.createBatchJob sampleInterpreter creationSeams {creation (py "/v1/embeddings") with
    endpoint := ⟨.str (py "/v1/embeddings"),false⟩} []).posted.isSome = true ∧
    (DurableClient.createBatchJob sampleInterpreter creationSeams {creation (py "/v1/embeddings") with
      endpoint := ⟨.str (py "/v1/embeddings"),false⟩} []).result.toOption.isSome = false := by decide +kernel

end PgLlmBatch
