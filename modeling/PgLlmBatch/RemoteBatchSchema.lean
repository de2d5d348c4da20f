import PgLlmBatch.ProviderMetadata
import PgLlmBatch.RemoteBatchLifecycle

/-! What the table asks of a row, against what the normalizer has checked before: text that the server
can hold, integers in range, the CHECK constraints and metadata that casts to jsonb. -/
namespace PgLlmBatch
open Base
open Base.JsonText (Held memberHeld)

def storable (s : PyStr) : Bool := s.all (fun c => !c.surrogate && c != 0)

-- The server reads every metadata text that the encoder can have written.
def Postgres.ReadsMetadata (pg : Postgres) (i : Interpreter) : Prop :=
  ∀ value text, MetadataText i value text → ∃ stored, pg.jsonb text = .ok stored

structure FitsSchema (pg : Postgres) (s : RemoteBatchSnapshot) (metadataJson : PyStr) : Prop where
  scope : storable s.tenantScope = true
  endpointAlias : storable s.endpointAlias = true
  batchId : storable s.remoteBatchId = true ∧ 1 ≤ s.remoteBatchId.length ∧ s.remoteBatchId.length ≤ 256
  fileIds : ∀ id, s.inputFileId = some id ∨ s.outputFileId = some id ∨ s.errorFileId = some id → storable id = true
  labels : storable s.batchStatus.text = true ∧ ∀ e, s.batchEndpoint = some e → storable e.text = true
  order : inBigint s.observationOrder = true
  counts : inInteger s.totalRequests = true ∧ inInteger s.completedRequests = true ∧ inInteger s.failedRequests = true
  inserted : ∃ stored row, bindText s.endpointAlias = .ok s.endpointAlias ∧
    insertedRow pg s metadataJson = .ok (s.columns stored) ∧ RemoteBatchJob.new (s.columns stored) = .ok row

-- What the normalizer leaves to the server: the width of the integers, and lone surrogates in the alias.
structure InRange (endpointAlias observationOrder : Json) (batch : List (PyStr × Json)) : Prop where
  order : ∀ n, observationOrder = .int n → n < 2 ^ 63
  counts : ∀ name ∈ [py "total",py "completed",py "failed"], ∀ n,
    Json.get (requestCounts (Json.get batch (py "request_counts"))) name = .int n → n < 2 ^ 31
  endpointAlias : ∀ s, endpointAlias = .str s → ∀ c ∈ s, c.surrogate = false

theorem identifierStorable {limit : Nat} {s : PyStr} (h : identifierPattern limit s = true) : storable s = true := by
  have plain : ∀ c : PyChar, identifierChar c = true → (!c.surrogate && c != 0) = true := by
    intro c own
    have ascii : 0 < c.val ∧ c.val < 0x80 := by
      simp only [identifierChar,PyChar.alphanumeric,PyChar.digit,Bool.or_eq_true,Bool.and_eq_true,decide_eq_true_eq,
        beq_iff_eq] at own
      rcases own with (((((digit | upper) | lower) | rfl) | rfl) | rfl) | rfl
      all_goals first | omega | decide
    have nonzero : c ≠ 0 := by
      rintro rfl
      exact absurd ascii.1 (by decide)
    have low : ¬0xD800 ≤ c.val := by omega
    simp [PyChar.surrogate,low,nonzero]
  cases s with
  | nil => cases h
  | cons c s =>
    simp only [identifierPattern,Bool.and_eq_true] at h
    simp only [storable,List.all_cons,Bool.and_eq_true]
    have first : identifierChar c = true := by simp [identifierChar,h.1.1]
    exact ⟨by simpa using plain c first,List.all_eq_true.mpr (fun d here => plain d (List.all_eq_true.mp h.1.2 d here))⟩

theorem identifierLength {limit : Nat} {s : PyStr} (some_ : 0 < limit) (h : identifierPattern limit s = true) :
    1 ≤ s.length ∧ s.length ≤ limit := by
  cases s with
  | nil => cases h
  | cons c s =>
    simp only [identifierPattern,Bool.and_eq_true,decide_eq_true_eq] at h
    simp only [List.length_cons]
    omega

theorem encodedScalars {s : PyStr} {bytes : Bytes} (h : s.encodeUtf8 = some bytes) : ∀ c ∈ s, c.surrogate = false := by
  induction s generalizing bytes with
  | nil => simp
  | cons c s ih =>
    simp only [PyStr.encodeUtf8,Option.bind_eq_bind,Option.bind_eq_some_iff] at h
    obtain ⟨head,one,tail,others,-⟩ := h
    rw [List.forall_mem_cons]
    refine ⟨?_,ih others⟩
    by_contra lone
    have surrogate : c.surrogate = true := by simpa using lone
    have bounds : 0xD800 ≤ c.val := by
      simp only [PyChar.surrogate,Bool.and_eq_true,decide_eq_true_eq] at surrogate
      exact surrogate.1
    have notAscii : ¬c.val < 0x80 := by omega
    have notShort : ¬c.val < 0x800 := by omega
    simp [PyChar.utf8,notAscii,notShort,surrogate] at one

theorem surrogateNotSpace {c : PyChar} (h : c.surrogate = true) : c.space = false := by
  simp only [PyChar.surrogate,Bool.and_eq_true,decide_eq_true_eq] at h
  simp only [PyChar.space,Bool.or_eq_false_iff,Bool.and_eq_false_iff,decide_eq_false_iff_not,beq_eq_false_iff_ne]
  omega

theorem droppedKeeps {p : PyChar → Bool} {c : PyChar} (other : p c = false) {s : PyStr} (here : c ∈ s) :
    c ∈ s.dropWhile p := by
  induction s with
  | nil => cases here
  | cons d s ih =>
    rw [List.dropWhile_cons]
    split
    · rename_i blank
      rcases List.mem_cons.mp here with rfl | later
      · rw [other] at blank
        cases blank
      · exact ih later
    · exact here

theorem stripKeeps {c : PyChar} (lone : c.surrogate = true) {s : PyStr} (here : c ∈ s) : c ∈ s.strip := by
  have other := surrogateNotSpace lone
  have left_ := droppedKeeps other here
  unfold PyStr.strip List.rdropWhile
  rw [List.mem_reverse]
  exact droppedKeeps other (List.mem_reverse.mpr left_)

theorem stripWithin {c : PyChar} {s : PyStr} (here : c ∈ s.strip) : c ∈ s := by
  unfold PyStr.strip List.rdropWhile at here
  rw [List.mem_reverse] at here
  have inner := List.mem_reverse.mp ((List.dropWhile_sublist _).subset here)
  exact (List.dropWhile_sublist _).subset inner

section
variable {pg : Postgres} {i : Interpreter} {now : Int} {derived : List PyStr} {tenantScope endpointAlias order : Json}
  {batch : List (PyStr × Json)} {observedAt : ObservedAt} {s : RemoteBatchSnapshot} {m : PyStr}

theorem optionalChecked {id : Option PyStr}
    (h : ∀ s, id = some s → identifierPattern maxRemoteResourceIdCharacters s = true) :
    JobColumns.optionalIdCheck id = true := by
  cases id with
  | none => rfl
  | some s => exact h s rfl

theorem normalizedChecks (normal : s.Normalized) (stored : Json) : (s.columns stored).checks = true := by
  have progress : (s.columns stored).knownProgress = true := by
    unfold JobColumns.knownProgress
    cases known : s.totalRequestsKnown with
    | false => simp [RemoteBatchSnapshot.columns,known]
    | true => simpa [RemoteBatchSnapshot.columns,known] using normal.progress known
  have input := optionalChecked (fun id same => normal.fileIds id (.inl same))
  have output := optionalChecked (fun id same => normal.fileIds id (.inr (.inl same)))
  have error := optionalChecked (fun id same => normal.fileIds id (.inr (.inr same)))
  unfold JobColumns.checks
  simp only [Bool.and_eq_true,decide_eq_true_eq]
  exact ⟨⟨⟨⟨⟨⟨⟨⟨⟨⟨normal.scope,normal.aliasLength⟩,normal.batchId⟩,normal.order⟩,input⟩,output⟩,error⟩,normal.counts.1⟩,
    normal.counts.2.1⟩,normal.counts.2.2⟩,progress⟩

theorem labelsStorable (status : BatchStatus) (endpoint : BatchEndpoint) :
    storable status.text = true ∧ storable endpoint.text = true := by
  cases status <;> cases endpoint <;> decide

theorem aliasSource {value : Json} {s : PyStr} (h : persistedEndpointAlias value = .ok s) :
    ∃ t, value = .str t ∧ s = t.strip ∧ ∀ c ∈ s, c ≠ 0 := by
  have valid := persistedAlias h
  unfold validateEndpointAlias at valid
  split at valid <;> try contradiction
  rename_i t
  simp only [] at valid
  split at valid
  · cases valid
  rename_i accepted
  cases Except.ok.inj valid
  refine ⟨t,rfl,rfl,fun c here zero => ?_⟩
  simp only [Bool.or_eq_true,not_or] at accepted
  refine accepted.1.2 (List.contains_iff_mem.mpr ?_)
  rw [zero] at here
  exact here

theorem countInteger {value : Json} (h : ∀ n, value = .int n → n < 2 ^ 31) : inInteger (providerCount value) = true := by
  have natural := countNatural value
  have small : providerCount value < 2 ^ 31 := by
    unfold providerCount
    split
    · split
      · exact h _ rfl
      · decide
    · decide
  simp only [inInteger,Bool.and_eq_true,decide_eq_true_eq]
  omega

theorem integerCount {value : Json} (h : inInteger (providerCount value) = true) : ∀ n, value = .int n → n < 2 ^ 31 := by
  rintro n rfl
  simp only [inInteger,Bool.and_eq_true,decide_eq_true_eq] at h
  have value : providerCount (.int n) = if 0 ≤ n then n else 0 := rfl
  rw [value] at h
  split at h <;> omega

theorem orderSource {value : Json} {n : Int} (h : observationOrderField value = .ok n) : value = .int n := by
  unfold observationOrderField at h
  split at h <;> try contradiction
  split at h <;> cases h
  rfl

theorem fitsRange (h : normalizeRemoteBatchSnapshot i now tenantScope endpointAlias ⟨.obj batch,derived⟩ order observedAt =
    .ok (s,m)) (fits : FitsSchema pg s m) : InRange endpointAlias order batch := by
  obtain ⟨members,same,made⟩ := normalizedFrom h
  cases same
  obtain ⟨t,text,stripped,-⟩ := aliasSource made.named
  constructor
  · rw [orderSource made.order]
    rintro n same
    cases Json.int.inj same
    have bounds := fits.order
    simp only [inBigint,Bool.and_eq_true,decide_eq_true_eq] at bounds
    exact bounds.2
  · have total := fits.counts.1
    have completed := fits.counts.2.1
    have failed := fits.counts.2.2
    rw [made.total] at total
    rw [made.completed] at completed
    rw [made.failed] at failed
    simp only [List.forall_mem_cons,List.not_mem_nil,false_implies,implies_true,and_true]
    exact ⟨integerCount total,integerCount completed,integerCount failed⟩
  · rw [text]
    rintro u same c here
    cases Json.str.inj same
    by_contra lone
    have surrogate : c.surrogate = true := by simpa using lone
    have inside := stripKeeps surrogate here
    rw [← stripped] at inside
    have stored := List.all_eq_true.mp fits.endpointAlias c inside
    simp [surrogate] at stored

theorem rangeFits (reads : pg.ReadsMetadata i) (held : Held (Json.get batch (py "metadata")))
    (h : normalizeRemoteBatchSnapshot i now tenantScope endpointAlias ⟨.obj batch,derived⟩ order observedAt = .ok (s,m))
    (range : InRange endpointAlias order batch) : FitsSchema pg s m := by
  have normal := normalizedSnapshot h
  obtain ⟨members,same,made⟩ := normalizedFrom h
  cases same
  obtain ⟨t,text,stripped,nonzero⟩ := aliasSource made.named
  have plainAlias : ∀ c ∈ s.endpointAlias, c.surrogate = false := by
    rw [stripped]
    exact fun c here => range.endpointAlias t text c (stripWithin here)
  have counts := range.counts
  simp only [List.forall_mem_cons,List.not_mem_nil,false_implies,implies_true,and_true] at counts
  have total : inInteger s.totalRequests = true := made.total ▸ countInteger counts.1
  have completed : inInteger s.completedRequests = true := made.completed ▸ countInteger counts.2.1
  have failed : inInteger s.failedRequests = true := made.failed ▸ countInteger counts.2.2
  have order : inBigint s.observationOrder = true := by
    have below := range.order _ (orderSource made.order)
    have positive := normal.order
    simp only [inBigint,Bool.and_eq_true,decide_eq_true_eq]
    omega
  have text : MetadataText i s.providerMetadata m := by
    have value : s.providerMetadata = (providerMetadata i (Json.get batch (py "metadata"))).1 :=
      congrArg Prod.fst made.metadata
    have written : m = (providerMetadata i (Json.get batch (py "metadata"))).2 := congrArg Prod.snd made.metadata
    rw [value,written]
    exact metadataText held
  obtain ⟨stored,read⟩ := reads _ _ text
  obtain ⟨bytes,encoded⟩ := encodeScalars plainAlias
  exact {
    scope := identifierStorable normal.scope
    endpointAlias := by
      refine List.all_eq_true.mpr (fun c here => ?_)
      simp [plainAlias c here,nonzero c here]
    batchId := ⟨identifierStorable normal.batchId,identifierLength (by decide) normal.batchId⟩
    fileIds := fun id same => identifierStorable (normal.fileIds id same)
    labels := ⟨(labelsStorable s.batchStatus .responses).1,fun e _ => (labelsStorable .unknown e).2⟩
    order := order
    counts := ⟨total,completed,failed⟩
    inserted := by
      refine ⟨stored,⟨s.columns stored,normalizedChecks normal stored⟩,?_,?_,?_⟩
      · simp [bindText,encoded]
      · simp [insertedRow,order,total,completed,failed,read]
      · simp [RemoteBatchJob.new,normalizedChecks normal stored]}

/-- A row that the normalizer has made fits the table exactly when the order is below 2^63, the three counts are
below 2^31 and the alias holds no lone surrogate. -/
theorem acceptedFits (reads : pg.ReadsMetadata i) (held : Held (.obj batch))
    (h : normalizeRemoteBatchSnapshot i now tenantScope endpointAlias ⟨.obj batch,derived⟩ order observedAt = .ok (s,m)) :
    FitsSchema pg s m ↔ InRange endpointAlias order batch :=
  ⟨fitsRange h,rangeFits reads (memberHeld held _) h⟩

end

def countedBatch (total : Int) : List (PyStr × Json) :=
  [(py "id",.str (py "batch-1")),(py "request_counts",.obj [(py "total",.int total)])]

def countedSnapshot (total : Int) : Except PyError (RemoteBatchSnapshot × PyStr) :=
  normalizeRemoteBatchSnapshot sampleInterpreter 0 (.str (py "tenant-a")) (.str (py "primary")) (.obj (countedBatch total))
    (.int 1) .absent

theorem wideTotalUnfit : ∃ s m, countedSnapshot (2 ^ 31) = .ok (s,m) ∧ ¬FitsSchema samplePostgres s m := by
  have accepted : (countedSnapshot (2 ^ 31)).toOption.isSome = true := by decide +kernel
  cases made : countedSnapshot (2 ^ 31) with
  | error x =>
    rw [made] at accepted
    cases accepted
  | ok pair =>
    obtain ⟨s,m⟩ := pair
    refine ⟨s,m,rfl,fun fits => ?_⟩
    obtain ⟨members,same,from_⟩ := normalizedFrom made
    cases same
    have total := fits.counts.1
    rw [from_.total] at total
    revert total
    decide

theorem twoRequestsFit : ∃ s m, countedSnapshot 2 = .ok (s,m) ∧ FitsSchema samplePostgres s m := by
  have accepted : (countedSnapshot 2).toOption.isSome = true := by decide +kernel
  have held : Held (.obj (countedBatch 2)) := by
    refine .obj _ (by decide) ?_
    simp only [countedBatch,List.forall_mem_cons,List.not_mem_nil,false_implies,implies_true,and_true]
    refine ⟨.str _,.obj _ (by decide) ?_⟩
    simp only [List.forall_mem_cons,List.not_mem_nil,false_implies,implies_true,and_true]
    exact .int 2
  cases made : countedSnapshot 2 with
  | error x =>
    rw [made] at accepted
    cases accepted
  | ok pair =>
    obtain ⟨s,m⟩ := pair
    refine ⟨s,m,rfl,(acceptedFits (fun value text written => ⟨_,rfl⟩) held made).mpr ⟨?_,?_,?_⟩⟩
    · intro n same
      cases same
      decide
    · have total : Json.get (requestCounts (Json.get (countedBatch 2) (py "request_counts"))) (py "total") = .int 2 := rfl
      have completed : Json.get (requestCounts (Json.get (countedBatch 2) (py "request_counts"))) (py "completed") = .null := rfl
      have failed : Json.get (requestCounts (Json.get (countedBatch 2) (py "request_counts"))) (py "failed") = .null := rfl
      simp [total,completed,failed]
    · intro t same
      cases same
      exact fun c here => by simpa using List.all_eq_true.mp (by decide : (py "primary").all (fun c => !c.surrogate) = true) c here

end PgLlmBatch
