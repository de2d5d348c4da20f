import PgLlmBatch.CheckpointStore
import PgLlmBatch.RemoteBatchSchema

/-! `llm_result_stream_checkpoints` by its columns: the positional parameters of the INSERT, the
UPDATE and the SELECT, the types and CHECK constraints, and the checkpoint read from a row. -/
namespace PgLlmBatch
open Base

inductive SqlValue where
  | null
  | text (s : PyStr)
  | int (n : Int)
  deriving DecidableEq, Repr

inductive CheckpointColumn where
  | tenantScope | checkpointConsumerName | endpointAlias | remoteBatchId | schemaVersion | fileKind | fileId
  | fileLineNumber | batchLineCount | recordCount | prefixSha256
  deriving DecidableEq, Repr

inductive ColumnType where | text | integer | bigint

def columnType : CheckpointColumn → ColumnType
  | .schemaVersion => .integer
  | .fileLineNumber | .batchLineCount | .recordCount => .bigint
  | _ => .text

def SqlValue.hasType : ColumnType → SqlValue → Bool
  | .text, .text s => storable s
  | .integer, .int n => inInteger n
  | .bigint, .int n => inBigint n
  | _, _ => false

abbrev RowValues := CheckpointColumn → SqlValue

def textCheck (check : PyStr → Bool) : SqlValue → Bool
  | .text s => check s
  | _ => false

def lineCountsCheck : SqlValue → SqlValue → SqlValue → Bool
  | .int fileLineNumber, .int batchLineCount, .int recordCount =>
      decide (0 < fileLineNumber) && decide (fileLineNumber ≤ batchLineCount) && decide (0 < recordCount) &&
        decide (recordCount ≤ batchLineCount)
  | _, _, _ => false

def rowChecks (row : RowValues) : Bool :=
  textCheck (identifierPattern maxTenantScopeCharacters) (row .tenantScope) &&
    textCheck (identifierPattern maxCheckpointConsumerCharacters) (row .checkpointConsumerName) &&
    textCheck (fun s => 1 ≤ s.length && s.length ≤ 128) (row .endpointAlias) &&
    textCheck (identifierPattern maxRemoteResourceIdCharacters) (row .remoteBatchId) &&
    row .schemaVersion == .int 1 && textCheck (fun s => s == py "result" || s == py "error") (row .fileKind) &&
    textCheck (identifierPattern maxRemoteResourceIdCharacters) (row .fileId) &&
    lineCountsCheck (row .fileLineNumber) (row .batchLineCount) (row .recordCount) &&
    textCheck sha256Pattern (row .prefixSha256)

structure CheckpointRow where
  value : RowValues
  typed : ∀ c, (value c).hasType (columnType c) = true
  checked : rowChecks value = true

def checkpointParameters (c : BatchResultCheckpoint) : List SqlValue :=
  [.int c.schemaVersion,.text c.fileKind,.text c.fileId,.int c.fileLineNumber,.int c.batchLineCount,
    .int c.recordCount,.text c.prefixSha256]

-- A column that a statement names takes the parameter at its place.
def assigned (columns : List CheckpointColumn) (parameters : List SqlValue) (c : CheckpointColumn) : Option SqlValue :=
  (columns.zip parameters).lookup c

def insertColumns : List CheckpointColumn :=
  [.tenantScope,.checkpointConsumerName,.endpointAlias,.remoteBatchId,.schemaVersion,.fileKind,.fileId,
    .fileLineNumber,.batchLineCount,.recordCount,.prefixSha256]

def updateColumns : List CheckpointColumn :=
  [.schemaVersion,.fileKind,.fileId,.fileLineNumber,.batchLineCount,.recordCount,.prefixSha256]

def whereColumns : List CheckpointColumn := [.tenantScope,.checkpointConsumerName,.endpointAlias,.remoteBatchId]

-- `_CHECKPOINT_COLUMNS`
def selectColumns : List CheckpointColumn :=
  [.schemaVersion,.remoteBatchId,.endpointAlias,.fileKind,.fileId,.fileLineNumber,.batchLineCount,.recordCount,
    .prefixSha256]

def whereHolds (row : RowValues) (parameters : List SqlValue) : Bool :=
  whereColumns.length == parameters.length && (whereColumns.zip parameters).all (fun (c,v) => row c == v)

namespace PostgresBatchResultCheckpointStore
variable (store : PostgresBatchResultCheckpointStore) (consumer : PyStr)

def insertParameters (c : BatchResultCheckpoint) : List SqlValue :=
  [.text store.tenantScope,.text consumer,.text c.endpointAlias,.text c.batchId] ++ checkpointParameters c

-- A column without a parameter would be NULL.
def insertedValues (c : BatchResultCheckpoint) : RowValues :=
  fun column => (assigned insertColumns (store.insertParameters consumer c) column).getD .null

def updateParameters (c : BatchResultCheckpoint) : List SqlValue :=
  checkpointParameters c ++ [.text store.tenantScope,.text consumer,.text c.endpointAlias,.text c.batchId]

def updatedValues (c : BatchResultCheckpoint) (row : RowValues) : RowValues :=
  let parameters := store.updateParameters consumer c
  if whereHolds row (parameters.drop updateColumns.length) then
    fun column => (assigned updateColumns (parameters.take updateColumns.length) column).getD (row column)
  else row

def selects (batchId endpointAlias : PyStr) (row : RowValues) : Bool :=
  whereHolds row [.text store.tenantScope,.text consumer,.text endpointAlias,.text batchId]

end PostgresBatchResultCheckpointStore

def checkpointFromTuple : List SqlValue → Except PyError BatchResultCheckpoint
  | [.int schemaVersion,.text batchId,.text endpointAlias,.text fileKind,.text fileId,.int fileLineNumber,
      .int batchLineCount,.int recordCount,.text prefixSha256] =>
      BatchResultCheckpoint.new ⟨schemaVersion,batchId,endpointAlias,fileKind,fileId,fileLineNumber,batchLineCount,
        recordCount,prefixSha256⟩
  | [_,_,_,_,_,_,_,_,_] => .error .raised
  | _ => .error (.runtimeError "result checkpoint row has an invalid shape")

def loadedCheckpoint (row : RowValues) : Except PyError BatchResultCheckpoint := checkpointFromTuple (selectColumns.map row)

section
variable (store : PostgresBatchResultCheckpointStore)

-- `load_in_transaction` over the rows that the tenant's policy shows.
def PostgresBatchResultCheckpointStore.loadRow (consumerName batchId endpointAlias : PyStr) (rows : List CheckpointRow) :
    Except PyError (Option BatchResultCheckpoint) := do
  let consumer ← validateCheckpointConsumerName (.str consumerName)
  let remoteBatchId ← validatedBatchId batchId
  let endpoint ← validatedExactEndpointAlias endpointAlias
  let _ ← bindText endpoint
  match rows.find? (fun row => store.selects consumer remoteBatchId endpoint row.value) with
  | none => return none
  | some row => some <$> loadedCheckpoint row.value

end

def columnsOf (key : CheckpointKey) (stored : StoredCheckpoint) : RowValues
  | .tenantScope => .text key.tenantScope
  | .checkpointConsumerName => .text key.consumerName
  | .endpointAlias => .text key.endpointAlias
  | .remoteBatchId => .text key.remoteBatchId
  | .schemaVersion => .int stored.schemaVersion
  | .fileKind => .text stored.fileKind
  | .fileId => .text stored.fileId
  | .fileLineNumber => .int stored.fileLineNumber
  | .batchLineCount => .int stored.batchLineCount
  | .recordCount => .int stored.recordCount
  | .prefixSha256 => .text stored.prefixSha256

theorem loadedStored (key : CheckpointKey) (stored : StoredCheckpoint) :
    loadedCheckpoint (columnsOf key stored) = checkpointFromRow key stored := rfl

section
variable {store : PostgresBatchResultCheckpointStore} {consumer : PyStr} {c : BatchResultCheckpoint}

theorem insertedStored : store.insertedValues consumer c = columnsOf (store.keyOf consumer c) (checkpointValues c) := by
  funext column
  cases column <;> rfl

theorem updatedStored {row : RowValues} (selected : store.selects consumer c.batchId c.endpointAlias row = true) :
    store.updatedValues consumer c row = columnsOf (store.keyOf consumer c) (checkpointValues c) := by
  have held : whereHolds row ((store.updateParameters consumer c).drop updateColumns.length) = true := selected
  simp only [PostgresBatchResultCheckpointStore.selects,whereHolds,whereColumns,Bool.and_eq_true] at selected
  simp only [List.zip_cons_cons,List.zip_nil_right,List.all_cons,List.all_nil,Bool.and_true,Bool.and_eq_true,
    beq_iff_eq] at selected
  obtain ⟨-,tenant,named,endpoint,batch⟩ := selected
  unfold PostgresBatchResultCheckpointStore.updatedValues
  rw [if_pos held]
  funext column
  cases column with
  | tenantScope => exact tenant
  | checkpointConsumerName => exact named
  | endpointAlias => exact endpoint
  | remoteBatchId => exact batch
  | schemaVersion | fileKind | fileId | fileLineNumber | batchLineCount | recordCount | prefixSha256 => rfl

theorem storedSelected (stored : StoredCheckpoint) :
    store.selects consumer c.batchId c.endpointAlias (columnsOf (store.keyOf consumer c) stored) = true := by
  simp [PostgresBatchResultCheckpointStore.selects,whereHolds,whereColumns,columnsOf,
    PostgresBatchResultCheckpointStore.keyOf]

end

structure CheckpointFields.Accepted (f : CheckpointFields) : Prop where
  version : f.schemaVersion = checkpointSchemaVersion
  batchId : identifierPattern maxRemoteResourceIdCharacters f.batchId = true
  endpointAlias : validateEndpointAlias (.str f.endpointAlias) = .ok f.endpointAlias
  fileKind : f.fileKind = py "result" ∨ f.fileKind = py "error"
  fileId : identifierPattern maxRemoteResourceIdCharacters f.fileId = true
  lines : 0 < f.fileLineNumber ∧ f.fileLineNumber ≤ f.batchLineCount
  records : 0 < f.recordCount ∧ f.recordCount ≤ f.batchLineCount
  digest : sha256Pattern f.prefixSha256 = true

theorem supportedOk {field : String} {value : PyStr} :
    supportedIdentifier field value = .ok () ↔ identifierPattern maxRemoteResourceIdCharacters value = true := by
  unfold supportedIdentifier
  constructor
  · intro h
    split at h <;> cases h
    rename_i id accepted
    obtain ⟨same,pattern⟩ := validIdentifier accepted
    cases same
    exact pattern
  · intro pattern
    have accepted : validateRemoteResourceId (.str value) field = .ok value := identifierAccepted field pattern
    rw [accepted]

theorem positiveOk {field : String} {value : Int} : strictPositiveInteger field value = .ok () ↔ 0 < value := by
  unfold strictPositiveInteger
  split
  · exact iff_of_false nofun (by omega)
  · exact iff_of_true rfl (by omega)

theorem guardOk {p : Prop} [Decidable p] {e : PyError} {k : Unit → Except PyError Unit} :
    (if p then do let r ← throw e; k r else k ()) = .ok () ↔ ¬p ∧ k () = .ok () := by
  split
  · rename_i holds
    exact iff_of_false nofun (fun both => both.1 holds)
  · rename_i fails
    exact ⟨fun h => ⟨fails,h⟩,fun both => both.2⟩

theorem lastGuardOk {p : Prop} [Decidable p] {e : PyError} :
    (if p then throw e else pure () : Except PyError Unit) = .ok () ↔ ¬p := by
  split
  · rename_i holds
    exact iff_of_false nofun (fun fails => fails holds)
  · rename_i fails
    exact iff_of_true rfl fails

theorem unitOk {x : Except PyError Unit} {q : Prop} : (∃ a, x = .ok a ∧ q) ↔ x = .ok () ∧ q :=
  ⟨fun ⟨_,same,h⟩ => ⟨same,h⟩,fun ⟨same,h⟩ => ⟨(),same,h⟩⟩

theorem postInitOk {f : CheckpointFields} : f.postInit = .ok () ↔ f.Accepted := by
  unfold CheckpointFields.postInit
  simp only [guardOk,lastGuardOk,Fallible.bindOk,unitOk,supportedOk,positiveOk,not_not,not_and_or,not_lt,Bool.not_eq_false]
  constructor
  · rintro ⟨version,batchId,normalized,named,rfl,fileKind,fileId,line,-,record,lines,records,digest⟩
    exact ⟨version,batchId,named,fileKind,fileId,⟨line,lines⟩,⟨record,records⟩,digest⟩
  · intro a
    exact ⟨a.version,a.batchId,f.endpointAlias,a.endpointAlias,rfl,a.fileKind,a.fileId,a.lines.1,
      lt_of_lt_of_le a.lines.1 a.lines.2,a.records.1,a.lines.2,a.records.2,a.digest⟩
theorem checkpointAccepted (c : BatchResultCheckpoint) : c.toCheckpointFields.Accepted := by
  have accepted := c.accepted
  cases checked : c.toCheckpointFields.postInit with
  | ok u => exact postInitOk.mp checked
  | error e =>
    rw [checked] at accepted
    cases accepted

theorem acceptedNew {f : CheckpointFields} (accepted : f.Accepted) :
    ∃ c, BatchResultCheckpoint.new f = .ok c ∧ c.toCheckpointFields = f := by
  have checked : f.postInit.isOk = true := by
    rw [postInitOk.mpr accepted]
    rfl
  exact ⟨⟨f,checked⟩,newAccepted ⟨f,checked⟩,rfl⟩

theorem bigintOk {field name : String} {count : Int} : bigintField field name count = .ok () ↔ count ≤ postgresBigintMax := by
  unfold bigintField
  split
  · exact iff_of_false nofun (by omega)
  · exact iff_of_true rfl (by omega)

theorem validatedOk {c d : BatchResultCheckpoint} {field : String} : validatedCheckpoint c field = .ok d ↔
    c = d ∧ c.fileLineNumber ≤ postgresBigintMax ∧ c.batchLineCount ≤ postgresBigintMax ∧
      c.recordCount ≤ postgresBigintMax := by
  unfold validatedCheckpoint
  simp only [Fallible.bindOk,unitOk,bigintOk]
  constructor
  · rintro ⟨line,lines,records,same⟩
    exact ⟨Except.ok.inj same,line,lines,records⟩
  · rintro ⟨rfl,line,lines,records⟩
    exact ⟨line,lines,records,rfl⟩

theorem sha256Storable {s : PyStr} (h : sha256Pattern s = true) : storable s = true := by
  simp only [sha256Pattern,Bool.and_eq_true] at h
  refine List.all_eq_true.mpr (fun c here => ?_)
  have own := List.all_eq_true.mp h.2 c here
  simp only [PyChar.digit,Bool.or_eq_true,Bool.and_eq_true,decide_eq_true_eq] at own
  have nonzero : c ≠ 0 := by
    rintro rfl
    revert own
    decide
  have low : ¬0xD800 ≤ c.val := by omega
  simp [PyChar.surrogate,low,nonzero]

theorem storableBound {s : PyStr} (h : storable s = true) : bindText s = .ok s := by
  have plain : ∀ c ∈ s, c.surrogate = false := by
    intro c here
    have own := List.all_eq_true.mp h c here
    simp only [Bool.and_eq_true,Bool.not_eq_true'] at own
    exact own.1
  obtain ⟨bytes,encoded⟩ := encodeScalars plain
  unfold bindText
  rw [encoded]
  rfl

-- A valid alias has no NUL, so that only lone surrogates keep it out of a TEXT column.
theorem aliasPlain {s : PyStr} (h : validateEndpointAlias (.str s) = .ok s) :
    s.strip = s ∧ 1 ≤ s.length ∧ s.length ≤ maxEndpointAliasCharacters ∧ ∀ c ∈ s, c ≠ 0 := by
  unfold validateEndpointAlias at h
  simp only [] at h
  split at h
  · cases h
  rename_i accepted
  have trimmed := Except.ok.inj h
  simp only [trimmed,Bool.or_eq_true,not_or,decide_eq_true_eq,not_lt,List.isEmpty_iff] at accepted
  refine ⟨trimmed,List.length_pos_iff.mpr accepted.1.1,accepted.2,fun c here zero => accepted.1.2 ?_⟩
  rw [List.contains_iff_mem]
  rw [zero] at here
  exact here

theorem plainAlias {s : PyStr} (trimmed : s.strip = s) (some_ : 1 ≤ s.length) (short : s.length ≤ maxEndpointAliasCharacters)
    (nonzero : ∀ c ∈ s, c ≠ 0) : validateEndpointAlias (.str s) = .ok s := by
  have accepted : ¬(s.isEmpty || s.contains (chr '\x00') || decide (maxEndpointAliasCharacters < s.length)) = true := by
    simp only [Bool.or_eq_true,not_or,decide_eq_true_eq,not_lt,List.isEmpty_iff,List.contains_iff_mem]
    exact ⟨⟨List.length_pos_iff.mp some_,fun here => nonzero _ here rfl⟩,short⟩
  unfold validateEndpointAlias
  simp only [trimmed,if_neg accepted]

section
variable (store : PostgresBatchResultCheckpointStore) (consumer : PyStr) (c : BatchResultCheckpoint)

-- What is inserted and what is updated is a row of the table, and loading it gives the checkpoint.
structure RowRoundTrip : Prop where
  inserted : ∃ row : CheckpointRow, row.value = store.insertedValues consumer c ∧
    store.loadRow consumer c.batchId c.endpointAlias [row] = .ok (some c)
  updated : ∀ old : CheckpointRow, store.selects consumer c.batchId c.endpointAlias old.value = true →
    ∃ row : CheckpointRow, row.value = store.updatedValues consumer c old.value ∧
      store.loadRow consumer c.batchId c.endpointAlias [row] = .ok (some c)

def ReEncodes (row : CheckpointRow) : Prop :=
  ∃ (store : PostgresBatchResultCheckpointStore) (consumer : PyStr) (c : BatchResultCheckpoint),
    store.loadRow consumer c.batchId c.endpointAlias [row] = .ok (some c) ∧
    validatedCheckpoint c "checkpoint" = .ok c ∧ store.insertedValues consumer c = row.value

variable {store consumer c}

theorem storedTyped (named : validateCheckpointConsumerName (.str consumer) = .ok consumer)
    (fits : validatedCheckpoint c "checkpoint" = .ok c) (text : storable c.endpointAlias = true) (column : CheckpointColumn) :
    (columnsOf (store.keyOf consumer c) (checkpointValues c) column).hasType (columnType column) = true := by
  have own := checkpointAccepted c
  obtain ⟨-,line,lines,records⟩ := validatedOk.mp fits
  have positive := own.lines.1
  have counted := own.records.1
  have batch := lt_of_lt_of_le own.lines.1 own.lines.2
  unfold postgresBigintMax at line lines records
  cases column with
  | tenantScope =>
    have tenant : ∃ t, validateTenantScope (.str store.tenantScope) = .ok t := by
      have accepted := store.accepted
      cases valid : validateTenantScope (.str store.tenantScope) with
      | ok t => exact ⟨t,rfl⟩
      | error e =>
        rw [valid] at accepted
        cases accepted
    obtain ⟨t,valid⟩ := tenant
    obtain ⟨same,pattern⟩ := validIdentifier valid
    cases same
    exact identifierStorable pattern
  | checkpointConsumerName => exact identifierStorable (validIdentifier named).2
  | endpointAlias => exact text
  | remoteBatchId => exact identifierStorable own.batchId
  | schemaVersion =>
    change inInteger c.schemaVersion = true
    rw [own.version]
    decide
  | fileKind =>
    change storable c.fileKind = true
    rcases own.fileKind with kind | kind <;> rw [kind] <;> decide
  | fileId => exact identifierStorable own.fileId
  | fileLineNumber =>
    change inBigint c.fileLineNumber = true
    simp only [inBigint,Bool.and_eq_true,decide_eq_true_eq]
    omega
  | batchLineCount =>
    change inBigint c.batchLineCount = true
    simp only [inBigint,Bool.and_eq_true,decide_eq_true_eq]
    omega
  | recordCount =>
    change inBigint c.recordCount = true
    simp only [inBigint,Bool.and_eq_true,decide_eq_true_eq]
    omega
  | prefixSha256 => exact sha256Storable own.digest

theorem storedChecked (named : validateCheckpointConsumerName (.str consumer) = .ok consumer) :
    rowChecks (columnsOf (store.keyOf consumer c) (checkpointValues c)) = true := by
  have own := checkpointAccepted c
  have plain := aliasPlain own.endpointAlias
  have tenant : identifierPattern maxTenantScopeCharacters store.tenantScope = true := by
    have accepted := store.accepted
    cases valid : validateTenantScope (.str store.tenantScope) with
    | ok t =>
      obtain ⟨same,pattern⟩ := validIdentifier valid
      cases same
      exact pattern
    | error e =>
      rw [valid] at accepted
      cases accepted
  have kind : (c.fileKind == py "result" || c.fileKind == py "error") = true := by
    simpa only [Bool.or_eq_true,beq_iff_eq] using own.fileKind
  unfold rowChecks
  simp only [columnsOf,textCheck,lineCountsCheck,checkpointValues,PostgresBatchResultCheckpointStore.keyOf,Bool.and_eq_true,
    decide_eq_true_eq,beq_iff_eq]
  exact ⟨⟨⟨⟨⟨⟨⟨⟨tenant,(validIdentifier named).2⟩,plain.2.1,plain.2.2.1⟩,own.batchId⟩,congrArg SqlValue.int own.version⟩,kind⟩,
    own.fileId⟩,⟨⟨own.lines.1,own.lines.2⟩,own.records.1⟩,own.records.2⟩,own.digest⟩

theorem loadStored (named : validateCheckpointConsumerName (.str consumer) = .ok consumer)
    (text : storable c.endpointAlias = true) {row : CheckpointRow}
    (stored : row.value = columnsOf (store.keyOf consumer c) (checkpointValues c)) :
    store.loadRow consumer c.batchId c.endpointAlias [row] = .ok (some c) := by
  have own := checkpointAccepted c
  have batch : validatedBatchId c.batchId = .ok c.batchId := by
    have accepted : validateRemoteResourceId (.str c.batchId) "batch_id" = .ok c.batchId := identifierAccepted _ own.batchId
    unfold validatedBatchId
    rw [accepted]
  have endpoint : validatedExactEndpointAlias c.endpointAlias = .ok c.endpointAlias := by
    unfold validatedExactEndpointAlias
    rw [own.endpointAlias]
    exact if_neg (fun other => other rfl)
  have selected : store.selects consumer c.batchId c.endpointAlias row.value = true := by
    rw [stored]
    exact storedSelected _
  have loaded : loadedCheckpoint row.value = .ok c := by
    rw [stored,loadedStored]
    exact newAccepted c
  unfold PostgresBatchResultCheckpointStore.loadRow
  simp only [bind,Except.bind,named,batch,endpoint,storableBound text,List.find?_cons,selected,loaded]
  rfl

theorem codecHolds (named : validateCheckpointConsumerName (.str consumer) = .ok consumer)
    (fits : validatedCheckpoint c "checkpoint" = .ok c) :
    RowRoundTrip store consumer c ↔ storable c.endpointAlias = true := by
  constructor
  · intro codec
    obtain ⟨row,written,-⟩ := codec.inserted
    have typed := row.typed .endpointAlias
    rw [written,insertedStored] at typed
    exact typed
  · intro text
    let row : CheckpointRow := ⟨columnsOf (store.keyOf consumer c) (checkpointValues c),storedTyped named fits text,storedChecked named⟩
    exact ⟨⟨row,insertedStored.symm,loadStored named text rfl⟩,fun old selected =>
      ⟨row,(updatedStored selected).symm,loadStored named text rfl⟩⟩

end

theorem textColumn {v : SqlValue} (typed : v.hasType .text = true) : ∃ s, v = .text s ∧ storable s = true := by
  cases v with
  | text s => exact ⟨s,rfl,typed⟩
  | null => cases typed
  | int n => cases typed

theorem integerColumn {v : SqlValue} (typed : v.hasType .integer = true) : ∃ n, v = .int n := by
  cases v with
  | int n => exact ⟨n,rfl⟩
  | null => cases typed
  | text s => cases typed

theorem bigintColumn {v : SqlValue} (typed : v.hasType .bigint = true) : ∃ n, v = .int n ∧ n ≤ postgresBigintMax := by
  cases v with
  | int n =>
    simp only [SqlValue.hasType,inBigint,Bool.and_eq_true,decide_eq_true_eq] at typed
    exact ⟨n,rfl,by unfold postgresBigintMax; omega⟩
  | null => cases typed
  | text s => cases typed

structure StoredRow (row : CheckpointRow) (key : CheckpointKey) (stored : StoredCheckpoint) : Prop where
  values : row.value = columnsOf key stored
  tenant : identifierPattern maxTenantScopeCharacters key.tenantScope = true
  named : identifierPattern maxCheckpointConsumerCharacters key.consumerName = true
  text : storable key.endpointAlias = true
  length : 1 ≤ key.endpointAlias.length ∧ key.endpointAlias.length ≤ maxEndpointAliasCharacters
  batchId : identifierPattern maxRemoteResourceIdCharacters key.remoteBatchId = true
  version : stored.schemaVersion = 1
  kind : stored.fileKind = py "result" ∨ stored.fileKind = py "error"
  fileId : identifierPattern maxRemoteResourceIdCharacters stored.fileId = true
  lines : 0 < stored.fileLineNumber ∧ stored.fileLineNumber ≤ stored.batchLineCount
  records : 0 < stored.recordCount ∧ stored.recordCount ≤ stored.batchLineCount
  digest : sha256Pattern stored.prefixSha256 = true
  bigint : stored.fileLineNumber ≤ postgresBigintMax ∧ stored.batchLineCount ≤ postgresBigintMax ∧
    stored.recordCount ≤ postgresBigintMax

theorem rowStored (row : CheckpointRow) : ∃ key stored, StoredRow row key stored := by
  obtain ⟨tenant,tenantValue,-⟩ := textColumn (row.typed .tenantScope)
  obtain ⟨consumer,consumerValue,-⟩ := textColumn (row.typed .checkpointConsumerName)
  obtain ⟨endpoint,endpointValue,text⟩ := textColumn (row.typed .endpointAlias)
  obtain ⟨batch,batchValue,-⟩ := textColumn (row.typed .remoteBatchId)
  obtain ⟨version,versionValue⟩ := integerColumn (row.typed .schemaVersion)
  obtain ⟨kind,kindValue,-⟩ := textColumn (row.typed .fileKind)
  obtain ⟨file,fileValue,-⟩ := textColumn (row.typed .fileId)
  obtain ⟨line,lineValue,lineMax⟩ := bigintColumn (row.typed .fileLineNumber)
  obtain ⟨lines,linesValue,linesMax⟩ := bigintColumn (row.typed .batchLineCount)
  obtain ⟨records,recordsValue,recordsMax⟩ := bigintColumn (row.typed .recordCount)
  obtain ⟨digest,digestValue,-⟩ := textColumn (row.typed .prefixSha256)
  have values : row.value = columnsOf ⟨tenant,consumer,endpoint,batch⟩ ⟨version,kind,file,line,lines,records,digest⟩ := by
    funext column
    cases column <;> assumption
  have checked := row.checked
  rw [values] at checked
  unfold rowChecks at checked
  simp only [columnsOf,textCheck,lineCountsCheck,Bool.and_eq_true,Bool.or_eq_true,decide_eq_true_eq,beq_iff_eq] at checked
  obtain ⟨⟨⟨⟨⟨⟨⟨⟨tenantOk,consumerOk⟩,lengthOk⟩,batchOk⟩,versionOk⟩,kindOk⟩,fileOk⟩,⟨⟨lineOk,linesOk⟩,recordOk⟩,recordsOk⟩,
    digestOk⟩ := checked
  exact ⟨_,_,{
    values := values
    tenant := tenantOk
    named := consumerOk
    text := text
    length := lengthOk
    batchId := batchOk
    version := SqlValue.int.inj versionOk
    kind := kindOk
    fileId := fileOk
    lines := ⟨lineOk,linesOk⟩
    records := ⟨recordOk,recordsOk⟩
    digest := digestOk
    bigint := ⟨lineMax,linesMax,recordsMax⟩ }⟩

def TrimmedAlias (row : CheckpointRow) : Prop :=
  ∀ s, row.value .endpointAlias = .text s → s.strip = s ∧ ∀ c ∈ s, c ≠ 0

theorem rowReEncodes {row : CheckpointRow} (trimmed : TrimmedAlias row) : ReEncodes row := by
  obtain ⟨key,stored,own⟩ := rowStored row
  have aliasValue : row.value .endpointAlias = .text key.endpointAlias := congrFun own.values .endpointAlias
  obtain ⟨stripped,nonzero⟩ := trimmed _ aliasValue
  have endpoint := plainAlias stripped own.length.1 own.length.2 nonzero
  have tenant : validateTenantScope (.str key.tenantScope) = .ok key.tenantScope := identifierAccepted _ own.tenant
  have named : validateCheckpointConsumerName (.str key.consumerName) = .ok key.consumerName := identifierAccepted _ own.named
  let store : PostgresBatchResultCheckpointStore := ⟨key.tenantScope,by rw [tenant]; rfl⟩
  obtain ⟨c,made,fields⟩ := @acceptedNew ⟨stored.schemaVersion,key.remoteBatchId,key.endpointAlias,stored.fileKind,
    stored.fileId,stored.fileLineNumber,stored.batchLineCount,stored.recordCount,stored.prefixSha256⟩
    ⟨own.version,own.batchId,endpoint,own.kind,own.fileId,own.lines,own.records,own.digest⟩
  obtain ⟨f,accepted⟩ := c
  cases fields
  refine ⟨store,key.consumerName,⟨_,accepted⟩,loadStored named own.text own.values,validatedOk.mpr ⟨rfl,own.bigint⟩,?_⟩
  rw [insertedStored]
  exact own.values.symm

/-- A checkpoint that the store accepts is written as a row of the table and read back as itself exactly when its
alias has no lone surrogate, and every row with a trimmed alias loads and is written as it is. -/
theorem checkpointCodec (store : PostgresBatchResultCheckpointStore) (consumer : PyStr) (c : BatchResultCheckpoint)
    (named : validateCheckpointConsumerName (.str consumer) = .ok consumer)
    (fits : validatedCheckpoint c "checkpoint" = .ok c) :
    (RowRoundTrip store consumer c ↔ storable c.endpointAlias = true) ∧ ∀ row, TrimmedAlias row → ReEncodes row :=
  ⟨codecHolds named fits,fun _ => rowReEncodes⟩

def sampleCheckpoint (endpointAlias : PyStr) : CheckpointFields :=
  ⟨1,py "batch-1",endpointAlias,py "result",py "file-1",3,4,2,List.replicate 64 (chr 'a')⟩

def defaultScopeStore : PostgresBatchResultCheckpointStore := ⟨defaultTenantScope,defaultScopeAccepted⟩

theorem checkpointCodecSample : ∃ c : BatchResultCheckpoint, c.toCheckpointFields = sampleCheckpoint (py "gateway") ∧
    RowRoundTrip defaultScopeStore (py "importer") c := by
  refine ⟨⟨sampleCheckpoint (py "gateway"),by decide⟩,rfl,?_⟩
  exact (checkpointCodec defaultScopeStore (py "importer") ⟨sampleCheckpoint (py "gateway"),by decide⟩
    (identifierAccepted _ (by decide)) (validatedOk.mpr (by decide))).1.mpr (by decide)

theorem loneSurrogateUnstored : ∃ c : BatchResultCheckpoint, c.toCheckpointFields = sampleCheckpoint [0xD800] ∧
    validatedCheckpoint c "checkpoint" = .ok c ∧ ¬RowRoundTrip defaultScopeStore (py "importer") c := by
  refine ⟨⟨sampleCheckpoint [0xD800],by decide⟩,rfl,validatedOk.mpr (by decide),fun codec => ?_⟩
  have text := (codecHolds (identifierAccepted _ (by decide)) (validatedOk.mpr (by decide))).mp codec
  revert text
  decide

end PgLlmBatch
