import PgLlmBatch.Base.Table
import PgLlmBatch.Inspection

/-! Restore acceptance: the check of the catalog rows that a restored server returned, which come in
any order and are only looked at when each is of the expected form. -/
namespace PgLlmBatch.RestoreAcceptance
open Base
open Base.Table (find)

def requiredTables : List PyStr :=
  [py "com_config",py "com_secrets",py "llm_queues",py "llm_batches",py "llm_remote_batch_jobs",
    py "llm_batch_file_payloads",py "llm_batch_files",py "llm_requests",py "llm_jsonl_lines",py "llm_endpoints",
    py "llm_endpoint_models"]

def statusIndex : PyStr := py "idx_llm_remote_batch_jobs_tenant_status_observed"
def identityIndex : PyStr := py "uq_llm_remote_batch_jobs_tenant_endpoint_id"
def requiredIndexes : List PyStr := [statusIndex,identityIndex]
def lifecycleTable : PyStr := py "llm_remote_batch_jobs"
def checkpointTable : PyStr := py "llm_result_stream_checkpoints"
def relationNames : List PyStr := requiredTables ++ requiredIndexes ++ [checkpointTable]
def relationKinds : List PyStr := [py "r",py "i"]
def maxCatalogRows : Nat := 16

inductive Cell where
  | text (s : PyStr)
  | bool (b : Bool)
  | other

inductive FetchedRow where
  | tuple (cells : List Cell)
  | other

inductive Fetched where
  | list (rows : List FetchedRow)
  | other

inductive AcceptanceError where
  | acceptance (message : String)
  | schema (e : RecoveryError)
  deriving DecidableEq

def invalidCatalog : AcceptanceError := .acceptance "PostgreSQL restore catalog evidence is invalid"
def incomplete : AcceptanceError := .acceptance "PostgreSQL restore catalog is incomplete"
def notIsolated : AcceptanceError := .acceptance "PostgreSQL restore catalog failed tenant isolation checks"
def notInspected : AcceptanceError := .acceptance "PostgreSQL restore catalog could not be inspected"

structure Evidence where
  requiredTableCount : Nat
  requiredIndexCount : Nat
  lifecycleRlsEnabled : Bool
  lifecycleRlsForced : Bool
  checkpointStorePresent : Bool
  checkpointStoreRlsForced : Bool
  expectedSchemaSha256 : PyStr
  expectedSchemaSizeBytes : Int
  deriving DecidableEq

structure Relation where
  name : PyStr
  isTable : Bool
  rowSecurity : Bool
  forceRowSecurity : Bool

def readRelation : FetchedRow → Option Relation
  | .tuple [.text name,.text kind,.bool rowSecurity,.bool forceRowSecurity] =>
      if name ∈ relationNames ∧ kind ∈ relationKinds then some ⟨name,kind == py "r",rowSecurity,forceRowSecurity⟩
      else none
  | _ => none

structure Scan where
  tables : List (PyStr × Bool × Bool) := []
  indexes : List PyStr := []

namespace Scan

def table? (s : Scan) (name : PyStr) : Option (Bool × Bool) := (find Prod.fst s.tables name).map Prod.snd

def add (s : Scan) (r : Relation) : Except AcceptanceError Scan :=
  if r.isTable then
    if (s.table? r.name).isSome then .error invalidCatalog
    else .ok {s with tables := s.tables ++ [(r.name,r.rowSecurity,r.forceRowSecurity)]}
  else if r.name ∈ s.indexes then .error invalidCatalog
  else .ok {s with indexes := s.indexes ++ [r.name]}

def rows (s : Scan) : List FetchedRow → Except AcceptanceError Scan
  | [] => .ok s
  | row::rest => match readRelation row with
      | none => .error invalidCatalog
      | some r => s.add r >>= fun s => s.rows rest

end Scan

def secured (security : Bool × Bool) : Bool := security.1 && security.2

def evaluateScan (schema : Except RecoveryError InspectionEvidence) (s : Scan) : Except AcceptanceError Evidence := do
  if requiredTables.any (fun name => (s.table? name).isNone) then throw incomplete
  if requiredIndexes.any (fun name => decide (name ∉ s.indexes)) then throw incomplete
  let lifecycle := (s.table? lifecycleTable).getD (false,false)
  if !secured lifecycle then throw notIsolated
  let checkpoint := s.table? checkpointTable
  if !checkpoint.all secured then throw notIsolated
  let evidence ← schema.mapError .schema
  return ⟨requiredTables.length,requiredIndexes.length,lifecycle.1,lifecycle.2,checkpoint.isSome,
    (checkpoint.getD (false,false)).2,evidence.sha256,evidence.sizeBytes⟩

def evaluateCatalogRows (schema : Except RecoveryError InspectionEvidence) (fetched : Fetched) :
    Except AcceptanceError Evidence :=
  match fetched with
  | .other => .error invalidCatalog
  | .list rows =>
      if maxCatalogRows < rows.length then .error invalidCatalog
      else Scan.rows {} rows >>= evaluateScan schema

-- `fetched` is what the caller's cursor returned, nothing where it raised.
def inspectPostgresRestoreCatalog (schema : Except RecoveryError InspectionEvidence) (fetched : Option Fetched) :
    Except AcceptanceError Evidence :=
  match fetched with
  | none => .error notInspected
  | some fetched => evaluateCatalogRows schema fetched

def Relation.key (r : Relation) : Bool × PyStr := (r.isTable,r.name)
def Relation.security (r : Relation) : Bool × Bool := (r.rowSecurity,r.forceRowSecurity)

def scanOf (rs : List Relation) : Scan :=
  ⟨(rs.filter Relation.isTable).map (fun r => (r.name,r.security)),(rs.filter (fun r => !r.isTable)).map Relation.name⟩

def Has (rs : List Relation) (isTable : Bool) (name : PyStr) : Prop := ∃ r ∈ rs, r.key = (isTable,name)

-- What the check asks of the rows: each has the form of a row, and no relation occurs twice.
structure WellFormed (rows : List FetchedRow) (rs : List Relation) : Prop where
  read : List.Forall₂ (fun row r => readRelation row = some r) rows rs
  distinct : (rs.map Relation.key).Nodup

section
variable {rs : List Relation}

theorem tableFound {name : PyStr} {security : Bool × Bool} (h : (scanOf rs).table? name = some security) :
    ∃ r ∈ rs, r.key = (true,name) ∧ r.security = security := by
  obtain ⟨⟨named,own⟩,found,rfl⟩ := Option.map_eq_some_iff.mp h
  obtain ⟨r,here,same⟩ := List.mem_map.mp (Table.findMember found)
  obtain ⟨listed,table⟩ := List.mem_filter.mp here
  cases same
  exact ⟨r,listed,by rw [Relation.key,table,← Table.findKey found],rfl⟩

theorem tableMissing {name : PyStr} : (scanOf rs).table? name = none ↔ ¬Has rs true name := by
  rw [Scan.table?,Option.map_eq_none_iff,Table.findNone]
  constructor
  · rintro none_ ⟨r,listed,key⟩
    obtain ⟨table,named⟩ := Prod.mk.inj key
    exact none_ _ (List.mem_map_of_mem (List.mem_filter.mpr ⟨listed,table⟩)) named
  · intro missing entry here named
    obtain ⟨r,inside,rfl⟩ := List.mem_map.mp here
    obtain ⟨listed,table⟩ := List.mem_filter.mp inside
    exact missing ⟨r,listed,by rw [Relation.key,table]; exact congrArg (Prod.mk true) named⟩

theorem indexFound {name : PyStr} : name ∈ (scanOf rs).indexes ↔ Has rs false name := by
  simp only [scanOf,List.mem_map,List.mem_filter,Has,Relation.key,Prod.mk.injEq,Bool.not_eq_true',and_assoc]

theorem scanAdd (r : Relation) : (scanOf rs).add r =
    if r.key ∈ rs.map Relation.key then .error invalidCatalog else .ok (scanOf (rs ++ [r])) := by
  have seen : r.key ∈ rs.map Relation.key ↔ Has rs r.isTable r.name := by
    rw [List.mem_map]
    rfl
  unfold Scan.add
  cases table : r.isTable with
  | true =>
    rw [table] at seen
    have known : ((scanOf rs).table? r.name).isSome = true ↔ r.key ∈ rs.map Relation.key := by
      rw [seen,Option.isSome_iff_ne_none,Ne,tableMissing,not_not]
    rw [if_pos rfl]
    split
    · rename_i yes
      rw [if_pos (known.mp yes)]
    · rename_i no
      rw [if_neg (fun here => no (known.mpr here))]
      simp [scanOf,table,Relation.security]
  | false =>
    rw [table] at seen
    rw [if_neg (by simp)]
    split
    · rename_i yes
      rw [if_pos (seen.mpr (indexFound.mp yes))]
    · rename_i no
      rw [if_neg (fun here => no (indexFound.mpr (seen.mp here)))]
      simp [scanOf,table]

end

theorem scanAccepted {done : List Relation} (distinct : (done.map Relation.key).Nodup) {rows : List FetchedRow} {s : Scan} :
    (scanOf done).rows rows = .ok s ↔ ∃ rs, List.Forall₂ (fun row r => readRelation row = some r) rows rs ∧
      ((done ++ rs).map Relation.key).Nodup ∧ s = scanOf (done ++ rs) := by
  induction rows generalizing done with
  | nil =>
    constructor
    · intro h
      cases h
      exact ⟨[],.nil,by simpa using distinct,by rw [List.append_nil]⟩
    · rintro ⟨rs,read,-,rfl⟩
      cases read
      rw [List.append_nil]
      rfl
  | cons row rows ih =>
    unfold Scan.rows
    cases read : readRelation row with
    | none =>
      constructor
      · intro h
        cases h
      · rintro ⟨rs,each,-⟩
        cases each with
        | cons first _ => cases read.symm.trans first
    | some r =>
      dsimp only
      rw [scanAdd]
      by_cases again : r.key ∈ done.map Relation.key
      · rw [if_pos again]
        constructor
        · intro h
          cases h
        · rintro ⟨rs,each,distinct',-⟩
          cases each with
          | cons first _ =>
            cases read.symm.trans first
            rw [List.map_append,List.nodup_append] at distinct'
            exact absurd rfl (distinct'.2.2 _ again _ List.mem_cons_self)
      · rw [if_neg again]
        have more : ((done ++ [r]).map Relation.key).Nodup := by
          rw [List.map_append,List.map_singleton,List.nodup_append]
          exact ⟨distinct,List.nodup_singleton _,fun a old b new => by
            rw [List.mem_singleton.mp new]
            rintro rfl
            exact again old⟩
        refine (ih more).trans ?_
        constructor
        · rintro ⟨rs,each,distinct',same⟩
          rw [List.append_assoc] at distinct' same
          exact ⟨r::rs,.cons read each,distinct',same⟩
        · rintro ⟨rs,each,distinct',same⟩
          cases each with
          | cons first rest =>
            rename_i r' rs
            cases read.symm.trans first
            refine ⟨rs,rest,?_,?_⟩ <;> rw [List.append_assoc]
            · exact distinct'
            · exact same

theorem scanRejected {s : Scan} {rows : List FetchedRow} {e : AcceptanceError} (h : s.rows rows = .error e) :
    e = invalidCatalog := by
  induction rows generalizing s with
  | nil => cases h
  | cons row rows ih =>
    unfold Scan.rows at h
    split at h
    · cases h
      rfl
    · rename_i r _
      cases added : s.add r with
      | ok s' =>
        rw [added] at h
        exact ih h
      | error e' =>
        rw [added] at h
        cases h
        unfold Scan.add at added
        split at added <;> split at added <;> cases added <;> rfl

structure Required (rs : List Relation) : Prop where
  tables : ∀ name ∈ requiredTables, Has rs true name
  indexes : ∀ name ∈ requiredIndexes, Has rs false name

def Secured (rs : List Relation) : Prop :=
  ∀ r ∈ rs, r.key = (true,lifecycleTable) ∨ r.key = (true,checkpointTable) → r.security = (true,true)

def acceptedEvidence (present : Bool) (schema : InspectionEvidence) : Evidence where
  requiredTableCount := 11
  requiredIndexCount := 2
  lifecycleRlsEnabled := true
  lifecycleRlsForced := true
  checkpointStorePresent := present
  checkpointStoreRlsForced := present
  expectedSchemaSha256 := schema.sha256
  expectedSchemaSizeBytes := schema.sizeBytes

section
variable {rows : List FetchedRow} {rs : List Relation} {schema : Except RecoveryError InspectionEvidence}

theorem malformedRejected (h : ¬(rows.length ≤ maxCatalogRows ∧ ∃ rs, WellFormed rows rs)) :
    evaluateCatalogRows schema (.list rows) = .error invalidCatalog := by
  unfold evaluateCatalogRows
  dsimp only
  split
  · rfl
  · rename_i fits
    cases scan : Scan.rows {} rows with
    | error e => rw [scanRejected scan]; rfl
    | ok s =>
      obtain ⟨rs,read,distinct,-⟩ := (@scanAccepted [] List.nodup_nil rows _).mp scan
      exact absurd ⟨by omega,rs,read,distinct⟩ h

variable (size : rows.length ≤ maxCatalogRows) (formed : WellFormed rows rs)
include size formed

theorem scanned : evaluateCatalogRows schema (.list rows) = evaluateScan schema (scanOf rs) := by
  have scan : Scan.rows {} rows = .ok (scanOf rs) :=
    (@scanAccepted [] List.nodup_nil rows _).mpr ⟨rs,formed.read,formed.distinct,rfl⟩
  unfold evaluateCatalogRows
  dsimp only
  rw [if_neg (by omega),scan]
  rfl

theorem missingRejected (missing : ¬Required rs) : evaluateCatalogRows schema (.list rows) = .error incomplete := by
  rw [scanned size formed,evaluateScan]
  split
  · rfl
  rename_i tables
  split
  · rfl
  rename_i indexes
  refine absurd ⟨fun name here => ?_,fun name here => ?_⟩ missing
  · by_contra none_
    refine tables (List.any_eq_true.mpr ⟨name,here,?_⟩)
    rw [tableMissing.mpr none_]
    rfl
  · by_contra none_
    exact indexes (List.any_eq_true.mpr ⟨name,here,decide_eq_true (fun found => none_ (indexFound.mp found))⟩)

omit size in
theorem tableKept {r : Relation} (listed : r ∈ rs) {name : PyStr} (key : r.key = (true,name)) :
    (scanOf rs).table? name = some r.security := by
  cases found : (scanOf rs).table? name with
  | none => exact absurd ⟨r,listed,key⟩ (tableMissing.mp found)
  | some security =>
    obtain ⟨r',listed',key',rfl⟩ := tableFound found
    rw [List.inj_on_of_nodup_map formed.distinct listed' listed (key'.trans key.symm)]

variable (required : Required rs)
include required

omit size formed in
theorem requiredPresent : requiredTables.any (fun name => ((scanOf rs).table? name).isNone) = false ∧
    requiredIndexes.any (fun name => decide (name ∉ (scanOf rs).indexes)) = false := by
  constructor
  · refine List.any_eq_false.mpr (fun name here none_ => ?_)
    exact tableMissing.mp (Option.isNone_iff_eq_none.mp none_) (required.tables name here)
  · refine List.any_eq_false.mpr (fun name here none_ => ?_)
    exact of_decide_eq_true none_ (indexFound.mpr (required.indexes name here))

omit size in
theorem lifecycleFound : ∃ r ∈ rs, r.key = (true,lifecycleTable) ∧ (scanOf rs).table? lifecycleTable = some r.security := by
  obtain ⟨r,listed,key⟩ := required.tables lifecycleTable (by decide)
  exact ⟨r,listed,key,tableKept formed listed key⟩

theorem exposedRejected (exposed : ¬Secured rs) : evaluateCatalogRows schema (.list rows) = .error notIsolated := by
  obtain ⟨tables,indexes⟩ := requiredPresent required
  obtain ⟨r,listed,key,lifecycle⟩ := lifecycleFound formed required
  rw [scanned size formed,evaluateScan,tables,indexes,lifecycle]
  simp only [Bool.false_eq_true,if_false,Option.getD_some]
  by_cases open_ : secured r.security = true
  · have checkpoint : ((scanOf rs).table? checkpointTable).all secured = false := by
      by_contra closed
      refine exposed (fun r' listed' which => ?_)
      have own : secured r'.security = true := by
        rcases which with first | second
        · rw [List.inj_on_of_nodup_map formed.distinct listed' listed (first.trans key.symm)]
          exact open_
        · simpa [tableKept formed listed' second] using closed
      simp only [secured,Bool.and_eq_true] at own
      exact Prod.ext own.1 own.2
    rw [open_,checkpoint]
    rfl
  · rw [Bool.not_eq_true] at open_
    rw [open_]
    rfl

theorem securedAccepted (closed : Secured rs) : ∃ present : Bool, (present = true ↔ Has rs true checkpointTable) ∧
    evaluateCatalogRows schema (.list rows) = (schema.mapError .schema).map (acceptedEvidence present) := by
  obtain ⟨tables,indexes⟩ := requiredPresent required
  obtain ⟨r,listed,key,lifecycle⟩ := lifecycleFound formed required
  have own := closed r listed (.inl key)
  rw [scanned size formed,evaluateScan,tables,indexes,lifecycle,own]
  cases found : (scanOf rs).table? checkpointTable with
  | none =>
    refine ⟨false,?_,?_⟩
    · simpa using tableMissing.mp found
    · cases schema <;> rfl
  | some security =>
    obtain ⟨r',listed',key',rfl⟩ := tableFound found
    rw [closed r' listed' (.inr key')]
    refine ⟨true,?_,?_⟩
    · simpa using ⟨r',listed',key'⟩
    · cases schema <;> rfl

end

end PgLlmBatch.RestoreAcceptance
