import PgLlmBatch.RemoteBatchLifecycle

/-! The block of the schema that migrates `llm_remote_batch_jobs`: one statement that either runs
to its end or leaves the table as it was, on tables of any age. -/
namespace PgLlmBatch
open Base

-- A row of any age; a column that the table does not have yet reads NULL in every row.
structure LegacyColumns where
  tenantScope : Option PyStr
  endpointAlias : PyStr
  remoteBatchId : PyStr
  observationOrder : Int
  inputFileId : Option PyStr
  batchEndpoint : Option BatchEndpoint
  batchStatus : BatchStatus
  outputFileId : Option PyStr
  errorFileId : Option PyStr
  totalRequests : Int
  totalRequestsKnown : Option Bool
  completedRequests : Int
  failedRequests : Int
  providerMetadata : Json
  firstSeenAt : Int
  lastObservedAt : Int
  terminalAt : Option Int
  updatedAt : Int

def LegacyColumns.columns (c : LegacyColumns) (scope : PyStr) (known : Bool) : JobColumns where
  tenantScope := scope
  endpointAlias := c.endpointAlias
  remoteBatchId := c.remoteBatchId
  observationOrder := c.observationOrder
  inputFileId := c.inputFileId
  batchEndpoint := c.batchEndpoint
  batchStatus := c.batchStatus
  outputFileId := c.outputFileId
  errorFileId := c.errorFileId
  totalRequests := c.totalRequests
  totalRequestsKnown := known
  completedRequests := c.completedRequests
  failedRequests := c.failedRequests
  providerMetadata := c.providerMetadata
  firstSeenAt := c.firstSeenAt
  lastObservedAt := c.lastObservedAt
  terminalAt := c.terminalAt
  updatedAt := c.updatedAt

-- The column constraints, which do not look at the two migrated columns.
def LegacyColumns.otherChecks (c : LegacyColumns) : Bool := (c.columns defaultTenantScope false).checks

structure LegacyRow extends LegacyColumns where
  checked : toLegacyColumns.otherChecks = true

theorem standaloneScope : identifierPattern maxTenantScopeCharacters defaultTenantScope = true := by decide

namespace LegacyRow

def columnsOf (job : RemoteBatchJob) : LegacyColumns where
  tenantScope := some job.tenantScope
  endpointAlias := job.endpointAlias
  remoteBatchId := job.remoteBatchId
  observationOrder := job.observationOrder
  inputFileId := job.inputFileId
  batchEndpoint := job.batchEndpoint
  batchStatus := job.batchStatus
  outputFileId := job.outputFileId
  errorFileId := job.errorFileId
  totalRequests := job.totalRequests
  totalRequestsKnown := some job.totalRequestsKnown
  completedRequests := job.completedRequests
  failedRequests := job.failedRequests
  providerMetadata := job.providerMetadata
  firstSeenAt := job.firstSeenAt
  lastObservedAt := job.lastObservedAt
  terminalAt := job.terminalAt
  updatedAt := job.updatedAt

theorem otherChecked (job : RemoteBatchJob) : (columnsOf job).otherChecks = true := by
  have own := (checksMet _).mp job.checked
  exact (checksMet _).mpr ⟨standaloneScope,own.endpointAlias,own.batchId,own.order,own.inputFile,own.outputFile,own.errorFile,
    own.total,own.completed,own.failed,nofun⟩

def ofJob (job : RemoteBatchJob) : LegacyRow := ⟨columnsOf job,otherChecked job⟩

def legacyKey (r : LegacyRow) : PyStr × PyStr := (r.endpointAlias,r.remoteBatchId)
def tenantKey (r : LegacyRow) : Option PyStr × PyStr × PyStr := (r.tenantScope,r.endpointAlias,r.remoteBatchId)

-- A CHECK that evaluates to NULL passes.
def scopeHolds (r : LegacyRow) : Bool :=
  match r.tenantScope with
  | none => true
  | some scope => identifierPattern maxTenantScopeCharacters scope

def withinTotal (r : LegacyRow) : Bool := decide (r.completedRequests + r.failedRequests ≤ r.totalRequests)

def progressHolds (r : LegacyRow) : Bool :=
  match r.totalRequestsKnown with
  | none => true
  | some known => !known || r.withinTotal

-- `(total_requests_known IS TRUE OR total_requests > 0) AND completed + failed > total`
def inconsistent (r : LegacyRow) : Bool :=
  (r.totalRequestsKnown == some true || decide (0 < r.totalRequests)) && !r.withinTotal

def setScope (scope : PyStr) (r : LegacyRow) : LegacyRow := {r with tenantScope := some scope,checked := r.checked}
def setKnown (r : LegacyRow) : LegacyRow :=
  {r with totalRequestsKnown := some (decide (0 < r.totalRequests)),checked := r.checked}

end LegacyRow

inductive ConstraintState where | absent | notValid | validated
  deriving DecidableEq, Repr

structure JobsTable where
  rows : List LegacyRow
  scopeCheck : ConstraintState
  progressCheck : ConstraintState
  legacyUnique : Bool
  tenantUnique : Bool
  rowSecurity : Bool
  forced : Bool

namespace JobsTable

-- Forced row security shows a session without a tenant scope no row, the owner's session too.
def shows (t : JobsTable) : Bool := !(t.rowSecurity && t.forced)

def unique (rows : List LegacyRow) : Bool := decide (rows.map LegacyRow.tenantKey).Nodup

-- A constraint that is not validated yet still holds of every row that is written.
def admits (t : JobsTable) (r : LegacyRow) : Bool :=
  (t.scopeCheck == .absent || r.scopeHolds) && (t.progressCheck == .absent || r.progressHolds)

def update (t : JobsTable) (matched : LegacyRow → Bool) (set : LegacyRow → LegacyRow) : Except PyError JobsTable :=
  let written := fun r => t.shows && matched r
  let rows := t.rows.map (fun r => if written r then set r else r)
  if (t.rows.filter written).all (fun r => t.admits (set r)) then
    if t.tenantUnique && !unique rows then .error (.database "23505") else .ok {t with rows := rows}
  else .error (.database "23514")

def setNotNull (t : JobsTable) (present : LegacyRow → Bool) : Except PyError JobsTable :=
  if t.rows.all present then .ok t else .error (.database "23502")

def validate (t : JobsTable) (holds : LegacyRow → Bool) : Except PyError Unit :=
  if t.rows.all holds then .ok () else .error (.database "23514")

def checkConsistent (t : JobsTable) : Except PyError Unit :=
  if t.shows && t.rows.any LegacyRow.inconsistent then .error (.database "23514") else .ok ()

def addCheck : ConstraintState → ConstraintState
  | .absent => .notValid
  | state => state

def validateScope (t : JobsTable) : Except PyError JobsTable := do
  let state := addCheck t.scopeCheck
  if state = .notValid then t.validate LegacyRow.scopeHolds
  return {t with scopeCheck := .validated}

def validateProgress (t : JobsTable) : Except PyError JobsTable := do
  let state := addCheck t.progressCheck
  if state = .notValid then t.validate LegacyRow.progressHolds
  return {t with progressCheck := .validated}

def addUnique (t : JobsTable) : Except PyError JobsTable :=
  if t.tenantUnique then .ok t
  else if unique t.rows then .ok {t with tenantUnique := true} else .error (.database "23505")

def block (t : JobsTable) : Except PyError JobsTable := do
  let t ← {t with forced := false}.update (fun r => r.tenantScope.isNone) (LegacyRow.setScope defaultTenantScope)
  let t ← t.setNotNull (fun r => r.tenantScope.isSome)
  t.checkConsistent
  let t ← t.update (fun r => r.totalRequestsKnown.isNone) LegacyRow.setKnown
  let t ← t.setNotNull (fun r => r.totalRequestsKnown.isSome)
  let t ← {t with legacyUnique := false}.validateScope
  let t ← t.validateProgress
  let t ← t.addUnique
  return {t with rowSecurity := true,forced := true}

-- A statement that fails is rolled back.
def reapply (t : JobsTable) : Except PyError Unit × JobsTable :=
  match t.block with
  | .ok t' => (.ok (),t')
  | .error e => (.error e,t)

def ofJobs (jobs : List RemoteBatchJob) : JobsTable where
  rows := jobs.map LegacyRow.ofJob
  scopeCheck := .validated
  progressCheck := .validated
  legacyUnique := false
  tenantUnique := true
  rowSecurity := true
  forced := true

def Refused (t : JobsTable) : Prop := ∃ r ∈ t.rows, r.inconsistent = true ∨ r.scopeHolds = false

def Honest (t : JobsTable) : Prop := t.scopeCheck = .validated → ∀ r ∈ t.rows, r.scopeHolds = true

def withScope (r : LegacyRow) : LegacyRow := if r.tenantScope.isNone then r.setScope defaultTenantScope else r
def withKnown (r : LegacyRow) : LegacyRow := if r.totalRequestsKnown.isNone then r.setKnown else r
def filled (r : LegacyRow) : LegacyRow := withKnown (withScope r)

def finished (t : JobsTable) : JobsTable where
  rows := t.rows.map filled
  scopeCheck := .validated
  progressCheck := .validated
  legacyUnique := false
  tenantUnique := true
  rowSecurity := true
  forced := true

theorem updated {t : JobsTable} {matched : LegacyRow → Bool} {set : LegacyRow → LegacyRow} (shown : t.shows = true)
    (admitted : ∀ r ∈ t.rows, matched r = true → t.admits (set r) = true)
    (distinct : unique (t.rows.map (fun r => if matched r then set r else r)) = true) :
    t.update matched set = .ok {t with rows := t.rows.map (fun r => if matched r then set r else r)} := by
  have all : (t.rows.filter matched).all (fun r => t.admits (set r)) = true := by
    refine List.all_eq_true.mpr (fun r here => ?_)
    obtain ⟨member,matches_⟩ := List.mem_filter.mp here
    exact admitted r member matches_
  unfold update
  simp only [shown,Bool.true_and,all,distinct,Bool.not_true,Bool.and_false,Bool.false_eq_true,if_true,if_false]

theorem updateSource {t t' : JobsTable} {matched : LegacyRow → Bool} {set : LegacyRow → LegacyRow} (shown : t.shows = true)
    (h : t.update matched set = .ok t') : t' = {t with rows := t.rows.map (fun r => if matched r then set r else r)} := by
  unfold update at h
  simp only [shown,Bool.true_and] at h
  split at h
  · split at h <;> cases h
    rfl
  · cases h

theorem notNullSource {t t' : JobsTable} {present : LegacyRow → Bool} (h : t.setNotNull present = .ok t') : t' = t := by
  unfold setNotNull at h
  split at h <;> cases h
  rfl

@[simp] theorem withScopeKey (r : LegacyRow) : (withScope r).legacyKey = r.legacyKey := by
  unfold withScope
  split <;> rfl

@[simp] theorem withKnownKey (r : LegacyRow) : (withKnown r).legacyKey = r.legacyKey := by
  unfold withKnown
  split <;> rfl

theorem uniqueRows {rows : List LegacyRow} (distinct : (rows.map LegacyRow.legacyKey).Nodup) : unique rows = true := by
  refine decide_eq_true ?_
  have pairs : rows.map LegacyRow.legacyKey = (rows.map LegacyRow.tenantKey).map Prod.snd := by
    rw [List.map_map]
    rfl
  rw [pairs] at distinct
  exact distinct.of_map

theorem withScopeInconsistent (r : LegacyRow) : (withScope r).inconsistent = r.inconsistent := by
  unfold withScope
  split <;> rfl

theorem withScopeHolds (r : LegacyRow) : (withScope r).scopeHolds = r.scopeHolds := by
  unfold withScope
  split
  · rename_i none_
    have absent : r.tenantScope = none := Option.isNone_iff_eq_none.mp none_
    simp only [LegacyRow.scopeHolds,LegacyRow.setScope,absent,standaloneScope]
  · rfl

theorem withKnownScope (r : LegacyRow) : (withKnown r).scopeHolds = r.scopeHolds := by
  unfold withKnown
  split <;> rfl

theorem consistentHolds {r : LegacyRow} (h : r.inconsistent = false) :
    r.progressHolds = true ∧ r.setKnown.progressHolds = true := by
  have within : r.totalRequestsKnown = some true ∨ 0 < r.totalRequests → r.withinTotal = true := by
    intro either
    by_contra beyond
    rw [Bool.not_eq_true] at beyond
    simp only [LegacyRow.inconsistent,beyond,Bool.not_false,Bool.and_true,Bool.or_eq_false_iff,beq_eq_false_iff_ne,
      decide_eq_false_iff_not] at h
    exact either.elim h.1 h.2
  constructor
  · unfold LegacyRow.progressHolds
    split
    · rfl
    · rename_i known same
      cases known with
      | false => rfl
      | true => exact within (.inl same)
  · have written : r.setKnown.progressHolds = (!decide (0 < r.totalRequests) || r.withinTotal) := rfl
    rw [written]
    by_cases positive : 0 < r.totalRequests
    · simp [within (.inr positive)]
    · simp [positive]

theorem validatedScope {t : JobsTable} (holds : ∀ r ∈ t.rows, r.scopeHolds = true) :
    t.validateScope = .ok {t with scopeCheck := .validated} := by
  have all : t.validate LegacyRow.scopeHolds = .ok () := if_pos (List.all_eq_true.mpr holds)
  unfold validateScope
  rw [all]
  cases t.scopeCheck <;> rfl

theorem validateScopeSource {t t' : JobsTable} (h : t.validateScope = .ok t') :
    t.scopeCheck = .validated ∨ ∀ r ∈ t.rows, r.scopeHolds = true := by
  unfold validateScope validate at h
  by_cases holds : t.rows.all LegacyRow.scopeHolds = true
  · exact .inr (List.all_eq_true.mp holds)
  · rw [if_neg holds] at h
    cases state : t.scopeCheck with
    | validated => exact .inl rfl
    | absent =>
      rw [state] at h
      cases h
    | notValid =>
      rw [state] at h
      cases h

theorem validatedProgress {t : JobsTable} (holds : ∀ r ∈ t.rows, r.progressHolds = true) :
    t.validateProgress = .ok {t with progressCheck := .validated} := by
  have all : t.validate LegacyRow.progressHolds = .ok () := if_pos (List.all_eq_true.mpr holds)
  unfold validateProgress
  rw [all]
  cases t.progressCheck <;> rfl

theorem addedUnique {t : JobsTable} (distinct : unique t.rows = true) : t.addUnique = .ok {t with tenantUnique := true} := by
  unfold addUnique
  rw [if_pos distinct]
  split
  · rename_i present
    rw [← present]
  · rfl

theorem setNotNullAll {t : JobsTable} {present : LegacyRow → Bool} (all : ∀ r ∈ t.rows, present r = true) :
    t.setNotNull present = .ok t := if_pos (List.all_eq_true.mpr all)

section
variable {t : JobsTable}

theorem acceptedRows (accepted : ¬t.Refused) {r : LegacyRow} (here : r ∈ t.rows) :
    r.inconsistent = false ∧ r.scopeHolds = true := by
  constructor
  · by_contra bad
    exact accepted ⟨r,here,.inl (by simpa using bad)⟩
  · by_contra bad
    exact accepted ⟨r,here,.inr (by simpa using bad)⟩

theorem withScopePresent (r : LegacyRow) : (withScope r).tenantScope.isSome = true := by
  unfold withScope
  split
  · rfl
  · rename_i present
    exact Option.isSome_iff_ne_none.mpr (fun none_ => present (by rw [none_]; rfl))

theorem withKnownPresent (r : LegacyRow) : (withKnown r).totalRequestsKnown.isSome = true := by
  unfold withKnown
  split
  · rfl
  · rename_i present
    exact Option.isSome_iff_ne_none.mpr (fun none_ => present (by rw [none_]; rfl))

theorem withKnownProgress {r : LegacyRow} (h : r.inconsistent = false) : (withKnown r).progressHolds = true := by
  unfold withKnown
  split
  · exact (consistentHolds h).2
  · exact (consistentHolds h).1

theorem uniqueWithKnown (rows : List LegacyRow) : unique (rows.map withKnown) = unique rows := by
  have same : LegacyRow.tenantKey ∘ withKnown = LegacyRow.tenantKey := by
    funext r
    simp only [Function.comp_apply,withKnown]
    split <;> rfl
  unfold unique
  rw [List.map_map,same]

theorem blockRuns (accepted : ¬t.Refused) (distinct : unique (t.rows.map withScope) = true) : t.block = .ok t.finished := by
  let t₀ : JobsTable := {t with forced := false}
  let t₁ : JobsTable := {t₀ with rows := t.rows.map withScope}
  let t₂ : JobsTable := {t₁ with rows := (t.rows.map withScope).map withKnown}
  have shown : t₀.shows = true := by simp [shows,t₀]
  have scopedRows : ∀ r ∈ t.rows.map withScope, r.inconsistent = false ∧ r.scopeHolds = true := by
    intro r here
    obtain ⟨old,member,rfl⟩ := List.mem_map.mp here
    rw [withScopeInconsistent,withScopeHolds]
    exact acceptedRows accepted member
  have first : t₀.update (fun r => r.tenantScope.isNone) (LegacyRow.setScope defaultTenantScope) = .ok t₁ := by
    refine updated shown (fun r here none_ => ?_) distinct
    have written : r.setScope defaultTenantScope = withScope r := by rw [withScope,if_pos none_]
    have own := scopedRows _ (List.mem_map_of_mem (f := withScope) here)
    rw [written,admits,own.2,(consistentHolds own.1).1,Bool.or_true,Bool.or_true,Bool.and_self]
  have second : t₁.setNotNull (fun r => r.tenantScope.isSome) = .ok t₁ := by
    refine setNotNullAll (fun r here => ?_)
    obtain ⟨old,member,rfl⟩ := List.mem_map.mp here
    exact withScopePresent old
  have third : t₁.checkConsistent = .ok () := by
    have none_ : (t.rows.map withScope).any LegacyRow.inconsistent = false :=
      List.any_eq_false.mpr (fun r here bad => by rw [(scopedRows r here).1] at bad; cases bad)
    unfold checkConsistent
    rw [none_,Bool.and_false]
    rfl
  have fourth : t₁.update (fun r => r.totalRequestsKnown.isNone) LegacyRow.setKnown = .ok t₂ := by
    refine updated shown (fun r here none_ => ?_) ((uniqueWithKnown _).trans distinct)
    have written : r.setKnown = withKnown r := by rw [withKnown,if_pos none_]
    have own := scopedRows r here
    rw [written,admits,withKnownScope,own.2,withKnownProgress own.1,Bool.or_true,Bool.or_true,Bool.and_self]
  have fifth : t₂.setNotNull (fun r => r.totalRequestsKnown.isSome) = .ok t₂ := by
    refine setNotNullAll (fun r here => ?_)
    obtain ⟨old,member,rfl⟩ := List.mem_map.mp here
    exact withKnownPresent old
  have finalRows : ∀ r ∈ (t.rows.map withScope).map withKnown, r.scopeHolds = true ∧ r.progressHolds = true := by
    intro r here
    obtain ⟨old,member,rfl⟩ := List.mem_map.mp here
    have own := scopedRows old member
    exact ⟨(withKnownScope old).trans own.2,withKnownProgress own.1⟩
  unfold block
  have sixth := @validatedScope {t₂ with legacyUnique := false} (fun r here => (finalRows r here).1)
  have seventh := @validatedProgress {t₂ with legacyUnique := false,scopeCheck := .validated}
    (fun r here => (finalRows r here).2)
  have eighth := @addedUnique {t₂ with legacyUnique := false,scopeCheck := .validated,progressCheck := .validated}
    ((uniqueWithKnown _).trans distinct)
  simp only [bind,Except.bind]
  rw [first]
  simp only [second,third,fourth,fifth,sixth,seventh,eighth]
  have rows : (t.rows.map withScope).map withKnown = t.rows.map filled := List.map_map
  unfold finished
  rw [← rows]
  rfl

theorem blockAccepts (honest : t.Honest) {t' : JobsTable} (h : t.block = .ok t') : ¬t.Refused := by
  obtain ⟨t₁,first,h⟩ := Fallible.bindOk.mp h
  obtain ⟨t₂,second,h⟩ := Fallible.bindOk.mp h
  obtain ⟨_,third,h⟩ := Fallible.bindOk.mp h
  obtain ⟨t₃,fourth,h⟩ := Fallible.bindOk.mp h
  obtain ⟨t₄,fifth,h⟩ := Fallible.bindOk.mp h
  obtain ⟨t₅,sixth,-⟩ := Fallible.bindOk.mp h
  have shown : JobsTable.shows {t with forced := false} = true := by simp [shows]
  cases updateSource shown first
  cases notNullSource second
  cases updateSource (by exact shown) fourth
  cases notNullSource fifth
  rintro ⟨r,here,bad | bad⟩
  · unfold checkConsistent at third
    split at third
    · cases third
    · rename_i clean
      refine clean ?_
      rw [Bool.and_eq_true]
      refine ⟨shown,List.any_eq_true.mpr ⟨withScope r,List.mem_map_of_mem here,?_⟩⟩
      rw [withScopeInconsistent]
      exact bad
  · rcases validateScopeSource sixth with already | checked
    · rw [honest already r here] at bad
      cases bad
    · have own := checked (withKnown (withScope r)) (List.mem_map_of_mem (List.mem_map_of_mem here))
      rw [withKnownScope,withScopeHolds,bad] at own
      cases own

end

theorem rowJob {r : LegacyRow} (scope : r.tenantScope.isSome = true) (known : r.totalRequestsKnown.isSome = true)
    (scopeHolds : r.scopeHolds = true) (progressHolds : r.progressHolds = true) : ∃ job, LegacyRow.ofJob job = r := by
  obtain ⟨s,scoped_⟩ := Option.isSome_iff_exists.mp scope
  obtain ⟨k,known_⟩ := Option.isSome_iff_exists.mp known
  obtain ⟨c,checked⟩ := r
  simp only [] at scoped_ known_
  have own := (checksMet _).mp checked
  have named : identifierPattern maxTenantScopeCharacters s = true := by
    simpa only [LegacyRow.scopeHolds,scoped_] using scopeHolds
  have progress : k = true → c.completedRequests + c.failedRequests ≤ c.totalRequests := by
    intro counted
    simp only [LegacyRow.progressHolds,known_,counted,Bool.not_true,Bool.false_or] at progressHolds
    exact of_decide_eq_true progressHolds
  have checks : (c.columns s k).checks = true := (checksMet _).mpr ⟨named,own.endpointAlias,own.batchId,own.order,
    own.inputFile,own.outputFile,own.errorFile,own.total,own.completed,own.failed,progress⟩
  refine ⟨⟨c.columns s k,checks⟩,?_⟩
  have same : LegacyRow.columnsOf ⟨c.columns s k,checks⟩ = c := by
    cases c
    simp only [] at scoped_ known_
    rw [scoped_,known_]
    rfl
  simp only [LegacyRow.ofJob,same]

theorem rowsJobs {rows : List LegacyRow} (each : ∀ r ∈ rows, ∃ job, LegacyRow.ofJob job = r) :
    ∃ jobs : List RemoteBatchJob, jobs.map LegacyRow.ofJob = rows := by
  induction rows with
  | nil => exact ⟨[],rfl⟩
  | cons r rows ih =>
    obtain ⟨job,same⟩ := each r (by simp)
    obtain ⟨jobs,rest⟩ := ih (fun other here => each other (by simp [here]))
    exact ⟨job::jobs,by rw [List.map_cons,same,rest]⟩

theorem filledJob {t : JobsTable} (accepted : ¬t.Refused) {r : LegacyRow} (here : r ∈ t.rows) :
    ∃ job, LegacyRow.ofJob job = filled r := by
  obtain ⟨consistent,scope⟩ := acceptedRows accepted here
  have present : (filled r).tenantScope.isSome = true := by
    have own := withScopePresent r
    unfold filled withKnown
    split
    · exact own
    · exact own
  refine rowJob present (withKnownPresent _) ?_ (withKnownProgress ?_)
  · rw [filled,withKnownScope,withScopeHolds,scope]
  · rw [withScopeInconsistent,consistent]

structure Kept (jobs : List RemoteBatchJob) : Prop where
  distinct : (jobs.map RemoteBatchJob.key).Nodup
  known : ∀ job ∈ jobs, 0 < job.totalRequests → job.totalRequestsKnown = true

theorem keptEmpty : Kept [] := ⟨List.nodup_nil,fun _ here => absurd here List.not_mem_nil⟩

theorem keptStep (pg : Postgres) (i : Interpreter) {jobs : List RemoteBatchJob} (kept : Kept jobs) (e : PersistEvent) :
    Kept (e.run pg i jobs) := by
  rcases stepCases pg i e jobs with ⟨-,same⟩ | ⟨s,m,normal,-,done⟩
  · rw [same]
    exact kept
  have normalized := normalizedSnapshot normal
  generalize e.run pg i jobs = after at done ⊢
  cases done with
  | inserted row metadata columns absent =>
    refine ⟨Table.putDistinct row kept.distinct,fun job here => ?_⟩
    rcases Table.memPut here with rfl | old
    · rw [columns]
      exact normalized.known
    · exact kept.known job old
  | merged old row metadata present guard columns =>
    refine ⟨Table.putDistinct row kept.distinct,fun job here => ?_⟩
    rcases Table.memPut here with rfl | earlier
    · rw [columns]
      simp only [merged,RemoteBatchSnapshot.columns,Bool.or_eq_true]
      intro positive
      have either : 0 < old.totalRequests ∨ 0 < s.totalRequests := by omega
      exact either.imp (kept.known old (Table.findMember present)) normalized.known
    · exact kept.known job earlier

theorem keptRun (pg : Postgres) (i : Interpreter) {jobs : List RemoteBatchJob} (kept : Kept jobs)
    (events : List PersistEvent) : Kept (events.foldl (fun jobs e => PersistEvent.run pg i e jobs) jobs) :=
  @Runs.foldInvariant _ _ (fun jobs e => PersistEvent.run pg i e jobs) Kept (fun _ e kept => keptStep pg i kept e) jobs
    kept events

theorem keptAccepted {jobs : List RemoteBatchJob} (kept : Kept jobs) : ¬(ofJobs jobs).Refused := by
  rintro ⟨r,here,bad⟩
  obtain ⟨job,member,rfl⟩ := List.mem_map.mp here
  rcases bad with inconsistent | scope
  · simp only [LegacyRow.inconsistent,Bool.and_eq_true,Bool.or_eq_true,beq_iff_eq,decide_eq_true_eq,Bool.not_eq_true'] at inconsistent
    have known : job.totalRequestsKnown = true := by
      rcases inconsistent.1 with same | positive
      · exact Option.some.inj same
      · exact kept.known job member positive
    exact of_decide_eq_false inconsistent.2 (checkedProgress job known)
  · have own := ((checksMet _).mp job.checked).scope
    have held : (LegacyRow.ofJob job).scopeHolds = true := own
    rw [held] at scope
    cases scope

theorem keptUnchanged {jobs : List RemoteBatchJob} (kept : Kept jobs) : (ofJobs jobs).reapply = (.ok (),ofJobs jobs) := by
  have scopes : (jobs.map LegacyRow.ofJob).map withScope = jobs.map LegacyRow.ofJob := by
    rw [List.map_map]
    rfl
  have rows : (jobs.map LegacyRow.ofJob).map filled = jobs.map LegacyRow.ofJob := by
    rw [List.map_map]
    rfl
  have distinct : unique ((ofJobs jobs).rows.map withScope) = true := by
    refine decide_eq_true ?_
    have keys : (jobs.map LegacyRow.ofJob).map LegacyRow.tenantKey =
        (jobs.map RemoteBatchJob.key).map (fun k => (some k.tenantScope,k.endpointAlias,k.remoteBatchId)) := by
      rw [List.map_map,List.map_map]
      rfl
    have injective : Function.Injective (fun k : JobKey => (some k.tenantScope,k.endpointAlias,k.remoteBatchId)) := by
      rintro ⟨a,b,c⟩ ⟨d,e,f⟩ same
      simp only [Prod.mk.injEq,Option.some.injEq] at same
      obtain ⟨rfl,rfl,rfl⟩ := same
      rfl
    change (((jobs.map LegacyRow.ofJob).map withScope).map LegacyRow.tenantKey).Nodup
    rw [scopes,keys]
    exact kept.distinct.map injective
  have ran := blockRuns (keptAccepted kept) distinct
  have same : (ofJobs jobs).finished = ofJobs jobs := by
    unfold finished
    have own : (ofJobs jobs).rows.map filled = jobs.map LegacyRow.ofJob := rows
    rw [own]
    rfl
  unfold reapply
  rw [ran,same]

def TotalsFlagged (t : JobsTable) : Prop := ∀ r ∈ t.rows, 0 < r.totalRequests → r.totalRequestsKnown ≠ some false

theorem uniqueScoped {t : JobsTable} (distinct : (t.rows.map LegacyRow.legacyKey).Nodup) :
    unique (t.rows.map withScope) = true := by
  refine uniqueRows ?_
  have same : LegacyRow.legacyKey ∘ withScope = LegacyRow.legacyKey := funext withScopeKey
  rw [List.map_map,same]
  exact distinct

theorem filledJobs {t : JobsTable} (accepted : ¬t.Refused) :
    ∃ jobs : List RemoteBatchJob, jobs.map LegacyRow.ofJob = t.rows.map filled := by
  refine rowsJobs (fun r here => ?_)
  obtain ⟨old,member,rfl⟩ := List.mem_map.mp here
  exact filledJob accepted member

theorem jobsDistinct {t : JobsTable} {jobs : List RemoteBatchJob} (distinct : (t.rows.map LegacyRow.legacyKey).Nodup)
    (rows : jobs.map LegacyRow.ofJob = t.rows.map filled) : (jobs.map RemoteBatchJob.key).Nodup := by
  have filledKey : LegacyRow.legacyKey ∘ filled = LegacyRow.legacyKey := by
    funext r
    simp only [Function.comp_apply,filled,withKnownKey,withScopeKey]
  have keys : (jobs.map RemoteBatchJob.key).map (fun k => (k.endpointAlias,k.remoteBatchId)) =
      t.rows.map LegacyRow.legacyKey := by
    calc (jobs.map RemoteBatchJob.key).map (fun k => (k.endpointAlias,k.remoteBatchId))
        = (jobs.map LegacyRow.ofJob).map LegacyRow.legacyKey := by
          rw [List.map_map,List.map_map]
          rfl
      _ = t.rows.map LegacyRow.legacyKey := by rw [rows,List.map_map,filledKey]
  rw [← keys] at distinct
  exact distinct.of_map

theorem filledFlagged {r : LegacyRow} (flagged : r.totalRequestsKnown ≠ some false) (positive : 0 < r.totalRequests) :
    (filled r).totalRequestsKnown = some true := by
  have total : (withScope r).totalRequests = r.totalRequests := by
    unfold withScope
    split <;> rfl
  have known : (withScope r).totalRequestsKnown = r.totalRequestsKnown := by
    unfold withScope
    split <;> rfl
  unfold filled withKnown
  split
  · have written : (withScope r).setKnown.totalRequestsKnown = some (decide (0 < (withScope r).totalRequests)) := rfl
    rw [written,total,decide_eq_true positive]
  · rename_i present
    rw [known] at present ⊢
    cases flag : r.totalRequestsKnown with
    | none => exact absurd (by rw [flag]; rfl) present
    | some value =>
      cases value with
      | false => exact absurd flag flagged
      | true => rfl

theorem keptFilled {t : JobsTable} {jobs : List RemoteBatchJob} (flagged : t.TotalsFlagged)
    (distinct : (t.rows.map LegacyRow.legacyKey).Nodup) (rows : jobs.map LegacyRow.ofJob = t.rows.map filled) :
    Kept jobs := by
  refine ⟨jobsDistinct distinct rows,fun job here positive => ?_⟩
  have member : LegacyRow.ofJob job ∈ t.rows.map filled := rows ▸ List.mem_map_of_mem here
  obtain ⟨old,earlier,same⟩ := List.mem_map.mp member
  have totals : (filled old).totalRequests = old.totalRequests := by
    unfold filled withKnown withScope
    split <;> split <;> rfl
  have total : old.totalRequests = job.totalRequests := by
    rw [← totals,same]
    rfl
  have known : (LegacyRow.ofJob job).totalRequestsKnown = some true := by
    rw [← same]
    exact filledFlagged (flagged old earlier (total ▸ positive)) (total ▸ positive)
  exact Option.some.inj known

/-- The block refuses a table with an inconsistent row or a bad scope and leaves it alone; it fills the rows of
any other. Whatever the package writes after that, to a table whose totals were not flagged unknown or to an empty
one, the block runs again and changes nothing. -/
theorem blockReapplies {t : JobsTable} (honest : t.Honest) (distinct : (t.rows.map LegacyRow.legacyKey).Nodup) :
    ((t.Refused ∧ ∃ e, t.reapply = (.error e,t)) ∨
      ¬t.Refused ∧ ∃ jobs, t.reapply = (.ok (),ofJobs jobs) ∧ jobs.map LegacyRow.ofJob = t.rows.map filled ∧
        (jobs.map RemoteBatchJob.key).Nodup ∧ (t.TotalsFlagged → ∀ (pg : Postgres) (i : Interpreter)
          (events : List PersistEvent), (ofJobs (events.foldl (fun jobs e => PersistEvent.run pg i e jobs) jobs)).reapply =
            (.ok (),ofJobs (events.foldl (fun jobs e => PersistEvent.run pg i e jobs) jobs)))) ∧
    ∀ (pg : Postgres) (i : Interpreter) (events : List PersistEvent), (ofJobs (events.foldl (fun jobs e => PersistEvent.run pg i e jobs) [])).reapply =
      (.ok (),ofJobs (events.foldl (fun jobs e => PersistEvent.run pg i e jobs) [])) := by
  refine ⟨?_,fun pg i events => keptUnchanged (keptRun pg i keptEmpty events)⟩
  by_cases refused : t.Refused
  · refine .inl ⟨refused,?_⟩
    unfold reapply
    cases ran : t.block with
    | error e => exact ⟨e,rfl⟩
    | ok t' => exact absurd refused (blockAccepts honest ran)
  refine .inr ⟨refused,?_⟩
  obtain ⟨jobs,rows⟩ := filledJobs refused
  have finishedJobs : t.finished = ofJobs jobs := by
    unfold finished ofJobs
    rw [rows]
  have ran : t.reapply = (.ok (),ofJobs jobs) := by
    unfold reapply
    rw [blockRuns refused (uniqueScoped distinct),finishedJobs]
  exact ⟨jobs,ran,rows,jobsDistinct distinct rows,
    fun flagged pg i events => keptUnchanged (keptRun pg i (keptFilled flagged distinct rows) events)⟩

def singleColumns (known : Option Bool) : LegacyColumns where
  tenantScope := none
  endpointAlias := py "primary"
  remoteBatchId := py "batch-1"
  observationOrder := 1
  inputFileId := none
  batchEndpoint := none
  batchStatus := .inProgress
  outputFileId := none
  errorFileId := none
  totalRequests := 5
  totalRequestsKnown := known
  completedRequests := 0
  failedRequests := 0
  providerMetadata := .obj []
  firstSeenAt := 0
  lastObservedAt := 0
  terminalAt := none
  updatedAt := 0

theorem singleChecked (known : Option Bool) : (singleColumns known).otherChecks = true := by
  have unread : (singleColumns known).otherChecks = (singleColumns none).otherChecks := rfl
  rw [unread]
  decide

def singleRow (known : Option Bool) : JobsTable where
  rows := [⟨singleColumns known,singleChecked known⟩]
  scopeCheck := .absent
  progressCheck := .absent
  legacyUnique := true
  tenantUnique := false
  rowSecurity := false
  forced := false

theorem singleHonest (known : Option Bool) : (singleRow known).Honest := fun validated => ConstraintState.noConfusion (show ConstraintState.absent = .validated from validated)

theorem singleDistinct (known : Option Bool) : ((singleRow known).rows.map LegacyRow.legacyKey).Nodup :=
  List.nodup_singleton _

theorem missingReapplies : ∃ jobs, (singleRow none).reapply = (.ok (),ofJobs jobs) ∧
    ∀ (pg : Postgres) (i : Interpreter) (events : List PersistEvent),
      (ofJobs (events.foldl (fun jobs e => PersistEvent.run pg i e jobs) jobs)).reapply =
        (.ok (),ofJobs (events.foldl (fun jobs e => PersistEvent.run pg i e jobs) jobs)) := by
  rcases (blockReapplies (singleHonest none) (singleDistinct none)).1 with ⟨⟨r,here,bad⟩,-⟩ | ⟨-,jobs,ran,-,-,again⟩
  · cases List.mem_singleton.mp here
    exact absurd bad (by decide)
  · refine ⟨jobs,ran,again (fun r here positive => ?_)⟩
    cases List.mem_singleton.mp here
    decide

def unknownFilled : RemoteBatchJob := ⟨(singleColumns (some false)).columns defaultTenantScope false,by decide⟩

def completedTen : PersistEvent where
  call := .standalone (.str (py "primary")) (.obj [(py "id",.str (py "batch-1")),(py "status",.str (py "in_progress")),
    (py "request_counts",.obj [(py "completed",.int 10)])]) (.int 2) (.aware 1)
  now := 0
  bound := none

-- The block keeps a total of five that is flagged unknown, and the upsert then takes ten completed requests.
theorem unknownTotalRefused : (singleRow (some false)).Honest ∧
    ((singleRow (some false)).rows.map LegacyRow.legacyKey).Nodup ∧
    (singleRow (some false)).reapply = (.ok (),ofJobs [unknownFilled]) ∧
    (ofJobs (completedTen.run samplePostgres sampleInterpreter [unknownFilled])).reapply.1 ≠ .ok () := by
  refine ⟨singleHonest _,singleDistinct _,rfl,?_⟩
  have refused : (ofJobs (completedTen.run samplePostgres sampleInterpreter
      [unknownFilled])).reapply.1.toOption.isNone = true := by decide +kernel
  intro ran
  rw [ran] at refused
  cases refused

end JobsTable

end PgLlmBatch
