import PgLlmBatch.RecoveryVerification
import PgLlmBatch.RestoreAcceptance

/-! The catalog query of restore acceptance, and what the check makes of its answer: a restored
schema is accepted exactly when the catalog holds what the package needs of it. -/
namespace PgLlmBatch.RestoreAcceptance
open Base
open Base.Table (find)

structure PgNamespace where
  oid : Nat
  nspname : PyStr

structure PgClass where
  oid : Nat
  relname : PyStr
  relnamespace : Nat
  relkind : PyStr
  relam : Nat
  relrowsecurity : Bool
  relforcerowsecurity : Bool

-- `columns` has what pg_get_indexdef says of each column of the index.
structure PgIndex where
  indexrelid : Nat
  indrelid : Nat
  indisunique : Bool
  indisvalid : Bool
  indisready : Bool
  indpred : Option PyStr
  indexprs : Option PyStr
  indnkeyatts : Nat
  indoption : List Int
  columns : List PyStr

def PgIndex.indnatts (idx : PgIndex) : Nat := idx.columns.length
def PgIndex.pgGetIndexdef (idx : PgIndex) (column : Nat) : Option PyStr := idx.columns[column - 1]?

structure PgConstraint where
  conindid : Nat
  conrelid : Nat
  contype : PyStr
  condeferrable : Bool

structure PgAm where
  oid : Nat
  amname : PyStr

-- The unique indexes of the catalog itself hold of every state of it.
structure PgCatalog where
  namespaces : List PgNamespace
  classes : List PgClass
  indexes : List PgIndex
  constraints : List PgConstraint
  accessMethods : List PgAm
  currentSchema : Option PyStr
  namespaceOids : (namespaces.map PgNamespace.oid).Nodup
  namespaceNames : (namespaces.map PgNamespace.nspname).Nodup
  classOids : (classes.map PgClass.oid).Nodup
  classNames : (classes.map (fun c => (c.relname,c.relnamespace))).Nodup
  indexOids : (indexes.map PgIndex.indexrelid).Nodup

def leftJoin {α : Type} (rows : List α) (on : α → Bool) : List (Option α) :=
  match rows.filter on with
  | [] => [none]
  | found => found.map some

namespace PgCatalog
variable (k : PgCatalog)

def matchesIndex (c : PgClass) (n : PgNamespace) (idx : PgIndex) (indexedTable : PgClass) : Bool :=
  c.relkind == py "i" && indexedTable.relname == py "llm_remote_batch_jobs" && indexedTable.relnamespace == n.oid &&
    idx.indisvalid && idx.indisready && idx.indpred.isNone && idx.indexprs.isNone && idx.indnkeyatts == 3 &&
    idx.indnatts == 3 && idx.indoption == [0,0,0] &&
    k.accessMethods.any (fun am => am.oid == c.relam && am.amname == py "btree") &&
    idx.pgGetIndexdef 1 == some (py "tenant_scope") &&
    ((c.relname == py "idx_llm_remote_batch_jobs_tenant_status_observed" && !idx.indisunique &&
        idx.pgGetIndexdef 2 == some (py "batch_status") && idx.pgGetIndexdef 3 == some (py "last_observed_at")) ||
      (c.relname == py "uq_llm_remote_batch_jobs_tenant_endpoint_id" && idx.indisunique &&
        idx.pgGetIndexdef 2 == some (py "endpoint_alias") && idx.pgGetIndexdef 3 == some (py "remote_batch_id") &&
        k.constraints.any (fun row => row.conindid == c.oid && row.conrelid == indexedTable.oid &&
          row.contype == py "u" && !row.condeferrable)))

-- A comparison with NULL selects nothing.
def selects (c : PgClass) (n : PgNamespace) (idx : Option PgIndex) (indexedTable : Option PgClass) : Bool :=
  k.currentSchema == some n.nspname && decide (c.relkind ∈ relationKinds) && decide (c.relname ∈ relationNames) &&
    (c.relkind == py "r" ||
      (idx.bind (fun idx => indexedTable.map (fun t => k.matchesIndex c n idx t))).getD false)

def row (c : PgClass) : FetchedRow :=
  .tuple [.text c.relname,.text c.relkind,.bool c.relrowsecurity,.bool c.relforcerowsecurity]

def catalogRows : List FetchedRow :=
  k.classes.flatMap (fun c =>
    (k.namespaces.filter (fun n => n.oid == c.relnamespace)).flatMap (fun n =>
      (leftJoin k.indexes (fun idx => idx.indexrelid == c.oid)).flatMap (fun idx =>
        (leftJoin k.classes (fun t => some t.oid == idx.map PgIndex.indrelid)).flatMap (fun t =>
          if k.selects c n idx t then [row c] else []))))

end PgCatalog

structure Current (k : PgCatalog) (c : PgClass) : Prop where
  listed : c ∈ k.classes
  schema : ∃ n ∈ k.namespaces, n.oid = c.relnamespace ∧ k.currentSchema = some n.nspname

structure IsTable (k : PgCatalog) (c : PgClass) (name : PyStr) : Prop where
  current : Current k c
  kind : c.relkind = py "r"
  name : c.relname = name

structure PlainIndex (k : PgCatalog) (c : PgClass) (t : PgClass) (name : PyStr) (columns : List PyStr)
    (unique : Bool) : Prop where
  current : Current k c
  kind : c.relkind = py "i"
  name : c.relname = name
  table : t ∈ k.classes ∧ t.relname = lifecycleTable ∧ t.relnamespace = c.relnamespace
  index : ∃ idx ∈ k.indexes, idx.indexrelid = c.oid ∧ idx.indrelid = t.oid ∧
    (idx.indisvalid = true ∧ idx.indisready = true) ∧ (idx.indpred = none ∧ idx.indexprs = none) ∧
    (idx.columns = columns ∧ idx.indnkeyatts = columns.length ∧ idx.indoption = columns.map (fun _ => 0)) ∧
    idx.indisunique = unique
  btree : ∃ am ∈ k.accessMethods, am.oid = c.relam ∧ am.amname = py "btree"

def Constrained (k : PgCatalog) (c t : PgClass) : Prop :=
  ∃ row ∈ k.constraints, row.conindid = c.oid ∧ row.conrelid = t.oid ∧ row.contype = py "u" ∧ row.condeferrable = false

structure Complete (k : PgCatalog) : Prop where
  tables : ∀ name ∈ requiredTables, ∃ c, IsTable k c name
  status : ∃ c t, PlainIndex k c t statusIndex [py "tenant_scope",py "batch_status",py "last_observed_at"] false
  identity : ∃ c t, PlainIndex k c t identityIndex [py "tenant_scope",py "endpoint_alias",py "remote_batch_id"] true ∧
    Constrained k c t

def Isolated (k : PgCatalog) : Prop :=
  ∀ c name, name = lifecycleTable ∨ name = checkpointTable → IsTable k c name →
    c.relrowsecurity = true ∧ c.relforcerowsecurity = true

theorem joinUnique {α : Type} {key : α → Nat} {rows : List α} (distinct : (rows.map key).Nodup) (oid : Nat) :
    rows.filter (fun r => key r == oid) = (find key rows oid).toList := by
  induction rows with
  | nil => rfl
  | cons r rows ih =>
    rw [List.map_cons,List.nodup_cons] at distinct
    rw [Table.findCons,List.filter_cons]
    by_cases same : key r = oid
    · have others : rows.filter (fun x => key x == oid) = [] := by
        refine List.filter_eq_nil_iff.mpr (fun x here equal => distinct.1 ?_)
        rw [same,← eq_of_beq equal]
        exact List.mem_map_of_mem here
      simp [same,others]
    · simp [same,ih distinct.2]

theorem leftJoinUnique {α : Type} {key : α → Nat} {rows : List α} (distinct : (rows.map key).Nodup) (oid : Nat) :
    leftJoin rows (fun r => key r == oid) = [find key rows oid] := by
  unfold leftJoin
  rw [joinUnique distinct]
  cases find key rows oid <;> rfl

namespace PgCatalog
variable (k : PgCatalog)

def namespace? (c : PgClass) : Option PgNamespace := find PgNamespace.oid k.namespaces c.relnamespace
def index? (c : PgClass) : Option PgIndex := find PgIndex.indexrelid k.indexes c.oid
def indexed? (c : PgClass) : Option PgClass := (k.index? c).bind (fun idx => find PgClass.oid k.classes idx.indrelid)

def selected (c : PgClass) : Bool := (k.namespace? c).any (fun n => k.selects c n (k.index? c) (k.indexed? c))

theorem indexedJoin (idx : Option PgIndex) : leftJoin k.classes (fun t => some t.oid == idx.map PgIndex.indrelid) =
    [idx.bind (fun idx => find PgClass.oid k.classes idx.indrelid)] := by
  cases idx with
  | none => simp [leftJoin]
  | some idx => exact leftJoinUnique k.classOids idx.indrelid

theorem rowOf (c : PgClass) :
    (k.namespaces.filter (fun n => n.oid == c.relnamespace)).flatMap (fun n =>
      (leftJoin k.indexes (fun idx => idx.indexrelid == c.oid)).flatMap (fun idx =>
        (leftJoin k.classes (fun t => some t.oid == idx.map PgIndex.indrelid)).flatMap (fun t =>
          if k.selects c n idx t then [row c] else []))) = if k.selected c then [row c] else [] := by
  rw [joinUnique k.namespaceOids,leftJoinUnique k.indexOids]
  simp only [List.flatMap_singleton,indexedJoin]
  unfold selected namespace? indexed? index?
  cases find PgNamespace.oid k.namespaces c.relnamespace with
  | none => rfl
  | some n => simp

theorem rowsSelected : k.catalogRows = (k.classes.filter k.selected).map row := by
  unfold catalogRows
  simp only [rowOf]
  induction k.classes with
  | nil => rfl
  | cons c cs ih =>
    rw [List.flatMap_cons,List.filter_cons,ih]
    split <;> rfl

variable {k}

theorem selectedBy {c : PgClass} (h : k.selected c = true) :
    ∃ n, k.namespace? c = some n ∧ k.selects c n (k.index? c) (k.indexed? c) = true := by
  unfold selected at h
  cases found : k.namespace? c with
  | none =>
    rw [found] at h
    cases h
  | some n =>
    rw [found] at h
    exact ⟨n,rfl,h⟩

theorem selectedSource {c : PgClass} (listed : c ∈ k.classes) (h : k.selected c = true) :
    Current k c ∧ c.relkind ∈ relationKinds ∧ c.relname ∈ relationNames := by
  obtain ⟨n,found,selects⟩ := selectedBy h
  simp only [PgCatalog.selects,Bool.and_eq_true,decide_eq_true_eq,beq_iff_eq] at selects
  obtain ⟨⟨⟨schema,kind⟩,name⟩,-⟩ := selects
  exact ⟨⟨listed,n,Table.findMember found,Table.findKey found,schema⟩,kind,name⟩

theorem currentNamespace {c : PgClass} (h : Current k c) :
    ∃ n, k.namespace? c = some n ∧ k.currentSchema = some n.nspname := by
  obtain ⟨n,here,oid,schema⟩ := h.schema
  refine ⟨n,?_,schema⟩
  rw [namespace?,← oid]
  exact Table.findMine k.namespaceOids here

theorem tableSelected {c : PgClass} (h : Current k c) (kind : c.relkind = py "r") (name : c.relname ∈ relationNames) :
    k.selected c = true := by
  obtain ⟨n,found,schema⟩ := currentNamespace h
  have allowed : py "r" ∈ relationKinds := by decide
  rw [selected,found,Option.any_some,PgCatalog.selects]
  simp [schema,kind,name,allowed]

theorem currentName {c d : PgClass} (h : Current k c) (own : Current k d) (same : c.relname = d.relname) : c = d := by
  obtain ⟨n,here,oid,schema⟩ := h.schema
  obtain ⟨m,there,oid',schema'⟩ := own.schema
  rw [schema] at schema'
  have one : n = m := List.inj_on_of_nodup_map k.namespaceNames here there (Option.some.inj schema')
  subst one
  refine List.inj_on_of_nodup_map k.classNames h.listed own.listed ?_
  rw [same,← oid,← oid']

theorem selectedNames : ((k.classes.filter k.selected).map PgClass.relname).Nodup := by
  have classes : k.classes.Nodup := List.Nodup.of_map _ k.classNames
  refine List.Nodup.map_on (fun c here d there same => ?_) (classes.filter _)
  obtain ⟨listed,chosen⟩ := List.mem_filter.mp here
  obtain ⟨listed',chosen'⟩ := List.mem_filter.mp there
  exact currentName (selectedSource listed chosen).1 (selectedSource listed' chosen').1 same

theorem threeColumns {columns : List PyStr} {a b c : PyStr} : columns = [a,b,c] ↔
    columns.length = 3 ∧ columns[0]? = some a ∧ columns[1]? = some b ∧ columns[2]? = some c := by
  constructor
  · rintro rfl
    simp
  · rintro ⟨size,first,second,third⟩
    obtain ⟨x,y,z,rfl⟩ := List.length_eq_three.mp size
    simp_all

structure IndexRow (k : PgCatalog) (c : PgClass) (n : PgNamespace) (idx : PgIndex) (t : PgClass) : Prop where
  owner : k.namespace? c = some n
  index : k.index? c = some idx
  table : k.indexed? c = some t
  selects : k.matchesIndex c n idx t = true

theorem indexRow {c : PgClass} (kind : c.relkind = py "i") (h : k.selected c = true) :
    ∃ n idx t, IndexRow k c n idx t := by
  obtain ⟨n,found,selects⟩ := selectedBy h
  have other : (c.relkind == py "r") = false := by
    rw [kind]
    decide
  rw [PgCatalog.selects,other,Bool.false_or,Bool.and_eq_true] at selects
  obtain ⟨-,joined⟩ := selects
  cases index : k.index? c with
  | none =>
    rw [index] at joined
    cases joined
  | some idx =>
    rw [index] at joined
    cases table : k.indexed? c with
    | none =>
      rw [table] at joined
      cases joined
    | some t =>
      rw [table] at joined
      exact ⟨n,idx,t,found,index,table,joined⟩

theorem indexSelected {c : PgClass} (h : Current k c) (kind : c.relkind = py "i") (name : c.relname ∈ relationNames)
    {n : PgNamespace} {idx : PgIndex} {t : PgClass} (row : IndexRow k c n idx t) : k.selected c = true := by
  obtain ⟨m,found,schema⟩ := currentNamespace h
  have same : n = m := Option.some.inj (row.owner.symm.trans found)
  subst same
  have allowed : py "i" ∈ relationKinds := by decide
  rw [selected,found,Option.any_some,PgCatalog.selects,row.index,row.table]
  simp [schema,kind,name,allowed,row.selects]

def Own (k : PgCatalog) (c : PgClass) (idx : PgIndex) (t : PgClass) : Prop :=
  (c.relname = statusIndex ∧ idx.indisunique = false ∧ idx.columns[1]? = some (py "batch_status") ∧
    idx.columns[2]? = some (py "last_observed_at")) ∨
  (c.relname = identityIndex ∧ idx.indisunique = true ∧ idx.columns[1]? = some (py "endpoint_alias") ∧
    idx.columns[2]? = some (py "remote_batch_id") ∧ Constrained k c t)

structure Shared (k : PgCatalog) (c : PgClass) (n : PgNamespace) (idx : PgIndex) (t : PgClass) : Prop where
  kind : c.relkind = py "i"
  table : t.relname = lifecycleTable ∧ t.relnamespace = n.oid
  usable : idx.indisvalid = true ∧ idx.indisready = true
  plain : idx.indpred = none ∧ idx.indexprs = none
  keys : idx.indnkeyatts = 3 ∧ idx.columns.length = 3 ∧ idx.indoption = [0,0,0]
  btree : ∃ am ∈ k.accessMethods, am.oid = c.relam ∧ am.amname = py "btree"
  first : idx.columns[0]? = some (py "tenant_scope")

theorem matchesSource {c : PgClass} {n : PgNamespace} {idx : PgIndex} {t : PgClass} :
    k.matchesIndex c n idx t = true ↔ Shared k c n idx t ∧ Own k c idx t := by
  simp only [matchesIndex,Bool.and_eq_true,Bool.or_eq_true,beq_iff_eq,List.any_eq_true,Option.isNone_iff_eq_none,
    Bool.not_eq_true',PgIndex.pgGetIndexdef,PgIndex.indnatts]
  constructor
  · rintro ⟨⟨⟨⟨⟨⟨⟨⟨⟨⟨⟨⟨kind,name⟩,schema⟩,valid⟩,ready⟩,pred⟩,exprs⟩,keys⟩,columns⟩,options⟩,btree⟩,first⟩,own⟩
    refine ⟨⟨kind,⟨name,schema⟩,⟨valid,ready⟩,⟨pred,exprs⟩,⟨keys,columns,options⟩,btree,first⟩,?_⟩
    simpa only [Own,Constrained,statusIndex,identityIndex,and_assoc] using own
  · rintro ⟨shared,own⟩
    refine ⟨⟨⟨⟨⟨⟨⟨⟨⟨⟨⟨⟨shared.kind,shared.table.1⟩,shared.table.2⟩,shared.usable.1⟩,shared.usable.2⟩,shared.plain.1⟩,
      shared.plain.2⟩,shared.keys.1⟩,shared.keys.2.1⟩,shared.keys.2.2⟩,shared.btree⟩,shared.first⟩,?_⟩
    simpa only [Own,Constrained,statusIndex,identityIndex,and_assoc] using own

section
variable {c t : PgClass} {n : PgNamespace} {idx : PgIndex} {name second third : PyStr} {unique : Bool}

theorem rowPlain (current : Current k c) (row : IndexRow k c n idx t) (shared : Shared k c n idx t)
    (named : c.relname = name) (own : idx.indisunique = unique) (two : idx.columns[1]? = some second)
    (three : idx.columns[2]? = some third) : PlainIndex k c t name [py "tenant_scope",second,third] unique := by
  have found : find PgIndex.indexrelid k.indexes c.oid = some idx := row.index
  have table : find PgClass.oid k.classes idx.indrelid = some t := by
    have joined := row.table
    rw [indexed?,row.index] at joined
    exact joined
  have owner : n.oid = c.relnamespace := Table.findKey row.owner
  have columns := threeColumns.mpr ⟨shared.keys.2.1,shared.first,two,three⟩
  exact {
    current
    kind := shared.kind
    name := named
    table := ⟨Table.findMember table,shared.table.1,shared.table.2.trans owner⟩
    index := ⟨idx,Table.findMember found,Table.findKey found,(Table.findKey table).symm,shared.usable,shared.plain,
      ⟨columns,shared.keys.1,shared.keys.2.2⟩,own⟩
    btree := shared.btree }

theorem plainRow (h : PlainIndex k c t name [py "tenant_scope",second,third] unique) :
    ∃ n idx, k.namespace? c = some n ∧ k.index? c = some idx ∧ k.indexed? c = some t ∧ Shared k c n idx t ∧
      idx.indisunique = unique ∧ idx.columns[1]? = some second ∧ idx.columns[2]? = some third := by
  obtain ⟨n,owner,-⟩ := currentNamespace h.current
  obtain ⟨idx,listed,relation,table,usable,plain,⟨columns,keys,options⟩,own⟩ := h.index
  obtain ⟨size,first,two,three⟩ := threeColumns.mp columns
  have index : k.index? c = some idx := by
    rw [index?,← relation]
    exact Table.findMine k.indexOids listed
  have indexed : k.indexed? c = some t := by
    rw [indexed?,index,Option.bind_some,table]
    exact Table.findMine k.classOids h.table.1
  have schema : t.relnamespace = n.oid := h.table.2.2.trans (Table.findKey owner).symm
  exact ⟨n,idx,owner,index,indexed,⟨h.kind,⟨h.table.2.1,schema⟩,usable,plain,⟨keys,size,options⟩,h.btree,first⟩,
    own,two,three⟩

end

def Listed (k : PgCatalog) (kind name : PyStr) : Prop :=
  ∃ c ∈ k.classes, k.selected c = true ∧ c.relkind = kind ∧ c.relname = name

theorem statusListed : Listed k (py "i") statusIndex ↔
    ∃ c t, PlainIndex k c t statusIndex [py "tenant_scope",py "batch_status",py "last_observed_at"] false := by
  constructor
  · rintro ⟨c,listed,chosen,kind,name⟩
    obtain ⟨n,idx,t,row⟩ := indexRow kind chosen
    obtain ⟨shared,⟨-,unique,two,three⟩ | ⟨other,-⟩⟩ := matchesSource.mp row.selects
    · exact ⟨c,t,rowPlain (selectedSource listed chosen).1 row shared name unique two three⟩
    · rw [name] at other
      exact absurd other (by decide)
  · rintro ⟨c,t,h⟩
    obtain ⟨n,idx,owner,index,table,shared,unique,two,three⟩ := plainRow h
    have row : IndexRow k c n idx t := ⟨owner,index,table,matchesSource.mpr ⟨shared,.inl ⟨h.name,unique,two,three⟩⟩⟩
    exact ⟨c,h.current.listed,indexSelected h.current h.kind (by rw [h.name]; decide) row,h.kind,h.name⟩

theorem identityListed : Listed k (py "i") identityIndex ↔
    ∃ c t, PlainIndex k c t identityIndex [py "tenant_scope",py "endpoint_alias",py "remote_batch_id"] true ∧
      Constrained k c t := by
  constructor
  · rintro ⟨c,listed,chosen,kind,name⟩
    obtain ⟨n,idx,t,row⟩ := indexRow kind chosen
    obtain ⟨shared,⟨other,-⟩ | ⟨-,unique,two,three,constraint⟩⟩ := matchesSource.mp row.selects
    · rw [name] at other
      exact absurd other (by decide)
    · exact ⟨c,t,rowPlain (selectedSource listed chosen).1 row shared name unique two three,constraint⟩
  · rintro ⟨c,t,h,constraint⟩
    obtain ⟨n,idx,owner,index,table,shared,unique,two,three⟩ := plainRow h
    have row : IndexRow k c n idx t :=
      ⟨owner,index,table,matchesSource.mpr ⟨shared,.inr ⟨h.name,unique,two,three,constraint⟩⟩⟩
    exact ⟨c,h.current.listed,indexSelected h.current h.kind (by rw [h.name]; decide) row,h.kind,h.name⟩

theorem tableListed {name : PyStr} (known : name ∈ relationNames) :
    Listed k (py "r") name ↔ ∃ c, IsTable k c name := by
  constructor
  · rintro ⟨c,listed,chosen,kind,named⟩
    exact ⟨c,(selectedSource listed chosen).1,kind,named⟩
  · rintro ⟨c,h⟩
    exact ⟨c,h.current.listed,tableSelected h.current h.kind (by rw [h.name]; exact known),h.kind,h.name⟩

theorem completeListed : Complete k ↔ (∀ name ∈ requiredTables, Listed k (py "r") name) ∧
    ∀ name ∈ requiredIndexes, Listed k (py "i") name := by
  have known : ∀ name ∈ requiredTables, name ∈ relationNames := by
    intro name here
    simp only [relationNames,List.mem_append]
    exact .inl (.inl here)
  constructor
  · intro h
    refine ⟨fun name here => (tableListed (known name here)).mpr (h.tables name here),?_⟩
    simp only [requiredIndexes,List.forall_mem_cons,List.not_mem_nil,false_implies,implies_true,and_true]
    exact ⟨statusListed.mpr h.status,identityListed.mpr h.identity⟩
  · rintro ⟨tables,indexes⟩
    exact ⟨fun name here => (tableListed (known name here)).mp (tables name here),
      statusListed.mp (indexes _ (by decide)),identityListed.mp (indexes _ (by decide))⟩

end PgCatalog

def relationOf (c : PgClass) : Relation := ⟨c.relname,c.relkind == py "r",c.relrowsecurity,c.relforcerowsecurity⟩

section
variable {k : PgCatalog} {cs : List PgClass} (answered : cs.Perm (k.classes.filter k.selected))
include answered

theorem answerMember {c : PgClass} : c ∈ cs ↔ c ∈ k.classes ∧ k.selected c = true :=
  answered.mem_iff.trans List.mem_filter

theorem answerFormed : WellFormed (cs.map PgCatalog.row) (cs.map relationOf) := by
  constructor
  · rw [List.forall₂_map_left_iff,List.forall₂_map_right_iff,List.forall₂_same]
    intro c here
    obtain ⟨listed,chosen⟩ := (answerMember answered).mp here
    obtain ⟨-,kind,name⟩ := PgCatalog.selectedSource listed chosen
    exact if_pos ⟨name,kind⟩
  · have names : (cs.map PgClass.relname).Nodup := (answered.map _).nodup_iff.mpr PgCatalog.selectedNames
    refine List.Nodup.of_map Prod.snd ?_
    rw [List.map_map,List.map_map]
    exact names

theorem answerSize : (cs.map PgCatalog.row).length ≤ maxCatalogRows := by
  have names : (cs.map PgClass.relname).Nodup := (answered.map _).nodup_iff.mpr PgCatalog.selectedNames
  have known : cs.map PgClass.relname ⊆ relationNames := by
    intro name here
    obtain ⟨c,inside,rfl⟩ := List.mem_map.mp here
    obtain ⟨listed,chosen⟩ := (answerMember answered).mp inside
    exact (PgCatalog.selectedSource listed chosen).2.2
  have few := (List.subperm_of_subset names known).length_le
  have allowed : relationNames.length ≤ maxCatalogRows := by decide
  rw [List.length_map] at few ⊢
  exact few.trans allowed

theorem answerTable {name : PyStr} : Has (cs.map relationOf) true name ↔ PgCatalog.Listed k (py "r") name := by
  constructor
  · rintro ⟨r,here,key⟩
    obtain ⟨c,inside,rfl⟩ := List.mem_map.mp here
    obtain ⟨table,named⟩ := Prod.mk.inj key
    obtain ⟨listed,chosen⟩ := (answerMember answered).mp inside
    exact ⟨c,listed,chosen,eq_of_beq table,named⟩
  · rintro ⟨c,listed,chosen,kind,rfl⟩
    have inside := (answerMember answered).mpr ⟨listed,chosen⟩
    exact ⟨relationOf c,List.mem_map_of_mem inside,Prod.ext (beq_iff_eq.mpr kind) rfl⟩

theorem answerIndex {name : PyStr} : Has (cs.map relationOf) false name ↔ PgCatalog.Listed k (py "i") name := by
  constructor
  · rintro ⟨r,here,key⟩
    obtain ⟨c,inside,rfl⟩ := List.mem_map.mp here
    obtain ⟨table,named⟩ := Prod.mk.inj key
    obtain ⟨listed,chosen⟩ := (answerMember answered).mp inside
    have kind := (PgCatalog.selectedSource listed chosen).2.1
    simp only [relationKinds,List.mem_cons,List.not_mem_nil,or_false] at kind
    exact ⟨c,listed,chosen,kind.resolve_left (beq_eq_false_iff_ne.mp table),named⟩
  · rintro ⟨c,listed,chosen,kind,rfl⟩
    have inside := (answerMember answered).mpr ⟨listed,chosen⟩
    have other : py "i" ≠ py "r" := by decide
    refine ⟨relationOf c,List.mem_map_of_mem inside,Prod.ext (beq_eq_false_iff_ne.mpr ?_) rfl⟩
    rw [kind]
    exact other

theorem answerRequired : Required (cs.map relationOf) ↔ Complete k := by
  rw [PgCatalog.completeListed]
  constructor
  · intro h
    exact ⟨fun name here => (answerTable answered).mp (h.tables name here),
      fun name here => (answerIndex answered).mp (h.indexes name here)⟩
  · rintro ⟨tables,indexes⟩
    exact ⟨fun name here => (answerTable answered).mpr (tables name here),
      fun name here => (answerIndex answered).mpr (indexes name here)⟩

theorem answerSecured : Secured (cs.map relationOf) ↔ Isolated k := by
  constructor
  · rintro h c name which table
    have known : c.relname ∈ relationNames := by
      rw [table.name]
      rcases which with rfl | rfl <;> decide
    have inside := (answerMember answered).mpr
      ⟨table.current.listed,PgCatalog.tableSelected table.current table.kind known⟩
    have key : (relationOf c).key = (true,name) := Prod.ext (beq_iff_eq.mpr table.kind) table.name
    refine Prod.mk.inj (h (relationOf c) (List.mem_map_of_mem inside) ?_)
    rw [key]
    exact which.imp (congrArg _) (congrArg _)
  · rintro h r here which
    obtain ⟨c,inside,rfl⟩ := List.mem_map.mp here
    obtain ⟨listed,chosen⟩ := (answerMember answered).mp inside
    have current := (PgCatalog.selectedSource listed chosen).1
    have own : ∀ name, name = lifecycleTable ∨ name = checkpointTable → (relationOf c).key = (true,name) →
        (relationOf c).security = (true,true) := by
      intro name known key
      obtain ⟨kind,named⟩ := Prod.mk.inj key
      obtain ⟨enabled,forced⟩ := h c name known ⟨current,eq_of_beq kind,named⟩
      exact Prod.ext enabled forced
    exact which.elim (own _ (.inl rfl)) (own _ (.inr rfl))

end

theorem answerClasses {k : PgCatalog} {rows : List FetchedRow} (answered : rows.Perm k.catalogRows) :
    ∃ cs : List PgClass, rows = cs.map PgCatalog.row ∧ cs.Perm (k.classes.filter k.selected) := by
  rw [PgCatalog.rowsSelected] at answered
  have chosen := congrFun (congrFun (List.eq_map_comp_perm PgCatalog.row) rows) (k.classes.filter k.selected)
  exact chosen.mpr answered

/-- The rows come in any order. They are never found invalid: an incomplete schema is refused, then
one that leaves the lifecycle table or the checkpoint store open, and any other is accepted. -/
theorem restoreAcceptance (k : PgCatalog) {rows : List FetchedRow} (answered : rows.Perm k.catalogRows) {σ : Type}
    {answer : (s : InspectionCall) → σ → s.Reply × σ} {offset : σ → Nat} {content : Bytes}
    (stable : StableResource answer offset content) (st : σ) :
    (¬Complete k → inspectPostgresRestoreCatalog (inspectPostgresSchema.eval answer st).1 (some (.list rows)) =
      .error incomplete) ∧
    (Complete k → ¬Isolated k →
      inspectPostgresRestoreCatalog (inspectPostgresSchema.eval answer st).1 (some (.list rows)) = .error notIsolated) ∧
    (Complete k → Isolated k → ∃ present : Bool, (present = true ↔ ∃ c, IsTable k c checkpointTable) ∧
      inspectPostgresRestoreCatalog (inspectPostgresSchema.eval answer st).1 (some (.list rows)) =
        if 1 ≤ content.length ∧ content.length ≤ Schema.maxSchemaBytes then
          .ok (acceptedEvidence present ⟨sha256Hex content,content.length⟩)
        else .error (.schema Schema.wrongSize)) := by
  obtain ⟨cs,rfl,chosen⟩ := answerClasses answered
  have size := answerSize chosen
  have formed := answerFormed chosen
  rw [← answerRequired chosen,← answerSecured chosen]
  refine ⟨fun missing => missingRejected size formed missing,
    fun required exposed => exposedRejected size formed required exposed,fun required closed => ?_⟩
  obtain ⟨present,known,out⟩ := @securedAccepted _ _ (inspectPostgresSchema.eval answer st).1 size formed required closed
  refine ⟨present,?_,?_⟩
  · rw [known,answerTable chosen,PgCatalog.tableListed (by decide)]
  · refine out.trans ?_
    rw [schemaStable stable st]
    split <;> rfl

def packagedIndex (oid : Nat) (unique : Bool) (second third : String) : PgIndex where
  indexrelid := oid
  indrelid := 4
  indisunique := unique
  indisvalid := true
  indisready := true
  indpred := none
  indexprs := none
  indnkeyatts := 3
  indoption := [0,0,0]
  columns := [py "tenant_scope",py second,py third]

def packagedClasses : List PgClass :=
  requiredTables.zipIdx.map (fun (name,oid) =>
    ⟨oid,name,2200,py "r",2,decide (name = lifecycleTable),decide (name = lifecycleTable)⟩) ++
  [⟨20,statusIndex,2200,py "i",403,false,false⟩,⟨21,identityIndex,2200,py "i",403,false,false⟩]

def packagedCatalog : PgCatalog where
  namespaces := [⟨2200,py "public"⟩]
  classes := packagedClasses
  indexes := [packagedIndex 20 false "batch_status" "last_observed_at",
    packagedIndex 21 true "endpoint_alias" "remote_batch_id"]
  constraints := [⟨21,4,py "u",false⟩]
  accessMethods := [⟨403,py "btree"⟩]
  currentSchema := some (py "public")
  namespaceOids := by decide
  namespaceNames := by decide
  classOids := by decide +kernel
  classNames := by decide +kernel
  indexOids := by decide

theorem packagedComplete : Complete packagedCatalog := by
  refine PgCatalog.completeListed.mpr ?_
  unfold PgCatalog.Listed
  decide +kernel

theorem packagedIsolated : Isolated packagedCatalog := by
  have all : ∀ c ∈ packagedClasses, c.relname = lifecycleTable ∨ c.relname = checkpointTable →
      c.relrowsecurity = true ∧ c.relforcerowsecurity = true := by decide +kernel
  intro c name which table
  refine all c table.current.listed ?_
  rw [table.name]
  exact which

theorem packagedAccepted : ∃ present : Bool, (present = true ↔ ∃ c, IsTable packagedCatalog c checkpointTable) ∧
    inspectPostgresRestoreCatalog (inspectPostgresSchema.eval (calmFor [] smallSchema) 0).1
      (some (.list packagedCatalog.catalogRows)) = .ok (acceptedEvidence present ⟨sha256Hex smallSchema,1⟩) :=
  (restoreAcceptance packagedCatalog (.refl _) (calmForResource [] smallSchema) 0).2.2 packagedComplete packagedIsolated

end PgLlmBatch.RestoreAcceptance
