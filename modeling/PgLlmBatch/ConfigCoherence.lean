import PgLlmBatch.ConfigStore
import PgLlmBatch.Base.Fallible

/-! When the cache of a store says what the table says: a row has one joined name, but as many
pairs of names as it has dots. -/
namespace PgLlmBatch
open Base

theorem splitJoined {name : PyStr} (dotted : dot ∈ name) :
    fullKey (splitFullKey name).1 (splitFullKey name).2 = name := by
  have parts := List.takeWhile_append_dropWhile (p := (· != dot)) (l := name)
  unfold splitFullKey
  rw [List.span_eq_takeWhile_dropWhile]
  cases rest : name.dropWhile (· != dot) with
  | nil =>
    have all := List.dropWhile_eq_nil_iff.mp rest dot dotted
    simp at all
  | cons c key =>
    have first : c = dot := by
      have stops := List.head?_dropWhile_not (· != dot) name
      rw [rest] at stops
      simpa using stops
    rw [rest,first] at parts
    exact parts

def plainDefault : Json → Bool
  | .int _ | .bool _ => true
  | _ => false

theorem defaultsPlain : ∀ item ∈ defaultConfigIndex, plainDefault item.value = true :=
  List.all_eq_true.mp (by decide : defaultConfigIndex.all (fun item => plainDefault item.value) = true)

theorem defaultKinds (name : PyStr) : (defaultItem name).map DefaultItem.value = none ∨
    (∃ n, (defaultItem name).map DefaultItem.value = some (.int n)) ∨
    ∃ b, (defaultItem name).map DefaultItem.value = some (.bool b) := by
  cases found : defaultItem name with
  | none => exact .inl rfl
  | some item =>
    have plain := defaultsPlain item (List.mem_of_find?_eq_some found)
    rw [Option.map_some]
    cases value : item.value with
    | int n => exact .inr (.inl ⟨n,rfl⟩)
    | bool b => exact .inr (.inr ⟨b,rfl⟩)
    | null => rw [value] at plain; cases plain
    | float f => rw [value] at plain; cases plain
    | str s => rw [value] at plain; cases plain
    | arr items => rw [value] at plain; cases plain
    | obj members => rw [value] at plain; cases plain

section
variable {i : Interpreter}

theorem readsBool (name raw : PyStr) {b : Bool} (kind : (defaultItem name).map DefaultItem.value = some (.bool b)) :
    ∃ c, deserializeValue i name raw = .ok (.bool c) := by
  unfold deserializeValue
  rw [kind]
  simp only []
  split
  · exact ⟨true,rfl⟩
  split
  · exact ⟨false,rfl⟩
  · exact ⟨b,rfl⟩

theorem readsTotal (name raw : PyStr) : ∃ v, deserializeValue i name raw = .ok v := by
  rcases defaultKinds name with kind | ⟨n,kind⟩ | ⟨b,kind⟩
  · exact ⟨.str raw,by unfold deserializeValue; rw [kind]⟩
  · exact ⟨_,by unfold deserializeValue; rw [kind]⟩
  · obtain ⟨c,read⟩ := @readsBool i name raw b kind
    exact ⟨.bool c,read⟩

theorem boolText (b : Bool) : serializeValue i (.json (.bool b)) = .ok (if b then py "true" else py "false") := by
  cases b <;> rfl

theorem numeralSource {α : Type} {e : Except JsonError α} {a : α} (h : numeralError e = .ok a) : e = .ok a := by
  cases e with
  | ok b =>
    cases h
    rfl
  | error x => cases x <;> cases h

theorem normalizedSettles {name raw text : PyStr} {v : Json} (read : deserializeValue i name raw = .ok v)
    (written : serializeValue i (.json v) = .ok text) : deserializeValue i name text = .ok v := by
  rcases defaultKinds name with kind | ⟨n,kind⟩ | ⟨b,kind⟩
  · have same : ∀ s, deserializeValue i name s = .ok (.str s) := fun s => by unfold deserializeValue; rw [kind]
    rw [same] at read
    cases read
    cases written
    exact same raw
  · have same : ∀ s, deserializeValue i name s = .ok (.int ((PyNumber.intOfText i s).getD n)) := fun s => by
      unfold deserializeValue
      rw [kind]
    rw [same] at read
    cases read
    have printed := numeralSource written
    rw [same,PyNumber.intRead printed,Option.getD_some]
  · obtain ⟨c,own⟩ := @readsBool i name raw b kind
    rw [own] at read
    cases read
    rw [boolText] at written
    cases written
    unfold deserializeValue
    rw [kind]
    cases c <;> rfl

def Stored (t : ConfigTable) (category key : PyStr) (v : Json) : Prop :=
  ∃ row, t.find (fullKey category key) = some row ∧ deserializeValue i (fullKey category key) row.configValue = .ok v

theorem findPutRow (t : ConfigTable) (category key value description name : PyStr) :
    (t.put category key value description).find name =
      if fullKey category key = name then some ⟨fullKey category key,value,description⟩ else t.find name :=
  Table.findPut _ _ _

theorem insertKeeps {t : ConfigTable} {name : PyStr} {row : ConfigRow} (here : t.find name = some row)
    (category key value description : PyStr) : (t.insert category key value description).find name = some row := by
  unfold ConfigTable.insert
  split
  · exact here
  · rename_i absent
    have apart : fullKey category key ≠ name := by
      rintro rfl
      rw [here] at absent
      cases absent
    rw [findPutRow,if_neg apart,here]

theorem seedKeeps {items : List DefaultItem} {t t' : ConfigTable} {name : PyStr} {row : ConfigRow}
    (h : items.foldlM (ensureDefault i) t = .ok t') (here : t.find name = some row) : t'.find name = some row := by
  induction items generalizing t with
  | nil =>
    cases h
    exact here
  | cons item items ih =>
    obtain ⟨mid,first,rest⟩ := Fallible.bindOk.mp h
    obtain ⟨text,-,made⟩ := Fallible.bindOk.mp first
    cases made
    exact ih rest (insertKeeps here ..)

theorem seedAgain {items : List DefaultItem} {t t' : ConfigTable} (h : items.foldlM (ensureDefault i) t = .ok t')
    (other : ConfigTable) : ∃ seeded, items.foldlM (ensureDefault i) other = .ok seeded := by
  induction items generalizing t other with
  | nil => exact ⟨other,rfl⟩
  | cons item items ih =>
    obtain ⟨mid,first,rest⟩ := Fallible.bindOk.mp h
    obtain ⟨text,written,-⟩ := Fallible.bindOk.mp first
    obtain ⟨seeded,done⟩ := ih rest (other.insert item.category item.key text item.description)
    refine ⟨seeded,Fallible.bindOk.mpr ⟨_,?_,done⟩⟩
    exact Fallible.bindOk.mpr ⟨text,written,rfl⟩

theorem loadRowSource {cache loaded : ConfigCache} {row : ConfigRow} (h : loadRow i cache row = .ok loaded) :
    ∃ v, deserializeValue i row.configKey row.configValue = .ok v ∧
      loaded = cache.put (splitFullKey row.configKey).1 (splitFullKey row.configKey).2 v := by
  obtain ⟨v,read,made⟩ := Fallible.bindOk.mp h
  exact ⟨v,read,(Except.ok.inj made).symm⟩

theorem loadGood {rows : List ConfigRow} {cache loaded : ConfigCache} (h : rows.foldlM (loadRow i) cache = .ok loaded)
    (dotted : ∀ row ∈ rows, dot ∈ row.configKey) {c k : PyStr} {v : Json} (cached : loaded c k = some v) :
    cache c k = some v ∨ ∃ row ∈ rows, row.configKey = fullKey c k ∧
      deserializeValue i row.configKey row.configValue = .ok v := by
  induction rows generalizing cache with
  | nil =>
    cases h
    exact .inl cached
  | cons row rows ih =>
    obtain ⟨mid,first,rest⟩ := Fallible.bindOk.mp h
    obtain ⟨value,read,rfl⟩ := loadRowSource first
    rcases ih rest (fun r here => dotted r (by simp [here])) with early | ⟨r,here,own⟩
    · unfold ConfigCache.put at early
      split at early
      · rename_i pair
        cases Option.some.inj early
        refine .inr ⟨row,by simp,?_,read⟩
        rw [pair.1,pair.2,splitJoined (dotted row (by simp))]
      · exact .inl early
    · exact .inr ⟨r,by simp [here],own⟩

theorem loadTotal (rows : List ConfigRow) (cache : ConfigCache) : ∃ loaded, rows.foldlM (loadRow i) cache = .ok loaded := by
  induction rows generalizing cache with
  | nil => exact ⟨cache,rfl⟩
  | cons row rows ih =>
    obtain ⟨v,read⟩ := @readsTotal i row.configKey row.configValue
    obtain ⟨loaded,done⟩ := ih (cache.put (splitFullKey row.configKey).1 (splitFullKey row.configKey).2 v)
    refine ⟨loaded,Fallible.bindOk.mpr ⟨_,?_,done⟩⟩
    exact Fallible.bindOk.mpr ⟨v,read,rfl⟩

theorem findRow {t : ConfigTable} {row : ConfigRow} (here : row ∈ t.rows) : t.find row.configKey = some row :=
  Table.findMine t.distinct here

theorem openedGood {t : ConfigTable} {s : ConfigStore} (opened : Opened i t s) {c k : PyStr} {v : Json}
    (cached : s.cache c k = some v) : Stored (i := i) s.table c k v := by
  obtain ⟨rows,perm,loaded⟩ := opened.loaded
  rcases loadGood loaded (fun row here => s.table.dotted row (perm.subset here)) cached with none_ | ⟨row,here,name,read⟩
  · cases none_
  · refine ⟨row,?_,name ▸ read⟩
    rw [← name]
    exact findRow (perm.subset here)

theorem openedGets {t : ConfigTable} {fresh : ConfigStore} (opened : Opened i t fresh) {category key : PyStr} {v : Json}
    (stored : Stored (i := i) t category key v) (bound : ∃ s, bindConfigText (fullKey category key) = .ok s)
    (default : Json) : (fresh.get i category key default).1 = .ok v := by
  obtain ⟨row,here,read⟩ := stored
  have kept := seedKeeps opened.seeded here
  unfold ConfigStore.get
  cases cached : fresh.cache category key with
  | some w =>
    obtain ⟨own,there,same⟩ := openedGood opened cached
    rw [kept] at there
    cases there
    rw [read] at same
    cases same
    rfl
  | none =>
    obtain ⟨s,text⟩ := bound
    simp only [text,kept,read]

theorem opens {t₀ t : ConfigTable} {s : ConfigStore} (opened : Opened i t₀ s) : ∃ fresh, Opened i t fresh := by
  obtain ⟨seeded,done⟩ := seedAgain opened.seeded t
  obtain ⟨loaded,read⟩ := @loadTotal i seeded.rows (fun _ _ => none)
  exact ⟨⟨seeded,loaded⟩,done,seeded.rows,.refl _,read⟩

end

inductive ConfigCall where
  | get (category key : PyStr) (default : Json)
  | set (category key : PyStr) (value : ConfigInput)

-- The store, and the joined names that it has set.
structure ConfigRun where
  store : ConfigStore
  names : List PyStr

section
variable (i : Interpreter)

def ConfigRun.step (r : ConfigRun) : ConfigCall → ConfigRun
  | .get category key default => {r with store := (r.store.get i category key default).2}
  | .set category key value => match r.store.set i category key value with
      | (.ok (),s) => ⟨s,r.names ++ [fullKey category key]⟩
      | (.error _,s) => {r with store := s}

def ConfigRun.after (r : ConfigRun) (calls : List ConfigCall) : ConfigRun := calls.foldl (ConfigRun.step i) r

-- Every pair of a name that was set reads what its row says, in this store and in any that opens now.
def Coherent (r : ConfigRun) : Prop := ∀ category key, fullKey category key ∈ r.names →
  ∃ row v, r.store.table.find (fullKey category key) = some row ∧
    deserializeValue i (fullKey category key) row.configValue = .ok v ∧
    (∀ default, (r.store.get i category key default).1 = .ok v) ∧
    (∃ fresh, Opened i r.store.table fresh) ∧
    ∀ fresh, Opened i r.store.table fresh → ∀ default, (fresh.get i category key default).1 = .ok v

-- No other pair of the name is in the cache with a value that the call replaces.
def Clear (s : ConfigStore) : ConfigCall → Prop
  | .get _ _ _ => True
  | .set category key value => ∀ normalized texts, normalizedValue i category key value = .ok (normalized,texts) →
      ∀ c k cached, fullKey c k = fullKey category key → ¬(c = category ∧ k = key) → s.cache c k = some cached →
        cached = normalized

structure SoundRun (r : ConfigRun) : Prop where
  cached : ∀ c k v, r.store.cache c k = some v → Stored (i := i) r.store.table c k v
  stored : ∀ name ∈ r.names, (∃ row, r.store.table.find name = some row) ∧ ∃ s, bindConfigText name = .ok s
  opened : ∃ fresh, Opened i r.store.table fresh

variable {i}

theorem getSource {s : ConfigStore} {category key : PyStr} {default : Json} :
    (s.get i category key default).2 = s ∨ ∃ v, Stored (i := i) s.table category key v ∧
      (s.get i category key default).2 = {s with cache := s.cache.put category key v} := by
  unfold ConfigStore.get
  split
  · exact .inl rfl
  simp only []
  split
  · exact .inl rfl
  split
  · exact .inl rfl
  rename_i row here
  split
  · exact .inl rfl
  · rename_i v read
    exact .inr ⟨v,⟨row,here,read⟩,rfl⟩

theorem soundCoherent {r : ConfigRun} (sound : SoundRun i r) : Coherent i r := by
  intro category key named
  obtain ⟨⟨row,here⟩,bound⟩ := sound.stored _ named
  obtain ⟨v,read⟩ := @readsTotal i (fullKey category key) row.configValue
  refine ⟨row,v,here,read,fun default => ?_,sound.opened,fun fresh opened default => openedGets opened ⟨row,here,read⟩ bound default⟩
  unfold ConfigStore.get
  cases cached : r.store.cache category key with
  | some w =>
    obtain ⟨own,there,same⟩ := sound.cached _ _ _ cached
    rw [here] at there
    cases there
    rw [read] at same
    cases same
    rfl
  | none =>
    obtain ⟨s,text⟩ := bound
    simp only [text,here,read]

theorem normalizedSource {category key : PyStr} {value : ConfigInput} {normalized : Json} {serialized description : PyStr}
    (h : normalizedValue i category key value = .ok (normalized,serialized,description)) :
    deserializeValue i (fullKey category key) serialized = .ok normalized ∧
      ∃ s, bindConfigText (fullKey category key) = .ok s := by
  obtain ⟨text,-,h⟩ := Fallible.bindOk.mp h
  obtain ⟨v,read,h⟩ := Fallible.bindOk.mp h
  obtain ⟨written,made,h⟩ := Fallible.bindOk.mp h
  obtain ⟨s,bound,h⟩ := Fallible.bindOk.mp h
  obtain ⟨_,_,h⟩ := Fallible.bindOk.mp h
  obtain ⟨_,_,h⟩ := Fallible.bindOk.mp h
  cases h
  exact ⟨normalizedSettles read made,s,bound⟩

theorem setRuns {r : ConfigRun} {category key : PyStr} {value : ConfigInput} {normalized : Json}
    {serialized description : PyStr} (h : normalizedValue i category key value = .ok (normalized,serialized,description)) :
    r.step i (.set category key value) = ⟨⟨r.store.table.put category key serialized description,
      r.store.cache.put category key normalized⟩,r.names ++ [fullKey category key]⟩ := by
  simp only [ConfigRun.step,ConfigStore.set,h]

theorem putCases {cache : ConfigCache} {category key c k : PyStr} {value v : Json}
    (h : cache.put category key value c k = some v) :
    (c = category ∧ k = key ∧ v = value) ∨ (¬(c = category ∧ k = key) ∧ cache c k = some v) := by
  unfold ConfigCache.put at h
  split at h
  · rename_i pair
    exact .inl ⟨pair.1,pair.2,(Option.some.inj h).symm⟩
  · rename_i other
    exact .inr ⟨other,h⟩

theorem soundGet {r : ConfigRun} (sound : SoundRun i r) (category key : PyStr) (default : Json) :
    SoundRun i (r.step i (.get category key default)) := by
  unfold ConfigRun.step
  rcases @getSource i r.store category key default with same | ⟨v,stored,same⟩
  · simp only [same]
    exact sound
  · simp only [same]
    refine ⟨fun c k w cached => ?_,sound.stored,sound.opened⟩
    rcases putCases cached with ⟨rfl,rfl,rfl⟩ | ⟨-,old⟩
    · exact stored
    · exact sound.cached c k w old

theorem soundSet {r : ConfigRun} (sound : SoundRun i r) {category key : PyStr} {value : ConfigInput}
    (clear : Clear i r.store (.set category key value)) : SoundRun i (r.step i (.set category key value)) := by
  cases made : normalizedValue i category key value with
  | error e =>
    simp only [ConfigRun.step,ConfigStore.set,made]
    exact sound
  | ok outcome =>
    obtain ⟨normalized,serialized,description⟩ := outcome
    obtain ⟨read,bound⟩ := normalizedSource made
    obtain ⟨old,opened⟩ := sound.opened
    rw [setRuns made]
    refine ⟨fun c k v cached => ?_,fun name listed => ?_,opens opened⟩
    · by_cases same : fullKey category key = fullKey c k
      · have own : v = normalized := by
          rcases putCases cached with ⟨-,-,own⟩ | ⟨other,earlier⟩
          · exact own
          · exact clear normalized _ made c k v same.symm other earlier
        refine ⟨⟨fullKey category key,serialized,description⟩,?_,?_⟩
        · exact (findPutRow ..).trans (if_pos same)
        · rw [← same,own]
          exact read
      · rcases putCases cached with ⟨rfl,rfl,-⟩ | ⟨-,earlier⟩
        · exact absurd rfl same
        · obtain ⟨row,here,its⟩ := sound.cached c k v earlier
          exact ⟨row,(findPutRow ..).trans ((if_neg same).trans here),its⟩
    · by_cases same : fullKey category key = name
      · exact ⟨⟨_,(findPutRow ..).trans (if_pos same)⟩,same ▸ bound⟩
      · rcases List.mem_append.mp listed with earlier | here
        · obtain ⟨⟨row,there⟩,its⟩ := sound.stored name earlier
          exact ⟨⟨row,(findPutRow ..).trans ((if_neg same).trans there)⟩,its⟩
        · exact absurd (List.mem_singleton.mp here).symm same

theorem soundStep {r : ConfigRun} (sound : SoundRun i r) {call : ConfigCall} (clear : Clear i r.store call) :
    SoundRun i (r.step i call) := by
  cases call with
  | get category key default => exact soundGet sound category key default
  | set category key value => exact soundSet sound clear

theorem coherentClear {r : ConfigRun} {call : ConfigCall} (coherent : Coherent i (r.step i call)) : Clear i r.store call := by
  cases call with
  | get category key default => trivial
  | set category key value =>
    rintro normalized ⟨serialized,description⟩ made c k cached same other here
    obtain ⟨read,-⟩ := normalizedSource made
    rw [setRuns made] at coherent
    obtain ⟨row,v,there,its,gets,-⟩ := coherent c k (List.mem_append_right _ (List.mem_singleton.mpr same))
    have written := (findPutRow r.store.table category key serialized description (fullKey c k)).trans (if_pos same.symm)
    have found : some _ = some row := written.symm.trans there
    cases found
    rw [same,read] at its
    cases its
    have kept : r.store.cache.put category key normalized c k = some cached := (if_neg other).trans here
    have seen := gets .null
    simp only [ConfigStore.get,kept] at seen
    exact Except.ok.inj seen

theorem coherentRun {r : ConfigRun} (sound : SoundRun i r) (calls : List ConfigCall) :
    (∀ before after, calls = before ++ after → Coherent i (r.after i before)) ↔
      ∀ before call after, calls = before ++ call::after → Clear i (r.after i before).store call := by
  constructor
  · intro coherent before call after same
    have next := coherent (before ++ [call]) after (by rw [same,List.append_assoc]; rfl)
    unfold ConfigRun.after at next
    rw [List.foldl_append] at next
    exact coherentClear next
  · intro clear before after same
    refine soundCoherent ?_
    induction before generalizing r calls with
    | nil => exact sound
    | cons call before ih =>
      subst same
      have own : SoundRun i (r.step i call) := soundStep sound (clear [] call (before ++ after) rfl)
      exact ih own (before ++ after) (fun b c a split => clear (call::b) c a (by rw [List.cons_append,split,List.cons_append])) rfl

/-- A store stays coherent in every state of a run exactly when no set call gives a row another value while another
pair of the row's name is in the cache. -/
theorem configCoherent {t : ConfigTable} {s : ConfigStore} (opened : Opened i t s) (calls : List ConfigCall) :
    (∀ before after, calls = before ++ after → Coherent i (ConfigRun.after i ⟨s,[]⟩ before)) ↔
      ∀ before call after, calls = before ++ call::after → Clear i (ConfigRun.after i ⟨s,[]⟩ before).store call :=
  coherentRun ⟨fun _ _ _ cached => openedGood opened cached,fun _ listed => absurd listed List.not_mem_nil,
    opens opened⟩ calls

end

def configInterpreter : Interpreter := ⟨1000,some 4300,usualDepth⟩

theorem emptyOpens : ∃ s, Opened configInterpreter .empty s := by
  have seeds : (ensureDefaults configInterpreter .empty).toOption.isSome = true := by decide +kernel
  cases seeded : ensureDefaults configInterpreter .empty with
  | error e =>
    rw [seeded] at seeds
    cases seeds
  | ok t =>
    obtain ⟨loaded,read⟩ := @loadTotal configInterpreter t.rows (fun _ _ => none)
    exact ⟨⟨t,loaded⟩,seeded,t.rows,.refl _,read⟩

def setText (category key value : String) : ConfigCall := .set (py category) (py key) (.json (.str (py value)))

theorem firstNormalized : normalizedValue configInterpreter (py "a.b") (py "c") (.json (.str (py "1"))) =
    .ok (.str (py "1"),py "1",py "a.b.c") := by rfl

theorem secondNormalized : normalizedValue configInterpreter (py "a") (py "b.c") (.json (.str (py "2"))) =
    .ok (.str (py "2"),py "2",py "a.b.c") := by rfl

theorem againNormalized : normalizedValue configInterpreter (py "a.b") (py "c") (.json (.str (py "2"))) =
    .ok (.str (py "2"),py "2",py "a.b.c") := by rfl

theorem seedsApart {s : ConfigStore} (opened : Opened configInterpreter .empty s) {c k : PyStr} {v : Json}
    (cached : s.cache c k = some v) : fullKey c k ≠ py "a.b.c" := by
  obtain ⟨row,found,-⟩ := openedGood opened cached
  have apart : (ensureDefaults configInterpreter .empty).toOption.all (fun t => (t.find (py "a.b.c")).isNone) = true := by
    decide +kernel
  rw [opened.seeded] at apart
  simp only [Except.toOption,Option.all_some,Option.isNone_iff_eq_none] at apart
  intro same
  rw [same,apart] at found
  cases found

theorem clearAlone {s : ConfigStore} {category key : PyStr} {value : ConfigInput}
    (alone : ∀ c k v, s.cache c k = some v → fullKey c k = fullKey category key → c = category ∧ k = key) :
    Clear configInterpreter s (.set category key value) :=
  fun _ _ _ c k cached same other here => absurd (alone c k cached here same) other

def resetAndRead : List ConfigCall :=
  [setText "a.b" "c" "1",setText "a.b" "c" "2",.get (py "a") (py "b.c") .null]

theorem resetCoherent : ∃ s, Opened configInterpreter .empty s ∧
    (∀ before after, resetAndRead = before ++ after →
      Coherent configInterpreter (ConfigRun.after configInterpreter ⟨s,[]⟩ before)) ∧
    ((ConfigRun.after configInterpreter ⟨s,[]⟩ (resetAndRead.take 2)).store.get configInterpreter (py "a") (py "b.c")
      .null).1 = .ok (.str (py "2")) := by
  obtain ⟨s,opened⟩ := emptyOpens
  have first : ConfigRun.step configInterpreter ⟨s,[]⟩ (setText "a.b" "c" "1") = _ := setRuns firstNormalized
  have second : ConfigRun.step configInterpreter (ConfigRun.step configInterpreter ⟨s,[]⟩ (setText "a.b" "c" "1"))
      (setText "a.b" "c" "2") = _ := setRuns againNormalized
  have clear : ∀ before call after, resetAndRead = before ++ call::after →
      Clear configInterpreter (ConfigRun.after configInterpreter ⟨s,[]⟩ before).store call := by
    intro before call after same
    rcases before with _ | ⟨b₁,_ | ⟨b₂,rest⟩⟩
    · cases same
      exact clearAlone (fun c k v cached name => absurd name (seedsApart opened cached))
    · cases same
      refine clearAlone (fun c k v cached name => ?_)
      change (ConfigRun.step configInterpreter ⟨s,[]⟩ (setText "a.b" "c" "1")).store.cache c k = some v at cached
      rw [first] at cached
      rcases putCases cached with ⟨own,its,-⟩ | ⟨-,earlier⟩
      · exact ⟨own,its⟩
      · exact absurd name (seedsApart opened earlier)
    · have last : call = .get (py "a") (py "b.c") .null := by
        have here : call ∈ rest ++ call::after := by simp
        have same : [ConfigCall.get (py "a") (py "b.c") .null] = rest ++ call::after := by
          have tails := congrArg (List.drop 2) same
          exact tails
        rw [← same] at here
        exact List.mem_singleton.mp here
      rw [last]
      trivial
  have coherent := (configCoherent opened resetAndRead).mpr clear
  refine ⟨s,opened,coherent,?_⟩
  have name : fullKey (py "a") (py "b.c") = py "a.b.c" := rfl
  have listed : fullKey (py "a") (py "b.c") ∈
      (ConfigRun.after configInterpreter ⟨s,[]⟩ (resetAndRead.take 2)).names := by
    change _ ∈ (ConfigRun.step configInterpreter (ConfigRun.step configInterpreter ⟨s,[]⟩ (setText "a.b" "c" "1"))
      (setText "a.b" "c" "2")).names
    rw [second]
    exact List.mem_append_right _ (List.mem_singleton.mpr rfl)
  obtain ⟨row,v,found,read,gets,-⟩ := coherent (resetAndRead.take 2) (resetAndRead.drop 2) rfl _ _ listed
  change (ConfigRun.step configInterpreter (ConfigRun.step configInterpreter ⟨s,[]⟩ (setText "a.b" "c" "1"))
    (setText "a.b" "c" "2")).store.table.find _ = some row at found
  rw [second] at found
  have written := (findPutRow _ (py "a.b") (py "c") (py "2") (py "a.b.c") (fullKey (py "a") (py "b.c"))).symm.trans found
  cases written
  rw [gets,← read]
  rfl

theorem otherPairStale : ∃ s, Opened configInterpreter .empty s ∧
    ¬Coherent configInterpreter (ConfigRun.after configInterpreter ⟨s,[]⟩ [setText "a.b" "c" "1",setText "a" "b.c" "2"]) := by
  obtain ⟨s,opened⟩ := emptyOpens
  refine ⟨s,opened,fun coherent => ?_⟩
  have clear := @coherentClear configInterpreter (ConfigRun.step configInterpreter ⟨s,[]⟩ (setText "a.b" "c" "1"))
    (setText "a" "b.c" "2") coherent
  have first : ConfigRun.step configInterpreter ⟨s,[]⟩ (setText "a.b" "c" "1") = _ := setRuns firstNormalized
  rw [first] at clear
  have stale := clear (.str (py "2")) _ secondNormalized (py "a.b") (py "c") (.str (py "1")) (by decide) (by decide) rfl
  exact absurd (Json.str.inj stale) (by decide)

end PgLlmBatch
