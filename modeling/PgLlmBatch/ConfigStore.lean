import PgLlmBatch.Exceptions
import PgLlmBatch.Base.PyNumber
import PgLlmBatch.Base.Table

/-! `PostgresConfigStore`: settings as text under their joined name in `com_config`, and as values
under a pair of names in the cache of the store. -/
namespace PgLlmBatch
open Base

def dot : PyChar := chr '.'

def fullKey (category key : PyStr) : PyStr := category ++ dot::key

structure DefaultItem where
  category : PyStr
  key : PyStr
  value : Json
  description : PyStr

def defaultConfigTree : List (PyStr × Option PyStr × List (PyStr × Json)) :=
  [(py "batch_size",some (py "Batch request size limit"),
      [(py "min",.int 100),(py "default",.int 50000),(py "max",.int 50000)]),
   (py "token_limits",some (py "Token count limits"),
      [(py "per_batch",.int 5000000000),(py "per_request",.int 128000),(py "buffer_percentage",.int 5)]),
   (py "azure_limits",some (py "Batch upload constraints"),
      [(py "max_records_per_file",.int 100000),(py "max_bytes_per_file",.int (200 * 1024 * 1024)),
       (py "max_files_per_job",.int 500)]),
   (py "optimization",some (py "Optimization features"),
      [(py "auto_split",.bool true),(py "smart_batching",.bool true)])]

def buildDefaultIndex (tree : List (PyStr × Option PyStr × List (PyStr × Json))) : List DefaultItem :=
  tree.flatMap (fun (category,description,settings) =>
    settings.map (fun (key,value) => ⟨category,key,value,description.getD (fullKey category key)⟩))

def defaultConfigIndex : List DefaultItem := buildDefaultIndex defaultConfigTree

def defaultItem (name : PyStr) : Option DefaultItem :=
  defaultConfigIndex.find? (fun item => decide (fullKey item.category item.key = name))

def defaultValue (category key : PyStr) (fallback : Json) : Json :=
  match defaultItem (fullKey category key) with
  | some item => item.value
  | none => fallback

-- What a caller sets: a JSON value, or any other object by the text that it serializes to.
inductive ConfigInput where
  | json (value : Json)
  | other (text : Except PyError PyStr)

def unicodeEscape (unit : Nat) : PyStr :=
  py "\\u" ++ [unit / 0x1000,unit / 0x100 % 0x10,unit / 0x10 % 0x10,unit % 0x10].map JsonText.hexDigit

-- `ensure_ascii=True`, applied to a text in which only strings hold such characters.
def escapeAscii (c : PyChar) : PyStr :=
  if 0x20 ≤ c.val ∧ c.val ≤ 0x7E then [c]
  else if c.val < 0x10000 then unicodeEscape c.val
  else unicodeEscape (0xD800 + (c.val - 0x10000) / 0x400) ++ unicodeEscape (0xDC00 + (c.val - 0x10000) % 0x400)

def numeralError {α : Type} : Except JsonError α → Except PyError α
  | .ok a => .ok a
  | .error .outOfRange => .error (.valueError "Exceeds the limit for integer string conversion")
  | .error _ => .error .raised

section
variable (i : Interpreter)

def configDumps (value : Json) : Except PyError PyStr :=
  (numeralError (JsonText.dumps i ⟨false,false,true⟩ value)).map (fun text => text.flatMap escapeAscii)

def serializeValue : ConfigInput → Except PyError PyStr
  | .json (.obj members) => configDumps i (.obj members)
  | .json (.arr items) => configDumps i (.arr items)
  | .json (.bool b) => configDumps i (.bool b)
  | .json value => numeralError (PyNumber.scalarText i value)
  | .other text => text

-- `json.loads(raw)`, and `none` for JSONDecodeError.
def configLoads (raw : PyStr) : Except PyError (Option Json) :=
  match JsonText.loads i JsonText.defaultHooks raw with
  | .ok decoded => .ok (some decoded)
  | .error .malformed => .ok none
  | .error e => numeralError (.error e)

def deserializeValue (name raw : PyStr) : Except PyError Json :=
  match (defaultItem name).map DefaultItem.value with
  | some (.obj members) => do match ← configLoads i raw with
      | some (.obj decoded) => return .obj decoded
      | _ => return .obj members
  | some (.arr items) => do match ← configLoads i raw with
      | some (.arr decoded) => return .arr decoded
      | _ => return .arr items
  | some (.bool standard) =>
      let lowered := raw.map PyChar.lower
      if lowered ∈ [py "true",py "1",py "yes",py "on"] then .ok (.bool true)
      else if lowered ∈ [py "false",py "0",py "no",py "off"] then .ok (.bool false)
      else .ok (.bool standard)
  | some (.int standard) => .ok (.int ((PyNumber.intOfText i raw).getD standard))
  | some (.float standard) => .ok (.float ((PyNumber.floatOfText raw).getD standard))
  | _ => .ok (.str raw)

structure ConfigRow where
  configKey : PyStr
  configValue : PyStr
  configDescription : PyStr

-- No writer but a store, so that every key is a joined name.
structure ConfigTable where
  rows : List ConfigRow
  distinct : (rows.map ConfigRow.configKey).Nodup
  dotted : ∀ row ∈ rows, dot ∈ row.configKey

namespace ConfigTable

def empty : ConfigTable := ⟨[],List.nodup_nil,fun _ here => absurd here List.not_mem_nil⟩

def find (t : ConfigTable) (name : PyStr) : Option ConfigRow := Table.find ConfigRow.configKey t.rows name

def put (t : ConfigTable) (category key value description : PyStr) : ConfigTable where
  rows := Table.put ConfigRow.configKey ⟨fullKey category key,value,description⟩ t.rows
  distinct := Table.putDistinct _ t.distinct
  dotted row here := by
    rcases Table.memPut here with rfl | old
    · exact List.mem_append_right _ List.mem_cons_self
    · exact t.dotted row old

-- `ON CONFLICT (config_key) DO NOTHING`
def insert (t : ConfigTable) (category key value description : PyStr) : ConfigTable :=
  match t.find (fullKey category key) with
  | some _ => t
  | none => t.put category key value description

end ConfigTable

def ensureDefault (t : ConfigTable) (item : DefaultItem) : Except PyError ConfigTable := do
  let text ← serializeValue i (.json item.value)
  return t.insert item.category item.key text item.description

def ensureDefaults (t : ConfigTable) : Except PyError ConfigTable := defaultConfigIndex.foldlM (ensureDefault i) t

abbrev ConfigCache := PyStr → PyStr → Option Json

def ConfigCache.put (cache : ConfigCache) (category key : PyStr) (value : Json) : ConfigCache :=
  fun c k => if c = category ∧ k = key then some value else cache c k

def splitFullKey (name : PyStr) : PyStr × PyStr :=
  match name.span (· != dot) with
  | (category,_::key) => (category,key)
  | (_,[]) => (py "global",name)

def loadRow (cache : ConfigCache) (row : ConfigRow) : Except PyError ConfigCache := do
  let (category,key) := splitFullKey row.configKey
  let value ← deserializeValue i row.configKey row.configValue
  return cache.put category key value

def loadCache (rows : List ConfigRow) : Except PyError ConfigCache := rows.foldlM (loadRow i) (fun _ _ => none)

structure ConfigStore where
  table : ConfigTable
  cache : ConfigCache

structure Opened (t : ConfigTable) (s : ConfigStore) : Prop where
  seeded : ensureDefaults i t = .ok s.table
  loaded : ∃ rows : List ConfigRow, rows.Perm s.table.rows ∧ loadCache i rows = .ok s.cache

-- psycopg refuses a text with NUL.
def bindConfigText (s : PyStr) : Except PyError PyStr :=
  if s.contains 0 then .error .raised else bindText s

def ConfigStore.get (s : ConfigStore) (category key : PyStr) (default : Json) : Except PyError Json × ConfigStore :=
  match s.cache category key with
  | some value => (.ok value,s)
  | none =>
      let name := fullKey category key
      match bindConfigText name with
      | .error e => (.error e,s)
      | .ok _ => match s.table.find name with
          | none => (.ok (defaultValue category key default),s)
          | some row => match deserializeValue i name row.configValue with
              | .error e => (.error e,s)
              | .ok value => (.ok value,{s with cache := s.cache.put category key value})

def normalizedValue (category key : PyStr) (value : ConfigInput) : Except PyError (Json × PyStr × PyStr) := do
  let name := fullKey category key
  let text ← serializeValue i value
  let normalized ← deserializeValue i name text
  let serialized ← serializeValue i (.json normalized)
  let description := ((defaultItem name).map DefaultItem.description).getD name
  let _ ← bindConfigText name
  let _ ← bindConfigText serialized
  let _ ← bindConfigText description
  return (normalized,serialized,description)

def ConfigStore.set (s : ConfigStore) (category key : PyStr) (value : ConfigInput) : Except PyError Unit × ConfigStore :=
  match normalizedValue i category key value with
  | .error e => (.error e,s)
  | .ok (normalized,serialized,description) =>
      (.ok (),⟨s.table.put category key serialized description,s.cache.put category key normalized⟩)

end

end PgLlmBatch
