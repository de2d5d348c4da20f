import PgLlmBatch.Base.PyText
import PgLlmBatch.Base.PyFloat

/-! Decoded JSON as Python holds it: None, bool, int, float, str, list and dict. A dict is
the list of its members in insertion order. -/
namespace PgLlmBatch.Base

inductive Json where
  | null
  | bool (value : Bool)
  | int (value : Int)
  | float (value : PyFloat)
  | str (value : PyStr)
  | arr (items : List Json)
  | obj (members : List (PyStr × Json))
  deriving Repr

namespace Json

def get? (members : List (PyStr × Json)) (name : PyStr) : Option Json :=
  (members.find? (fun m => m.1 == name)).map Prod.snd

-- `dict.get`: a missing member reads as None.
def get (members : List (PyStr × Json)) (name : PyStr) : Json := (get? members name).getD .null

-- `d[name] = value`: an old name keeps its place.
def set (members : List (PyStr × Json)) (name : PyStr) (value : Json) : List (PyStr × Json) :=
  if members.any (fun m => m.1 == name) then members.map (fun m => if m.1 = name then (name,value) else m)
  else members ++ [(name,value)]

-- `d.setdefault(name, value)`.
def setDefault (members : List (PyStr × Json)) (name : PyStr) (value : Json) : List (PyStr × Json) :=
  if members.any (fun m => m.1 == name) then members else members ++ [(name,value)]

-- `type(value).__name__`.
def typeName : Json → String
  | .null => "NoneType"
  | .bool _ => "bool"
  | .int _ => "int"
  | .float _ => "float"
  | .str _ => "str"
  | .arr _ => "list"
  | .obj _ => "dict"

-- `bool(value)`.
def truthy : Json → Bool
  | .null => false
  | .bool b => b
  | .int n => n != 0
  | .float (.finite _ m _) => m != 0
  | .float _ => true
  | .str s => !s.isEmpty
  | .arr xs => !xs.isEmpty
  | .obj ms => !ms.isEmpty

theorem findMapped (members : List (PyStr × Json)) (name other : PyStr) (value : Json) :
    (members.map (fun m => if m.1 = name then (name,value) else m)).find? (fun m => m.1 == other) =
      (members.find? (fun m => m.1 == other)).map (fun m => if m.1 = name then (name,value) else m) := by
  rw [List.find?_map]
  congr 2
  funext m
  by_cases same : m.1 = name
  · simp [same]
  · simp [same]

theorem getSetSome (members : List (PyStr × Json)) (name : PyStr) (value : Json) :
    get? (set members name value) name = some value := by
  unfold get? set
  split
  · rename_i present
    obtain ⟨m,here,same⟩ := List.any_eq_true.mp present
    rw [findMapped]
    cases found : members.find? (fun m => m.1 == name) with
    | none => exact absurd same (List.find?_eq_none.mp found m here)
    | some old =>
      have named : old.1 = name := by simpa using List.find?_some found
      simp [named]
  · rename_i absent
    have none_ : members.find? (fun m => m.1 == name) = none := by
      rw [List.find?_eq_none]
      exact fun m here same => absent (List.any_eq_true.mpr ⟨m,here,same⟩)
    simp [List.find?_append,none_]

theorem getSet (members : List (PyStr × Json)) (name : PyStr) (value : Json) :
    get (set members name value) name = value := by
  rw [get,getSetSome,Option.getD_some]

theorem getSetOther (members : List (PyStr × Json)) {name other : PyStr} (value : Json) (apart : other ≠ name) :
    get? (set members name value) other = get? members other := by
  unfold get? set
  split
  · rw [findMapped]
    cases found : members.find? (fun m => m.1 == other) with
    | none => rfl
    | some old =>
      have named : old.1 = other := by simpa using List.find?_some found
      simp [named,apart]
  · simp [List.find?_append,apart.symm]

theorem setDefaultOther (members : List (PyStr × Json)) {name other : PyStr} (value : Json) (apart : other ≠ name) :
    get? (setDefault members name value) other = get? members other := by
  unfold get? setDefault
  split
  · rfl
  · simp [List.find?_append,apart.symm]

theorem setDefaultOwn (members : List (PyStr × Json)) (name : PyStr) (value : Json) :
    get? (setDefault members name value) name = some ((get? members name).getD value) := by
  unfold get? setDefault
  cases found : members.find? (fun m => m.1 == name) with
  | none =>
    have absent : members.any (fun m => m.1 == name) = false :=
      List.any_eq_false.mpr (fun m here => List.find?_eq_none.mp found m here)
    simp [absent,List.find?_append,found]
  | some m =>
    have present : members.any (fun m => m.1 == name) = true :=
      List.any_eq_true.mpr ⟨m,List.mem_of_find?_eq_some found,by simpa using List.find?_some found⟩
    simp [present,found]

end Json
end PgLlmBatch.Base
