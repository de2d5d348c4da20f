import PgLlmBatch.Base.NumberText

/-! `int(text)`, `float(text)` and `str(value)`: the numerals that Python reads, with blanks around
them, digits of any script and single underscores between digits. -/
namespace PgLlmBatch.Base

def decimalZeros : List Nat :=
  [0x30,0x660,0x6f0,0x7c0,0x966,0x9e6,0xa66,0xae6,0xb66,0xbe6,0xc66,0xce6,0xd66,0xde6,0xe50,0xed0,0xf20,0x1040,
   0x1090,0x17e0,0x1810,0x1946,0x19d0,0x1a80,0x1a90,0x1b50,0x1bb0,0x1c40,0x1c50,0xa620,0xa8d0,0xa900,0xa9d0,0xa9f0,
   0xaa50,0xabf0,0xff10,0x104a0,0x10d30,0x11066,0x110f0,0x11136,0x111d0,0x112f0,0x11450,0x114d0,0x11650,0x116c0,
   0x11730,0x118e0,0x11950,0x11c50,0x11d50,0x11da0,0x16a60,0x16ac0,0x16b50,0x1d7ce,0x1d7d8,0x1d7e2,0x1d7ec,0x1d7f6,
   0x1e140,0x1e2f0,0x1e950,0x1fbf0]

namespace PyChar

def decimal (c : PyChar) : Option Nat :=
  decimalZeros.findSome? (fun z => if z ≤ c.val ∧ c.val < z + 10 then some (c.val - z) else none)

def asciiBlank (c : PyChar) : Bool := (0x09 ≤ c.val && c.val ≤ 0x0D) || c.val == 0x20

-- What a numeral is read as: every other character becomes one that no numeral has.
def numeric (c : PyChar) : PyChar :=
  if c.val < 0x7F then c
  else if c.space then chr ' '
  else match c.decimal with
    | some d => ⟨0x30 + d % 10,digitBelow d⟩
    | none => chr '?'

def lower (c : PyChar) : PyChar := if 0x41 ≤ c.val ∧ c.val ≤ 0x5A then ⟨(c.val + 0x20) % 0x110000,by omega⟩ else c

end PyChar

namespace PyNumber
open JsonText

def underscore : PyChar := chr '_'
def plus : PyChar := chr '+'

def trimmed (s : PyStr) : PyStr :=
  ((s.map PyChar.numeric).dropWhile PyChar.asciiBlank).rdropWhile PyChar.asciiBlank

def splitSign : PyStr → Bool × PyStr
  | [] => (false,[])
  | c::s => if c = minus then (true,s) else if c = plus then (false,s) else (false,c::s)

def ungrouped : Bool → PyStr → Option PyStr
  | _, [] => some []
  | afterDigit, c::s =>
      if c = underscore then
        if afterDigit && (s.head?.map PyChar.digit).getD false then ungrouped false s else none
      else (ungrouped c.digit s).map (c :: ·)

def digits (s : PyStr) : Option PyStr :=
  match ungrouped false s with
  | some ds => if ds.isEmpty || !ds.all PyChar.digit then none else some ds
  | none => none

def intOfText (i : Interpreter) (s : PyStr) : Option Int :=
  let (negative,body) := splitSign (trimmed s)
  match digits body with
  | none => none
  | some ds =>
      if Interpreter.allows i ds.length then some (if negative then -(natOf ds : Int) else natOf ds) else none

def exponentOfText : PyStr → Option Int
  | [] => some 0
  | c::s =>
      if c.lower = chr 'e' then
        let (negative,body) := splitSign s
        if body.isEmpty || !body.all PyChar.digit then none
        else some (if negative then -(natOf body : Int) else natOf body)
      else none

def floatOfText (s : PyStr) : Option PyFloat :=
  let (negative,body) := splitSign (trimmed s)
  let word := body.map PyChar.lower
  if word = py "inf" ∨ word = py "infinity" then some (.infinite negative)
  else if word = py "nan" then some .nan
  else match ungrouped false body with
    | none => none
    | some plain =>
        let (whole,rest) := plain.span PyChar.digit
        let (fraction,rest) := match rest with
          | c::tail => if c = point then tail.span PyChar.digit else ([],rest)
          | [] => ([],rest)
        if (whole ++ fraction).isEmpty then none
        else match exponentOfText rest with
          | none => none
          | some power => some (.ofDecimal negative (natOf (whole ++ fraction)) (power - fraction.length))

def scalarText (i : Interpreter) : Json → Except JsonError PyStr
  | .null => .ok (py "None")
  | .bool b => .ok (if b then py "True" else py "False")
  | .int n => dumpInt i n
  | .float (.infinite negative) => .ok (if negative then py "-inf" else py "inf")
  | .float .nan => .ok (py "nan")
  | .float f => dumpFloat ⟨false,false,true⟩ f
  | .str s => .ok s
  | .arr _ | .obj _ => .error .malformed

def sampled : Interpreter := ⟨1000,some 4300,usualDepth⟩

example : intOfText sampled (py " +1_000 ") = some 1000 := by decide +kernel
example : (intOfText sampled (py "1__0"),intOfText sampled (py "- 1"),intOfText sampled (py "_1")) = (none,none,none) := by
  decide +kernel
example : floatOfText (py "-1_0.5e-1") = some (.ofDecimal true 105 (-2)) := by decide +kernel
example : (floatOfText (py "1_.0"),floatOfText (py "."),floatOfText (py "1e")) = (none,none,none) := by decide +kernel

theorem digitNumeric {c : PyChar} (digit : c.digit = true) : c.numeric = c := by
  simp only [PyChar.digit,Bool.and_eq_true,decide_eq_true_eq] at digit
  exact if_pos (by omega)

theorem digitSolid {c : PyChar} (digit : c.digit = true) : c.asciiBlank = false := by
  simp only [PyChar.digit,Bool.and_eq_true,decide_eq_true_eq] at digit
  simp only [PyChar.asciiBlank,Bool.or_eq_false_iff,Bool.and_eq_false_iff,decide_eq_false_iff_not,beq_eq_false_iff_ne]
  omega

theorem solidTrimmed {s : PyStr} (numeric : ∀ c ∈ s, c.numeric = c) (solid : ∀ c ∈ s, c.asciiBlank = false) :
    trimmed s = s := by
  have same : s.map PyChar.numeric = s := by
    rw [List.map_congr_left numeric,List.map_id']
  have front : s.dropWhile PyChar.asciiBlank = s := by
    cases s with
    | nil => rfl
    | cons c s => exact List.dropWhile_cons_of_neg (by rw [solid c (by simp)]; exact Bool.false_ne_true)
  unfold trimmed
  rw [same,front,List.rdropWhile_eq_self_iff]
  intro some_ blank
  rw [solid _ (List.getLast_mem some_)] at blank
  cases blank

theorem digitsUngrouped {ds : PyStr} (all : ∀ c ∈ ds, c.digit = true) (after : Bool) : ungrouped after ds = some ds := by
  induction ds generalizing after with
  | nil => rfl
  | cons c ds ih =>
    have plain : c ≠ underscore := by
      rintro rfl
      exact absurd (all underscore (by simp)) (by decide)
    rw [ungrouped,if_neg plain,ih (fun d here => all d (by simp [here]))]
    rfl

theorem digitsRead {ds : PyStr} (some_ : ds ≠ []) (all : ∀ c ∈ ds, c.digit = true) : digits ds = some ds := by
  unfold digits
  rw [digitsUngrouped all]
  have whole : ds.all PyChar.digit = true := List.all_eq_true.mpr all
  have present : ds.isEmpty = false := by simpa using some_
  simp only [whole,present,Bool.not_true,Bool.or_self,Bool.false_eq_true,if_false]

theorem intRead {i : Interpreter} {n : Int} {text : PyStr} (h : dumpInt i n = .ok text) :
    intOfText i text = some n := by
  have all := digitsAre n.natAbs
  have value := natOfDigits n.natAbs
  obtain ⟨c,s,lead,-⟩ := digitsLead n.natAbs
  have some_ : digitsOf n.natAbs ≠ [] := by
    rw [lead]
    exact List.cons_ne_nil _ _
  unfold dumpInt at h
  simp only [] at h
  split at h
  · rename_i fits
    by_cases below : n < 0
    · rw [if_pos below] at h
      cases h
      have whole : trimmed (minus::digitsOf n.natAbs) = minus::digitsOf n.natAbs := by
        refine solidTrimmed (fun d here => ?_) (fun d here => ?_)
        · rcases List.mem_cons.mp here with rfl | digit
          · decide
          · exact digitNumeric (all d digit)
        · rcases List.mem_cons.mp here with rfl | digit
          · decide
          · exact digitSolid (all d digit)
      simp only [intOfText,whole,splitSign,if_true,digitsRead some_ all,fits,value,Option.some.injEq]
      omega
    · rw [if_neg below] at h
      cases h
      have whole := solidTrimmed (fun d here => digitNumeric (all d here)) (fun d here => digitSolid (all d here))
      have unsigned : splitSign (digitsOf n.natAbs) = (false,digitsOf n.natAbs) := by
        have digit := all c (by rw [lead]; simp)
        have notMinus : c ≠ minus := (notDigit digit (by decide)).symm
        have notPlus : c ≠ plus := (notDigit digit (by decide)).symm
        rw [lead,splitSign,if_neg notMinus,if_neg notPlus]
      simp only [intOfText,whole,unsigned,digitsRead some_ all,fits,if_true,value,Bool.false_eq_true,if_false,
        Option.some.injEq]
      omega
  · cases h

end PyNumber
end PgLlmBatch.Base
