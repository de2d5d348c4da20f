import PgLlmBatch.Base.Json

/-! `json.dumps` and `json.loads` of CPython as functions on code points: the escapes of
`ensure_ascii=False`, the C scanner's grammar with its leniences, the two parser hooks,
the integer digit limit and the nesting that the recursion limit leaves room for. -/
namespace PgLlmBatch.Base

structure Interpreter where
  depth : Nat
  maxStrDigits : Option Nat
  roomy : 16 ≤ depth

theorem usualDepth : 16 ≤ 1000 := by decide

inductive JsonError where | malformed | refused | recursion | outOfRange
  deriving DecidableEq, Repr

namespace JsonText

def quote : PyChar := 0x22
def backslash : PyChar := 0x5C
def comma : PyChar := 0x2C
def colon : PyChar := 0x3A
def openBracket : PyChar := 0x5B
def closeBracket : PyChar := 0x5D
def openBrace : PyChar := 0x7B
def closeBrace : PyChar := 0x7D
def minus : PyChar := 0x2D
def point : PyChar := 0x2E
def zero : PyChar := 0x30
def letterU : PyChar := 0x75
def byteOrderMark : PyChar := 0xFEFF

def jsonSpace (c : PyChar) : Bool := c.val == 0x20 || c.val == 0x09 || c.val == 0x0A || c.val == 0x0D

def digitsOf (n : Nat) : PyStr := (Nat.toDigits 10 n).map chr

def natOf (s : PyStr) : Nat := s.foldl (fun n c => 10 * n + (c.val - 48)) 0

def Interpreter.allows (i : Interpreter) (digits : Nat) : Bool :=
  match i.maxStrDigits with
  | none => true
  | some limit => digits ≤ limit

def hexDigit (n : Nat) : PyChar := chr (Nat.digitChar n)

def escapeChar (c : PyChar) : PyStr :=
  if c = quote then [backslash,quote]
  else if c = backslash then [backslash,backslash]
  else if c.val = 0x08 then py "\\b"
  else if c.val = 0x0C then py "\\f"
  else if c.val = 0x0A then py "\\n"
  else if c.val = 0x0D then py "\\r"
  else if c.val = 0x09 then py "\\t"
  else if c.val < 0x20 then py "\\u00" ++ [hexDigit (c.val / 16),hexDigit (c.val % 16)]
  else [c]

def escape (s : PyStr) : PyStr := s.flatMap escapeChar

def dumpString (s : PyStr) : PyStr := quote :: escape s ++ [quote]

-- `separators=(",", ":")` is compact; the default separators add a blank.
structure DumpStyle where
  compact : Bool
  sortKeys : Bool
  allowNan : Bool
  deriving DecidableEq, Repr

-- `repr` of a float: shortest digits that read back, positional from 1e-4 up to 1e16.
def dumpFloat (style : DumpStyle) (f : PyFloat) : Except JsonError PyStr :=
  match f.shortest with
  | none =>
      if style.allowNan then
        .ok (match f with
          | .infinite true => py "-Infinity"
          | .infinite false => py "Infinity"
          | _ => py "NaN")
      else .error .outOfRange
  | some (negative,digits,power) =>
      let sign := if negative then py "-" else []
      let text := digitsOf digits
      let position : Int := text.length + power
      if -4 < position ∧ position ≤ 16 then
        if position ≤ 0 then .ok (sign ++ py "0." ++ List.replicate (-position).toNat zero ++ text)
        else if text.length ≤ position.toNat then
          .ok (sign ++ text ++ List.replicate (position.toNat - text.length) zero ++ py ".0")
        else .ok (sign ++ text.take position.toNat ++ [point] ++ text.drop position.toNat)
      else
        let scale := position - 1
        let shown := digitsOf scale.natAbs
        .ok (sign ++ text.take 1 ++ (if text.length = 1 then [] else point :: text.drop 1) ++
          (if scale < 0 then py "e-" else py "e+") ++ (if shown.length = 1 then zero :: shown else shown))

def dumpInt (i : Interpreter) (n : Int) : Except JsonError PyStr :=
  let digits := digitsOf n.natAbs
  if Interpreter.allows i digits.length then .ok (if n < 0 then minus :: digits else digits)
  else .error .outOfRange

def DumpStyle.gap (style : DumpStyle) : PyStr := if style.compact then [] else py " "

mutual
def dumpValue (i : Interpreter) (style : DumpStyle) (depth : Nat) : Json → Except JsonError PyStr
  | .null => .ok (py "null")
  | .bool b => .ok (if b then py "true" else py "false")
  | .int n => dumpInt i n
  | .float f => dumpFloat style f
  | .str s => .ok (dumpString s)
  | .arr xs => match depth with
      | 0 => .error .recursion
      | d+1 => do
          let text ← dumpItems i style d xs
          return openBracket :: text ++ [closeBracket]
  | .obj ms => match depth with
      | 0 => .error .recursion
      | d+1 => do
          let text ← dumpMembers i style d ms
          return openBrace :: text ++ [closeBrace]
def dumpItems (i : Interpreter) (style : DumpStyle) (depth : Nat) : List Json → Except JsonError PyStr
  | [] => .ok []
  | [x] => dumpValue i style depth x
  | x::y::ys => do
      let head ← dumpValue i style depth x
      let tail ← dumpItems i style depth (y::ys)
      return head ++ comma :: style.gap ++ tail
def dumpMembers (i : Interpreter) (style : DumpStyle) (depth : Nat) :
    List (PyStr × Json) → Except JsonError PyStr
  | [] => .ok []
  | [(k,x)] => do
      let value ← dumpValue i style depth x
      return dumpString k ++ colon :: style.gap ++ value
  | (k,x)::m::ms => do
      let value ← dumpValue i style depth x
      let tail ← dumpMembers i style depth (m::ms)
      return dumpString k ++ colon :: style.gap ++ value ++ comma :: style.gap ++ tail
end

def nameLe (a b : PyStr × Json) : Prop := a.1 = b.1 ∨ List.Lex (fun c d : PyChar => c < d) a.1 b.1
instance : DecidableRel nameLe := fun a b => by unfold nameLe; infer_instance

mutual
def sortNames : Json → Json
  | .arr xs => .arr (sortItems xs)
  | .obj ms => .obj ((sortMembers ms).insertionSort nameLe)
  | .null => .null
  | .bool b => .bool b
  | .int n => .int n
  | .float f => .float f
  | .str s => .str s
def sortItems : List Json → List Json
  | [] => []
  | x::xs => sortNames x :: sortItems xs
def sortMembers : List (PyStr × Json) → List (PyStr × Json)
  | [] => []
  | (k,x)::ms => (k,sortNames x) :: sortMembers ms
end

def dumps (i : Interpreter) (style : DumpStyle) (value : Json) : Except JsonError PyStr :=
  dumpValue i style i.depth (if style.sortKeys then sortNames value else value)

structure Hooks where
  pairs : List (PyStr × Json) → Except JsonError Json
  float : PyFloat → Except JsonError Json
  constant : PyFloat → Except JsonError Json

def skipSpace (s : PyStr) : PyStr := s.dropWhile jsonSpace

def hexValue (c : PyChar) : Option Nat :=
  if c.digit then some (c.val - 48)
  else if 0x41 ≤ c.val ∧ c.val ≤ 0x46 then some (c.val - 55)
  else if 0x61 ≤ c.val ∧ c.val ≤ 0x66 then some (c.val - 87)
  else none

def scanHex : PyStr → Option (Nat × PyStr)
  | a::b::c::d::s => do
      let w ← hexValue a
      let x ← hexValue b
      let y ← hexValue c
      let z ← hexValue d
      some (4096 * w + 256 * x + 16 * y + z,s)
  | _ => none

def simpleEscape (c : PyChar) : Option PyChar :=
  if c = quote ∨ c = backslash ∨ c.val = 0x2F then some c
  else if c = chr 'b' then some 0x08
  else if c = chr 'f' then some 0x0C
  else if c = chr 'n' then some 0x0A
  else if c = chr 'r' then some 0x0D
  else if c = chr 't' then some 0x09
  else none

def highSurrogate (n : Nat) : Bool := 0xD800 ≤ n && n ≤ 0xDBFF
def lowSurrogate (n : Nat) : Bool := 0xDC00 ≤ n && n ≤ 0xDFFF

-- What follows the backslash. A high surrogate takes a low one that is escaped right after it.
def scanEscape : PyStr → Option (PyChar × PyStr)
  | [] => none
  | e::s =>
      if e = letterU then do
        let (n,s) ← scanHex s
        match s with
        | x::y::t =>
            if highSurrogate n ∧ x = backslash ∧ y = letterU then do
              let (m,t) ← scanHex t
              if lowSurrogate m then
                some (Fin.ofNat _ (0x10000 + (n - 0xD800) * 0x400 + (m - 0xDC00)),t)
              else some (Fin.ofNat _ n,s)
            else some (Fin.ofNat _ n,s)
        | _ => some (Fin.ofNat _ n,s)
      else (simpleEscape e).map (fun c => (c,s))

-- After the opening quote. The first argument bounds the characters still to read.
def scanString : Nat → PyStr → Option (PyStr × PyStr)
  | 0, _ => none
  | _+1, [] => none
  | n+1, c::s =>
      if c = quote then some ([],s)
      else if c = backslash then do
        let (x,s) ← scanEscape s
        let (text,s) ← scanString n s
        some (x::text,s)
      else if c.val < 0x20 then none
      else do
        let (text,s) ← scanString n s
        some (c::text,s)

structure Numeral where
  negative : Bool
  whole : PyStr
  fraction : PyStr
  exponent : Option (Bool × PyStr)

def scanWhole : PyStr → Option (PyStr × PyStr)
  | [] => none
  | c::s =>
      if c = zero then some ([c],s)
      else if c.digit then some (c :: s.takeWhile PyChar.digit,s.dropWhile PyChar.digit)
      else none

def scanFraction : PyStr → PyStr × PyStr
  | c::d::s =>
      if c = point ∧ d.digit then (d :: s.takeWhile PyChar.digit,s.dropWhile PyChar.digit)
      else ([],c::d::s)
  | s => ([],s)

def scanExponent (s : PyStr) : Option (Bool × PyStr) × PyStr :=
  match s with
  | e::t =>
      if e = chr 'e' ∨ e = chr 'E' then
        let (negative,t) := match t with
          | c::u => if c = minus then (true,u) else if c = chr '+' then (false,u) else (false,t)
          | [] => (false,t)
        match t.takeWhile PyChar.digit with
        | [] => (none,s)
        | d::ds => (some (negative,d::ds),t.dropWhile PyChar.digit)
      else (none,s)
  | [] => (none,s)

def scanSign : PyStr → Bool × PyStr
  | c::s => if c = minus then (true,s) else (false,c::s)
  | [] => (false,[])

def scanNumber (s : PyStr) : Option (Numeral × PyStr) := do
  let (negative,t) := scanSign s
  let (whole,t) ← scanWhole t
  let (fraction,t) := scanFraction t
  let (exponent,t) := scanExponent t
  some (⟨negative,whole,fraction,exponent⟩,t)

def Numeral.read (i : Interpreter) (hooks : Hooks) (n : Numeral) : Except JsonError Json :=
  if n.fraction.isEmpty ∧ n.exponent.isNone then
    if Interpreter.allows i n.whole.length then
      .ok (.int (if n.negative then -(natOf n.whole : Int) else natOf n.whole))
    else .error .outOfRange
  else
    let power : Int := match n.exponent with
      | none => 0
      | some (true,ds) => -(natOf ds : Int)
      | some (false,ds) => natOf ds
    hooks.float (.ofDecimal n.negative (natOf (n.whole ++ n.fraction)) (power - n.fraction.length))

def consumeWord (word s : PyStr) : Option PyStr := if word.isPrefixOf s then some (s.drop word.length) else none

def scanScalar (i : Interpreter) (hooks : Hooks) (s : PyStr) : Except JsonError (Json × PyStr) :=
  if let some t := consumeWord (py "null") s then .ok (.null,t)
  else if let some t := consumeWord (py "true") s then .ok (.bool true,t)
  else if let some t := consumeWord (py "false") s then .ok (.bool false,t)
  else if let some t := consumeWord (py "NaN") s then (hooks.constant .nan).map (·,t)
  else if let some t := consumeWord (py "Infinity") s then (hooks.constant (.infinite false)).map (·,t)
  else if let some t := consumeWord (py "-Infinity") s then (hooks.constant (.infinite true)).map (·,t)
  else match scanNumber s with
    | none => .error .malformed
    | some (n,t) => (n.read i hooks).map (·,t)

def scanText (n : Nat) (s : PyStr) : Except JsonError (PyStr × PyStr) :=
  match s with
  | c::t => if c = quote then match scanString n t with
        | some r => .ok r
        | none => .error .malformed
      else .error .malformed
  | [] => .error .malformed

-- The first argument bounds the calls still to make, the second the nesting still allowed.
mutual
def scanValue (i : Interpreter) (hooks : Hooks) : Nat → Nat → PyStr → Except JsonError (Json × PyStr)
  | 0, _, _ => .error .malformed
  | _, _, [] => .error .malformed
  | n+1, depth, c::s =>
      if c = quote then (scanText n (c::s)).map (fun r => (.str r.1,r.2))
      else if c = openBracket then match depth with
        | 0 => .error .recursion
        | d+1 => match skipSpace s with
          | [] => .error .malformed
          | b::t =>
              if b = closeBracket then .ok (.arr [],t)
              else (scanItems i hooks n d (b::t)).map (fun r => (.arr r.1,r.2))
      else if c = openBrace then match depth with
        | 0 => .error .recursion
        | d+1 => match skipSpace s with
          | [] => .error .malformed
          | b::t =>
              if b = closeBrace then (hooks.pairs []).map (·,t)
              else do
                let (ms,t) ← scanMembers i hooks n d (b::t)
                let value ← hooks.pairs ms
                return (value,t)
      else scanScalar i hooks (c::s)
def scanItems (i : Interpreter) (hooks : Hooks) :
    Nat → Nat → PyStr → Except JsonError (List Json × PyStr)
  | 0, _, _ => .error .malformed
  | n+1, d, s => do
      let (x,s) ← scanValue i hooks n d s
      match skipSpace s with
      | [] => .error .malformed
      | c::t =>
          if c = closeBracket then return ([x],t)
          else if c = comma then do
            let (xs,t) ← scanItems i hooks n d (skipSpace t)
            return (x::xs,t)
          else .error .malformed
def scanMembers (i : Interpreter) (hooks : Hooks) :
    Nat → Nat → PyStr → Except JsonError (List (PyStr × Json) × PyStr)
  | 0, _, _ => .error .malformed
  | n+1, d, s => do
      let (k,s) ← scanText n s
      match skipSpace s with
      | [] => .error .malformed
      | c::t =>
          if c = colon then do
            let (x,t) ← scanValue i hooks n d (skipSpace t)
            match skipSpace t with
            | [] => .error .malformed
            | c::t =>
                if c = closeBrace then return ([(k,x)],t)
                else if c = comma then do
                  let (ms,t) ← scanMembers i hooks n d (skipSpace t)
                  return ((k,x)::ms,t)
                else .error .malformed
          else .error .malformed
end

def fuelFor (s : PyStr) : Nat := 2 * s.length + 2

def loads (i : Interpreter) (hooks : Hooks) (s : PyStr) : Except JsonError Json :=
  if s.head? = some byteOrderMark then .error .malformed
  else do
    let (value,rest) ← scanValue i hooks (fuelFor s) i.depth (skipSpace s)
    if (skipSpace rest).isEmpty then return value else .error .malformed

def hasDuplicateNames (members : List (PyStr × Json)) : Bool := !decide (members.map Prod.fst).Nodup

-- `dict(pairs)`: a repeated name keeps its place and takes the later value.
def dictOf (pairs : List (PyStr × Json)) : List (PyStr × Json) :=
  pairs.foldl (fun members m =>
    if members.any (fun old => old.1 == m.1) then members.map (fun old => if old.1 = m.1 then m else old)
    else members ++ [m]) []

def defaultHooks : Hooks := ⟨fun pairs => .ok (.obj (dictOf pairs)),fun f => .ok (.float f),fun f => .ok (.float f)⟩

-- Duplicate names, non-finite numbers and the constants NaN and Infinity are refused.
def strictHooks : Hooks where
  pairs members := if hasDuplicateNames members then .error .refused else .ok (.obj members)
  float f := if f.isFinite then .ok (.float f) else .error .refused
  constant _ := .error .refused

end JsonText
end PgLlmBatch.Base
