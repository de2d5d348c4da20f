import PgLlmBatch.Base.PyFloat

/-! Comparison, product and halving of floats, and `float(n)` of an int. -/
namespace PgLlmBatch.Base.PyFloat

def zero : PyFloat := .finite false 0 (-1074)

def unitsOver (low : Int) (negative : Bool) (mantissa : Nat) (exponent : Int) : Int :=
  let units : Int := mantissa * 2 ^ (exponent - low).toNat
  if negative then -units else units

def lt : PyFloat → PyFloat → Bool
  | .nan, _ => false
  | _, .nan => false
  | .infinite a, .infinite b => a && !b
  | .infinite a, .finite _ _ _ => a
  | .finite _ _ _, .infinite b => !b
  | .finite a m e, .finite b n f => decide (unitsOver (min e f) a m e < unitsOver (min e f) b n f)

def isNan : PyFloat → Bool
  | .nan => true
  | _ => false

def le (a b : PyFloat) : Bool := !a.isNan && !b.isNan && !b.lt a

-- `min(a, b)` and `max(a, b)` take the first unless the second is beyond it.
def minimum (a b : PyFloat) : PyFloat := if b.lt a then b else a
def maximum (a b : PyFloat) : PyFloat := if a.lt b then b else a

def rounded (negative : Bool) (mantissa : Nat) (exponent : Int) : PyFloat :=
  if 0 ≤ exponent then ofRatio negative (mantissa * 2 ^ exponent.toNat) 1
  else ofRatio negative mantissa (2 ^ (-exponent).toNat)

def mul : PyFloat → PyFloat → PyFloat
  | .nan, _ => .nan
  | _, .nan => .nan
  | .infinite a, .infinite b => .infinite (a != b)
  | .infinite a, .finite b n _ => if n = 0 then .nan else .infinite (a != b)
  | .finite a m _, .infinite b => if m = 0 then .nan else .infinite (a != b)
  | .finite a m e, .finite b n f => rounded (a != b) (m * n) (e + f)

def half : PyFloat → PyFloat
  | .finite a m e => rounded a m (e - 1)
  | a => a

-- `float(n)`, which raises OverflowError from 2^1024 on.
def ofInt (n : Int) : Option PyFloat :=
  match ofRatio (decide (n < 0)) n.natAbs 1 with
  | .finite negative mantissa exponent => some (.finite negative mantissa exponent)
  | _ => none

example : (ofDecimal false 5 (-1)).mul (ofDecimal false 4 0) = ofDecimal false 2 0 := by decide +kernel
example : (ofDecimal false 5 (-1)).half = ofDecimal false 25 (-2) := by decide +kernel
example : (ofDecimal false 3 1).lt (ofDecimal false 31 0) = true := by decide +kernel

end PgLlmBatch.Base.PyFloat
