import Mathlib

/-! Python floats: IEEE 754 binary64 values, and the correctly rounded value of a decimal
numeral. A finite value is mantissa times two to the exponent, in its one normal form. -/
namespace PgLlmBatch.Base

inductive PyFloat where
  | finite (negative : Bool) (mantissa : Nat) (exponent : Int)
  | infinite (negative : Bool)
  | nan
  deriving DecidableEq, Repr

namespace PyFloat

def isFinite : PyFloat → Bool
  | .finite _ _ _ => true
  | _ => false

def roundDiv (num den : Nat) : Nat :=
  let q := num / den
  let twice := 2 * (num % den)
  if den < twice ∨ (den = twice ∧ q % 2 = 1) then q + 1 else q

def scaled (num den : Nat) (exponent : Int) : Nat × Nat :=
  if 0 ≤ exponent then (num,den * 2 ^ exponent.toNat) else (num * 2 ^ (-exponent).toNat,den)

-- The exponent at which the mantissa has 53 bits, but never below the subnormals.
def exponentOf (num den : Nat) : Int :=
  let guess : Int := (Nat.log 2 num : Int) - Nat.log 2 den - 52
  let (n,d) := scaled num den guess
  max (if n < d * 2 ^ 52 then guess - 1 else guess) (-1074)

def ofRatio (negative : Bool) (num den : Nat) : PyFloat :=
  if num = 0 then .finite negative 0 (-1074)
  else
    let exponent := exponentOf num den
    let (n,d) := scaled num den exponent
    let mantissa := roundDiv n d
    let rounded : Nat × Int := if mantissa = 2 ^ 53 then (2 ^ 52,exponent + 1) else (mantissa,exponent)
    if 971 < rounded.2 then .infinite negative else .finite negative rounded.1 rounded.2

def ofDecimal (negative : Bool) (digits : Nat) (power : Int) : PyFloat :=
  if 0 ≤ power then ofRatio negative (digits * 10 ^ power.toNat) 1
  else ofRatio negative digits (10 ^ (-power).toNat)

-- One less than the number of digits before the point; negative for values below one.
def decimalExponent (num den : Nat) : Int :=
  if den ≤ num then Nat.log 10 (num / den) else -(Nat.clog 10 ((den + num - 1) / num) : Int)

def neighbours (num den : Nat) (power : Int) : List Nat :=
  let (n,d) := if 0 ≤ power then (num,den * 10 ^ power.toNat) else (num * 10 ^ (-power).toNat,den)
  let near := roundDiv n d
  if near = n / d then [near,near + 1] else [near,near - 1]

-- Sign, digits and power of ten of `repr`: the fewest digits that read back as the value.
def shortest : PyFloat → Option (Bool × Nat × Int)
  | .infinite _ | .nan => none
  | .finite negative 0 _ => some (negative,0,0)
  | .finite negative (m+1) exponent =>
      let (num,den) := if 0 ≤ exponent then ((m+1) * 2 ^ exponent.toNat,1) else (m+1,2 ^ (-exponent).toNat)
      let leading := decimalExponent num den
      (List.range 17).findSome? (fun (n : Nat) =>
        let power := leading - n
        (neighbours num den power).findSome? (fun digits =>
          if ofDecimal negative digits power = .finite negative (m+1) exponent then
            some (if digits = 10 then (negative,1,power + 1) else (negative,digits,power)) else none))

theorem ratioRounded (negative : Bool) {num den n d : Nat} {e : Int} (top : num ≠ 0) (exponent : exponentOf num den = e)
    (ratio : scaled num den e = (n,d)) :
    ofRatio negative num den =
      let mantissa := roundDiv n d
      let rounded : Nat × Int := if mantissa = 2 ^ 53 then (2 ^ 52,e + 1) else (mantissa,e)
      if 971 < rounded.2 then .infinite negative else .finite negative rounded.1 rounded.2 := by
  have opened : ofRatio negative num den = match scaled num den (exponentOf num den) with
    | (n,d) =>
      let mantissa := roundDiv n d
      let rounded : Nat × Int :=
        if mantissa = 2 ^ 53 then (2 ^ 52,exponentOf num den + 1) else (mantissa,exponentOf num den)
      if 971 < rounded.2 then .infinite negative else .finite negative rounded.1 rounded.2 := if_neg top
  rw [opened,exponent,ratio]

theorem ratioSame (negative : Bool) {num den num' den' n d n' d' : Nat} {e : Int} (top : num ≠ 0) (top' : num' ≠ 0)
    (exponent : exponentOf num den = e) (exponent' : exponentOf num' den' = e) (ratio : scaled num den e = (n,d))
    (ratio' : scaled num' den' e = (n',d')) (mantissa : roundDiv n d = roundDiv n' d') :
    ofRatio negative num den = ofRatio negative num' den' := by
  rw [ratioRounded negative top exponent ratio,ratioRounded negative top' exponent' ratio',mantissa]

example : ofDecimal false 15 (-1) = .finite false (3 * 2 ^ 51) (-52) := by decide +kernel
example : ofDecimal false 1 (-1) = .finite false 0x1999999999999A (-56) := by decide +kernel
example : ofDecimal false (2 ^ 53 * 10 - 6) (-1) = .finite false (2 ^ 53 - 1) 0 := by decide +kernel
example : (ofDecimal false 1 (-1)).shortest = some (false,1,-1) := by decide +kernel
example : (ofDecimal false 1 23).shortest = some (false,1,23) := by decide +kernel
example : (ofDecimal false 123456789012345678 0).shortest = some (false,12345678901234568,1) := by decide +kernel
example : (ofDecimal true 5 (-324)).shortest = some (true,5,-324) := by decide +kernel
example : ofDecimal true 1 400 = .infinite true := by decide +kernel

end PyFloat
end PgLlmBatch.Base
