import PgLlmBatch.Base.PyText

/-! `ipaddress.ip_address` over text: dotted quads, colon-separated hextets with one run of zeroes
left out, and a scope after a percent sign. `none` is a `ValueError`. -/
namespace PgLlmBatch.Base

inductive IpAddress where
  | v4 (value : Nat)
  | v6 (value : Nat)
  deriving DecidableEq, Repr

namespace IpAddress

def decimalValue (s : PyStr) : Nat := s.foldl (fun n c => 10 * n + (c.val - 0x30)) 0

def hexDigit (c : PyChar) : Option Nat :=
  if c.digit then some (c.val - 0x30)
  else if 0x41 ≤ c.val ∧ c.val ≤ 0x46 then some (c.val - 0x37)
  else if 0x61 ≤ c.val ∧ c.val ≤ 0x66 then some (c.val - 0x57)
  else none

def parseOctet (octet : PyStr) : Option Nat :=
  if octet = [] ∨ octet.all PyChar.digit = false ∨ 3 < octet.length then none
  else if octet ≠ [chr '0'] ∧ octet.head? = some (chr '0') then none
  else if 255 < decimalValue octet then none
  else some (decimalValue octet)

def parseV4 (text : PyStr) : Option Nat :=
  match (text.splitOn (chr '.')).mapM parseOctet with
  | some [a,b,c,d] => some (((a * 256 + b) * 256 + c) * 256 + d)
  | _ => none

def parseHextet (hextet : PyStr) : Option Nat :=
  if hextet = [] ∨ 4 < hextet.length then none
  else (hextet.mapM hexDigit).map (fun digits => digits.foldl (fun n d => 16 * n + d) 0)

-- An IPv4-style suffix stands for two hextets.
def parseHextets (text : PyStr) : Option (List (Option Nat)) :=
  let parts := text.splitOn (chr ':')
  let hextets := fun parts : List PyStr => parts.mapM (fun part => if part = [] then some none else (parseHextet part).map some)
  if parts.length < 3 then none
  else match parts.getLast? with
  | none => none
  | some suffix =>
      if chr '.' ∈ suffix then do
        let value ← parseV4 suffix
        let front ← hextets parts.dropLast
        return front ++ [some (value / 65536),some (value % 65536)]
      else hextets parts

def hextetsValue (hextets : List Nat) : Nat := hextets.foldl (fun n hextet => 65536 * n + hextet) 0

-- `none` among the parts is an empty one: one inside the ends skips a run of zeroes, and an end may
-- only be empty next to it.
def parseV6 (text : PyStr) : Option Nat := do
  let parts ← parseHextets text
  if 9 < parts.length then none
  let inside := (List.range parts.length).filter (fun i => decide (1 ≤ i ∧ i + 1 < parts.length) && (parts[i]?.join).isNone)
  match inside with
  | [] =>
      if parts.length ≠ 8 then none
      let hextets ← parts.mapM id
      return hextetsValue hextets
  | [skip] =>
      let above := parts.take skip
      let below := parts.drop (skip + 1)
      if above.head? = some none ∧ above.length ≠ 1 then none
      if below.getLast? = some none ∧ below.length ≠ 1 then none
      let high := above.filterMap id
      let low := below.filterMap id
      if 8 < high.length + low.length + 1 then none
      return hextetsValue (high ++ List.replicate (8 - high.length - low.length) 0 ++ low)
  | _ => none

def splitScopeId (text : PyStr) : Option PyStr :=
  let (address,rest) := text.span (· != chr '%')
  match rest with
  | [] => some address
  | _::scope => if scope = [] ∨ chr '%' ∈ scope then none else some address

def parse (text : PyStr) : Option IpAddress :=
  if chr '/' ∈ text then none
  else match parseV4 text with
  | some value => some (.v4 value)
  | none => do
      let address ← splitScopeId text
      let value ← parseV6 address
      return .v6 value

-- From Python 3.13 on, an IPv4-mapped address is what it maps to.
def isLoopback (mapped : Bool) : IpAddress → Bool
  | .v4 value => value / 2 ^ 24 == 127
  | .v6 value =>
      if mapped && value / 2 ^ 32 == 65535 then value % 2 ^ 32 / 2 ^ 24 == 127
      else value == 1

end IpAddress
end PgLlmBatch.Base
