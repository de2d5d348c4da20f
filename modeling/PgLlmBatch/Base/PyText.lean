import Mathlib

/-! Python text: strings of code points, lone surrogates included, their trimming and
their UTF-8 codec. `decodeUtf8` is strict and reports where a bad sequence starts. -/
namespace PgLlmBatch.Base

abbrev PyChar := Fin 0x110000
abbrev PyStr := List PyChar
abbrev Bytes := List UInt8

instance charactersSome : NeZero (0x110000 : Nat) := ⟨by decide⟩
instance charactersLawful : LawfulBEq PyChar := inferInstance
instance textsLawful : LawfulBEq PyStr := inferInstance

theorem digitBelow (n : Nat) : 0x30 + n % 10 < 0x110000 := by omega
theorem letterBelow (n : Nat) : 0x61 + n % 16 - 10 < 0x110000 := by omega

def chr (c : Char) : PyChar := ⟨c.toNat,by
  have valid : Nat.isValidChar c.toNat := c.valid
  unfold Nat.isValidChar at valid
  omega⟩

def py (s : String) : PyStr := s.toList.map chr

namespace PyChar

def space (c : PyChar) : Bool :=
  (0x09 ≤ c.val && c.val ≤ 0x0D) || (0x1C ≤ c.val && c.val ≤ 0x20) || c.val == 0x85 ||
    c.val == 0xA0 || c.val == 0x1680 || (0x2000 ≤ c.val && c.val ≤ 0x200A) || c.val == 0x2028 ||
    c.val == 0x2029 || c.val == 0x202F || c.val == 0x205F || c.val == 0x3000

def digit (c : PyChar) : Bool := 0x30 ≤ c.val && c.val ≤ 0x39
def alphanumeric (c : PyChar) : Bool :=
  c.digit || (0x41 ≤ c.val && c.val ≤ 0x5A) || (0x61 ≤ c.val && c.val ≤ 0x7A)
def surrogate (c : PyChar) : Bool := 0xD800 ≤ c.val && c.val ≤ 0xDFFF

/-- UTF-8 of one code point; a surrogate has none. -/
def utf8 (c : PyChar) : Option Bytes :=
  let n := c.val
  if n < 0x80 then some [.ofNat n]
  else if n < 0x800 then some [.ofNat (0xC0 + n / 0x40),.ofNat (0x80 + n % 0x40)]
  else if c.surrogate then none
  else if n < 0x10000 then
    some [.ofNat (0xE0 + n / 0x1000),.ofNat (0x80 + n / 0x40 % 0x40),.ofNat (0x80 + n % 0x40)]
  else some [.ofNat (0xF0 + n / 0x40000),.ofNat (0x80 + n / 0x1000 % 0x40),
    .ofNat (0x80 + n / 0x40 % 0x40),.ofNat (0x80 + n % 0x40)]

end PyChar

namespace PyStr

def strip (s : PyStr) : PyStr := (s.dropWhile PyChar.space).rdropWhile PyChar.space

def encodeUtf8 : PyStr → Option Bytes
  | [] => some []
  | c::s => do
      let head ← c.utf8
      let tail ← encodeUtf8 s
      some (head ++ tail)

end PyStr

-- Text as a PostgreSQL TEXT value holds it: Unicode scalar values other than NUL.
structure PgText where
  text : PyStr
  stored : ∀ c ∈ text, c.surrogate = false ∧ c ≠ 0
  deriving DecidableEq

def PgText.of (text : PyStr) (ok : text.all (fun c => !c.surrogate && c != 0) = true) : PgText :=
  ⟨text,fun c here => by simpa using List.all_eq_true.mp ok c here⟩

theorem stripSettled (s : PyStr) : s.strip.strip = s.strip := by
  have trimmed : s.strip.dropWhile PyChar.space = s.strip := by
    rw [List.dropWhile_eq_self_iff]
    intro some_ blank
    have start := List.rdropWhile_prefix PyChar.space (s.dropWhile PyChar.space)
    have first := start.getElem some_
    have nonempty := lt_of_lt_of_le some_ start.length_le
    have lead := List.dropWhile_get_zero_not PyChar.space s nonempty
    rw [List.get_eq_getElem] at lead
    exact lead (first ▸ blank)
  rw [PyStr.strip,trimmed]
  exact List.rdropWhile_idempotent _ _

theorem utf8Scalar {c : PyChar} (h : c.surrogate = false) : ∃ bs, c.utf8 = some bs := by
  unfold PyChar.utf8
  simp only [h,Bool.false_eq_true,if_false]
  split
  · exact ⟨_,rfl⟩
  split
  · exact ⟨_,rfl⟩
  split
  · exact ⟨_,rfl⟩
  · exact ⟨_,rfl⟩

theorem scalarUtf8 {c : PyChar} {bs : Bytes} (h : c.utf8 = some bs) : c.surrogate = false := by
  unfold PyChar.utf8 at h
  dsimp only at h
  by_contra other
  have surrogate : c.surrogate = true := by simpa using other
  have range := surrogate
  simp only [PyChar.surrogate,Bool.and_eq_true,decide_eq_true_eq] at range
  rw [if_neg (by omega),if_neg (by omega),if_pos surrogate] at h
  cases h

theorem encodeScalars {s : PyStr} (h : ∀ c ∈ s, c.surrogate = false) : ∃ bs, s.encodeUtf8 = some bs := by
  induction s with
  | nil => exact ⟨[],rfl⟩
  | cons c s ih =>
    obtain ⟨head,first⟩ := utf8Scalar (h c (by simp))
    obtain ⟨tail,rest⟩ := ih (fun d here => h d (by simp [here]))
    exact ⟨head ++ tail,by simp only [PyStr.encodeUtf8,first,rest,Option.bind_eq_bind,Option.bind_some]⟩

theorem encodeAppend {s t : PyStr} {a b : Bytes} (first : s.encodeUtf8 = some a) (rest : t.encodeUtf8 = some b) :
    (s ++ t).encodeUtf8 = some (a ++ b) := by
  induction s generalizing a with
  | nil =>
    cases Option.some.inj first
    exact rest
  | cons c s ih =>
    simp only [PyStr.encodeUtf8,Option.bind_eq_bind,Option.bind_eq_some_iff] at first
    obtain ⟨head,one,tail,others,made⟩ := first
    cases Option.some.inj made
    simp only [List.cons_append,PyStr.encodeUtf8,one,ih others,Option.bind_eq_bind,Option.bind_some,
      List.append_assoc]

namespace Utf8

def tail (b : UInt8) : Bool := 0x80 ≤ b && b ≤ 0xBF

def second (a b : UInt8) : Bool :=
  if a == 0xE0 then 0xA0 ≤ b && b ≤ 0xBF
  else if a == 0xED then 0x80 ≤ b && b ≤ 0x9F
  else if a == 0xF0 then 0x90 ≤ b && b ≤ 0xBF
  else if a == 0xF4 then 0x80 ≤ b && b ≤ 0x8F
  else tail b

def decodeOne : Bytes → Option (PyChar × Bytes)
  | [] => none
  | a::as =>
      if a < 0x80 then some (Fin.ofNat _ a.toNat,as)
      else match as with
        | [] => none
        | b::bs =>
            if 0xC2 ≤ a && a ≤ 0xDF && tail b then
              some (Fin.ofNat _ ((a.toNat - 0xC0) * 0x40 + (b.toNat - 0x80)),bs)
            else match bs with
              | [] => none
              | c::cs =>
                  if 0xE0 ≤ a && a ≤ 0xEF && second a b && tail c then
                    some (Fin.ofNat _ ((a.toNat - 0xE0) * 0x1000 + (b.toNat - 0x80) * 0x40 +
                      (c.toNat - 0x80)),cs)
                  else match cs with
                    | [] => none
                    | d::ds =>
                        if 0xF0 ≤ a && a ≤ 0xF4 && second a b && tail c && tail d then
                          some (Fin.ofNat _ ((a.toNat - 0xF0) * 0x40000 + (b.toNat - 0x80) * 0x1000 +
                            (c.toNat - 0x80) * 0x40 + (d.toNat - 0x80)),ds)
                        else none

-- The first argument bounds the code points still to read, the second is the offset.
def decodeFrom : Nat → Nat → Bytes → Except Nat PyStr
  | _, _, [] => .ok []
  | 0, start, _ => .error start
  | n+1, start, bs => match decodeOne bs with
      | none => .error start
      | some (c,rest) => (decodeFrom n (start + (bs.length - rest.length)) rest).map (c::·)

end Utf8

def decodeUtf8 (bs : Bytes) : Except Nat PyStr := Utf8.decodeFrom bs.length 0 bs

example : decodeUtf8 [0x68,0xC3,0xA9,0xE2,0x82,0xAC,0xF0,0x9F,0x98,0x80] = .ok (py "hé€😀") := by rfl
example : decodeUtf8 [0x61,0xED,0xA0,0x80] = .error 1 := by rfl

end PgLlmBatch.Base
