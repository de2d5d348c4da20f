import PgLlmBatch.Base.Utf8

/-! The command line's bounded readers of standard input: a secret of one line, and the text that
is to be counted. Each looks at a prefix that is a little longer than what it accepts. -/
namespace PgLlmBatch
open Base

def maxSecretInputCharacters : Nat := 65536
def maxTokenInputBytes : Nat := 1048576

-- "\n\r\v\f\x1c\x1d\x1e\x85\u2028\u2029"
def secretLineSeparators : List PyChar := [0x0A,0x0D,0x0B,0x0C,0x1C,0x1D,0x1E,0x85,0x2028,0x2029]

structure ConfigError where
  message : String
  deriving DecidableEq, Repr

-- A terminal answers the prompt unless it cannot switch its echo off; anything else is read as text.
inductive SecretSource where
  | terminal (answer : Option PyStr)
  | text (s : PyStr)

def validateSecretInput (value : PyStr) : Except ConfigError PyStr :=
  if value.isEmpty then .error ⟨"Secret value must not be empty"⟩
  else if maxSecretInputCharacters < value.length then
    .error ⟨s!"Secret value must not exceed {maxSecretInputCharacters} characters"⟩
  else if secretLineSeparators.any (value.contains ·) then .error ⟨"Secret value must be a single line"⟩
  else .ok value

def withoutLineEnding (raw : PyStr) : PyStr :=
  if (py "\r\n").isSuffixOf raw then raw.take (raw.length - 2)
  else if (py "\n").isSuffixOf raw then raw.take (raw.length - 1)
  else raw

def readSecretInput : SecretSource → Except ConfigError PyStr
  | .terminal none => .error ⟨"Echo-free interactive secret input is unavailable"⟩
  | .terminal (some secretValue) => validateSecretInput secretValue
  | .text s => validateSecretInput (withoutLineEnding (s.take (maxSecretInputCharacters + 3)))

structure SecretLine (r : PyStr) : Prop where
  filled : r ≠ []
  bounded : r.length ≤ maxSecretInputCharacters
  single : ∀ c ∈ r, c ∉ secretLineSeparators

theorem secretValid (value r : PyStr) : validateSecretInput value = .ok r ↔ value = r ∧ SecretLine r := by
  unfold validateSecretInput
  constructor
  · intro h
    split at h
    · cases h
    rename_i some_
    split at h
    · cases h
    rename_i bounded
    split at h
    · cases h
    rename_i single
    cases h
    refine ⟨rfl,fun empty => some_ (List.isEmpty_iff.mpr empty),Nat.not_lt.mp bounded,fun c here separator => single ?_⟩
    exact List.any_eq_true.mpr ⟨c,separator,List.contains_iff_mem.mpr here⟩
  · rintro ⟨rfl,line⟩
    have single : ¬secretLineSeparators.any (value.contains ·) = true := by
      intro found
      obtain ⟨c,separator,here⟩ := List.any_eq_true.mp found
      exact line.single c (List.contains_iff_mem.mp here) separator
    rw [if_neg (fun empty => line.filled (List.isEmpty_iff.mp empty)),if_neg (Nat.not_lt.mpr line.bounded),if_neg single]

def LineEnding (ending : PyStr) : Prop := ending = [] ∨ ending = py "\n" ∨ ending = py "\r\n"

theorem endingShort {ending : PyStr} (h : LineEnding ending) : ending.length ≤ 2 := by
  rcases h with rfl | rfl | rfl <;> decide

theorem endingCut (raw : PyStr) : ∃ ending, LineEnding ending ∧ raw = withoutLineEnding raw ++ ending := by
  unfold withoutLineEnding
  split
  · rename_i both
    obtain ⟨kept,rfl⟩ := List.isSuffixOf_iff_suffix.mp both
    refine ⟨_,.inr (.inr rfl),?_⟩
    rw [List.length_append,show (py "\r\n").length = 2 from rfl,Nat.add_sub_cancel,List.take_left]
  split
  · rename_i one
    obtain ⟨kept,rfl⟩ := List.isSuffixOf_iff_suffix.mp one
    refine ⟨_,.inr (.inl rfl),?_⟩
    rw [List.length_append,show (py "\n").length = 1 from rfl,Nat.add_sub_cancel,List.take_left]
  · exact ⟨[],.inl rfl,(List.append_nil raw).symm⟩

theorem lineCut {r ending : PyStr} (line : SecretLine r) (h : LineEnding ending) : withoutLineEnding (r ++ ending) = r := by
  have newline : chr '\n' ∉ r := fun here => line.single _ here (by decide)
  have carriage : chr '\r' ∉ r := fun here => line.single _ here (by decide)
  have noNewline : ¬(py "\n").isSuffixOf r = true := by
    intro suffix
    exact newline ((List.isSuffixOf_iff_suffix.mp suffix).subset (by decide))
  have noBoth : ¬(py "\r\n").isSuffixOf r = true := by
    intro suffix
    exact newline ((List.isSuffixOf_iff_suffix.mp suffix).subset (by decide))
  unfold withoutLineEnding
  rcases h with rfl | rfl | rfl
  · rw [List.append_nil,if_neg noBoth,if_neg noNewline]
  · have both : ¬(py "\r\n").isSuffixOf (r ++ py "\n") = true := by
      intro suffix
      obtain ⟨kept,same⟩ := List.isSuffixOf_iff_suffix.mp suffix
      have returned : kept ++ py "\r" = r := by
        refine (List.append_left_inj (py "\n")).mp ?_
        rw [List.append_assoc]
        exact same
      exact carriage (returned ▸ List.mem_append_right kept (by decide))
    rw [if_neg both,if_pos (List.isSuffixOf_iff_suffix.mpr (List.suffix_append _ _)),List.length_append,
      show (py "\n").length = 1 from rfl,Nat.add_sub_cancel,List.take_left]
  · rw [if_pos (List.isSuffixOf_iff_suffix.mpr (List.suffix_append _ _)),List.length_append,
      show (py "\r\n").length = 2 from rfl,Nat.add_sub_cancel,List.take_left]

theorem secretRead (s r : PyStr) : readSecretInput (.text s) = .ok r ↔
    (s = r ∨ s = r ++ py "\n" ∨ s = r ++ py "\r\n") ∧ SecretLine r := by
  unfold readSecretInput
  rw [secretValid]
  constructor
  · rintro ⟨cut,line⟩
    obtain ⟨ending,shape,same⟩ := endingCut (s.take (maxSecretInputCharacters + 3))
    rw [cut] at same
    have bounded := line.bounded
    have short := endingShort shape
    have taken := congrArg List.length same
    rw [List.length_take,List.length_append] at taken
    have whole : s.take (maxSecretInputCharacters + 3) = s := List.take_of_length_le (by omega)
    rw [whole] at same
    rcases shape with rfl | rfl | rfl
    · exact ⟨.inl (same.trans (List.append_nil r)),line⟩
    · exact ⟨.inr (.inl same),line⟩
    · exact ⟨.inr (.inr same),line⟩
  · rintro ⟨forms,line⟩
    obtain ⟨ending,shape,rfl⟩ : ∃ ending, LineEnding ending ∧ s = r ++ ending := by
      rcases forms with rfl | rfl | rfl
      · exact ⟨[],.inl rfl,(List.append_nil _).symm⟩
      · exact ⟨_,.inr (.inl rfl),rfl⟩
      · exact ⟨_,.inr (.inr rfl),rfl⟩
    have bounded := line.bounded
    have short := endingShort shape
    rw [List.take_of_length_le (by rw [List.length_append]; omega)]
    exact ⟨lineCut line shape,line⟩

-- Standard input with its bytes, or an adapter that has text only.
inductive TokenSource where
  | buffer (bytes : Bytes)
  | text (s : PyStr)

def tokenEncodingError : ConfigError := ⟨"Token input must be valid UTF-8"⟩

def decodeTokenInput (raw : Bytes) : Except ConfigError PyStr :=
  if maxTokenInputBytes < raw.length then .error ⟨s!"Token input exceeds byte limit ({maxTokenInputBytes} bytes)"⟩
  else match decodeUtf8 raw with
    | .ok text => .ok text
    | .error _ => .error tokenEncodingError

def readTokenInput : TokenSource → Except ConfigError PyStr
  | .buffer bytes => decodeTokenInput (bytes.take (maxTokenInputBytes + 1))
  | .text s => match PyStr.encodeUtf8 (s.take (maxTokenInputBytes + 1)) with
      | none => .error tokenEncodingError
      | some raw => decodeTokenInput raw

theorem tokenDecoded (raw : Bytes) (r : PyStr) :
    decodeTokenInput raw = .ok r ↔ decodeUtf8 raw = .ok r ∧ raw.length ≤ maxTokenInputBytes := by
  unfold decodeTokenInput
  split
  · rename_i long
    constructor
    · intro h
      cases h
    · rintro ⟨-,bounded⟩
      exact absurd bounded (Nat.not_le.mpr long)
  · rename_i bounded
    cases decodeUtf8 raw with
    | error start =>
      constructor
      · intro h
        cases h
      · rintro ⟨h,-⟩
        cases h
    | ok text =>
      constructor
      · intro h
        cases h
        exact ⟨rfl,Nat.not_lt.mp bounded⟩
      · rintro ⟨h,-⟩
        cases h
        rfl

theorem tokenRead (bytes : Bytes) (r : PyStr) : readTokenInput (.buffer bytes) = .ok r ↔
    decodeUtf8 bytes = .ok r ∧ bytes.length ≤ maxTokenInputBytes := by
  unfold readTokenInput
  rw [tokenDecoded]
  constructor
  · rintro ⟨decoded,bounded⟩
    rw [List.length_take] at bounded
    rw [List.take_of_length_le (by omega)] at decoded
    exact ⟨decoded,by omega⟩
  · rintro ⟨decoded,bounded⟩
    rw [List.take_of_length_le (by omega)]
    exact ⟨decoded,bounded⟩

theorem characterLonger {s : PyStr} {bytes : Bytes} (h : s.encodeUtf8 = some bytes) : s.length ≤ bytes.length := by
  induction s generalizing bytes with
  | nil => exact Nat.zero_le _
  | cons c s ih =>
    simp only [PyStr.encodeUtf8,Option.bind_eq_bind,Option.bind_eq_some_iff] at h
    obtain ⟨head,one,tail,others,made⟩ := h
    cases Option.some.inj made
    have first := headSome one
    have rest := ih others
    rw [List.length_append,List.length_cons]
    omega

theorem textTokenRead (s r : PyStr) : readTokenInput (.text s) = .ok r ↔
    s = r ∧ ∃ bytes, s.encodeUtf8 = some bytes ∧ bytes.length ≤ maxTokenInputBytes := by
  unfold readTokenInput
  dsimp only
  constructor
  · intro h
    cases encoded : PyStr.encodeUtf8 (s.take (maxTokenInputBytes + 1)) with
    | none =>
      rw [encoded] at h
      cases h
    | some raw =>
      rw [encoded] at h
      obtain ⟨decoded,bounded⟩ := (tokenDecoded raw r).mp h
      have longer := characterLonger encoded
      rw [List.length_take] at longer
      rw [List.take_of_length_le (by omega)] at encoded
      exact ⟨Except.ok.inj ((decodeEncoded encoded).symm.trans decoded),raw,encoded,bounded⟩
  · rintro ⟨rfl,bytes,encoded,bounded⟩
    have longer := characterLonger encoded
    rw [List.take_of_length_le (by omega),encoded]
    exact (tokenDecoded bytes s).mpr ⟨decodeEncoded encoded,bounded⟩

-- What an adapter shows of bytes: their text, or a text with a lone surrogate for a byte that is none.
def Presents (bytes : Bytes) (s : PyStr) : Prop :=
  match decodeUtf8 bytes with
  | .ok text => s = text
  | .error _ => s.encodeUtf8 = none

theorem presentedRead {bytes : Bytes} {s : PyStr} (shown : Presents bytes s) (r : PyStr) :
    readTokenInput (.text s) = .ok r ↔ readTokenInput (.buffer bytes) = .ok r := by
  rw [textTokenRead,tokenRead]
  unfold Presents at shown
  cases decoded : decodeUtf8 bytes with
  | error start =>
    rw [decoded] at shown
    dsimp only at shown
    constructor
    · rintro ⟨-,raw,encoded,-⟩
      rw [shown] at encoded
      cases encoded
    · rintro ⟨h,-⟩
      cases h
  | ok text =>
    rw [decoded] at shown
    cases shown
    have encoded := encodeDecoded decoded
    constructor
    · rintro ⟨rfl,raw,other,bounded⟩
      rw [encoded] at other
      cases other
      exact ⟨rfl,bounded⟩
    · rintro ⟨h,bounded⟩
      cases h
      exact ⟨rfl,bytes,encoded,bounded⟩

theorem standardInputWhole :
    (∀ s r, readSecretInput (.text s) = .ok r ↔ (s = r ∨ s = r ++ py "\n" ∨ s = r ++ py "\r\n") ∧ SecretLine r) ∧
    (∀ bytes r, readTokenInput (.buffer bytes) = .ok r ↔ decodeUtf8 bytes = .ok r ∧ bytes.length ≤ maxTokenInputBytes) ∧
    (∀ s r, readTokenInput (.text s) = .ok r ↔
      s = r ∧ ∃ bytes, s.encodeUtf8 = some bytes ∧ bytes.length ≤ maxTokenInputBytes) ∧
    ∀ bytes s, Presents bytes s → ∀ r, readTokenInput (.text s) = .ok r ↔ readTokenInput (.buffer bytes) = .ok r :=
  ⟨secretRead,tokenRead,textTokenRead,fun _ _ => presentedRead⟩

theorem windowsSecretRead : readSecretInput (.text (py "windows-secret\r\n")) = .ok (py "windows-secret") ∧
    readTokenInput (.text (py "é")) = .ok (py "é") ∧ ∀ r, readTokenInput (.text [0xDCFF]) ≠ .ok r := by
  have line : SecretLine (py "windows-secret") := by
    have plain : (py "windows-secret").all (fun c => !secretLineSeparators.contains c) = true := by decide
    refine ⟨by decide,by decide,fun c here => ?_⟩
    have other := List.all_eq_true.mp plain c here
    simpa only [Bool.not_eq_true',List.contains_eq_mem,decide_eq_false_iff_not] using other
  have two : Presents [0xC3,0xA9] (py "é") := by
    have decoded : decodeUtf8 [0xC3,0xA9] = .ok (py "é") := by decide
    simp only [Presents,decoded]
  have read : readTokenInput (.buffer [0xC3,0xA9]) = .ok (py "é") := (standardInputWhole.2.1 _ _).mpr ⟨by decide,by decide⟩
  have stray : Presents [0xFF] [0xDCFF] := by
    have decoded : decodeUtf8 [0xFF] = .error 0 := by decide
    simp only [Presents,decoded]
    decide
  refine ⟨(standardInputWhole.1 _ _).mpr ⟨.inr (.inr rfl),line⟩,(standardInputWhole.2.2.2 _ _ two _).mpr read,fun r shown => ?_⟩
  have decoded := ((standardInputWhole.2.1 _ _).mp ((standardInputWhole.2.2.2 _ _ stray r).mp shown)).1
  cases decoded

end PgLlmBatch
