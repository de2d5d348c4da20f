import PgLlmBatch.Base.FloatValue
import PgLlmBatch.Base.JsonText

/-! Reading back the numbers that `dumps` wrote: integers within the digit limit, and every
finite float, in whichever of its layouts `repr` prints it. -/
namespace PgLlmBatch.Base.JsonText

theorem natOfChars (cs : List Char) (n : Nat) :
    (cs.map chr).foldl (fun n c => 10 * n + (c.val - 48)) n = Nat.ofDigitChars 10 cs n := by
  rw [Nat.ofDigitChars_eq_foldl,List.foldl_map]
  rfl

theorem natOfDigits (n : Nat) : natOf (digitsOf n) = n := by
  rw [natOf,digitsOf,natOfChars,Nat.ofDigitChars_ten_toDigits]

theorem digitsAre (n : Nat) : ∀ c ∈ digitsOf n, PyChar.digit c = true := by
  intro c here
  obtain ⟨d,member,rfl⟩ := List.mem_map.mp here
  have digit := Nat.isDigit_of_mem_toDigits (by decide) (by decide) member
  simp only [Char.isDigit,ge_iff_le,Bool.and_eq_true,decide_eq_true_eq] at digit
  have bounds : 0x30 ≤ (chr d).val ∧ (chr d).val ≤ 0x39 := digit
  simpa only [PyChar.digit,Bool.and_eq_true,decide_eq_true_eq] using bounds

theorem digitsLead (n : Nat) : ∃ c s, digitsOf n = c::s ∧ (c = zero → s = []) := by
  induction n using Nat.strongRecOn with
  | ind n ih =>
    by_cases small : n < 10
    · refine ⟨chr n.digitChar,[],?_,fun _ => rfl⟩
      simp [digitsOf,Nat.toDigits_of_lt_base small]
    · obtain ⟨c,s,head,lead⟩ := ih (n / 10) (by omega)
      have split_ : digitsOf n = digitsOf (n / 10) ++ [chr (n % 10).digitChar] := by
        simp [digitsOf,Nat.toDigits_of_base_le (by decide : 1 < 10) (by omega : 10 ≤ n)]
      refine ⟨c,s ++ [chr (n % 10).digitChar],by rw [split_,head]; rfl,fun first => ?_⟩
      have whole := natOfDigits (n / 10)
      rw [head,lead first,first] at whole
      have none_ : n / 10 = 0 := whole.symm
      omega

def NumberEnds (rest : PyStr) : Prop :=
  ∀ c ∈ rest.head?, PyChar.digit c = false ∧ c ≠ point ∧ c ≠ chr 'e' ∧ c ≠ chr 'E'

theorem spanDigits {ds rest : PyStr} (all : ∀ c ∈ ds, PyChar.digit c = true)
    (ends : ∀ c ∈ rest.head?, PyChar.digit c = false) :
    (ds ++ rest).takeWhile PyChar.digit = ds ∧ (ds ++ rest).dropWhile PyChar.digit = rest := by
  induction ds with
  | nil =>
    cases rest with
    | nil => simp
    | cons c s => simp [ends c rfl]
  | cons d ds ih =>
    have head := all d (by simp)
    have tail := ih (fun c here => all c (by simp [here]))
    simp [head,tail]

def Leads (ds : PyStr) : Prop := ∃ c s, ds = c::s ∧ (c = zero → s = [])

theorem wholeDigits {ds rest : PyStr} (lead : Leads ds) (all : ∀ c ∈ ds, PyChar.digit c = true)
    (ends : ∀ c ∈ rest.head?, PyChar.digit c = false) : scanWhole (ds ++ rest) = some (ds,rest) := by
  obtain ⟨c,s,rfl,alone⟩ := lead
  by_cases first : c = zero
  · simp [scanWhole,first,alone first]
  · have head := all c (by simp)
    have rest_ : ∀ d ∈ s, PyChar.digit d = true := fun d here => all d (by simp [here])
    have tail := spanDigits rest_ ends
    simp [scanWhole,first,head,tail]

theorem wholeScanned (n : Nat) {rest : PyStr} (ends : NumberEnds rest) :
    scanWhole (digitsOf n ++ rest) = some (digitsOf n,rest) :=
  wholeDigits (digitsLead n) (digitsAre n) (fun c here => (ends c here).1)

theorem fractionEnds {rest : PyStr} (ends : NumberEnds rest) : scanFraction rest = ([],rest) := by
  match rest with
  | [] | [_] => rfl
  | c::_::_ =>
    have notPoint := (ends c rfl).2.1
    simp [scanFraction,notPoint]

theorem exponentEnds {rest : PyStr} (ends : NumberEnds rest) : scanExponent rest = (none,rest) := by
  match rest with
  | [] => rfl
  | c::_ =>
    obtain ⟨-,-,lower,upper⟩ := ends c rfl
    simp [scanExponent,lower,upper]

def signed (n : Int) : PyStr := if n < 0 then minus::digitsOf n.natAbs else digitsOf n.natAbs

theorem notDigit {c w : PyChar} (digit : PyChar.digit c = true) (other : PyChar.digit w = false) :
    w ≠ c := by
  rintro rfl
  simp [digit] at other

theorem signScanned (n : Int) (rest : PyStr) :
    scanSign (signed n ++ rest) = (decide (n < 0),digitsOf n.natAbs ++ rest) := by
  unfold signed
  split
  · rename_i negative
    simp [scanSign,negative]
  · rename_i natural
    obtain ⟨c,s,digits,-⟩ := digitsLead n.natAbs
    have notMinus : minus ≠ c := notDigit (digitsAre n.natAbs c (by simp [digits])) rfl
    simp [digits,scanSign,natural,Ne.symm notMinus]

theorem numberScanned (n : Int) {rest : PyStr} (ends : NumberEnds rest) :
    scanNumber (signed n ++ rest) = some (⟨decide (n < 0),digitsOf n.natAbs,[],none⟩,rest) := by
  simp [scanNumber,signScanned,wholeScanned n.natAbs ends,fractionEnds ends,exponentEnds ends]

theorem numeralRead (i : Interpreter) (hooks : Hooks) (n : Int)
    (fits : Interpreter.allows i (digitsOf n.natAbs).length = true) :
    Numeral.read i hooks ⟨decide (n < 0),digitsOf n.natAbs,[],none⟩ = .ok (.int n) := by
  have value : (if n < 0 then -(n.natAbs : Int) else n.natAbs) = n := by omega
  simp only [Numeral.read,List.isEmpty_nil,Option.isNone_none,and_self,if_true,fits,natOfDigits,
    decide_eq_true_eq,value]

theorem wordApart {word t s : PyStr} {w c : PyChar} (shape : word = w::t) (differ : w ≠ c) :
    consumeWord word (c::s) = none := by
  simp [consumeWord,shape,List.isPrefixOf,differ]

def NumberStarts (s : PyStr) : Prop := ∃ c t, s = c::t ∧
  (PyChar.digit c = true ∨ (c = minus ∧ ∃ d u, t = d::u ∧ PyChar.digit d = true))

theorem startsMore {s : PyStr} (h : NumberStarts s) (rest : PyStr) : NumberStarts (s ++ rest) := by
  obtain ⟨c,t,rfl,digit | ⟨rfl,d,u,rfl,digit⟩⟩ := h
  · exact ⟨c,t ++ rest,rfl,.inl digit⟩
  · exact ⟨minus,d::u ++ rest,rfl,.inr ⟨rfl,d,u ++ rest,rfl,digit⟩⟩

theorem startApart {c : PyChar} {t : PyStr}
    (start : PyChar.digit c = true ∨ (c = minus ∧ ∃ d u, t = d::u ∧ PyChar.digit d = true)) {w : PyChar}
    (plain : PyChar.digit w = false) (notMinus : w ≠ minus) : w ≠ c := by
  rcases start with digit | ⟨rfl,-⟩
  · exact notDigit digit plain
  · exact notMinus

theorem scalarNumber (i : Interpreter) (hooks : Hooks) {s t : PyStr} {n : Numeral} (starts : NumberStarts s)
    (number : scanNumber s = some (n,t)) : scanScalar i hooks s = (n.read i hooks).map (·,t) := by
  obtain ⟨c,s,rfl,start⟩ := starts
  have infinity : consumeWord (py "-Infinity") (c::s) = none := by
    obtain digit | ⟨rfl,d,t,rfl,digit⟩ := start
    · exact wordApart rfl (notDigit digit rfl)
    · have differ : chr 'I' ≠ d := notDigit digit (by decide)
      have shape : py "-Infinity" = minus::chr 'I'::py "nfinity" := rfl
      simp only [shape,consumeWord,List.isPrefixOf,beq_self_eq_true,Bool.true_and,
        beq_eq_false_iff_ne.mpr differ,Bool.false_and,Bool.false_eq_true,if_false]
  have n_ : consumeWord (py "null") (c::s) = none := wordApart rfl (startApart start (w := chr 'n') (by decide) (by decide))
  have t_ : consumeWord (py "true") (c::s) = none := wordApart rfl (startApart start (w := chr 't') (by decide) (by decide))
  have f_ : consumeWord (py "false") (c::s) = none := wordApart rfl (startApart start (w := chr 'f') (by decide) (by decide))
  have nan : consumeWord (py "NaN") (c::s) = none := wordApart rfl (startApart start (w := chr 'N') (by decide) (by decide))
  have inf : consumeWord (py "Infinity") (c::s) = none :=
    wordApart rfl (startApart start (w := chr 'I') (by decide) (by decide))
  simp only [scanScalar,n_,t_,f_,nan,inf,infinity,number]

theorem integerStart (n : Int) : NumberStarts (signed n) := by
  obtain ⟨d,t,digits,-⟩ := digitsLead n.natAbs
  have digit := digitsAre n.natAbs d (by simp [digits])
  unfold signed
  split
  · exact ⟨minus,_,rfl,.inr ⟨rfl,d,t,digits,digit⟩⟩
  · exact ⟨d,t,digits,.inl digit⟩

theorem integerScanned (i : Interpreter) (hooks : Hooks) (n : Int) {rest : PyStr}
    (fits : Interpreter.allows i (digitsOf n.natAbs).length = true) (ends : NumberEnds rest) :
    scanScalar i hooks (signed n ++ rest) = .ok (.int n,rest) := by
  rw [scalarNumber i hooks (startsMore (integerStart n) rest) (numberScanned n ends),numeralRead i hooks n fits]
  rfl

theorem foldDigits (s : PyStr) (n : Nat) :
    s.foldl (fun n c => 10 * n + (c.val - 48)) n = n * 10 ^ s.length + natOf s := by
  unfold natOf
  induction s generalizing n with
  | nil => simp
  | cons c s ih =>
    rw [List.foldl_cons,List.foldl_cons,ih,ih (10 * 0 + (c.val - 48)),List.length_cons]
    ring

theorem natOfAppend (s t : PyStr) : natOf (s ++ t) = natOf s * 10 ^ t.length + natOf t := by
  rw [natOf,List.foldl_append,foldDigits]
  rfl

theorem natOfZeros (k : Nat) : natOf (List.replicate k zero) = 0 := by
  induction k with
  | zero => rfl
  | succ k ih =>
    rw [List.replicate_succ,← List.singleton_append,natOfAppend,ih]
    simp [natOf,zero]

def Numeral.power (n : Numeral) : Int :=
  (match n.exponent with
    | none => 0
    | some (true,ds) => -(natOf ds : Int)
    | some (false,ds) => natOf ds) - n.fraction.length

structure Numeral.IsFloat (n : Numeral) (negative : Bool) (digits : Nat) (power : Int) : Prop where
  floating : ¬(n.fraction.isEmpty = true ∧ n.exponent.isNone = true)
  value : PyFloat.ofDecimal n.negative (natOf (n.whole ++ n.fraction)) n.power = .ofDecimal negative digits power

theorem floatRead (i : Interpreter) (hooks : Hooks) {n : Numeral} {negative : Bool} {digits : Nat} {power : Int}
    (h : n.IsFloat negative digits power) : n.read i hooks = hooks.float (.ofDecimal negative digits power) := by
  rw [← h.value]
  unfold Numeral.read
  rw [if_neg h.floating]
  rfl

def signText (negative : Bool) : PyStr := if negative then py "-" else []

theorem signTextScanned (negative : Bool) {body : PyStr} (starts : ∃ d t, body = d::t ∧ PyChar.digit d = true) :
    scanSign (signText negative ++ body) = (negative,body) := by
  obtain ⟨d,t,rfl,digit⟩ := starts
  cases negative with
  | true => rfl
  | false =>
    have notMinus : d ≠ minus := (notDigit digit rfl).symm
    simp [signText,scanSign,notMinus]

theorem signTextStarts (negative : Bool) {body : PyStr} (starts : ∃ d t, body = d::t ∧ PyChar.digit d = true) :
    NumberStarts (signText negative ++ body) := by
  obtain ⟨d,t,rfl,digit⟩ := starts
  cases negative with
  | true => exact ⟨minus,d::t,rfl,.inr ⟨rfl,d,t,rfl,digit⟩⟩
  | false => exact ⟨d,t,rfl,.inl digit⟩

theorem fractionScanned {fs rest : PyStr} (some_ : fs ≠ []) (all : ∀ c ∈ fs, PyChar.digit c = true)
    (ends : ∀ c ∈ rest.head?, PyChar.digit c = false) : scanFraction (point::(fs ++ rest)) = (fs,rest) := by
  cases fs with
  | nil => exact absurd rfl some_
  | cons d ds =>
    have head := all d (by simp)
    have others : ∀ c ∈ ds, PyChar.digit c = true := fun c here => all c (List.mem_cons_of_mem _ here)
    have tail := spanDigits others ends
    simp [scanFraction,head,tail]

theorem fixedScanned (negative : Bool) {ws fs rest : PyStr} (lead : Leads ws) (whole : ∀ c ∈ ws, PyChar.digit c = true)
    (some_ : fs ≠ []) (fraction : ∀ c ∈ fs, PyChar.digit c = true) (ends : NumberEnds rest) :
    scanNumber (signText negative ++ (ws ++ point::fs) ++ rest) = some (⟨negative,ws,fs,none⟩,rest) := by
  have starts : ∃ d t, ws ++ point::(fs ++ rest) = d::t ∧ PyChar.digit d = true := by
    obtain ⟨c,s,rfl,-⟩ := lead
    exact ⟨c,_,rfl,whole c (by simp)⟩
  have text : signText negative ++ (ws ++ point::fs) ++ rest = signText negative ++ (ws ++ point::(fs ++ rest)) := by simp
  have notDigits : ∀ c ∈ (point::(fs ++ rest)).head?, PyChar.digit c = false := by simp [PyChar.digit,point]
  rw [text]
  simp [scanNumber,signTextScanned negative starts,wholeDigits lead whole notDigits,
    fractionScanned some_ fraction (fun c here => (ends c here).1),exponentEnds ends]

def exponentText (below : Bool) (es : PyStr) : PyStr := (if below then py "e-" else py "e+") ++ es

theorem exponentScanned (below : Bool) {es rest : PyStr} (some_ : es ≠ []) (all : ∀ c ∈ es, PyChar.digit c = true)
    (ends : NumberEnds rest) : scanExponent (exponentText below es ++ rest) = (some (below,es),rest) := by
  have span := spanDigits all (fun c here => (ends c here).1)
  cases es with
  | nil => exact absurd rfl some_
  | cons d ds =>
    have signs : minus ≠ chr '+' := by decide
    cases below with
    | true =>
      have text : exponentText true (d::ds) ++ rest = chr 'e'::minus::(d::ds ++ rest) := rfl
      rw [text]
      simp only [scanExponent,true_or,if_true,span]
    | false =>
      have text : exponentText false (d::ds) ++ rest = chr 'e'::chr '+'::(d::ds ++ rest) := rfl
      rw [text]
      simp only [scanExponent,true_or,if_true,signs.symm,if_false,span]

def fractionText (fs : PyStr) : PyStr := if fs = [] then [] else point::fs

theorem scientificScanned (negative below : Bool) {c : PyChar} {fs es rest : PyStr} (digit : PyChar.digit c = true)
    (fraction : ∀ d ∈ fs, PyChar.digit d = true) (some_ : es ≠ []) (all : ∀ d ∈ es, PyChar.digit d = true)
    (ends : NumberEnds rest) :
    scanNumber (signText negative ++ (c::(fractionText fs ++ exponentText below es)) ++ rest) =
      some (⟨negative,[c],fs,some (below,es)⟩,rest) := by
  have letter : ∃ t, exponentText below es ++ rest = chr 'e'::t := by
    cases below
    · exact ⟨_,rfl⟩
    · exact ⟨_,rfl⟩
  have after : scanFraction (fractionText fs ++ (exponentText below es ++ rest)) = (fs,exponentText below es ++ rest) := by
    obtain ⟨t,start⟩ := letter
    rw [start]
    unfold fractionText
    split
    · rename_i none_
      rw [none_]
      have notPoint : chr 'e' ≠ point := by decide
      cases t <;> simp [scanFraction,notPoint]
    · rename_i filled
      refine fractionScanned filled fraction ?_
      intro d here
      cases here
      decide
  have stop : ∀ d ∈ (fractionText fs ++ (exponentText below es ++ rest)).head?, PyChar.digit d = false := by
    obtain ⟨t,start⟩ := letter
    rw [start]
    unfold fractionText
    split <;> simp [PyChar.digit,point,chr]
  have text : signText negative ++ (c::(fractionText fs ++ exponentText below es)) ++ rest =
      signText negative ++ ([c] ++ (fractionText fs ++ (exponentText below es ++ rest))) := by simp
  have whole : scanWhole ([c] ++ (fractionText fs ++ (exponentText below es ++ rest))) =
      some ([c],fractionText fs ++ (exponentText below es ++ rest)) :=
    wholeDigits ⟨c,[],rfl,fun _ => rfl⟩ (by simpa using digit) stop
  have sign := signTextScanned negative ⟨c,fractionText fs ++ (exponentText below es ++ rest),rfl,digit⟩
  rw [text]
  rw [← List.singleton_append] at sign
  simp only [scanNumber,sign,whole,after,exponentScanned below some_ all ends,Option.bind_eq_bind,Option.bind_some]

inductive Layout (negative : Bool) (shown : PyStr) (position : Int) : PyStr → Prop where
  | small (low : position ≤ 0) : Layout negative shown position
      (signText negative ++ (py "0" ++ point::(List.replicate (-position).toNat zero ++ shown)))
  | whole (positive : 0 < position) (long : shown.length ≤ position.toNat) : Layout negative shown position
      (signText negative ++ (shown ++ List.replicate (position.toNat - shown.length) zero ++ point::py "0"))
  | mixed (positive : 0 < position) (short : position.toNat < shown.length) : Layout negative shown position
      (signText negative ++ (shown.take position.toNat ++ point::shown.drop position.toNat))
  | scientific (c : PyChar) (s es : PyStr) (digits : shown = c::s) (far : ¬(-4 < position ∧ position ≤ 16))
      (exponent : es = if (digitsOf (position - 1).natAbs).length = 1 then zero::digitsOf (position - 1).natAbs
        else digitsOf (position - 1).natAbs) : Layout negative shown position
      (signText negative ++ (c::(fractionText s ++ exponentText (decide (position - 1 < 0)) es)))

theorem floatLayout {style : DumpStyle} {f : PyFloat} {negative : Bool} {digits : Nat} {power : Int} {text : PyStr}
    (shortest : f.shortest = some (negative,digits,power)) (h : dumpFloat style f = .ok text) :
    Layout negative (digitsOf digits) ((digitsOf digits).length + power) text := by
  obtain ⟨c,s,shown,-⟩ := digitsLead digits
  unfold dumpFloat at h
  rw [shortest] at h
  simp only [] at h
  generalize ((digitsOf digits).length : Int) + power = position at *
  split at h
  · split at h
    · rename_i low
      have same : text = signText negative ++ (py "0" ++ point::(List.replicate (-position).toNat zero ++ digitsOf digits)) := by
        rw [← Except.ok.inj h]
        simp [signText,py,chr,point,zero]
      rw [same]
      exact .small low
    · rename_i positive
      split at h
      · rename_i long
        have same : text = signText negative ++
            (digitsOf digits ++ List.replicate (position.toNat - (digitsOf digits).length) zero ++ point::py "0") := by
          rw [← Except.ok.inj h]
          simp [signText,py,chr,point,zero]
        rw [same]
        exact .whole (not_le.mp positive) long
      · rename_i short
        have same : text = signText negative ++
            ((digitsOf digits).take position.toNat ++ point::(digitsOf digits).drop position.toNat) := by
          rw [← Except.ok.inj h]
          simp [signText]
        rw [same]
        exact .mixed (not_le.mp positive) (not_le.mp short)
  · rename_i far
    have same : text = signText negative ++ (c::(fractionText s ++ exponentText (decide (position - 1 < 0))
        (if (digitsOf (position - 1).natAbs).length = 1 then zero::digitsOf (position - 1).natAbs
          else digitsOf (position - 1).natAbs))) := by
      rw [← Except.ok.inj h,shown]
      cases s with
      | nil => simp [signText,fractionText,exponentText]
      | cons d ds => simp [signText,fractionText,exponentText]
    rw [same]
    exact .scientific c s _ shown far rfl

def ReadsFloat (text : PyStr) (negative : Bool) (digits : Nat) (power : Int) : Prop :=
  NumberStarts text ∧ ∀ rest, NumberEnds rest → ∃ n : Numeral, scanNumber (text ++ rest) = some (n,rest) ∧
    n.IsFloat negative digits power

theorem fixedReads {negative : Bool} {ws fs : PyStr} {digits : Nat} {power : Int} (lead : Leads ws)
    (whole : ∀ c ∈ ws, PyChar.digit c = true) (some_ : fs ≠ []) (fraction : ∀ c ∈ fs, PyChar.digit c = true)
    (value : PyFloat.ofDecimal negative (natOf (ws ++ fs)) (-(fs.length : Int)) = .ofDecimal negative digits power) :
    ReadsFloat (signText negative ++ (ws ++ point::fs)) negative digits power := by
  constructor
  · obtain ⟨c,s,rfl,-⟩ := lead
    exact signTextStarts negative ⟨c,_,rfl,whole c (by simp)⟩
  · intro rest ends
    refine ⟨_,fixedScanned negative lead whole some_ fraction ends,?_,?_⟩
    · rintro ⟨none_,-⟩
      exact some_ (List.isEmpty_iff.mp none_)
    · rw [← value]
      simp [Numeral.power]

theorem zeroIs : ∀ c ∈ py "0", PyChar.digit c = true := by
  intro c here
  rw [List.mem_singleton.mp here]
  rfl

theorem zerosAre (k : Nat) : ∀ c ∈ List.replicate k zero, PyChar.digit c = true := by
  intro c here
  rw [List.eq_of_mem_replicate here]
  rfl

theorem digitsEach {s t : PyStr} (first : ∀ c ∈ s, PyChar.digit c = true) (rest : ∀ c ∈ t, PyChar.digit c = true) :
    ∀ c ∈ s ++ t, PyChar.digit c = true := by
  intro c here
  rcases List.mem_append.mp here with head | tail
  · exact first c head
  · exact rest c tail

theorem exponentShown {n : Nat} {es : PyStr} (exponent : es = if (digitsOf n).length = 1 then zero::digitsOf n else digitsOf n) :
    es ≠ [] ∧ (∀ d ∈ es, PyChar.digit d = true) ∧ natOf es = n := by
  subst exponent
  refine ⟨?_,?_,?_⟩
  · obtain ⟨d,t,some_,-⟩ := digitsLead n
    rw [some_]
    split <;> exact List.cons_ne_nil _ _
  · split
    · exact digitsEach zeroIs (digitsAre _)
    · exact digitsAre _
  · split
    · rw [← List.singleton_append,natOfAppend,natOfDigits]
      simp [natOf,zero]
    · exact natOfDigits _

theorem scientificReads {negative : Bool} {digits : Nat} {power : Int} {c : PyChar} {s es : PyStr}
    (shown : digitsOf digits = c::s)
    (exponent : es = if (digitsOf ((digitsOf digits).length + power - 1).natAbs).length = 1 then
      zero::digitsOf ((digitsOf digits).length + power - 1).natAbs
      else digitsOf ((digitsOf digits).length + power - 1).natAbs) :
    ReadsFloat (signText negative ++ (c::(fractionText s ++
      exponentText (decide (((digitsOf digits).length : Int) + power - 1 < 0)) es))) negative digits power := by
  have all := digitsAre digits
  have digit := all c (by simp [shown])
  obtain ⟨shownSome,shownDigits,shownValue⟩ := exponentShown exponent
  constructor
  · exact signTextStarts negative ⟨c,_,rfl,digit⟩
  · intro rest ends
    refine ⟨_,scientificScanned negative _ digit (fun d here => all d (by simp [shown,here])) shownSome shownDigits ends,
      ?_,?_⟩
    · rintro ⟨-,none_⟩
      cases none_
    · have read : natOf ([c] ++ s) = digits := by
        rw [List.singleton_append,← shown,natOfDigits]
      have length : (digitsOf digits).length = s.length + 1 := by simp [shown]
      simp only [read,Numeral.power]
      congr 1
      split
      · rename_i none_
        cases none_
      · rename_i ds same
        obtain ⟨below,rfl⟩ := Prod.mk.inj (Option.some.inj same)
        rw [shownValue]
        have negative_ := of_decide_eq_true below
        omega
      · rename_i ds same
        obtain ⟨above,rfl⟩ := Prod.mk.inj (Option.some.inj same)
        rw [shownValue]
        have natural := of_decide_eq_false above
        omega

theorem layoutReads {negative : Bool} {digits : Nat} {power : Int} {text : PyStr} (zeroPower : digits = 0 → power = 0)
    (h : Layout negative (digitsOf digits) ((digitsOf digits).length + power) text) :
    ReadsFloat text negative digits power := by
  have all := digitsAre digits
  have value := natOfDigits digits
  obtain ⟨c,s,shown,lead⟩ := digitsLead digits
  have filled : 0 < (digitsOf digits).length := by simp [shown]
  cases h with
  | small low =>
    refine fixedReads ⟨zero,[],rfl,fun _ => rfl⟩ zeroIs ?_ (digitsEach (zerosAre _) all) ?_
    · intro none_
      have empty := (List.append_eq_nil_iff.mp none_).2
      rw [empty] at filled
      exact absurd filled (by decide)
    · have read : natOf (py "0" ++ (List.replicate (-((digitsOf digits).length + power)).toNat zero ++ digitsOf digits)) =
          digits := by
        rw [natOfAppend,natOfAppend,natOfZeros,value]
        simp [natOf,py,chr]
      rw [read]
      congr 1
      simp only [List.length_append,List.length_replicate]
      omega
  | whole positive long =>
    obtain ⟨k,rfl⟩ : ∃ k : Nat, power = k := ⟨power.toNat,by omega⟩
    have count : ((digitsOf digits).length + (k : Int)).toNat - (digitsOf digits).length = k := by omega
    rw [count]
    refine fixedReads ?_ (digitsEach all (zerosAre k)) (by decide) zeroIs ?_
    · refine ⟨c,s ++ List.replicate k zero,by rw [shown]; rfl,fun first => ?_⟩
      have none_ : digits = 0 := by
        rw [← value,shown,lead first,first]
        rfl
      have empty : k = 0 := by exact_mod_cast zeroPower none_
      rw [lead first,empty]
      rfl
    · have read : natOf (digitsOf digits ++ List.replicate k zero ++ py "0") = digits * 10 ^ (k + 1) := by
        rw [natOfAppend,natOfAppend,natOfZeros,value,pow_succ]
        simp [natOf,py,chr,Nat.mul_assoc]
      rw [read]
      exact PyFloat.decimalZeros negative digits k
  | mixed positive short =>
    refine fixedReads ?_ (fun d here => all d (List.mem_of_mem_take here)) ?_ (fun d here => all d (List.mem_of_mem_drop here)) ?_
    · obtain ⟨k,count⟩ : ∃ k, ((digitsOf digits).length + power).toNat = k + 1 :=
        ⟨((digitsOf digits).length + power).toNat - 1,by omega⟩
      exact ⟨c,s.take k,by rw [count,shown]; rfl,fun first => by rw [lead first,List.take_nil]⟩
    · intro none_
      have length := congrArg List.length none_
      simp only [List.length_drop,List.length_nil] at length
      omega
    · rw [List.take_append_drop,value,List.length_drop]
      congr 1
      omega
  | scientific d t es same far exponent =>
    rw [shown] at same
    cases same
    exact scientificReads shown exponent

theorem floatReads {style : DumpStyle} {f : PyFloat} {negative : Bool} {digits : Nat} {power : Int} {text : PyStr}
    (shortest : f.shortest = some (negative,digits,power)) (h : dumpFloat style f = .ok text) :
    ReadsFloat text negative digits power :=
  layoutReads (f.shortestReads shortest).1 (floatLayout shortest h)

theorem floatStarts {style : DumpStyle} {f : PyFloat} {text : PyStr} (h : dumpFloat style f = .ok text) :
    NumberStarts text ∨ text = py "-Infinity" ∨ text = py "Infinity" ∨ text = py "NaN" := by
  cases shortest : f.shortest with
  | some made =>
    obtain ⟨negative,digits,power⟩ := made
    exact .inl (floatReads shortest h).1
  | none =>
    unfold dumpFloat at h
    rw [shortest] at h
    simp only [] at h
    split at h
    · have same := Except.ok.inj h
      split at same
      · exact .inr (.inl same.symm)
      · exact .inr (.inr (.inl same.symm))
      · exact .inr (.inr (.inr same.symm))
    · cases h

end PgLlmBatch.Base.JsonText
