import PgLlmBatch.Base.JsonReading

/-! A scanner takes its value from the front of a text, whatever follows it. So a text is read as
before when white space is added around it or taken away. -/
namespace PgLlmBatch.Base.JsonText
open Fallible

def ahead : PyStr → Option (Option Nat)
  | x::y::t => if x = backslash ∧ y = letterU then some ((scanHex t).map Prod.fst) else none
  | _ => none

theorem hexTaken {s t : PyStr} {n : Nat} (h : scanHex s = some (n,t)) :
    ∃ c, s = c ++ t ∧ ∀ u, scanHex (c ++ u) = some (n,u) := by
  unfold scanHex at h
  split at h
  · rename_i a b c d s
    simp only [bind,Option.bind_eq_some_iff,Option.some.injEq,Prod.mk.injEq] at h
    obtain ⟨w,first,x,second,y,third,z,fourth,rfl,rfl⟩ := h
    refine ⟨[a,b,c,d],rfl,fun u => ?_⟩
    simp [scanHex,first,second,third,fourth]
  · cases h

theorem aheadPlain {x : PyChar} (plain : x ≠ backslash) (t : PyStr) : ahead (x::t) = none := by
  cases t with
  | nil => rfl
  | cons y t => exact if_neg (fun both => plain both.1)

theorem aheadSimple {e : PyChar} (other : e ≠ letterU) (t : PyStr) : ahead (backslash::e::t) = none :=
  if_neg (fun both => other both.2)

theorem aheadEscape {x y : PyChar} (own : x = backslash ∧ y = letterU) (t : PyStr) :
    ahead (x::y::t) = some ((scanHex t).map Prod.fst) := if_pos own

def Alone (n : Nat) (u : PyStr) : Prop :=
  highSurrogate n = true → ∀ unit, ahead u = some unit → ∃ m, unit = some m ∧ lowSurrogate m = false

theorem unitKept {c u : PyStr} {n : Nat} (hex : scanHex (c ++ u) = some (n,u)) (alone : Alone n u) :
    scanEscape (letterU::(c ++ u)) = some (Fin.ofNat _ n,u) := by
  unfold scanEscape
  dsimp only
  rw [if_pos rfl,hex]
  simp only [bind,Option.bind_some]
  split
  · rename_i x y t
    split
    · rename_i pair
      obtain ⟨m,same,low⟩ := alone pair.1 _ (aheadEscape pair.2 t)
      obtain ⟨r,next,rfl⟩ := Option.map_eq_some_iff.mp same
      rw [next]
      simp only [Option.bind_some,low,Bool.false_eq_true,if_false]
    · rfl
  · rfl

theorem unitScanned {s t : PyStr} {x : PyChar} (h : scanEscape (letterU::s) = some (x,t)) :
    ∃ n u, scanHex s = some (n,u) ∧ (Alone n u ∧ x = Fin.ofNat _ n ∧ t = u ∨
      ∃ v m, highSurrogate n = true ∧ u = backslash::letterU::v ∧ scanHex v = some (m,t) ∧ lowSurrogate m = true ∧
        x = Fin.ofNat _ (0x10000 + (n - 0xD800) * 0x400 + (m - 0xDC00))) := by
  unfold scanEscape at h
  dsimp only at h
  rw [if_pos rfl] at h
  simp only [bind,Option.bind_eq_some_iff] at h
  obtain ⟨⟨n,u⟩,hex,rest⟩ := h
  refine ⟨n,u,hex,?_⟩
  dsimp only at rest
  split at rest
  · rename_i x' y v
    split at rest
    · rename_i pair
      obtain ⟨high,rfl,rfl⟩ := pair
      simp only [Option.bind_eq_some_iff] at rest
      obtain ⟨⟨m,w⟩,next,rest⟩ := rest
      split at rest
      · rename_i low
        obtain ⟨same,rfl⟩ := Prod.mk.inj (Option.some.inj rest)
        exact .inr ⟨v,m,high,rfl,next,low,same.symm⟩
      · rename_i low
        obtain ⟨same,rfl⟩ := Prod.mk.inj (Option.some.inj rest)
        refine .inl ⟨fun _ unit own => ⟨m,?_,Bool.eq_false_iff.mpr low⟩,same.symm,rfl⟩
        rw [aheadEscape ⟨rfl,rfl⟩,next] at own
        exact (Option.some.inj own).symm
    · rename_i single
      cases rest
      refine .inl ⟨fun high unit own => ?_,rfl,rfl⟩
      rw [ahead,if_neg (fun both => single ⟨high,both⟩)] at own
      cases own
  · rename_i short
    cases rest
    refine .inl ⟨fun high unit own => ?_,rfl,rfl⟩
    unfold ahead at own
    split at own
    · exact absurd rfl (short _ _ _)
    · cases own

theorem escapeTaken {s t : PyStr} {x : PyChar} (h : scanEscape s = some (x,t)) :
    ∃ c, s = c ++ t ∧ (∀ u, ahead (backslash::(c ++ u)) = ahead (backslash::s)) ∧
      ∀ u, ahead u = ahead t → scanEscape (c ++ u) = some (x,u) := by
  cases s with
  | nil => cases h
  | cons e s =>
    by_cases unit : e = letterU
    · subst unit
      obtain ⟨n,v,hex,kept⟩ := unitScanned h
      obtain ⟨c,rfl,again⟩ := hexTaken hex
      have next (u : PyStr) : ahead (backslash::letterU::(c ++ u)) = some (some n) := by
        rw [aheadEscape ⟨rfl,rfl⟩,again]
        rfl
      rcases kept with ⟨alone,rfl,rfl⟩ | ⟨w,m,high,rfl,other,low,rfl⟩
      · refine ⟨letterU::c,rfl,fun u => (next u).trans (next _).symm,fun u same => ?_⟩
        exact unitKept (again u) (fun high => same ▸ alone high)
      · obtain ⟨c',rfl,again'⟩ := hexTaken other
        refine ⟨letterU::(c ++ backslash::letterU::c'),by simp,fun u => ?_,fun u _ => ?_⟩
        · rw [List.cons_append,List.append_assoc]
          exact (next _).trans (next _).symm
        · rw [List.cons_append,List.append_assoc]
          unfold scanEscape
          dsimp only
          rw [if_pos rfl,again]
          simp only [List.cons_append,bind,Option.bind_some,high,true_and,if_true,again',low]
    · unfold scanEscape at h
      dsimp only at h
      rw [if_neg unit] at h
      obtain ⟨d,simple,same⟩ := Option.map_eq_some_iff.mp h
      cases same
      refine ⟨[e],rfl,fun u => (aheadSimple unit _).trans (aheadSimple unit _).symm,fun u _ => ?_⟩
      rw [List.singleton_append]
      unfold scanEscape
      dsimp only
      rw [if_neg unit,simple]
      rfl

def Closed (s : PyStr) : Prop := ∃ y, s.getLast? = some y ∧ PyChar.space y = false

theorem closedAfter {t : PyStr} (closed : Closed t) (s : PyStr) : Closed (s ++ t) := by
  obtain ⟨y,last,ink⟩ := closed
  refine ⟨y,?_,ink⟩
  rw [List.getLast?_append,last]
  rfl

theorem stringTaken {n : Nat} {s t text : PyStr} (h : scanString n s = some (text,t)) :
    ∃ c, s = c ++ t ∧ Closed c ∧ (∀ u, ahead (c ++ u) = ahead s) ∧
      ∀ u m, c.length ≤ m → scanString m (c ++ u) = some (text,u) := by
  induction n generalizing s text with
  | zero => simp [scanString] at h
  | succ n ih =>
    cases s with
    | nil => simp [scanString] at h
    | cons x s =>
      unfold scanString at h
      split at h
      · rename_i ends
        subst ends
        cases h
        refine ⟨[quote],rfl,⟨quote,rfl,by decide⟩,fun u => (aheadPlain (by decide) _).trans (aheadPlain (by decide) _).symm,fun u m enough => ?_⟩
        obtain ⟨k,rfl⟩ : ∃ k, m = k + 1 := Nat.exists_eq_succ_of_ne_zero (by simp at enough; omega)
        rw [List.singleton_append,scanString,if_pos rfl]
      rename_i open_
      split at h
      · rename_i escapes
        subst escapes
        simp only [bind,Option.bind_eq_some_iff] at h
        obtain ⟨⟨y,v⟩,escaped,⟨rest,w⟩,read,same⟩ := h
        cases same
        obtain ⟨c,rfl,first,again⟩ := escapeTaken escaped
        obtain ⟨c',rfl,closed,second,later⟩ := ih read
        refine ⟨backslash::(c ++ c'),by simp,closedAfter closed (backslash::c),fun u => ?_,fun u m enough => ?_⟩
        · rw [List.cons_append,List.append_assoc]
          exact first _
        · obtain ⟨k,rfl⟩ : ∃ k, m = k + 1 := Nat.exists_eq_succ_of_ne_zero (by simp at enough; omega)
          have left : c'.length ≤ k := by
            simp only [List.length_cons,List.length_append] at enough
            omega
          rw [List.cons_append,List.append_assoc,scanString,if_neg (by decide),if_pos rfl,again _ (second u)]
          simp only [bind,Option.bind_some,later u k left]
      rename_i plain
      split at h
      · cases h
      · rename_i printed
        simp only [bind,Option.bind_eq_some_iff] at h
        obtain ⟨⟨rest,v⟩,read,same⟩ := h
        cases same
        obtain ⟨c,rfl,closed,-,again⟩ := ih read
        refine ⟨x::c,rfl,closedAfter closed [x],fun u => (aheadPlain plain _).trans (aheadPlain plain _).symm,fun u m enough => ?_⟩
        obtain ⟨k,rfl⟩ : ∃ k, m = k + 1 := Nat.exists_eq_succ_of_ne_zero (by simp at enough; omega)
        rw [List.cons_append,scanString,if_neg open_,if_neg plain,if_neg printed,again u k (Nat.le_of_succ_le_succ enough)]
        rfl

def Dark (s : PyStr) : Prop := ∀ c ∈ s, PyChar.space c = false

theorem darkAppend {s t : PyStr} (first : Dark s) (second : Dark t) : Dark (s ++ t) := by
  intro c here
  rcases List.mem_append.mp here with left | right
  · exact first c left
  · exact second c right

theorem darkDigits {s : PyStr} (digits : ∀ c ∈ s, PyChar.digit c = true) : Dark s := by
  intro c here
  have digit := digits c here
  simp only [PyChar.digit,Bool.and_eq_true,decide_eq_true_eq] at digit
  have value : c.val ≠ 0x85 ∧ c.val ≠ 0xA0 ∧ c.val ≠ 0x1680 ∧ c.val ≠ 0x2028 ∧ c.val ≠ 0x2029 ∧ c.val ≠ 0x202F ∧
      c.val ≠ 0x205F ∧ c.val ≠ 0x3000 ∧ ¬c.val ≤ 0x0D ∧ ¬c.val ≤ 0x20 ∧ ¬0x2000 ≤ c.val := by omega
  simp [PyChar.space,value]

theorem darkOne {c : PyChar} (ink : PyChar.space c = false) : Dark [c] := by
  intro d here
  rw [List.mem_singleton.mp here]
  exact ink

def NoDigit (u : PyStr) : Prop := ∀ c ∈ u.head?, PyChar.digit c = false
def NoFraction (u : PyStr) : Prop := ∀ c ∈ u.head?, PyChar.digit c = false ∧ c ≠ point

theorem endsNoDigit {u : PyStr} (ends : NumberEnds u) : NoDigit u := fun c here => (ends c here).1
theorem endsNoFraction {u : PyStr} (ends : NumberEnds u) : NoFraction u :=
  fun c here => ⟨(ends c here).1,(ends c here).2.1⟩

theorem digitsTaken (s : PyStr) : s = s.takeWhile PyChar.digit ++ s.dropWhile PyChar.digit ∧
    ∀ c ∈ s.takeWhile PyChar.digit, PyChar.digit c = true :=
  ⟨List.takeWhile_append_dropWhile.symm,fun _ here => List.mem_takeWhile_imp here⟩

def exponentSign : PyStr → Bool × PyStr
  | c::u => if c = minus then (true,u) else if c = chr '+' then (false,u) else (false,c::u)
  | [] => (false,[])

theorem exponentSplit {e : PyChar} (letter : e = chr 'e' ∨ e = chr 'E') (t : PyStr) :
    scanExponent (e::t) = match (exponentSign t).2.takeWhile PyChar.digit with
      | [] => (none,e::t)
      | d::ds => (some ((exponentSign t).1,d::ds),(exponentSign t).2.dropWhile PyChar.digit) := by
  unfold scanExponent
  dsimp only
  rw [if_pos letter]
  cases t with
  | nil => rfl
  | cons c u => rfl

theorem darkClosed {x : PyChar} {c : PyStr} (dark : Dark (x::c)) : Closed (x::c) := by
  refine ⟨_,List.getLast?_eq_some_getLast (List.cons_ne_nil x c),dark _ (List.getLast_mem _)⟩

theorem signSplit (t : PyStr) : ∃ sign, t = sign ++ (exponentSign t).2 ∧ Dark sign ∧
    ∀ d u, PyChar.digit d = true → exponentSign (sign ++ d::u) = ((exponentSign t).1,d::u) := by
  have digitNotSign {d : PyChar} (digit : PyChar.digit d = true) : d ≠ minus ∧ d ≠ chr '+' :=
    ⟨fun same => by rw [same] at digit; exact absurd digit (by decide),
      fun same => by rw [same] at digit; exact absurd digit (by decide)⟩
  cases t with
  | nil =>
    refine ⟨[],rfl,darkDigits (fun c here => by cases here),fun d u digit => ?_⟩
    obtain ⟨notMinus,notPlus⟩ := digitNotSign digit
    simp [exponentSign,notMinus,notPlus]
  | cons c t =>
    by_cases negative : c = minus
    · subst negative
      exact ⟨[minus],by simp [exponentSign],darkOne (by decide),fun d u _ => by simp [exponentSign]⟩
    by_cases positive : c = chr '+'
    · subst positive
      exact ⟨[chr '+'],by simp [exponentSign,negative],darkOne (by decide),fun d u _ => by simp [exponentSign,negative]⟩
    · refine ⟨[],by simp [exponentSign,negative,positive],darkDigits (fun c here => by cases here),fun d u digit => ?_⟩
      obtain ⟨notMinus,notPlus⟩ := digitNotSign digit
      simp [exponentSign,negative,positive,notMinus,notPlus]

theorem exponentTaken {s t : PyStr} {x : Option (Bool × PyStr)} (h : scanExponent s = (x,t)) :
    ∃ c, s = c ++ t ∧ Dark c ∧ ∀ u, NumberEnds u → scanExponent (c ++ u) = (x,u) ∧ NoFraction (c ++ u) := by
  have nothing (same : (none,s) = (x,t)) :
      ∃ c, s = c ++ t ∧ Dark c ∧ ∀ u, NumberEnds u → scanExponent (c ++ u) = (x,u) ∧ NoFraction (c ++ u) := by
    cases same
    exact ⟨[],rfl,darkDigits (fun c here => by cases here),fun u ends => ⟨exponentEnds ends,endsNoFraction ends⟩⟩
  cases s with
  | nil => exact nothing h
  | cons e s =>
    by_cases letter : e = chr 'e' ∨ e = chr 'E'
    · rw [exponentSplit letter] at h
      obtain ⟨spelled,all⟩ := digitsTaken (exponentSign s).2
      obtain ⟨sign,parts,signDark,again⟩ := signSplit s
      cases digits : (exponentSign s).2.takeWhile PyChar.digit with
      | nil =>
        rw [digits] at h
        exact nothing h
      | cons d ds =>
        rw [digits] at h spelled all
        cases h
        refine ⟨e::(sign ++ d::ds),?_,?_,fun u ends => ⟨?_,?_⟩⟩
        · rw [List.cons_append,List.append_assoc,← spelled,← parts]
        · refine darkAppend (s := [e]) (darkOne ?_) (darkAppend signDark (darkDigits all))
          rcases letter with rfl | rfl
          · decide
          · decide
        · have digit := all d List.mem_cons_self
          have signed := again d (ds ++ u) digit
          have spans := spanDigits all (endsNoDigit ends)
          rw [List.cons_append] at spans
          rw [List.cons_append,List.append_assoc,List.cons_append,exponentSplit letter,signed]
          simp only [spans]
        · rintro c here
          cases here
          rcases letter with rfl | rfl
          · exact ⟨by decide,by decide⟩
          · exact ⟨by decide,by decide⟩
    · refine nothing ?_
      unfold scanExponent at h
      dsimp only at h
      rwa [if_neg letter] at h

theorem fractionTaken {s t fs : PyStr} (h : scanFraction s = (fs,t)) :
    ∃ c, s = c ++ t ∧ Dark c ∧ ∀ u, NoFraction u → scanFraction (c ++ u) = (fs,u) ∧ NoDigit (c ++ u) := by
  have nothing (same : ([],s) = (fs,t)) :
      ∃ c, s = c ++ t ∧ Dark c ∧ ∀ u, NoFraction u → scanFraction (c ++ u) = (fs,u) ∧ NoDigit (c ++ u) := by
    cases same
    refine ⟨[],rfl,darkDigits (fun c here => by cases here),fun u plain => ⟨?_,fun c here => (plain c here).1⟩⟩
    cases u with
    | nil => rfl
    | cons c u =>
      cases u with
      | nil => rfl
      | cons d u => rw [List.nil_append,scanFraction,if_neg (fun both => (plain c rfl).2 both.1)]
  unfold scanFraction at h
  split at h
  · rename_i c d s
    split at h
    · rename_i own
      obtain ⟨rfl,digit⟩ := own
      obtain ⟨spelled,all⟩ := digitsTaken s
      cases h
      have each : ∀ x ∈ d::s.takeWhile PyChar.digit, PyChar.digit x = true := by
        intro x here
        rcases List.mem_cons.mp here with rfl | later
        · exact digit
        · exact all x later
      refine ⟨point::(d::s.takeWhile PyChar.digit),?_,darkAppend (s := [point]) (darkOne (by decide)) (darkDigits each),
        fun u plain => ⟨?_,?_⟩⟩
      · rw [List.cons_append,List.cons_append,← spelled]
      · exact fractionScanned (by simp) each (fun c here => (plain c here).1)
      · rintro c here
        cases here
        decide
    · exact nothing h
  · exact nothing h

theorem wholeTaken {s t whole : PyStr} (h : scanWhole s = some (whole,t)) :
    ∃ d c, s = d::c ++ t ∧ PyChar.digit d = true ∧ Dark (d::c) ∧ ∀ u, NoDigit u → scanWhole (d::c ++ u) = some (whole,u) := by
  unfold scanWhole at h
  split at h
  · cases h
  rename_i c s
  split at h
  · rename_i first
    subst first
    cases h
    exact ⟨zero,[],rfl,by decide,darkOne (by decide),fun u _ => by simp [scanWhole]⟩
  rename_i other
  split at h
  · rename_i digit
    obtain ⟨spelled,all⟩ := digitsTaken s
    cases h
    refine ⟨c,s.takeWhile PyChar.digit,?_,digit,darkAppend (s := [c]) (darkDigits (fun d here => by rwa [List.mem_singleton.mp here]))
      (darkDigits all),fun u plain => ?_⟩
    · rw [List.cons_append,← spelled]
    · have spans := spanDigits all plain
      rw [List.cons_append]
      unfold scanWhole
      dsimp only
      rw [if_neg other,if_pos digit,spans.1,spans.2]
  · cases h

theorem numberSign (s : PyStr) : ∃ sign, s = sign ++ (scanSign s).2 ∧ (sign = [] ∨ sign = [minus]) ∧
    ∀ d u, PyChar.digit d = true → scanSign (sign ++ d::u) = ((scanSign s).1,d::u) := by
  have digitNotMinus {d : PyChar} (digit : PyChar.digit d = true) : d ≠ minus :=
    fun same => by rw [same] at digit; exact absurd digit (by decide)
  cases s with
  | nil => exact ⟨[],rfl,.inl rfl,fun d u digit => if_neg (digitNotMinus digit)⟩
  | cons c s =>
    by_cases negative : c = minus
    · subst negative
      exact ⟨[minus],by simp [scanSign],.inr rfl,fun d u _ => by simp [scanSign]⟩
    · refine ⟨[],by simp [scanSign,negative],.inl rfl,fun d u digit => ?_⟩
      simp [scanSign,negative,digitNotMinus digit]

theorem numberTaken {s t : PyStr} {n : Numeral} (h : scanNumber s = some (n,t)) :
    ∃ c, s = c ++ t ∧ NumberStarts c ∧ Dark c ∧ ∀ u, NumberEnds u → scanNumber (c ++ u) = some (n,u) := by
  simp only [scanNumber,bind,Option.bind_eq_some_iff] at h
  obtain ⟨⟨whole,v⟩,read,same⟩ := h
  obtain ⟨rfl,rfl⟩ := Prod.mk.inj (Option.some.inj same)
  obtain ⟨sign,signed,kinds,signAgain⟩ := numberSign s
  obtain ⟨d,c,front,digit,wholeDark,wholeAgain⟩ := wholeTaken read
  obtain ⟨c',fraction,fractionDark,fractionAgain⟩ := fractionTaken (Prod.mk.eta (p := scanFraction v)).symm
  obtain ⟨c'',exponent,exponentDark,exponentAgain⟩ := exponentTaken (Prod.mk.eta (p := scanExponent (scanFraction v).2)).symm
  refine ⟨sign ++ (d::c ++ (c' ++ c'')),?_,?_,?_,fun u ends => ?_⟩
  · rw [List.append_assoc,List.append_assoc,List.append_assoc,← exponent,← fraction,← front,← signed]
  · rcases kinds with rfl | rfl
    · exact ⟨d,_,rfl,.inl digit⟩
    · exact ⟨minus,_,rfl,.inr ⟨rfl,d,_,rfl,digit⟩⟩
  · refine darkAppend ?_ (darkAppend wholeDark (darkAppend fractionDark exponentDark))
    rcases kinds with rfl | rfl
    · exact darkDigits (fun c here => by cases here)
    · exact darkOne (by decide)
  · obtain ⟨third,plain⟩ := exponentAgain u ends
    obtain ⟨second,noDigit⟩ := fractionAgain _ plain
    have first := wholeAgain _ noDigit
    have text : sign ++ (d::c ++ (c' ++ c'')) ++ u = sign ++ d::(c ++ (c' ++ (c'' ++ u))) := by simp
    rw [List.cons_append] at first
    simp only [scanNumber,text,signAgain d _ digit,first,bind,Option.bind_some,second,third]

theorem wordTaken {word s t : PyStr} (h : consumeWord word s = some t) :
    s = word ++ t ∧ ∀ u, consumeWord word (word ++ u) = some u := by
  unfold consumeWord at h
  split at h
  · rename_i front
    obtain ⟨rest,rfl⟩ := List.isPrefixOf_iff_prefix.mp front
    cases h
    refine ⟨by simp,fun u => ?_⟩
    unfold consumeWord
    rw [if_pos (List.isPrefixOf_iff_prefix.mpr ⟨u,rfl⟩),List.drop_left]
  · cases h

def Ink (x : PyChar) : Prop := PyChar.space x = false ∧ x ≠ byteOrderMark

theorem blankSpace {x : PyChar} (blank : jsonSpace x = true) : PyChar.space x = true := by
  have value : x.val = 0x20 ∨ x.val = 0x09 ∨ x.val = 0x0A ∨ x.val = 0x0D := by
    simpa [jsonSpace,or_assoc] using blank
  rcases value with own | own | own | own <;> simp [PyChar.space,own]

theorem inkPlain {x : PyChar} (ink : Ink x) : jsonSpace x = false := by
  rw [Bool.eq_false_iff]
  intro blank
  have space := blankSpace blank
  rw [ink.1] at space
  cases space

def Taken {α : Type} (scan : Nat → PyStr → Except JsonError (α × PyStr)) (fuel : Nat → Nat) (s t : PyStr) (a : α) : Prop :=
  ∃ x c, s = x::c ++ t ∧ Ink x ∧ Closed (x::c) ∧ ∀ u m, NumberEnds u → fuel (x::c).length ≤ m → scan m (x::c ++ u) = .ok (a,u)

section
variable {i : Interpreter} {hooks : Hooks}

theorem constantTaken {word s t v : PyStr} {f : PyFloat} {j : Json} {x : PyChar} {c : PyStr} (shape : word = x::c)
    (ink : Ink x) (closed : Closed word) (read : ∀ u, scanScalar i hooks (word ++ u) = (hooks.constant f).map (·,u))
    (front : consumeWord word s = some v) (h : (hooks.constant f).map (·,v) = .ok (j,t)) :
    Taken (fun _ => scanScalar i hooks) id s t j := by
  obtain ⟨k,own,same⟩ := mapOk.mp h
  cases same
  obtain ⟨rfl,-⟩ := wordTaken front
  subst shape
  refine ⟨x,c,rfl,ink,closed,fun u _ _ _ => ?_⟩
  dsimp only
  rw [read,own]
  rfl

theorem scalarTaken {s t : PyStr} {j : Json} (h : scanScalar i hooks s = .ok (j,t)) :
    Taken (fun _ => scanScalar i hooks) id s t j := by
  unfold scanScalar at h
  split at h
  · rename_i v word
    cases h
    obtain ⟨rfl,-⟩ := wordTaken word
    exact ⟨chr 'n',py "ull",rfl,⟨by decide,by decide⟩,⟨chr 'l',rfl,by decide⟩,fun u _ _ _ => rfl⟩
  split at h
  · rename_i v word
    cases h
    obtain ⟨rfl,-⟩ := wordTaken word
    exact ⟨chr 't',py "rue",rfl,⟨by decide,by decide⟩,⟨chr 'e',rfl,by decide⟩,fun u _ _ _ => rfl⟩
  split at h
  · rename_i v word
    cases h
    obtain ⟨rfl,-⟩ := wordTaken word
    exact ⟨chr 'f',py "alse",rfl,⟨by decide,by decide⟩,⟨chr 'e',rfl,by decide⟩,fun u _ _ _ => rfl⟩
  split at h
  · rename_i v word
    exact constantTaken (x := chr 'N') (c := py "aN") rfl ⟨by decide,by decide⟩ ⟨chr 'N',rfl,by decide⟩ (fun _ => rfl) word h
  split at h
  · rename_i v word
    exact constantTaken (x := chr 'I') (c := py "nfinity") rfl ⟨by decide,by decide⟩ ⟨chr 'y',rfl,by decide⟩ (fun _ => rfl) word h
  split at h
  · rename_i v word
    exact constantTaken (x := chr '-') (c := py "Infinity") rfl ⟨by decide,by decide⟩ ⟨chr 'y',rfl,by decide⟩ (fun _ => rfl) word h
  split at h
  · cases h
  · rename_i n v number
    obtain ⟨k,read,same⟩ := mapOk.mp h
    cases same
    obtain ⟨c,rfl,starts,dark,again⟩ := numberTaken number
    obtain ⟨x,c,rfl,-,mark,-⟩ := numberValue starts
    refine ⟨x,c,rfl,⟨dark x List.mem_cons_self,mark⟩,darkClosed dark,fun u _ ends _ => ?_⟩
    dsimp only
    rw [scalarNumber i hooks (startsMore starts u) (again u ends),read]
    rfl

theorem textTaken {n : Nat} {s t text : PyStr} (h : scanText n s = .ok (text,t)) : Taken scanText id s t text := by
  unfold scanText at h
  split at h
  · rename_i c s
    split at h
    · rename_i opens
      subst opens
      split at h
      · rename_i r read
        cases h
        obtain ⟨c,rfl,closed,-,again⟩ := stringTaken read
        refine ⟨quote,c,rfl,⟨by decide,by decide⟩,closedAfter closed [quote],fun u m _ enough => ?_⟩
        have left : c.length ≤ m := (Nat.le_succ _).trans enough
        rw [List.cons_append]
        unfold scanText
        dsimp only
        rw [if_pos rfl,again u m left]
      · cases h
    · cases h
  · cases h

theorem spaceEnds {c : PyChar} (blank : jsonSpace c = true) (s : PyStr) : NumberEnds (c::s) := by
  intro d here
  cases here
  have value : c.val = 0x20 ∨ c.val = 0x09 ∨ c.val = 0x0A ∨ c.val = 0x0D := by
    simpa [jsonSpace,or_assoc] using blank
  have apart {e : PyChar} (other : e.val ≠ 0x20 ∧ e.val ≠ 0x09 ∧ e.val ≠ 0x0A ∧ e.val ≠ 0x0D) : c ≠ e := by
    rintro rfl
    omega
  refine ⟨?_,apart (by decide),apart (by decide),apart (by decide)⟩
  simp only [PyChar.digit,Bool.and_eq_false_iff,decide_eq_false_iff_not,not_le]
  omega

theorem colonEnds (s : PyStr) : NumberEnds (colon::s) :=
  delimiterEnds (by decide) (by decide) (by decide) (by decide) s

theorem blankEnds {w u : PyStr} (blank : ∀ c ∈ w, jsonSpace c = true) (ends : NumberEnds u) : NumberEnds (w ++ u) := by
  cases w with
  | nil => exact ends
  | cons c w => exact spaceEnds (blank c List.mem_cons_self) _

theorem skipBlank {w : PyStr} (blank : ∀ c ∈ w, jsonSpace c = true) {x : PyChar} (ink : jsonSpace x = false) (u : PyStr) :
    skipSpace (w ++ x::u) = x::u := by
  unfold skipSpace
  rw [List.dropWhile_append_of_pos blank,List.dropWhile_cons_of_neg (Bool.eq_false_iff.mp ink)]

theorem spaceTaken {s t : PyStr} {x : PyChar} (h : skipSpace s = x::t) :
    ∃ w, s = w ++ x::t ∧ (∀ c ∈ w, jsonSpace c = true) ∧ jsonSpace x = false := by
  refine ⟨s.takeWhile jsonSpace,?_,fun c here => List.mem_takeWhile_imp here,?_⟩
  · rw [← h]
    exact List.takeWhile_append_dropWhile.symm
  · have left : s.dropWhile jsonSpace = x::t := h
    have some_ : s.dropWhile jsonSpace ≠ [] := by
      rw [left]
      exact List.cons_ne_nil _ _
    have first := List.head_dropWhile_not jsonSpace some_
    simpa [left] using first

theorem closedBracket (s : PyStr) : Closed (s ++ [closeBracket]) := closedAfter ⟨closeBracket,rfl,by decide⟩ s
theorem closedBrace (s : PyStr) : Closed (s ++ [closeBrace]) := closedAfter ⟨closeBrace,rfl,by decide⟩ s

def ValueTaken (i : Interpreter) (hooks : Hooks) (n : Nat) : Prop :=
  ∀ {d s t j}, scanValue i hooks n d s = .ok (j,t) → Taken (fun m => scanValue i hooks m d) (2 * ·) s t j
def ItemsTaken (i : Interpreter) (hooks : Hooks) (n : Nat) : Prop :=
  ∀ {d s t xs}, scanItems i hooks n d s = .ok (xs,t) → Taken (fun m => scanItems i hooks m d) (fun k => 2 * k - 1) s t xs
def MembersTaken (i : Interpreter) (hooks : Hooks) (n : Nat) : Prop :=
  ∀ {d s t ms}, scanMembers i hooks n d s = .ok (ms,t) → Taken (fun m => scanMembers i hooks m d) (fun k => 2 * k - 1) s t ms

theorem itemsTaken {n : Nat} (value : ValueTaken i hooks n) (items : ItemsTaken i hooks n) : ItemsTaken i hooks (n + 1) := by
  intro d s t xs h
  unfold scanItems at h
  obtain ⟨⟨j,s'⟩,read,rest⟩ := bindOk.mp h
  obtain ⟨x,c,rfl,ink,-,again⟩ := value read
  dsimp only at rest again
  split at rest
  · cases rest
  rename_i y v next
  obtain ⟨w,rfl,blank,inkless⟩ := spaceTaken next
  split at rest
  · rename_i closes
    subst closes
    cases rest
    refine ⟨x,c ++ w ++ [closeBracket],by simp,ink,closedBracket (x::(c ++ w)),fun u m ends enough => ?_⟩
    obtain ⟨k,rfl⟩ : ∃ k, m = k + 1 := Nat.exists_eq_succ_of_ne_zero (by simp at enough; omega)
    have text : x::(c ++ w ++ [closeBracket]) ++ u = x::c ++ (w ++ closeBracket::u) := by simp
    have left : 2 * (x::c).length ≤ k := by
      simp only [List.length_cons,List.length_append,List.length_nil] at enough ⊢
      omega
    dsimp only
    rw [text,scanItems,again _ k (blankEnds blank (bracketEnds u)) left]
    simp only [bind,Except.bind,skipBlank blank inkless,if_true]
    rfl
  split at rest
  · rename_i more comma_
    subst comma_
    obtain ⟨⟨ys,r⟩,later,same⟩ := bindOk.mp rest
    cases same
    obtain ⟨z,c',front,ink',closed,again'⟩ := items later
    dsimp only at again'
    obtain ⟨w',rfl,blank',-⟩ := spaceTaken front
    refine ⟨x,c ++ w ++ comma::(w' ++ z::c'),by simp,ink,
      by simpa using closedAfter closed (x::(c ++ w ++ comma::w')),fun u m ends enough => ?_⟩
    obtain ⟨k,rfl⟩ : ∃ k, m = k + 1 := Nat.exists_eq_succ_of_ne_zero (by simp at enough; omega)
    have text : x::(c ++ w ++ comma::(w' ++ z::c')) ++ u = x::c ++ (w ++ comma::(w' ++ z::(c' ++ u))) := by simp
    have left : 2 * (x::c).length ≤ k := by
      simp only [List.length_cons,List.length_append] at enough ⊢
      omega
    have left' : 2 * (z::c').length - 1 ≤ k := by
      simp only [List.length_cons,List.length_append] at enough ⊢
      omega
    have rest' := again' u k ends left'
    rw [List.cons_append] at rest'
    dsimp only
    rw [text,scanItems,again _ k (blankEnds blank (commaEnds _)) left]
    simp only [bind,Except.bind,skipBlank blank inkless,if_neg more,if_true,skipBlank blank' (inkPlain ink'),rest']
    rfl
  · cases rest

section
variable {k d : Nat} {s r t u w name : PyStr} {j : Json} (named : scanText k s = .ok (name,w ++ colon::t))
  (blank : ∀ c ∈ w, jsonSpace c = true) (read : scanValue i hooks k d (skipSpace t) = .ok (j,r))
include named blank read

theorem memberCloses (closes : skipSpace r = closeBrace::u) : scanMembers i hooks (k + 1) d s = .ok ([(name,j)],u) := by
  rw [scanMembers,named]
  simp only [bind,Except.bind,skipBlank blank (show jsonSpace colon = false by decide),if_true,read,closes]
  rfl

theorem memberFollowed {ms : List (PyStr × Json)} {v : PyStr} (more : skipSpace r = comma::u)
    (later : scanMembers i hooks k d (skipSpace u) = .ok (ms,v)) :
    scanMembers i hooks (k + 1) d s = .ok ((name,j)::ms,v) := by
  rw [scanMembers,named]
  simp only [bind,Except.bind,skipBlank blank (show jsonSpace colon = false by decide),if_true,read,more,
    if_neg (show ¬comma = closeBrace by decide),later]
  rfl

end

theorem membersTaken {n : Nat} (value : ValueTaken i hooks n) (members : MembersTaken i hooks n) :
    MembersTaken i hooks (n + 1) := by
  intro d s t ms h
  unfold scanMembers at h
  obtain ⟨⟨name,s₁⟩,named,rest⟩ := bindOk.mp h
  obtain ⟨x,c,rfl,ink,-,nameAgain⟩ := textTaken named
  dsimp only at rest
  split at rest
  · cases rest
  rename_i y v next
  obtain ⟨w,rfl,blank,-⟩ := spaceTaken next
  split at rest
  rotate_left
  · cases rest
  rename_i separated
  subst separated
  obtain ⟨⟨j,s₂⟩,read,after⟩ := bindOk.mp rest
  obtain ⟨x',c',front,ink',-,valueAgain⟩ := value read
  obtain ⟨w',rfl,blank',-⟩ := spaceTaken front
  have nameRead (r : PyStr) (k : Nat) (enough : (x::c).length ≤ k) :
      scanText k (x::c ++ (w ++ colon::(w' ++ x'::(c' ++ r)))) = .ok (name,w ++ colon::(w' ++ x'::(c' ++ r))) :=
    nameAgain _ k (blankEnds blank (colonEnds _)) enough
  have valueRead (r : PyStr) (k : Nat) (ends : NumberEnds r) (enough : 2 * (x'::c').length ≤ k) :
      scanValue i hooks k d (skipSpace (w' ++ x'::(c' ++ r))) = .ok (j,r) := by
    rw [skipBlank blank' (inkPlain ink')]
    exact valueAgain r k ends enough
  dsimp only at after
  split at after
  · cases after
  rename_i y' v' next'
  obtain ⟨w'',rfl,blank'',inkless⟩ := spaceTaken next'
  split at after
  · rename_i closes
    subst closes
    cases after
    refine ⟨x,c ++ w ++ colon::(w' ++ x'::(c' ++ w'' ++ [closeBrace])),by simp,ink,
      by simpa using closedBrace (x::(c ++ w ++ colon::(w' ++ x'::(c' ++ w'')))),fun u m ends enough => ?_⟩
    obtain ⟨k,rfl⟩ : ∃ k, m = k + 1 := Nat.exists_eq_succ_of_ne_zero (by simp at enough; omega)
    have text : x::(c ++ w ++ colon::(w' ++ x'::(c' ++ w'' ++ [closeBrace]))) ++ u =
        x::c ++ (w ++ colon::(w' ++ x'::(c' ++ (w'' ++ closeBrace::u)))) := by simp
    simp only [List.length_cons,List.length_append,List.length_nil] at enough
    dsimp only
    rw [text]
    exact memberCloses (nameRead _ k (by simp only [List.length_cons]; omega)) blank
      (valueRead _ k (blankEnds blank'' (braceEnds u)) (by simp only [List.length_cons]; omega)) (skipBlank blank'' inkless _)
  split at after
  · rename_i more comma_
    subst comma_
    obtain ⟨⟨later,r⟩,others,same⟩ := bindOk.mp after
    cases same
    obtain ⟨z,c₃,front',ink'',closed,membersAgain⟩ := members others
    obtain ⟨w₃,rfl,blank₃,-⟩ := spaceTaken front'
    refine ⟨x,c ++ w ++ colon::(w' ++ x'::(c' ++ w'' ++ comma::(w₃ ++ z::c₃))),by simp,ink,
      by simpa using closedAfter closed (x::(c ++ w ++ colon::(w' ++ x'::(c' ++ w'' ++ comma::w₃)))),fun u m ends enough => ?_⟩
    obtain ⟨k,rfl⟩ : ∃ k, m = k + 1 := Nat.exists_eq_succ_of_ne_zero (by simp at enough; omega)
    have text : x::(c ++ w ++ colon::(w' ++ x'::(c' ++ w'' ++ comma::(w₃ ++ z::c₃)))) ++ u =
        x::c ++ (w ++ colon::(w' ++ x'::(c' ++ (w'' ++ comma::(w₃ ++ z::(c₃ ++ u)))))) := by simp
    simp only [List.length_cons,List.length_append] at enough
    have rest' : scanMembers i hooks k d (z::(c₃ ++ u)) = .ok (later,u) :=
      membersAgain u k ends (by simp only [List.length_cons]; omega)
    dsimp only
    rw [text]
    refine memberFollowed (nameRead _ k (by simp only [List.length_cons]; omega)) blank
      (valueRead _ k (blankEnds blank'' (commaEnds _)) (by simp only [List.length_cons]; omega)) (skipBlank blank'' inkless _) ?_
    rw [skipBlank blank₃ (inkPlain ink'')]
    exact rest'
  · cases after

theorem quotedTaken {n d : Nat} {s t : PyStr} {j : Json} (h : scanValue i hooks (n + 1) d (quote::s) = .ok (j,t)) :
    Taken (fun m => scanValue i hooks m d) (2 * ·) (quote::s) t j := by
  unfold scanValue at h
  rw [if_pos rfl] at h
  obtain ⟨⟨text,r⟩,read,same⟩ := mapOk.mp h
  cases same
  obtain ⟨y,c,front,ink,closed,again⟩ := textTaken read
  obtain ⟨rfl,rfl⟩ := List.cons.inj front
  refine ⟨quote,c,rfl,ink,closed,fun u m ends enough => ?_⟩
  simp only [List.length_cons] at enough
  obtain ⟨k,rfl⟩ : ∃ k, m = k + 1 := Nat.exists_eq_succ_of_ne_zero (by omega)
  have read' : scanText k (quote::(c ++ u)) = .ok (text,u) := again u k ends (by simp only [List.length_cons,id]; omega)
  dsimp only
  rw [List.cons_append]
  simp only [scanValue,if_true,read']
  rfl

theorem arrayTaken {n d : Nat} {s t : PyStr} {j : Json} (items : ItemsTaken i hooks n)
    (h : scanValue i hooks (n + 1) d (openBracket::s) = .ok (j,t)) :
    Taken (fun m => scanValue i hooks m d) (2 * ·) (openBracket::s) t j := by
  have noText : openBracket ≠ quote := by decide
  unfold scanValue at h
  rw [if_neg noText,if_pos rfl] at h
  cases d with
  | zero => cases h
  | succ d =>
    dsimp only at h
    split at h
    · cases h
    rename_i b v next
    obtain ⟨w,rfl,blank,inkless⟩ := spaceTaken next
    split at h
    · rename_i closes
      subst closes
      cases h
      refine ⟨openBracket,w ++ [closeBracket],by simp,⟨by decide,by decide⟩,closedBracket (openBracket::w),fun u m ends enough => ?_⟩
      simp only [List.length_cons,List.length_append] at enough
      obtain ⟨k,rfl⟩ : ∃ k, m = k + 1 := Nat.exists_eq_succ_of_ne_zero (by omega)
      have text : openBracket::(w ++ [closeBracket]) ++ u = openBracket::(w ++ closeBracket::u) := by simp
      dsimp only
      rw [text,scanValue,if_neg noText,if_pos rfl]
      simp only [skipBlank blank inkless,if_true]
    · rename_i some_
      obtain ⟨⟨xs,r⟩,read,same⟩ := mapOk.mp h
      cases same
      obtain ⟨y,c,front,ink,closed,again⟩ := items read
      obtain ⟨rfl,rfl⟩ := List.cons.inj front
      refine ⟨openBracket,w ++ b::c,by simp,⟨by decide,by decide⟩,closedAfter closed (openBracket::w),fun u m ends enough => ?_⟩
      simp only [List.length_cons,List.length_append] at enough
      obtain ⟨k,rfl⟩ : ∃ k, m = k + 1 := Nat.exists_eq_succ_of_ne_zero (by omega)
      have text : openBracket::(w ++ b::c) ++ u = openBracket::(w ++ b::(c ++ u)) := by simp
      have read' : scanItems i hooks k d (b::(c ++ u)) = .ok (xs,u) :=
        again u k ends (by simp only [List.length_cons]; omega)
      dsimp only
      rw [text,scanValue,if_neg noText,if_pos rfl]
      simp only [skipBlank blank inkless,if_neg some_,read']
      rfl

theorem objectTaken {n d : Nat} {s t : PyStr} {j : Json} (members : MembersTaken i hooks n)
    (h : scanValue i hooks (n + 1) d (openBrace::s) = .ok (j,t)) :
    Taken (fun m => scanValue i hooks m d) (2 * ·) (openBrace::s) t j := by
  have noText : openBrace ≠ quote := by decide
  have noArray : openBrace ≠ openBracket := by decide
  unfold scanValue at h
  rw [if_neg noText,if_neg noArray,if_pos rfl] at h
  cases d with
  | zero => cases h
  | succ d =>
    dsimp only at h
    split at h
    · cases h
    rename_i b v next
    obtain ⟨w,rfl,blank,inkless⟩ := spaceTaken next
    split at h
    · rename_i closes
      subst closes
      obtain ⟨k,built,same⟩ := mapOk.mp h
      cases same
      refine ⟨openBrace,w ++ [closeBrace],by simp,⟨by decide,by decide⟩,closedBrace (openBrace::w),fun u m ends enough => ?_⟩
      simp only [List.length_cons,List.length_append] at enough
      obtain ⟨k',rfl⟩ : ∃ k, m = k + 1 := Nat.exists_eq_succ_of_ne_zero (by omega)
      have text : openBrace::(w ++ [closeBrace]) ++ u = openBrace::(w ++ closeBrace::u) := by simp
      dsimp only
      rw [text,scanValue,if_neg noText,if_neg noArray,if_pos rfl]
      simp only [skipBlank blank inkless,if_true,built]
      rfl
    · rename_i some_
      obtain ⟨⟨ms,r⟩,read,rest⟩ := bindOk.mp h
      obtain ⟨k,built,same⟩ := bindOk.mp rest
      cases same
      obtain ⟨y,c,front,ink,closed,again⟩ := members read
      obtain ⟨rfl,rfl⟩ := List.cons.inj front
      refine ⟨openBrace,w ++ b::c,by simp,⟨by decide,by decide⟩,closedAfter closed (openBrace::w),fun u m ends enough => ?_⟩
      simp only [List.length_cons,List.length_append] at enough
      obtain ⟨k',rfl⟩ : ∃ k, m = k + 1 := Nat.exists_eq_succ_of_ne_zero (by omega)
      have text : openBrace::(w ++ b::c) ++ u = openBrace::(w ++ b::(c ++ u)) := by simp
      have read' : scanMembers i hooks k' d (b::(c ++ u)) = .ok (ms,u) :=
        again u k' ends (by simp only [List.length_cons]; omega)
      dsimp only
      rw [text,scanValue,if_neg noText,if_neg noArray,if_pos rfl]
      simp only [skipBlank blank inkless,if_neg some_,read',bind,Except.bind,built]
      rfl

theorem valueTaken {n : Nat} (items : ItemsTaken i hooks n) (members : MembersTaken i hooks n) :
    ValueTaken i hooks (n + 1) := by
  intro d s t j h
  cases s with
  | nil => simp [scanValue] at h
  | cons x s =>
    by_cases text : x = quote
    · subst text
      exact quotedTaken h
    by_cases array : x = openBracket
    · subst array
      exact arrayTaken items h
    by_cases object : x = openBrace
    · subst object
      exact objectTaken members h
    unfold scanValue at h
    rw [if_neg text,if_neg array,if_neg object] at h
    obtain ⟨y,c,front,ink,closed,again⟩ := scalarTaken h
    obtain ⟨rfl,rfl⟩ := List.cons.inj front
    refine ⟨x,c,rfl,ink,closed,fun u m ends enough => ?_⟩
    simp only [List.length_cons] at enough
    obtain ⟨k,rfl⟩ : ∃ k, m = k + 1 := Nat.exists_eq_succ_of_ne_zero (by omega)
    dsimp only
    rw [List.cons_append]
    simp only [scanValue,if_neg text,if_neg array,if_neg object]
    exact again u _ ends (le_refl _)

theorem allTaken (n : Nat) : ValueTaken i hooks n ∧ ItemsTaken i hooks n ∧ MembersTaken i hooks n := by
  induction n with
  | zero =>
    refine ⟨?_,?_,?_⟩
    · intro d s t j h
      simp [scanValue] at h
    · intro d s t xs h
      simp [scanItems] at h
    · intro d s t ms h
      simp [scanMembers] at h
  | succ n ih =>
    obtain ⟨value,items,members⟩ := ih
    exact ⟨valueTaken items members,itemsTaken value items,membersTaken value members⟩

theorem loadsPadded {s : PyStr} {j : Json} (h : loads i hooks s = .ok j) : ∃ w x c v, s = w ++ (x::c ++ v) ∧
    (∀ y ∈ w, jsonSpace y = true) ∧ (∀ y ∈ v, jsonSpace y = true) ∧ Ink x ∧ Closed (x::c) ∧
      ∀ w' v', (∀ y ∈ w', jsonSpace y = true) → (∀ y ∈ v', jsonSpace y = true) →
        loads i hooks (w' ++ (x::c ++ v')) = .ok j := by
  unfold loads at h
  split at h
  · cases h
  obtain ⟨⟨k,rest⟩,scanned,ends⟩ := bindOk.mp h
  dsimp only at ends
  split at ends
  rotate_left
  · cases ends
  rename_i blankRest
  cases ends
  obtain ⟨x,c,front,ink,closed,again⟩ := (allTaken _).1 scanned
  obtain ⟨w,rfl,blank,-⟩ := spaceTaken front
  have after : ∀ y ∈ rest, jsonSpace y = true := by
    have none_ : rest.dropWhile jsonSpace = [] := List.isEmpty_iff.mp blankRest
    exact List.dropWhile_eq_nil_iff.mp none_
  refine ⟨w,x,c,rest,rfl,blank,after,ink,closed,fun w' v' before' after' => ?_⟩
  have marked : ¬(w' ++ (x::c ++ v')).head? = some byteOrderMark := by
    cases w' with
    | nil => exact fun same => ink.2 (Option.some.inj same)
    | cons y w' =>
      intro same
      have space := before' y List.mem_cons_self
      rw [Option.some.inj same] at space
      exact absurd space (by decide)
  have ends' : NumberEnds v' := by
    rw [← List.append_nil v']
    exact blankEnds after' (fun y here => by cases here)
  have read : scanValue i hooks (fuelFor (w' ++ (x::c ++ v'))) i.depth (x::c ++ v') = .ok (j,v') := by
    refine again v' _ ends' ?_
    simp only [fuelFor,List.length_append,List.length_cons]
    omega
  have skipped : skipSpace (w' ++ (x::c ++ v')) = x::c ++ v' := skipBlank before' (inkPlain ink) _
  unfold loads
  rw [if_neg marked,skipped,read]
  simp only [bind,Except.bind]
  have none_ : skipSpace v' = [] := List.dropWhile_eq_nil_iff.mpr after'
  rw [none_]
  rfl

end
end PgLlmBatch.Base.JsonText
