import PgLlmBatch.Base.Fallible
import PgLlmBatch.Base.JsonCanonical

/-! Reading one text under two sets of hooks: where the second keeps what the first returned
the readings agree, and a text no longer than the digit limit never meets that limit. -/
namespace PgLlmBatch.Base.JsonText
open Fallible

def rawHooks : Hooks := ⟨fun ms => .ok (.obj ms),fun f => .ok (.float f),fun f => .ok (.float f)⟩

def uniqueHooks : Hooks where
  pairs ms := if hasDuplicateNames ms then .error .refused else .ok (.obj ms)
  float := rawHooks.float
  constant := rawHooks.constant

theorem rawFaithful : Faithful rawHooks := ⟨fun _ _ => rfl,fun _ _ => rfl⟩

theorem uniqueFaithful : Faithful uniqueHooks where
  pairs ms distinct := by simp [uniqueHooks,hasDuplicateNames,distinct]
  float _ _ := rfl

-- `P` is what the result must satisfy for the second hooks to keep it.
structure Keeps (P : Json → Prop) (first second : Hooks) : Prop where
  items : ∀ xs, P (.arr xs) → ∀ x ∈ xs, P x
  pairs : ∀ ms j, first.pairs ms = .ok j → P j → second.pairs ms = .ok j ∧ ∀ m ∈ ms, P m.2
  float : ∀ f j, first.float f = .ok j → P j → second.float f = .ok j
  constant : ∀ f j, first.constant f = .ok j → P j → second.constant f = .ok j

section
variable {P : Json → Prop} {first second : Hooks} {i : Interpreter}

theorem numeralKept (keeps : Keeps P first second) {n : Numeral} {j : Json}
    (h : n.read i first = .ok j) (own : P j) : n.read i second = .ok j := by
  unfold Numeral.read at h ⊢
  split at h
  · rename_i whole
    rw [if_pos whole]
    exact h
  · rename_i whole
    rw [if_neg whole]
    exact keeps.float _ _ h own

theorem scalarKept (keeps : Keeps P first second) {s t : PyStr} {j : Json}
    (h : scanScalar i first s = .ok (j,t)) (own : P j) : scanScalar i second s = .ok (j,t) := by
  have constant {f : PyFloat} {u : PyStr} (h : (first.constant f).map (·,u) = .ok (j,t)) :
      (second.constant f).map (·,u) = .ok (j,t) := by
    obtain ⟨k,read,same⟩ := mapOk.mp h
    cases same
    rw [keeps.constant _ _ read own]
    rfl
  unfold scanScalar at h ⊢
  cases null : consumeWord (py "null") s with
  | some u => simpa only [null] using h
  | none =>
  cases yes : consumeWord (py "true") s with
  | some u => simpa only [null,yes] using h
  | none =>
  cases no : consumeWord (py "false") s with
  | some u => simpa only [null,yes,no] using h
  | none =>
  cases nan : consumeWord (py "NaN") s with
  | some u =>
    simp only [null,yes,no,nan] at h ⊢
    exact constant h
  | none =>
  cases infinity : consumeWord (py "Infinity") s with
  | some u =>
    simp only [null,yes,no,nan,infinity] at h ⊢
    exact constant h
  | none =>
  cases below : consumeWord (py "-Infinity") s with
  | some u =>
    simp only [null,yes,no,nan,infinity,below] at h ⊢
    exact constant h
  | none =>
  simp only [null,yes,no,nan,infinity,below] at h ⊢
  cases number : scanNumber s with
  | none => simp [number] at h
  | some r =>
    simp only [number] at h ⊢
    obtain ⟨k,read,same⟩ := mapOk.mp h
    cases same
    rw [numeralKept keeps read own]
    rfl

def ValueKept (P : Json → Prop) (first second : Hooks) (i : Interpreter) (n : Nat) : Prop :=
  ∀ {d s j t}, scanValue i first n d s = .ok (j,t) → P j → scanValue i second n d s = .ok (j,t)
def ItemsKept (P : Json → Prop) (first second : Hooks) (i : Interpreter) (n : Nat) : Prop :=
  ∀ {d s xs t}, scanItems i first n d s = .ok (xs,t) → (∀ x ∈ xs, P x) → scanItems i second n d s = .ok (xs,t)
def MembersKept (P : Json → Prop) (first second : Hooks) (i : Interpreter) (n : Nat) : Prop :=
  ∀ {d s ms t}, scanMembers i first n d s = .ok (ms,t) → (∀ m ∈ ms, P m.2) →
    scanMembers i second n d s = .ok (ms,t)

variable (keeps : Keeps P first second) {n : Nat}
include keeps

theorem valueKept (items : ItemsKept P first second i n) (members : MembersKept P first second i n) :
    ValueKept P first second i (n+1) := by
  intro d s j t h own
  cases s with
  | nil => cases h
  | cons c s =>
    unfold scanValue at h ⊢
    split at h
    · rename_i here
      rw [if_pos here]
      exact h
    rename_i notText
    rw [if_neg notText]
    split at h
    · rename_i here
      rw [if_pos here]
      cases d with
      | zero => cases h
      | succ d =>
        simp only at h ⊢
        split at h
        · cases h
        · split at h
          · rename_i closed
            rw [if_pos closed]
            exact h
          · rename_i opened
            rw [if_neg opened]
            obtain ⟨⟨xs,u⟩,scanned,same⟩ := mapOk.mp h
            cases same
            rw [items scanned (keeps.items xs own)]
            rfl
    rename_i notArray
    rw [if_neg notArray]
    split at h
    · rename_i here
      rw [if_pos here]
      cases d with
      | zero => cases h
      | succ d =>
        simp only at h ⊢
        split at h
        · cases h
        · split at h
          · rename_i closed
            rw [if_pos closed]
            obtain ⟨k,built,same⟩ := mapOk.mp h
            cases same
            rw [(keeps.pairs _ _ built own).1]
            rfl
          · rename_i opened
            rw [if_neg opened]
            obtain ⟨⟨ms,u⟩,scanned,rest⟩ := bindOk.mp h
            obtain ⟨k,built,same⟩ := bindOk.mp rest
            cases same
            obtain ⟨kept,each⟩ := keeps.pairs _ _ built own
            rw [members scanned each]
            simp only [bind,Except.bind,kept]
            rfl
    rename_i notObject
    rw [if_neg notObject]
    exact scalarKept keeps h own

omit keeps in
theorem itemsKept (value : ValueKept P first second i n) (items : ItemsKept P first second i n) :
    ItemsKept P first second i (n+1) := by
  intro d s xs t h own
  unfold scanItems at h ⊢
  obtain ⟨⟨x,u⟩,scanned,rest⟩ := bindOk.mp h
  simp only at rest
  split at rest
  · cases rest
  rename_i c v shape
  split at rest
  · rename_i closed
    cases rest
    rw [value scanned (own x (by simp))]
    simp only [bind,Except.bind,shape,if_pos closed]
    rfl
  rename_i opened
  split at rest
  · rename_i more
    obtain ⟨⟨ys,w⟩,later,same⟩ := bindOk.mp rest
    cases same
    rw [value scanned (own x (by simp))]
    simp only [bind,Except.bind,shape,if_neg opened,if_pos more,items later (fun y here => own y (by simp [here]))]
    rfl
  · cases rest

omit keeps in
theorem membersKept (value : ValueKept P first second i n) (members : MembersKept P first second i n) :
    MembersKept P first second i (n+1) := by
  intro d s ms t h own
  unfold scanMembers at h ⊢
  obtain ⟨⟨k,u⟩,name,rest⟩ := bindOk.mp h
  simp only at rest
  split at rest
  · cases rest
  rename_i c v shape
  split at rest
  rotate_left
  · cases rest
  rename_i separated
  obtain ⟨⟨x,w⟩,scanned,rest⟩ := bindOk.mp rest
  simp only at rest
  split at rest
  · cases rest
  rename_i c' v' shape'
  split at rest
  · rename_i closed
    cases rest
    simp only [name,bind,Except.bind,shape,if_pos separated,value scanned (own (k,x) (by simp)),shape',if_pos closed]
    rfl
  rename_i opened
  split at rest
  · rename_i more
    obtain ⟨⟨ns,z⟩,later,same⟩ := bindOk.mp rest
    cases same
    simp only [name,bind,Except.bind,shape,if_pos separated,value scanned (own (k,x) (by simp)),shape',
      if_neg opened,if_pos more,members later (fun m here => own m (by simp [here]))]
    rfl
  · cases rest

theorem scanKept (n : Nat) :
    ValueKept P first second i n ∧ ItemsKept P first second i n ∧ MembersKept P first second i n := by
  induction n with
  | zero =>
    refine ⟨?_,?_,?_⟩ <;> intro d s j t h
    · simp [scanValue] at h
    · simp [scanItems] at h
    · simp [scanMembers] at h
  | succ n ih =>
    obtain ⟨value,items,members⟩ := ih
    exact ⟨valueKept keeps items members,itemsKept value items,membersKept value members⟩

theorem loadsKept {s : PyStr} {j : Json} (h : loads i first s = .ok j) (own : P j) : loads i second s = .ok j := by
  unfold loads at h ⊢
  split at h
  · cases h
  rename_i plain
  rw [if_neg plain]
  obtain ⟨⟨k,rest⟩,scanned,ends⟩ := bindOk.mp h
  simp only at ends
  split at ends
  · rename_i blank
    cases ends
    rw [(scanKept keeps _).1 scanned own]
    simp only [bind,Except.bind,if_pos blank]
    rfl
  · cases ends

end

theorem objectBuilt {i : Interpreter} {hooks : Hooks} {ms : List (PyStr × Json)}
    (float : ∀ f, hooks.float f ≠ .ok (.obj ms)) (constant : ∀ f, hooks.constant f ≠ .ok (.obj ms)) {s : PyStr}
    (h : loads i hooks s = .ok (.obj ms)) : ∃ pairs, hooks.pairs pairs = .ok (.obj ms) := by
  have scalar {s t : PyStr} (h : scanScalar i hooks s = .ok (.obj ms,t)) : False := by
    have paired {f : PyFloat} {u : PyStr} (h : (hooks.constant f).map (·,u) = .ok (.obj ms,t)) : False := by
      obtain ⟨j,read,same⟩ := mapOk.mp h
      cases same
      exact constant f read
    unfold scanScalar at h
    split at h
    · cases h
    split at h
    · cases h
    split at h
    · cases h
    split at h
    · exact paired h
    split at h
    · exact paired h
    split at h
    · exact paired h
    split at h
    · cases h
    · obtain ⟨j,read,same⟩ := mapOk.mp h
      cases same
      unfold Numeral.read at read
      split at read
      · split at read <;> cases read
      · exact float _ read
  unfold loads at h
  split at h
  · cases h
  obtain ⟨⟨j,rest⟩,scanned,ends⟩ := bindOk.mp h
  simp only at ends
  split at ends
  rotate_left
  · cases ends
  cases ends
  generalize skipSpace s = t at scanned
  obtain ⟨n,fuel⟩ : ∃ n, fuelFor s = n + 1 := ⟨2 * s.length + 1,rfl⟩
  rw [fuel] at scanned
  cases t with
  | nil => cases scanned
  | cons c t =>
    unfold scanValue at scanned
    split at scanned
    · obtain ⟨r,-,same⟩ := mapOk.mp scanned
      cases same
    split at scanned
    · split at scanned
      · cases scanned
      split at scanned
      · cases scanned
      split at scanned
      · cases scanned
      · obtain ⟨r,-,same⟩ := mapOk.mp scanned
        cases same
    split at scanned
    · split at scanned
      · cases scanned
      split at scanned
      · cases scanned
      split at scanned
      · obtain ⟨j,built,same⟩ := mapOk.mp scanned
        cases same
        exact ⟨_,built⟩
      · obtain ⟨r,-,rest⟩ := bindOk.mp scanned
        obtain ⟨j,built,same⟩ := bindOk.mp rest
        cases same
        exact ⟨_,built⟩
    · exact (scalar scanned).elim

theorem uniqueDistinct {i : Interpreter} {s : PyStr} {ms : List (PyStr × Json)}
    (h : loads i uniqueHooks s = .ok (.obj ms)) : (ms.map Prod.fst).Nodup := by
  obtain ⟨pairs,built⟩ := objectBuilt (by simp [uniqueHooks,rawHooks]) (by simp [uniqueHooks,rawHooks]) h
  simp only [uniqueHooks] at built
  split at built
  · cases built
  · rename_i distinct
    cases built
    simpa [hasDuplicateNames] using distinct

theorem uniqueRaw {i : Interpreter} {s : PyStr} {j : Json} (h : loads i uniqueHooks s = .ok j) :
    loads i rawHooks s = .ok j := by
  have keeps : Keeps (fun _ => True) uniqueHooks rawHooks := by
    refine ⟨fun _ _ _ _ => trivial,fun ms k built _ => ?_,fun _ _ h _ => h,fun _ _ h _ => h⟩
    simp only [uniqueHooks] at built
    split at built
    · cases built
    · exact ⟨built,fun _ _ => trivial⟩
  exact loadsKept keeps h trivial

def scalar : Json → Bool
  | .arr _ => false
  | .obj _ => false
  | _ => true

theorem flatUnique {i : Interpreter} {s : PyStr} {ms : List (PyStr × Json)} (h : loads i rawHooks s = .ok (.obj ms))
    (distinct : (ms.map Prod.fst).Nodup) (flat : ∀ m ∈ ms, scalar m.2 = true) :
    loads i uniqueHooks s = .ok (.obj ms) := by
  have keeps : Keeps (fun j => j = .obj ms ∨ scalar j = true) rawHooks uniqueHooks := by
    refine ⟨fun xs own => ?_,fun ns j built own => ?_,fun _ _ h _ => h,fun _ _ h _ => h⟩
    · rcases own with own | own <;> cases own
    · cases Except.ok.inj built
      rcases own with own | own
      · cases own
        exact ⟨uniqueFaithful.pairs ms distinct,fun m here => .inr (flat m here)⟩
      · cases own
  exact loadsKept keeps h (.inl rfl)

theorem dropShorter (p : PyChar → Bool) (s : PyStr) : (s.dropWhile p).length ≤ s.length :=
  (List.dropWhile_sublist p).length_le

theorem hexShorter {s t : PyStr} {n : Nat} (h : scanHex s = some (n,t)) : t.length ≤ s.length := by
  unfold scanHex at h
  split at h
  · simp only [bind,Option.bind_eq_some_iff,Option.some.injEq,Prod.mk.injEq] at h
    obtain ⟨-,-,-,-,-,-,-,-,-,rfl⟩ := h
    simp only [List.length_cons]
    omega
  · cases h

theorem escapeShorter {s t : PyStr} {c : PyChar} (h : scanEscape s = some (c,t)) : t.length ≤ s.length := by
  unfold scanEscape at h
  split at h
  · cases h
  rename_i e s
  split at h
  · simp only [bind,Option.bind_eq_some_iff] at h
    obtain ⟨⟨n,u⟩,hex,rest⟩ := h
    have first : u.length ≤ s.length := hexShorter hex
    simp only at rest
    split at rest
    · split at rest
      · simp only [Option.bind_eq_some_iff] at rest
        obtain ⟨⟨m,v⟩,low,rest⟩ := rest
        have second := hexShorter low
        split at rest
        all_goals
          obtain ⟨-,rfl⟩ := Prod.mk.inj (Option.some.inj rest)
          simp only [List.length_cons] at *
          omega
      · obtain ⟨-,rfl⟩ := Prod.mk.inj (Option.some.inj rest)
        simp only [List.length_cons] at *
        omega
    · obtain ⟨-,rfl⟩ := Prod.mk.inj (Option.some.inj rest)
      simp only [List.length_cons]
      omega
  · obtain ⟨d,-,same⟩ := Option.map_eq_some_iff.mp h
    cases same
    simp

theorem stringShorter {n : Nat} {s t text : PyStr} (h : scanString n s = some (text,t)) : t.length ≤ s.length := by
  induction n generalizing s text with
  | zero => simp [scanString] at h
  | succ n ih =>
    cases s with
    | nil => simp [scanString] at h
    | cons c s =>
      unfold scanString at h
      split at h
      · cases h
        simp
      split at h
      · simp only [bind,Option.bind_eq_some_iff] at h
        obtain ⟨⟨x,u⟩,escaped,⟨rest,v⟩,read,same⟩ := h
        cases same
        have escape : u.length ≤ s.length := escapeShorter escaped
        have left : v.length ≤ u.length := ih read
        exact (left.trans escape).trans (Nat.le_succ _)
      split at h
      · cases h
      · simp only [bind,Option.bind_eq_some_iff] at h
        obtain ⟨⟨rest,v⟩,read,same⟩ := h
        cases same
        exact (ih read).trans (Nat.le_succ _)

theorem wholeShorter {s t whole : PyStr} (h : scanWhole s = some (whole,t)) :
    whole.length ≤ s.length ∧ t.length ≤ s.length := by
  unfold scanWhole at h
  split at h
  · cases h
  rename_i c s
  split at h
  · cases h
    simp
  split at h
  · cases h
    have := dropShorter PyChar.digit s
    have := (List.takeWhile_sublist PyChar.digit (l := s)).length_le
    simp only [List.length_cons]
    omega
  · cases h

theorem fractionShorter (s : PyStr) : (scanFraction s).2.length ≤ s.length := by
  unfold scanFraction
  split
  · rename_i c d s
    split
    · have := dropShorter PyChar.digit s
      simp only [List.length_cons]
      omega
    · simp
  · simp

theorem plusOrMinusShorter (t : PyStr) : (match t with
    | c::u => if c = minus then (true,u) else if c = chr '+' then (false,u) else (false,t)
    | [] => (false,t)).2.length ≤ t.length := by
  split
  · split
    · simp
    split <;> simp
  · simp

theorem signedShorter (e : PyChar) {t : PyStr} (sign : Bool × PyStr) (shorter : sign.2.length ≤ t.length) :
    (match sign with
      | (negative,u) => match u.takeWhile PyChar.digit with
        | [] => ((none : Option (Bool × PyStr)),e::t)
        | d::ds => (some (negative,d::ds),u.dropWhile PyChar.digit)).2.length ≤ (e::t).length := by
  obtain ⟨negative,u⟩ := sign
  simp only at shorter ⊢
  split
  · exact le_refl _
  · exact ((dropShorter PyChar.digit u).trans shorter).trans (Nat.le_succ _)

theorem exponentShorter (s : PyStr) : (scanExponent s).2.length ≤ s.length := by
  unfold scanExponent
  split
  rotate_left
  · simp
  rename_i e t
  split
  rotate_left
  · simp
  exact signedShorter e _ (plusOrMinusShorter t)

theorem signShorter (s : PyStr) : (scanSign s).2.length ≤ s.length := by
  unfold scanSign
  split
  · split <;> simp
  · simp

theorem numberShorter {s t : PyStr} {n : Numeral} (h : scanNumber s = some (n,t)) :
    n.whole.length ≤ s.length ∧ t.length ≤ s.length := by
  simp only [scanNumber,bind,Option.bind_eq_some_iff] at h
  obtain ⟨⟨whole,u⟩,read,same⟩ := h
  cases same
  have sign := signShorter s
  obtain ⟨digits,left⟩ := wholeShorter read
  have fraction := fractionShorter u
  have exponent := exponentShorter (scanFraction u).2
  exact ⟨by simp only; omega,by simp only at *; omega⟩

def Ample {α : Type} (s : PyStr) : Except JsonError (α × PyStr) → Prop
  | .ok r => r.2.length ≤ s.length
  | .error e => e ≠ .outOfRange

structure InRange (hooks : Hooks) : Prop where
  pairs : ∀ ms, hooks.pairs ms ≠ .error .outOfRange
  float : ∀ f, hooks.float f ≠ .error .outOfRange
  constant : ∀ f, hooks.constant f ≠ .error .outOfRange

theorem uniqueInRange : InRange uniqueHooks where
  pairs ms h := by
    simp only [uniqueHooks] at h
    split at h <;> cases h
  float _ h := nomatch h
  constant _ h := nomatch h

section
variable {α β : Type} {i : Interpreter} {hooks : Hooks}

theorem ampleLonger {s t : PyStr} {r : Except JsonError (α × PyStr)} (ample : Ample s r)
    (longer : s.length ≤ t.length) : Ample t r := by
  cases r with
  | ok v => exact le_trans ample longer
  | error e => exact ample

theorem ampleMap {s : PyStr} {r : Except JsonError (α × PyStr)} {f : α × PyStr → β × PyStr} (ample : Ample s r)
    (left : ∀ v, (f v).2 = v.2) : Ample s (r.map f) := by
  cases r with
  | ok v => exact (congrArg List.length (left v)).trans_le ample
  | error e => exact ample

theorem amplePaired {s t : PyStr} {r : Except JsonError α} (inRange : r ≠ .error .outOfRange)
    (left : t.length ≤ s.length) : Ample s (r.map (·,t)) := by
  cases r with
  | ok v => exact left
  | error e => exact fun same => inRange (congrArg Except.error same)

theorem ampleBind {s : PyStr} {r : Except JsonError (α × PyStr)} {f : α × PyStr → Except JsonError (β × PyStr)}
    (ample : Ample s r) (next : ∀ v, v.2.length ≤ s.length → Ample s (f v)) : Ample s (r >>= f) := by
  cases r with
  | ok v => exact next v ample
  | error e => exact ample

theorem ampleOpened (s t : PyStr) {f : PyChar → PyStr → Except JsonError (α × PyStr)} (left : t.length ≤ s.length)
    (next : ∀ c u, (c::u).length ≤ s.length → Ample s (f c u)) :
    Ample s (match skipSpace t with | [] => .error .malformed | c::u => f c u) := by
  have shorter := (dropShorter jsonSpace t).trans left
  split
  · exact JsonError.noConfusion
  · rename_i c u shape
    exact next c u (by rw [← shape]; exact shorter)

variable {limit : Nat} (digits : ∀ n ≤ limit, Interpreter.allows i n = true) (inRange : InRange hooks)

theorem textAmple (n : Nat) (s : PyStr) : Ample s (scanText n s) := by
  unfold scanText
  split
  · rename_i c t
    split
    · split
      · rename_i r read
        exact (stringShorter read).trans (Nat.le_succ _)
      · exact JsonError.noConfusion
    · exact JsonError.noConfusion
  · exact JsonError.noConfusion

theorem wordShorter {word s t : PyStr} (h : consumeWord word s = some t) : t.length ≤ s.length := by
  unfold consumeWord at h
  split at h
  · cases h
    simp
  · cases h

include digits inRange

theorem numeralAmple {n : Numeral} (fits : n.whole.length ≤ limit) : n.read i hooks ≠ .error .outOfRange := by
  unfold Numeral.read
  split
  · rw [if_pos (digits _ fits)]
    exact fun h => nomatch h
  · exact inRange.float _

theorem scalarAmple {s : PyStr} (fits : s.length ≤ limit) : Ample s (scanScalar i hooks s) := by
  unfold scanScalar
  split
  · rename_i word
    exact wordShorter word
  split
  · rename_i word
    exact wordShorter word
  split
  · rename_i word
    exact wordShorter word
  split
  · rename_i word
    exact amplePaired (inRange.constant _) (wordShorter word)
  split
  · rename_i word
    exact amplePaired (inRange.constant _) (wordShorter word)
  split
  · rename_i word
    exact amplePaired (inRange.constant _) (wordShorter word)
  split
  · exact JsonError.noConfusion
  · rename_i n t number
    obtain ⟨whole,left⟩ := numberShorter number
    exact amplePaired (numeralAmple digits inRange (whole.trans fits)) left

theorem scanAmple (n : Nat) : ∀ d s, s.length ≤ limit →
    Ample s (scanValue i hooks n d s) ∧ Ample s (scanItems i hooks n d s) ∧ Ample s (scanMembers i hooks n d s) := by
  induction n with
  | zero =>
    intro d s fits
    refine ⟨?_,?_,?_⟩
    · simp [scanValue,Ample]
    · simp [scanItems,Ample]
    · simp [scanMembers,Ample]
  | succ n ih =>
    have value {d s t} (fits : s.length ≤ limit) (left : t.length ≤ s.length) :
        Ample s (scanValue i hooks n d t) := ampleLonger (ih d t (left.trans fits)).1 left
    have items {d s t} (fits : s.length ≤ limit) (left : t.length ≤ s.length) :
        Ample s (scanItems i hooks n d t) := ampleLonger (ih d t (left.trans fits)).2.1 left
    have members {d s t} (fits : s.length ≤ limit) (left : t.length ≤ s.length) :
        Ample s (scanMembers i hooks n d t) := ampleLonger (ih d t (left.trans fits)).2.2 left
    intro d s fits
    refine ⟨?_,?_,?_⟩
    · cases s with
      | nil => exact JsonError.noConfusion
      | cons c s =>
        unfold scanValue
        split
        · exact ampleMap (textAmple n _) (fun _ => rfl)
        split
        · cases d with
          | zero => exact JsonError.noConfusion
          | succ d =>
            refine ampleOpened _ _ (Nat.le_succ _) (fun b t left => ?_)
            split
            · exact (Nat.le_succ _).trans left
            · exact ampleMap (items fits left) (fun _ => rfl)
        split
        · cases d with
          | zero => exact JsonError.noConfusion
          | succ d =>
            refine ampleOpened _ _ (Nat.le_succ _) (fun b t left => ?_)
            split
            · exact amplePaired (inRange.pairs _) ((Nat.le_succ _).trans left)
            · refine ampleBind (members fits left) (fun r after => ?_)
              exact amplePaired (inRange.pairs r.1) after
        · exact scalarAmple digits inRange fits
    · unfold scanItems
      refine ampleBind (value fits (le_refl _)) (fun r after => ?_)
      refine ampleOpened _ _ after (fun c t left => ?_)
      have shorter : t.length ≤ s.length := (Nat.le_succ _).trans left
      split
      · exact shorter
      split
      · exact ampleBind (items fits ((dropShorter _ _).trans shorter)) (fun _ after => after)
      · exact JsonError.noConfusion
    · unfold scanMembers
      refine ampleBind (textAmple n s) (fun r after => ?_)
      refine ampleOpened _ _ after (fun c t left => ?_)
      have shorter : t.length ≤ s.length := (Nat.le_succ _).trans left
      split
      · refine ampleBind (value fits ((dropShorter _ _).trans shorter)) (fun v after => ?_)
        refine ampleOpened _ _ after (fun c u left => ?_)
        have shorter : u.length ≤ s.length := (Nat.le_succ _).trans left
        split
        · exact shorter
        split
        · exact ampleBind (members fits ((dropShorter _ _).trans shorter)) (fun _ after => after)
        · exact JsonError.noConfusion
      · exact JsonError.noConfusion

theorem loadsInRange {s : PyStr} (fits : s.length ≤ limit) : loads i hooks s ≠ .error .outOfRange := by
  unfold loads
  split
  · exact fun h => nomatch h
  have ample := (scanAmple digits inRange (fuelFor s) i.depth (skipSpace s) ((dropShorter _ _).trans fits)).1
  intro h
  cases read : scanValue i hooks (fuelFor s) i.depth (skipSpace s) with
  | ok r =>
    simp only [read,bind,Except.bind] at h
    split at h <;> cases h
  | error e =>
    rw [read] at ample h
    exact ample (Except.error.inj h)

end

end PgLlmBatch.Base.JsonText
