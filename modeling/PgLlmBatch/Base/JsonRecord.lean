import PgLlmBatch.Base.JsonReading

/-! Flat records as JSON objects: the text of `ensure_ascii=True` with a bound on its length,
lookups that do not see the order of the members, and fields of one exact type. -/
namespace PgLlmBatch.Base.JsonText
open Fallible

def unicodeEscape (n : Nat) : PyStr :=
  py "\\u" ++ [hexDigit (n / 0x1000),hexDigit (n / 0x100 % 0x10),hexDigit (n / 0x10 % 0x10),hexDigit (n % 0x10)]

-- What `ensure_ascii=True` writes for a character that needs no other escape.
def asciiChar (c : PyChar) : PyStr :=
  if c.val ≤ 0x7E then [c]
  else if c.val < 0x10000 then unicodeEscape c.val
  else unicodeEscape (0xD800 + (c.val - 0x10000) / 0x400) ++ unicodeEscape (0xDC00 + (c.val - 0x10000) % 0x400)

def dumpsAscii (i : Interpreter) (style : DumpStyle) (value : Json) : Except JsonError PyStr :=
  (dumps i style value).map (·.flatMap asciiChar)

theorem asciiKept {s : PyStr} (graphic : ∀ c ∈ s, c.val ≤ 0x7E) : s.flatMap asciiChar = s := by
  induction s with
  | nil => rfl
  | cons c s ih =>
    rw [List.flatMap_cons,asciiChar,if_pos (graphic c (by simp)),ih (fun d here => graphic d (by simp [here]))]
    rfl

theorem asciiEncoded {s : PyStr} (graphic : ∀ c ∈ s, c.val ≤ 0x7E) :
    ∃ bytes, s.encodeUtf8 = some bytes ∧ bytes.length = s.length := by
  induction s with
  | nil => exact ⟨[],rfl,rfl⟩
  | cons c s ih =>
    obtain ⟨tail,encoded,same⟩ := ih (fun d here => graphic d (by simp [here]))
    have own : c.val < 0x80 := Nat.lt_of_le_of_lt (graphic c (by simp)) (by decide)
    have head : c.utf8 = some [.ofNat c.val] := by simp [PyChar.utf8,own]
    refine ⟨[.ofNat c.val] ++ tail,by simp only [PyStr.encodeUtf8,head,encoded,bind,Option.bind],?_⟩
    simp [same]

theorem encodedLonger {s : PyStr} {bytes : Bytes} (h : s.encodeUtf8 = some bytes) : s.length ≤ bytes.length := by
  induction s generalizing bytes with
  | nil => exact Nat.zero_le _
  | cons c s ih =>
    simp only [PyStr.encodeUtf8,bind,Option.bind_eq_some_iff] at h
    obtain ⟨head,own,tail,rest,same⟩ := h
    have one : 1 ≤ head.length := by
      unfold PyChar.utf8 at own
      simp only at own
      split at own
      · cases own
        simp
      split at own
      · cases own
        simp
      split at own
      · cases own
      split at own
      · cases own
        simp
      · cases own
        simp
    have later := ih rest
    rw [← Option.some.inj same,List.length_append,List.length_cons]
    omega

section
variable {i : Interpreter} {style : DumpStyle}

theorem membersShort {e : Nat} {ms : List (PyStr × Json)} {cost : PyStr × Json → Nat}
    (compact : style.compact = true)
    (each : ∀ m ∈ ms, ∀ {text}, dumpValue i style e m.2 = .ok text →
      (dumpString m.1).length + text.length + 2 ≤ cost m) {text : PyStr}
    (h : dumpMembers i style e ms = .ok text) : text.length ≤ (ms.map cost).sum := by
  have gap : style.gap.length = 0 := by simp [DumpStyle.gap,compact]
  induction ms generalizing text with
  | nil =>
    cases Except.ok.inj h
    exact le_refl _
  | cons m ms ih =>
    obtain ⟨k,x⟩ := m
    cases ms with
    | nil =>
      obtain ⟨value,first,rfl⟩ := memberText h
      have own := each (k,x) (by simp) first
      rw [List.map_cons,List.sum_cons]
      simp only [List.length_append,List.length_cons,gap] at own ⊢
      omega
    | cons l ls =>
      obtain ⟨value,tail,first,rest,rfl⟩ := membersText h
      have own := each (k,x) (by simp) first
      have later := ih (fun m here => each m (by simp [here])) rest
      rw [List.map_cons,List.sum_cons]
      simp only [List.length_append,List.length_cons,gap] at own later ⊢
      omega

theorem objectShort {ms : List (PyStr × Json)} {cost : PyStr × Json → Nat} (sorted : style.sortKeys = true)
    (compact : style.compact = true) (flat : ∀ m ∈ ms, sortNames m.2 = m.2)
    (each : ∀ m ∈ ms, ∀ {e text}, dumpValue i style e m.2 = .ok text →
      (dumpString m.1).length + text.length + 2 ≤ cost m) {text : PyStr}
    (h : dumps i style (.obj ms) = .ok text) : text.length ≤ (ms.map cost).sum + 2 := by
  have own : sortMembers ms = ms := by
    have fixed : ∀ m ∈ ms, (m.1,sortNames m.2) = m := fun m here => Prod.ext rfl (flat m here)
    exact (sortMembersMap _).trans ((List.map_congr_left fixed).trans (List.map_id' _))
  have permuted := List.perm_insertionSort nameLe ms
  unfold dumps at h
  rw [if_pos sorted,sortNames,own] at h
  obtain ⟨e,inner,-,members,rfl⟩ := objectText h
  have short := membersShort compact (fun m here {_} => each m (permuted.mem_iff.mp here)) members
  rw [(permuted.map cost).sum_eq] at short
  simp only [List.cons_append,List.length_cons,List.length_append,List.length_nil]
  omega

theorem intShort {e : Nat} {n : Int} {bound : Nat} (some_ : 0 < bound) (from_ : 0 ≤ n) (under : n.natAbs < 10 ^ bound)
    {text : PyStr} (h : dumpValue i style e (.int n) = .ok text) : text.length ≤ bound := by
  rw [integerText h,signed,if_neg (not_lt.mpr from_),digitsOf,List.length_map]
  exact Nat.toDigits_length 10 n.natAbs bound some_ under

end

section
variable {ms ns : List (PyStr × Json)}

theorem memberRead (distinct : (ms.map Prod.fst).Nodup) {m : PyStr × Json} (here : m ∈ ms) :
    Json.get ms m.1 = m.2 := by
  unfold Json.get Json.get?
  induction ms with
  | nil => cases here
  | cons l ls ih =>
    rw [List.map_cons,List.nodup_cons] at distinct
    rcases List.mem_cons.mp here with rfl | later
    · simp
    · have apart : l.1 ≠ m.1 := by
        intro same
        rw [same] at distinct
        exact distinct.1 (List.mem_map_of_mem later)
      rw [List.find?_cons_of_neg (by simpa using apart)]
      exact ih distinct.2 later

theorem lookupPerm (distinct : (ms.map Prod.fst).Nodup) (permuted : ms.Perm ns) (name : PyStr) :
    Json.get ms name = Json.get ns name := by
  by_cases known : name ∈ ms.map Prod.fst
  · obtain ⟨m,here,rfl⟩ := List.mem_map.mp known
    rw [memberRead distinct here,
      memberRead ((permuted.map Prod.fst).nodup_iff.mp distinct) (permuted.mem_iff.mp here)]
  · have missing {ls : List (PyStr × Json)} (unknown : name ∉ ls.map Prod.fst) : Json.get ls name = .null := by
      have none_ : ls.find? (fun m => m.1 == name) = none :=
        List.find?_eq_none.mpr (fun m here same => unknown (List.mem_map.mpr ⟨m,here,beq_iff_eq.mp same⟩))
      simp [Json.get,Json.get?,none_]
    rw [missing known,missing (fun here => known ((permuted.map Prod.fst).mem_iff.mpr here))]

theorem lookupsPerm (distinct : (ms.map Prod.fst).Nodup) (known : (ns.map Prod.fst).Nodup)
    (names : ∀ name ∈ ms.map Prod.fst, name ∈ ns.map Prod.fst)
    (present : ∀ m ∈ ns, m.1 ∈ ms.map Prod.fst) (values : ∀ m ∈ ns, Json.get ms m.1 = m.2) : ms.Perm ns := by
  rw [List.perm_ext_iff_of_nodup distinct.of_map known.of_map]
  intro m
  constructor
  · intro here
    obtain ⟨n,listed,same⟩ := List.mem_map.mp (names m.1 (List.mem_map_of_mem here))
    have value := values n listed
    rw [same,memberRead distinct here] at value
    exact (Prod.ext same value.symm : n = m) ▸ listed
  · intro listed
    obtain ⟨n,here,same⟩ := List.mem_map.mp (present m listed)
    have value := values m listed
    rw [← same,memberRead distinct here] at value
    exact (Prod.ext same value : n = m) ▸ here

end

def Matching (pattern : PyStr → Bool) := {s : PyStr // pattern s = true}
def Within (low high : Int) := {n : Int // low ≤ n ∧ n ≤ high}

def readText (pattern : PyStr → Bool) : Json → Option (Matching pattern)
  | .str s => if matched : pattern s = true then some ⟨s,matched⟩ else none
  | _ => none

def readInteger (low high : Int) : Json → Option (Within low high)
  | .int n => if bounded : low ≤ n ∧ n ≤ high then some ⟨n,bounded⟩ else none
  | _ => none

def readBool : Json → Option Bool
  | .bool b => some b
  | _ => none

def readOptional {α : Type} (read : Json → Option α) : Json → Option (Option α)
  | .null => some none
  | j => (read j).map some

theorem textRead {pattern : PyStr → Bool} {j : Json} {s : Matching pattern} :
    readText pattern j = some s ↔ j = .str s.1 := by
  obtain ⟨s,valid⟩ := s
  cases j with
  | str t =>
    simp only [readText]
    split
    · rename_i holds
      constructor
      · exact fun h => congrArg (fun u : Matching pattern => Json.str u.1) (Option.some.inj h)
      · rintro same
        cases same
        rfl
    · rename_i fails
      constructor
      · rintro same
        cases same
      · rintro same
        cases same
        exact absurd valid fails
  | _ => simp [readText]

theorem integerRead {low high : Int} {j : Json} {n : Within low high} :
    readInteger low high j = some n ↔ j = .int n.1 := by
  obtain ⟨n,valid⟩ := n
  cases j with
  | int t =>
    simp only [readInteger]
    split
    · rename_i holds
      constructor
      · exact fun h => congrArg (fun u : Within low high => Json.int u.1) (Option.some.inj h)
      · rintro same
        cases same
        rfl
    · rename_i fails
      constructor
      · rintro same
        cases same
      · rintro same
        cases same
        exact absurd valid fails
  | _ => simp [readInteger]

theorem boolRead {j : Json} {b : Bool} : readBool j = some b ↔ j = .bool b := by
  cases j <;> simp [readBool]

theorem optionalRead {low high : Int} {j : Json} {o : Option (Within low high)} :
    readOptional (readInteger low high) j = some o ↔ j = o.elim .null (fun n => .int n.1) := by
  cases o with
  | none =>
    cases j with
    | null => simp [readOptional]
    | _ => simp [readOptional]
  | some n =>
    cases j with
    | null => simp [readOptional]
    | int m =>
      have own := @integerRead low high (.int m) n
      simpa [readOptional] using own
    | _ => simp [readOptional,readInteger]

def graphic (c : PyChar) : Bool := 0x20 ≤ c.val && c.val ≤ 0x7E && c != quote && c != backslash

inductive Small (bound : Nat) : Json → Prop where
  | null : Small bound .null
  | bool (b : Bool) : Small bound (.bool b)
  | int (n : Int) (from_ : 0 ≤ n) (under : n.natAbs < 10 ^ bound) : Small bound (.int n)
  | str (s : PyStr) (short : s.length ≤ bound) (plain : s.all graphic = true) : Small bound (.str s)

theorem graphicPlain {c : PyChar} (plain : graphic c = true) :
    0x20 ≤ c.val ∧ c.val ≤ 0x7E ∧ c ≠ quote ∧ c ≠ backslash := by
  simpa [graphic,and_assoc] using plain

theorem plainGraphic {c : PyChar} (low : 0x20 ≤ c.val) (high : c.val ≤ 0x7E) (notQuote : c.val ≠ 0x22)
    (notBackslash : c.val ≠ 0x5C) : graphic c = true := by
  have first : c ≠ quote := fun same => notQuote (congrArg Fin.val same)
  have second : c ≠ backslash := fun same => notBackslash (congrArg Fin.val same)
  simp [graphic,low,high,first,second]

theorem plainDumped {s : PyStr} (plain : s.all graphic = true) : dumpString s = quote :: s ++ [quote] := by
  have same : escape s = s := by
    unfold escape
    induction s with
    | nil => rfl
    | cons c s ih =>
      rw [List.all_cons,Bool.and_eq_true] at plain
      obtain ⟨low,-,notQuote,notBackslash⟩ := graphicPlain plain.1
      have own : escapeChar c = [c] := by
        unfold escapeChar
        rw [if_neg notQuote,if_neg notBackslash,if_neg (by omega),if_neg (by omega),if_neg (by omega),
          if_neg (by omega),if_neg (by omega),if_neg (by omega)]
      rw [List.flatMap_cons,own,ih plain.2]
      rfl
  rw [dumpString,same]

section
variable {i : Interpreter} {style : DumpStyle} {bound : Nat} {j : Json}

theorem smallSettled (small : Small bound j) : sortNames j = j := by
  cases small <;> rfl

theorem smallShort (room : 3 ≤ bound) (small : Small bound j) {e : Nat} {text : PyStr}
    (h : dumpValue i style e j = .ok text) : text.length ≤ bound + 2 := by
  cases small with
  | null =>
    cases Except.ok.inj h
    exact (by omega : 4 ≤ bound + 2)
  | bool b =>
    cases Except.ok.inj h
    cases b
    · exact (by omega : 5 ≤ bound + 2)
    · exact (by omega : 4 ≤ bound + 2)
  | int n from_ under => exact (intShort (by omega) from_ under h).trans (Nat.le_add_right _ _)
  | str s short plain =>
    cases Except.ok.inj h
    rw [plainDumped plain]
    simp only [List.cons_append,List.length_cons,List.length_append,List.length_nil]
    omega

theorem smallReadable (some_ : 0 < bound) (digits : ∀ n ≤ bound, Interpreter.allows i n = true)
    (small : Small bound j) (d : Nat) : Readable i d j := by
  cases small with
  | null => exact .null d
  | bool b => exact .bool d b
  | int n from_ under =>
    refine .int d n (digits _ ?_)
    rw [digitsOf,List.length_map]
    exact Nat.toDigits_length 10 n.natAbs bound some_ under
  | str s short plain => exact .str d s

theorem smallSpelled (small : Small bound j) : Spelled (fun c => c.val ≤ 0x7E) j := by
  cases small with
  | null => exact .null
  | bool b => exact .bool b
  | int n from_ under => exact .int n
  | str s short plain => exact .str s (fun c here _ => (graphicPlain (List.all_eq_true.mp plain c here)).2.1)

end

theorem recordWritten {i : Interpreter} {style : DumpStyle} {ms : List (PyStr × Json)} {width bound : Nat} (room : 3 ≤ bound)
    (digits : ∀ n ≤ bound, Interpreter.allows i n = true) (sorted : style.sortKeys = true)
    (compact : style.compact = true) (distinct : (ms.map Prod.fst).Nodup)
    (names : ∀ m ∈ ms, m.1.length ≤ width ∧ m.1.all graphic = true) (values : ∀ m ∈ ms, Small bound m.2) :
    ∃ text ns, dumps i style (.obj ms) = .ok text ∧ ns.Perm ms ∧
      loads i rawHooks text = .ok (.obj ns) ∧ (∀ c ∈ text, c.val ≤ 0x7E) ∧
      0 < text.length ∧ text.length ≤ ms.length * (width + bound + 6) + 2 := by
  have own : sortMembers ms = ms := by
    have fixed : ∀ m ∈ ms, (m.1,sortNames m.2) = m := fun m here => Prod.ext rfl (smallSettled (values m here))
    exact (sortMembersMap _).trans ((List.map_congr_left fixed).trans (List.map_id' _))
  have permuted := List.perm_insertionSort nameLe ms
  have depth : i.depth = (i.depth - 1) + 1 := by
    have := i.roomy
    omega
  have readable : Readable i i.depth (.obj (ms.insertionSort nameLe)) := by
    rw [depth]
    exact .obj ((permuted.map Prod.fst).nodup_iff.mpr distinct)
      (fun m here => smallReadable (by omega) digits (values m (permuted.mem_iff.mp here)) _)
  obtain ⟨text,written⟩ := @valueWritten i style _ _ readable
  have dumped : dumps i style (.obj ms) = .ok text := by
    rw [dumps,if_pos sorted,sortNames,own]
    exact written
  have spelled : Spelled (fun c => c.val ≤ 0x7E) (.obj (ms.insertionSort nameLe)) := by
    refine .obj _ (fun m here c member _ => ?_) (fun m here => smallSpelled (values m (permuted.mem_iff.mp here)))
    exact (graphicPlain (List.all_eq_true.mp (names m (permuted.mem_iff.mp here)).2 c member)).2.1
  have ascii := valueSpelled (fun c _ high => Nat.le_of_lt_succ high) spelled written
  have each : ∀ m ∈ ms, ∀ {e text}, dumpValue i style e m.2 = .ok text →
      (dumpString m.1).length + text.length + 2 ≤ width + bound + 6 := by
    intro m here e text value
    obtain ⟨length,plain⟩ := names m here
    have own := smallShort room (values m here) value
    rw [plainDumped plain]
    simp only [List.cons_append,List.length_cons,List.length_append,List.length_nil]
    omega
  have short := @objectShort i style ms (fun _ => width + bound + 6) sorted compact
    (fun m here => smallSettled (values m here)) each text dumped
  rw [List.map_const',List.sum_replicate_nat] at short
  have starts : 0 < text.length := by
    obtain ⟨e,inner,-,-,rfl⟩ := objectText written
    exact Nat.succ_pos _
  exact ⟨text,_,dumped,permuted,loadsDumped rawFaithful readable written,ascii,starts,short⟩

end PgLlmBatch.Base.JsonText
