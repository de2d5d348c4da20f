import PgLlmBatch.Base.NumberText

/-! Reading back what `dumps` wrote: every string, whatever it contains, every integer within
the digit limit, every finite float, and arrays and objects of such within the nesting limit. -/
namespace PgLlmBatch.Base.JsonText

theorem hexDigitValue : ∀ n < 16, hexValue (hexDigit n) = some n := by decide

theorem controlHex {n : Nat} (control : n < 0x20) (t : PyStr) :
    scanHex (zero::zero::hexDigit (n / 16)::hexDigit (n % 16)::t) = some (n,t) := by
  have first := hexDigitValue (n / 16) (by omega)
  have second := hexDigitValue (n % 16) (by omega)
  have nothing : hexValue zero = some 0 := rfl
  simp only [scanHex,first,second,nothing,Option.bind_eq_bind,Option.bind_some,Option.some.injEq,
    Prod.mk.injEq,and_true]
  omega

theorem controlScanned {c : PyChar} (control : c.val < 0x20) (t : PyStr) :
    scanEscape (letterU::zero::zero::hexDigit (c.val / 16)::hexDigit (c.val % 16)::t) = some (c,t) := by
  have same : (Fin.ofNat 0x110000 c.val : PyChar) = c := Fin.ofNat_val_eq_self c
  have low : highSurrogate c.val = false := by
    have below : ¬0xD800 ≤ c.val := by omega
    simp [highSurrogate,below]
  match t with
  | [] | [_] => simp only [scanEscape,if_true,controlHex control,Option.bind_eq_bind,Option.bind_some,same]
  | _::_::_ =>
    simp only [scanEscape,if_true,controlHex control,Option.bind_eq_bind,Option.bind_some,low,
      Bool.false_eq_true,false_and,if_false,same]

theorem escapedStep {e c : PyChar} {s t : PyStr} (h : scanEscape (e::s) = some (c,t)) (n : Nat) :
    scanString (n+1) (backslash::e::s) = (scanString n t).map (fun r => (c::r.1,r.2)) := by
  have other : backslash ≠ quote := by decide
  simp only [scanString,other,if_false,if_true,h,Option.bind_eq_bind,Option.bind_some]
  cases scanString n t <;> rfl

theorem escapeCharScanned (c : PyChar) (n : Nat) (t : PyStr) :
    scanString (n+1) (escapeChar c ++ t) = (scanString n t).map (fun r => (c::r.1,r.2)) := by
  unfold escapeChar
  split
  · rename_i h; subst h; exact escapedStep rfl n
  split
  · rename_i h; subst h; exact escapedStep rfl n
  split
  · rename_i h; cases Fin.ext (b := 0x08) h; exact escapedStep rfl n
  split
  · rename_i h; cases Fin.ext (b := 0x0C) h; exact escapedStep rfl n
  split
  · rename_i h; cases Fin.ext (b := 0x0A) h; exact escapedStep rfl n
  split
  · rename_i h; cases Fin.ext (b := 0x0D) h; exact escapedStep rfl n
  split
  · rename_i h; cases Fin.ext (b := 0x09) h; exact escapedStep rfl n
  split
  · rename_i control; exact escapedStep (controlScanned control t) n
  · rename_i notQuote notBackslash _ _ _ _ _ printable
    simp only [List.singleton_append,scanString,notQuote,notBackslash,printable,if_false]
    cases scanString n t <;> rfl

theorem escapeScanned (s rest : PyStr) (n : Nat) (enough : (escape s).length < n) :
    scanString n (escape s ++ quote::rest) = some (s,rest) := by
  induction s generalizing n with
  | nil =>
    obtain ⟨m,rfl⟩ := Nat.exists_eq_add_of_lt enough
    simp [escape,scanString]
  | cons c s ih =>
    have split_ : escape (c::s) = escapeChar c ++ escape s := rfl
    have some_ : 0 < (escapeChar c).length := by
      unfold escapeChar
      repeat' split
      all_goals exact Nat.succ_pos _
    rw [split_,List.length_append] at enough
    obtain ⟨m,rfl⟩ : ∃ m, n = m + 1 := ⟨n - 1,by omega⟩
    rw [split_,List.append_assoc,escapeCharScanned,ih m (by omega)]
    rfl

theorem textScanned (s rest : PyStr) (n : Nat) (enough : (dumpString s).length ≤ n) :
    scanText n (dumpString s ++ rest) = .ok (s,rest) := by
  have scanned := escapeScanned s rest n (by simp [dumpString] at enough; omega)
  simp only [dumpString,List.cons_append,List.append_assoc,List.nil_append,scanText,if_true,scanned]

inductive Readable (i : Interpreter) : Nat → Json → Prop where
  | null (d : Nat) : Readable i d .null
  | bool (d : Nat) (b : Bool) : Readable i d (.bool b)
  | int (d : Nat) (n : Int) (fits : Interpreter.allows i (digitsOf n.natAbs).length = true) :
      Readable i d (.int n)
  | float (d : Nat) (f : PyFloat) (zero : f.ZeroNormal) (printed : f.shortest ≠ none) : Readable i d (.float f)
  | str (d : Nat) (s : PyStr) : Readable i d (.str s)
  | arr {d : Nat} {xs : List Json} (each : ∀ x ∈ xs, Readable i d x) : Readable i (d+1) (.arr xs)
  | obj {d : Nat} {ms : List (PyStr × Json)} (distinct : (ms.map Prod.fst).Nodup)
      (each : ∀ m ∈ ms, Readable i d m.2) : Readable i (d+1) (.obj ms)

theorem readableMore {i : Interpreter} {d e : Nat} {j : Json} (h : Readable i d j) (more : d ≤ e) : Readable i e j := by
  induction h generalizing e with
  | null d => exact .null e
  | bool d b => exact .bool e b
  | int d n fits => exact .int e n fits
  | float d f zero printed => exact .float e f zero printed
  | str d s => exact .str e s
  | arr each ih =>
    obtain ⟨f,rfl⟩ : ∃ f, e = f + 1 := ⟨e - 1,by omega⟩
    exact .arr (fun x here => ih x here (by omega))
  | obj distinct each ih =>
    obtain ⟨f,rfl⟩ : ∃ f, e = f + 1 := ⟨e - 1,by omega⟩
    exact .obj distinct (fun m here => ih m here (by omega))

theorem delimiterEnds {c : PyChar} (plain : PyChar.digit c = false) (notPoint : c ≠ point)
    (lower : c ≠ chr 'e') (upper : c ≠ chr 'E') (s : PyStr) : NumberEnds (c::s) := by
  intro d here
  cases here
  exact ⟨plain,notPoint,lower,upper⟩

theorem commaEnds (s : PyStr) : NumberEnds (comma::s) :=
  delimiterEnds (by decide) (by decide) (by decide) (by decide) s
theorem bracketEnds (s : PyStr) : NumberEnds (closeBracket::s) :=
  delimiterEnds (by decide) (by decide) (by decide) (by decide) s
theorem braceEnds (s : PyStr) : NumberEnds (closeBrace::s) :=
  delimiterEnds (by decide) (by decide) (by decide) (by decide) s

def ValueStarts (s : PyStr) : Prop :=
  ∃ c t, s = c::t ∧ jsonSpace c = false ∧ c ≠ byteOrderMark ∧ c ≠ closeBracket ∧ c ≠ closeBrace

theorem arrayText {i : Interpreter} {style : DumpStyle} {d : Nat} {xs : List Json} {text : PyStr}
    (h : dumpValue i style d (.arr xs) = .ok text) :
    ∃ e inner, d = e + 1 ∧ dumpItems i style e xs = .ok inner ∧ text = openBracket::inner ++ [closeBracket] := by
  cases d with
  | zero => contradiction
  | succ e =>
    simp only [dumpValue,bind,Except.bind] at h
    split at h <;> cases h
    exact ⟨e,_,rfl,by assumption,rfl⟩

theorem objectText {i : Interpreter} {style : DumpStyle} {d : Nat} {ms : List (PyStr × Json)} {text : PyStr}
    (h : dumpValue i style d (.obj ms) = .ok text) :
    ∃ e inner, d = e + 1 ∧ dumpMembers i style e ms = .ok inner ∧ text = openBrace::inner ++ [closeBrace] := by
  cases d with
  | zero => contradiction
  | succ e =>
    simp only [dumpValue,bind,Except.bind] at h
    split at h <;> cases h
    exact ⟨e,_,rfl,by assumption,rfl⟩

theorem integerText {i : Interpreter} {n : Int} {text : PyStr} (h : dumpInt i n = .ok text) :
    text = signed n := by
  by_cases fits : Interpreter.allows i (digitsOf n.natAbs).length = true
  · simp only [dumpInt,fits,if_true] at h
    exact (Except.ok.inj h).symm
  · simp [dumpInt,fits] at h

theorem numberValue {s : PyStr} (h : NumberStarts s) : ValueStarts s := by
  obtain ⟨c,t,rfl,digit | ⟨rfl,-⟩⟩ := h
  · have apart : ∀ w : PyChar, PyChar.digit w = false → c ≠ w := fun w plain => (notDigit digit plain).symm
    have bounds : 0x30 ≤ c.val ∧ c.val ≤ 0x39 := by simpa [PyChar.digit] using digit
    refine ⟨c,t,rfl,?_,apart _ rfl,apart _ rfl,apart _ rfl⟩
    simp only [jsonSpace,Bool.or_eq_false_iff,beq_eq_false_iff_ne]
    omega
  · exact ⟨minus,t,rfl,by decide,by decide,by decide,by decide⟩

theorem valueStarts {i : Interpreter} {style : DumpStyle} {d : Nat} {j : Json} {text : PyStr}
    (h : dumpValue i style d j = .ok text) : ValueStarts text := by
  cases j with
  | null => cases Except.ok.inj h; exact ⟨chr 'n',_,rfl,by decide,by decide,by decide,by decide⟩
  | bool b =>
    cases Except.ok.inj h
    cases b
    · exact ⟨chr 'f',_,rfl,by decide,by decide,by decide,by decide⟩
    · exact ⟨chr 't',_,rfl,by decide,by decide,by decide,by decide⟩
  | int n =>
    rw [integerText h]
    exact numberValue (integerStart n)
  | float f =>
    rcases floatStarts h with starts | rfl | rfl | rfl
    · exact numberValue starts
    · exact ⟨minus,_,rfl,by decide,by decide,by decide,by decide⟩
    · exact ⟨chr 'I',_,rfl,by decide,by decide,by decide,by decide⟩
    · exact ⟨chr 'N',_,rfl,by decide,by decide,by decide,by decide⟩
  | str s => cases Except.ok.inj h; exact ⟨quote,_,rfl,by decide,by decide,by decide,by decide⟩
  | arr xs =>
    obtain ⟨e,inner,-,-,rfl⟩ := arrayText h
    exact ⟨openBracket,_,rfl,by decide,by decide,by decide,by decide⟩
  | obj ms =>
    obtain ⟨e,inner,-,-,rfl⟩ := objectText h
    exact ⟨openBrace,_,rfl,by decide,by decide,by decide,by decide⟩

theorem skipNothing {s : PyStr} (starts : ValueStarts s) (rest : PyStr) :
    skipSpace (s ++ rest) = s ++ rest := by
  obtain ⟨c,t,rfl,ink,-⟩ := starts
  simp [skipSpace,ink]

theorem skipGap (style : DumpStyle) {s : PyStr} (starts : ValueStarts s) (rest : PyStr) :
    skipSpace (style.gap ++ (s ++ rest)) = s ++ rest := by
  have blank : jsonSpace 0x20 = true := by decide
  unfold DumpStyle.gap
  split
  · exact skipNothing starts rest
  · have step : skipSpace (py " " ++ (s ++ rest)) = skipSpace (s ++ rest) := by
      simp only [skipSpace,show py " " = [0x20] from rfl,List.singleton_append,List.dropWhile_cons,blank,
        if_true]
    rw [step,skipNothing starts rest]

section
variable {writer reader : Interpreter} {style : DumpStyle} {hooks : Hooks}

theorem itemsText {d : Nat} {x y : Json} {ys : List Json} {text : PyStr}
    (h : dumpItems writer style d (x::y::ys) = .ok text) :
    ∃ head tail, dumpValue writer style d x = .ok head ∧ dumpItems writer style d (y::ys) = .ok tail ∧
      text = head ++ comma :: style.gap ++ tail := by
  simp only [dumpItems,bind,Except.bind] at h
  split at h <;> try contradiction
  split at h <;> cases h
  exact ⟨_,_,by assumption,by assumption,rfl⟩

theorem memberText {d : Nat} {k : PyStr} {x : Json} {text : PyStr}
    (h : dumpMembers writer style d [(k,x)] = .ok text) :
    ∃ value, dumpValue writer style d x = .ok value ∧
      text = dumpString k ++ colon :: style.gap ++ value := by
  simp only [dumpMembers,bind,Except.bind] at h
  split at h <;> cases h
  exact ⟨_,by assumption,rfl⟩

theorem membersText {d : Nat} {k : PyStr} {x : Json} {m : PyStr × Json} {ms : List (PyStr × Json)}
    {text : PyStr} (h : dumpMembers writer style d ((k,x)::m::ms) = .ok text) :
    ∃ value tail, dumpValue writer style d x = .ok value ∧ dumpMembers writer style d (m::ms) = .ok tail ∧
      text = dumpString k ++ colon :: style.gap ++ value ++ comma :: style.gap ++ tail := by
  simp only [dumpMembers,bind,Except.bind] at h
  split at h <;> try contradiction
  split at h <;> cases h
  exact ⟨_,_,by assumption,by assumption,rfl⟩

theorem itemsStart {d : Nat} {x : Json} {xs : List Json} {text : PyStr}
    (h : dumpItems writer style d (x::xs) = .ok text) : ValueStarts text := by
  cases xs with
  | nil => exact valueStarts h
  | cons y ys =>
    obtain ⟨head,tail,first,-,rfl⟩ := itemsText h
    obtain ⟨c,t,rfl,starts⟩ := valueStarts first
    exact ⟨c,_,rfl,starts⟩

theorem membersStart {d : Nat} {m : PyStr × Json} {ms : List (PyStr × Json)} {text : PyStr}
    (h : dumpMembers writer style d (m::ms) = .ok text) : ValueStarts text := by
  cases ms with
  | nil =>
    obtain ⟨value,-,rfl⟩ := memberText h
    exact ⟨quote,_,rfl,by decide,by decide,by decide,by decide⟩
  | cons l ms =>
    obtain ⟨value,tail,-,-,rfl⟩ := membersText h
    exact ⟨quote,_,rfl,by decide,by decide,by decide,by decide⟩

theorem arrayScan {m d : Nat} {inner : PyStr} (starts : ValueStarts inner) (s : PyStr) :
    scanValue reader hooks (m+1) (d+1) (openBracket::(inner ++ s)) =
      (scanItems reader hooks m d (inner ++ s)).map (fun r => (.arr r.1,r.2)) := by
  have skipped := skipNothing starts s
  obtain ⟨b,t,rfl,-,-,notBracket,-⟩ := starts
  have notQuote : openBracket ≠ quote := by decide
  simp only [scanValue,notQuote,if_false,if_true,skipped]
  simp only [List.cons_append,notBracket,if_false]

theorem objectScan {m d : Nat} {inner : PyStr} (starts : ValueStarts inner) (s : PyStr)
    {ms : List (PyStr × Json)} {t : PyStr} {value : Json} (members : scanMembers reader hooks m d (inner ++ s) = .ok (ms,t))
    (built : hooks.pairs ms = .ok value) :
    scanValue reader hooks (m+1) (d+1) (openBrace::(inner ++ s)) = .ok (value,t) := by
  have skipped := skipNothing starts s
  obtain ⟨b,u,rfl,-,-,-,notBrace⟩ := starts
  have notQuote : openBrace ≠ quote := by decide
  have notBracket : openBrace ≠ openBracket := by decide
  simp only [scanValue,notQuote,notBracket,if_false,if_true,skipped]
  simp only [List.cons_append] at members ⊢
  simp only [notBrace,if_false,members,bind,Except.bind,built]
  rfl

theorem lastItem {m d : Nat} {s rest : PyStr} {x : Json}
    (scanned : scanValue reader hooks m d s = .ok (x,closeBracket::rest)) :
    scanItems reader hooks (m+1) d s = .ok ([x],rest) := by
  have plain : jsonSpace closeBracket = false := by decide
  simp only [scanItems,scanned,bind,Except.bind,skipSpace,List.dropWhile_cons,plain,Bool.false_eq_true,
    if_false,if_true]
  rfl

theorem nextItem {m d : Nat} {s t rest : PyStr} {x : Json} {xs : List Json}
    (scanned : scanValue reader hooks m d s = .ok (x,comma::t))
    (others : scanItems reader hooks m d (skipSpace t) = .ok (xs,rest)) :
    scanItems reader hooks (m+1) d s = .ok (x::xs,rest) := by
  have plain : jsonSpace comma = false := by decide
  have other : comma ≠ closeBracket := by decide
  have skipped : skipSpace (comma::t) = comma::t := by simp [skipSpace,plain]
  simp only [scanItems,scanned,bind,Except.bind,skipped,other,if_false,if_true,others]
  rfl

theorem lastMember {m d : Nat} {s t rest k : PyStr} {x : Json} (name : scanText m s = .ok (k,colon::t))
    (scanned : scanValue reader hooks m d (skipSpace t) = .ok (x,closeBrace::rest)) :
    scanMembers reader hooks (m+1) d s = .ok ([(k,x)],rest) := by
  have plain : jsonSpace closeBrace = false := by decide
  have skipped : skipSpace (closeBrace::rest) = closeBrace::rest := by simp [skipSpace,plain]
  have plain' : jsonSpace colon = false := by decide
  have skipped' : skipSpace (colon::t) = colon::t := by simp [skipSpace,plain']
  simp only [scanMembers,name,bind,Except.bind,skipped',if_true,scanned,skipped]
  rfl

theorem nextMember {m d : Nat} {s t u rest k : PyStr} {x : Json} {ms : List (PyStr × Json)}
    (name : scanText m s = .ok (k,colon::t))
    (scanned : scanValue reader hooks m d (skipSpace t) = .ok (x,comma::u))
    (others : scanMembers reader hooks m d (skipSpace u) = .ok (ms,rest)) :
    scanMembers reader hooks (m+1) d s = .ok ((k,x)::ms,rest) := by
  have plain : jsonSpace comma = false := by decide
  have skipped : skipSpace (comma::u) = comma::u := by simp [skipSpace,plain]
  have plain' : jsonSpace colon = false := by decide
  have skipped' : skipSpace (colon::t) = colon::t := by simp [skipSpace,plain']
  have other : comma ≠ closeBrace := by decide
  simp only [scanMembers,name,bind,Except.bind,skipped',if_true,scanned,skipped,other,if_false,others]
  rfl

def Scans (writer reader : Interpreter) (style : DumpStyle) (hooks : Hooks) (d : Nat) (j : Json) : Prop :=
  ∀ {e n : Nat} {text rest : PyStr}, dumpValue writer style e j = .ok text → 2 * text.length + 1 ≤ n →
    NumberEnds rest → scanValue reader hooks n d (text ++ rest) = .ok (j,rest)

theorem scalarScans {d n : Nat} {s : PyStr} (starts : NumberStarts s) :
    scanValue reader hooks (n+1) d s = scanScalar reader hooks s := by
  obtain ⟨c,t,rfl,start⟩ := starts
  have apart : ∀ w : PyChar, PyChar.digit w = false → w ≠ minus → c ≠ w :=
    fun w plain notMinus => (startApart start plain notMinus).symm
  simp only [scanValue,apart quote rfl (by decide),apart openBracket rfl (by decide),
    apart openBrace rfl (by decide),if_false]

theorem integerScans {d : Nat} {k : Int} (fits : Interpreter.allows reader (digitsOf k.natAbs).length = true) :
    Scans writer reader style hooks d (.int k) := by
  intro e n text rest h enough ends
  rw [integerText h]
  obtain ⟨m,rfl⟩ : ∃ m, n = m + 1 := ⟨n - 1,by omega⟩
  rw [scalarScans (startsMore (integerStart k) rest)]
  exact integerScanned reader hooks k fits ends

theorem floatScans {d : Nat} {f : PyFloat} (zero : f.ZeroNormal) (printed : f.shortest ≠ none)
    (kept : hooks.float f = .ok (.float f)) : Scans writer reader style hooks d (.float f) := by
  intro e n text rest h enough ends
  obtain ⟨m,rfl⟩ : ∃ m, n = m + 1 := ⟨n - 1,by omega⟩
  obtain ⟨⟨negative,digits,power⟩,shortest⟩ := Option.ne_none_iff_exists'.mp printed
  obtain ⟨starts,scanned⟩ := floatReads shortest h
  obtain ⟨numeral,number,float⟩ := scanned rest ends
  have same := (f.shortestReads shortest).2 zero
  rw [scalarScans (startsMore starts rest),scalarNumber reader hooks (startsMore starts rest) number,
    floatRead reader hooks float,same,kept]
  rfl

theorem stringScans {d : Nat} (s : PyStr) : Scans writer reader style hooks d (.str s) := by
  intro e n text rest h enough _
  cases Except.ok.inj h
  obtain ⟨m,rfl⟩ : ∃ m, n = m + 1 := ⟨n - 1,by omega⟩
  have scanned := textScanned s rest m (by omega)
  have start : dumpString s ++ rest = quote::(escape s ++ quote::rest) := by simp [dumpString]
  rw [start] at scanned ⊢
  simp only [scanValue,if_true,scanned,Except.map]

theorem itemsScan {d : Nat} (x : Json) (xs : List Json)
    (each : ∀ y ∈ x::xs, Scans writer reader style hooks d y)
    {e n : Nat} {text rest : PyStr} (h : dumpItems writer style e (x::xs) = .ok text)
    (enough : 2 * text.length + 2 ≤ n) :
    scanItems reader hooks n d (text ++ closeBracket::rest) = .ok (x::xs,rest) := by
  induction xs generalizing x n text with
  | nil =>
    obtain ⟨m,rfl⟩ : ∃ m, n = m + 1 := ⟨n - 1,by omega⟩
    have scanned := each x (by simp) h (n := m) (by omega) (bracketEnds rest)
    exact lastItem scanned
  | cons y ys ih =>
    obtain ⟨m,rfl⟩ : ∃ m, n = m + 1 := ⟨n - 1,by omega⟩
    obtain ⟨head,tail,value,items,rfl⟩ := itemsText h
    simp only [List.length_append,List.length_cons] at enough
    have scanned := each x (by simp) value (n := m) (by omega)
      (commaEnds (style.gap ++ (tail ++ closeBracket::rest)))
    have others := ih y (fun z here => each z (by simp [here]))
      (n := m) items (by omega)
    have starts := itemsStart items
    have step := nextItem scanned (by rw [skipGap style starts]; exact others)
    simpa using step

theorem membersScan {d : Nat} (m : PyStr × Json) (ms : List (PyStr × Json))
    (each : ∀ l ∈ m::ms, Scans writer reader style hooks d l.2)
    {e n : Nat} {text rest : PyStr}
    (h : dumpMembers writer style e (m::ms) = .ok text) (enough : 2 * text.length + 2 ≤ n) :
    scanMembers reader hooks n d (text ++ closeBrace::rest) = .ok (m::ms,rest) := by
  induction ms generalizing m n text with
  | nil =>
    obtain ⟨b,rfl⟩ : ∃ b, n = b + 1 := ⟨n - 1,by omega⟩
    obtain ⟨k,x⟩ := m
    obtain ⟨value,written,rfl⟩ := memberText h
    simp only [List.length_append,List.length_cons] at enough
    have name := textScanned k (colon::(style.gap ++ (value ++ closeBrace::rest))) b (by omega)
    have scanned := each (k,x) (by simp) written (n := b) (by omega) (braceEnds rest)
    have starts := valueStarts written
    have step := lastMember name (by rw [skipGap style starts]; exact scanned)
    simpa using step
  | cons l ls ih =>
    obtain ⟨b,rfl⟩ : ∃ b, n = b + 1 := ⟨n - 1,by omega⟩
    obtain ⟨k,x⟩ := m
    obtain ⟨value,tail,written,members,rfl⟩ := membersText h
    simp only [List.length_append,List.length_cons] at enough
    let after := comma::(style.gap ++ (tail ++ closeBrace::rest))
    have name := textScanned k (colon::(style.gap ++ (value ++ after))) b (by omega)
    have scanned := each (k,x) (by simp) written (n := b) (by omega)
      (commaEnds (style.gap ++ (tail ++ closeBrace::rest)))
    have others := ih l (fun z here => each z (by simp [here]))
      (n := b) members (by omega)
    have starts := valueStarts written
    have step := nextMember name (by rw [skipGap style starts]; exact scanned)
      (by rw [skipGap style (membersStart members)]; exact others)
    simpa [after] using step

theorem arrayScans {d : Nat} {xs : List Json} (each : ∀ y ∈ xs, Scans writer reader style hooks d y): Scans writer reader style hooks (d+1) (.arr xs) := by
  intro e n text rest h enough _
  obtain ⟨m,rfl⟩ : ∃ m, n = m + 1 := ⟨n - 1,by omega⟩
  obtain ⟨e,inner,rfl,items,rfl⟩ := arrayText h
  cases xs with
  | nil =>
    cases Except.ok.inj items
    rfl
  | cons x xs =>
    simp only [List.length_append,List.length_cons] at enough
    have scanned : scanItems reader hooks m d (inner ++ closeBracket::rest) = .ok (x::xs,rest) :=
      itemsScan x xs each items (by simp at enough; omega)
    have starts := itemsStart items
    have step := @arrayScan reader hooks m d inner starts (closeBracket::rest)
    rw [scanned] at step
    simpa [Except.map] using step

theorem objectScans {d : Nat} {ms : List (PyStr × Json)}
    (each : ∀ m ∈ ms, Scans writer reader style hooks d m.2)
    (built : hooks.pairs ms = .ok (.obj ms)) : Scans writer reader style hooks (d+1) (.obj ms) := by
  intro e n text rest h enough _
  obtain ⟨b,rfl⟩ : ∃ b, n = b + 1 := ⟨n - 1,by omega⟩
  obtain ⟨e,inner,rfl,members,rfl⟩ := objectText h
  cases ms with
  | nil =>
    cases Except.ok.inj members
    have scan : scanValue reader hooks (b+1) (d+1) ([openBrace,closeBrace] ++ rest) =
        (hooks.pairs []).map (·,rest) := rfl
    rw [built] at scan
    exact scan
  | cons m ms =>
    have scanned : scanMembers reader hooks b d (inner ++ closeBrace::rest) = .ok (m::ms,rest) :=
      membersScan m ms each members (by simp at enough; omega)
    have step := objectScan (membersStart members) (closeBrace::rest) scanned built
    simpa using step

structure Faithful (hooks : Hooks) : Prop where
  pairs : ∀ ms : List (PyStr × Json), (ms.map Prod.fst).Nodup → hooks.pairs ms = .ok (.obj ms)
  float : ∀ f : PyFloat, f.isFinite = true → hooks.float f = .ok (.float f)

variable (faithful : Faithful hooks)
include faithful

theorem valueScans {d : Nat} {j : Json} (readable : Readable reader d j) :
    Scans writer reader style hooks d j := by
  induction readable with
  | null d =>
    intro e n text rest h enough _
    cases Except.ok.inj h
    obtain ⟨m,rfl⟩ : ∃ m, n = m + 1 := ⟨n - 1,by omega⟩
    rfl
  | bool d b =>
    intro e n text rest h enough _
    cases Except.ok.inj h
    obtain ⟨m,rfl⟩ : ∃ m, n = m + 1 := ⟨n - 1,by omega⟩
    cases b <;> rfl
  | int d n fits => exact integerScans fits
  | float d f zero printed => exact floatScans zero printed (faithful.float f (f.shortestFinite printed))
  | str d s => exact stringScans s
  | arr each ih => exact arrayScans ih
  | obj distinct each ih => exact objectScans ih (faithful.pairs _ distinct)

theorem loadsDumped {e : Nat} {j : Json} {text : PyStr} (readable : Readable reader reader.depth j)
    (h : dumpValue writer style e j = .ok text) : loads reader hooks text = .ok j := by
  have starts := valueStarts h
  have ends : NumberEnds [] := by simp [NumberEnds]
  have scanned := valueScans faithful readable h (n := fuelFor text) (by unfold fuelFor; omega) ends
  have skipped := skipNothing starts []
  obtain ⟨c,t,rfl,-,notMark,-⟩ := starts
  rw [List.append_nil] at scanned skipped
  have notFirst : (c::t).head? ≠ some byteOrderMark := by simpa using notMark
  simp only [loads,notFirst,if_false,skipped,scanned,bind,Except.bind]
  rfl

omit faithful in
theorem strictFaithful : Faithful strictHooks where
  pairs ms distinct := by simp [strictHooks,hasDuplicateNames,distinct]
  float f finite_ := by simp [strictHooks,finite_]

omit faithful in
theorem dictFold (ms members : List (PyStr × Json)) (distinct : ((members ++ ms).map Prod.fst).Nodup) :
    ms.foldl (fun members m =>
      if members.any (fun old => old.1 == m.1) then members.map (fun old => if old.1 = m.1 then m else old)
      else members ++ [m]) members = members ++ ms := by
  induction ms generalizing members with
  | nil => simp
  | cons m ms ih =>
    have fresh : members.any (fun old => old.1 == m.1) = false := by
      rw [List.any_eq_false]
      intro old here same
      rw [List.map_append,List.nodup_append] at distinct
      exact distinct.2.2 old.1 (List.mem_map.mpr ⟨old,here,rfl⟩) m.1 (by simp) (beq_iff_eq.mp same)
    rw [List.foldl_cons,fresh,if_neg Bool.false_ne_true,ih (members ++ [m]) (by simpa using distinct)]
    simp

omit faithful in
theorem dictDistinct {ms : List (PyStr × Json)} (distinct : (ms.map Prod.fst).Nodup) : dictOf ms = ms :=
  dictFold ms [] distinct

omit faithful in
theorem defaultFaithful : Faithful defaultHooks where
  pairs ms distinct := by simp [defaultHooks,dictDistinct distinct]
  float _ _ := rfl

end

section
variable {i : Interpreter} {style : DumpStyle}

theorem itemsWritten {e : Nat} (xs : List Json) (each : ∀ x ∈ xs, ∃ text, dumpValue i style e x = .ok text) :
    ∃ text, dumpItems i style e xs = .ok text := by
  induction xs with
  | nil => exact ⟨[],rfl⟩
  | cons x xs ih =>
    obtain ⟨head,first⟩ := each x (by simp)
    obtain ⟨tail,rest⟩ := ih (fun y here => each y (by simp [here]))
    cases xs with
    | nil => exact ⟨head,first⟩
    | cons y ys => exact ⟨_,by simp only [dumpItems,first,rest,bind,Except.bind]; rfl⟩

theorem membersWritten {e : Nat} (ms : List (PyStr × Json))
    (each : ∀ m ∈ ms, ∃ text, dumpValue i style e m.2 = .ok text) :
    ∃ text, dumpMembers i style e ms = .ok text := by
  induction ms with
  | nil => exact ⟨[],rfl⟩
  | cons m ms ih =>
    obtain ⟨value,first⟩ := each m (by simp)
    obtain ⟨tail,rest⟩ := ih (fun l here => each l (by simp [here]))
    cases ms with
    | nil => exact ⟨_,by simp only [dumpMembers,first,bind,Except.bind]; rfl⟩
    | cons l ls => exact ⟨_,by simp only [dumpMembers,first,rest,bind,Except.bind]; rfl⟩

theorem floatWritten {f : PyFloat} (printed : f.shortest ≠ none) : ∃ text, dumpFloat style f = .ok text := by
  obtain ⟨made,shortest⟩ := Option.ne_none_iff_exists'.mp printed
  unfold dumpFloat
  rw [shortest]
  simp only []
  split
  · split
    · exact ⟨_,rfl⟩
    split
    · exact ⟨_,rfl⟩
    · exact ⟨_,rfl⟩
  · exact ⟨_,rfl⟩

theorem valueWritten {e : Nat} {j : Json} (readable : Readable i e j) : ∃ text, dumpValue i style e j = .ok text := by
  induction readable with
  | null d => exact ⟨_,rfl⟩
  | bool d b => exact ⟨_,rfl⟩
  | int d n fits => exact ⟨_,by simp only [dumpValue,dumpInt,fits,if_true]; rfl⟩
  | float d f zero printed => exact floatWritten printed
  | str d s => exact ⟨_,rfl⟩
  | arr each ih =>
    obtain ⟨text,items⟩ := itemsWritten _ ih
    exact ⟨_,by simp only [dumpValue,items,bind,Except.bind]; rfl⟩
  | obj distinct each ih =>
    obtain ⟨text,members⟩ := membersWritten _ ih
    exact ⟨_,by simp only [dumpValue,members,bind,Except.bind]; rfl⟩

inductive Spelled (P : PyChar → Prop) : Json → Prop where
  | null : Spelled P .null
  | bool (b : Bool) : Spelled P (.bool b)
  | int (n : Int) : Spelled P (.int n)
  | float (f : PyFloat) : Spelled P (.float f)
  | str (s : PyStr) (h : ∀ c ∈ s, 0x20 ≤ c.val → P c) : Spelled P (.str s)
  | arr (xs : List Json) (each : ∀ x ∈ xs, Spelled P x) : Spelled P (.arr xs)
  | obj (ms : List (PyStr × Json)) (names : ∀ m ∈ ms, ∀ c ∈ m.1, 0x20 ≤ c.val → P c)
      (each : ∀ m ∈ ms, Spelled P m.2) : Spelled P (.obj ms)

theorem appendSpelled {P : PyChar → Prop} {s t : PyStr} (first : ∀ d ∈ s, P d) (second : ∀ d ∈ t, P d) : ∀ d ∈ s ++ t, P d := by
  intro d here
  exact (List.mem_append.mp here).elim (first d) (second d)

variable {P : PyChar → Prop} (plain : ∀ c : PyChar, 0x20 ≤ c.val → c.val < 0x7F → P c)
include plain

theorem asciiPlain {s : PyStr} (h : s.all (fun c => 0x20 ≤ c.val && c.val < 0x7F) = true) : ∀ c ∈ s, P c := by
  intro c here
  have ascii := List.all_eq_true.mp h c here
  simp only [Bool.and_eq_true,decide_eq_true_eq] at ascii
  exact plain c ascii.1 ascii.2

theorem escapeSpelled {c : PyChar} (h : 0x20 ≤ c.val → P c) : ∀ d ∈ escapeChar c, P d := by
  unfold escapeChar
  split
  · exact asciiPlain plain (by decide)
  split
  · exact asciiPlain plain (by decide)
  split
  · exact asciiPlain plain (by decide)
  split
  · exact asciiPlain plain (by decide)
  split
  · exact asciiPlain plain (by decide)
  split
  · exact asciiPlain plain (by decide)
  split
  · exact asciiPlain plain (by decide)
  split
  · rename_i control
    have digits : ∀ n < 16, 0x20 ≤ (hexDigit n).val ∧ (hexDigit n).val < 0x7F := by decide
    have first := digits (c.val / 16) (by omega)
    have second := digits (c.val % 16) (by omega)
    intro d here
    rcases List.mem_append.mp here with here | here
    · exact asciiPlain plain (s := py "\\u00") (by decide) d here
    · simp only [List.mem_cons,List.not_mem_nil,or_false] at here
      rcases here with rfl | rfl
      · exact plain _ first.1 first.2
      · exact plain _ second.1 second.2
  · rename_i printable
    intro d here
    cases List.mem_singleton.mp here
    exact h (by omega)

theorem stringSpelled {s : PyStr} (h : ∀ c ∈ s, 0x20 ≤ c.val → P c) : ∀ d ∈ dumpString s, P d := by
  intro d here
  simp only [dumpString,escape,List.cons_append,List.mem_cons,List.mem_append,List.mem_flatMap,
    List.not_mem_nil,or_false] at here
  rcases here with rfl | ⟨c,member,here⟩ | rfl
  · exact plain _ (by decide) (by decide)
  · exact escapeSpelled plain (h c member) d here
  · exact plain _ (by decide) (by decide)

theorem gapSpelled : ∀ d ∈ style.gap, P d := by
  unfold DumpStyle.gap
  split
  · simp
  · exact asciiPlain plain (by decide)

theorem integerSpelled (n : Int) : ∀ d ∈ signed n, P d := by
  have digits : ∀ d ∈ digitsOf n.natAbs, P d := by
    intro d here
    have digit := digitsAre n.natAbs d here
    simp only [PyChar.digit,Bool.and_eq_true,decide_eq_true_eq] at digit
    exact plain d (by omega) (by omega)
  unfold signed
  split
  · intro d here
    rcases List.mem_cons.mp here with rfl | here
    · exact plain _ (by decide) (by decide)
    · exact digits d here
  · exact digits

theorem digitsSpelled {s : PyStr} (digits : ∀ c ∈ s, PyChar.digit c = true) : ∀ d ∈ s, P d := by
  intro d here
  have digit := digits d here
  simp only [PyChar.digit,Bool.and_eq_true,decide_eq_true_eq] at digit
  exact plain d (by omega) (by omega)

theorem floatSpelled {f : PyFloat} {text : PyStr} (h : dumpFloat style f = .ok text) : ∀ d ∈ text, P d := by
  unfold dumpFloat at h
  cases shown : f.shortest with
  | none =>
    rw [shown] at h
    dsimp only at h
    split at h
    · cases h
      split <;> exact asciiPlain plain (by decide)
    · cases h
  | some parts =>
    obtain ⟨negative,digits,power⟩ := parts
    rw [shown] at h
    dsimp only at h
    have sign : ∀ d ∈ (if negative then py "-" else []), P d := by
      cases negative
      · simp
      · exact asciiPlain plain (by decide)
    have own := digitsSpelled plain (digitsAre digits)
    have zeros (n : Nat) : ∀ d ∈ List.replicate n zero, P d := fun d here =>
      List.eq_of_mem_replicate here ▸ plain _ (by decide) (by decide)
    have taken (n : Nat) : ∀ d ∈ (digitsOf digits).take n, P d := fun d here => own d (List.mem_of_mem_take here)
    have dropped (n : Nat) : ∀ d ∈ (digitsOf digits).drop n, P d := fun d here => own d (List.mem_of_mem_drop here)
    have pointed : ∀ d ∈ [point], P d := asciiPlain plain (by decide)
    split at h
    · split at h
      · cases h
        exact appendSpelled (appendSpelled (appendSpelled sign (asciiPlain plain (by decide))) (zeros _)) own
      split at h
      · cases h
        exact appendSpelled (appendSpelled (appendSpelled sign own) (zeros _)) (asciiPlain plain (by decide))
      · cases h
        exact appendSpelled (appendSpelled (appendSpelled sign (taken _)) pointed) (dropped _)
    · cases h
      refine appendSpelled (appendSpelled (appendSpelled (appendSpelled sign (taken _)) ?_) ?_) ?_
      · split
        · simp
        · exact appendSpelled pointed (dropped _)
      · split <;> exact asciiPlain plain (by decide)
      · split
        · exact appendSpelled (zeros 1) (digitsSpelled plain (digitsAre _))
        · exact digitsSpelled plain (digitsAre _)

theorem joinSpelled {head tail : PyStr} (earlier : ∀ d ∈ head, P d) (later : ∀ d ∈ tail, P d) :
    ∀ d ∈ head ++ comma :: style.gap ++ tail, P d := by
  intro d here
  simp only [List.append_assoc,List.cons_append,List.mem_append,List.mem_cons] at here
  rcases here with here | same | here | here
  · exact earlier d here
  · rw [same]
    exact plain _ (by decide) (by decide)
  · exact gapSpelled plain d here
  · exact later d here

theorem itemsSpelled {e : Nat} (xs : List Json)
    (each : ∀ x ∈ xs, ∀ {text}, dumpValue i style e x = .ok text → ∀ d ∈ text, P d) {text : PyStr}
    (h : dumpItems i style e xs = .ok text) : ∀ d ∈ text, P d := by
  induction xs generalizing text with
  | nil =>
    cases Except.ok.inj h
    simp
  | cons x xs ih =>
    cases xs with
    | nil => exact each x (by simp) h
    | cons y ys =>
      obtain ⟨head,tail,first,rest,rfl⟩ := itemsText h
      have earlier := each x (by simp) first
      have later := ih (fun z here => each z (by simp [here])) rest
      exact joinSpelled plain earlier later

theorem memberSpelled {k value : PyStr} (name : ∀ c ∈ k, 0x20 ≤ c.val → P c) (spelled : ∀ d ∈ value, P d) :
    ∀ d ∈ dumpString k ++ colon :: style.gap ++ value, P d := by
  intro d here
  simp only [List.append_assoc,List.cons_append,List.mem_append,List.mem_cons] at here
  rcases here with here | same | here | here
  · exact stringSpelled plain name d here
  · rw [same]
    exact plain _ (by decide) (by decide)
  · exact gapSpelled plain d here
  · exact spelled d here

theorem membersSpelled {e : Nat} (ms : List (PyStr × Json)) (names : ∀ m ∈ ms, ∀ c ∈ m.1, 0x20 ≤ c.val → P c)
    (each : ∀ m ∈ ms, ∀ {text}, dumpValue i style e m.2 = .ok text → ∀ d ∈ text, P d) {text : PyStr}
    (h : dumpMembers i style e ms = .ok text) : ∀ d ∈ text, P d := by
  induction ms generalizing text with
  | nil =>
    cases Except.ok.inj h
    simp
  | cons m ms ih =>
    obtain ⟨k,x⟩ := m
    have name := names (k,x) (by simp)
    cases ms with
    | nil =>
      obtain ⟨value,first,rfl⟩ := memberText h
      exact memberSpelled plain name (each (k,x) (by simp) first)
    | cons l ls =>
      obtain ⟨value,tail,first,rest,rfl⟩ := membersText h
      have earlier : ∀ d ∈ dumpString k ++ colon :: style.gap ++ value, P d :=
        memberSpelled plain name (each (k,x) (by simp) first)
      have later := ih (fun z here => names z (by simp [here])) (fun z here => each z (by simp [here])) rest
      exact joinSpelled plain earlier later

theorem valueSpelled {j : Json} (spelled : Spelled P j) {e : Nat} {text : PyStr}
    (h : dumpValue i style e j = .ok text) : ∀ d ∈ text, P d := by
  induction spelled generalizing e text with
  | null =>
    cases Except.ok.inj h
    exact asciiPlain plain (by decide)
  | bool b =>
    cases Except.ok.inj h
    cases b <;> exact asciiPlain plain (by decide)
  | int n =>
    rw [integerText h]
    exact integerSpelled plain n
  | float f => exact floatSpelled plain h
  | str s spelled =>
    cases Except.ok.inj h
    exact stringSpelled plain spelled
  | arr xs each ih =>
    obtain ⟨e,inner,rfl,items,rfl⟩ := arrayText h
    have inside := itemsSpelled plain xs (fun x here {text} written => ih x here written) items
    intro d here
    simp only [List.cons_append,List.mem_cons,List.mem_append,List.not_mem_nil,or_false] at here
    rcases here with same | here | same
    · rw [same]
      exact plain _ (by decide) (by decide)
    · exact inside d here
    · rw [same]
      exact plain _ (by decide) (by decide)
  | obj ms names each ih =>
    obtain ⟨e,inner,rfl,members,rfl⟩ := objectText h
    have inside := membersSpelled plain ms names (fun m here {text} written => ih m here written) members
    intro d here
    simp only [List.cons_append,List.mem_cons,List.mem_append,List.not_mem_nil,or_false] at here
    rcases here with same | here | same
    · rw [same]
      exact plain _ (by decide) (by decide)
    · exact inside d here
    · rw [same]
      exact plain _ (by decide) (by decide)

end
end PgLlmBatch.Base.JsonText
