import PgLlmBatch.Base.JsonRoundTrip

/-! Values as Python can hold them, and the sorted form that `dumps` with `sort_keys` writes:
sorting twice is sorting once, and reading the text back gives the sorted value. -/
namespace PgLlmBatch.Base.JsonText

-- Names are distinct in every dict, and zero is written one way.
inductive Held : Json → Prop where
  | null : Held .null
  | bool (b : Bool) : Held (.bool b)
  | int (n : Int) : Held (.int n)
  | float (f : PyFloat) (zero : f.ZeroNormal) : Held (.float f)
  | str (s : PyStr) : Held (.str s)
  | arr (xs : List Json) (each : ∀ x ∈ xs, Held x) : Held (.arr xs)
  | obj (ms : List (PyStr × Json)) (distinct : (ms.map Prod.fst).Nodup) (each : ∀ m ∈ ms, Held m.2) : Held (.obj ms)

theorem memberHeld {ms : List (PyStr × Json)} (held : Held (.obj ms)) (name : PyStr) : Held (Json.get ms name) := by
  unfold Json.get Json.get?
  cases found : ms.find? (fun m => m.1 == name) with
  | none => exact .null
  | some m =>
    cases held with
    | obj _ _ each => exact each m (List.mem_of_find?_eq_some found)

inductive Texts (P : PyStr → Prop) : Json → Prop where
  | null : Texts P .null
  | bool (b : Bool) : Texts P (.bool b)
  | int (n : Int) : Texts P (.int n)
  | float (f : PyFloat) : Texts P (.float f)
  | str (s : PyStr) (own : P s) : Texts P (.str s)
  | arr (xs : List Json) (each : ∀ x ∈ xs, Texts P x) : Texts P (.arr xs)
  | obj (ms : List (PyStr × Json)) (names : ∀ m ∈ ms, P m.1) (each : ∀ m ∈ ms, Texts P m.2) : Texts P (.obj ms)

theorem nameTotal (a b : PyStr × Json) : nameLe a b ∨ nameLe b a := by
  unfold nameLe
  rcases trichotomous_of (List.Lex (fun c d : PyChar => c < d)) a.1 b.1 with before | same | after
  · exact .inl (.inr before)
  · exact .inl (.inl same)
  · exact .inr (.inr after)

theorem nameTrans {a b c : PyStr × Json} (first : nameLe a b) (second : nameLe b c) : nameLe a c := by
  rcases first with same | before
  · rw [nameLe,same]
    exact second
  rcases second with same | after
  · exact .inr (same ▸ before)
  · exact .inr (List.lex_trans (fun h k => lt_trans h k) before after)

instance : Std.Total nameLe := ⟨nameTotal⟩
instance : IsTrans _ nameLe := ⟨fun _ _ _ => nameTrans⟩

theorem sortItemsMap (xs : List Json) : sortItems xs = xs.map sortNames := by
  induction xs with
  | nil => rfl
  | cons x xs ih => rw [sortItems,List.map_cons,ih]

theorem sortMembersMap (ms : List (PyStr × Json)) : sortMembers ms = ms.map (fun m => (m.1,sortNames m.2)) := by
  induction ms with
  | nil => rfl
  | cons m ms ih => rw [sortMembers,List.map_cons,ih]

theorem sortedMember {ms : List (PyStr × Json)} {m : PyStr × Json}
    (here : m ∈ (sortMembers ms).insertionSort nameLe) : ∃ l ∈ ms, m = (l.1,sortNames l.2) := by
  rw [List.mem_insertionSort,sortMembersMap] at here
  obtain ⟨l,member,rfl⟩ := List.mem_map.mp here
  exact ⟨l,member,rfl⟩

theorem sortedNames (ms : List (PyStr × Json)) :
    (((sortMembers ms).insertionSort nameLe).map Prod.fst).Perm (ms.map Prod.fst) := by
  have permuted := (List.perm_insertionSort nameLe (sortMembers ms)).map Prod.fst
  rw [sortMembersMap,List.map_map] at permuted
  rw [sortMembersMap]
  exact permuted

theorem sortHeld {j : Json} (held : Held j) : Held (sortNames j) := by
  induction held with
  | null => exact .null
  | bool b => exact .bool b
  | int n => exact .int n
  | float f zero => exact .float f zero
  | str s => exact .str s
  | arr xs each ih =>
    rw [sortNames,sortItemsMap]
    refine .arr _ (fun y here => ?_)
    obtain ⟨x,member,rfl⟩ := List.mem_map.mp here
    exact ih x member
  | obj ms distinct each ih =>
    rw [sortNames]
    refine .obj _ ((sortedNames ms).nodup_iff.mpr distinct) (fun m here => ?_)
    obtain ⟨l,member,rfl⟩ := sortedMember here
    exact ih l member

theorem sortSettled {j : Json} (held : Held j) : sortNames (sortNames j) = sortNames j := by
  induction held with
  | null => rfl
  | bool b => rfl
  | int n => rfl
  | float f zero => rfl
  | str s => rfl
  | arr xs each ih =>
    rw [sortNames,sortNames,sortItemsMap,sortItemsMap,List.map_map]
    exact congrArg Json.arr (List.map_congr_left ih)
  | obj ms distinct each ih =>
    have settled : sortMembers ((sortMembers ms).insertionSort nameLe) = (sortMembers ms).insertionSort nameLe := by
      have fixed : ∀ m ∈ (sortMembers ms).insertionSort nameLe, (m.1,sortNames m.2) = m := by
        intro m here
        obtain ⟨l,member,rfl⟩ := sortedMember here
        rw [ih l member]
      exact (sortMembersMap _).trans ((List.map_congr_left fixed).trans (List.map_id' _))
    have ordered := List.pairwise_insertionSort nameLe (sortMembers ms)
    rw [sortNames,sortNames,settled,ordered.insertionSort_eq]

section
variable {i : Interpreter} {style : DumpStyle}

theorem itemWritten {e : Nat} {xs : List Json} {text : PyStr} (h : dumpItems i style e xs = .ok text) :
    ∀ x ∈ xs, ∃ text, dumpValue i style e x = .ok text := by
  induction xs generalizing text with
  | nil => simp
  | cons x xs ih =>
    intro y here
    cases xs with
    | nil =>
      rw [List.mem_singleton.mp here]
      exact ⟨_,h⟩
    | cons z zs =>
      obtain ⟨head,tail,first,rest,-⟩ := itemsText h
      rcases List.mem_cons.mp here with rfl | later
      · exact ⟨_,first⟩
      · exact ih rest y later

theorem memberWritten {e : Nat} {ms : List (PyStr × Json)} {text : PyStr} (h : dumpMembers i style e ms = .ok text) :
    ∀ m ∈ ms, ∃ text, dumpValue i style e m.2 = .ok text := by
  induction ms generalizing text with
  | nil => simp
  | cons m ms ih =>
    intro l here
    obtain ⟨k,x⟩ := m
    cases ms with
    | nil =>
      obtain ⟨value,first,-⟩ := memberText h
      rw [List.mem_singleton.mp here]
      exact ⟨_,first⟩
    | cons z zs =>
      obtain ⟨value,tail,first,rest,-⟩ := membersText h
      rcases List.mem_cons.mp here with rfl | later
      · exact ⟨_,first⟩
      · exact ih rest l later

theorem writtenReadable {e : Nat} {j : Json} {text : PyStr} (held : Held j) (finite_ : style.allowNan = false)
    (h : dumpValue i style e j = .ok text) : Readable i e j := by
  induction held generalizing e text with
  | null => exact .null e
  | bool b => exact .bool e b
  | int n =>
    refine .int e n ?_
    by_contra refused
    simp [dumpValue,dumpInt,refused] at h
  | float f zero =>
    refine .float e f zero (fun none_ => ?_)
    simp [dumpValue,dumpFloat,none_,finite_] at h
  | str s => exact .str e s
  | arr xs each ih =>
    obtain ⟨d,inner,rfl,items,-⟩ := arrayText h
    refine .arr (fun x here => ?_)
    obtain ⟨text,written⟩ := itemWritten items x here
    exact ih x here written
  | obj ms distinct each ih =>
    obtain ⟨d,inner,rfl,members,-⟩ := objectText h
    refine .obj distinct (fun m here => ?_)
    obtain ⟨text,written⟩ := memberWritten members m here
    exact ih m here written

theorem dumpsRead {hooks : Hooks} (faithful : Faithful hooks) {j : Json} {text : PyStr} (held : Held j)
    (sorted : style.sortKeys = true) (finite_ : style.allowNan = false) (h : dumps i style j = .ok text) :
    loads i hooks text = .ok (sortNames j) := by
  unfold dumps at h
  rw [if_pos sorted] at h
  exact loadsDumped faithful (writtenReadable (sortHeld held) finite_ h) h

theorem dumpsSettled {j : Json} (held : Held j) (sorted : style.sortKeys = true) :
    dumps i style (sortNames j) = dumps i style j := by
  unfold dumps
  rw [if_pos sorted,if_pos sorted,sortSettled held]

inductive Finite : Json → Prop where
  | null : Finite .null
  | bool (b : Bool) : Finite (.bool b)
  | int (n : Int) : Finite (.int n)
  | float (f : PyFloat) (finite_ : f.isFinite = true) : Finite (.float f)
  | str (s : PyStr) : Finite (.str s)
  | arr (xs : List Json) (each : ∀ x ∈ xs, Finite x) : Finite (.arr xs)
  | obj (ms : List (PyStr × Json)) (each : ∀ m ∈ ms, Finite m.2) : Finite (.obj ms)

theorem readableFinite {d : Nat} {j : Json} (readable : Readable i d j) : Finite j := by
  induction readable with
  | null => exact .null
  | bool d b => exact .bool b
  | int d n fits => exact .int n
  | float d f zero printed =>
    refine .float f ?_
    cases f with
    | finite negative m e => rfl
    | infinite negative => exact absurd rfl printed
    | nan => exact absurd rfl printed
  | str d s => exact .str s
  | arr each ih => exact .arr _ ih
  | obj distinct each ih => exact .obj _ ih

def ShownIn (text s : PyStr) : Prop := ∀ c ∈ s, 0x7F ≤ c.val → c ∈ text

theorem shownMore {small large s : PyStr} (shown : ShownIn small s) (more : ∀ c ∈ small, c ∈ large) : ShownIn large s :=
  fun c here high => more c (shown c here high)

theorem textsMore {P Q : PyStr → Prop} (weaker : ∀ s, P s → Q s) {j : Json} (texts : Texts P j) : Texts Q j := by
  induction texts with
  | null => exact .null
  | bool b => exact .bool b
  | int n => exact .int n
  | float f => exact .float f
  | str s own => exact .str s (weaker s own)
  | arr xs each ih => exact .arr xs ih
  | obj ms names each ih => exact .obj ms (fun m here => weaker m.1 (names m here)) ih

theorem textsBoth {P Q : PyStr → Prop} {j : Json} (first : Texts P j) (second : Texts Q j) :
    Texts (fun s => P s ∧ Q s) j := by
  induction first with
  | null => exact .null
  | bool b => exact .bool b
  | int n => exact .int n
  | float f => exact .float f
  | str s own =>
    cases second with
    | str _ other => exact .str s ⟨own,other⟩
  | arr xs each ih =>
    cases second with
    | arr _ others => exact .arr xs (fun x here => ih x here (others x here))
  | obj ms names each ih =>
    cases second with
    | obj _ others rest =>
      exact .obj ms (fun m here => ⟨names m here,others m here⟩) (fun m here => ih m here (rest m here))

theorem heldPrinted {j : Json} (held : Held j) : Spelled (fun c => 0x20 ≤ c.val) j := by
  induction held with
  | null => exact .null
  | bool b => exact .bool b
  | int n => exact .int n
  | float f zero => exact .float f
  | str s => exact .str s (fun c _ printable => printable)
  | arr xs each ih => exact .arr xs ih
  | obj ms distinct each ih => exact .obj ms (fun m _ c _ printable => printable) ih

theorem stringShown (s : PyStr) : ShownIn (dumpString s) s := by
  intro c here high
  have kept : escapeChar c = [c] := by
    have ascii : ¬c.val < 0x20 := by omega
    unfold escapeChar
    rw [if_neg (fun same => absurd (congrArg Fin.val same ▸ high) (by decide)),
      if_neg (fun same => absurd (congrArg Fin.val same ▸ high) (by decide)),if_neg (by omega),if_neg (by omega),
      if_neg (by omega),if_neg (by omega),if_neg (by omega),if_neg ascii]
  unfold dumpString escape
  refine List.mem_append_left _ (List.mem_cons_of_mem _ (List.mem_flatMap.mpr ⟨c,here,?_⟩))
  rw [kept]
  exact List.mem_singleton_self c

theorem itemsShown {e : Nat} {xs : List Json} {text : PyStr} (h : dumpItems i style e xs = .ok text) :
    ∀ x ∈ xs, ∃ own, dumpValue i style e x = .ok own ∧ ∀ c ∈ own, c ∈ text := by
  induction xs generalizing text with
  | nil => simp
  | cons x xs ih =>
    intro y here
    cases xs with
    | nil =>
      rw [List.mem_singleton.mp here]
      exact ⟨_,h,fun c member => member⟩
    | cons z zs =>
      obtain ⟨head,tail,first,rest,rfl⟩ := itemsText h
      rcases List.mem_cons.mp here with rfl | later
      · exact ⟨_,first,fun c member => by simp [member]⟩
      · obtain ⟨own,written,shown⟩ := ih rest y later
        exact ⟨own,written,fun c member => by simp [shown c member]⟩

theorem membersShown {e : Nat} {ms : List (PyStr × Json)} {text : PyStr} (h : dumpMembers i style e ms = .ok text) :
    ∀ m ∈ ms, (∀ c ∈ dumpString m.1, c ∈ text) ∧ ∃ own, dumpValue i style e m.2 = .ok own ∧ ∀ c ∈ own, c ∈ text := by
  induction ms generalizing text with
  | nil => simp
  | cons m ms ih =>
    intro l here
    obtain ⟨k,x⟩ := m
    cases ms with
    | nil =>
      obtain ⟨value,first,rfl⟩ := memberText h
      rw [List.mem_singleton.mp here]
      exact ⟨fun c member => by simp [member],_,first,fun c member => by simp [member]⟩
    | cons z zs =>
      obtain ⟨value,tail,first,rest,rfl⟩ := membersText h
      rcases List.mem_cons.mp here with rfl | later
      · exact ⟨fun c member => by simp [member],_,first,fun c member => by simp [member]⟩
      · obtain ⟨name,own,written,shown⟩ := ih rest l later
        exact ⟨fun c member => by simp [name c member],own,written,fun c member => by simp [shown c member]⟩

theorem valueShown {e : Nat} {j : Json} {text : PyStr} (held : Held j) (h : dumpValue i style e j = .ok text) :
    Texts (ShownIn text) j := by
  induction held generalizing e text with
  | null => exact .null
  | bool b => exact .bool b
  | int n => exact .int n
  | float f zero => exact .float f
  | str s =>
    cases Except.ok.inj h
    exact .str s (stringShown s)
  | arr xs each ih =>
    obtain ⟨d,inner,rfl,items,rfl⟩ := arrayText h
    refine .arr xs (fun x here => ?_)
    obtain ⟨own,written,shown⟩ := itemsShown items x here
    exact textsMore (fun s inside => shownMore inside (fun c member => by simp [shown c member])) (ih x here written)
  | obj ms distinct each ih =>
    obtain ⟨d,inner,rfl,members,rfl⟩ := objectText h
    refine .obj ms (fun m here => ?_) (fun m here => ?_)
    · obtain ⟨name,-⟩ := membersShown members m here
      exact shownMore (stringShown m.1) (fun c member => by simp [name c member])
    · obtain ⟨-,own,written,shown⟩ := membersShown members m here
      exact textsMore (fun s inside => shownMore inside (fun c member => by simp [shown c member])) (ih m here written)

end
end PgLlmBatch.Base.JsonText
