import PgLlmBatch.Base.JsonCanonical
import PgLlmBatch.RemoteBatchSnapshot

/-! The metadata an observation carries: the empty object, or the sorted value together with its
bounded text, in which no string and no name holds NUL. -/
namespace PgLlmBatch
open Base
open Base.JsonText (Held Texts Spelled dumps dumpsRead dumpsSettled sortNames)

def NulFree (s : PyStr) : Prop := nul ∉ s

theorem itemsAppend (xs ys : List Json) : metadataItems (xs ++ ys) = metadataItems xs + metadataItems ys := by
  induction xs with
  | nil => simp [metadataItems]
  | cons x xs ih =>
    simp only [List.cons_append,metadataItems,ih]
    omega

theorem itemsReverse (xs : List Json) : metadataItems xs.reverse = metadataItems xs := by
  induction xs with
  | nil => rfl
  | cons x xs ih =>
    simp only [List.reverse_cons,itemsAppend,metadataItems,ih]
    omega

theorem membersItems (ms : List (PyStr × Json)) : metadataItems (ms.map Prod.snd) = metadataMembers ms := by
  induction ms with
  | nil => rfl
  | cons m ms ih => simp only [List.map_cons,metadataItems,metadataMembers,ih]

theorem sizePositive (j : Json) : 0 < metadataSize j := by
  cases j <;> simp [metadataSize]

theorem pendingNulFree {n : Nat} {pending : List Json} (enough : metadataItems pending ≤ n)
    (h : nulPending n pending = false) : ∀ value ∈ pending, Texts NulFree value := by
  induction n generalizing pending with
  | zero =>
    cases pending with
    | nil => simp
    | cons value pending =>
      have some_ := sizePositive value
      simp only [metadataItems] at enough
      omega
  | succ n ih =>
    cases pending with
    | nil => simp
    | cons value pending =>
      simp only [metadataItems] at enough
      have plain : metadataSize value = 1 → nulPending n pending = false → ∀ v ∈ pending, Texts NulFree v := by
        intro size rest
        exact ih (by omega) rest
      rw [List.forall_mem_cons]
      cases value with
      | null => exact ⟨.null,plain rfl h⟩
      | bool b => exact ⟨.bool b,plain rfl h⟩
      | int k => exact ⟨.int k,plain rfl h⟩
      | float f => exact ⟨.float f,plain rfl h⟩
      | str s =>
        simp only [nulPending] at h
        split at h
        · cases h
        · rename_i clean
          exact ⟨.str s (by simpa [NulFree] using clean),plain rfl h⟩
      | arr xs =>
        simp only [metadataSize] at enough
        have rest := @ih (xs.reverse ++ pending) (by rw [itemsAppend,itemsReverse]; omega) h
        exact ⟨.arr xs (fun x here => rest x (by simp [here])),fun v here => rest v (by simp [here])⟩
      | obj ms =>
        simp only [metadataSize] at enough
        simp only [nulPending] at h
        split at h
        · cases h
        rename_i clean
        have rest := @ih ((ms.map Prod.snd).reverse ++ pending)
          (by rw [itemsAppend,itemsReverse,membersItems]; omega) h
        have names : ∀ m ∈ ms, NulFree m.1 := by
          intro m here holds
          exact clean (List.any_eq_true.mpr ⟨m,here,List.contains_iff_mem.mpr holds⟩)
        refine ⟨.obj ms names (fun m here => rest m.2 ?_),fun v here => rest v (by simp [here])⟩
        exact List.mem_append_left _ (List.mem_reverse.mpr (List.mem_map.mpr ⟨m,here,rfl⟩))

inductive SomeText (P : PyStr → Prop) : Json → Prop where
  | str {s : PyStr} (own : P s) : SomeText P (.str s)
  | item {xs : List Json} {x : Json} (here : x ∈ xs) (inside : SomeText P x) : SomeText P (.arr xs)
  | name {ms : List (PyStr × Json)} {m : PyStr × Json} (here : m ∈ ms) (own : P m.1) : SomeText P (.obj ms)
  | member {ms : List (PyStr × Json)} {m : PyStr × Json} (here : m ∈ ms) (inside : SomeText P m.2) : SomeText P (.obj ms)

theorem noneHas {P : PyStr → Prop} {value : Json} (texts : Texts (fun s => ¬P s) value) : ¬SomeText P value := by
  intro found
  induction found with
  | str own =>
    cases texts with
    | str _ clean => exact clean own
  | item here inside ih =>
    cases texts with
    | arr _ each => exact ih (each _ here)
  | name here own =>
    cases texts with
    | obj _ names each => exact names _ here own
  | member here inside ih =>
    cases texts with
    | obj _ names each => exact ih (each _ here)

theorem pendingFound {n : Nat} {pending : List Json} (h : nulPending n pending = true) :
    ∃ value ∈ pending, SomeText (fun s => nul ∈ s) value := by
  induction n generalizing pending with
  | zero => cases h
  | succ n ih =>
    cases pending with
    | nil => cases h
    | cons value pending =>
      have plain : nulPending n pending = true → ∃ v ∈ value::pending, SomeText (fun s => nul ∈ s) v := by
        intro later
        obtain ⟨v,here,found⟩ := ih later
        exact ⟨v,List.mem_cons_of_mem _ here,found⟩
      cases value with
      | null => exact plain h
      | bool b => exact plain h
      | int k => exact plain h
      | float f => exact plain h
      | str s =>
        simp only [nulPending] at h
        split at h
        · rename_i holds
          exact ⟨_,List.mem_cons_self,.str (List.contains_iff_mem.mp holds)⟩
        · exact plain h
      | arr xs =>
        obtain ⟨v,here,found⟩ := ih h
        rcases List.mem_append.mp here with item | later
        · exact ⟨_,List.mem_cons_self,.item (List.mem_reverse.mp item) found⟩
        · exact ⟨v,List.mem_cons_of_mem _ later,found⟩
      | obj ms =>
        simp only [nulPending] at h
        split at h
        · rename_i named
          obtain ⟨m,here,holds⟩ := List.any_eq_true.mp named
          exact ⟨_,List.mem_cons_self,.name here (List.contains_iff_mem.mp holds)⟩
        · obtain ⟨v,here,found⟩ := ih h
          rcases List.mem_append.mp here with item | later
          · obtain ⟨m,member,rfl⟩ := List.mem_map.mp (List.mem_reverse.mp item)
            exact ⟨_,List.mem_cons_self,.member member found⟩
          · exact ⟨v,List.mem_cons_of_mem _ later,found⟩

-- One turn of `while pending_values`: the answer, or what is pending then.
def nulTurn : List Json → Bool ⊕ List Json
  | [] => .inl false
  | .str s::pending => if s.contains nul then .inl true else .inr pending
  | .arr xs::pending => .inr (xs.reverse ++ pending)
  | .obj ms::pending =>
      if ms.any (fun m => m.1.contains nul) then .inl true else .inr ((ms.map Prod.snd).reverse ++ pending)
  | _::pending => .inr pending

theorem pendingTurns (n : Nat) (pending : List Json) : nulPending (n + 1) pending =
    match nulTurn pending with
    | .inl found => found
    | .inr later => nulPending n later := by
  cases pending with
  | nil => rfl
  | cons value pending =>
    cases value with
    | str s =>
      simp only [nulPending,nulTurn]
      split <;> rfl
    | obj ms =>
      simp only [nulPending,nulTurn]
      split <;> rfl
    | _ => rfl

theorem turnLess {pending later : List Json} (turn : nulTurn pending = .inr later) :
    metadataItems later < metadataItems pending := by
  cases pending with
  | nil => cases turn
  | cons value pending =>
    cases value with
    | arr xs =>
      cases turn
      rw [itemsAppend,itemsReverse]
      simp only [metadataItems,metadataSize]
      omega
    | str s =>
      simp only [nulTurn] at turn
      split at turn
      · cases turn
      · cases turn
        simp [metadataItems,metadataSize]
    | obj ms =>
      simp only [nulTurn] at turn
      split at turn
      · cases turn
      · cases turn
        rw [itemsAppend,itemsReverse,membersItems]
        simp only [metadataItems,metadataSize]
        omega
    | _ =>
      cases turn
      simp [metadataItems,metadataSize]

theorem worklistEnds (pending : List Json) : Acc (fun later earlier => nulTurn earlier = .inr later) pending :=
  Subrelation.accessible (r := InvImage (· < ·) metadataItems) (fun turn => turnLess turn)
    ((InvImage.wf metadataItems Nat.lt_wfRel.wf).apply pending)

theorem containsNoNul {value : Json} (h : metadataContainsNul value = false) : Texts NulFree value :=
  pendingNulFree (by simp [metadataItems]) h value (by simp)

section
variable {i : Interpreter}

structure MetadataText (i : Interpreter) (value : Json) (text : PyStr) : Prop where
  written : dumps i metadataStyle value = .ok text
  bounded : ∃ bytes, text.encodeUtf8 = some bytes ∧ bytes.length ≤ maxProviderMetadataBytes
  clean : Texts NulFree value

theorem emptyWritten : dumps i metadataStyle (.obj []) = .ok (py "\x7b\x7d") := by
  obtain ⟨d,deep⟩ := Nat.exists_eq_add_of_lt (lt_of_lt_of_le (by decide : 0 < 16) i.roomy)
  unfold dumps
  rw [deep]
  rfl

theorem emptyText : MetadataText i (.obj []) (py "\x7b\x7d") where
  written := emptyWritten
  bounded := ⟨[0x7B,0x7D],by decide,by decide⟩
  clean := .obj [] (fun m here => absurd here List.not_mem_nil) (fun m here => absurd here List.not_mem_nil)

theorem metadataSource {value : Json} (held : Held value) : providerMetadata i value = emptyMetadata ∨
    ∃ ms, value = .obj ms ∧ (providerMetadata i value).1 = sortNames value ∧
      MetadataText i (sortNames value) (providerMetadata i value).2 := by
  cases value with
  | obj ms =>
    unfold providerMetadata
    simp only []
    split
    · exact .inl rfl
    rename_i text written
    have read := dumpsRead JsonText.defaultFaithful held rfl rfl written
    split
    · exact .inl rfl
    rename_i bytes encoded
    split
    · exact .inl rfl
    rename_i small
    rw [read]
    simp only []
    split
    · exact .inl rfl
    · rename_i clean
      have settled := @dumpsSettled i metadataStyle _ held rfl
      exact .inr ⟨ms,rfl,rfl,settled.trans written,⟨bytes,encoded,not_lt.mp small⟩,
        containsNoNul (Bool.eq_false_of_not_eq_true clean)⟩
  | null => exact .inl rfl
  | bool b => exact .inl rfl
  | int n => exact .inl rfl
  | float f => exact .inl rfl
  | str s => exact .inl rfl
  | arr xs => exact .inl rfl

theorem metadataText {value : Json} (held : Held value) :
    MetadataText i (providerMetadata i value).1 (providerMetadata i value).2 := by
  rcases metadataSource held with empty | ⟨ms,-,sorted,text⟩
  · rw [empty]
    exact emptyText
  · rw [sorted]
    exact text

theorem metadataHeld {value : Json} (held : Held value) : Held (providerMetadata i value).1 := by
  rcases metadataSource (i := i) held with empty | ⟨ms,-,sorted,-⟩
  · rw [empty]
    exact .obj [] List.nodup_nil (fun m here => absurd here List.not_mem_nil)
  · rw [sorted]
    exact JsonText.sortHeld held

theorem emptySettled : providerMetadata i (.obj []) = emptyMetadata := by
  have held : Held (.obj []) := .obj [] List.nodup_nil (fun m here => absurd here List.not_mem_nil)
  have read := dumpsRead JsonText.defaultFaithful held rfl rfl (emptyWritten (i := i))
  have encoded : (py "\x7b\x7d").encodeUtf8 = some [0x7B,0x7D] := by decide
  have small : ¬maxProviderMetadataBytes < 2 := by decide
  simp only [providerMetadata,emptyWritten,encoded,read,List.length_cons,List.length_nil,small,if_false]
  rfl

theorem metadataSettled {value : Json} (held : Held value) :
    providerMetadata i (providerMetadata i value).1 = providerMetadata i value := by
  rcases metadataSource held with empty | ⟨ms,rfl,sorted,-⟩
  · rw [empty]
    exact emptySettled
  rw [sorted]
  have same := @dumpsSettled i metadataStyle _ held rfl
  unfold providerMetadata
  rw [same]
  rfl

theorem containsNulIff {value : Json} {n : Nat} (enough : metadataSize value ≤ n) :
    nulPending n [value] = true ↔ SomeText (fun s => nul ∈ s) value := by
  constructor
  · intro found
    obtain ⟨v,here,text⟩ := pendingFound found
    cases List.mem_singleton.mp here
    exact text
  · intro text
    cases found : nulPending n [value] with
    | true => rfl
    | false =>
      have clean := pendingNulFree (by simpa [metadataItems] using enough) found value (by simp)
      exact absurd text (noneHas clean)

-- What a mapping may hold; `other` is a value that `json.dumps` refuses.
inductive PyData where
  | null
  | bool (value : Bool)
  | int (value : Int)
  | float (value : PyFloat)
  | str (value : PyStr)
  | list (items : List PyData)
  | tuple (items : List PyData)
  | dict (members : List (PyStr × PyData))
  | other

mutual
def PyData.json : PyData → Option Json
  | .null => some .null
  | .bool b => some (.bool b)
  | .int n => some (.int n)
  | .float f => some (.float f)
  | .str s => some (.str s)
  | .list xs => Json.arr <$> jsonItems xs
  | .tuple xs => Json.arr <$> jsonItems xs
  | .dict ms => Json.obj <$> jsonMembers ms
  | .other => none
def jsonItems : List PyData → Option (List Json)
  | [] => some []
  | x::xs => do
      let item ← x.json
      let items ← jsonItems xs
      return item::items
def jsonMembers : List (PyStr × PyData) → Option (List (PyStr × Json))
  | [] => some []
  | (k,x)::ms => do
      let item ← x.json
      let members ← jsonMembers ms
      return (k,item)::members
end

-- `_provider_metadata` of a mapping, by what `dict(value)` holds.
def mappingMetadata (i : Interpreter) (members : List (PyStr × PyData)) : Json × PyStr :=
  match jsonMembers members with
  | none => emptyMetadata
  | some ms => providerMetadata i (.obj ms)

def normalizedMapping (i : Interpreter) (members : List (PyStr × PyData)) : Json := (mappingMetadata i members).1

def HeldMapping (members : List (PyStr × PyData)) : Prop := ∀ ms, jsonMembers members = some ms → Held (.obj ms)

def NoSurrogate (s : PyStr) : Prop := ∀ c ∈ s, c.surrogate = false

theorem encodedClean {s : PyStr} {bytes : Bytes} (h : s.encodeUtf8 = some bytes) : NoSurrogate s := by
  induction s generalizing bytes with
  | nil => exact fun c here => absurd here List.not_mem_nil
  | cons c s ih =>
    simp only [PyStr.encodeUtf8,Option.bind_eq_bind,Option.bind_eq_some_iff] at h
    obtain ⟨head,one,tail,others,-⟩ := h
    intro d here
    rcases List.mem_cons.mp here with rfl | later
    · exact scalarUtf8 one
    · exact ih others d later

structure SafeMetadata (i : Interpreter) (value : Json) (text : PyStr) : Prop where
  written : dumps i metadataStyle value = .ok text
  bounded : ∃ bytes, text.encodeUtf8 = some bytes ∧ bytes.length ≤ maxProviderMetadataBytes
  plain : NulFree text ∧ NoSurrogate text
  clean : Texts (fun s => NulFree s ∧ NoSurrogate s) value
  finite_ : JsonText.Finite value

theorem safeText {value : Json} {text : PyStr} (held : Held value) (sorted : sortNames value = value)
    (kept : MetadataText i value text) : SafeMetadata i value text := by
  obtain ⟨bytes,encoded,small⟩ := kept.bounded
  have written : JsonText.dumpValue i metadataStyle i.depth (sortNames value) = .ok text := kept.written
  rw [sorted] at written
  have surrogates := encodedClean encoded
  refine ⟨kept.written,kept.bounded,⟨fun holds => ?_,surrogates⟩,?_,?_⟩
  · have printed := JsonText.valueSpelled (fun c printable _ => printable) (JsonText.heldPrinted held) written
    exact absurd (printed nul holds) (by decide)
  · have shown := JsonText.valueShown held written
    refine JsonText.textsBoth kept.clean (JsonText.textsMore (fun s inside c here => ?_) shown)
    by_contra surrogate
    have other : c.surrogate = true := by simpa using surrogate
    have range := other
    simp only [PyChar.surrogate,Bool.and_eq_true,decide_eq_true_eq] at range
    exact surrogate (surrogates c (inside c here (by omega)))
  · exact JsonText.readableFinite (JsonText.writtenReadable held rfl written)

theorem emptySafe : SafeMetadata i (.obj []) (py "\x7b\x7d") :=
  safeText (.obj [] List.nodup_nil (fun _ here => absurd here List.not_mem_nil)) rfl emptyText

theorem metadataSafe {value : Json} (held : Held value) :
    SafeMetadata i (providerMetadata i value).1 (providerMetadata i value).2 := by
  rcases metadataSource held with empty | ⟨ms,-,sorted,text⟩
  · rw [empty]
    exact emptySafe
  · rw [sorted]
    exact safeText (JsonText.sortHeld held) (JsonText.sortSettled held) text

theorem metadataMapping {value : Json} (held : Held value) : ∃ ms, (providerMetadata i value).1 = .obj ms := by
  rcases metadataSource (i := i) held with empty | ⟨ms,rfl,sorted,-⟩
  · rw [empty]
    exact ⟨[],rfl⟩
  · rw [sorted]
    exact ⟨_,rfl⟩

mutual
def PyData.ofJson : Json → PyData
  | .null => .null
  | .bool b => .bool b
  | .int n => .int n
  | .float f => .float f
  | .str s => .str s
  | .arr xs => .list (dataItems xs)
  | .obj ms => .dict (dataMembers ms)
def dataItems : List Json → List PyData
  | [] => []
  | x::xs => PyData.ofJson x::dataItems xs
def dataMembers : List (PyStr × Json) → List (PyStr × PyData)
  | [] => []
  | (k,x)::ms => (k,PyData.ofJson x)::dataMembers ms
end

mutual
theorem dataJson : (j : Json) → (PyData.ofJson j).json = some j
  | .null => rfl
  | .bool b => rfl
  | .int n => rfl
  | .float f => rfl
  | .str s => rfl
  | .arr xs => by
      rw [PyData.ofJson,PyData.json,itemsJson xs]
      rfl
  | .obj ms => by
      rw [PyData.ofJson,PyData.json,membersJson ms]
      rfl
theorem itemsJson : (xs : List Json) → jsonItems (dataItems xs) = some xs
  | [] => rfl
  | x::xs => by
      rw [dataItems,jsonItems,dataJson x,itemsJson xs]
      rfl
theorem membersJson : (ms : List (PyStr × Json)) → jsonMembers (dataMembers ms) = some ms
  | [] => rfl
  | (k,x)::ms => by
      rw [dataMembers,jsonMembers,dataJson x,membersJson ms]
      rfl
end

theorem mappingKept {members : List (PyStr × PyData)} (held : HeldMapping members) :
    ∃ ms, normalizedMapping i members = .obj ms ∧
      SafeMetadata i (.obj ms) (mappingMetadata i members).2 ∧
      mappingMetadata i (dataMembers ms) = mappingMetadata i members := by
  unfold normalizedMapping
  cases written : jsonMembers members with
  | none =>
    have empty : mappingMetadata i members = emptyMetadata := by rw [mappingMetadata,written]
    rw [empty]
    exact ⟨[],rfl,emptySafe,emptySettled⟩
  | some ms =>
    have own : mappingMetadata i members = providerMetadata i (.obj ms) := by rw [mappingMetadata,written]
    obtain ⟨kept,same⟩ := metadataMapping (i := i) (held ms written)
    have safe := metadataSafe (i := i) (held ms written)
    have settled := metadataSettled (i := i) (held ms written)
    rw [same] at safe settled
    refine ⟨kept,?_,?_,?_⟩
    · rw [own,same]
    · rw [own]
      exact safe
    · rw [own,mappingMetadata,membersJson]
      exact settled

end

theorem metadataNormalizes (i : Interpreter) :
    (∀ value, metadataContainsNul value = true ↔ SomeText (fun s => nul ∈ s) value) ∧
    (∀ value n, metadataSize value ≤ n → nulPending n [value] = metadataContainsNul value) ∧
    (∀ pending, Acc (fun later earlier => nulTurn earlier = .inr later) pending) ∧
    ∀ members, HeldMapping members → ∃ ms, normalizedMapping i members = .obj ms ∧
      SafeMetadata i (.obj ms) (mappingMetadata i members).2 ∧
      mappingMetadata i (dataMembers ms) = mappingMetadata i members := by
  refine ⟨fun value => containsNulIff (Nat.le_refl _),fun value n enough => ?_,worklistEnds,fun members => mappingKept⟩
  exact Bool.eq_iff_iff.mpr ((containsNulIff enough).trans (containsNulIff (Nat.le_refl _)).symm)

def metadataInterpreter : Interpreter := ⟨1000,some 4300,usualDepth⟩

def listedMetadata : List (PyStr × PyData) :=
  [(py "model",.str (py "m")),(py "limits",.tuple [.int 1,.null])]

theorem listedNormalizes : (mappingMetadata metadataInterpreter listedMetadata).2 = py "\x7b\"limits\":[1,null],\"model\":\"m\"\x7d" ∧
    ∃ ms, normalizedMapping metadataInterpreter listedMetadata = .obj ms ∧
      mappingMetadata metadataInterpreter (dataMembers ms) = mappingMetadata metadataInterpreter listedMetadata := by
  have held : HeldMapping listedMetadata := by
    intro ms written
    cases Option.some.inj written
    refine .obj _ (by decide) (fun m here => ?_)
    simp only [List.mem_cons,List.not_mem_nil,or_false] at here
    rcases here with rfl | rfl
    · exact .str _
    · refine .arr _ (fun x here => ?_)
      simp only [List.mem_cons,List.not_mem_nil,or_false] at here
      rcases here with rfl | rfl
      · exact .int 1
      · exact .null
  obtain ⟨ms,kept,-,same⟩ := (metadataNormalizes metadataInterpreter).2.2.2 listedMetadata held
  exact ⟨by decide +kernel,ms,kept,same⟩

end PgLlmBatch
