import PgLlmBatch.BatchAssembly
import PgLlmBatch.Base.JsonRoundTrip

/-! The JSONL line of a request row: every row has one, of printable scalar characters, with
its token count and its bytes. -/
namespace PgLlmBatch
open Base
open Base.JsonText (Readable Spelled dumps)

structure EncodedRow where
  requestId : PyStr
  model : PyStr
  line : PyStr
  tokens : Nat
  bytes : Nat
  deriving DecidableEq, Repr

section
variable (i : Interpreter) (counter : TokenCounter) (lookup : Nat → PyStr → Option ModelMetadata)

def rowTokens (metadata : Option ModelMetadata) (r : RequestRow) : Nat :=
  counter.countTokens (systemForTokens (modeOf metadata) r) r.modelName.text +
    counter.countTokens r.userPrompt.text r.modelName.text

def encodeRow (metadata : Option ModelMetadata) (r : RequestRow) : Except PyError EncodedRow := do
  let line ← dumpLine i (rowEntry metadata r)
  let bytes ← BatchAccumulator.computeByteSize line
  return ⟨r.requestUuid.text,r.modelName.text,line,rowTokens counter metadata r,bytes⟩

def encodeRows : Nat → List RequestRow → Except PyError (List EncodedRow)
  | _, [] => .ok []
  | n, r::rs => do
      let e ← encodeRow i counter (lookup n r.modelName.text) r
      let es ← encodeRows (n+1) rs
      return e::es

theorem membersReadable {d : Nat} (names : List PyStr) {ms : List (PyStr × Json)} (same : ms.map Prod.fst = names)
    (distinct : names.Nodup) (each : ∀ m ∈ ms, Readable i d m.2) : Readable i (d+1) (.obj ms) :=
  .obj (by rw [same]; exact distinct) each

theorem entryReadable (metadata : Option ModelMetadata) (r : RequestRow) :
    Readable i 4 (rowEntry metadata r) := by
  have message : ∀ role content, Readable i 1 (.obj [(py "role",.str role),(py "content",.str content)]) := by
    intro role content
    refine membersReadable i [py "role",py "content"] rfl (by decide) ?_
    simp only [List.forall_mem_cons,List.not_mem_nil,false_implies,implies_true,and_true]
    exact ⟨.str _ _,.str _ _⟩
  unfold rowEntry buildJsonEntry
  split
  · refine membersReadable i [py "custom_id",py "method",py "url",py "body"] rfl (by decide) ?_
    simp only [List.forall_mem_cons,List.not_mem_nil,false_implies,implies_true,and_true]
    refine ⟨.str _ _,.str _ _,.str _ _,membersReadable i [py "model",py "input"] rfl (by decide) ?_⟩
    simp only [List.forall_mem_cons,List.not_mem_nil,false_implies,implies_true,and_true]
    exact ⟨.str _ _,.str _ _⟩
  · refine membersReadable i [py "custom_id",py "method",py "url",py "body"] rfl (by decide) ?_
    simp only [List.forall_mem_cons,List.not_mem_nil,false_implies,implies_true,and_true]
    refine ⟨.str _ _,.str _ _,.str _ _,membersReadable i [py "model",py "messages"] rfl (by decide) ?_⟩
    simp only [List.forall_mem_cons,List.not_mem_nil,false_implies,implies_true,and_true]
    refine ⟨.str _ _,.arr ?_⟩
    split
    · simp only [List.forall_mem_cons,List.not_mem_nil,false_implies,implies_true,and_true]
      exact message _ _
    · simp only [List.forall_mem_cons,List.not_mem_nil,false_implies,implies_true,and_true]
      exact ⟨message _ _,message _ _⟩

theorem rowReadable (metadata : Option ModelMetadata) (r : RequestRow) :
    Readable i i.depth (rowEntry metadata r) :=
  JsonText.readableMore (entryReadable i metadata r) (le_trans (by decide) i.roomy)

section
variable {P : PyChar → Prop} (plain : ∀ c : PyChar, 0x20 ≤ c.val → c.val < 0x80 → P c)

def asciiText (t : String) : Bool := (py t).all (fun c => 0x20 ≤ c.val && c.val < 0x80)

include plain

theorem asciiEach {t : String} (ascii : asciiText t = true) : ∀ c ∈ py t, P c := by
  intro c here
  have within := List.all_eq_true.mp ascii c here
  simp only [Bool.and_eq_true,decide_eq_true_eq] at within
  exact plain c within.1 within.2

theorem textSpelled (t : String) (ascii : asciiText t = true) : Spelled P (.str (py t)) :=
  .str _ (fun c here _ => asciiEach plain ascii c here)

theorem membersSpelled (names : List String) {ms : List (PyStr × Json)} (same : ms.map Prod.fst = names.map py)
    (ascii : names.all asciiText = true) (each : ∀ m ∈ ms, Spelled P m.2) : Spelled P (.obj ms) := by
  refine .obj _ ?_ each
  intro m here c member _
  have name : m.1 ∈ names.map py := by
    rw [← same]
    exact List.mem_map_of_mem here
  obtain ⟨t,listed,named⟩ := List.mem_map.mp name
  rw [← named] at member
  exact asciiEach plain (List.all_eq_true.mp ascii t listed) c member

theorem entrySpelled {requestId modelName mode system userPrompt : PyStr} (requestText : Spelled P (.str requestId))
    (modelText : Spelled P (.str modelName)) (systemText : Spelled P (.str system))
    (userText : Spelled P (.str userPrompt)) :
    Spelled P (buildJsonEntry requestId modelName mode system userPrompt) := by
  have message : ∀ role content, asciiText role = true → Spelled P (.str content) →
      Spelled P (.obj [(py "role",.str (py role)),(py "content",.str content)]) := by
    intro role content ascii spelled
    refine membersSpelled plain ["role","content"] rfl (by decide) ?_
    simp only [List.forall_mem_cons,List.not_mem_nil,false_implies,implies_true,and_true]
    exact ⟨textSpelled plain role ascii,spelled⟩
  unfold buildJsonEntry
  split
  · refine membersSpelled plain ["custom_id","method","url","body"] rfl (by decide) ?_
    simp only [List.forall_mem_cons,List.not_mem_nil,false_implies,implies_true,and_true]
    refine ⟨requestText,textSpelled plain _ (by decide),textSpelled plain _ (by decide),
      membersSpelled plain ["model","input"] rfl (by decide) ?_⟩
    simp only [List.forall_mem_cons,List.not_mem_nil,false_implies,implies_true,and_true]
    exact ⟨modelText,userText⟩
  · refine membersSpelled plain ["custom_id","method","url","body"] rfl (by decide) ?_
    simp only [List.forall_mem_cons,List.not_mem_nil,false_implies,implies_true,and_true]
    refine ⟨requestText,textSpelled plain _ (by decide),textSpelled plain _ (by decide),
      membersSpelled plain ["model","messages"] rfl (by decide) ?_⟩
    simp only [List.forall_mem_cons,List.not_mem_nil,false_implies,implies_true,and_true]
    refine ⟨modelText,.arr _ ?_⟩
    split
    · simp only [List.forall_mem_cons,List.not_mem_nil,false_implies,implies_true,and_true]
      exact message "user" _ (by decide) userText
    · simp only [List.forall_mem_cons,List.not_mem_nil,false_implies,implies_true,and_true]
      exact ⟨message "system" _ (by decide) systemText,message "user" _ (by decide) userText⟩

theorem rowSpelled (stored : ∀ c : PyChar, 0x20 ≤ c.val → c.surrogate = false → P c)
    (metadata : Option ModelMetadata) (r : RequestRow) : Spelled P (rowEntry metadata r) := by
  have column : ∀ t : PgText, Spelled P (.str t.text) :=
    fun t => .str _ (fun c here printable => stored c printable (t.stored c here).1)
  refine entrySpelled plain (column _) (column _) ?_ (column _)
  unfold systemForTokens
  split
  · exact column _
  · exact .str _ (by simp)

end

theorem lineWritten (metadata : Option ModelMetadata) (r : RequestRow) :
    ∃ line, dumpLine i (rowEntry metadata r) = .ok line ∧
      JsonText.dumpValue i lineStyle i.depth (rowEntry metadata r) = .ok line := by
  obtain ⟨line,written⟩ := @JsonText.valueWritten i lineStyle _ _ (rowReadable i metadata r)
  refine ⟨line,?_,written⟩
  unfold dumpLine dumps
  simp only [lineStyle,Bool.false_eq_true,if_false] at written ⊢
  rw [written]

theorem lineSpelled {metadata : Option ModelMetadata} {r : RequestRow} {line : PyStr}
    (h : JsonText.dumpValue i lineStyle i.depth (rowEntry metadata r) = .ok line) :
    ∀ c ∈ line, 0x20 ≤ c.val ∧ c.surrogate = false := by
  have ascii : ∀ c : PyChar, 0x20 ≤ c.val → c.val < 0x80 → 0x20 ≤ c.val ∧ c.surrogate = false := by
    intro c low high
    have small : ¬0xD800 ≤ c.val := by omega
    exact ⟨low,by simp [PyChar.surrogate,small]⟩
  have graphic : ∀ c : PyChar, 0x20 ≤ c.val → c.val < 0x7F → 0x20 ≤ c.val ∧ c.surrogate = false :=
    fun c low high => ascii c low (by omega)
  exact JsonText.valueSpelled graphic (rowSpelled ascii (fun c low scalar => ⟨low,scalar⟩) metadata r) h

theorem rowEncoded (metadata : Option ModelMetadata) (r : RequestRow) : ∃ e, encodeRow i counter metadata r = .ok e := by
  obtain ⟨line,dumped,written⟩ := lineWritten i metadata r
  obtain ⟨bytes,encoded⟩ := encodeScalars (fun c here => (lineSpelled i written c here).2)
  unfold encodeRow BatchAccumulator.computeByteSize
  simp only [dumped,encoded,bind,Except.bind]
  exact ⟨_,rfl⟩

theorem rowsEncoded (n : Nat) (rows : List RequestRow) : ∃ es, encodeRows i counter lookup n rows = .ok es := by
  induction rows generalizing n with
  | nil => exact ⟨[],rfl⟩
  | cons r rs ih =>
    obtain ⟨e,first⟩ := rowEncoded i counter (lookup n r.modelName.text) r
    obtain ⟨es,rest⟩ := ih (n+1)
    exact ⟨e::es,by simp only [encodeRows,first,rest,bind,Except.bind]; rfl⟩

end

theorem contentLines (lines : List PyStr) : payloadContent lines = lines.flatMap (· ++ [newline]) := by
  induction lines with
  | nil => rfl
  | cons l ls ih =>
    cases ls with
    | nil => simp [payloadContent]
    | cons m ms =>
      simp only [payloadContent,List.intercalate_cons_cons,List.isEmpty_cons,Bool.false_eq_true,if_false,
        List.flatMap_cons] at ih ⊢
      rw [← ih]
      simp

theorem contentBytes {es : List EncodedRow} (sized : ∀ e ∈ es, BatchAccumulator.computeByteSize e.line = .ok e.bytes) :
    ∃ bs, (payloadContent (es.map EncodedRow.line)).encodeUtf8 = some bs ∧
      bs.length = (es.map EncodedRow.bytes).sum := by
  rw [contentLines]
  induction es with
  | nil => exact ⟨[],rfl,rfl⟩
  | cons e es ih =>
    obtain ⟨rest,encoded,length⟩ := ih (fun x here => sized x (List.mem_cons_of_mem _ here))
    have own := sized e List.mem_cons_self
    unfold BatchAccumulator.computeByteSize at own
    split at own
    · rename_i bs line
      have size := Except.ok.inj own
      have ended := encodeAppend line (t := [newline]) (b := [0x0A]) (by decide)
      refine ⟨_,encodeAppend ended encoded,?_⟩
      simp only [List.length_append,List.length_singleton,List.map_cons,List.sum_cons,length,size]
    · cases own

end PgLlmBatch
