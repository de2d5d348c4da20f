import PgLlmBatch.BatchLines
import PgLlmBatch.Base.GreedyGroups
import PgLlmBatch.Base.Fallible

/-! What assembly packs: it fails only for a row that breaks a limit on its own, and otherwise
its payloads are the greedy groups of the rows under the three limits and the model. -/
namespace PgLlmBatch
open Base
open Base.GreedyGroups (groups loop Stopped)

section
variable (i : Interpreter) (counter : TokenCounter) (lookup : Nat → PyStr → Option ModelMetadata)

def Oversized (e : EncodedRow) : Prop :=
  counter.effectiveLimit < (e.tokens : Int) ∨ counter.azureMaxBytesPerFile < e.bytes
instance (e : EncodedRow) : Decidable (Oversized counter e) := by unfold Oversized; infer_instance

def tokensOf (g : List EncodedRow) : Nat := (g.map EncodedRow.tokens).sum
def bytesOf (g : List EncodedRow) : Nat := (g.map EncodedRow.bytes).sum

def Breaks (g : List EncodedRow) (e : EncodedRow) : Prop :=
  counter.effectiveLimit < (tokensOf g + e.tokens : Nat) ∨
    counter.azureMaxBytesPerFile < bytesOf g + e.bytes ∨ counter.azureMaxRecordsPerFile < g.length + 1
instance (g : List EncodedRow) (e : EncodedRow) : Decidable (Breaks counter g e) := by
  unfold Breaks; infer_instance

def sameModel (g : List EncodedRow) (e : EncodedRow) : Bool := g.head?.map EncodedRow.model == some e.model

def fitsPayload (g : List EncodedRow) (e : EncodedRow) : Bool := sameModel g e && !decide (Breaks counter g e)

def drainedOf (g : List EncodedRow) : Drained :=
  ⟨g.length,tokensOf g,g.map EncodedRow.requestId,g.map EncodedRow.line,bytesOf g⟩

def partsOf (gs : List (List EncodedRow)) : List BatchPayloadPart := gs.zipIdx.map (fun p => ⟨drainedOf p.1,p.2⟩)

def accumulated (model : PyStr) (g : List EncodedRow) : BatchAccumulator :=
  ⟨counter,model,g.map (fun e => (e.requestId,e.line,e.tokens)),tokensOf g,g.length,bytesOf g⟩

def between (n : Nat) (gs : List (List EncodedRow)) (model : PyStr) (g : List EncodedRow) : Assembly :=
  ⟨n,gs.length,some model,some (accumulated counter model g),partsOf gs⟩

theorem partsAppend (gs : List (List EncodedRow)) (g : List EncodedRow) :
    partsOf (gs ++ [g]) = partsOf gs ++ [⟨drainedOf g,gs.length⟩] := by
  simp [partsOf,List.zipIdx_append]

theorem accumulatedDrain (model : PyStr) {g : List EncodedRow} (some_ : g ≠ []) :
    (accumulated counter model g).drain = some (drainedOf g) := by
  cases g with
  | nil => exact absurd rfl some_
  | cons e es => simp [accumulated,BatchAccumulator.drain,drainedOf]

theorem accumulatedExceeds (model : PyStr) {g : List EncodedRow} (some_ : g ≠ []) (e : EncodedRow) :
    (accumulated counter model g).wouldExceed e.tokens e.bytes = decide (Breaks counter g e) := by
  have count : g.length ≠ 0 := by simpa using some_
  unfold BatchAccumulator.wouldExceed accumulated
  simp only [count,if_false]
  split
  · rename_i tokens
    exact (decide_eq_true (Or.inl tokens)).symm
  · rename_i tokens
    split
    · rename_i bytes
      exact (decide_eq_true (Or.inr (Or.inl bytes))).symm
    · rename_i bytes
      split
      · rename_i records
        exact (decide_eq_true (Or.inr (Or.inr records))).symm
      · rename_i records
        refine (decide_eq_false ?_).symm
        rintro (beyond | beyond | beyond)
        · exact tokens beyond
        · exact bytes beyond
        · exact records beyond

theorem accumulatedAdd (model : PyStr) (g : List EncodedRow) {e : EncodedRow} (small : ¬Oversized counter e) :
    (accumulated counter model g).addEntry e.requestId e.line e.tokens e.bytes =
      .ok (accumulated counter model (g ++ [e])) := by
  simp only [Oversized,not_or] at small
  simp only [BatchAccumulator.addEntry,accumulated,small.1,small.2,if_false]
  simp [tokensOf,bytesOf]

theorem oversizedRefused (model : PyStr) (g : List EncodedRow) {e : EncodedRow} (h : Oversized counter e) :
    ∃ x, (accumulated counter model g).addEntry e.requestId e.line e.tokens e.bytes = .error x := by
  unfold BatchAccumulator.addEntry accumulated
  split
  · exact ⟨_,rfl⟩
  · rename_i tokens
    rcases h with beyond | beyond
    · exact absurd beyond tokens
    · simp only [beyond,if_true]
      exact ⟨_,rfl⟩

structure Encoded (metadata : Option ModelMetadata) (r : RequestRow) (e : EncodedRow) : Prop where
  requestId : e.requestId = r.requestUuid.text
  model : e.model = r.modelName.text
  line : dumpLine i (rowEntry metadata r) = .ok e.line
  tokens : e.tokens = rowTokens counter metadata r
  bytes : BatchAccumulator.computeByteSize e.line = .ok e.bytes

theorem encodedParts {metadata : Option ModelMetadata} {r : RequestRow} {e : EncodedRow}
    (h : encodeRow i counter metadata r = .ok e) : Encoded i counter metadata r e := by
  unfold encodeRow at h
  obtain ⟨line,dumped,rest⟩ := Fallible.bindOk.mp h
  obtain ⟨bytes,sized,made⟩ := Fallible.bindOk.mp rest
  cases Except.ok.inj made
  exact ⟨rfl,rfl,dumped,rfl,sized⟩

def Assembly.place (st : Assembly) (acc : BatchAccumulator) (e : EncodedRow) : Except PyError Assembly := do
  let (acc,st) := if acc.wouldExceed e.tokens e.bytes then match acc.drain with
      | none => (acc,st)
      | some d => (BatchAccumulator.new counter e.model,st.push (some d))
    else (acc,st)
  let acc ← acc.addEntry e.requestId e.line e.tokens e.bytes
  return {st with acc := some acc, lookups := st.lookups + 1}

theorem rowPlaces (st : Assembly) {r : RequestRow} {e : EncodedRow}
    (h : encodeRow i counter (lookup st.lookups r.modelName.text) r = .ok e)
    (own : ∀ acc ∈ (st.switchModel e.model).acc, acc.model = e.model ∧ acc.counter = counter) :
    st.row i counter lookup r =
      ((st.switchModel e.model).opened counter e.model).2.place counter
        ((st.switchModel e.model).opened counter e.model).1 e := by
  obtain ⟨requestId,model,line,tokens,bytes⟩ := encodedParts i counter h
  have counted : ((st.switchModel e.model).opened counter e.model).1.computeTokens
      (systemForTokens (modeOf (lookup st.lookups r.modelName.text)) r) r.userPrompt.text = e.tokens := by
    rw [tokens]
    unfold Assembly.opened
    split
    · rename_i acc open_
      obtain ⟨named,counter_⟩ := own acc open_
      simp only [BatchAccumulator.computeTokens,named,counter_,model,rowTokens]
    · simp only [BatchAccumulator.computeTokens,BatchAccumulator.new,model,rowTokens]
  have linked {α β : Type} (a : α) (f : α → Except PyError β) : (Except.ok a >>= f) = f a := rfl
  have made : st.row i counter lookup r = st.row i counter lookup r := rfl
  conv_rhs at made => unfold Assembly.row
  simp only [model] at counted
  simp only [line,bytes,counted,linked] at made
  simp only [← model,← requestId] at made
  exact made

theorem placeStays (st : Assembly) {model : PyStr} {g : List EncodedRow} {e : EncodedRow}
    (room : g = [] ∨ ¬Breaks counter g e) :
    st.place counter (accumulated counter model g) e = (do
      let acc ← (accumulated counter model g).addEntry e.requestId e.line e.tokens e.bytes
      return {st with acc := some acc, lookups := st.lookups + 1}) := by
  have stays : (accumulated counter model g).wouldExceed e.tokens e.bytes = false := by
    by_cases first : g = []
    · simp [first,BatchAccumulator.wouldExceed,accumulated]
    · rw [accumulatedExceeds counter model first]
      exact decide_eq_false (room.resolve_left first)
  unfold Assembly.place
  simp only [stays,Bool.false_eq_true,if_false]

theorem placeOpens (st : Assembly) {model : PyStr} {g : List EncodedRow} {e : EncodedRow}
    (some_ : g ≠ []) (full : Breaks counter g e) :
    st.place counter (accumulated counter model g) e = (do
      let acc ← (accumulated counter e.model []).addEntry e.requestId e.line e.tokens e.bytes
      return {(st.push (some (drainedOf g))) with
        acc := some acc, lookups := (st.push (some (drainedOf g))).lookups + 1}) := by
  have beyond : (accumulated counter model g).wouldExceed e.tokens e.bytes = true := by
    rw [accumulatedExceeds counter model some_]
    exact decide_eq_true full
  unfold Assembly.place
  simp only [beyond,if_true,accumulatedDrain counter model some_]
  rfl

theorem placeRefuses (st : Assembly) (model : PyStr) (g : List EncodedRow) {e : EncodedRow}
    (big : Oversized counter e) : ∃ x, st.place counter (accumulated counter model g) e = .error x := by
  by_cases room : g = [] ∨ ¬Breaks counter g e
  · obtain ⟨x,refused⟩ := oversizedRefused counter model g big
    exact ⟨x,by rw [placeStays counter st room,refused]; rfl⟩
  · obtain ⟨x,refused⟩ := oversizedRefused counter e.model [] big
    simp only [not_or,not_not] at room
    exact ⟨x,by rw [placeOpens counter st room.1 room.2,refused]; rfl⟩

theorem startPlaces {r : RequestRow} {e : EncodedRow}
    (h : encodeRow i counter (lookup 0 r.modelName.text) r = .ok e) :
    Assembly.start.row i counter lookup r =
      Assembly.place counter ⟨0,0,some e.model,none,[]⟩ (accumulated counter e.model []) e := by
  rw [rowPlaces i counter lookup .start h (by simp [Assembly.switchModel,Assembly.start])]
  rfl

theorem samePlaces (n : Nat) (gs : List (List EncodedRow)) (g : List EncodedRow) {r : RequestRow} {e : EncodedRow}
    (h : encodeRow i counter (lookup n r.modelName.text) r = .ok e) :
    (between counter n gs e.model g).row i counter lookup r =
      (between counter n gs e.model g).place counter (accumulated counter e.model g) e := by
  have kept : (between counter n gs e.model g).switchModel e.model = between counter n gs e.model g := by
    simp [between,Assembly.switchModel]
  rw [rowPlaces i counter lookup _ h (by rw [kept]; simp [between,accumulated]),kept]
  rfl

theorem otherPlaces (n : Nat) (gs : List (List EncodedRow)) {model : PyStr} {g : List EncodedRow}
    {r : RequestRow} {e : EncodedRow} (some_ : g ≠ []) (other : model ≠ e.model)
    (h : encodeRow i counter (lookup n r.modelName.text) r = .ok e) :
    (between counter n gs model g).row i counter lookup r =
      Assembly.place counter ⟨n,(gs ++ [g]).length,some e.model,none,partsOf (gs ++ [g])⟩
        (accumulated counter e.model []) e := by
  have switched : (between counter n gs model g).switchModel e.model =
      ⟨n,(gs ++ [g]).length,some model,none,partsOf (gs ++ [g])⟩ := by
    have differs : some model ≠ some e.model := fun same => other (Option.some.inj same)
    simp only [between,Assembly.switchModel,differs,ne_eq,not_false_eq_true,if_true,
      accumulatedDrain counter model some_,Assembly.push,partsAppend,List.length_append,List.length_singleton]
  rw [rowPlaces i counter lookup _ h (by rw [switched]; simp),switched]
  rfl

theorem betweenFinish (n : Nat) (gs : List (List EncodedRow)) (model : PyStr) {g : List EncodedRow}
    (some_ : g ≠ []) : (between counter n gs model g).finish = partsOf (gs ++ [g]) := by
  have count : 0 < g.length := List.length_pos_iff.mpr some_
  have drained := accumulatedDrain counter model some_
  have records : 0 < (accumulated counter model g).recordCount := count
  simp only [between,Assembly.finish,records,if_true,drained,Assembly.push,partsAppend]

theorem betweenRow (n : Nat) (gs : List (List EncodedRow)) {g : List EncodedRow} {model : PyStr}
    {r : RequestRow} {e : EncodedRow} (headed : g.head?.map EncodedRow.model = some model)
    (h : encodeRow i counter (lookup n r.modelName.text) r = .ok e) :
    if Oversized counter e then ∃ x, (between counter n gs model g).row i counter lookup r = .error x
    else (between counter n gs model g).row i counter lookup r =
      .ok (if fitsPayload counter g e then between counter (n+1) gs model (g ++ [e])
        else between counter (n+1) (gs ++ [g]) e.model [e]) := by
  have some_ : g ≠ [] := by
    rintro rfl
    cases headed
  by_cases same : model = e.model
  · subst same
    have kin : sameModel g e = true := by simp [sameModel,headed]
    rw [samePlaces i counter lookup n gs g h]
    split
    · rename_i big
      exact placeRefuses counter _ e.model g big
    · rename_i small
      by_cases full : Breaks counter g e
      · rw [placeOpens counter _ some_ full,accumulatedAdd counter e.model [] small]
        simp [fitsPayload,full,between,Assembly.push,partsAppend,bind,Except.bind,pure,Except.pure]
      · rw [placeStays counter _ (Or.inr full),accumulatedAdd counter e.model g small]
        simp [fitsPayload,full,kin,between,bind,Except.bind,pure,Except.pure]
  · have apart : sameModel g e = false := by simp [sameModel,headed,same]
    rw [otherPlaces i counter lookup n gs some_ same h]
    split
    · rename_i big
      exact placeRefuses counter _ e.model [] big
    · rename_i small
      rw [placeStays counter _ (Or.inl rfl),accumulatedAdd counter e.model [] small]
      simp [fitsPayload,apart,between,bind,Except.bind,pure,Except.pure]

theorem startRow {r : RequestRow} {e : EncodedRow}
    (h : encodeRow i counter (lookup 0 r.modelName.text) r = .ok e) :
    if Oversized counter e then ∃ x, Assembly.start.row i counter lookup r = .error x
    else Assembly.start.row i counter lookup r = .ok (between counter 1 [] e.model [e]) := by
  rw [startPlaces i counter lookup h]
  split
  · rename_i big
    exact placeRefuses counter _ e.model [] big
  · rename_i small
    rw [placeStays counter _ (Or.inl rfl),accumulatedAdd counter e.model [] small]
    rfl

theorem betweenRows {rows : List RequestRow} {n : Nat} {gs : List (List EncodedRow)} {g es : List EncodedRow}
    {model : PyStr} (headed : g.head?.map EncodedRow.model = some model)
    (h : encodeRows i counter lookup n rows = .ok es) :
    if ∃ e ∈ es, Oversized counter e then
      ∃ x, rows.foldlM (Assembly.row i counter lookup) (between counter n gs model g) = .error x
    else ∃ st, rows.foldlM (Assembly.row i counter lookup) (between counter n gs model g) = .ok st ∧
      st.finish = partsOf (gs ++ loop (fitsPayload counter) g es) := by
  induction rows generalizing n gs g es model with
  | nil =>
    cases Except.ok.inj h
    have some_ : g ≠ [] := by
      rintro rfl
      cases headed
    simp only [List.not_mem_nil,false_and,exists_false,if_false]
    exact ⟨_,rfl,betweenFinish counter n gs model some_⟩
  | cons r rs ih =>
    obtain ⟨e,first,rest⟩ := Fallible.bindOk.mp h
    obtain ⟨later,others,made⟩ := Fallible.bindOk.mp rest
    cases Except.ok.inj made
    have step := betweenRow i counter lookup n gs headed first
    rw [List.foldlM_cons]
    by_cases big : Oversized counter e
    · rw [if_pos big] at step
      rw [if_pos ⟨e,List.mem_cons_self,big⟩]
      obtain ⟨x,refused⟩ := step
      exact ⟨x,by rw [refused]; rfl⟩
    · rw [if_neg big] at step
      rw [step]
      have tail : (∃ x ∈ e::later, Oversized counter x) ↔ ∃ x ∈ later, Oversized counter x := by
        simp [big]
      simp only [tail,loop]
      cases fit : fitsPayload counter g e with
      | true =>
        have own : (g ++ [e]).head?.map EncodedRow.model = some model := by
          cases g with
          | nil => cases headed
          | cons y ys => exact headed
        exact ih own others
      | false =>
        have next := @ih (n+1) (gs ++ [g]) [e] later e.model rfl others
        rw [List.append_assoc,List.singleton_append] at next
        exact next

-- Assembly is greedy grouping of the encoded rows, and fails only for a row that cannot fit.
theorem assembledGroups {rows : List RequestRow} {es : List EncodedRow}
    (h : encodeRows i counter lookup 0 rows = .ok es) :
    if ∃ e ∈ es, Oversized counter e then ∃ x, assemblePayloads i counter lookup rows = .error x
    else assemblePayloads i counter lookup rows = .ok (partsOf (groups (fitsPayload counter) es)) := by
  cases rows with
  | nil =>
    cases Except.ok.inj h
    simp only [List.not_mem_nil,false_and,exists_false,if_false]
    rfl
  | cons r rs =>
    obtain ⟨e,first,rest⟩ := Fallible.bindOk.mp h
    obtain ⟨later,others,made⟩ := Fallible.bindOk.mp rest
    cases Except.ok.inj made
    have step := startRow i counter lookup first
    unfold assemblePayloads
    rw [List.foldlM_cons]
    by_cases big : Oversized counter e
    · rw [if_pos big] at step
      rw [if_pos ⟨e,List.mem_cons_self,big⟩]
      obtain ⟨x,refused⟩ := step
      exact ⟨x,by rw [refused]; rfl⟩
    · rw [if_neg big] at step
      rw [step]
      have tail : (∃ x ∈ e::later, Oversized counter x) ↔ ∃ x ∈ later, Oversized counter x := by
        simp [big]
      simp only [tail]
      have after := @betweenRows i counter lookup rs 1 [] [e] later e.model rfl others
      split
      · rename_i late
        rw [if_pos late] at after
        obtain ⟨x,refused⟩ := after
        exact ⟨x,by simp only [bind,Except.bind] at refused ⊢; rw [refused]⟩
      · rename_i none_
        rw [if_neg none_] at after
        obtain ⟨st,ran,parts⟩ := after
        simp only [bind,Except.bind] at ran ⊢
        rw [ran]
        exact congrArg Except.ok parts

structure Holds (p : BatchPayloadPart) (g : List EncodedRow) : Prop where
  filled : g ≠ []
  oneModel : ∀ e ∈ g, ∀ f ∈ g, e.model = f.model
  requestIds : p.requestIds = g.map EncodedRow.requestId
  lines : p.lines = g.map EncodedRow.line
  recordCount : p.recordCount = p.lines.length
  totalTokens : p.totalTokens = (g.map EncodedRow.tokens).sum
  byteSize : p.byteSize = (g.map EncodedRow.bytes).sum
  fewRecords : p.recordCount ≤ counter.azureMaxRecordsPerFile
  fewTokens : (p.totalTokens : Int) ≤ counter.effectiveLimit
  fewBytes : p.byteSize ≤ counter.azureMaxBytesPerFile
  content : ∃ bs, (payloadContent p.lines).encodeUtf8 = some bs ∧ bs.length = p.byteSize

-- The payloads hold the rows in order, and one of them ends before a row of its model only
-- when that row would break a limit.
def Packs (payloads : List BatchPayloadPart) (es : List EncodedRow) : Prop :=
  ∃ gs : List (List EncodedRow), gs.flatten = es ∧ List.Forall₂ (Holds counter) payloads gs ∧
    gs.IsChain (fun g h => ∃ e, h.head? = some e ∧ ((∀ f ∈ g, f.model = e.model) → Breaks counter g e))

structure Packed (rows : List RequestRow) (payloads : List BatchPayloadPart) (es : List EncodedRow) : Prop where
  packs : Packs counter payloads es
  numbered : payloads.map BatchPayloadPart.partIndex = List.range payloads.length
  requestIds : payloads.flatMap (fun p => p.requestIds) = rows.map (fun r => r.requestUuid.text)

theorem rowsEncode {rows : List RequestRow} {n : Nat} {es : List EncodedRow}
    (h : encodeRows i counter lookup n rows = .ok es) :
    es.map EncodedRow.requestId = rows.map (fun r => r.requestUuid.text) ∧
      ∀ e ∈ es, BatchAccumulator.computeByteSize e.line = .ok e.bytes := by
  induction rows generalizing n es with
  | nil =>
    cases Except.ok.inj h
    simp
  | cons r rs ih =>
    obtain ⟨e,first,rest⟩ := Fallible.bindOk.mp h
    obtain ⟨later,others,made⟩ := Fallible.bindOk.mp rest
    cases Except.ok.inj made
    obtain ⟨ids,sized⟩ := ih others
    have parts := encodedParts i counter first
    exact ⟨by simp only [List.map_cons,ids,parts.requestId],List.forall_mem_cons.mpr ⟨parts.bytes,sized⟩⟩

structure WithinLimits (g : List EncodedRow) : Prop where
  oneModel : ∀ e ∈ g, ∀ f ∈ g, e.model = f.model
  records : g.length ≤ counter.azureMaxRecordsPerFile
  tokens : (tokensOf g : Int) ≤ counter.effectiveLimit
  bytes : bytesOf g ≤ counter.azureMaxBytesPerFile

theorem singleWithin {e : EncodedRow} (small : ¬Oversized counter e) : WithinLimits counter [e] := by
  simp only [Oversized,not_or,not_lt] at small
  have one := counter.positive.1
  exact ⟨by simp,one,by simpa [tokensOf] using small.1,by simpa [bytesOf] using small.2⟩

theorem fittingWithin {g : List EncodedRow} {e : EncodedRow} (within : WithinLimits counter g)
    (fit : fitsPayload counter g e = true) : WithinLimits counter (g ++ [e]) := by
  simp only [fitsPayload,Bool.and_eq_true,Bool.not_eq_true'] at fit
  obtain ⟨kin,room⟩ := fit
  have inside := of_decide_eq_false room
  simp only [Breaks,not_or,not_lt] at inside
  obtain ⟨tokens,bytes,records⟩ := inside
  have joined : ∀ f ∈ g, f.model = e.model := by
    intro f member
    cases g with
    | nil => cases member
    | cons y ys =>
      have first : y.model = e.model := by simpa [sameModel] using kin
      rw [within.oneModel f member y List.mem_cons_self,first]
  have own : ∀ f ∈ g ++ [e], f.model = e.model := by
    intro f member
    rcases List.mem_append.mp member with old | new
    · exact joined f old
    · rw [List.mem_singleton.mp new]
  refine ⟨fun f here f' there => by rw [own f here,own f' there],by simpa using records,?_,?_⟩
  · simpa [tokensOf] using tokens
  · simpa [bytesOf] using bytes

theorem groupsWithin {es : List EncodedRow} (small : ∀ e ∈ es, ¬Oversized counter e) :
    ∀ g ∈ groups (fitsPayload counter) es, WithinLimits counter g :=
  GreedyGroups.groupsEvery (fitsPayload counter) (fun e here => singleWithin counter (small e here))
    (fun _ _ _ within fit => fittingWithin counter within fit)

theorem partHolds {g : List EncodedRow} (n : Nat) (filled : g ≠ []) (within : WithinLimits counter g)
    (sized : ∀ e ∈ g, BatchAccumulator.computeByteSize e.line = .ok e.bytes) :
    Holds counter ⟨drainedOf g,n⟩ g where
  filled := filled
  oneModel := within.oneModel
  requestIds := rfl
  lines := rfl
  recordCount := (List.length_map _).symm
  totalTokens := rfl
  byteSize := rfl
  fewRecords := within.records
  fewTokens := within.tokens
  fewBytes := within.bytes
  content := contentBytes sized

theorem partsHold {gs : List (List EncodedRow)} (each : ∀ g ∈ gs, ∀ n, Holds counter ⟨drainedOf g,n⟩ g) :
    List.Forall₂ (Holds counter) (partsOf gs) gs := by
  induction gs using List.reverseRecOn with
  | nil => exact .nil
  | append_singleton gs g ih =>
    rw [partsAppend]
    have earlier := ih (fun x here => each x (List.mem_append_left _ here))
    exact List.rel_append earlier (.cons (each g (by simp) _) .nil)

theorem partsNumbered (gs : List (List EncodedRow)) :
    (partsOf gs).map BatchPayloadPart.partIndex = List.range (partsOf gs).length := by
  induction gs using List.reverseRecOn with
  | nil => rfl
  | append_singleton gs g ih =>
    have count : (partsOf gs).length = gs.length := by simp [partsOf]
    rw [partsAppend,List.map_append,ih,List.length_append,List.length_singleton,List.range_succ,count]
    rfl

theorem partsRequestIds (gs : List (List EncodedRow)) :
    (partsOf gs).flatMap (fun p => p.requestIds) = gs.flatten.map EncodedRow.requestId := by
  induction gs using List.reverseRecOn with
  | nil => rfl
  | append_singleton gs g ih =>
    rw [partsAppend,List.flatMap_append,ih,List.flatten_append,List.map_append]
    simp [drainedOf]

theorem stoppedBreaks {g h : List EncodedRow} (filled : g ≠ []) (stopped : Stopped (fitsPayload counter) g h) :
    ∃ e, h.head? = some e ∧ ((∀ f ∈ g, f.model = e.model) → Breaks counter g e) := by
  obtain ⟨e,first,apart⟩ := stopped
  refine ⟨e,first,fun kin => ?_⟩
  have same : sameModel g e = true := by
    cases g with
    | nil => exact absurd rfl filled
    | cons y ys => simpa [sameModel] using kin y List.mem_cons_self
  simpa [fitsPayload,same] using apart

theorem groupsPack {rows : List RequestRow} {es : List EncodedRow} (h : encodeRows i counter lookup 0 rows = .ok es)
    (small : ∀ e ∈ es, ¬Oversized counter e) :
    Packed counter rows (partsOf (groups (fitsPayload counter) es)) es := by
  obtain ⟨ids,sized⟩ := rowsEncode i counter lookup h
  have joined := GreedyGroups.groupsFlatten (fitsPayload counter) es
  have filled := GreedyGroups.groupsFilled (fitsPayload counter) es
  have within := groupsWithin counter small
  have each : ∀ g ∈ groups (fitsPayload counter) es, ∀ n, Holds counter ⟨drainedOf g,n⟩ g := by
    intro g here n
    refine partHolds counter n (filled g here) (within g here) (fun e member => sized e ?_)
    rw [← joined]
    exact List.mem_flatten_of_mem here member
  refine ⟨⟨_,joined,partsHold counter each,?_⟩,partsNumbered _,?_⟩
  · have stopped := GreedyGroups.groupsStopped (fitsPayload counter) es
    exact stopped.imp_of_mem_imp (fun g h here _ apart => stoppedBreaks counter (filled g here) apart)
  · rw [partsRequestIds,joined,ids]

/-- Assembly raises exactly for a row that exceeds a limit on its own, and packs the rows otherwise. -/
theorem payloadsPack (rows : List RequestRow) :
    ∃ es, encodeRows i counter lookup 0 rows = .ok es ∧
      match assemblePayloads i counter lookup rows with
      | .error _ => ∃ e ∈ es, Oversized counter e
      | .ok payloads => (∀ e ∈ es, ¬Oversized counter e) ∧ Packed counter rows payloads es := by
  obtain ⟨es,encoded⟩ := rowsEncoded i counter lookup 0 rows
  refine ⟨es,encoded,?_⟩
  have grouped := assembledGroups i counter lookup encoded
  split at grouped
  · rename_i big
    obtain ⟨x,raised⟩ := grouped
    rw [raised]
    exact big
  · rename_i small
    have each : ∀ e ∈ es, ¬Oversized counter e := fun e here big => small ⟨e,here,big⟩
    rw [grouped]
    exact ⟨each,groupsPack i counter lookup encoded each⟩

end
end PgLlmBatch
