import PgLlmBatch.PreparationChanges

/-! Preparation over whole runs: whatever the interleaving, a batch gets its files from one
call, its requests, lines and totals agree with them, and every later answer is the same. -/
namespace PgLlmBatch.Preparation
open Base
open Base.Pool (Caller)
open Base.RelyGuarantee (Safe)
open Base.JsonText (loads strictHooks)

abbrev World := Pool.State Statement Reply PyError (Option Prepared) Call Server Transaction

def noTransaction : Server := ⟨[],fun _ => none,fun _ => none⟩

def run (i : Interpreter) (es : List (Pool.Event Call Choice)) : Option World :=
  Runs.run (Pool.step engine (code i)) (Pool.start engine noTransaction) es

def lineCount (db : Tables) (f : BatchFile) (id : PyStr) : Nat :=
  (db.linesOf f.payloadFileId).countP (fun l => l.requestUuid = id)

def payloadLines (i : Interpreter) (db : Tables) (f : BatchFile) : List PyStr :=
  match db.payload? f.payloadFileId with
  | none => []
  | some row => match normalizePayloadContent i row.content with
    | .ok text => text.dropLast.splitOn newline
    | .error _ => []

def isLineOf (i : Interpreter) (id line : PyStr) : Bool :=
  match loads i strictHooks line with
  | .ok (.obj members) => match Json.get members (py "custom_id") with
    | .str s => s = id
    | _ => false
  | _ => false

def payloadCount (i : Interpreter) (db : Tables) (f : BatchFile) (id : PyStr) : Nat :=
  (payloadLines i db f).countP (isLineOf i id)

def through (tx seq : Nat) : List Commit → List Commit
  | [] => []
  | e::es => if e.tx = tx ∧ e.seq = seq then [e] else e::through tx seq es

def filesWhenReturned (w : World) (tx seq b : Nat) : List BatchFile :=
  (tablesAfter (through tx seq w.shared.history)).filesOf b

structure FirstWriteWins (i : Interpreter) (w : World) (b : Nat) : Prop where
  oneCreator : ∀ (m n : Nat) (c d : Commit), w.shared.history[m]? = some c → w.shared.history[n]? = some d →
    newFilesOf c.writes b ≠ [] → newFilesOf d.writes b ≠ [] → m = n
  oneFile : ∀ r ∈ w.shared.tables.requests, r.batchUuid = b → r.batchFileUuid = none ∨
    ∃ f ∈ w.shared.tables.filesOf b, r.batchFileUuid = some f.fileUuid ∧
      ∀ g ∈ w.shared.tables.filesOf b, r.batchFileUuid = some g.fileUuid → g = f
  inLines : ∀ r ∈ w.shared.tables.requests, r.batchUuid = b → ∀ f ∈ w.shared.tables.filesOf b,
    (r.batchFileUuid = some f.fileUuid ↔ lineCount w.shared.tables f r.key = 1) ∧
      (r.batchFileUuid = some f.fileUuid ↔ payloadCount i w.shared.tables f r.key = 1)
  parts : (w.shared.tables.filesOf b).map BatchFile.partIndex = List.range (w.shared.tables.filesOf b).length
  totals : w.shared.tables.filesOf b ≠ [] → ∃ row, w.shared.tables.batch? b = some row ∧
    row.totalRequests = ((w.shared.tables.filesOf b).map BatchFile.requestCount).sum ∧
    row.totalTokens = ((w.shared.tables.filesOf b).map BatchFile.totalTokens).sum
  raised : ∀ t seq p e, (w.session t).outcomes[seq]? = some (.prepare p,.error e) →
    ∀ d ∈ w.shared.history, ¬(d.tx = t ∧ d.seq = seq)
  sameAnswer : ∀ t seq p r u seq' q s,
    (w.session t).outcomes[seq]? = some (.prepare p,.ok r) → p.batch.value = b →
    (w.session u).outcomes[seq']? = some (.prepare q,.ok s) → q.batch.value = b →
    filesWhenReturned w t seq b ≠ [] → filesWhenReturned w u seq' b ≠ [] →
    p.counter.azureMaxFilesPerJob = q.counter.azureMaxFilesPerJob → r = s

section
variable {i : Interpreter}

theorem prepareOnRecord (p : PrepareCall) {tx seq : Nat} {sv : Server} (begun : NoEntry ⟨tx,seq,Call.prepare p⟩ sv) :
    Safe engine (contract i) ⟨tx,seq,Call.prepare p⟩
      (fun r sv tx' => tx' = ⟨[]⟩ ∧ Record ⟨tx,seq,Call.prepare p⟩ r sv) (code i (.prepare p)) sv ⟨[]⟩ := by
  refine RelyGuarantee.safeBind (RelyGuarantee.safeMono (prepareSafe p begun rfl) ?_)
  rintro (e | answer) sv' tx' ⟨ended,post⟩
  · exact ⟨ended,post⟩
  · exact ⟨ended,answer,rfl,post⟩

def Uncommitted (c : Caller Call) (r : Except PyError (Option Prepared)) (sv : Server) (tx : Transaction) : Prop :=
  match r with
  | .ok _ => tx = ⟨[]⟩
  | .error _ => NoEntry c sv

theorem changeOnRecord (changes : List Change) {tx seq : Nat} {sv : Server}
    (begun : NoEntry ⟨tx,seq,Call.change changes⟩ sv) :
    Safe engine (contract i) ⟨tx,seq,Call.change changes⟩
      (fun r sv tx' => tx' = ⟨[]⟩ ∧ Record ⟨tx,seq,Call.change changes⟩ r sv) (code i (.change changes)) sv ⟨[]⟩ := by
  have inside : Safe engine (contract i) ⟨tx,seq,Call.change changes⟩ (Uncommitted ⟨tx,seq,Call.change changes⟩)
      (do
        performAll changes
        query .commit
        return none) sv ⟨[]⟩ := by
    refine RelyGuarantee.safeBind (RelyGuarantee.safeMono
      (performAllSafe changes ⟨fun _ member => absurd member List.not_mem_nil,begun⟩) ?_)
    rintro (e | u) sv' tx' post
    · exact post
    refine RelyGuarantee.safeBind (safeCommit (fun out e later => noEntryLater later post.begun) ?_ ?_)
    · intro far later inv
      exact harmlessCommittable inv (changingLater later post).harmless
    · exact fun _ _ => rfl
  refine safeTransaction (RelyGuarantee.safeMono inside ?_)
  rintro (e | answer) sv' tx' post
  · intro out later
    have gone := noEntryLater later post
    exact ⟨rfl,gone⟩
  · exact ⟨post,trivial⟩

theorem callsSound (i : Interpreter) : RelyGuarantee.Sound engine (contract i) (code i) Record
    (fun tx seq sv => ∀ e ∈ sv.history, ¬(e.tx = tx ∧ e.seq = seq)) where
  calls c sv _ begun := by
    obtain ⟨tx,seq,call⟩ := c
    cases call with
    | prepare p => exact prepareOnRecord p begun
    | change changes => exact changeOnRecord changes begun
  still := respectsRefl
  committed t seq sv inv := ⟨releaseInv inv t,releaseRespects t seq sv⟩
  rolledBack t seq sv _ inv := ⟨releaseInv inv t,releaseRespects t seq sv⟩
  recorded c r t seq sv out kept made other := by
    obtain ⟨extra,grown,own⟩ := made.history
    have foreign : ∀ e ∈ extra, ¬(e.tx = c.tx ∧ e.seq = c.seq) := by
      rintro e member ⟨tx,seq_⟩
      exact other ⟨(own e member).1.symm.trans tx,(own e member).2.symm.trans seq_⟩
    cases r with
    | error e =>
      intro d member
      rw [grown,List.mem_append] at member
      rcases member with old | new
      · exact kept d old
      · exact foreign d new
    | ok answer =>
      obtain ⟨tx,k,call⟩ := c
      cases call with
      | change changes => trivial
      | prepare p =>
        obtain ⟨prepared,same,before,ws,after,history,first,value⟩ := kept
        exact ⟨prepared,same,before,ws,after ++ extra,by rw [grown,history]; simp,first,value⟩
  unusedKept t seq u seq' sv out free made other := by
    obtain ⟨extra,grown,own⟩ := made.history
    rintro e member ⟨tx,seq_⟩
    rw [grown,List.mem_append] at member
    rcases member with old | new
    · exact free e old ⟨tx,seq_⟩
    · exact other ⟨(own e new).1.symm.trans tx,(own e new).2.symm.trans seq_⟩

theorem emptyInv (i : Interpreter) : StoreInv i noTransaction where
  keys := List.nodup_nil
  stored _ member := absurd member List.not_mem_nil
  distinct := List.nodup_nil
  assigned _ member := absurd member List.not_mem_nil
  parts _ := rfl
  totals _ some_ := absurd rfl some_
  issued u named := by
    rcases named with ⟨f,member,-⟩ | ⟨l,member,-⟩ | ⟨r,member,-⟩ <;> cases member
  created n c listed := by cases listed

theorem reachableGood {es : List (Pool.Event Call Choice)} {w : World} (ran : run i es = some w) :
    RelyGuarantee.Good engine (contract i) Record (fun tx seq sv => ∀ e ∈ sv.history, ¬(e.tx = tx ∧ e.seq = seq)) w :=
  RelyGuarantee.reachableGood (callsSound i) (emptyInv i) (fun _ _ _ member => absurd member List.not_mem_nil) ran

theorem countOf {α : Type} [BEq α] [LawfulBEq α] {l : List α} (distinct : l.Nodup) (a : α) : a ∈ l ↔ l.count a = 1 := by
  rw [List.nodup_iff_count_le_one] at distinct
  have bound := distinct a
  rw [← List.count_pos_iff]
  omega

theorem lineCountIds {db : Tables} {f : BatchFile} {part : BatchPayloadPart} (h : Stores i db f part) (id : PyStr) :
    lineCount db f id = part.requestIds.count id := by
  have ids := lineRowsIds f.payloadFileId h.wellFormed.each.length_eq
  have counted := congrArg (List.count id) ids
  rw [List.count_eq_countP,List.countP_map] at counted
  unfold lineCount
  rw [h.lines,← counted]
  exact List.countP_congr (fun l _ => by simp)

theorem isLineOfOwn {id other line : PyStr} (h : LineOf i id line) : isLineOf i other line = (id == other) := by
  obtain ⟨members,parsed,named⟩ := h.entry
  unfold isLineOf
  rw [parsed]
  simp only [named]
  exact Bool.eq_iff_iff.mpr (by simp)

theorem linesCount {ids lines : List PyStr} (each : List.Forall₂ (LineOf i) ids lines) (id : PyStr) :
    lines.countP (isLineOf i id) = ids.count id := by
  induction each with
  | nil => rfl
  | cons first _ ih => rw [List.countP_cons,List.count_cons,ih,isLineOfOwn first]

theorem canonicalLines {part : BatchPayloadPart} (h : PartOk i part) :
    ∀ l ∈ part.lines, newline ∉ l ∧ l ≠ [] ∧ isCanonicalJsonObjectLine i l = true := by
  intro l member
  obtain ⟨k,-,line⟩ := partnerOf (h.each.flip) member
  obtain ⟨members,parsed,-⟩ := line.entry
  have canonical : isCanonicalJsonObjectLine i l = true := by
    unfold isCanonicalJsonObjectLine
    rw [parsed]
  exact ⟨line.unbroken,lineFilled i canonical,canonical⟩

theorem payloadCountIds {db : Tables} {f : BatchFile} {part : BatchPayloadPart} (h : Stores i db f part) (id : PyStr) :
    payloadCount i db f id = part.requestIds.count id := by
  have own := canonicalLines h.wellFormed
  rw [← linesCount h.wellFormed.each id]
  unfold payloadCount payloadLines
  rw [h.payload]
  simp only [contentAccepted i own]
  by_cases none_ : part.lines = []
  · rw [none_]
    rfl
  · rw [contentSplits none_ (fun l here => (own l here).1)]

theorem throughFirst {before after : List Commit} {e : Commit} (first : ∀ d ∈ before, ¬(d.tx = e.tx ∧ d.seq = e.seq)) :
    through e.tx e.seq (before ++ e::after) = before ++ [e] := by
  induction before with
  | nil => simp [through]
  | cons d ds ih =>
    have other := first d List.mem_cons_self
    rw [List.cons_append,through,if_neg other,ih (fun x here => first x (List.mem_cons_of_mem _ here))]
    rfl

theorem filesAfter (h : List Commit) (b : Nat) :
    (tablesAfter h).filesOf b = h.flatMap (fun c => newFilesOf c.writes b) := by
  induction h using List.reverseRecOn with
  | nil => rfl
  | append_singleton h c ih =>
    rw [tablesAfterAppend,filesOfWriteAll,ih,List.flatMap_append,List.flatMap_singleton]

theorem filesKept {sv : Server} (inv : StoreInv i sv) (b : Nat) {before after : List Commit}
    (history : sv.history = before ++ after) (some_ : (tablesAfter before).filesOf b ≠ []) :
    sv.tables.filesOf b = (tablesAfter before).filesOf b := by
  have quiet : ∀ c ∈ after, newFilesOf c.writes b = [] := by
    intro c member
    by_contra made
    obtain ⟨n,bound,rfl⟩ := List.getElem_of_mem member
    have place : sv.history[before.length + n]? = some after[n] := by
      rw [history,List.getElem?_append_right (Nat.le_add_right _ _),Nat.add_sub_cancel_left]
      exact List.getElem?_eq_getElem bound
    have empty := inv.created _ _ place b made
    rw [history,List.take_length_add_append,filesAfter,List.flatMap_append,List.append_eq_nil_iff] at empty
    exact some_ ((filesAfter before b).trans empty.1)
  rw [Server.tables,history,filesAfter,filesAfter,List.flatMap_append,List.flatMap_eq_nil_iff.mpr quiet,List.append_nil]

theorem creatorLast {sv : Server} (inv : StoreInv i sv) {b m n : Nat} {c d : Commit}
    (first : sv.history[m]? = some c) (second : sv.history[n]? = some d) (made : newFilesOf c.writes b ≠ [])
    (again : newFilesOf d.writes b ≠ []) : n ≤ m := by
  by_contra earlier
  have empty := inv.created n d second b again
  rw [filesAfter,List.flatMap_eq_nil_iff] at empty
  have inside : c ∈ sv.history.take n := by
    have taken : (sv.history.take n)[m]? = some c := by
      rw [List.getElem?_take_of_lt (not_le.mp earlier)]
      exact first
    exact List.mem_of_getElem? taken
  exact made (empty c inside)

theorem answerKept {w : World} {es : List (Pool.Event Call Choice)} (ran : run i es = some w) {t seq b : Nat}
    {p : PrepareCall} {r : Option Prepared} (listed : (w.session t).outcomes[seq]? = some (.prepare p,.ok r))
    (batch : p.batch.value = b) (some_ : filesWhenReturned w t seq b ≠ []) :
    r = some (categorizeExistingPayloads (w.shared.tables.filesOf b) p.counter.azureMaxFilesPerJob) := by
  have good := reachableGood ran
  obtain ⟨answer,rfl,before,ws,after,history,first,value⟩ := (good.sessions t).recorded seq _ _ listed
  have upTo : through t seq w.shared.history = before ++ [⟨t,seq,ws⟩] := by
    rw [history]
    exact throughFirst (e := ⟨t,seq,ws⟩) first
  rw [filesWhenReturned,upTo] at some_
  rw [batch] at value
  have grown : w.shared.history = (before ++ [⟨t,seq,ws⟩]) ++ after := by
    rw [history,List.append_assoc]
    rfl
  rw [filesKept good.shared b grown some_,value]

/-- Preparation is atomic and the first write wins, in every state of every interleaving. -/
theorem preparationFirstWriteWins {es : List (Pool.Event Call Choice)} {w : World} (ran : run i es = some w)
    (b : Nat) : FirstWriteWins i w b := by
  have good := reachableGood ran
  have inv := good.shared
  refine ⟨?_,?_,?_,inv.parts b,inv.totals b,?_,?_⟩
  · intro m n c d first second made again
    exact Nat.le_antisymm (creatorLast inv second first again made) (creatorLast inv first second made again)
  · intro r member batch
    cases assigned : r.batchFileUuid with
    | none => exact Or.inl rfl
    | some u =>
      obtain ⟨f,listed,uuid,owner⟩ := inv.assigned r member u assigned
      refine Or.inr ⟨f,List.mem_filter.mpr ⟨listed,decide_eq_true (owner.trans batch)⟩,by rw [uuid],?_⟩
      intro g other same
      have twin : g.fileUuid = f.fileUuid := (Option.some.inj same).symm.trans uuid.symm
      exact List.inj_on_of_nodup_map inv.distinct (List.mem_of_mem_filter other) listed twin
  · intro r member batch f listed
    obtain ⟨part,stores⟩ := inv.stored f (List.mem_of_mem_filter listed)
    have found : w.shared.tables.request? r.key = some r := Table.findMine inv.keys member
    have assigned : r.batchFileUuid = some f.fileUuid ↔ r.key ∈ part.requestIds := by
      rw [stores.assigned]
      constructor
      · exact fun same => ⟨r,found,same⟩
      · rintro ⟨own,here,same⟩
        rw [found] at here
        cases Option.some.inj here
        exact same
    rw [lineCountIds stores,payloadCountIds stores,assigned]
    exact ⟨countOf stores.distinct _,countOf stores.distinct _⟩
  · intro t seq p e listed
    exact (good.sessions t).recorded seq _ _ listed
  · intro t seq p r u seq' q s first batch second batch' some_ some' same
    rw [answerKept ran first batch some_,answerKept ran second batch' some',same]

end

def smallInterpreter : Interpreter := ⟨16,none,Nat.le_refl 16⟩

def exampleRequest : RequestRow :=
  ⟨.of (py "r-1") (by decide),.of [] rfl,.of (py "hi") (by decide),.of (py "m") (by decide)⟩

def exampleCall : PrepareCall where
  batch := ⟨py "b-7",7⟩
  effectiveTokenLimit := .null
  counter := ⟨fun _ _ => 1,10,5,1000,1,by decide⟩
  lookup _ _ := none

def exampleChoice (rows : List Request) (uuid : String) : Choice := ⟨none,py uuid,rows,fun _ => true⟩

def exampleRun : List (Pool.Event Call Choice) :=
  let plain := exampleChoice [] ""
  let queued := exampleChoice [⟨exampleRequest,7,0,.queued,none⟩] ""
  [.invoke 0 (.change [.insertBatch ⟨7,1,0,0⟩,.insertRequest exampleRequest 7 0])] ++
    [plain,plain,plain].map (.advance 0) ++ [.invoke 1 (.prepare exampleCall)] ++
    [queued,plain,plain,plain,exampleChoice [] "u1",plain,exampleChoice [] "u2",plain,plain,plain,plain].map (.advance 1) ++
    [.invoke 2 (.prepare exampleCall)] ++ [plain,plain,plain,plain,plain,plain].map (.advance 2)

def answersOf (w : World) (tx : Nat) : List (Option (Option Prepared)) :=
  (w.session tx).outcomes.map (fun o => match o.2 with
    | .ok r => some r
    | .error _ => none)

theorem preparedTwice : ∃ w, run smallInterpreter exampleRun = some w ∧ (w.shared.tables.filesOf 7).length = 1 ∧
    answersOf w 1 = answersOf w 2 ∧ FirstWriteWins smallInterpreter w 7 := by
  have ended : (run smallInterpreter exampleRun).map (fun w => ((w.shared.tables.filesOf 7).length,
      decide (answersOf w 1 = answersOf w 2))) = some (1,true) := by decide +kernel
  obtain ⟨w,ran,results⟩ := Option.map_eq_some_iff.mp ended
  have same := congrArg Prod.snd results
  exact ⟨w,ran,congrArg Prod.fst results,of_decide_eq_true same,preparationFirstWriteWins ran 7⟩

end PgLlmBatch.Preparation
