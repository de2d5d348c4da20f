import PgLlmBatch.BatchPacking
import PgLlmBatch.PreparationPlan
import PgLlmBatch.PreparationSteps

/-! A preparation, statement by statement: it commits the plan of its own payloads, or returns
what another one committed, or leaves nothing. -/
namespace PgLlmBatch.Preparation
open Base
open Base.Pool (Caller)
open Base.RelyGuarantee (Safe)

def NoEntry (c : Caller Call) (sv : Server) : Prop := ∀ e ∈ sv.history, ¬(e.tx = c.tx ∧ e.seq = c.seq)

section
variable {i : Interpreter} {c : Caller Call} {b : Nat} {sv out : Server} {tx : Transaction} {ps : List PlannedFile}

theorem noEntryLater (later : Later c.tx sv out) (h : NoEntry c sv) : NoEntry c out := by
  obtain ⟨extra,grown,foreign⟩ := later.history
  intro e member same
  rw [grown,List.mem_append] at member
  rcases member with old | new
  · exact h e old same
  · exact foreign e new same.1

theorem rowsEncodeEach {counter : TokenCounter} {lookup : Nat → PyStr → Option ModelMetadata}
    {rows : List RequestRow} {n : Nat} {es : List EncodedRow} (h : encodeRows i counter lookup n rows = .ok es) :
    ∀ e ∈ es, ∃ metadata r, Encoded i counter metadata r e := by
  induction rows generalizing n es with
  | nil =>
    cases Except.ok.inj h
    simp
  | cons r rs ih =>
    obtain ⟨e,first,rest⟩ := Fallible.bindOk.mp h
    obtain ⟨later,others,made⟩ := Fallible.bindOk.mp rest
    cases Except.ok.inj made
    exact List.forall_mem_cons.mpr ⟨⟨_,r,encodedParts i counter first⟩,ih others⟩

theorem encodedLine {counter : TokenCounter} {metadata : Option ModelMetadata} {r : RequestRow} {e : EncodedRow}
    (h : Encoded i counter metadata r e) : LineOf i e.requestId e.line := by
  obtain ⟨members,entry,named⟩ := entryObject r.requestUuid.text r.modelName.text (modeOf metadata)
    (systemForTokens (modeOf metadata) r) r.userPrompt.text
  refine ⟨lineUnbroken i h.line,members,?_,?_⟩
  · rw [lineParses i h.line,rowEntry,entry]
  · rw [named,h.requestId]

theorem assembledPacked {counter : TokenCounter} {lookup : Nat → PyStr → Option ModelMetadata}
    {rows : List RequestRow} {payloads : List BatchPayloadPart}
    (h : assemblePayloads i counter lookup rows = .ok payloads) :
    ∃ es, encodeRows i counter lookup 0 rows = .ok es ∧ Packed counter rows payloads es := by
  obtain ⟨es,encoded⟩ := rowsEncoded i counter lookup 0 rows
  have grouped := assembledGroups i counter lookup encoded
  split at grouped
  · obtain ⟨x,raised⟩ := grouped
    rw [h] at raised
    cases raised
  · rename_i small
    rw [h] at grouped
    cases Except.ok.inj grouped
    exact ⟨es,encoded,groupsPack i counter lookup encoded (fun e here big => small ⟨e,here,big⟩)⟩

theorem partnerOf {α β : Type} {R : α → β → Prop} {l : List α} {m : List β} (h : List.Forall₂ R l m) {a : α}
    (here : a ∈ l) : ∃ b ∈ m, R a b := by
  induction h with
  | nil => cases here
  | cons first _ ih =>
    rcases List.mem_cons.mp here with rfl | later
    · exact ⟨_,List.mem_cons_self,first⟩
    · obtain ⟨b,member,related⟩ := ih later
      exact ⟨b,List.mem_cons_of_mem _ member,related⟩

theorem assembledParts {counter : TokenCounter} {lookup : Nat → PyStr → Option ModelMetadata}
    {rows : List RequestRow} {payloads : List BatchPayloadPart}
    (h : assemblePayloads i counter lookup rows = .ok payloads) :
    (∀ part ∈ payloads, PartOk i part) ∧ payloads.map BatchPayloadPart.partIndex = List.range payloads.length := by
  obtain ⟨es,encoded,packed⟩ := assembledPacked h
  refine ⟨fun part member => ?_,packed.numbered⟩
  obtain ⟨gs,joined,holds,-⟩ := packed.packs
  obtain ⟨g,here,held⟩ := partnerOf holds member
  refine ⟨held.recordCount,?_⟩
  rw [held.requestIds,held.lines]
  refine List.forall₂_map_left_iff.mpr (List.forall₂_map_right_iff.mpr (List.forall₂_same.mpr ?_))
  intro e inside
  have listed : e ∈ es := by
    rw [← joined]
    exact List.mem_flatten_of_mem here inside
  obtain ⟨metadata,r,own⟩ := rowsEncodeEach encoded e listed
  exact encodedLine own

structure Underway (i : Interpreter) (c : Caller Call) (b : Nat) (sv : Server) (ps : List PlannedFile) : Prop where
  held : sv.holder (.batch b) = some c.tx
  row : ∃ row, sv.tables.batch? b = some row
  empty : sv.tables.filesOf b = []
  begun : NoEntry c sv
  plan : PlanOk i c.tx b sv ps

theorem underwayLater (later : Later c.tx sv out) (h : Underway i c b sv ps) : Underway i c b out ps := by
  obtain ⟨held,files,same⟩ := later.locks _ h.held
  obtain ⟨row,found⟩ := h.row
  exact ⟨held,⟨row,same.trans found⟩,files.trans h.empty,noEntryLater later h.begun,planLater later h.plan⟩

theorem ownIssued {u : PyStr} {mid : Server} (inv : StoreInv i mid) (fresh : mid.issued u = none) (t : Nat) :
    OwnUuid t (mid.issue t u) u := by
  refine ⟨Function.update_self _ _ _,fun named => ?_⟩
  exact inv.issued u named fresh

theorem newUuid {mid : Server} {t : Nat} {f : PlannedFile → PyStr} {u : PyStr}
    (own : ∀ p ∈ ps, OwnUuid t mid (f p)) (fresh : mid.issued u = none) : u ∉ ps.map f := by
  intro listed
  obtain ⟨p,member,rfl⟩ := List.mem_map.mp listed
  have known := (own p member).1
  rw [fresh] at known
  cases known

theorem lineRowsNone {fileId : PyStr} {part : BatchPayloadPart} (ok : PartOk i part)
    (none_ : lineRows fileId part.requestIds part.lines = []) : part.requestIds = [] := by
  have same := ok.each.length_eq
  have empty : ((part.requestIds.zip part.lines).zipIdx 1).length = 0 := by
    have mapped := congrArg List.length none_
    simpa [lineRows] using mapped
  simp only [List.length_zipIdx,List.length_zip,same,Nat.min_self] at empty
  exact List.length_eq_zero_iff.mp (same.trans empty)

theorem acceptedAll {old new : List JsonlLine} (apart : ∀ l ∈ new, ∀ m ∈ old, lineConflicts l m = false)
    (distinct : new.Pairwise (fun l m => lineConflicts m l = false)) : acceptedLines old new = new := by
  induction new generalizing old with
  | nil => rfl
  | cons l ls ih =>
    have free : old.any (lineConflicts l) = false := by
      simpa using apart l List.mem_cons_self
    rw [List.pairwise_cons] at distinct
    simp only [acceptedLines,free,Bool.false_eq_true,if_false]
    rw [ih (fun m member k here => ?_) distinct.2]
    rcases List.mem_append.mp here with before | first
    · exact apart m (List.mem_cons_of_mem _ member) k before
    · rw [List.mem_singleton.mp first]
      exact distinct.1 m member

theorem lineRowsIds (fileId : PyStr) {requestIds lines : List PyStr} (same : requestIds.length = lines.length) :
    (lineRows fileId requestIds lines).map JsonlLine.requestUuid = requestIds := by
  have firsts := @List.map_fst_zip _ _ requestIds lines (Nat.le_of_eq same)
  have pairs := List.zipIdx_map_fst 1 (requestIds.zip lines)
  calc (lineRows fileId requestIds lines).map JsonlLine.requestUuid
      = (((requestIds.zip lines).zipIdx 1).map Prod.fst).map Prod.fst := by
        simp only [lineRows,List.map_map]
        rfl
    _ = requestIds := by rw [pairs,firsts]

theorem lineRowsDistinct {fileId : PyStr} {requestIds lines : List PyStr} (same : requestIds.length = lines.length)
    (distinct : requestIds.Nodup) :
    (lineRows fileId requestIds lines).Pairwise (fun l m => lineConflicts m l = false) := by
  have ids : (lineRows fileId requestIds lines).Pairwise (fun l m => l.requestUuid ≠ m.requestUuid) := by
    rw [← lineRowsIds fileId same] at distinct
    exact List.pairwise_map.mp distinct
  have numbers : (lineRows fileId requestIds lines).Pairwise (fun l m => l.sequenceNo ≠ m.sequenceNo) := by
    have range : (((requestIds.zip lines).zipIdx 1).map Prod.snd).Nodup := by
      rw [List.zipIdx_map_snd]
      exact List.nodup_range'
    exact List.pairwise_map.mpr (List.pairwise_map.mp range)
  refine (numbers.and ids).imp ?_
  rintro l m ⟨number,id⟩
  simp [lineConflicts,number.symm,id.symm]

structure Opened (i : Interpreter) (c : Caller Call) (b : Nat) (sv : Server) (ps : List PlannedFile) (hex : PyStr)
    (f : BatchFile) (part : BatchPayloadPart) : Prop where
  under : Underway i c b sv ps
  batch : f.batchUuid = b
  fileId : f.payloadFileId = newPayloadFileId hex
  requestCount : f.requestCount = part.recordCount
  index : f.partIndex = ps.length
  wellFormed : PartOk i part
  ownHex : OwnUuid c.tx sv hex
  ownUuid : OwnUuid c.tx sv f.fileUuid
  newHex : hex ∉ ps.map PlannedFile.hex
  newUuid : f.fileUuid ∉ ps.map (fun p => p.file.fileUuid)

section
variable {hex : PyStr} {f : BatchFile} {part : BatchPayloadPart}

theorem ownLater (later : Later c.tx sv out) {u : PyStr} (h : OwnUuid c.tx sv u) : OwnUuid c.tx out u :=
  ⟨later.issued _ h.1,later.unnamed _ h.1 h.2⟩

theorem openedLater (later : Later c.tx sv out) (h : Opened i c b sv ps hex f part) :
    Opened i c b out ps hex f part :=
  {h with
    under := underwayLater later h.under
    ownHex := ownLater later h.ownHex
    ownUuid := ownLater later h.ownUuid}

theorem openedAssigned (h : Opened i c b sv ps hex f part) {rows : List Request}
    (ids : (rows.map Request.key).Perm part.requestIds) (distinct : (rows.map Request.key).Nodup)
    (apart : ∀ r ∈ rows, r.key ∉ ps.flatMap (fun p => p.rows.map Request.key))
    (locked : ∀ r ∈ rows, sv.holder (.request r.key) = some c.tx ∧ sv.tables.request? r.key = some r ∧
      r.batchUuid = b ∧ r.batchFileUuid = none) : Underway i c b sv (ps ++ [⟨hex,f,part,rows⟩]) := by
  have planned : PartPlanned i c.tx b sv ⟨hex,f,part,rows⟩ :=
    ⟨h.batch,h.fileId,h.requestCount,h.ownHex,h.ownUuid,h.wellFormed,ids,locked⟩
  exact {h.under with plan := planExtend h.under.plan planned h.index h.newHex h.newUuid distinct apart}

theorem unassignedCommitted (keys : (sv.tables.requests.map Request.key).Nodup) {extra : List Write}
    (none_ : newRequests extra = []) (writes : tx.writes = planWrites ps ++ extra) {r : Request}
    (here : r ∈ (view sv tx).requests) (unassigned : r.batchFileUuid = none) :
    sv.tables.request? r.key = some r ∧ r.key ∉ ps.flatMap (fun p => p.rows.map Request.key) := by
  have written : newRequests tx.writes = ps.flatMap (fun p => p.rows.map (Request.assign p.file.fileUuid)) := by
    rw [writes,← planRequests]
    exact (List.filterMap_append).trans (by rw [show extra.filterMap Write.request? = [] from none_,List.append_nil]; rfl)
  have distinct : (((view sv tx).requests).map Request.key).Nodup := by
    rw [view,writeAllRequests]
    exact Table.putAllDistinct _ keys
  have found := Table.findMine distinct here
  rw [view,writeAllRequests] at found
  rcases @Table.findPutAllCases _ _ _ Request.key (newRequests tx.writes) sv.tables.requests r.key with
    ⟨new,member,-,first⟩ | ⟨away,old⟩
  · rw [first] at found
    cases Option.some.inj found
    rw [written] at member
    obtain ⟨p,-,assigned⟩ := List.mem_flatMap.mp member
    obtain ⟨q,-,rfl⟩ := List.mem_map.mp assigned
    cases unassigned
  · refine ⟨old.symm.trans found,fun planned => ?_⟩
    obtain ⟨p,listed,inside⟩ := List.mem_flatMap.mp planned
    obtain ⟨q,row,same⟩ := List.mem_map.mp inside
    refine away (Request.assign p.file.fileUuid q) ?_ same
    rw [written]
    exact List.mem_flatMap.mpr ⟨p,listed,List.mem_map_of_mem row⟩

theorem linesAccepted (h : Opened i c b sv ps hex f part)
    (writes : tx.writes = planWrites ps ++ [.payload ⟨f.payloadFileId,payloadDocument part.lines⟩,.file f])
    (distinct : part.requestIds.Nodup) :
    acceptedLines (view sv tx).lines (lineRows f.payloadFileId part.requestIds part.lines) =
      lineRows f.payloadFileId part.requestIds part.lines := by
  refine acceptedAll (fun l member m old => ?_) (lineRowsDistinct h.wellFormed.each.length_eq distinct)
  have mine := lineRowsOwn _ _ _ l member
  have other : m.payloadFileId ≠ f.payloadFileId := by
    intro same
    rw [view,writeAllLines,List.mem_append] at old
    rcases old with committed | written
    · exact h.ownHex.2 (Or.inr (Or.inl ⟨m,committed,same.trans h.fileId⟩))
    · rw [writes,newLines,List.filterMap_append,List.mem_append] at written
      rcases written with before | none_
      · have inPlan : m ∈ newLines (planWrites ps) := before
        rw [planLines] at inPlan
        obtain ⟨p,listed,inside⟩ := List.mem_flatMap.mp inPlan
        have own := lineRowsOwn _ _ _ m inside
        have hexes := fileIdInjective (((h.under.plan.each p listed).fileId.symm.trans
          (own.symm.trans same)).trans h.fileId)
        exact h.newHex (hexes ▸ List.mem_map_of_mem listed)
      · simp [Write.line?] at none_
  have apart : ¬l.payloadFileId = m.payloadFileId := fun same => other (same.symm.trans mine)
  simp [lineConflicts,apart]

theorem assignableRows (keys : (sv.tables.requests.map Request.key).Nodup) (choice : Choice) (ids : List PyStr) :
    ((assignable choice sv tx b ids).map Request.key).Nodup ∧ ∀ r ∈ assignable choice sv tx b ids,
      r ∈ (view sv tx).requests ∧ r.batchUuid = b ∧ r.batchFileUuid = none ∧ r.key ∈ ids := by
  constructor
  · have distinct : (((view sv tx).requests).map Request.key).Nodup := by
      rw [view,writeAllRequests]
      exact Table.putAllDistinct _ keys
    exact distinct.sublist (List.Sublist.map _ List.filter_sublist)
  · intro r member
    simp only [assignable,queuedUnassigned,List.mem_filter,Bool.and_eq_true,decide_eq_true_eq] at member
    exact ⟨member.1,member.2.1.1.1.1,member.2.1.1.2,member.2.1.2⟩

theorem assignLinesSafe (h : Opened i c b sv ps hex f part)
    (writes : tx.writes = planWrites ps ++ [.payload ⟨f.payloadFileId,payloadDocument part.lines⟩,.file f]) :
    Safe engine (contract i) c (fun r sv tx => match r with
      | .ok _ => ∃ rows, Underway i c b sv (ps ++ [⟨hex,f,part,rows⟩]) ∧
          tx.writes = planWrites (ps ++ [⟨hex,f,part,rows⟩])
      | .error _ => NoEntry c sv) (assignLines b f.payloadFileId f.fileUuid part) sv tx := by
  have planned : ∀ rows, planWrites (ps ++ [⟨hex,f,part,rows⟩]) = planWrites ps ++
      ([.payload ⟨f.payloadFileId,payloadDocument part.lines⟩,.file f] ++
        (lineRows f.payloadFileId part.requestIds part.lines).map Write.line ++
        rows.map (fun r => Write.request (Request.assign f.fileUuid r))) := by
    intro rows
    simp only [planWrites,List.flatMap_append,List.flatMap_singleton]
    rfl
  unfold assignLines
  cases none_ : (lineRows f.payloadFileId part.requestIds part.lines).isEmpty with
  | true =>
    have noLines := List.isEmpty_iff.mp none_
    have noIds := lineRowsNone h.wellFormed noLines
    simp only [none_,if_true]
    refine ⟨[],openedAssigned h (by simp [noIds]) List.nodup_nil (by simp) (by simp),?_⟩
    rw [writes,planned,noLines]
    rfl
  | false =>
    simp only [none_,Bool.false_eq_true,if_false]
    refine safeThen rfl (fun out e later => noEntryLater later h.under.begun) ?_
    intro mid choice r out tx' later inv quiet inserted
    simp only [perform] at inserted
    split at inserted
    · cases inserted
    cases inserted
    have opened := openedLater later h
    have accepted := linesAccepted opened writes
    generalize acceptedLines (view mid tx).lines (lineRows f.payloadFileId part.requestIds part.lines) = lines at accepted
    clear later quiet inv choice
    refine safeThen rfl (fun out e later => noEntryLater later opened.under.begun) ?_
    intro far choice count out tx' later inv quiet assigned
    simp only [perform] at assigned
    obtain ⟨taken,locked,ended⟩ := lockingDone assigned
    cases ended
    have reopened := openedLater later opened
    have final := openedLater (quietLater quiet c.tx) reopened
    split
    · exact final.under.begun
    · rename_i counted
      obtain ⟨distinct,listed⟩ := @assignableRows b far (tx.add (lines.map Write.line)) inv.keys choice
        part.requestIds
      generalize assignable choice far (tx.add (lines.map Write.line)) b part.requestIds = rows at *
      have all : (rows.map Request.key).Perm part.requestIds := by
        refine (List.subperm_of_subset distinct (fun k member => ?_)).perm_of_length_le ?_
        · obtain ⟨r,row,rfl⟩ := List.mem_map.mp member
          exact (listed r row).2.2.2
        · rw [List.length_map]
          exact Nat.le_of_eq (not_not.mp counted).symm
      have linesOnly : newRequests ([.payload ⟨f.payloadFileId,payloadDocument part.lines⟩,.file f] ++
          lines.map Write.line) = [] := by
        rw [newRequests,List.filterMap_append,mapNone Write.request? Write.line (fun _ => rfl)]
        rfl
      have found : ∀ r ∈ rows, far.tables.request? r.key = some r ∧
          r.key ∉ ps.flatMap (fun p => p.rows.map Request.key) := fun r row =>
        unassignedCommitted inv.keys linesOnly (by rw [Transaction.add,writes,List.append_assoc]) (listed r row).1
          (listed r row).2.2.1
      refine ⟨rows,openedAssigned final all distinct (fun r row => (found r row).2) (fun r row => ?_),?_⟩
      · refine ⟨locked _ (List.mem_map_of_mem row),?_,(listed r row).2.1,(listed r row).2.2.1⟩
        exact (found r row).1
      · rw [planned,← accepted (all.nodup_iff.mp distinct)]
        simp only [Transaction.add,writes,List.append_assoc]
        rfl

end

section
variable {part : BatchPayloadPart}

theorem persistPartSafe (h : Underway i c b sv ps) (writes : tx.writes = planWrites ps) (wellFormed : PartOk i part)
    (index : part.partIndex = ps.length) (queue : Nat) :
    Safe engine (contract i) c (fun r sv tx => match r with
      | .ok payload => ∃ p, Underway i c b sv (ps ++ [p]) ∧ tx.writes = planWrites (ps ++ [p]) ∧ p.part = part ∧
          payload = ⟨p.file.filePath,p.file.requestCount,p.file.totalTokens⟩
      | .error _ => NoEntry c sv) (persistPart b queue part) sv tx := by
  unfold persistPart
  refine safeThen rfl (fun out e later => noEntryLater later h.begun) ?_
  intro mid choice hex out tx' later inv quiet generated
  simp only [perform] at generated
  split at generated <;> try contradiction
  rename_i fresh
  cases generated
  have before := underwayLater later h
  have newHex := newUuid (f := PlannedFile.hex) (fun p here => (before.plan.each p here).hex) fresh
  have ownHex := ownIssued inv fresh c.tx
  have under := underwayLater (quietLater quiet c.tx) before
  generalize choice.uuid = hex at *
  clear later inv quiet fresh before h choice
  refine safeThen rfl (fun out e later => noEntryLater later under.begun) ?_
  intro mid' choice r out tx' later inv quiet stored
  cases stored
  have stored := underwayLater later under
  have ownHex := ownLater later ownHex
  clear later inv quiet under r
  refine safeThen rfl (fun out e later => noEntryLater later stored.begun) ?_
  intro far choice' row out tx' later inv quiet inserted
  simp only [perform] at inserted
  split at inserted <;> try contradiction
  rename_i fresh
  split at inserted
  · cases inserted
  split at inserted
  · cases inserted
  cases inserted
  have before := underwayLater later stored
  have opened : Opened i c b (far.issue c.tx choice'.uuid) ps hex
      ⟨choice'.uuid,b,queue,py "memory://" ++ newPayloadFileId hex,newPayloadFileId hex,part.partIndex,
        part.recordCount,part.totalTokens⟩ part :=
    ⟨underwayLater (quietLater quiet c.tx) before,rfl,rfl,rfl,index,wellFormed,
      ownLater (quietLater quiet c.tx) (ownLater later ownHex),ownIssued inv fresh c.tx,newHex,
      newUuid (fun p here => (before.plan.each p here).uuid) fresh⟩
  refine RelyGuarantee.safeBind (RelyGuarantee.safeMono (assignLinesSafe opened ?_) ?_)
  · simp only [Transaction.add,writes,List.append_assoc]
    rfl
  · rintro (e | u) sv' tx' post
    · exact post
    · obtain ⟨rows,final,written⟩ := post
      exact ⟨_,final,written,rfl,rfl⟩

theorem appendAll (done : Prepared) (isReady : Bool) (payload : BatchPayload) (f : BatchPayload → Nat) :
    ((done.append isReady payload).all.map f).sum = (done.all.map f).sum + f payload := by
  cases isReady <;> simp [Prepared.append,Prepared.all] <;> omega

theorem categorizeAppend (rows : List BatchFile) (row : BatchFile) (limit : Nat) :
    categorizeExistingPayloads (rows ++ [row]) limit = (categorizeExistingPayloads rows limit).append
      (row.partIndex < limit) ⟨row.filePath,row.requestCount,row.totalTokens⟩ := by
  simp [categorizeExistingPayloads]

theorem categorizeSum (rows : List BatchFile) (limit : Nat) (f : BatchPayload → Nat) :
    ((categorizeExistingPayloads rows limit).all.map f).sum =
      (rows.map (fun row => f ⟨row.filePath,row.requestCount,row.totalTokens⟩)).sum := by
  induction rows using List.reverseRecOn with
  | nil => rfl
  | append_singleton rows row ih =>
    rw [categorizeAppend,appendAll,ih]
    simp

theorem persistPartsSafe {parts : List BatchPayloadPart} (h : Underway i c b sv ps) (writes : tx.writes = planWrites ps)
    (wellFormed : ∀ part ∈ parts, PartOk i part)
    (indexes : parts.map BatchPayloadPart.partIndex = List.range' ps.length parts.length) (queue limit : Nat) :
    Safe engine (contract i) c (fun r sv tx => match r with
      | .ok done => ∃ all, Underway i c b sv all ∧ tx.writes = planWrites all ∧
          all.map PlannedFile.part = ps.map PlannedFile.part ++ parts ∧
          done = categorizeExistingPayloads (all.map PlannedFile.file) limit
      | .error _ => NoEntry c sv)
      (persistParts b queue limit ps.length (categorizeExistingPayloads (ps.map PlannedFile.file) limit) parts) sv tx := by
  induction parts generalizing sv tx ps with
  | nil => exact ⟨ps,h,writes,(List.append_nil _).symm,rfl⟩
  | cons part parts ih =>
    rw [List.map_cons,List.length_cons,List.range'_succ,List.cons.injEq] at indexes
    refine RelyGuarantee.safeBind (RelyGuarantee.safeMono
      (persistPartSafe h writes (wellFormed part List.mem_cons_self) indexes.1 queue) ?_)
    rintro (e | payload) sv' tx' post
    · exact post
    · obtain ⟨p,under,written,rfl,rfl⟩ := post
      have next := ih under written (fun q here => wellFormed q (List.mem_cons_of_mem _ here))
        (by rw [List.length_append,List.length_singleton]; exact indexes.2)
      have index : p.file.partIndex = ps.length := by
        have all := under.plan.indexes
        rw [List.map_append,List.length_append,List.length_singleton,List.range_succ] at all
        exact List.singleton_inj.mp (List.append_inj_right all (by simp))
      simp only [List.map_append,List.map_singleton,categorizeAppend,List.length_append,List.length_singleton,index,
        List.append_assoc,List.singleton_append] at next
      exact next

end

-- The call committed once, in the place that `before` leaves; its answer is what the tables
-- held right after.
def Answered (b limit : Nat) (c : Caller Call) (answer : Prepared) (sv : Server) : Prop :=
  ∃ before ws after, sv.history = before ++ ⟨c.tx,c.seq,ws⟩::after ∧
    (∀ e ∈ before, ¬(e.tx = c.tx ∧ e.seq = c.seq)) ∧
    answer = categorizeExistingPayloads ((tablesAfter (before ++ [⟨c.tx,c.seq,ws⟩])).filesOf b) limit

def Record (c : Caller Call) (r : Except PyError (Option Prepared)) (sv : Server) : Prop :=
  match r with
  | .error _ => NoEntry c sv
  | .ok out => match c.call with
    | .prepare p => ∃ answer, out = some answer ∧
        Answered p.batch.value p.counter.azureMaxFilesPerJob c answer sv
    | .change _ => True

-- The last commit is the call's; if the batch had no files, it stored the payloads.
def Persisted (i : Interpreter) (payloads : List BatchPayloadPart) (b limit : Nat) (c : Caller Call)
    (answer : Prepared) (sv : Server) : Prop :=
  ∃ before ws, sv.history = before ++ [⟨c.tx,c.seq,ws⟩] ∧ (∀ e ∈ before, ¬(e.tx = c.tx ∧ e.seq = c.seq)) ∧
    answer = categorizeExistingPayloads (sv.tables.filesOf b) limit ∧
    ((tablesAfter before).filesOf b = [] → List.Forall₂ (Stores i sv.tables) (sv.tables.filesOf b) payloads)

def EndedInside (i : Interpreter) (payloads : List BatchPayloadPart) (c : Caller Call) (b limit : Nat)
    (r : Except PyError Prepared) (sv : Server) (tx : Transaction) : Prop :=
  match r with
  | .ok answer => tx = ⟨[]⟩ ∧ Persisted i payloads b limit c answer sv
  | .error _ => NoEntry c sv

def Ended (i : Interpreter) (payloads : List BatchPayloadPart) (c : Caller Call) (b limit : Nat)
    (r : Except PyError Prepared) (sv : Server) (tx : Transaction) : Prop :=
  tx = ⟨[]⟩ ∧ match r with
    | .ok answer => Persisted i payloads b limit c answer sv
    | .error _ => NoEntry c sv

theorem persistedAnswered {payloads : List BatchPayloadPart} {limit : Nat} {answer : Prepared}
    (h : Persisted i payloads b limit c answer sv) : Answered b limit c answer sv := by
  obtain ⟨before,ws,history,first,value,-⟩ := h
  exact ⟨before,ws,[],history,first,by rw [value,Server.tables,history]⟩

theorem persistedNow {payloads : List BatchPayloadPart} {limit : Nat} {answer : Prepared} {ws : List Write}
    (begun : NoEntry c sv)
    (same : answer = categorizeExistingPayloads ((sv.tables.writeAll ws).filesOf b) limit)
    (stored : sv.tables.filesOf b = [] →
      List.Forall₂ (Stores i (sv.tables.writeAll ws)) ((sv.tables.writeAll ws).filesOf b) payloads) :
    Persisted i payloads b limit c answer (sv.commit ⟨c.tx,c.seq,ws⟩) :=
  ⟨sv.history,ws,rfl,begun,by rw [same,commitTables],fun none_ => by rw [commitTables]; exact stored none_⟩

theorem persistNewSafe {batch : BatchSelector} (h : Underway i c batch.value sv [])
    (writes : tx.writes = []) {payloads : List BatchPayloadPart} (wellFormed : ∀ part ∈ payloads, PartOk i part)
    (indexes : payloads.map BatchPayloadPart.partIndex = List.range payloads.length) (queue limit : Nat) :
    Safe engine (contract i) c (EndedInside i payloads c batch.value limit)
      (persistNew batch queue limit payloads) sv tx := by
  rw [List.range_eq_range'] at indexes
  refine RelyGuarantee.safeBind (RelyGuarantee.safeMono
    (persistPartsSafe h writes wellFormed indexes queue limit) ?_)
  rintro (e | done) sv' tx' post
  · exact post
  obtain ⟨ps,under,written,parts,rfl⟩ := post
  have requests : ((categorizeExistingPayloads (ps.map PlannedFile.file) limit).all.map
      BatchPayload.requestCount).sum = (ps.map (fun p => p.file.requestCount)).sum := by
    rw [categorizeSum,List.map_map]
    rfl
  have tokens : ((categorizeExistingPayloads (ps.map PlannedFile.file) limit).all.map
      BatchPayload.totalTokens).sum = (ps.map (fun p => p.file.totalTokens)).sum := by
    rw [categorizeSum,List.map_map]
    rfl
  refine safeThen rfl (fun out e later => noEntryLater later under.begun) ?_
  intro mid choice r out tx'' later inv quiet updated
  have before := underwayLater later under
  obtain ⟨row,found⟩ := before.row
  have seen : (view mid tx').batch? batch.value = some row := by
    rw [view,Tables.batch?,writeAllBatches,written,planBatches]
    exact found
  simp only [perform,seen] at updated
  obtain ⟨-,-,ended⟩ := lockingDone updated
  split at ended
  · cases ended
  cases ended
  have final := underwayLater (quietLater quiet c.tx) before
  have identity : row.batchUuid = batch.value := Table.findKey found
  refine RelyGuarantee.safeBind (safeCommit (fun out e later => noEntryLater later final.begun) ?_ ?_)
  · intro far later _
    have last := underwayLater later final
    rw [Transaction.add,written]
    exact planCommittable last.plan last.held last.empty identity requests tokens
  · intro far later
    have last := underwayLater later final
    have mine : (ps.map PlannedFile.file).filter (fun f => f.batchUuid = batch.value) = ps.map PlannedFile.file := by
      refine List.filter_eq_self.mpr (fun f member => decide_eq_true ?_)
      obtain ⟨p,here,rfl⟩ := List.mem_map.mp member
      exact (last.plan.each p here).batch
    have files : ∀ row, (far.tables.writeAll (planWrites ps ++ [.batch row])).filesOf batch.value =
        ps.map PlannedFile.file := by
      intro row
      rw [filesOfWriteAll,last.empty,List.nil_append,newFilesOf,(planWithTotals row).1]
      exact mine
    refine ⟨rfl,persistedNow last.begun ?_ (fun _ => ?_)⟩
    · rw [Transaction.add,written]
      exact congrArg (categorizeExistingPayloads · limit) (files _).symm
    · rw [Transaction.add,written,files]
      have own : payloads = ps.map PlannedFile.part := parts.symm
      rw [own]
      refine List.forall₂_map_left_iff.mpr (List.forall₂_map_right_iff.mpr (List.forall₂_same.mpr ?_))
      intro p here
      obtain ⟨-,payloads,lines,requests⟩ := @planWithTotals ps {row with
        totalRequests := ((categorizeExistingPayloads (ps.map PlannedFile.file) limit).all.map
          BatchPayload.requestCount).sum
        totalTokens := ((categorizeExistingPayloads (ps.map PlannedFile.file) limit).all.map
          BatchPayload.totalTokens).sum}
      exact planStores last.plan payloads lines requests here

theorem nothingCommittable (i : Interpreter) (t : Nat) (sv : Server) : Committable i t sv [] := by
  constructor <;> simp [newFiles,newBatches,newRequests,newPayloads,newLines,newFilesOf]

structure Settled (c : Caller Call) (b : Nat) (sv : Server) (fs : List BatchFile) : Prop where
  held : sv.holder (.batch b) = some c.tx
  row : ∃ row, sv.tables.batch? b = some row
  files : sv.tables.filesOf b = fs
  begun : NoEntry c sv

theorem settledLater {fs : List BatchFile} (later : Later c.tx sv out) (h : Settled c b sv fs) : Settled c b out fs := by
  obtain ⟨held,files,same⟩ := later.locks _ h.held
  obtain ⟨row,found⟩ := h.row
  exact ⟨held,⟨row,same.trans found⟩,files.trans h.files,noEntryLater later h.begun⟩

theorem returnExistingSafe {batch : BatchSelector} {fs : List BatchFile} {limit : Nat}
    (h : Settled c batch.value sv fs) (some_ : fs ≠ []) (writes : tx.writes = []) (payloads : List BatchPayloadPart) :
    Safe engine (contract i) c (EndedInside i payloads c batch.value limit)
      (returnExisting batch (categorizeExistingPayloads fs limit)) sv tx := by
  unfold returnExisting
  refine safeThen rfl (fun out e later => noEntryLater later h.begun) ?_
  intro mid choice unassigned out tx' later inv quiet asked
  cases asked
  have known := settledLater later h
  split
  · exact known.begun
  · refine RelyGuarantee.safeBind (safeCommit (fun out e later => noEntryLater later known.begun) ?_ ?_)
    · intro far _ _
      rw [writes]
      exact nothingCommittable i c.tx far
    · intro far later
      have last := settledLater later known
      refine ⟨rfl,persistedNow last.begun ?_ (fun none_ => absurd (last.files.symm.trans none_) some_)⟩
      rw [writes,← last.files]
      rfl

theorem sortedFiles {fs : List BatchFile} (parts : fs.map BatchFile.partIndex = List.range fs.length) :
    fs.mergeSort (fun f g => decide (f.partIndex ≤ g.partIndex)) = fs := by
  refine List.mergeSort_of_pairwise ?_
  have sorted : (fs.map BatchFile.partIndex).Pairwise (· ≤ ·) := by
    rw [parts]
    exact List.pairwise_le_range
  simpa using List.pairwise_map.mp sorted

theorem loadExistingSafe (limit : Nat) {fs : List BatchFile} (h : Settled c b sv fs) (writes : tx.writes = []) :
    Safe engine (contract i) c (fun r sv tx => match r with
      | .ok existing => Settled c b sv fs ∧ tx.writes = [] ∧
          existing = if fs = [] then none else some (categorizeExistingPayloads fs limit)
      | .error _ => NoEntry c sv) (loadExistingPayloads b limit) sv tx := by
  unfold loadExistingPayloads
  refine safeThen rfl (fun out e later => noEntryLater later h.begun) ?_
  intro mid choice rows out tx' later inv quiet selected
  cases selected
  have known := settledLater later h
  have seen : (view mid tx).filesOf b = fs := by
    rw [view,writes]
    exact known.files
  have sorted : fs.mergeSort (fun f g => decide (f.partIndex ≤ g.partIndex)) = fs := by
    rw [← known.files]
    exact sortedFiles (inv.parts b)
  rw [seen,sorted]
  cases fs with
  | nil => exact ⟨known,writes,rfl⟩
  | cons f fs => exact ⟨known,writes,rfl⟩

theorem persistUnderLockSafe {payloads : List BatchPayloadPart} (batch : BatchSelector) (counter : TokenCounter)
    (begun : NoEntry c sv) (writes : tx.writes = []) (wellFormed : ∀ part ∈ payloads, PartOk i part)
    (indexes : payloads.map BatchPayloadPart.partIndex = List.range payloads.length) :
    Safe engine (contract i) c (EndedInside i payloads c batch.value counter.azureMaxFilesPerJob)
      (persistUnderLock payloads batch counter) sv tx := by
  unfold persistUnderLock
  refine safeThen rfl (fun out e later => noEntryLater later begun) ?_
  intro mid choice r out tx' later inv quiet locked
  simp only [perform] at locked
  obtain ⟨-,-,ended⟩ := lockingDone locked
  cases ended
  have begun := noEntryLater (laterTrans later (quietLater quiet c.tx)) begun
  generalize mid.take c.tx [.advisory (batchLockKey batch.value)] = sv' at *
  clear later inv quiet locked choice r
  refine safeThen rfl (fun out e later => noEntryLater later begun) ?_
  intro far choice queue out tx' later inv quiet selected
  have begun := noEntryLater (laterTrans later (quietLater quiet c.tx)) begun
  simp only [perform] at selected
  split at selected
  · cases selected
    exact begun
  · rename_i row found
    obtain ⟨-,held,ended⟩ := lockingDone selected
    cases ended
    have known : Settled c batch.value (far.take c.tx [.batch batch.value])
        ((far.take c.tx [.batch batch.value]).tables.filesOf batch.value) :=
      ⟨held _ (List.mem_singleton_self _),⟨row,by rw [view,writes] at found; exact found⟩,rfl,begun⟩
    refine RelyGuarantee.safeBind (RelyGuarantee.safeMono
      (loadExistingSafe counter.azureMaxFilesPerJob known writes) ?_)
    rintro (e | existing) sv'' tx'' post
    · exact post
    obtain ⟨settled,untouched,rfl⟩ := post
    by_cases empty : (far.take c.tx [.batch batch.value]).tables.filesOf batch.value = []
    · rw [if_pos empty]
      exact persistNewSafe ⟨settled.held,settled.row,settled.files.trans empty,settled.begun,planNil⟩ untouched
        wellFormed indexes row.queueUuid counter.azureMaxFilesPerJob
    · rw [if_neg empty]
      exact returnExistingSafe settled empty untouched payloads

theorem persistPayloadsSafe {payloads : List BatchPayloadPart} (batch : BatchSelector) (counter : TokenCounter)
    (begun : NoEntry c sv) (writes : tx.writes = []) (wellFormed : ∀ part ∈ payloads, PartOk i part)
    (indexes : payloads.map BatchPayloadPart.partIndex = List.range payloads.length) :
    Safe engine (contract i) c (Ended i payloads c batch.value counter.azureMaxFilesPerJob)
      (persistPayloads payloads batch counter) sv tx := by
  refine safeTransaction (RelyGuarantee.safeMono (persistUnderLockSafe batch counter begun writes wellFormed indexes) ?_)
  rintro (e | answer) sv' tx' post
  · intro out later
    have gone := noEntryLater later post
    exact ⟨rfl,gone⟩
  · exact post

theorem prepareSafe (call : PrepareCall) (begun : NoEntry c sv) (writes : tx = ⟨[]⟩) :
    Safe engine (contract i) c (fun r sv tx => tx = ⟨[]⟩ ∧ match r with
      | .ok answer => Answered call.batch.value call.counter.azureMaxFilesPerJob c answer sv
      | .error _ => NoEntry c sv) (prepareBatches i call) sv tx := by
  unfold prepareBatches
  refine RelyGuarantee.safeBind (RelyGuarantee.safeOfExcept ?_)
  cases validateEffectiveTokenLimit call.effectiveTokenLimit with
  | error e => exact ⟨writes,begun⟩
  | ok limit =>
    refine safeThen rfl (fun out e later => ⟨writes,noEntryLater later begun⟩) ?_
    intro mid choice rows out tx' later inv quiet selected
    have begun := noEntryLater (laterTrans later (quietLater quiet c.tx)) begun
    simp only [perform] at selected
    split at selected <;> try contradiction
    cases selected
    refine RelyGuarantee.safeBind (RelyGuarantee.safeOfExcept ?_)
    have sameFiles : (call.counter.limited limit).azureMaxFilesPerJob = call.counter.azureMaxFilesPerJob := by
      cases limit <;> rfl
    cases assembled : assemblePayloads i (call.counter.limited limit) call.lookup
        (choice.rows.map Request.toRequestRow) with
    | error e => exact ⟨writes,begun⟩
    | ok payloads =>
      obtain ⟨wellFormed,indexes⟩ := assembledParts assembled
      rw [← sameFiles]
      refine RelyGuarantee.safeMono (persistPayloadsSafe call.batch _ begun (by rw [writes]) wellFormed indexes) ?_
      rintro (e | answer) sv' tx' ⟨ended,post⟩
      · exact ⟨ended,post⟩
      · exact ⟨ended,persistedAnswered post⟩

end
end PgLlmBatch.Preparation
