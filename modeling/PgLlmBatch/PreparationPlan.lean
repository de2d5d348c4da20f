import PgLlmBatch.PreparationCommit

/-! The writes of a first preparation, file by file: a plan whose UUIDs are fresh and whose
rows are locked and unassigned can be committed. -/
namespace PgLlmBatch.Preparation
open Base

structure PlannedFile where
  hex : PyStr
  file : BatchFile
  part : BatchPayloadPart
  rows : List Request

def Request.assign (fileUuid : PyStr) (r : Request) : Request := {r with batchFileUuid := some fileUuid}

namespace PlannedFile

def lines (p : PlannedFile) : List JsonlLine := lineRows p.file.payloadFileId p.part.requestIds p.part.lines

def writes (p : PlannedFile) : List Write :=
  [.payload ⟨p.file.payloadFileId,payloadDocument p.part.lines⟩,.file p.file] ++ p.lines.map Write.line ++
    p.rows.map (fun r => Write.request (Request.assign p.file.fileUuid r))

end PlannedFile

def planWrites (ps : List PlannedFile) : List Write := ps.flatMap PlannedFile.writes

section
variable (p : PlannedFile) (ps : List PlannedFile)

theorem mapNone {α β γ : Type} (f : β → Option γ) (g : α → β) (none_ : ∀ a, f (g a) = none) (l : List α) :
    (l.map g).filterMap f = [] := by
  simp [none_]

theorem mapSome {α β γ : Type} (f : β → Option γ) (g : α → β) (h : α → γ) (some_ : ∀ a, f (g a) = some (h a))
    (l : List α) : (l.map g).filterMap f = l.map h := by
  induction l with
  | nil => rfl
  | cons a l ih => rw [List.map_cons,List.filterMap_cons_some (some_ a),ih,List.map_cons]

theorem partFiles : newFiles p.writes = [p.file] := by
  unfold newFiles PlannedFile.writes
  rw [List.filterMap_append,List.filterMap_append,mapNone _ _ (fun _ => rfl),mapNone _ _ (fun _ => rfl)]
  rfl

theorem partPayloads : newPayloads p.writes = [⟨p.file.payloadFileId,payloadDocument p.part.lines⟩] := by
  unfold newPayloads PlannedFile.writes
  rw [List.filterMap_append,List.filterMap_append,mapNone _ _ (fun _ => rfl),mapNone _ _ (fun _ => rfl)]
  rfl

theorem partLines : newLines p.writes = p.lines := by
  unfold newLines PlannedFile.writes
  rw [List.filterMap_append,List.filterMap_append,mapSome Write.line? Write.line id (fun _ => rfl),
    mapNone _ _ (fun _ => rfl),List.map_id,List.append_nil]
  rfl

theorem partRequests : newRequests p.writes = p.rows.map (Request.assign p.file.fileUuid) := by
  unfold newRequests PlannedFile.writes
  rw [List.filterMap_append,List.filterMap_append,mapNone _ _ (fun _ => rfl),
    mapSome Write.request? (fun r => Write.request (Request.assign p.file.fileUuid r))
      (Request.assign p.file.fileUuid) (fun _ => rfl)]
  rfl

theorem partBatches : newBatches p.writes = [] := by
  unfold newBatches PlannedFile.writes
  rw [List.filterMap_append,List.filterMap_append,mapNone _ _ (fun _ => rfl),mapNone _ _ (fun _ => rfl)]
  rfl

theorem planFiles : newFiles (planWrites ps) = ps.map PlannedFile.file := by
  have each := fun p => partFiles p
  unfold newFiles at each
  rw [newFiles,planWrites,List.filterMap_flatMap]
  simp only [each]
  exact List.map_eq_flatMap.symm

theorem planPayloads : newPayloads (planWrites ps) =
    ps.map (fun p => ⟨p.file.payloadFileId,payloadDocument p.part.lines⟩) := by
  have each := fun p => partPayloads p
  unfold newPayloads at each
  rw [newPayloads,planWrites,List.filterMap_flatMap]
  simp only [each]
  exact List.map_eq_flatMap.symm

theorem planLines : newLines (planWrites ps) = ps.flatMap PlannedFile.lines := by
  have each := fun p => partLines p
  unfold newLines at each
  rw [newLines,planWrites,List.filterMap_flatMap]
  simp only [each]

theorem planRequests : newRequests (planWrites ps) =
    ps.flatMap (fun p => p.rows.map (Request.assign p.file.fileUuid)) := by
  have each := fun p => partRequests p
  unfold newRequests at each
  rw [newRequests,planWrites,List.filterMap_flatMap]
  simp only [each]

theorem planBatches : newBatches (planWrites ps) = [] := by
  have each := fun p => partBatches p
  unfold newBatches at each
  rw [newBatches,planWrites,List.filterMap_flatMap]
  simp [each]

end

structure PartPlanned (i : Interpreter) (t b : Nat) (sv : Server) (p : PlannedFile) : Prop where
  batch : p.file.batchUuid = b
  fileId : p.file.payloadFileId = newPayloadFileId p.hex
  requestCount : p.file.requestCount = p.part.recordCount
  hex : OwnUuid t sv p.hex
  uuid : OwnUuid t sv p.file.fileUuid
  wellFormed : PartOk i p.part
  ids : (p.rows.map Request.key).Perm p.part.requestIds
  rows : ∀ r ∈ p.rows, sv.holder (.request r.key) = some t ∧ sv.tables.request? r.key = some r ∧
    r.batchUuid = b ∧ r.batchFileUuid = none

structure PlanOk (i : Interpreter) (t b : Nat) (sv : Server) (ps : List PlannedFile) : Prop where
  indexes : ps.map (fun p => p.file.partIndex) = List.range ps.length
  hexes : (ps.map PlannedFile.hex).Nodup
  uuids : (ps.map (fun p => p.file.fileUuid)).Nodup
  rows : (ps.flatMap (fun p => p.rows.map Request.key)).Nodup
  each : ∀ p ∈ ps, PartPlanned i t b sv p

section
variable {i : Interpreter} {t b : Nat} {sv out : Server} {ps : List PlannedFile}

theorem partLater (later : Later t sv out) {p : PlannedFile} (h : PartPlanned i t b sv p) :
    PartPlanned i t b out p where
  batch := h.batch
  fileId := h.fileId
  requestCount := h.requestCount
  hex := ⟨later.issued _ h.hex.1,later.unnamed _ h.hex.1 h.hex.2⟩
  uuid := ⟨later.issued _ h.uuid.1,later.unnamed _ h.uuid.1 h.uuid.2⟩
  wellFormed := h.wellFormed
  ids := h.ids
  rows r member := by
    obtain ⟨held,found,batch,unassigned⟩ := h.rows r member
    obtain ⟨still,same⟩ := later.locks _ held
    have kept : out.tables.request? r.key = sv.tables.request? r.key := same
    exact ⟨still,kept.trans found,batch,unassigned⟩

theorem planLater (later : Later t sv out) (h : PlanOk i t b sv ps) : PlanOk i t b out ps :=
  ⟨h.indexes,h.hexes,h.uuids,h.rows,fun p member => partLater later (h.each p member)⟩

theorem planNil : PlanOk i t b sv [] := ⟨rfl,List.nodup_nil,List.nodup_nil,List.nodup_nil,by simp⟩

theorem planExtend (h : PlanOk i t b sv ps) {p : PlannedFile} (part : PartPlanned i t b sv p)
    (index : p.file.partIndex = ps.length) (hex : p.hex ∉ ps.map PlannedFile.hex)
    (uuid : p.file.fileUuid ∉ ps.map (fun p => p.file.fileUuid)) (distinct : (p.rows.map Request.key).Nodup)
    (apart : ∀ r ∈ p.rows, r.key ∉ ps.flatMap (fun p => p.rows.map Request.key)) :
    PlanOk i t b sv (ps ++ [p]) where
  indexes := by
    rw [List.map_append,h.indexes,List.length_append,List.length_singleton,List.range_succ]
    exact congrArg (List.range ps.length ++ [·]) index
  hexes := by
    rw [List.map_append]
    exact h.hexes.append (List.nodup_singleton _) (by simpa using hex)
  uuids := by
    rw [List.map_append]
    exact h.uuids.append (List.nodup_singleton _) (by simpa using uuid)
  rows := by
    rw [List.flatMap_append]
    refine h.rows.append (by simpa using distinct) ?_
    intro k old new
    have mine : k ∈ p.rows.map Request.key := by simpa using new
    obtain ⟨r,member,rfl⟩ := List.mem_map.mp mine
    exact apart r member old
  each q member := by
    rcases List.mem_append.mp member with old | new
    · exact h.each q old
    · rw [List.mem_singleton.mp new]
      exact part

theorem filterGroup {α β γ : Type} [DecidableEq γ] (label : α → γ) (items : α → List β) (own : β → γ)
    {l : List α} (labelled : ∀ a ∈ l, ∀ x ∈ items a, own x = label a) (distinct : (l.map label).Nodup) {a : α}
    (here : a ∈ l) : (l.flatMap items).filter (fun x => own x = label a) = items a := by
  induction l with
  | nil => cases here
  | cons first l ih =>
    rw [List.map_cons,List.nodup_cons] at distinct
    rw [List.flatMap_cons,List.filter_append]
    rcases List.mem_cons.mp here with rfl | later
    · have mine : (items a).filter (fun x => own x = label a) = items a :=
        List.filter_eq_self.mpr (fun x member => decide_eq_true (labelled a List.mem_cons_self x member))
      have others : (l.flatMap items).filter (fun x => own x = label a) = [] := by
        simp only [List.filter_eq_nil_iff,decide_eq_true_eq,List.mem_flatMap]
        rintro x ⟨c,member,inside⟩ same
        rw [labelled c (List.mem_cons_of_mem _ member) x inside] at same
        exact distinct.1 (same ▸ List.mem_map_of_mem member)
      rw [mine,others,List.append_nil]
    · have none_ : (items first).filter (fun x => own x = label a) = [] := by
        simp only [List.filter_eq_nil_iff,decide_eq_true_eq]
        intro x inside same
        rw [labelled first List.mem_cons_self x inside] at same
        exact distinct.1 (same ▸ List.mem_map_of_mem later)
      rw [none_,List.nil_append]
      exact ih (fun c member => labelled c (List.mem_cons_of_mem _ member)) distinct.2 later

theorem lineRowsOwn (fileId : PyStr) (requestIds lines : List PyStr) :
    ∀ l ∈ lineRows fileId requestIds lines, l.payloadFileId = fileId := by
  intro l member
  obtain ⟨p,-,rfl⟩ := List.mem_map.mp member
  rfl

section
variable (h : PlanOk i t b sv ps) (ws : List Write)
include h

theorem planFileIds : (ps.map (fun p => p.file.payloadFileId)).Nodup := by
  have shapes : ps.map (fun p => p.file.payloadFileId) = (ps.map PlannedFile.hex).map newPayloadFileId := by
    rw [List.map_map]
    exact List.map_congr_left (fun p member => (h.each p member).fileId)
  rw [shapes]
  exact h.hexes.map (fun _ _ same => fileIdInjective same)

theorem planPayloadStored {p : PlannedFile} (member : p ∈ ps) (only : newPayloads ws = newPayloads (planWrites ps)) :
    (sv.tables.writeAll ws).payload? p.file.payloadFileId =
      some ⟨p.file.payloadFileId,payloadDocument p.part.lines⟩ := by
  rw [Tables.payload?,writeAllPayloads,only,planPayloads]
  have distinct := planFileIds h
  exact @Table.findPutAll _ _ _ BatchFilePayload.fileId _ (by rw [List.map_map]; exact distinct) _
    (List.mem_map_of_mem member) _

theorem planLinesStored {p : PlannedFile} (member : p ∈ ps) (only : newLines ws = newLines (planWrites ps)) :
    (sv.tables.writeAll ws).linesOf p.file.payloadFileId = p.lines := by
  have planned := h.each p member
  have none_ : sv.tables.lines.filter (fun l => decide (l.payloadFileId = p.file.payloadFileId)) = [] := by
    simp only [List.filter_eq_nil_iff,decide_eq_true_eq]
    intro l here same
    exact planned.hex.2 (Or.inr (Or.inl ⟨l,here,same.trans planned.fileId⟩))
  unfold Tables.linesOf
  rw [writeAllLines,List.filter_append,none_,List.nil_append,only,planLines]
  have labelled : ∀ q ∈ ps, ∀ l ∈ q.lines, l.payloadFileId = q.file.payloadFileId :=
    fun q _ => lineRowsOwn q.file.payloadFileId q.part.requestIds q.part.lines
  exact filterGroup (fun q => q.file.payloadFileId) PlannedFile.lines JsonlLine.payloadFileId labelled
    (planFileIds h) member

theorem planKeys : ((newRequests (planWrites ps)).map Request.key).Nodup := by
  have same : (newRequests (planWrites ps)).map Request.key = ps.flatMap (fun p => p.rows.map Request.key) := by
    rw [planRequests,List.map_flatMap]
    refine List.flatMap_congr (fun p _ => ?_)
    rw [List.map_map]
    rfl
  rw [same]
  exact h.rows

theorem planAssigned {p : PlannedFile} (member : p ∈ ps) (only : newRequests ws = newRequests (planWrites ps))
    (id : PyStr) : id ∈ p.part.requestIds ↔
      ∃ r, (sv.tables.writeAll ws).request? id = some r ∧ r.batchFileUuid = some p.file.fileUuid := by
  have planned := h.each p member
  rw [Tables.request?,writeAllRequests,only]
  constructor
  · intro listed
    obtain ⟨r,row,rfl⟩ := List.mem_map.mp (planned.ids.mem_iff.mpr listed)
    have written : Request.assign p.file.fileUuid r ∈ newRequests (planWrites ps) := by
      rw [planRequests]
      exact List.mem_flatMap.mpr ⟨p,member,List.mem_map_of_mem row⟩
    exact ⟨_,Table.findPutAll (planKeys h) written _,rfl⟩
  · rintro ⟨r,found,file⟩
    rcases @Table.findPutAllCases _ _ _ Request.key (newRequests (planWrites ps)) sv.tables.requests id with
      ⟨new,here,same,first⟩ | ⟨-,old⟩
    · rw [first] at found
      cases Option.some.inj found
      rw [planRequests] at here
      obtain ⟨q,listed,assigned⟩ := List.mem_flatMap.mp here
      obtain ⟨r,row,rfl⟩ := List.mem_map.mp assigned
      have twin : q = p := List.inj_on_of_nodup_map h.uuids listed member (Option.some.inj file)
      subst twin
      have listedKey : r.key ∈ q.rows.map Request.key := List.mem_map_of_mem row
      rw [← same]
      exact planned.ids.mem_iff.mp listedKey
    · rw [old] at found
      exact absurd (Or.inr (Or.inr ⟨r,Table.findMember found,file⟩)) planned.uuid.2

end

theorem planStores (h : PlanOk i t b sv ps) {ws : List Write} (payloads : newPayloads ws = newPayloads (planWrites ps))
    (lines : newLines ws = newLines (planWrites ps)) (written : newRequests ws = newRequests (planWrites ps))
    {p : PlannedFile} (here : p ∈ ps) : Stores i (sv.tables.writeAll ws) p.file p.part := by
  have planned := h.each p here
  have distinct : p.part.requestIds.Nodup :=
    planned.ids.nodup_iff.mp ((List.nodup_flatMap.mp h.rows).1 p here)
  exact ⟨planned.wellFormed,planned.requestCount,planPayloadStored h _ here payloads,planLinesStored h _ here lines,
    distinct,planAssigned h _ here written⟩

theorem planWithTotals (row : Batch) : newFiles (planWrites ps ++ [.batch row]) = ps.map PlannedFile.file ∧
    newPayloads (planWrites ps ++ [.batch row]) = newPayloads (planWrites ps) ∧
    newLines (planWrites ps ++ [.batch row]) = newLines (planWrites ps) ∧
    newRequests (planWrites ps ++ [.batch row]) = newRequests (planWrites ps) := by
  refine ⟨?_,?_,?_,?_⟩
  · rw [← planFiles]
    exact (List.filterMap_append).trans (List.append_nil _)
  · exact (List.filterMap_append).trans (List.append_nil _)
  · exact (List.filterMap_append).trans (List.append_nil _)
  · exact (List.filterMap_append).trans (List.append_nil _)

theorem planBatch (row : Batch) : newBatches (planWrites ps ++ [.batch row]) = [row] := by
  have none_ := planBatches ps
  unfold newBatches at none_ ⊢
  rw [List.filterMap_append,none_]
  rfl

theorem planInside {row : Batch} {f : BatchFile} (member : f ∈ newFiles (planWrites ps ++ [.batch row])) :
    ∃ p ∈ ps, p.file = f := by
  rw [(planWithTotals row).1] at member
  exact List.mem_map.mp member

theorem planListed {row : Batch} {p : PlannedFile} (here : p ∈ ps) : p.file ∈ newFiles (planWrites ps ++ [.batch row]) := by
  rw [(planWithTotals row).1]
  exact List.mem_map_of_mem here

theorem planFilesOf (h : PlanOk i t b sv ps) (row : Batch) (c : Nat) :
    newFilesOf (planWrites ps ++ [.batch row]) c = if b = c then ps.map PlannedFile.file else [] := by
  unfold newFilesOf
  rw [(planWithTotals row).1]
  split
  · rename_i same
    refine List.filter_eq_self.mpr (fun f member => decide_eq_true ?_)
    obtain ⟨p,here,rfl⟩ := List.mem_map.mp member
    exact (h.each p here).batch.trans same
  · rename_i other
    simp only [List.filter_eq_nil_iff,decide_eq_true_eq]
    intro f member same
    obtain ⟨p,here,rfl⟩ := List.mem_map.mp member
    exact other ((h.each p here).batch.symm.trans same)

theorem planRows {row : Batch} {r : Request} (member : r ∈ newRequests (planWrites ps ++ [.batch row])) :
    ∃ p ∈ ps, ∃ old ∈ p.rows, Request.assign p.file.fileUuid old = r := by
  rw [(planWithTotals row).2.2.2,planRequests] at member
  obtain ⟨p,here,assigned⟩ := List.mem_flatMap.mp member
  exact ⟨p,here,List.mem_map.mp assigned⟩

theorem planTotals (h : PlanOk i t b sv ps) (first : sv.tables.filesOf b = []) {row : Batch} (batch : row.batchUuid = b)
    (requests : row.totalRequests = (ps.map (fun p => p.file.requestCount)).sum)
    (tokens : row.totalTokens = (ps.map (fun p => p.file.totalTokens)).sum) :
    TotalsAgree (sv.tables.writeAll (planWrites ps ++ [.batch row])) b := by
  have own := planFilesOf h row b
  rw [if_pos rfl] at own
  refine ⟨row,?_,?_,?_⟩
  · rw [Tables.batch?,writeAllBatches,planBatch,← batch]
    exact Table.findPutAll (by simp) (List.mem_singleton_self row) _
  · rw [filesOfWriteAll,own,first,List.nil_append,List.map_map]
    exact requests
  · rw [filesOfWriteAll,own,first,List.nil_append,List.map_map]
    exact tokens

theorem planCommittable (h : PlanOk i t b sv ps) (held : sv.holder (.batch b) = some t)
    (first : sv.tables.filesOf b = []) {row : Batch} (batch : row.batchUuid = b)
    (requests : row.totalRequests = (ps.map (fun p => p.file.requestCount)).sum)
    (tokens : row.totalTokens = (ps.map (fun p => p.file.totalTokens)).sum) :
    Committable i t sv (planWrites ps ++ [.batch row]) := by
  obtain ⟨files,payloads,lines,written⟩ := @planWithTotals ps row
  constructor
  case fileLocks =>
    intro f member
    obtain ⟨p,here,rfl⟩ := planInside member
    rw [(h.each p here).batch]
    exact held
  case batchLocks =>
    intro r member
    rw [planBatch] at member
    rw [List.mem_singleton.mp member,batch]
    exact held
  case requestLocks =>
    intro r member
    obtain ⟨p,here,old,row,rfl⟩ := planRows member
    exact ((h.each p here).rows old row).1
  case fresh =>
    intro f member
    obtain ⟨p,here,rfl⟩ := planInside member
    exact ⟨(h.each p here).uuid,p.hex,(h.each p here).fileId,(h.each p here).hex⟩
  case distinct =>
    rw [files,List.map_map]
    exact h.uuids
  case payloads =>
    intro p member
    rw [payloads,planPayloads] at member
    obtain ⟨q,here,rfl⟩ := List.mem_map.mp member
    exact ⟨q.file,planListed here,rfl⟩
  case lines =>
    intro l member
    rw [lines,planLines] at member
    obtain ⟨q,here,inside⟩ := List.mem_flatMap.mp member
    exact ⟨q.file,planListed here,(lineRowsOwn _ _ _ l inside).symm⟩
  case requests =>
    intro r member
    obtain ⟨p,here,old,row,rfl⟩ := planRows member
    obtain ⟨-,found,given,unassigned⟩ := (h.each p here).rows old row
    have known : sv.tables.request? (Request.assign p.file.fileUuid old).key = some old := found
    unfold KinRequest
    rw [known]
    exact ⟨rfl,Or.inr ⟨unassigned,p.file,planListed here,rfl,(h.each p here).batch.trans given.symm⟩⟩
  case first =>
    intro f member
    obtain ⟨p,here,rfl⟩ := planInside member
    rw [(h.each p here).batch]
    exact first
  case batches =>
    intro r member
    rw [planBatch] at member
    rw [List.mem_singleton.mp member,batch]
    exact first
  case stored =>
    intro f member
    obtain ⟨p,here,rfl⟩ := planInside member
    exact ⟨p.part,planStores h payloads lines written here⟩
  case parts =>
    intro c
    rw [planFilesOf h]
    split
    · rw [List.map_map,List.length_map]
      exact h.indexes
    · rfl
  case totals =>
    intro c some_
    rw [planFilesOf h] at some_
    split at some_
    · rename_i same
      subst same
      exact planTotals h first batch requests tokens
    · exact absurd rfl some_

end
end PgLlmBatch.Preparation
