import PgLlmBatch.PreparationInvariant

/-! A commit: when the writes of a transaction keep the invariant of the committed tables, and
what other sessions count on. -/
namespace PgLlmBatch.Preparation
open Base

def KinRequest (db : Tables) (ws : List Write) (r : Request) : Prop :=
  match db.request? r.key with
  | none => r.batchFileUuid = none
  | some old => old.batchUuid = r.batchUuid ∧ (r.batchFileUuid = old.batchFileUuid ∨
      old.batchFileUuid = none ∧ ∃ f ∈ newFiles ws, r.batchFileUuid = some f.fileUuid ∧ f.batchUuid = r.batchUuid)

def OwnUuid (t : Nat) (sv : Server) (u : PyStr) : Prop := sv.issued u = some t ∧ ¬Names sv.tables u

structure Committable (i : Interpreter) (t : Nat) (sv : Server) (ws : List Write) : Prop where
  fileLocks : ∀ f ∈ newFiles ws, sv.holder (.batch f.batchUuid) = some t
  batchLocks : ∀ row ∈ newBatches ws, sv.holder (.batch row.batchUuid) = some t
  requestLocks : ∀ r ∈ newRequests ws, sv.holder (.request r.key) = some t
  fresh : ∀ f ∈ newFiles ws, OwnUuid t sv f.fileUuid ∧
    ∃ u, f.payloadFileId = newPayloadFileId u ∧ OwnUuid t sv u
  distinct : ((newFiles ws).map BatchFile.fileUuid).Nodup
  payloads : ∀ p ∈ newPayloads ws, ∃ f ∈ newFiles ws, f.payloadFileId = p.fileId
  lines : ∀ l ∈ newLines ws, ∃ f ∈ newFiles ws, f.payloadFileId = l.payloadFileId
  requests : ∀ r ∈ newRequests ws, KinRequest sv.tables ws r
  first : ∀ f ∈ newFiles ws, sv.tables.filesOf f.batchUuid = []
  batches : ∀ row ∈ newBatches ws, sv.tables.filesOf row.batchUuid = []
  stored : ∀ f ∈ newFiles ws, ∃ part, Stores i (sv.tables.writeAll ws) f part
  parts : ∀ b, (newFilesOf ws b).map BatchFile.partIndex = List.range (newFilesOf ws b).length
  totals : ∀ b, newFilesOf ws b ≠ [] → TotalsAgree (sv.tables.writeAll ws) b

section
variable {i : Interpreter} {t : Nat} {sv : Server} {ws : List Write}

theorem fileIdInjective {u v : PyStr} (h : newPayloadFileId u = newPayloadFileId v) : u = v :=
  List.append_cancel_left h

theorem namesCommit (h : Committable i t sv ws) {x : PyStr} (named : Names (sv.tables.writeAll ws) x) :
    Names sv.tables x ∨ sv.issued x = some t := by
  have fileId : ∀ f ∈ newFiles ws, f.payloadFileId = newPayloadFileId x → sv.issued x = some t := by
    intro f member same
    obtain ⟨-,u,shape,own,-⟩ := h.fresh f member
    rw [← fileIdInjective (shape.symm.trans same)]
    exact own
  rcases named with ⟨f,member,shows⟩ | ⟨l,member,shows⟩ | ⟨r,member,shows⟩
  · rw [writeAllFiles,List.mem_append] at member
    rcases member with old | new
    · exact Or.inl (Or.inl ⟨f,old,shows⟩)
    · rcases shows with same | same
      · exact Or.inr (same ▸ (h.fresh f new).1.1)
      · exact Or.inr (fileId f new same)
  · rw [writeAllLines,List.mem_append] at member
    rcases member with old | new
    · exact Or.inl (Or.inr (Or.inl ⟨l,old,shows⟩))
    · obtain ⟨f,file,same⟩ := h.lines l new
      exact Or.inr (fileId f file (same.trans shows))
  · rw [writeAllRequests] at member
    rcases Table.memPutAll member with new | old
    · have kin := h.requests r new
      unfold KinRequest at kin
      split at kin
      · rw [kin] at shows
        cases shows
      · rename_i before found
        rcases kin.2 with same | ⟨-,f,file,same,-⟩
        · rw [same] at shows
          exact Or.inl (Or.inr (Or.inr ⟨before,Table.findMember found,shows⟩))
        · rw [same] at shows
          cases Option.some.inj shows
          exact Or.inr (h.fresh f file).1.1
    · exact Or.inl (Or.inr (Or.inr ⟨r,old,shows⟩))

theorem newFilesNone {b : Nat} (none_ : ∀ f ∈ newFiles ws, f.batchUuid ≠ b) : newFilesOf ws b = [] := by
  simpa [newFilesOf,List.filter_eq_nil_iff] using none_

theorem commitRespects (h : Committable i t sv ws) (seq : Nat) : Respects t seq sv (sv.commit ⟨t,seq,ws⟩) where
  history := ⟨[⟨t,seq,ws⟩],rfl,by simp⟩
  locks l u other held := by
    have still : (sv.commit ⟨t,seq,ws⟩).holder l = some u := by
      have foreign : sv.holder l ≠ some t := by
        rw [held]
        exact fun same => other (Option.some.inj same)
      show (if sv.holder l = some t then none else sv.holder l) = some u
      rw [if_neg foreign,held]
    refine ⟨still,?_⟩
    rw [commitTables]
    cases l with
    | advisory key => trivial
    | batch uuid =>
      have taken : ∀ b, sv.holder (.batch b) = some t → b ≠ uuid := by
        rintro b own rfl
        exact other (Option.some.inj (held.symm.trans own))
      constructor
      · rw [filesOfWriteAll,newFilesNone (fun f member => taken _ (h.fileLocks f member)),List.append_nil]
      · rw [Tables.batch?,writeAllBatches]
        exact Table.findPutAllAway (fun row member => taken _ (h.batchLocks row member)) _
    | request uuid =>
      show (sv.tables.writeAll ws).request? uuid = sv.tables.request? uuid
      rw [Tables.request?,writeAllRequests]
      refine Table.findPutAllAway (fun r member same => ?_) _
      have own := h.requestLocks r member
      rw [same] at own
      exact other (Option.some.inj (held.symm.trans own))
  issued _ _ known := known
  unnamed x u other known unnamed named := by
    rw [commitTables] at named
    rcases namesCommit h named with old | own
    · exact unnamed old
    · exact other (Option.some.inj (known.symm.trans own))

theorem assignedKept (h : Committable i t sv ws) {f : BatchFile} (old : f ∈ sv.tables.files) (id : PyStr) :
    (∃ r, (sv.tables.writeAll ws).request? id = some r ∧ r.batchFileUuid = some f.fileUuid) ↔
      ∃ r, sv.tables.request? id = some r ∧ r.batchFileUuid = some f.fileUuid := by
  have named : Names sv.tables f.fileUuid := Or.inl ⟨f,old,Or.inl rfl⟩
  rw [Tables.request?,writeAllRequests]
  rcases @Table.findPutAllCases _ _ _ Request.key (newRequests ws) sv.tables.requests id with
    ⟨r,member,same,found⟩ | ⟨-,found⟩
  · rw [found]
    have kin := h.requests r member
    unfold KinRequest at kin
    rw [same] at kin
    constructor
    · rintro ⟨r',here,file⟩
      cases Option.some.inj here
      split at kin
      · rw [kin] at file
        cases file
      · rename_i before known
        rcases kin.2 with kept | ⟨-,g,new,given,-⟩
        · exact ⟨before,known,kept.symm.trans file⟩
        · rw [given] at file
          rw [← Option.some.inj file] at named
          exact absurd named (h.fresh g new).1.2
    · rintro ⟨before,known,file⟩
      rw [known] at kin
      rcases kin.2 with kept | ⟨unassigned,-⟩
      · exact ⟨r,rfl,kept.trans file⟩
      · rw [unassigned] at file
        cases file
  · rw [found]
    rfl

theorem storesKept (h : Committable i t sv ws) {f : BatchFile} {part : BatchPayloadPart}
    (old : f ∈ sv.tables.files) (stores : Stores i sv.tables f part) : Stores i (sv.tables.writeAll ws) f part where
  wellFormed := stores.wellFormed
  requestCount := stores.requestCount
  payload := by
    rw [Tables.payload?,writeAllPayloads,Table.findPutAllAway ?_]
    · exact stores.payload
    · intro p member same
      obtain ⟨g,new,shape⟩ := h.payloads p member
      obtain ⟨-,u,named,-,fresh⟩ := h.fresh g new
      exact fresh (Or.inl ⟨f,old,Or.inr (same.symm.trans (shape.symm.trans named))⟩)
  lines := by
    have none_ : (newLines ws).filter (fun l => decide (l.payloadFileId = f.payloadFileId)) = [] := by
      simp only [List.filter_eq_nil_iff,decide_eq_true_eq]
      intro l member same
      obtain ⟨g,new,shape⟩ := h.lines l member
      obtain ⟨-,u,named,-,fresh⟩ := h.fresh g new
      exact fresh (Or.inl ⟨f,old,Or.inr (same.symm.trans (shape.symm.trans named))⟩)
    have kept := stores.lines
    unfold Tables.linesOf at kept ⊢
    rw [writeAllLines,List.filter_append,none_,List.append_nil,kept]
  distinct := stores.distinct
  assigned id := (stores.assigned id).trans (assignedKept h old id).symm

theorem newFilesFirst (h : Committable i t sv ws) {b : Nat} (some_ : newFilesOf ws b ≠ []) :
    sv.tables.filesOf b = [] := by
  obtain ⟨f,member⟩ := List.exists_mem_of_ne_nil _ some_
  simp only [newFilesOf,List.mem_filter,decide_eq_true_eq] at member
  rw [← member.2]
  exact h.first f member.1

theorem commitKeeps (inv : StoreInv i sv) (h : Committable i t sv ws) (seq : Nat) :
    StoreInv i (sv.commit ⟨t,seq,ws⟩) where
  keys := by
    rw [commitTables,writeAllRequests]
    exact Table.putAllDistinct _ inv.keys
  stored f member := by
    rw [commitTables] at member ⊢
    rw [writeAllFiles,List.mem_append] at member
    rcases member with old | new
    · obtain ⟨part,stores⟩ := inv.stored f old
      exact ⟨part,storesKept h old stores⟩
    · exact h.stored f new
  distinct := by
    rw [commitTables,writeAllFiles,List.map_append,List.nodup_append]
    refine ⟨inv.distinct,h.distinct,?_⟩
    rintro a old b new rfl
    obtain ⟨f,file,rfl⟩ := List.mem_map.mp old
    obtain ⟨g,fresh,same⟩ := List.mem_map.mp new
    exact (h.fresh g fresh).1.2 (Or.inl ⟨f,file,Or.inl same.symm⟩)
  assigned r member u file := by
    rw [commitTables] at member ⊢
    rw [writeAllRequests] at member
    rw [writeAllFiles]
    have before : ∀ old ∈ sv.tables.requests, old.batchFileUuid = some u → old.batchUuid = r.batchUuid →
        ∃ f ∈ sv.tables.files ++ newFiles ws, f.fileUuid = u ∧ f.batchUuid = r.batchUuid := by
      intro old here given same
      obtain ⟨f,listed,uuid,batch⟩ := inv.assigned old here u given
      exact ⟨f,List.mem_append_left _ listed,uuid,batch.trans same⟩
    rcases Table.memPutAll member with new | old
    · have kin := h.requests r new
      unfold KinRequest at kin
      split at kin
      · rw [kin] at file
        cases file
      · rename_i old found
        rcases kin.2 with same | ⟨-,f,listed,given,batch⟩
        · exact before old (Table.findMember found) (same.symm.trans file) kin.1
        · rw [given] at file
          exact ⟨f,List.mem_append_right _ listed,Option.some.inj file,batch⟩
    · exact before r old file rfl
  parts b := by
    rw [commitTables,filesOfWriteAll]
    by_cases none_ : newFilesOf ws b = []
    · rw [none_,List.append_nil]
      exact inv.parts b
    · rw [newFilesFirst h none_,List.nil_append]
      exact h.parts b
  totals b some_ := by
    rw [commitTables] at some_ ⊢
    by_cases none_ : newFilesOf ws b = []
    · rw [filesOfWriteAll,none_,List.append_nil] at some_
      obtain ⟨row,found,requests,tokens⟩ := inv.totals b some_
      have away : ∀ row ∈ newBatches ws, row.batchUuid ≠ b := by
        rintro row member rfl
        exact some_ (h.batches row member)
      refine ⟨row,?_,?_,?_⟩
      · rw [Tables.batch?,writeAllBatches,Table.findPutAllAway away]
        exact found
      · rw [filesOfWriteAll,none_,List.append_nil,requests]
      · rw [filesOfWriteAll,none_,List.append_nil,tokens]
    · exact h.totals b none_
  issued u named := by
    rw [commitTables] at named
    rcases namesCommit h named with old | own
    · exact inv.issued u old
    · intro none_
      have clash : some t = none := own.symm.trans none_
      cases clash
  created n c listed b some_ := by
    have grown : (sv.commit ⟨t,seq,ws⟩).history = sv.history ++ [⟨t,seq,ws⟩] := rfl
    rw [grown] at listed ⊢
    rcases Nat.lt_or_ge n sv.history.length with early | late
    · rw [List.getElem?_append_left early] at listed
      rw [List.take_append_of_le_length (Nat.le_of_lt early)]
      exact inv.created n c listed b some_
    · have last : n = sv.history.length := by
        obtain ⟨bound,-⟩ := List.getElem?_eq_some_iff.mp listed
        rw [List.length_append,List.length_singleton] at bound
        omega
      subst last
      rw [List.getElem?_append_right (Nat.le_refl _),Nat.sub_self] at listed
      cases Option.some.inj listed
      rw [List.take_left]
      exact newFilesFirst h some_

end
end PgLlmBatch.Preparation
