import PgLlmBatch.PreparationFirstWrite

/-! The other transactions: new batches, new requests and changes of status leave every
assignment as it is. -/
namespace PgLlmBatch.Preparation
open Base
open Base.Pool (Caller)
open Base.RelyGuarantee (Safe)

section
variable {i : Interpreter} {c : Caller Call} {sv out : Server} {tx : Transaction}

def KeepsFile (db : Tables) (r : Request) : Prop :=
  match db.request? r.key with
  | none => r.batchFileUuid = none
  | some old => old.batchUuid = r.batchUuid ∧ r.batchFileUuid = old.batchFileUuid

def Harmless (t : Nat) (sv : Server) : Write → Prop
  | .batch row => sv.holder (.batch row.batchUuid) = some t ∧ sv.tables.batch? row.batchUuid = none
  | .request r => sv.holder (.request r.key) = some t ∧ KeepsFile sv.tables r
  | _ => False

theorem harmlessLater {t : Nat} (later : Later t sv out) {w : Write} (h : Harmless t sv w) : Harmless t out w := by
  cases w with
  | batch row =>
    obtain ⟨held,-,same⟩ := later.locks _ h.1
    exact ⟨held,same.trans h.2⟩
  | request r =>
    obtain ⟨held,same⟩ := later.locks _ h.1
    have kept : out.tables.request? r.key = sv.tables.request? r.key := same
    have keeps := h.2
    unfold KeepsFile at keeps
    refine ⟨held,?_⟩
    unfold KeepsFile
    rw [kept]
    exact keeps
  | file row => exact h
  | payload row => exact h
  | line row => exact h

theorem harmlessCommittable {t : Nat} (inv : StoreInv i sv) {ws : List Write} (h : ∀ w ∈ ws, Harmless t sv w) :
    Committable i t sv ws := by
  have files : newFiles ws = [] := by
    simp only [newFiles,List.filterMap_eq_nil_iff]
    intro w member
    cases w with
    | file row => exact absurd (h _ member) id
    | _ => rfl
  have payloads : newPayloads ws = [] := by
    simp only [newPayloads,List.filterMap_eq_nil_iff]
    intro w member
    cases w with
    | payload row => exact absurd (h _ member) id
    | _ => rfl
  have lines : newLines ws = [] := by
    simp only [newLines,List.filterMap_eq_nil_iff]
    intro w member
    cases w with
    | line row => exact absurd (h _ member) id
    | _ => rfl
  have batches : ∀ row ∈ newBatches ws, Harmless t sv (.batch row) := by
    intro row member
    obtain ⟨w,here,same⟩ := List.mem_filterMap.mp member
    cases w with
    | batch own => cases same; exact h _ here
    | _ => cases same
  have requests : ∀ r ∈ newRequests ws, Harmless t sv (.request r) := by
    intro r member
    obtain ⟨w,here,same⟩ := List.mem_filterMap.mp member
    cases w with
    | request own => cases same; exact h _ here
    | _ => cases same
  have none_ : ∀ b, newFilesOf ws b = [] := by
    intro b
    rw [newFilesOf,files]
    rfl
  refine ⟨by simp [files],fun row member => (batches row member).1,fun r member => (requests r member).1,
    by simp [files],by simp [files],by simp [payloads],by simp [lines],?_,by simp [files],?_,by simp [files],
    by simp [none_],by simp [none_]⟩
  · intro r member
    have keeps := (requests r member).2
    unfold KeepsFile at keeps
    unfold KinRequest
    cases found : sv.tables.request? r.key with
    | none =>
      rw [found] at keeps
      exact keeps
    | some old =>
      rw [found] at keeps
      exact ⟨keeps.1,Or.inl keeps.2⟩
  · intro row member
    by_contra some_
    obtain ⟨found,here,-⟩ := inv.totals row.batchUuid some_
    have absent := (batches row member).2
    rw [here] at absent
    cases absent

structure Changing (c : Caller Call) (sv : Server) (tx : Transaction) : Prop where
  harmless : ∀ w ∈ tx.writes, Harmless c.tx sv w
  begun : NoEntry c sv

theorem changingLater (later : Later c.tx sv out) (h : Changing c sv tx) : Changing c out tx :=
  ⟨fun w member => harmlessLater later (h.harmless w member),noEntryLater later h.begun⟩

theorem changingAdd (h : Changing c sv tx) {w : Write} (own : Harmless c.tx sv w) : Changing c sv (tx.add [w]) := by
  refine ⟨fun x member => ?_,h.begun⟩
  rcases List.mem_append.mp member with old | new
  · exact h.harmless x old
  · rw [List.mem_singleton.mp new]
    exact own

theorem changeSafe (h : Changing c sv tx) (change : Change) :
    Safe engine (contract i) c (fun r sv tx => match r with
      | .ok _ => Changing c sv tx
      | .error _ => NoEntry c sv) change.perform sv tx := by
  cases change with
  | insertBatch row =>
    refine safeQuery rfl (fun out e later => noEntryLater later h.begun) ?_
    intro mid choice r out tx' later inv quiet inserted
    simp only [perform] at inserted
    obtain ⟨-,held,ended⟩ := lockingDone inserted
    split at ended
    · cases ended
    rename_i absent
    cases ended
    have known := changingLater (laterTrans later (quietLater quiet c.tx)) h
    refine changingAdd known ⟨held _ (List.mem_singleton_self _),?_⟩
    rw [Option.not_isSome_iff_eq_none] at absent
    rw [view,Tables.batch?,writeAllBatches] at absent
    rcases @Table.findPutAllCases _ _ _ Batch.batchUuid (newBatches tx.writes)
      (mid.take c.tx [.batch row.batchUuid]).tables.batches row.batchUuid with ⟨new,-,-,found⟩ | ⟨-,found⟩
    · rw [absent] at found
      cases found
    · exact found.symm.trans absent
  | insertRequest row batch createdAt =>
    refine safeQuery rfl (fun out e later => noEntryLater later h.begun) ?_
    intro mid choice r out tx' later inv quiet inserted
    simp only [perform] at inserted
    obtain ⟨-,held,ended⟩ := lockingDone inserted
    split at ended
    · cases ended
    rename_i absent
    split at ended
    · cases ended
    cases ended
    have known := changingLater (laterTrans later (quietLater quiet c.tx)) h
    refine changingAdd known ⟨held _ (List.mem_singleton_self _),?_⟩
    rw [Option.not_isSome_iff_eq_none,view,Tables.request?,writeAllRequests] at absent
    have none_ : (mid.take c.tx [.request row.requestUuid.text]).tables.request? row.requestUuid.text = none := by
      rcases @Table.findPutAllCases _ _ _ Request.key (newRequests tx.writes)
        (mid.take c.tx [.request row.requestUuid.text]).tables.requests row.requestUuid.text with
        ⟨new,-,-,found⟩ | ⟨-,found⟩
      · rw [absent] at found
        cases found
      · exact found.symm.trans absent
    unfold KeepsFile
    rw [show Request.key ⟨row,batch,createdAt,.queued,none⟩ = row.requestUuid.text from rfl,none_]
  | updateStatus request status =>
    refine safeThen rfl (fun out e later => noEntryLater later h.begun) ?_
    intro mid choice r out tx' later inv quiet updated
    have known := changingLater (laterTrans later (quietLater quiet c.tx)) h
    simp only [perform] at updated
    split at updated
    · cases updated
      exact known
    · rename_i row found
      obtain ⟨-,held,ended⟩ := lockingDone updated
      cases ended
      have named : row.key = request := Table.findKey found
      have keeps : KeepsFile mid.tables row := by
        rw [view,Tables.request?,writeAllRequests] at found
        rcases @Table.findPutAllCases _ _ _ Request.key (newRequests tx.writes) mid.tables.requests request with
          ⟨new,member,-,first⟩ | ⟨-,old⟩
        · rw [first] at found
          cases Option.some.inj found
          obtain ⟨w,here,same⟩ := List.mem_filterMap.mp member
          cases w with
          | request own => cases same; exact ((changingLater later h).harmless _ here).2
          | _ => cases same
        · unfold KeepsFile
          rw [named,show mid.tables.request? request = some row from old.symm.trans found]
          exact ⟨rfl,rfl⟩
      refine changingAdd known ⟨?_,keeps⟩
      rw [show Request.key {row with requestStatus := status} = request from named]
      exact held _ (List.mem_singleton_self _)

theorem performAllSafe (changes : List Change) (h : Changing c sv tx) :
    Safe engine (contract i) c (fun r sv tx => match r with
      | .ok _ => Changing c sv tx
      | .error _ => NoEntry c sv) (performAll changes) sv tx := by
  induction changes generalizing sv tx with
  | nil => exact h
  | cons change changes ih =>
    refine RelyGuarantee.safeBind (RelyGuarantee.safeMono (changeSafe h change) ?_)
    rintro (e | u) sv' tx' post
    · exact post
    · exact ih post

end
end PgLlmBatch.Preparation
