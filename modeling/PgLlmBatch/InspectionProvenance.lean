import PgLlmBatch.Base.Runs
import PgLlmBatch.Base.WeakReferences
import PgLlmBatch.Inspection

/-! The registries of inspected evidence, keyed by object identity: which objects pass as inspected
after any order of inspections, field changes, copies, collections and late callbacks. -/
namespace PgLlmBatch
open Base

-- The schema and the backup module run the same code over a registry and a mark of their own.
inductive EvidenceKind where | schema | backup
  deriving DecidableEq, Repr

inductive ObjectType where | evidence (kind : EvidenceKind) | other
  deriving DecidableEq, Repr

-- Of a value that is neither an exact `str` nor an exact `int` only its identity is told.
inductive FieldValue where | str (s : PyStr) | int (n : Int) | other (n : Nat)
  deriving DecidableEq, Repr

inductive InspectionMark where | mark (kind : EvidenceKind) | other (n : Nat)
  deriving DecidableEq, Repr

structure PythonEvidence where
  type : ObjectType
  sha256 : FieldValue
  sizeBytes : FieldValue
  inspectionMark : InspectionMark
  deriving DecidableEq, Repr

def FieldValue.isStr : FieldValue → Bool
  | .str _ => true
  | _ => false

def FieldValue.isInt : FieldValue → Bool
  | .int _ => true
  | _ => false

def EvidenceKind.inspected (kind : EvidenceKind) (evidence : InspectionEvidence) : PythonEvidence :=
  ⟨.evidence kind,.str evidence.sha256,.int evidence.sizeBytes,.mark kind⟩

structure RegistryEntry where
  reference : Nat
  sha256 : FieldValue
  sizeBytes : FieldValue

-- `_INSPECTED_SCHEMA_EVIDENCE_IDS` and `_INSPECTED_BACKUP_EVIDENCE_IDS`.
abbrev EvidenceRegistry := Nat → Option RegistryEntry

def discard (registry : EvidenceRegistry) (evidenceId collected : Nat) : EvidenceRegistry :=
  match registry evidenceId with
  | none => registry
  | some current => if current.reference = collected then Function.update registry evidenceId none else registry

-- A call of an inspection function that has constructed its evidence and not yet returned it, with
-- the weak reference once it has one.
structure InspectionFrame where
  kind : EvidenceKind
  evidence : InspectionEvidence
  reference : Option Nat

abbrev EvidenceMemory := Memory PythonEvidence (EvidenceKind × Nat)

-- `returned` is what each inspection returned, by the number of the object.
structure EvidenceProcess where
  memory : EvidenceMemory
  registries : EvidenceKind → EvidenceRegistry
  frames : Nat → Option InspectionFrame
  returned : EvidenceKind → Nat → Option InspectionEvidence

def evidenceWasInspected (kind : EvidenceKind) (p : EvidenceProcess) (identity : Nat) (evidence : PythonEvidence) : Bool :=
  if evidence.type ≠ .evidence kind then false
  else match p.registries kind identity with
  | none => false
  | some observed =>
      decide (p.memory.deref observed.reference = some identity) && decide (evidence.inspectionMark = .mark kind) &&
        evidence.sha256.isStr && evidence.sizeBytes.isInt && decide (evidence.sha256 = observed.sha256) &&
        decide (evidence.sizeBytes = observed.sizeBytes)

def postgresSchemaEvidenceWasInspected := evidenceWasInspected .schema
def postgresBackupArtifactEvidenceWasInspected := evidenceWasInspected .backup

inductive ProvenanceEvent where
  | allocate (identity : Nat) (object : PythonEvidence)
  | copy (source identity : Nat)
  | mutate (identity : Nat) (object : PythonEvidence)
  | construct (kind : EvidenceKind) (evidence : InspectionEvidence) (identity : Nat)
  | abandon (identity : Nat)
  | refer (identity token : Nat)
  | record (identity : Nat)
  | collect (identity : Nat)
  | callback (token : Nat)
  deriving DecidableEq, Repr

namespace EvidenceProcess

def empty : EvidenceProcess := ⟨Memory.empty,fun _ _ => none,fun _ => none,fun _ _ => none⟩

-- With `ref(evidence, discard)` made; the entry replaced drops its reference.
def recordInspectedEvidence (p : EvidenceProcess) (kind : EvidenceKind) (evidence : InspectionEvidence) (identity reference : Nat)
    (cell : HeapCell PythonEvidence) : EvidenceProcess where
  memory := match p.registries kind identity with
    | none => p.memory
    | some replaced => p.memory.release replaced.reference
  registries := Function.update p.registries kind
    (Function.update (p.registries kind) identity (some ⟨reference,cell.content.sha256,cell.content.sizeBytes⟩))
  frames := Function.update p.frames identity none
  returned := Function.update p.returned kind (Function.update (p.returned kind) cell.serial (some evidence))

def recordInspectedSchemaEvidence (p : EvidenceProcess) := p.recordInspectedEvidence .schema
def recordInspectedBackupEvidence (p : EvidenceProcess) := p.recordInspectedEvidence .backup

-- An object whose inspection has not returned is held by it alone: nothing else changes it, and it
-- is not collected.
def step (p : EvidenceProcess) : ProvenanceEvent → Option EvidenceProcess
  | .allocate identity object => (p.memory.allocate identity object).map ({p with memory := ·})
  | .copy source identity =>
      (p.memory.cells source).bind (fun cell => (p.memory.allocate identity cell.content).map ({p with memory := ·}))
  | .mutate identity object =>
      if (p.frames identity).isSome then none else (p.memory.assign identity object).map ({p with memory := ·})
  | .construct kind evidence identity =>
      (p.memory.allocate identity (kind.inspected evidence)).map (fun memory =>
        {p with memory := memory, frames := Function.update p.frames identity (some ⟨kind,evidence,none⟩)})
  | .abandon identity => match p.frames identity with
      | some ⟨_,_,none⟩ => some {p with frames := Function.update p.frames identity none}
      | _ => none
  | .refer identity token => match p.frames identity with
      | some ⟨kind,evidence,none⟩ => (p.memory.refer token identity (kind,identity)).map (fun memory =>
          {p with memory := memory, frames := Function.update p.frames identity (some ⟨kind,evidence,some token⟩)})
      | _ => none
  | .record identity => match p.frames identity with
      | some ⟨.schema,evidence,some reference⟩ =>
          (p.memory.cells identity).map (p.recordInspectedSchemaEvidence evidence identity reference)
      | some ⟨.backup,evidence,some reference⟩ =>
          (p.memory.cells identity).map (p.recordInspectedBackupEvidence evidence identity reference)
      | _ => none
  | .collect identity =>
      if (p.frames identity).isSome then none else (p.memory.collect identity).map ({p with memory := ·})
  | .callback token => (p.memory.deliver token).map (fun (callback,memory) =>
      {p with
        memory := memory
        registries := Function.update p.registries callback.1 (discard (p.registries callback.1) callback.2 token)})

def Entered (m : EvidenceMemory) (returned : Nat → Option InspectionEvidence) (kind : EvidenceKind) (identity : Nat)
    (e : RegistryEntry) : Prop :=
  ∃ r, m.references e.reference = some r ∧ r.callback = (kind,identity) ∧
    (r.referent = none ∧ r.due = true ∨ r.referent = some identity ∧
      ∃ cell evidence, m.cells identity = some cell ∧ returned cell.serial = some evidence ∧
        e.sha256 = .str evidence.sha256 ∧ e.sizeBytes = .int evidence.sizeBytes)

-- What a registry holds is of an object that its inspection returned, or waits for a callback; and
-- every object returned has its entry for as long as it lives.
structure Linked (p : EvidenceProcess) : Prop where
  sound : p.memory.Sound
  held : ∀ {identity f}, p.frames identity = some f → ∃ cell, p.memory.cells identity = some cell ∧
    cell.content = f.kind.inspected f.evidence ∧ ∀ kind, p.returned kind cell.serial = none
  referred : ∀ {identity kind evidence token}, p.frames identity = some ⟨kind,evidence,some token⟩ →
    p.memory.references token = some ⟨some identity,(kind,identity),false⟩ ∧
    ∀ {kind' identity' e}, p.registries kind' identity' = some e → e.reference ≠ token
  entered : ∀ {kind identity e}, p.registries kind identity = some e → Entered p.memory (p.returned kind) kind identity e
  kept : ∀ {kind serial evidence}, p.returned kind serial = some evidence → serial < p.memory.nextSerial ∧
    ∀ {identity cell}, p.memory.cells identity = some cell → cell.serial = serial →
      ∃ e, p.registries kind identity = some e ∧ p.memory.deref e.reference = some identity

theorem emptyLinked : Linked empty where
  sound := Memory.emptySound
  held other := nomatch other
  referred other := nomatch other
  entered other := nomatch other
  kept other := nomatch other

variable {p p' : EvidenceProcess}

theorem allocateLinked {identity : Nat} {object : PythonEvidence} {m : EvidenceMemory}
    (linked : Linked p) (done : p.memory.allocate identity object = some m) : Linked {p with memory := m} := by
  have sound := Memory.allocateSound linked.sound done
  obtain ⟨free,rfl⟩ := Memory.allocateSome.mp done
  have same {a : Nat} {cell : HeapCell PythonEvidence} (here : p.memory.cells a = some cell) :
      Function.update p.memory.cells identity (some ⟨p.memory.nextSerial,object⟩) a = some cell :=
    (Function.update_of_ne (fun same => nomatch (same ▸ here).symm.trans free) _ _).trans here
  refine ⟨sound,fun framed => ?_,linked.referred,fun here => ?_,fun known => ?_⟩
  · obtain ⟨cell,here,rest⟩ := linked.held framed
    exact ⟨cell,same here,rest⟩
  · obtain ⟨r,found,called,gone | ⟨leads,cell,evidence,lives,rest⟩⟩ := linked.entered here
    · exact ⟨r,found,called,.inl gone⟩
    · exact ⟨r,found,called,.inr ⟨leads,cell,evidence,same lives,rest⟩⟩
  · obtain ⟨below,entry⟩ := linked.kept known
    refine ⟨Nat.lt_succ_of_lt below,fun here number => ?_⟩
    rcases Memory.updatedSome here with ⟨-,own⟩ | ⟨-,old⟩
    · cases own
      exact absurd number (Nat.ne_of_gt below)
    · exact entry old number

theorem assignLinked {identity : Nat} {object : PythonEvidence} {m : EvidenceMemory}
    (linked : Linked p) (free : p.frames identity = none) (done : p.memory.assign identity object = some m) :
    Linked {p with memory := m} := by
  have sound := Memory.assignSound linked.sound done
  obtain ⟨cell,own,rfl⟩ := Memory.assignSome.mp done
  refine ⟨sound,fun {a f} framed => ?_,linked.referred,fun {kind a e} here => ?_,fun known => ?_⟩
  · obtain ⟨other,here,rest⟩ := linked.held framed
    have apart : a ≠ identity := fun same => nomatch (same ▸ framed).symm.trans free
    exact ⟨other,(Function.update_of_ne apart _ _).trans here,rest⟩
  · obtain ⟨r,found,called,gone | ⟨leads,other,evidence,lives,known,rest⟩⟩ := linked.entered here
    · exact ⟨r,found,called,.inl gone⟩
    · refine ⟨r,found,called,.inr ⟨leads,?_⟩⟩
      rcases eq_or_ne a identity with rfl | apart
      · cases own.symm.trans lives
        exact ⟨_,evidence,Function.update_self a _ _,known,rest⟩
      · exact ⟨other,evidence,(Function.update_of_ne apart _ _).trans lives,known,rest⟩
  · obtain ⟨below,entry⟩ := linked.kept known
    refine ⟨below,fun here number => ?_⟩
    rcases Memory.updatedSome here with ⟨rfl,same⟩ | ⟨-,old⟩
    · cases same
      exact entry own number
    · exact entry old number

theorem constructLinked {identity : Nat} {kind : EvidenceKind} {evidence : InspectionEvidence}
    {m : EvidenceMemory} (linked : Linked p)
    (done : p.memory.allocate identity (kind.inspected evidence) = some m) :
    Linked {p with memory := m, frames := Function.update p.frames identity (some ⟨kind,evidence,none⟩)} := by
  have grown := allocateLinked linked done
  refine ⟨grown.sound,fun framed => ?_,fun framed => ?_,grown.entered,grown.kept⟩
  · rcases Memory.updatedSome framed with ⟨rfl,own⟩ | ⟨-,old⟩
    · cases own
      obtain ⟨-,rfl⟩ := Memory.allocateSome.mp done
      refine ⟨_,Function.update_self _ _ _,rfl,fun kind => ?_⟩
      cases known : p.returned kind p.memory.nextSerial with
      | none => rfl
      | some evidence => exact absurd (linked.kept known).1 (Nat.lt_irrefl _)
    · exact grown.held old
  · rcases Memory.updatedSome framed with ⟨-,own⟩ | ⟨-,old⟩
    · cases own
    · exact grown.referred old

theorem abandonLinked (linked : Linked p) (identity : Nat) :
    Linked {p with frames := Function.update p.frames identity none} := by
  refine ⟨linked.sound,fun framed => ?_,fun framed => ?_,linked.entered,linked.kept⟩
  · rcases Memory.updatedSome framed with ⟨-,other⟩ | ⟨-,old⟩
    · cases other
    · exact linked.held old
  · rcases Memory.updatedSome framed with ⟨-,other⟩ | ⟨-,old⟩
    · cases other
    · exact linked.referred old

theorem referLinked {identity token : Nat} {kind : EvidenceKind} {evidence : InspectionEvidence}
    {m : EvidenceMemory} (linked : Linked p)
    (framed : p.frames identity = some ⟨kind,evidence,none⟩)
    (done : p.memory.refer token identity (kind,identity) = some m) :
    Linked {p with memory := m, frames := Function.update p.frames identity (some ⟨kind,evidence,some token⟩)} := by
  have sound := Memory.referSound linked.sound done
  obtain ⟨-,free,rfl⟩ := Memory.referSome.mp done
  have same {t : Nat} {r : WeakReference (EvidenceKind × Nat)} (here : p.memory.references t = some r) :
      Function.update p.memory.references token (some ⟨some identity,(kind,identity),false⟩) t = some r :=
    (Function.update_of_ne (fun same => nomatch (same ▸ here).symm.trans free) _ _).trans here
  have taken {kind' : EvidenceKind} {identity' : Nat} {e : RegistryEntry} (here : p.registries kind' identity' = some e) :
      e.reference ≠ token := by
    obtain ⟨r,found,-⟩ := linked.entered here
    exact fun same => nomatch (same ▸ found).symm.trans free
  refine ⟨sound,fun framed' => ?_,fun framed' => ?_,fun here => ?_,fun known => ?_⟩
  · rcases Memory.updatedSome framed' with ⟨rfl,own⟩ | ⟨-,old⟩
    · cases own
      obtain ⟨cell,here,rest⟩ := linked.held framed
      exact ⟨cell,here,rest⟩
    · exact linked.held old
  · rcases Memory.updatedSome framed' with ⟨rfl,own⟩ | ⟨-,old⟩
    · cases own
      exact ⟨Function.update_self _ _ _,taken⟩
    · obtain ⟨here,apart⟩ := linked.referred old
      exact ⟨same here,apart⟩
  · obtain ⟨r,found,rest⟩ := linked.entered here
    exact ⟨r,same found,rest⟩
  · obtain ⟨below,entry⟩ := linked.kept known
    refine ⟨below,fun here number => ?_⟩
    obtain ⟨e,listed,leads⟩ := entry here number
    obtain ⟨r,found,referent⟩ := Option.bind_eq_some_iff.mp leads
    exact ⟨e,listed,Option.bind_eq_some_iff.mpr ⟨r,same found,referent⟩⟩

theorem collectLinked {identity : Nat} {m : EvidenceMemory} (linked : Linked p)
    (free : p.frames identity = none) (done : p.memory.collect identity = some m) : Linked {p with memory := m} := by
  have sound := Memory.collectSound linked.sound done
  obtain ⟨-,rfl⟩ := Memory.collectSome.mp done
  have same {a t : Nat} {r : WeakReference (EvidenceKind × Nat)} (apart : a ≠ identity)
      (here : p.memory.references t = some r) (leads : r.referent = some a) :
      (p.memory.references t).map (WeakReference.cleared identity) = some r := by
    rw [here,Option.map_some,Memory.clearedApart (fun other => apart (Option.some.inj (leads.symm.trans other)))]
  refine ⟨sound,fun {a f} framed => ?_,fun {a kind evidence token} framed => ?_,fun {kind a e} here => ?_,fun known => ?_⟩
  · obtain ⟨cell,here,rest⟩ := linked.held framed
    have apart : a ≠ identity := fun same => nomatch (same ▸ framed).symm.trans free
    exact ⟨cell,(Function.update_of_ne apart _ _).trans here,rest⟩
  · obtain ⟨here,entries⟩ := linked.referred framed
    exact ⟨same (fun same => nomatch (same ▸ framed).symm.trans free) here rfl,entries⟩
  · obtain ⟨r,found,called,rest⟩ := linked.entered here
    rcases eq_or_ne a identity with rfl | apart
    · refine ⟨r.cleared a,congrArg (Option.map _) found,?_,.inl ?_⟩
      · unfold WeakReference.cleared
        split
        · exact called
        · exact called
      · rcases rest with gone | ⟨leads,-⟩
        · rwa [Memory.clearedApart (by rw [gone.1]; exact fun other => nomatch other)]
        · rw [WeakReference.cleared,if_pos leads]
          exact ⟨rfl,rfl⟩
    · rcases rest with gone | ⟨leads,cell,evidence,lives,rest⟩
      · refine ⟨r,?_,called,.inl gone⟩
        change (p.memory.references e.reference).map _ = _
        rw [found,Option.map_some,Memory.clearedApart (by rw [gone.1]; exact fun other => nomatch other)]
      · exact ⟨r,same apart found leads,called,.inr ⟨leads,cell,evidence,(Function.update_of_ne apart _ _).trans lives,rest⟩⟩
  · obtain ⟨below,entry⟩ := linked.kept known
    refine ⟨below,fun here number => ?_⟩
    rcases Memory.updatedSome here with ⟨-,other⟩ | ⟨apart,old⟩
    · cases other
    · obtain ⟨e,listed,leads⟩ := entry old number
      obtain ⟨r,found,referent⟩ := Option.bind_eq_some_iff.mp leads
      exact ⟨e,listed,Option.bind_eq_some_iff.mpr ⟨r,same apart found referent,referent⟩⟩

theorem dueElsewhere {token identity : Nat} {callback : EvidenceKind × Nat} {m : EvidenceMemory}
    (sound : p.memory.Sound) (done : p.memory.deliver token = some (callback,m)) {t : Nat}
    (leads : p.memory.deref t = some identity) : t ≠ token := by
  obtain ⟨⟨referent,due⟩,-⟩ := Memory.deliverSome.mp done
  obtain ⟨r,found,referent⟩ := Option.bind_eq_some_iff.mp leads
  rintro rfl
  cases found.symm.trans due
  exact nomatch (sound.alive found referent).1

theorem discardKept {registry : EvidenceRegistry} {evidenceId collected identity : Nat} {e : RegistryEntry}
    (here : registry identity = some e) (apart : e.reference ≠ collected) :
    discard registry evidenceId collected identity = some e := by
  unfold discard
  cases found : registry evidenceId with
  | none => exact here
  | some current =>
    dsimp only
    split
    · rename_i own
      rcases eq_or_ne identity evidenceId with rfl | other
      · cases found.symm.trans here
        exact absurd own apart
      · exact (Function.update_of_ne other _ _).trans here
    · exact here

theorem discardSource {registry : EvidenceRegistry} {evidenceId collected identity : Nat} {e : RegistryEntry}
    (here : discard registry evidenceId collected identity = some e) :
    registry identity = some e ∧ (identity = evidenceId → e.reference ≠ collected) := by
  unfold discard at here
  cases found : registry evidenceId with
  | none =>
    rw [found] at here
    exact ⟨here,fun same => nomatch (same ▸ found).symm.trans here⟩
  | some current =>
    rw [found] at here
    dsimp only at here
    split at here
    · rcases Memory.updatedSome here with ⟨-,other⟩ | ⟨apart,old⟩
      · cases other
      · exact ⟨old,fun same => absurd same apart⟩
    · rename_i other
      refine ⟨here,fun same => ?_⟩
      cases (same ▸ found).symm.trans here
      exact other

theorem callbackLinked {token : Nat} {callback : EvidenceKind × Nat} {m : EvidenceMemory} (linked : Linked p)
    (done : p.memory.deliver token = some (callback,m)) :
    Linked {p with
      memory := m
      registries := Function.update p.registries callback.1 (discard (p.registries callback.1) callback.2 token)} := by
  have sound := Memory.deliverSound linked.sound done
  have elsewhere {t a : Nat} (leads : p.memory.deref t = some a) : t ≠ token := dueElsewhere linked.sound done leads
  obtain ⟨⟨referent,due⟩,rfl⟩ := Memory.deliverSome.mp done
  have same {t : Nat} {r : WeakReference (EvidenceKind × Nat)} (apart : t ≠ token) (here : p.memory.references t = some r) :
      Function.update p.memory.references token none t = some r := (Function.update_of_ne apart _ _).trans here
  have still {kind : EvidenceKind} {a : Nat} {e : RegistryEntry} (here : p.registries kind a = some e)
      (apart : e.reference ≠ token) :
      Function.update p.registries callback.1 (discard (p.registries callback.1) callback.2 token) kind a = some e := by
    rcases eq_or_ne kind callback.1 with rfl | other
    · rw [Function.update_self]
      exact discardKept here apart
    · rw [Function.update_of_ne other]
      exact here
  have was {kind : EvidenceKind} {a : Nat} {e : RegistryEntry}
      (here : Function.update p.registries callback.1 (discard (p.registries callback.1) callback.2 token) kind a = some e) :
      p.registries kind a = some e ∧ e.reference ≠ token := by
    have before : p.registries kind a = some e ∧ (kind = callback.1 → a = callback.2 → e.reference ≠ token) := by
      rcases eq_or_ne kind callback.1 with rfl | other
      · rw [Function.update_self] at here
        obtain ⟨listed,apart⟩ := discardSource here
        exact ⟨listed,fun _ => apart⟩
      · rw [Function.update_of_ne other] at here
        exact ⟨here,fun same => absurd same other⟩
    obtain ⟨r,found,called,-⟩ := linked.entered before.1
    refine ⟨before.1,fun own => ?_⟩
    cases (own ▸ found).symm.trans due
    exact before.2 (congrArg Prod.fst called).symm (congrArg Prod.snd called).symm own
  refine ⟨sound,linked.held,fun framed => ?_,fun here => ?_,fun known => ?_⟩
  · obtain ⟨here,entries⟩ := linked.referred framed
    refine ⟨same (elsewhere (Option.bind_eq_some_iff.mpr ⟨_,here,rfl⟩)) here,fun listed => entries (was listed).1⟩
  · obtain ⟨listed,apart⟩ := was here
    obtain ⟨r,found,rest⟩ := linked.entered listed
    exact ⟨r,same apart found,rest⟩
  · obtain ⟨below,entry⟩ := linked.kept known
    refine ⟨below,fun here number => ?_⟩
    obtain ⟨e,listed,leads⟩ := entry here number
    obtain ⟨r,found,referent⟩ := Option.bind_eq_some_iff.mp leads
    exact ⟨e,still listed (elsewhere leads),Option.bind_eq_some_iff.mpr ⟨r,same (elsewhere leads) found,referent⟩⟩

section
variable {identity reference : Nat} {kind : EvidenceKind} {evidence : InspectionEvidence} {cell : HeapCell PythonEvidence}

-- What stood at the identity was of an object collected before, and waits for its callback.
theorem recordMemory (linked : Linked p) (framed : p.frames identity = some ⟨kind,evidence,some reference⟩)
    (own : p.memory.cells identity = some cell) :
    (p.recordInspectedEvidence kind evidence identity reference cell).memory = p.memory := by
  obtain ⟨_,own',-,unknown⟩ := linked.held framed
  cases own.symm.trans own'
  unfold recordInspectedEvidence
  dsimp only
  cases replaced : p.registries kind identity with
  | none => rfl
  | some e =>
    rcases Memory.releaseCases p.memory e.reference with same | ⟨⟨r,found,idle⟩,-⟩
    · exact same
    · obtain ⟨r',found',_,gone | ⟨_,other,evidence',lives,known,-⟩⟩ := linked.entered replaced
      · cases found.symm.trans found'
        exact nomatch idle.symm.trans gone.2
      · cases own.symm.trans lives
        exact nomatch (unknown kind).symm.trans known

theorem recordReturned : (p.recordInspectedEvidence kind evidence identity reference cell).returned kind cell.serial =
    some evidence := by
  unfold recordInspectedEvidence
  dsimp only
  rw [Function.update_self,Function.update_self]

theorem recordReturnedApart {kind' : EvidenceKind} {serial : Nat} (apart : serial ≠ cell.serial) :
    (p.recordInspectedEvidence kind evidence identity reference cell).returned kind' serial = p.returned kind' serial := by
  unfold recordInspectedEvidence
  dsimp only
  rcases eq_or_ne kind' kind with rfl | other
  · rw [Function.update_self,Function.update_of_ne apart]
  · rw [Function.update_of_ne other]

theorem recordReturnedOther {kind' : EvidenceKind} (other : kind' ≠ kind) (serial : Nat) :
    (p.recordInspectedEvidence kind evidence identity reference cell).returned kind' serial = p.returned kind' serial := by
  unfold recordInspectedEvidence
  dsimp only
  rw [Function.update_of_ne other]

theorem recordListed : (p.recordInspectedEvidence kind evidence identity reference cell).registries kind identity =
    some ⟨reference,cell.content.sha256,cell.content.sizeBytes⟩ := by
  unfold recordInspectedEvidence
  dsimp only
  rw [Function.update_self,Function.update_self]

theorem recordUnlisted {kind' : EvidenceKind} {a : Nat} (apart : ¬(kind' = kind ∧ a = identity)) :
    (p.recordInspectedEvidence kind evidence identity reference cell).registries kind' a = p.registries kind' a := by
  unfold recordInspectedEvidence
  dsimp only
  rcases eq_or_ne kind' kind with rfl | other
  · rw [Function.update_self,Function.update_of_ne (fun same => apart ⟨rfl,same⟩)]
  · rw [Function.update_of_ne other]

theorem recordCases {kind' : EvidenceKind} {a : Nat} {e : RegistryEntry}
    (here : (p.recordInspectedEvidence kind evidence identity reference cell).registries kind' a = some e) :
    kind' = kind ∧ a = identity ∧ e = ⟨reference,cell.content.sha256,cell.content.sizeBytes⟩ ∨
      ¬(kind' = kind ∧ a = identity) ∧ p.registries kind' a = some e := by
  by_cases same : kind' = kind ∧ a = identity
  · obtain ⟨rfl,rfl⟩ := same
    rw [recordListed] at here
    exact .inl ⟨rfl,rfl,(Option.some.inj here).symm⟩
  · rw [recordUnlisted same] at here
    exact .inr ⟨same,here⟩

theorem recordEntered (linked : Linked p) (framed : p.frames identity = some ⟨kind,evidence,some reference⟩)
    (own : p.memory.cells identity = some cell) {kind' : EvidenceKind} {a : Nat} {e : RegistryEntry}
    (here : (p.recordInspectedEvidence kind evidence identity reference cell).registries kind' a = some e) :
    Entered p.memory ((p.recordInspectedEvidence kind evidence identity reference cell).returned kind') kind' a e := by
  obtain ⟨referent,-⟩ := linked.referred framed
  obtain ⟨_,own',content,unknown⟩ := linked.held framed
  cases own.symm.trans own'
  rcases recordCases here with ⟨rfl,rfl,rfl⟩ | ⟨-,before⟩
  · refine ⟨_,referent,rfl,.inr ⟨rfl,cell,evidence,own,recordReturned,?_,?_⟩⟩
    · rw [content]
      rfl
    · rw [content]
      rfl
  · obtain ⟨r,found,called,gone | ⟨leads,other,evidence',lives,known,rest⟩⟩ := linked.entered before
    · exact ⟨r,found,called,.inl gone⟩
    · have serial : other.serial ≠ cell.serial := by
        intro same
        cases linked.sound.distinct lives own same
        cases own.symm.trans lives
        exact nomatch (unknown kind').symm.trans known
      exact ⟨r,found,called,.inr ⟨leads,other,evidence',lives,(recordReturnedApart serial).trans known,rest⟩⟩

theorem recordKept (linked : Linked p) (framed : p.frames identity = some ⟨kind,evidence,some reference⟩)
    (own : p.memory.cells identity = some cell) {kind' : EvidenceKind} {serial : Nat} {evidence' : InspectionEvidence}
    (known : (p.recordInspectedEvidence kind evidence identity reference cell).returned kind' serial = some evidence') :
    serial < p.memory.nextSerial ∧ ∀ {a other}, p.memory.cells a = some other → other.serial = serial →
      ∃ e, (p.recordInspectedEvidence kind evidence identity reference cell).registries kind' a = some e ∧
        p.memory.deref e.reference = some a := by
  obtain ⟨referent,-⟩ := linked.referred framed
  obtain ⟨_,own',-,unknown⟩ := linked.held framed
  cases own.symm.trans own'
  rcases eq_or_ne serial cell.serial with rfl | apart
  · have same : kind' = kind := by
      by_contra other
      rw [recordReturnedOther other] at known
      exact nomatch (unknown kind').symm.trans known
    subst same
    refine ⟨linked.sound.numbered own,fun {a other} here number => ?_⟩
    cases linked.sound.distinct here own number
    exact ⟨_,recordListed,Option.bind_eq_some_iff.mpr ⟨_,referent,rfl⟩⟩
  · rw [recordReturnedApart apart] at known
    obtain ⟨below,entry⟩ := linked.kept known
    refine ⟨below,fun {a other} here number => ?_⟩
    obtain ⟨e,before,leads⟩ := entry here number
    refine ⟨e,(recordUnlisted fun same => apart ?_).trans before,leads⟩
    obtain ⟨-,rfl⟩ := same
    cases own.symm.trans here
    exact number.symm

theorem recordLinked (linked : Linked p) (framed : p.frames identity = some ⟨kind,evidence,some reference⟩)
    (own : p.memory.cells identity = some cell) : Linked (p.recordInspectedEvidence kind evidence identity reference cell) := by
  obtain ⟨referent,-⟩ := linked.referred framed
  have memory := recordMemory linked framed own
  refine ⟨by rw [memory]; exact linked.sound,fun {a f} framed' => ?_,fun {a kind' evidence' token} framed' => ?_,
    fun here => ?_,fun known => ?_⟩
  · rcases Memory.updatedSome framed' with ⟨-,other⟩ | ⟨apart,old⟩
    · cases other
    · obtain ⟨other,lives,content,unknown⟩ := linked.held old
      rw [memory]
      have serial : other.serial ≠ cell.serial := fun same => apart (linked.sound.distinct lives own same)
      exact ⟨other,lives,content,fun kind' => (recordReturnedApart serial).trans (unknown kind')⟩
  · rcases Memory.updatedSome framed' with ⟨-,other⟩ | ⟨apart,old⟩
    · cases other
    · obtain ⟨found,others⟩ := linked.referred old
      rw [memory]
      refine ⟨found,fun here => ?_⟩
      rcases recordCases here with ⟨-,-,rfl⟩ | ⟨-,before⟩
      · rintro rfl
        cases referent.symm.trans found
        exact apart rfl
      · exact others before
  · rw [memory]
    exact recordEntered linked framed own here
  · rw [memory]
    exact recordKept linked framed own known

end

theorem stepLinked (event : ProvenanceEvent) (linked : Linked p) (done : step p event = some p') : Linked p' := by
  cases event with
  | allocate identity object =>
    obtain ⟨m,made,rfl⟩ := Option.map_eq_some_iff.mp done
    exact allocateLinked linked made
  | copy source identity =>
    obtain ⟨cell,-,copied⟩ := Option.bind_eq_some_iff.mp done
    obtain ⟨m,made,rfl⟩ := Option.map_eq_some_iff.mp copied
    exact allocateLinked linked made
  | mutate identity object =>
    unfold step at done
    dsimp only at done
    split at done
    · cases done
    · rename_i free
      obtain ⟨m,made,rfl⟩ := Option.map_eq_some_iff.mp done
      exact assignLinked linked (Option.not_isSome_iff_eq_none.mp free) made
  | construct kind evidence identity =>
    obtain ⟨m,made,rfl⟩ := Option.map_eq_some_iff.mp done
    exact constructLinked linked made
  | abandon identity =>
    unfold step at done
    dsimp only at done
    split at done
    · cases done
      exact abandonLinked linked identity
    · cases done
  | refer identity token =>
    unfold step at done
    dsimp only at done
    split at done
    · rename_i framed
      obtain ⟨m,made,rfl⟩ := Option.map_eq_some_iff.mp done
      exact referLinked linked framed made
    · cases done
  | record identity =>
    unfold step at done
    dsimp only at done
    split at done
    · rename_i framed
      obtain ⟨cell,own,rfl⟩ := Option.map_eq_some_iff.mp done
      exact recordLinked linked framed own
    · rename_i framed
      obtain ⟨cell,own,rfl⟩ := Option.map_eq_some_iff.mp done
      exact recordLinked linked framed own
    · cases done
  | collect identity =>
    unfold step at done
    dsimp only at done
    split at done
    · cases done
    · rename_i free
      obtain ⟨m,made,rfl⟩ := Option.map_eq_some_iff.mp done
      exact collectLinked linked (Option.not_isSome_iff_eq_none.mp free) made
  | callback token =>
    obtain ⟨⟨callback,m⟩,made,rfl⟩ := Option.map_eq_some_iff.mp done
    exact callbackLinked linked made

theorem callbackSpares {token : Nat} (linked : Linked p) (done : step p (.callback token) = some p') {kind : EvidenceKind}
    {identity : Nat} {cell : HeapCell PythonEvidence} {evidence : InspectionEvidence}
    (lives : p.memory.cells identity = some cell) (known : p.returned kind cell.serial = some evidence) :
    p'.registries kind identity = p.registries kind identity := by
  obtain ⟨⟨callback,m⟩,made,rfl⟩ := Option.map_eq_some_iff.mp done
  obtain ⟨e,listed,leads⟩ := (linked.kept known).2 lives rfl
  have apart := dueElsewhere linked.sound made leads
  dsimp only
  rcases eq_or_ne kind callback.1 with rfl | other
  · rw [Function.update_self,listed]
    exact discardKept listed apart
  · rw [Function.update_of_ne other]

theorem queryAnswers (linked : Linked p) (kind : EvidenceKind) {identity : Nat} {cell : HeapCell PythonEvidence}
    (lives : p.memory.cells identity = some cell) :
    evidenceWasInspected kind p identity cell.content = true ↔
      ∃ evidence, p.returned kind cell.serial = some evidence ∧ cell.content = kind.inspected evidence := by
  unfold evidenceWasInspected
  constructor
  · intro passed
    split at passed
    · cases passed
    rename_i type
    split at passed
    · cases passed
    rename_i observed listed
    simp only [Bool.and_eq_true,decide_eq_true_eq] at passed
    obtain ⟨⟨⟨⟨⟨leads,mark⟩,_⟩,_⟩,digest⟩,size⟩ := passed
    obtain ⟨r,found,called,gone | ⟨_,other,evidence,here,known,text,number⟩⟩ := linked.entered listed
    · obtain ⟨r',found',referent⟩ := Option.bind_eq_some_iff.mp leads
      cases found.symm.trans found'
      exact nomatch gone.1.symm.trans referent
    · cases lives.symm.trans here
      refine ⟨evidence,known,?_⟩
      obtain ⟨serial,type',sha256,sizeBytes,inspectionMark⟩ := cell
      simp only [EvidenceKind.inspected,PythonEvidence.mk.injEq]
      exact ⟨not_not.mp type,digest.trans text,size.trans number,mark⟩
  · rintro ⟨evidence,known,content⟩
    obtain ⟨e,listed,leads⟩ := (linked.kept known).2 lives rfl
    obtain ⟨r,found,called,gone | ⟨_,other,evidence',here,known',text,number⟩⟩ := linked.entered listed
    · obtain ⟨r',found',referent⟩ := Option.bind_eq_some_iff.mp leads
      cases found.symm.trans found'
      exact nomatch gone.1.symm.trans referent
    · cases lives.symm.trans here
      cases known.symm.trans known'
      rw [if_neg (by rw [content]; exact not_not.mpr rfl),listed]
      simp only [leads,text,number,content,EvidenceKind.inspected,FieldValue.isStr,FieldValue.isInt,decide_true,Bool.and_self]

end EvidenceProcess

theorem inspectionProvenance {events : List ProvenanceEvent} {p : EvidenceProcess}
    (ran : Runs.run EvidenceProcess.step EvidenceProcess.empty events = some p) {identity : Nat}
    {cell : HeapCell PythonEvidence} (lives : p.memory.cells identity = some cell) :
    (postgresSchemaEvidenceWasInspected p identity cell.content = true ↔
      ∃ evidence, p.returned .schema cell.serial = some evidence ∧ cell.content = EvidenceKind.schema.inspected evidence) ∧
    (postgresBackupArtifactEvidenceWasInspected p identity cell.content = true ↔
      ∃ evidence, p.returned .backup cell.serial = some evidence ∧ cell.content = EvidenceKind.backup.inspected evidence) ∧
    ∀ token p', EvidenceProcess.step p (.callback token) = some p' → ∀ kind evidence,
      p.returned kind cell.serial = some evidence → p'.registries kind identity = p.registries kind identity := by
  have linked := Runs.runInvariant (fun _ event _ linked done => EvidenceProcess.stepLinked event linked done)
    EvidenceProcess.emptyLinked ran
  exact ⟨EvidenceProcess.queryAnswers linked .schema lives,EvidenceProcess.queryAnswers linked .backup lives,
    fun token p' done kind evidence known => EvidenceProcess.callbackSpares linked done lives known⟩

-- A second inspection gets the identity of the first one's object before the callback of that has run.
def identityReused : List ProvenanceEvent :=
  [.construct .schema ⟨py "00",1⟩ 7,.refer 7 0,.record 7,.collect 7,.construct .schema ⟨py "ff",2⟩ 7,.refer 7 1,.record 7,
    .callback 0]

theorem reusedIdentityInspected : ∃ p cell, Runs.run EvidenceProcess.step EvidenceProcess.empty identityReused = some p ∧
    p.memory.cells 7 = some cell ∧ postgresSchemaEvidenceWasInspected p 7 cell.content = true := by
  have reached : ∃ p, Runs.run EvidenceProcess.step EvidenceProcess.empty identityReused = some p ∧
      p.memory.cells 7 = some ⟨1,EvidenceKind.schema.inspected ⟨py "ff",2⟩⟩ ∧ p.returned .schema 1 = some ⟨py "ff",2⟩ :=
    ⟨_,rfl,rfl,rfl⟩
  obtain ⟨p,ran,lives,known⟩ := reached
  exact ⟨p,_,ran,lives,(inspectionProvenance ran lives).1.mpr ⟨_,known,rfl⟩⟩

end PgLlmBatch
