import PgLlmBatch.Base.Discipline
import PgLlmBatch.GatewayUrl
import PgLlmBatch.PayloadRoundTrip

/-! What every committed file and payload of preparation has, in every run: a `memory://` path that
names its own payload, and a payload of at least one line that UTF-8 can encode. -/
namespace PgLlmBatch.Preparation
open Base
open Base.Pool (Caller)
open Base.Discipline (Rules Obeys)

def memoryScheme : PyStr := py "memory://"

def Generated (uuid : PyStr) : Prop := uuid.length ≤ 36 ∧ ∀ c ∈ uuid, (c.alphanumeric || c == chr '-') = true

def FilledLines (lines : List PyStr) : Prop := lines ≠ [] ∧ ∀ l ∈ lines, ∀ c ∈ l, c.surrogate = false

def NamedFile (filePath payloadFileId : PyStr) : Prop :=
  filePath = memoryScheme ++ payloadFileId ∧ ∃ hex, Generated hex ∧ payloadFileId = newPayloadFileId hex

def FilledPayload (row : BatchFilePayload) : Prop := ∃ lines, FilledLines lines ∧ row.content = payloadDocument lines

def mayWrite : Statement → Prop
  | .insertPayload row => FilledPayload row
  | .insertFile _ _ filePath _ _ _ payloadFileId => NamedFile filePath payloadFileId
  | _ => True

def generates : (s : Statement) → Reply s → Prop
  | .uuid4, .ok hex => Generated hex
  | _, _ => True

def fileRules : Rules Statement Reply := ⟨mayWrite,generates⟩

section
variable {α : Type}

theorem obeysQuery {s : Statement} {next : Result s → Code α} (allowed : mayWrite s)
    (rest : ∀ r, generates s (.ok r) → Obeys fileRules (next r)) : Obeys fileRules (query s >>= next) := by
  refine ⟨allowed,fun reply given => ?_⟩
  cases reply with
  | error e => trivial
  | ok r => exact rest r given

theorem obeysTransaction {body : Code α} (obeys : Obeys fileRules body) : Obeys fileRules (transaction body) := by
  refine Discipline.obeysHandle obeys (fun e => ⟨trivial,fun reply _ => ?_⟩)
  trivial

end

theorem assignObeys (b : Nat) (fileId fileUuid : PyStr) (part : BatchPayloadPart) :
    Obeys fileRules (assignLines b fileId fileUuid part) := by
  unfold assignLines
  dsimp only
  split
  · trivial
  refine obeysQuery trivial (fun _ _ => obeysQuery trivial (fun count _ => ?_))
  split <;> trivial

theorem persistPartObeys (b queue : Nat) {part : BatchPayloadPart} (filled : FilledLines part.lines) :
    Obeys fileRules (persistPart b queue part) := by
  unfold persistPart
  refine obeysQuery trivial (fun hex generated => ?_)
  refine obeysQuery ⟨part.lines,filled,rfl⟩ (fun _ _ => ?_)
  refine obeysQuery ⟨rfl,hex,generated,rfl⟩ (fun row _ => ?_)
  cases row with
  | none => trivial
  | some fileUuid => exact Discipline.obeysBind (assignObeys _ _ _ _) (fun _ => trivial)

theorem persistPartsObeys (b queue limit : Nat) {parts : List BatchPayloadPart}
    (filled : ∀ part ∈ parts, FilledLines part.lines) (idx : Nat) (done : Prepared) :
    Obeys fileRules (persistParts b queue limit idx done parts) := by
  induction parts generalizing idx done with
  | nil => trivial
  | cons part parts ih =>
    refine Discipline.obeysBind (persistPartObeys b queue (filled part List.mem_cons_self)) (fun payload => ?_)
    exact ih (fun p here => filled p (List.mem_cons_of_mem _ here)) _ _

theorem persistObeys {parts : List BatchPayloadPart} (filled : ∀ part ∈ parts, FilledLines part.lines)
    (batch : BatchSelector) (counter : TokenCounter) : Obeys fileRules (persistPayloads parts batch counter) := by
  refine obeysTransaction (obeysQuery trivial (fun _ _ => obeysQuery trivial (fun row _ => ?_)))
  cases row with
  | none => trivial
  | some queue =>
    refine Discipline.obeysBind (obeysQuery trivial (fun rows _ => ?_)) (fun existing => ?_)
    · split <;> trivial
    · cases existing with
      | none =>
        refine Discipline.obeysBind (persistPartsObeys _ _ _ filled _ _) (fun done => ?_)
        exact obeysQuery trivial (fun _ _ => obeysQuery trivial (fun _ _ => trivial))
      | some existing =>
        refine obeysQuery trivial (fun unassigned _ => ?_)
        split
        · trivial
        · exact obeysQuery trivial (fun _ _ => trivial)

theorem assembledFilled {i : Interpreter} {counter : TokenCounter} {lookup : Nat → PyStr → Option ModelMetadata}
    {rows : List RequestRow} {payloads : List BatchPayloadPart} (h : assemblePayloads i counter lookup rows = .ok payloads) :
    ∀ part ∈ payloads, FilledLines part.lines := by
  obtain ⟨es,encoded,packed⟩ := assembledPacked h
  obtain ⟨gs,joined,holds,-⟩ := packed.packs
  intro part member
  refine ⟨packedFilled holds part member,fun l here c inside => ?_⟩
  obtain ⟨g,listed,held⟩ := partnerOf holds member
  rw [held.lines] at here
  obtain ⟨e,own,rfl⟩ := List.mem_map.mp here
  have known : e ∈ es := by
    rw [← joined]
    exact List.mem_flatten_of_mem listed own
  obtain ⟨metadata,r,made⟩ := rowsEncodeEach encoded e known
  obtain ⟨line,dumped,written⟩ := lineWritten i metadata r
  rw [made.line] at dumped
  cases dumped
  exact (lineSpelled i written c inside).2

theorem changesObey (changes : List Change) : Obeys fileRules (performAll changes) := by
  induction changes with
  | nil => trivial
  | cons change changes ih =>
    refine Discipline.obeysBind ?_ (fun _ => ih)
    cases change with
    | insertBatch row => exact ⟨trivial,fun reply _ => by cases reply <;> trivial⟩
    | insertRequest row batch createdAt => exact ⟨trivial,fun reply _ => by cases reply <;> trivial⟩
    | updateStatus request status => exact obeysQuery trivial (fun _ _ => trivial)

theorem callsObey (i : Interpreter) (call : Call) : Obeys fileRules (code i call) := by
  cases call with
  | prepare p =>
    refine Discipline.obeysBind (Discipline.obeysOfExcept (fun limit _ => ?_)) (fun _ => trivial)
    refine obeysQuery trivial (fun rows _ => Discipline.obeysOfExcept (fun payloads made => ?_))
    exact persistObeys (assembledFilled made) _ _
  | change changes =>
    refine obeysTransaction (Discipline.obeysBind (changesObey changes) (fun _ => ?_))
    exact obeysQuery trivial (fun _ _ => trivial)

structure FilesNamed (files : List BatchFile) (payloads : List BatchFilePayload) : Prop where
  named : ∀ f ∈ files, NamedFile f.filePath f.payloadFileId
  filled : ∀ row ∈ payloads, FilledPayload row

def WritesNamed (ws : List Write) : Prop := FilesNamed (newFiles ws) (newPayloads ws)
def ServerNamed (sv : Server) : Prop := FilesNamed sv.tables.files sv.tables.payloads

theorem namedAppend {ws new : List Write} (h : WritesNamed ws) (more : WritesNamed new) : WritesNamed (ws ++ new) := by
  constructor
  · intro f member
    rw [newFiles,List.filterMap_append] at member
    exact (List.mem_append.mp member).elim (h.named f) (more.named f)
  · intro row member
    rw [newPayloads,List.filterMap_append] at member
    exact (List.mem_append.mp member).elim (h.filled row) (more.filled row)

theorem namedOther {new : List Write} (files : newFiles new = []) (payloads : newPayloads new = []) : WritesNamed new := by
  rw [WritesNamed,files,payloads]
  exact ⟨by simp,by simp⟩

theorem namedMapped {β : Type} {make : β → Write} (l : List β) (files : ∀ b, (make b).file? = none)
    (payloads : ∀ b, (make b).payload? = none) : WritesNamed (l.map make) := by
  refine namedOther ?_ ?_
  · rw [newFiles,List.filterMap_map,List.filterMap_eq_nil_iff]
    exact fun b _ => files b
  · rw [newPayloads,List.filterMap_map,List.filterMap_eq_nil_iff]
    exact fun b _ => payloads b

theorem serverCommitted {sv : Server} (h : ServerNamed sv) {c : Commit} (writes : WritesNamed c.writes) :
    ServerNamed (sv.commit c) := by
  rw [ServerNamed,commitTables]
  constructor
  · intro f member
    rw [writeAllFiles] at member
    exact (List.mem_append.mp member).elim (h.named f) (writes.named f)
  · intro row member
    rw [writeAllPayloads] at member
    exact (Table.memPutAll member).elim (writes.filled row) (h.filled row)

section
variable {c : Caller Call} {choice : Choice} {sv out : Server} {tx tx' : Transaction}

theorem writesNamed {s : Statement} {new : List Write} (allowed : mayWrite s) (h : Writes s new) : WritesNamed new := by
  cases h with
  | payload row =>
    have filled : FilledPayload row := allowed
    exact ⟨by simp [newFiles,Write.file?],by simpa [newPayloads,Write.payload?] using filled⟩
  | file uuid batch queue filePath partIndex requestCount totalTokens payloadFileId =>
    have named : NamedFile filePath payloadFileId := allowed
    exact ⟨by simpa [newFiles,Write.file?] using named,by simp [newPayloads,Write.payload?]⟩
  | lines rows accepted => exact namedMapped _ (fun _ => rfl) (fun _ => rfl)
  | assigned fileUuid batch requestIds rows => exact namedMapped _ (fun _ => rfl) (fun _ => rfl)
  | totals | batch | request | status => exact namedOther rfl rfl

theorem performGenerates {s : Statement} {reply : Except PyError (Result s)} (generated : Generated choice.uuid)
    (h : perform c choice sv tx s = some (reply,out,tx')) : generates s reply := by
  cases s with
  | uuid4 =>
    simp only [perform] at h
    split at h <;> cases h
    exact generated
  | _ => trivial

theorem performNamed {s : Statement} {reply : Except PyError (Result s)} (allowed : mayWrite s)
    (shared : ServerNamed sv) (own : WritesNamed tx.writes) (h : perform c choice sv tx s = some (reply,out,tx')) :
    ServerNamed out ∧ WritesNamed tx'.writes := by
  cases plain : s.plain with
  | true =>
    cases performSource plain h with
    | kept quiet => exact ⟨by rwa [ServerNamed,quietTables quiet],own⟩
    | wrote quiet writes => exact ⟨by rwa [ServerNamed,quietTables quiet],namedAppend own (writesNamed allowed writes)⟩
  | false =>
    cases s with
    | commit =>
      cases h
      exact ⟨serverCommitted shared own,namedOther rfl rfl⟩
    | rollback =>
      cases h
      exact ⟨shared,namedOther rfl rfl⟩
    | _ => cases plain

end

theorem filesKeep (i : Interpreter) : Discipline.Keeps engine (code i) fileRules ServerNamed
    (fun tx => WritesNamed tx.writes) (fun choice => Generated choice.uuid) where
  fresh := namedOther rfl rfl
  calls := callsObey i
  exec c s choice sv tx reply out tx' allowed generated shared own ran := by
    rcases executeSource ran with ⟨-,state,rfl,rfl,rfl⟩ | performed
    · exact ⟨by cases s <;> trivial,shared,own⟩
    · exact ⟨performGenerates generated performed,performNamed allowed shared own performed⟩
  committed _ _ _ shared _ := shared
  rolledBack _ _ _ shared := shared

def GeneratedIds : Pool.Event Call Choice → Prop := Discipline.ChosenBy (fun choice => Generated choice.uuid)

theorem reachableNamed {i : Interpreter} {es : List (Pool.Event Call Choice)} {w : World} (ran : run i es = some w)
    (generated : ∀ e ∈ es, GeneratedIds e) : ServerNamed w.shared :=
  (Discipline.reachableOrderly (filesKeep i) ⟨by simp [noTransaction,Server.tables,tablesAfter,Tables.empty],
    by simp [noTransaction,Server.tables,tablesAfter,Tables.empty]⟩ generated ran).shared

end PgLlmBatch.Preparation
