import PgLlmBatch.BatchPreparation
import PgLlmBatch.Base.RelyGuarantee

/-! What every committed state of the preparation tables has, what a transaction may do to
what another one counts on, and when a commit keeps both. -/
namespace PgLlmBatch.Preparation
open Base
open Base.JsonText (loads strictHooks)

def Write.file? : Write → Option BatchFile
  | .file row => some row
  | _ => none
def Write.line? : Write → Option JsonlLine
  | .line row => some row
  | _ => none
def Write.payload? : Write → Option BatchFilePayload
  | .payload row => some row
  | _ => none
def Write.request? : Write → Option Request
  | .request row => some row
  | _ => none
def Write.batch? : Write → Option Batch
  | .batch row => some row
  | _ => none

def newFiles (ws : List Write) : List BatchFile := ws.filterMap Write.file?
def newLines (ws : List Write) : List JsonlLine := ws.filterMap Write.line?
def newPayloads (ws : List Write) : List BatchFilePayload := ws.filterMap Write.payload?
def newRequests (ws : List Write) : List Request := ws.filterMap Write.request?
def newBatches (ws : List Write) : List Batch := ws.filterMap Write.batch?
def newFilesOf (ws : List Write) (batch : Nat) : List BatchFile :=
  (newFiles ws).filter (fun f => f.batchUuid = batch)

theorem writeAllTables (db : Tables) (ws : List Write) : db.writeAll ws =
    ⟨Table.putAll Batch.batchUuid (newBatches ws) db.batches,db.files ++ newFiles ws,
      Table.putAll BatchFilePayload.fileId (newPayloads ws) db.payloads,db.lines ++ newLines ws,
      Table.putAll Request.key (newRequests ws) db.requests⟩ := by
  induction ws generalizing db with
  | nil => simp [Tables.writeAll,newBatches,newFiles,newPayloads,newLines,newRequests]
  | cons w ws ih =>
    have next : db.writeAll (w::ws) = (db.write w).writeAll ws := rfl
    rw [next,ih]
    cases w with
    | batch row => rfl
    | file row =>
      have grown : db.files ++ [row] ++ newFiles ws = db.files ++ newFiles (.file row::ws) := List.append_assoc _ _ _
      exact congrArg (fun files => Tables.mk _ files _ _ _) grown
    | payload row => rfl
    | line row =>
      have grown : db.lines ++ [row] ++ newLines ws = db.lines ++ newLines (.line row::ws) := List.append_assoc _ _ _
      exact congrArg (fun lines => Tables.mk _ _ _ lines _) grown
    | request row => rfl

section
variable (db : Tables) (ws : List Write)

@[simp] theorem writeAllFiles : (db.writeAll ws).files = db.files ++ newFiles ws := by
  rw [writeAllTables]
@[simp] theorem writeAllLines : (db.writeAll ws).lines = db.lines ++ newLines ws := by
  rw [writeAllTables]
@[simp] theorem writeAllBatches :
    (db.writeAll ws).batches = Table.putAll Batch.batchUuid (newBatches ws) db.batches := by
  rw [writeAllTables]
@[simp] theorem writeAllPayloads :
    (db.writeAll ws).payloads = Table.putAll BatchFilePayload.fileId (newPayloads ws) db.payloads := by
  rw [writeAllTables]
@[simp] theorem writeAllRequests :
    (db.writeAll ws).requests = Table.putAll Request.key (newRequests ws) db.requests := by
  rw [writeAllTables]

theorem filesOfWriteAll (b : Nat) : (db.writeAll ws).filesOf b = db.filesOf b ++ newFilesOf ws b := by
  simp [Tables.filesOf,newFilesOf]

end

theorem tablesAfterAppend (h : List Commit) (c : Commit) :
    tablesAfter (h ++ [c]) = (tablesAfter h).writeAll c.writes := by
  simp [tablesAfter]

@[simp] theorem commitTables (sv : Server) (c : Commit) : (sv.commit c).tables = sv.tables.writeAll c.writes :=
  tablesAfterAppend sv.history c

def Names (db : Tables) (u : PyStr) : Prop :=
  (∃ f ∈ db.files, f.fileUuid = u ∨ f.payloadFileId = newPayloadFileId u) ∨
    (∃ l ∈ db.lines, l.payloadFileId = newPayloadFileId u) ∨ ∃ r ∈ db.requests, r.batchFileUuid = some u

-- The line of one request: unbroken, and a strict JSON object with the request's id.
structure LineOf (i : Interpreter) (requestId line : PyStr) : Prop where
  unbroken : newline ∉ line
  entry : ∃ members, loads i strictHooks line = .ok (.obj members) ∧
    Json.get members (py "custom_id") = .str requestId

structure PartOk (i : Interpreter) (part : BatchPayloadPart) : Prop where
  count : part.recordCount = part.lines.length
  each : List.Forall₂ (LineOf i) part.requestIds part.lines

structure Stores (i : Interpreter) (db : Tables) (f : BatchFile) (part : BatchPayloadPart) : Prop where
  wellFormed : PartOk i part
  requestCount : f.requestCount = part.recordCount
  payload : db.payload? f.payloadFileId = some ⟨f.payloadFileId,payloadDocument part.lines⟩
  lines : db.linesOf f.payloadFileId = lineRows f.payloadFileId part.requestIds part.lines
  distinct : part.requestIds.Nodup
  assigned : ∀ id, id ∈ part.requestIds ↔ ∃ r, db.request? id = some r ∧ r.batchFileUuid = some f.fileUuid

def TotalsAgree (db : Tables) (b : Nat) : Prop :=
  ∃ row, db.batch? b = some row ∧ row.totalRequests = ((db.filesOf b).map BatchFile.requestCount).sum ∧
    row.totalTokens = ((db.filesOf b).map BatchFile.totalTokens).sum

structure StoreInv (i : Interpreter) (sv : Server) : Prop where
  keys : (sv.tables.requests.map Request.key).Nodup
  stored : ∀ f ∈ sv.tables.files, ∃ part, Stores i sv.tables f part
  distinct : (sv.tables.files.map BatchFile.fileUuid).Nodup
  assigned : ∀ r ∈ sv.tables.requests, ∀ u, r.batchFileUuid = some u →
    ∃ f ∈ sv.tables.files, f.fileUuid = u ∧ f.batchUuid = r.batchUuid
  parts : ∀ b, (sv.tables.filesOf b).map BatchFile.partIndex = List.range (sv.tables.filesOf b).length
  totals : ∀ b, sv.tables.filesOf b ≠ [] → TotalsAgree sv.tables b
  issued : ∀ u, Names sv.tables u → sv.issued u ≠ none
  created : ∀ n c, sv.history[n]? = some c → ∀ b, newFilesOf c.writes b ≠ [] →
    (tablesAfter (sv.history.take n)).filesOf b = []

def Kept (a b : Tables) : Lock → Prop
  | .advisory _ => True
  | .batch uuid => b.filesOf uuid = a.filesOf uuid ∧ b.batch? uuid = a.batch? uuid
  | .request uuid => b.request? uuid = a.request? uuid

structure Respects (t seq : Nat) (a b : Server) : Prop where
  history : ∃ extra, b.history = a.history ++ extra ∧ ∀ c ∈ extra, c.tx = t ∧ c.seq = seq
  locks : ∀ l u, u ≠ t → a.holder l = some u → b.holder l = some u ∧ Kept a.tables b.tables l
  issued : ∀ x u, a.issued x = some u → b.issued x = some u
  unnamed : ∀ x u, u ≠ t → a.issued x = some u → ¬Names a.tables x → ¬Names b.tables x

def contract (i : Interpreter) : RelyGuarantee.Contract Server := ⟨StoreInv i,Respects⟩

structure Later (t : Nat) (a b : Server) : Prop where
  history : ∃ extra, b.history = a.history ++ extra ∧ ∀ c ∈ extra, c.tx ≠ t
  locks : ∀ l, a.holder l = some t → b.holder l = some t ∧ Kept a.tables b.tables l
  issued : ∀ x, a.issued x = some t → b.issued x = some t
  unnamed : ∀ x, a.issued x = some t → ¬Names a.tables x → ¬Names b.tables x

theorem keptRefl (a : Tables) (l : Lock) : Kept a a l := by
  cases l with
  | advisory key => trivial
  | batch uuid => exact ⟨rfl,rfl⟩
  | request uuid => rfl

theorem keptTrans {a b c : Tables} {l : Lock} (first : Kept a b l) (second : Kept b c l) : Kept a c l := by
  cases l with
  | advisory key => trivial
  | batch uuid => exact ⟨second.1.trans first.1,second.2.trans first.2⟩
  | request uuid => exact Eq.trans (b := b.request? uuid) second first

theorem respectsRefl (t seq : Nat) (sv : Server) : Respects t seq sv sv :=
  ⟨⟨[],(List.append_nil _).symm,by simp⟩,fun l _ _ held => ⟨held,keptRefl _ l⟩,fun _ _ known => known,
    fun _ _ _ _ unnamed => unnamed⟩

theorem laterRefl (t : Nat) (sv : Server) : Later t sv sv :=
  ⟨⟨[],(List.append_nil _).symm,by simp⟩,fun l held => ⟨held,keptRefl _ l⟩,fun _ known => known,
    fun _ _ unnamed => unnamed⟩

theorem laterTrans {t : Nat} {a b c : Server} (first : Later t a b) (second : Later t b c) : Later t a c where
  history := by
    obtain ⟨early,grown,foreign⟩ := first.history
    obtain ⟨late,grownMore,foreignMore⟩ := second.history
    refine ⟨early ++ late,by rw [grownMore,grown,List.append_assoc],fun d here => ?_⟩
    rcases List.mem_append.mp here with old | new
    · exact foreign d old
    · exact foreignMore d new
  locks l held := by
    obtain ⟨kept,same⟩ := first.locks l held
    obtain ⟨keptMore,sameMore⟩ := second.locks l kept
    exact ⟨keptMore,keptTrans same sameMore⟩
  issued x known := second.issued x (first.issued x known)
  unnamed x known fresh := second.unnamed x (first.issued x known) (first.unnamed x known fresh)

theorem respectsLater {t u seq : Nat} {a b : Server} (other : u ≠ t) (h : Respects u seq a b) : Later t a b where
  history := by
    obtain ⟨extra,grown,own⟩ := h.history
    exact ⟨extra,grown,fun c here same => other ((own c here).1.symm.trans same)⟩
  locks l held := h.locks l t other.symm held
  issued x known := h.issued x t known
  unnamed x known fresh := h.unnamed x t other.symm known fresh

theorem othersLater {i : Interpreter} {t : Nat} {a b : Server} (h : (contract i).Others t a b) : Later t a b := by
  induction h with
  | refl => exact laterRefl t a
  | tail _ step ih =>
    obtain ⟨-,u,seq,other,made⟩ := step
    exact laterTrans ih (respectsLater other made)

end PgLlmBatch.Preparation
