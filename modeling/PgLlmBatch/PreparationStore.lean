import PgLlmBatch.PayloadContent
import PgLlmBatch.Base.Pool
import PgLlmBatch.Base.Table

/-! The tables of batch preparation and the statements on them, as PostgreSQL runs them under
READ COMMITTED: a statement sees what is committed and its own transaction's writes, an
advisory or row lock is exclusive until its transaction ends, and UUIDs are never repeated. -/
namespace PgLlmBatch
open Base

inductive RequestStatus | queued | processing | completed | failed | retrying
  deriving DecidableEq, Repr

structure Request extends RequestRow where
  batchUuid : Nat
  createdAt : Int
  requestStatus : RequestStatus
  batchFileUuid : Option PyStr
  deriving DecidableEq

def Request.key (r : Request) : PyStr := r.requestUuid.text

structure Batch where
  batchUuid : Nat
  queueUuid : Nat
  totalRequests : Nat
  totalTokens : Nat
  deriving DecidableEq, Repr

structure BatchFile where
  fileUuid : PyStr
  batchUuid : Nat
  queueUuid : Nat
  filePath : PyStr
  payloadFileId : PyStr
  partIndex : Nat
  requestCount : Nat
  totalTokens : Nat
  deriving DecidableEq, Repr

structure BatchFilePayload where
  fileId : PyStr
  content : Json

structure JsonlLine where
  payloadFileId : PyStr
  requestUuid : PyStr
  sequenceNo : Nat
  lineText : PyStr
  deriving DecidableEq, Repr

namespace Preparation
open Base.Pool (Caller Engine)

structure Tables where
  batches : List Batch
  files : List BatchFile
  payloads : List BatchFilePayload
  lines : List JsonlLine
  requests : List Request

inductive Write where
  | batch (row : Batch)
  | file (row : BatchFile)
  | payload (row : BatchFilePayload)
  | line (row : JsonlLine)
  | request (row : Request)

namespace Tables

def empty : Tables := ⟨[],[],[],[],[]⟩

def write (db : Tables) : Write → Tables
  | .batch row => {db with batches := Table.put Batch.batchUuid row db.batches}
  | .file row => {db with files := db.files ++ [row]}
  | .payload row => {db with payloads := Table.put BatchFilePayload.fileId row db.payloads}
  | .line row => {db with lines := db.lines ++ [row]}
  | .request row => {db with requests := Table.put Request.key row db.requests}

def writeAll (db : Tables) (ws : List Write) : Tables := ws.foldl write db

def batch? (db : Tables) (uuid : Nat) : Option Batch := Table.find Batch.batchUuid db.batches uuid
def request? (db : Tables) (uuid : PyStr) : Option Request := Table.find Request.key db.requests uuid
def payload? (db : Tables) (fileId : PyStr) : Option BatchFilePayload :=
  Table.find BatchFilePayload.fileId db.payloads fileId
def filesOf (db : Tables) (batch : Nat) : List BatchFile := db.files.filter (fun f => f.batchUuid = batch)
def linesOf (db : Tables) (fileId : PyStr) : List JsonlLine := db.lines.filter (fun l => l.payloadFileId = fileId)

end Tables

def queuedUnassigned (batch : Nat) (r : Request) : Bool :=
  r.batchUuid = batch && r.requestStatus = .queued && r.batchFileUuid = none

def fileConflicts (f g : BatchFile) : Bool :=
  f.fileUuid = g.fileUuid || (f.batchUuid = g.batchUuid && f.partIndex = g.partIndex) ||
    f.filePath = g.filePath || f.payloadFileId = g.payloadFileId

def lineConflicts (l m : JsonlLine) : Bool :=
  l.payloadFileId = m.payloadFileId && (l.requestUuid = m.requestUuid || l.sequenceNo = m.sequenceNo)

-- `ON CONFLICT DO NOTHING`, row by row.
def acceptedLines (old : List JsonlLine) : List JsonlLine → List JsonlLine
  | [] => []
  | l::ls => if old.any (lineConflicts l) then acceptedLines old ls else l::acceptedLines (old ++ [l]) ls

def int4 (n : Nat) : Bool := n < 2147483648
def int8 (n : Nat) : Bool := n < 9223372036854775808

inductive Lock where
  | advisory (key : Nat)
  | batch (uuid : Nat)
  | request (uuid : PyStr)
  deriving DecidableEq, Repr

inductive Statement where
  | queuedRequests (batch : Nat)
  | advisoryXactLock (key : Nat)
  | lockBatch (batch : Nat)
  | existingFiles (batch : Nat)
  | existsUnassigned (batch : Nat)
  | uuid4
  | insertPayload (row : BatchFilePayload)
  | insertFile (batch queue : Nat) (filePath : PyStr) (partIndex requestCount totalTokens : Nat)
      (payloadFileId : PyStr)
  | insertLines (rows : List JsonlLine)
  | assignRequests (fileUuid : PyStr) (batch : Nat) (requestIds : List PyStr)
  | updateTotals (batch totalRequests totalTokens : Nat)
  | insertBatch (row : Batch)
  | insertRequest (row : RequestRow) (batch : Nat) (createdAt : Int)
  | updateStatus (request : PyStr) (status : RequestStatus)
  | commit
  | rollback

abbrev Result : Statement → Type
  | .queuedRequests _ => List RequestRow
  | .lockBatch _ => Option Nat
  | .existingFiles _ => List BatchFile
  | .existsUnassigned _ => Bool
  | .uuid4 => PyStr
  | .insertFile .. => Option PyStr
  | .assignRequests .. => Nat
  | .updateStatus .. => Nat
  | .advisoryXactLock _ | .insertPayload _ | .insertLines _ | .updateTotals .. | .insertBatch _
  | .insertRequest .. | .commit | .rollback => Unit

abbrev Reply (s : Statement) := Except PyError (Result s)

-- One committed transaction, by the call that committed it.
structure Commit where
  tx : Nat
  seq : Nat
  writes : List Write

structure Server where
  history : List Commit
  holder : Lock → Option Nat
  issued : PyStr → Option Nat

def tablesAfter (history : List Commit) : Tables := history.foldl (fun db c => db.writeAll c.writes) .empty

def Server.tables (sv : Server) : Tables := tablesAfter sv.history

structure Transaction where
  writes : List Write

-- What is not determined by the statement: whether it fails, the UUID generated, the order of
-- rows of equal `created_at`, and the rows that an UPDATE's snapshot showed.
structure Choice where
  fails : Option String
  uuid : PyStr
  rows : List Request
  snapshot : PyStr → Bool

namespace Server

def grants (sv : Server) (tx : Nat) (l : Lock) : Bool := sv.holder l = none || sv.holder l = some tx

def take (sv : Server) (tx : Nat) (ls : List Lock) : Server :=
  {sv with holder := fun l => if l ∈ ls then some tx else sv.holder l}

def release (sv : Server) (tx : Nat) : Server :=
  {sv with holder := fun l => if sv.holder l = some tx then none else sv.holder l}

def issue (sv : Server) (tx : Nat) (uuid : PyStr) : Server :=
  {sv with issued := Function.update sv.issued uuid (some tx)}

def commit (sv : Server) (c : Commit) : Server := {sv.release c.tx with history := sv.history ++ [c]}

end Server

def Transaction.add (tx : Transaction) (ws : List Write) : Transaction := ⟨tx.writes ++ ws⟩

variable {Call : Type}

section
variable (c : Caller Call) (choice : Choice) (sv : Server) (tx : Transaction)

abbrev Answer (α : Type) := Option (Except PyError α × Server × Transaction)

def view : Tables := sv.tables.writeAll tx.writes

def locking {α : Type} (ls : List Lock) (next : Server → Answer α) : Answer α :=
  if ls.all (sv.grants c.tx) then next (sv.take c.tx ls) else none

def refused {α : Type} (sqlState : String) : Answer α := some (.error (.database sqlState),sv,tx)

def assignable (batch : Nat) (requestIds : List PyStr) : List Request :=
  (view sv tx).requests.filter (fun r => queuedUnassigned batch r && r.key ∈ requestIds && choice.snapshot r.key)

def perform : (s : Statement) → Answer (Result s)
  | .queuedRequests batch =>
      if choice.rows.Perm ((view sv tx).requests.filter (queuedUnassigned batch)) ∧
          choice.rows.Pairwise (fun r s => r.createdAt ≤ s.createdAt) then
        some (.ok (choice.rows.map Request.toRequestRow),sv,tx)
      else none
  | .advisoryXactLock key => locking c sv [.advisory key] (fun sv => some (.ok (),sv,tx))
  | .lockBatch batch => match (view sv tx).batch? batch with
      | none => some (.ok none,sv,tx)
      | some row => locking c sv [.batch batch] (fun sv => some (.ok (some row.queueUuid),sv,tx))
  | .existingFiles batch =>
      some (.ok (((view sv tx).filesOf batch).mergeSort (fun f g => f.partIndex ≤ g.partIndex)),sv,tx)
  | .existsUnassigned batch => some (.ok ((view sv tx).requests.any (queuedUnassigned batch)),sv,tx)
  | .uuid4 => if sv.issued choice.uuid = none then some (.ok choice.uuid,sv.issue c.tx choice.uuid,tx) else none
  | .insertPayload row => some (.ok (),sv,tx.add [.payload row])
  | .insertFile batch queue filePath partIndex requestCount totalTokens payloadFileId =>
      if sv.issued choice.uuid = none then
        let file : BatchFile :=
          ⟨choice.uuid,batch,queue,filePath,payloadFileId,partIndex,requestCount,totalTokens⟩
        if !(int4 partIndex && int4 requestCount && int8 totalTokens) then refused sv tx "22003"
        else if (view sv tx).files.any (fileConflicts file) then refused sv tx "23505"
        else some (.ok (some choice.uuid),sv.issue c.tx choice.uuid,tx.add [.file file])
      else none
  | .insertLines rows =>
      if !rows.all (fun l => int4 l.sequenceNo) then refused sv tx "22003"
      else some (.ok (),sv,tx.add ((acceptedLines (view sv tx).lines rows).map Write.line))
  | .assignRequests fileUuid batch requestIds =>
      let rows := assignable choice sv tx batch requestIds
      locking c sv (rows.map (fun r => Lock.request r.key)) (fun sv => some (.ok rows.length,sv,
        tx.add (rows.map (fun r => Write.request {r with batchFileUuid := some fileUuid}))))
  | .updateTotals batch totalRequests totalTokens => match (view sv tx).batch? batch with
      | none => some (.ok (),sv,tx)
      | some row => locking c sv [.batch batch] (fun sv =>
          if !(int4 totalRequests && int8 totalTokens) then refused sv tx "22003"
          else some (.ok (),sv,
            tx.add [.batch {row with totalRequests := totalRequests, totalTokens := totalTokens}]))
  | .insertBatch row => locking c sv [.batch row.batchUuid] (fun sv =>
      if ((view sv tx).batch? row.batchUuid).isSome then refused sv tx "23505"
      else some (.ok (),sv,tx.add [.batch row]))
  | .insertRequest row batch createdAt => locking c sv [.request row.requestUuid.text] (fun sv =>
      if ((view sv tx).request? row.requestUuid.text).isSome then refused sv tx "23505"
      else if ((view sv tx).batch? batch).isNone then refused sv tx "23503"
      else some (.ok (),sv,tx.add [.request ⟨row,batch,createdAt,.queued,none⟩]))
  | .updateStatus request status => match (view sv tx).request? request with
      | none => some (.ok (0 : Nat),sv,tx)
      | some row => locking c sv [.request request] (fun sv =>
          some (.ok (1 : Nat),sv,tx.add [.request {row with requestStatus := status}]))
  | .commit => some (.ok (),sv.commit ⟨c.tx,c.seq,tx.writes⟩,⟨[]⟩)
  | .rollback => some (.ok (),sv.release c.tx,⟨[]⟩)

end

def Statement.mayFail : Statement → Bool
  | .rollback => false
  | _ => true

-- Any statement but ROLLBACK may fail, without an effect.
def execute (c : Caller Call) (s : Statement) (choice : Choice) (sv : Server) (tx : Transaction) :
    Answer (Result s) :=
  match s.mayFail,choice.fails with
  | true,some code => some (.error (.database code),sv,tx)
  | _,_ => perform c choice sv tx s

-- A session that ends closes its connection, which discards an open transaction.
def engine : Engine Statement Reply Call Choice Server Transaction where
  fresh := ⟨[]⟩
  exec c s choice sv tx := execute c s choice sv tx
  commit t sv _ := sv.release t
  rollback t sv _ := sv.release t

end Preparation
end PgLlmBatch
