import PgLlmBatch.Base.Loop
import PgLlmBatch.Inspection

/-! `postgres_logical_backup`: one `pg_dump` into a descriptor of the caller's, with a private
duplicate for the cleanup, as what it asks of the operating system. -/
namespace PgLlmBatch
open Base

inductive RunOutcome where
  | completed (returncode : Int)
  | otherObject
  | fileNotFound
  | timeoutExpired
  | exception
  | baseException
  deriving DecidableEq, Repr

inductive BackupError where
  | logicalBackup (message : String)
  | interrupted
  deriving DecidableEq, Repr

-- `st_dev` and `st_ino` are one value.
structure OutputStatus where
  mode : Nat
  size : Nat
  nlink : Nat
  identity : Nat
  deriving DecidableEq, Repr

structure PgDumpRun where
  arguments : List PyStr
  environment : List (PyStr × PyStr)
  stdout : Nat
  timeout : Int
  deriving DecidableEq, Repr

inductive BackupCall where
  | fstat (descriptor : Nat)
  | tell (descriptor : Nat)
  | dup (descriptor : Nat)
  | run (child : PgDumpRun)
  | fsync (descriptor : Nat)
  | ftruncate (descriptor : Nat)
  | rewind (descriptor : Nat)
  | close (descriptor : Nat)

-- A call that fails raises OSError or ValueError, which every handler of the module treats alike.
abbrev BackupCall.Reply : BackupCall → Type
  | .fstat _ => Option OutputStatus
  | .tell _ | .dup _ => Option Nat
  | .run _ => RunOutcome
  | .fsync _ | .ftruncate _ | .rewind _ | .close _ => Option Unit

abbrev BackupProgram := Program BackupCall BackupCall.Reply BackupError

namespace LogicalBackup

def maxTimeoutSeconds : Int := 86400
def maxConnectTimeoutSeconds : Int := 60

-- `_SERVICE_NAME_RE`.
def serviceChar (c : PyChar) : Bool :=
  (chr 'A' ≤ c && c ≤ chr 'Z') || (chr 'a' ≤ c && c ≤ chr 'z') || (chr '0' ≤ c && c ≤ chr '9')

def serviceNameMatches : PyStr → Bool
  | [] => false
  | c::s => serviceChar c && s.length ≤ 63 &&
      s.all (fun d => serviceChar d || d == chr '_' || d == chr '.' || d == chr '-')

def parametersAreValid (serviceName : PyStr) (outputDescriptor : Int) (pgDumpExecutable : PyStr)
    (timeoutSeconds connectTimeoutSeconds : Int) : Bool :=
  serviceNameMatches serviceName && 0 ≤ outputDescriptor &&
    pgDumpExecutable.head? == some Backup.separator &&
    (pgDumpExecutable.splitOn Backup.separator).getLast? == some (py "pg_dump") &&
    (1 ≤ timeoutSeconds && timeoutSeconds ≤ maxTimeoutSeconds) &&
    (1 ≤ connectTimeoutSeconds && connectTimeoutSeconds ≤ maxConnectTimeoutSeconds)

def outputIsOwnerOnly (mode : Nat) : Bool := mode &&& 0o077 == 0

def failed {α : Type} (message : String) : BackupProgram α := .raise (.logicalBackup message)

def inspectInitialOutput (outputDescriptor : Nat) : BackupProgram OutputStatus :=
  .call (.fstat outputDescriptor) (fun
    | none => failed "PostgreSQL logical backup output could not be inspected"
    | some status =>
        if Backup.sIsreg status.mode = false ∨ status.size ≠ 0 then
          failed "PostgreSQL logical backup output must be a private empty regular file"
        else .call (.tell outputDescriptor) (fun
          | none => failed "PostgreSQL logical backup output could not be inspected"
          | some offset =>
              if offset ≠ 0 then failed "PostgreSQL logical backup output must start at offset zero"
              else if outputIsOwnerOnly status.mode = false then
                failed "PostgreSQL logical backup output must be owner-only"
              else if status.nlink ≠ 1 then failed "PostgreSQL logical backup output must have one link"
              else .ret status))

def duplicateOutputForCleanup (outputDescriptor : Nat) : BackupProgram Nat :=
  .call (.dup outputDescriptor) (fun
    | none => failed "PostgreSQL logical backup output could not be retained"
    | some cleanupDescriptor => .ret cleanupDescriptor)

def inheritedLibpqVariables : List PyStr := [py "PGPASSWORD",py "PGPASSFILE",py "PGSERVICEFILE"]

def libpqEnvironment (environ : List (PyStr × PyStr)) (serviceName : PyStr) (connectTimeoutSeconds : Int) :
    List (PyStr × PyStr) :=
  inheritedLibpqVariables.filterMap (fun key => (environ.lookup key).map (fun value => (key,value))) ++
    [(py "PGSERVICE",serviceName),(py "PGCONNECT_TIMEOUT",py (toString connectTimeoutSeconds))]

def invalidateOutput (cleanupDescriptor : Nat) : BackupProgram Unit :=
  .call (.ftruncate cleanupDescriptor) (fun _ => .call (.rewind cleanupDescriptor) (fun _ => .ret ()))

def invalidating {α : Type} (cleanupDescriptor : Nat) (e : BackupError) : BackupProgram α := do
  invalidateOutput cleanupDescriptor
  throw e

def runFailure : RunOutcome → Option BackupError
  | .fileNotFound => some (.logicalBackup "PostgreSQL logical backup executable unavailable")
  | .timeoutExpired => some (.logicalBackup "PostgreSQL logical backup timed out")
  | .exception => some (.logicalBackup "PostgreSQL logical backup execution failed")
  | .baseException => some .interrupted
  | .otherObject => some (.logicalBackup "PostgreSQL logical backup execution failed")
  | .completed returncode =>
      if returncode ≠ 0 then some (.logicalBackup "PostgreSQL logical backup command failed") else none

def runPgDump (child : PgDumpRun) (cleanupDescriptor : Nat) : BackupProgram Unit :=
  .call (.run child) (fun outcome => match runFailure outcome with
    | some e => invalidating cleanupDescriptor e
    | none => .ret ())

def finalizeOutput (outputDescriptor cleanupDescriptor : Nat) (initialStatus : OutputStatus) : BackupProgram Nat :=
  .call (.fsync cleanupDescriptor) (fun
    | none => invalidating cleanupDescriptor (.logicalBackup "PostgreSQL logical backup output could not be finalized")
    | some () => .call (.fstat outputDescriptor) (fun
        | none => invalidating cleanupDescriptor
            (.logicalBackup "PostgreSQL logical backup output could not be finalized")
        | some status =>
            if status.size = 0 then
              invalidating cleanupDescriptor (.logicalBackup "PostgreSQL logical backup output is incomplete")
            else if status.nlink ≠ 1 ∨ outputIsOwnerOnly status.mode = false then
              invalidating cleanupDescriptor (.logicalBackup "PostgreSQL logical backup output became unsafe")
            else if status.identity ≠ initialStatus.identity then
              invalidating cleanupDescriptor
                (.logicalBackup "PostgreSQL logical backup output changed during execution")
            else .ret status.size))

def closeCleanupDescriptor (cleanupDescriptor : Nat) : BackupProgram Unit :=
  .call (.close cleanupDescriptor) (fun _ => .ret ())

end LogicalBackup

open LogicalBackup in
def createPostgresLogicalBackup (environ : List (PyStr × PyStr)) (serviceName : PyStr) (outputDescriptor : Int)
    (pgDumpExecutable : PyStr) (timeoutSeconds connectTimeoutSeconds : Int) : BackupProgram Nat := do
  if parametersAreValid serviceName outputDescriptor pgDumpExecutable timeoutSeconds connectTimeoutSeconds = false then
    throw (.logicalBackup "invalid PostgreSQL logical backup parameters")
  let output := outputDescriptor.toNat
  let initialStatus ← inspectInitialOutput output
  let cleanupDescriptor ← duplicateOutputForCleanup output
  let outcome ← Program.caught (do
    runPgDump ⟨[pgDumpExecutable,py "--format=custom",py "--no-password"],
      libpqEnvironment environ serviceName connectTimeoutSeconds,output,timeoutSeconds⟩ cleanupDescriptor
    finalizeOutput output cleanupDescriptor initialStatus)
  closeCleanupDescriptor cleanupDescriptor
  Program.ofExcept outcome

end PgLlmBatch
