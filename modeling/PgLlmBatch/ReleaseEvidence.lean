import PgLlmBatch.Base.JsonRecord
import PgLlmBatch.Base.Loop
import PgLlmBatch.Inspection

/-! `release_evidence`: the walks that open a directory by descriptors, and the writer that puts a
manifest in place through a temporary file, as what they ask of the operating system. -/
namespace PgLlmBatch
open Base
open Base.JsonText (asciiChar sortNames dumpString dumpValue DumpStyle)

inductive PathFailure where | fileExists | fileNotFound | osError | valueError | interrupted
  deriving DecidableEq, Repr

inductive ReleaseError where
  | releaseEvidence (message : String)
  | raised (failure : PathFailure)
  | notSerialized (error : JsonError)
  deriving DecidableEq, Repr

namespace PathFailure

-- `except OSError`.
def isOsError : PathFailure → Bool
  | .fileExists | .fileNotFound | .osError => true
  | .valueError | .interrupted => false

-- `except (OSError, ValueError)`.
def isOsOrValue : PathFailure → Bool
  | .interrupted => false
  | _ => true

def as (failure : PathFailure) (caught : PathFailure → Bool) (message : String) : ReleaseError :=
  if caught failure then .releaseEvidence message else .raised failure

end PathFailure

inductive ReleaseCall where
  | openDirectory (directory : Option Nat) (name : PyStr)
  | mkdir (directory : Nat) (name : PyStr)
  | stat (directory : Nat) (name : PyStr)
  | create (directory : Nat) (name : PyStr)
  | fdopen (descriptor : Nat)
  | write (descriptor : Nat) (payload : PyStr)
  | flush (descriptor : Nat)
  | fsync (descriptor : Nat)
  | rename (directory : Nat) (source target : PyStr)
  | unlink (directory : Nat) (name : PyStr)
  | close (descriptor : Nat)

abbrev ReleaseCall.Reply : ReleaseCall → Type
  | .openDirectory _ _ | .create _ _ | .stat _ _ => Except PathFailure Nat
  | .mkdir _ _ | .fdopen _ | .write _ _ | .flush _ | .fsync _ | .rename _ _ _ | .unlink _ _ | .close _ =>
      Except PathFailure Unit

abbrev ReleaseProgram := Program ReleaseCall ReleaseCall.Reply ReleaseError

def obtaining {α : Type} (caught : PathFailure → Bool) (message : String) : Except PathFailure α → ReleaseProgram α
  | .ok a => .ret a
  | .error failure => .raise (failure.as caught message)

def uncaught : PathFailure → Bool := fun _ => false

-- `pathlib.PurePosixPath`: the root, if any, and the components.
structure PurePath where
  root : PyStr
  components : List PyStr
  deriving DecidableEq, Repr

def PurePath.of (s : PyStr) : PurePath where
  root := match (s.takeWhile (· == Backup.separator)).length with
    | 0 => []
    | 2 => py "//"
    | _ => py "/"
  components := (s.splitOn Backup.separator).filter (fun part => part != [] && part != py ".")

def PurePath.name (path : PurePath) : PyStr := path.components.getLast?.getD []

def PurePath.anchor (path : PurePath) : PyStr := if path.root.isEmpty then py "." else path.root

def directoryPathParts (directory : PurePath) : Except ReleaseError (PyStr × List PyStr) :=
  if directory.components.contains (py "..") then
    .error (.releaseEvidence "release directory parent traversal is not allowed")
  else .ok (directory.anchor,directory.components)

def manifestPathParts (destination : PurePath) : Except ReleaseError (PyStr × List PyStr × PyStr) :=
  let destinationName := destination.name
  if [[],py ".",py ".."].contains destinationName then
    .error (.releaseEvidence "release manifest destination name is invalid")
  else
    let parentParts := destination.components.dropLast
    if parentParts.contains (py "..") then
      .error (.releaseEvidence "release manifest parent traversal is not allowed")
    else .ok (destination.anchor,parentParts,destinationName)

-- The value of the descriptor variable when the `try` block ends, and how it ends.
abbrev Walked := Nat × Except ReleaseError Unit

-- The loop of a walk; `prepare` is what it does before it opens a component.
def walkSteps (prepare : Nat → PyStr → ReleaseProgram (Except ReleaseError Unit)) (notDirectory : String)
    (descriptor : Nat) : List PyStr → ReleaseProgram Walked
  | [] => .ret (descriptor,.ok ())
  | component::parts => do
      let prepared ← prepare descriptor component
      match prepared with
      | .error e => .ret (descriptor,.error e)
      | .ok () => .call (.openDirectory (some descriptor) component) (fun
          | .error failure => .ret (descriptor,.error (failure.as PathFailure.isOsOrValue notDirectory))
          | .ok nextDescriptor => .call (.close descriptor) (fun
              | .error failure => .ret (descriptor,.error (.raised failure))
              | .ok () => walkSteps prepare notDirectory nextDescriptor parts))

def releaseSteps : Nat → List PyStr → ReleaseProgram Walked :=
  walkSteps (fun _ _ => .ret (.ok ()))
    ("release directory path must not contain a symlink " ++ "and must contain only directories")

def makeParent (parentDescriptor : Nat) (component : PyStr) : ReleaseProgram (Except ReleaseError Unit) :=
  .call (.mkdir parentDescriptor component) (fun
    | .ok () => .ret (.ok ())
    | .error .fileExists => .ret (.ok ())
    | .error failure => .ret (.error (failure.as PathFailure.isOsOrValue
        "release manifest parent directory could not be created")))

def manifestSteps : Nat → List PyStr → ReleaseProgram Walked :=
  walkSteps makeParent
    ("release manifest parent path must not contain a symlink " ++ "and must contain only directories")

-- `except BaseException: os.close(descriptor); raise`.
def closingOnError (walked : Walked) : ReleaseProgram Nat :=
  match walked.2 with
  | .ok () => .ret walked.1
  | .error e => .call (.close walked.1) (fun
      | .error failure => .raise (.raised failure)
      | .ok () => .raise e)

def openReleaseDirectory (directory : PurePath) : ReleaseProgram Nat := do
  let (anchor,parts) ← Program.ofExcept (directoryPathParts directory)
  let directoryDescriptor ← .call (.openDirectory none anchor)
    (obtaining PathFailure.isOsOrValue "release directory root could not be opened")
  let walked ← releaseSteps directoryDescriptor parts
  closingOnError walked

def openManifestParent (destination : PurePath) : ReleaseProgram (Nat × PyStr) := do
  let (anchor,parentParts,destinationName) ← Program.ofExcept (manifestPathParts destination)
  let parentDescriptor ← .call (.openDirectory none anchor)
    (obtaining PathFailure.isOsOrValue "release manifest parent root could not be opened")
  let walked ← manifestSteps parentDescriptor parentParts
  let parentDescriptor ← closingOnError walked
  return (parentDescriptor,destinationName)

section
variable (i : Interpreter)

def indentation (level : Nat) : PyStr := py "\n" ++ List.replicate (2 * level) (chr ' ')

def manifestStyle : DumpStyle := ⟨false,true,true⟩

mutual
-- `json.dumps(…, indent=2)`, before `ensure_ascii`.
def indentValue (depth level : Nat) : Json → Except JsonError PyStr
  | .arr [] => .ok (py "[]")
  | .obj [] => .ok (py "\x7b\x7d")
  | .arr (x::xs) => match depth with
      | 0 => .error .recursion
      | d+1 => do
          let items ← indentItems d (level + 1) (x::xs)
          return py "[" ++ indentation (level + 1) ++ items ++ indentation level ++ py "]"
  | .obj (m::ms) => match depth with
      | 0 => .error .recursion
      | d+1 => do
          let members ← indentMembers d (level + 1) (m::ms)
          return py "\x7b" ++ indentation (level + 1) ++ members ++ indentation level ++ py "\x7d"
  | .null => dumpValue i manifestStyle depth .null
  | .bool b => dumpValue i manifestStyle depth (.bool b)
  | .int n => dumpValue i manifestStyle depth (.int n)
  | .float f => dumpValue i manifestStyle depth (.float f)
  | .str s => dumpValue i manifestStyle depth (.str s)
def indentItems (depth level : Nat) : List Json → Except JsonError PyStr
  | [] => .ok []
  | [x] => indentValue depth level x
  | x::y::ys => do
      let head ← indentValue depth level x
      let tail ← indentItems depth level (y::ys)
      return head ++ py "," ++ indentation level ++ tail
def indentMembers (depth level : Nat) : List (PyStr × Json) → Except JsonError PyStr
  | [] => .ok []
  | [(k,x)] => do
      let value ← indentValue depth level x
      return dumpString k ++ py ": " ++ value
  | (k,x)::m::ms => do
      let value ← indentValue depth level x
      let tail ← indentMembers depth level (m::ms)
      return dumpString k ++ py ": " ++ value ++ py "," ++ indentation level ++ tail
end

def manifestPayload (manifest : List (PyStr × Json)) : Except JsonError PyStr := do
  let text ← indentValue i i.depth 0 (sortNames (.obj manifest))
  return text.flatMap asciiChar ++ py "\n"

end

def sIslnk (mode : Nat) : Bool := Backup.sIfmt mode == 0o120000

def validateManifestDestination (parentDescriptor : Nat) (destinationName : PyStr) : ReleaseProgram Unit :=
  .call (.stat parentDescriptor destinationName) (fun
    | .error .fileNotFound => .ret ()
    | .error failure => .raise (failure.as PathFailure.isOsOrValue
        "release manifest destination could not be inspected")
    | .ok mode =>
        if sIslnk mode then .raise (.releaseEvidence "release manifest destination must not be a symlink")
        else if Backup.sIsreg mode = false then
          .raise (.releaseEvidence "release manifest destination must be absent or a regular file")
        else .ret ())

def removeOwnedTemporary (parentDescriptor : Nat) (temporaryName : PyStr) : ReleaseProgram Unit :=
  .call (.unlink parentDescriptor temporaryName) (fun
    | .error .fileNotFound => .ret ()
    | reply => obtaining PathFailure.isOsOrValue "release manifest temporary cleanup failed" reply)

-- `with handle: …`; what closing raises replaces what the block raised.
def writeHandle (descriptor : Nat) (payload : PyStr) : ReleaseProgram Unit := do
  let outcome ← Program.caught (do
    .call (.write descriptor payload) (obtaining uncaught "")
    .call (.flush descriptor) (obtaining uncaught "")
    .call (.fsync descriptor) (obtaining uncaught ""))
  .call (.close descriptor) (obtaining uncaught "")
  Program.ofExcept outcome

-- `except OSError: raise ReleaseEvidenceError("release manifest write failed")`.
def writeFailed : ReleaseError → ReleaseError
  | .raised failure => failure.as PathFailure.isOsError "release manifest write failed"
  | e => e

-- `temporary_descriptor` and `temporary_created`.
structure Temporary where
  descriptor : Option Nat
  created : Bool

-- The `try` block: its two flags when it ends, and how it ends.
def manifestBlock (payload : PyStr) (parentDescriptor : Nat) (destinationName temporaryName : PyStr) :
    ReleaseProgram (Temporary × Except ReleaseError Unit) :=
  .call (.create parentDescriptor temporaryName) (fun
    | .error .fileExists =>
        .ret (⟨none,false⟩,.error (.releaseEvidence "release manifest temporary path already exists"))
    | .error failure => .ret (⟨none,false⟩,.error (failure.as PathFailure.isOsOrValue
        "release manifest temporary file could not be created"))
    | .ok temporaryDescriptor => .call (.fdopen temporaryDescriptor) (fun
        | .error failure => .ret (⟨some temporaryDescriptor,true⟩,.error (failure.as PathFailure.isOsOrValue
            "release manifest write failed"))
        | .ok () => do
            let written ← Program.caught (writeHandle temporaryDescriptor payload)
            match written with
            | .error e => .ret (⟨none,true⟩,.error (writeFailed e))
            | .ok () => .call (.rename parentDescriptor temporaryName destinationName) (fun
                | .error failure => .ret (⟨none,true⟩,.error (failure.as PathFailure.isOsOrValue
                    "release manifest atomic replacement failed"))
                | .ok () => .call (.fsync parentDescriptor) (fun
                    | .error failure => .ret (⟨none,false⟩,.error (failure.as PathFailure.isOsError
                        "release manifest directory synchronization failed"))
                    | .ok () => .ret (⟨none,false⟩,.ok ())))))

def writeManifestPayload (payload : PyStr) (parentDescriptor : Nat) (destinationName : PyStr) : ReleaseProgram Unit := do
  let temporaryName := py "." ++ destinationName ++ py ".tmp"
  let (temporary,outcome) ← manifestBlock payload parentDescriptor destinationName temporaryName
  match temporary.descriptor with
  | some descriptor => .call (.close descriptor) (obtaining uncaught "")
  | none => .ret ()
  if temporary.created then removeOwnedTemporary parentDescriptor temporaryName
  Program.ofExcept outcome

-- `finally: os.close(descriptor)`.
def closingFinally (descriptor : Nat) (body : ReleaseProgram Unit) : ReleaseProgram Unit := do
  let outcome ← Program.caught body
  .call (.close descriptor) (obtaining uncaught "")
  Program.ofExcept outcome

def writeReleaseManifest (i : Interpreter) (secureManifestWritesSupported : Bool) (manifest : List (PyStr × Json))
    (outputPath : PyStr) : ReleaseProgram Unit := do
  let payload ← Program.ofExcept ((manifestPayload i manifest).mapError .notSerialized)
  if secureManifestWritesSupported = false then
    throw (.releaseEvidence ("secure release manifest writes require descriptor-relative " ++ "no-follow support"))
  let (parentDescriptor,destinationName) ← openManifestParent (PurePath.of outputPath)
  closingFinally parentDescriptor (do
    validateManifestDestination parentDescriptor destinationName
    writeManifestPayload payload parentDescriptor destinationName)

end PgLlmBatch
