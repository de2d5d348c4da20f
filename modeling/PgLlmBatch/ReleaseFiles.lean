import PgLlmBatch.Base.FileTree
import PgLlmBatch.ReleaseEvidence

/-! The calls of the release module against a file system in which any call may fail: what each does
when it succeeds, and what a failing one may still have done. -/
namespace PgLlmBatch
open Base

inductive HostFault where | osError | valueError | interrupted
  deriving DecidableEq, Repr

def HostFault.failure : HostFault → PathFailure
  | .osError => .osError
  | .valueError => .valueError
  | .interrupted => .interrupted

-- A handle made by `fdopen` holds back what it has not yet written to its file.
inductive Target where
  | directory (inode : Nat)
  | file (inode : Nat) (buffer : Option Bytes)
  deriving DecidableEq

structure ReleaseOs where
  files : FileTree PyStr Bytes
  next : Nat
  descriptors : Nat → Option Target
  log : List (ReleaseCall × Bool)

-- Calls are counted: which of them fail, how much of a buffer each writes out, and the number that an
-- open would give.
structure ReleaseHost where
  anchors : PyStr → Option Nat
  fault : Nat → Option HostFault
  drained : Nat → Nat
  number : Nat → Nat

def nodeMode : Node → Nat
  | .directory _ => 0o040755
  | .regular _ => 0o100644
  | .symlink => 0o120777
  | .special .fifo => 0o010644
  | .special .characterDevice => 0o020644
  | .special .blockDevice => 0o060644
  | .special .socket => 0o140755

namespace ReleaseCall

def failing : (s : ReleaseCall) → PathFailure → s.Reply
  | .openDirectory _ _, e | .create _ _, e | .stat _ _, e => .error e
  | .mkdir _ _, e | .fdopen _, e | .write _ _, e | .flush _, e | .fsync _, e | .rename _ _ _, e | .unlink _ _, e
  | .close _, e => .error e

def succeeded : (s : ReleaseCall) → s.Reply → Bool
  | .openDirectory _ _, r | .create _ _, r | .stat _ _, r => r.isOk
  | .mkdir _ _, r | .fdopen _, r | .write _ _, r | .flush _, r | .fsync _, r | .rename _ _ _, r | .unlink _ _, r
  | .close _, r => r.isOk

end ReleaseCall

namespace ReleaseOs

def directory (m : ReleaseOs) (d : Nat) : Option Nat := match m.descriptors d with
  | some (.directory inode) => some inode
  | _ => none

def assign (m : ReleaseOs) (d : Nat) (target : Option Target) : ReleaseOs :=
  {m with descriptors := Function.update m.descriptors d target}

def drain (m : ReleaseOs) (d n : Nat) : ReleaseOs := match m.descriptors d with
  | some (.file inode (some buffer)) =>
      {m with files := m.files.store inode (m.files.contents inode ++ buffer.take n)}.assign d
        (some (.file inode (some (buffer.drop n))))
  | _ => m

def flushed (m : ReleaseOs) (d : Nat) : ReleaseOs := match m.descriptors d with
  | some (.file _ (some buffer)) => m.drain d buffer.length
  | _ => m

end ReleaseOs

namespace ReleaseHost
variable (h : ReleaseHost)

def opening (k : Nat) (target : Target) (m : ReleaseOs) : Except PathFailure Nat × ReleaseOs :=
  match m.descriptors (h.number k) with
  | none => (.ok (h.number k),m.assign (h.number k) (some target))
  | some _ => (.error .osError,m)

def within {α : Type} (m : ReleaseOs) (d : Nat) (call : Nat → Except PathFailure α × ReleaseOs) :
    Except PathFailure α × ReleaseOs :=
  match m.directory d with
  | some inode => call inode
  | none => (.error .osError,m)

def perform (k : Nat) : (s : ReleaseCall) → ReleaseOs → s.Reply × ReleaseOs
  | .openDirectory none name, m => match h.anchors name with
      | some inode => h.opening k (.directory inode) m
      | none => (.error .fileNotFound,m)
  | .openDirectory (some d) name, m => within m d (fun inode => match m.files.entry inode name with
      | some (.directory inner) => h.opening k (.directory inner) m
      | some _ => (.error .osError,m)
      | none => (.error .fileNotFound,m))
  | .mkdir d name, m => within m d (fun inode => match m.files.entry inode name with
      | some _ => (.error .fileExists,m)
      | none => (.ok (),{m with
          files := (m.files.emptied m.next).place inode name (some (.directory m.next)), next := m.next + 1}))
  | .stat d name, m => within m d (fun inode => match m.files.entry inode name with
      | some node => (.ok (nodeMode node),m)
      | none => (.error .fileNotFound,m))
  | .create d name, m => within m d (fun inode => match m.files.entry inode name with
      | some _ => (.error .fileExists,m)
      | none => match h.opening k (.file m.next none) m with
          | (.ok descriptor,opened) => (.ok descriptor,{opened with
              files := (m.files.store m.next []).place inode name (some (.regular m.next)), next := m.next + 1})
          | (.error e,_) => (.error e,m))
  | .fdopen d, m => match m.descriptors d with
      | some (.file inode none) => (.ok (),m.assign d (some (.file inode (some []))))
      | _ => (.error .osError,m)
  | .write d payload, m => match m.descriptors d, payload.encodeUtf8 with
      | some (.file inode (some buffer)), some bytes =>
          (.ok (),(m.assign d (some (.file inode (some (buffer ++ bytes))))).drain d (h.drained k))
      | _, _ => (.error .valueError,m)
  | .flush d, m => match m.descriptors d with
      | some (.file _ (some _)) => (.ok (),m.flushed d)
      | _ => (.error .valueError,m)
  | .fsync d, m => if (m.descriptors d).isSome then (.ok (),m) else (.error .osError,m)
  | .rename d source target, m => within m d (fun inode =>
      match m.files.entry inode source, m.files.entry inode target with
      | none, _ => (.error .fileNotFound,m)
      | some (.directory _), _ | _, some (.directory _) => (.error .osError,m)
      | some node, _ => (.ok (),{m with files := (m.files.place inode target (some node)).place inode source none}))
  | .unlink d name, m => within m d (fun inode => match m.files.entry inode name with
      | none => (.error .fileNotFound,m)
      | some (.directory _) => (.error .osError,m)
      | some _ => (.ok (),{m with files := m.files.place inode name none}))
  | .close d, m => if (m.descriptors d).isSome then (.ok (),(m.flushed d).assign d none) else (.error .osError,m)

-- A write, a flush or the close of a handle may fail with part of the buffer written out; a failing
-- close releases the descriptor. Any other call that fails does nothing.
def refused (k : Nat) : ReleaseCall → ReleaseOs → ReleaseOs
  | .write d payload, m => match m.descriptors d, payload.encodeUtf8 with
      | some (.file inode (some buffer)), some bytes =>
          (m.assign d (some (.file inode (some (buffer ++ bytes))))).drain d (h.drained k)
      | _, _ => m
  | .flush d, m => m.drain d (h.drained k)
  | .close d, m => (m.drain d (h.drained k)).assign d none
  | .openDirectory _ _, m | .mkdir _ _, m | .stat _ _, m | .create _ _, m | .fdopen _, m | .fsync _, m
  | .rename _ _ _, m | .unlink _ _, m => m

def answer (s : ReleaseCall) (m : ReleaseOs) : s.Reply × ReleaseOs :=
  let replied := match h.fault m.log.length with
    | some e => (s.failing e.failure,h.refused m.log.length s m)
    | none => h.perform m.log.length s m
  (replied.1,{replied.2 with log := m.log ++ [(s,s.succeeded replied.1)]})

end ReleaseHost

namespace ReleaseOs

def logged (m : ReleaseOs) (s : ReleaseCall) (ok : Bool) : ReleaseOs := {m with log := m.log ++ [(s,ok)]}

@[simp] theorem loggedFiles (m : ReleaseOs) (s : ReleaseCall) (ok : Bool) : (m.logged s ok).files = m.files := rfl
@[simp] theorem loggedNext (m : ReleaseOs) (s : ReleaseCall) (ok : Bool) : (m.logged s ok).next = m.next := rfl
@[simp] theorem loggedDescriptors (m : ReleaseOs) (s : ReleaseCall) (ok : Bool) :
    (m.logged s ok).descriptors = m.descriptors := rfl
@[simp] theorem assignFiles (m : ReleaseOs) (d : Nat) (target : Option Target) : (m.assign d target).files = m.files := rfl
@[simp] theorem assignNext (m : ReleaseOs) (d : Nat) (target : Option Target) : (m.assign d target).next = m.next := rfl
@[simp] theorem assignLog (m : ReleaseOs) (d : Nat) (target : Option Target) : (m.assign d target).log = m.log := rfl
@[simp] theorem assignHere (m : ReleaseOs) (d : Nat) (target : Option Target) :
    (m.assign d target).descriptors d = target := by
  simp [assign]

theorem assignOther (m : ReleaseOs) {d other : Nat} (target : Option Target) (apart : other ≠ d) :
    (m.assign d target).descriptors other = m.descriptors other := by
  simp [assign,apart]

theorem drained {m : ReleaseOs} {d inode : Nat} {buffer : Bytes}
    (handle : m.descriptors d = some (.file inode (some buffer))) (n : Nat) :
    m.drain d n = {m with files := m.files.store inode (m.files.contents inode ++ buffer.take n)}.assign d
      (some (.file inode (some (buffer.drop n)))) := by
  unfold drain
  rw [handle]

@[simp] theorem drainLog (m : ReleaseOs) (d n : Nat) : (m.drain d n).log = m.log := by
  unfold drain
  split
  · rfl
  · rfl

@[simp] theorem flushedLog (m : ReleaseOs) (d : Nat) : (m.flushed d).log = m.log := by
  unfold flushed
  split
  · exact m.drainLog _ _
  · rfl

end ReleaseOs

namespace ReleaseHost
variable {h : ReleaseHost}

theorem openingLog (k : Nat) (target : Target) (m : ReleaseOs) : (h.opening k target m).2.log = m.log := by
  unfold opening
  split
  · rfl
  · rfl

theorem withinLog {α : Type} (m : ReleaseOs) (d : Nat) {call : Nat → Except PathFailure α × ReleaseOs}
    (kept : ∀ inode, (call inode).2.log = m.log) : (within m d call).2.log = m.log := by
  unfold within
  split
  · exact kept _
  · rfl

theorem performLog (k : Nat) (s : ReleaseCall) (m : ReleaseOs) : (h.perform k s m).2.log = m.log := by
  cases s with
  | openDirectory directory name =>
    cases directory with
    | none =>
      unfold perform
      dsimp only
      split
      · exact openingLog _ _ _
      · rfl
    | some d =>
      refine withinLog m d (fun inode => ?_)
      split
      · exact openingLog _ _ _
      · rfl
      · rfl
  | mkdir d name =>
    refine withinLog m d (fun inode => ?_)
    split
    · rfl
    · rfl
  | stat d name =>
    refine withinLog m d (fun inode => ?_)
    split
    · rfl
    · rfl
  | create d name =>
    refine withinLog m d (fun inode => ?_)
    split
    · rfl
    · split
      · rename_i opened
        have kept := openingLog (h := h) k (.file m.next none) m
        rw [opened] at kept
        exact kept
      · rfl
  | fdopen d =>
    unfold perform
    dsimp only
    split
    · rfl
    · rfl
  | write d payload =>
    unfold perform
    dsimp only
    split
    · exact ReleaseOs.drainLog _ _ _
    · rfl
  | flush d =>
    unfold perform
    dsimp only
    split
    · exact ReleaseOs.flushedLog _ _
    · rfl
  | fsync d =>
    unfold perform
    dsimp only
    split
    · rfl
    · rfl
  | rename d source target =>
    refine withinLog m d (fun inode => ?_)
    split
    · rfl
    · rfl
    · rfl
    · rfl
  | unlink d name =>
    refine withinLog m d (fun inode => ?_)
    split
    · rfl
    · rfl
    · rfl
  | close d =>
    unfold perform
    dsimp only
    split
    · exact ReleaseOs.flushedLog _ _
    · rfl

theorem refusedLog (k : Nat) (s : ReleaseCall) (m : ReleaseOs) : (h.refused k s m).log = m.log := by
  cases s with
  | write d payload =>
    unfold refused
    dsimp only
    split
    · exact ReleaseOs.drainLog _ _ _
    · rfl
  | flush d => exact ReleaseOs.drainLog _ _ _
  | close d => exact ReleaseOs.drainLog _ _ _
  | openDirectory directory name => rfl
  | mkdir d name => rfl
  | stat d name => rfl
  | create d name => rfl
  | fdopen d => rfl
  | fsync d => rfl
  | rename d source target => rfl
  | unlink d name => rfl

theorem failedReply (s : ReleaseCall) (e : PathFailure) : s.succeeded (s.failing e) = false := by
  cases s with
  | _ => rfl

theorem answered (s : ReleaseCall) (m : ReleaseOs) :
    (∃ e : HostFault, h.answer s m = (s.failing e.failure,(h.refused m.log.length s m).logged s false)) ∨
    h.answer s m = ((h.perform m.log.length s m).1,
      (h.perform m.log.length s m).2.logged s (s.succeeded (h.perform m.log.length s m).1)) := by
  unfold answer
  cases h.fault m.log.length with
  | some e =>
    left
    refine ⟨e,?_⟩
    dsimp only
    rw [failedReply,ReleaseOs.logged,refusedLog]
  | none =>
    right
    dsimp only
    rw [ReleaseOs.logged,performLog]

def Idle (m : ReleaseOs) (d : Nat) : Prop := ∀ inode buffer, m.descriptors d ≠ some (.file inode (some buffer))

theorem idleDrain {m : ReleaseOs} {d : Nat} (idle : Idle m d) (n : Nat) : m.drain d n = m := by
  unfold ReleaseOs.drain
  split
  · rename_i inode buffer handle
    exact absurd handle (idle inode buffer)
  · rfl

theorem idleClose {m : ReleaseOs} {d : Nat} (idle : Idle m d) :
    ∃ r after, h.answer (.close d) m = (r,after.logged (.close d) r.isOk) ∧ (after = m ∨ after = m.assign d none) := by
  obtain ⟨e,failed⟩ | done := answered (h := h) (.close d) m
  · refine ⟨_,_,failed,.inr ?_⟩
    rw [refused,idleDrain idle]
  · have flushed : m.flushed d = m := by
      unfold ReleaseOs.flushed
      split
      · rename_i inode buffer handle
        exact absurd handle (idle inode buffer)
      · rfl
    unfold perform at done
    dsimp only at done
    rw [flushed] at done
    split at done
    · exact ⟨_,_,done,.inr rfl⟩
    · exact ⟨_,_,done,.inl rfl⟩

end ReleaseHost
end PgLlmBatch
