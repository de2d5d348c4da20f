import PgLlmBatch.Base.Ledger
import PgLlmBatch.ReleaseEvidence

/-! The three walks that open a path by descriptors, against every pattern of failing opens and
closes: which of them give back all that they opened, and when. -/
namespace PgLlmBatch
open Base

inductive CallFailure where | osError | valueError
  deriving DecidableEq, Repr

inductive MkdirOutcome where
  | made
  | exists_
  | failed (failure : CallFailure)
  deriving DecidableEq, Repr

-- What the calls answer, each kind counted on its own. A number that is open is not given out again.
structure CallPattern where
  openAt : Nat → Except CallFailure Nat
  closeFails : Nat → Bool
  mkdirAt : Nat → MkdirOutcome
  apart : ∀ k d d', openAt k = .ok d → openAt (k + 1) = .ok d' → d ≠ d'

structure DescriptorRun where
  opens : Nat
  closes : Nat
  mkdirs : Nat
  log : List (Holding Nat)
  deriving DecidableEq, Repr

def DescriptorRun.start : DescriptorRun := ⟨0,0,0,[]⟩

def CallFailure.inspection : CallFailure → OsFailure
  | .osError => .osError
  | .valueError => .valueError

def CallFailure.release : CallFailure → PathFailure
  | .osError => .osError
  | .valueError => .valueError

namespace CallPattern
variable (f : CallPattern)

def opening (st : DescriptorRun) : Except CallFailure Nat × DescriptorRun :=
  match f.openAt st.opens with
  | .ok d => (.ok d,{st with opens := st.opens + 1, log := st.log ++ [.opened d]})
  | .error e => (.error e,{st with opens := st.opens + 1})

-- A close that fails releases the descriptor all the same.
def closing (d : Nat) (st : DescriptorRun) : Except CallFailure Unit × DescriptorRun :=
  (if f.closeFails st.closes then .error .osError else .ok (),
    {st with closes := st.closes + 1, log := st.log ++ [.closed d]})

def inspectionAnswer : (s : InspectionCall) → DescriptorRun → s.Reply × DescriptorRun
  | .openDirectory _ _, st => ((f.opening st).1.mapError CallFailure.inspection,(f.opening st).2)
  | .openFile _ _, st => ((f.opening st).1.mapError CallFailure.inspection,(f.opening st).2)
  | .close d, st => ((f.closing d st).1.mapError CallFailure.inspection,(f.closing d st).2)
  | .fstat _, st => (.error .osError,st)
  | .read _ _, st => (.error .osError,st)
  | .openResource, st => (.error .osError,st)
  | .readResource _, st => (.error .osError,st)
  | .closeResource, st => (.error .osError,st)

def releaseAnswer : (s : ReleaseCall) → DescriptorRun → s.Reply × DescriptorRun
  | .openDirectory _ _, st => ((f.opening st).1.mapError CallFailure.release,(f.opening st).2)
  | .close d, st => ((f.closing d st).1.mapError CallFailure.release,(f.closing d st).2)
  | .mkdir _ _, st => (match f.mkdirAt st.mkdirs with
      | .made => .ok ()
      | .exists_ => .error .fileExists
      | .failed failure => .error (CallFailure.release failure),{st with mkdirs := st.mkdirs + 1})
  | .stat _ _, st => (.error .osError,st)
  | .create _ _, st => (.error .osError,st)
  | .fdopen _, st => (.error .osError,st)
  | .write _ _, st => (.error .osError,st)
  | .flush _, st => (.error .osError,st)
  | .fsync _, st => (.error .osError,st)
  | .rename _ _ _, st => (.error .osError,st)
  | .unlink _ _, st => (.error .osError,st)

end CallPattern

-- Everything opened is given back once, but for what is returned, after `components` opens that all
-- succeeded; and only the module's own error is raised.
def Disciplined {ε α : Type} (f : CallPattern) (own : ε → Prop) (descriptor : α → Nat) (components : Nat) :
    Except ε α × DescriptorRun → Prop
  | (.ok a,st) => Holding.Holds st.log [descriptor a] ∧ ∀ k ≤ components, ∃ d, f.openAt k = .ok d
  | (.error e,st) => own e ∧ Holding.Holds st.log []

def ReleaseOwn (e : ReleaseError) : Prop := ∃ message, e = .releaseEvidence message

section
variable {f : CallPattern} {d : Nat} {st : DescriptorRun}

variable (st) in
theorem openGiven {next : Nat} (open_ : f.openAt st.opens = .ok next) (directory : Option Nat) (name : PyStr) :
    f.releaseAnswer (.openDirectory directory name) st =
      (.ok next,{st with opens := st.opens + 1, log := st.log ++ [.opened next]}) := by
  simp only [CallPattern.releaseAnswer,CallPattern.opening,open_]
  rfl

variable (st) in
theorem openRefused {failure : CallFailure} (open_ : f.openAt st.opens = .error failure) (directory : Option Nat)
    (name : PyStr) : f.releaseAnswer (.openDirectory directory name) st =
      (.error failure.release,{st with opens := st.opens + 1}) := by
  simp only [CallPattern.releaseAnswer,CallPattern.opening,open_]
  rfl

-- The head of a walk's loop: one descriptor is held, the last one opened.
structure Walking (f : CallPattern) (d : Nat) (st : DescriptorRun) : Prop where
  holds : Holding.Holds st.log [d]
  opens : st.opens = st.closes + 1
  last : f.openAt st.closes = .ok d
  opened : ∀ k ≤ st.closes, ∃ d, f.openAt k = .ok d

theorem rootWalking {root : Nat} (open_ : f.openAt 0 = .ok root) : Walking f root ⟨1,0,0,[.opened root]⟩ where
  holds := rfl
  opens := rfl
  last := open_
  opened _ before := ⟨root,(Nat.le_zero.mp before) ▸ open_⟩

theorem nextHeld (walking : Walking f d st) {next : Nat} (open_ : f.openAt st.opens = .ok next) :
    Holding.Holds (st.log ++ [.opened next]) [next,d] := by
  refine Holding.holdsOpened walking.holds (fun same => ?_)
  have other := f.apart st.closes d next walking.last (walking.opens ▸ open_)
  exact other (List.mem_singleton.mp same).symm

theorem nextWalking (walking : Walking f d st) {next : Nat} (open_ : f.openAt st.opens = .ok next) (mkdirs : Nat) :
    Walking f next ⟨st.opens + 1,st.closes + 1,mkdirs,st.log ++ [.opened next] ++ [.closed d]⟩ where
  holds := by
    have other := f.apart st.closes d next walking.last (walking.opens ▸ open_)
    have closed := Holding.holdsClosed (nextHeld walking open_) (show d ∈ [next,d] by simp)
    rwa [List.erase_cons_tail (by simpa using other.symm),List.erase_cons_head] at closed
  opens := by
    have opens := walking.opens
    simp only
    omega
  last := walking.opens ▸ open_
  opened k before := by
    rcases Nat.lt_or_eq_of_le before with earlier | rfl
    · exact walking.opened k (Nat.le_of_lt_succ earlier)
    · exact ⟨next,walking.opens ▸ open_⟩

variable (st) in
theorem refusedWalk (holds : Holding.Holds st.log [d]) {e : ReleaseError} (own : ReleaseOwn e) (components : Nat) :
    Disciplined f ReleaseOwn id components ((closingOnError (d,.error e)).eval f.releaseAnswer st) ↔
      f.closeFails st.closes = false := by
  have closed := Holding.holdsClosed holds (List.mem_singleton_self d)
  rw [List.erase_cons_head] at closed
  unfold closingOnError
  rw [Program.evalCall]
  cases fails : f.closeFails st.closes with
  | true =>
    have reply : (f.releaseAnswer (.close d) st).1 = .error .osError := by
      simp only [CallPattern.releaseAnswer,CallPattern.closing,fails]
      rfl
    rw [reply]
    refine ⟨fun disciplined => ?_,fun absurd_ => nomatch absurd_⟩
    obtain ⟨message,other⟩ := disciplined.1
    cases other
  | false =>
    have reply : (f.releaseAnswer (.close d) st).1 = .ok () := by
      simp only [CallPattern.releaseAnswer,CallPattern.closing,fails]
      rfl
    rw [reply]
    exact ⟨fun _ => rfl,fun _ => ⟨own,closed⟩⟩

-- A failing close inside the `try` block is followed by a second close of the same descriptor.
theorem closedAgain {next : Nat} (holds : Holding.Holds st.log [next]) (other : d ≠ next) (e : ReleaseError)
    (components : Nat) :
    ¬Disciplined f ReleaseOwn id components ((closingOnError (d,.error e)).eval f.releaseAnswer st) := by
  have twice := Holding.closedTwice holds (fun same => other (List.mem_singleton.mp same))
  unfold closingOnError
  rw [Program.evalCall]
  intro disciplined
  cases reply : (f.releaseAnswer (.close d) st).1 with
  | error failure =>
    rw [reply] at disciplined
    have settled : Holding.settle [] (st.log ++ [.closed d]) = some [] := disciplined.2
    rw [twice] at settled
    cases settled
  | ok done =>
    rw [reply] at disciplined
    have settled : Holding.settle [] (st.log ++ [.closed d]) = some [] := disciplined.2
    rw [twice] at settled
    cases settled

structure Prepares (f : CallPattern) (prepare : Nat → PyStr → ReleaseProgram (Except ReleaseError Unit))
    (ready : Nat → Bool) : Prop where
  turn (d : Nat) (component : PyStr) (st : DescriptorRun) : ∃ r mkdirs,
    (prepare d component).eval f.releaseAnswer st = (.ok r,{st with mkdirs := mkdirs}) ∧
    (∀ k, ready (mkdirs + k) = ready (st.mkdirs + 1 + k)) ∧
    (ready st.mkdirs = true → r = .ok ()) ∧ (ready st.mkdirs = false → ∃ e, r = .error e ∧ ReleaseOwn e)

theorem enteredLater {ready : Nat → Bool} {mkdirs : Nat} (shift : ∀ k, ready (mkdirs + k) = ready (st.mkdirs + 1 + k))
    (readied : ready st.mkdirs = true) (open_ : (f.openAt st.opens).isOk = true) (j : Nat) :
    (∀ k < j, ready (mkdirs + k) = true ∧ (f.openAt (st.opens + 1 + k)).isOk = true) ↔
      ∀ k < j + 1, ready (st.mkdirs + k) = true ∧ (f.openAt (st.opens + k)).isOk = true := by
  constructor
  · intro entered k before
    cases k with
    | zero => exact ⟨readied,open_⟩
    | succ k =>
      have turned := entered k (Nat.lt_of_succ_lt_succ before)
      rw [shift,Nat.add_assoc,Nat.add_comm 1 k,Nat.add_assoc st.opens,Nat.add_comm 1 k] at turned
      exact turned
  · intro entered k before
    have turned := entered (k + 1) (Nat.succ_lt_succ before)
    rw [shift,Nat.add_assoc,Nat.add_comm 1 k,Nat.add_assoc st.opens,Nat.add_comm 1 k]
    exact turned

theorem walkDisciplined {prepare : Nat → PyStr → ReleaseProgram (Except ReleaseError Unit)} {ready : Nat → Bool}
    (prepares : Prepares f prepare ready) (notDirectory : String) (parts : List PyStr) (walking : Walking f d st) :
    Disciplined f ReleaseOwn id (st.closes + parts.length)
        ((walkSteps prepare notDirectory d parts >>= closingOnError).eval f.releaseAnswer st) ↔
      ∀ j < parts.length, (∀ k < j, ready (st.mkdirs + k) = true ∧ (f.openAt (st.opens + k)).isOk = true) →
        f.closeFails (st.closes + j) = false := by
  induction parts generalizing d st with
  | nil => exact ⟨fun _ j none_ => absurd none_ (Nat.not_lt_zero j),fun _ => ⟨walking.holds,walking.opened⟩⟩
  | cons component parts ih =>
    obtain ⟨r,mkdirs,turn,shift,passes,stops⟩ := prepares.turn d component st
    have stopped (refused : ¬(ready st.mkdirs = true ∧ (f.openAt st.opens).isOk = true)) :
        (f.closeFails st.closes = false ↔ ∀ j < parts.length + 1,
          (∀ k < j, ready (st.mkdirs + k) = true ∧ (f.openAt (st.opens + k)).isOk = true) →
            f.closeFails (st.closes + j) = false) := by
      constructor
      · intro first j _ entered
        cases j with
        | zero => exact first
        | succ j => exact absurd (entered 0 (Nat.succ_pos j)) refused
      · exact fun all => all 0 (Nat.succ_pos _) (fun k none_ => absurd none_ (Nat.not_lt_zero k))
    unfold walkSteps
    rw [Program.evalBind,Program.evalBind,turn]
    dsimp only
    cases readied : ready st.mkdirs with
    | false =>
      obtain ⟨e,rfl,own⟩ := stops readied
      exact (refusedWalk ⟨st.opens,st.closes,mkdirs,st.log⟩ walking.holds own _).trans (stopped (by simp [readied]))
    | true =>
      obtain rfl := passes readied
      dsimp only
      rw [Program.evalCall]
      cases open_ : f.openAt st.opens with
      | error failure =>
        have refused := stopped (by simp [open_,Except.isOk,Except.toBool])
        rw [openRefused ⟨st.opens,st.closes,mkdirs,st.log⟩ open_]
        refine (refusedWalk ⟨st.opens + 1,st.closes,mkdirs,st.log⟩ walking.holds ?_ _).trans refused
        cases failure with
        | osError => exact ⟨notDirectory,rfl⟩
        | valueError => exact ⟨notDirectory,rfl⟩
      | ok next =>
        have after := nextWalking walking open_ mkdirs
        rw [openGiven ⟨st.opens,st.closes,mkdirs,st.log⟩ open_]
        dsimp only
        rw [Program.evalCall]
        cases fails : f.closeFails st.closes with
        | true =>
          have reply : (f.releaseAnswer (.close d)
              ⟨st.opens + 1,st.closes,mkdirs,st.log ++ [.opened next]⟩) =
                (.error .osError,⟨st.opens + 1,st.closes + 1,mkdirs,st.log ++ [.opened next] ++ [.closed d]⟩) := by
            simp only [CallPattern.releaseAnswer,CallPattern.closing,fails]
            rfl
          rw [reply]
          have other : d ≠ next := f.apart st.closes d next walking.last (walking.opens ▸ open_)
          refine ⟨fun disciplined => absurd disciplined (closedAgain after.holds other _ _),fun all => ?_⟩
          have first := all 0 (Nat.succ_pos _) (fun k none_ => absurd none_ (Nat.not_lt_zero k))
          rw [Nat.add_zero,fails] at first
          cases first
        | false =>
          have reply : (f.releaseAnswer (.close d)
              ⟨st.opens + 1,st.closes,mkdirs,st.log ++ [.opened next]⟩) =
                (.ok (),⟨st.opens + 1,st.closes + 1,mkdirs,st.log ++ [.opened next] ++ [.closed d]⟩) := by
            simp only [CallPattern.releaseAnswer,CallPattern.closing,fails]
            rfl
          rw [reply]
          dsimp only
          have rest := ih after
          rw [Program.evalBind] at rest
          dsimp only at rest
          rw [List.length_cons,show st.closes + (parts.length + 1) = st.closes + 1 + parts.length by omega]
          refine rest.trans ⟨fun all j before entered => ?_,fun all j before entered => ?_⟩
          · cases j with
            | zero => exact fails
            | succ j =>
              have turned := all j (Nat.lt_of_succ_lt_succ before) ((enteredLater shift readied (by rw [open_]; rfl) j).mpr entered)
              rwa [Nat.add_assoc,Nat.add_comm 1 j] at turned
          · have turned := all (j + 1) (Nat.succ_lt_succ before) ((enteredLater shift readied (by rw [open_]; rfl) j).mp entered)
            rwa [Nat.add_assoc,Nat.add_comm 1 j]

theorem releasePrepares : Prepares f (fun _ _ => .ret (.ok ())) (fun _ => true) where
  turn _ _ st := ⟨.ok (),st.mkdirs,rfl,fun _ => rfl,fun _ => rfl,fun other => nomatch other⟩

def CallPattern.entered (f : CallPattern) (k : Nat) : Bool := match f.mkdirAt k with
  | .made | .exists_ => true
  | .failed _ => false

theorem parentPrepares : Prepares f makeParent f.entered where
  turn parent component st := by
    unfold makeParent
    rw [Program.evalCall]
    cases made : f.mkdirAt st.mkdirs with
    | made =>
      have reply : f.releaseAnswer (.mkdir parent component) st = (.ok (),{st with mkdirs := st.mkdirs + 1}) := by
        simp only [CallPattern.releaseAnswer,made]
      have ready : f.entered st.mkdirs = true := by rw [CallPattern.entered,made]
      rw [reply]
      exact ⟨.ok (),st.mkdirs + 1,rfl,fun _ => rfl,fun _ => rfl,fun refused => by simp [ready] at refused⟩
    | exists_ =>
      have reply : f.releaseAnswer (.mkdir parent component) st =
          (.error .fileExists,{st with mkdirs := st.mkdirs + 1}) := by
        simp only [CallPattern.releaseAnswer,made]
      have ready : f.entered st.mkdirs = true := by rw [CallPattern.entered,made]
      rw [reply]
      exact ⟨.ok (),st.mkdirs + 1,rfl,fun _ => rfl,fun _ => rfl,fun refused => by simp [ready] at refused⟩
    | failed failure =>
      have reply : f.releaseAnswer (.mkdir parent component) st =
          (.error failure.release,{st with mkdirs := st.mkdirs + 1}) := by
        simp only [CallPattern.releaseAnswer,made]
      have unready : f.entered st.mkdirs = false := by rw [CallPattern.entered,made]
      rw [reply]
      refine ⟨.error (.releaseEvidence "release manifest parent directory could not be created"),st.mkdirs + 1,?_,
        fun _ => rfl,?_,fun _ => ⟨_,rfl,_,rfl⟩⟩
      · cases failure with
        | osError => rfl
        | valueError => rfl
      · intro readied
        rw [unready] at readied
        cases readied

theorem rootedWalk {prepare : Nat → PyStr → ReleaseProgram (Except ReleaseError Unit)} {ready : Nat → Bool}
    (prepares : Prepares f prepare ready) (notDirectory : String) (parts : List PyStr) {root : Nat}
    (open_ : f.openAt 0 = .ok root) :
    Disciplined f ReleaseOwn id parts.length
        ((walkSteps prepare notDirectory root parts >>= closingOnError).eval f.releaseAnswer
          ⟨1,0,0,[.opened root]⟩) ↔
      ∀ j < parts.length, (∀ k ≤ j, (f.openAt k).isOk = true) → (∀ k < j, ready k = true) → f.closeFails j = false := by
  have walking := rootWalking open_
  have walked := walkDisciplined prepares notDirectory parts walking
  simp only [Nat.zero_add] at walked
  refine walked.trans ⟨fun all j before opened readied => all j before (fun k earlier => ?_),
    fun all j before entered => all j before (fun k earlier => ?_) (fun k earlier => (entered k earlier).1)⟩
  · exact ⟨readied k earlier,opened (1 + k) (by omega)⟩
  · cases k with
    | zero =>
      rw [open_]
      rfl
    | succ k =>
      have opened := (entered k earlier).2
      rwa [Nat.add_comm 1 k] at opened

theorem releaseDirectoryDisciplined (f : CallPattern) (directory : PurePath) :
    Disciplined f ReleaseOwn id directory.components.length ((openReleaseDirectory directory).eval f.releaseAnswer .start) ↔
      ∀ anchor parts, directoryPathParts directory = .ok (anchor,parts) → ∀ j < parts.length,
        (∀ k ≤ j, (f.openAt k).isOk = true) → f.closeFails j = false := by
  unfold openReleaseDirectory
  cases split_ : directoryPathParts directory with
  | error e =>
    refine ⟨fun _ _ _ other => (nomatch other),fun _ => ⟨?_,rfl⟩⟩
    unfold directoryPathParts at split_
    split at split_
    · cases split_
      exact ⟨_,rfl⟩
    · cases split_
  | ok found =>
    obtain ⟨anchor,parts⟩ := found
    have same : directory.components.length = parts.length := by
      unfold directoryPathParts at split_
      split at split_
      · cases split_
      · cases split_
        rfl
    rw [same,Program.ofExceptOk,Program.bindRet]
    dsimp only
    rw [Program.bindCall,Program.evalCall]
    cases open_ : f.openAt 0 with
    | error failure =>
      rw [openRefused .start open_]
      constructor
      · intro _ _ _ _ j _ opened
        have first := opened 0 (Nat.zero_le j)
        rw [open_] at first
        cases first
      · intro _
        cases failure with
        | osError => exact ⟨⟨_,rfl⟩,rfl⟩
        | valueError => exact ⟨⟨_,rfl⟩,rfl⟩
    | ok root =>
      rw [openGiven .start open_]
      refine (rootedWalk releasePrepares _ parts open_).trans ⟨fun all anchor' parts' found j before opened => ?_,
        fun all j before opened _ => all anchor parts rfl j before opened⟩
      cases found
      exact all j before opened (fun _ _ => rfl)

theorem namedDisciplined (walk : ReleaseProgram Walked) (name : PyStr) (components : Nat) :
    Disciplined f ReleaseOwn Prod.fst components
        ((walk >>= fun walked => closingOnError walked >>= fun d => .ret (d,name)).eval f.releaseAnswer st) ↔
      Disciplined f ReleaseOwn id components ((walk >>= closingOnError).eval f.releaseAnswer st) := by
  rw [Program.evalBind,Program.evalBind]
  cases walk.eval f.releaseAnswer st with
  | mk outcome after =>
    cases outcome with
    | error e => exact Iff.rfl
    | ok walked =>
      dsimp only
      rw [Program.evalBind]
      cases (closingOnError walked).eval f.releaseAnswer after with
      | mk outcome last =>
        cases outcome with
        | ok d => exact Iff.rfl
        | error e => exact Iff.rfl

theorem manifestParentDisciplined (f : CallPattern) (destination : PurePath) :
    Disciplined f ReleaseOwn Prod.fst destination.components.dropLast.length
        ((openManifestParent destination).eval f.releaseAnswer .start) ↔
      ∀ anchor parts name, manifestPathParts destination = .ok (anchor,parts,name) → ∀ j < parts.length,
        (∀ k ≤ j, (f.openAt k).isOk = true) → (∀ k < j, f.entered k = true) → f.closeFails j = false := by
  unfold openManifestParent
  cases split_ : manifestPathParts destination with
  | error e =>
    refine ⟨fun _ _ _ _ other => (nomatch other),fun _ => ⟨?_,rfl⟩⟩
    unfold manifestPathParts at split_
    dsimp only at split_
    split at split_
    · cases split_
      exact ⟨_,rfl⟩
    · split at split_
      · cases split_
        exact ⟨_,rfl⟩
      · cases split_
  | ok found =>
    obtain ⟨anchor,parts,name⟩ := found
    have same : destination.components.dropLast.length = parts.length := by
      unfold manifestPathParts at split_
      dsimp only at split_
      split at split_
      · cases split_
      · split at split_
        · cases split_
        · cases split_
          rfl
    rw [same,Program.ofExceptOk,Program.bindRet]
    dsimp only
    rw [Program.bindCall,Program.evalCall]
    cases open_ : f.openAt 0 with
    | error failure =>
      rw [openRefused .start open_]
      constructor
      · intro _ _ _ _ _ j _ opened
        have first := opened 0 (Nat.zero_le j)
        rw [open_] at first
        cases first
      · intro _
        cases failure with
        | osError => exact ⟨⟨_,rfl⟩,rfl⟩
        | valueError => exact ⟨⟨_,rfl⟩,rfl⟩
    | ok root =>
      rw [openGiven .start open_]
      refine (namedDisciplined _ name _).trans ((rootedWalk parentPrepares _ parts open_).trans
        ⟨fun all anchor' parts' name' found j before opened => ?_,
          fun all j before opened => all anchor parts name rfl j before opened⟩)
      cases found
      exact all j before opened

def InspectionOwn (e : RecoveryError) : Prop := ∃ message, e = .backupEvidence message

variable (st) in
theorem quietlyClosed (held : List Nat) (holds : Holding.Holds st.log held) (own : d ∈ held) :
    ∃ after, (Backup.quietClose d).eval f.inspectionAnswer st = (.ok (),after) ∧
      Holding.Holds after.log (held.erase d) := by
  refine ⟨(f.closing d st).2,?_,Holding.holdsClosed holds own⟩
  unfold Backup.quietClose
  rw [Program.evalCall]
  simp only [CallPattern.inspectionAnswer,CallPattern.closing]
  cases f.closeFails st.closes with
  | true => rfl
  | false => rfl

theorem parentClosed (walking : Walking f d st) {next : Nat} (open_ : f.openAt st.opens = .ok next) :
    (∃ after, (Backup.closeParent d next).eval f.inspectionAnswer
        {st with opens := st.opens + 1, log := st.log ++ [.opened next]} = (.ok (),after) ∧
      Walking f next after ∧ after.closes = st.closes + 1) ∨
    ∃ after, (Backup.closeParent d next).eval f.inspectionAnswer
        {st with opens := st.opens + 1, log := st.log ++ [.opened next]} = (.error Backup.notClosed,after) ∧
      Holding.Holds after.log [] := by
  have stepped := nextWalking walking open_ st.mkdirs
  have replied : f.inspectionAnswer (.close d) {st with opens := st.opens + 1, log := st.log ++ [.opened next]} =
      ((if f.closeFails st.closes then .error .osError else .ok ()),
        ⟨st.opens + 1,st.closes + 1,st.mkdirs,st.log ++ [.opened next] ++ [.closed d]⟩) := by
    simp only [CallPattern.inspectionAnswer,CallPattern.closing]
    cases f.closeFails st.closes with
    | true => rfl
    | false => rfl
  have closing : (Backup.closeDescriptor d).eval f.inspectionAnswer
      {st with opens := st.opens + 1, log := st.log ++ [.opened next]} =
      ((if f.closeFails st.closes then .error Backup.notClosed else .ok ()),
        ⟨st.opens + 1,st.closes + 1,st.mkdirs,st.log ++ [.opened next] ++ [.closed d]⟩) := by
    unfold Backup.closeDescriptor
    rw [Program.evalCall,replied]
    cases f.closeFails st.closes with
    | true => rfl
    | false => rfl
  unfold Backup.closeParent
  cases fails : f.closeFails st.closes with
  | false =>
    rw [fails] at closing
    exact .inl ⟨_,Program.evalHandled closing,stepped,rfl⟩
  | true =>
    rw [fails] at closing
    obtain ⟨after,quiet,settled⟩ := quietlyClosed (f := f) _ [next] stepped.holds (List.mem_singleton_self next)
    rw [List.erase_cons_head] at settled
    refine .inr ⟨after,?_,settled⟩
    rw [if_pos rfl] at closing
    rw [Program.evalRecovered closing,if_pos rfl,Program.evalBind,quiet]
    rfl

theorem openingReturned (walking : Walking f d st) :
    (∃ next, f.openAt st.opens = .ok next ∧
      (Backup.opened d ((f.opening st).1.mapError CallFailure.inspection)).eval f.inspectionAnswer (f.opening st).2 =
        (.ok next,{st with opens := st.opens + 1, log := st.log ++ [.opened next]})) ∨
    ∃ after, (Backup.opened d ((f.opening st).1.mapError CallFailure.inspection)).eval f.inspectionAnswer
        (f.opening st).2 = (.error Backup.notOpened,after) ∧ Holding.Holds after.log [] := by
  unfold CallPattern.opening
  cases open_ : f.openAt st.opens with
  | ok next => exact .inl ⟨next,rfl,rfl⟩
  | error failure =>
    obtain ⟨after,quiet,settled⟩ := quietlyClosed (f := f) ⟨st.opens + 1,st.closes,st.mkdirs,st.log⟩ [d]
      walking.holds (List.mem_singleton_self d)
    rw [List.erase_cons_head] at settled
    refine .inr ⟨after,?_,settled⟩
    have caught : Backup.openCaught failure.inspection = true := by
      cases failure with
      | osError => rfl
      | valueError => rfl
    dsimp only [Except.mapError]
    unfold Backup.opened
    dsimp only
    rw [caught,if_pos rfl,Program.evalBind,quiet]
    rfl

theorem turnTaken (walking : Walking f d st) (opening : InspectionProgram Nat)
    (opens : opening.eval f.inspectionAnswer st =
      (Backup.opened d ((f.opening st).1.mapError CallFailure.inspection)).eval f.inspectionAnswer (f.opening st).2)
    {α : Type} (rest : Nat → InspectionProgram α) :
    (∃ next after, (opening >>= fun next => Backup.closeParent d next >>= fun _ => rest next).eval f.inspectionAnswer
        st = (rest next).eval f.inspectionAnswer after ∧ Walking f next after ∧ after.closes = st.closes + 1) ∨
    ∃ e after, (opening >>= fun next => Backup.closeParent d next >>= fun _ => rest next).eval f.inspectionAnswer
        st = (.error e,after) ∧ InspectionOwn e ∧ Holding.Holds after.log [] := by
  rw [Program.evalBind,opens]
  obtain ⟨next,open_,ran⟩ | ⟨after,ran,settled⟩ := openingReturned walking
  · rw [ran]
    dsimp only
    rw [Program.evalBind]
    obtain ⟨after,closed,stepped,once⟩ | ⟨after,closed,settled⟩ := parentClosed walking open_
    · rw [closed]
      exact .inl ⟨next,after,rfl,stepped,once⟩
    · rw [closed]
      exact .inr ⟨Backup.notClosed,after,rfl,⟨_,rfl⟩,settled⟩
  · rw [ran]
    exact .inr ⟨Backup.notOpened,after,rfl,⟨_,rfl⟩,settled⟩

theorem artifactDisciplined (name : PyStr) (components : List PyStr) (walking : Walking f d st) :
    Disciplined f InspectionOwn id (st.closes + components.length + 1)
      ((Backup.openParents d components >>= fun parent => do
        let artifact ← .call (.openFile parent name) (Backup.opened parent)
        Backup.closeParent parent artifact
        return artifact).eval f.inspectionAnswer st) := by
  induction components generalizing d st with
  | nil =>
    unfold Backup.openParents
    rw [Program.bindRet]
    obtain ⟨next,after,ran,stepped,once⟩ | ⟨e,after,ran,own,settled⟩ :=
      turnTaken walking (.call (.openFile d name) (Backup.opened d)) rfl (fun artifact => .ret artifact)
    · have disciplined : Disciplined f InspectionOwn id (st.closes + 1) (.ok next,after) :=
        ⟨stepped.holds,fun k before => stepped.opened k (once ▸ before)⟩
      exact ran ▸ disciplined
    · have disciplined : Disciplined f InspectionOwn id (st.closes + 1) (.error e,after) := ⟨own,settled⟩
      exact ran ▸ disciplined
  | cons component components ih =>
    unfold Backup.openParents
    rw [Program.evalBind]
    obtain ⟨next,after,ran,stepped,once⟩ | ⟨e,after,ran,own,settled⟩ := turnTaken walking
        (.call (.openDirectory (some d) component) (Backup.opened d)) rfl
        (fun next => Backup.openParents next components)
    · have rest := ih stepped
      rw [Program.evalBind] at rest
      rw [ran,List.length_cons,show st.closes + (components.length + 1) + 1 = after.closes + components.length + 1 by omega]
      exact rest
    · rw [ran]
      exact ⟨own,settled⟩

def artifactComponents (path : PyStr) : Nat := match Backup.pathParts path with
  | .ok (_,parents,_) => parents.length + 1
  | .error _ => 0

theorem backupArtifactDisciplined (f : CallPattern) (path : PyStr) :
    Disciplined f InspectionOwn id (artifactComponents path)
      ((Backup.openBackupArtifact path).eval f.inspectionAnswer .start) := by
  unfold artifactComponents Backup.openBackupArtifact
  cases split_ : Backup.pathParts path with
  | error e =>
    refine ⟨?_,rfl⟩
    unfold Backup.pathParts at split_
    dsimp only at split_
    split at split_
    · cases split_
      exact ⟨_,rfl⟩
    · split at split_
      · cases split_
        exact ⟨_,rfl⟩
      · cases split_
  | ok found =>
    obtain ⟨anchor,parents,name⟩ := found
    rw [Program.ofExceptOk,Program.bindRet]
    dsimp only
    rw [Program.bindCall,Program.evalCall]
    cases open_ : f.openAt 0 with
    | error failure =>
      have reply : f.inspectionAnswer (.openDirectory none anchor) .start = (.error failure.inspection,⟨1,0,0,[]⟩) := by
        simp only [CallPattern.inspectionAnswer,CallPattern.opening,DescriptorRun.start,open_]
        rfl
      rw [reply]
      cases failure with
      | osError => exact ⟨⟨_,rfl⟩,rfl⟩
      | valueError => exact ⟨⟨_,rfl⟩,rfl⟩
    | ok root =>
      have reply : f.inspectionAnswer (.openDirectory none anchor) .start = (.ok root,⟨1,0,0,[.opened root]⟩) := by
        simp only [CallPattern.inspectionAnswer,CallPattern.opening,DescriptorRun.start,open_]
        rfl
      rw [reply]
      have walked := artifactDisciplined name parents (rootWalking open_)
      rw [Nat.zero_add] at walked
      exact walked

end

theorem descriptorsBalanced (f : CallPattern) :
    (∀ path, Disciplined f InspectionOwn id (artifactComponents path)
      ((Backup.openBackupArtifact path).eval f.inspectionAnswer .start)) ∧
    (∀ directory, Disciplined f ReleaseOwn id directory.components.length
        ((openReleaseDirectory directory).eval f.releaseAnswer .start) ↔
      ∀ anchor parts, directoryPathParts directory = .ok (anchor,parts) → ∀ j < parts.length,
        (∀ k ≤ j, (f.openAt k).isOk = true) → f.closeFails j = false) ∧
    ∀ destination, Disciplined f ReleaseOwn Prod.fst destination.components.dropLast.length
        ((openManifestParent destination).eval f.releaseAnswer .start) ↔
      ∀ anchor parts name, manifestPathParts destination = .ok (anchor,parts,name) → ∀ j < parts.length,
        (∀ k ≤ j, (f.openAt k).isOk = true) → (∀ k < j, f.entered k = true) → f.closeFails j = false :=
  ⟨backupArtifactDisciplined f,releaseDirectoryDisciplined f,manifestParentDisciplined f⟩

def firstCloseFails : CallPattern where
  openAt k := .ok (3 + k)
  closeFails k := k == 0
  mkdirAt _ := .made
  apart k d d' here later := by
    cases here
    cases later
    omega

theorem directoryClosedTwice :
    (openReleaseDirectory (.of (py "evidence"))).eval firstCloseFails.releaseAnswer .start =
      (.error (.raised .osError),⟨2,2,0,[.opened 3,.opened 4,.closed 3,.closed 3]⟩) ∧
    (openManifestParent (.of (py "evidence/manifest.json"))).eval firstCloseFails.releaseAnswer .start =
      (.error (.raised .osError),⟨2,2,1,[.opened 3,.opened 4,.closed 3,.closed 3]⟩) ∧
    ¬∀ f directory, Disciplined f ReleaseOwn id directory.components.length
      ((openReleaseDirectory directory).eval f.releaseAnswer .start) := by
  refine ⟨rfl,rfl,fun all => ?_⟩
  have disciplined := all firstCloseFails (.of (py "evidence"))
  have failed : (openReleaseDirectory (.of (py "evidence"))).eval firstCloseFails.releaseAnswer .start =
    (.error (.raised .osError),⟨2,2,0,[.opened 3,.opened 4,.closed 3,.closed 3]⟩) := rfl
  rw [failed] at disciplined
  obtain ⟨message,other⟩ := disciplined.1
  cases other

end PgLlmBatch
