import PgLlmBatch.LogicalBackup

/-! A logical backup while another actor may replace the caller's descriptor: which files the
package and its child touch, and what is left of the inspected one. -/
namespace PgLlmBatch
open Base

structure Description where
  file : Nat
  offset : Nat
  deriving DecidableEq, Repr

structure BackupFile where
  content : Bytes
  links : Nat
  mode : Nat
  deriving DecidableEq, Repr

inductive BackupEffect where
  | written (file : Nat)
  | repositioned (file : Nat)
  | truncated (file : Nat)
  deriving DecidableEq, Repr

def BackupEffect.file : BackupEffect → Nat
  | .written file | .repositioned file | .truncated file => file

inductive ChildAct where
  | write (first : UInt8) (rest : Bytes)
  | seek (offset : Nat)
  deriving DecidableEq, Repr

def writeAt (content : Bytes) (offset : Nat) (bytes : Bytes) : Bytes :=
  content.take offset ++ List.replicate (offset - content.length) 0 ++ bytes ++ content.drop (offset + bytes.length)

def childRun : List ChildAct → Bytes × Nat → Bytes × Nat
  | [], at_ => at_
  | .write first rest::acts, (content,offset) =>
      childRun acts (writeAt content offset (first::rest),offset + (first::rest).length)
  | .seek target::acts, (content,_) => childRun acts (content,target)

def ChildAct.effect (file : Nat) : ChildAct → BackupEffect
  | .write _ _ => .written file
  | .seek _ => .repositioned file

-- What the caller's number denotes when it is used: by the initial inspection, and afterwards as the
-- other actor has left it. `links` and `mode` of any file may change while the child runs.
structure BackupHost where
  output : Nat
  inspected : Option Nat
  atDup : Option Nat
  atSpawn : Option Nat
  atStat : Option Nat
  inspectionFails : Bool
  dupFails : Bool
  syncFails : Bool
  statFails : Bool
  truncateFails : Bool
  rewindFails : Bool
  child : List ChildAct
  outcome : RunOutcome
  links : Nat → Nat
  mode : Nat → Nat

structure BackupWorld where
  uses : Nat
  duplicates : Nat → Option Nat
  descriptions : Nat → Description
  files : Nat → BackupFile
  effects : List BackupEffect

namespace BackupHost
variable (h : BackupHost)

def denotes : Nat → Option Nat
  | 0 | 1 => h.inspected
  | 2 => h.atDup
  | 3 => h.atSpawn
  | _ => h.atStat

def fails : Nat → Bool
  | 0 | 1 => h.inspectionFails
  | 2 => h.dupFails
  | 3 => false
  | _ => h.statFails

def target (w : BackupWorld) (d : Nat) : Option Nat :=
  if d = h.output then (if h.fails w.uses then none else h.denotes w.uses) else w.duplicates d

def used (w : BackupWorld) (d : Nat) : BackupWorld := if d = h.output then {w with uses := w.uses + 1} else w

def status (w : BackupWorld) (description : Nat) : OutputStatus :=
  let file := (w.descriptions description).file
  ⟨(w.files file).mode,(w.files file).content.length,(w.files file).links,file⟩

def runChild (w : BackupWorld) (description : Nat) : BackupWorld :=
  let at_ := w.descriptions description
  let ran := childRun h.child ((w.files at_.file).content,at_.offset)
  {w with
    descriptions := Function.update w.descriptions description ⟨at_.file,ran.2⟩
    files := Function.update w.files at_.file {w.files at_.file with content := ran.1}
    effects := w.effects ++ h.child.map (ChildAct.effect at_.file)}

def remoded (w : BackupWorld) : BackupWorld :=
  {w with files := fun f => {w.files f with links := h.links f, mode := h.mode f}}

def truncate (w : BackupWorld) (description : Nat) : BackupWorld :=
  let file := (w.descriptions description).file
  {w with
    files := Function.update w.files file {w.files file with content := []}
    effects := w.effects ++ [.truncated file]}

def rewound (w : BackupWorld) (description : Nat) : BackupWorld :=
  let file := (w.descriptions description).file
  {w with
    descriptions := Function.update w.descriptions description ⟨file,0⟩
    effects := w.effects ++ [.repositioned file]}

-- The number of a duplicate is one that is not in use.
def answer : (s : BackupCall) → BackupWorld → s.Reply × BackupWorld
  | .fstat d, w => ((h.target w d).map (status w),h.used w d)
  | .tell d, w => ((h.target w d).map (fun description => (w.descriptions description).offset),h.used w d)
  | .dup d, w => match h.target w d with
      | some description => (some (h.output + 1),{h.used w d with
          duplicates := Function.update w.duplicates (h.output + 1) (some description)})
      | none => (none,h.used w d)
  | .run child, w => match h.target w child.stdout with
      | some description => (h.outcome,h.remoded (h.runChild (h.used w child.stdout) description))
      | none => (.exception,h.used w child.stdout)
  | .fsync d, w => (if h.syncFails then none else (h.target w d).map (fun _ => ()),h.used w d)
  | .ftruncate d, w => match h.target w d with
      | some description => if h.truncateFails then (none,h.used w d) else (some (),truncate (h.used w d) description)
      | none => (none,h.used w d)
  | .rewind d, w => match h.target w d with
      | some description => if h.rewindFails then (none,h.used w d) else (some (),rewound (h.used w d) description)
      | none => (none,h.used w d)
  | .close d, w => ((h.target w d).map (fun _ => ()),{h.used w d with duplicates := Function.update w.duplicates d none})

end BackupHost

def BackupWorld.start (descriptions : Nat → Description) (files : Nat → BackupFile) : BackupWorld :=
  ⟨0,fun _ => none,descriptions,files,[]⟩

-- What differs between two worlds is only how the numbers stand.
structure SameFiles (w after : BackupWorld) : Prop where
  descriptions : after.descriptions = w.descriptions
  files : after.files = w.files
  effects : after.effects = w.effects

namespace BackupHost
variable (h : BackupHost)

def emptied (w : BackupWorld) (description : Nat) : BackupWorld :=
  if h.truncateFails then w else truncate w description

def invalidated (w : BackupWorld) (description : Nat) : BackupWorld :=
  if h.rewindFails then h.emptied w description else rewound (h.emptied w description) description

end BackupHost

section
variable {h : BackupHost} {w : BackupWorld} {c : Nat}

theorem cleanupTarget (kept : w.duplicates (h.output + 1) = some c) : h.target w (h.output + 1) = some c := by
  rw [BackupHost.target,if_neg (by omega),kept]

theorem cleanupUsed : h.used w (h.output + 1) = w := if_neg (by omega)

theorem invalidates {α : Type} (kept : w.duplicates (h.output + 1) = some c) (e : BackupError) :
    (LogicalBackup.invalidating (h.output + 1) e : BackupProgram α).eval h.answer w = (.error e,h.invalidated w c) := by
  unfold LogicalBackup.invalidating LogicalBackup.invalidateOutput
  rw [Program.bindCall,Program.evalCall]
  have truncated : (h.answer (.ftruncate (h.output + 1)) w).2 = h.emptied w c := by
    simp only [BackupHost.answer,cleanupTarget kept,cleanupUsed,BackupHost.emptied]
    split
    · rfl
    · rfl
  have still : (h.emptied w c).duplicates (h.output + 1) = some c := by
    unfold BackupHost.emptied
    split
    · exact kept
    · exact kept
  have rewound : (h.answer (.rewind (h.output + 1)) (h.emptied w c)).2 = h.invalidated w c := by
    simp only [BackupHost.answer,cleanupTarget still,cleanupUsed,BackupHost.invalidated]
    split
    · rfl
    · rfl
  rw [truncated,Program.bindCall,Program.evalCall,rewound]
  rfl

theorem sameEmptied {w' : BackupWorld} (same : SameFiles w w') (c : Nat) : SameFiles (h.emptied w c) (h.emptied w' c) := by
  unfold BackupHost.emptied BackupHost.truncate
  split
  · exact same
  · refine ⟨same.descriptions,?_,?_⟩
    · simp only [same.descriptions,same.files]
    · simp only [same.descriptions,same.effects]

theorem sameInvalidated {w' : BackupWorld} (same : SameFiles w w') (c : Nat) :
    SameFiles (h.invalidated w c) (h.invalidated w' c) := by
  have emptied := sameEmptied (h := h) same c
  unfold BackupHost.invalidated BackupHost.rewound
  split
  · exact emptied
  · refine ⟨?_,emptied.files,?_⟩
    · simp only [emptied.descriptions]
    · simp only [emptied.descriptions,emptied.effects]

-- What the last check reads of the file that the caller's number then denotes.
structure Passed (h : BackupHost) (ran : BackupWorld) (original : Nat) : Prop where
  completed : LogicalBackup.runFailure h.outcome = none
  synced : h.syncFails = false
  inspected : h.statFails = false
  denoted : ∃ t, h.atStat = some t ∧ (ran.descriptions t).file = original
  written : (ran.files original).content ≠ []
  single : (ran.files original).links = 1
  ownerOnly : LogicalBackup.outputIsOwnerOnly (ran.files original).mode = true

theorem finalized (initial : OutputStatus) (kept : w.duplicates (h.output + 1) = some c) (uses : w.uses = 4)
    (completed : LogicalBackup.runFailure h.outcome = none) :
    (Passed h w initial.identity ∧ ∃ after, (LogicalBackup.finalizeOutput h.output (h.output + 1) initial).eval h.answer w =
        (.ok (w.files initial.identity).content.length,after) ∧ SameFiles w after) ∨
    (¬Passed h w initial.identity ∧ ∃ e after, (LogicalBackup.finalizeOutput h.output (h.output + 1) initial).eval h.answer w =
        (.error e,after) ∧ SameFiles (h.invalidated w c) after) := by
  unfold LogicalBackup.finalizeOutput
  rw [Program.evalCall]
  cases sync : h.syncFails with
  | true =>
    have reply : h.answer (.fsync (h.output + 1)) w = (none,w) := by
      simp only [BackupHost.answer,sync,if_true,cleanupUsed]
    rw [reply]
    refine .inr ⟨fun passed => ?_,_,_,invalidates kept _,⟨rfl,rfl,rfl⟩⟩
    have synced := passed.synced
    rw [sync] at synced
    cases synced
  | false =>
    have reply : h.answer (.fsync (h.output + 1)) w = (some (),w) := by
      simp only [BackupHost.answer,sync,cleanupUsed,cleanupTarget kept]
      rfl
    rw [reply]
    dsimp only
    rw [Program.evalCall]
    let seen : BackupWorld := {w with uses := w.uses + 1}
    have used : h.used w h.output = seen := if_pos rfl
    have invalidated (e : BackupError) : (LogicalBackup.invalidating (h.output + 1) e : BackupProgram Nat).eval h.answer seen =
        (.error e,h.invalidated seen c) := invalidates (w := seen) kept e
    have same : SameFiles (h.invalidated w c) (h.invalidated seen c) := sameInvalidated (show SameFiles w seen from ⟨rfl,rfl,rfl⟩) c
    have target : h.target w h.output = if h.statFails then none else h.atStat := by
      rw [BackupHost.target,if_pos rfl,uses]
      rfl
    have reply : h.answer (.fstat h.output) w =
        ((if h.statFails then none else h.atStat).map (BackupHost.status w),seen) := by
      simp only [BackupHost.answer,target,used]
    rw [reply]
    cases stat : h.statFails with
    | true =>
      refine .inr ⟨fun passed => ?_,_,_,invalidated _,same⟩
      have inspected := passed.inspected
      rw [stat] at inspected
      cases inspected
    | false =>
      cases found : h.atStat with
      | none =>
        refine .inr ⟨fun passed => ?_,_,_,invalidated _,same⟩
        obtain ⟨t,denoted,_⟩ := passed.denoted
        rw [found] at denoted
        cases denoted
      | some t =>
        rw [if_neg (by simp),Option.map_some]
        dsimp only
        have size : (BackupHost.status w t).size = (w.files (w.descriptions t).file).content.length := rfl
        have nlink : (BackupHost.status w t).nlink = (w.files (w.descriptions t).file).links := rfl
        have mode : (BackupHost.status w t).mode = (w.files (w.descriptions t).file).mode := rfl
        have identity : (BackupHost.status w t).identity = (w.descriptions t).file := rfl
        have read (passed : Passed h w initial.identity) : (w.descriptions t).file = initial.identity := by
          obtain ⟨t',denoted,file⟩ := passed.denoted
          rw [found] at denoted
          cases denoted
          exact file
        by_cases empty : (BackupHost.status w t).size = 0
        · rw [if_pos empty]
          refine .inr ⟨fun passed => ?_,_,_,invalidated _,same⟩
          rw [size,read passed,List.length_eq_zero_iff] at empty
          exact passed.written empty
        · rw [if_neg empty]
          by_cases unsafe_ : (BackupHost.status w t).nlink ≠ 1 ∨
              LogicalBackup.outputIsOwnerOnly (BackupHost.status w t).mode = false
          · rw [if_pos unsafe_]
            refine .inr ⟨fun passed => ?_,_,_,invalidated _,same⟩
            rw [nlink,mode,read passed,passed.ownerOnly] at unsafe_
            obtain linked | open_ := unsafe_
            · exact linked passed.single
            · cases open_
          · rw [if_neg unsafe_]
            by_cases other : (BackupHost.status w t).identity ≠ initial.identity
            · rw [if_pos other]
              exact .inr ⟨fun passed => other (identity.trans (read passed)),_,_,invalidated _,same⟩
            · rw [if_neg other]
              have file : (w.descriptions t).file = initial.identity := identity.symm.trans (not_not.mp other)
              rw [size,file,List.length_eq_zero_iff] at empty
              rw [nlink,mode,file] at unsafe_
              obtain ⟨single,ownerOnly⟩ := not_or.mp unsafe_
              rw [size,file]
              exact .inl ⟨⟨completed,sync,stat,⟨t,found,file⟩,empty,not_not.mp single,Bool.not_eq_false _ ▸ ownerOnly⟩,
                seen,rfl,⟨rfl,rfl,rfl⟩⟩

def attempt (h : BackupHost) (child : PgDumpRun) (initial : OutputStatus) : BackupProgram Nat := do
  LogicalBackup.runPgDump child (h.output + 1)
  LogicalBackup.finalizeOutput h.output (h.output + 1) initial

theorem attemptClosed (child : PgDumpRun) (stdout : child.stdout = h.output) (initial : OutputStatus)
    (kept : w.duplicates (h.output + 1) = some c) (uses : w.uses = 3) (closed : h.atSpawn = none) :
    ∃ e after, (attempt h child initial).eval h.answer w = (.error e,after) ∧ SameFiles (h.invalidated w c) after := by
  let seen : BackupWorld := {w with uses := w.uses + 1}
  have target : h.target w child.stdout = none := by
    rw [stdout,BackupHost.target,if_pos rfl,uses]
    exact closed
  have used : h.used w child.stdout = seen := if_pos stdout
  have reply : h.answer (.run child) w = (.exception,seen) := by
    simp only [BackupHost.answer,target,used]
  unfold attempt LogicalBackup.runPgDump
  rw [Program.bindCall,Program.evalCall,reply]
  dsimp only [LogicalBackup.runFailure]
  rw [Program.evalBind,invalidates (w := seen) kept]
  exact ⟨_,_,rfl,sameInvalidated (show SameFiles w seen from ⟨rfl,rfl,rfl⟩) c⟩

theorem attemptRan (child : PgDumpRun) (stdout : child.stdout = h.output) (initial : OutputStatus)
    (kept : w.duplicates (h.output + 1) = some c) (uses : w.uses = 3) {s : Nat} (spawned : h.atSpawn = some s) :
    (Passed h (h.remoded (h.runChild w s)) initial.identity ∧ ∃ after, (attempt h child initial).eval h.answer w =
        (.ok ((h.remoded (h.runChild w s)).files initial.identity).content.length,after) ∧
        SameFiles (h.remoded (h.runChild w s)) after) ∨
    (¬Passed h (h.remoded (h.runChild w s)) initial.identity ∧ ∃ e after, (attempt h child initial).eval h.answer w =
        (.error e,after) ∧ SameFiles (h.invalidated (h.remoded (h.runChild w s)) c) after) := by
  let seen : BackupWorld := {w with uses := w.uses + 1}
  let ran : BackupWorld := h.remoded (h.runChild seen s)
  have target : h.target w child.stdout = some s := by
    rw [stdout,BackupHost.target,if_pos rfl,uses]
    exact spawned
  have used : h.used w child.stdout = seen := if_pos stdout
  have reply : h.answer (.run child) w = (h.outcome,ran) := by
    simp only [BackupHost.answer,target,used,ran]
  have same : SameFiles (h.remoded (h.runChild w s)) ran := ⟨rfl,rfl,rfl⟩
  have passed (original : Nat) : Passed h ran original ↔ Passed h (h.remoded (h.runChild w s)) original :=
    ⟨fun ⟨a,b,c,d,e,f,g⟩ => ⟨a,b,c,d,e,f,g⟩,fun ⟨a,b,c,d,e,f,g⟩ => ⟨a,b,c,d,e,f,g⟩⟩
  unfold attempt LogicalBackup.runPgDump
  rw [Program.bindCall,Program.evalCall,reply]
  dsimp only
  cases failure : LogicalBackup.runFailure h.outcome with
  | some e =>
    dsimp only
    rw [Program.evalBind,invalidates (w := ran) kept]
    refine .inr ⟨fun passed => ?_,_,_,rfl,sameInvalidated same c⟩
    have completed := passed.completed
    rw [failure] at completed
    cases completed
  | none =>
    dsimp only
    rw [Program.bindRet]
    obtain ⟨accepted,after,ended,files⟩ | ⟨rejected,e,after,ended,files⟩ :=
      finalized (w := ran) initial kept (show ran.uses = 4 by show w.uses + 1 = 4; omega) failure
    · exact .inl ⟨(passed _).mp accepted,after,ended,⟨files.descriptions,files.files,files.effects⟩⟩
    · refine .inr ⟨fun accepted => rejected ((passed _).mpr accepted),e,after,ended,?_⟩
      have invalid := sameInvalidated (h := h) same c
      exact ⟨files.descriptions.trans invalid.descriptions,files.files.trans invalid.files,
        files.effects.trans invalid.effects⟩

structure Inspected (h : BackupHost) (w : BackupWorld) (o : Nat) : Prop where
  found : h.inspected = some o
  answered : h.inspectionFails = false
  regular : Backup.sIsreg (w.files (w.descriptions o).file).mode = true
  empty : (w.files (w.descriptions o).file).content = []
  offset : (w.descriptions o).offset = 0
  ownerOnly : LogicalBackup.outputIsOwnerOnly (w.files (w.descriptions o).file).mode = true
  single : (w.files (w.descriptions o).file).links = 1

theorem inspects (fresh : w.uses = 0) :
    (∃ o, Inspected h w o ∧ (LogicalBackup.inspectInitialOutput h.output).eval h.answer w =
      (.ok (BackupHost.status w o),{w with uses := 2})) ∨
    (∀ o, ¬Inspected h w o) ∧ ∃ e after, (LogicalBackup.inspectInitialOutput h.output).eval h.answer w = (.error e,after) ∧
      SameFiles w after := by
  unfold LogicalBackup.inspectInitialOutput
  rw [Program.evalCall]
  let first : BackupWorld := {w with uses := w.uses + 1}
  let second : BackupWorld := {w with uses := w.uses + 1 + 1}
  have target (w' : BackupWorld) (uses : w'.uses = 0 ∨ w'.uses = 1) : h.target w' h.output =
      if h.inspectionFails then none else h.inspected := by
    rw [BackupHost.target,if_pos rfl]
    obtain uses | uses := uses
    · rw [uses]
      rfl
    · rw [uses]
      rfl
  have stat : h.answer (.fstat h.output) w =
      ((if h.inspectionFails then none else h.inspected).map (BackupHost.status w),first) := by
    simp only [BackupHost.answer,target w (.inl fresh),BackupHost.used,if_true,first]
  have tell : h.answer (.tell h.output) first =
      ((if h.inspectionFails then none else h.inspected).map (fun d => (w.descriptions d).offset),second) := by
    simp only [BackupHost.answer,target first (.inr (show w.uses + 1 = 1 by omega)),BackupHost.used,if_true,first,second]
  rw [stat]
  cases failing : h.inspectionFails with
  | true =>
    refine .inr ⟨fun o inspected => ?_,_,_,rfl,⟨rfl,rfl,rfl⟩⟩
    have answered := inspected.answered
    rw [failing] at answered
    cases answered
  | false =>
    cases found : h.inspected with
    | none =>
      refine .inr ⟨fun o inspected => ?_,_,_,rfl,⟨rfl,rfl,rfl⟩⟩
      have other := inspected.found
      rw [found] at other
      cases other
    | some o =>
      rw [failing,found] at tell
      have only {o' : Nat} (inspected : Inspected h w o') : o' = o := by
        have other := inspected.found
        rw [found] at other
        cases other
        rfl
      dsimp only [Option.map_some]
      rw [if_neg (by simp),Option.map_some]
      dsimp only
      by_cases shape : Backup.sIsreg (BackupHost.status w o).mode = false ∨ (BackupHost.status w o).size ≠ 0
      · rw [if_pos shape]
        refine .inr ⟨fun o' inspected => ?_,_,_,rfl,⟨rfl,rfl,rfl⟩⟩
        obtain rfl := only inspected
        obtain irregular | filled := shape
        · exact absurd inspected.regular (Bool.not_eq_true _ ▸ irregular)
        · exact filled (List.length_eq_zero_iff.mpr inspected.empty)
      · rw [if_neg shape,Program.evalCall,tell]
        obtain ⟨regular,empty⟩ := not_or.mp shape
        rw [if_neg (by simp),Option.map_some]
        dsimp only
        by_cases moved : (w.descriptions o).offset ≠ 0
        · rw [if_pos moved]
          refine .inr ⟨fun o' inspected => ?_,_,_,rfl,⟨rfl,rfl,rfl⟩⟩
          obtain rfl := only inspected
          exact moved inspected.offset
        · rw [if_neg moved]
          by_cases open_ : LogicalBackup.outputIsOwnerOnly (BackupHost.status w o).mode = false
          · rw [if_pos open_]
            refine .inr ⟨fun o' inspected => ?_,_,_,rfl,⟨rfl,rfl,rfl⟩⟩
            obtain rfl := only inspected
            exact absurd inspected.ownerOnly (Bool.not_eq_true _ ▸ open_)
          · rw [if_neg open_]
            by_cases linked : (BackupHost.status w o).nlink ≠ 1
            · rw [if_pos linked]
              refine .inr ⟨fun o' inspected => ?_,_,_,rfl,⟨rfl,rfl,rfl⟩⟩
              obtain rfl := only inspected
              exact linked inspected.single
            · rw [if_neg linked]
              refine .inl ⟨o,⟨found,failing,Bool.not_eq_false _ ▸ regular,?_,not_not.mp moved,
                Bool.not_eq_false _ ▸ open_,not_not.mp linked⟩,?_⟩
              · exact List.length_eq_zero_iff.mp (not_not.mp empty)
              · show (_,second) = _
                rw [show second = {w with uses := 2} by simp only [second,fresh]]

end

-- `o` is the description that was inspected, and its file the only one to be touched.
structure BackupSafe (h : BackupHost) (w : BackupWorld) (o : Nat) (r : Except BackupError Nat) (after : BackupWorld) : Prop where
  others : ∀ e ∈ after.effects, e.file = (w.descriptions o).file
  returned : ∀ n, r = .ok n → 0 < n ∧ n = (after.files (w.descriptions o).file).content.length ∧
    (after.files (w.descriptions o).file).content = (childRun h.child ([],0)).1 ∧
    (after.files (w.descriptions o).file).links = 1 ∧
    LogicalBackup.outputIsOwnerOnly (after.files (w.descriptions o).file).mode = true
  raised : ∀ e, r = .error e → h.truncateFails = false → h.rewindFails = false →
    (after.files (w.descriptions o).file).content = [] ∧ (after.descriptions o).offset = 0

-- The child ran on the inspected file and everything after it goes well.
def Completes (h : BackupHost) (w : BackupWorld) (o s : Nat) : Prop :=
  (w.descriptions s).file = (w.descriptions o).file ∧ LogicalBackup.runFailure h.outcome = none ∧ h.syncFails = false ∧
  h.statFails = false ∧ (∃ t, h.atStat = some t ∧ (w.descriptions t).file = (w.descriptions o).file) ∧
  (childRun h.child ([],(w.descriptions s).offset)).1 ≠ [] ∧ h.links (w.descriptions o).file = 1 ∧
  LogicalBackup.outputIsOwnerOnly (h.mode (w.descriptions o).file) = true

-- The duplicate is of the inspected file, or cannot be cleaned up.
def Spared (h : BackupHost) (w : BackupWorld) (o c : Nat) : Prop :=
  (w.descriptions c).file = (w.descriptions o).file ∨ h.truncateFails = true ∧ h.rewindFails = true

def Undisturbed (h : BackupHost) (w : BackupWorld) (o : Nat) : Prop :=
  h.dupFails = true ∨ h.atDup = none ∨ ∃ c, h.atDup = some c ∧ match h.atSpawn with
    | none => Spared h w o c
    | some s =>
        (Completes h w o s →
          (childRun h.child ([],(w.descriptions s).offset)).1 = (childRun h.child ([],0)).1) ∧
        (¬Completes h w o s → (h.child = [] ∨ (w.descriptions s).file = (w.descriptions o).file) ∧ Spared h w o c ∧
          (h.truncateFails = false → h.rewindFails = false → c = o ∨ s ≠ o ∨ (childRun h.child ([],0)).2 = 0))

section
variable {h : BackupHost} {w after : BackupWorld} {o c s : Nat}

theorem invalidatedEffects (w : BackupWorld) (c : Nat) : (h.invalidated w c).effects = w.effects ++
    (if h.truncateFails then [] else [.truncated (w.descriptions c).file]) ++
    (if h.rewindFails then [] else [.repositioned (w.descriptions c).file]) := by
  unfold BackupHost.invalidated BackupHost.rewound BackupHost.emptied BackupHost.truncate
  cases h.truncateFails with
  | true =>
    cases h.rewindFails with
    | true => simp
    | false => simp
  | false =>
    cases h.rewindFails with
    | true => simp
    | false => simp

theorem sparedEffects (w : BackupWorld) (o c : Nat) : Spared h w o c ↔
    ∀ e ∈ (if h.truncateFails then [] else [BackupEffect.truncated (w.descriptions c).file]) ++
      (if h.rewindFails then [] else [.repositioned (w.descriptions c).file]), e.file = (w.descriptions o).file := by
  unfold Spared
  cases h.truncateFails with
  | true =>
    cases h.rewindFails with
    | true => simp
    | false => simp [BackupEffect.file]
  | false =>
    cases h.rewindFails with
    | true => simp [BackupEffect.file]
    | false => simp [BackupEffect.file]

theorem childEffects (file original : Nat) : (∀ e ∈ h.child.map (ChildAct.effect file), e.file = original) ↔
    h.child = [] ∨ file = original := by
  have same (act : ChildAct) : (act.effect file).file = file := by
    cases act with
    | write first rest => rfl
    | seek target => rfl
  constructor
  · intro all
    cases acts : h.child with
    | nil => exact .inl rfl
    | cons act acts' =>
      have first := all (act.effect file) (List.mem_map.mpr ⟨act,acts ▸ List.mem_cons_self,rfl⟩)
      rw [same] at first
      exact .inr first
  · intro either e mem
    obtain ⟨act,here,rfl⟩ := List.mem_map.mp mem
    obtain none_ | here' := either
    · rw [none_] at here
      cases here
    · rw [same]
      exact here'

theorem invalidatedFiles (truncates : h.truncateFails = false) (rewinds : h.rewindFails = false) (w : BackupWorld) (c : Nat) :
    ((h.invalidated w c).files (w.descriptions c).file).content = [] ∧
    ∀ o, ((h.invalidated w c).descriptions o).offset = if o = c then 0 else (w.descriptions o).offset := by
  unfold BackupHost.invalidated BackupHost.rewound BackupHost.emptied BackupHost.truncate
  rw [truncates,rewinds]
  refine ⟨by simp,fun o => ?_⟩
  simp only [Bool.false_eq_true,if_false,Function.update_apply]
  split
  · rfl
  · rfl

theorem ranDescription (w : BackupWorld) (s t : Nat) : ((h.remoded (h.runChild w s)).descriptions t).file = (w.descriptions t).file := by
  show (Function.update w.descriptions s _ t).file = _
  rw [Function.update_apply]
  split
  · rename_i same
    rw [same]
  · rfl

theorem ranOffset (w : BackupWorld) (s t : Nat) : ((h.remoded (h.runChild w s)).descriptions t).offset = if t = s then
    (childRun h.child ((w.files (w.descriptions s).file).content,(w.descriptions s).offset)).2 else (w.descriptions t).offset := by
  show (Function.update w.descriptions s _ t).offset = _
  rw [Function.update_apply]
  split
  · rfl
  · rfl

theorem ranContent (w : BackupWorld) (s f : Nat) : ((h.remoded (h.runChild w s)).files f).content =
    if f = (w.descriptions s).file then
      (childRun h.child ((w.files (w.descriptions s).file).content,(w.descriptions s).offset)).1
    else (w.files f).content := by
  show (Function.update w.files (w.descriptions s).file _ f).content = _
  rw [Function.update_apply]
  split
  · rfl
  · rfl

theorem passedCompletes (inspected : Inspected h w o) (s : Nat) :
    Passed h (h.remoded (h.runChild w s)) (w.descriptions o).file ↔ Completes h w o s := by
  constructor
  · intro passed
    have here : (w.descriptions s).file = (w.descriptions o).file := by
      by_contra other
      refine passed.written ?_
      rw [ranContent,if_neg (fun same => other same.symm),inspected.empty]
    refine ⟨here,passed.completed,passed.synced,passed.inspected,?_,?_,passed.single,passed.ownerOnly⟩
    · obtain ⟨t,denoted,file⟩ := passed.denoted
      exact ⟨t,denoted,(ranDescription w s t).symm.trans file⟩
    · have written := passed.written
      rw [ranContent,if_pos here.symm,here,inspected.empty] at written
      exact written
  · intro ⟨here,completed,synced,answered,⟨t,denoted,file⟩,written,single,ownerOnly⟩
    refine ⟨completed,synced,answered,⟨t,denoted,(ranDescription w s t).trans file⟩,?_,single,ownerOnly⟩
    rw [ranContent,if_pos here.symm,here,inspected.empty]
    exact written

theorem safeReturned (inspected : Inspected h w o) (fresh : w.effects = []) (completes : Completes h w o s)
    (same : SameFiles (h.remoded (h.runChild w s)) after) :
    BackupSafe h w o (.ok ((h.remoded (h.runChild w s)).files (w.descriptions o).file).content.length) after ↔
      (childRun h.child ([],(w.descriptions s).offset)).1 = (childRun h.child ([],0)).1 := by
  have passed := (passedCompletes inspected s).mpr completes
  have content : ((h.remoded (h.runChild w s)).files (w.descriptions o).file).content =
      (childRun h.child ([],(w.descriptions s).offset)).1 := by
    rw [ranContent,if_pos completes.1.symm,completes.1,inspected.empty]
  have files := same.files
  constructor
  · intro safe
    obtain ⟨_,_,held,_⟩ := safe.returned _ rfl
    rw [files,content] at held
    exact held
  · intro placed
    refine ⟨fun e mem => ?_,fun n returned => ?_,fun e other => nomatch other⟩
    · rw [same.effects] at mem
      have effects : (h.remoded (h.runChild w s)).effects = h.child.map (ChildAct.effect (w.descriptions s).file) := by
        show w.effects ++ _ = _
        rw [fresh,List.nil_append]
      rw [effects] at mem
      exact (childEffects _ _).mpr (.inr completes.1) e mem
    · cases returned
      rw [files]
      exact ⟨List.length_pos_iff.mpr passed.written,rfl,content.trans placed,passed.single,passed.ownerOnly⟩

theorem safeRaised (inspected : Inspected h w o) (fresh : w.effects = []) (e : BackupError)
    (same : SameFiles (h.invalidated (h.remoded (h.runChild w s)) c) after) : BackupSafe h w o (.error e) after ↔
      (h.child = [] ∨ (w.descriptions s).file = (w.descriptions o).file) ∧ Spared h w o c ∧
        (h.truncateFails = false → h.rewindFails = false → c = o ∨ s ≠ o ∨ (childRun h.child ([],0)).2 = 0) := by
  have effects : after.effects = h.child.map (ChildAct.effect (w.descriptions s).file) ++
      ((if h.truncateFails then [] else [.truncated (w.descriptions c).file]) ++
        (if h.rewindFails then [] else [.repositioned (w.descriptions c).file])) := by
    rw [same.effects,invalidatedEffects,ranDescription,List.append_assoc]
    show (w.effects ++ _) ++ _ = _
    rw [fresh,List.nil_append]
  have others : (∀ e ∈ after.effects, e.file = (w.descriptions o).file) ↔
      (h.child = [] ∨ (w.descriptions s).file = (w.descriptions o).file) ∧ Spared h w o c := by
    rw [effects,sparedEffects,← childEffects]
    simp only [List.mem_append,or_imp,forall_and]
  have left (truncates : h.truncateFails = false) (rewinds : h.rewindFails = false)
      (here : (w.descriptions c).file = (w.descriptions o).file) : (after.files (w.descriptions o).file).content = [] ∧
      (after.descriptions o).offset = if o = c then 0 else if o = s then (childRun h.child ([],0)).2 else 0 := by
    obtain ⟨emptied,offsets⟩ := invalidatedFiles truncates rewinds (h.remoded (h.runChild w s)) c
    rw [ranDescription,here] at emptied
    refine ⟨by rw [same.files,emptied],?_⟩
    rw [same.descriptions,offsets,ranOffset]
    split
    · rfl
    · split
      · rename_i at_
        rw [← at_,inspected.empty,inspected.offset]
      · exact inspected.offset
  constructor
  · intro safe
    obtain ⟨child,spared⟩ := others.mp safe.others
    refine ⟨child,spared,fun truncates rewinds => ?_⟩
    have here : (w.descriptions c).file = (w.descriptions o).file := by
      obtain here | ⟨other,_⟩ := spared
      · exact here
      · rw [truncates] at other
        cases other
    have zero := (left truncates rewinds here).2.symm.trans (safe.raised e rfl truncates rewinds).2
    by_cases own : c = o
    · exact .inl own
    · by_cases spawned : s = o
      · rw [if_neg (fun same => own same.symm),if_pos spawned.symm] at zero
        exact .inr (.inr zero)
      · exact .inr (.inl spawned)
  · intro ⟨child,spared,offset⟩
    refine ⟨others.mpr ⟨child,spared⟩,(fun n other => nomatch other),fun e' _ truncates rewinds => ?_⟩
    have here : (w.descriptions c).file = (w.descriptions o).file := by
      obtain here | ⟨other,_⟩ := spared
      · exact here
      · rw [truncates] at other
        cases other
    obtain ⟨emptied,at_⟩ := left truncates rewinds here
    refine ⟨emptied,at_.trans ?_⟩
    split
    · rfl
    · rename_i apart
      split
      · rename_i spawned
        obtain own | other | zero := offset truncates rewinds
        · exact absurd own.symm apart
        · exact absurd spawned.symm other
        · exact zero
      · rfl

theorem safeClosed (inspected : Inspected h w o) (fresh : w.effects = []) (e : BackupError)
    (same : SameFiles (h.invalidated w c) after) : BackupSafe h w o (.error e) after ↔ Spared h w o c := by
  have effects : after.effects = (if h.truncateFails then [] else [.truncated (w.descriptions c).file]) ++
      (if h.rewindFails then [] else [.repositioned (w.descriptions c).file]) := by
    rw [same.effects,invalidatedEffects,fresh,List.nil_append]
  constructor
  · intro safe
    have others := safe.others
    rw [effects] at others
    exact (sparedEffects w o c).mpr others
  · intro spared
    refine ⟨?_,(fun n other => nomatch other),fun e' _ truncates rewinds => ?_⟩
    · rw [effects]
      exact (sparedEffects w o c).mp spared
    · obtain here | ⟨other,_⟩ := spared
      · obtain ⟨emptied,offsets⟩ := invalidatedFiles truncates rewinds w c
        rw [here] at emptied
        refine ⟨by rw [same.files,emptied],?_⟩
        rw [same.descriptions,offsets]
        split
        · rfl
        · exact inspected.offset
      · rw [truncates] at other
        cases other

theorem safeUntouched (inspected : Inspected h w o) (fresh : w.effects = []) (e : BackupError) (same : SameFiles w after) :
    BackupSafe h w o (.error e) after where
  others e mem := by
    rw [same.effects,fresh] at mem
    cases mem
  returned n other := nomatch other
  raised e' _ _ _ := by
    rw [same.files,same.descriptions]
    exact ⟨inspected.empty,inspected.offset⟩

end

theorem cleanedUp {h : BackupHost} {w after : BackupWorld} {program : BackupProgram Nat} {r : Except BackupError Nat}
    (ran : program.eval h.answer w = (r,after)) (cleanup : Nat) : ∃ last, Program.eval h.answer (do
      let outcome ← Program.caught program
      LogicalBackup.closeCleanupDescriptor cleanup
      Program.ofExcept outcome) w = (r,last) ∧ SameFiles after last := by
  rw [Program.evalBind,Program.evalCaught,ran]
  unfold LogicalBackup.closeCleanupDescriptor
  dsimp only
  rw [Program.bindCall,Program.evalCall,Program.bindRet,Program.evalOfExcept]
  refine ⟨_,rfl,?_⟩
  have used : SameFiles after (h.used after cleanup) := by
    unfold BackupHost.used
    split
    · exact ⟨rfl,rfl,rfl⟩
    · exact ⟨rfl,rfl,rfl⟩
  exact ⟨used.descriptions,used.files,used.effects⟩

def BackupHost.given (h : BackupHost) (outputDescriptor : Int) : BackupHost := {h with output := outputDescriptor.toNat}

theorem duplicated {h : BackupHost} {w : BackupWorld} (uses : w.uses = 2) :
    (h.dupFails = true ∨ h.atDup = none) ∧ (∃ e after, (LogicalBackup.duplicateOutputForCleanup h.output).eval h.answer w =
      (.error e,after) ∧ SameFiles w after) ∨
    h.dupFails = false ∧ ∃ c after, h.atDup = some c ∧ (LogicalBackup.duplicateOutputForCleanup h.output).eval h.answer w =
      (.ok (h.output + 1),after) ∧ SameFiles w after ∧ after.duplicates (h.output + 1) = some c ∧ after.uses = 3 := by
  have target : h.target w h.output = if h.dupFails then none else h.atDup := by
    rw [BackupHost.target,if_pos rfl,uses]
    rfl
  let seen : BackupWorld := {w with uses := w.uses + 1}
  have used : h.used w h.output = seen := if_pos rfl
  unfold LogicalBackup.duplicateOutputForCleanup
  rw [Program.evalCall]
  cases fails : h.dupFails with
  | true =>
    have reply : h.answer (.dup h.output) w = (none,seen) := by
      simp only [BackupHost.answer,target,used,fails,if_true]
    rw [reply]
    exact .inl ⟨.inl rfl,_,_,rfl,⟨rfl,rfl,rfl⟩⟩
  | false =>
    rw [fails] at target
    cases found : h.atDup with
    | none =>
      have reply : h.answer (.dup h.output) w = (none,seen) := by
        simp only [BackupHost.answer,target,used,found]
        rfl
      rw [reply]
      exact .inl ⟨.inr rfl,_,_,rfl,⟨rfl,rfl,rfl⟩⟩
    | some c =>
      let kept : BackupWorld := {seen with duplicates := Function.update w.duplicates (h.output + 1) (some c)}
      have reply : h.answer (.dup h.output) w = (some (h.output + 1),kept) := by
        simp only [BackupHost.answer,target,used,found]
        rfl
      rw [reply]
      refine .inr ⟨rfl,c,kept,rfl,rfl,⟨rfl,rfl,rfl⟩,Function.update_self _ _ _,?_⟩
      show w.uses + 1 = 3
      rw [uses]

theorem sameSafe {h : BackupHost} {w w' after : BackupWorld} (same : SameFiles w w') (o : Nat) (r : Except BackupError Nat) :
    BackupSafe h w' o r after ↔ BackupSafe h w o r after := by
  have descriptions := same.descriptions
  exact ⟨fun ⟨a,b,c⟩ => ⟨descriptions ▸ a,descriptions ▸ b,descriptions ▸ c⟩,
    fun ⟨a,b,c⟩ => ⟨descriptions ▸ a,descriptions ▸ b,descriptions ▸ c⟩⟩

theorem sameInspected {h : BackupHost} {w w' : BackupWorld} (same : SameFiles w w') {o : Nat} (inspected : Inspected h w o) :
    Inspected h w' o where
  found := inspected.found
  answered := inspected.answered
  regular := by
    rw [same.files,same.descriptions]
    exact inspected.regular
  empty := by
    rw [same.files,same.descriptions]
    exact inspected.empty
  offset := by
    rw [same.descriptions]
    exact inspected.offset
  ownerOnly := by
    rw [same.files,same.descriptions]
    exact inspected.ownerOnly
  single := by
    rw [same.files,same.descriptions]
    exact inspected.single

theorem sameUndisturbed {h : BackupHost} {w w' : BackupWorld} (same : SameFiles w w') (o : Nat) :
    Undisturbed h w' o ↔ Undisturbed h w o := by
  simp only [Undisturbed,Spared,Completes,same.descriptions]

theorem undisturbedHeld {h : BackupHost} {w : BackupWorld} {o c : Nat} (held : h.dupFails = false) (found : h.atDup = some c) :
    Undisturbed h w o ↔ match h.atSpawn with
      | none => Spared h w o c
      | some s =>
          (Completes h w o s →
            (childRun h.child ([],(w.descriptions s).offset)).1 = (childRun h.child ([],0)).1) ∧
          (¬Completes h w o s → (h.child = [] ∨ (w.descriptions s).file = (w.descriptions o).file) ∧ Spared h w o c ∧
            (h.truncateFails = false → h.rewindFails = false → c = o ∨ s ≠ o ∨ (childRun h.child ([],0)).2 = 0)) := by
  unfold Undisturbed
  rw [held,found]
  simp

/-- The run of the child and what follows it, from the duplicate on. -/
theorem attemptTouches {h : BackupHost} {w : BackupWorld} {o c : Nat} (child : PgDumpRun) (initial : OutputStatus)
    (stdout : child.stdout = h.output) (identity : initial.identity = (w.descriptions o).file)
    (inspected : Inspected h w o) (fresh : w.effects = []) (held : h.dupFails = false) (found : h.atDup = some c)
    (kept : w.duplicates (h.output + 1) = some c) (uses : w.uses = 3) :
    ∃ r after, (attempt h child initial).eval h.answer w = (r,after) ∧ (BackupSafe h w o r after ↔ Undisturbed h w o) := by
  cases spawned : h.atSpawn with
  | none =>
    obtain ⟨e,after,ran,files⟩ := attemptClosed (h := h) child stdout initial kept uses spawned
    refine ⟨_,after,ran,?_⟩
    rw [undisturbedHeld held found,spawned]
    exact safeClosed inspected fresh e files
  | some s =>
    obtain ⟨passed,after,ran,files⟩ | ⟨rejected,e,after,ran,files⟩ :=
      attemptRan (h := h) child stdout initial kept uses spawned
    · rw [identity] at passed ran
      have completes := (passedCompletes inspected s).mp passed
      refine ⟨_,after,ran,?_⟩
      rw [undisturbedHeld held found,spawned]
      refine (safeReturned inspected fresh completes files).trans ⟨fun placed => ⟨fun _ => placed,?_⟩,?_⟩
      · exact fun other => absurd completes other
      · exact fun both => both.1 completes
    · rw [identity] at rejected
      have incomplete : ¬Completes h w o s := fun completes => rejected ((passedCompletes inspected s).mpr completes)
      refine ⟨_,after,ran,?_⟩
      rw [undisturbedHeld held found,spawned]
      refine (safeRaised inspected fresh e files).trans ⟨fun rest => ⟨?_,fun _ => rest⟩,?_⟩
      · exact fun completes => absurd completes incomplete
      · exact fun both => both.2 incomplete

theorem endedSafe {h : BackupHost} {w after last : BackupWorld} (same : SameFiles after last) (o : Nat)
    (r : Except BackupError Nat) : BackupSafe h w o r last ↔ BackupSafe h w o r after :=
  ⟨fun ⟨a,b,c⟩ => ⟨same.effects ▸ a,same.files ▸ b,same.descriptions ▸ same.files ▸ c⟩,
    fun ⟨a,b,c⟩ => ⟨same.effects ▸ a,same.files ▸ b,same.descriptions ▸ same.files ▸ c⟩⟩

theorem createdTouches (h : BackupHost) (environ : List (PyStr × PyStr)) (serviceName : PyStr) (outputDescriptor : Int)
    (number : h.output = outputDescriptor.toNat) (pgDumpExecutable : PyStr) (timeoutSeconds connectTimeoutSeconds : Int)
    (w : BackupWorld) (uses : w.uses = 0) (fresh : w.effects = []) :
    ∃ r after, (createPostgresLogicalBackup environ serviceName outputDescriptor pgDumpExecutable timeoutSeconds
        connectTimeoutSeconds).eval h.answer w = (r,after) ∧
    ((LogicalBackup.parametersAreValid serviceName outputDescriptor pgDumpExecutable timeoutSeconds
        connectTimeoutSeconds = false ∨ ∀ o, ¬Inspected h w o) → (∃ e, r = .error e) ∧ SameFiles w after) ∧
    ∀ o, LogicalBackup.parametersAreValid serviceName outputDescriptor pgDumpExecutable timeoutSeconds
        connectTimeoutSeconds = true → Inspected h w o → (BackupSafe h w o r after ↔ Undisturbed h w o) := by
  unfold createPostgresLogicalBackup
  cases valid : LogicalBackup.parametersAreValid serviceName outputDescriptor pgDumpExecutable timeoutSeconds
      connectTimeoutSeconds with
  | false => exact ⟨_,_,rfl,fun _ => ⟨⟨_,rfl⟩,⟨rfl,rfl,rfl⟩⟩,fun _ other => nomatch other⟩
  | true =>
    rw [if_neg (by simp),← number]
    dsimp only
    rw [Program.evalBind]
    obtain ⟨o,inspected,ran₁⟩ | ⟨rejected,e,after,ran₁,same⟩ := inspects (h := h) uses
    · rw [ran₁]
      dsimp only
      rw [Program.evalBind]
      have only {o' : Nat} (other : Inspected h w o') : o' = o := Option.some.inj (other.found.symm.trans inspected.found)
      have accepted : ¬(true = false ∨ ∀ o, ¬Inspected h w o) := by
        intro either
        obtain other | none_ := either
        · cases other
        · exact none_ o inspected
      obtain ⟨missing,e,after,ran₂,same⟩ | ⟨held,c,w',found,ran₂,same,kept,uses'⟩ :=
        duplicated (h := h) (w := {w with uses := 2}) rfl
      · rw [ran₂]
        have same' : SameFiles w after := ⟨same.descriptions,same.files,same.effects⟩
        refine ⟨_,_,rfl,fun either => absurd either accepted,fun o' _ other => ?_⟩
        obtain rfl := only other
        refine ⟨fun _ => ?_,fun _ => safeUntouched inspected fresh e same'⟩
        obtain fails | none_ := missing
        · exact .inl fails
        · exact .inr (.inl none_)
      · rw [ran₂]
        dsimp only
        have same' : SameFiles w w' := ⟨same.descriptions,same.files,same.effects⟩
        let child : PgDumpRun := ⟨[pgDumpExecutable,py "--format=custom",py "--no-password"],
          LogicalBackup.libpqEnvironment environ serviceName connectTimeoutSeconds,h.output,timeoutSeconds⟩
        have identity : (BackupHost.status w o).identity = (w'.descriptions o).file := by
          rw [same'.descriptions]
          rfl
        obtain ⟨r,after,ran₃,safe⟩ := attemptTouches child _ rfl identity (sameInspected same' inspected)
          (same'.effects.trans fresh) held found kept uses'
        obtain ⟨last,ended,same''⟩ := cleanedUp ran₃ (h.output + 1)
        refine ⟨r,last,ended,fun either => absurd either accepted,fun o' _ other => ?_⟩
        obtain rfl := only other
        rw [← sameUndisturbed same',← safe,sameSafe same',endedSafe same'']
    · rw [ran₁]
      exact ⟨_,_,rfl,fun _ => ⟨⟨_,rfl⟩,same⟩,fun o _ inspected => absurd inspected (rejected o)⟩

theorem backupTouches (h : BackupHost) (environ : List (PyStr × PyStr)) (serviceName : PyStr) (outputDescriptor : Int)
    (pgDumpExecutable : PyStr) (timeoutSeconds connectTimeoutSeconds : Int) (descriptions : Nat → Description)
    (files : Nat → BackupFile) :
    ∃ r after, (createPostgresLogicalBackup environ serviceName outputDescriptor pgDumpExecutable timeoutSeconds
        connectTimeoutSeconds).eval (h.given outputDescriptor).answer (.start descriptions files) = (r,after) ∧
    ((LogicalBackup.parametersAreValid serviceName outputDescriptor pgDumpExecutable timeoutSeconds
        connectTimeoutSeconds = false ∨ ∀ o, ¬Inspected (h.given outputDescriptor) (.start descriptions files) o) →
      (∃ e, r = .error e) ∧ SameFiles (.start descriptions files) after) ∧
    ∀ o, LogicalBackup.parametersAreValid serviceName outputDescriptor pgDumpExecutable timeoutSeconds
        connectTimeoutSeconds = true → Inspected (h.given outputDescriptor) (.start descriptions files) o →
      (BackupSafe (h.given outputDescriptor) (.start descriptions files) o r after ↔
        Undisturbed (h.given outputDescriptor) (.start descriptions files) o) :=
  createdTouches (h.given outputDescriptor) environ serviceName outputDescriptor rfl pgDumpExecutable timeoutSeconds
    connectTimeoutSeconds (.start descriptions files) rfl rfl

-- The number is made to denote another file right after the inspection; the child fails at once.
def replacedHost : BackupHost where
  output := 7
  inspected := some 0
  atDup := some 1
  atSpawn := some 1
  atStat := some 1
  inspectionFails := false
  dupFails := false
  syncFails := false
  statFails := false
  truncateFails := false
  rewindFails := false
  child := []
  outcome := .completed 1
  links _ := 1
  mode _ := 0o100600

def replacedStart : BackupWorld := .start (fun d => ⟨d,3 * d⟩) (fun f => ⟨if f = 0 then [] else [1,2,3],1,0o100600⟩)

theorem replacementTruncated :
    Inspected (replacedHost.given 7) replacedStart 0 ∧
    ∃ after, (createPostgresLogicalBackup [] (py "nightly") 7 (py "/usr/bin/pg_dump") 60 15).eval
        (replacedHost.given 7).answer replacedStart =
      (.error (.logicalBackup "PostgreSQL logical backup command failed"),after) ∧
    (replacedStart.files 1).content = [1,2,3] ∧ (after.files 1).content = [] ∧
    after.effects = [.truncated 1,.repositioned 1] ∧
    ¬BackupSafe (replacedHost.given 7) replacedStart 0 (.error (.logicalBackup "PostgreSQL logical backup command failed"))
      after := by
  refine ⟨⟨rfl,rfl,rfl,rfl,rfl,rfl,rfl⟩,_,rfl,rfl,rfl,rfl,fun safe => ?_⟩
  have here := safe.others (.truncated 1) List.mem_cons_self
  cases here

def steadyHost : BackupHost :=
  {replacedHost with
    atDup := some 0
    atSpawn := some 0
    atStat := some 0
    child := [.write 80 [71]]
    outcome := .completed 0}

theorem steadyBackupSafe : ∃ after, (createPostgresLogicalBackup [] (py "nightly") 7 (py "/usr/bin/pg_dump") 60 15).eval
      (steadyHost.given 7).answer replacedStart = (.ok 2,after) ∧
    BackupSafe (steadyHost.given 7) replacedStart 0 (.ok 2) after := by
  obtain ⟨r,after,ran,-,safe⟩ := backupTouches steadyHost [] (py "nightly") 7 (py "/usr/bin/pg_dump") 60 15
    (fun d => ⟨d,3 * d⟩) (fun f => ⟨if f = 0 then [] else [1,2,3],1,0o100600⟩)
  have steady : Undisturbed (steadyHost.given 7) replacedStart 0 :=
    .inr (.inr ⟨0,rfl,fun _ => rfl,fun _ => ⟨.inr rfl,.inl rfl,fun _ _ => .inl rfl⟩⟩)
  have returned : ((createPostgresLogicalBackup [] (py "nightly") 7 (py "/usr/bin/pg_dump") 60 15).eval
    (steadyHost.given 7).answer replacedStart).1 = .ok 2 := rfl
  have settled := (safe 0 (by decide) ⟨rfl,rfl,rfl,rfl,rfl,rfl,rfl⟩).mpr steady
  rw [show replacedStart = .start _ _ from rfl,ran] at returned
  cases returned
  exact ⟨after,ran,settled⟩

end PgLlmBatch
