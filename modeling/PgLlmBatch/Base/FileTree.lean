import Mathlib

/-! Directories that name nodes, and files that hold contents: what a path leads to when no link is
followed, and which changes leave that as it was. -/
namespace PgLlmBatch.Base

inductive SpecialFile where | fifo | characterDevice | blockDevice | socket
  deriving DecidableEq, Repr

inductive Node where
  | directory (inode : Nat)
  | regular (inode : Nat)
  | symlink
  | special (kind : SpecialFile)
  deriving DecidableEq, Repr

def Node.inner : Node → Option Nat
  | .directory inode => some inode
  | _ => none

structure FileTree (Name Content : Type) where
  entry : Nat → Name → Option Node
  contents : Nat → Content

namespace FileTree
variable {Name Content : Type}

def store (t : FileTree Name Content) (inode : Nat) (content : Content) : FileTree Name Content :=
  {t with contents := Function.update t.contents inode content}

@[simp] theorem storeEntry (t : FileTree Name Content) (inode : Nat) (c : Content) :
    (t.store inode c).entry = t.entry := rfl

@[simp] theorem storeHere (t : FileTree Name Content) (inode : Nat) (c : Content) :
    (t.store inode c).contents inode = c := by
  simp [store]

theorem storeOther (t : FileTree Name Content) {inode other : Nat} (c : Content) (apart : other ≠ inode) :
    (t.store inode c).contents other = t.contents other := by
  simp [store,apart]

def emptied (t : FileTree Name Content) (inode : Nat) : FileTree Name Content :=
  {t with entry := fun d n => if d = inode then none else t.entry d n}

def held (t : FileTree Name Content) : Node → Option Content
  | .regular inode => some (t.contents inode)
  | _ => none

section
variable [DecidableEq Name]

def place (t : FileTree Name Content) (directory : Nat) (name : Name) (node : Option Node) : FileTree Name Content :=
  {t with entry := fun d n => if d = directory ∧ n = name then node else t.entry d n}

@[simp] theorem placeContents (t : FileTree Name Content) (d : Nat) (n : Name) (node : Option Node) :
    (t.place d n node).contents = t.contents := rfl

@[simp] theorem placeHere (t : FileTree Name Content) (d : Nat) (n : Name) (node : Option Node) :
    (t.place d n node).entry d n = node := by
  simp [place]

theorem placeOther (t : FileTree Name Content) {d d' : Nat} {n n' : Name} (node : Option Node)
    (other : ¬(d' = d ∧ n' = n)) : (t.place d n node).entry d' n' = t.entry d' n' := by
  simp only [place,if_neg other]

end

def inner (t : FileTree Name Content) (directory : Nat) (name : Name) : Option Nat :=
  (t.entry directory name).bind Node.inner

def resolve (t : FileTree Name Content) (directory : Nat) : List Name → Option Nat
  | [] => some directory
  | name::names => (t.inner directory name).bind (fun d => t.resolve d names)

def look (t : FileTree Name Content) (directory : Nat) (parents : List Name) (name : Name) :
    Option (Node × Option Content) :=
  (t.resolve directory parents).bind (fun d => (t.entry d name).map (fun node => (node,t.held node)))

theorem resolveAppend (t : FileTree Name Content) (d : Nat) (before after : List Name) :
    t.resolve d (before ++ after) = (t.resolve d before).bind (fun inner => t.resolve inner after) := by
  induction before generalizing d with
  | nil => rfl
  | cons name before ih =>
    rw [List.cons_append]
    simp only [resolve,Option.bind_assoc]
    exact Option.bind_congr (fun inner _ => ih inner)

theorem resolveKept {t u : FileTree Name Content} (same : ∀ d n, u.inner d n = t.inner d n) (d : Nat) (names : List Name) :
    u.resolve d names = t.resolve d names := by
  induction names generalizing d with
  | nil => rfl
  | cons name names ih =>
    unfold resolve
    rw [same]
    exact Option.bind_congr (fun inner _ => ih inner)

theorem resolveGrown {t u : FileTree Name Content} (grown : ∀ d n node, t.entry d n = some node → u.entry d n = some node)
    {d found : Nat} {names : List Name} (reached : t.resolve d names = some found) : u.resolve d names = some found := by
  induction names generalizing d with
  | nil => exact reached
  | cons name names ih =>
    obtain ⟨inner,here,rest⟩ := Option.bind_eq_some_iff.mp reached
    obtain ⟨node,entry,directory⟩ := Option.bind_eq_some_iff.mp here
    refine Option.bind_eq_some_iff.mpr ⟨inner,?_,ih rest⟩
    exact Option.bind_eq_some_iff.mpr ⟨node,grown d name node entry,directory⟩

end FileTree
end PgLlmBatch.Base
