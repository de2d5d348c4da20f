import Mathlib

/-! Session advisory locks: a key is held by one session at most, as often as that session has
taken it, until it has given it back as often or has ended. -/
namespace PgLlmBatch.Base

structure AdvisoryLocks (ι κ : Type) where
  holder : κ → Option (ι × Nat)

namespace AdvisoryLocks
open Function (update)
variable {ι κ : Type}

def free : AdvisoryLocks ι κ := ⟨fun _ => none⟩

def Holds (l : AdvisoryLocks ι κ) (i : ι) (k : κ) : Prop := ∃ n, l.holder k = some (i,n)

theorem exclusive {l : AdvisoryLocks ι κ} {i j : ι} {k : κ} (mine : l.Holds i k) (its : l.Holds j k) : i = j := by
  obtain ⟨n,mine⟩ := mine
  obtain ⟨m,its⟩ := its
  rw [mine] at its
  exact (Prod.mk.inj (Option.some.inj its)).1

variable [DecidableEq ι]

def release (l : AdvisoryLocks ι κ) (i : ι) : AdvisoryLocks ι κ :=
  ⟨fun k => match l.holder k with
    | none => none
    | some (j,n) => if i = j then none else some (j,n)⟩

theorem releaseOthers {l : AdvisoryLocks ι κ} {i j : ι} {other : κ} {n : Nat} (apart : j ≠ i)
    (held : l.holder other = some (j,n)) : (l.release i).holder other = some (j,n) := by
  unfold release
  simp only [held,if_neg (Ne.symm apart)]

variable [DecidableEq κ]

def tryLock (l : AdvisoryLocks ι κ) (i : ι) (k : κ) : Bool × AdvisoryLocks ι κ :=
  match l.holder k with
  | none => (true,⟨update l.holder k (some (i,0))⟩)
  | some (j,n) => if i = j then (true,⟨update l.holder k (some (i,n + 1))⟩) else (false,l)

def unlock (l : AdvisoryLocks ι κ) (i : ι) (k : κ) : Bool × AdvisoryLocks ι κ :=
  match l.holder k with
  | none => (false,l)
  | some (j,n) => if i = j then (true,⟨update l.holder k (match n with
      | 0 => none
      | n+1 => some (i,n))⟩) else (false,l)

theorem lockedHolds {l : AdvisoryLocks ι κ} {i : ι} {k : κ} (locked : (l.tryLock i k).1 = true) :
    (l.tryLock i k).2.Holds i k := by
  unfold tryLock at locked ⊢
  split
  · exact ⟨0,Function.update_self ..⟩
  · rename_i j n held
    rw [held] at locked
    by_cases same : i = j
    · rw [if_pos same]
      exact ⟨n + 1,Function.update_self ..⟩
    · simp only [if_neg same] at locked
      cases locked

/-! What another session holds is as it was. -/

section
variable {l : AdvisoryLocks ι κ} {i j : ι} {k other : κ} {n : Nat} (apart : j ≠ i) (held : l.holder other = some (j,n))
include apart held

theorem lockOthers : (l.tryLock i k).2.holder other = some (j,n) := by
  unfold tryLock
  by_cases same : other = k
  · subst same
    rw [held]
    simp only [if_neg (Ne.symm apart),held]
  · split
    · simp only [Function.update_of_ne same,held]
    · split
      · simp only [Function.update_of_ne same,held]
      · exact held

theorem unlockOthers : (l.unlock i k).2.holder other = some (j,n) := by
  unfold unlock
  by_cases same : other = k
  · subst same
    rw [held]
    simp only [if_neg (Ne.symm apart),held]
  · split
    · exact held
    · split
      · simp only [Function.update_of_ne same,held]
      · exact held

end

/-! How often a session holds a key. -/

def count (l : AdvisoryLocks ι κ) (i : ι) (k : κ) : Nat :=
  match l.holder k with
  | some (j,n) => if i = j then n + 1 else 0
  | none => 0

theorem countLock (l : AdvisoryLocks ι κ) (i : ι) (k other : κ) :
    (l.tryLock i k).2.count i other =
      l.count i other + if other = k ∧ (l.tryLock i k).1 = true then 1 else 0 := by
  unfold tryLock count
  by_cases same : other = k
  · subst same
    cases held : l.holder other with
    | none => simp
    | some holder =>
      by_cases own : i = holder.1
      · simp [own]
      · simp [own,held]
  · cases held : l.holder k with
    | none => simp [same]
    | some holder =>
      by_cases own : i = holder.1
      · simp [own,same]
      · simp [own,same]

theorem countUnlock {l : AdvisoryLocks ι κ} {i : ι} {k : κ} (held : 0 < l.count i k) (other : κ) :
    (l.unlock i k).2.count i other + (if other = k then 1 else 0) = l.count i other := by
  unfold unlock
  unfold count at held ⊢
  cases here : l.holder k with
  | none =>
    rw [here] at held
    cases held
  | some holder =>
    obtain ⟨j,n⟩ := holder
    rw [here] at held
    by_cases own : i = j
    · subst own
      by_cases same : other = k
      · subst same
        cases n with
        | zero => simp [here]
        | succ n => simp [here]
      · simp [same]
    · simp only [if_neg own] at held
      cases held

end AdvisoryLocks
end PgLlmBatch.Base
