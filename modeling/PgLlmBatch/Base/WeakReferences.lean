import Mathlib

/-! Objects at identities that are used again once they are collected, and weak references to them
whose callbacks run at any time after that. -/
namespace PgLlmBatch.Base
variable {O C : Type}

structure HeapCell (O : Type) where
  serial : Nat
  content : O

-- Collecting the referent clears a reference, and its callback is due until it has run.
structure WeakReference (C : Type) where
  referent : Option Nat
  callback : C
  due : Bool

structure Memory (O C : Type) where
  cells : Nat → Option (HeapCell O)
  nextSerial : Nat
  references : Nat → Option (WeakReference C)

def WeakReference.cleared (identity : Nat) (r : WeakReference C) : WeakReference C :=
  if r.referent = some identity then ⟨none,r.callback,true⟩ else r

namespace Memory

def empty : Memory O C := ⟨fun _ => none,0,fun _ => none⟩

def allocate (m : Memory O C) (identity : Nat) (content : O) : Option (Memory O C) :=
  match m.cells identity with
  | some _ => none
  | none => some {m with
      cells := Function.update m.cells identity (some ⟨m.nextSerial,content⟩)
      nextSerial := m.nextSerial + 1}

def assign (m : Memory O C) (identity : Nat) (content : O) : Option (Memory O C) :=
  match m.cells identity with
  | none => none
  | some cell => some {m with cells := Function.update m.cells identity (some ⟨cell.serial,content⟩)}

def collect (m : Memory O C) (identity : Nat) : Option (Memory O C) :=
  match m.cells identity with
  | none => none
  | some _ => some {m with
      cells := Function.update m.cells identity none
      references := fun token => (m.references token).map (WeakReference.cleared identity)}

-- `ref(object, callback)`: the reference is an object of its own, `token` its identity.
def refer (m : Memory O C) (token identity : Nat) (callback : C) : Option (Memory O C) :=
  match m.cells identity, m.references token with
  | some _, none => some {m with references := Function.update m.references token (some ⟨some identity,callback,false⟩)}
  | _, _ => none

def deliver (m : Memory O C) (token : Nat) : Option (C × Memory O C) :=
  match m.references token with
  | some ⟨_,callback,true⟩ => some (callback,{m with references := Function.update m.references token none})
  | _ => none

-- The last holder of a reference lets it go; one whose callback is due stays until it has run.
def release (m : Memory O C) (token : Nat) : Memory O C :=
  match m.references token with
  | some ⟨_,_,false⟩ => {m with references := Function.update m.references token none}
  | _ => m

def deref (m : Memory O C) (token : Nat) : Option Nat := (m.references token).bind WeakReference.referent

variable {m m' : Memory O C} {identity token : Nat} {content : O} {callback : C}

theorem allocateSome : m.allocate identity content = some m' ↔ m.cells identity = none ∧
    m' = {m with cells := Function.update m.cells identity (some ⟨m.nextSerial,content⟩), nextSerial := m.nextSerial + 1} := by
  unfold allocate
  cases here : m.cells identity with
  | some cell => exact ⟨fun other => (nomatch other),fun other => nomatch other.1⟩
  | none => exact ⟨fun same => ⟨rfl,(Option.some.inj same).symm⟩,fun same => congrArg some same.2.symm⟩

theorem assignSome : m.assign identity content = some m' ↔ ∃ cell, m.cells identity = some cell ∧
    m' = {m with cells := Function.update m.cells identity (some ⟨cell.serial,content⟩)} := by
  unfold assign
  cases here : m.cells identity with
  | none => exact ⟨fun other => (nomatch other),fun ⟨_,other,_⟩ => nomatch other⟩
  | some cell =>
    refine ⟨fun same => ⟨cell,rfl,(Option.some.inj same).symm⟩,fun ⟨found,same,next⟩ => ?_⟩
    cases same
    exact congrArg some next.symm

theorem collectSome : m.collect identity = some m' ↔ (∃ cell, m.cells identity = some cell) ∧
    m' = {m with
      cells := Function.update m.cells identity none
      references := fun token => (m.references token).map (WeakReference.cleared identity)} := by
  unfold collect
  cases here : m.cells identity with
  | none => exact ⟨fun other => (nomatch other),fun ⟨⟨_,other⟩,_⟩ => nomatch other⟩
  | some cell => exact ⟨fun same => ⟨⟨cell,rfl⟩,(Option.some.inj same).symm⟩,fun same => congrArg some same.2.symm⟩

theorem referSome : m.refer token identity callback = some m' ↔
    (∃ cell, m.cells identity = some cell) ∧ m.references token = none ∧
    m' = {m with references := Function.update m.references token (some ⟨some identity,callback,false⟩)} := by
  unfold refer
  cases here : m.cells identity with
  | none => exact ⟨fun other => (nomatch other),fun ⟨⟨_,other⟩,_⟩ => nomatch other⟩
  | some cell =>
    cases m.references token with
    | some r => exact ⟨fun other => (nomatch other),fun ⟨_,other,_⟩ => nomatch other⟩
    | none =>
      exact ⟨fun same => ⟨⟨cell,rfl⟩,rfl,(Option.some.inj same).symm⟩,fun same => congrArg some same.2.2.symm⟩

theorem deliverSome : m.deliver token = some (callback,m') ↔
    (∃ referent, m.references token = some ⟨referent,callback,true⟩) ∧
    m' = {m with references := Function.update m.references token none} := by
  unfold deliver
  cases here : m.references token with
  | none => exact ⟨fun other => (nomatch other),fun ⟨⟨_,other⟩,_⟩ => nomatch other⟩
  | some r =>
    obtain ⟨referent,own,due⟩ := r
    cases due with
    | false => exact ⟨fun other => (nomatch other),fun ⟨⟨_,other⟩,_⟩ => nomatch other⟩
    | true =>
      refine ⟨fun same => ?_,fun ⟨⟨_,same⟩,next⟩ => ?_⟩
      · cases same
        exact ⟨⟨referent,rfl⟩,rfl⟩
      · cases same
        rw [next]

theorem releaseCases (m : Memory O C) (token : Nat) : m.release token = m ∨
    (∃ r, m.references token = some r ∧ r.due = false) ∧
      m.release token = {m with references := Function.update m.references token none} := by
  unfold release
  split
  · rename_i here
    exact .inr ⟨⟨_,here,rfl⟩,rfl⟩
  · exact .inl rfl

structure Sound (m : Memory O C) : Prop where
  numbered : ∀ {identity cell}, m.cells identity = some cell → cell.serial < m.nextSerial
  distinct : ∀ {a b cell other}, m.cells a = some cell → m.cells b = some other → cell.serial = other.serial → a = b
  alive : ∀ {token r identity}, m.references token = some r → r.referent = some identity →
    r.due = false ∧ ∃ cell, m.cells identity = some cell

theorem emptySound : (empty : Memory O C).Sound :=
  ⟨fun other => (nomatch other),fun other => (nomatch other),fun other => nomatch other⟩

theorem updatedSome {V : Type} {f : Nat → Option V} {a b : Nat} {v : Option V} {x : V} (here : Function.update f a v b = some x) :
    b = a ∧ v = some x ∨ b ≠ a ∧ f b = some x := by
  rcases eq_or_ne b a with rfl | apart
  · exact .inl ⟨rfl,(Function.update_self b v f).symm.trans here⟩
  · exact .inr ⟨apart,(Function.update_of_ne apart v f).symm.trans here⟩

theorem allocateSound (sound : m.Sound) (done : m.allocate identity content = some m') : m'.Sound := by
  obtain ⟨free,rfl⟩ := allocateSome.mp done
  refine ⟨fun here => ?_,fun here there same => ?_,fun {t r a} here leads => ?_⟩
  · rcases updatedSome here with ⟨-,own⟩ | ⟨-,old⟩
    · cases own
      exact Nat.lt_succ_self _
    · exact Nat.lt_succ_of_lt (sound.numbered old)
  · rcases updatedSome here with ⟨first,own⟩ | ⟨-,old⟩
    · cases own
      rcases updatedSome there with ⟨second,-⟩ | ⟨-,other⟩
      · exact first.trans second.symm
      · exact absurd same (Nat.ne_of_gt (sound.numbered other))
    · rcases updatedSome there with ⟨-,own⟩ | ⟨-,other⟩
      · cases own
        exact absurd same (Nat.ne_of_lt (sound.numbered old))
      · exact sound.distinct old other same
  · obtain ⟨idle,cell,found⟩ := sound.alive here leads
    have apart : a ≠ identity := fun same => nomatch (same ▸ found).symm.trans free
    exact ⟨idle,cell,(Function.update_of_ne apart _ m.cells).trans found⟩

theorem assignSound (sound : m.Sound) (done : m.assign identity content = some m') : m'.Sound := by
  obtain ⟨cell,own,rfl⟩ := assignSome.mp done
  have serial {a : Nat} {next : HeapCell O} (here : Function.update m.cells identity (some ⟨cell.serial,content⟩) a = some next) :
      ∃ before, m.cells a = some before ∧ before.serial = next.serial := by
    rcases updatedSome here with ⟨rfl,same⟩ | ⟨-,old⟩
    · cases same
      exact ⟨cell,own,rfl⟩
    · exact ⟨next,old,rfl⟩
  refine ⟨fun here => ?_,fun here there same => ?_,fun {t r a} here leads => ?_⟩
  · obtain ⟨before,found,same⟩ := serial here
    exact same ▸ sound.numbered found
  · obtain ⟨first,found,left⟩ := serial here
    obtain ⟨second,other,right⟩ := serial there
    exact sound.distinct found other (left.trans (same.trans right.symm))
  · obtain ⟨idle,before,found⟩ := sound.alive here leads
    refine ⟨idle,?_⟩
    rcases eq_or_ne a identity with rfl | apart
    · exact ⟨_,Function.update_self a _ m.cells⟩
    · exact ⟨before,(Function.update_of_ne apart _ m.cells).trans found⟩

theorem clearedApart {r : WeakReference C} (apart : r.referent ≠ some identity) : r.cleared identity = r := if_neg apart

theorem clearedKept {r : WeakReference C} {a : Nat} (leads : (r.cleared identity).referent = some a) :
    r.cleared identity = r ∧ a ≠ identity := by
  unfold WeakReference.cleared at leads ⊢
  split at leads
  · cases leads
  · rename_i apart
    rw [if_neg apart]
    exact ⟨rfl,fun same => apart (same ▸ leads)⟩

theorem collectSound (sound : m.Sound) (done : m.collect identity = some m') : m'.Sound := by
  obtain ⟨-,rfl⟩ := collectSome.mp done
  have kept {a : Nat} {cell : HeapCell O} (here : Function.update m.cells identity none a = some cell) : m.cells a = some cell := by
    rcases updatedSome here with ⟨-,none_⟩ | ⟨-,old⟩
    · cases none_
    · exact old
  refine ⟨fun here => sound.numbered (kept here),fun here there => sound.distinct (kept here) (kept there),
    fun {t r a} here leads => ?_⟩
  obtain ⟨before,found,rfl⟩ := Option.map_eq_some_iff.mp here
  obtain ⟨same,apart⟩ := clearedKept leads
  rw [same] at leads ⊢
  obtain ⟨idle,cell,there⟩ := sound.alive found leads
  exact ⟨idle,cell,(Function.update_of_ne apart _ m.cells).trans there⟩

theorem referSound (sound : m.Sound) (done : m.refer token identity callback = some m') : m'.Sound := by
  obtain ⟨found,_,rfl⟩ := referSome.mp done
  refine ⟨sound.numbered,sound.distinct,fun {t r a} here leads => ?_⟩
  rcases updatedSome here with ⟨-,own⟩ | ⟨-,old⟩
  · cases own
    cases leads
    exact ⟨rfl,found⟩
  · exact sound.alive old leads

theorem droppedSound (sound : m.Sound) (token : Nat) :
    ({m with references := Function.update m.references token none} : Memory O C).Sound := by
  refine ⟨sound.numbered,sound.distinct,fun {t r a} here leads => ?_⟩
  rcases updatedSome here with ⟨-,none_⟩ | ⟨-,old⟩
  · cases none_
  · exact sound.alive old leads

theorem deliverSound (sound : m.Sound) (done : m.deliver token = some (callback,m')) : m'.Sound := by
  obtain ⟨-,rfl⟩ := deliverSome.mp done
  exact droppedSound sound token

end Memory
end PgLlmBatch.Base
