import PgLlmBatch.ManifestParent

/-! A manifest's write against every pattern of failing calls: its destination keeps what it had
until the rename succeeds and has the whole payload from then on. -/
namespace PgLlmBatch
open Base

def RemovalFailed (m : ReleaseOs) : Prop := ∃ d name, (.unlink d name,false) ∈ m.log

def Abandoned (m : ReleaseOs) : Prop := ∃ d, (.fdopen d,false) ∈ m.log ∧ (.close d,false) ∈ m.log

structure Owned (start : ReleaseOs) (parent folder : Nat) (temporaryName : PyStr) (m : ReleaseOs) : Prop where
  absent : start.files.entry folder temporaryName = none
  entries : m.files.entry = (start.files.place folder temporaryName (some (.regular start.next))).entry
  contents : ∀ inode ≠ start.next, m.files.contents inode = start.files.contents inode
  parent : m.descriptors parent = some (.directory folder)
  unrenamed : ¬Renamed m

section
variable {h : ReleaseHost} {start m : ReleaseOs} {parent folder : Nat} {temporaryName : PyStr}

theorem ownedLogged (owned : Owned start parent folder temporaryName m) {s : ReleaseCall} {ok : Bool}
    (other : ∀ d source target, s = .rename d source target → ok = false) :
    Owned start parent folder temporaryName (m.logged s ok) where
  absent := owned.absent
  entries := owned.entries
  contents := owned.contents
  parent := owned.parent
  unrenamed := notRenamed owned.unrenamed other

theorem ownedAssigned (owned : Owned start parent folder temporaryName m) {d : Nat} (apart : parent ≠ d)
    (target : Option Target) : Owned start parent folder temporaryName (m.assign d target) where
  absent := owned.absent
  entries := owned.entries
  contents := owned.contents
  parent := (m.assignOther target apart).trans owned.parent
  unrenamed := owned.unrenamed

theorem ownedDrained (owned : Owned start parent folder temporaryName m) {d : Nat} {buffer : Bytes} (apart : parent ≠ d)
    (handle : m.descriptors d = some (.file start.next (some buffer))) (n : Nat) :
    Owned start parent folder temporaryName (m.drain d n) := by
  have stored : Owned start parent folder temporaryName
      {m with files := m.files.store start.next (m.files.contents start.next ++ buffer.take n)} := {
    absent := owned.absent
    entries := owned.entries
    contents := fun inode other => (m.files.storeOther _ other).trans (owned.contents inode other)
    parent := owned.parent
    unrenamed := owned.unrenamed }
  rw [ReleaseOs.drained handle]
  exact ownedAssigned stored apart _

def Handling (start m : ReleaseOs) (d : Nat) : Prop :=
  ∃ buffer, m.descriptors d = some (.file start.next (some buffer))

theorem handlingDrained {d : Nat} (handling : Handling start m d) (n : Nat) : Handling start (m.drain d n) d := by
  obtain ⟨buffer,handle⟩ := handling
  rw [ReleaseOs.drained handle]
  exact ⟨buffer.drop n,ReleaseOs.assignHere _ _ _⟩

theorem drainedContents {d inode : Nat} {buffer : Bytes} (handle : m.descriptors d = some (.file inode (some buffer)))
    (n : Nat) : (m.drain d n).files.contents inode = m.files.contents inode ++ buffer.take n := by
  rw [ReleaseOs.drained handle]
  exact m.files.storeHere _ _

def Handed (start m : ReleaseOs) (d : Nat) (bytes : Bytes) : Prop :=
  ∃ buffer, m.descriptors d = some (.file start.next (some buffer)) ∧ m.files.contents start.next ++ buffer = bytes

theorem handedDrained {d : Nat} {bytes : Bytes} (handed : Handed start m d bytes) (n : Nat) :
    Handed start (m.drain d n) d bytes := by
  obtain ⟨buffer,handle,joined⟩ := handed
  refine ⟨buffer.drop n,?_,?_⟩
  · rw [ReleaseOs.drained handle]
    exact ReleaseOs.assignHere _ _ _
  · rw [drainedContents handle,List.append_assoc,List.take_append_drop,joined]

theorem handedHandling {d : Nat} {bytes : Bytes} (handed : Handed start m d bytes) : Handling start m d := by
  obtain ⟨buffer,handle,_⟩ := handed
  exact ⟨buffer,handle⟩

theorem fsyncCall (target : Nat) : ∃ r, h.answer (.fsync target) m = (r,m.logged (.fsync target) r.isOk) := by
  obtain ⟨e,failed⟩ | done := h.answered (.fsync target) m
  · exact ⟨_,failed⟩
  · unfold ReleaseHost.perform at done
    dsimp only at done
    split at done
    · exact ⟨_,done⟩
    · exact ⟨_,done⟩

section
variable {d : Nat} (apart : parent ≠ d) (owned : Owned start parent folder temporaryName m)
include apart owned

theorem writeCall (handle : m.descriptors d = some (.file start.next (some []))) (empty : m.files.contents start.next = [])
    (payload : PyStr) : ∃ r after, h.answer (.write d payload) m = (r,after) ∧
      Owned start parent folder temporaryName after ∧ Handling start after d ∧
      (r = .ok () → ∃ bytes, payload.encodeUtf8 = some bytes ∧ Handed start after d bytes) := by
  have unrelated (ok : Bool) : ∀ d' source target, ReleaseCall.write d payload = .rename d' source target → ok = false :=
    fun _ _ _ other => by cases other
  cases encoded : payload.encodeUtf8 with
  | none =>
    have refused : h.refused m.log.length (.write d payload) m = m := by
      simp only [ReleaseHost.refused,handle,encoded]
    have performed : h.perform m.log.length (.write d payload) m = (.error .valueError,m) := by
      simp only [ReleaseHost.perform,handle,encoded]
    obtain ⟨e,failed⟩ | done := h.answered (.write d payload) m
    · rw [refused] at failed
      exact ⟨_,_,failed,ownedLogged owned (unrelated _),⟨[],handle⟩,fun other => by cases other⟩
    · rw [performed] at done
      exact ⟨_,_,done,ownedLogged owned (unrelated _),⟨[],handle⟩,fun other => by cases other⟩
  | some bytes =>
    let held := m.assign d (some (.file start.next (some ([] ++ bytes))))
    have refused : h.refused m.log.length (.write d payload) m = held.drain d (h.drained m.log.length) := by
      simp only [ReleaseHost.refused,handle,encoded,held]
    have performed : h.perform m.log.length (.write d payload) m = (.ok (),held.drain d (h.drained m.log.length)) := by
      simp only [ReleaseHost.perform,handle,encoded,held]
    have drained := ownedDrained (ownedAssigned owned apart (some (.file start.next (some ([] ++ bytes))))) apart
      (ReleaseOs.assignHere _ _ _) (h.drained m.log.length)
    have handed : Handed start held d bytes := ⟨[] ++ bytes,ReleaseOs.assignHere _ _ _,by simp [held,empty]⟩
    have kept := handedDrained handed (h.drained m.log.length)
    obtain ⟨e,failed⟩ | done := h.answered (.write d payload) m
    · rw [refused] at failed
      exact ⟨_,_,failed,ownedLogged drained (unrelated _),handedHandling kept,fun other => by cases other⟩
    · rw [performed] at done
      exact ⟨_,_,done,ownedLogged drained (unrelated _),handedHandling kept,fun _ => ⟨bytes,rfl,kept⟩⟩

theorem flushCall (handling : Handling start m d) : ∃ r after, h.answer (.flush d) m = (r,after) ∧
    Owned start parent folder temporaryName after ∧ Handling start after d ∧
    ∀ bytes, Handed start m d bytes → r = .ok () →
      after.descriptors d = some (.file start.next (some [])) ∧ after.files.contents start.next = bytes := by
  have unrelated (ok : Bool) : ∀ d' source target, ReleaseCall.flush d = .rename d' source target → ok = false :=
    fun _ _ _ other => by cases other
  obtain ⟨buffer,handle⟩ := handling
  have performed : h.perform m.log.length (.flush d) m = (.ok (),m.drain d buffer.length) := by
    simp only [ReleaseHost.perform,handle,ReleaseOs.flushed]
  obtain ⟨e,failed⟩ | done := h.answered (.flush d) m
  · exact ⟨_,_,failed,ownedLogged (ownedDrained owned apart handle _) (unrelated _),handlingDrained ⟨buffer,handle⟩ _,
      fun _ _ other => by cases other⟩
  · rw [performed] at done
    refine ⟨_,_,done,ownedLogged (ownedDrained owned apart handle _) (unrelated _),handlingDrained ⟨buffer,handle⟩ _,
      fun bytes handed _ => ⟨?_,?_⟩⟩
    · simp only [ReleaseOs.loggedDescriptors,ReleaseOs.drained handle,ReleaseOs.assignHere,List.drop_length]
    · obtain ⟨buffer',handle',joined⟩ := handed
      rw [handle] at handle'
      cases handle'
      simp only [ReleaseOs.loggedFiles,drainedContents handle,List.take_length,joined]

theorem closeCall (handling : Handling start m d) : ∃ r after, h.answer (.close d) m = (r,after) ∧
    Owned start parent folder temporaryName after ∧
    (m.descriptors d = some (.file start.next (some [])) → after.files.contents start.next = m.files.contents start.next) := by
  have unrelated (ok : Bool) : ∀ d' source target, ReleaseCall.close d = .rename d' source target → ok = false :=
    fun _ _ _ other => by cases other
  obtain ⟨buffer,handle⟩ := handling
  have same (n : Nat) (empty : m.descriptors d = some (.file start.next (some []))) :
      (m.drain d n).files.contents start.next = m.files.contents start.next := by
    rw [drainedContents empty,List.take_nil,List.append_nil]
  have performed : h.perform m.log.length (.close d) m = (.ok (),(m.drain d buffer.length).assign d none) := by
    simp only [ReleaseHost.perform,handle,ReleaseOs.flushed,Option.isSome_some,if_true]
  obtain ⟨e,failed⟩ | done := h.answered (.close d) m
  · exact ⟨_,_,failed,ownedLogged (ownedAssigned (ownedDrained owned apart handle _) apart none) (unrelated _),same _⟩
  · rw [performed] at done
    exact ⟨_,_,done,ownedLogged (ownedAssigned (ownedDrained owned apart handle _) apart none) (unrelated _),same _⟩

theorem writtenOut (handle : m.descriptors d = some (.file start.next (some []))) (empty : m.files.contents start.next = [])
    (payload : PyStr) : ∃ r after, Program.eval h.answer (do
        .call (.write d payload) (obtaining uncaught "")
        .call (.flush d) (obtaining uncaught "")
        .call (.fsync d) (obtaining uncaught "") : ReleaseProgram Unit) m = (r,after) ∧
      Owned start parent folder temporaryName after ∧ Handling start after d ∧
      (r = .ok () → ∃ bytes, payload.encodeUtf8 = some bytes ∧ after.descriptors d = some (.file start.next (some [])) ∧
        after.files.contents start.next = bytes) := by
  rw [Program.bindCall,Program.evalCall]
  obtain ⟨wrote,m₁,ran₁,owned₁,handling₁,handed⟩ := writeCall (h := h) apart owned handle empty payload
  rw [ran₁]
  cases wrote with
  | error e => exact ⟨_,_,rfl,owned₁,handling₁,fun other => by cases other⟩
  | ok wrote =>
    obtain ⟨bytes,encoded,handed⟩ := handed rfl
    obtain ⟨flushed,m₂,ran₂,owned₂,handling₂,complete⟩ := flushCall (h := h) apart owned₁ handling₁
    dsimp only [obtaining]
    rw [Program.bindRet,Program.bindCall,Program.evalCall,ran₂]
    cases flushed with
    | error e => exact ⟨_,_,rfl,owned₂,handling₂,fun other => by cases other⟩
    | ok flushed =>
      obtain ⟨emptied,full⟩ := complete bytes handed rfl
      obtain ⟨synced,ran₃⟩ := fsyncCall (h := h) (m := m₂) d
      dsimp only [obtaining]
      rw [Program.bindRet,Program.evalCall,ran₃]
      have owned₃ : Owned start parent folder temporaryName (m₂.logged (.fsync d) synced.isOk) :=
        ownedLogged owned₂ (fun _ _ _ other => by cases other)
      cases synced with
      | error e => exact ⟨_,_,rfl,owned₃,handling₂,fun other => by cases other⟩
      | ok synced => exact ⟨_,_,rfl,owned₃,handling₂,fun _ => ⟨bytes,encoded,emptied,full⟩⟩

theorem handleWritten (handle : m.descriptors d = some (.file start.next (some [])))
    (empty : m.files.contents start.next = []) (payload : PyStr) :
    ∃ r after, (writeHandle d payload).eval h.answer m = (r,after) ∧ Owned start parent folder temporaryName after ∧
      (r = .ok () → ∃ bytes, payload.encodeUtf8 = some bytes ∧ after.files.contents start.next = bytes) := by
  unfold writeHandle
  obtain ⟨r,m₁,ran₁,owned₁,handling₁,complete⟩ := writtenOut (h := h) apart owned handle empty payload
  obtain ⟨closed,m₂,ran₂,owned₂,same⟩ := closeCall (h := h) apart owned₁ handling₁
  rw [Program.evalBind,Program.evalCaught,ran₁]
  dsimp only
  rw [Program.bindCall,Program.evalCall,ran₂]
  cases closed with
  | error e => exact ⟨_,_,rfl,owned₂,fun other => by cases other⟩
  | ok closed =>
    refine ⟨r,m₂,?_,owned₂,fun done => ?_⟩
    · show (Program.ofExcept r).eval h.answer m₂ = _
      rw [Program.evalOfExcept]
    · obtain ⟨bytes,encoded,emptied,full⟩ := complete done
      exact ⟨bytes,encoded,(same emptied).trans full⟩

end

structure Replaced (start : ReleaseOs) (parent folder : Nat) (destinationName temporaryName payload : PyStr) (m : ReleaseOs) :
    Prop where
  absent : start.files.entry folder temporaryName = none
  file : (start.files.entry folder destinationName).bind Node.inner = none
  entries : m.files.entry = (start.files.place folder destinationName (some (.regular start.next))).entry
  contents : ∀ inode ≠ start.next, m.files.contents inode = start.files.contents inode
  complete : payload.encodeUtf8 = some (m.files.contents start.next)
  parent : m.descriptors parent = some (.directory folder)
  renamed : Renamed m

theorem renameCall {destinationName payload : PyStr} (other : destinationName ≠ temporaryName)
    (owned : Owned start parent folder temporaryName m) (complete : payload.encodeUtf8 = some (m.files.contents start.next)) :
    ∃ r after, h.answer (.rename parent temporaryName destinationName) m = (r,after) ∧
      ((∃ e, r = .error e ∧ Owned start parent folder temporaryName after) ∨
        r = .ok () ∧ Replaced start parent folder destinationName temporaryName payload after) := by
  have temporary : m.files.entry folder temporaryName = some (.regular start.next) := by
    rw [owned.entries,FileTree.placeHere]
  have destination : m.files.entry folder destinationName = start.files.entry folder destinationName := by
    rw [owned.entries,FileTree.placeOther _ _ (fun same => other same.2)]
  have parted : m.directory parent = some folder := by rw [ReleaseOs.directory,owned.parent]
  have kept : Owned start parent folder temporaryName (m.logged (.rename parent temporaryName destinationName) false) :=
    ownedLogged owned (fun _ _ _ _ => rfl)
  obtain ⟨e,failed⟩ | done := h.answered (.rename parent temporaryName destinationName) m
  · exact ⟨_,_,failed,.inl ⟨_,rfl,kept⟩⟩
  · unfold ReleaseHost.perform ReleaseHost.within at done
    simp only [parted,temporary,destination] at done
    let swapped := (m.files.place folder destinationName (some (.regular start.next))).place folder temporaryName none
    have entries : swapped.entry = (start.files.place folder destinationName (some (.regular start.next))).entry := by
      funext d n
      by_cases here : d = folder ∧ n = temporaryName
      · obtain ⟨rfl,rfl⟩ := here
        rw [FileTree.placeHere,FileTree.placeOther _ _ (fun same => other same.2.symm),owned.absent]
      · rw [FileTree.placeOther _ _ here]
        by_cases there : d = folder ∧ n = destinationName
        · obtain ⟨rfl,rfl⟩ := there
          rw [FileTree.placeHere,FileTree.placeHere]
        · rw [FileTree.placeOther _ _ there,FileTree.placeOther _ _ there,owned.entries,FileTree.placeOther _ _ here]
    have placed (file : (start.files.entry folder destinationName).bind Node.inner = none) :
        Replaced start parent folder destinationName temporaryName payload
          ({m with files := swapped}.logged (.rename parent temporaryName destinationName) true) := {
      absent := owned.absent
      file := file
      entries := entries
      contents := owned.contents
      complete := complete
      parent := owned.parent
      renamed := ⟨_,_,_,List.mem_append_right _ (List.mem_singleton_self _)⟩ }
    cases found : start.files.entry folder destinationName with
    | none =>
      rw [found] at done placed
      exact ⟨_,_,done,.inr ⟨rfl,placed rfl⟩⟩
    | some node =>
      rw [found] at done placed
      cases node with
      | directory inner => exact ⟨_,_,done,.inl ⟨_,rfl,kept⟩⟩
      | regular inode => exact ⟨_,_,done,.inr ⟨rfl,placed rfl⟩⟩
      | symlink => exact ⟨_,_,done,.inr ⟨rfl,placed rfl⟩⟩
      | special kind => exact ⟨_,_,done,.inr ⟨rfl,placed rfl⟩⟩

theorem createCall (parted : start.descriptors parent = some (.directory folder)) (unrenamed : ¬Renamed start) :
    (∃ e, h.answer (.create parent temporaryName) start = (.error e,start.logged (.create parent temporaryName) false)) ∨
    ∃ d after, h.answer (.create parent temporaryName) start = (.ok d,after) ∧ parent ≠ d ∧
      Owned start parent folder temporaryName after ∧ after.descriptors d = some (.file start.next none) ∧
      after.files.contents start.next = [] := by
  have directory : start.directory parent = some folder := by rw [ReleaseOs.directory,parted]
  obtain ⟨e,failed⟩ | done := h.answered (.create parent temporaryName) start
  · exact .inl ⟨_,failed⟩
  · unfold ReleaseHost.perform ReleaseHost.within ReleaseHost.opening at done
    simp only [directory] at done
    cases absent : start.files.entry folder temporaryName with
    | some node =>
      rw [absent] at done
      exact .inl ⟨_,done⟩
    | none =>
      rw [absent] at done
      dsimp only at done
      cases free : start.descriptors (h.number start.log.length) with
      | some target =>
        rw [free] at done
        exact .inl ⟨_,done⟩
      | none =>
        rw [free] at done
        have apart : parent ≠ h.number start.log.length := by
          intro same
          rw [same,free] at parted
          cases parted
        refine .inr ⟨_,_,done,apart,?_,ReleaseOs.assignHere _ _ _,?_⟩
        · refine ownedLogged (?_ : Owned start parent folder temporaryName
            {start.assign (h.number start.log.length) (some (.file start.next none)) with
              files := (start.files.store start.next []).place folder temporaryName (some (.regular start.next))
              next := start.next + 1}) (fun _ _ _ other => by cases other)
          exact {
            absent := absent
            entries := rfl
            contents := fun inode other => start.files.storeOther _ other
            parent := (start.assignOther _ apart).trans parted
            unrenamed := unrenamed }
        · exact start.files.storeHere _ _

theorem fdopenCall {d : Nat} (apart : parent ≠ d) (owned : Owned start parent folder temporaryName m)
    (plain : m.descriptors d = some (.file start.next none)) :
    (∃ e, h.answer (.fdopen d) m = (.error e,m.logged (.fdopen d) false)) ∨
    ∃ after, h.answer (.fdopen d) m = (.ok (),after) ∧ Owned start parent folder temporaryName after ∧
      after.descriptors d = some (.file start.next (some [])) ∧ after.files = m.files := by
  obtain ⟨e,failed⟩ | done := h.answered (.fdopen d) m
  · exact .inl ⟨_,failed⟩
  · simp only [ReleaseHost.perform,plain] at done
    exact .inr ⟨_,done,ownedLogged (ownedAssigned owned apart _) (fun _ _ _ other => by cases other),
      ReleaseOs.assignHere _ _ _,rfl⟩

inductive Blocked (start : ReleaseOs) (parent folder : Nat) (destinationName temporaryName payload : PyStr) :
    Temporary → Except ReleaseError Unit → ReleaseOs → Prop where
  | unmade (e : ReleaseError) : Blocked start parent folder destinationName temporaryName payload ⟨none,false⟩ (.error e)
      (start.logged (.create parent temporaryName) false)
  | unopened {m : ReleaseOs} (d : Nat) (e : ReleaseError) (apart : parent ≠ d)
      (owned : Owned start parent folder temporaryName m) (plain : m.descriptors d = some (.file start.next none))
      (failed : (.fdopen d,false) ∈ m.log) :
      Blocked start parent folder destinationName temporaryName payload ⟨some d,true⟩ (.error e) m
  | unfinished {m : ReleaseOs} (e : ReleaseError) (owned : Owned start parent folder temporaryName m) :
      Blocked start parent folder destinationName temporaryName payload ⟨none,true⟩ (.error e) m
  | replaced {m : ReleaseOs} (r : Except ReleaseError Unit)
      (replaced : Replaced start parent folder destinationName temporaryName payload m) :
      Blocked start parent folder destinationName temporaryName payload ⟨none,false⟩ r m

theorem replacedLogged {destinationName payload : PyStr}
    (replaced : Replaced start parent folder destinationName temporaryName payload m) (s : ReleaseCall) (ok : Bool) :
    Replaced start parent folder destinationName temporaryName payload (m.logged s ok) where
  absent := replaced.absent
  file := replaced.file
  entries := replaced.entries
  contents := replaced.contents
  complete := replaced.complete
  parent := replaced.parent
  renamed := by
    obtain ⟨d,source,target,found⟩ := replaced.renamed
    exact ⟨d,source,target,List.mem_append_left _ found⟩

theorem blockEnds {destinationName : PyStr} (payload : PyStr) (other : destinationName ≠ temporaryName)
    (parted : start.descriptors parent = some (.directory folder)) (unrenamed : ¬Renamed start) :
    ∃ temporary r after, (manifestBlock payload parent destinationName temporaryName).eval h.answer start =
        (.ok (temporary,r),after) ∧
      Blocked start parent folder destinationName temporaryName payload temporary r after := by
  unfold manifestBlock
  rw [Program.evalCall]
  obtain ⟨e,ran₁⟩ | ⟨d,m₁,ran₁,apart,owned₁,plain,empty⟩ := @createCall h start parent folder temporaryName parted unrenamed
  · rw [ran₁]
    cases e with
    | fileExists => exact ⟨_,_,_,rfl,.unmade _⟩
    | fileNotFound => exact ⟨_,_,_,rfl,.unmade _⟩
    | osError => exact ⟨_,_,_,rfl,.unmade _⟩
    | valueError => exact ⟨_,_,_,rfl,.unmade _⟩
    | interrupted => exact ⟨_,_,_,rfl,.unmade _⟩
  · rw [ran₁]
    dsimp only
    rw [Program.evalCall]
    obtain ⟨e,ran₂⟩ | ⟨m₂,ran₂,owned₂,handle,same⟩ := fdopenCall (h := h) apart owned₁ plain
    · rw [ran₂]
      exact ⟨_,_,_,rfl,.unopened d _ apart (ownedLogged owned₁ (fun _ _ _ other => by cases other))
        plain (List.mem_append_right _ (List.mem_singleton_self _))⟩
    · rw [ran₂]
      dsimp only
      obtain ⟨written,m₃,ran₃,owned₃,complete⟩ := handleWritten (h := h) apart owned₂ handle (same ▸ empty) payload
      rw [Program.evalBind,Program.evalCaught,ran₃]
      cases written with
      | error e => exact ⟨_,_,_,rfl,.unfinished _ owned₃⟩
      | ok written =>
        obtain ⟨bytes,encoded,full⟩ := complete rfl
        obtain ⟨moved,m₄,ran₄,ends⟩ := renameCall (h := h) other owned₃ (full.symm ▸ encoded)
        dsimp only
        rw [Program.evalCall,ran₄]
        obtain ⟨e,rfl,owned₄⟩ | ⟨rfl,replaced⟩ := ends
        · exact ⟨_,_,_,rfl,.unfinished _ owned₄⟩
        · obtain ⟨synced,ran₅⟩ := fsyncCall (h := h) (m := m₄) parent
          dsimp only
          rw [Program.evalCall,ran₅]
          cases synced with
          | error e => exact ⟨_,_,_,rfl,.replaced _ (replacedLogged replaced _ _)⟩
          | ok synced => exact ⟨_,_,_,rfl,.replaced _ (replacedLogged replaced _ _)⟩

-- The destination has what it had: nothing has changed, or the temporary file could not be removed.
structure Unwritten (start : ReleaseOs) (parent folder : Nat) (temporaryName : PyStr) (m : ReleaseOs) : Prop where
  others : ∀ d n, ¬(d = folder ∧ n = temporaryName) → m.files.entry d n = start.files.entry d n
  temporary : m.files.entry folder temporaryName = start.files.entry folder temporaryName ∨
    start.files.entry folder temporaryName = none ∧
      m.files.entry folder temporaryName = some (.regular start.next) ∧ (RemovalFailed m ∨ Abandoned m)
  contents : ∀ inode ≠ start.next, m.files.contents inode = start.files.contents inode
  parent : m.descriptors parent = some (.directory folder)
  unrenamed : ¬Renamed m

theorem ownedUnwritten (owned : Owned start parent folder temporaryName m) (left : RemovalFailed m ∨ Abandoned m) :
    Unwritten start parent folder temporaryName m where
  others d n other := by rw [owned.entries,FileTree.placeOther _ _ other]
  temporary := .inr ⟨owned.absent,by rw [owned.entries,FileTree.placeHere],left⟩
  contents := owned.contents
  parent := owned.parent
  unrenamed := owned.unrenamed

theorem unlinkCall (owned : Owned start parent folder temporaryName m) :
    ∃ r after, h.answer (.unlink parent temporaryName) m = (r,after) ∧ Unwritten start parent folder temporaryName after := by
  have kept : Owned start parent folder temporaryName (m.logged (.unlink parent temporaryName) false) :=
    ownedLogged owned (fun _ _ _ _ => rfl)
  obtain ⟨e,failed⟩ | done := h.answered (.unlink parent temporaryName) m
  · exact ⟨_,_,failed,ownedUnwritten kept (.inl ⟨_,_,List.mem_append_right _ (List.mem_singleton_self _)⟩)⟩
  · have parted : m.directory parent = some folder := by rw [ReleaseOs.directory,owned.parent]
    have temporary : m.files.entry folder temporaryName = some (.regular start.next) := by
      rw [owned.entries,FileTree.placeHere]
    unfold ReleaseHost.perform ReleaseHost.within at done
    simp only [parted,temporary] at done
    refine ⟨_,_,done,{
      others := fun d n other => ?_
      temporary := .inl ?_
      contents := owned.contents
      parent := owned.parent
      unrenamed := notRenamed owned.unrenamed (fun _ _ _ other => by cases other) }⟩
    · exact (FileTree.placeOther _ _ other).trans
        ((congrFun (congrFun owned.entries d) n).trans (FileTree.placeOther _ _ other))
    · exact (FileTree.placeHere _ _ _ _).trans owned.absent.symm

theorem removalEnds (owned : Owned start parent folder temporaryName m) (e : ReleaseError) :
    ∃ e' after, Program.eval h.answer (do
        removeOwnedTemporary parent temporaryName
        Program.ofExcept (.error e) : ReleaseProgram Unit) m = (.error e',after) ∧
      Unwritten start parent folder temporaryName after := by
  obtain ⟨r,after,ran,unwritten⟩ := unlinkCall (h := h) owned
  unfold removeOwnedTemporary
  rw [Program.bindCall,Program.evalCall,ran]
  cases r with
  | ok done => exact ⟨_,_,rfl,unwritten⟩
  | error failure =>
    cases failure with
    | fileNotFound => exact ⟨_,_,rfl,unwritten⟩
    | fileExists => exact ⟨_,_,rfl,unwritten⟩
    | osError => exact ⟨_,_,rfl,unwritten⟩
    | valueError => exact ⟨_,_,rfl,unwritten⟩
    | interrupted => exact ⟨_,_,rfl,unwritten⟩

theorem temporaryOther (name : PyStr) : name ≠ py "." ++ name ++ py ".tmp" := by
  intro same
  have lengths := congrArg List.length same
  rw [List.length_append,List.length_append] at lengths
  have dot : (py ".").length = 1 := rfl
  have tmp : (py ".tmp").length = 4 := rfl
  omega

theorem payloadEnds {destinationName : PyStr} (payload : PyStr) (temporary : temporaryName = py "." ++ destinationName ++ py ".tmp")
    (parted : start.descriptors parent = some (.directory folder)) (unrenamed : ¬Renamed start) :
    ∃ r after, (writeManifestPayload payload parent destinationName).eval h.answer start = (r,after) ∧
      ((∃ e, r = .error e) ∧ Unwritten start parent folder temporaryName after ∨
        Replaced start parent folder destinationName temporaryName payload after) := by
  subst temporary
  have other := temporaryOther destinationName
  unfold writeManifestPayload
  obtain ⟨flags,r,m₁,ran₁,blocked⟩ := blockEnds (h := h) payload other parted unrenamed
  dsimp only
  rw [Program.evalBind,ran₁]
  cases blocked with
  | unmade e =>
    exact ⟨_,_,rfl,.inl ⟨⟨e,rfl⟩,⟨fun _ _ _ => rfl,.inl rfl,fun _ _ => rfl,parted,
      notRenamed unrenamed (fun _ _ _ other => by cases other)⟩⟩⟩
  | replaced r replaced => exact ⟨r,_,by cases r <;> rfl,.inr replaced⟩
  | unfinished e owned =>
    obtain ⟨e',after,ran₂,unwritten⟩ := removalEnds (h := h) owned e
    exact ⟨_,_,ran₂,.inl ⟨⟨e',rfl⟩,unwritten⟩⟩
  | unopened d e apart owned plain failed =>
    obtain ⟨closed,m₂,ran₂,same⟩ := ReleaseHost.idleClose (h := h) (m := m₁) (d := d)
      (fun _ _ handle => by rw [plain] at handle; cases handle)
    have owned₂ : Owned start parent folder (py "." ++ destinationName ++ py ".tmp") (m₂.logged (.close d) closed.isOk) := by
      refine ownedLogged ?_ (fun _ _ _ other => by cases other)
      obtain rfl | rfl := same
      · exact owned
      · exact ownedAssigned owned apart none
    dsimp only
    rw [Program.bindCall,Program.evalCall,ran₂]
    cases closed with
    | error failure =>
      have failed₂ : (.fdopen d,false) ∈ m₂.log := by
        obtain rfl | rfl := same
        · exact failed
        · exact failed
      exact ⟨_,_,rfl,.inl ⟨⟨_,rfl⟩,ownedUnwritten owned₂ (.inr ⟨d,List.mem_append_left _ failed₂,
        List.mem_append_right _ (List.mem_singleton_self _)⟩)⟩⟩
    | ok closed =>
      obtain ⟨e',after,ran₃,unwritten⟩ := removalEnds (h := h) owned₂ e
      exact ⟨_,_,ran₃,.inl ⟨⟨e',rfl⟩,unwritten⟩⟩

theorem regularMode {node : Node} (regular : Backup.sIsreg (nodeMode node) = true) : ∃ inode, node = .regular inode := by
  cases node with
  | regular inode => exact ⟨inode,rfl⟩
  | directory inner => exact absurd regular (show ¬Backup.sIsreg 0o040755 = true by decide)
  | symlink => exact absurd regular (by decide)
  | special kind =>
    cases kind with
    | fifo => exact absurd regular (by decide)
    | characterDevice => exact absurd regular (by decide)
    | blockDevice => exact absurd regular (by decide)
    | socket => exact absurd regular (by decide)

theorem destinationChecked (destinationName : PyStr) (parted : start.descriptors parent = some (.directory folder)) :
    ∃ r ok, (validateManifestDestination parent destinationName).eval h.answer start =
        (r,start.logged (.stat parent destinationName) ok) ∧
      (r = .ok () → ∀ node, start.files.entry folder destinationName = some node → ∃ inode, node = .regular inode) := by
  have directory : start.directory parent = some folder := by rw [ReleaseOs.directory,parted]
  unfold validateManifestDestination
  rw [Program.evalCall]
  obtain ⟨e,failed⟩ | done := h.answered (.stat parent destinationName) start
  · rw [failed]
    cases e with
    | osError => exact ⟨_,_,rfl,fun other => by cases other⟩
    | valueError => exact ⟨_,_,rfl,fun other => by cases other⟩
    | interrupted => exact ⟨_,_,rfl,fun other => by cases other⟩
  · unfold ReleaseHost.perform ReleaseHost.within at done
    simp only [directory] at done
    cases found : start.files.entry folder destinationName with
    | none =>
      rw [found] at done
      rw [done]
      exact ⟨_,_,rfl,fun _ node other => by cases other⟩
    | some node =>
      rw [found] at done
      rw [done]
      dsimp only
      by_cases link : sIslnk (nodeMode node) = true
      · rw [if_pos link]
        exact ⟨_,_,rfl,fun other => by cases other⟩
      · rw [if_neg link]
        by_cases irregular : Backup.sIsreg (nodeMode node) = false
        · rw [if_pos irregular]
          exact ⟨_,_,rfl,fun other => by cases other⟩
        · rw [if_neg irregular]
          refine ⟨_,_,rfl,fun _ node' same => ?_⟩
          cases same
          exact regularMode (Bool.not_eq_false _ ▸ irregular)

end

def ReleaseHost.look (h : ReleaseHost) (files : FileTree PyStr Bytes) (anchor : PyStr) (parents : List PyStr) (name : PyStr) :
    Option (Node × Option Bytes) :=
  (h.anchors anchor).bind (fun root => files.look root parents name)

structure ManifestWritten (h : ReleaseHost) (payload : Except JsonError PyStr) (anchor : PyStr) (parents : List PyStr)
    (name : PyStr) (start after : ReleaseOs) (r : Except ReleaseError Unit) : Prop where
  kept : ¬Renamed after → h.look after.files anchor parents name = h.look start.files anchor parents name
  replaced : Renamed after → ∃ text bytes inode, payload = .ok text ∧ text.encodeUtf8 = some bytes ∧
    h.look after.files anchor parents name = some (.regular inode,some bytes)
  returned : r = .ok () → Renamed after
  temporaryKept : ∀ found, h.look start.files anchor parents (py "." ++ name ++ py ".tmp") = some found →
    h.look after.files anchor parents (py "." ++ name ++ py ".tmp") = some found
  temporaryRemoved : h.look start.files anchor parents (py "." ++ name ++ py ".tmp") = none →
    h.look after.files anchor parents (py "." ++ name ++ py ".tmp") = none ∨ RemovalFailed after ∨ Abandoned after
  regular : ∀ node content, h.look start.files anchor parents name = some (node,content) →
    (∀ inode, node ≠ .regular inode) → ¬Renamed after
  others : ∀ d n node, start.files.entry d n = some node → after.files.entry d n = some node ∨
    Renamed after ∧ n = name ∧ (h.anchors anchor).bind (fun root => start.files.resolve root parents) = some d
  contents : ∀ d n inode, start.files.entry d n = some (.regular inode) →
    after.files.contents inode = start.files.contents inode

section
variable {h : ReleaseHost} {payload : Except JsonError PyStr} {anchor name : PyStr} {parents : List PyStr}
  {start m after : ReleaseOs} {r : Except ReleaseError Unit} {root parent folder : Nat}

theorem stoppedWritten (unrenamed : ¬Renamed after) (failed : ∃ e, r = .error e)
    (looks : ∀ n, h.look after.files anchor parents n = h.look start.files anchor parents n)
    (kept : ∀ d n node, start.files.entry d n = some node → after.files.entry d n = some node)
    (contents : after.files.contents = start.files.contents) :
    ManifestWritten h payload anchor parents name start after r where
  kept _ := looks name
  replaced renamed := absurd renamed unrenamed
  returned done := by
    obtain ⟨e,rfl⟩ := failed
    cases done
  temporaryKept found here := (looks _).trans here
  temporaryRemoved none_ := .inl ((looks _).trans none_)
  regular _ _ _ _ := unrenamed
  others d n node held := .inl (kept d n node held)
  contents _ _ _ _ := by rw [contents]

theorem preparedStopped (anchored : h.anchors anchor = some root) (prepared : WalkLeft h start root parents after)
    (failed : ∃ e, r = .error e) : ManifestWritten h payload anchor parents name start after r :=
  stoppedWritten prepared.unrenamed failed
    (fun n => by simp only [ReleaseHost.look,anchored,Option.bind_some,preparedLook prepared n])
    prepared.kept prepared.contents

theorem enteredLook (anchored : h.anchors anchor = some root) (entering : Entering h start root parents m parent folder) (n : PyStr) :
    h.look start.files anchor parents n = (m.files.entry folder n).map (fun node => (node,m.files.held node)) := by
  rw [ReleaseHost.look,anchored,Option.bind_some,← preparedLook entering.prepared,FileTree.look,entering.reached,Option.bind_some]

theorem afterLook (anchored : h.anchors anchor = some root) (entering : Entering h start root parents m parent folder)
    (inner : ∀ d n, after.files.inner d n = m.files.inner d n) (n : PyStr) :
    h.look after.files anchor parents n = (after.files.entry folder n).map (fun node => (node,after.files.held node)) := by
  rw [ReleaseHost.look,anchored,Option.bind_some,FileTree.look,FileTree.resolveKept inner,entering.reached,Option.bind_some]

theorem heldKept (sound : Sound h m) (contents : ∀ inode ≠ m.next, after.files.contents inode = m.files.contents inode)
    {d : Nat} {n : PyStr} (same : after.files.entry d n = m.files.entry d n) :
    (after.files.entry d n).map (fun node => (node,after.files.held node)) =
      (m.files.entry d n).map (fun node => (node,m.files.held node)) := by
  rw [same]
  cases found : m.files.entry d n with
  | none => rfl
  | some node =>
    cases node with
    | regular inode =>
      have below := sound.regulars d n inode found
      simp only [Option.map_some,FileTree.held,contents inode (by omega)]
    | directory inner => rfl
    | symlink => rfl
    | special kind => rfl

theorem unwrittenWritten (anchored : h.anchors anchor = some root) (entering : Entering h start root parents m parent folder)
    (unwritten : Unwritten m parent folder (py "." ++ name ++ py ".tmp") after) (failed : ∃ e, r = .error e)
    (other : name ≠ py "." ++ name ++ py ".tmp") : ManifestWritten h payload anchor parents name start after r := by
  have sound := entering.prepared.sound
  have inner (d : Nat) (n : PyStr) : after.files.inner d n = m.files.inner d n := by
    unfold FileTree.inner
    by_cases here : d = folder ∧ n = py "." ++ name ++ py ".tmp"
    · obtain ⟨rfl,rfl⟩ := here
      obtain same | ⟨absent,left,_⟩ := unwritten.temporary
      · rw [same]
      · rw [absent,left]
        rfl
    · rw [unwritten.others d n here]
  have looks (n : PyStr) (same : after.files.entry folder n = m.files.entry folder n) :
      h.look after.files anchor parents n = h.look start.files anchor parents n := by
    rw [afterLook anchored entering inner,enteredLook anchored entering,heldKept sound unwritten.contents same]
  refine {
    kept := fun _ => looks name (unwritten.others folder name (fun same => other same.2))
    replaced := fun renamed => absurd renamed unwritten.unrenamed
    returned := fun done => ?_
    temporaryKept := fun found here => ?_
    temporaryRemoved := fun none_ => ?_
    regular := fun _ _ _ _ => unwritten.unrenamed
    others := fun d n node held => .inl ?_
    contents := fun d n inode held => ?_ }
  · obtain ⟨e,rfl⟩ := failed
    cases done
  · obtain same | ⟨absent,_,_⟩ := unwritten.temporary
    · exact (looks _ same).trans here
    · rw [enteredLook anchored entering,absent] at here
      cases here
  · obtain same | ⟨_,_,removal⟩ := unwritten.temporary
    · exact .inl ((looks _ same).trans none_)
    · exact .inr removal
  · have before := entering.prepared.kept d n node held
    by_cases here : d = folder ∧ n = py "." ++ name ++ py ".tmp"
    · obtain ⟨rfl,rfl⟩ := here
      obtain same | ⟨absent,_,_⟩ := unwritten.temporary
      · exact same.trans before
      · rw [absent] at before
        cases before
    · exact (unwritten.others d n here).trans before
  · have below := sound.regulars d n inode (entering.prepared.kept d n _ held)
    exact (unwritten.contents inode (by omega)).trans (congrFun entering.prepared.contents inode)

theorem replacedWritten {text : PyStr} (anchored : h.anchors anchor = some root)
    (entering : Entering h start root parents m parent folder)
    (replaced : Replaced m parent folder name (py "." ++ name ++ py ".tmp") text after)
    (checked : ∀ node, m.files.entry folder name = some node → ∃ inode, node = .regular inode)
    (other : name ≠ py "." ++ name ++ py ".tmp") : ManifestWritten h (.ok text) anchor parents name start after r := by
  have sound := entering.prepared.sound
  have inner (d : Nat) (n : PyStr) : after.files.inner d n = m.files.inner d n := by
    unfold FileTree.inner
    rw [replaced.entries]
    by_cases here : d = folder ∧ n = name
    · obtain ⟨rfl,rfl⟩ := here
      rw [FileTree.placeHere,replaced.file]
      rfl
    · rw [FileTree.placeOther _ _ here]
  have beside : after.files.entry folder (py "." ++ name ++ py ".tmp") = m.files.entry folder (py "." ++ name ++ py ".tmp") := by
    rw [replaced.entries,FileTree.placeOther _ _ (fun same => other same.2.symm)]
  have temporary : h.look after.files anchor parents (py "." ++ name ++ py ".tmp") =
      h.look start.files anchor parents (py "." ++ name ++ py ".tmp") := by
    rw [afterLook anchored entering inner,enteredLook anchored entering,heldKept sound replaced.contents beside]
  refine {
    kept := fun unrenamed => absurd replaced.renamed unrenamed
    replaced := fun _ => ⟨text,_,m.next,rfl,replaced.complete,?_⟩
    returned := fun _ => replaced.renamed
    temporaryKept := fun found here => temporary.trans here
    temporaryRemoved := fun none_ => .inl (temporary.trans none_)
    regular := fun node content here irregular => ?_
    others := fun d n node held => ?_
    contents := fun d n inode held => ?_ }
  · rw [afterLook anchored entering inner,replaced.entries,FileTree.placeHere]
    rfl
  · rw [enteredLook anchored entering] at here
    obtain ⟨node',found,shown⟩ := Option.map_eq_some_iff.mp here
    cases shown
    obtain ⟨inode,rfl⟩ := checked _ found
    exact absurd rfl (irregular inode)
  · have before := entering.prepared.kept d n node held
    by_cases here : d = folder ∧ n = name
    · obtain ⟨rfl,rfl⟩ := here
      refine .inr ⟨replaced.renamed,rfl,?_⟩
      obtain same | ⟨_,empty⟩ := entering.fresh
      · rw [anchored,Option.bind_some,← same,entering.reached]
      · rw [empty] at before
        cases before
    · rw [replaced.entries,FileTree.placeOther _ _ here]
      exact .inl before
  · have below := sound.regulars d n inode (entering.prepared.kept d n _ held)
    exact (replaced.contents inode (by omega)).trans (congrFun entering.prepared.contents inode)

theorem finallyClosed {body : ReleaseProgram Unit} (ran : body.eval h.answer m = (r,after))
    (idle : ReleaseHost.Idle after parent) : ∃ r' last ok, (closingFinally parent body).eval h.answer m = (r',last) ∧
      (r' = .ok () → r = .ok ()) ∧ last.files = after.files ∧ last.log = after.log ++ [(.close parent,ok)] := by
  obtain ⟨closed,between,ran',same⟩ := ReleaseHost.idleClose (h := h) idle
  have kept : between.files = after.files ∧ between.log = after.log := by
    obtain rfl | rfl := same
    · exact ⟨rfl,rfl⟩
    · exact ⟨rfl,rfl⟩
  have log (ok : Bool) : (between.logged (.close parent) ok).log = after.log ++ [(.close parent,ok)] := by
    rw [ReleaseOs.logged,kept.2]
  unfold closingFinally
  rw [Program.evalBind,Program.evalCaught,ran]
  dsimp only
  rw [Program.bindCall,Program.evalCall,ran']
  cases closed with
  | error failure =>
    refine ⟨_,between.logged (.close parent) false,false,rfl,?_,kept.1,log _⟩
    intro other
    cases other
  | ok closed =>
    refine ⟨r,between.logged (.close parent) true,true,?_,id,kept.1,log _⟩
    show (Program.ofExcept r).eval h.answer _ = _
    rw [Program.evalOfExcept]
    rfl

theorem writtenClosed {last : ReleaseOs} {r' : Except ReleaseError Unit} {ok : Bool}
    (written : ManifestWritten h payload anchor parents name start after r) (files : last.files = after.files)
    (log : last.log = after.log ++ [(.close parent,ok)]) (returned : r' = .ok () → r = .ok ()) :
    ManifestWritten h payload anchor parents name start last r' := by
  have grown {e : ReleaseCall × Bool} (found : e ∈ after.log) : e ∈ last.log := log ▸ List.mem_append_left _ found
  have same : Renamed last ↔ Renamed after := by
    constructor
    · intro ⟨d,source,target,found⟩
      rcases List.mem_append.mp (log ▸ found) with earlier | other
      · exact ⟨d,source,target,earlier⟩
      · cases List.mem_singleton.mp other
    · exact fun ⟨d,source,target,found⟩ => ⟨d,source,target,grown found⟩
  refine {
    kept := fun unrenamed => files ▸ written.kept (fun renamed => unrenamed (same.mpr renamed))
    replaced := fun renamed => files ▸ written.replaced (same.mp renamed)
    returned := fun done => same.mpr (written.returned (returned done))
    temporaryKept := fun found here => files ▸ written.temporaryKept found here
    temporaryRemoved := fun none_ => ?_
    regular := fun node content here irregular renamed => written.regular node content here irregular (same.mp renamed)
    others := fun d n node held => ?_
    contents := fun d n inode held => files ▸ written.contents d n inode held }
  · obtain gone | ⟨d,name,failed⟩ | ⟨d,unopened,unclosed⟩ := written.temporaryRemoved none_
    · exact .inl (files ▸ gone)
    · exact .inr (.inl ⟨d,name,grown failed⟩)
    · exact .inr (.inr ⟨d,grown unopened,grown unclosed⟩)
  · obtain here | ⟨renamed,rest⟩ := written.others d n node held
    · exact .inl (files ▸ here)
    · exact .inr ⟨same.mpr renamed,rest⟩

theorem unchangedWritten (unrenamed : ¬Renamed start) (e : ReleaseError) :
    ManifestWritten h payload anchor parents name start start (.error e) :=
  stoppedWritten unrenamed ⟨e,rfl⟩ (fun _ => rfl) (fun _ _ _ held => held) rfl

theorem enteredWritten (anchored : h.anchors anchor = some root) (entering : Entering h start root parents m parent folder)
    (text : PyStr) : ∃ r after, (closingFinally parent (do
        validateManifestDestination parent name
        writeManifestPayload text parent name)).eval h.answer m = (r,after) ∧
      ManifestWritten h (.ok text) anchor parents name start after r := by
  obtain ⟨checked,ok,ran₁,regular⟩ := destinationChecked (h := h) name entering.parted
  let stated := m.logged (.stat parent name) ok
  have entered : Entering h start root parents stated parent folder :=
    ⟨preparedOther entering.prepared rfl rfl rfl (fun _ _ _ other => by cases other),entering.parted,entering.reached,
      entering.below,entering.fresh⟩
  have body : ∃ r after, Program.eval h.answer (do
        validateManifestDestination parent name
        writeManifestPayload text parent name) m = (r,after) ∧ after.descriptors parent = some (.directory folder) ∧
      ManifestWritten h (.ok text) anchor parents name start after r := by
    rw [Program.evalBind,ran₁]
    cases checked with
    | error e => exact ⟨_,_,rfl,entered.parted,preparedStopped anchored entered.prepared ⟨e,rfl⟩⟩
    | ok checked =>
      have other : name ≠ py "." ++ name ++ py ".tmp" := temporaryOther name
      obtain ⟨r,after,ran₂,⟨failed,unwritten⟩ | replaced⟩ :=
        payloadEnds (h := h) text rfl entered.parted entered.prepared.unrenamed
      · exact ⟨_,_,ran₂,unwritten.parent,unwrittenWritten anchored entered unwritten failed other⟩
      · exact ⟨_,_,ran₂,replaced.parent,replacedWritten anchored entered replaced (regular rfl) other⟩
  obtain ⟨r,after,ran₂,parted,written⟩ := body
  obtain ⟨r',last,ok',ran₃,returned,files,log⟩ := finallyClosed ran₂ (folderIdle parted)
  exact ⟨r',last,ran₃,writtenClosed written files log returned⟩

end

theorem manifestAtomic (h : ReleaseHost) (i : Interpreter) (secureManifestWritesSupported : Bool)
    (manifest : List (PyStr × Json)) (outputPath : PyStr) (start : ReleaseOs) (sound : Sound h start) (fresh : start.log = []) :
    ∃ r after, (writeReleaseManifest i secureManifestWritesSupported manifest outputPath).eval h.answer start = (r,after) ∧
      match manifestPathParts (PurePath.of outputPath) with
      | .error _ => (∃ e, r = .error e) ∧ after = start
      | .ok (anchor,parents,name) => ManifestWritten h (manifestPayload i manifest) anchor parents name start after r := by
  have unrenamed : ¬Renamed start := by
    rintro ⟨d,source,target,found⟩
    rw [fresh] at found
    cases found
  unfold writeReleaseManifest
  cases payload : manifestPayload i manifest with
  | error e =>
    refine ⟨_,_,rfl,?_⟩
    split
    · exact ⟨⟨_,rfl⟩,rfl⟩
    · exact unchangedWritten unrenamed _
  | ok text =>
    show ∃ r after, Program.eval h.answer (do
      if secureManifestWritesSupported = false then
        throw (.releaseEvidence ("secure release manifest writes require descriptor-relative " ++ "no-follow support"))
      let opened ← openManifestParent (PurePath.of outputPath)
      closingFinally opened.1 (do
        validateManifestDestination opened.1 opened.2
        writeManifestPayload text opened.1 opened.2)) start = (r,after) ∧ _
    cases secureManifestWritesSupported with
    | false =>
      refine ⟨_,_,rfl,?_⟩
      split
      · exact ⟨⟨_,rfl⟩,rfl⟩
      · exact unchangedWritten unrenamed _
    | true =>
      show ∃ r after, Program.eval h.answer (openManifestParent (PurePath.of outputPath) >>= fun opened =>
        closingFinally opened.1 (do
          validateManifestDestination opened.1 opened.2
          writeManifestPayload text opened.1 opened.2)) start = (r,after) ∧ _
      rw [Program.evalBind]
      cases split_ : manifestPathParts (PurePath.of outputPath) with
      | error e =>
        unfold openManifestParent
        rw [split_]
        exact ⟨_,_,rfl,⟨_,rfl⟩,rfl⟩
      | ok found =>
        obtain ⟨anchor,parents,name⟩ := found
        obtain ⟨r,after,ran,⟨⟨e,rfl⟩,files,still⟩ | ⟨root,anchored,prepared,entered⟩⟩ :=
          parentOpened (PurePath.of outputPath) split_ sound unrenamed
        · rw [ran]
          exact ⟨_,_,rfl,stoppedWritten still ⟨e,rfl⟩ (fun _ => by rw [files]) (fun _ _ _ held => files ▸ held)
            (by rw [files])⟩
        · rw [ran]
          cases r with
          | error e => exact ⟨_,_,rfl,preparedStopped anchored prepared ⟨e,rfl⟩⟩
          | ok opened =>
            obtain ⟨rfl,folder,entering⟩ := entered opened rfl
            exact enteredWritten anchored entering text

def failingHost : ReleaseHost where
  anchors name := if name = py "." then some 0 else none
  fault k := if k = 6 then some .osError else none
  drained _ := 0
  number k := 10 + k

def earlierOs : ReleaseOs where
  files := ⟨fun d n => if d = 0 ∧ n = py "manifest.json" then some (.regular 1) else none,
    fun inode => if inode = 1 then [0x7B,0x7D] else []⟩
  next := 2
  descriptors _ := none
  log := []

theorem earlierEntry {d : Nat} {n : PyStr} {node : Node} (held : earlierOs.files.entry d n = some node) :
    d = 0 ∧ node = .regular 1 := by
  unfold earlierOs at held
  dsimp only at held
  split at held
  · rename_i same
    cases held
    exact ⟨same.1,rfl⟩
  · cases held

theorem earlierSound : Sound failingHost earlierOs where
  anchors name inode anchored := by
    unfold failingHost at anchored
    dsimp only at anchored
    split at anchored
    · cases anchored
      exact Nat.zero_lt_two
    · cases anchored
  folders _ _ _ held := by
    rw [(earlierEntry held).1]
    exact Nat.zero_lt_two
  directories _ _ _ held := by cases (earlierEntry held).2
  regulars _ _ _ held := by
    cases (earlierEntry held).2
    exact Nat.one_lt_two

theorem earlierManifestKept : ∃ e after,
    (writeReleaseManifest ⟨1000,some 4300,by decide⟩ true [] (py "manifest.json")).eval failingHost.answer earlierOs =
      (.error e,after) ∧
    failingHost.look after.files (py ".") [] (py "manifest.json") = some (.regular 1,some [0x7B,0x7D]) ∧
    ManifestWritten failingHost (.ok (py "\x7b\x7d\n")) (py ".") [] (py "manifest.json") earlierOs after (.error e) := by
  obtain ⟨r,after,ran,written⟩ := manifestAtomic failingHost ⟨1000,some 4300,by decide⟩ true [] (py "manifest.json") earlierOs
    earlierSound rfl
  have ended : ((writeReleaseManifest ⟨1000,some 4300,by decide⟩ true [] (py "manifest.json")).eval failingHost.answer
    earlierOs).1 = .error (.releaseEvidence "release manifest write failed") := rfl
  have looked : failingHost.look ((writeReleaseManifest ⟨1000,some 4300,by decide⟩ true [] (py "manifest.json")).eval
    failingHost.answer earlierOs).2.files (py ".") [] (py "manifest.json") = some (.regular 1,some [0x7B,0x7D]) := rfl
  rw [ran] at ended looked
  cases ended
  exact ⟨_,after,ran,looked,written⟩

end PgLlmBatch
