import PgLlmBatch.ReleaseFiles

/-! The walk that opens a manifest's parent against a file system: it may leave new directories
behind, and what any path of its destination's folder led to stays as it was. -/
namespace PgLlmBatch
open Base

def Renamed (m : ReleaseOs) : Prop := ∃ d source target, (.rename d source target,true) ∈ m.log

theorem notRenamed {m : ReleaseOs} (before : ¬Renamed m) {s : ReleaseCall} {ok : Bool}
    (other : ∀ d source target, s = .rename d source target → ok = false) : ¬Renamed (m.logged s ok) := by
  intro ⟨d,source,target,found⟩
  rcases List.mem_append.mp found with earlier | last
  · exact before ⟨d,source,target,earlier⟩
  · obtain ⟨rfl,rfl⟩ := Prod.mk.inj (List.mem_singleton.mp last)
    cases other d source target rfl

structure Sound (h : ReleaseHost) (m : ReleaseOs) : Prop where
  anchors : ∀ name inode, h.anchors name = some inode → inode < m.next
  folders : ∀ d n node, m.files.entry d n = some node → d < m.next
  directories : ∀ d n inode, m.files.entry d n = some (.directory inode) → inode < m.next
  regulars : ∀ d n inode, m.files.entry d n = some (.regular inode) → inode < m.next

structure WalkLeft (h : ReleaseHost) (start : ReleaseOs) (root : Nat) (walked : List PyStr) (m : ReleaseOs) : Prop where
  sound : Sound h m
  kept : ∀ d n node, start.files.entry d n = some node → m.files.entry d n = some node
  contents : m.files.contents = start.files.contents
  unrenamed : ¬Renamed m
  way : m.files = start.files ∨ ∃ before after folder, walked = before ++ after ∧ start.files.resolve root before = none ∧
    m.files.resolve root before = some folder ∧ ∀ n, m.files.entry folder n = none

section
variable {h : ReleaseHost} {start m : ReleaseOs} {root : Nat} {walked : List PyStr}

theorem preparedLook (prepared : WalkLeft h start root walked m) (name : PyStr) :
    m.files.look root walked name = start.files.look root walked name := by
  obtain same | ⟨before,after,folder,rfl,missing,found,empty⟩ := prepared.way
  · rw [same]
  · unfold FileTree.look
    rw [FileTree.resolveAppend,FileTree.resolveAppend,missing,found]
    cases after with
    | nil =>
      show (m.files.entry folder name).map _ = _
      rw [empty]
      rfl
    | cons name' after =>
      show (((m.files.entry folder name').bind Node.inner).bind _).bind _ = _
      rw [empty]
      rfl

theorem preparedOther (prepared : WalkLeft h start root walked m) {after : ReleaseOs} (files : after.files = m.files)
    (next : after.next = m.next) {s : ReleaseCall} {ok : Bool} (log : after.log = m.log ++ [(s,ok)])
    (other : ∀ d source target, s = .rename d source target → ok = false) : WalkLeft h start root walked after where
  sound := {
    anchors := next ▸ prepared.sound.anchors
    folders := by
      rw [files,next]
      exact prepared.sound.folders
    directories := by
      rw [files,next]
      exact prepared.sound.directories
    regulars := by
      rw [files,next]
      exact prepared.sound.regulars }
  kept := files ▸ prepared.kept
  contents := (congrArg FileTree.contents files).trans prepared.contents
  unrenamed := by
    have still := notRenamed prepared.unrenamed other
    unfold Renamed at still ⊢
    rw [log]
    exact still
  way := files ▸ prepared.way

theorem preparedLonger (prepared : WalkLeft h start root walked m) (rest : List PyStr) :
    WalkLeft h start root (walked ++ rest) m where
  sound := prepared.sound
  kept := prepared.kept
  contents := prepared.contents
  unrenamed := prepared.unrenamed
  way := prepared.way.imp_right (fun ⟨before,after,folder,joined,rest'⟩ =>
    ⟨before,after ++ rest,folder,by rw [joined,List.append_assoc],rest'⟩)

theorem mkdirCall {parent folder : Nat} (parted : m.descriptors parent = some (.directory folder)) (name : PyStr) :
    (∃ e, h.answer (.mkdir parent name) m = (.error e,m.logged (.mkdir parent name) false)) ∨
    m.files.entry folder name = none ∧ h.answer (.mkdir parent name) m =
      (.ok (),{m with files := (m.files.emptied m.next).place folder name (some (.directory m.next)), next := m.next + 1}.logged
        (.mkdir parent name) true) := by
  have directory : m.directory parent = some folder := by rw [ReleaseOs.directory,parted]
  obtain ⟨e,failed⟩ | done := h.answered (.mkdir parent name) m
  · exact .inl ⟨_,failed⟩
  · unfold ReleaseHost.perform ReleaseHost.within at done
    simp only [directory] at done
    cases found : m.files.entry folder name with
    | some node =>
      rw [found] at done
      exact .inl ⟨_,done⟩
    | none =>
      rw [found] at done
      exact .inr ⟨rfl,done⟩

theorem openFolderCall {parent folder : Nat} (parted : m.descriptors parent = some (.directory folder)) (name : PyStr) :
    (∃ e, h.answer (.openDirectory (some parent) name) m =
      (.error e,m.logged (.openDirectory (some parent) name) false)) ∨
    ∃ inner d, m.files.entry folder name = some (.directory inner) ∧ m.descriptors d = none ∧
      h.answer (.openDirectory (some parent) name) m =
        (.ok d,(m.assign d (some (.directory inner))).logged (.openDirectory (some parent) name) true) := by
  have directory : m.directory parent = some folder := by rw [ReleaseOs.directory,parted]
  obtain ⟨e,failed⟩ | done := h.answered (.openDirectory (some parent) name) m
  · exact .inl ⟨_,failed⟩
  · unfold ReleaseHost.perform ReleaseHost.within ReleaseHost.opening at done
    simp only [directory] at done
    cases found : m.files.entry folder name with
    | none =>
      rw [found] at done
      exact .inl ⟨_,done⟩
    | some node =>
      rw [found] at done
      cases node with
      | directory inner =>
        dsimp only at done
        cases free : m.descriptors (h.number m.log.length) with
        | none =>
          rw [free] at done
          exact .inr ⟨inner,_,rfl,free,done⟩
        | some target =>
          rw [free] at done
          exact .inl ⟨_,done⟩
      | regular inode => exact .inl ⟨_,done⟩
      | symlink => exact .inl ⟨_,done⟩
      | special kind => exact .inl ⟨_,done⟩

-- The head of the loop: the folder reached is open, and is empty if it is a new one.
structure Entering (h : ReleaseHost) (start : ReleaseOs) (root : Nat) (walked : List PyStr) (m : ReleaseOs) (d folder : Nat) :
    Prop where
  prepared : WalkLeft h start root walked m
  parted : m.descriptors d = some (.directory folder)
  reached : m.files.resolve root walked = some folder
  below : folder < m.next
  fresh : m.files = start.files ∨ start.files.resolve root walked = none ∧ ∀ n, m.files.entry folder n = none

-- Between `mkdir` and the open: if the component is a folder then it is an old one in an unchanged
-- file system, or a new one.
structure ParentReady (h : ReleaseHost) (start : ReleaseOs) (root : Nat) (walked : List PyStr) (component : PyStr) (m : ReleaseOs)
    (d folder : Nat) : Prop where
  prepared : WalkLeft h start root (walked ++ [component]) m
  parted : m.descriptors d = some (.directory folder)
  reached : m.files.resolve root walked = some folder
  fresh : ∀ inner, m.files.entry folder component = some (.directory inner) → m.files = start.files ∨
    start.files.resolve root (walked ++ [component]) = none ∧ ∀ n, m.files.entry inner n = none

variable {d folder : Nat}

theorem keptReady (entering : Entering h start root walked m d folder) (component : PyStr) {s : ReleaseCall}
    (other : ∀ d source target, s ≠ .rename d source target) :
    ParentReady h start root walked component (m.logged s false) d folder where
  prepared := preparedLonger (m := m.logged s false)
    (preparedOther entering.prepared rfl rfl rfl (fun _ _ _ same => absurd same (other _ _ _))) _
  parted := entering.parted
  reached := entering.reached
  fresh inner found := by
    obtain same | ⟨_,empty⟩ := entering.fresh
    · exact .inl same
    · have absent := empty component
      rw [show m.files.entry folder component = some (.directory inner) from found] at absent
      cases absent

theorem madeReady (entering : Entering h start root walked m d folder) {component : PyStr}
    (absent : m.files.entry folder component = none) :
    ParentReady h start root walked component
      ({m with files := (m.files.emptied m.next).place folder component (some (.directory m.next)), next := m.next + 1}.logged
        (.mkdir d component) true) d folder := by
  have sound := entering.prepared.sound
  let made := (m.files.emptied m.next).place folder component (some (.directory m.next))
  have emptied : (m.files.emptied m.next).entry = m.files.entry := by
    funext d n
    show (if d = m.next then none else m.files.entry d n) = m.files.entry d n
    split
    · rename_i here
      cases found : m.files.entry d n with
      | none => rfl
      | some node => exact absurd (sound.folders d n node found) (by omega)
    · rfl
  have here : made.entry folder component = some (.directory m.next) := FileTree.placeHere _ _ _ _
  have elsewhere {d : Nat} {n : PyStr} (other : ¬(d = folder ∧ n = component)) : made.entry d n = m.files.entry d n := by
    rw [← emptied]
    exact FileTree.placeOther _ _ other
  have grown (d : Nat) (n : PyStr) (node : Node) (found : m.files.entry d n = some node) : made.entry d n = some node := by
    rw [elsewhere (fun same => ?_),found]
    obtain ⟨rfl,rfl⟩ := same
    rw [absent] at found
    cases found
  have reached : made.resolve root walked = some folder := FileTree.resolveGrown grown entering.reached
  have below := entering.below
  have missing : start.files.resolve root (walked ++ [component]) = none := by
    rw [FileTree.resolveAppend]
    obtain same | ⟨missing,_⟩ := entering.fresh
    · rw [← same,entering.reached]
      show ((m.files.entry folder component).bind Node.inner).bind _ = none
      rw [absent]
      rfl
    · rw [missing]
      rfl
  have found : made.resolve root (walked ++ [component]) = some m.next := by
    rw [FileTree.resolveAppend,reached]
    show ((made.entry folder component).bind Node.inner).bind _ = _
    rw [here]
    rfl
  have empty (n : PyStr) : made.entry m.next n = none := by
    rw [elsewhere (fun same => by omega)]
    cases held : m.files.entry m.next n with
    | none => rfl
    | some node => exact absurd (sound.folders _ _ _ held) (Nat.lt_irrefl _)
  refine {
    prepared := {
      sound := {
        anchors := fun name inode anchored => Nat.lt_succ_of_lt (sound.anchors name inode anchored)
        folders := fun d n node held => ?_
        directories := fun d n inode held => ?_
        regulars := fun d n inode held => ?_ }
      kept := fun d n node held => grown d n node (entering.prepared.kept d n node held)
      contents := entering.prepared.contents
      unrenamed := notRenamed entering.prepared.unrenamed (fun _ _ _ other => nomatch other)
      way := .inr ⟨walked ++ [component],[],m.next,(List.append_nil _).symm,missing,found,empty⟩ }
    parted := entering.parted
    reached := reached
    fresh := fun inner held => .inr ⟨missing,?_⟩ }
  · by_cases same : d = folder ∧ n = component
    · exact Nat.lt_succ_of_lt (same.1 ▸ below)
    · exact Nat.lt_succ_of_lt (sound.folders d n node ((elsewhere same).symm.trans held))
  · by_cases same : d = folder ∧ n = component
    · obtain ⟨rfl,rfl⟩ := same
      cases here.symm.trans held
      exact Nat.lt_succ_self _
    · exact Nat.lt_succ_of_lt (sound.directories d n inode ((elsewhere same).symm.trans held))
  · by_cases same : d = folder ∧ n = component
    · obtain ⟨rfl,rfl⟩ := same
      cases here.symm.trans held
    · exact Nat.lt_succ_of_lt (sound.regulars d n inode ((elsewhere same).symm.trans held))
  · cases here.symm.trans held
    exact empty

theorem parentMade (entering : Entering h start root walked m d folder) (component : PyStr) :
    ∃ r after, (makeParent d component).eval h.answer m = (.ok r,after) ∧
      ParentReady h start root walked component after d folder := by
  unfold makeParent
  rw [Program.evalCall]
  obtain ⟨e,failed⟩ | ⟨absent,done⟩ := mkdirCall (h := h) entering.parted component
  · rw [failed]
    have ready := keptReady entering component (s := .mkdir d component) (fun _ _ _ other => nomatch other)
    cases e with
    | fileExists => exact ⟨_,_,rfl,ready⟩
    | fileNotFound => exact ⟨_,_,rfl,ready⟩
    | osError => exact ⟨_,_,rfl,ready⟩
    | valueError => exact ⟨_,_,rfl,ready⟩
    | interrupted => exact ⟨_,_,rfl,ready⟩
  · rw [done]
    exact ⟨_,_,rfl,madeReady entering absent⟩

theorem leftPrepared (prepared : WalkLeft h start root walked m) (idle : ReleaseHost.Idle m d) (e : ReleaseError) :
    ∃ e' after, (closingOnError (d,.error e)).eval h.answer m = (.error e',after) ∧ WalkLeft h start root walked after := by
  obtain ⟨r,after,ran,same⟩ := ReleaseHost.idleClose (h := h) idle
  have kept : WalkLeft h start root walked (after.logged (.close d) r.isOk) := by
    obtain rfl | rfl := same
    · exact preparedOther prepared rfl rfl rfl (fun _ _ _ other => nomatch other)
    · exact preparedOther prepared rfl rfl rfl (fun _ _ _ other => nomatch other)
  unfold closingOnError
  rw [Program.evalCall,ran]
  cases r with
  | error failure => exact ⟨_,_,rfl,kept⟩
  | ok closed => exact ⟨_,_,rfl,kept⟩

theorem folderIdle (parted : m.descriptors d = some (.directory folder)) : ReleaseHost.Idle m d := by
  intro inode buffer handle
  rw [parted] at handle
  cases handle

theorem componentEntered {component : PyStr} (ready : ParentReady h start root walked component m d folder) {inner next : Nat}
    (found : m.files.entry folder component = some (.directory inner)) (free : m.descriptors next = none) :
    ∃ r after, h.answer (.close d) ((m.assign next (some (.directory inner))).logged
        (.openDirectory (some d) component) true) = (r,after) ∧ ReleaseHost.Idle after d ∧
      Entering h start root (walked ++ [component]) after next inner := by
  have apart : d ≠ next := by
    intro same
    have parted := ready.parted
    rw [same,free] at parted
    cases parted
  let opened := (m.assign next (some (.directory inner))).logged (.openDirectory (some d) component) true
  have still : opened.descriptors d = some (.directory folder) := (m.assignOther _ apart).trans ready.parted
  have prepared : WalkLeft h start root (walked ++ [component]) opened :=
    preparedOther ready.prepared rfl rfl rfl (fun _ _ _ other => nomatch other)
  have reached : m.files.resolve root (walked ++ [component]) = some inner := by
    rw [FileTree.resolveAppend,ready.reached]
    show ((m.files.entry folder component).bind Node.inner).bind _ = _
    rw [found]
    rfl
  obtain ⟨r,after,ran,same⟩ := ReleaseHost.idleClose (h := h) (folderIdle still)
  refine ⟨r,_,ran,?_⟩
  obtain rfl | rfl := same
  · refine ⟨@folderIdle _ d folder still,?_⟩
    exact ⟨preparedOther prepared rfl rfl rfl (fun _ _ _ other => nomatch other),m.assignHere _ _,reached,
      ready.prepared.sound.directories _ _ _ found,ready.fresh inner found⟩
  · refine ⟨fun inode buffer handle => ?_,?_⟩
    · rw [ReleaseOs.loggedDescriptors,ReleaseOs.assignHere] at handle
      cases handle
    · exact ⟨preparedOther prepared rfl rfl rfl (fun _ _ _ other => nomatch other),
        (opened.assignOther none apart.symm).trans (m.assignHere _ _),reached,
        ready.prepared.sound.directories _ _ _ found,ready.fresh inner found⟩

theorem walkEnds (notDirectory : String) (parts : List PyStr) (entering : Entering h start root walked m d folder) :
    ∃ r after, (walkSteps makeParent notDirectory d parts >>= closingOnError).eval h.answer m = (r,after) ∧
      WalkLeft h start root (walked ++ parts) after ∧
      ∀ parent, r = .ok parent → ∃ folder, Entering h start root (walked ++ parts) after parent folder := by
  induction parts generalizing walked d folder m with
  | nil =>
    refine ⟨_,_,rfl,preparedLonger entering.prepared [],fun parent returned => ⟨folder,?_⟩⟩
    cases returned
    rw [List.append_nil]
    exact entering
  | cons component parts ih =>
    unfold walkSteps
    rw [Program.evalBind,Program.evalBind]
    obtain ⟨r,m₁,ran₁,ready⟩ := parentMade (h := h) entering component
    have whole := preparedLonger ready.prepared parts
    rw [List.append_assoc,List.singleton_append] at whole
    rw [ran₁]
    cases r with
    | error e =>
      obtain ⟨e',after,ran,prepared⟩ := leftPrepared whole (folderIdle ready.parted) e
      exact ⟨_,_,ran,prepared,fun _ other => nomatch other⟩
    | ok made =>
      dsimp only
      rw [Program.evalCall]
      obtain ⟨e,ran₂⟩ | ⟨inner,next,found,free,ran₂⟩ := openFolderCall (h := h) ready.parted component
      · rw [ran₂]
        have refused : WalkLeft h start root (walked ++ component::parts)
            (m₁.logged (.openDirectory (some d) component) false) :=
          preparedOther whole rfl rfl rfl (fun _ _ _ other => nomatch other)
        obtain ⟨e',after,ran,prepared⟩ := leftPrepared (h := h) (d := d) refused (@folderIdle _ d folder ready.parted)
          (e.as PathFailure.isOsOrValue notDirectory)
        exact ⟨_,_,ran,prepared,fun _ other => nomatch other⟩
      · obtain ⟨closed,m₃,ran₃,idle,entered⟩ := componentEntered (h := h) ready found free
        rw [ran₂]
        dsimp only
        rw [Program.evalCall,ran₃]
        cases closed with
        | error failure =>
          have kept := preparedLonger entered.prepared parts
          rw [List.append_assoc,List.singleton_append] at kept
          obtain ⟨e',after,ran,prepared⟩ := leftPrepared (h := h) kept idle (.raised failure)
          exact ⟨_,_,ran,prepared,fun _ other => nomatch other⟩
        | ok closed =>
          have rest := ih entered
          rw [List.append_assoc,List.singleton_append,Program.evalBind] at rest
          exact rest

theorem namedEnds {walk : ReleaseProgram Walked} {r : Except ReleaseError Nat} {after : ReleaseOs}
    (ran : (walk >>= closingOnError).eval h.answer m = (r,after)) (name : PyStr) :
    (walk >>= fun walked => closingOnError walked >>= fun d => .ret (d,name)).eval h.answer m =
      (r.map (fun d => (d,name)),after) := by
  rw [Program.evalBind] at ran ⊢
  cases walked : walk.eval h.answer m with
  | mk outcome between =>
    rw [walked] at ran
    cases outcome with
    | error e =>
      cases ran
      rfl
    | ok w =>
      dsimp only at ran ⊢
      rw [Program.evalBind,ran]
      cases r with
      | ok d => rfl
      | error e => rfl

theorem parentOpened (destination : PurePath) {anchor name : PyStr} {parents : List PyStr}
    (split_ : manifestPathParts destination = .ok (anchor,parents,name)) (sound : Sound h start) (unrenamed : ¬Renamed start) :
    ∃ r after, (openManifestParent destination).eval h.answer start = (r,after) ∧
      ((∃ e, r = .error e) ∧ after.files = start.files ∧ ¬Renamed after ∨
        ∃ root, h.anchors anchor = some root ∧ WalkLeft h start root parents after ∧
          ∀ opened, r = .ok opened → opened.2 = name ∧ ∃ folder, Entering h start root parents after opened.1 folder) := by
  unfold openManifestParent
  rw [split_,Program.ofExceptOk,Program.bindRet]
  dsimp only
  rw [Program.bindCall,Program.evalCall]
  have still (ok : Bool) : ¬Renamed (start.logged (.openDirectory none anchor) ok) :=
    notRenamed unrenamed (fun _ _ _ other => nomatch other)
  obtain ⟨e,failed⟩ | done := h.answered (.openDirectory none anchor) start
  · rw [failed]
    exact ⟨_,_,rfl,.inl ⟨⟨_,rfl⟩,rfl,still _⟩⟩
  · simp only [ReleaseHost.perform] at done
    cases anchored : h.anchors anchor with
    | none =>
      rw [anchored] at done
      rw [done]
      exact ⟨_,_,rfl,.inl ⟨⟨_,rfl⟩,rfl,still _⟩⟩
    | some root =>
      rw [anchored] at done
      unfold ReleaseHost.opening at done
      dsimp only at done
      cases free : start.descriptors (h.number start.log.length) with
      | some target =>
        rw [free] at done
        rw [done]
        exact ⟨_,_,rfl,.inl ⟨⟨_,rfl⟩,rfl,still _⟩⟩
      | none =>
        rw [free] at done
        rw [done]
        have whole : WalkLeft h start root [] start := ⟨sound,fun _ _ _ held => held,rfl,unrenamed,.inl rfl⟩
        have entering : Entering h start root [] ((start.assign (h.number start.log.length) (some (.directory root))).logged
            (.openDirectory none anchor) true) (h.number start.log.length) root := {
          prepared := preparedOther whole rfl rfl rfl (fun _ _ _ other => nomatch other)
          parted := start.assignHere _ _
          reached := rfl
          below := sound.anchors anchor root anchored
          fresh := .inl rfl }
        obtain ⟨r,after,ran,prepared,entered⟩ := walkEnds ("release manifest parent path must not contain a symlink " ++
          "and must contain only directories") parents entering
        refine ⟨_,after,namedEnds ran name,.inr ⟨root,rfl,prepared,fun opened returned => ?_⟩⟩
        cases r with
        | error e => cases returned
        | ok d =>
          cases returned
          exact ⟨rfl,entered d rfl⟩

end

end PgLlmBatch
