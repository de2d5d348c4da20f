import PgLlmBatch.Base.RowLogic

/-! Every interleaving of transactions over a row-locking table: the invariant that
carries the program logic from one call to the whole history of the table. -/
namespace PgLlmBatch.Base.RowLocking
open Function (update update_of_ne)
open Pool (Caller Session State Event Status settleScratch settleDone settleWaiting)

section
variable {Key Row Scope Work Answer Call E α : Type}

abbrev World (Key Row Scope Work Answer Call E α : Type) :=
  State (Statement Key Row Scope Work) (Reply Answer) E α Call (Shared Call Key Row Work)
    (Scratch Call Key Row Scope Work)

def entriesOf (w : World Key Row Scope Work Answer Call E α) (t : Nat) : List (Entry Call Key Row Work) :=
  w.shared.journal.filter (fun e => e.caller.tx = t) ++ (w.session t).scratch.log

def madeBy (w : World Key Row Scope Work Answer Call E α) (t n : Nat) : List (Act Key Row Work) :=
  ((entriesOf w t).filter (fun e => e.caller.seq = n)).map Entry.act

section
variable [DecidableEq Key]

def Act.on (k : Key) : Act Key Row Work → Option (Write Key Row)
  | .write w => if w.key = k then some w else none
  | .work _ => none

def onKey (k : Key) (es : List (Entry Call Key Row Work)) : List (Write Key Row) :=
  es.filterMap (fun e => e.act.on k)

@[simp] theorem onKeyAppend (k : Key) (es fs : List (Entry Call Key Row Work)) :
    onKey k (es ++ fs) = onKey k es ++ onKey k fs := by simp [onKey]

theorem onKeyWrite (k : Key) (caller : Caller Call) (w : Write Key Row) :
    onKey k [(⟨caller,.write w⟩ : Entry Call Key Row Work)] = if w.key = k then [w] else [] := by
  by_cases same : w.key = k <;> simp [onKey,Act.on,same]

@[simp] theorem onKeyWork (k : Key) (caller : Caller Call) (item : Work) :
    onKey k [(⟨caller,.work item⟩ : Entry Call Key Row Work)] = [] := rfl

theorem onKeyMember {k : Key} {es : List (Entry Call Key Row Work)} {w : Write Key Row}
    (h : w ∈ onKey k es) : w.key = k ∧ ∃ e ∈ es, e.act = .write w := by
  obtain ⟨⟨caller,act⟩,here,found⟩ := List.mem_filterMap.mp h
  cases act with
  | work item => contradiction
  | write x =>
    simp only [Act.on] at found
    split at found <;> cases found
    rename_i same
    exact ⟨same,_,here,rfl⟩

theorem writtenOnce {R : Row → Row → Prop} (trans : ∀ x y z, R x y → R y z → R x z)
    (irrefl : ∀ x, ¬R x x) {k : Key} {es : List (Entry Call Key Row Work)} {a b : Option Row}
    (grows : ∀ w ∈ onKey k es, ∀ old ∈ w.before, R old w.after) (chain : Linked a (onKey k es) b)
    {e f : Entry Call Key Row Work} (he : e ∈ es) (hf : f ∈ es) {x y : Write Key Row}
    (hx : e.act = .write x) (hy : f.act = .write y) (kx : x.key = k) (ky : y.key = k)
    (same : x.after = y.after) : e = f := by
  have ordered : ((onKey k es).map Write.after).Pairwise (fun u v => u ≠ v) := by
    have all := (linkedPairwise trans grows chain).sublist (List.sublist_append_right _ _)
    refine all.imp fun {u v} before equal => ?_
    rw [equal] at before
    exact irrefl v before
  rw [List.pairwise_map,onKey,List.pairwise_filterMap] at ordered
  have : Std.Symm (fun u v : Entry Call Key Row Work => ∀ w, Act.on k u.act = some w →
      ∀ z, Act.on k v.act = some z → w.after ≠ z.after) :=
    ⟨fun u v h w hw z hz => (h z hz w hw).symm⟩
  by_contra distinct
  exact ordered.forall he hf distinct x (by simp [hx,Act.on,kx]) y (by simp [hy,Act.on,ky]) same

def situation (w : World Key Row Scope Work Answer Call E α) (t : Nat) : Situation Key Row Scope Work :=
  ⟨(w.session t).scratch.scope,knownOf w.shared (w.session t).scratch t,
    madeBy w t (w.session t).outcomes.length⟩

structure Consistent (initial : Key → Option Row)
    (w : World Key Row Scope Work Answer Call E α) : Prop where
  settled : ∀ t, (w.session t).status ≠ .active →
    (w.session t).scratch.log = [] ∧ ∀ k, w.shared.holder k ≠ some t
  held : ∀ t k, w.shared.holder k ≠ some t → (w.session t).scratch.pending k = none ∧
    onKey k (w.session t).scratch.log = []
  uncommitted : ∀ t k, Linked (w.shared.committed k) (onKey k (w.session t).scratch.log)
    (view w.shared (w.session t).scratch k)
  history : ∀ k, Linked (initial k) (onKey k w.shared.journal) (w.shared.committed k)

theorem consistentStart (policy : Scope → Key → Bool) (committed : Key → Option Row) :
    Consistent committed (Pool.start (@engine _ _ _ _ Answer Call _ policy)
      ⟨committed,fun _ => none,[]⟩ : World Key Row Scope Work Answer Call E α) where
  settled _ _ := ⟨rfl,fun _ => nofun⟩
  held _ _ _ := ⟨rfl,rfl⟩
  uncommitted _ _ := rfl
  history _ := rfl

theorem holderTake {sh : Shared Call Key Row Work} {t u : Nat} {j k : Key} (other : u ≠ t)
    (open_ : free sh t k) : (take sh t k).holder j = some u ↔ sh.holder j = some u := by
  by_cases same : j = k
  · subst j
    have left : some t ≠ some u := by simpa using other.symm
    have right : sh.holder k ≠ some u := by
      obtain free_ | mine := open_
      · simp [free_]
      · simpa [mine] using left
    simp [take,right,other.symm]
  · simp [take,same]

omit [DecidableEq Key] in
theorem holderRelease {sh : Shared Call Key Row Work} {t u : Nat} {k : Key} (other : u ≠ t) :
    release sh t k = some u ↔ sh.holder k = some u := by
  unfold release
  split
  · rename_i mine
    simp [mine,other.symm]
  · rfl

omit [DecidableEq Key] in
theorem releaseOwn (sh : Shared Call Key Row Work) (t : Nat) (k : Key) : release sh t k ≠ some t := by
  unfold release
  split <;> simp_all

theorem consistentChange {initial : Key → Option Row} {w : World Key Row Scope Work Answer Call E α}
    {rule : Act Key Row Work → Prop} (caller : Caller Call) {sh' : Shared Call Key Row Work}
    {added : List (Act Key Row Work)}
    {s' : Session (Statement Key Row Scope Work) (Reply Answer) E α Call (Scratch Call Key Row Scope Work)}
    (inv : Consistent initial w)
    (change : Change rule caller w.shared (w.session caller.tx).scratch sh' s'.scratch added)
    (active : s'.status = .active) :
    Consistent initial ⟨sh',update w.session caller.tx s'⟩ := by
  obtain ⟨sc',current,outcomes,status⟩ := s'
  simp only at change active
  constructor
  · intro u idle
    by_cases mine : u = caller.tx
    · subst u; simp [active] at idle
    · simp only [update_of_ne mine] at idle ⊢
      refine ⟨(inv.settled u idle).1,fun k => ?_⟩
      have before := (inv.settled u idle).2 k
      cases change with
      | quiet => exact before
      | lock _ _ _ open_ => rwa [Ne,holderTake mine open_]
      | write _ _ open_ _ => rwa [Ne,holderTake mine open_]
      | work => exact before
  · intro u k notHeld
    by_cases mine : u = caller.tx
    · subst u
      simp only [Function.update_self]
      cases change with
      | quiet => exact inv.held _ k notHeld
      | lock j _ _ open_ =>
        have apart : k ≠ j := by rintro rfl; simp [take] at notHeld
        exact inv.held _ k (by simpa [take,apart] using notHeld)
      | write x _ open_ _ =>
        have apart : k ≠ x.key := by rintro rfl; simp [take] at notHeld
        have before := inv.held _ k (by simpa [take,apart] using notHeld)
        simpa [put,apart,onKeyWrite,Ne.symm apart] using before
      | work => simpa [perform] using inv.held _ k notHeld
    · simp only [update_of_ne mine]
      cases change with
      | quiet => exact inv.held u k notHeld
      | lock _ _ _ open_ => exact inv.held u k (by rwa [Ne,holderTake mine open_] at notHeld)
      | write _ _ open_ _ => exact inv.held u k (by rwa [Ne,holderTake mine open_] at notHeld)
      | work => exact inv.held u k notHeld
  · intro u k
    by_cases mine : u = caller.tx
    · subst u
      simp only [Function.update_self]
      have before := inv.uncommitted caller.tx k
      cases change with
      | quiet => exact before
      | lock => exact before
      | write x seen _ _ =>
        by_cases same : x.key = k
        · subst k
          simp only [put,onKeyAppend,onKeyWrite,if_pos,linkedAppend]
          exact ⟨_,before,seen.symm,by simp [view,Linked]⟩
        · simpa [put,onKeyWrite,same,view,take,Ne.symm same] using before
      | work => simpa [perform,view] using before
    · simp only [update_of_ne mine]
      cases change <;> exact inv.uncommitted u k
  · intro k
    cases change <;> exact inv.history k

theorem committedElsewhere {initial : Key → Option Row} {w : World Key Row Scope Work Answer Call E α}
    (inv : Consistent initial w) {t : Nat} {k : Key} (notHeld : w.shared.holder k ≠ some t) :
    view w.shared (w.session t).scratch k = w.shared.committed k := by
  simp [view,(inv.held t k notHeld).1]

theorem consistentCommit {initial : Key → Option Row} {w : World Key Row Scope Work Answer Call E α}
    (inv : Consistent initial w) (t : Nat) :
    Consistent initial ⟨commitTo t w.shared (w.session t).scratch,
      update w.session t {w.session t with scratch := blank, status := .committed}⟩ := by
  constructor
  · intro u idle
    by_cases mine : u = t
    · subst u
      exact ⟨by simp [blank],fun k => releaseOwn w.shared t k⟩
    · simp only [update_of_ne mine] at idle ⊢
      refine ⟨(inv.settled u idle).1,fun k => ?_⟩
      simpa [commitTo,holderRelease mine] using (inv.settled u idle).2 k
  · intro u k notHeld
    by_cases mine : u = t
    · subst u
      simp [blank,onKey]
    · simp only [update_of_ne mine]
      exact inv.held u k (by simpa [commitTo,holderRelease mine] using notHeld)
  · intro u k
    by_cases mine : u = t
    · subst u
      simp [commitTo,blank,onKey,view,Linked]
    · simp only [update_of_ne mine]
      by_cases held : w.shared.holder k = some u
      · have apart : w.shared.holder k ≠ some t := by simpa [held] using mine
        simpa [commitTo,view,(inv.held t k apart).1] using inv.uncommitted u k
      · obtain ⟨pending,writes⟩ := inv.held u k held
        simp [commitTo,view,pending,writes,Linked]
  · intro k
    simp only [commitTo,onKeyAppend,linkedAppend]
    exact ⟨_,inv.history k,inv.uncommitted t k⟩

theorem consistentRollback {initial : Key → Option Row} {w : World Key Row Scope Work Answer Call E α}
    (inv : Consistent initial w) (t : Nat) :
    Consistent initial ⟨rollbackTo t w.shared (w.session t).scratch,update w.session t
      {w.session t with scratch := blank, current := none, status := .rolledBack}⟩ := by
  constructor
  · intro u idle
    by_cases mine : u = t
    · subst u
      exact ⟨by simp [blank],fun k => releaseOwn w.shared t k⟩
    · simp only [update_of_ne mine] at idle ⊢
      refine ⟨(inv.settled u idle).1,fun k => ?_⟩
      simpa [rollbackTo,holderRelease mine] using (inv.settled u idle).2 k
  · intro u k notHeld
    by_cases mine : u = t
    · subst u
      simp [blank,onKey]
    · simp only [update_of_ne mine]
      exact inv.held u k (by simpa [rollbackTo,holderRelease mine] using notHeld)
  · intro u k
    by_cases mine : u = t
    · subst u
      simp [rollbackTo,blank,onKey,view,Linked]
    · simp only [update_of_ne mine]
      exact inv.uncommitted u k
  · exact inv.history

section
variable (policy : Scope → Key → Bool) (rule : Call → Act Key Row Work → Prop)
  (accepts : Call → (s : Statement Key Row Scope Work) → Reply Answer s → Prop)
  (post : Call → Except E α → Situation Key Row Scope Work → Prop)
  (kept : Call → Except E α → List (Act Key Row Work) → Prop)

-- Every act obeys its call's rule, every call that runs meets its postcondition from
-- here on, and every call that ended has done what its result promises.
structure Sound (w : World Key Row Scope Work Answer Call E α) : Prop where
  ruled : ∀ t, ∀ e ∈ entriesOf w t, rule e.caller.call e.act
  owned : ∀ t, ∀ e ∈ (w.session t).scratch.log, e.caller.tx = t
  closed : ∀ e ∈ w.shared.journal, (w.session e.caller.tx).status = .committed
  stamped : ∀ t, ∀ e ∈ entriesOf w t, e.caller.seq < (w.session t).outcomes.length ∨
    (e.caller.seq = (w.session t).outcomes.length ∧ (w.session t).current.isSome)
  running : ∀ t call p, (w.session t).current = some (call,p) →
    p.wp (spec policy (rule call) (accepts call)) (situation w t) (post call)
  ended : ∀ (t n : Nat) call r, (w.session t).status ≠ .rolledBack →
    (w.session t).outcomes[n]? = some (call,r) → kept call r (madeBy w t n)

theorem soundStart (committed : Key → Option Row) :
    Sound policy rule accepts post kept (Pool.start (@engine _ _ _ _ Answer Call _ policy)
      ⟨committed,fun _ => none,[]⟩) where
  ruled _ := nofun
  owned _ := nofun
  closed := nofun
  stamped _ := nofun
  running _ _ _ := nofun
  ended _ _ _ _ _ := nofun
end

section
variable {policy : Scope → Key → Bool} {rule : Call → Act Key Row Work → Prop}
  {accepts : Call → (s : Statement Key Row Scope Work) → Reply Answer s → Prop}
  {post : Call → Except E α → Situation Key Row Scope Work → Prop}
  {kept : Call → Except E α → List (Act Key Row Work) → Prop}

theorem knownElsewhere {rule : Act Key Row Work → Prop} {caller : Caller Call}
    {sh sh' : Shared Call Key Row Work} {sc sc' : Scratch Call Key Row Scope Work}
    {added : List (Act Key Row Work)} (change : Change rule caller sh sc sh' sc' added) {u : Nat}
    (other : u ≠ caller.tx) (own : Scratch Call Key Row Scope Work) :
    knownOf sh' own u = knownOf sh own u := by
  funext k
  cases change with
  | quiet => rfl
  | lock j _ _ open_ => simp only [knownOf,holderTake other open_]; rfl
  | write w _ open_ _ => simp only [knownOf,holderTake other open_]; rfl
  | work => rfl

theorem entriesChange {w : World Key Row Scope Work Answer Call E α} {rule : Act Key Row Work → Prop}
    {caller : Caller Call} {sh' : Shared Call Key Row Work} {added : List (Act Key Row Work)}
    {s' : Session (Statement Key Row Scope Work) (Reply Answer) E α Call (Scratch Call Key Row Scope Work)}
    (change : Change rule caller w.shared (w.session caller.tx).scratch sh' s'.scratch added) (u : Nat) :
    entriesOf ⟨sh',update w.session caller.tx s'⟩ u =
      entriesOf w u ++ if u = caller.tx then added.map (fun x => ⟨caller,x⟩) else [] := by
  obtain ⟨sc',current,outcomes,status⟩ := s'
  simp only at change
  by_cases mine : u = caller.tx
  · subst u
    cases change <;> simp [entriesOf,take,put,perform]
  · cases change <;> simp [entriesOf,mine,take]

theorem madeChange {w : World Key Row Scope Work Answer Call E α} {rule : Act Key Row Work → Prop}
    (caller : Caller Call) {sh' : Shared Call Key Row Work} {added : List (Act Key Row Work)}
    {s' : Session (Statement Key Row Scope Work) (Reply Answer) E α Call (Scratch Call Key Row Scope Work)}
    (change : Change rule caller w.shared (w.session caller.tx).scratch sh' s'.scratch added) (u n : Nat) :
    madeBy ⟨sh',update w.session caller.tx s'⟩ u n =
      madeBy w u n ++ if u = caller.tx ∧ n = caller.seq then added else [] := by
  simp only [madeBy,entriesChange change u]
  by_cases mine : u = caller.tx
  · by_cases now : n = caller.seq
    · simp [mine,now,List.filter_map,Function.comp_def]
    · simp [mine,now,Ne.symm now,List.filter_map,Function.comp_def]
  · simp [mine]

theorem changeRuled {rule : Act Key Row Work → Prop} {caller : Caller Call}
    {sh sh' : Shared Call Key Row Work} {sc sc' : Scratch Call Key Row Scope Work}
    {added : List (Act Key Row Work)} (change : Change rule caller sh sc sh' sc' added) :
    (∀ act ∈ added, rule act) ∧ sc'.log = sc.log ++ added.map (fun x => ⟨caller,x⟩) ∧
      sh'.journal = sh.journal := by
  cases change <;> simp_all [put,take,perform]

section
variable {w : World Key Row Scope Work Answer Call E α} {t : Nat} {call : Call} {sh' : Shared Call Key Row Work}
  {sc' : Scratch Call Key Row Scope Work} {added : List (Act Key Row Work)}
  {p : Program (Statement Key Row Scope Work) (Reply Answer) E α}

theorem settleChange
    (change : Change (rule call) ⟨t,(w.session t).outcomes.length,call⟩ w.shared (w.session t).scratch sh' sc' added) :
    Change (rule call) ⟨t,(w.session t).outcomes.length,call⟩ w.shared (w.session t).scratch sh'
      ({w.session t with scratch := sc'}.settle call p).scratch added := by
  rwa [settleScratch]

theorem stampedSettle (inv : Sound policy rule accepts post kept w)
    (change : Change (rule call) ⟨t,(w.session t).outcomes.length,call⟩ w.shared (w.session t).scratch sh' sc' added)
    (u : Nat) {e : Entry Call Key Row Work}
    (here : e ∈ entriesOf ⟨sh',update w.session t ({w.session t with scratch := sc'}.settle call p)⟩ u) :
    e.caller.seq < (update w.session t ({w.session t with scratch := sc'}.settle call p) u).outcomes.length ∨
      e.caller.seq = (update w.session t ({w.session t with scratch := sc'}.settle call p) u).outcomes.length ∧
        (update w.session t ({w.session t with scratch := sc'}.settle call p) u).current.isSome := by
  rw [entriesChange (settleChange change) u,List.mem_append] at here
  by_cases mine : u = t
  · subst u
    simp only [if_true,List.mem_map] at here
    have early : e.caller.seq ≤ (w.session t).outcomes.length := by
      obtain old | ⟨x,-,rfl⟩ := here
      · obtain ended | waits := inv.stamped t e old
        · exact Nat.le_of_lt ended
        · exact Nat.le_of_eq waits.1
      · exact Nat.le_refl _
    simp only [Function.update_self]
    cases done : p.result with
    | some r =>
      rw [settleDone _ _ done]
      exact .inl (by simpa using Nat.lt_succ_of_le early)
    | none =>
      rw [settleWaiting _ _ done]
      simpa using Nat.lt_or_eq_of_le early
  · simp only [update_of_ne mine]
    exact inv.stamped u e (by simpa [mine] using here)

theorem runningSettle (inv : Sound policy rule accepts post kept w)
    (change : Change (rule call) ⟨t,(w.session t).outcomes.length,call⟩ w.shared (w.session t).scratch sh' sc' added)
    (good : p.wp (spec policy (rule call) (accepts call))
      ⟨sc'.scope,knownOf sh' sc' t,madeBy w t (w.session t).outcomes.length ++ added⟩ (post call))
    (u : Nat) (c : Call) (q : Program (Statement Key Row Scope Work) (Reply Answer) E α)
    (runs : (update w.session t ({w.session t with scratch := sc'}.settle call p) u).current = some (c,q)) :
    q.wp (spec policy (rule c) (accepts c))
      (situation ⟨sh',update w.session t ({w.session t with scratch := sc'}.settle call p)⟩ u) (post c) := by
  have made := madeChange _ (settleChange (p := p) change)
  simp only at made
  by_cases mine : u = t
  · subst u
    simp only [Function.update_self] at runs
    cases done : p.result with
    | some r => simp [settleDone _ _ done] at runs
    | none =>
      rw [settleWaiting _ _ done] at runs
      obtain ⟨rfl,rfl⟩ := Prod.mk.inj (Option.some.inj runs)
      have here : situation ⟨sh',update w.session t ({w.session t with scratch := sc'}.settle call p)⟩ t =
          ⟨sc'.scope,knownOf sh' sc' t,madeBy w t (w.session t).outcomes.length ++ added⟩ := by
        simp only [situation,Function.update_self,settleScratch,made]
        simp [settleWaiting _ _ done]
      rwa [here]
  · simp only [update_of_ne mine] at runs
    have here : situation ⟨sh',update w.session t ({w.session t with scratch := sc'}.settle call p)⟩ u = situation w u := by
      simp only [situation,update_of_ne mine,made,mine,false_and,if_false,List.append_nil]
      rw [knownElsewhere change mine]
    rw [here]
    exact inv.running u c q runs

theorem endedSettle (inv : Sound policy rule accepts post kept w) (active : (w.session t).status = .active)
    (change : Change (rule call) ⟨t,(w.session t).outcomes.length,call⟩ w.shared (w.session t).scratch sh' sc' added)
    (promise : ∀ call r st, post call r st → kept call r st.made)
    (good : p.wp (spec policy (rule call) (accepts call))
      ⟨sc'.scope,knownOf sh' sc' t,madeBy w t (w.session t).outcomes.length ++ added⟩ (post call))
    (u m : Nat) (c : Call) (r : Except E α)
    (status : (update w.session t ({w.session t with scratch := sc'}.settle call p) u).status ≠ .rolledBack)
    (result : (update w.session t ({w.session t with scratch := sc'}.settle call p) u).outcomes[m]? = some (c,r)) :
    kept c r (madeBy ⟨sh',update w.session t ({w.session t with scratch := sc'}.settle call p)⟩ u m) := by
  have made := madeChange _ (settleChange (p := p) change)
  simp only at made
  by_cases mine : u = t
  · subst u
    simp only [Function.update_self] at status result
    have waits : (w.session t).status ≠ .rolledBack := by simp [active]
    rw [made]
    cases done : p.result with
    | none =>
      rw [settleWaiting _ _ done] at result
      have before := (List.getElem?_eq_some_iff.mp result).1
      simpa [Nat.ne_of_lt before] using inv.ended t m c r waits result
    | some r' =>
      rw [settleDone _ _ done] at result
      obtain before | now := Nat.lt_or_ge m (w.session t).outcomes.length
      · rw [List.getElem?_append_left before] at result
        simpa [Nat.ne_of_lt before] using inv.ended t m c r waits result
      · rw [List.getElem?_append_right now,List.getElem?_singleton] at result
        split at result <;> try contradiction
        rename_i last
        obtain ⟨rfl,rfl⟩ := Prod.mk.inj (Option.some.inj result)
        have same : m = (w.session t).outcomes.length := by omega
        subst same
        simpa using promise _ _ _ ((Program.wpResult done).mp good)
  · simp only [update_of_ne mine] at status result
    simpa [made,mine] using inv.ended u m c r status result

theorem soundSettle (inv : Sound policy rule accepts post kept w) (active : (w.session t).status = .active)
    (change : Change (rule call) ⟨t,(w.session t).outcomes.length,call⟩ w.shared (w.session t).scratch sh' sc' added)
    (promise : ∀ call r st, post call r st → kept call r st.made)
    (good : p.wp (spec policy (rule call) (accepts call))
      ⟨sc'.scope,knownOf sh' sc' t,madeBy w t (w.session t).outcomes.length ++ added⟩ (post call)) :
    Sound policy rule accepts post kept
      ⟨sh',update w.session t ({w.session t with scratch := sc'}.settle call p)⟩ := by
  obtain ⟨obeys,writes,journal⟩ := changeRuled change
  constructor
  · intro u e here
    rw [entriesChange (settleChange change) u,List.mem_append] at here
    obtain old | new := here
    · exact inv.ruled u e old
    · by_cases mine : u = t
      · simp only [mine,if_true,List.mem_map] at new
        obtain ⟨x,fresh,rfl⟩ := new
        exact obeys x fresh
      · simp [mine] at new
  · intro u e here
    by_cases mine : u = t
    · subst u
      simp only [Function.update_self,settleScratch,writes,List.mem_append,List.mem_map] at here
      obtain old | ⟨x,-,rfl⟩ := here
      · exact inv.owned t e old
      · rfl
    · simp only [update_of_ne mine] at here
      exact inv.owned u e here
  · intro e here
    simp only [journal] at here
    have before := inv.closed e here
    have apart : e.caller.tx ≠ t := by rintro same; simp [same,active] at before
    simpa [update_of_ne apart] using before
  · exact fun u e here => stampedSettle inv change u here
  · exact runningSettle inv change good
  · exact endedSettle inv active change promise good

end

omit [DecidableEq Key] in
theorem entriesCommit {w : World Key Row Scope Work Answer Call E α} {t : Nat}
    (owned : ∀ e ∈ (w.session t).scratch.log, e.caller.tx = t) (status : Status) (u : Nat) :
    entriesOf ⟨commitTo t w.shared (w.session t).scratch,
      update w.session t {w.session t with scratch := blank, status := status}⟩ u = entriesOf w u := by
  by_cases mine : u = t
  · subst u
    have all : (w.session t).scratch.log.filter (fun e => e.caller.tx = t) =
        (w.session t).scratch.log := List.filter_eq_self.mpr (by simpa using owned)
    simp [entriesOf,commitTo,blank,all]
  · have nothing : (w.session t).scratch.log.filter (fun e => e.caller.tx = u) = [] := by
      refine List.filter_eq_nil_iff.mpr fun e here => ?_
      simpa [owned e here] using Ne.symm mine
    simp [entriesOf,commitTo,mine,nothing]

theorem soundCommit {initial : Key → Option Row} {w : World Key Row Scope Work Answer Call E α}
    {t : Nat} (consistent : Consistent initial w) (inv : Sound policy rule accepts post kept w)
    (active : (w.session t).status = .active) (idle : (w.session t).current = none) :
    Sound policy rule accepts post kept ⟨commitTo t w.shared (w.session t).scratch,
      update w.session t {w.session t with scratch := blank, status := .committed}⟩ := by
  have entries := entriesCommit (inv.owned t) .committed
  constructor
  · intro u e here
    rw [entries] at here
    exact inv.ruled u e here
  · intro u e here
    by_cases mine : u = t
    · subst u; simp [blank] at here
    · simp only [update_of_ne mine] at here
      exact inv.owned u e here
  · intro e here
    by_cases mine : e.caller.tx = t
    · simp [mine]
    · simp only [update_of_ne mine]
      obtain old | new := List.mem_append.mp here
      · exact inv.closed e old
      · exact absurd (inv.owned t e new) mine
  · intro u e here
    rw [entries] at here
    by_cases mine : u = t
    · subst u; simpa using inv.stamped t e here
    · simpa [mine] using inv.stamped u e here
  · intro u call p runs
    by_cases mine : u = t
    · subst u; simp [idle] at runs
    · simp only [update_of_ne mine] at runs
      have known : knownOf (commitTo t w.shared (w.session t).scratch) (w.session u).scratch u =
          knownOf w.shared (w.session u).scratch u := by
        funext k
        simp only [knownOf,commitTo,holderRelease mine]
        split
        · rename_i held
          have apart : w.shared.holder k ≠ some t := by simpa [held] using mine
          have same := committedElsewhere consistent apart
          simp only [view] at same ⊢
          rw [same]
        · rfl
      have here : situation ⟨commitTo t w.shared (w.session t).scratch,
          update w.session t {w.session t with scratch := blank, status := .committed}⟩ u =
            situation w u := by
        simp only [situation,update_of_ne mine,known,madeBy,entries]
      rw [here]
      exact inv.running u call p runs
  · intro u n call r status result
    rw [show madeBy _ u n = madeBy w u n by simp only [madeBy,entries]]
    by_cases mine : u = t
    · subst u
      exact inv.ended t n call r (by simp [active]) (by simpa using result)
    · exact inv.ended u n call r (by simpa [mine] using status) (by simpa [mine] using result)

theorem soundRollback {w : World Key Row Scope Work Answer Call E α} {t : Nat}
    (inv : Sound policy rule accepts post kept w) (active : (w.session t).status = .active) :
    Sound policy rule accepts post kept ⟨rollbackTo t w.shared (w.session t).scratch,update w.session t
      {w.session t with scratch := blank, current := none, status := .rolledBack}⟩ := by
  have uncommitted : w.shared.journal.filter (fun e => e.caller.tx = t) = [] := by
    refine List.filter_eq_nil_iff.mpr fun e here mine => ?_
    have closed := inv.closed e here
    simp [of_decide_eq_true mine,active] at closed
  set w' : World Key Row Scope Work Answer Call E α :=
    ⟨rollbackTo t w.shared (w.session t).scratch,update w.session t
      {w.session t with scratch := blank, current := none, status := .rolledBack}⟩ with after
  have gone : entriesOf w' t = [] := by simp [after,entriesOf,rollbackTo,blank,uncommitted]
  have frame : ∀ u, u ≠ t → entriesOf w' u = entriesOf w u := by
    intro u mine
    simp [after,entriesOf,rollbackTo,mine]
  have session : ∀ u, u ≠ t → w'.session u = w.session u := fun u mine => update_of_ne mine _ _
  constructor
  · intro u e here
    by_cases mine : u = t
    · subst u; simp [gone] at here
    · rw [frame u mine] at here
      exact inv.ruled u e here
  · intro u e here
    by_cases mine : u = t
    · subst u; simp [after,blank] at here
    · rw [session u mine] at here
      exact inv.owned u e here
  · intro e here
    have before := inv.closed e here
    have mine : e.caller.tx ≠ t := by intro same; simp [same,active] at before
    rwa [session _ mine]
  · intro u e here
    by_cases mine : u = t
    · subst u; simp [gone] at here
    · rw [frame u mine] at here
      rw [session u mine]
      exact inv.stamped u e here
  · intro u call p runs
    by_cases mine : u = t
    · subst u; simp [after] at runs
    · have known : knownOf w'.shared (w.session u).scratch u = knownOf w.shared (w.session u).scratch u := by
        funext k
        simp only [after,knownOf,rollbackTo,holderRelease mine]
        rfl
      have here : situation w' u = situation w u := by
        simp only [situation,session u mine,known,madeBy,frame u mine]
      rw [session u mine] at runs
      rw [here]
      exact inv.running u call p runs
  · intro u n call r status result
    by_cases mine : u = t
    · subst u; simp [after] at status
    · rw [session u mine] at status result
      simpa only [madeBy,frame u mine] using inv.ended u n call r status result

end

end
end
end PgLlmBatch.Base.RowLocking
