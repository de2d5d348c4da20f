import PgLlmBatch.Base.RowHistory

/-! Runs of transactions over a row-locking table. What is proved of one call in the
program logic, against any rows it does not hold, holds in every reachable world. -/
namespace PgLlmBatch.Base.RowLocking
open Function (update update_of_ne)
open Pool (Caller Event Status settleScratch settleDone settleWaiting)

section
variable {Key Row Scope Work Answer Call E α : Type} [DecidableEq Key]
  (policy : Scope → Key → Bool)
  (code : Call → Program (Statement Key Row Scope Work) (Reply Answer) E α)

abbrev World.next : World Key Row Scope Work Answer Call E α → Event Call Answer →
    Option (World Key Row Scope Work Answer Call E α) :=
  Pool.step (engine policy) code

def World.begin (committed : Key → Option Row) : World Key Row Scope Work Answer Call E α :=
  Pool.start (engine policy) ⟨committed,fun _ => none,[]⟩

-- The replies a run is about: those `accepts` holds of, when the step gives one.
def Accepted (accepts : Call → (s : Statement Key Row Scope Work) → Reply Answer s → Prop)
    (w : World Key Row Scope Work Answer Call E α) (e : Event Call Answer) : Prop :=
  ∀ t answer call stmt next reply sh sc, e = .advance t answer →
    (w.session t).current = some (call,.call stmt next) →
    exec policy ⟨t,(w.session t).outcomes.length,call⟩ stmt answer w.shared (w.session t).scratch =
      some (reply,sh,sc) → accepts call stmt reply

structure Verified (rule : Call → Act Key Row Work → Prop)
    (accepts : Call → (s : Statement Key Row Scope Work) → Reply Answer s → Prop)
    (post : Call → Except E α → Situation Key Row Scope Work → Prop)
    (kept : Call → Except E α → List (Act Key Row Work) → Prop) : Prop where
  meets : ∀ call scope known,
    (code call).wp (spec policy (rule call) (accepts call)) ⟨scope,known,[]⟩ (post call)
  promise : ∀ call r st, post call r st → kept call r st.made

variable {policy code} {rule : Call → Act Key Row Work → Prop}
  {accepts : Call → (s : Statement Key Row Scope Work) → Reply Answer s → Prop}
  {post : Call → Except E α → Situation Key Row Scope Work → Prop}
  {kept : Call → Except E α → List (Act Key Row Work) → Prop}
  {initial : Key → Option Row} {w w' : World Key Row Scope Work Answer Call E α}
  {e : Event Call Answer}

theorem idleMade (inv : Sound policy rule accepts post kept w) {t : Nat}
    (idle : (w.session t).current = none) : madeBy w t (w.session t).outcomes.length = [] := by
  have early : ∀ x ∈ entriesOf w t, x.caller.seq ≠ (w.session t).outcomes.length := by
    intro x here
    have stamp := inv.stamped t x here
    simp only [idle,Option.isSome_none,Bool.false_eq_true,and_false,or_false] at stamp
    exact Nat.ne_of_lt stamp
  have none_ : (entriesOf w t).filter (fun x => x.caller.seq = (w.session t).outcomes.length) = [] :=
    List.filter_eq_nil_iff.mpr (by simpa using early)
  simp [madeBy,none_]

inductive Move (rule : Call → Act Key Row Work → Prop)
    (accepts : Call → (s : Statement Key Row Scope Work) → Reply Answer s → Prop)
    (post : Call → Except E α → Situation Key Row Scope Work → Prop) (policy : Scope → Key → Bool)
    (w : World Key Row Scope Work Answer Call E α) : World Key Row Scope Work Answer Call E α → Prop where
  | run (t : Nat) (call : Call) (p : Program (Statement Key Row Scope Work) (Reply Answer) E α)
      (sh' : Shared Call Key Row Work) (sc' : Scratch Call Key Row Scope Work)
      (added : List (Act Key Row Work)) (active : (w.session t).status = .active)
      (change : Change (rule call) ⟨t,(w.session t).outcomes.length,call⟩ w.shared
        (w.session t).scratch sh' sc' added)
      (good : p.wp (spec policy (rule call) (accepts call)) ⟨sc'.scope,knownOf sh' sc' t,
        madeBy w t (w.session t).outcomes.length ++ added⟩ (post call)) :
      Move rule accepts post policy w
        ⟨sh',update w.session t ({w.session t with scratch := sc'}.settle call p)⟩
  | commit (t : Nat) (active : (w.session t).status = .active) (idle : (w.session t).current = none) :
      Move rule accepts post policy w ⟨commitTo t w.shared (w.session t).scratch,
        update w.session t {w.session t with scratch := blank, status := .committed}⟩
  | rollback (t : Nat) (active : (w.session t).status = .active) :
      Move rule accepts post policy w ⟨rollbackTo t w.shared (w.session t).scratch,
        update w.session t {w.session t with scratch := blank, current := none, status := .rolledBack}⟩

theorem nextMove (verified : Verified policy code rule accepts post kept)
    (inv : Sound policy rule accepts post kept w) (accepted : Accepted policy accepts w e)
    (h : World.next policy code w e = some w') : Move rule accepts post policy w w' := by
  cases Pool.stepSource h with
  | invoke t call active idle =>
    refine Move.run t call (code call) w.shared (w.session t).scratch [] active
      (.quiet (w.session t).scratch.scope) ?_
    rw [idleMade inv idle]
    exact verified.meets call _ _
  | advance t answer call stmt next reply sh' sc' active waiting done =>
    have ok := accepted t answer call stmt next reply sh' sc' rfl waiting done
    obtain ⟨added,change,good⟩ := execSound done ok (inv.running t call _ waiting)
    exact Move.run t call (next reply) sh' sc' added active change good
  | commit t active idle => exact Move.commit t active idle
  | rollback t active => exact Move.rollback t active

theorem moveConsistent (consistent : Consistent initial w)
    (move : Move rule accepts post policy w w') : Consistent initial w' := by
  cases move with
  | run t call p sh' sc' added active change good =>
    have scratch := settleScratch {w.session t with scratch := sc'} call p
    have status := Pool.settleStatus {w.session t with scratch := sc'} call p
    exact consistentChange ⟨t,_,call⟩ consistent (by rwa [scratch]) (by rw [status]; exact active)
  | commit t active idle => exact consistentCommit consistent t
  | rollback t active => exact consistentRollback consistent t

theorem moveSound (promise : ∀ call r st, post call r st → kept call r st.made)
    (consistent : Consistent initial w) (inv : Sound policy rule accepts post kept w)
    (move : Move rule accepts post policy w w') : Sound policy rule accepts post kept w' := by
  cases move with
  | run t call p sh' sc' added active change good => exact soundSettle inv active change promise good
  | commit t active idle => exact soundCommit consistent inv active idle
  | rollback t active => exact soundRollback inv active

structure Invariant (policy : Scope → Key → Bool) (rule : Call → Act Key Row Work → Prop)
    (accepts : Call → (s : Statement Key Row Scope Work) → Reply Answer s → Prop)
    (post : Call → Except E α → Situation Key Row Scope Work → Prop)
    (kept : Call → Except E α → List (Act Key Row Work) → Prop) (initial : Key → Option Row)
    (w : World Key Row Scope Work Answer Call E α) : Prop where
  consistent : Consistent initial w
  sound : Sound policy rule accepts post kept w

theorem runSound (verified : Verified policy code rule accepts post kept) {events : List (Event Call Answer)}
    (every : Runs.Every (World.next policy code) (Accepted policy accepts) (.begin policy initial) events)
    (h : Runs.run (World.next policy code) (.begin policy initial) events = some w) :
    Invariant policy rule accepts post kept initial w := by
  refine Runs.runInvariantOn (fun s e s' inv accepted step => ?_)
    ⟨consistentStart policy initial,soundStart policy rule accepts post kept initial⟩ every h
  have move := nextMove verified inv.sound accepted step
  exact ⟨moveConsistent inv.consistent move,
    moveSound verified.promise inv.consistent inv.sound move⟩

theorem endsWith (verified : Verified policy code rule accepts post kept)
    (inv : Sound policy rule accepts post kept w) (accepted : Accepted policy accepts w e)
    (h : World.next policy code w e = some w') {t : Nat} {call : Call} {r : Except E α}
    (ended : (w'.session t).outcomes = (w.session t).outcomes ++ [(call,r)]) :
    post call r ⟨(w'.session t).scratch.scope,knownOf w'.shared (w'.session t).scratch t,
      madeBy w' t (w.session t).outcomes.length⟩ := by
  have grew : (w'.session t).outcomes ≠ (w.session t).outcomes := by simp [ended]
  cases nextMove verified inv accepted h with
  | run u c p sh' sc' added active change good =>
    have mine : t = u := by
      by_contra other
      simp [other] at grew
    subst mine
    simp only [Function.update_self] at ended ⊢
    cases done : p.result with
    | none => simp [settleWaiting _ _ done] at ended
    | some r' =>
      simp only [settleDone _ _ done,List.append_cancel_left_eq,List.cons.injEq,Prod.mk.injEq,and_true]
        at ended
      obtain ⟨rfl,rfl⟩ := ended
      have made := madeChange ⟨t,(w.session t).outcomes.length,c⟩
        (show Change _ _ _ _ _ ({w.session t with scratch := sc'}.settle c p).scratch _ by
          rwa [settleScratch]) t (w.session t).outcomes.length
      simp only [and_self,if_true] at made
      rw [made,settleScratch]
      exact (Program.wpResult done).mp good
  | commit u active idle =>
    by_cases mine : t = u
    · subst mine; simp at grew
    · simp [mine] at grew
  | rollback u active =>
    by_cases mine : t = u
    · subst mine; simp at grew
    · simp [mine] at grew

theorem rolledBackNothing (inv : Invariant policy rule accepts post kept initial w) {t : Nat}
    (gone : (w.session t).status = .rolledBack) : entriesOf w t = [] := by
  have log := (inv.consistent.settled t (by simp [gone])).1
  have journal : w.shared.journal.filter (fun x => x.caller.tx = t) = [] := by
    refine List.filter_eq_nil_iff.mpr fun x here same => ?_
    have closed := inv.sound.closed x here
    simp [of_decide_eq_true same,gone] at closed
  simp [entriesOf,journal,log]

theorem committedEntry (inv : Invariant policy rule accepts post kept initial w) {t n : Nat}
    {act : Act Key Row Work} (ended : (w.session t).status = .committed) (made : act ∈ madeBy w t n) :
    ∃ x ∈ w.shared.journal, x.caller.tx = t ∧ x.caller.seq = n ∧ x.act = act := by
  have log := (inv.consistent.settled t (by simp [ended])).1
  obtain ⟨x,here,rfl⟩ := List.mem_map.mp made
  simp only [entriesOf,log,List.append_nil,List.mem_filter,decide_eq_true_eq] at here
  exact ⟨x,here.1.1,here.1.2,here.2,rfl⟩

theorem everyReply (s : World Key Row Scope Work Answer Call E α) (events : List (Event Call Answer)) :
    Runs.Every (World.next policy code) (Accepted policy (fun _ _ _ => True)) s events :=
  Runs.everyTrivial _ (fun _ _ _ _ _ _ _ _ _ _ _ _ _ => trivial) s events

end
end PgLlmBatch.Base.RowLocking
