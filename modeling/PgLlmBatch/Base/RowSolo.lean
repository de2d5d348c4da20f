import PgLlmBatch.Base.RowLogic
import PgLlmBatch.Base.Noninterference

/-! One transaction at a time over a row-locking table, seen from the scope it binds: it reads
and writes rows of that scope only, whatever scope its connection carried before. -/
namespace PgLlmBatch.Base.RowLocking
open Pool (Caller)
open Noninterference (Confined Agree)

section
variable {Key Row Scope Work Answer E α : Type} [DecidableEq Key] (policy : Scope → Key → Bool) (answer : Answer)

abbrev Solo (Key Row Scope Work : Type) := Shared Unit Key Row Work × Scratch Unit Key Row Scope Work

def soloCaller : Caller Unit := ⟨0,0,()⟩

def soloExec (s : Statement Key Row Scope Work) (st : Solo Key Row Scope Work) :
    Option (Reply Answer s × Solo Key Row Scope Work) :=
  (exec policy soloCaller s answer st.1 st.2).map (fun r => (r.1,(r.2.1,r.2.2)))

def soloStart (bound : Option Scope) (rows : Key → Option Row) : Solo Key Row Scope Work :=
  (⟨rows,fun _ => none,[]⟩,⟨bound,fun _ => none,[]⟩)

-- Commits when the program returns and rolls back when it raises; `refused` is the error of a
-- statement that the row policy does not admit.
def solo (refused : E) (bound : Option Scope) (p : Program (Statement Key Row Scope Work) (Reply Answer) E α)
    (rows : Key → Option Row) : Except E α × (Key → Option Row) :=
  match p.alone (soloExec policy answer) (soloStart bound rows) with
  | some (.ok a,st) => (.ok a,view st.1 st.2)
  | some (.error e,_) => (.error e,rows)
  | none => (.error refused,rows)

def binding (scope : Scope) (s : Statement Key Row Scope Work) : Prop := s = .setScope scope
def using_ (s : Statement Key Row Scope Work) : Prop := ∀ scope, s ≠ .setScope scope

def scopeView (scope : Scope) (rows : Key → Option Row) : Key → Option Row :=
  fun k => if policy scope k then rows k else none

structure Idle (st : Solo Key Row Scope Work) : Prop where
  free : ∀ k, free st.1 0 k

structure Same (scope : Scope) (bound : Bool) (st st' : Solo Key Row Scope Work) : Prop where
  rows : ∀ k, policy scope k = true → view st.1 st.2 k = view st'.1 st'.2 k
  left : Idle st
  right : Idle st'
  scopes : bound = true → st.2.scope = some scope ∧ st'.2.scope = some scope

omit [DecidableEq Key] in
variable {policy} in
theorem scopeViewSame {scope : Scope} {rows rows' : Key → Option Row} :
    scopeView policy scope rows = scopeView policy scope rows' ↔
      ∀ k, policy scope k = true → rows k = rows' k := by
  constructor
  · intro h k shown
    have here := congrFun h k
    simpa [scopeView,shown] using here
  · intro h
    funext k
    by_cases shown : policy scope k = true
    · simp [scopeView,shown,h k shown]
    · simp [scopeView,shown]

theorem viewPut (sh : Shared Unit Key Row Work) (sc : Scratch Unit Key Row Scope Work) (caller : Caller Unit)
    (w : Write Key Row) (k : Key) :
    view sh (put sc caller w) k = if k = w.key then some w.after else view sh sc k := by
  by_cases own : k = w.key
  · subst own
    simp [view,put]
  · simp [view,put,own]

theorem freeTake {sh : Shared Unit Key Row Work} (h : ∀ k, free sh 0 k) (j k : Key) : free (take sh 0 j) 0 k := by
  by_cases own : k = j
  · subst own
    exact .inr (by simp [take])
  · have other := h k
    simpa [free,take,own] using other

-- A statement of a bound transaction as a function of the rows it sees: its reply and the row
-- it writes. `none` is refused by the row policy.
def response (scope : Scope) (rows : Key → Option Row) :
    (s : Statement Key Row Scope Work) → Option (Reply Answer s × Option (Key × Row))
  | .setScope _ => some ((),none)
  | .select k => some (if policy scope k then rows k else none,none)
  | .selectForUpdate k => some (if policy scope k then rows k else none,none)
  | .insertIfAbsent k row =>
      if policy scope k then match rows k with
        | some _ => some (false,none)
        | none => some (true,some (k,row))
      else none
  | .update k row =>
      if policy scope k then match rows k with
        | none => some (0,none)
        | some _ => some (1,some (k,row))
      else some (0,none)
  | .work _ => some (answer,none)

def written (w : Option (Key × Row)) (rows : Key → Option Row) : Key → Option Row :=
  fun k => match w with
    | none => rows k
    | some (j,row) => if k = j then some row else rows k

structure Next (st st' : Solo Key Row Scope Work) (w : Option (Key × Row)) : Prop where
  idle : Idle st'
  scope : st'.2.scope = st.2.scope
  rows : ∀ k, view st'.1 st'.2 k = written w (view st.1 st.2) k

theorem nextQuiet {st : Solo Key Row Scope Work} (h : Idle st) : Next st st none := ⟨h,rfl,fun _ => rfl⟩

theorem nextWrite {st : Solo Key Row Scope Work} (h : Idle st) (w : Write Key Row) :
    Next st (take st.1 0 w.key,put st.2 soloCaller w) (some (w.key,w.after)) where
  idle := ⟨freeTake h.free w.key⟩
  scope := rfl
  rows := fun k => viewPut st.1 st.2 soloCaller w k

theorem soloResponse {scope : Scope} {s : Statement Key Row Scope Work} {st : Solo Key Row Scope Work}
    (h : Idle st) (bound : st.2.scope = some scope) (use : using_ s) :
    match response policy answer scope (view st.1 st.2) s with
    | none => soloExec policy answer s st = none
    | some (r,w) => ∃ st', soloExec policy answer s st = some (r,st') ∧ Next st st' w := by
  have open_ := h.free
  cases s with
  | setScope other => exact absurd rfl (use other)
  | select k => exact ⟨st,by simp [soloExec,exec,visible,bound],nextQuiet h⟩
  | work item => exact ⟨(st.1,perform st.2 soloCaller item),rfl,⟨⟨h.free⟩,rfl,fun _ => rfl⟩⟩
  | selectForUpdate k =>
    by_cases shown : policy scope k = true
    · cases seen : view st.1 st.2 k with
      | none => exact ⟨st,by simp [soloExec,exec,visible,bound,shown,seen],nextQuiet h⟩
      | some row =>
        refine ⟨(take st.1 0 k,st.2),?_,⟨freeTake open_ k⟩,rfl,fun _ => rfl⟩
        simp [soloExec,exec,visible,bound,shown,seen,soloCaller,open_]
    · exact ⟨st,by simp [soloExec,exec,visible,bound,shown],nextQuiet h⟩
  | insertIfAbsent k row =>
    by_cases shown : policy scope k = true
    · cases seen : view st.1 st.2 k with
      | none =>
        simp only [response,shown,seen,if_true]
        refine ⟨_,?_,nextWrite h ⟨k,none,row⟩⟩
        simp [soloExec,exec,visible,bound,shown,seen,soloCaller,open_]
      | some old =>
        simp only [response,shown,seen,if_true]
        exact ⟨st,by simp [soloExec,exec,visible,bound,shown,seen,soloCaller,open_],nextQuiet h⟩
    · simp [response,shown,soloExec,exec,visible,bound]
  | update k row =>
    by_cases shown : policy scope k = true
    · cases seen : view st.1 st.2 k with
      | none =>
        simp only [response,shown,seen,if_true]
        exact ⟨st,by simp [soloExec,exec,visible,bound,shown,seen],nextQuiet h⟩
      | some old =>
        simp only [response,shown,seen,if_true]
        refine ⟨_,?_,nextWrite h ⟨k,some old,row⟩⟩
        simp [soloExec,exec,visible,bound,shown,seen,soloCaller,open_]
    · simp only [response,shown,Bool.false_eq_true,if_false]
      exact ⟨st,by simp [soloExec,exec,visible,bound,shown],nextQuiet h⟩

variable {policy}

omit [DecidableEq Key] in
theorem responseSame {scope : Scope} {rows rows' : Key → Option Row} (s : Statement Key Row Scope Work)
    (same : ∀ k, policy scope k = true → rows k = rows' k) :
    response policy answer scope rows s = response policy answer scope rows' s := by
  cases s <;> simp only [response] <;> split <;> simp_all

omit [DecidableEq Key] in
theorem responseOwn {scope : Scope} {rows : Key → Option Row} {s : Statement Key Row Scope Work}
    {r : Reply Answer s} {k : Key} {row : Row}
    (h : response policy answer scope rows s = some (r,some (k,row))) : policy scope k = true := by
  cases s with
  | setScope other => simp [response] at h
  | select j => simp [response] at h
  | selectForUpdate j => simp [response] at h
  | work item => simp [response] at h
  | insertIfAbsent j new =>
    simp only [response] at h
    split at h <;> try contradiction
    rename_i shown
    split at h <;> simp_all
  | update j new =>
    simp only [response] at h
    split at h
    · rename_i shown
      split at h <;> simp_all
    · simp at h

theorem bindingNext {scope : Scope} {s : Statement Key Row Scope Work} {st : Solo Key Row Scope Work}
    (binds : binding scope s) (h : Idle st) : ∃ r st', soloExec policy answer s st = some (r,st') ∧
      Idle st' ∧ st'.2.scope = some scope ∧ ∀ k, view st'.1 st'.2 k = view st.1 st.2 k := by
  cases binds
  exact ⟨(),(st.1,{st.2 with scope := some scope}),rfl,⟨h.free⟩,rfl,fun _ => rfl⟩

theorem bindingAgree {scope : Scope} {s : Statement Key Row Scope Work} {b : Bool}
    {st st' : Solo Key Row Scope Work} (binds : binding scope s) (same : Same policy scope b st st') :
    Agree (Same policy scope true) (soloExec policy answer s st) (soloExec policy answer s st') := by
  cases binds
  exact ⟨rfl,same.rows,⟨same.left.free⟩,⟨same.right.free⟩,fun _ => ⟨rfl,rfl⟩⟩

theorem usingAgree {scope : Scope} {s : Statement Key Row Scope Work} {st st' : Solo Key Row Scope Work}
    (use : using_ s) (same : Same policy scope true st st') :
    Agree (Same policy scope true) (soloExec policy answer s st) (soloExec policy answer s st') := by
  obtain ⟨left,right⟩ := same.scopes rfl
  have one := soloResponse policy answer same.left left use
  have two := soloResponse policy answer same.right right use
  rw [← responseSame answer s same.rows] at two
  cases reply : response policy answer scope (view st.1 st.2) s with
  | none =>
    rw [reply] at one two
    rw [one,two]
    trivial
  | some x =>
    rw [reply] at one two
    obtain ⟨mid,ran,next⟩ := one
    obtain ⟨mid',ran',next'⟩ := two
    rw [ran,ran']
    refine ⟨rfl,fun k shown => ?_,next.idle,next'.idle,fun _ => ?_⟩
    · rw [next.rows,next'.rows]
      unfold written
      split
      · exact same.rows k shown
      · split
        · rfl
        · exact same.rows k shown
    · exact ⟨next.scope.trans left,next'.scope.trans right⟩

variable {p : Program (Statement Key Row Scope Work) (Reply Answer) E α} {scope : Scope}

omit [DecidableEq Key] in
theorem startIdle (bound : Option Scope) (rows : Key → Option Row) :
    Idle (soloStart bound rows : Solo Key Row Scope Work) := ⟨fun _ => .inl rfl⟩

theorem soloDetermined (confined : Confined (binding scope) using_ false p) (refused : E)
    (bound bound' : Option Scope) {rows rows' : Key → Option Row}
    (same : scopeView policy scope rows = scopeView policy scope rows') :
    (solo policy answer refused bound p rows).1 = (solo policy answer refused bound' p rows').1 ∧
      scopeView policy scope (solo policy answer refused bound p rows).2 =
        scopeView policy scope (solo policy answer refused bound' p rows').2 := by
  have start : Same policy scope false (soloStart bound rows : Solo Key Row Scope Work) (soloStart bound' rows') := {
    rows := scopeViewSame.mp same
    left := startIdle bound rows
    right := startIdle bound' rows'
    scopes := fun h => nomatch h}
  have agreed := Noninterference.confinedAgree (soloExec policy answer) (Same policy scope)
    (fun _ _ h => ⟨h.rows,h.left,h.right,fun h => nomatch h⟩)
    (fun _ _ _ _ => bindingAgree answer) (fun _ _ _ => usingAgree answer) confined start
  unfold solo
  obtain ⟨one,two⟩ | ⟨r,mid,mid',one,two,related⟩ := Noninterference.agreeCases agreed
  · rw [one,two]
    exact ⟨rfl,same⟩
  · rw [one,two]
    cases r with
    | ok a => exact ⟨rfl,scopeViewSame.mpr related.rows⟩
    | error e => exact ⟨rfl,same⟩

theorem soloIsolated (confined : Confined (binding scope) using_ false p) (refused : E) (bound : Option Scope)
    (rows : Key → Option Row) {k : Key} (hidden : policy scope k = false) :
    (solo policy answer refused bound p rows).2 k = rows k := by
  have kept : ∀ r st, p.alone (soloExec policy answer) (soloStart bound rows) = some (r,st) →
      view st.1 st.2 k = rows k := by
    intro r st done
    have ended := Noninterference.confinedKeeps (soloExec policy answer)
      (fun b (st : Solo Key Row Scope Work) => view st.1 st.2 k = rows k ∧ Idle st ∧
        (b = true → st.2.scope = some scope))
      (fun _ h => ⟨h.1,h.2.1,fun h => nomatch h⟩)
      (fun s b st r st' binds inv done => by
        obtain ⟨r',mid,ran,idle,bound,same⟩ := bindingNext answer binds inv.2.1
        rw [ran] at done
        cases Option.some.inj done
        exact ⟨(same k).trans inv.1,idle,fun _ => bound⟩)
      (fun s st r st' use inv done => by
        have answered := soloResponse policy answer inv.2.1 (inv.2.2 rfl) use
        cases reply : response policy answer scope (view st.1 st.2) s with
        | none =>
          rw [reply] at answered
          rw [answered] at done
          cases done
        | some x =>
          obtain ⟨r',w⟩ := x
          rw [reply] at answered
          obtain ⟨mid,ran,next⟩ := answered
          rw [ran] at done
          cases Option.some.inj done
          refine ⟨?_,next.idle,fun _ => next.scope.trans (inv.2.2 rfl)⟩
          rw [next.rows]
          unfold written
          split
          · exact inv.1
          · rename_i j row
            have own := responseOwn answer reply
            have other : k ≠ j := by
              rintro rfl
              rw [hidden] at own
              cases own
            rw [if_neg other]
            exact inv.1)
      confined ⟨rfl,startIdle bound rows,fun h => nomatch h⟩ done
    exact ended.1
  unfold solo
  cases done : p.alone (soloExec policy answer) (soloStart bound rows) with
  | none => rfl
  | some x =>
    obtain ⟨r,st⟩ := x
    cases r with
    | ok a => exact kept _ st done
    | error e => rfl

end
end PgLlmBatch.Base.RowLocking
