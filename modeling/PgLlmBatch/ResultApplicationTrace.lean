import PgLlmBatch.Base.Loop
import PgLlmBatch.ResultApplication

/-! One application of a result among code that may do anything: the store and the callback
answer as they like, and whoever holds the callback's cursor may use it at any time and from
any thread. -/
namespace PgLlmBatch
open Base

-- What the callback returned: None, a coroutine, a pending future or anything else.
inductive EffectValue where | none | coroutine | future | other
  deriving DecidableEq, Repr

inductive ApplicationCall where
  | load (consumerName batchId endpointAlias : PyStr)
  | bindCursor
  | applyRecord (record : List (PyStr × Json))
  | revoke
  | closeCoroutine
  | cancelFuture
  | save (consumerName : PyStr) (checkpoint : BatchResultCheckpoint) (expectedPrevious : Option BatchResultCheckpoint)

namespace ApplicationCall

abbrev Reply : ApplicationCall → Type
  | .load _ _ _ => Except PyError StoreValue
  | .bindCursor => Unit
  | .applyRecord _ => Except PyError EffectValue
  | .revoke => Unit
  | .closeCoroutine => Except PyError Unit
  | .cancelFuture => Except PyError Unit
  | .save _ _ _ => Except PyError StoreValue

def own : ApplicationCall → Bool
  | .bindCursor => true
  | .revoke => true
  | _ => false

end ApplicationCall

abbrev ApplicationProgram := Program ApplicationCall ApplicationCall.Reply PyError
abbrev MainEvent := Loop.Event ApplicationCall ApplicationCall.Reply

def foreignStore : ResultCheckpointStore ApplicationCall ApplicationCall.Reply where
  loadInTransaction consumerName batchId endpointAlias := .call (.load consumerName batchId endpointAlias) Program.ofExcept
  saveInTransaction consumerName checkpoint expectedPrevious :=
    .call (.save consumerName checkpoint expectedPrevious) Program.ofExcept

def settleEffect : Except PyError EffectValue → ApplicationProgram EffectResult
  | .error e => .raise e
  | .ok .none => .ret .returnedNone
  | .ok .coroutine => .call .closeCoroutine (fun closed => do
      Program.ofExcept closed
      return .returnedOther)
  | .ok .future => .call .cancelFuture (fun cancelled => do
      Program.ofExcept cancelled
      return .returnedOther)
  | .ok .other => .ret .returnedOther

-- The cursor is bound before the callback and revoked however it ends.
def scopedEffect (callable asynchronous : Bool) : ApplyRecord ApplicationCall ApplicationCall.Reply where
  callable := callable
  asynchronous := asynchronous
  call record := .call .bindCursor (fun _ => .call (.applyRecord record) (fun result =>
    .call .revoke (fun _ => settleEffect result)))

inductive CursorMethod where | execute | executemany | fetchone | fetchmany | fetchall
  deriving DecidableEq, Repr

structure ResultApplicationCursor where
  active : Bool
  ownerThreadId : Nat
  deriving DecidableEq, Repr

namespace ResultApplicationCursor

def revoke (c : ResultApplicationCursor) : ResultApplicationCursor := {c with active := false}

def assertUsable (c : ResultApplicationCursor) (thread : Nat) : Except PyError Unit :=
  if c.active = false ∨ thread ≠ c.ownerThreadId then .error (.resultApplication "record_effect") else .ok ()

def invoke (c : ResultApplicationCursor) (thread : Nat) (method : CursorMethod) : Except PyError CursorMethod := do
  c.assertUsable thread
  return method

end ResultApplicationCursor

inductive ApplicationEvent where
  | main (e : MainEvent)
  | invoked (thread : Nat) (result : Except PyError CursorMethod)

structure Application where
  program : ApplicationProgram ResultApplicationOutcome
  cursor : Option ResultApplicationCursor
  history : List ApplicationEvent

namespace Application

def start (consumerName : PyStr) (item : CheckpointedBatchResultRecord) (callable asynchronous : Bool) : Application :=
  ⟨applyCheckpointedResultInTransaction foreignStore consumerName item (scopedEffect callable asynchronous),none,[]⟩

def cursorAfter (caller : Nat) (s : ApplicationCall) (cursor : Option ResultApplicationCursor) :
    Option ResultApplicationCursor :=
  match s with
  | .bindCursor => some ⟨true,caller⟩
  | .revoke => cursor.map ResultApplicationCursor.revoke
  | _ => cursor

def Foreign : ApplicationProgram ResultApplicationOutcome → Prop
  | .call s _ => s.own = false
  | _ => True

inductive Step (caller : Nat) : Application → Application → Prop where
  | main (s : ApplicationCall) (next : s.Reply → ApplicationProgram ResultApplicationOutcome) (reply : s.Reply)
      (cursor : Option ResultApplicationCursor) (history : List ApplicationEvent) :
      Step caller ⟨.call s next,cursor,history⟩
        ⟨next reply,cursorAfter caller s cursor,history ++ [.main ⟨s,reply⟩]⟩
  | invoke (program : ApplicationProgram ResultApplicationOutcome) (cursor : ResultApplicationCursor)
      (history : List ApplicationEvent) (thread : Nat) (method : CursorMethod)
      (foreign : thread = caller → Foreign program) :
      Step caller ⟨program,some cursor,history⟩
        ⟨program,some cursor,history ++ [.invoked thread (cursor.invoke thread method)]⟩

def Reaches (caller : Nat) : Application → Application → Prop := Relation.ReflTransGen (Step caller)

end Application

namespace ApplicationTrace

def mains (history : List ApplicationEvent) : List MainEvent :=
  history.filterMap (fun | .main e => some e | .invoked _ _ => none)

def loads (events : List MainEvent) : List (Except PyError StoreValue) :=
  events.filterMap (fun | ⟨.load _ _ _,reply⟩ => some reply | _ => none)

def effects (events : List MainEvent) : List (Except PyError EffectValue) :=
  events.filterMap (fun | ⟨.applyRecord _,reply⟩ => some reply | _ => none)

def saves (events : List MainEvent) : List (Except PyError StoreValue) :=
  events.filterMap (fun | ⟨.save _ _ _,reply⟩ => some reply | _ => none)

def bound (events : List MainEvent) : Bool :=
  events.foldl (fun live e => match e with
    | ⟨.bindCursor,_⟩ => true
    | ⟨.revoke,_⟩ => false
    | _ => live) false

def storeValue (previous : Option BatchResultCheckpoint) : StoreValue := previous.elim .absent .checkpoint

def Licenses (candidate previous : BatchResultCheckpoint) : Prop :=
  sameFile previous candidate = true ∧ previous.recordCount < candidate.recordCount ∧
    previous.batchLineCount < candidate.batchLineCount

-- What each step of the application needs of the steps before it.
def allowed (item : CheckpointedBatchResultRecord) (s : ApplicationCall) (before : List MainEvent) : Prop :=
  match s with
  | .load _ _ _ => loads before = [] ∧ effects before = [] ∧ saves before = []
  | .applyRecord _ => effects before = [] ∧ saves before = [] ∧ ∃ previous,
      loads before = [.ok (storeValue previous)] ∧ ∀ c ∈ previous, Licenses item.checkpoint c
  | .save _ checkpoint expectedPrevious => effects before = [.ok .none] ∧ saves before = [] ∧
      loads before = [.ok (storeValue expectedPrevious)] ∧ checkpoint = item.checkpoint
  | _ => True

def Quiet (events : List MainEvent) : Prop := bound events = true → effects events = []

-- The same, and foreign code finds a live cursor only until the callback has ended.
def permitted (item : CheckpointedBatchResultRecord) (s : ApplicationCall) (before : List MainEvent) : Prop :=
  allowed item s before ∧ (s.own = false → Quiet before)

def joined (events : List MainEvent) (e : MainEvent) : List MainEvent := events ++ [e]

abbrev tracing (item : CheckpointedBatchResultRecord) : Program.Spec ApplicationCall ApplicationCall.Reply (List MainEvent) :=
  Loop.watching (permitted item) joined

structure Ended (item : CheckpointedBatchResultRecord) (out : Except PyError ResultApplicationOutcome)
    (events : List MainEvent) : Prop where
  quiet : Quiet events
  confirmed : ∀ outcome, out = .ok outcome → outcome.applied = true →
    outcome.checkpoint = item.checkpoint ∧ saves events = [.ok (.checkpoint item.checkpoint)]

variable {item : CheckpointedBatchResultRecord}

theorem failedEnded {e : PyError} {events : List MainEvent} (quiet : bound events = false) :
    Ended item (.error e) events :=
  ⟨fun live => absurd (quiet.symm.trans live) Bool.false_ne_true,fun _ h => nomatch h⟩

theorem boundJoined (events : List MainEvent) (e : MainEvent) : bound (events ++ [e]) = match e with
    | ⟨.bindCursor,_⟩ => true
    | ⟨.revoke,_⟩ => false
    | _ => bound events := by
  rw [bound,List.foldl_append]
  rfl

theorem loadsJoined (events : List MainEvent) (e : MainEvent) : loads (joined events e) = loads events ++ match e with
    | ⟨.load _ _ _,reply⟩ => [reply]
    | _ => [] := by
  rw [loads,joined,List.filterMap_append]
  obtain ⟨s,reply⟩ := e
  cases s <;> rfl

theorem effectsJoined (events : List MainEvent) (e : MainEvent) :
    effects (joined events e) = effects events ++ match e with
      | ⟨.applyRecord _,reply⟩ => [reply]
      | _ => [] := by
  rw [effects,joined,List.filterMap_append]
  obtain ⟨s,reply⟩ := e
  cases s <;> rfl

theorem savesJoined (events : List MainEvent) (e : MainEvent) : saves (joined events e) = saves events ++ match e with
    | ⟨.save _ _ _,reply⟩ => [reply]
    | _ => [] := by
  rw [saves,joined,List.filterMap_append]
  obtain ⟨s,reply⟩ := e
  cases s <;> rfl

theorem deadQuiet {events : List MainEvent} (dead : bound events = false) : Quiet events :=
  fun live => absurd (dead.symm.trans live) Bool.false_ne_true

theorem phaseEnded {α : Type} {keep : PyError → Bool} {phase : String} {e : PyError} {events : List MainEvent}
    {f : α → ApplicationProgram ResultApplicationOutcome} (dead : bound events = false) :
    ((if keep e then throw e else throw (.resultApplication phase) : ApplicationProgram α) >>= f).wp
      (tracing item) events (Ended item) := by
  split
  · exact failedEnded dead
  · exact failedEnded dead

theorem savedEnded {consumerName : PyStr} {previous : Option BatchResultCheckpoint} {events : List MainEvent}
    (effect : effects events = [.ok .none]) (unsaved : saves events = [])
    (loaded : loads events = [.ok (storeValue previous)]) (dead : bound events = false) :
    (inPhase keepConflict "checkpoint_save" (foreignStore.saveInTransaction consumerName item.checkpoint previous) >>=
      fun saved => if saved = .checkpoint item.checkpoint then pure ⟨true,item.checkpoint⟩
        else throw (.resultApplication "checkpoint_save")).wp (tracing item) events (Ended item) := by
  refine ⟨⟨⟨effect,unsaved,loaded,rfl⟩,fun _ => deadQuiet dead⟩,fun reply => ?_⟩
  have still : bound (joined events ⟨.save consumerName item.checkpoint previous,reply⟩) = false :=
    (boundJoined events _).trans dead
  cases reply with
  | error e => exact phaseEnded still
  | ok saved =>
    have confirmation : saves (joined events ⟨.save consumerName item.checkpoint previous,.ok saved⟩) = [.ok saved] :=
      (savesJoined events _).trans (congrArg (· ++ [Except.ok saved]) unsaved)
    change Program.wp _ (if saved = .checkpoint item.checkpoint then _ else _) _ _
    split
    · rename_i same
      refine ⟨deadQuiet still,fun outcome h _ => ?_⟩
      cases h
      exact ⟨rfl,confirmation.trans (by rw [same])⟩
    · exact failedEnded still

theorem freshEnded {consumerName : PyStr} {callable asynchronous : Bool} {previous : Option BatchResultCheckpoint}
    {events : List MainEvent} (uneffected : effects events = []) (unsaved : saves events = [])
    (loaded : loads events = [.ok (storeValue previous)]) (licensed : ∀ c ∈ previous, Licenses item.checkpoint c) :
    (applyFreshResult foreignStore consumerName item (scopedEffect callable asynchronous) previous).wp (tracing item)
      events (Ended item) := by
  refine ⟨⟨trivial,fun foreign => absurd foreign (by decide)⟩,fun _ => ?_⟩
  let started := joined events ⟨.bindCursor,()⟩
  have effectsStarted : effects started = [] := (effectsJoined events _).trans (congrArg (· ++ []) uneffected)
  have savesStarted : saves started = [] := (savesJoined events _).trans (congrArg (· ++ []) unsaved)
  have loadsStarted : loads started = [.ok (storeValue previous)] :=
    (loadsJoined events _).trans (congrArg (· ++ []) loaded)
  refine ⟨⟨⟨effectsStarted,savesStarted,previous,loadsStarted,licensed⟩,fun _ _ => effectsStarted⟩,fun result => ?_⟩
  refine ⟨⟨trivial,fun foreign => absurd foreign (by decide)⟩,fun _ => ?_⟩
  let answered := joined started ⟨.applyRecord item.record,result⟩
  let ended := joined answered ⟨.revoke,()⟩
  have dead : bound ended = false := boundJoined _ _
  have effectsEnded : effects ended = [result] :=
    (effectsJoined answered _).trans ((List.append_nil _).trans
      ((effectsJoined started _).trans (congrArg (· ++ [result]) effectsStarted)))
  have savesEnded : saves ended = [] :=
    (savesJoined answered _).trans ((List.append_nil _).trans
      ((savesJoined started _).trans (congrArg (· ++ []) savesStarted)))
  have loadsEnded : loads ended = [.ok (storeValue previous)] :=
    (loadsJoined answered _).trans ((List.append_nil _).trans
      ((loadsJoined started _).trans (congrArg (· ++ []) loadsStarted)))
  -- The result is settled under the same translation as the call, after the revocation.
  cases result with
  | error e => exact phaseEnded dead
  | ok value =>
    cases value with
    | none => exact savedEnded effectsEnded savesEnded loadsEnded dead
    | other => exact failedEnded dead
    | coroutine =>
      refine ⟨⟨trivial,fun _ => deadQuiet dead⟩,fun closed => ?_⟩
      have still : bound (joined ended ⟨.closeCoroutine,closed⟩) = false := (boundJoined ended _).trans dead
      cases closed with
      | error e => exact phaseEnded still
      | ok done => exact failedEnded still
    | future =>
      refine ⟨⟨trivial,fun _ => deadQuiet dead⟩,fun cancelled => ?_⟩
      have still : bound (joined ended ⟨.cancelFuture,cancelled⟩) = false := (boundJoined ended _).trans dead
      cases cancelled with
      | error e => exact phaseEnded still
      | ok done => exact failedEnded still

theorem programEnded (consumerName : PyStr) (item : CheckpointedBatchResultRecord) (callable asynchronous : Bool) :
    (applyCheckpointedResultInTransaction foreignStore consumerName item (scopedEffect callable asynchronous)).wp
      (tracing item) [] (Ended item) := by
  have dead : bound [] = false := rfl
  refine Program.wpOfExcept _ _ _ _ _ (fun candidate checked => ?_) (fun e _ => failedEnded dead)
  cases validatedItem checked
  refine ⟨⟨⟨rfl,rfl,rfl⟩,fun _ => deadQuiet dead⟩,fun reply => ?_⟩
  cases reply with
  | error e => exact phaseEnded dead
  | ok value =>
    cases value with
    | absent => exact freshEnded rfl rfl rfl (fun _ none_ => nomatch none_)
    | other => exact failedEnded dead
    | checkpoint previous =>
      change (applyAfter foreignStore consumerName item (scopedEffect callable asynchronous) previous).wp _ _ _
      unfold applyAfter
      split
      · exact failedEnded dead
      rename_i sameIdentity
      split
      · exact ⟨deadQuiet dead,fun outcome h applied => by cases h; cases applied⟩
      split
      · exact failedEnded dead
      · rename_i further
        refine freshEnded rfl rfl rfl (fun c same => ?_)
        cases Option.some.inj same
        exact ⟨by simpa using sameIdentity,by omega,by omega⟩

theorem splitJoined {α : Type} {xs before after : List α} {x y : α} (h : xs ++ [x] = before ++ y :: after) :
    (before = xs ∧ y = x) ∨ ∃ rest, xs = before ++ y :: rest := by
  rcases List.eq_nil_or_concat after with rfl | ⟨rest,z,rfl⟩
  · obtain ⟨same,last⟩ := List.append_inj' h rfl
    exact .inl ⟨same.symm,(List.singleton_inj.mp last).symm⟩
  · rw [List.concat_eq_append,← List.cons_append,← List.append_assoc] at h
    exact .inr ⟨rest,(List.append_inj' h rfl).1⟩

def Reached (history before : List ApplicationEvent) (thread : Nat) : Prop :=
  ∃ method after, history = before ++ .invoked thread (.ok method) :: after

structure Inv (caller : Nat) (item : CheckpointedBatchResultRecord) (state : Application) : Prop where
  granted : ∀ before e after, mains state.history = before ++ e :: after → permitted item e.statement before
  ahead : state.program.wp (tracing item) (mains state.history) (Ended item)
  cursor : ∀ c ∈ state.cursor, c.ownerThreadId = caller ∧ (c.active = true → bound (mains state.history) = true)
  contained : ∀ before thread, Reached state.history before thread →
    thread = caller ∧ bound (mains before) = true ∧ effects (mains before) = []

theorem mainsJoined (history : List ApplicationEvent) (e : MainEvent) :
    mains (history ++ [.main e]) = joined (mains history) e := by
  rw [mains,List.filterMap_append]
  rfl

theorem mainsInvoked (history : List ApplicationEvent) (thread : Nat) (result : Except PyError CursorMethod) :
    mains (history ++ [.invoked thread result]) = mains history := by
  rw [mains,List.filterMap_append]
  exact List.append_nil _

theorem reachedUsable {c : ResultApplicationCursor} {thread : Nat} {method method' : CursorMethod}
    (h : c.invoke thread method = .ok method') : c.active = true ∧ thread = c.ownerThreadId := by
  unfold ResultApplicationCursor.invoke ResultApplicationCursor.assertUsable at h
  split at h
  · cases h
  · rename_i usable
    rw [not_or,not_not] at usable
    exact ⟨by simpa using usable.1,usable.2⟩

theorem mainKept {caller : Nat} {s : ApplicationCall} {next : s.Reply → ApplicationProgram ResultApplicationOutcome}
    {cursor : Option ResultApplicationCursor} {history : List ApplicationEvent}
    (inv : Inv caller item ⟨.call s next,cursor,history⟩) (reply : s.Reply) :
    Inv caller item ⟨next reply,Application.cursorAfter caller s cursor,history ++ [.main ⟨s,reply⟩]⟩ where
  granted before e after h := by
    rw [mainsJoined] at h
    rcases splitJoined h with ⟨rfl,rfl⟩ | ⟨rest,earlier⟩
    · exact inv.ahead.1
    · exact inv.granted before e rest earlier
  ahead := by
    rw [mainsJoined]
    exact inv.ahead.2 reply
  cursor c here := by
    rw [mainsJoined,joined,boundJoined]
    cases s with
    | bindCursor =>
      cases Option.some.inj here
      exact ⟨rfl,fun _ => rfl⟩
    | revoke =>
      obtain ⟨old,was,rfl⟩ := Option.map_eq_some_iff.mp here
      exact ⟨(inv.cursor old was).1,fun live => nomatch live⟩
    | _ => exact inv.cursor c here
  contained before thread reached := by
    obtain ⟨method,after,h⟩ := reached
    rcases splitJoined h with ⟨-,other⟩ | ⟨rest,earlier⟩
    · cases other
    · exact inv.contained before thread ⟨method,rest,earlier⟩

theorem invokeKept {caller : Nat} {program : ApplicationProgram ResultApplicationOutcome}
    {cursor : ResultApplicationCursor} {history : List ApplicationEvent} {thread : Nat} {method : CursorMethod}
    (inv : Inv caller item ⟨program,some cursor,history⟩) (foreign : thread = caller → Application.Foreign program) :
    Inv caller item ⟨program,some cursor,history ++ [.invoked thread (cursor.invoke thread method)]⟩ where
  granted before e after h := inv.granted before e after (by rwa [mainsInvoked] at h)
  ahead := by
    rw [mainsInvoked]
    exact inv.ahead
  cursor c here := by
    rw [mainsInvoked]
    exact inv.cursor c here
  contained before thread' reached := by
    obtain ⟨method',after,h⟩ := reached
    rcases splitJoined h with ⟨rfl,last⟩ | ⟨rest,earlier⟩
    · injection last with same answered
      subst same
      obtain ⟨active,owner⟩ := reachedUsable answered.symm
      obtain ⟨owned,live⟩ := inv.cursor cursor rfl
      have mine : thread' = caller := owner.trans owned
      have quiet : Quiet (mains before) := by
        have outside := foreign mine
        have ahead := inv.ahead
        cases program with
        | ret outcome => exact ahead.quiet
        | raise e => exact ahead.quiet
        | call s next => exact ahead.1.2 outside
      exact ⟨mine,live active,quiet (live active)⟩
    · exact inv.contained before thread' ⟨method',rest,earlier⟩

theorem stepKept {caller : Nat} {state state' : Application} (step : Application.Step caller state state')
    (inv : Inv caller item state) : Inv caller item state' := by
  cases step with
  | main s next reply cursor history => exact mainKept inv reply
  | invoke program cursor history thread method foreign => exact invokeKept inv foreign

theorem startKept (caller : Nat) (consumerName : PyStr) (callable asynchronous : Bool) :
    Inv caller item (Application.start consumerName item callable asynchronous) where
  granted before e after h := by
    rcases before with _ | ⟨_,_⟩
    · cases h
    · cases h
  ahead := programEnded consumerName item callable asynchronous
  cursor _ here := nomatch here
  contained before thread reached := by
    obtain ⟨method,after,h⟩ := reached
    rcases before with _ | ⟨_,_⟩
    · cases h
    · cases h

theorem runKept {caller : Nat} {consumerName : PyStr} {callable asynchronous : Bool} {state : Application}
    (run : Application.Reaches caller (Application.start consumerName item callable asynchronous) state) :
    Inv caller item state := by
  induction run with
  | refl => exact startKept caller consumerName callable asynchronous
  | tail _ step ih => exact stepKept step ih

theorem effectsAtMostOnce {events : List MainEvent}
    (granted : ∀ before e after, events = before ++ e :: after → permitted item e.statement before) :
    (effects events).length ≤ 1 := by
  induction events using List.reverseRecOn with
  | nil => exact Nat.zero_le 1
  | append_singleton events e ih =>
    have earlier := ih (fun before e' after h => granted before e' (after ++ [e]) (by simp [h]))
    have own := granted events e [] rfl
    have joint := effectsJoined events e
    obtain ⟨s,reply⟩ := e
    cases s with
    | applyRecord record =>
      rw [own.1.1] at joint
      exact le_of_eq (congrArg List.length joint)
    | _ => exact (congrArg List.length (joint.trans (List.append_nil _))).trans_le earlier

theorem savesAtMostOnce {events : List MainEvent}
    (granted : ∀ before e after, events = before ++ e :: after → permitted item e.statement before) :
    (saves events).length ≤ 1 := by
  induction events using List.reverseRecOn with
  | nil => exact Nat.zero_le 1
  | append_singleton events e ih =>
    have earlier := ih (fun before e' after h => granted before e' (after ++ [e]) (by simp [h]))
    have own := granted events e [] rfl
    have joint := savesJoined events e
    obtain ⟨s,reply⟩ := e
    cases s with
    | save consumerName checkpoint expectedPrevious =>
      rw [own.1.2.1] at joint
      exact le_of_eq (congrArg List.length joint)
    | _ => exact (congrArg List.length (joint.trans (List.append_nil _))).trans_le earlier

def Issued (state : Application) (before : List MainEvent) (s : ApplicationCall) : Prop :=
  (∃ reply after, mains state.history = before ++ ⟨s,reply⟩ :: after) ∨
    (before = mains state.history ∧ ∃ next, state.program = .call s next)

theorem issuedAllowed {caller : Nat} {state : Application} {before : List MainEvent} {s : ApplicationCall}
    (inv : Inv caller item state) (issued : Issued state before s) : allowed item s before := by
  rcases issued with ⟨reply,after,h⟩ | ⟨rfl,next,pending⟩
  · exact (inv.granted before _ after h).1
  · have ahead := inv.ahead
    rw [pending] at ahead
    exact ahead.1.1

structure Safe (caller : Nat) (item : CheckpointedBatchResultRecord) (state : Application) : Prop where
  callbackOnce : (effects (mains state.history)).length ≤ 1
  callbackLicensed : ∀ before record, Issued state before (.applyRecord record) → effects before = [] ∧
    ∃ previous, loads before = [.ok (storeValue previous)] ∧ ∀ c ∈ previous, Licenses item.checkpoint c
  saveOnce : (saves (mains state.history)).length ≤ 1
  saveAfter : ∀ before consumerName checkpoint expectedPrevious,
    Issued state before (.save consumerName checkpoint expectedPrevious) → saves before = [] ∧
      checkpoint = item.checkpoint ∧ effects before = [.ok .none] ∧ loads before = [.ok (storeValue expectedPrevious)]
  applied : ∀ outcome, state.program = .ret outcome → outcome.applied = true →
    outcome.checkpoint = item.checkpoint ∧ saves (mains state.history) = [.ok (.checkpoint item.checkpoint)]
  contained : ∀ before thread, Reached state.history before thread →
    thread = caller ∧ bound (mains before) = true ∧ effects (mains before) = []

end ApplicationTrace

theorem applicationTraceSafe {caller : Nat} {consumerName : PyStr} {item : CheckpointedBatchResultRecord}
    {callable asynchronous : Bool} {state : Application}
    (run : Application.Reaches caller (Application.start consumerName item callable asynchronous) state) :
    ApplicationTrace.Safe caller item state := by
  have inv := ApplicationTrace.runKept run
  refine ⟨ApplicationTrace.effectsAtMostOnce inv.granted,fun before record issued => ?_,
    ApplicationTrace.savesAtMostOnce inv.granted,fun before consumerName checkpoint expectedPrevious issued => ?_,
    fun outcome ended applied => ?_,inv.contained⟩
  · obtain ⟨fresh,-,licensed⟩ := ApplicationTrace.issuedAllowed inv issued
    exact ⟨fresh,licensed⟩
  · obtain ⟨effect,unsaved,loaded,same⟩ := ApplicationTrace.issuedAllowed inv issued
    exact ⟨unsaved,same,effect,loaded⟩
  · have ahead := inv.ahead
    rw [ended] at ahead
    exact ahead.confirmed outcome rfl applied

namespace Application

def answered (caller : Nat) (answer : (s : ApplicationCall) → s.Reply) : Application → Application
  | ⟨.call s next,cursor,history⟩ =>
      ⟨next (answer s),cursorAfter caller s cursor,history ++ [.main ⟨s,answer s⟩]⟩
  | state => state

def used (thread : Nat) (method : CursorMethod) : Application → Application
  | ⟨program,some cursor,history⟩ =>
      ⟨program,some cursor,history ++ [.invoked thread (cursor.invoke thread method)]⟩
  | state => state

theorem answeredReaches (caller : Nat) (answer : (s : ApplicationCall) → s.Reply) (state : Application) :
    Reaches caller state (state.answered caller answer) := by
  obtain ⟨program,cursor,history⟩ := state
  cases program with
  | call s next => exact .single (.main s next (answer s) cursor history)
  | _ => exact .refl

theorem usedReaches {caller thread : Nat} (method : CursorMethod) {state : Application}
    (foreign : thread = caller → Foreign state.program) : Reaches caller state (state.used thread method) := by
  obtain ⟨program,cursor,history⟩ := state
  cases cursor with
  | none => exact .refl
  | some cursor => exact .single (.invoke program cursor history thread method foreign)

end Application

def freshItem : CheckpointedBatchResultRecord :=
  ⟨firstCheckpoint.batchId,firstCheckpoint.fileKind,[(py "custom_id",.str (py "request-1"))],firstCheckpoint⟩

def confirmingStore : (s : ApplicationCall) → s.Reply
  | .load _ _ _ => .ok .absent
  | .bindCursor => ()
  | .applyRecord _ => .ok .none
  | .revoke => ()
  | .closeCoroutine => .ok ()
  | .cancelFuture => .ok ()
  | .save _ checkpoint _ => .ok (.checkpoint checkpoint)

def recordOffered : Application := Application.start (py "worker") freshItem true false

def insideCallback : Application := (recordOffered.answered 1 confirmingStore).answered 1 confirmingStore

def callbackEnded : Application :=
  ((insideCallback.used 1 .execute).answered 1 confirmingStore).answered 1 confirmingStore

def savedAfterward : Application := ((callbackEnded.used 2 .fetchone).used 1 .fetchone).answered 1 confirmingStore

theorem insideReaches : Application.Reaches 1 recordOffered insideCallback :=
  (Application.answeredReaches 1 confirmingStore recordOffered).trans (Application.answeredReaches 1 confirmingStore _)

theorem endedReaches : Application.Reaches 1 insideCallback callbackEnded := by
  have used : Application.Reaches 1 insideCallback (insideCallback.used 1 .execute) :=
    Application.usedReaches .execute (fun _ => (rfl : (ApplicationCall.applyRecord _).own = false))
  exact (used.trans (Application.answeredReaches 1 confirmingStore _)).trans
    (Application.answeredReaches 1 confirmingStore _)

theorem savedReaches : Application.Reaches 1 callbackEnded savedAfterward := by
  have elsewhere : Application.Reaches 1 callbackEnded (callbackEnded.used 2 .fetchone) :=
    Application.usedReaches .fetchone (fun other => absurd other (by decide))
  have late : Application.Reaches 1 (callbackEnded.used 2 .fetchone) ((callbackEnded.used 2 .fetchone).used 1 .fetchone) :=
    Application.usedReaches .fetchone (fun _ => (rfl : (ApplicationCall.save _ _ _).own = false))
  exact (elsewhere.trans late).trans (Application.answeredReaches 1 confirmingStore _)

theorem savedAfterwardSafe : ApplicationTrace.Safe 1 freshItem savedAfterward ∧
    savedAfterward.program.result = some (.ok ⟨true,firstCheckpoint⟩) :=
  ⟨applicationTraceSafe ((insideReaches.trans endedReaches).trans savedReaches),rfl⟩

end PgLlmBatch
