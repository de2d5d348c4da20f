import PgLlmBatch.SingleFlight
import PgLlmBatch.Base.Runs

/-! Any number of database sessions, each in one single-flight context at most, whose statements,
bodies and endings interleave in any order. -/
namespace PgLlmBatch
open Base
open Function (update)

inductive Told where
  | plainly
  | obscured (performed : Bool) (reply : Except FlightError FetchedRow)

def tellsBoolean : Except FlightError FetchedRow → Bool
  | .ok (.sequence [.bool _]) => true
  | _ => false

inductive FlightEvent (ι : Type) where
  | enter (i : ι) (call : FlightCall)
  | answer (i : ι) (told : Told)
  | leave (i : ι) (outcome : Except FlightError Unit)
  | disconnect (i : ι)

def FlightEvent.session {ι : Type} : FlightEvent ι → ι
  | .enter i _ | .answer i _ | .leave i _ | .disconnect i => i

structure FlightWorld (ι : Type) where
  locks : AdvisoryLocks ι Int
  connected : ι → Bool
  running : ι → Option (FlightCall × FlightProgram Unit)

namespace FlightWorld
variable {ι : Type}

def start : FlightWorld ι := ⟨.free,fun _ => true,fun _ => none⟩

def Inside (w : FlightWorld ι) (i : ι) (call : FlightCall) (acquired : Bool) : Prop :=
  ∃ next, w.running i = some (call,.call (.body acquired) next)

def settle (call : FlightCall) (p : FlightProgram Unit) : Option (FlightCall × FlightProgram Unit) :=
  match p.result with
  | some _ => none
  | none => some (call,p)

variable [DecidableEq ι]

def performed (locks : AdvisoryLocks ι Int) (i : ι) (key : Int) : LockSql → Bool × AdvisoryLocks ι Int
  | .tryAdvisoryLock => locks.tryLock i key
  | .advisoryUnlock => locks.unlock i key

def step (w : FlightWorld ι) : FlightEvent ι → Option (FlightWorld ι)
  | .enter i call => match w.running i with
      | none => some {w with running := update w.running i (settle call (reconciliationSingleFlight call))}
      | some _ => none
  | .answer i told => match w.running i with
      | some (call,.call (.execute sql key) next) =>
          let (b,locks) := performed w.locks i key sql
          match told with
          | .plainly =>
              if w.connected i then
                some {w with locks := locks,running := update w.running i (settle call (next (.ok (.sequence [.bool b]))))}
              else none
          | .obscured done reply =>
              if tellsBoolean reply || (done && !w.connected i) then none
              else some {w with
                locks := if done then locks else w.locks
                running := update w.running i (settle call (next reply))}
      | _ => none
  | .leave i outcome => match w.running i with
      | some (call,.call (.body _) next) => some {w with running := update w.running i (settle call (next outcome))}
      | _ => none
  | .disconnect i => some {w with locks := w.locks.release i,connected := update w.connected i false}

inductive Step (w : FlightWorld ι) : FlightEvent ι → FlightWorld ι → Prop where
  | enter (i : ι) (call : FlightCall) (idle : w.running i = none) :
      Step w (.enter i call) {w with running := update w.running i (settle call (reconciliationSingleFlight call))}
  | told (i : ι) (call : FlightCall) (sql : LockSql) (key : Int) (next : Except FlightError FetchedRow → FlightProgram Unit)
      (here : w.running i = some (call,.call (.execute sql key) next)) :
      Step w (.answer i .plainly) {w with
        locks := (performed w.locks i key sql).2
        running := update w.running i (settle call (next (.ok (.sequence [.bool (performed w.locks i key sql).1]))))}
  | obscured (i : ι) (call : FlightCall) (sql : LockSql) (key : Int)
      (next : Except FlightError FetchedRow → FlightProgram Unit) (done : Bool) (reply : Except FlightError FetchedRow)
      (here : w.running i = some (call,.call (.execute sql key) next)) (untold : tellsBoolean reply = false) :
      Step w (.answer i (.obscured done reply)) {w with
        locks := if done then (performed w.locks i key sql).2 else w.locks
        running := update w.running i (settle call (next reply))}
  | leave (i : ι) (call : FlightCall) (acquired : Bool) (next : Except FlightError Unit → FlightProgram Unit)
      (outcome : Except FlightError Unit) (here : w.running i = some (call,.call (.body acquired) next)) :
      Step w (.leave i outcome) {w with running := update w.running i (settle call (next outcome))}
  | disconnect (i : ι) :
      Step w (.disconnect i) {w with locks := w.locks.release i,connected := update w.connected i false}

theorem stepSource {w w' : FlightWorld ι} {e : FlightEvent ι} (h : w.step e = some w') : w.Step e w' := by
  cases e with
  | enter i call =>
    simp only [step] at h
    split at h <;> cases h
    rename_i idle
    exact .enter i call idle
  | answer i told =>
    simp only [step] at h
    split at h <;> try contradiction
    rename_i call sql key next here
    cases told with
    | plainly =>
      simp only [] at h
      split at h <;> cases h
      exact .told i call sql key next here
    | obscured done reply =>
      simp only [] at h
      split at h <;> cases h
      rename_i allowed
      rw [Bool.or_eq_true,not_or,Bool.not_eq_true] at allowed
      exact .obscured i call sql key next done reply here allowed.1
  | leave i outcome =>
    simp only [step] at h
    split at h <;> cases h
    rename_i call acquired next here
    exact .leave i call acquired next outcome here
  | disconnect i =>
    cases h
    exact .disconnect i

end FlightWorld

inductive FlightProgress where | fresh | refused | held | ended

-- Statements use one key; only a held lock opens a True body or is given back, and a False body is the last thing.
def flightSpec (key : Int) : Program.Spec FlightStatement FlightReply FlightProgress := fun s g Q =>
  match s with
  | .execute .tryAdvisoryLock k => k = key ∧ g = .fresh ∧ (∀ reply, tellsBoolean reply = false → Q reply .ended) ∧
      Q (.ok (.sequence [.bool true])) .held ∧ Q (.ok (.sequence [.bool false])) .refused
  | .execute .advisoryUnlock k => k = key ∧ g = .held ∧ ∀ reply, Q reply .ended
  | .body true => g = .held ∧ ∀ outcome, Q outcome .held
  | .body false => g = .refused ∧ ∀ outcome, Q outcome .ended

abbrev Follows (key : Int) (g : FlightProgress) (p : FlightProgram Unit) : Prop :=
  p.wp (flightSpec key) g (fun _ _ => True)

theorem flightMono (key : Int) : Program.Monotone (flightSpec key) := by
  intro s g Q R h weaker
  match s with
  | .execute .tryAdvisoryLock k =>
    exact ⟨h.1,h.2.1,fun reply untold => weaker _ _ (h.2.2.1 reply untold),weaker _ _ h.2.2.2.1,weaker _ _ h.2.2.2.2⟩
  | .execute .advisoryUnlock k => exact ⟨h.1,h.2.1,fun reply => weaker _ _ (h.2.2 reply)⟩
  | .body true => exact ⟨h.1,fun outcome => weaker _ _ (h.2 outcome)⟩
  | .body false => exact ⟨h.1,fun outcome => weaker _ _ (h.2 outcome)⟩

theorem followsExcept {α : Type} (key : Int) (g : FlightProgress) (e : Except FlightError α) :
    (Program.ofExcept e : FlightProgram α).wp (flightSpec key) g (fun _ _ => True) := by
  cases e <;> trivial

theorem releaseWp (key : Int) : (releaseSingleFlight key).wp (flightSpec key) .held (fun _ _ => True) := by
  refine ⟨rfl,rfl,fun reply => ?_⟩
  change (Program.ofExcept (booleanResult "release" reply) >>= fun released => (if !released then
    throw (FlightError.singleFlight "release" "lock_release_not_confirmed") else pure () : FlightProgram Unit)).wp _ _ _
  refine Program.wpOfExcept _ _ _ _ _ (fun released _ => ?_) (fun _ _ => trivial)
  cases released <;> trivial

theorem heldWp (key : Int) : Follows key .held (heldContext key) := by
  refine ⟨rfl,fun outcome => ?_⟩
  change ((releaseSingleFlight key).caught >>= fun released => Program.ofExcept (ending outcome released)).wp _ _ _
  refine Program.wpBind (flightMono key) (Program.wpCaught (flightMono key) ?_)
  refine Program.wpMono (flightMono key) (releaseWp key) (fun released g _ => ?_)
  exact followsExcept key g _

theorem deferredWp (key : Int) : Follows key .refused deferredContext :=
  ⟨rfl,fun outcome => followsExcept key .ended outcome⟩

theorem untoldError {phase : String} {reply : Except FlightError FetchedRow} (untold : tellsBoolean reply = false) :
    ∃ e, booleanResult phase reply = .error e := by
  match reply with
  | .error e => exact ⟨_,rfl⟩
  | .ok .other => exact ⟨_,rfl⟩
  | .ok (.sequence []) => exact ⟨_,rfl⟩
  | .ok (.sequence [.null]) | .ok (.sequence [.int _]) | .ok (.sequence [.float _]) | .ok (.sequence [.str _])
  | .ok (.sequence [.arr _]) | .ok (.sequence [.obj _]) => exact ⟨_,rfl⟩
  | .ok (.sequence [.bool _]) => cases untold
  | .ok (.sequence (first::_::_)) => cases first <;> exact ⟨_,rfl⟩

theorem contextWp {call : FlightCall} {key : Int} (own : flightKey call = .ok key) :
    Follows key .fresh (reconciliationSingleFlight call) := by
  have started : reconciliationSingleFlight call = .call (.execute .tryAdvisoryLock key) (fun reply =>
      Program.ofExcept (booleanResult "acquire" reply) >>= fun acquired =>
        if !acquired then deferredContext else heldContext key) := by
    unfold reconciliationSingleFlight
    rw [own]
    rfl
  rw [started]
  refine ⟨rfl,rfl,fun reply untold => ?_,heldWp key,deferredWp key⟩
  obtain ⟨e,failed⟩ := @untoldError "acquire" reply untold
  change (Program.ofExcept (booleanResult "acquire" reply) >>= _).wp _ _ _
  rw [failed]
  trivial

theorem contextKey {call : FlightCall} (waits : (reconciliationSingleFlight call).result = none) :
    ∃ key, flightKey call = .ok key := by
  cases own : flightKey call with
  | ok key => exact ⟨key,rfl⟩
  | error e =>
    unfold reconciliationSingleFlight at waits
    rw [own] at waits
    cases waits

namespace FlightWorld
variable {ι : Type} [DecidableEq ι]

structure ContextGood (w : FlightWorld ι) (i : ι) (call : FlightCall) (p : FlightProgram Unit) : Prop where
  follows : ∃ key g, flightKey call = .ok key ∧ Follows key g p ∧
    (g = .held → w.connected i = true → w.locks.Holds i key)

def Good (w : FlightWorld ι) : Prop := ∀ i call p, w.running i = some (call,p) → ContextGood w i call p

theorem performedOthers {locks : AdvisoryLocks ι Int} {i j : ι} {key other : Int} {n : Nat} (sql : LockSql) (apart : j ≠ i)
    (held : locks.holder other = some (j,n)) : (performed locks i key sql).2.holder other = some (j,n) := by
  cases sql with
  | tryAdvisoryLock => exact AdvisoryLocks.lockOthers apart held
  | advisoryUnlock => exact AdvisoryLocks.unlockOthers apart held

theorem stepOthers {w w' : FlightWorld ι} {e : FlightEvent ι} (next : w.step e = some w') {j : ι} (apart : j ≠ e.session)
    {key : Int} {n : Nat} (held : w.locks.holder key = some (j,n)) : w'.locks.holder key = some (j,n) := by
  cases stepSource next with
  | enter i call idle => exact held
  | told i call sql own next here => exact performedOthers sql apart held
  | obscured i call sql own next done reply here untold =>
    cases done with
    | false => exact held
    | true => exact performedOthers sql apart held
  | leave i call acquired next outcome here => exact held
  | disconnect i => exact AdvisoryLocks.releaseOthers apart held

theorem goodUpdate {w w' : FlightWorld ι} {e : FlightEvent ι} (next : w.step e = some w') (good : w.Good)
    {call : FlightCall} {p : FlightProgram Unit} (running : w'.running = update w.running e.session (settle call p))
    (connected : w'.connected = w.connected) (own : p.result = none → ContextGood w' e.session call p) : w'.Good := by
  intro j call' p' here
  rw [running] at here
  by_cases same : j = e.session
  · subst same
    rw [Function.update_self] at here
    unfold settle at here
    split at here
    · cases here
    · rename_i waits
      cases here
      exact own waits
  · rw [Function.update_of_ne same] at here
    obtain ⟨key,g,mine,follows,holds⟩ := (good j call' p' here).follows
    refine ⟨key,g,mine,follows,fun held live => ?_⟩
    rw [connected] at live
    obtain ⟨n,there⟩ := holds held live
    exact ⟨n,stepOthers next same there⟩

theorem stepGood {w w' : FlightWorld ι} {e : FlightEvent ι} (good : w.Good) (next : w.step e = some w') : w'.Good := by
  cases stepSource next with
  | enter i call idle =>
    refine goodUpdate next good rfl rfl (fun waits => ?_)
    obtain ⟨key,own⟩ := contextKey waits
    exact ⟨key,.fresh,own,contextWp own,nofun⟩
  | told i call sql key rest here =>
    refine goodUpdate next good rfl rfl (fun _ => ?_)
    obtain ⟨own,g,mine,follows,-⟩ := (good i call _ here).follows
    cases sql with
    | advisoryUnlock =>
      obtain ⟨rfl,-,released⟩ := follows
      exact ⟨key,.ended,mine,released _,nofun⟩
    | tryAdvisoryLock =>
      obtain ⟨rfl,-,-,held,refused⟩ := follows
      cases taken : (w.locks.tryLock i key).1 with
      | true =>
        refine ⟨key,.held,mine,?_,fun _ _ => AdvisoryLocks.lockedHolds taken⟩
        rw [performed,taken]
        exact held
      | false =>
        refine ⟨key,.refused,mine,?_,nofun⟩
        rw [performed,taken]
        exact refused
  | obscured i call sql key rest done reply here untold =>
    refine goodUpdate next good rfl rfl (fun _ => ?_)
    obtain ⟨own,g,mine,follows,-⟩ := (good i call _ here).follows
    cases sql with
    | advisoryUnlock =>
      obtain ⟨rfl,-,released⟩ := follows
      exact ⟨key,.ended,mine,released reply,nofun⟩
    | tryAdvisoryLock =>
      obtain ⟨rfl,-,failed,-⟩ := follows
      exact ⟨key,.ended,mine,failed reply untold,nofun⟩
  | leave i call acquired rest outcome here =>
    refine goodUpdate next good rfl rfl (fun _ => ?_)
    obtain ⟨key,g,mine,follows,holds⟩ := (good i call _ here).follows
    cases acquired with
    | true =>
      obtain ⟨rfl,later⟩ := follows
      exact ⟨key,.held,mine,later outcome,holds⟩
    | false =>
      obtain ⟨rfl,later⟩ := follows
      exact ⟨key,.ended,mine,later outcome,nofun⟩
  | disconnect i =>
    intro j call p here
    obtain ⟨key,g,mine,follows,holds⟩ := (good j call p here).follows
    refine ⟨key,g,mine,follows,fun held live => ?_⟩
    change update w.connected i false j = true at live
    by_cases same : j = i
    · subst same
      rw [Function.update_self] at live
      cases live
    · rw [Function.update_of_ne same] at live
      obtain ⟨n,there⟩ := holds held live
      exact ⟨n,stepOthers next same there⟩

theorem reachableGood {events : List (FlightEvent ι)} {w : FlightWorld ι} (ran : Runs.run step start events = some w) :
    w.Good :=
  Runs.runInvariant (fun _ _ _ good next => stepGood good next) (fun i call p here => by cases here) ran

end FlightWorld

-- Two calls for one tenant, one remote batch and one alias, but for blanks around it.
inductive SameIdentity : FlightCall → FlightCall → Prop where
  | trimmed {tenantScope remoteBatchId left right : PyStr} (same : left.strip = right.strip) :
      SameIdentity ⟨.text tenantScope,some ⟨.text left,.text remoteBatchId⟩⟩
        ⟨.text tenantScope,some ⟨.text right,.text remoteBatchId⟩⟩

theorem trimmedAlias {left right : PyStr} (same : left.strip = right.strip) :
    (validateEndpointAlias (.str left)).toOption = (validateEndpointAlias (.str right)).toOption := by
  unfold validateEndpointAlias
  simp only [same]
  split <;> rfl

theorem trimmedIdentity {a b : FlightCall} (same : SameIdentity a b) : validatedIdentity a = validatedIdentity b := by
  obtain @⟨tenantScope,remoteBatchId,left,right,same⟩ := same
  have aliases := trimmedAlias same
  unfold validatedIdentity
  simp only [exactText,Evidence.text]
  cases validateTenantScope (.str tenantScope) with
  | error e => rfl
  | ok tenant =>
    cases first : validateEndpointAlias (.str left) with
    | error e =>
      cases second : validateEndpointAlias (.str right) with
      | error e' => rfl
      | ok r =>
        rw [first,second] at aliases
        cases aliases
    | ok l =>
      cases second : validateEndpointAlias (.str right) with
      | error e' =>
        rw [first,second] at aliases
        cases aliases
      | ok r =>
        rw [first,second] at aliases
        cases aliases
        rfl

theorem trimmedKey {a b : FlightCall} {x y : Int} (same : SameIdentity a b) (left : flightKey a = .ok x)
    (right : flightKey b = .ok y) : x = y := by
  unfold flightKey at left right
  rw [trimmedIdentity same,right] at left
  exact (Except.ok.inj left).symm

/-- No two connected sessions are in a True body for one identity, a False body is the last thing of its context,
and no event of a session takes a lock from another. -/
theorem singleFlight {ι : Type} [DecidableEq ι] {events : List (FlightEvent ι)} {w : FlightWorld ι}
    (ran : Runs.run FlightWorld.step FlightWorld.start events = some w) :
    (∀ i j a b, w.Inside i a true → w.Inside j b true → SameIdentity a b → w.connected i = true →
      w.connected j = true → i = j) ∧
    (∀ i call next, w.running i = some (call,.call (.body false) next) → ∀ outcome, (next outcome).result ≠ none) ∧
    ∀ e w', w.step e = some w' → ∀ j, j ≠ e.session → ∀ key n, w.locks.holder key = some (j,n) →
      w'.locks.holder key = some (j,n) := by
  have good := FlightWorld.reachableGood ran
  refine ⟨?_,?_,fun e w' next j apart key n held => FlightWorld.stepOthers next apart held⟩
  · rintro i j a b ⟨_,mine⟩ ⟨_,its⟩ same here there
    obtain ⟨x,g,left,⟨rfl,-⟩,holds⟩ := (good i a _ mine).follows
    obtain ⟨y,g,right,⟨rfl,-⟩,held⟩ := (good j b _ its).follows
    cases trimmedKey same left right
    exact AdvisoryLocks.exclusive (holds rfl here) (held rfl there)
  · intro i call next here outcome waits
    obtain ⟨key,g,-,⟨-,later⟩,-⟩ := (good i call _ here).follows
    have ended : Follows key .ended (next outcome) := later outcome
    cases rest : next outcome with
    | ret u => rw [rest] at waits; cases waits
    | raise e => rw [rest] at waits; cases waits
    | call s after =>
      rw [rest] at ended
      match s with
      | .execute .tryAdvisoryLock k => cases ended.2.1
      | .execute .advisoryUnlock k => cases ended.2.1
      | .body true => cases ended.1
      | .body false => cases ended.1

def sampleFlight (endpointAlias : String) : FlightCall :=
  ⟨.text (py "tenant-a"),some ⟨.text (py endpointAlias),.text (py "batch-1")⟩⟩

def callTexts (call : FlightCall) : Option (PyStr × PyStr × PyStr) :=
  match exactText call.tenantScope, call.candidate with
  | some tenantScope, some candidate =>
      match exactText candidate.endpointAlias, exactText candidate.remoteBatchId with
      | some endpointAlias, some remoteBatchId => some (tenantScope,endpointAlias,remoteBatchId)
      | _, _ => none
  | _, _ => none

theorem exactTextSource {e : Evidence} {s : PyStr} (h : exactText e = some s) : e = .text s := by
  unfold exactText at h
  split at h <;> cases h
  rfl

theorem callTextsSource {call : FlightCall} {tenantScope endpointAlias remoteBatchId : PyStr}
    (h : callTexts call = some (tenantScope,endpointAlias,remoteBatchId)) :
    call = ⟨.text tenantScope,some ⟨.text endpointAlias,.text remoteBatchId⟩⟩ := by
  obtain ⟨scope,candidate⟩ := call
  unfold callTexts at h
  split at h <;> try contradiction
  rename_i first own
  split at h <;> try contradiction
  rename_i second third
  cases h
  simp only [] at own
  have scope_ := exactTextSource first
  simp only [] at scope_
  rw [own,scope_,← exactTextSource second,← exactTextSource third]

structure ContextBody where
  endpointAlias : PyStr
  acquired : Bool
  deriving DecidableEq

def bodyOf (w : FlightWorld Bool) (i : Bool) : Option ContextBody :=
  match w.running i with
  | some (call,.call (.body acquired) _) => match callTexts call with
      | some (tenantScope,endpointAlias,remoteBatchId) =>
          if tenantScope = py "tenant-a" ∧ remoteBatchId = py "batch-1" then some ⟨endpointAlias,acquired⟩ else none
      | none => none
  | _ => none

theorem bodyInside {w : FlightWorld Bool} {i acquired : Bool} {endpointAlias : String}
    (h : bodyOf w i = some ⟨py endpointAlias,acquired⟩) : w.Inside i (sampleFlight endpointAlias) acquired := by
  unfold bodyOf at h
  split at h <;> try contradiction
  rename_i call own next here
  split at h <;> try contradiction
  rename_i texts
  split at h <;> try contradiction
  rename_i same
  obtain ⟨rfl,rfl⟩ := same
  cases h
  rw [callTextsSource texts] at here
  exact ⟨next,here⟩

theorem sampleSame : SameIdentity (sampleFlight "gateway") (sampleFlight " gateway ") := .trimmed (by decide)

def contended (between : List (FlightEvent Bool)) : Option (FlightWorld Bool) :=
  Runs.run FlightWorld.step .start ([.enter false (sampleFlight "gateway"),.answer false .plainly] ++ between ++
    [.enter true (sampleFlight " gateway "),.answer true .plainly])

def contendedBodies (between : List (FlightEvent Bool)) : Option (Option ContextBody × Option ContextBody) :=
  (contended between).map (fun w => (bodyOf w false,bodyOf w true))

theorem contendedDefers : ∃ w, contended [] = some w ∧ w.Inside false (sampleFlight "gateway") true ∧
    w.Inside true (sampleFlight " gateway ") false ∧ ∀ a, SameIdentity (sampleFlight "gateway") a → w.connected true = true →
      w.connected false = true → ¬w.Inside true a true := by
  have bodies : contendedBodies [] = some (some ⟨py "gateway",true⟩,some ⟨py " gateway ",false⟩) := by decide +kernel
  obtain ⟨w,ran,seen⟩ := Option.map_eq_some_iff.mp bodies
  obtain ⟨first,second⟩ := Prod.mk.inj seen
  exact ⟨w,ran,bodyInside first,bodyInside second,fun a same there here its =>
    absurd ((singleFlight ran).1 false true _ a (bodyInside first) its same here there) (by decide)⟩

theorem lostSessionOverlaps : ∃ w, contended [.disconnect false] = some w ∧
    w.Inside false (sampleFlight "gateway") true ∧ w.Inside true (sampleFlight " gateway ") true ∧
    SameIdentity (sampleFlight "gateway") (sampleFlight " gateway ") := by
  have bodies : contendedBodies [.disconnect false] = some (some ⟨py "gateway",true⟩,some ⟨py " gateway ",true⟩) := by decide +kernel
  obtain ⟨w,ran,seen⟩ := Option.map_eq_some_iff.mp bodies
  obtain ⟨first,second⟩ := Prod.mk.inj seen
  exact ⟨w,ran,bodyInside first,bodyInside second,sampleSame⟩

end PgLlmBatch
