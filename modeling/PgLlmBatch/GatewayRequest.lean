import PgLlmBatch.Exceptions
import PgLlmBatch.Base.Fallible
import PgLlmBatch.Base.FloatArithmetic
import PgLlmBatch.Base.JsonText
import PgLlmBatch.Base.Loop

/-! `BatchAPIClient._request`: one response handed to the consumer, after retries of a GET that
failed on its way. Time, chance and the provider are the replies to the generator's statements. -/
namespace PgLlmBatch
open Base

structure RetrySettings where
  requestTimeoutSeconds : PyFloat
  maxRetryAttempts : Nat
  retryBaseDelaySeconds : PyFloat
  retryMaxDelaySeconds : PyFloat
  attempts : 0 < maxRetryAttempts
  finiteBase : retryBaseDelaySeconds.isFinite = true
  finiteMax : retryMaxDelaySeconds.isFinite = true
  nonNegative : retryBaseDelaySeconds.lt .zero = false ∧ retryMaxDelaySeconds.lt .zero = false
  ordered : retryMaxDelaySeconds.lt retryBaseDelaySeconds = false

theorem toNatPositive {n : Int} (h : 0 < n) : 0 < n.toNat := by omega

def positiveInt (field reason : String) (value : Json) : Except PyError {n : Nat // 0 < n} :=
  match value with
  | .int n => if h : 0 < n then .ok ⟨n.toNat,toNatPositive h⟩ else .error (.validation field (.value value) reason)
  | _ => .error (.validation field (.value value) reason)

-- `float(value)` of a huge int raises OverflowError.
def normalizeRetryDelay (field : String) (value : Json) :
    Except PyError {f : PyFloat // f.isFinite = true ∧ f.lt .zero = false} :=
  let refused := PyError.validation field (.value value) "must be a finite non-negative number of seconds"
  let normalized := fun (f : PyFloat) =>
    if h : f.isFinite = true ∧ f.lt .zero = false then .ok ⟨f,h⟩ else .error refused
  match value with
  | .int n => match PyFloat.ofInt n with
      | none => .error .raised
      | some f => normalized f
  | .float f => normalized f
  | _ => .error refused

def RetrySettings.init (requestTimeoutSeconds : PyFloat) (maxRetryAttempts retryBaseDelaySeconds retryMaxDelaySeconds : Json) :
    Except PyError RetrySettings := do
  let ⟨attempts,some_⟩ ← positiveInt "max_retry_attempts" "must be a positive integer total-attempt limit" maxRetryAttempts
  let ⟨base,finiteBase,positiveBase⟩ ← normalizeRetryDelay "retry_base_delay_seconds" retryBaseDelaySeconds
  let ⟨longest,finiteMax,positiveMax⟩ ← normalizeRetryDelay "retry_max_delay_seconds" retryMaxDelaySeconds
  if ordered : longest.lt base = false then
    return ⟨requestTimeoutSeconds,attempts,base,longest,some_,finiteBase,finiteMax,⟨positiveBase,positiveMax⟩,ordered⟩
  else throw (.validation "retry_base_delay_seconds" (.value retryBaseDelaySeconds) "must not exceed retry_max_delay_seconds")

-- An `aiohttp.ClientError` or `asyncio.TimeoutError`, by the class that the client tells apart.
inductive TransportError where
  | serverFingerprintMismatch
  | clientConnectorCertificateError
  | clientSSLError
  | timeoutError
  | clientError
  deriving DecidableEq, Repr

namespace TransportError

def boundedTransportErrorType : TransportError → String
  | .serverFingerprintMismatch => "ServerFingerprintMismatch"
  | .clientConnectorCertificateError => "ClientConnectorCertificateError"
  | .clientSSLError => "ClientSSLError"
  | .timeoutError => "TimeoutError"
  | .clientError => "ClientError"

-- `isinstance(exc, (aiohttp.ClientSSLError, aiohttp.ServerFingerprintMismatch))`
def isTls : TransportError → Bool
  | .serverFingerprintMismatch | .clientConnectorCertificateError | .clientSSLError => true
  | .timeoutError | .clientError => false

end TransportError

inductive Raised where
  | transport (error : TransportError)
  | other (error : PyError)
  deriving Repr

def Raised.isTls : Raised → Bool
  | .transport t => t.isTls
  | .other _ => false

structure GatewayResponse where
  status : Int
  retryAfter : Json

structure GatewayCall where
  method : PyStr
  url : PyStr
  operation : String
  kwargs : List (PyStr × Json)

inductive RequestStatement where
  | request (call : GatewayCall)
  | close (raised : Option Raised)
  | hand (response : GatewayResponse)
  | utcNow
  | uniform (low high : PyFloat)
  | warning (operation retryReason : String) (attempt maxRetryAttempts : Nat) (delay : PyFloat)
  | sleep (delay : PyFloat)

-- A clock reading is in microseconds since the epoch.
abbrev RequestReply : RequestStatement → Type
  | .request _ => Except Raised GatewayResponse
  | .close _ => Except Raised Unit
  | .hand _ => Except Raised Unit
  | .utcNow => Int
  | .uniform _ _ => PyFloat
  | .warning _ _ _ _ _ => Unit
  | .sleep _ => Except Raised Unit

abbrev RequestProgram := Program RequestStatement RequestReply Raised

def issue (s : RequestStatement) : RequestProgram (RequestReply s) := Program.ask s

-- What `parsedate_to_datetime` makes of a text: a wall clock reading in microseconds, and its offset unless naive.
structure HttpDate where
  wallClock : Int
  offset : Option Int

def firstMoment : Int := -62135596800000000
def lastMoment : Int := 253402300799999999

def HttpDate.moment (d : HttpDate) : Int := d.wallClock - d.offset.getD 0

-- `parsed.astimezone(timezone.utc)` of a moment outside the years 1 to 9999 raises OverflowError.
def HttpDate.utc (d : HttpDate) : Except Raised Int :=
  if firstMoment ≤ d.moment ∧ d.moment ≤ lastMoment then .ok d.moment else .error (.other .raised)

def totalSeconds (microseconds : Int) : PyFloat :=
  .ofRatio (decide (microseconds < 0)) microseconds.natAbs 1000000

section
-- The date parser, and none for a text on which it raises TypeError, ValueError or OverflowError.
variable (parsedateToDatetime : PyStr → Except Raised (Option HttpDate))

def parseRetryAfter (value : Json) (now : Int) : Except Raised (Option PyFloat) :=
  match value with
  | .str s =>
      let candidate := s.strip
      if candidate.isEmpty then .ok none
      else if candidate.all PyChar.digit then .ok (some (.ofDecimal false (JsonText.natOf candidate) 0))
      else do match ← parsedateToDatetime candidate with
        | none => return none
        | some parsed =>
            let moment ← parsed.utc
            return some (PyFloat.zero.maximum (totalSeconds (moment - now)))
  | _ => .ok none

variable (c : RetrySettings)

def fallbackCeiling (failedAttempt : Nat) : Except Raised PyFloat :=
  match PyFloat.ofInt (2 ^ (failedAttempt - 1)) with
  | none => .error (.other .raised)
  | some factor => .ok ((c.retryBaseDelaySeconds.mul factor).minimum c.retryMaxDelaySeconds)

def fallbackRetryDelay (failedAttempt : Nat) : RequestProgram PyFloat := do
  let ceiling ← Program.ofExcept (fallbackCeiling c failedAttempt)
  if ceiling.le .zero then return .zero
  else issue (.uniform ceiling.half ceiling)

def retryDelayForResponse (response : GatewayResponse) (failedAttempt : Nat) : RequestProgram (Option PyFloat) := do
  let now ← issue .utcNow
  match ← Program.ofExcept (parseRetryAfter parsedateToDatetime response.retryAfter now) with
  | some retryAfter => return if c.retryMaxDelaySeconds.lt retryAfter then none else some retryAfter
  | none =>
      let delay ← fallbackRetryDelay c failedAttempt
      return some delay

def retryableGetStatuses : List Int := [408,425,429,502,503,504]

def asciiLower (c : PyChar) : Nat := if 0x41 ≤ c.val && c.val ≤ 0x5A then c.val + 0x20 else c.val

def GatewayCall.retrySafe (call : GatewayCall) : Bool := call.method.map asciiLower == (py "get").map asciiLower

inductive Attempted where
  | returned
  | retry (delay : PyFloat) (retryReason : String)

def raisedBy {α : Type} : Except Raised α → Option Raised
  | .ok _ => none
  | .error e => some e

-- `async with` keeps how its block ended, unless closing the response raises.
def leaving {α : Type} (ended : Except Raised α) : RequestProgram (Except Raised α) := do
  match ← issue (.close (raisedBy ended)) with
  | .error e => return .error e
  | .ok () => return ended

-- The first component is `response_handed_off`.
def handOver (response : GatewayResponse) : RequestProgram (Bool × Except Raised Attempted) := do
  let consumed ← issue (.hand response)
  let ended ← leaving (consumed.map (fun _ => .returned))
  return (true,ended)

variable (call : GatewayCall)

def tryBlock (attempt : Nat) : RequestProgram (Bool × Except Raised Attempted) := do
  match ← issue (.request call) with
  | .error e => return (false,.error e)
  | .ok response =>
      if call.retrySafe && decide (attempt < c.maxRetryAttempts) && decide (response.status ∈ retryableGetStatuses) then
        match ← (retryDelayForResponse parsedateToDatetime c response attempt).caught with
        | .error e => return (false,← leaving (.error e))
        | .ok none => handOver response
        | .ok (some delay) => return (false,← leaving (.ok (.retry delay ("HTTP " ++ toString response.status))))
      else handOver response

def transportFailed (t : TransportError) : PyError :=
  .gateway (call.operation ++ " transport failed") none
    [("error_type",.str (py t.boundedTransportErrorType)),("timeout_seconds",.float c.requestTimeoutSeconds)]

def again (attempt : Nat) (retryReason : String) (delay : PyFloat) : RequestProgram (Nat ⊕ Unit) := do
  issue (.warning call.operation retryReason attempt c.maxRetryAttempts delay)
  match ← issue (.sleep delay) with
  | .error e => throw e
  | .ok () => return .inl (attempt + 1)

-- A turn of the `while` loop. A GatewayError and what no clause names are raised again alike.
def requestTurn (attempt : Nat) : RequestProgram (Nat ⊕ Unit) := do
  match ← tryBlock parsedateToDatetime c call attempt with
  | (_,.ok .returned) => return .inr ()
  | (_,.ok (.retry delay retryReason)) => again c call attempt retryReason delay
  | (_,.error (.other e)) => throw (.other e)
  | (true,.error (.transport t)) => throw (.transport t)
  | (false,.error (.transport t)) =>
      if !call.retrySafe || decide (c.maxRetryAttempts ≤ attempt) || t.isTls then throw (.other (transportFailed c call t))
      else do
        let delay ← fallbackRetryDelay c attempt
        again c call attempt t.boundedTransportErrorType delay

abbrev RequestEvent := Loop.Event RequestStatement RequestReply

def Requested (events : List RequestEvent) (rest : RequestProgram (Nat ⊕ Unit)) : Prop :=
  Loop.Runs (requestTurn parsedateToDatetime c call) (requestTurn parsedateToDatetime c call 1) events rest

-- The date that a header names: it is neither blank nor a number of seconds, and the parser reads it.
def headerDate : Json → Option HttpDate
  | .str s =>
      if s.strip.isEmpty || s.strip.all PyChar.digit then none
      else match parsedateToDatetime s.strip with
        | .ok parsed => parsed
        | .error _ => none
  | _ => none

def requestedDelay (value : Json) (now : Int) : Option PyFloat :=
  match value with
  | .str s =>
      if s.strip.isEmpty then none
      else if s.strip.all PyChar.digit then some (.ofDecimal false (JsonText.natOf s.strip) 0)
      else (headerDate parsedateToDatetime value).map (fun d => PyFloat.zero.maximum (totalSeconds (d.moment - now)))
  | _ => none

def exceedsMaxDelay (response : GatewayResponse) (now : Int) : Bool :=
  (requestedDelay parsedateToDatetime response.retryAfter now).any c.retryMaxDelaySeconds.lt

def outsideYears (response : GatewayResponse) : Bool :=
  (headerDate parsedateToDatetime response.retryAfter).any (fun d => d.utc.toOption.isNone)

-- `arrived` is the response that came with the last reply; `late` says that the clock has just been read for
-- a date that no datetime holds.
structure RequestWatch where
  requests : Nat
  handed : Nat
  arrived : Option GatewayResponse
  stopped : Bool
  late : Bool

def RequestWatch.start : RequestWatch := ⟨0,0,none,false,false⟩

def RequestWatch.quiet (w : RequestWatch) : RequestWatch := {w with arrived := none,late := false}

def RequestWatch.raises {α : Type} (w : RequestWatch) : Except Raised α → RequestWatch
  | .ok _ => w.quiet
  | .error e => {w.quiet with stopped := w.stopped || e.isTls}

def Raised.repeatable : Raised → Bool
  | .transport t => !t.isTls
  | .other _ => false

-- A connection error on leaving takes the place of the OverflowError that the date has raised.
def RequestWatch.leaves (w : RequestWatch) : Except Raised Unit → RequestWatch
  | .ok _ => w.quiet
  | .error e => {w.quiet with stopped := (w.stopped && !(w.late && e.repeatable)) || e.isTls}

def watch (w : RequestWatch) : RequestEvent → RequestWatch
  | ⟨.request _,.ok response⟩ => {w with requests := w.requests + 1,arrived := some response,late := false}
  | ⟨.request _,.error e⟩ => {w.raises (Except.error e : Except Raised Unit) with requests := w.requests + 1}
  | ⟨.hand _,_⟩ => {w.quiet with handed := w.handed + 1,stopped := true}
  | ⟨.utcNow,now⟩ =>
      ⟨w.requests,w.handed,none,w.stopped || w.arrived.any (exceedsMaxDelay parsedateToDatetime c · now),
        w.arrived.any (outsideYears parsedateToDatetime)⟩
  | ⟨.close _,closed⟩ => w.leaves closed
  | ⟨.sleep _,slept⟩ => w.raises slept
  | ⟨.uniform _ _,_⟩ => w.quiet
  | ⟨.warning _ _ _ _ _,_⟩ => w.quiet

def mayIssue (s : RequestStatement) (w : RequestWatch) : Prop :=
  (w.arrived.isSome = true → s = .utcNow ∨ ∃ response, s = .hand response) ∧ match s with
    | .request _ => w.stopped = false ∧ w.requests < c.maxRetryAttempts ∧ (call.retrySafe = false → w.requests = 0)
    | .hand _ => w.handed = 0
    | _ => True

abbrev requestSpec : Program.Spec RequestStatement RequestReply RequestWatch :=
  Loop.watching (mayIssue c call) (watch parsedateToDatetime c)

structure Ready (w : RequestWatch) (requests : Nat) : Prop where
  requests : w.requests = requests
  handed : w.handed = 0
  arrived : w.arrived = none
  stopped : w.stopped = false
  late : w.late = false

def TurnStart (attempt : Nat) (w : RequestWatch) : Prop :=
  ∃ n, attempt = n + 1 ∧ Ready w n ∧ n < c.maxRetryAttempts ∧ (call.retrySafe = false → n = 0)

def Tried (attempt : Nat) : Except Raised (Bool × Except Raised Attempted) → RequestWatch → Prop
  | .ok (true,.ok (.retry _ _)), _ => False
  | .ok (false,.ok (.retry _ _)), w => Ready w attempt ∧ attempt < c.maxRetryAttempts ∧ call.retrySafe = true
  | .ok (false,.error (.transport t)), w => t.isTls = false → Ready w attempt
  | _, _ => True

variable {parsedateToDatetime c call}

theorem requestMono : Program.Monotone (requestSpec parsedateToDatetime c call) := Loop.watchingMono _ _

theorem quiet {s : RequestStatement} {w : RequestWatch} (arrived : w.arrived = none) :
    w.arrived.isSome = true → s = .utcNow ∨ ∃ response, s = .hand response := by
  rw [arrived]
  exact nofun

theorem watchQuiet {w : RequestWatch} (arrived : w.arrived = none) (late : w.late = false) : w.quiet = w := by
  unfold RequestWatch.quiet
  rw [← arrived,← late]

theorem fallbackWp {n : Nat} {w : RequestWatch} {Q : Except Raised PyFloat → RequestWatch → Prop}
    (arrived : w.arrived = none) (late : w.late = false) (h : ∀ r, Q r w) :
    (fallbackRetryDelay c n).wp (requestSpec parsedateToDatetime c call) w Q := by
  refine Program.wpOfExcept _ _ _ _ _ (fun ceiling _ => ?_) (fun e _ => h _)
  split
  · exact h _
  · refine ⟨⟨quiet arrived,trivial⟩,fun delay => ?_⟩
    have same : watch parsedateToDatetime c w ⟨.uniform ceiling.half ceiling,delay⟩ = w := watchQuiet arrived late
    rw [same]
    exact h _

theorem leavingWp {α : Type} {ended : Except Raised α} {w : RequestWatch}
    {Q : Except Raised (Except Raised α) → RequestWatch → Prop} (arrived : w.arrived = none) (kept : Q (.ok ended) w.quiet)
    (raised : ∀ e, Q (.ok (.error e)) (w.leaves (.error e))) :
    (leaving ended).wp (requestSpec parsedateToDatetime c call) w Q := by
  refine ⟨⟨quiet arrived,trivial⟩,fun closed => ?_⟩
  cases closed with
  | error e => exact raised e
  | ok u => exact kept

theorem handOverWp {response : GatewayResponse} {attempt : Nat} {w : RequestWatch} (handed : w.handed = 0) :
    (handOver response).wp (requestSpec parsedateToDatetime c call) w (Tried c call attempt) := by
  refine ⟨⟨fun _ => .inr ⟨response,rfl⟩,handed⟩,fun consumed => ?_⟩
  change (leaving (consumed.map (fun _ => Attempted.returned)) >>= fun ended => pure (true,ended)).wp
    (requestSpec parsedateToDatetime c call) _ (Tried c call attempt)
  refine Program.wpBind requestMono (leavingWp rfl ?_ (fun e => trivial))
  cases consumed <;> trivial

theorem requestedRead {value : Json} {now : Int} {read : Option PyFloat}
    (h : parseRetryAfter parsedateToDatetime value now = .ok read) : requestedDelay parsedateToDatetime value now = read ∧
      ∀ d, headerDate parsedateToDatetime value = some d → d.utc.toOption.isNone = false := by
  cases value with
  | str s =>
    unfold parseRetryAfter at h
    unfold requestedDelay
    simp only [] at h ⊢
    split at h
    · rename_i blank
      cases h
      exact ⟨if_pos blank,fun d named => by simp [headerDate,blank] at named⟩
    rename_i inked
    rw [if_neg inked]
    split at h
    · rename_i digits
      cases h
      exact ⟨if_pos digits,fun d named => by simp [headerDate,digits] at named⟩
    rename_i dated
    rw [if_neg dated]
    obtain ⟨parsed,parsing,h⟩ := Fallible.bindOk.mp h
    have named : headerDate parsedateToDatetime (.str s) = parsed := by simp [headerDate,inked,dated,parsing]
    rw [named]
    cases parsed with
    | none =>
      cases h
      exact ⟨rfl,nofun⟩
    | some d =>
      obtain ⟨moment,within,h⟩ := Fallible.bindOk.mp h
      cases h
      have same : d.moment = moment := by
        unfold HttpDate.utc at within
        split at within <;> cases within
        rfl
      refine ⟨by rw [Option.map_some,same],fun e other => ?_⟩
      cases other
      rw [within]
      rfl
  | null | bool _ | int _ | float _ | arr _ | obj _ =>
    cases h
    exact ⟨rfl,nofun⟩

theorem requestedRaised {value : Json} {now : Int} {e : Raised}
    (h : parseRetryAfter parsedateToDatetime value now = .error e) :
    (headerDate parsedateToDatetime value = none ∧ requestedDelay parsedateToDatetime value now = none) ∨
      e = .other .raised ∧ ∃ d, headerDate parsedateToDatetime value = some d ∧ d.utc.toOption.isNone = true := by
  cases value with
  | str s =>
    unfold parseRetryAfter at h
    unfold requestedDelay
    simp only [] at h ⊢
    split at h
    · cases h
    rename_i inked
    rw [if_neg inked]
    split at h
    · cases h
    rename_i dated
    rw [if_neg dated]
    cases parsing : parsedateToDatetime s.strip with
    | error own =>
      have unnamed : headerDate parsedateToDatetime (.str s) = none := by simp [headerDate,parsing]
      rw [unnamed]
      exact .inl ⟨rfl,rfl⟩
    | ok parsed =>
      rw [parsing] at h
      have named : headerDate parsedateToDatetime (.str s) = parsed := by simp [headerDate,inked,dated,parsing]
      cases parsed with
      | none => cases h
      | some d =>
        refine .inr ?_
        cases within : d.utc with
        | ok moment =>
          simp only [bind,Except.bind,within] at h
          cases h
        | error own =>
          simp only [bind,Except.bind,within] at h
          cases h
          have overflow : e = .other .raised := by
            unfold HttpDate.utc at within
            split at within <;> cases within
            rfl
          exact ⟨overflow,d,named,by rw [within]; rfl⟩
  | null | bool _ | int _ | float _ | arr _ | obj _ => cases h

theorem retryDelayWp {response : GatewayResponse} {n : Nat} {w : RequestWatch}
    {Q : Except Raised (Option PyFloat) → RequestWatch → Prop} (arrived : w.arrived = some response)
    (excessive : ∀ w', w'.handed = w.handed → Q (.ok none) w')
    (outside : ∀ stopped, Q (.error (.other .raised)) {w with arrived := none,stopped := stopped,late := true})
    (otherwise : ∀ r, r ≠ .ok none → Q r w.quiet) :
    (retryDelayForResponse parsedateToDatetime c response n).wp (requestSpec parsedateToDatetime c call) w Q := by
  refine ⟨⟨fun _ => .inl rfl,trivial⟩,fun now => ?_⟩
  have watched : watch parsedateToDatetime c w ⟨.utcNow,now⟩ =
      ⟨w.requests,w.handed,none,w.stopped || exceedsMaxDelay parsedateToDatetime c response now,
        outsideYears parsedateToDatetime response⟩ := by
    simp only [watch,arrived,Option.any_some]
  rw [watched]
  refine Program.wpOfExcept _ _ _ _ _ (fun parsed read => ?_) (fun e read => ?_)
  · obtain ⟨requested,within⟩ := requestedRead read
    have inside : outsideYears parsedateToDatetime response = false := by
      unfold outsideYears
      rw [Option.any_eq_false]
      exact fun d named => by simpa using within d named
    rw [inside]
    cases parsed with
    | none =>
      have no : exceedsMaxDelay parsedateToDatetime c response now = false := by
        unfold exceedsMaxDelay
        rw [requested]
        rfl
      rw [no,Bool.or_false]
      refine Program.wpBind requestMono (fallbackWp rfl rfl (fun r => ?_))
      cases r with
      | error e => exact otherwise _ nofun
      | ok delay => exact otherwise _ nofun
    | some retryAfter =>
      have exceeds : exceedsMaxDelay parsedateToDatetime c response now = c.retryMaxDelaySeconds.lt retryAfter := by
        unfold exceedsMaxDelay
        rw [requested]
        rfl
      rw [exceeds]
      change Q (.ok (if c.retryMaxDelaySeconds.lt retryAfter = true then none else some retryAfter)) _
      cases more : c.retryMaxDelaySeconds.lt retryAfter with
      | true => exact excessive _ rfl
      | false =>
        rw [Bool.or_false,if_neg Bool.false_ne_true]
        exact otherwise _ nofun
  · rcases requestedRaised read with ⟨unnamed,unread⟩ | ⟨rfl,d,named,none_⟩
    · have no : exceedsMaxDelay parsedateToDatetime c response now = false := by
        unfold exceedsMaxDelay
        rw [unread]
        rfl
      have inside : outsideYears parsedateToDatetime response = false := by
        unfold outsideYears
        rw [unnamed]
        rfl
      rw [no,Bool.or_false,inside]
      exact otherwise _ nofun
    · have past : outsideYears parsedateToDatetime response = true := by
        unfold outsideYears
        rw [named]
        exact none_
      rw [past]
      exact outside _

theorem triedRaised {attempt : Nat} {w : RequestWatch} {e : Raised} (ready : Ready w attempt) :
    Tried c call attempt (.ok (false,.error e)) (w.raises (Except.error e : Except Raised Unit)) := by
  cases e with
  | other e => trivial
  | transport t =>
    intro plain
    refine ⟨ready.requests,ready.handed,rfl,?_,rfl⟩
    simp only [RequestWatch.raises,ready.stopped,Raised.isTls,plain,Bool.or_self]

theorem triedClosing {attempt : Nat} {w : RequestWatch} {e : Raised} (requests : w.requests = attempt)
    (handed : w.handed = 0) (may : w.stopped = false ∨ w.late = true) :
    Tried c call attempt (.ok (false,.error e)) (w.leaves (.error e)) := by
  cases e with
  | other e => trivial
  | transport t =>
    intro plain
    refine ⟨requests,handed,rfl,?_,rfl⟩
    rcases may with running | late
    · simp only [RequestWatch.leaves,running,Raised.isTls,plain,Bool.false_and,Bool.or_self]
    · simp only [RequestWatch.leaves,late,Raised.repeatable,Raised.isTls,plain,Bool.not_false,Bool.and_self,Bool.not_true,
        Bool.and_false,Bool.or_self]

theorem tryBlockWp {attempt : Nat} {w : RequestWatch} (start : TurnStart c call attempt w) :
    (tryBlock parsedateToDatetime c call attempt).wp (requestSpec parsedateToDatetime c call) w (Tried c call attempt) := by
  obtain ⟨n,rfl,ready,below,once⟩ := start
  refine ⟨⟨quiet ready.arrived,ready.stopped,ready.requests ▸ below,fun post => ready.requests ▸ once post⟩,fun reply => ?_⟩
  have counted : w.requests + 1 = n + 1 := congrArg (· + 1) ready.requests
  cases reply with
  | error e =>
    have more : Ready {w with requests := w.requests + 1} (n + 1) :=
      ⟨counted,ready.handed,ready.arrived,ready.stopped,ready.late⟩
    exact triedRaised more
  | ok response =>
    let w₁ : RequestWatch := {w with requests := w.requests + 1,arrived := some response,late := false}
    have left_ : Ready w₁.quiet (n + 1) := ⟨counted,ready.handed,rfl,ready.stopped,rfl⟩
    have closing : ∀ e, Tried c call (n + 1) (.ok (false,.error e)) (w₁.quiet.leaves (.error e)) := fun e =>
      triedClosing counted ready.handed (.inl ready.stopped)
    change Program.wp _ (if _ then _ else _) w₁ _
    split
    · rename_i retried
      simp only [Bool.and_eq_true,decide_eq_true_eq] at retried
      obtain ⟨⟨safe,more⟩,-⟩ := retried
      refine Program.wpBind requestMono (Program.wpCaught requestMono
        (retryDelayWp rfl (fun w' handed => ?_) (fun stopped => ?_) (fun r given => ?_)))
      · exact handOverWp (handed.trans ready.handed)
      · change (leaving (.error _) >>= fun ended => pure (false,ended)).wp _ _ (Tried c call (n + 1))
        exact Program.wpBind requestMono (leavingWp rfl trivial (fun e => triedClosing counted ready.handed (.inr rfl)))
      · cases r with
        | error e =>
          change (leaving (.error e) >>= fun ended => pure (false,ended)).wp _ _ (Tried c call (n + 1))
          refine Program.wpBind requestMono (leavingWp rfl ?_ closing)
          cases e with
          | other e => trivial
          | transport t => exact fun _ => left_
        | ok found =>
          cases found with
          | none => exact absurd rfl given
          | some delay =>
            change (leaving (.ok (.retry delay _)) >>= fun ended => pure (false,ended)).wp _ _ (Tried c call (n + 1))
            exact Program.wpBind requestMono (leavingWp rfl ⟨left_,more,safe⟩ closing)
    · exact handOverWp ready.handed

theorem againWp {attempt : Nat} {w : RequestWatch} {retryReason : String} {delay : PyFloat} (ready : Ready w attempt)
    (more : attempt < c.maxRetryAttempts) (safe : call.retrySafe = true) :
    (again c call attempt retryReason delay).wp (requestSpec parsedateToDatetime c call) w
      (Loop.Continues (TurnStart c call)) := by
  refine ⟨⟨quiet ready.arrived,trivial⟩,fun _ => ⟨⟨quiet rfl,trivial⟩,fun slept => ?_⟩⟩
  cases slept with
  | error e => trivial
  | ok u =>
    refine ⟨attempt,rfl,⟨ready.requests,ready.handed,rfl,ready.stopped,rfl⟩,more,fun post => ?_⟩
    rw [safe] at post
    cases post

theorem turnWp (attempt : Nat) (w : RequestWatch) (start : TurnStart c call attempt w) :
    (requestTurn parsedateToDatetime c call attempt).wp (requestSpec parsedateToDatetime c call) w
      (Loop.Continues (TurnStart c call)) := by
  refine Program.wpBind requestMono (Program.wpMono requestMono (tryBlockWp start) (fun r w' tried => ?_))
  match r,tried with
  | .error e,_ => trivial
  | .ok (_,.ok .returned),_ => trivial
  | .ok (false,.ok (.retry delay retryReason)),⟨ready,more,safe⟩ => exact againWp ready more safe
  | .ok (false,.error (.other e)),_ => trivial
  | .ok (true,.error (.other e)),_ => trivial
  | .ok (true,.error (.transport t)),_ => trivial
  | .ok (false,.error (.transport t)),ready =>
    change Program.wp _ (if _ then _ else _) w' _
    split
    · trivial
    · rename_i retried
      simp only [Bool.or_eq_true,Bool.not_eq_true',decide_eq_true_eq,not_or,Bool.not_eq_false,Bool.not_eq_true,
        not_le] at retried
      obtain ⟨⟨safe,more⟩,plain⟩ := retried
      have own : Ready w' attempt := ready plain
      refine Program.wpBind requestMono (fallbackWp own.arrived own.late (fun delay => ?_))
      cases delay with
      | error e => trivial
      | ok delay => exact againWp own more safe

def isRequest (e : RequestEvent) : Bool :=
  match e.statement with
  | .request _ => true
  | _ => false

def isHand (e : RequestEvent) : Bool :=
  match e.statement with
  | .hand _ => true
  | _ => false

def requestsIn (events : List RequestEvent) : Nat := events.countP isRequest
def handedIn (events : List RequestEvent) : Nat := events.countP isHand

theorem watchRequests (w : RequestWatch) (e : RequestEvent) :
    (watch parsedateToDatetime c w e).requests = w.requests + if isRequest e = true then 1 else 0 := by
  obtain ⟨s,reply⟩ := e
  cases s with
  | request call => cases reply <;> rfl
  | close raised => cases reply <;> rfl
  | sleep delay => cases reply <;> rfl
  | hand response => rfl
  | utcNow => rfl
  | uniform low high => rfl
  | warning operation retryReason attempt most delay => rfl

theorem watchHanded (w : RequestWatch) (e : RequestEvent) :
    (watch parsedateToDatetime c w e).handed = w.handed + if isHand e = true then 1 else 0 := by
  obtain ⟨s,reply⟩ := e
  cases s with
  | request call => cases reply <;> rfl
  | close raised => cases reply <;> rfl
  | sleep delay => cases reply <;> rfl
  | hand response => rfl
  | utcNow => rfl
  | uniform low high => rfl
  | warning operation retryReason attempt most delay => rfl

structure Halted (w : RequestWatch) : Prop where
  stopped : w.stopped = true
  arrived : w.arrived = none
  late : w.late = false

theorem watchHalted {w : RequestWatch} (h : Halted w) {e : RequestEvent} (other : isRequest e ≠ true) :
    Halted (watch parsedateToDatetime c w e) := by
  obtain ⟨s,reply⟩ := e
  cases s with
  | request call => exact absurd rfl other
  | close raised =>
    cases reply with
    | ok u => exact ⟨h.stopped,rfl,rfl⟩
    | error e => exact ⟨by simp [watch,RequestWatch.leaves,h.stopped,h.late],rfl,rfl⟩
  | sleep delay =>
    cases reply with
    | ok u => exact ⟨h.stopped,rfl,rfl⟩
    | error e => exact ⟨by simp [watch,RequestWatch.raises,h.stopped],rfl,rfl⟩
  | hand response => exact ⟨rfl,rfl,rfl⟩
  | utcNow => exact ⟨by simp [watch,h.stopped],rfl,by simp [watch,h.arrived]⟩
  | uniform low high => exact ⟨h.stopped,rfl,rfl⟩
  | warning operation retryReason attempt most delay => exact ⟨h.stopped,rfl,rfl⟩

theorem requestAllowed {w : RequestWatch} {e : RequestEvent} (may : mayIssue c call e.statement w)
    (request : isRequest e = true) :
    w.stopped = false ∧ w.requests < c.maxRetryAttempts ∧ (call.retrySafe = false → w.requests = 0) := by
  obtain ⟨s,reply⟩ := e
  cases s with
  | request own => exact may.2
  | _ => cases request

theorem handAllowed {w : RequestWatch} {e : RequestEvent} (may : mayIssue c call e.statement w)
    (hand : isHand e = true) : w.handed = 0 := by
  obtain ⟨s,reply⟩ := e
  cases s with
  | hand response => exact may.2
  | _ => cases hand

section
variable {w : RequestWatch} {events : List RequestEvent}

theorem requestsBelow {limit : Nat}
    (bound : ∀ w e, mayIssue c call (RequestStatement.request e) w → w.requests < limit)
    (h : Loop.Allowed (mayIssue c call) (watch parsedateToDatetime c) w events) (start : w.requests ≤ limit) :
    w.requests + requestsIn events ≤ limit := by
  induction events generalizing w with
  | nil => exact start
  | cons e events ih =>
    obtain ⟨may,later⟩ := h
    have rest := ih later
    rw [watchRequests] at rest
    unfold requestsIn at rest ⊢
    rw [List.countP_cons]
    split at rest
    · rename_i request
      obtain ⟨s,reply⟩ := e
      cases s with
      | request own =>
        have below := bound w own may
        rw [if_pos request]
        have total := rest (by omega)
        omega
      | _ => cases request
    · rename_i other
      rw [if_neg other]
      exact rest start

theorem handedOnce (h : Loop.Allowed (mayIssue c call) (watch parsedateToDatetime c) w events) (start : w.handed ≤ 1) :
    w.handed + handedIn events ≤ 1 := by
  induction events generalizing w with
  | nil => exact start
  | cons e events ih =>
    obtain ⟨may,later⟩ := h
    have rest := ih later
    rw [watchHanded] at rest
    unfold handedIn at rest ⊢
    rw [List.countP_cons]
    split at rest
    · rename_i hand
      have none_ := handAllowed may hand
      rw [if_pos hand]
      have total := rest (by omega)
      omega
    · rename_i other
      rw [if_neg other]
      exact rest start

theorem stoppedOther {e : RequestEvent} (may : mayIssue c call e.statement w) (stopped : w.stopped = true) :
    isRequest e ≠ true := by
  intro request
  have running := (requestAllowed may request).1
  rw [stopped] at running
  cases running

theorem haltedRequests (h : Loop.Allowed (mayIssue c call) (watch parsedateToDatetime c) w events)
    (halted : Halted w) : requestsIn events = 0 := by
  induction events generalizing w with
  | nil => rfl
  | cons e events ih =>
    obtain ⟨may,later⟩ := h
    have other := stoppedOther may halted.stopped
    unfold requestsIn
    rw [List.countP_cons,if_neg other]
    exact ih later (watchHalted halted other)

end

theorem requestObserved {events : List RequestEvent} {rest : RequestProgram (Nat ⊕ Unit)}
    (run : Requested parsedateToDatetime c call events rest) :
    Loop.Allowed (mayIssue c call) (watch parsedateToDatetime c) .start events :=
  (Loop.runAllowed turnWp run (turnWp 1 _ ⟨0,rfl,⟨rfl,rfl,rfl,rfl,rfl⟩,c.attempts,fun _ => rfl⟩)).1

inductive Final : RequestEvent → Prop where
  | hand (response consumed) : Final ⟨.hand response,consumed⟩
  | tlsRequest {e : Raised} (call) (tls : e.isTls = true) : Final ⟨.request call,.error e⟩
  | tlsClosing {e : Raised} (raised) (tls : e.isTls = true) : Final ⟨.close raised,.error e⟩

theorem finalHalts {w : RequestWatch} {e : RequestEvent} (final : Final e) : Halted (watch parsedateToDatetime c w e) := by
  cases final with
  | hand response consumed => exact ⟨rfl,rfl,rfl⟩
  | tlsRequest own tls => exact ⟨by simp [watch,RequestWatch.raises,tls],rfl,rfl⟩
  | tlsClosing raised tls => exact ⟨by simp [watch,RequestWatch.leaves,tls],rfl,rfl⟩

theorem finalRequests {w : RequestWatch} {e : RequestEvent} {after : List RequestEvent}
    (h : Loop.Allowed (mayIssue c call) (watch parsedateToDatetime c) w (e::after)) (final : Final e) :
    requestsIn after = 0 := haltedRequests h.2 (finalHalts final)

-- The close that follows a date beyond the maximum and outside the years raises nothing that a GET is repeated after.
def LateDatesClose (parsedateToDatetime : PyStr → Except Raised (Option HttpDate)) (c : RetrySettings)
    (events : List RequestEvent) : Prop :=
  ∀ before call response now raised e after,
    events = before ++ ⟨.request call,.ok response⟩::⟨.utcNow,now⟩::⟨.close raised,.error e⟩::after →
      outsideYears parsedateToDatetime response = true → exceedsMaxDelay parsedateToDatetime c response now = true →
        e.repeatable = false

theorem lateHalts {w : RequestWatch} {e : RequestEvent} (stopped : w.stopped = true) (arrived : w.arrived = none)
    (other : isRequest e ≠ true)
    (closing : ∀ raised own, e = ⟨.close raised,.error own⟩ → w.late = true → own.repeatable = false) :
    Halted (watch parsedateToDatetime c w e) := by
  obtain ⟨s,reply⟩ := e
  cases s with
  | request call => exact absurd rfl other
  | close raised =>
    cases reply with
    | ok u => exact ⟨stopped,rfl,rfl⟩
    | error e =>
      have kept : (w.late && e.repeatable) = false := by
        cases late : w.late with
        | false => rfl
        | true => exact closing raised e rfl late
      exact ⟨by simp [watch,RequestWatch.leaves,stopped,kept],rfl,rfl⟩
  | sleep delay =>
    cases reply with
    | ok u => exact ⟨stopped,rfl,rfl⟩
    | error e => exact ⟨by simp [watch,RequestWatch.raises,stopped],rfl,rfl⟩
  | hand response => exact ⟨rfl,rfl,rfl⟩
  | utcNow => exact ⟨by simp [watch,stopped],rfl,by simp [watch,arrived]⟩
  | uniform low high => exact ⟨stopped,rfl,rfl⟩
  | warning operation retryReason attempt most delay => exact ⟨stopped,rfl,rfl⟩

theorem excessiveRequests {w : RequestWatch} {response : GatewayResponse} {own : GatewayCall} {after : List RequestEvent}
    (h : Loop.Allowed (mayIssue c call) (watch parsedateToDatetime c) w (⟨.request own,.ok response⟩::after))
    (exceeds : ∀ now rest, after = ⟨.utcNow,now⟩::rest → exceedsMaxDelay parsedateToDatetime c response now = true)
    (closing : ∀ now raised e rest, after = ⟨.utcNow,now⟩::⟨.close raised,.error e⟩::rest →
      outsideYears parsedateToDatetime response = true → e.repeatable = false) :
    requestsIn after = 0 := by
  obtain ⟨-,later⟩ := h
  cases after with
  | nil => rfl
  | cons next rest =>
    obtain ⟨may,further⟩ := later
    obtain ⟨s,now⟩ := next
    rcases may.1 rfl with clock | ⟨handed,hand⟩
    · cases clock
      have stopped : (watch parsedateToDatetime c (watch parsedateToDatetime c w ⟨.request own,.ok response⟩)
          ⟨.utcNow,now⟩).stopped = true := by
        simp only [watch,Option.any_some,exceeds now rest rfl,Bool.or_true]
      cases rest with
      | nil => rfl
      | cons e rest =>
        obtain ⟨may,further⟩ := further
        have other := stoppedOther may stopped
        have past := haltedRequests further (lateHalts stopped rfl other (fun raised error same late =>
          closing now raised error rest (by rw [same]) late))
        unfold requestsIn at past ⊢
        rw [List.countP_cons,List.countP_cons,if_neg other,past]
        rfl
    · cases hand
      have past := haltedRequests further (finalHalts (.hand handed now))
      exact past

/-- However the provider, the clock, chance and the consumer answer, `_request` stays within its attempts, repeats
nothing but a GET, hands over one response at most and asks for none after a final reply. It asks for none after a
response beyond the maximum either, in a run where the close of each such response with a date outside the years leaves
the OverflowError standing. -/
theorem requestProtocol {events : List RequestEvent} {rest : RequestProgram (Nat ⊕ Unit)}
    (run : Requested parsedateToDatetime c call events rest) :
    requestsIn events ≤ c.maxRetryAttempts ∧
      (call.retrySafe = false → events ≠ [] → requestsIn events = 1) ∧
      handedIn events ≤ 1 ∧
      (∀ before e after, events = before ++ e::after → Final e → requestsIn after = 0) ∧
      (LateDatesClose parsedateToDatetime c events →
        ∀ before own response after, events = before ++ ⟨.request own,.ok response⟩::after →
          (∀ now rest, after = ⟨.utcNow,now⟩::rest → exceedsMaxDelay parsedateToDatetime c response now = true) →
            requestsIn after = 0) := by
  have allowed := requestObserved run
  refine ⟨?_,fun post some_ => ?_,?_,fun before e after same final => ?_,fun late before own response after same exceeds => ?_⟩
  · have within := requestsBelow (fun w own may => may.2.2.1) allowed (Nat.zero_le _)
    simpa only [RequestWatch.start,Nat.zero_add] using within
  · have once : ∀ w own, mayIssue c call (RequestStatement.request own) w → w.requests < 1 := by
      intro w own may
      rw [may.2.2.2 post]
      exact Nat.one_pos
    have most := requestsBelow once allowed (Nat.zero_le _)
    have first : 1 ≤ requestsIn events := by
      cases run with
      | here => exact absurd rfl some_
      | reply rest =>
        unfold requestsIn
        rw [List.countP_cons]
        exact Nat.le_add_left 1 _
    have total : requestsIn events ≤ 1 := by simpa only [RequestWatch.start,Nat.zero_add] using most
    omega
  · have within := handedOnce allowed (Nat.zero_le _)
    simpa only [RequestWatch.start,Nat.zero_add] using within
  · rw [same] at allowed
    exact finalRequests (Loop.allowedAppend allowed) final
  · rw [same] at allowed
    refine excessiveRequests (Loop.allowedAppend allowed) exceeds (fun now raised e rest follows outside => ?_)
    exact late before own response now raised e rest (by rw [same,follows]) outside (exceeds now _ follows)

def sampleSettings : RetrySettings where
  requestTimeoutSeconds := .ofDecimal false 30 0
  maxRetryAttempts := 3
  retryBaseDelaySeconds := .ofDecimal false 5 (-1)
  retryMaxDelaySeconds := .ofDecimal false 30 0
  attempts := by decide
  finiteBase := by decide +kernel
  finiteMax := by decide +kernel
  nonNegative := by decide +kernel
  ordered := by decide +kernel

def statusCall : GatewayCall := ⟨py "GET",py "https://gateway/batches/batch-1","Batch status",[]⟩

-- The responses come in their order, and the consumer takes what it is given.
def answerRequest (closed : Except Raised Unit) :
    (s : RequestStatement) → List GatewayResponse → RequestReply s × List GatewayResponse
  | .request _, response::later => (.ok response,later)
  | .request _, [] => (.error (.transport .timeoutError),[])
  | .close _, later => (closed,later)
  | .hand _, later | .sleep _, later => (.ok (),later)
  | .utcNow, later => ((0 : Int),later)
  | .uniform _ high, later => (high,later)
  | .warning _ _ _ _ _, later => ((),later)

-- "Fri, 31 Dec 9999 23:59:59 -0100" reads as a date whose moment is in the year 10000, and nothing else is a date.
def lastHour (s : PyStr) : Except Raised (Option HttpDate) :=
  .ok (if s = py "Fri, 31 Dec 9999 23:59:59 -0100" then some ⟨253402300799000000,some (-3600000000)⟩ else none)

def played (closed : Except Raised Unit) (responses : List GatewayResponse) : List RequestEvent × RequestProgram (Nat ⊕ Unit) :=
  Loop.play (requestTurn lastHour sampleSettings statusCall) (answerRequest closed) 20
    (requestTurn lastHour sampleSettings statusCall 1) responses

theorem playedRuns (closed : Except Raised Unit) (responses : List GatewayResponse) :
    Requested lastHour sampleSettings statusCall (played closed responses).1 (played closed responses).2 :=
  Loop.playRuns _ _ _ _ _

def isClosingError : RequestEvent → Bool
  | ⟨.close _,.error _⟩ => true
  | _ => false

theorem lateDatesClosed {events : List RequestEvent} (none_ : events.any isClosingError = false) :
    LateDatesClose lastHour sampleSettings events := by
  rintro before own response now raised e after rfl - -
  rw [List.any_append,List.any_cons,List.any_cons,List.any_cons] at none_
  simp [isClosingError] at none_

def anHour : GatewayResponse := ⟨503,.str (py "3600")⟩

def busyTwice : List RequestEvent := (played (.ok ()) [⟨503,.str (py "2")⟩,anHour,⟨200,.null⟩]).1

theorem busyTwiceProtocol : requestsIn busyTwice = 2 ∧ requestsIn busyTwice ≤ sampleSettings.maxRetryAttempts ∧
    handedIn busyTwice ≤ 1 ∧ exceedsMaxDelay lastHour sampleSettings anHour 0 = true ∧
    requestsIn (busyTwice.drop 6) = 0 := by
  have protocol := @requestProtocol lastHour sampleSettings statusCall busyTwice _ (playedRuns _ _)
  have second : busyTwice = busyTwice.take 5 ++ ⟨.request statusCall,.ok anHour⟩::busyTwice.drop 6 := by
    rw [show _::busyTwice.drop 6 = busyTwice.drop 5 from rfl,List.take_append_drop]
  have exceeds : exceedsMaxDelay lastHour sampleSettings anHour 0 = true := by decide +kernel
  refine ⟨by decide +kernel,protocol.1,protocol.2.2.1,exceeds,?_⟩
  refine protocol.2.2.2.2 (lateDatesClosed (by decide +kernel)) _ _ _ _ second (fun now rest follows => ?_)
  have clock : busyTwice.drop 6 = ⟨.utcNow,(0 : Int)⟩::busyTwice.drop 7 := rfl
  cases clock.symm.trans follows
  exact exceeds

def dated : GatewayResponse := ⟨503,.str (py "Fri, 31 Dec 9999 23:59:59 -0100")⟩

def lateDate : List RequestEvent := (played (.error (.transport .clientError)) [dated,⟨200,.null⟩]).1

def startsExcessive : List RequestEvent → Bool
  | ⟨.request _,.ok response⟩::⟨.utcNow,now⟩::_ => exceedsMaxDelay lastHour sampleSettings response now
  | _ => false

theorem excessiveStart {events : List RequestEvent} (h : startsExcessive events = true) : ∃ own response now rest,
    events = ⟨.request own,.ok response⟩::⟨.utcNow,now⟩::rest ∧
      exceedsMaxDelay lastHour sampleSettings response now = true := by
  unfold startsExcessive at h
  split at h
  · exact ⟨_,_,_,_,rfl,h⟩
  · cases h

-- The date is refused by its overflow, which the connection error replaces: a second request goes out.
theorem lateDateRepeated : (∃ rest, Requested lastHour sampleSettings statusCall lateDate rest) ∧
    ¬∀ before own response after, lateDate = before ++ ⟨.request own,.ok response⟩::after →
      (∀ now rest, after = ⟨.utcNow,now⟩::rest → exceedsMaxDelay lastHour sampleSettings response now = true) →
        requestsIn after = 0 := by
  refine ⟨⟨_,playedRuns _ _⟩,fun none_ => ?_⟩
  obtain ⟨own,response,now,rest,first,exceeds⟩ := excessiveStart (show startsExcessive lateDate = true by decide +kernel)
  have total : requestsIn lateDate = 2 := by decide +kernel
  have repeated := none_ [] own response _ first (fun later rest follows => by
    cases follows
    exact exceeds)
  rw [first,requestsIn,List.countP_cons_of_pos rfl] at total
  unfold requestsIn at repeated
  omega

end

end PgLlmBatch
