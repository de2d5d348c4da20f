import PgLlmBatch.GatewayRequest
import PgLlmBatch.Base.FloatOrder

/-! The delay before another attempt: when choosing it raises nothing, and that it is never below
zero nor above the longest delay of the settings. -/
namespace PgLlmBatch
open Base

-- A clock that shows `now`, and `random.uniform` somewhere between its arguments.
def delaySpec (now : Int) : Program.Spec RequestStatement RequestReply Unit := fun s g Q =>
  match s with
  | .utcNow => Q now g
  | .uniform low high => ∀ delay : PyFloat, low.le delay = true → delay.le high = true → Q delay g
  | _ => False

theorem delayMono (now : Int) : Program.Monotone (delaySpec now) := by
  intro s g Q R h weaker
  match s with
  | .utcNow => exact weaker _ _ h
  | .uniform low high => exact fun delay above below => weaker _ _ (h delay above below)
  | .request _ | .close _ | .hand _ | .warning _ _ _ _ _ | .sleep _ => exact h

def Within (c : RetrySettings) (delay : PyFloat) : Prop :=
  PyFloat.zero.le delay = true ∧ delay.le c.retryMaxDelaySeconds = true

def DelayChosen (c : RetrySettings) : Except Raised PyFloat → Prop
  | .ok delay => Within c delay
  | .error _ => False

def DelayOrRefusal (c : RetrySettings) : Except Raised (Option PyFloat) → Prop
  | .ok none => True
  | .ok (some delay) => Within c delay
  | .error _ => False

section
variable {c : RetrySettings}

theorem maxNumber : c.retryMaxDelaySeconds.isNan = false := PyFloat.finiteNumber c.finiteMax

theorem maxNotBelow : PyFloat.zero.le c.retryMaxDelaySeconds = true :=
  PyFloat.notLtLe maxNumber rfl c.nonNegative.2

theorem ceilingSmall {n : Nat} (small : n ≤ 1024) : ∃ ceiling, fallbackCeiling c n = .ok ceiling ∧
    ceiling.isNan = false ∧ ceiling.le c.retryMaxDelaySeconds = true := by
  let factor := PyFloat.finite false (2 ^ 52) (((n - 1 : Nat) : Int) - 52)
  have power : PyFloat.ofInt (2 ^ (n - 1)) = some factor := by
    rw [PyFloat.powerFloat,if_pos (by omega)]
  have product : (c.retryBaseDelaySeconds.mul factor).isNan = false := PyFloat.mulNumber c.finiteBase rfl
  have capped := PyFloat.minimumLe product (@maxNumber c)
  refine ⟨(c.retryBaseDelaySeconds.mul factor).minimum c.retryMaxDelaySeconds,?_,(PyFloat.lePlace.mp capped).1,capped⟩
  unfold fallbackCeiling
  rw [power]

theorem ceilingLarge {n : Nat} (large : 1024 < n) : fallbackCeiling c n = .error (.other .raised) := by
  have power : PyFloat.ofInt (2 ^ (n - 1)) = none := by
    rw [PyFloat.powerFloat,if_neg (by omega)]
  unfold fallbackCeiling
  rw [power]

theorem fallbackChosen (now : Int) (n : Nat) :
    (fallbackRetryDelay c n).wp (delaySpec now) () (fun r _ => DelayChosen c r) ↔ n ≤ 1024 := by
  constructor
  · intro chosen
    by_contra large
    unfold fallbackRetryDelay at chosen
    rw [ceilingLarge (by omega)] at chosen
    exact chosen
  · intro small
    obtain ⟨ceiling,computed,number,capped⟩ := @ceilingSmall c n small
    unfold fallbackRetryDelay
    rw [computed]
    change Program.wp _ (if _ then _ else _) _ _
    split
    · exact ⟨rfl,maxNotBelow⟩
    · rename_i above
      rw [Bool.not_eq_true] at above
      have positive := PyFloat.notLeLt number rfl above
      intro delay low high
      exact ⟨PyFloat.leTrans (PyFloat.zeroLeHalf positive) low,PyFloat.leTrans high capped⟩

end

section
variable (parsedateToDatetime : PyStr → Except Raised (Option HttpDate))

def headerSeconds : Json → Bool
  | .str s => !s.strip.isEmpty && s.strip.all PyChar.digit
  | _ => false

def HttpDate.InYears (d : HttpDate) : Prop := firstMoment ≤ d.moment ∧ d.moment ≤ lastMoment

-- When the choice after a response meets neither of the two overflows.
structure DelayInRange (response : GatewayResponse) (failedAttempt : Nat) : Prop where
  date : ∀ d, headerDate parsedateToDatetime response.retryAfter = some d → d.InYears
  attempt : headerDate parsedateToDatetime response.retryAfter = none → headerSeconds response.retryAfter = false →
    failedAttempt ≤ 1024

variable {parsedateToDatetime}

inductive Guided (value : Json) (now : Int) : Except Raised (Option PyFloat) → Prop where
  | seconds (n : Nat) (none_ : headerDate parsedateToDatetime value = none) (named : headerSeconds value = true) :
      Guided value now (.ok (some (.ofDecimal false n 0)))
  | date (d : HttpDate) (named : headerDate parsedateToDatetime value = some d) :
      Guided value now (d.utc.map (fun moment => some (PyFloat.zero.maximum (totalSeconds (moment - now)))))
  | nothing (none_ : headerDate parsedateToDatetime value = none) (unnamed : headerSeconds value = false) :
      Guided value now (.ok none)

theorem retryAfterGuided (documented : ∀ s, ∃ d, parsedateToDatetime s = .ok d) (value : Json) (now : Int) :
    @Guided parsedateToDatetime value now (parseRetryAfter parsedateToDatetime value now) := by
  cases value with
  | str s =>
    unfold parseRetryAfter
    simp only []
    by_cases blank : s.strip.isEmpty = true
    · rw [if_pos blank]
      exact .nothing (by simp [headerDate,blank]) (by simp [headerSeconds,blank])
    · rw [if_neg blank]
      by_cases digits : s.strip.all PyChar.digit = true
      · rw [if_pos digits]
        exact .seconds _ (by simp [headerDate,digits]) (by simp [headerSeconds,blank,digits])
      · rw [if_neg digits]
        have unnamed : headerSeconds (.str s) = false := by simp [headerSeconds,digits]
        obtain ⟨parsed,read⟩ := documented s.strip
        have dated : headerDate parsedateToDatetime (.str s) = parsed := by simp [headerDate,blank,digits,read]
        rw [read]
        cases parsed with
        | none => exact .nothing dated unnamed
        | some d =>
          have shown := @Guided.date parsedateToDatetime (.str s) now d dated
          change Guided _ _ (d.utc >>= fun moment => pure (some (PyFloat.zero.maximum (totalSeconds (moment - now)))))
          cases moment : d.utc with
          | error e => rwa [moment] at shown
          | ok m => rwa [moment] at shown
  | null | bool _ | int _ | float _ | arr _ | obj _ => exact .nothing rfl rfl

variable {c : RetrySettings}

theorem guidanceWithin {delay : PyFloat} (positive : PyFloat.zero.le delay = true) :
    DelayOrRefusal c (.ok (if c.retryMaxDelaySeconds.lt delay then none else some delay)) := by
  split
  · trivial
  · rename_i below
    rw [Bool.not_eq_true] at below
    exact ⟨positive,PyFloat.notLtLe maxNumber (PyFloat.lePlace.mp positive).2.1 below⟩

theorem responseChosen (documented : ∀ s, ∃ d, parsedateToDatetime s = .ok d) (response : GatewayResponse) (n : Nat)
    (now : Int) : (retryDelayForResponse parsedateToDatetime c response n).wp (delaySpec now) ()
      (fun r _ => DelayOrRefusal c r) ↔ DelayInRange parsedateToDatetime response n := by
  have guided := retryAfterGuided documented response.retryAfter now
  unfold retryDelayForResponse
  change Program.wp (delaySpec now) (Program.ofExcept (parseRetryAfter parsedateToDatetime response.retryAfter now) >>= _)
    () _ ↔ _
  generalize parseRetryAfter parsedateToDatetime response.retryAfter now = parsed at guided
  cases guided with
  | seconds seconds none_ named =>
    refine iff_of_true (guidanceWithin (PyFloat.zeroLeDecimal _ _)) ⟨?_,?_⟩
    · rw [none_]
      exact nofun
    · rw [named]
      exact nofun
  | date d named =>
    have range : DelayInRange parsedateToDatetime response n ↔ d.InYears := by
      refine ⟨fun within => within.date d named,fun years => ⟨fun e same => ?_,?_⟩⟩
      · cases Option.some.inj (named.symm.trans same)
        exact years
      · rw [named]
        exact nofun
    rw [range]
    unfold HttpDate.utc HttpDate.InYears
    split
    · rename_i years
      refine iff_of_true ?_ years
      exact guidanceWithin (PyFloat.leMaximum rfl)
    · rename_i outside
      exact iff_of_false id outside
  | nothing none_ unnamed =>
    have range : DelayInRange parsedateToDatetime response n ↔ n ≤ 1024 := by
      refine ⟨fun within => within.attempt none_ unnamed,fun small => ⟨fun d same => ?_,fun _ _ => small⟩⟩
      rw [none_] at same
      cases same
    rw [range,← @fallbackChosen c now n]
    change Program.wp (delaySpec now) (fallbackRetryDelay c n >>= fun delay => pure (some delay)) () _ ↔ _
    rw [Program.wpBindIff]
    constructor
    · intro chosen
      refine Program.wpMono (delayMono now) chosen (fun r _ good => ?_)
      cases r with
      | ok delay => exact good
      | error e => exact good
    · intro chosen
      refine Program.wpMono (delayMono now) chosen (fun r _ good => ?_)
      cases r with
      | ok delay => exact good
      | error e => exact good

end

/-- Choosing a delay raises nothing, and gives a refusal or a delay between zero and the longest, exactly when the
attempts that are counted without guidance stay within 1024 and the date of a header stays within the years 1 to 9999. -/
theorem retryDelayTotal (parsedateToDatetime : PyStr → Except Raised (Option HttpDate))
    (documented : ∀ s, ∃ d, parsedateToDatetime s = .ok d) (c : RetrySettings) (response : GatewayResponse)
    (failedAttempt : Nat) (now : Int) :
    ((fallbackRetryDelay c failedAttempt).wp (delaySpec now) () (fun r _ => DelayChosen c r) ↔ failedAttempt ≤ 1024) ∧
    ((retryDelayForResponse parsedateToDatetime c response failedAttempt).wp (delaySpec now) ()
      (fun r _ => DelayOrRefusal c r) ↔ DelayInRange parsedateToDatetime response failedAttempt) :=
  ⟨fallbackChosen now failedAttempt,responseChosen documented response failedAttempt now⟩

def undated : GatewayResponse := ⟨503,.str (py "Fri, 31 Dec")⟩

theorem retryDelaySample : (retryDelayForResponse lastHour sampleSettings undated 1).wp (delaySpec 0) ()
    (fun r _ => DelayOrRefusal sampleSettings r) := by
  have total := retryDelayTotal lastHour (fun s => ⟨_,rfl⟩) sampleSettings undated 1 0
  have unread : headerDate lastHour undated.retryAfter = none := by decide
  have range : DelayInRange lastHour undated 1 := by
    refine ⟨fun d named => ?_,fun _ _ => by decide⟩
    rw [unread] at named
    cases named
  rw [total.2]
  exact range

def manyAttempts : RetrySettings := {sampleSettings with maxRetryAttempts := 1026, attempts := by decide}

theorem delayOverflows : 1025 < manyAttempts.maxRetryAttempts ∧
    ((fallbackRetryDelay manyAttempts 1025).eval (answerRequest (.ok ())) []).1 = .error (.other .raised) ∧
    ((retryDelayForResponse lastHour sampleSettings dated 1).eval (answerRequest (.ok ())) []).1 = .error (.other .raised) := by
  have parsed : parseRetryAfter lastHour dated.retryAfter 0 = .error (.other .raised) := rfl
  refine ⟨by decide,?_,?_⟩
  · unfold fallbackRetryDelay
    rw [ceilingLarge (by decide)]
    rfl
  · unfold retryDelayForResponse issue
    rw [Program.bindAsk,Program.evalCall]
    simp only [answerRequest,parsed]
    rfl

end PgLlmBatch
