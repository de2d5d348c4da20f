import PgLlmBatch.TokenCounter
import PgLlmBatch.Base.FloatValue
import PgLlmBatch.Base.GreedyGroups

/-! `count_batch_tokens` and `split_oversized_batch`: a list of requests cut into the longest chunks
that the token limit and the request limit allow. -/
namespace PgLlmBatch
open Base

def maxRequestsPerInternalBatch : Nat := 50

structure BatchRequest where
  id : PyStr
  systemPrompt : Option PyStr
  userPrompt : PyStr
  model : PyStr

structure TokenBreakdown where
  requestId : PyStr
  systemTokens : Nat
  userTokens : Nat
  totalTokens : Nat
  model : PyStr

structure BatchTokens where
  totalTokens : Nat
  totalSystemTokens : Nat
  totalUserTokens : Nat
  requestCount : Nat
  averageTokensPerRequest : PyFloat
  maxTokensPerRequest : Nat
  minTokensPerRequest : Nat
  tokenBreakdown : List TokenBreakdown

namespace TokenCounter
variable (counter : TokenCounter)

def countRequestTokens (r : BatchRequest) : Nat × Nat × Nat :=
  let systemTokens := counter.countTokens (r.systemPrompt.getD []) r.model
  let userTokens := counter.countTokens r.userPrompt r.model
  (systemTokens,userTokens,systemTokens + userTokens)

def requestTokens (r : BatchRequest) : Nat := (counter.countRequestTokens r).2.2

def tokensOf (requests : List BatchRequest) : Nat := (requests.map counter.requestTokens).sum

def breakdown (r : BatchRequest) : TokenBreakdown :=
  let (systemTokens,userTokens,total) := counter.countRequestTokens r
  ⟨r.id,systemTokens,userTokens,total,r.model⟩

-- `a / b` of two ints raises OverflowError where the quotient is beyond the floats.
def trueDivision (a b : Nat) : Except PyError PyFloat :=
  let quotient := PyFloat.ofRatio false a b
  if quotient.isFinite then .ok quotient else .error .raised

-- An empty list reports the int 0 as its average.
def countBatchTokens (requests : List BatchRequest) : Except PyError BatchTokens :=
  match requests.map counter.breakdown with
  | [] => .ok ⟨0,0,0,0,.finite false 0 (-1074),0,0,[]⟩
  | first::rest =>
      let all := first::rest
      let totalSystem := (all.map TokenBreakdown.systemTokens).sum
      let totalUser := (all.map TokenBreakdown.userTokens).sum
      let total := totalSystem + totalUser
      let counts := rest.map TokenBreakdown.totalTokens
      if counter.effectiveLimit < (total : Int) then
        .error (.tokenLimitExceeded total counter.effectiveLimit none)
      else do
        let average ← trueDivision total requests.length
        return ⟨total,totalSystem,totalUser,requests.length,average,counts.foldl max first.totalTokens,
          counts.foldl min first.totalTokens,all⟩

-- The loop, with the chunks that are full, the current one and its tokens.
def splitLoop (batches : List (List BatchRequest)) (current : List BatchRequest) (currentTokens : Nat) :
    List BatchRequest → Except PyError (List (List BatchRequest))
  | [] => .ok (if current.isEmpty then batches else batches ++ [current])
  | r::requests =>
      let tokens := counter.requestTokens r
      if counter.effectiveLimit < (tokens : Int) then
        .error (.tokenLimitExceeded tokens counter.effectiveLimit (some (py "oversized_request")))
      else if !current.isEmpty && (decide (counter.effectiveLimit < ((currentTokens + tokens : Nat) : Int)) ||
          decide (maxRequestsPerInternalBatch ≤ current.length)) then
        splitLoop (batches ++ [current]) [r] tokens requests
      else splitLoop batches (current ++ [r]) (currentTokens + tokens) requests

def splitOversizedBatch (requests : List BatchRequest) : Except PyError (List (List BatchRequest)) :=
  if requests.isEmpty then .ok [] else counter.splitLoop [] [] 0 requests

def fits (chunk : List BatchRequest) (r : BatchRequest) : Bool :=
  decide (((counter.tokensOf chunk + counter.requestTokens r : Nat) : Int) ≤ counter.effectiveLimit) &&
    decide (chunk.length < maxRequestsPerInternalBatch)

def Oversized (r : BatchRequest) : Prop := counter.effectiveLimit < (counter.requestTokens r : Int)

variable {counter}

theorem tokensSnoc (chunk : List BatchRequest) (r : BatchRequest) :
    counter.tokensOf (chunk ++ [r]) = counter.tokensOf chunk + counter.requestTokens r := by
  simp [tokensOf]

theorem splitRuns {batches : List (List BatchRequest)} {current requests : List BatchRequest} (some_ : current ≠ [])
    (small : ∀ r ∈ requests, ¬counter.Oversized r) :
    counter.splitLoop batches current (counter.tokensOf current) requests =
      .ok (batches ++ GreedyGroups.loop counter.fits current requests) := by
  have present : current.isEmpty = false := by simpa using some_
  induction requests generalizing batches current with
  | nil => simp [splitLoop,GreedyGroups.loop,present]
  | cons r requests ih =>
    have own : ¬counter.effectiveLimit < (counter.requestTokens r : Int) := small r (by simp)
    have later : ∀ r ∈ requests, ¬counter.Oversized r := fun s here => small s (by simp [here])
    have cut : (decide (counter.effectiveLimit < ((counter.tokensOf current + counter.requestTokens r : Nat) : Int)) ||
        decide (maxRequestsPerInternalBatch ≤ current.length)) = !counter.fits current r := by
      simp only [fits,Bool.not_and]
      congr 1
      · rw [← decide_not]
        exact decide_eq_decide.mpr not_le.symm
      · rw [← decide_not]
        exact decide_eq_decide.mpr not_lt.symm
    unfold splitLoop GreedyGroups.loop
    simp only [if_neg own,present,Bool.not_false,Bool.true_and,cut,Bool.not_eq_true']
    cases fit : counter.fits current r with
    | true =>
      have grown := @ih batches (current ++ [r]) (by simp) later (by simp)
      rw [tokensSnoc] at grown
      simpa only [Bool.true_eq_false,if_false,if_true] using grown
    | false =>
      have started := @ih (batches ++ [current]) [r] (by simp) later (by simp)
      have single : counter.tokensOf [r] = counter.requestTokens r := by simp [tokensOf]
      rw [single,List.append_assoc,List.singleton_append] at started
      simpa only [Bool.false_eq_true,if_false,if_true] using started

theorem splitFails {batches : List (List BatchRequest)} {current requests : List BatchRequest} {tokens : Nat}
    (large : ∃ r ∈ requests, counter.Oversized r) : ∃ e, counter.splitLoop batches current tokens requests = .error e := by
  induction requests generalizing batches current tokens with
  | nil =>
    obtain ⟨r,here,-⟩ := large
    cases here
  | cons r requests ih =>
    unfold splitLoop
    simp only []
    split
    · exact ⟨_,rfl⟩
    · rename_i own
      have later : ∃ s ∈ requests, counter.Oversized s := by
        obtain ⟨s,here,its⟩ := large
        rcases List.mem_cons.mp here with rfl | there
        · exact absurd its own
        · exact ⟨s,there,its⟩
      split
      · exact ih later
      · exact ih later

theorem splitGroups {requests : List BatchRequest} (small : ∀ r ∈ requests, ¬counter.Oversized r) :
    counter.splitOversizedBatch requests = .ok (GreedyGroups.groups counter.fits requests) := by
  cases requests with
  | nil => rfl
  | cons r requests =>
    have own : ¬counter.effectiveLimit < (counter.requestTokens r : Int) := small r (by simp)
    have runs := @splitRuns counter [] [r] requests (by simp) (fun s here => small s (by simp [here]))
    have single : counter.tokensOf [r] = counter.requestTokens r := by simp [tokensOf]
    rw [single,List.nil_append] at runs
    unfold splitOversizedBatch splitLoop GreedyGroups.groups
    simp only [List.isEmpty_cons,List.isEmpty_nil,Bool.false_eq_true,Bool.not_true,Bool.false_and,if_false,if_neg own,
      List.nil_append,Nat.zero_add]
    exact runs

theorem tokensSum (requests : List BatchRequest) :
    ((requests.map counter.breakdown).map TokenBreakdown.systemTokens).sum +
      ((requests.map counter.breakdown).map TokenBreakdown.userTokens).sum = counter.tokensOf requests := by
  induction requests with
  | nil => rfl
  | cons r requests ih =>
    have step : counter.tokensOf (r::requests) = counter.requestTokens r + counter.tokensOf requests := by simp [tokensOf]
    have own : counter.requestTokens r = (counter.breakdown r).systemTokens + (counter.breakdown r).userTokens := rfl
    rw [step,← ih,own]
    simp only [List.map_cons,List.sum_cons]
    omega

-- What a chunk within the limit is counted as. Its average is a float unless it is 2^1024 - 2^970 or more.
def Counted (counter : TokenCounter) (chunk : List BatchRequest) : Prop :=
  if counter.tokensOf chunk < PyFloat.overflow * chunk.length then
    ∃ stats, counter.countBatchTokens chunk = .ok stats ∧ stats.totalTokens = counter.tokensOf chunk ∧
      stats.requestCount = chunk.length
  else counter.countBatchTokens chunk = .error .raised

theorem countsWithin {requests : List BatchRequest} (some_ : requests ≠ [])
    (within : (counter.tokensOf requests : Int) ≤ counter.effectiveLimit) : Counted counter requests := by
  cases requests with
  | nil => exact absurd rfl some_
  | cons r requests =>
    have sum := @tokensSum counter (r::requests)
    have below : ¬counter.effectiveLimit < (counter.tokensOf (r::requests) : Int) := not_lt.mpr within
    have finite := PyFloat.ratioFinite false (counter.tokensOf (r::requests)) (Nat.succ_pos requests.length)
    rw [← sum] at below finite
    unfold Counted countBatchTokens
    rw [List.map_cons] at below sum finite ⊢
    simp only [if_neg below,trueDivision,List.length_cons]
    rw [← sum]
    split
    · rename_i small
      rw [if_pos (finite.mpr small)]
      exact ⟨_,rfl,rfl,rfl⟩
    · rename_i large
      rw [if_neg (fun number => large (finite.mp number))]
      rfl

def Full (counter : TokenCounter) (chunk next : List BatchRequest) : Prop :=
  ∃ r, next.head? = some r ∧ (maxRequestsPerInternalBatch < (chunk ++ [r]).length ∨
    counter.effectiveLimit < (counter.tokensOf (chunk ++ [r]) : Int))

theorem stoppedFull {chunk next : List BatchRequest} (stopped : GreedyGroups.Stopped counter.fits chunk next) :
    Full counter chunk next := by
  obtain ⟨r,head,refused⟩ := stopped
  refine ⟨r,head,?_⟩
  rw [tokensSnoc,List.length_append,List.length_singleton]
  simp only [fits,Bool.and_eq_false_iff,decide_eq_false_iff_not,not_le,not_lt] at refused
  exact refused.elim .inr (fun full => .inl (Nat.lt_succ_of_le full))

def Within (counter : TokenCounter) (chunk : List BatchRequest) : Prop :=
  chunk.length ≤ maxRequestsPerInternalBatch ∧ (counter.tokensOf chunk : Int) ≤ counter.effectiveLimit

theorem groupsWithin {requests : List BatchRequest} (small : ∀ r ∈ requests, ¬counter.Oversized r) :
    ∀ chunk ∈ GreedyGroups.groups counter.fits requests, Within counter chunk := by
  refine GreedyGroups.groupsEvery counter.fits (fun r here => ?_) (fun chunk r _ _ fit => ?_)
  · have single : counter.tokensOf [r] = counter.requestTokens r := by simp [tokensOf]
    exact ⟨by simp [maxRequestsPerInternalBatch],by rw [single]; exact not_lt.mp (small r here)⟩
  · simp only [fits,Bool.and_eq_true,decide_eq_true_eq] at fit
    refine ⟨?_,by rw [tokensSnoc]; exact fit.1⟩
    rw [List.length_append,List.length_singleton]
    exact fit.2

/-- A single request over the limit is refused, and nothing else; the chunks of any other list join to it, are within
both limits and counted so where the average is a float, and each is as long as the next request allows. -/
theorem splitMaximal (counter : TokenCounter) (requests : List BatchRequest) :
    ((∃ e, counter.splitOversizedBatch requests = .error e) ↔ ∃ r ∈ requests, counter.Oversized r) ∧
    ∀ batches, counter.splitOversizedBatch requests = .ok batches → batches.flatten = requests ∧
      (∀ chunk ∈ batches, chunk ≠ [] ∧ Within counter chunk ∧ Counted counter chunk) ∧
      batches.IsChain (Full counter) := by
  by_cases large : ∃ r ∈ requests, counter.Oversized r
  · have fails : ∃ e, counter.splitOversizedBatch requests = .error e := by
      have some_ : requests.isEmpty = false := by
        obtain ⟨r,here,-⟩ := large
        cases requests with
        | nil => cases here
        | cons => rfl
      unfold splitOversizedBatch
      rw [some_]
      exact splitFails large
    obtain ⟨e,failed⟩ := fails
    refine ⟨⟨fun _ => large,fun _ => ⟨e,failed⟩⟩,fun batches done => ?_⟩
    rw [failed] at done
    cases done
  · have small : ∀ r ∈ requests, ¬counter.Oversized r := fun r here own => large ⟨r,here,own⟩
    have done := splitGroups small
    refine ⟨⟨fun ⟨e,failed⟩ => ?_,fun other => absurd other large⟩,fun batches same => ?_⟩
    · rw [done] at failed
      cases failed
    · rw [done] at same
      cases same
      refine ⟨GreedyGroups.groupsFlatten _ requests,fun chunk here => ?_,?_⟩
      · have within := groupsWithin small chunk here
        have filled := GreedyGroups.groupsFilled _ requests chunk here
        exact ⟨filled,within,countsWithin filled within.2⟩
      · exact (GreedyGroups.groupsStopped counter.fits requests).imp (fun _ _ => stoppedFull)

def boundlessCounter : TokenCounter where
  tiktokenCount _ _ := PyFloat.overflow
  effectiveLimit := PyFloat.overflow
  azureMaxRecordsPerFile := 1
  azureMaxBytesPerFile := 1
  azureMaxFilesPerJob := 1
  positive := by decide

def boundlessRequest : BatchRequest := ⟨py "r-1",none,py "prompt",py "gpt-4"⟩

theorem boundlessUncounted : boundlessCounter.splitOversizedBatch [boundlessRequest] = .ok [[boundlessRequest]] ∧
    ¬∃ stats, boundlessCounter.countBatchTokens [boundlessRequest] = .ok stats := by
  have tokens : boundlessCounter.requestTokens boundlessRequest = PyFloat.overflow := Nat.zero_add _
  have small : ∀ r ∈ [boundlessRequest], ¬boundlessCounter.Oversized r := by
    rintro r here
    cases List.mem_singleton.mp here
    unfold Oversized
    rw [tokens]
    exact lt_irrefl _
  have whole : boundlessCounter.tokensOf [boundlessRequest] = PyFloat.overflow := by
    rw [tokensOf,List.map_singleton,List.sum_singleton,tokens]
  have counted := countsWithin (List.cons_ne_nil boundlessRequest []) (by rw [whole]; exact le_refl _)
  unfold Counted at counted
  rw [whole,if_neg (by simp)] at counted
  refine ⟨splitGroups small,?_⟩
  rw [counted]
  exact nofun

end TokenCounter

end PgLlmBatch
