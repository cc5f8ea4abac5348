import AutomationHub.Foundation.TwoRuns
import Mathlib.Algebra.Order.Field.Rat
import Mathlib.Algebra.Order.Ring.Pow
import Mathlib.Tactic.Linarith
import Mathlib.Tactic.Positivity
import Mathlib.Tactic.Ring
import Mathlib.Tactic.IntervalCases
import Mathlib.Tactic.NormNum

/-!
Bounded retries with exponential backoff: how long the loop sleeps between two attempts,
and what it returns or raises.
-/

set_option autoImplicit false

namespace AutomationHub.Utilities

open Foundation Program

/-- A policy that has passed its `__post_init__`; `retryable` tells the instances of its `retryable_exceptions`. -/
structure RetryPolicy (E : Type) where
  maxAttempts : ℕ
  baseDelaySeconds : ℚ
  backoffMultiplier : ℚ
  maxDelaySeconds : ℚ
  jitter : Bool
  retryable : E → Bool
  maxAttempts_pos : 1 ≤ maxAttempts
  baseDelaySeconds_nonneg : 0 ≤ baseDelaySeconds
  one_le_backoffMultiplier : 1 ≤ backoffMultiplier
  baseDelay_le_maxDelay : baseDelaySeconds ≤ maxDelaySeconds

/-- What a retried call raises. -/
inductive RetryCallError (E : Type) where
  | raised (error : E)
  | retryExhausted (attempts : ℕ) (lastException : E)
  | assertionError
deriving DecidableEq

inductive RetryRequest where
  | func
  | random
  | sleep (seconds : ℚ)

section Model

variable {E R : Type}

/-- `RetryPolicy.__init__`, which raises a `ValueError` with the given text. -/
def RetryPolicy.create (maxAttempts : ℤ) (baseDelaySeconds backoffMultiplier maxDelaySeconds : ℚ) (jitter : Bool)
    (retryable : E → Bool) : Except String (RetryPolicy E) :=
  if few : maxAttempts < 1 then .error ("max_attempts must be >= 1, got " ++ toString maxAttempts ++ ".")
  else if negative : baseDelaySeconds < 0 then .error "base_delay_seconds must be >= 0."
  else if small : backoffMultiplier < 1 then .error "backoff_multiplier must be >= 1."
  else if short : maxDelaySeconds < baseDelaySeconds then .error "max_delay_seconds must be >= base_delay_seconds."
  else .ok {
    maxAttempts := maxAttempts.toNat
    baseDelaySeconds
    backoffMultiplier
    maxDelaySeconds
    jitter
    retryable
    maxAttempts_pos := by omega
    baseDelaySeconds_nonneg := not_lt.mp negative
    one_le_backoffMultiplier := not_lt.mp small
    baseDelay_le_maxDelay := not_lt.mp short }

def RetryRequest.Reply (E R : Type) : RetryRequest → Type
  | .func => Except E R
  | .random => ℚ
  | .sleep _ => Unit

abbrev Retrying (E R α : Type) :=
  Program ⟨RetryRequest, RetryRequest.Reply E R⟩ (RetryCallError E) α

/-- `random.uniform`, over exact numbers. -/
def uniform (low high : ℚ) : Retrying E R ℚ :=
  .call .random fun (sample : ℚ) => return low + (high - low) * sample

def sleep (seconds : ℚ) : Retrying E R Unit :=
  .call (.sleep seconds) .done

namespace RetryPolicy

variable (policy : RetryPolicy E)

def rawDelay (attemptNumber : ℕ) : ℚ :=
  policy.baseDelaySeconds * policy.backoffMultiplier ^ (attemptNumber - 1)

def boundedDelay (attemptNumber : ℕ) : ℚ :=
  min (policy.rawDelay attemptNumber) policy.maxDelaySeconds

def delayForAttempt (attemptNumber : ℕ) : Retrying E R ℚ :=
  if policy.jitter then do
    let added ← uniform 0 (policy.boundedDelay attemptNumber * (1 / 4))
    return policy.boundedDelay attemptNumber + added
  else return policy.boundedDelay attemptNumber

/-- What follows the loop. -/
def exhausted : Option E → Retrying E R R
  | none => throw .assertionError
  | some lastException => throw (.retryExhausted policy.maxAttempts lastException)

/-- The rest of the loop, from the attempt with the number on. -/
def retryFrom : (remaining attemptNumber : ℕ) → Option E → Retrying E R R
  | 0, _, lastException => policy.exhausted lastException
  | remaining + 1, attemptNumber, _ =>
      .call .func fun outcome =>
        match outcome with
        | .ok value => return value
        | .error error =>
            if policy.retryable error then
              if attemptNumber = policy.maxAttempts then policy.exhausted (some error)
              else do
                let delay ← policy.delayForAttempt attemptNumber
                sleep delay
                retryFrom remaining (attemptNumber + 1) (some error)
            else throw (.raised error)

def retryCall : Retrying E R R :=
  policy.retryFrom policy.maxAttempts 1 none

end RetryPolicy

/-- How often `func` was called, and the delays slept. -/
structure RetryState where
  called : ℕ
  slept : List ℚ

/-- `func` comes to each of its outcomes in turn; a sample is drawn at most once between two calls. -/
def retrying (outcomes : ℕ → Except E R) (samples : ℕ → ℚ) :
    Handler ⟨RetryRequest, RetryRequest.Reply E R⟩ RetryState := fun request state =>
  match request with
  | .func => (outcomes state.called, { state with called := state.called + 1 })
  | .random => (samples state.called, state)
  | .sleep seconds => ((), { state with slept := state.slept ++ [seconds] })

end Model

section Specification

variable {E R : Type} (policy : RetryPolicy E) (outcomes : ℕ → Except E R)

/-- The call, counted from zero, raises an exception that is tried again. -/
def Retried (call : ℕ) : Prop :=
  ∃ error, outcomes call = .error error ∧ policy.retryable error = true

/-- What a retried call comes to, and after how many calls of the function. -/
structure RetryLaw (result : Except (RetryCallError E) R) (called : ℕ) : Prop where
  returned : ∀ call value, call < policy.maxAttempts → outcomes call = .ok value →
    (∀ earlier < call, Retried policy outcomes earlier) → result = .ok value ∧ called = call + 1
  propagated : ∀ call error, call < policy.maxAttempts → outcomes call = .error error → policy.retryable error = false →
    (∀ earlier < call, Retried policy outcomes earlier) → result = .error (.raised error) ∧ called = call + 1
  exhausted : (∀ call < policy.maxAttempts, Retried policy outcomes call) →
    ∃ last, outcomes (policy.maxAttempts - 1) = .error last ∧
      result = .error (.retryExhausted policy.maxAttempts last) ∧ called = policy.maxAttempts

/-- The loop sleeps after the attempt with the number. -/
def Sleeps (attemptNumber : ℕ) : Prop :=
  1 ≤ attemptNumber ∧ attemptNumber < policy.maxAttempts ∧ ∀ call < attemptNumber, Retried policy outcomes call

namespace RetryPolicy

/-- The delay for an attempt, with the sample that is drawn for it. -/
def delay (attemptNumber : ℕ) (sample : ℚ) : ℚ :=
  if policy.jitter then policy.boundedDelay attemptNumber + policy.boundedDelay attemptNumber * (1 / 4) * sample
  else policy.boundedDelay attemptNumber

/-- No jitter is added, or the delay is still below its bound once it is. -/
def Fits (attemptNumber : ℕ) (sample : ℚ) : Prop :=
  policy.jitter = false ∨ sample = 0 ∨ policy.rawDelay attemptNumber * (1 + sample / 4) ≤ policy.maxDelaySeconds

variable {policy}

theorem rawDelay_nonneg (attemptNumber : ℕ) : 0 ≤ policy.rawDelay attemptNumber :=
  mul_nonneg policy.baseDelaySeconds_nonneg (pow_nonneg (le_trans zero_le_one policy.one_le_backoffMultiplier) _)

theorem maxDelaySeconds_nonneg : 0 ≤ policy.maxDelaySeconds :=
  policy.baseDelaySeconds_nonneg.trans policy.baseDelay_le_maxDelay

theorem boundedDelay_nonneg (attemptNumber : ℕ) : 0 ≤ policy.boundedDelay attemptNumber :=
  le_min (rawDelay_nonneg attemptNumber) maxDelaySeconds_nonneg

theorem delay_nonneg (attemptNumber : ℕ) {sample : ℚ} (drawn : 0 ≤ sample) : 0 ≤ policy.delay attemptNumber sample := by
  have bounded := policy.boundedDelay_nonneg attemptNumber
  unfold delay
  split
  · positivity
  · exact bounded

theorem rawDelay_of_maxDelay_zero (attemptNumber : ℕ) (zero : policy.maxDelaySeconds = 0) :
    policy.rawDelay attemptNumber = 0 := by
  have base : policy.baseDelaySeconds = 0 :=
    le_antisymm (zero ▸ policy.baseDelay_le_maxDelay) policy.baseDelaySeconds_nonneg
  rw [rawDelay, base, zero_mul]

theorem delay_le_iff (attemptNumber : ℕ) {sample : ℚ} (drawn : 0 ≤ sample) :
    policy.delay attemptNumber sample ≤ policy.maxDelaySeconds ↔ policy.Fits attemptNumber sample := by
  unfold delay Fits
  cases jittered : policy.jitter with
  | false =>
      simp only [Bool.false_eq_true, if_false, true_or, iff_true]
      exact min_le_right _ _
  | true =>
      simp only [if_true, Bool.true_eq_false, false_or]
      have raw := policy.rawDelay_nonneg attemptNumber
      have cap := policy.maxDelaySeconds_nonneg
      by_cases below : policy.rawDelay attemptNumber ≤ policy.maxDelaySeconds
      · have bounded : policy.boundedDelay attemptNumber = policy.rawDelay attemptNumber := min_eq_left below
        rw [bounded]
        constructor
        · intro within
          right
          linarith
        · rintro (rfl | within)
          · simpa only [mul_zero, add_zero] using below
          · linarith
      · have above := not_le.mp below
        have bounded : policy.boundedDelay attemptNumber = policy.maxDelaySeconds := min_eq_right above.le
        rw [bounded]
        constructor
        · intro within
          have added : policy.maxDelaySeconds * sample = 0 := by
            have := mul_nonneg cap drawn
            linarith
          rcases mul_eq_zero.mp added with zero | zero
          · rw [rawDelay_of_maxDelay_zero attemptNumber zero, zero] at above
            exact absurd above (lt_irrefl 0)
          · exact .inl zero
        · rintro (rfl | within)
          · simp only [mul_zero, add_zero, le_refl]
          · have := mul_nonneg raw drawn
            linarith

end RetryPolicy

end Specification

section Runs

variable {E R : Type} {policy : RetryPolicy E} {outcomes : ℕ → Except E R} {samples : ℕ → ℚ}

theorem run_delayForAttempt (attemptNumber : ℕ) (state : RetryState) :
    (policy.delayForAttempt attemptNumber : Retrying E R ℚ).run (retrying outcomes samples) state =
      (.ok (policy.delay attemptNumber (samples state.called)), state) := by
  unfold RetryPolicy.delayForAttempt RetryPolicy.delay
  cases policy.jitter with
  | false =>
      simp only [Bool.false_eq_true, if_false]
      rfl
  | true =>
      simp only [if_true]
      have sum : policy.boundedDelay attemptNumber + (0 + (policy.boundedDelay attemptNumber * (1 / 4) - 0) *
          samples state.called) = policy.boundedDelay attemptNumber +
            policy.boundedDelay attemptNumber * (1 / 4) * samples state.called := by ring
      exact congrArg (fun delay => (Except.ok delay, state)) sum

/-- How the loop ends that has made a number of calls, and after which attempts it sleeps. -/
structure Ends (policy : RetryPolicy E) (outcomes : ℕ → Except E R) (samples : ℕ → ℚ) (made : ℕ) (start : List ℚ)
    (result : Except (RetryCallError E) R) (final : RetryState) : Prop where
  law : RetryLaw policy outcomes result final.called
  slept : ∀ delay, delay ∈ final.slept ↔ delay ∈ start ∨
    ∃ number, made < number ∧ Sleeps policy outcomes number ∧ delay = policy.delay number (samples number)

theorem not_retried_of_ok {call : ℕ} {value : R} (returned : outcomes call = .ok value) :
    ¬Retried policy outcomes call := by
  intro retried
  obtain ⟨error, raised, -⟩ := retried
  rw [returned] at raised
  cases raised

theorem not_retried_of_error {call : ℕ} {error : E} (raised : outcomes call = .error error)
    (final : policy.retryable error = false) : ¬Retried policy outcomes call := by
  intro retried
  obtain ⟨other, same, retryable⟩ := retried
  rw [raised] at same
  cases same
  rw [final] at retryable
  cases retryable

/-- The first call that is not tried again is the only one after which the loop can end. -/
theorem first_unretried {call made : ℕ} (decisive : ¬Retried policy outcomes made)
    (earlier : ∀ call < made, Retried policy outcomes call) (other : ¬Retried policy outcomes call)
    (before : ∀ earlier < call, Retried policy outcomes earlier) : call = made := by
  rcases Nat.lt_trichotomy call made with less | same | more
  · exact absurd (earlier call less) other
  · exact same
  · exact absurd (before made more) decisive

theorem slept_of_unretried {made : ℕ} {start : List ℚ} (decisive : ¬Retried policy outcomes made) (delay : ℚ) :
    delay ∈ start ↔ delay ∈ start ∨
      ∃ number, made < number ∧ Sleeps policy outcomes number ∧ delay = policy.delay number (samples number) := by
  constructor
  · exact .inl
  · rintro (slept | ⟨number, later, sleeps, -⟩)
    · exact slept
    · exact absurd (sleeps.2.2 made later) decisive

theorem ends_returned {made : ℕ} {start : List ℚ} {value : R} (allowed : made < policy.maxAttempts)
    (returned : outcomes made = .ok value) (earlier : ∀ call < made, Retried policy outcomes call) :
    Ends policy outcomes samples made start (.ok value) ⟨made + 1, start⟩ := by
  have decisive : ¬Retried policy outcomes made := not_retried_of_ok returned
  refine ⟨⟨?_, ?_, ?_⟩, slept_of_unretried decisive⟩
  · intro call other _ result before
    obtain rfl := first_unretried decisive earlier (not_retried_of_ok result) before
    rw [returned] at result
    cases result
    exact ⟨rfl, rfl⟩
  · intro call error _ result final before
    obtain rfl := first_unretried decisive earlier (not_retried_of_error result final) before
    rw [returned] at result
    cases result
  · intro all
    exact absurd (all made allowed) decisive

theorem ends_raised {made : ℕ} {start : List ℚ} {error : E} (allowed : made < policy.maxAttempts)
    (raised : outcomes made = .error error) (final : policy.retryable error = false)
    (earlier : ∀ call < made, Retried policy outcomes call) :
    Ends policy outcomes samples made start (.error (.raised error)) ⟨made + 1, start⟩ := by
  have decisive : ¬Retried policy outcomes made := not_retried_of_error raised final
  refine ⟨⟨?_, ?_, ?_⟩, slept_of_unretried decisive⟩
  · intro call value _ result before
    obtain rfl := first_unretried decisive earlier (not_retried_of_ok result) before
    rw [raised] at result
    cases result
  · intro call other _ result last before
    obtain rfl := first_unretried decisive earlier (not_retried_of_error result last) before
    rw [raised] at result
    cases result
    exact ⟨rfl, rfl⟩
  · intro all
    exact absurd (all made allowed) decisive

theorem ends_exhausted {made : ℕ} {start : List ℚ} {error : E} (last : made + 1 = policy.maxAttempts)
    (raised : outcomes made = .error error) (all : ∀ call < made + 1, Retried policy outcomes call) :
    Ends policy outcomes samples made start (.error (.retryExhausted policy.maxAttempts error)) ⟨made + 1, start⟩ := by
  refine ⟨⟨?_, ?_, ?_⟩, ?_⟩
  · intro call value below result _
    exact absurd (all call (last ▸ below)) (not_retried_of_ok result)
  · intro call other below result final _
    exact absurd (all call (last ▸ below)) (not_retried_of_error result final)
  · intro _
    have index : policy.maxAttempts - 1 = made := by omega
    exact ⟨error, index ▸ raised, rfl, last⟩
  · intro delay
    constructor
    · exact .inl
    · rintro (slept | ⟨number, later, sleeps, -⟩)
      · exact slept
      · have below := sleeps.2.1
        omega

section Rounds

variable {made remaining : ℕ} {start : List ℚ} {last : Option E} {error : E}

theorem run_round_returned {value : R} (returned : outcomes made = .ok value) :
    (policy.retryFrom (remaining + 1) (made + 1) last : Retrying E R R).run (retrying outcomes samples) ⟨made, start⟩ =
      (.ok value, ⟨made + 1, start⟩) := by
  rw [RetryPolicy.retryFrom, run_call]
  dsimp only [retrying]
  rw [returned]
  rfl

theorem run_round_raised (raised : outcomes made = .error error) (final : policy.retryable error = false) :
    (policy.retryFrom (remaining + 1) (made + 1) last : Retrying E R R).run (retrying outcomes samples) ⟨made, start⟩ =
      (.error (.raised error), ⟨made + 1, start⟩) := by
  rw [RetryPolicy.retryFrom, run_call]
  dsimp only [retrying]
  rw [raised]
  dsimp only
  rw [final]
  rfl

theorem run_round_exhausted (raised : outcomes made = .error error) (again : policy.retryable error = true)
    (final : made + 1 = policy.maxAttempts) :
    (policy.retryFrom (remaining + 1) (made + 1) last : Retrying E R R).run (retrying outcomes samples) ⟨made, start⟩ =
      (.error (.retryExhausted policy.maxAttempts error), ⟨made + 1, start⟩) := by
  rw [RetryPolicy.retryFrom, run_call]
  dsimp only [retrying]
  rw [raised]
  dsimp only
  rw [if_pos again, if_pos final]
  rfl

theorem run_round_again (raised : outcomes made = .error error) (again : policy.retryable error = true)
    (more : made + 1 ≠ policy.maxAttempts) :
    (policy.retryFrom (remaining + 1) (made + 1) last : Retrying E R R).run (retrying outcomes samples) ⟨made, start⟩ =
      (policy.retryFrom remaining (made + 2) (some error) : Retrying E R R).run (retrying outcomes samples)
        ⟨made + 1, start ++ [policy.delay (made + 1) (samples (made + 1))]⟩ := by
  rw [RetryPolicy.retryFrom, run_call]
  dsimp only [retrying]
  rw [raised]
  dsimp only
  rw [if_pos again, if_neg more, run_bind]
  exact congrArg (continueRun _ _) (run_delayForAttempt (made + 1) ⟨made + 1, start⟩)

end Rounds

theorem Ends.again {made : ℕ} {start : List ℚ} {result : Except (RetryCallError E) R} {final : RetryState}
    (sleeps : Sleeps policy outcomes (made + 1))
    (ends : Ends policy outcomes samples (made + 1) (start ++ [policy.delay (made + 1) (samples (made + 1))]) result final) :
    Ends policy outcomes samples made start result final := by
  refine ⟨ends.law, ?_⟩
  intro delay
  rw [ends.slept delay, List.mem_append, List.mem_singleton]
  constructor
  · rintro ((slept | same) | ⟨number, later, slept, same⟩)
    · exact .inl slept
    · exact .inr ⟨made + 1, Nat.lt_succ_self made, sleeps, same⟩
    · exact .inr ⟨number, by omega, slept, same⟩
  · rintro (slept | ⟨number, later, slept, same⟩)
    · exact .inl (.inl slept)
    · rcases Nat.eq_or_lt_of_le (Nat.succ_le_of_lt later) with next | beyond
      · subst next
        exact .inl (.inr same)
      · exact .inr ⟨number, beyond, slept, same⟩

theorem ends_retryFrom (remaining : ℕ) : ∀ (made : ℕ) (start : List ℚ) (last : Option E),
    made + (remaining + 1) = policy.maxAttempts → (∀ call < made, Retried policy outcomes call) →
      ∀ ended, ended = (policy.retryFrom (remaining + 1) (made + 1) last : Retrying E R R).run (retrying outcomes samples)
        ⟨made, start⟩ → Ends policy outcomes samples made start ended.1 ended.2 := by
  induction remaining with
  | zero =>
      intro made start last total earlier ended run
      subst run
      cases outcome : outcomes made with
      | ok value =>
          rw [run_round_returned outcome]
          exact ends_returned (by omega) outcome earlier
      | error error =>
          cases again : policy.retryable error with
          | false =>
              rw [run_round_raised outcome again]
              exact ends_raised (by omega) outcome again earlier
          | true =>
              rw [run_round_exhausted outcome again total]
              exact ends_exhausted total outcome (Nat.forall_lt_succ_right.mpr ⟨earlier, error, outcome, again⟩)
  | succ remaining recurse =>
      intro made start last total earlier ended run
      subst run
      cases outcome : outcomes made with
      | ok value =>
          rw [run_round_returned outcome]
          exact ends_returned (by omega) outcome earlier
      | error error =>
          cases again : policy.retryable error with
          | false =>
              rw [run_round_raised outcome again]
              exact ends_raised (by omega) outcome again earlier
          | true =>
              have all := Nat.forall_lt_succ_right.mpr ⟨earlier, error, outcome, again⟩
              rw [run_round_again outcome again (by omega)]
              apply Ends.again ⟨Nat.succ_pos made, by omega, all⟩
              exact recurse (made + 1) _ (some error) (by omega) all _ rfl

/-- What a retried call comes to, the function called how often, and the delays slept. -/
def retried (policy : RetryPolicy E) (outcomes : ℕ → Except E R) (samples : ℕ → ℚ) :
    Except (RetryCallError E) R × RetryState :=
  (policy.retryCall : Retrying E R R).run (retrying outcomes samples) ⟨0, []⟩

theorem ends_retried (policy : RetryPolicy E) (outcomes : ℕ → Except E R) (samples : ℕ → ℚ) :
    Ends policy outcomes samples 0 [] (retried policy outcomes samples).1 (retried policy outcomes samples).2 := by
  obtain ⟨remaining, attempts⟩ := Nat.exists_eq_add_of_le policy.maxAttempts_pos
  have loop : retried policy outcomes samples =
      (policy.retryFrom (remaining + 1) (0 + 1) none : Retrying E R R).run (retrying outcomes samples) ⟨0, []⟩ := by
    unfold retried RetryPolicy.retryCall
    rw [attempts, Nat.add_comm 1 remaining]
  exact ends_retryFrom remaining 0 [] none (by omega) (fun _ below => absurd below (Nat.not_lt_zero _)) _ loop

/-- Every delay that the loop sleeps is within the bounds, and the call comes to what the policy says. -/
structure RetriesBounded (policy : RetryPolicy E) (outcomes : ℕ → Except E R) (samples : ℕ → ℚ) : Prop where
  slept : ∀ delay ∈ (retried policy outcomes samples).2.slept, 0 ≤ delay ∧ delay ≤ policy.maxDelaySeconds
  law : RetryLaw policy outcomes (retried policy outcomes samples).1 (retried policy outcomes samples).2.called

/-- The delays are bounded exactly when each of them fits under the bound with its jitter. -/
theorem retries_bounded_iff (policy : RetryPolicy E) (outcomes : ℕ → Except E R) (samples : ℕ → ℚ)
    (drawn : ∀ number, 0 ≤ samples number ∧ samples number < 1) :
    RetriesBounded policy outcomes samples ↔
      ∀ number, Sleeps policy outcomes number → policy.Fits number (samples number) := by
  have ends := ends_retried policy outcomes samples
  constructor
  · intro bounded number sleeps
    have slept := (ends.slept _).mpr (.inr ⟨number, sleeps.1, sleeps, rfl⟩)
    exact (RetryPolicy.delay_le_iff number (drawn number).1).mp (bounded.slept _ slept).2
  · intro fits
    refine ⟨?_, ends.law⟩
    intro delay slept
    rcases (ends.slept delay).mp slept with never | ⟨number, -, sleeps, same⟩
    · cases never
    · subst same
      exact ⟨RetryPolicy.delay_nonneg number (drawn number).1,
        (RetryPolicy.delay_le_iff number (drawn number).1).mpr (fits number sleeps)⟩

/-- The default policy. -/
def defaultRetryPolicy (E : Type) : RetryPolicy E where
  maxAttempts := 3
  baseDelaySeconds := 1 / 2
  backoffMultiplier := 2
  maxDelaySeconds := 10
  jitter := true
  retryable := fun _ => true
  maxAttempts_pos := by decide
  baseDelaySeconds_nonneg := by norm_num
  one_le_backoffMultiplier := by norm_num
  baseDelay_le_maxDelay := by norm_num

theorem retries_bounded_sample :
    RetriesBounded (defaultRetryPolicy String) (fun _ => (.error "timeout" : Except String Unit)) fun _ => 1 / 2 := by
  apply (retries_bounded_iff _ _ _ fun _ => ⟨by norm_num, by norm_num⟩).mpr
  intro number sleeps
  right
  right
  have positive : 1 ≤ number := sleeps.1
  have below : number < 3 := sleeps.2.1
  interval_cases number <;> norm_num [RetryPolicy.rawDelay, defaultRetryPolicy]

/-- The delay of a policy that begins at its cap. -/
theorem jitter_over_cap :
    ∃ policy : RetryPolicy String, RetryPolicy.create 2 10 2 10 true (fun _ => true) = .ok policy ∧
      ¬RetriesBounded policy (fun _ => (.error "timeout" : Except String Unit)) fun _ => 1 / 2 := by
  refine ⟨_, rfl, ?_⟩
  intro bounded
  have slept := (bounded.slept (45 / 4) (by decide +kernel)).2
  norm_num at slept

end Runs

end AutomationHub.Utilities
