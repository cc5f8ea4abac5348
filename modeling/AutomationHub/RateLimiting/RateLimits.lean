import AutomationHub.RateLimiting.RateLimiterProperties
import Mathlib.Data.List.Infix

/-!
What the rate limiters promise of any sequence of calls, and where they differ: at the
edge of the window, which only the limiter in memory still counts.
-/

set_option autoImplicit false

namespace AutomationHub.RateLimiting

open Foundation Model Limiter

section Edges

/-- A call comes when the limit is reached in memory, just as its oldest hit turns as old as the window is long. -/
def OnEdge (limit : ℕ) (windowSeconds : ℚ) (before : List RateCall) (call : RateCall) : Prop :=
  let hits : String → List ℚ := (inMemoryRateLimiter limit windowSeconds).after before
  let kept := (hits call.key).dropWhile fun hit => hit < call.now - windowSeconds
  limit ≤ kept.length ∧ call.now - windowSeconds ∈ kept

instance (limit : ℕ) (windowSeconds : ℚ) (before : List RateCall) (call : RateCall) :
    Decidable (OnEdge limit windowSeconds before call) := inferInstanceAs (Decidable (_ ∧ _))

/-- The next call of a key that comes when a refusal has told it to come is accepted. -/
def RetriesAccepted (entries : List (RateCall × Except RateLimitExceededError Unit)) : Prop :=
  ∀ before first error between second verdict rest,
    entries = before ++ (first, .error error) :: between ++ (second, verdict) :: rest →
    (∀ entry ∈ between, entry.1.key ≠ first.key) → second.key = first.key →
    second.now = first.now + error.retryAfterSeconds → verdict = .ok ()

variable {category : String} {limit : ℕ} {windowSeconds : ℚ} {calls before : List RateCall} {call : RateCall}

theorem onEdge_iff (ordered : Ordered RateCall.now (before ++ [call])) :
    OnEdge limit windowSeconds before call ↔
      OnMargin RateCall.key RateCall.now (halfOpenWindow windowSeconds) (closedWindow windowSeconds) limit
        ((windowOf (closedWindow windowSeconds) limit windowSeconds).accepted before) call := by
  have remembers := (@inMemory_eq_window limit windowSeconds before ordered.before).2
  have pruned := dropWhile_eq_filter (remembers.sorted call.key) (call.now - windowSeconds)
  have agreed := remembers.agrees call.key call.now fun earlier present => ordered.le_last present
  have kept := pruned.trans agreed
  simp only [OnEdge, OnMargin, kept]
  refine and_congr Iff.rfl ?_
  constructor
  · intro member
    obtain ⟨present, counted⟩ := List.mem_filter.mp member
    exact ⟨_, present, counted, by simp [halfOpenWindow]⟩
  · rintro ⟨hit, present, counted, dropped⟩
    have edge : call.now - windowSeconds = hit := by
      have inside := closedWindow_iff.mp counted
      have outside : ¬ call.now - windowSeconds < hit := by simpa [halfOpenWindow] using dropped
      exact le_antisymm inside (not_lt.mp outside)
    rw [edge]
    exact List.mem_filter.mpr ⟨present, counted⟩

theorem retries_halfOpen (positive : 0 < limit) (ordered : Ordered RateCall.now calls) :
    RetriesAccepted ((windowOf (halfOpenWindow windowSeconds) limit windowSeconds).verdicts calls) := by
  intro before first error between second verdict rest parts others same retried
  have firstParts : (windowOf (halfOpenWindow windowSeconds) limit windowSeconds).verdicts calls =
      before ++ (first, .error error) :: (between ++ (second, verdict) :: rest) := by simp [parts]
  obtain ⟨-, refused⟩ := verdict_of_split _ firstParts
  obtain ⟨split, judged⟩ := verdict_of_split _ parts
  obtain ⟨full, reason⟩ := full_of_refused refused.symm
  have earlier : Ordered RateCall.now (before.map Prod.fst ++ first :: between.map Prod.fst ++ [second]) := by
    have whole : calls = (before.map Prod.fst ++ first :: between.map Prod.fst ++ [second]) ++ rest.map Prod.fst := by
      simp [split]
    rw [whole] at ordered
    exact (List.pairwise_append.mp ordered).1
  rw [judged, List.map_append, List.map_cons]
  refine accepted_after_refusal sliding_halfOpenWindow positive earlier refused.symm ?_ same ?_
  · intro other member
    obtain ⟨entry, present, rfl⟩ := List.mem_map.mp member
    exact others entry present
  · intro oldest found
    rw [reason] at retried
    simp only [refusal, found, retryAfter] at retried
    have reached := le_max_left (oldest + windowSeconds - first.now) minRetryAfterSeconds
    simp only [halfOpenWindow, decide_eq_false_iff_not, not_lt]
    linarith

end Edges

section Samples

def callAt (now : ℚ) (identifier : UUID) : RateCall := ⟨"10.0.0.1", now, identifier⟩

theorem admissible_callAt {first second third : ℚ} (ordered : first ≤ second ∧ first ≤ third ∧ second ≤ third) :
    Admissible [callAt first 1, callAt second 2, callAt third 3] := by
  constructor
  · simp [Ordered, callAt, ordered]
  · simp [callAt]

end Samples

section Limits

/-- What holds of any sliding window holds of a limiter with the same verdicts. -/
structure KeepsLimit (limiter : RateLimiter) (limit : ℕ) (windowSeconds : ℚ) (calls : List RateCall) : Prop where
  bounded : ∀ key start,
    ((hitsOf RateCall.key RateCall.now (limiter.accepted calls) key).filter
        fun hit => start ≤ hit ∧ hit < start + windowSeconds).length ≤ limit ∧
      ((hitsOf RateCall.key RateCall.now (limiter.accepted calls) key).filter
        fun hit => start < hit ∧ hit ≤ start + windowSeconds).length ≤ limit
  needed : ∀ before call error, before ++ [call] <+: calls → limiter.verdict before call = .error error →
    limit ≤ ((hitsOf RateCall.key RateCall.now (limiter.accepted before) call.key).filter
      fun hit => call.now - windowSeconds ≤ hit ∧ hit ≤ call.now).length
  independent : ∀ key (kept : List (RateCall × Except RateLimitExceededError Unit)),
    kept.Sublist (limiter.verdicts calls) →
    kept.filter (fun entry => entry.1.key = key ∧ entry.2.toBool = true) =
      (limiter.verdicts calls).filter (fun entry => entry.1.key = key ∧ entry.2.toBool = true) →
    (limiter.verdicts (kept.map Prod.fst)).filter (fun entry => entry.1.key = key) =
      kept.filter fun entry => entry.1.key = key

theorem Admissible.sublist {calls fewer : List RateCall} (admissible : Admissible calls) (part : fewer.Sublist calls) :
    Admissible fewer :=
  ⟨admissible.1.sublist part, admissible.2.sublist (part.map _)⟩

theorem keepsLimit_of_window {limiter : RateLimiter} {counts : ℚ → ℚ → Bool} {limit : ℕ} {windowSeconds : ℚ}
    (wide : ∀ now hit, now - windowSeconds < hit → counts now hit = true)
    (narrow : ∀ now hit, counts now hit = true → now - windowSeconds ≤ hit)
    (same : ∀ calls, Admissible calls → limiter.verdicts calls = (windowOf counts limit windowSeconds).verdicts calls)
    {calls : List RateCall} (admissible : Admissible calls) : KeepsLimit limiter limit windowSeconds calls := by
  constructor
  · intro key start
    rw [accepted_congr (same calls admissible)]
    constructor
    · refine accepted_within _ ?_ key calls admissible.1
      intro hit now before first second
      simp only [decide_eq_true_eq] at first second
      refine wide now hit ?_
      linarith [first.1, second.2]
    · refine accepted_within _ ?_ key calls admissible.1
      intro hit now before first second
      simp only [decide_eq_true_eq] at first second
      refine wide now hit ?_
      linarith [first.1, second.2]
  · intro before call error reached refused
    have onward : Admissible (before ++ [call]) := admissible.sublist reached.sublist
    rw [verdict_congr (same _ onward)] at refused
    rw [accepted_congr (same before onward.earlier)]
    have full := (full_of_refused refused).1
    have counted : ∀ hit ∈ hitsOf RateCall.key RateCall.now ((windowOf counts limit windowSeconds).accepted before)
        call.key, counts call.now hit = true → decide (call.now - windowSeconds ≤ hit ∧ hit ≤ call.now) = true := by
      intro hit member counted
      exact decide_eq_true ⟨narrow _ _ counted, hit_le_last onward.1 _ member⟩
    have more := List.countP_mono_left counted
    rw [List.countP_eq_length_filter, List.countP_eq_length_filter] at more
    exact full.trans more
  · intro key kept part complete
    have fewer : (kept.map Prod.fst).Sublist calls := by
      have mapped := part.map Prod.fst
      rwa [map_fst_verdicts] at mapped
    rw [same _ (admissible.sublist fewer)]
    rw [same calls admissible] at part complete
    exact verdicts_of_kept key calls part complete

end Limits

end AutomationHub.RateLimiting
