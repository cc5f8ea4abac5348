import Mathlib.Data.Nat.Find

/-!
Bounded retries over a transport that may lose a call or its response.

An attempt first lets the others act, then reaches the server or does not, and
its response arrives or does not.  Only a transport failure is tried again.
-/

set_option autoImplicit false

namespace AutomationHub.Foundation

/-- What the transport does with one attempt. -/
inductive Fate where
  | delivered
  | unreachable
  | responseLost
deriving DecidableEq

/-- What others do to the state before an attempt, and the fate of the attempt. -/
structure Attempt (σ : Type) where
  others : σ → σ
  fate : Fate

/-- Why an attempt raised: the transport failed, or the server refused. -/
inductive Failure (ε : Type) where
  | transient
  | permanent (error : ε)

namespace Attempt

variable {σ ε α : Type}

/-- One attempt at a statement. -/
def send (attempt : Attempt σ) (statement : σ → Except ε α × σ) (state : σ) : Except (Failure ε) α × σ :=
  match attempt.fate with
  | .delivered =>
      ((statement (attempt.others state)).1.mapError .permanent, (statement (attempt.others state)).2)
  | .unreachable => (.error .transient, attempt.others state)
  | .responseLost => (.error .transient, (statement (attempt.others state)).2)

/-- The state that an attempt leaves, whether or not its response arrives. -/
def leave (attempt : Attempt σ) (statement : σ → Except ε α × σ) (state : σ) : σ :=
  if attempt.fate = .unreachable then attempt.others state else (statement (attempt.others state)).2

end Attempt

/-- Call `func` until it returns, raises a permanent error, or no attempt remains; the attempts are numbered from
`number` on. -/
def retryCall {σ ε α : Type} (func : ℕ → σ → Except (Failure ε) α × σ) :
    (number remaining : ℕ) → σ → Except (Option ε) α × σ
  | _, 0, state => (.error none, state)
  | number, remaining + 1, state =>
      match func number state with
      | (.ok value, after) => (.ok value, after)
      | (.error (.permanent error), after) => (.error (some error), after)
      | (.error .transient, after) => retryCall func (number + 1) remaining after

section Transport

variable {σ ε α : Type} (attempts : ℕ → Attempt σ) (statement : σ → Except ε α × σ)

/-- The state after the attempts below `count`. -/
def leaveAll : ℕ → σ → σ
  | 0, state => state
  | count + 1, state => (attempts count).leave statement (leaveAll count state)

/-- No response arrives to the attempts below `count`. -/
def Unanswered (count : ℕ) : Prop := ∀ number < count, (attempts number).fate ≠ .delivered

/-- How a retried statement ends: the response to one attempt arrives, or every attempt is lost. -/
inductive Answered (limit : ℕ) (start : σ) : Except (Option ε) α × σ → Prop
  | answer (number : ℕ) (allowed : number < limit) (earlier : Unanswered attempts number)
      (delivered : (attempts number).fate = .delivered) :
      Answered limit start
        ((statement ((attempts number).others (leaveAll attempts statement number start))).1.mapError some,
          (statement ((attempts number).others (leaveAll attempts statement number start))).2)
  | exhausted (all : Unanswered attempts limit) :
      Answered limit start (.error none, leaveAll attempts statement limit start)

variable {attempts statement}

theorem leaveAll_succ (attempts : ℕ → Attempt σ) (statement : σ → Except ε α × σ) (count : ℕ) (state : σ) :
    leaveAll attempts statement (count + 1) state =
      (attempts count).leave statement (leaveAll attempts statement count state) := rfl

theorem Attempt.leave_of_unreachable {attempt : Attempt σ} {state : σ} (silent : attempt.fate = .unreachable) :
    attempt.leave statement state = attempt.others state := if_pos silent

theorem Attempt.leave_of_reached {attempt : Attempt σ} {state : σ} (reached : attempt.fate ≠ .unreachable) :
    attempt.leave statement state = (statement (attempt.others state)).2 := if_neg reached

theorem Unanswered.succ {count : ℕ} (earlier : Unanswered attempts count) (lost : (attempts count).fate ≠ .delivered) :
    Unanswered attempts (count + 1) := by
  intro number below
  rcases Nat.lt_succ_iff_lt_or_eq.mp below with less | rfl
  · exact earlier number less
  · exact lost

theorem Attempt.send_lost {attempt : Attempt σ} {state : σ} (lost : attempt.fate ≠ .delivered) :
    attempt.send statement state = (.error .transient, attempt.leave statement state) := by
  unfold Attempt.send Attempt.leave
  cases fate : attempt.fate with
  | delivered => exact absurd fate lost
  | unreachable => rfl
  | responseLost => rfl

private theorem retryCall_answered (limit : ℕ) (start : σ) :
    ∀ number remaining, number + remaining = limit → Unanswered attempts number →
      Answered attempts statement limit start
        (retryCall (fun number => (attempts number).send statement) number remaining
          (leaveAll attempts statement number start)) := by
  intro number remaining
  induction remaining generalizing number with
  | zero =>
      intro total earlier
      obtain rfl : number = limit := total
      exact .exhausted earlier
  | succ remaining recurse =>
      intro total earlier
      by_cases delivered : (attempts number).fate = .delivered
      · have answer := @Answered.answer σ ε α attempts statement limit start number (by omega) earlier delivered
        have sent : (attempts number).send statement (leaveAll attempts statement number start) =
            ((statement ((attempts number).others (leaveAll attempts statement number start))).1.mapError .permanent,
              (statement ((attempts number).others (leaveAll attempts statement number start))).2) := by
          unfold Attempt.send
          rw [delivered]
        unfold retryCall
        rw [sent]
        cases reply : (statement ((attempts number).others (leaveAll attempts statement number start))).1 with
        | ok value =>
            rw [reply] at answer
            exact answer
        | error error =>
            rw [reply] at answer
            exact answer
      · have later := recurse (number + 1) (by omega) (earlier.succ delivered)
        unfold retryCall
        rw [Attempt.send_lost delivered]
        exact later

/-- A retried statement is answered once, or every attempt is lost. -/
theorem retryCall_cases (attempts : ℕ → Attempt σ) (statement : σ → Except ε α × σ) (limit : ℕ) (start : σ) :
    Answered attempts statement limit start
      (retryCall (fun number => (attempts number).send statement) 0 limit start) :=
  retryCall_answered limit start 0 limit (Nat.zero_add _) fun _ below => absurd below (Nat.not_lt_zero _)

/-- The state at the end is the one that the attempts made leave; only the last of them may be answered. -/
theorem Answered.leaves {limit : ℕ} {start : σ} {outcome : Except (Option ε) α × σ}
    (answered : Answered attempts statement limit start outcome) :
    ∃ made ≤ limit, outcome.2 = leaveAll attempts statement made start ∧ Unanswered attempts (made - 1) ∧
      ∀ number < limit, Unanswered attempts number → number < made := by
  cases answered with
  | answer number allowed earlier delivered =>
      refine ⟨number + 1, allowed, ?_, earlier, ?_⟩
      · have reached : (attempts number).fate ≠ .unreachable := by simp [delivered]
        rw [leaveAll_succ, Attempt.leave_of_reached reached]
      · intro other _ silent
        by_contra beyond
        exact silent number (by omega) delivered
  | exhausted all =>
      refine ⟨limit, le_refl limit, rfl, ?_, fun number below _ => below⟩
      exact fun number below => all number (by omega)

end Transport

end AutomationHub.Foundation
