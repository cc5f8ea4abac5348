import AutomationHub.Foundation.Program
import Mathlib.Data.List.Infix

/-!
Calls struck by failures, and histories of operations made one after another.

A struck call replies with its fault; what it asked for may have been done all the
same.
-/

set_option autoImplicit false

namespace AutomationHub.Foundation

/-- The calls that fail, each with its fault and whether it was carried out. -/
structure Failures {Call ε : Type} (struck : Call → ε → Bool) where
  strike : Call → Option (ε × Bool)
  possible : ∀ call fault carried, strike call = some (fault, carried) → struck call fault = true

namespace Failures

variable {Call ε σ : Type} {Result : Call → Type} {struck : Call → ε → Bool}

/-- No call fails. -/
def none (struck : Call → ε → Bool) : Failures struck where
  strike := fun _ => Option.none
  possible := by
    intro _ _ _ same
    cases same

def answers (failures : Failures struck) (call : Call) : Bool := (failures.strike call).isNone

def carriesOut (failures : Failures struck) (call : Call) : Bool := (failures.strike call).all (·.2)

/-- Reply to each call as its failure says; a call that is not carried out leaves the state as `pass` does. -/
def handler (failures : Failures struck) (execute : (call : Call) → σ → Except ε (Result call) × σ) (pass : σ → σ) :
    Handler ⟨Call, fun call => Except ε (Result call)⟩ σ := fun call state =>
  ((failures.strike call).elim (execute call state).1 fun failure => .error failure.1,
    if failures.carriesOut call then (execute call state).2 else pass state)

variable {failures : Failures struck} {execute : (call : Call) → σ → Except ε (Result call) × σ} {pass : σ → σ}
  {call : Call} {state : σ}

theorem carriesOut_of_answers (answered : failures.answers call = true) : failures.carriesOut call = true := by
  rw [carriesOut, Option.isNone_iff_eq_none.mp answered, Option.all_none]

theorem handler_of_answers (answered : failures.answers call = true) :
    failures.handler execute pass call state = execute call state := by
  rw [handler, carriesOut_of_answers answered, Option.isNone_iff_eq_none.mp answered]
  rfl

/-- The reply to a struck call is a fault that can strike it. -/
theorem handler_of_struck (failed : failures.answers call = false) : ∃ fault, struck call fault = true ∧
    failures.handler execute pass call state =
      (.error fault, if failures.carriesOut call then (execute call state).2 else pass state) := by
  cases strike : failures.strike call with
  | none => simp [answers, strike] at failed
  | some failure =>
      refine ⟨failure.1, failures.possible call failure.1 failure.2 strike, ?_⟩
      rw [handler, strike]
      rfl

theorem answers_of_unstruck (spared : ∀ fault, struck call fault = false) : failures.answers call = true := by
  cases strike : failures.strike call with
  | none => simp [answers, strike]
  | some failure =>
      have possible := failures.possible call failure.1 failure.2 strike
      rw [spared] at possible
      cases possible

/-- The state after a call is the one that its execution leaves, or the one that passing over it leaves. -/
theorem handler_state : (failures.handler execute pass call state).2 = (execute call state).2 ∨
    (failures.handler execute pass call state).2 = pass state := by
  unfold handler
  cases failures.carriesOut call
  · exact .inr rfl
  · exact .inl rfl

/-- What an execution leaves of something that passing over the call keeps. -/
theorem handler_carried {β : Type} (part : σ → β) (passed : part (pass state) = part state) :
    part (failures.handler execute pass call state).2 =
      if failures.carriesOut call then part (execute call state).2 else part state := by
  unfold handler
  cases failures.carriesOut call
  · exact passed
  · rfl

theorem handler_kept {β : Type} (part : σ → β) (executed : part (execute call state).2 = part state)
    (passed : part (pass state) = part state) : part (failures.handler execute pass call state).2 = part state := by
  rw [handler_carried part passed, executed, ite_self]

end Failures

/-- One call, answered by a handler, whose failure is raised. -/
theorem Program.ensures_fallible_ofHandler {Call ε σ : Type} {Result : Call → Type}
    {handler : Handler ⟨Call, fun call => Except ε (Result call)⟩ σ} {state : σ} {request : Call}
    {next : Except ε (Result request) → Program ⟨Call, fun call => Except ε (Result call)⟩ ε (Result request)}
    (raising : ∀ reply, next reply = ofExcept reply) (post : Except ε (Result request) → σ → Prop) :
    (Program.call request next).Ensures (.ofHandler handler) post state ↔
      post (handler request state).1 (handler request state).2 := by
  rw [ensures_call_ofHandler, raising]
  cases (handler request state).1 <;> exact Iff.rfl

namespace History

variable {σ χ : Type} (step : σ → χ → σ)

def reached (start : σ) (history : List χ) : σ := history.foldl step start

@[simp] theorem reached_nil (start : σ) : reached step start [] = start := rfl

@[simp] theorem reached_concat (start : σ) (earlier : List χ) (choice : χ) :
    reached step start (earlier ++ [choice]) = step (reached step start earlier) choice := by
  rw [reached, List.foldl_append]
  rfl

/-- Some operation of the history is such an event in the state in which it is made. -/
def Occurs (event : σ → χ → Prop) (start : σ) (history : List χ) : Prop :=
  ∃ earlier choice, earlier ++ [choice] <+: history ∧ event (reached step start earlier) choice

/-- Every operation of the history meets the law in the state in which it is made. -/
def Throughout (law : σ → χ → Prop) (start : σ) (history : List χ) : Prop :=
  ∀ earlier choice, earlier ++ [choice] <+: history → law (reached step start earlier) choice

variable {step} {event law : σ → χ → Prop} {start : σ} {history : List χ}

theorem prefix_concat_iff {earlier : List χ} {choice last : χ} :
    earlier ++ [choice] <+: history ++ [last] ↔ earlier ++ [choice] <+: history ∨ earlier = history ∧ choice = last := by
  rw [List.prefix_concat_iff]
  simp [or_comm]

@[simp] theorem not_occurs_nil : ¬ Occurs step event start [] := by
  rintro ⟨earlier, choice, before, -⟩
  simp at before

@[simp] theorem occurs_concat {choice : χ} : Occurs step event start (history ++ [choice]) ↔
    Occurs step event start history ∨ event (reached step start history) choice := by
  constructor
  · rintro ⟨earlier, other, before, happened⟩
    rcases prefix_concat_iff.mp before with inside | ⟨rfl, rfl⟩
    · exact .inl ⟨earlier, other, inside, happened⟩
    · exact .inr happened
  · rintro (⟨earlier, other, before, happened⟩ | happened)
    · exact ⟨earlier, other, prefix_concat_iff.mpr (.inl before), happened⟩
    · exact ⟨history, choice, List.prefix_refl _, happened⟩

@[simp] theorem throughout_nil : Throughout step law start [] := by
  intro earlier choice before
  simp at before

@[simp] theorem throughout_concat {choice : χ} : Throughout step law start (history ++ [choice]) ↔
    Throughout step law start history ∧ law (reached step start history) choice := by
  constructor
  · intro throughout
    refine ⟨?_, throughout history choice (List.prefix_refl _)⟩
    intro earlier other before
    exact throughout earlier other (prefix_concat_iff.mpr (.inl before))
  · rintro ⟨throughout, last⟩ earlier other before
    rcases prefix_concat_iff.mp before with inside | ⟨rfl, rfl⟩
    · exact throughout earlier other inside
    · exact last

/-- Along a history that meets the law, what the operations that meet the law keep. -/
theorem reached_of_throughout {inv : σ → Prop} (kept : ∀ state choice, inv state → law state choice → inv (step state choice))
    (throughout : Throughout step law start history) (holds : inv start) {earlier : List χ} (before : earlier <+: history) :
    inv (reached step start earlier) := by
  induction earlier using List.reverseRecOn with
  | nil => exact holds
  | append_singleton first last recurse =>
      rw [reached_concat]
      exact kept _ _ (recurse ((List.prefix_append _ _).trans before)) (throughout first last before)

/-- A law that each state met along the way turns into a condition holds throughout exactly if the condition does. -/
theorem throughout_iff {condition : σ → χ → Prop} {inv : σ → Prop}
    (agree : ∀ state choice, inv state → (law state choice ↔ condition state choice))
    (kept : ∀ state choice, inv state → law state choice → inv (step state choice)) (holds : inv start) :
    Throughout step law start history ↔ Throughout step condition start history := by
  constructor
  · intro throughout earlier choice before
    have reached := reached_of_throughout kept throughout holds ((List.prefix_append _ _).trans before)
    exact (agree _ choice reached).mp (throughout earlier choice before)
  · intro throughout earlier choice before
    have keeps : ∀ state choice, inv state → condition state choice → inv (step state choice) := by
      intro state choice met conditioned
      exact kept state choice met ((agree state choice met).mpr conditioned)
    have reached := reached_of_throughout keeps throughout holds ((List.prefix_append _ _).trans before)
    exact (agree _ choice reached).mpr (throughout earlier choice before)

end History

end AutomationHub.Foundation
