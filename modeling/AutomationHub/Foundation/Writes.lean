import AutomationHub.Foundation.TwoRuns
import Mathlib.Data.List.TakeWhile

/-!
The writes of a run in which writes may fail.

A failed write changes nothing, and a program that stops at its first failed write leaves
the earlier ones in force.
-/

set_option autoImplicit false

namespace AutomationHub.Foundation

/-- Which calls write, and which replies say that what was asked for has been done. -/
structure WriteRule (sig : Signature) where
  writes : sig.Call → Bool
  effective : (request : sig.Call) → sig.Reply request → Bool

/-- The writes that fail, each with its reply. -/
structure Outage {sig : Signature} (rule : WriteRule sig) where
  reply : (request : sig.Call) → Option (sig.Reply request)
  strikes : ∀ request, rule.writes request = false → reply request = none
  ineffective : ∀ request failed, reply request = some failed → rule.effective request failed = false

/-- The first of the calls fails, or none of them does. -/
def Outage.Spares {sig : Signature} {rule : WriteRule sig} (outage : Outage rule) (calls : List sig.Call) : Prop :=
  (∀ first ∈ calls.head?, (outage.reply first).isSome = true) ∨ ∀ request ∈ calls, outage.reply request = none

/-- All of the calls are in force, or none of them is. -/
def AllOrNone {γ : Type} (calls inForce : List γ) : Prop :=
  (∀ request ∈ calls, request ∈ inForce) ∨ ∀ request ∈ calls, request ∉ inForce

theorem allOrNone_nil {γ : Type} (calls : List γ) : AllOrNone calls [] :=
  .inr fun _ _ => List.not_mem_nil

/-- The calls up to the first failure are all of them or none where none fails or the first does. -/
theorem allOrNone_takeWhile_iff {γ : Type} (calls : List γ) (succeeds : γ → Bool) :
    AllOrNone calls (calls.takeWhile succeeds) ↔
      (∀ first ∈ calls.head?, succeeds first = false) ∨ ∀ request ∈ calls, succeeds request = true := by
  cases calls with
  | nil => exact iff_of_true (allOrNone_nil _) (.inl fun _ none => nomatch none)
  | cons first later =>
      cases succeeded : succeeds first with
      | false =>
          rw [List.takeWhile_cons_of_neg (by simp [succeeded])]
          exact iff_of_true (allOrNone_nil _) (.inl (by simp [succeeded]))
      | true =>
          have kept : first ∈ (first :: later).takeWhile succeeds := by simp [succeeded]
          constructor
          · rintro (all | none)
            · exact .inr fun request member => List.mem_takeWhile_imp (all request member)
            · exact absurd kept (none first List.mem_cons_self)
          · rintro (failed | all)
            · exact absurd (failed first rfl) (by simp [succeeded])
            · left
              rw [List.takeWhile_eq_self_iff.mpr all]
              exact fun _ member => member

theorem planned_and {γ : Type} (left right : Bool) (planned : List γ) :
    (if (left && right) = true then planned else []) =
      if left = true then (if right = true then planned else []) else [] := by
  cases left <;> rfl

namespace Program

variable {sig : Signature} {σ ε α β : Type} {rule : WriteRule sig}

def failing (outage : Outage rule) (handler : Handler sig σ) : Handler sig σ :=
  fun request state =>
    match outage.reply request with
    | some failed => (failed, state)
    | none => handler request state

/-- The writes of a run that took effect, in order. -/
def written (rule : WriteRule sig) (handler : Handler sig σ) : Program sig ε α → σ → List sig.Call
  | .done _, _ => []
  | .raised _, _ => []
  | .call request next, state =>
      (if rule.writes request && rule.effective request (handler request state).1 then [request] else []) ++
        (next (handler request state).1).written rule handler (handler request state).2

/-- Where no write before it fails, each of the planned writes is made in turn; none follows a failed one. -/
def Plans (rule : WriteRule sig) (handler : Handler sig σ) (program : Program sig ε α) (state : σ)
    (planned : List sig.Call) : Prop :=
  ∀ outage : Outage rule,
    program.written rule (failing outage handler) state = planned.takeWhile fun request => (outage.reply request).isNone

/-- The program writes nothing and ends so, whatever fails. -/
def Reaches (rule : WriteRule sig) (handler : Handler sig σ) (program : Program sig ε α) (state : σ)
    (result : Except ε α) (after : σ) : Prop :=
  ∀ outage : Outage rule, program.run (failing outage handler) state = (result, after) ∧
    program.written rule (failing outage handler) state = []

/-- No write fails. -/
def Outage.none (rule : WriteRule sig) : Outage rule where
  reply := fun _ => .none
  strikes := fun _ _ => rfl
  ineffective := fun _ _ struck => nomatch struck

theorem failing_none (handler : Handler sig σ) : failing (Outage.none rule) handler = handler := rfl

theorem Reaches.run {program : Program sig ε α} {handler : Handler sig σ} {state after : σ} {result : Except ε α}
    (reached : program.Reaches rule handler state result after) : program.run handler state = (result, after) := by
  have ended := (reached (Outage.none rule)).1
  rwa [failing_none] at ended

/-- The program writes nothing and raises. -/
def Quits (rule : WriteRule sig) : Program sig ε α → Prop
  | .done _ => False
  | .raised _ => True
  | .call request next => rule.writes request = false ∧ ∀ reply, (next reply).Quits rule

variable {handler : Handler sig σ} {state after : σ} {planned : List sig.Call}

theorem written_bind (program : Program sig ε α) (next : α → Program sig ε β) (state : σ) :
    (program >>= next).written rule handler state = program.written rule handler state ++
      (match program.run handler state with
        | (.ok value, after) => (next value).written rule handler after
        | (.error _, _) => []) := by
  induction program generalizing state with
  | done value => rfl
  | raised error => rfl
  | call request first recurse =>
      rw [call_bind, written, written, recurse, run_call, List.append_assoc]

theorem written_quits {program : Program sig ε α} (quits : program.Quits rule) (next : α → Program sig ε β) (state : σ) :
    (program >>= next).written rule handler state = [] := by
  induction program generalizing state with
  | done value => exact quits.elim
  | raised error => rfl
  | call request first recurse =>
      rw [call_bind, written, quits.1, recurse _ (quits.2 _)]
      rfl

theorem plans_done (value : α) : (.done value : Program sig ε α).Plans rule handler state [] :=
  fun _ => rfl

theorem plans_raised (error : ε) : (.raised error : Program sig ε α).Plans rule handler state [] :=
  fun _ => rfl

theorem Reaches.plans {program : Program sig ε α} {value : α} {next : α → Program sig ε β}
    (reached : program.Reaches rule handler state (.ok value) after) (rest : (next value).Plans rule handler after planned) :
    (program >>= next).Plans rule handler state planned := by
  intro outage
  obtain ⟨returned, nothing⟩ := reached outage
  rw [written_bind, returned, nothing]
  exact rest outage

theorem Reaches.plans_nothing {program : Program sig ε α} {error : ε} {next : α → Program sig ε β}
    (reached : program.Reaches rule handler state (.error error) after) :
    (program >>= next).Plans rule handler state [] := by
  intro outage
  obtain ⟨raised, nothing⟩ := reached outage
  rw [written_bind, raised, nothing]
  rfl

theorem reaches_done (value : α) : (.done value : Program sig ε α).Reaches rule handler state (.ok value) state :=
  fun _ => ⟨rfl, rfl⟩

theorem reaches_raised (error : ε) : (.raised error : Program sig ε α).Reaches rule handler state (.error error) state :=
  fun _ => ⟨rfl, rfl⟩

theorem Reaches.bind {program : Program sig ε α} {value : α} {next : α → Program sig ε β} {last : σ}
    {result : Except ε β} (reached : program.Reaches rule handler state (.ok value) after)
    (rest : (next value).Reaches rule handler after result last) :
    (program >>= next).Reaches rule handler state result last := by
  intro outage
  obtain ⟨returned, nothing⟩ := reached outage
  rw [run_bind, written_bind, returned, nothing]
  exact rest outage

theorem Reaches.bind_error {program : Program sig ε α} {error : ε} {next : α → Program sig ε β}
    (reached : program.Reaches rule handler state (.error error) after) :
    (program >>= next).Reaches rule handler state (.error error) after := by
  intro outage
  obtain ⟨raised, nothing⟩ := reached outage
  rw [run_bind, written_bind, raised, nothing]
  exact ⟨rfl, rfl⟩

/-- What was found is kept if it meets a condition. -/
theorem Reaches.kept {program : Program sig ε α} {found : Option α} {missing : ε}
    (reached : program.Reaches rule handler state (found.elim (.error missing) .ok) after) (keeps : α → Prop)
    [DecidablePred keeps] (refusal : ε) {next : α → Program sig ε α}
    (keeping : ∀ value, next value = if keeps value then .done value else .raised refusal) :
    ∃ result, (program >>= next).Reaches rule handler state result after ∧
      result.toOption = found.filter fun value => decide (keeps value) := by
  cases found with
  | none => exact ⟨_, reached.bind_error, rfl⟩
  | some value =>
      by_cases holds : keeps value
      · refine ⟨.ok value, reached.bind ?_, ?_⟩
        · rw [keeping, if_pos holds]
          exact reaches_done value
        · simp [Except.toOption, Option.filter, holds]
      · refine ⟨.error refusal, reached.bind ?_, ?_⟩
        · rw [keeping, if_neg holds]
          exact reaches_raised refusal
        · simp [Except.toOption, Option.filter, holds]

/-- A call that writes nothing. -/
theorem reaches_call {request : sig.Call} {next : sig.Reply request → Program sig ε α} {result : Except ε α} {last : σ}
    (reads : rule.writes request = false)
    (rest : (next (handler request state).1).Reaches rule handler (handler request state).2 result last) :
    (Program.call request next).Reaches rule handler state result last := by
  intro outage
  have answered : failing outage handler request state = handler request state := by
    rw [failing, outage.strikes request reads]
  rw [run_call, written, answered, reads]
  exact rest outage

/-- A write that is made, unless it fails; then the program writes nothing more. -/
theorem plans_write {request : sig.Call} {first : sig.Reply request → Program sig ε α} {next : α → Program sig ε β}
    {value : α} (writes : rule.writes request = true)
    (stops : ∀ reply, rule.effective request reply = false → (first reply).Quits rule)
    (done : rule.effective request (handler request state).1 = true)
    (returns : first (handler request state).1 = .done value)
    (rest : (next value).Plans rule handler (handler request state).2 planned) :
    (Program.call request first >>= next).Plans rule handler state (request :: planned) := by
  intro outage
  rw [call_bind, written, writes, Bool.true_and]
  cases struck : outage.reply request with
  | some failed =>
      have answered : failing outage handler request state = (failed, state) := by rw [failing, struck]
      rw [answered, outage.ineffective request failed struck, written_quits (stops failed (outage.ineffective _ _ struck)),
        List.takeWhile_cons_of_neg (by simp [struck])]
      rfl
  | none =>
      have answered : failing outage handler request state = handler request state := by rw [failing, struck]
      rw [answered, done, returns, List.takeWhile_cons_of_pos (by simp [struck]), if_pos rfl]
      exact congrArg _ (rest outage)

/-- A write that is refused. -/
theorem plans_refused {request : sig.Call} {first : sig.Reply request → Program sig ε α} {next : α → Program sig ε β}
    (stops : ∀ reply, rule.effective request reply = false → (first reply).Quits rule)
    (refused : rule.effective request (handler request state).1 = false) :
    (Program.call request first >>= next).Plans rule handler state [] := by
  intro outage
  rw [call_bind, written]
  cases struck : outage.reply request with
  | some failed =>
      have answered : failing outage handler request state = (failed, state) := by rw [failing, struck]
      rw [answered, outage.ineffective request failed struck, written_quits (stops failed (outage.ineffective _ _ struck)),
        Bool.and_false]
      rfl
  | none =>
      have answered : failing outage handler request state = handler request state := by rw [failing, struck]
      rw [answered, refused, written_quits (stops _ refused), Bool.and_false]
      rfl

/-- Where a write of the unit is not even planned, none of them is in force only if the first one fails. -/
theorem Plans.allOrNone_short_iff {program : Program sig ε α} {first omitted : sig.Call} {calls : List sig.Call}
    (plans : program.Plans rule handler state [first]) (begins : first ∈ calls) (wanted : omitted ∈ calls)
    (apart : omitted ≠ first) (outage : Outage rule) :
    AllOrNone calls (program.written rule (failing outage handler) state) ↔ (outage.reply first).isSome = true := by
  rw [plans outage]
  cases struck : outage.reply first with
  | some failed => simp [struck, allOrNone_nil]
  | none =>
      simp only [List.takeWhile_cons, struck, Option.isNone_none, if_true, List.takeWhile_nil, Option.isSome_none,
        Bool.false_eq_true, iff_false]
      rintro (all | none)
      · exact apart (List.mem_singleton.mp (all omitted wanted))
      · exact none first begins (List.mem_singleton.mpr rfl)

/-- The writes planned behind a check are all in force at the end, or none is, where the check refuses them, none of them
fails or the first does. -/
theorem Plans.allOrNone_iff {program : Program sig ε α} {permitted : Bool}
    (plans : program.Plans rule handler state (if permitted = true then planned else [])) (outage : Outage rule) :
    AllOrNone planned (program.written rule (failing outage handler) state) ↔
      permitted = false ∨ outage.Spares planned := by
  rw [plans outage]
  cases permitted with
  | false => exact iff_of_true (allOrNone_nil planned) (.inl rfl)
  | true =>
      rw [if_pos rfl, allOrNone_takeWhile_iff]
      simp [Outage.Spares]

/-- The check writes nothing, and passes where it is permitted, in one of the later states. -/
def Checks (rule : WriteRule sig) (handler : Handler sig σ) (check : Program sig ε Unit) (state : σ) (permitted : Bool)
    (later : σ → Prop) : Prop :=
  ∃ result after, check.Reaches rule handler state result after ∧ result.toBool = permitted ∧
    (permitted = true → later after)

section Checks

variable {later : σ → Prop} {permitted : Bool}

theorem checks_guard (error : ε) (holds : later state) :
    (if permitted = true then (.done () : Program sig ε Unit) else .raised error).Checks rule handler state permitted
      later := by
  cases permitted with
  | true => exact ⟨_, state, reaches_done (), rfl, fun _ => holds⟩
  | false => exact ⟨_, state, reaches_raised error, rfl, fun passed => nomatch passed⟩

theorem checks_refused (error : ε) : (.raised error : Program sig ε Unit).Checks rule handler state false later :=
  ⟨_, state, reaches_raised error, rfl, fun passed => nomatch passed⟩

theorem Checks.read {program : Program sig ε α} {next : α → Program sig ε Unit} {value : α}
    (reached : program.Reaches rule handler state (.ok value) after)
    (checks : (next value).Checks rule handler after permitted later) :
    (program >>= next).Checks rule handler state permitted later := by
  obtain ⟨result, last, rest, same, holds⟩ := checks
  exact ⟨result, last, reached.bind rest, same, holds⟩

theorem Checks.unread {program : Program sig ε α} {next : α → Program sig ε Unit} {error : ε}
    (reached : program.Reaches rule handler state (.error error) after) :
    (program >>= next).Checks rule handler state false later :=
  ⟨_, after, reached.bind_error, rfl, fun passed => nomatch passed⟩

/-- A check that passes lets the writes behind it be planned. -/
theorem Checks.plans {check : Program sig ε Unit} {next : Unit → Program sig ε β}
    (checks : check.Checks rule handler state permitted later)
    (rest : ∀ after, permitted = true → later after → (next ()).Plans rule handler after planned) :
    (check >>= next).Plans rule handler state (if permitted = true then planned else []) := by
  obtain ⟨result, after, reached, rfl, holds⟩ := checks
  cases result with
  | error error => exact reached.plans_nothing
  | ok value => exact reached.plans (rest after rfl (holds rfl))

end Checks

section Fallible

variable {Call : Type} {Result : Call → Type} {writes : Call → Bool}

/-- A reply that is no error says that the call has been done. -/
def fallibleRule (ε : Type) (Result : Call → Type) (writes : Call → Bool) :
    WriteRule ⟨Call, fun call => Except ε (Result call)⟩ :=
  ⟨writes, fun _ reply => reply.toBool⟩

variable {handler : Handler ⟨Call, fun call => Except ε (Result call)⟩ σ} {state after : σ} {planned : List Call}
  {request : Call} {first : Except ε (Result request) → Program ⟨Call, fun call => Except ε (Result call)⟩ ε α}
  {next : α → Program ⟨Call, fun call => Except ε (Result call)⟩ ε β} {result : Result request} {value : α}

theorem plans_fallible (isWrite : writes request = true)
    (stops : ∀ fault, (first (.error fault)).Quits (fallibleRule ε Result writes))
    (answered : handler request state = (.ok result, after)) (returns : first (.ok result) = .done value)
    (rest : (next value).Plans (fallibleRule ε Result writes) handler after planned) :
    (Program.call request first >>= next).Plans (fallibleRule ε Result writes) handler state (request :: planned) := by
  apply plans_write isWrite
  · rintro (fault | result) failed
    · exact stops fault
    · cases failed
  · rw [answered]
    rfl
  · rw [answered, returns]
  · rwa [answered]

theorem plans_fallible_refused {fault : ε} (stops : ∀ fault, (first (.error fault)).Quits (fallibleRule ε Result writes))
    (answered : handler request state = (.error fault, after)) :
    (Program.call request first >>= next).Plans (fallibleRule ε Result writes) handler state [] := by
  apply plans_refused
  · rintro (fault | result) failed
    · exact stops fault
    · cases failed
  · rw [answered]
    rfl

theorem reaches_fallible (reads : writes request = false) (answered : handler request state = (.ok result, after))
    (returns : first (.ok result) = .done value) :
    (Program.call request first).Reaches (fallibleRule ε Result writes) handler state (.ok value) after := by
  apply reaches_call reads
  rw [answered, returns]
  exact reaches_done value

end Fallible

end Program

end AutomationHub.Foundation
