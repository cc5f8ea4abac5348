import AutomationHub.Foundation.Compensation

/-!
Two runs of a program, from states that are related.

Runs are coupled when their results are equal and their final states related
again; sequencing and catching keep this, so it is enough to couple the calls.
-/

set_option autoImplicit false

namespace AutomationHub.Foundation.Program

variable {sig : Signature} {σ ε α β : Type} {handler : Handler sig σ}

@[simp] theorem run_done (value : α) (state : σ) :
    (.done value : Program sig ε α).run handler state = (.ok value, state) := rfl

@[simp] theorem run_raised (error : ε) (state : σ) :
    (.raised error : Program sig ε α).run handler state = (.error error, state) := rfl

@[simp] theorem run_call (request : sig.Call) (next : sig.Reply request → Program sig ε α) (state : σ) :
    (Program.call request next).run handler state =
      (next (handler request state).1).run handler (handler request state).2 := rfl

/-- How a run goes on once its first part has ended. -/
def continueRun (handler : Handler sig σ) (next : α → Program sig ε β) : Except ε α × σ → Except ε β × σ
  | (.ok value, state) => (next value).run handler state
  | (.error error, state) => (.error error, state)

@[simp] theorem continueRun_ok (next : α → Program sig ε β) (value : α) (state : σ) :
    continueRun handler next (.ok value, state) = (next value).run handler state := rfl

@[simp] theorem continueRun_error (next : α → Program sig ε β) (error : ε) (state : σ) :
    continueRun handler next (.error error, state) = (.error error, state) := rfl

theorem run_bind (program : Program sig ε α) (next : α → Program sig ε β) (state : σ) :
    (program >>= next).run handler state = continueRun handler next (program.run handler state) := by
  induction program generalizing state with
  | done value => rfl
  | raised error => rfl
  | call request first recurse =>
      rw [call_bind, run_call, run_call]
      exact recurse _ _

theorem run_bind_of_ok {program : Program sig ε α} {value : α} {state : σ}
    (returned : (program.run handler state).1 = .ok value) (next : α → Program sig ε β) :
    (program >>= next).run handler state = (next value).run handler (program.run handler state).2 := by
  rw [run_bind]
  rcases reached : program.run handler state with ⟨result, after⟩
  rw [reached] at returned
  obtain rfl : result = .ok value := returned
  rfl

theorem run_bind_of_error {program : Program sig ε α} {error : ε} {state : σ}
    (failed : (program.run handler state).1 = .error error) (next : α → Program sig ε β) :
    (program >>= next).run handler state = (.error error, (program.run handler state).2) := by
  rw [run_bind]
  rcases reached : program.run handler state with ⟨result, after⟩
  rw [reached] at failed
  obtain rfl : result = .error error := failed
  rfl

/-- A program whose result is replaced by another value. -/
theorem run_replaced (program : Program sig ε α) (value : β) (state : σ) :
    (program >>= fun _ => .done value).run handler state =
      ((program.run handler state).1.map fun _ => value, (program.run handler state).2) := by
  rw [run_bind]
  rcases program.run handler state with ⟨_ | _, _⟩ <;> rfl

/-- Two programs that run alike, and go on alike from where the first one returns. -/
theorem run_bind_congr {program other : Program sig ε α} {next rest : α → Program sig ε β} {state : σ}
    (same : program.run handler state = other.run handler state)
    (onward : ∀ value, (program.run handler state).1 = .ok value →
      (next value).run handler (program.run handler state).2 = (rest value).run handler (program.run handler state).2) :
    (program >>= next).run handler state = (other >>= rest).run handler state := by
  rw [run_bind, run_bind, ← same]
  rcases reached : program.run handler state with ⟨_ | value, after⟩
  · rfl
  · rw [reached] at onward
    exact onward value rfl

/-- What becomes of a run whose exceptions are caught. -/
def handleRun (handler : Handler sig σ) (handle : ε → Program sig ε α) : Except ε α × σ → Except ε α × σ
  | (.ok value, state) => (.ok value, state)
  | (.error error, state) => (handle error).run handler state

theorem run_tryCatch (program : Program sig ε α) (handle : ε → Program sig ε α) (state : σ) :
    (tryCatch program handle).run handler state = handleRun handler handle (program.run handler state) := by
  induction program generalizing state with
  | done value => rfl
  | raised error => rfl
  | call request next recurse =>
      rw [call_tryCatch, run_call, run_call]
      exact recurse _ _

theorem run_caught (program : Program sig ε α) (state : σ) :
    program.caught.run handler state = (.ok (program.run handler state).1, (program.run handler state).2) := by
  unfold caught
  rw [run_tryCatch, run_bind]
  rcases program.run handler state with ⟨_ | value, after⟩
  · rfl
  · rfl

/-- Two programs that run alike do so as the first step of a transaction. -/
theorem run_enact_congr {program other : Program sig ε α} {state : σ}
    (same : program.run handler state = other.run handler state) (report : RollbackReport sig)
    (registered : List (Program sig ε Unit)) (next : α → Transaction sig ε β) :
    ((liftM program >>= next).enact report registered).run handler state =
      ((liftM other >>= next).enact report registered).run handler state := by
  rw [Transaction.monadLift_eq, Transaction.monadLift_eq, Transaction.enact_lift, Transaction.enact_lift]
  apply run_bind_congr
  · rw [run_caught, run_caught, same]
  · intro _ _
    rfl

/-- The calls that a run makes, in order. -/
def calls (handler : Handler sig σ) : Program sig ε α → σ → List sig.Call
  | .done _, _ => []
  | .raised _, _ => []
  | .call request next, state => request :: (next (handler request state).1).calls handler (handler request state).2

@[simp] theorem calls_done (value : α) (state : σ) : (.done value : Program sig ε α).calls handler state = [] := rfl

@[simp] theorem calls_raised (error : ε) (state : σ) : (.raised error : Program sig ε α).calls handler state = [] := rfl

@[simp] theorem calls_call (request : sig.Call) (next : sig.Reply request → Program sig ε α) (state : σ) :
    (Program.call request next).calls handler state =
      request :: (next (handler request state).1).calls handler (handler request state).2 := rfl

/-- The calls that follow a first part. -/
def callsAfter (handler : Handler sig σ) (next : α → Program sig ε β) : Except ε α × σ → List sig.Call
  | (.ok value, state) => (next value).calls handler state
  | (.error _, _) => []

theorem calls_bind (program : Program sig ε α) (next : α → Program sig ε β) (state : σ) :
    (program >>= next).calls handler state =
      program.calls handler state ++ callsAfter handler next (program.run handler state) := by
  induction program generalizing state with
  | done value => rfl
  | raised error => rfl
  | call request first recurse =>
      rw [call_bind, calls_call, calls_call, recurse, run_call, List.cons_append]

/-- A program whose calls all keep a condition on the state ends in a state that meets it. -/
theorem Only.run {allowed : sig.Call → Prop} {program : Program sig ε α} (only : program.Only allowed) (kept : σ → Prop)
    (step : ∀ state request, kept state → allowed request → kept (handler request state).2) {state : σ}
    (holds : kept state) : kept (program.run handler state).2 := by
  induction program generalizing state with
  | done value => exact holds
  | raised error => exact holds
  | call request next recurse => exact recurse _ (only.2 _) (step state request holds only.1)

/-- Handlers that answer alike what a program may ask run it alike. -/
theorem Only.run_agree {other : Handler sig σ} {program : Program sig ε α}
    (only : program.Only fun request => ∀ state, handler request state = other request state) (state : σ) :
    program.run handler state = program.run other state := by
  induction program generalizing state with
  | done value => rfl
  | raised error => rfl
  | call request next recurse =>
      rw [run_call, run_call, only.1 state]
      exact recurse _ (only.2 _) _

/-- The handler answers, and only permitted calls may be made. -/
def guarded (permits : σ → sig.Call → Prop) (handler : Handler sig σ) : Protocol sig σ where
  permits := permits
  answers := fun state request reply after => handler request state = (reply, after)

/-- Every call that the run of the program makes is permitted. -/
def Admitted (permits : σ → sig.Call → Prop) (handler : Handler sig σ) (program : Program sig ε α) (state : σ) : Prop :=
  program.Ensures (guarded permits handler) (fun _ _ => True) state

section Guarded

variable {permits : σ → sig.Call → Prop} {state after : σ}

theorem admitted_call (request : sig.Call) (next : sig.Reply request → Program sig ε α) :
    (Program.call request next).Admitted permits handler state ↔
      permits state request ∧ (next (handler request state).1).Admitted permits handler (handler request state).2 := by
  refine and_congr Iff.rfl ?_
  constructor
  · intro answered
    exact answered _ _ rfl
  · intro admitted reply after answered
    have same : handler request state = (reply, after) := answered
    rwa [same] at admitted

theorem Only.admitted {program : Program sig ε α} (only : program.Only fun request => ∀ state, permits state request) :
    program.Admitted permits handler state := by
  induction program generalizing state with
  | done value => trivial
  | raised error => trivial
  | call request next recurse => exact (admitted_call ..).mpr ⟨only.1 state, recurse _ (only.2 _)⟩

/-- What follows a part all of whose calls are permitted is admitted where that part ends. -/
theorem admitted_bind_iff {program : Program sig ε α} {next : α → Program sig ε β}
    (only : program.Only fun request => ∀ state, permits state request) :
    (program >>= next).Admitted permits handler state ↔
      ∀ value, (program.run handler state).1 = .ok value →
        (next value).Admitted permits handler (program.run handler state).2 := by
  induction program generalizing state with
  | done value =>
      constructor
      · rintro admitted _ ⟨⟩
        exact admitted
      · intro admitted
        exact admitted value rfl
  | raised error => exact iff_of_true trivial fun value returned => nomatch returned
  | call request first recurse =>
      rw [call_bind, admitted_call, recurse _ (only.2 _), run_call]
      exact and_iff_right (only.1 state)

theorem admitted_bind_of_run {program : Program sig ε α} {next : α → Program sig ε β} {value : α}
    (only : program.Only fun request => ∀ state, permits state request)
    (ran : program.run handler state = (.ok value, after)) :
    (program >>= next).Admitted permits handler state ↔ (next value).Admitted permits handler after := by
  rw [admitted_bind_iff only, ran]
  constructor
  · intro admitted
    exact admitted value rfl
  · rintro admitted _ ⟨⟩
    exact admitted

theorem admitted_bind_of_error {program : Program sig ε α} {next : α → Program sig ε β} {error : ε}
    (only : program.Only fun request => ∀ state, permits state request)
    (ran : program.run handler state = (.error error, after)) :
    (program >>= next).Admitted permits handler state := by
  rw [admitted_bind_iff only, ran]
  intro value returned
  cases returned

end Guarded

/-- From the two states the program gives equal results, and leaves related states. -/
def Paired (handler : Handler sig σ) (related : σ → σ → Prop) (program : Program sig ε α) (left right : σ) : Prop :=
  (program.run handler left).1 = (program.run handler right).1 ∧
    related (program.run handler left).2 (program.run handler right).2

/-- The program is paired from every two related states. -/
def Coupled (handler : Handler sig σ) (related : σ → σ → Prop) (program : Program sig ε α) : Prop :=
  ∀ left right, related left right → Paired handler related program left right

variable {related : σ → σ → Prop} {left right : σ}

theorem Paired.mono {program : Program sig ε α} {weaker : σ → σ → Prop} (paired : Paired handler related program left right)
    (implies : ∀ left right, related left right → weaker left right) : Paired handler weaker program left right :=
  ⟨paired.1, implies _ _ paired.2⟩

/-- The first part may leave the states closer to each other than the whole does. -/
theorem paired_bind_via {closer : σ → σ → Prop} {program : Program sig ε α} {next : α → Program sig ε β}
    (implies : ∀ left right, closer left right → related left right) (first : Paired handler closer program left right)
    (rest : ∀ value, (program.run handler left).1 = .ok value →
      Paired handler related (next value) (program.run handler left).2 (program.run handler right).2) :
    Paired handler related (program >>= next) left right := by
  obtain ⟨same, after⟩ := first
  cases result : (program.run handler left).1 with
  | error error =>
      rw [Paired, run_bind_of_error result, run_bind_of_error (same ▸ result)]
      exact ⟨rfl, implies _ _ after⟩
  | ok value =>
      rw [Paired, run_bind_of_ok result, run_bind_of_ok (same ▸ result)]
      exact rest value result

theorem paired_bind {program : Program sig ε α} {next : α → Program sig ε β}
    (first : Paired handler related program left right)
    (rest : ∀ value, (program.run handler left).1 = .ok value →
      Paired handler related (next value) (program.run handler left).2 (program.run handler right).2) :
    Paired handler related (program >>= next) left right :=
  paired_bind_via (fun _ _ same => same) first rest

/-- What follows may use the result only through a view of it in which the two runs agree. -/
theorem paired_bind_of_view {γ : Type} {program : Program sig ε α} {next : α → Program sig ε β} (view : α → γ)
    (same : (program.run handler left).1.map view = (program.run handler right).1.map view)
    (after : related (program.run handler left).2 (program.run handler right).2)
    (viewed : ∀ value other, view value = view other → next value = next other)
    (rest : ∀ value, Paired handler related (next value) (program.run handler left).2 (program.run handler right).2) :
    Paired handler related (program >>= next) left right := by
  cases result : (program.run handler left).1 with
  | error error =>
      cases other : (program.run handler right).1 with
      | error raised =>
          rw [result, other] at same
          obtain rfl : error = raised := Except.error.inj same
          rw [Paired, run_bind_of_error result, run_bind_of_error other]
          exact ⟨rfl, after⟩
      | ok value =>
          rw [result, other] at same
          cases same
  | ok value =>
      cases other : (program.run handler right).1 with
      | error raised =>
          rw [result, other] at same
          cases same
      | ok found =>
          rw [result, other] at same
          have agreed : next found = next value := viewed found value (Except.ok.inj same).symm
          rw [Paired, run_bind_of_ok result, run_bind_of_ok other, agreed]
          exact rest value

theorem coupled_ask {request : sig.Call}
    (step : ∀ left right, related left right → (handler request left).1 = (handler request right).1 ∧
      related (handler request left).2 (handler request right).2) :
    Coupled handler related (Program.call request .done : Program sig ε (sig.Reply request)) := by
  intro left right start
  obtain ⟨same, after⟩ := step left right start
  exact ⟨congrArg Except.ok same, after⟩

theorem compositional_coupled (handler : Handler sig σ) (related : σ → σ → Prop) :
    Compositional fun {α} (program : Program sig ε α) => Coupled handler related program where
  done := fun _ _ _ start => ⟨rfl, start⟩
  raised := fun _ _ _ start => ⟨rfl, start⟩
  bind := by
    intro α β program next first rest left right start
    have begun := first left right start
    exact paired_bind begun fun value _ => rest value _ _ begun.2
  tryCatch := by
    intro α program handle first handled left right start
    obtain ⟨same, after⟩ := first left right start
    rw [Paired, run_tryCatch, run_tryCatch]
    revert same after
    rcases program.run handler left with ⟨result, middle⟩
    rcases program.run handler right with ⟨other, reached⟩
    intro same after
    obtain rfl : result = other := same
    cases result with
    | error error => exact handled error middle reached after
    | ok value => exact ⟨rfl, after⟩

/-- A rollback raises the exception that began it, whatever the compensations do. -/
theorem run_rollback (handler : Handler sig σ) (report : RollbackReport sig) (error : ε)
    (registered : List (Program sig ε Unit)) (state : σ) :
    ((Transaction.rollback report error registered : Program sig ε α).run handler state).1 = .error error := by
  induction registered generalizing state with
  | nil => rfl
  | cons compensation earlier recurse =>
      rw [Transaction.rollback, run_bind, run_tryCatch]
      rcases compensation.run handler state with ⟨_ | _, after⟩
      · exact recurse _
      · exact recurse _

theorem ensures_lift_run {program : Program sig ε α} {next : α → Transaction sig ε β}
    {registered : List (Program sig ε Unit)} {state : σ} {post : Except ε β → List (Program sig ε Unit) → σ → Prop} :
    Transaction.Ensures (.ofHandler handler) post registered state (liftM program >>= next) ↔
      Transaction.Then (.ofHandler handler) next post (program.run handler state).1 registered
        (program.run handler state).2 :=
  (Transaction.ensures_lift_bind program next post).trans (ensures_ofHandler handler program)

/-- The result of a transaction is the one its body ends with. -/
theorem result_of_enact {body : Transaction sig ε α} {report : RollbackReport sig}
    {registered : List (Program sig ε Unit)} {state : σ} {holds : Except ε α → Prop}
    (ensured : Transaction.Ensures (.ofHandler handler) (fun result _ _ => holds result) registered state body) :
    holds ((body.enact report registered).run handler state).1 := by
  have settled : (body.enact report registered).Ensures (.ofHandler handler) (fun result _ => holds result) state := by
    apply (Transaction.ensures_enact report body _).mpr
    apply ensured.mono
    intro result compensations final held
    cases result with
    | ok value => exact held
    | error error =>
        apply (ensures_ofHandler handler _).mpr
        rw [run_call, run_rollback]
        exact held
  exact (ensures_ofHandler handler _).mp settled

end AutomationHub.Foundation.Program
