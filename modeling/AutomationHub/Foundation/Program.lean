import Mathlib.Logic.Function.Basic

/-!
Programs that call an environment and may raise.

A program is the tree of the calls it makes: each node names one call, and the
continuation receives the reply.  A protocol says which calls may be made in each
state and which replies may follow, so the same rules serve a program run alone,
under injected failures, or as one of several threads.
-/

set_option autoImplicit false

namespace AutomationHub.Foundation

/-- The calls an environment offers, and the type of the reply to each. -/
structure Signature where
  Call : Type
  Reply : Call → Type

inductive Program (sig : Signature) (ε α : Type) where
  | done (value : α)
  | raised (error : ε)
  | call (request : sig.Call) (next : sig.Reply request → Program sig ε α)

namespace Program

variable {sig : Signature} {ε α β γ : Type}

protected def bind (program : Program sig ε α) (next : α → Program sig ε β) : Program sig ε β :=
  match program with
  | .done value => next value
  | .raised error => .raised error
  | .call request continue_ => .call request fun reply => (continue_ reply).bind next

/-- Run `program`; an exception continues with `handle`. -/
protected def tryCatch (program : Program sig ε α) (handle : ε → Program sig ε α) : Program sig ε α :=
  match program with
  | .done value => .done value
  | .raised error => handle error
  | .call request continue_ => .call request fun reply => (continue_ reply).tryCatch handle

instance : Monad (Program sig ε) where
  pure := .done
  bind := Program.bind

instance : MonadExcept ε (Program sig ε) where
  throw := .raised
  tryCatch := Program.tryCatch

/-- Return a value, or raise the error in its place. -/
def ofExcept (result : Except ε α) : Program sig ε α :=
  match result with
  | .ok value => .done value
  | .error error => .raised error

@[simp] theorem pure_eq (value : α) : (pure value : Program sig ε α) = .done value := rfl

@[simp] theorem throw_eq (error : ε) : (throw error : Program sig ε α) = .raised error := rfl

@[simp] theorem done_bind (value : α) (next : α → Program sig ε β) : (.done value >>= next) = next value := rfl

@[simp] theorem raised_bind (error : ε) (next : α → Program sig ε β) :
    ((.raised error : Program sig ε α) >>= next) = .raised error := rfl

@[simp] theorem call_bind (request : sig.Call) (first : sig.Reply request → Program sig ε α)
    (next : α → Program sig ε β) :
    (.call request first >>= next) = .call request fun reply => first reply >>= next := rfl

theorem bind_done (program : Program sig ε α) : (program >>= .done) = program := by
  induction program with
  | done value => rfl
  | raised error => rfl
  | call request next recurse =>
      rw [call_bind]
      exact congrArg (Program.call request) (funext recurse)

theorem bind_assoc (program : Program sig ε α) (first : α → Program sig ε β) (next : β → Program sig ε γ) :
    (program >>= first >>= next) = program >>= fun value => first value >>= next := by
  induction program with
  | done value => rfl
  | raised error => rfl
  | call request continue_ recurse =>
      simp only [call_bind]
      exact congrArg (Program.call request) (funext recurse)

@[simp] theorem done_tryCatch (value : α) (handle : ε → Program sig ε α) :
    tryCatch (.done value : Program sig ε α) handle = .done value := rfl

@[simp] theorem raised_tryCatch (error : ε) (handle : ε → Program sig ε α) :
    tryCatch (.raised error : Program sig ε α) handle = handle error := rfl

@[simp] theorem call_tryCatch (request : sig.Call) (next : sig.Reply request → Program sig ε α)
    (handle : ε → Program sig ε α) :
    tryCatch (.call request next) handle = .call request fun reply => tryCatch (next reply) handle := rfl

end Program

/-- The calls a program may make in each state, and the reply and state that may follow each. -/
structure Protocol (sig : Signature) (σ : Type) where
  permits : σ → sig.Call → Prop
  answers : σ → (request : sig.Call) → sig.Reply request → σ → Prop

/-- How an environment with states in `σ` replies to each call. -/
abbrev Handler (sig : Signature) (σ : Type) :=
  (request : sig.Call) → σ → sig.Reply request × σ

/-- Every call is permitted, and answered by the handler. -/
def Protocol.ofHandler {sig : Signature} {σ : Type} (handler : Handler sig σ) : Protocol sig σ where
  permits := fun _ _ => True
  answers := fun state request reply after => handler request state = (reply, after)

namespace Program

variable {sig : Signature} {σ ε α β : Type}

/-- Run a program alone, every call answered by `handler`. -/
def run (handler : Handler sig σ) : Program sig ε α → σ → Except ε α × σ
  | .done value, state => (.ok value, state)
  | .raised error, state => (.error error, state)
  | .call request next, state =>
      (next (handler request state).1).run handler (handler request state).2

/-- The program has an execution from `state` with this result and final state. -/
def Executes (protocol : Protocol sig σ) : Program sig ε α → σ → Except ε α → σ → Prop
  | .done value, state, result, final => result = .ok value ∧ final = state
  | .raised error, state, result, final => result = .error error ∧ final = state
  | .call request next, state, result, final =>
      ∃ reply after, protocol.answers state request reply after ∧ (next reply).Executes protocol after result final

/-- Every call made from `state` on is permitted, and `post` holds of the result and the final state. -/
def Ensures (protocol : Protocol sig σ) : Program sig ε α → (Except ε α → σ → Prop) → σ → Prop
  | .done value, post, state => post (.ok value) state
  | .raised error, post, state => post (.error error) state
  | .call request next, post, state =>
      protocol.permits state request ∧
        ∀ reply after, protocol.answers state request reply after → (next reply).Ensures protocol post after

variable {protocol : Protocol sig σ} {post : Except ε α → σ → Prop} {state : σ}

@[simp] theorem ensures_done (value : α) : (.done value : Program sig ε α).Ensures protocol post state ↔
    post (.ok value) state := Iff.rfl

@[simp] theorem ensures_raised (error : ε) : (.raised error : Program sig ε α).Ensures protocol post state ↔
    post (.error error) state := Iff.rfl

theorem ensures_call (request : sig.Call) (next : sig.Reply request → Program sig ε α) :
    (Program.call request next).Ensures protocol post state ↔ protocol.permits state request ∧
      ∀ reply after, protocol.answers state request reply after → (next reply).Ensures protocol post after := Iff.rfl

@[simp] theorem ensures_call_ofHandler (handler : Handler sig σ) (request : sig.Call)
    (next : sig.Reply request → Program sig ε α) :
    (Program.call request next).Ensures (.ofHandler handler) post state ↔
      (next (handler request state).1).Ensures (.ofHandler handler) post (handler request state).2 := by
  constructor
  · intro ensured
    exact ensured.2 _ _ rfl
  · intro ensured
    refine ⟨trivial, ?_⟩
    rintro reply after answered
    have same : handler request state = (reply, after) := answered
    rw [same] at ensured
    exact ensured

theorem Ensures.mono {program : Program sig ε α} {weaker : Except ε α → σ → Prop}
    (ensured : program.Ensures protocol post state) (implies : ∀ result final, post result final → weaker result final) :
    program.Ensures protocol weaker state := by
  induction program generalizing state with
  | done value => exact implies _ _ ensured
  | raised error => exact implies _ _ ensured
  | call request next recurse => exact ⟨ensured.1, fun reply after answered => recurse reply (ensured.2 _ _ answered)⟩

/-- The condition under which a bind ensures `post`: its first part ensures it of the rest. -/
def Then (protocol : Protocol sig σ) (next : α → Program sig ε β) (post : Except ε β → σ → Prop) :
    Except ε α → σ → Prop
  | .ok value, state => (next value).Ensures protocol post state
  | .error error, state => post (.error error) state

@[simp] theorem ensures_bind (program : Program sig ε α) (next : α → Program sig ε β)
    (post : Except ε β → σ → Prop) :
    (program >>= next).Ensures protocol post state ↔ program.Ensures protocol (Then protocol next post) state := by
  induction program generalizing state with
  | done value => exact Iff.rfl
  | raised error => exact Iff.rfl
  | call request continue_ recurse =>
      exact and_congr Iff.rfl (forall_congr' fun reply => forall_congr' fun after => imp_congr Iff.rfl (recurse reply))

/-- The condition under which a `try` ensures `post`. -/
def Caught (protocol : Protocol sig σ) (handle : ε → Program sig ε α) (post : Except ε α → σ → Prop) :
    Except ε α → σ → Prop
  | .ok value, state => post (.ok value) state
  | .error error, state => (handle error).Ensures protocol post state

@[simp] theorem ensures_tryCatch (program : Program sig ε α) (handle : ε → Program sig ε α) :
    (tryCatch program handle).Ensures protocol post state ↔
      program.Ensures protocol (Caught protocol handle post) state := by
  induction program generalizing state with
  | done value => exact Iff.rfl
  | raised error => exact Iff.rfl
  | call request next recurse =>
      exact and_congr Iff.rfl (forall_congr' fun reply => forall_congr' fun after => imp_congr Iff.rfl (recurse reply))

/-- What a program ensures holds at the end of each of its executions. -/
theorem Ensures.sound {program : Program sig ε α} {result : Except ε α} {final : σ}
    (ensured : program.Ensures protocol post state) (executed : program.Executes protocol state result final) :
    post result final := by
  induction program generalizing state with
  | done value =>
      obtain ⟨rfl, rfl⟩ := executed
      exact ensured
  | raised error =>
      obtain ⟨rfl, rfl⟩ := executed
      exact ensured
  | call request next recurse =>
      obtain ⟨reply, after, answered, rest⟩ := executed
      exact recurse reply (ensured.2 _ _ answered) rest

theorem ensures_ofHandler (handler : Handler sig σ) (program : Program sig ε α) :
    program.Ensures (.ofHandler handler) post state ↔
      post (program.run handler state).1 (program.run handler state).2 := by
  induction program generalizing state with
  | done value => exact Iff.rfl
  | raised error => exact Iff.rfl
  | call request next recurse => exact (ensures_call_ofHandler handler request next).trans (recurse _)

/-- Every call the program can make, whatever the replies, is an allowed one. -/
def Only (allowed : sig.Call → Prop) : Program sig ε α → Prop
  | .done _ => True
  | .raised _ => True
  | .call request next => allowed request ∧ ∀ reply, (next reply).Only allowed

variable {allowed : sig.Call → Prop}

@[simp] theorem only_done (value : α) : (.done value : Program sig ε α).Only allowed := trivial

@[simp] theorem only_raised (error : ε) : (.raised error : Program sig ε α).Only allowed := trivial

theorem Only.bind {program : Program sig ε α} {next : α → Program sig ε β} (first : program.Only allowed)
    (rest : ∀ value, (next value).Only allowed) : (program >>= next).Only allowed := by
  induction program with
  | done value => exact rest value
  | raised error => trivial
  | call request continue_ recurse => exact ⟨first.1, fun reply => recurse reply (first.2 reply)⟩

theorem Only.tryCatch {program : Program sig ε α} {handle : ε → Program sig ε α} (first : program.Only allowed)
    (handled : ∀ error, (handle error).Only allowed) : (tryCatch program handle).Only allowed := by
  induction program with
  | done value => trivial
  | raised error => exact handled error
  | call request next recurse => exact ⟨first.1, fun reply => recurse reply (first.2 reply)⟩

theorem Only.mono {program : Program sig ε α} {wider : sig.Call → Prop} (only : program.Only allowed)
    (implies : ∀ request, allowed request → wider request) : program.Only wider := by
  induction program with
  | done value => trivial
  | raised error => trivial
  | call request next recurse => exact ⟨implies _ only.1, fun reply => recurse reply (only.2 reply)⟩

/-- A program that makes only allowed calls keeps a condition on the state that the allowed calls keep. -/
theorem Only.ensures {program : Program sig ε α} (only : program.Only allowed) (kept : σ → Prop)
    (step : ∀ state request, kept state → allowed request → protocol.permits state request ∧
      ∀ reply after, protocol.answers state request reply after → kept after)
    (holds : kept state) : program.Ensures protocol (fun _ final => kept final) state := by
  induction program generalizing state with
  | done value => exact holds
  | raised error => exact holds
  | call request next recurse =>
      obtain ⟨permitted, preserved⟩ := step state request holds only.1
      exact ⟨permitted, fun reply after answered => recurse reply (only.2 reply) (preserved reply after answered)⟩

/-- Where every call is permitted, a program ensures that it executed. -/
theorem ensures_executes (permitted : ∀ state request, protocol.permits state request) (program : Program sig ε α) :
    program.Ensures protocol (fun result final => program.Executes protocol state result final) state := by
  induction program generalizing state with
  | done value => exact ⟨rfl, rfl⟩
  | raised error => exact ⟨rfl, rfl⟩
  | call request next recurse =>
      refine ⟨permitted state request, fun reply after answered => (recurse reply).mono ?_⟩
      intro result final executed
      exact ⟨reply, after, answered, executed⟩

/-- A run is an execution where the handler's answers are possible ones. -/
theorem executes_run {handler : Handler sig σ}
    (possible : ∀ state request, protocol.answers state request (handler request state).1 (handler request state).2)
    (program : Program sig ε α) :
    program.Executes protocol state (program.run handler state).1 (program.run handler state).2 := by
  induction program generalizing state with
  | done value => exact ⟨rfl, rfl⟩
  | raised error => exact ⟨rfl, rfl⟩
  | call request next recurse => exact ⟨_, _, possible state request, recurse _⟩

/-- What every call keeps, every program keeps. -/
theorem ensures_kept (kept : σ → Prop)
    (step : ∀ state request, kept state → protocol.permits state request ∧
      ∀ reply after, protocol.answers state request reply after → kept after)
    (program : Program sig ε α) (holds : kept state) : program.Ensures protocol (fun _ final => kept final) state := by
  induction program generalizing state with
  | done value => exact holds
  | raised error => exact holds
  | call request next recurse =>
      obtain ⟨permitted, preserved⟩ := step state request holds
      exact ⟨permitted, fun reply after answered => recurse reply (preserved reply after answered)⟩

/-- A program that keeps to a discipline over phases keeps, in an environment whose answers the discipline foresees, what
every call that the discipline permits keeps. -/
theorem Ensures.invariant {φ : Type} {discipline : Protocol sig φ} {surroundings : Protocol sig (σ × φ)}
    {program : Program sig ε α} {ended : Except ε α → φ → Prop} {world : σ} {phase : φ} (inv : σ × φ → Prop)
    (offered : ∀ state request, surroundings.permits state request)
    (step : ∀ state request reply after, inv state → discipline.permits state.2 request →
      surroundings.answers state request reply after → discipline.answers state.2 request reply after.2 ∧ inv after)
    (ensured : program.Ensures discipline ended phase) (holds : inv (world, phase)) :
    program.Ensures surroundings (fun result final => ended result final.2 ∧ inv final) (world, phase) := by
  induction program generalizing world phase with
  | done value => exact ⟨ensured, holds⟩
  | raised error => exact ⟨ensured, holds⟩
  | call request next recurse =>
      refine ⟨offered _ _, ?_⟩
      intro reply after answered
      obtain ⟨foreseen, kept⟩ := step _ request reply after holds ensured.1 answered
      exact recurse reply (ensured.2 reply after.2 foreseen) kept

/-- A property of programs that sequencing and catching keep. -/
structure Compositional (safe : ∀ {α : Type}, Program sig ε α → Prop) : Prop where
  done : ∀ {α : Type} (value : α), safe (.done value)
  raised : ∀ {α : Type} (error : ε), safe (.raised error : Program sig ε α)
  bind : ∀ {α β : Type} {program : Program sig ε α} {next : α → Program sig ε β}, safe program →
    (∀ value, safe (next value)) → safe (program >>= next)
  tryCatch : ∀ {α : Type} {program : Program sig ε α} {handle : ε → Program sig ε α}, safe program →
    (∀ error, safe (handle error)) → safe (tryCatch program handle)

theorem compositional_only (allowed : sig.Call → Prop) :
    Compositional fun {α} (program : Program sig ε α) => program.Only allowed where
  done := only_done
  raised := only_raised
  bind := Only.bind
  tryCatch := Only.tryCatch

theorem compositional_ensures (protocol : Protocol sig σ) (kept : σ → Prop) :
    Compositional fun {α} (program : Program sig ε α) =>
      ∀ state, kept state → program.Ensures protocol (fun _ final => kept final) state where
  done := fun _ _ holds => holds
  raised := fun _ _ holds => holds
  bind := by
    intro α β program next first rest state holds
    refine (ensures_bind ..).mpr ((first state holds).mono ?_)
    rintro (error | value) final kept
    · exact kept
    · exact rest value final kept
  tryCatch := by
    intro α program handle first handled state holds
    refine (ensures_tryCatch ..).mpr ((first state holds).mono ?_)
    rintro (error | value) final kept
    · exact handled error final kept
    · exact kept

/-- The program with its exceptions turned into a result. -/
def caught (program : Program sig ε α) : Program sig ε (Except ε α) :=
  tryCatch (program >>= fun value => .done (.ok value)) fun error => .done (.error error)

@[simp] theorem ensures_caught (program : Program sig ε α) {post : Except ε (Except ε α) → σ → Prop} :
    program.caught.Ensures protocol post state ↔
      program.Ensures protocol (fun result final => post (.ok result) final) state := by
  unfold caught
  rw [ensures_tryCatch, ensures_bind]
  constructor <;> intro ensured <;> refine ensured.mono ?_ <;> intro result final holds <;> cases result <;> exact holds

theorem Compositional.caught {safe : ∀ {α : Type}, Program sig ε α → Prop} (compositional : Compositional safe)
    {program : Program sig ε α} (holds : safe program) : safe program.caught :=
  compositional.tryCatch (compositional.bind holds fun value => compositional.done (Except.ok value))
    fun error => compositional.done (Except.error error)

theorem Compositional.of_only {safe : ∀ {α : Type}, Program sig ε α → Prop} (compositional : Compositional safe)
    (ask : ∀ request, allowed request → safe (.call request .done)) {program : Program sig ε α}
    (only : program.Only allowed) : safe program := by
  induction program with
  | done value => exact compositional.done value
  | raised error => exact compositional.raised error
  | call request next recurse =>
      exact compositional.bind (ask request only.1) fun reply => recurse reply (only.2 reply)

section Fallible

variable {Call : Type} {Result : Call → Type} {protocol : Protocol ⟨Call, fun call => Except ε (Result call)⟩ σ} {state : σ}

/-- One call whose failure is raised. -/
theorem ensures_fallible {request : Call}
    {next : Except ε (Result request) → Program ⟨Call, fun call => Except ε (Result call)⟩ ε (Result request)}
    (raising : ∀ reply, next reply = ofExcept reply) (post : Except ε (Result request) → σ → Prop) :
    (Program.call request next).Ensures protocol post state ↔
      protocol.permits state request ∧ ∀ reply after, protocol.answers state request reply after → post reply after := by
  rw [ensures_call]
  refine and_congr Iff.rfl (forall_congr' fun reply => ?_)
  rw [raising reply]
  cases reply <;> exact Iff.rfl

/-- The same where the protocol moves each call's state on as its reply says. -/
theorem ensures_advancing {request : Call}
    {next : Except ε (Result request) → Program ⟨Call, fun call => Except ε (Result call)⟩ ε (Result request)}
    {foreseen : Except ε (Result request) → Prop} {advance : Except ε (Result request) → σ}
    (raising : ∀ reply, next reply = ofExcept reply)
    (answers : ∀ reply after, protocol.answers state request reply after ↔ foreseen reply ∧ after = advance reply)
    (post : Except ε (Result request) → σ → Prop) :
    (Program.call request next).Ensures protocol post state ↔
      protocol.permits state request ∧ ∀ reply, foreseen reply → post reply (advance reply) := by
  refine (ensures_fallible raising post).trans (and_congr Iff.rfl (forall_congr' fun reply => ?_))
  constructor
  · intro held possible
    exact held _ ((answers reply _).mpr ⟨possible, rfl⟩)
  · intro held after answered
    obtain ⟨possible, rfl⟩ := (answers reply after).mp answered
    exact held possible

theorem only_fallible {allowed : Call → Prop} {request : Call}
    {next : Except ε (Result request) → Program ⟨Call, fun call => Except ε (Result call)⟩ ε (Result request)}
    (raising : ∀ reply, next reply = ofExcept reply) (permitted : allowed request) :
    (Program.call request next : Program ⟨Call, fun call => Except ε (Result call)⟩ ε (Result request)).Only allowed := by
  refine ⟨permitted, ?_⟩
  intro reply
  rw [raising reply]
  cases reply <;> trivial

end Fallible

end Program

end AutomationHub.Foundation
