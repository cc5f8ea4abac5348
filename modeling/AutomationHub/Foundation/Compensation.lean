import AutomationHub.Foundation.Program

/-!
Compensation-based transactions.

A transaction registers an undo program after each step that took effect.  When
the body raises, the registered programs run in reverse order of registration;
one that raises is reported and does not stop the others, and the original
exception is raised again at the end.
-/

set_option autoImplicit false

namespace AutomationHub.Foundation

inductive Transaction (sig : Signature) (ε α : Type) where
  | done (value : α)
  | raised (error : ε)
  | call (request : sig.Call) (next : sig.Reply request → Transaction sig ε α)
  | register (compensation : Program sig ε Unit) (next : Transaction sig ε α)

/-- The calls that report a rollback and each compensation that failed in it. -/
structure RollbackReport (sig : Signature) where
  began : Nat → sig.Call
  failed : sig.Call

namespace Transaction

variable {sig : Signature} {σ ε α β : Type}

protected def bind (body : Transaction sig ε α) (next : α → Transaction sig ε β) : Transaction sig ε β :=
  match body with
  | .done value => next value
  | .raised error => .raised error
  | .call request continue_ => .call request fun reply => (continue_ reply).bind next
  | .register compensation continue_ => .register compensation (continue_.bind next)

instance : Monad (Transaction sig ε) where
  pure := .done
  bind := Transaction.bind

/-- A step that registers no compensation. -/
def ofProgram : Program sig ε α → Transaction sig ε α
  | .done value => .done value
  | .raised error => .raised error
  | .call request next => .call request fun reply => ofProgram (next reply)

instance : MonadLift (Program sig ε) (Transaction sig ε) where
  monadLift := ofProgram

/-- Remember how to undo the step just completed. -/
def registerCompensation (compensation : Program sig ε Unit) : Transaction sig ε Unit :=
  .register compensation (.done ())

/-- Run every compensation, the most recently registered first, and raise again. -/
def rollback (report : RollbackReport sig) (error : ε) : List (Program sig ε Unit) → Program sig ε α
  | [] => .raised error
  | compensation :: earlier => do
      tryCatch compensation fun _ => .call report.failed fun _ => .done ()
      rollback report error earlier

/-- The program of a transaction body, given the compensations registered before it. -/
def enact (report : RollbackReport sig) (registered : List (Program sig ε Unit)) :
    Transaction sig ε α → Program sig ε α
  | .done value => .done value
  | .raised error => .call (report.began registered.length) fun _ => rollback report error registered
  | .call request next => .call request fun reply => (next reply).enact report registered
  | .register compensation next => next.enact report (compensation :: registered)

@[simp] theorem pure_eq (value : α) : (pure value : Transaction sig ε α) = .done value := rfl

@[simp] theorem done_bind (value : α) (next : α → Transaction sig ε β) :
    (.done value >>= next) = next value := rfl

@[simp] theorem raised_bind (error : ε) (next : α → Transaction sig ε β) :
    ((.raised error : Transaction sig ε α) >>= next) = .raised error := rfl

@[simp] theorem call_bind (request : sig.Call) (first : sig.Reply request → Transaction sig ε α)
    (next : α → Transaction sig ε β) :
    (.call request first >>= next) = .call request fun reply => first reply >>= next := rfl

@[simp] theorem register_bind (compensation : Program sig ε Unit) (first : Transaction sig ε α)
    (next : α → Transaction sig ε β) :
    (.register compensation first >>= next) = .register compensation (first >>= next) := rfl

@[simp] theorem registerCompensation_bind (compensation : Program sig ε Unit)
    (next : Unit → Transaction sig ε β) :
    (registerCompensation compensation >>= next) = .register compensation (next ()) := rfl

@[simp] theorem monadLift_eq (program : Program sig ε α) :
    (liftM program : Transaction sig ε α) = ofProgram program := rfl

@[simp] theorem ofProgram_done (value : α) : (ofProgram (.done value) : Transaction sig ε α) = .done value := rfl

@[simp] theorem ofProgram_raised (error : ε) : (ofProgram (.raised error) : Transaction sig ε α) = .raised error :=
  rfl

/-- `post` holds of the result, the compensations then registered and the state reached. -/
def Ensures (protocol : Protocol sig σ) (post : Except ε α → List (Program sig ε Unit) → σ → Prop)
    (registered : List (Program sig ε Unit)) (state : σ) : Transaction sig ε α → Prop
  | .done value => post (.ok value) registered state
  | .raised error => post (.error error) registered state
  | .call request next => protocol.permits state request ∧
      ∀ reply after, protocol.answers state request reply after → Ensures protocol post registered after (next reply)
  | .register compensation next => Ensures protocol post (compensation :: registered) state next

variable {protocol : Protocol sig σ} {registered : List (Program sig ε Unit)} {state : σ}
  {post : Except ε α → List (Program sig ε Unit) → σ → Prop}

@[simp] theorem ensures_done (value : α) :
    Ensures protocol post registered state (.done value) ↔ post (.ok value) registered state := Iff.rfl

@[simp] theorem ensures_raised (error : ε) :
    Ensures protocol post registered state (.raised error) ↔ post (.error error) registered state := Iff.rfl

@[simp] theorem ensures_register (compensation : Program sig ε Unit) (next : Transaction sig ε α) :
    Ensures protocol post registered state (.register compensation next) ↔
      Ensures protocol post (compensation :: registered) state next := Iff.rfl

/-- What the first part of a bind ensures when the whole ensures `post`. -/
def Then (protocol : Protocol sig σ) (next : α → Transaction sig ε β)
    (post : Except ε β → List (Program sig ε Unit) → σ → Prop) :
    Except ε α → List (Program sig ε Unit) → σ → Prop
  | .ok value, registered, state => Ensures protocol post registered state (next value)
  | .error error, registered, state => post (.error error) registered state

@[simp] theorem ensures_bind (body : Transaction sig ε α) (next : α → Transaction sig ε β)
    (post : Except ε β → List (Program sig ε Unit) → σ → Prop) :
    Ensures protocol post registered state (body >>= next) ↔
      Ensures protocol (Then protocol next post) registered state body := by
  induction body generalizing registered state with
  | done value => exact Iff.rfl
  | raised error => exact Iff.rfl
  | call request continue_ recurse =>
      exact and_congr Iff.rfl (forall_congr' fun reply => forall_congr' fun after => imp_congr Iff.rfl (recurse reply))
  | register compensation continue_ recurse => exact recurse

@[simp] theorem ensures_ofProgram (program : Program sig ε α) :
    Ensures protocol post registered state (ofProgram program) ↔
      program.Ensures protocol (fun result final => post result registered final) state := by
  induction program generalizing state with
  | done value => exact Iff.rfl
  | raised error => exact Iff.rfl
  | call request next recurse =>
      exact and_congr Iff.rfl (forall_congr' fun reply => forall_congr' fun after => imp_congr Iff.rfl (recurse reply))

@[simp] theorem ensures_lift_bind (program : Program sig ε α) (next : α → Transaction sig ε β)
    (post : Except ε β → List (Program sig ε Unit) → σ → Prop) :
    Ensures protocol post registered state (liftM program >>= next) ↔
      program.Ensures protocol (fun result final => Then protocol next post result registered final) state :=
  (ensures_bind _ _ _).trans (ensures_ofProgram program)

theorem Ensures.mono {body : Transaction sig ε α}
    {weaker : Except ε α → List (Program sig ε Unit) → σ → Prop}
    (ensured : Ensures protocol post registered state body)
    (implies : ∀ result compensations final, post result compensations final → weaker result compensations final) :
    Ensures protocol weaker registered state body := by
  induction body generalizing registered state with
  | done value => exact implies _ _ _ ensured
  | raised error => exact implies _ _ _ ensured
  | call request next recurse => exact ⟨ensured.1, fun reply after answered => recurse reply (ensured.2 _ _ answered)⟩
  | register compensation next recurse => exact recurse ensured

/-- What a transaction body must ensure for the whole transaction to ensure `post`: a result is
final, an exception is followed by the compensations registered until then. -/
def Settles (protocol : Protocol sig σ) (report : RollbackReport sig) (post : Except ε α → σ → Prop) :
    Except ε α → List (Program sig ε Unit) → σ → Prop
  | .ok value, _, state => post (.ok value) state
  | .error error, registered, state =>
      (Program.call (report.began registered.length) fun _ => rollback report error registered).Ensures
        protocol post state

theorem ensures_enact (report : RollbackReport sig) (body : Transaction sig ε α) (post : Except ε α → σ → Prop) :
    (body.enact report registered).Ensures protocol post state ↔
      Ensures protocol (Settles protocol report post) registered state body := by
  induction body generalizing registered state with
  | done value => exact Iff.rfl
  | raised error => exact Iff.rfl
  | call request next recurse =>
      exact and_congr Iff.rfl (forall_congr' fun reply => forall_congr' fun after => imp_congr Iff.rfl (recurse reply))
  | register compensation next recurse => exact recurse

/-- Every call of the body and of the compensations it registers is an allowed one. -/
def Only (allowed : sig.Call → Prop) : Transaction sig ε α → Prop
  | .done _ => True
  | .raised _ => True
  | .call request next => allowed request ∧ ∀ reply, (next reply).Only allowed
  | .register compensation next => compensation.Only allowed ∧ next.Only allowed

variable {allowed : sig.Call → Prop}

theorem Only.bind {body : Transaction sig ε α} {next : α → Transaction sig ε β} (first : body.Only allowed)
    (rest : ∀ value, (next value).Only allowed) : (body >>= next).Only allowed := by
  induction body with
  | done value => exact rest value
  | raised error => trivial
  | call request continue_ recurse => exact ⟨first.1, fun reply => recurse reply (first.2 reply)⟩
  | register compensation continue_ recurse => exact ⟨first.1, recurse first.2⟩

/-- Every value the body can return satisfies `holds`. -/
def Returns (holds : α → Prop) : Transaction sig ε α → Prop
  | .done value => holds value
  | .raised _ => True
  | .call _ next => ∀ reply, (next reply).Returns holds
  | .register _ next => next.Returns holds

theorem Returns.bind {body : Transaction sig ε α} {next : α → Transaction sig ε β} {holds : β → Prop}
    (rest : ∀ value, (next value).Returns holds) : (body >>= next).Returns holds := by
  induction body with
  | done value => exact rest value
  | raised error => trivial
  | call request continue_ recurse => exact fun reply => recurse reply
  | register compensation continue_ recurse => exact recurse

theorem only_ofProgram {program : Program sig ε α} (only : program.Only allowed) :
    (ofProgram program).Only allowed := by
  induction program with
  | done value => trivial
  | raised error => trivial
  | call request next recurse => exact ⟨only.1, fun reply => recurse reply (only.2 reply)⟩

theorem only_registerCompensation {compensation : Program sig ε Unit} (only : compensation.Only allowed) :
    (registerCompensation compensation).Only allowed := ⟨only, trivial⟩

theorem only_rollback {report : RollbackReport sig} {compensations : List (Program sig ε Unit)} (error : ε)
    (undo : ∀ compensation ∈ compensations, compensation.Only allowed) (failed : allowed report.failed) :
    (rollback report error compensations : Program sig ε α).Only allowed := by
  induction compensations with
  | nil => trivial
  | cons compensation earlier recurse =>
      refine Program.Only.bind (.tryCatch (undo compensation List.mem_cons_self) fun _ => ⟨failed, fun _ => trivial⟩) ?_
      exact fun _ => recurse fun other member => undo other (List.mem_cons_of_mem _ member)

theorem Only.enact {body : Transaction sig ε α} {report : RollbackReport sig}
    {registered : List (Program sig ε Unit)} (only : body.Only allowed)
    (undo : ∀ compensation ∈ registered, compensation.Only allowed) (began : ∀ count, allowed (report.began count))
    (failed : allowed report.failed) : (body.enact report registered).Only allowed := by
  induction body generalizing registered with
  | done value => trivial
  | raised error => exact ⟨began _, fun _ => only_rollback error undo failed⟩
  | call request next recurse => exact ⟨only.1, fun reply => recurse reply (only.2 reply) undo⟩
  | register compensation next recurse =>
      refine recurse only.2 fun other member => ?_
      rcases List.mem_cons.mp member with rfl | earlier
      · exact only.1
      · exact undo other earlier

/-- A transaction of allowed calls keeps a condition on the state that the allowed calls keep. -/
theorem Only.settles {body : Transaction sig ε α} {report : RollbackReport sig}
    {registered : List (Program sig ε Unit)} (only : body.Only allowed)
    (undo : ∀ compensation ∈ registered, compensation.Only allowed) (began : ∀ count, allowed (report.began count))
    (failed : allowed report.failed) (kept : σ → Prop)
    (step : ∀ state request, kept state → allowed request → protocol.permits state request ∧
      ∀ reply after, protocol.answers state request reply after → kept after)
    (holds : kept state) :
    Ensures protocol (Settles protocol report fun _ final => kept final) registered state body :=
  (ensures_enact report body _).mp ((only.enact undo began failed).ensures kept step holds)

theorem bind_done (body : Transaction sig ε α) : (body >>= .done) = body := by
  induction body with
  | done value => rfl
  | raised error => rfl
  | call request next recurse =>
      rw [call_bind]
      exact congrArg (Transaction.call request) (funext recurse)
  | register compensation next recurse =>
      rw [register_bind]
      exact congrArg (Transaction.register compensation) recurse

theorem bind_assoc {γ : Type} (body : Transaction sig ε α) (first : α → Transaction sig ε β)
    (next : β → Transaction sig ε γ) : (body >>= first >>= next) = body >>= fun value => first value >>= next := by
  induction body with
  | done value => rfl
  | raised error => rfl
  | call request continue_ recurse =>
      simp only [call_bind]
      exact congrArg (Transaction.call request) (funext recurse)
  | register compensation continue_ recurse =>
      simp only [register_bind]
      exact congrArg (Transaction.register compensation) recurse

theorem ofProgram_bind (program : Program sig ε α) (next : α → Program sig ε β) :
    ofProgram (program >>= next) = ofProgram program >>= fun value => ofProgram (next value) := by
  induction program with
  | done value => rfl
  | raised error => rfl
  | call request continue_ recurse => exact congrArg (Transaction.call request) (funext recurse)

/-- How a transaction goes on after a step that returned, or raised. -/
def resume (report : RollbackReport sig) (registered : List (Program sig ε Unit)) (next : α → Transaction sig ε β) :
    Except ε α → Program sig ε β
  | .ok value => (next value).enact report registered
  | .error error => (Transaction.raised error).enact report registered

theorem enact_lift (report : RollbackReport sig) (registered : List (Program sig ε Unit)) (program : Program sig ε α)
    (next : α → Transaction sig ε β) :
    (ofProgram program >>= next).enact report registered = program.caught >>= resume report registered next := by
  induction program with
  | done value => rfl
  | raised error => rfl
  | call request continue_ recurse => exact congrArg (Program.call request) (funext recurse)

section Preservation

variable {safe : ∀ {α : Type}, Program sig ε α → Prop} {report : RollbackReport sig}

/-- Whatever follows the body, the whole is safe if what follows is, and the compensations are. -/
def Preserves (safe : ∀ {α : Type}, Program sig ε α → Prop) (report : RollbackReport sig)
    (body : Transaction sig ε α) : Prop :=
  ∀ (β : Type) (next : α → Transaction sig ε β) (registered : List (Program sig ε Unit)),
    (∀ compensation ∈ registered, safe compensation) →
    (∀ value later, (∀ compensation ∈ later, safe compensation) → safe ((next value).enact report later)) →
    safe ((body >>= next).enact report registered)

theorem Preserves.enact {body : Transaction sig ε α} (compositional : Program.Compositional safe)
    (preserves : Preserves safe report body) : safe (body.enact report []) := by
  have whole := preserves α .done [] (fun _ member => absurd member List.not_mem_nil)
    fun value _ _ => compositional.done value
  rw [bind_done] at whole
  exact whole

theorem preserves_done (value : α) : Preserves safe report (.done value : Transaction sig ε α) :=
  fun _ _ registered undo rest => rest value registered undo

theorem Preserves.bind {body : Transaction sig ε α} {next : α → Transaction sig ε β}
    (first : Preserves safe report body) (rest : ∀ value, Preserves safe report (next value)) :
    Preserves safe report (body >>= next) := by
  intro γ last registered undo follows
  rw [bind_assoc]
  exact first γ _ registered undo fun value later known => rest value γ last later known follows

theorem preserves_register {compensation : Program sig ε Unit} (undone : safe compensation) :
    Preserves safe report (registerCompensation compensation) := by
  intro β next registered undo follows
  apply follows
  intro other member
  rcases List.mem_cons.mp member with rfl | earlier
  · exact undone
  · exact undo other earlier

theorem safe_rollback (compositional : Program.Compositional safe) (failed : safe (.call report.failed .done))
    (error : ε) {registered : List (Program sig ε Unit)} (undo : ∀ compensation ∈ registered, safe compensation) :
    safe (rollback report error registered : Program sig ε α) := by
  induction registered with
  | nil => exact compositional.raised error
  | cons compensation earlier recurse =>
      apply compositional.bind
      · apply compositional.tryCatch (undo compensation List.mem_cons_self)
        intro _
        exact compositional.bind failed fun _ => compositional.done ()
      · intro _
        exact recurse fun other member => undo other (List.mem_cons_of_mem _ member)

theorem preserves_lift (compositional : Program.Compositional safe)
    (began : ∀ count, safe (.call (report.began count) .done)) (failed : safe (.call report.failed .done))
    {program : Program sig ε α} (step : safe program) : Preserves safe report (ofProgram program) := by
  intro β next registered undo follows
  rw [enact_lift]
  apply compositional.bind (compositional.caught step)
  intro result
  cases result with
  | ok value => exact follows value registered undo
  | error error => exact compositional.bind (began _) fun _ => safe_rollback compositional failed error undo

end Preservation

end Transaction

end AutomationHub.Foundation
