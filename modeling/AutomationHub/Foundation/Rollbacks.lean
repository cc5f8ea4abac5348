import AutomationHub.Foundation.TwoRuns

/-!
Transactions whose calls are answered in one way until a rollback begins, and in another way from then on.
-/

set_option autoImplicit false

namespace AutomationHub.Foundation

variable {sig : Signature} {σ ε α β : Type}

/-- One protocol until a call that switches, and another one from then on. -/
def Protocol.switching (switches : sig.Call → Bool) (first later : Protocol sig σ) : Protocol sig (σ × Bool) where
  permits := fun state request => if state.2 then later.permits state.1 request else first.permits state.1 request
  answers := fun state request reply after =>
    after.2 = (state.2 || switches request) ∧
      if state.2 then later.answers state.1 request reply after.1 else first.answers state.1 request reply after.1

namespace Program

variable {switches : sig.Call → Bool} {first later : Protocol sig σ} {program : Program sig ε α} {state : σ}
  {post : Except ε α → σ × Bool → Prop}

theorem ensures_switched (ensured : program.Ensures later (fun result final => post result (final, true)) state) :
    program.Ensures (.switching switches first later) post (state, true) := by
  induction program generalizing state with
  | done value => exact ensured
  | raised error => exact ensured
  | call request next recurse =>
      refine ⟨ensured.1, ?_⟩
      intro reply after answered
      obtain ⟨after, switched⟩ := after
      obtain ⟨same, answered⟩ := answered
      obtain rfl : switched = true := same
      exact recurse reply (ensured.2 reply after answered)

/-- None of the calls of the program switches. -/
theorem ensures_unswitched (only : program.Only fun request => switches request = false)
    (ensured : program.Ensures first (fun result final => post result (final, false)) state) :
    program.Ensures (.switching switches first later) post (state, false) := by
  induction program generalizing state with
  | done value => exact ensured
  | raised error => exact ensured
  | call request next recurse =>
      refine ⟨ensured.1, ?_⟩
      intro reply after answered
      obtain ⟨after, switched⟩ := after
      obtain ⟨same, answered⟩ := answered
      obtain rfl : switched = false := same.trans only.1
      exact recurse reply (only.2 reply) (ensured.2 reply after answered)

end Program

namespace Transaction

variable {switches : sig.Call → Bool} {first later : Protocol sig σ} {report : RollbackReport sig}
  {post : Except ε α → σ × Bool → Prop}

/-- What a body must ensure: a result is final, an exception is followed by the rollback, under the later protocol. -/
def Recovers (first later : Protocol sig σ) (report : RollbackReport sig) (post : Except ε α → σ × Bool → Prop) :
    Except ε α → List (Program sig ε Unit) → σ → Prop
  | .ok value, _, state => post (.ok value) (state, false)
  | .error error, registered, state =>
      first.permits state (report.began registered.length) ∧
        ∀ reply after, first.answers state (report.began registered.length) reply after →
          (rollback report error registered).Ensures later (fun result final => post result (final, true)) after

theorem ensures_recovering {body : Transaction sig ε α} {registered : List (Program sig ε Unit)} {state : σ}
    (only : body.Only fun request => switches request = false) (began : ∀ count, switches (report.began count) = true)
    (ensured : Ensures first (Recovers first later report post) registered state body) :
    (body.enact report registered).Ensures (.switching switches first later) post (state, false) := by
  induction body generalizing registered state with
  | done value => exact ensured
  | raised error =>
      refine ⟨ensured.1, ?_⟩
      intro reply after answered
      obtain ⟨after, switched⟩ := after
      obtain ⟨same, answered⟩ := answered
      obtain rfl : switched = true := same.trans (began _)
      exact Program.ensures_switched (ensured.2 reply after answered)
  | call request next recurse =>
      refine ⟨ensured.1, ?_⟩
      intro reply after answered
      obtain ⟨after, switched⟩ := after
      obtain ⟨same, answered⟩ := answered
      obtain rfl : switched = false := same.trans only.1
      exact recurse reply (only.2 reply) (ensured.2 reply after answered)
  | register compensation next recurse => exact recurse only.2 ensured

theorem Ensures.returning {protocol : Protocol sig σ} {body : Transaction sig ε α} {registered : List (Program sig ε Unit)}
    {state : σ} {holds : α → Prop} {post : Except ε α → List (Program sig ε Unit) → σ → Prop}
    (ensured : Ensures protocol post registered state body) (returned : body.Returns holds) :
    Ensures protocol (fun result compensations final =>
      post result compensations final ∧ ∀ value, result = .ok value → holds value) registered state body := by
  induction body generalizing registered state with
  | done value =>
      refine ⟨ensured, ?_⟩
      intro other same
      obtain rfl := Except.ok.inj same
      exact returned
  | raised error => exact ⟨ensured, fun _ same => by cases same⟩
  | call request next recurse =>
      exact ⟨ensured.1, fun reply after answered => recurse reply (ensured.2 reply after answered) (returned reply)⟩
  | register compensation next recurse => exact recurse ensured returned

/-- A compensation that succeeds is followed by the earlier ones. -/
theorem run_rollback_cons {handler : Handler sig σ} {error : ε} {compensation : Program sig ε Unit}
    {earlier : List (Program sig ε Unit)} {state after : σ} (undone : compensation.run handler state = (.ok (), after)) :
    (rollback report error (compensation :: earlier) : Program sig ε α).run handler state =
      (rollback report error earlier : Program sig ε α).run handler after := by
  rw [rollback, Program.run_bind, Program.run_tryCatch, undone]
  rfl

/-- A compensation that fails is reported, and followed by the earlier ones. -/
theorem run_rollback_cons_failed {handler : Handler sig σ} {error failure : ε} {compensation : Program sig ε Unit}
    {earlier : List (Program sig ε Unit)} {state after : σ}
    (failed : compensation.run handler state = (.error failure, after)) :
    (rollback report error (compensation :: earlier) : Program sig ε α).run handler state =
      (rollback report error earlier : Program sig ε α).run handler (handler report.failed after).2 := by
  rw [rollback, Program.run_bind, Program.run_tryCatch, failed]
  rfl

end Transaction

end AutomationHub.Foundation
