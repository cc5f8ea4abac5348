import AutomationHub.Model.Errors

/-!
The transition tables of requests and of workflow stages.
-/

set_option autoImplicit false

namespace AutomationHub.Workflow

open Model

def requestStatusTransitions : RequestStatus → List RequestStatus
  | .pending => [.inReview, .rejected, .completed]
  | .inReview => [.inReview, .completed, .rejected]
  | .approved => []
  | .completed => []
  | .rejected => []

def stageStatusTransitions : StageStatus → List StageStatus
  | .pending => [.pending, .approved, .rejected, .skipped]
  | .approved => []
  | .rejected => []
  | .skipped => []

def isValidRequestTransition (current target : RequestStatus) : Bool :=
  target ∈ requestStatusTransitions current

def validateRequestTransition (current target : RequestStatus) : Except EngineError Unit :=
  if isValidRequestTransition current target then .ok ()
  else .error (.invalidStateTransition "request" current.value target.value)

def isTerminalRequestStatus (status : RequestStatus) : Bool :=
  (requestStatusTransitions status).isEmpty

def isValidStageTransition (current target : StageStatus) : Bool :=
  target ∈ stageStatusTransitions current

def validateStageTransition (current target : StageStatus) : Except EngineError Unit :=
  if isValidStageTransition current target then .ok ()
  else .error (.invalidStateTransition "workflow_stage" current.value target.value)

def isTerminalStageStatus (status : StageStatus) : Bool :=
  if status = .pending then false else (stageStatusTransitions status).isEmpty

theorem nonterminal_of_validateRequestTransition {current target : RequestStatus}
    (valid : validateRequestTransition current target = .ok ()) : isTerminalRequestStatus current = false := by
  cases current <;> cases target <;> first | rfl | simp [validateRequestTransition, isValidRequestTransition,
    requestStatusTransitions] at valid

theorem validateStageTransition_decision (current : StageStatus) (target : StageStatus) (decision : target ≠ .pending) :
    validateStageTransition current target = .ok () ↔ current = .pending := by
  cases current <;> cases target <;> simp [validateStageTransition, isValidStageTransition,
    stageStatusTransitions] at decision ⊢

end AutomationHub.Workflow
