import AutomationHub.Model.Records
import AutomationHub.Workflow.StateMachine

/-!
The workflow engine: definition resolution, stage generation, assignment and
escalation planning.  Every function is pure; the services fetch what it needs.
-/

set_option autoImplicit false

namespace AutomationHub.Workflow

open Model

def stageOrderIncrement : Nat := 1

def escalationFallbackRole : UserRole := .admin

def fallbackReasonNoDepartmentApprover : String :=
  "No department-designated approver could be resolved for the requester's department; the stage was routed to "
    ++ "administrator attention as a fallback, per WEDD Section 7.5."

/-- The single active definition for a request type among the candidates. -/
def resolveDefinition (requestType : String) (candidates : List WorkflowDefinition) :
    Except EngineError WorkflowDefinition :=
  match candidates.filter fun candidate => candidate.requestType == requestType && candidate.isActive with
  | [] => .error (.noActiveDefinition requestType)
  | [resolved] => .ok resolved
  | active => .error (.multipleActiveDefinitions requestType (active.map WorkflowDefinition.id))

/-- The stage with order 1. -/
def firstStage (definition : WorkflowDefinition) : StageDefinition :=
  definition.definition.orderedStages.head fun none =>
    definition.definition.nonempty (List.Perm.eq_nil (none ▸ (List.perm_insertionSort _ definition.definition.stages).symm))

/-- The stage after `currentOrder`, or `none` when the workflow is complete. -/
def nextStage (definition : WorkflowDefinition) (currentOrder highestExistingOrder : Nat) :
    Except EngineError (Option StageDefinition) :=
  if currentOrder = 0 then
    .error (.inputValidation "current_order" "must be a positive integer, got 0.")
  else if highestExistingOrder = 0 then
    .error (.inputValidation "highest_existing_order" "must be a positive integer, got 0.")
  else if highestExistingOrder ≠ currentOrder then
    .error (.nonSequentialStageOrder highestExistingOrder currentOrder)
  else
    .ok (definition.definition.orderedStages.find? fun stage => stage.order == currentOrder + stageOrderIncrement)

def isFinalStage (definition : WorkflowDefinition) (stageOrder : Nat) : Except EngineError Bool :=
  let orders := definition.definition.stages.map StageDefinition.order
  if stageOrder ∈ orders then .ok (orders.max? == some stageOrder)
  else .error (.stageNotFoundInDefinition stageOrder)

structure AssignmentResult where
  assignedTo : Option UUID
  assignedRole : Option UserRole
  usedFallback : Bool
  fallbackReason : Option String
deriving DecidableEq

def resolveSpecificUser (stage : StageDefinition) : AssignmentResult :=
  { assignedTo := stage.assignedUserId, assignedRole := none, usedFallback := false, fallbackReason := none }

def resolveDepartmentQueue (stage : StageDefinition) : AssignmentResult :=
  { assignedTo := none, assignedRole := stage.assignedRole, usedFallback := false, fallbackReason := none }

def resolveRequesterManager (requester : ProfileRecord) (departmentApprovers : List ProfileRecord) : AssignmentResult :=
  let eligible := (departmentApprovers.filter fun approver => approver.department == requester.department).insertionSort
    fun left right => left.fullName ≤ right.fullName
  match eligible with
  | chosen :: _ =>
      { assignedTo := some chosen.id, assignedRole := none, usedFallback := false, fallbackReason := none }
  | [] =>
      { assignedTo := none, assignedRole := some escalationFallbackRole, usedFallback := true,
        fallbackReason := some fallbackReasonNoDepartmentApprover }

def resolveAssignment (stage : StageDefinition) (requester : ProfileRecord)
    (departmentApprovers : List ProfileRecord) : AssignmentResult :=
  match stage.assignmentStrategy with
  | .specificUser => resolveSpecificUser stage
  | .departmentQueue => resolveDepartmentQueue stage
  | .requesterManager => resolveRequesterManager requester departmentApprovers

structure StagePlan where
  stageOrder : Nat
  stageName : String
  assignedTo : Option UUID
  assignedRole : Option UserRole
  usedFallback : Bool
  fallbackReason : Option String
  isFinalStage : Bool
deriving DecidableEq

def toStagePlan (definition : WorkflowDefinition) (stage : StageDefinition) (assignment : AssignmentResult) :
    Except EngineError StagePlan := do
  let final ← isFinalStage definition stage.order
  return { stageOrder := stage.order, stageName := stage.name, assignedTo := assignment.assignedTo,
           assignedRole := assignment.assignedRole, usedFallback := assignment.usedFallback,
           fallbackReason := assignment.fallbackReason, isFinalStage := final }

def planFirstStage (definition : WorkflowDefinition) (requester : ProfileRecord)
    (departmentApprovers : List ProfileRecord) : Except EngineError StagePlan :=
  let stage := firstStage definition
  toStagePlan definition stage (resolveAssignment stage requester departmentApprovers)

/-- The plan of the stage after `currentOrder`; `none` means that the request is complete. -/
def planNextStage (definition : WorkflowDefinition) (currentOrder highestExistingOrder : Nat)
    (requester : ProfileRecord) (departmentApprovers : List ProfileRecord) :
    Except EngineError (Option StagePlan) := do
  match ← nextStage definition currentOrder highestExistingOrder with
  | none => return none
  | some stage => return some (← toStagePlan definition stage (resolveAssignment stage requester departmentApprovers))

structure EscalationPlan where
  previousAssignedTo : Option UUID
  previousAssignedRole : Option UserRole
  newAssignedTo : Option UUID
  newAssignedRole : UserRole
deriving DecidableEq

def planStageEscalation (currentAssignedTo : Option UUID) (currentAssignedRole : Option UserRole) : EscalationPlan :=
  { previousAssignedTo := currentAssignedTo, previousAssignedRole := currentAssignedRole,
    newAssignedTo := none, newAssignedRole := escalationFallbackRole }

def computeThreshold (stageCreatedAt : Datetime) (escalationHours : Hours) : Except EngineError Datetime :=
  if escalationHours.Positive then
    match addHours stageCreatedAt escalationHours with
    | some threshold => .ok threshold
    | none => .error .overflow
  else .error (.inputValidation "escalation_hours" "must be a positive number")

def isStageEscalationEligible (stageCreatedAt : Datetime) (escalationHours : Hours) (now : Datetime) :
    Except EngineError Bool := do
  return isPast (← computeThreshold stageCreatedAt escalationHours) now

end AutomationHub.Workflow
