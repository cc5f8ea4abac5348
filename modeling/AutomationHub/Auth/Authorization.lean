import AutomationHub.Database.World

/-!
Role-based decisions, and their enforcement for an authenticated caller.
-/

set_option autoImplicit false

namespace AutomationHub.Auth

open Foundation Model Database

structure AuthenticatedIdentity where
  userId : UUID
  role : UserRole
  companyId : UUID
  expiresAt : Option Datetime
deriving DecidableEq

/-- The client with which the statements of an identity reach the tables that run under it: its own if one is bound, or
the unrestricted one. -/
def clientOf (bound : Bool) (identity : AuthenticatedIdentity) : Option UUID :=
  if bound then some identity.userId else none

def canViewRequest (role : UserRole) (isRequester isAssignedApprover : Bool) : Bool :=
  if role = .admin then true else isRequester || isAssignedApprover

def canEditRequest (_role : UserRole) (isRequester requestIsPending : Bool) : Bool :=
  isRequester && requestIsPending

def canWithdrawRequest (role : UserRole) (isRequester requestIsPending : Bool) : Bool :=
  if role = .admin then true else isRequester && requestIsPending

def canDecideStage (role : UserRole) (isResolvedAssignee isRoleEligible stageIsPending : Bool) : Bool :=
  if role ≠ .approver ∧ role ≠ .admin then false
  else if !stageIsPending then false
  else isResolvedAssignee || isRoleEligible

/-- `can_decide_stage` for a caller and a stage row. -/
def AuthenticatedIdentity.mayDecide (identity : AuthenticatedIdentity) (stage : WorkflowStageRecord) : Bool :=
  canDecideStage identity.role (stage.assignedTo == some identity.userId) (stage.assignedRole == some identity.role)
    (stage.status == .pending)

def utcNow : Service Datetime := ask .utcNow

def isExpired (identity : AuthenticatedIdentity) : Service Bool := do
  match identity.expiresAt with
  | none => return false
  | some expiresAt => return isPast expiresAt (← utcNow)

/-- Enforce one decision of the functions above, unless the caller's token has expired. -/
def authorize (identity : AuthenticatedIdentity) (permitted : Bool) (resource : String) :
    Service (Except AuthError Unit) := do
  if ← isExpired identity then return .error .sessionExpired
  if permitted then return .ok ()
  return .error (.ownershipRequired resource)

def authorizeRequestView (identity : AuthenticatedIdentity) (isRequester isAssignedApprover : Bool) :
    Service (Except AuthError Unit) :=
  authorize identity (canViewRequest identity.role isRequester isAssignedApprover) "request"

def authorizeRequestEdit (identity : AuthenticatedIdentity) (isRequester requestIsPending : Bool) :
    Service (Except AuthError Unit) :=
  authorize identity (canEditRequest identity.role isRequester requestIsPending) "request"

def authorizeRequestWithdrawal (identity : AuthenticatedIdentity) (isRequester requestIsPending : Bool) :
    Service (Except AuthError Unit) :=
  authorize identity (canWithdrawRequest identity.role isRequester requestIsPending) "request"

def authorizeStageDecision (identity : AuthenticatedIdentity) (stage : WorkflowStageRecord) :
    Service (Except AuthError Unit) :=
  authorize identity (identity.mayDecide stage) "workflow stage"

def canManageWorkflowDefinitions (role : UserRole) : Bool := role == .admin

def authorizeWorkflowDefinitionManagement (identity : AuthenticatedIdentity) : Service (Except AuthError Unit) := do
  if ← isExpired identity then return .error .sessionExpired
  if canManageWorkflowDefinitions identity.role then return .ok ()
  return .error (.permissionDenied identity.role "manage_workflow_definitions")

theorem mayDecide_iff (identity : AuthenticatedIdentity) (stage : WorkflowStageRecord) :
    identity.mayDecide stage = true ↔
      identity.role ≠ .employee ∧ stage.status = .pending ∧
        (stage.assignedTo = some identity.userId ∨ stage.assignedRole = some identity.role) := by
  unfold AuthenticatedIdentity.mayDecide canDecideStage
  cases identity.role <;> cases stage.status <;> simp

end AutomationHub.Auth
