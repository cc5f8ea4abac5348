import AutomationHub.Services.RequestService

/-!
Decisions on workflow stages, escalation, and the queue of pending approvals.
-/

set_option autoImplicit false

namespace AutomationHub.Services

open Foundation Model Database Auth Workflow

/-- The two decisions a caller can take on a stage. -/
inductive Decision where
  | approve
  | reject
deriving DecidableEq

/-- `target_stage_status`. -/
def Decision.stageStatus : Decision → StageStatus
  | .approve => .approved
  | .reject => .rejected

structure DecisionAdvancement where
  requestStatus : RequestStatus
  newStageId : Option UUID
  notifyRecipientId : Option UUID
  auditAction : AuditAction

structure ApprovalOutcome where
  stage : WorkflowStageRecord
  requestStatus : RequestStatus
  currentStageId : Option UUID

/-- Undo the decision that `decided` records. -/
def compensateDecision (stageId : UUID) (decided : WorkflowStageRecord) : Service Unit :=
  compensation (.revertToPending stageId decided.version)

/-- Undo the creation of a stage; a stage that changed since is left in place. -/
def compensateStageCreation (newStage : WorkflowStageRecord) : Service Unit := do
  let deleted : Bool ← orRaise (.deleteIfUnchanged newStage.id newStage.version)
  if !deleted then log (.stageLeftInPlace newStage.id)

/-- Put the lifecycle columns of `original` back into the request that `updated` records. -/
def compensateRequestAdvancement (original updated : RequestRecord) : Service Unit :=
  compensation (.setCurrentStage original.id updated.version original.currentStageId original.status
    original.completedAt)

/-- The approvers fetched when the stage after `stageOrder` is assigned through the requester's department. -/
def fetchApproversForNextStage (definition : WorkflowDefinition) (stageOrder : Nat) (request : RequestRecord)
    (requester : ProfileRecord) : Service (List ProfileRecord) := do
  let remaining := definition.definition.orderedStages.filter fun stage => stage.order == stageOrder + 1
  if remaining.head?.any fun stage => stage.assignmentStrategy == .requesterManager then
    let records : PagedResult ProfileRecord ←
      orRaise (.listProfilesByRole .approver request.companyId requester.department .firstHundred)
    return records.items
  return []

/-- Move the request to its last status. -/
def finishRequest (request : RequestRecord) (status : RequestStatus) :
    Transaction hubSignature AppError Unit := do
  let _ ← engineOrTranslate (validateRequestTransition request.status status)
  let completedAt ← utcNow
  let updatedRequest : RequestRecord ← orTranslate
    (.setCurrentStage request.id request.version none status (some completedAt))
  Transaction.registerCompensation (compensateRequestAdvancement request updatedRequest)

/-- Generate the planned stage and point the request at it. -/
def openNextStage (request : RequestRecord) (plan : StagePlan) :
    Transaction hubSignature AppError WorkflowStageRecord := do
  let newStage : WorkflowStageRecord ← orTranslate (.createStage request.id plan.stageOrder plan.stageName
    request.companyId plan.assignedRole plan.assignedTo)
  Transaction.registerCompensation (compensateStageCreation newStage)
  let _ ← engineOrTranslate (validateRequestTransition request.status .inReview)
  let updatedRequest : RequestRecord ← orTranslate
    (.setCurrentStage request.id request.version (some newStage.id) .inReview none)
  Transaction.registerCompensation (compensateRequestAdvancement request updatedRequest)
  return newStage

/-- What the approval of `stage` asks for next, read before any further write. -/
def planAfterApproval (viewer : Option UUID) (stage : WorkflowStageRecord) :
    Service (RequestRecord × Option StagePlan) := do
  let request : RequestRecord ← orNotFound (.getRequest stage.requestId)
  let definition : WorkflowDefinition ← orNotFound (.getDefinition viewer request.workflowDefinitionId)
  let highestExistingOrder : Nat ← orRaise (.getHighestStageOrder request.id)
  let requester : ProfileRecord ← orNotFound (.getProfile request.requesterId)
  let departmentApprovers ← fetchApproversForNextStage definition stage.stageOrder request requester
  let plan ← engineOrRaise
    (planNextStage definition stage.stageOrder highestExistingOrder requester departmentApprovers)
  return (request, plan)

def advanceAfterApproval (viewer : Option UUID) (stage : WorkflowStageRecord) :
    Transaction hubSignature AppError DecisionAdvancement := do
  let (request, planned) ← planAfterApproval viewer stage
  match planned with
  | none =>
      finishRequest request .completed
      return { requestStatus := .completed, newStageId := none, notifyRecipientId := none,
               auditAction := .stageApproved }
  | some plan =>
      let newStage ← openNextStage request plan
      return { requestStatus := .inReview, newStageId := some newStage.id, notifyRecipientId := plan.assignedTo,
               auditAction := .stageApproved }

def finalizeRejection (stage : WorkflowStageRecord) : Transaction hubSignature AppError DecisionAdvancement := do
  let request : RequestRecord ← orNotFound (.getRequest stage.requestId)
  finishRequest request .rejected
  return { requestStatus := .rejected, newStageId := none, notifyRecipientId := none, auditAction := .stageRejected }

/-- The conditional update that records a decision. -/
def decisionStatement (decision : Decision) (stageId : UUID) (expectedVersion : Nat) (decidedBy : UUID)
    (decisionNote : Option String) : Service WorkflowStageRecord :=
  match decision with
  | .approve => orTranslate (.approveStage stageId expectedVersion decidedBy decisionNote)
  | .reject => orTranslate (.rejectStage stageId expectedVersion decidedBy (decisionNote.getD ""))

/-- The writes of a decision on the row `stage`, fetched before. -/
def decideStageBody (identity : AuthenticatedIdentity) (stageId : UUID) (stage : WorkflowStageRecord)
    (decision : Decision) (versionToUse : Nat) (decisionNote : Option String) :
    Transaction hubSignature AppError (WorkflowStageRecord × DecisionAdvancement) := do
  let decided ← decisionStatement decision stageId versionToUse identity.userId decisionNote
  Transaction.registerCompensation (compensateDecision stageId decided)
  let advancement ← match decision with
    | .approve => advanceAfterApproval (some identity.userId) stage
    | .reject => finalizeRejection stage
  let _ ← orTranslate (.recordEvent advancement.auditAction (some identity.userId) (some stage.requestId)
    (some (.stageDecided stageId decisionNote)) none)
  return (decided, advancement)

def dispatchPostDecisionNotifications (viewer : Option UUID) (stage : WorkflowStageRecord)
    (advancement : DecisionAdvancement) : Service Unit := do
  match ← attempt (.getRequest stage.requestId) with
  | .error (.recordNotFound ..) => return ()
  | .error error => throw (.database error)
  | .ok (request : RequestRecord) =>
      if advancement.requestStatus = .rejected then
        let _ ← notifyDecision viewer request.requesterId request.id
          ("Your request '" ++ request.title ++ "' was rejected.")
      else if advancement.requestStatus = .completed then
        let _ ← notifyCompletion viewer request.requesterId request.id
          ("Your request '" ++ request.title ++ "' has been completed.")
      else if let some recipient := advancement.notifyRecipientId then
        let _ ← notifyAssignment viewer recipient request.id
          ("You have been assigned to review '" ++ request.title ++ "'.")

/-- The outcome of a decision that this caller already took on this stage. -/
def replayIdempotentDecision (stage : WorkflowStageRecord) : Service ApprovalOutcome := do
  let request : RequestRecord ← orNotFound (.getRequest stage.requestId)
  return { stage, requestStatus := request.status, currentStageId := request.currentStageId }

def getByIdForCompany (stageId companyId : UUID) : Service WorkflowStageRecord := do
  let record : WorkflowStageRecord ← orNotFound (.getStage stageId)
  if record.companyId ≠ companyId then throw (translateDatabaseError (.recordNotFound "workflow_stage" stageId))
  return record

def decideStage (identity : AuthenticatedIdentity) (stageId : UUID) (decision : Decision)
    (expectedVersion : Option Nat) (decisionNote : Option String) : Service ApprovalOutcome := do
  let stage ← getByIdForCompany stageId identity.companyId
  if stage.status = decision.stageStatus ∧ stage.decidedBy = some identity.userId then
    replayIdempotentDecision stage
  else
    match ← authorizeStageDecision identity stage with
    | .error error => throw (translateAuthError error)
    | .ok () =>
        let _ ← engineOrTranslate (validateStageTransition stage.status decision.stageStatus)
        let versionToUse := expectedVersion.getD stage.version
        let (decided, advancement) ← transaction ("decide_stage_" ++ decision.stageStatus.value)
          (decideStageBody identity stageId stage decision versionToUse decisionNote)
        tryCatch (dispatchPostDecisionNotifications (some identity.userId) stage advancement)
          fun _ => log (.notificationFailed stageId)
        return { stage := decided, requestStatus := advancement.requestStatus,
                 currentStageId := advancement.newStageId }

def approveStage (identity : AuthenticatedIdentity) (stageId : UUID) (expectedVersion : Option Nat)
    (decisionNote : Option DecisionNote) : Service ApprovalOutcome :=
  decideStage identity stageId .approve expectedVersion (decisionNote.map DecisionNote.text)

def rejectStage (identity : AuthenticatedIdentity) (stageId : UUID) (expectedVersion : Option Nat)
    (decisionNote : String) : Service ApprovalOutcome :=
  if strip decisionNote = "" then throw (.validation "A decision_note is required when rejecting a stage.")
  else decideStage identity stageId .reject expectedVersion (some decisionNote)

/-- The writes of an escalation of the row `stage`, fetched before. -/
def escalateStageBody (stageId : UUID) (stage : WorkflowStageRecord) :
    Transaction hubSignature AppError WorkflowStageRecord := do
  let plan := planStageEscalation stage.assignedTo stage.assignedRole
  let reassigned : WorkflowStageRecord ← orTranslate
    (.escalateStage stageId stage.version plan.newAssignedTo (some plan.newAssignedRole))
  Transaction.registerCompensation (compensation
    (.escalateStage stageId reassigned.version plan.previousAssignedTo plan.previousAssignedRole))
  let _ ← orTranslate (.recordEvent .stageEscalated none (some stage.requestId)
    (some (.stageEscalated stageId plan.previousAssignedTo plan.previousAssignedRole)) none)
  return reassigned

def escalateStage (stageId : UUID) : Service WorkflowStageRecord := do
  let stage : WorkflowStageRecord ← orNotFound (.getStage stageId)
  let reassigned ← transaction "escalate_stage" (escalateStageBody stageId stage)
  if let some recipient := reassigned.assignedTo then
    tryCatch (do
        let _ ← notifyEscalation none recipient stage.requestId
          ("Stage '" ++ stage.stageName ++ "' has been escalated to you."))
      fun _ => log (.notificationFailed stageId)
  return reassigned

def listPendingApprovals (identity : AuthenticatedIdentity) (page : Page) :
    Service (PagedResult WorkflowStageRecord) := do
  if identity.role ≠ .approver ∧ identity.role ≠ .admin then
    throw (.permissionDenied ("Role '" ++ identity.role.value ++ "' may not view the pending approvals queue."))
  orTranslate (.listPendingForApprover identity.companyId (some identity.userId) (some identity.role) page)

end AutomationHub.Services
