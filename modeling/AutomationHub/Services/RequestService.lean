import AutomationHub.Foundation.Compensation
import AutomationHub.Services.NotificationService
import AutomationHub.Workflow.Engine

/-!
Creation, reading, editing and withdrawal of requests.
-/

set_option autoImplicit false

namespace AutomationHub.Services

open Foundation Model Database Auth Workflow

/-- The log lines of `TransactionContext.__exit__`. -/
def transactionReport (operation : String) : RollbackReport hubSignature where
  began := fun count => .log (.rollback operation count)
  failed := .log (.compensationFailed operation)

/-- `with TransactionContext(operation_name=operation) as tx: body`. -/
def transaction {α : Type} (operation : String) (body : Transaction hubSignature AppError α) : Service α :=
  body.enact (transactionReport operation) []

/-- A compensating statement; whatever it raises is caught by the transaction. -/
def compensation (statement : Query) : Service Unit := do
  let _ ← orRaise statement
  return ()

structure RequestCreate where
  requestType : String
  title : String
  description : Option String
  department : Option String

/-- Strip every text, then check the lengths. -/
@[irreducible] def RequestCreate.validate (payload : RequestCreate) : Except AppError RequestCreate :=
  let stripped : RequestCreate :=
    { requestType := strip payload.requestType, title := strip payload.title,
      description := payload.description.map strip, department := payload.department.map strip }
  if 1 ≤ stripped.requestType.length ∧ 1 ≤ stripped.title.length ∧ stripped.title.length ≤ 200 ∧
      stripped.description.all (·.length ≤ 5000) then .ok stripped
  else .error (.validation "'RequestCreate' failed validation.")

/-- The approvers among whom a `requester_manager` stage finds its assignee; no other strategy reads them. -/
def fetchDepartmentApproversIfNeeded (definition : WorkflowDefinition) (requester : ProfileRecord)
    (companyId : UUID) : Service (List ProfileRecord) := do
  if (firstStage definition).assignmentStrategy ≠ .requesterManager then return []
  let records : PagedResult ProfileRecord ←
    orTranslate (.listProfilesByRole .approver companyId requester.department .firstHundred)
  return records.items

/-- The writes of `create_request`. -/
def createRequestBody (identity : AuthenticatedIdentity) (payload : RequestCreate) (definition : WorkflowDefinition)
    (plan : StagePlan) : Transaction hubSignature AppError RequestRecord := do
  let createdRequest : RequestRecord ← orTranslate (.createRequest identity.userId definition.id payload.requestType
    payload.title identity.companyId payload.description payload.department)
  Transaction.registerCompensation
    (compensation (.softDelete createdRequest.id createdRequest.version identity.userId))
  let createdStage : WorkflowStageRecord ← orTranslate (.createStage createdRequest.id plan.stageOrder plan.stageName
    identity.companyId plan.assignedRole plan.assignedTo)
  let updatedRequest : RequestRecord ← orTranslate (.setCurrentStage createdRequest.id createdRequest.version
    (some createdStage.id) .pending none)
  let _ ← orTranslate (.recordEvent .requestCreated (some identity.userId) (some createdRequest.id)
    (some (.requestCreated createdStage.id (if plan.usedFallback then plan.fallbackReason else none))) none)
  return updatedRequest

def createRequest (identity : AuthenticatedIdentity) (input : RequestCreate) : Service RequestRecord := do
  let payload ← Program.ofExcept input.validate
  let candidates : PagedResult WorkflowDefinition ←
    orTranslate (.listDefinitions (some identity.userId) payload.requestType identity.companyId (some true)
      (Page.first 10 (by decide) (by decide)))
  let definition ← engineOrTranslate (resolveDefinition payload.requestType candidates.items)
  let requester : ProfileRecord ← orNotFound (.getProfile identity.userId)
  let departmentApprovers ← fetchDepartmentApproversIfNeeded definition requester identity.companyId
  let plan ← engineOrRaise (planFirstStage definition requester departmentApprovers)
  let updatedRequest ← transaction "create_request" (createRequestBody identity payload definition plan)
  if let some recipient := plan.assignedTo then
    let _ ← notifyAssignment (some identity.userId) recipient updatedRequest.id
      ("You have been assigned to review '" ++ payload.title ++ "'.")
  return updatedRequest

def isAssignedToAnyStage (requestId userId : UUID) (role : UserRole) : Service Bool := do
  if role ≠ .approver ∧ role ≠ .admin then return false
  let stages : PagedResult WorkflowStageRecord ←
    orRaise (.listStagesForRequest requestId .firstHundred)
  return stages.items.any fun stage => stage.assignedTo == some userId || stage.assignedRole == some role

/-- The request, if it belongs to the caller's company. -/
def requestOfCompany (identity : AuthenticatedIdentity) (requestId : UUID) : Service RequestRecord := do
  let record : RequestRecord ← orNotFound (.getRequest requestId)
  if record.companyId ≠ identity.companyId then throw (.notFound "request" requestId)
  return record

def getRequest (identity : AuthenticatedIdentity) (requestId : UUID) : Service RequestRecord := do
  let record ← requestOfCompany identity requestId
  let isAssignedApprover ← isAssignedToAnyStage record.id identity.userId identity.role
  match ← authorizeRequestView identity (record.requesterId == identity.userId) isAssignedApprover with
  | .error _ => throw (.notFound "request" requestId)
  | .ok () => return record

/-- `RequestUpdate` checks the stripped texts; the unstripped ones are stored. -/
@[irreducible] def validateRequestUpdate (title description : Option String) : Except AppError Unit :=
  if title.all (fun text => 1 ≤ (strip text).length && (strip text).length ≤ 200) &&
      description.all (fun text => (strip text).length ≤ 5000) then .ok ()
  else .error (.validation "'RequestUpdate' failed validation.")

def updateRequest (identity : AuthenticatedIdentity) (requestId : UUID) (title description department : Option String)
    (expectedVersion : Nat) : Service RequestRecord := do
  let record ← requestOfCompany identity requestId
  match ← authorizeRequestEdit identity (record.requesterId == identity.userId) (record.status == .pending) with
  | .error error => throw (translateAuthError error)
  | .ok () =>
      Program.ofExcept (validateRequestUpdate title description)
      orTranslate (.updateEditableFields requestId expectedVersion title description department)

def withdrawRequest (identity : AuthenticatedIdentity) (requestId : UUID) (expectedVersion : Nat) :
    Service RequestRecord := do
  let record ← requestOfCompany identity requestId
  match ← authorizeRequestWithdrawal identity (record.requesterId == identity.userId) (record.status == .pending) with
  | .error error => throw (translateAuthError error)
  | .ok () =>
      let updated : RequestRecord ← orTranslate (.softDelete requestId expectedVersion identity.userId)
      let _ ← orTranslate (.recordEvent .requestWithdrawn (some identity.userId) (some requestId) none none)
      return updated

/-- The requests of the pending stages that an approver may decide. -/
def visibleRequestIdsForApprover (identity : AuthenticatedIdentity) : Service (List UUID) := do
  let stages : PagedResult WorkflowStageRecord ← orRaise
    (.listPendingForApprover identity.companyId (some identity.userId) (some identity.role) .firstHundred)
  return (stages.items.map WorkflowStageRecord.requestId).dedup

def listRequests (identity : AuthenticatedIdentity) (status : Option RequestStatus)
    (requestType department : Option String) (page : Page) : Service (PagedResult RequestRecord) := do
  let filter : RequestFilter :=
    { status, requestType, department, requesterId := none, requestIds := none, includeDeleted := false }
  match identity.role with
  | .employee =>
      orTranslate (.listRequests identity.companyId { filter with requesterId := some identity.userId } page)
  | .approver =>
      let requestIds ← visibleRequestIdsForApprover identity
      if requestIds.isEmpty then
        return { items := [], page := page.number, pageSize := page.size, totalRecords := 0 }
      orTranslate (.listRequests identity.companyId { filter with requestIds := some requestIds } page)
  | .admin => orTranslate (.listRequests identity.companyId filter page)

def searchRequests (identity : AuthenticatedIdentity) (queryText : String) (page : Page) :
    Service (PagedResult RequestRecord) := do
  match identity.role with
  | .employee => orTranslate (.searchRequests queryText identity.companyId (some identity.userId) none page)
  | .approver =>
      let requestIds ← visibleRequestIdsForApprover identity
      if requestIds.isEmpty then
        return { items := [], page := page.number, pageSize := page.size, totalRecords := 0 }
      orTranslate (.searchRequests queryText identity.companyId none (some requestIds) page)
  | .admin => orTranslate (.searchRequests queryText identity.companyId none none page)

/-- The names shown so far for the ids of profiles. -/
abbrev DisplayNames := List (UUID × String)

/-- The display name of a profile, looked up once. -/
def resolveProfileName (names : DisplayNames) : Option UUID → Service (DisplayNames × Option String)
  | none => return (names, none)
  | some profileId =>
      match names.lookup profileId with
      | some name => return (names, some name)
      | none => do
          match ← attempt (.getProfile profileId) with
          | .ok profile => return ((profileId, profile.fullName) :: names, some profile.fullName)
          | .error (.recordNotFound ..) => return ((profileId, "Unknown user") :: names, some "Unknown user")
          | .error error => throw (.database error)

structure WorkflowStageDetail where
  stageId : UUID
  stageOrder : Nat
  stageName : String
  assignedToName : Option String
  assignedRole : Option UserRole
  status : StageStatus
  createdAt : Datetime
  decidedAt : Option Datetime
  decidedByName : Option String
  decisionNote : Option String
  isEscalated : Bool
deriving DecidableEq

structure UpcomingStage where
  stageOrder : Nat
  stageName : String
deriving DecidableEq

structure WorkflowProgress where
  stages : List WorkflowStageDetail
  upcomingStages : List UpcomingStage
  currentStageOrder : Nat
  totalStages : Nat
deriving DecidableEq

/-- The ids of the stages that the entries report as escalated. -/
def escalatedStageIds (entries : List AuditLogRecord) : List UUID :=
  entries.filterMap fun entry =>
    if entry.action = .stageEscalated then entry.metadata.bind AuditMetadata.stageId else none

def stageDetails (escalated : List UUID) : DisplayNames → List WorkflowStageRecord → Service (List WorkflowStageDetail)
  | _, [] => return []
  | names, stage :: rest => do
      let (names, assignedToName) ← resolveProfileName names stage.assignedTo
      let (names, decidedByName) ← resolveProfileName names stage.decidedBy
      let detail : WorkflowStageDetail :=
        { stageId := stage.id, stageOrder := stage.stageOrder, stageName := stage.stageName, assignedToName,
          assignedRole := stage.assignedRole, status := stage.status, createdAt := stage.createdAt,
          decidedAt := stage.decidedAt, decidedByName, decisionNote := stage.decisionNote,
          isEscalated := escalated.contains stage.id }
      return detail :: (← stageDetails escalated names rest)

/-- The progress of a request through the stages of its definition. -/
def progressOf (definition : WorkflowDefinition) (stages : List WorkflowStageDetail) : WorkflowProgress :=
  let upcoming := definition.definition.orderedStages.filter fun stage =>
    !(stages.map WorkflowStageDetail.stageOrder).contains stage.order
  { stages,
    upcomingStages := upcoming.map fun stage => { stageOrder := stage.order, stageName := stage.name },
    currentStageOrder := ((stages.find? fun stage => stage.status == .pending).or stages.getLast?).elim 0
      WorkflowStageDetail.stageOrder,
    totalStages := definition.definition.length }

def getWorkflowProgress (identity : AuthenticatedIdentity) (requestId : UUID) : Service WorkflowProgress := do
  let record ← getRequest identity requestId
  let stages : PagedResult WorkflowStageRecord ← orTranslate (.listStagesForRequest requestId .firstHundred)
  let entries : PagedResult AuditLogRecord ← orTranslate (.listAuditLogsForRequest requestId .firstHundred)
  let details ← stageDetails (escalatedStageIds entries.items) [] stages.items
  let definition : WorkflowDefinition ← orNotFound
    (.getDefinition (some identity.userId) record.workflowDefinitionId)
  return progressOf definition details

end AutomationHub.Services
