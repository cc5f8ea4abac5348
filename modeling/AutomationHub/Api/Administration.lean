import AutomationHub.Services.RequestService

/-!
The reading operations of the administration routers.

They check the caller's role and send their statements themselves; no service
stands between.
-/

set_option autoImplicit false

namespace AutomationHub.Api

open Foundation Model Database Services Auth

/-- `rbac.require_role`. -/
def requireRole (role allowed : UserRole) : Service Unit :=
  if role = allowed then return ()
  else throw (.auth (.roleNotPermitted role [allowed]))

def mapItems {α β : Type} (result : PagedResult α) (out : α → β) : PagedResult β :=
  { items := result.items.map out, page := result.page, pageSize := result.pageSize,
    totalRecords := result.totalRecords }

structure UserOut where
  id : UUID
  fullName : String
  role : UserRole
  department : Option String
  version : Nat
  createdAt : Datetime
  updatedAt : Datetime
  isActive : Bool
  deletedAt : Option Datetime
  deletedBy : Option UUID
deriving DecidableEq

def UserOut.of (profile : ProfileRecord) : UserOut :=
  { id := profile.id, fullName := profile.fullName, role := profile.role, department := profile.department,
    version := profile.version, createdAt := profile.createdAt, updatedAt := profile.updatedAt,
    isActive := profile.isActive, deletedAt := profile.deletedAt, deletedBy := profile.deletedBy }

/-- `GET /admin/users`. -/
def listAdminUsers (identity : AuthenticatedIdentity) (role : Option UserRole) (department query : Option String)
    (page : Page) : Service (PagedResult UserOut) := do
  requireRole identity.role .admin
  match role, query with
  | some role, _ =>
      let result : PagedResult ProfileRecord ← orTranslate (.listProfilesByRole role identity.companyId department page)
      return mapItems result UserOut.of
  | none, some query =>
      let result : PagedResult ProfileRecord ← orTranslate (.searchProfilesByName query identity.companyId page)
      return mapItems result UserOut.of
  | none, none => throw (.validation "Either 'role' or 'query' is required.")

/-- The profile, if it belongs to the caller's company. -/
def profileOfCompany (identity : AuthenticatedIdentity) (userId : UUID) : Service ProfileRecord := do
  let profile : ProfileRecord ← orTranslate (.getProfile userId)
  if profile.companyId ≠ identity.companyId then throw (.notFound "profile" userId)
  return profile

/-- `GET /admin/users/{user_id}`. -/
def getAdminUser (identity : AuthenticatedIdentity) (userId : UUID) : Service UserOut := do
  requireRole identity.role .admin
  let profile ← profileOfCompany identity userId
  return .of profile

structure AuditLogEntryOut where
  id : UUID
  actorId : Option UUID
  actorName : Option String
  requestId : Option UUID
  action : AuditAction
  metadata : Option AuditMetadata
  createdAt : Datetime
deriving DecidableEq

def AuditLogEntryOut.of (entry : AuditLogRecord) (actorName : Option String) : AuditLogEntryOut :=
  { id := entry.id, actorId := entry.actorId, actorName, requestId := entry.requestId, action := entry.action,
    metadata := entry.metadata, createdAt := entry.createdAt }

/-- `GET /admin/users/{user_id}/activity`. -/
def getAdminUserActivity (identity : AuthenticatedIdentity) (userId : UUID) (page : Page) :
    Service (PagedResult AuditLogEntryOut) := do
  requireRole identity.role .admin
  let profile ← profileOfCompany identity userId
  let result : PagedResult AuditLogRecord ← orRaise (.listAuditLogsForActor userId page)
  return mapItems result fun entry => .of entry (some profile.fullName)

/-- The name of an actor; a profile that is not found has none. -/
def actorName (actorId : UUID) : Service (Option String) := do
  match ← attempt (.getProfile actorId) with
  | .ok profile => return some profile.fullName
  | .error (.recordNotFound ..) => return none
  | .error error => throw (.database error)

/-- The entries of one page with the names of their actors, each looked up once. -/
def activityItems : (namesByActor : List (UUID × Option String)) → List AuditLogRecord →
    Service (List AuditLogEntryOut)
  | _, [] => return []
  | namesByActor, entry :: rest =>
      match entry.actorId with
      | none => do return .of entry none :: (← activityItems namesByActor rest)
      | some actorId =>
          match namesByActor.lookup actorId with
          | some name => do return .of entry name :: (← activityItems namesByActor rest)
          | none => do
              let name ← actorName actorId
              return .of entry name :: (← activityItems ((actorId, name) :: namesByActor) rest)

/-- `GET /audit-logs`. -/
def listRecentActivity (identity : AuthenticatedIdentity) (filter : AuditFilter) (page : Page) :
    Service (PagedResult AuditLogEntryOut) := do
  requireRole identity.role .admin
  let result : PagedResult AuditLogRecord ← orRaise (.listAuditLogs identity.companyId filter page)
  let items ← activityItems [] result.items
  return { items, page := result.page, pageSize := result.pageSize, totalRecords := result.totalRecords }

structure AgingRequestItemOut where
  stageId : UUID
  stageVersion : Nat
  stageOrder : Nat
  stageName : String
  stageStatus : StageStatus
  assignedRole : Option UserRole
  stageCreatedAt : Datetime
  ageHours : ℚ
  requestId : UUID
  requestTitle : String
  requestType : String
  department : Option String
  requesterId : UUID
  requestStatus : RequestStatus
deriving DecidableEq

/-- The hours since an instant, to one decimal. -/
def hoursSince (now createdAt : Datetime) : ℚ :=
  roundHalfEven (((now : ℚ) - createdAt) / microsecondsPerHour * 10) / 10

def AgingRequestItemOut.of (now : Datetime) (stage : WorkflowStageRecord) (request : RequestRecord) :
    AgingRequestItemOut :=
  { stageId := stage.id, stageVersion := stage.version, stageOrder := stage.stageOrder, stageName := stage.stageName,
    stageStatus := stage.status, assignedRole := stage.assignedRole, stageCreatedAt := stage.createdAt,
    ageHours := hoursSince now stage.createdAt, requestId := request.id, requestTitle := request.title,
    requestType := request.requestType, department := request.department, requesterId := request.requesterId,
    requestStatus := request.status }

/-- The items of one page; each request is looked up once. -/
def agingItems (identity : AuthenticatedIdentity) (now : Datetime) :
    (requestsById : List (UUID × RequestRecord)) → List WorkflowStageRecord → Service (List AgingRequestItemOut)
  | _, [] => return []
  | requestsById, stage :: rest =>
      match requestsById.lookup stage.requestId with
      | some owningRequest => do return .of now stage owningRequest :: (← agingItems identity now requestsById rest)
      | none => do
          let owningRequest ← getRequest identity stage.requestId
          return .of now stage owningRequest
            :: (← agingItems identity now ((stage.requestId, owningRequest) :: requestsById) rest)

/-- `GET /analytics/aging-requests`. -/
def getAgingRequests (identity : AuthenticatedIdentity) (olderThanHours : Hours) (page : Page) :
    Service (PagedResult AgingRequestItemOut) := do
  requireRole identity.role .admin
  let threshold ← engineOrRaise ((subtractHours (← utcNow) olderThanHours).elim (.error .overflow) .ok)
  let result : PagedResult WorkflowStageRecord ← orRaise (.listOverdueStages threshold identity.companyId page)
  let now ← utcNow
  let items ← agingItems identity now [] result.items
  return { items, page := result.page, pageSize := result.pageSize, totalRecords := result.totalRecords }

structure JobOut where
  id : UUID
  taskType : String
  queueName : String
  priority : JobPriority
  status : JobStatus
  payload : List (String × String)
  attempts : Nat
  maxAttempts : Nat
  lastError : Option String
  errorHistory : List JobFailure
  scheduledFor : Option Datetime
  startedAt : Option Datetime
  finishedAt : Option Datetime
  lockedBy : Option String
  requestId : Option UUID
  actorId : Option UUID
  createdAt : Datetime
deriving DecidableEq

/-- The payload fields of a task that no response may show. -/
def redactedPayloadFields (taskType : String) : List String :=
  if taskType = "send_invitation_email" then ["token"] else []

def redactedPlaceholder : String := "***redacted***"

/-- `_serialize_job`. -/
def JobOut.of (job : JobRecord) : JobOut :=
  { id := job.id, taskType := job.taskType, queueName := job.queueName, priority := job.priority, status := job.status,
    payload := job.payload.map fun (field, value) =>
      (field, if field ∈ redactedPayloadFields job.taskType then redactedPlaceholder else value)
    attempts := job.attempts, maxAttempts := job.maxAttempts, lastError := job.lastError,
    errorHistory := job.errorHistory, scheduledFor := job.scheduledFor, startedAt := job.startedAt,
    finishedAt := job.finishedAt, lockedBy := job.lockedBy, requestId := job.requestId, actorId := job.actorId,
    createdAt := job.createdAt }

/-- `GET /admin/jobs`. -/
def listJobs (identity : AuthenticatedIdentity) (filter : JobFilter) (page : Page) : Service (PagedResult JobOut) := do
  requireRole identity.role .admin
  let result : PagedResult JobRecord ← orRaise (.listJobs filter page)
  return mapItems result JobOut.of

/-- `GET /admin/jobs/dead-letter`. -/
def listDeadLetterJobs (identity : AuthenticatedIdentity) (taskType : Option String) (page : Page) :
    Service (PagedResult JobOut) :=
  listJobs identity { status := some .deadLettered, taskType, queueName := none, priority := none } page

/-- `GET /admin/jobs/{job_id}`. -/
def getJob (identity : AuthenticatedIdentity) (jobId : UUID) : Service JobOut := do
  requireRole identity.role .admin
  let job : JobRecord ← orTranslate (.getJob jobId)
  return .of job

end AutomationHub.Api
