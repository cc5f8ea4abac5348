import AutomationHub.Foundation.Paging
import AutomationHub.Foundation.Program
import AutomationHub.Model.Records
import AutomationHub.Model.Errors

/-!
The state the repositories act on, and the calls a service makes.

A query is one statement sent to the database; the other calls read the clock,
write a line of the log or hand an e-mail over.  A `viewer` is the caller whose
row-level-security client a query is made with; `none` is the service-role
client.
-/

set_option autoImplicit false

namespace AutomationHub.Database

open Foundation Model

def defaultPageSize : Nat := 20

def maxPageSize : Nat := 100

theorem one_le_maxPageSize : 1 ≤ maxPageSize := by decide

theorem one_le_hundred : 1 ≤ 100 := by decide

theorem one_le_one_row : 1 ≤ 1 := Nat.le_refl 1

theorem hundred_le_maxPageSize : 100 ≤ maxPageSize := by decide

structure Page where
  number : Nat
  size : Nat
  number_pos : 1 ≤ number
  size_pos : 1 ≤ size
  size_le : size ≤ maxPageSize

/-- The first page of the given size. -/
def Page.first (size : Nat) (positive : 1 ≤ size) (bounded : size ≤ maxPageSize) : Page :=
  { number := 1, size, number_pos := le_refl 1, size_pos := positive, size_le := bounded }

def Page.firstHundred : Page := Page.first 100 one_le_hundred hundred_le_maxPageSize

structure PagedResult (α : Type) where
  items : List α
  page : Nat
  pageSize : Nat
  totalRecords : Nat

def PagedResult.totalPages {α : Type} (result : PagedResult α) : Nat :=
  pageCount result.pageSize result.totalRecords

def paginate {α : Type} (rows : List α) (page : Page) : PagedResult α :=
  { items := slice page.size (page.number - 1) rows, page := page.number, pageSize := page.size,
    totalRecords := rows.length }

/-- How one attempt to send an e-mail ends. -/
inductive EmailOutcome where
  | sent
  | refused
  | raised
deriving DecidableEq

/-- The mail set-up of the process: no sender, or a sender run in the caller's thread or on a pool. -/
structure Mailer where
  sender : Option (NotificationRecord → EmailOutcome)
  background : Bool

/-- How the database compares texts: `ILIKE` with a pattern that contains the needle, and a web search of the words of
the listed texts. -/
structure TextSearch where
  ilike : (needle text : String) → Bool
  websearch : (query : String) → (texts : List String) → Bool

/-- The database, the clock read by successive calls, and what was handed to the mail pool. -/
structure World where
  clock : Nat → Datetime
  ticks : Nat
  profiles : Table ProfileRecord
  definitions : Table WorkflowDefinition
  requests : Table RequestRecord
  stages : Table WorkflowStageRecord
  audit : Table AuditLogRecord
  comments : Table CommentRecord
  attachments : Table AttachmentRecord
  notifications : Table NotificationRecord
  preferences : Table NotificationPreferenceRecord
  jobs : Table JobRecord
  textSearch : TextSearch
  mailer : Mailer
  submittedEmails : List NotificationRecord

/-- The instant the current call reads. -/
def World.now (world : World) : Datetime := world.clock world.ticks

def World.tick (world : World) : World := { world with ticks := world.ticks + 1 }

/-- The same database, at another instant. -/
def World.atTick (world : World) (ticks : Nat) : World := { world with ticks }

inductive LogLine where
  | rollback (operation : String) (compensations : Nat)
  | compensationFailed (operation : String)
  | stageLeftInPlace (stageId : UUID)
  | activationNotReversed (definitionId : UUID)
  | notificationFailed (stageId : UUID)
  | itemFailed
  | jobFailed (jobName : String)
  | synchronousExecutionFailed
deriving DecidableEq

/-- The filters of `RequestRepository.list_requests`. -/
structure RequestFilter where
  status : Option RequestStatus
  requestType : Option String
  department : Option String
  requesterId : Option UUID
  requestIds : Option (List UUID)
  includeDeleted : Bool

def RequestFilter.admits (filter : RequestFilter) (request : RequestRecord) : Bool :=
  filter.status.all (fun status => request.status == status)
    && filter.requestType.all (fun requestType => request.requestType == requestType)
    && filter.department.all (fun department => request.department == some department)
    && filter.requesterId.all (fun requesterId => request.requesterId == requesterId)
    && filter.requestIds.all (fun requestIds => requestIds.contains request.id)
    && (filter.includeDeleted || request.deletedAt.isNone)

/-- The filters of `AuditRepository.list_all`. -/
structure AuditFilter where
  actorId : Option UUID
  action : Option String
  createdAfter : Option Datetime
  createdBefore : Option Datetime

def AuditFilter.admits (filter : AuditFilter) (entry : AuditLogRecord) : Bool :=
  filter.actorId.all (fun actorId => entry.actorId == some actorId)
    && filter.action.all (fun action => entry.action.value == action)
    && filter.createdAfter.all (fun instant => instant ≤ entry.createdAt)
    && filter.createdBefore.all (fun instant => entry.createdAt ≤ instant)

/-- The filters of `JobRepository.list_jobs`. -/
structure JobFilter where
  status : Option JobStatus
  taskType : Option String
  queueName : Option String
  priority : Option JobPriority

def JobFilter.admits (filter : JobFilter) (job : JobRecord) : Bool :=
  filter.status.all (fun status => job.status == status)
    && filter.taskType.all (fun taskType => job.taskType == taskType)
    && filter.queueName.all (fun queueName => job.queueName == queueName)
    && filter.priority.all (fun priority => job.priority == priority)

/-- The statements the repositories send, named after their methods. -/
inductive Query where
  | getProfile (profileId : UUID)
  | listProfilesByRole (role : UserRole) (companyId : UUID) (department : Option String) (page : Page)
  | getDefinition (viewer : Option UUID) (definitionId : UUID)
  | listDefinitions (viewer : Option UUID) (requestType : String) (companyId : UUID) (isActive : Option Bool)
      (page : Page)
  | findProfilesByIds (profileIds : List UUID)
  | searchProfilesByName (queryText : String) (companyId : UUID) (page : Page)
  | findActiveForRequestType (viewer : Option UUID) (requestType : String) (companyId : UUID)
  | createDefinition (viewer : Option UUID) (requestType : String) (version : Nat)
      (definition : WorkflowDefinitionDocument) (createdBy companyId : UUID)
  | updateInactiveDefinition (viewer : Option UUID) (definitionId : UUID) (expectedRowVersion : Nat)
      (definition : WorkflowDefinitionDocument)
  | deleteInactiveDefinition (viewer : Option UUID) (definitionId companyId : UUID)
  | deactivatePreviousDefinition (viewer : Option UUID) (definitionId : UUID) (rowVersion : Nat)
  | activateDefinition (viewer : Option UUID) (definitionId : UUID) (expectedRowVersion : Nat)
  | getRequest (requestId : UUID)
  | createRequest (requesterId workflowDefinitionId : UUID) (requestType title : String) (companyId : UUID)
      (description department : Option String)
  | setCurrentStage (requestId : UUID) (expectedVersion : Nat) (currentStageId : Option UUID)
      (status : RequestStatus) (completedAt : Option Datetime)
  | updateEditableFields (requestId : UUID) (expectedVersion : Nat) (title description department : Option String)
  | softDelete (requestId : UUID) (expectedVersion : Nat) (deletedBy : UUID)
  | getStage (stageId : UUID)
  | createStage (requestId : UUID) (stageOrder : Nat) (stageName : String) (companyId : UUID)
      (assignedRole : Option UserRole) (assignedTo : Option UUID)
  | deleteIfUnchanged (stageId : UUID) (expectedVersion : Nat)
  | listStagesForRequest (requestId : UUID) (page : Page)
  | getHighestStageOrder (requestId : UUID)
  | approveStage (stageId : UUID) (expectedVersion : Nat) (decidedBy : UUID) (decisionNote : Option String)
  | rejectStage (stageId : UUID) (expectedVersion : Nat) (decidedBy : UUID) (decisionNote : String)
  | revertToPending (stageId : UUID) (expectedVersion : Nat)
  | escalateStage (stageId : UUID) (expectedVersion : Nat) (newAssignedTo : Option UUID)
      (newAssignedRole : Option UserRole)
  | listPendingForApprover (companyId : UUID) (assignedTo : Option UUID) (assignedRole : Option UserRole) (page : Page)
  | listOverdueStagesAllCompanies (createdBefore : Datetime) (page : Page)
  | listOverdueStages (createdBefore : Datetime) (companyId : UUID) (page : Page)
  | listRequests (companyId : UUID) (filter : RequestFilter) (page : Page)
  | searchRequests (queryText : String) (companyId : UUID) (requesterId : Option UUID)
      (requestIds : Option (List UUID)) (page : Page)
  | searchDefinitions (viewer : Option UUID) (queryText : String) (companyId : UUID) (isActive : Option Bool)
      (page : Page)
  | searchComments (viewer : Option UUID) (queryText : String) (requestIds : Option (List UUID)) (page : Page)
  | searchAttachments (viewer : Option UUID) (queryText : String) (requestIds : Option (List UUID)) (page : Page)
  | searchAuditLogs (queryText : String) (requestIds : Option (List UUID)) (page : Page)
  | searchNotificationsForRecipient (queryText : String) (recipientId : UUID) (page : Page)
  | listAuditLogs (companyId : UUID) (filter : AuditFilter) (page : Page)
  | listAuditLogsForActor (actorId : UUID) (page : Page)
  | listAuditLogsForRequest (requestId : UUID) (page : Page)
  | getJob (jobId : UUID)
  | listJobs (filter : JobFilter) (page : Page)
  | recordEvent (action : AuditAction) (actorId requestId : Option UUID) (metadata : Option AuditMetadata)
      (companyId : Option UUID)
  | getPreferences (viewer : Option UUID) (userId : UUID)
  | createNotification (recipientId : UUID) (notificationType : NotificationType) (message : String)
      (requestId : Option UUID)
  | markEmailSent (notificationId : UUID)
  | listNotificationsForRecipient (recipientId : UUID) (page : Page)
  | enqueueJob (queueName : String) (payload : TaskPayload) (priority : JobPriority) (maxAttempts : Nat)
      (requestId : Option UUID)
  | upsertPreference (viewer : Option UUID) (userId : UUID) (notificationType : NotificationType)
      (inAppEnabled emailEnabled : Bool)

@[reducible] def Query.Result : Query → Type
  | .getProfile _ => ProfileRecord
  | .listProfilesByRole .. => PagedResult ProfileRecord
  | .getDefinition .. => WorkflowDefinition
  | .listDefinitions .. => PagedResult WorkflowDefinition
  | .findProfilesByIds _ => List ProfileRecord
  | .findActiveForRequestType .. | .deactivatePreviousDefinition .. => Option WorkflowDefinition
  | .createDefinition .. | .updateInactiveDefinition .. | .activateDefinition .. => WorkflowDefinition
  | .deleteInactiveDefinition .. => Unit
  | .getRequest _ | .createRequest .. | .setCurrentStage .. | .updateEditableFields .. | .softDelete .. => RequestRecord
  | .getStage _ | .createStage .. | .approveStage .. | .rejectStage .. | .revertToPending .. | .escalateStage .. =>
      WorkflowStageRecord
  | .deleteIfUnchanged .. => Bool
  | .listStagesForRequest .. | .listPendingForApprover .. | .listOverdueStagesAllCompanies ..
  | .listOverdueStages .. => PagedResult WorkflowStageRecord
  | .listRequests .. | .searchRequests .. => PagedResult RequestRecord
  | .searchDefinitions .. => PagedResult WorkflowDefinition
  | .searchProfilesByName .. => PagedResult ProfileRecord
  | .searchComments .. => PagedResult CommentRecord
  | .searchAttachments .. => PagedResult AttachmentRecord
  | .searchAuditLogs .. | .listAuditLogs .. | .listAuditLogsForActor ..
  | .listAuditLogsForRequest .. => PagedResult AuditLogRecord
  | .searchNotificationsForRecipient .. => PagedResult NotificationRecord
  | .getJob _ => JobRecord
  | .listJobs .. => PagedResult JobRecord
  | .getHighestStageOrder _ => Nat
  | .recordEvent .. => AuditLogRecord
  | .getPreferences .. => List NotificationPreferenceRecord
  | .createNotification .. | .markEmailSent _ => NotificationRecord
  | .listNotificationsForRecipient .. => PagedResult NotificationRecord
  | .enqueueJob .. => JobRecord
  | .upsertPreference .. => NotificationPreferenceRecord

inductive Call where
  | utcNow
  | log (line : LogLine)
  | readMailer
  | sendEmail (notification : NotificationRecord)
  | submitEmail (notification : NotificationRecord)
  | query (statement : Query)

@[reducible] def Call.Reply : Call → Type
  | .utcNow => Datetime
  | .log _ => Unit
  | .readMailer => Mailer
  | .sendEmail _ => EmailOutcome
  | .submitEmail _ => Unit
  | .query statement => Except DatabaseError statement.Result

abbrev hubSignature : Signature := ⟨Call, Call.Reply⟩

abbrev Service (α : Type) := Program hubSignature AppError α

/-- Make one call. -/
def ask (request : Call) : Service request.Reply :=
  Program.call request Program.done

/-- The reply of a call that the database failed; only queries can be failed. -/
def Call.failed (error : DatabaseError) : (call : Call) → Option call.Reply
  | .query _ => some (Except.error error)
  | _ => none

/-- The reply is not an error of the database. -/
def Call.accepted : (call : Call) → call.Reply → Bool
  | .query _, .error _ => false
  | _, _ => true

end AutomationHub.Database
