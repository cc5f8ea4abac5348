import AutomationHub.Foundation.Table
import AutomationHub.Model.Definition

/-!
The rows of each table, as the repositories map them.
-/

set_option autoImplicit false

namespace AutomationHub.Model

open Foundation

structure ProfileRecord where
  id : UUID
  fullName : String
  role : UserRole
  department : Option String
  version : Nat
  createdAt : Datetime
  updatedAt : Datetime
  companyId : UUID
  isPlatformAdmin : Bool
  isActive : Bool
  deletedAt : Option Datetime
  deletedBy : Option UUID
deriving DecidableEq

structure RequestRecord where
  id : UUID
  requesterId : UUID
  workflowDefinitionId : UUID
  requestType : String
  title : String
  description : Option String
  department : Option String
  status : RequestStatus
  currentStageId : Option UUID
  version : Nat
  deletedAt : Option Datetime
  deletedBy : Option UUID
  createdAt : Datetime
  updatedAt : Datetime
  completedAt : Option Datetime
  companyId : UUID
deriving DecidableEq

structure WorkflowStageRecord where
  id : UUID
  requestId : UUID
  stageOrder : Nat
  stageName : String
  assignedRole : Option UserRole
  assignedTo : Option UUID
  status : StageStatus
  decidedBy : Option UUID
  decidedAt : Option Datetime
  decisionNote : Option String
  version : Nat
  createdAt : Datetime
  companyId : UUID
deriving DecidableEq

/-- The `metadata` object of an audit entry, one shape for each operation that writes one. -/
inductive AuditMetadata where
  | requestCreated (stageId : UUID) (assignmentFallbackApplied : Option String)
  | stageDecided (stageId : UUID) (decisionNote : Option String)
  | stageEscalated (stageId : UUID) (previousAssignedTo : Option UUID) (previousAssignedRole : Option UserRole)
  | definitionActivated (definitionId : UUID) (requestType : String) (version : Nat)
      (previouslyActiveDefinitionId : Option UUID)
  | comment (commentId : UUID)
  | attachment (attachmentId : UUID) (fileName : String)
  | invitation (invitationId : UUID) (email : String)
  | companyCreated (companyId : UUID) (name : String)
deriving DecidableEq

/-- The `stage_id` entry of the metadata. -/
def AuditMetadata.stageId : AuditMetadata → Option UUID
  | .requestCreated stageId _ => some stageId
  | .stageDecided stageId _ => some stageId
  | .stageEscalated stageId .. => some stageId
  | .definitionActivated .. | .comment _ | .attachment .. | .invitation .. | .companyCreated .. => none

structure AuditLogRecord where
  id : UUID
  actorId : Option UUID
  requestId : Option UUID
  action : AuditAction
  metadata : Option AuditMetadata
  createdAt : Datetime
  companyId : Option UUID
deriving DecidableEq

structure CommentRecord where
  id : UUID
  requestId : UUID
  authorId : UUID
  parentCommentId : Option UUID
  body : String
  deletedAt : Option Datetime
  deletedBy : Option UUID
  createdAt : Datetime
deriving DecidableEq

structure AttachmentRecord where
  id : UUID
  requestId : UUID
  uploadedBy : UUID
  fileName : String
  contentType : String
  sizeBytes : Nat
  storagePath : String
  checksumSha256 : String
  version : Nat
  replacesAttachmentId : Option UUID
  scanStatus : AttachmentScanStatus
  deletedAt : Option Datetime
  deletedBy : Option UUID
  createdAt : Datetime
deriving DecidableEq

structure NotificationRecord where
  id : UUID
  recipientId : UUID
  requestId : Option UUID
  notificationType : NotificationType
  message : String
  isRead : Bool
  readAt : Option Datetime
  emailSent : Bool
  emailSentAt : Option Datetime
  archivedAt : Option Datetime
  createdAt : Datetime
deriving DecidableEq

structure NotificationPreferenceRecord where
  id : UUID
  userId : UUID
  notificationType : NotificationType
  inAppEnabled : Bool
  emailEnabled : Bool
  createdAt : Datetime
  updatedAt : Datetime
deriving DecidableEq

/-- What an enqueued job asks its handler to do. -/
inductive TaskPayload where
  | escalateStage (stageId : UUID)
  | sendReminder (recipientId requestId : UUID) (message : String)
deriving DecidableEq

def TaskPayload.taskType : TaskPayload → String
  | .escalateStage _ => "escalate_stage"
  | .sendReminder .. => "send_reminder"

/-- The fields of the payload document. -/
def TaskPayload.fields : TaskPayload → List (String × String)
  | .escalateStage stageId => [("stage_id", toString stageId)]
  | .sendReminder recipientId requestId message =>
      [("recipient_id", toString recipientId), ("request_id", toString requestId), ("message", message)]

/-- One entry of a job's `error_history`. -/
structure JobFailure where
  attempt : Nat
  error : String
  failedAt : Datetime
deriving DecidableEq

structure JobRecord where
  id : UUID
  taskType : String
  queueName : String
  priority : JobPriority
  status : JobStatus
  payload : List (String × String)
  attempts : Nat
  maxAttempts : Nat
  lastError : Option String
  errorHistory : List JobFailure
  scheduledFor : Option Datetime
  startedAt : Option Datetime
  finishedAt : Option Datetime
  lockedBy : Option String
  requestId : Option UUID
  actorId : Option UUID
  version : Nat
  createdAt : Datetime
deriving DecidableEq

instance : Versioned ProfileRecord where
  key := ProfileRecord.id
  version := ProfileRecord.version
  withVersion := fun number profile => { profile with version := number }
  key_withVersion := fun _ _ => rfl
  version_withVersion := fun _ _ => rfl

/-- A definition is locked on its `row_version`. -/
instance : Versioned WorkflowDefinition where
  key := WorkflowDefinition.id
  version := WorkflowDefinition.rowVersion
  withVersion := fun number definition => { definition with rowVersion := number }
  key_withVersion := fun _ _ => rfl
  version_withVersion := fun _ _ => rfl

instance : Versioned RequestRecord where
  key := RequestRecord.id
  version := RequestRecord.version
  withVersion := fun number request => { request with version := number }
  key_withVersion := fun _ _ => rfl
  version_withVersion := fun _ _ => rfl

instance : Versioned WorkflowStageRecord where
  key := WorkflowStageRecord.id
  version := WorkflowStageRecord.version
  withVersion := fun number stage => { stage with version := number }
  key_withVersion := fun _ _ => rfl
  version_withVersion := fun _ _ => rfl

instance : Keyed AuditLogRecord := ⟨AuditLogRecord.id⟩

instance : Keyed CommentRecord := ⟨CommentRecord.id⟩

instance : Keyed AttachmentRecord := ⟨AttachmentRecord.id⟩

instance : Keyed NotificationRecord := ⟨NotificationRecord.id⟩

instance : Keyed NotificationPreferenceRecord := ⟨NotificationPreferenceRecord.id⟩

instance : Versioned JobRecord where
  key := JobRecord.id
  version := JobRecord.version
  withVersion := fun number job => { job with version := number }
  key_withVersion := fun _ _ => rfl
  version_withVersion := fun _ _ => rfl

@[simp] theorem key_request (request : RequestRecord) : Keyed.key request = request.id := rfl

@[simp] theorem key_stage (stage : WorkflowStageRecord) : Keyed.key stage = stage.id := rfl

@[simp] theorem key_definition (definition : WorkflowDefinition) : Keyed.key definition = definition.id := rfl

@[simp] theorem version_definition (definition : WorkflowDefinition) :
    Versioned.version definition = definition.rowVersion := rfl

@[simp] theorem version_request (request : RequestRecord) : Versioned.version request = request.version := rfl

@[simp] theorem version_stage (stage : WorkflowStageRecord) : Versioned.version stage = stage.version := rfl

end AutomationHub.Model
