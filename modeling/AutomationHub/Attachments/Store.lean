import AutomationHub.Auth.Authorization
import AutomationHub.Database.RepositoryProperties
import AutomationHub.Foundation.Chains
import AutomationHub.Foundation.Pool

/-!
The `attachments` table and the objects in Storage, with the calls that uploading,
replacing and removing an attachment make.

A call that fails may have taken effect all the same.
-/

set_option autoImplicit false

namespace AutomationHub.Attachments

open Foundation Model Auth Database Program Table

/-- What the caller of `create_attachment` supplies; the time is the database's. -/
structure AttachmentValues where
  id : UUID
  requestId : UUID
  uploadedBy : UUID
  fileName : String
  contentType : String
  sizeBytes : Nat
  storagePath : String
  checksumSha256 : String
  version : Nat
  replacesAttachmentId : Option UUID
  scanStatus : AttachmentScanStatus
deriving DecidableEq

def AttachmentValues.row (values : AttachmentValues) (now : Datetime) : AttachmentRecord where
  id := values.id
  requestId := values.requestId
  uploadedBy := values.uploadedBy
  fileName := values.fileName
  contentType := values.contentType
  sizeBytes := values.sizeBytes
  storagePath := values.storagePath
  checksumSha256 := values.checksumSha256
  version := values.version
  replacesAttachmentId := values.replacesAttachmentId
  scanStatus := values.scanStatus
  deletedAt := none
  deletedBy := none
  createdAt := now

def softDeleteEdit (now : Datetime) (deletedBy : UUID) : Edit AttachmentRecord where
  apply := fun attachment => { attachment with deletedAt := some now, deletedBy := some deletedBy }
  key_apply := fun _ => rfl

/-- What the surroundings choose at one instant, the parent requests and their stages among it. -/
structure AttachmentChance where
  now : Datetime
  identifier : UUID
  scanStatus : AttachmentScanStatus
  requests : UUID → Option RequestRecord
  stages : UUID → List WorkflowStageRecord

structure AttachmentStore where
  chance : Nat → AttachmentChance
  ticks : Nat
  attachments : Table AttachmentRecord
  objects : List String

inductive AttachmentFault where
  | database (error : DatabaseError)
  | storage (message : String)
  | scanner (message : String)
  | app (error : AppError)
  | storageOperation (message : String)
deriving DecidableEq

inductive AttachmentCall where
  | utcNow
  | uuid4
  | getAttachment (attachmentId : UUID)
  | getRequest (requestId : UUID)
  | listStages (requestId : UUID)
  | upload (path : String)
  | removeObject (path : String)
  | scan (content : List UInt8)
  | createAttachment (values : AttachmentValues)
  | softDelete (attachmentId deletedBy : UUID)
  | recordEvent (action : AuditAction) (actorId requestId attachmentId : UUID) (fileName : String)
deriving DecidableEq

@[reducible] def AttachmentCall.Result : AttachmentCall → Type
  | .utcNow => Datetime
  | .uuid4 => UUID
  | .getAttachment _ | .createAttachment _ | .softDelete .. => AttachmentRecord
  | .getRequest _ => RequestRecord
  | .listStages _ => List WorkflowStageRecord
  | .scan _ => AttachmentScanStatus
  | .upload _ | .removeObject _ | .recordEvent .. => Unit

/-- The faults that strike a call from outside. -/
def AttachmentCall.struck : AttachmentCall → AttachmentFault → Bool
  | .getAttachment _, .database _ | .getRequest _, .database _ | .listStages _, .database _
  | .createAttachment _, .database _ | .softDelete .., .database _ | .recordEvent .., .database _ => true
  | .upload _, .storage _ | .removeObject _, .storage _ => true
  | .scan _, .scanner _ => true
  | _, _ => false

abbrev attachmentSignature : Signature := ⟨AttachmentCall, fun call => Except AttachmentFault call.Result⟩

namespace AttachmentStore

def now (state : AttachmentStore) : Datetime := (state.chance state.ticks).now

def tick (state : AttachmentStore) : AttachmentStore := { state with ticks := state.ticks + 1 }

def createAttachment (state : AttachmentStore) (values : AttachmentValues) :
    Except AttachmentFault AttachmentRecord × AttachmentStore :=
  match World.firstViolated [
      ("unique", (state.attachments.find? values.id).isNone),
      ("unique", state.attachments.rows.all fun other => other.storagePath != values.storagePath),
      ("foreign_key", values.replacesAttachmentId.all fun older => (state.attachments.find? older).isSome),
      ("check", 0 < values.sizeBytes), ("check", 0 < values.version)] with
  | some constraint => (.error (.database (.constraintViolation "attachments" (some constraint))), state)
  | none =>
      (.ok (values.row state.now), { state with attachments := state.attachments.place (values.row state.now) })

def softDelete (state : AttachmentStore) (attachmentId deletedBy : UUID) :
    Except AttachmentFault AttachmentRecord × AttachmentStore :=
  match state.attachments.find? attachmentId with
  | none => (.error (.database (.recordNotFound "attachments" attachmentId)), state)
  | some row =>
      (.ok ((softDeleteEdit state.now deletedBy).apply row),
        { state with attachments := state.attachments.modify attachmentId (softDeleteEdit state.now deletedBy) })

def execute (state : AttachmentStore) : (call : AttachmentCall) → Except AttachmentFault call.Result × AttachmentStore
  | .utcNow => (.ok state.now, state)
  | .uuid4 => (.ok (state.chance state.ticks).identifier, state)
  | .getAttachment attachmentId =>
      ((getById "attachments" state.attachments attachmentId).mapError .database, state)
  | .getRequest requestId =>
      (match (state.chance state.ticks).requests requestId with
        | some request => .ok request
        | none => .error (.database (.recordNotFound "requests" requestId)), state)
  | .listStages requestId => (.ok ((state.chance state.ticks).stages requestId), state)
  | .upload path =>
      if path ∈ state.objects then (.error (.storage ("Storage operation 'upload' failed for '" ++ path ++ "'.")), state)
      else (.ok (), { state with objects := state.objects ++ [path] })
  | .removeObject path => (.ok (), { state with objects := state.objects.filter fun stored => stored != path })
  | .scan _ => (.ok (state.chance state.ticks).scanStatus, state)
  | .createAttachment values => state.createAttachment values
  | .softDelete attachmentId deletedBy => state.softDelete attachmentId deletedBy
  | .recordEvent .. => (.ok (), state)

end AttachmentStore

/-- A call is answered, or struck by a fault; what it asked for may have been done all the same. -/
def attachmentStep (state : AttachmentStore) (call : AttachmentCall) (reply : Except AttachmentFault call.Result)
    (after : AttachmentStore) : Prop :=
  reply = (state.execute call).1 ∧ after = (state.execute call).2.tick ∨
    ∃ fault, call.struck fault = true ∧ reply = .error fault ∧ (after = state.tick ∨ after = (state.execute call).2.tick)

abbrev AttachmentProgram (α : Type) := Program attachmentSignature AttachmentFault α

/-- Make one call; a failure is raised. -/
def perform (call : AttachmentCall) : AttachmentProgram call.Result :=
  .call call fun
    | .ok result => .done result
    | .error fault => .raised fault

/-- `except DatabaseError as exc: raise translate_database_error(exc)`. -/
def translating {α : Type} (program : AttachmentProgram α) : AttachmentProgram α :=
  tryCatch program fun
    | .database error => .raised (.app (translateDatabaseError error))
    | fault => .raised fault

/-- `except RecordNotFoundError as exc: raise translate_database_error(exc)`. -/
def translatingNotFound {α : Type} (program : AttachmentProgram α) : AttachmentProgram α :=
  tryCatch program fun
    | .database (.recordNotFound table identifier) =>
        .raised (.app (translateDatabaseError (.recordNotFound table identifier)))
    | fault => .raised fault

/-- `except StorageError as exc: raise translate_storage_error(exc)`. -/
def translatingStorage {α : Type} (program : AttachmentProgram α) : AttachmentProgram α :=
  tryCatch program fun
    | .storage message => .raised (.storageOperation message)
    | fault => .raised fault

structure FileUpload where
  fileName : String
  contentType : String
  content : List UInt8

/-- The functions of `file_utils`: the first complaint about a file, the path it is stored at, and its checksum. -/
structure FileRules where
  complaint : FileUpload → Option String
  storagePath : (requestId attachmentId : UUID) → (fileName : String) → String
  checksum : List UInt8 → String

/-- `_get_existing`. -/
def getExisting (attachmentId : UUID) : AttachmentProgram AttachmentRecord :=
  translatingNotFound (perform (.getAttachment attachmentId))

/-- `_get_parent_request`. -/
def getParentRequest (identity : AuthenticatedIdentity) (requestId : UUID) : AttachmentProgram RequestRecord := do
  let request : RequestRecord ← translatingNotFound (perform (.getRequest requestId))
  if request.companyId = identity.companyId then return request
  else .raised (.app (.notFound "request" requestId))

def isExpired (identity : AuthenticatedIdentity) : AttachmentProgram Bool :=
  match identity.expiresAt with
  | none => return false
  | some expiresAt => do
      let now : Datetime ← perform .utcNow
      return isPast expiresAt now

def canRemoveAttachment (role : UserRole) (isUploader requestIsPending : Bool) : Bool :=
  if role = .admin then true else isUploader && requestIsPending

/-- `_authorize_removal`. -/
def authorizeRemoval (identity : AuthenticatedIdentity) (existing : AttachmentRecord) (request : RequestRecord) :
    AttachmentProgram Unit := do
  let expired ← isExpired identity
  if expired then .raised (.app (translateAuthError .sessionExpired))
  else if canRemoveAttachment identity.role (existing.uploadedBy == identity.userId) (request.status == .pending) then
    return ()
  else .raised (.app (translateAuthError (.ownershipRequired "attachment")))

/-- `_is_assigned_to_any_stage`. -/
def isAssignedToAnyStage (identity : AuthenticatedIdentity) (requestId : UUID) : AttachmentProgram Bool :=
  if identity.role = .employee then return false
  else do
    let stages : List WorkflowStageRecord ← perform (.listStages requestId)
    return stages.any fun stage => stage.assignedTo == some identity.userId || stage.assignedRole == some identity.role

/-- `_authorize_view`; whatever the authorization raises becomes a `NotFoundError`. -/
def authorizeView (identity : AuthenticatedIdentity) (requestId : UUID) : AttachmentProgram Unit := do
  let request ← getParentRequest identity requestId
  let isAssignedApprover ← isAssignedToAnyStage identity requestId
  let expired ← isExpired identity
  if !expired && canViewRequest identity.role (request.requesterId == identity.userId) isAssignedApprover then return ()
  else .raised (.app (.notFound "request" requestId))

/-- `_cleanup_orphaned_storage_object`. -/
def cleanupOrphanedStorageObject (path : String) : AttachmentProgram Unit :=
  tryCatch (perform (.removeObject path)) fun
    | .storage _ => return ()
    | fault => .raised fault

/-- `_store_new_attachment`. -/
def storeNewAttachment (rules : FileRules) (identity : AuthenticatedIdentity) (requestId : UUID) (file : FileUpload)
    (version : Nat) (replacesAttachmentId : Option UUID) : AttachmentProgram AttachmentRecord := do
  match rules.complaint file with
  | some message => .raised (.app (.validation message))
  | none => do
      let attachmentId : UUID ← perform .uuid4
      let path := rules.storagePath requestId attachmentId file.fileName
      translatingStorage (perform (.upload path))
      let scanStatus : AttachmentScanStatus ← perform (.scan file.content)
      let created : AttachmentRecord ← tryCatch
        (perform (.createAttachment
          { id := attachmentId, requestId, uploadedBy := identity.userId, fileName := file.fileName,
            contentType := file.contentType, sizeBytes := file.content.length, storagePath := path,
            checksumSha256 := rules.checksum file.content, version, replacesAttachmentId, scanStatus }))
        fun
        | .database error => do
            cleanupOrphanedStorageObject path
            .raised (.app (translateDatabaseError error))
        | fault => .raised fault
      translating (perform (.recordEvent .attachmentUploaded identity.userId requestId created.id file.fileName))
      return created

def uploadAttachment (rules : FileRules) (identity : AuthenticatedIdentity) (requestId : UUID) (file : FileUpload) :
    AttachmentProgram AttachmentRecord := do
  authorizeView identity requestId
  storeNewAttachment rules identity requestId file 1 none

def replaceAttachment (rules : FileRules) (identity : AuthenticatedIdentity) (attachmentId : UUID) (file : FileUpload) :
    AttachmentProgram AttachmentRecord := do
  let existing ← getExisting attachmentId
  let request ← getParentRequest identity existing.requestId
  authorizeRemoval identity existing request
  let created ← storeNewAttachment rules identity existing.requestId file (existing.version + 1) (some existing.id)
  let _ ← translating (perform (.softDelete existing.id identity.userId))
  return created

def removeAttachment (identity : AuthenticatedIdentity) (attachmentId : UUID) : AttachmentProgram AttachmentRecord := do
  let existing ← getExisting attachmentId
  let request ← getParentRequest identity existing.requestId
  authorizeRemoval identity existing request
  translatingStorage (perform (.removeObject existing.storagePath))
  let removed : AttachmentRecord ← translating (perform (.softDelete attachmentId identity.userId))
  translating (perform
    (.recordEvent .attachmentRemoved identity.userId existing.requestId attachmentId existing.fileName))
  return removed

inductive AttachmentProcess where
  | upload (identity : AuthenticatedIdentity) (requestId : UUID) (file : FileUpload)
  | replace (identity : AuthenticatedIdentity) (attachmentId : UUID) (file : FileUpload)
  | remove (identity : AuthenticatedIdentity) (attachmentId : UUID)

def AttachmentProcess.program (rules : FileRules) : AttachmentProcess → AttachmentProgram Unit
  | .upload identity requestId file => do
      let _ ← uploadAttachment rules identity requestId file
      return ()
  | .replace identity attachmentId file => do
      let _ ← replaceAttachment rules identity attachmentId file
      return ()
  | .remove identity attachmentId => do
      let _ ← removeAttachment identity attachmentId
      return ()

end AutomationHub.Attachments
