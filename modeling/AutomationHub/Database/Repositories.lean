import AutomationHub.Database.World

/-!
The effect of each repository statement on the database.

Every write checks the constraints of the schema that its values can violate,
and every update is conditional on the row version the caller names.
-/

set_option autoImplicit false

namespace AutomationHub.Database

open Foundation Model

/-- Rows in the order of a column; the sort keeps the stored order of equal keys. -/
def orderBy {α : Type} (before : α → α → Bool) (rows : List α) : List α :=
  rows.insertionSort fun left right => before left right

@[simp] theorem mem_orderBy {α : Type} {before : α → α → Bool} {rows : List α} {row : α} :
    row ∈ orderBy before rows ↔ row ∈ rows :=
  (List.perm_insertionSort _ _).mem_iff

@[simp] theorem length_orderBy {α : Type} (before : α → α → Bool) (rows : List α) :
    (orderBy before rows).length = rows.length :=
  List.length_insertionSort _ _

def getById {ρ : Type} [Keyed ρ] (tableName : String) (table : Table ρ) (id : UUID) : Except DatabaseError ρ :=
  match table.find? id with
  | some row => .ok row
  | none => .error (.recordNotFound tableName id)

/-- `UPDATE ... WHERE id = id AND version = expectedVersion`.  `violated` names the constraint that the new
row would violate, if any. -/
def updateWithOptimisticLock {ρ : Type} [Versioned ρ] (tableName : String) (table : Table ρ) (id : UUID)
    (expectedVersion : Nat) (edit : Edit ρ) (violated : ρ → Option String) : Except DatabaseError ρ × Table ρ :=
  match table.updateIfVersion id expectedVersion edit with
  | none => (.error (.concurrentUpdate tableName id expectedVersion), table)
  | some (written, updated) =>
      match violated written with
      | some constraint => (.error (.constraintViolation tableName (some constraint)), table)
      | none => (.ok written, updated)

def insertRow {ρ : Type} [Keyed ρ] (tableName : String) (table : Table ρ) (draft : Draft ρ)
    (violated : ρ → Option String) : Except DatabaseError ρ × Table ρ :=
  match violated (draft.build table.next) with
  | some constraint => (.error (.constraintViolation tableName (some constraint)), table)
  | none => (.ok (draft.build table.next), table.insert draft)

namespace World

def getProfile (world : World) (profileId : UUID) : Except DatabaseError ProfileRecord :=
  getById "profiles" world.profiles profileId

def getRequest (world : World) (requestId : UUID) : Except DatabaseError RequestRecord :=
  getById "requests" world.requests requestId

def getStage (world : World) (stageId : UUID) : Except DatabaseError WorkflowStageRecord :=
  getById "workflow_stages" world.stages stageId

def hasProfile (world : World) (profileId : UUID) : Bool := (world.profiles.find? profileId).isSome

def hasRequest (world : World) (requestId : UUID) : Bool := (world.requests.find? requestId).isSome

def hasStage (world : World) (stageId : UUID) : Bool := (world.stages.find? stageId).isSome

/-- The first of the listed constraints that does not hold. -/
def firstViolated (constraints : List (String × Bool)) : Option String :=
  (constraints.find? fun constraint => !constraint.2).map Prod.fst

/-- The stages of a request in ascending order. -/
def stagesOf (world : World) (requestId : UUID) : List WorkflowStageRecord :=
  orderBy (fun left right => left.stageOrder ≤ right.stageOrder)
    (world.stages.rows.filter fun stage => stage.requestId == requestId)

def highestStageOrder (world : World) (requestId : UUID) : Nat :=
  ((world.stages.rows.filter fun stage => stage.requestId == requestId).map WorkflowStageRecord.stageOrder).foldr max 0

/-- The queue of an approver: pending stages of the company assigned to the user or to the role, oldest first. -/
def pendingForApprover (world : World) (companyId : UUID) (assignedTo : Option UUID)
    (assignedRole : Option UserRole) : List WorkflowStageRecord :=
  orderBy (fun left right => left.createdAt ≤ right.createdAt) (world.stages.rows.filter fun stage =>
    stage.companyId == companyId && stage.status == .pending &&
      ((assignedTo.isSome && stage.assignedTo == assignedTo) ||
        (assignedRole.isSome && stage.assignedRole == assignedRole)))

def overdueStagesAllCompanies (world : World) (createdBefore : Datetime) : List WorkflowStageRecord :=
  orderBy (fun left right => left.createdAt ≤ right.createdAt) (world.stages.rows.filter fun stage =>
    stage.status == .pending && stage.createdAt ≤ createdBefore)

def profilesByRole (world : World) (role : UserRole) (companyId : UUID) (department : Option String) :
    List ProfileRecord :=
  orderBy (fun left right => left.fullName ≤ right.fullName) (world.profiles.rows.filter fun profile =>
    profile.role == role && profile.companyId == companyId && (department.isNone || profile.department == department)
      && profile.deletedAt.isNone)

/-- The `workflow_definitions_select` policy. -/
def definitionVisible (world : World) (viewer : Option UUID) (definition : WorkflowDefinition) : Bool :=
  match viewer with
  | none => true
  | some caller =>
      match world.profiles.find? caller with
      | none => false
      | some profile => definition.companyId == profile.companyId && (definition.isActive || profile.role == .admin)

/-- The caller is an administrator of the company, as the insert and update policies of the definitions require. -/
def mayWriteDefinitions (world : World) (viewer : Option UUID) (companyId : UUID) : Bool :=
  viewer.all fun caller =>
    (world.profiles.find? caller).any fun profile => profile.role == .admin && profile.companyId == companyId

/-- The `notification_preferences_select_own` policy. -/
def preferenceVisible (viewer : Option UUID) (preference : NotificationPreferenceRecord) : Bool :=
  viewer.all fun caller => preference.userId == caller

/-- The row of `create_request`; the other columns take their defaults. -/
def newRequest (world : World) (requesterId workflowDefinitionId : UUID) (requestType title : String)
    (companyId : UUID) (description department : Option String) : Draft RequestRecord where
  build := fun id =>
    { id, requesterId, workflowDefinitionId, requestType, title, description, department, status := .pending,
      currentStageId := none, version := 1, deletedAt := none, deletedBy := none, createdAt := world.now,
      updatedAt := world.now, completedAt := none, companyId }
  key_build := fun _ => rfl

def newStage (world : World) (requestId : UUID) (stageOrder : Nat) (stageName : String) (companyId : UUID)
    (assignedRole : Option UserRole) (assignedTo : Option UUID) : Draft WorkflowStageRecord where
  build := fun id =>
    { id, requestId, stageOrder, stageName, assignedRole, assignedTo, status := .pending, decidedBy := none,
      decidedAt := none, decisionNote := none, version := 1, createdAt := world.now, companyId }
  key_build := fun _ => rfl

def newAuditLog (world : World) (action : AuditAction) (actorId requestId : Option UUID)
    (metadata : Option AuditMetadata) (companyId : Option UUID) : Draft AuditLogRecord where
  build := fun id => { id, actorId, requestId, action, metadata, createdAt := world.now, companyId }
  key_build := fun _ => rfl

def newNotification (world : World) (recipientId : UUID) (notificationType : NotificationType) (message : String)
    (requestId : Option UUID) : Draft NotificationRecord where
  build := fun id =>
    { id, recipientId, requestId, notificationType, message, isRead := false, readAt := none, emailSent := false,
      emailSentAt := none, archivedAt := none, createdAt := world.now }
  key_build := fun _ => rfl

def newDefinition (world : World) (requestType : String) (version : Nat) (definition : WorkflowDefinitionDocument)
    (createdBy companyId : UUID) : Draft WorkflowDefinition where
  build := fun id =>
    { id, requestType, version, definition, isActive := false, createdBy := some createdBy, rowVersion := 1,
      createdAt := world.now, companyId }
  key_build := fun _ => rfl

def newJob (world : World) (queueName : String) (payload : TaskPayload) (priority : JobPriority) (maxAttempts : Nat)
    (requestId : Option UUID) : Draft JobRecord where
  build := fun id =>
    { id, taskType := payload.taskType, queueName, priority, status := .queued, payload := payload.fields,
      attempts := 0, maxAttempts, lastError := none, errorHistory := [], scheduledFor := none, startedAt := none,
      finishedAt := none, lockedBy := none, requestId, actorId := none, version := 1, createdAt := world.now }
  key_build := fun _ => rfl

/-- A request update; the `updated_at` trigger fires on each. -/
def requestEdit (world : World) (change : RequestRecord → RequestRecord)
    (keeps : ∀ request, (change request).id = request.id) : Edit RequestRecord where
  apply := fun request => { change request with updatedAt := world.now }
  key_apply := keeps

def currentStageEdit (world : World) (currentStageId : Option UUID) (status : RequestStatus)
    (completedAt : Option Datetime) : Edit RequestRecord :=
  world.requestEdit (fun request => { request with currentStageId, status, completedAt }) fun _ => rfl

def editableFieldsEdit (world : World) (title description department : Option String) : Edit RequestRecord :=
  world.requestEdit (fun request =>
    { request with title := title.getD request.title, description := description.or request.description,
                   department := department.or request.department }) fun _ => rfl

def softDeleteEdit (world : World) (deletedBy : UUID) : Edit RequestRecord :=
  world.requestEdit (fun request =>
    { request with deletedAt := some world.now, deletedBy := some deletedBy }) fun _ => rfl

def decisionEdit (world : World) (status : StageStatus) (decidedBy : UUID) (decisionNote : Option String) :
    Edit WorkflowStageRecord where
  apply := fun stage =>
    { stage with status, decidedBy := some decidedBy, decidedAt := some world.now, decisionNote }
  key_apply := fun _ => rfl

def revertEdit : Edit WorkflowStageRecord where
  apply := fun stage =>
    { stage with status := .pending, decidedBy := none, decidedAt := none, decisionNote := none }
  key_apply := fun _ => rfl

def assignmentEdit (assignedTo : Option UUID) (assignedRole : Option UserRole) : Edit WorkflowStageRecord where
  apply := fun stage => { stage with assignedTo, assignedRole }
  key_apply := fun _ => rfl

def documentEdit (definition : WorkflowDefinitionDocument) : Edit WorkflowDefinition where
  apply := fun row => { row with definition }
  key_apply := fun _ => rfl

def activityEdit (isActive : Bool) : Edit WorkflowDefinition where
  apply := fun row => { row with isActive }
  key_apply := fun _ => rfl

def emailSentEdit (world : World) : Edit NotificationRecord where
  apply := fun notification => { notification with emailSent := true, emailSentAt := some world.now }
  key_apply := fun _ => rfl

def updateRequest (world : World) (requestId : UUID) (expectedVersion : Nat) (edit : Edit RequestRecord)
    (violated : RequestRecord → Option String) : Except DatabaseError RequestRecord × World :=
  let (reply, requests) :=
    updateWithOptimisticLock "requests" world.requests requestId expectedVersion edit violated
  (reply, { world with requests })

def updateStage (world : World) (stageId : UUID) (expectedVersion : Nat) (edit : Edit WorkflowStageRecord)
    (violated : WorkflowStageRecord → Option String) : Except DatabaseError WorkflowStageRecord × World :=
  let (reply, stages) := updateWithOptimisticLock "workflow_stages" world.stages stageId expectedVersion edit violated
  (reply, { world with stages })

/-- An update of a definition; a row that the policies hide from the caller is not matched. -/
def updateDefinition (world : World) (viewer : Option UUID) (definitionId : UUID) (expectedRowVersion : Nat)
    (edit : Edit WorkflowDefinition) (violated : WorkflowDefinition → Option String) :
    Except DatabaseError WorkflowDefinition × World :=
  if (world.definitions.find? definitionId).all fun row => world.mayWriteDefinitions viewer row.companyId then
    let (reply, definitions) :=
      updateWithOptimisticLock "workflow_definitions" world.definitions definitionId expectedRowVersion edit violated
    (reply, { world with definitions })
  else (.error (.concurrentUpdate "workflow_definitions" definitionId expectedRowVersion), world)

def createRequest (world : World) (draft : Draft RequestRecord) : Except DatabaseError RequestRecord × World :=
  let (reply, requests) := insertRow "requests" world.requests draft fun request => firstViolated [
    ("check", 1 ≤ request.title.length && request.title.length ≤ 200),
    ("check", request.description.all fun text => text.length ≤ 5000),
    ("foreign_key", world.hasProfile request.requesterId),
    ("foreign_key", (world.definitions.find? request.workflowDefinitionId).isSome)]
  (reply, { world with requests })

def createStage (world : World) (draft : Draft WorkflowStageRecord) : Except DatabaseError WorkflowStageRecord × World :=
  let (reply, stages) := insertRow "workflow_stages" world.stages draft fun stage => firstViolated [
    ("check", 0 < stage.stageOrder),
    ("unique", world.stages.rows.all fun other =>
      other.requestId != stage.requestId || other.stageOrder != stage.stageOrder),
    ("foreign_key", world.hasRequest stage.requestId),
    ("foreign_key", stage.assignedTo.all world.hasProfile)]
  (reply, { world with stages })

/-- `DELETE ... WHERE id AND version`; a request that points at the row forbids it. -/
def deleteIfUnchanged (world : World) (stageId : UUID) (expectedVersion : Nat) :
    Except DatabaseError Bool × World :=
  match world.stages.eraseIfVersion stageId expectedVersion with
  | none => (.ok false, world)
  | some stages =>
      if world.requests.rows.any fun request => request.currentStageId == some stageId then
        (.error (.constraintViolation "workflow_stages" (some "foreign_key")), world)
      else (.ok true, { world with stages })

def decideStage (world : World) (status : StageStatus) (stageId : UUID) (expectedVersion : Nat) (decidedBy : UUID)
    (decisionNote : Option String) : Except DatabaseError WorkflowStageRecord × World :=
  world.updateStage stageId expectedVersion (world.decisionEdit status decidedBy decisionNote) fun stage =>
    firstViolated [
      ("check", stage.decisionNote.all fun note => note.length ≤ 1000),
      ("foreign_key", world.hasProfile decidedBy)]

def recordEvent (world : World) (draft : Draft AuditLogRecord) : Except DatabaseError AuditLogRecord × World :=
  let (reply, audit) := insertRow "audit_logs" world.audit draft fun entry => firstViolated [
    ("foreign_key", entry.actorId.all world.hasProfile),
    ("foreign_key", entry.requestId.all world.hasRequest)]
  (reply, { world with audit })

def createNotification (world : World) (draft : Draft NotificationRecord) :
    Except DatabaseError NotificationRecord × World :=
  let (reply, notifications) := insertRow "notifications" world.notifications draft fun notification => firstViolated [
    ("foreign_key", world.hasProfile notification.recipientId),
    ("foreign_key", notification.requestId.all world.hasRequest)]
  (reply, { world with notifications })

def markEmailSent (world : World) (notificationId : UUID) : Except DatabaseError NotificationRecord × World :=
  match world.notifications.find? notificationId with
  | none => (.error (.recordNotFound "notifications" notificationId), world)
  | some notification =>
      (.ok (world.emailSentEdit.apply notification),
        { world with notifications := world.notifications.modify notificationId world.emailSentEdit })

def newPreference (world : World) (userId : UUID) (notificationType : NotificationType)
    (inAppEnabled emailEnabled : Bool) : Draft NotificationPreferenceRecord where
  build := fun id =>
    { id, userId, notificationType, inAppEnabled, emailEnabled, createdAt := world.now, updatedAt := world.now }
  key_build := fun _ => rfl

def preferenceEdit (world : World) (inAppEnabled emailEnabled : Bool) : Edit NotificationPreferenceRecord where
  apply := fun preference => { preference with inAppEnabled, emailEnabled, updatedAt := world.now }
  key_apply := fun _ => rfl

/-- `INSERT ... ON CONFLICT (user_id, notification_type) DO UPDATE`; the policies let a caller's own client write the
caller's rows only. -/
def upsertPreference (world : World) (viewer : Option UUID) (userId : UUID) (notificationType : NotificationType)
    (inAppEnabled emailEnabled : Bool) : Except DatabaseError NotificationPreferenceRecord × World :=
  if viewer.all fun caller => userId == caller then
    match world.preferences.rows.find? fun preference =>
        preference.userId == userId && preference.notificationType == notificationType with
    | some existing =>
        (.ok ((world.preferenceEdit inAppEnabled emailEnabled).apply existing),
          { world with
            preferences := world.preferences.modify existing.id (world.preferenceEdit inAppEnabled emailEnabled) })
    | none =>
        let (reply, preferences) := insertRow "notification_preferences" world.preferences
          (world.newPreference userId notificationType inAppEnabled emailEnabled) fun preference =>
            firstViolated [("foreign_key", world.hasProfile preference.userId)]
        (reply, { world with preferences })
  else (.error (.repository "Database operation 'upsert' failed on 'notification_preferences'."), world)

def notificationsForRecipient (world : World) (recipientId : UUID) : List NotificationRecord :=
  orderBy (fun left right => right.createdAt ≤ left.createdAt) (world.notifications.rows.filter fun notification =>
    notification.recipientId == recipientId && notification.archivedAt.isNone)

def definitionsFor (world : World) (viewer : Option UUID) (requestType : String) (companyId : UUID)
    (isActive : Option Bool) : List WorkflowDefinition :=
  orderBy (fun left right => right.createdAt ≤ left.createdAt) (world.definitions.rows.filter fun definition =>
    world.definitionVisible viewer definition && definition.companyId == companyId
      && definition.requestType == requestType && isActive.all fun wanted => definition.isActive == wanted)

def getDefinition (world : World) (viewer : Option UUID) (definitionId : UUID) :
    Except DatabaseError WorkflowDefinition :=
  match world.definitions.find? definitionId with
  | some definition =>
      if world.definitionVisible viewer definition then .ok definition
      else .error (.recordNotFound "workflow_definitions" definitionId)
  | none => .error (.recordNotFound "workflow_definitions" definitionId)

/-- The active definition of a request type, as far as the caller sees it. -/
def activeDefinition (world : World) (viewer : Option UUID) (requestType : String) (companyId : UUID) :
    Option WorkflowDefinition :=
  world.definitions.rows.find? fun definition =>
    world.definitionVisible viewer definition && definition.requestType == requestType
      && definition.companyId == companyId && definition.isActive

/-- At most one version of a request type is active in a company. -/
def secondActive (world : World) (definition : WorkflowDefinition) : Option String :=
  firstViolated [("unique", world.definitions.rows.all fun other =>
    other.id == definition.id || !other.isActive || other.companyId != definition.companyId
      || other.requestType != definition.requestType)]

def createDefinition (world : World) (viewer : Option UUID) (draft : Draft WorkflowDefinition) :
    Except DatabaseError WorkflowDefinition × World :=
  if world.mayWriteDefinitions viewer (draft.build world.definitions.next).companyId then
    let (reply, definitions) := insertRow "workflow_definitions" world.definitions draft fun definition =>
      firstViolated [
        ("check", 1 ≤ definition.version),
        ("unique", world.definitions.rows.all fun other => other.companyId != definition.companyId
          || other.requestType != definition.requestType || other.version != definition.version),
        ("foreign_key", definition.createdBy.all world.hasProfile)]
    (reply, { world with definitions })
  else (.error (.repository "Database operation 'insert' failed on 'workflow_definitions'."), world)

/-- `DELETE ... WHERE id AND company_id AND NOT is_active`.  No policy and no grant lets a caller's own client delete;
a request that names the row forbids it. -/
def deleteInactiveDefinition (world : World) (viewer : Option UUID) (definitionId companyId : UUID) :
    Except DatabaseError Unit × World :=
  if viewer.isSome then
    (.error (.repository "Database operation 'delete_inactive_definition' failed on 'workflow_definitions'."), world)
  else
    match world.definitions.find? definitionId with
    | none => (.error (.recordNotFound "workflow_definitions" definitionId), world)
    | some row =>
        if row.companyId ≠ companyId ∨ row.isActive = true then
          (.error (.recordNotFound "workflow_definitions" definitionId), world)
        else if world.requests.rows.any fun request => request.workflowDefinitionId == definitionId then
          (.error (.constraintViolation "workflow_definitions" (some "foreign_key")), world)
        else (.ok (), { world with definitions := world.definitions.erase definitionId })

/-- The update that takes the previous version out of use; a row that changed since is left as it is. -/
def deactivatePreviousDefinition (world : World) (viewer : Option UUID) (definitionId : UUID) (rowVersion : Nat) :
    Except DatabaseError (Option WorkflowDefinition) × World :=
  match world.updateDefinition viewer definitionId rowVersion (activityEdit false) fun _ => none with
  | (.ok row, after) => (.ok (some row), after)
  | (.error _, _) => (.ok none, world)

/-- Newest first. -/
def newestFirst {α : Type} (createdAt : α → Datetime) (rows : List α) : List α :=
  orderBy (fun left right => createdAt right ≤ createdAt left) rows

@[simp] theorem mem_newestFirst {α : Type} {createdAt : α → Datetime} {rows : List α} {row : α} :
    row ∈ newestFirst createdAt rows ↔ row ∈ rows :=
  mem_orderBy

@[simp] theorem length_newestFirst {α : Type} (createdAt : α → Datetime) (rows : List α) :
    (newestFirst createdAt rows).length = rows.length :=
  length_orderBy _ _

/-- The rows of a free-text search, which needs a text. -/
def searched {α : Type} (method queryText : String) (rows : List α) (page : Page) :
    Except DatabaseError (PagedResult α) :=
  if strip queryText = "" then .error (.invalidQuery (method ++ " requires a non-empty query_text."))
  else .ok (paginate rows page)

def profilesNamed (world : World) (queryText : String) (companyId : UUID) : List ProfileRecord :=
  orderBy (fun left right => left.fullName ≤ right.fullName) (world.profiles.rows.filter fun profile =>
    world.textSearch.ilike (strip queryText) profile.fullName && profile.companyId == companyId
      && profile.deletedAt.isNone)

def overdueStages (world : World) (createdBefore : Datetime) (companyId : UUID) : List WorkflowStageRecord :=
  orderBy (fun left right => left.createdAt ≤ right.createdAt) (world.stages.rows.filter fun stage =>
    stage.companyId == companyId && stage.status == .pending && stage.createdAt ≤ createdBefore)

def requestsListed (world : World) (companyId : UUID) (filter : RequestFilter) : List RequestRecord :=
  newestFirst RequestRecord.createdAt (world.requests.rows.filter fun request =>
    request.companyId == companyId && filter.admits request)

/-- The requests whose title or description contains the text, or the words, searched for. -/
def requestsFound (world : World) (queryText : String) (companyId : UUID) (requesterId : Option UUID)
    (requestIds : Option (List UUID)) : List RequestRecord :=
  newestFirst RequestRecord.createdAt (world.requests.rows.filter fun request =>
    request.companyId == companyId
      && (world.textSearch.ilike (strip queryText) request.title
        || request.description.any (world.textSearch.ilike (strip queryText))
        || world.textSearch.websearch (strip queryText) (request.title :: request.description.toList))
      && requesterId.all (fun requesterId => request.requesterId == requesterId)
      && requestIds.all (fun requestIds => requestIds.contains request.id)
      && request.deletedAt.isNone)

def definitionsFound (world : World) (viewer : Option UUID) (queryText : String) (companyId : UUID)
    (isActive : Option Bool) : List WorkflowDefinition :=
  newestFirst WorkflowDefinition.createdAt (world.definitions.rows.filter fun definition =>
    world.definitionVisible viewer definition && world.textSearch.ilike (strip queryText) definition.requestType
      && definition.companyId == companyId && isActive.all fun wanted => definition.isActive == wanted)

/-- The condition under which `comments_select` and `attachments_select` show the rows of a request: the policies of
the tables they look into apply as well. -/
def parentVisible (world : World) (viewer : Option UUID) (requestId : UUID) : Bool :=
  match viewer with
  | none => true
  | some caller =>
      match world.profiles.find? caller with
      | none => false
      | some profile => world.requests.rows.any fun request =>
          request.id == requestId && request.companyId == profile.companyId
            && (request.requesterId == caller || profile.role == .admin
              || world.stages.rows.any fun stage => stage.requestId == requestId
                && stage.companyId == profile.companyId
                && (stage.assignedTo == some caller || stage.assignedRole == some profile.role))

def commentsFound (world : World) (viewer : Option UUID) (queryText : String) (requestIds : Option (List UUID)) :
    List CommentRecord :=
  newestFirst CommentRecord.createdAt (world.comments.rows.filter fun comment =>
    world.parentVisible viewer comment.requestId
      && (world.textSearch.ilike (strip queryText) comment.body
        || world.textSearch.websearch (strip queryText) [comment.body])
      && requestIds.all (fun requestIds => requestIds.contains comment.requestId) && comment.deletedAt.isNone)

def attachmentsFound (world : World) (viewer : Option UUID) (queryText : String) (requestIds : Option (List UUID)) :
    List AttachmentRecord :=
  newestFirst AttachmentRecord.createdAt (world.attachments.rows.filter fun attachment =>
    world.parentVisible viewer attachment.requestId
      && world.textSearch.ilike (strip queryText) attachment.fileName
      && requestIds.all (fun requestIds => requestIds.contains attachment.requestId) && attachment.deletedAt.isNone)

/-- The audit entries of the requests listed, or of all requests and companies. -/
def auditLogsFound (world : World) (queryText : String) (requestIds : Option (List UUID)) : List AuditLogRecord :=
  newestFirst AuditLogRecord.createdAt (world.audit.rows.filter fun entry =>
    world.textSearch.ilike (strip queryText) entry.action.value
      && requestIds.all (fun requestIds => entry.requestId.any requestIds.contains))

def notificationsFound (world : World) (queryText : String) (recipientId : UUID) : List NotificationRecord :=
  newestFirst NotificationRecord.createdAt (world.notifications.rows.filter fun notification =>
    notification.recipientId == recipientId
      && (queryText == "" || world.textSearch.ilike (strip queryText) notification.message))

def auditLogsListed (world : World) (companyId : UUID) (filter : AuditFilter) : List AuditLogRecord :=
  newestFirst AuditLogRecord.createdAt (world.audit.rows.filter fun entry =>
    entry.companyId == some companyId && filter.admits entry)

def auditLogsOfActor (world : World) (actorId : UUID) : List AuditLogRecord :=
  newestFirst AuditLogRecord.createdAt (world.audit.rows.filter fun entry => entry.actorId == some actorId)

/-- The audit trail of a request, oldest entry first. -/
def auditLogsOfRequest (world : World) (requestId : UUID) : List AuditLogRecord :=
  orderBy (fun left right => left.createdAt ≤ right.createdAt)
    (world.audit.rows.filter fun entry => entry.requestId == some requestId)

def jobsListed (world : World) (filter : JobFilter) : List JobRecord :=
  newestFirst JobRecord.createdAt (world.jobs.rows.filter filter.admits)

/-- Execute one repository statement. -/
def execute (world : World) : (statement : Query) → Except DatabaseError statement.Result × World
  | .getProfile profileId => (world.getProfile profileId, world)
  | .listProfilesByRole role companyId department page =>
      (.ok (paginate (world.profilesByRole role companyId department) page), world)
  | .getDefinition viewer definitionId => (world.getDefinition viewer definitionId, world)
  | .listDefinitions viewer requestType companyId isActive page =>
      (.ok (paginate (world.definitionsFor viewer requestType companyId isActive) page), world)
  | .findProfilesByIds profileIds => (.ok (world.profiles.rows.filter fun profile => profile.id ∈ profileIds), world)
  | .findActiveForRequestType viewer requestType companyId =>
      (.ok (world.activeDefinition viewer requestType companyId), world)
  | .createDefinition viewer requestType version definition createdBy companyId =>
      world.createDefinition viewer (world.newDefinition requestType version definition createdBy companyId)
  | .updateInactiveDefinition viewer definitionId expectedRowVersion definition =>
      world.updateDefinition viewer definitionId expectedRowVersion (documentEdit definition) fun _ => none
  | .deleteInactiveDefinition viewer definitionId companyId =>
      world.deleteInactiveDefinition viewer definitionId companyId
  | .deactivatePreviousDefinition viewer definitionId rowVersion =>
      world.deactivatePreviousDefinition viewer definitionId rowVersion
  | .activateDefinition viewer definitionId expectedRowVersion =>
      world.updateDefinition viewer definitionId expectedRowVersion (activityEdit true) world.secondActive
  | .getRequest requestId => (world.getRequest requestId, world)
  | .createRequest requesterId workflowDefinitionId requestType title companyId description department =>
      world.createRequest
        (world.newRequest requesterId workflowDefinitionId requestType title companyId description department)
  | .setCurrentStage requestId expectedVersion currentStageId status completedAt =>
      world.updateRequest requestId expectedVersion (world.currentStageEdit currentStageId status completedAt)
        fun request => firstViolated [("foreign_key", request.currentStageId.all world.hasStage)]
  | .updateEditableFields requestId expectedVersion title description department =>
      if title.isNone && description.isNone && department.isNone then
        (.error (.invalidQuery "update_editable_fields requires at least one field to update."), world)
      else
        world.updateRequest requestId expectedVersion (world.editableFieldsEdit title description department)
          fun request => firstViolated [
            ("check", 1 ≤ request.title.length && request.title.length ≤ 200),
            ("check", request.description.all fun text => text.length ≤ 5000)]
  | .softDelete requestId expectedVersion deletedBy =>
      world.updateRequest requestId expectedVersion (world.softDeleteEdit deletedBy)
        fun _ => firstViolated [("foreign_key", world.hasProfile deletedBy)]
  | .getStage stageId => (world.getStage stageId, world)
  | .createStage requestId stageOrder stageName companyId assignedRole assignedTo =>
      world.createStage (world.newStage requestId stageOrder stageName companyId assignedRole assignedTo)
  | .deleteIfUnchanged stageId expectedVersion => world.deleteIfUnchanged stageId expectedVersion
  | .listStagesForRequest requestId page => (.ok (paginate (world.stagesOf requestId) page), world)
  | .getHighestStageOrder requestId => (.ok (world.highestStageOrder requestId), world)
  | .approveStage stageId expectedVersion decidedBy decisionNote =>
      world.decideStage .approved stageId expectedVersion decidedBy decisionNote
  | .rejectStage stageId expectedVersion decidedBy decisionNote =>
      if strip decisionNote = "" then
        (.error (.invalidQuery "reject_stage requires a non-empty decision_note."), world)
      else world.decideStage .rejected stageId expectedVersion decidedBy (some decisionNote)
  | .revertToPending stageId expectedVersion =>
      world.updateStage stageId expectedVersion revertEdit fun _ => none
  | .escalateStage stageId expectedVersion newAssignedTo newAssignedRole =>
      world.updateStage stageId expectedVersion (assignmentEdit newAssignedTo newAssignedRole)
        fun stage => firstViolated [("foreign_key", stage.assignedTo.all world.hasProfile)]
  | .listPendingForApprover companyId assignedTo assignedRole page =>
      if assignedTo.isNone && assignedRole.isNone then
        (.error (.invalidQuery
          "list_pending_for_approver requires at least one of assigned_to or assigned_role."), world)
      else (.ok (paginate (world.pendingForApprover companyId assignedTo assignedRole) page), world)
  | .listOverdueStagesAllCompanies createdBefore page =>
      (.ok (paginate (world.overdueStagesAllCompanies createdBefore) page), world)
  | .listOverdueStages createdBefore companyId page =>
      (.ok (paginate (world.overdueStages createdBefore companyId) page), world)
  | .searchProfilesByName queryText companyId page =>
      (searched "search_by_name" queryText (world.profilesNamed queryText companyId) page, world)
  | .listRequests companyId filter page => (.ok (paginate (world.requestsListed companyId filter) page), world)
  | .searchRequests queryText companyId requesterId requestIds page =>
      (searched "search_requests" queryText (world.requestsFound queryText companyId requesterId requestIds) page, world)
  | .searchDefinitions viewer queryText companyId isActive page =>
      (searched "search_definitions" queryText (world.definitionsFound viewer queryText companyId isActive) page, world)
  | .searchComments viewer queryText requestIds page =>
      (searched "search" queryText (world.commentsFound viewer queryText requestIds) page, world)
  | .searchAttachments viewer queryText requestIds page =>
      (searched "search" queryText (world.attachmentsFound viewer queryText requestIds) page, world)
  | .searchAuditLogs queryText requestIds page =>
      (searched "search" queryText (world.auditLogsFound queryText requestIds) page, world)
  | .searchNotificationsForRecipient queryText recipientId page =>
      (.ok (paginate (world.notificationsFound queryText recipientId) page), world)
  | .listAuditLogs companyId filter page => (.ok (paginate (world.auditLogsListed companyId filter) page), world)
  | .listAuditLogsForActor actorId page => (.ok (paginate (world.auditLogsOfActor actorId) page), world)
  | .listAuditLogsForRequest requestId page => (.ok (paginate (world.auditLogsOfRequest requestId) page), world)
  | .getJob jobId => (getById "jobs" world.jobs jobId, world)
  | .listJobs filter page => (.ok (paginate (world.jobsListed filter) page), world)
  | .recordEvent action actorId requestId metadata companyId =>
      world.recordEvent (world.newAuditLog action actorId requestId metadata companyId)
  | .getPreferences viewer userId =>
      (.ok (world.preferences.rows.filter fun preference =>
        preferenceVisible viewer preference && preference.userId == userId), world)
  | .createNotification recipientId notificationType message requestId =>
      world.createNotification (world.newNotification recipientId notificationType message requestId)
  | .markEmailSent notificationId => world.markEmailSent notificationId
  | .listNotificationsForRecipient recipientId page =>
      (.ok (paginate (world.notificationsForRecipient recipientId) page), world)
  | .enqueueJob queueName payload priority maxAttempts requestId =>
      let draft := world.newJob queueName payload priority maxAttempts requestId
      (.ok (draft.build world.jobs.next), { world with jobs := world.jobs.insert draft })
  | .upsertPreference viewer userId notificationType inAppEnabled emailEnabled =>
      world.upsertPreference viewer userId notificationType inAppEnabled emailEnabled

end World

/-- The environment of the services: each call reads the clock at its own instant. -/
def environment : Handler hubSignature World
  | .utcNow, world => (world.now, world.tick)
  | .log _, world => ((), world.tick)
  | .readMailer, world => (world.mailer, world.tick)
  | .sendEmail notification, world =>
      (match world.mailer.sender with
        | some send => send notification
        | none => .refused, world.tick)
  | .submitEmail notification, world =>
      ((), { world.tick with submittedEmails := world.submittedEmails ++ [notification] })
  | .query statement, world => ((world.execute statement).1, (world.execute statement).2.tick)

end AutomationHub.Database
