import AutomationHub.Jobs.Handlers

/-!
The Escalation Check and Reminder Dispatch jobs.
-/

set_option autoImplicit false

namespace AutomationHub.Scheduler

open Foundation Model Database Services Jobs Workflow Auth

def maxPages : Nat := 50

/-- The pages of the sweep from the one numbered `index + 1` on. -/
def pendingStagesFrom (cutoff : Datetime) : (remaining index : Nat) → Service (List WorkflowStageRecord)
  | 0, _ => return []
  | remaining + 1, index => do
      let result : PagedResult WorkflowStageRecord ← orRaise (.listOverdueStagesAllCompanies cutoff
        { number := index + 1, size := 100, number_pos := Nat.succ_pos index, size_pos := one_le_hundred,
          size_le := hundred_le_maxPageSize })
      if result.items.isEmpty then return []
      if result.totalPages ≤ index + 1 then return result.items
      return result.items ++ (← pendingStagesFrom cutoff remaining (index + 1))

def iterPendingStages : Service (List WorkflowStageRecord) := do
  let cutoff ← utcNow
  pendingStagesFrom cutoff maxPages 0

/-- The definitions already resolved in one run of a job. -/
abbrev DefinitionCache := List (UUID × WorkflowDefinition)

structure StageContext where
  request : RequestRecord
  stageDefinition : StageDefinition

def cachedDefinition (cache : DefinitionCache) (definitionId : UUID) : Service (DefinitionCache × WorkflowDefinition) := do
  match cache.lookup definitionId with
  | some definition => return (cache, definition)
  | none =>
      let definition : WorkflowDefinition ← orRaise (.getDefinition none definitionId)
      return ((definitionId, definition) :: cache, definition)

/-- The request of a stage and the entry of its pinned definition; the cache is kept even when there is none. -/
def loadStageContext (cache : DefinitionCache) (stage : WorkflowStageRecord) :
    Service (DefinitionCache × Except EngineError StageContext) := do
  let request : RequestRecord ← orRaise (.getRequest stage.requestId)
  let (cache, definition) ← cachedDefinition cache request.workflowDefinitionId
  match definition.definition.stages.find? fun entry => entry.order == stage.stageOrder with
  | none => return (cache, .error (.stageNotFoundInDefinition stage.stageOrder))
  | some stageDefinition => return (cache, .ok { request, stageDefinition })

/-- Process the items in order; an exception of one is logged and does not stop the others. -/
def runOverItems (action : DefinitionCache → WorkflowStageRecord → Service (DefinitionCache × Except AppError Unit)) :
    DefinitionCache → List WorkflowStageRecord → Service Unit
  | _, [] => return ()
  | cache, stage :: rest => do
      let (cache, outcome) ← tryCatch (action cache stage) fun error => return (cache, .error error)
      if let .error _ := outcome then log .itemFailed
      runOverItems action cache rest

/-- Run `action`, keeping what it raises as a value. -/
def caught (action : Service Unit) : Service (Except AppError Unit) :=
  tryCatch (do
      action
      return .ok ())
    fun error => return .error error

def isStageEscalationEligible (stage : WorkflowStageRecord) (escalationHours : Hours) : Service Bool := do
  let threshold ← engineOrRaise (computeThreshold stage.createdAt escalationHours)
  return isPast threshold (← utcNow)

def evaluateAndEscalateIfEligible (dispatcher : JobDispatcher) (cache : DefinitionCache) (stage : WorkflowStageRecord) :
    Service (DefinitionCache × Except AppError Unit) := do
  let (cache, context) ← loadStageContext cache stage
  match context with
  | .error error => return (cache, .error (.engine error))
  | .ok context =>
      return (cache, ← caught do
        if ← isStageEscalationEligible stage context.stageDefinition.escalationHours then
          dispatcher.enqueue "escalation" (.escalateStage stage.id) .high 3 stage.requestId)

/-- One run of a scheduled job over the pending stages; `BaseJob.run` never raises. -/
def runJob (jobName : String)
    (action : DefinitionCache → WorkflowStageRecord → Service (DefinitionCache × Except AppError Unit)) : Service Unit :=
  tryCatch (do
      let candidates ← iterPendingStages
      runOverItems action [] candidates)
    fun _ => log (.jobFailed jobName)

def escalationJob (dispatcher : JobDispatcher) : Service Unit :=
  runJob "escalation_check" (evaluateAndEscalateIfEligible dispatcher)

/-- `lead_time_hours` and `duplicate_cooldown_hours`. -/
structure ReminderSettings where
  leadTimeHours : ℚ
  duplicateCooldownHours : ℚ

def defaultReminderSettings : ReminderSettings := ⟨4, 24⟩

def hoursBetween (start finish : Datetime) : ℚ :=
  ((finish : ℚ) - start) / microsecondsPerHour

def recentlyReminded (settings : ReminderSettings) (stage : WorkflowStageRecord) (recipientId : UUID) :
    Service Bool := do
  let page : PagedResult NotificationRecord ← orRaise (.listNotificationsForRecipient recipientId
    (Page.first 50 (by decide) (by decide)))
  let now ← utcNow
  return page.items.any fun notification =>
    notification.notificationType == .reminder && notification.requestId == some stage.requestId &&
      decide (hoursBetween notification.createdAt now ≤ settings.duplicateCooldownHours)

def reminderMessage (stage : WorkflowStageRecord) (request : RequestRecord) : String :=
  "The stage '" ++ stage.stageName ++ "' on request '" ++ request.title ++ "' has been awaiting your decision since "
    ++ formatIso8601 stage.createdAt ++ " and is nearing its escalation deadline."

/-- Whether a stage is within the lead time of its threshold. -/
def isDueForReminder (settings : ReminderSettings) (escalationHours : Hours) (createdAt now : Datetime) : Bool :=
  match escalationHours with
  | .finite hours => hours - hoursBetween createdAt now ≤ settings.leadTimeHours
  | .infinite => false

def remindIfDue (settings : ReminderSettings) (dispatcher : JobDispatcher) (stage : WorkflowStageRecord)
    (recipientId : UUID) (context : StageContext) : Service Unit := do
  if ← isStageEscalationEligible stage context.stageDefinition.escalationHours then return ()
  if !isDueForReminder settings context.stageDefinition.escalationHours stage.createdAt (← utcNow) then return ()
  if ← recentlyReminded settings stage recipientId then return ()
  dispatcher.enqueue "escalation" (.sendReminder recipientId stage.requestId (reminderMessage stage context.request))
    .low 3 stage.requestId

def evaluateAndRemindIfDue (settings : ReminderSettings) (dispatcher : JobDispatcher) (cache : DefinitionCache)
    (stage : WorkflowStageRecord) : Service (DefinitionCache × Except AppError Unit) := do
  match stage.assignedTo with
  | none => return (cache, .ok ())
  | some recipientId =>
      let (cache, context) ← loadStageContext cache stage
      match context with
      | .error error => return (cache, .error (.engine error))
      | .ok context => return (cache, ← caught (remindIfDue settings dispatcher stage recipientId context))

def reminderJobWith (settings : ReminderSettings) (dispatcher : JobDispatcher) : Service Unit :=
  runJob "reminder_dispatch" (evaluateAndRemindIfDue settings dispatcher)

def reminderJob (dispatcher : JobDispatcher) : Service Unit := reminderJobWith defaultReminderSettings dispatcher

end AutomationHub.Scheduler
