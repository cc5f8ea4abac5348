import AutomationHub.Services.ApprovalService

/-!
Job handlers, and the two ways a scheduled job is handed to them.
-/

set_option autoImplicit false

namespace AutomationHub.Jobs

open Foundation Model Database Services

/-- A `ConcurrencyError` of the escalation counts as success. -/
def handleEscalateStage (stageId : UUID) : Service Bool :=
  tryCatch (do
      let _ ← escalateStage stageId
      return true)
    fun error =>
      match error with
      | .concurrency _ => return true
      | other => throw other

def handleSendReminder (recipientId requestId : UUID) (message : String) : Service Bool := do
  let _ ← notifyReminder none recipientId requestId message
  return true

/-- The handler registered for a task. -/
def handle : TaskPayload → Service Bool
  | .escalateStage stageId => handleEscalateStage stageId
  | .sendReminder recipientId requestId message => handleSendReminder recipientId requestId message

/-- `JobService` records the job for a worker; `SynchronousJobDispatcher` runs its handler at once. -/
inductive JobDispatcher where
  | queued
  | synchronous
deriving DecidableEq

def JobDispatcher.enqueue (dispatcher : JobDispatcher) (queueName : String) (payload : TaskPayload)
    (priority : JobPriority) (maxAttempts : Nat) (requestId : UUID) : Service Unit :=
  match dispatcher with
  | .queued => do
      let _ ← orRaise (.enqueueJob queueName payload priority maxAttempts (some requestId))
      return ()
  | .synchronous =>
      tryCatch (do
          let _ ← handle payload
          return ())
        fun _ => log .synchronousExecutionFailed

/-- One execution of a job by a worker, whatever its handler raises. -/
def executeJob (payload : TaskPayload) : Service Unit :=
  tryCatch (do
      let _ ← handle payload
      return ())
    fun _ => log (.jobFailed "worker")

end AutomationHub.Jobs
