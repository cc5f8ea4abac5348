import AutomationHub.Jobs.Backlog

/-!
The processes that act on the jobs: producers, workers with their promoter
thread, the stuck-job reaper and the administrators' retry.
-/

set_option autoImplicit false

namespace AutomationHub.Jobs

open Foundation Model Database Program

def utcNow : JobProgram Datetime := perform .utcNow

/-- `backoff.compute_delay_seconds`, in microseconds: at most `min(3600, 30 * 2 ** attempts)` seconds. -/
def delayCeiling (attempts : Nat) : Nat :=
  min 3600 (30 * 2 ^ attempts) * 1000000

def computeDelay (attempts : Nat) : JobProgram Nat := perform (.uniform (delayCeiling attempts))

/-- What `JobService.enqueue` is asked for. -/
structure EnqueueRequest where
  taskType : String
  queueName : String
  payload : List (String × String)
  priority : JobPriority
  maxAttempts : Option Nat
  scheduledFor : Option Datetime
  requestId : Option UUID
  actorId : Option UUID

/-- `JobService.enqueue`; a push that fails is only logged. -/
def enqueue (defaultMaxAttempts : Nat) (request : EnqueueRequest) : JobProgram JobRecord := do
  let job : JobRecord ← perform (.createJob request.taskType request.queueName request.priority request.payload
    (request.maxAttempts.getD defaultMaxAttempts) request.scheduledFor request.requestId request.actorId)
  exceptException
    (match request.scheduledFor with
      | none => perform (.pushReady request.queueName request.priority job.id)
      | some readyAt => perform (.pushDelayed request.queueName request.priority job.id readyAt))
    fun _ => return ()
  return job

/-- The keys of `TASK_HANDLERS`. -/
def registeredTasks : List String := ["send_email", "send_invitation_email", "escalate_stage", "send_reminder"]

/-- The outcome of the handler of a job, and the message of what it raised. -/
def runHandler (job : JobRecord) : JobProgram (Bool × Option String) :=
  if job.taskType ∈ registeredTasks then do
    perform (.startHandler job.id)
    let outcome : HandlerOutcome ← perform (.awaitHandler job.id)
    match outcome with
    | .returned success => return (success, none)
    | .raised message => return (false, some message)
  else return (false, some ("No handler registered for task_type '" ++ job.taskType ++ "'."))

/-- Record a failed attempt: schedule the next one, or give the job up. -/
def retryOrDeadLetter (job : JobRecord) (error : String) : JobProgram Unit := do
  let newAttempts := job.attempts + 1
  if newAttempts < job.maxAttempts then do
    let delay ← computeDelay newAttempts
    let now ← utcNow
    let nextAttemptAt := now + delay
    let _ ← perform (.markFailedWillRetry job.id job.version newAttempts error job.errorHistory nextAttemptAt)
    perform (.pushDelayed job.queueName job.priority job.id nextAttemptAt)
  else do
    let _ ← perform (.markDeadLettered job.id job.version newAttempts error job.errorHistory)
    return ()

/-- `_process_one`. -/
def processOne (hostname : String) (jobId : UUID) : JobProgram Unit := do
  let fetched : Option JobRecord ← exceptException (some <$> perform (.getJob jobId)) fun _ => return none
  match fetched with
  | none => return ()
  | some fetched => do
      let job : JobRecord ← perform (.markRunning fetched.id fetched.version hostname)
      let (outcome, errorMessage) ← runHandler job
      if outcome then do
        let _ ← perform (.markSucceeded job.id job.version)
        return ()
      else retryOrDeadLetter job (errorMessage.getD "handler reported failure")

def priorityReversalInterval : Nat := 8

def priorityOrder (iteration : Nat) : List JobPriority :=
  if iteration % priorityReversalInterval = 0 then [.low, .normal, .high] else [.high, .normal, .low]

/-- The main loop of `run`, for at most so many iterations. -/
def workerLoop (hostname : String) (queueNames : List String) (iteration : Nat) : Nat → JobProgram Unit
  | 0 => return ()
  | remaining + 1 => do
      let shutdown : Bool ← perform .shutdownRequested
      if shutdown then return ()
      else do
        perform (.recordHeartbeat hostname)
        let jobId : Option UUID ← perform (.dequeue queueNames (priorityOrder iteration))
        match jobId with
        | none => workerLoop hostname queueNames (iteration + 1) remaining
        | some jobId => do
            processOne hostname jobId
            workerLoop hostname queueNames (iteration + 1) remaining

/-- One round of the promoter thread; a queue that fails is only logged. -/
def promoteAll : List String → JobProgram Unit
  | [] => return ()
  | queueName :: rest => do
      exceptException
        (do
          let now ← utcNow
          let _ ← perform (.promoteDue queueName now)
          return ())
        fun _ => return ()
      promoteAll rest

/-- The promoter thread, for at most so many rounds. -/
def promoterLoop (queueNames : List String) : Nat → JobProgram Unit
  | 0 => return ()
  | remaining + 1 => do
      let shutdown : Bool ← perform .shutdownRequested
      if shutdown then return ()
      else do
        promoteAll queueNames
        promoterLoop queueNames remaining

def recoveryErrorMessage : String :=
  "Recovered by StuckJobReaperJob: job made no progress within the stuck threshold."

/-- `StuckJobReaperJob._recover`; losing to a live worker is no failure. -/
def recover (job : JobRecord) : JobProgram Unit :=
  tryCatch (retryOrDeadLetter job recoveryErrorMessage) fun
    | .database (.concurrentUpdate ..) => return ()
    | fault => .raised fault

/-- `run_over_items`: an item that fails does not stop the others. -/
def recoverAll : List JobRecord → JobProgram Unit
  | [] => return ()
  | job :: rest => do
      exceptException (recover job) fun _ => return ()
      recoverAll rest

/-- `StuckJobReaperJob.run`, with its threshold in microseconds. -/
def runReaper (threshold : Nat) : JobProgram Unit :=
  exceptException
    (do
      let now ← utcNow
      let running : List JobRecord ← perform (.listStuckRunning (now - threshold))
      let queued : List JobRecord ← perform (.listStuckQueued (now - threshold))
      recoverAll (running ++ queued))
    fun _ => return ()

/-- `POST /admin/jobs/{id}/retry`. -/
def retryJob (role : UserRole) (userId jobId : UUID) : JobProgram JobRecord :=
  if role ≠ .admin then throw (.app (.auth (.roleNotPermitted role [.admin])))
  else do
    let job : JobRecord ← translated (.getJob jobId)
    if job.status ≠ .deadLettered then
      throw (.app (.validation ("Job " ++ toString jobId ++ " is not dead-lettered (current status: '" ++ job.status.value
        ++ "'); only a dead-lettered job can be retried.")))
    else do
      let retried : JobRecord ← translated (.retryDeadLetter jobId job.version)
      perform (.pushReady retried.queueName retried.priority retried.id)
      perform (.recordJobRetried userId retried.requestId jobId retried.taskType)
      return retried
where
  translated (call : JobCall) : JobProgram call.Result :=
    tryCatch (perform call) fun
      | .database error => throw (.app (translateDatabaseError error))
      | fault => throw fault

/-- A process, or one run of it. -/
inductive JobProcess where
  | producer (defaultMaxAttempts : Nat) (request : EnqueueRequest)
  | worker (hostname : String) (queueNames : List String) (iterations : Nat)
  | promoter (queueNames : List String) (rounds : Nat)
  | reaper (threshold : Nat)
  | administrator (role : UserRole) (userId jobId : UUID)

def JobProcess.program : JobProcess → JobProgram Unit
  | .producer defaultMaxAttempts request => do
      let _ ← enqueue defaultMaxAttempts request
      return ()
  | .worker hostname queueNames iterations => workerLoop hostname queueNames 0 iterations
  | .promoter queueNames rounds => promoterLoop queueNames rounds
  | .reaper threshold => runReaper threshold
  | .administrator role userId jobId => do
      let _ ← retryJob role userId jobId
      return ()

end AutomationHub.Jobs
