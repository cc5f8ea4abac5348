import AutomationHub.Database.RepositoryProperties
import AutomationHub.Foundation.Pool

/-!
The `jobs` table and the Redis structures that point into it, and the calls made
on them by producers, workers, the reaper and the administrators.

Any call may raise; a killed process raises where no `except Exception` catches.
-/

set_option autoImplicit false

namespace AutomationHub.Jobs

open Foundation Model Database Table

/-- What a worker pops from a ready list. -/
structure Envelope where
  jobId : UUID
  priority : JobPriority
deriving DecidableEq

inductive HandlerOutcome where
  | returned (success : Bool)
  | raised (message : String)
deriving DecidableEq

/-- What the surroundings choose at one instant. -/
structure Chance where
  now : Datetime
  jitter : Nat
  outcome : HandlerOutcome
  shutdown : Bool

/-- The store of the job system: the table, the ready lists and the delayed sets. -/
structure JobSystem where
  chance : Nat → Chance
  ticks : Nat
  jobs : Table JobRecord
  ready : String × JobPriority → List Envelope
  delayed : String → List (Envelope × Datetime)

inductive JobFault where
  | database (error : DatabaseError)
  | redis (message : String)
  | app (error : AppError)
  | killed
deriving DecidableEq

inductive JobCall where
  | utcNow
  | uniform (ceiling : Nat)
  | shutdownRequested
  | recordHeartbeat (hostname : String)
  | dequeue (queueNames : List String) (priorityOrder : List JobPriority)
  | pushReady (queueName : String) (priority : JobPriority) (jobId : UUID)
  | pushDelayed (queueName : String) (priority : JobPriority) (jobId : UUID) (readyAt : Datetime)
  | promoteDue (queueName : String) (now : Datetime)
  | getJob (jobId : UUID)
  | createJob (taskType queueName : String) (priority : JobPriority) (payload : List (String × String))
      (maxAttempts : Nat) (scheduledFor : Option Datetime) (requestId actorId : Option UUID)
  | markRunning (jobId : UUID) (expectedVersion : Nat) (lockedBy : String)
  | markSucceeded (jobId : UUID) (expectedVersion : Nat)
  | markFailedWillRetry (jobId : UUID) (expectedVersion attempts : Nat) (error : String)
      (currentErrorHistory : List JobFailure) (nextAttemptScheduledFor : Datetime)
  | markDeadLettered (jobId : UUID) (expectedVersion attempts : Nat) (error : String)
      (currentErrorHistory : List JobFailure)
  | retryDeadLetter (jobId : UUID) (expectedVersion : Nat)
  | listStuckRunning (olderThan : Datetime)
  | listStuckQueued (olderThan : Datetime)
  | recordJobRetried (actorId : UUID) (requestId : Option UUID) (jobId : UUID) (taskType : String)
  | startHandler (jobId : UUID)
  | awaitHandler (jobId : UUID)
deriving DecidableEq

@[reducible] def JobCall.Result : JobCall → Type
  | .utcNow => Datetime
  | .uniform _ | .promoteDue .. => Nat
  | .shutdownRequested => Bool
  | .dequeue .. => Option UUID
  | .getJob _ | .createJob .. | .markRunning .. | .markSucceeded .. | .markFailedWillRetry .. | .markDeadLettered ..
  | .retryDeadLetter .. => JobRecord
  | .listStuckRunning _ | .listStuckQueued _ => List JobRecord
  | .recordHeartbeat _ | .pushReady .. | .pushDelayed .. | .recordJobRetried .. | .startHandler _ => Unit
  | .awaitHandler _ => HandlerOutcome

/-- What a call may raise: any call may be the last of a killed process. -/
def JobCall.mayRaise : JobCall → JobFault → Bool
  | _, .killed => true
  | .recordHeartbeat _, .redis _ | .dequeue .., .redis _ | .pushReady .., .redis _ | .pushDelayed .., .redis _
  | .promoteDue .., .redis _ => true
  | .getJob _, .database _ | .createJob .., .database _ | .markRunning .., .database _ | .markSucceeded .., .database _
  | .markFailedWillRetry .., .database _ | .markDeadLettered .., .database _ | .retryDeadLetter .., .database _
  | .listStuckRunning _, .database _ | .listStuckQueued _, .database _ | .recordJobRetried .., .database _ => true
  | _, _ => false

abbrev jobSignature : Signature := ⟨JobCall, fun call => Except JobFault call.Result⟩

abbrev JobProgram (α : Type) := Program jobSignature JobFault α

/-- Make one call; a failure is raised. -/
def perform (call : JobCall) : JobProgram call.Result :=
  .call call fun
    | .ok result => .done result
    | .error fault => .raised fault

/-- `try: program except Exception: handle`. -/
def exceptException {α : Type} (program : JobProgram α) (handle : JobFault → JobProgram α) : JobProgram α :=
  tryCatch program fun
    | .killed => .raised .killed
    | fault => handle fault

/-- The most error-history entries retained for one job. -/
def maxErrorHistoryEntries : Nat := 20

/-- `entries[-count:]`. -/
def lastEntries {α : Type} (count : Nat) (entries : List α) : List α :=
  entries.drop (entries.length - count)

def appendErrorHistory (current : List JobFailure) (entry : JobFailure) : List JobFailure :=
  lastEntries maxErrorHistoryEntries (current ++ [entry])

def runningEdit (now : Datetime) (lockedBy : String) : Edit JobRecord where
  apply := fun job => { job with status := .running, startedAt := some now, lockedBy := some lockedBy }
  key_apply := fun _ => rfl

def succeededEdit (now : Datetime) : Edit JobRecord where
  apply := fun job => { job with status := .succeeded, finishedAt := some now }
  key_apply := fun _ => rfl

def failedEdit (now : Datetime) (attempts : Nat) (error : String) (currentErrorHistory : List JobFailure)
    (nextAttemptScheduledFor : Datetime) : Edit JobRecord where
  apply := fun job =>
    { job with
      status := .retrying, attempts, lastError := some error,
      errorHistory := appendErrorHistory currentErrorHistory { attempt := attempts, error, failedAt := now },
      scheduledFor := some nextAttemptScheduledFor, finishedAt := some now }
  key_apply := fun _ => rfl

def deadLetteredEdit (now : Datetime) (attempts : Nat) (error : String) (currentErrorHistory : List JobFailure) :
    Edit JobRecord where
  apply := fun job =>
    { job with
      status := .deadLettered, attempts, lastError := some error,
      errorHistory := appendErrorHistory currentErrorHistory { attempt := attempts, error, failedAt := now },
      finishedAt := some now }
  key_apply := fun _ => rfl

def retryEdit : Edit JobRecord where
  apply := fun job =>
    { job with
      status := .queued, attempts := 0, lastError := none, scheduledFor := none, lockedBy := none, finishedAt := none }
  key_apply := fun _ => rfl

def newJob (now : Datetime) (taskType queueName : String) (priority : JobPriority) (payload : List (String × String))
    (maxAttempts : Nat) (scheduledFor : Option Datetime) (requestId actorId : Option UUID) : Draft JobRecord where
  build := fun id =>
    { id, taskType, queueName, priority, status := .queued, payload, attempts := 0, maxAttempts, lastError := none,
      errorHistory := [], scheduledFor, startedAt := none, finishedAt := none, lockedBy := none, requestId, actorId,
      version := 1, createdAt := now }
  key_build := fun _ => rfl

namespace JobSystem

def now (state : JobSystem) : Datetime := (state.chance state.ticks).now

def tick (state : JobSystem) : JobSystem := { state with ticks := state.ticks + 1 }

/-- The check `jobs_attempts_check`. -/
def attemptsCheck (job : JobRecord) : Option String :=
  World.firstViolated [("check", job.attempts ≤ job.maxAttempts)]

def updateJob (state : JobSystem) (jobId : UUID) (expectedVersion : Nat) (edit : Edit JobRecord) :
    Except JobFault JobRecord × JobSystem :=
  let (reply, jobs) := updateWithOptimisticLock "jobs" state.jobs jobId expectedVersion edit attemptsCheck
  (reply.mapError .database, { state with jobs })

def stuckRunning (olderThan : Datetime) (job : JobRecord) : Bool :=
  job.status == .running && job.startedAt.any fun startedAt => startedAt < olderThan

def stuckQueued (olderThan : Datetime) (job : JobRecord) : Bool :=
  job.status == .queued && job.scheduledFor.isNone && job.createdAt < olderThan

/-- The first listed key whose list is not empty. -/
def firstReady (state : JobSystem) (queueNames : List String) (priorityOrder : List JobPriority) :
    Option (String × JobPriority) :=
  (priorityOrder.flatMap fun priority => queueNames.map fun queueName => (queueName, priority)).find? fun key =>
    !(state.ready key).isEmpty

/-- `BRPOP`. -/
def dequeue (state : JobSystem) (queueNames : List String) (priorityOrder : List JobPriority) :
    Option UUID × JobSystem :=
  match state.firstReady queueNames priorityOrder with
  | none => (none, state)
  | some key =>
      (((state.ready key).getLast?).map Envelope.jobId,
        { state with ready := Function.update state.ready key (state.ready key).dropLast })

/-- `LPUSH`. -/
def pushReady (state : JobSystem) (queueName : String) (envelope : Envelope) : JobSystem :=
  { state with
    ready := Function.update state.ready (queueName, envelope.priority)
      (envelope :: state.ready (queueName, envelope.priority)) }

/-- `ZADD`: a member already in the set takes the new score. -/
def pushDelayed (state : JobSystem) (queueName : String) (envelope : Envelope) (readyAt : Datetime) : JobSystem :=
  { state with
    delayed := Function.update state.delayed queueName
      ((state.delayed queueName).filter (fun entry => entry.1 ≠ envelope) ++ [(envelope, readyAt)]) }

/-- The entries that are due, by score. -/
def dueEntries (state : JobSystem) (queueName : String) (now : Datetime) : List (Envelope × Datetime) :=
  orderBy (fun left right => left.2 ≤ right.2) ((state.delayed queueName).filter fun entry => entry.2 ≤ now)

/-- The script `promote_due`. -/
def promoteDue (state : JobSystem) (queueName : String) (now : Datetime) : Nat × JobSystem :=
  let due := state.dueEntries queueName now
  let kept :=
    { state with
      delayed := Function.update state.delayed queueName
        ((state.delayed queueName).filter fun entry => now < entry.2) }
  (due.length, due.foldl (fun promoted entry => promoted.pushReady queueName entry.1) kept)

def execute (state : JobSystem) : (call : JobCall) → Except JobFault call.Result × JobSystem
  | .utcNow => (.ok state.now, state)
  | .uniform ceiling => (.ok (min (state.chance state.ticks).jitter ceiling), state)
  | .shutdownRequested => (.ok (state.chance state.ticks).shutdown, state)
  | .recordHeartbeat _ => (.ok (), state)
  | .dequeue queueNames priorityOrder =>
      (.ok (state.dequeue queueNames priorityOrder).1, (state.dequeue queueNames priorityOrder).2)
  | .pushReady queueName priority jobId => (.ok (), state.pushReady queueName { jobId, priority })
  | .pushDelayed queueName priority jobId readyAt => (.ok (), state.pushDelayed queueName { jobId, priority } readyAt)
  | .promoteDue queueName now => (.ok (state.promoteDue queueName now).1, (state.promoteDue queueName now).2)
  | .getJob jobId => ((getById "jobs" state.jobs jobId).mapError .database, state)
  | .createJob taskType queueName priority payload maxAttempts scheduledFor requestId actorId =>
      let draft := newJob state.now taskType queueName priority payload maxAttempts scheduledFor requestId actorId
      let (reply, jobs) := insertRow "jobs" state.jobs draft attemptsCheck
      (reply.mapError .database, { state with jobs })
  | .markRunning jobId expectedVersion lockedBy =>
      state.updateJob jobId expectedVersion (runningEdit state.now lockedBy)
  | .markSucceeded jobId expectedVersion => state.updateJob jobId expectedVersion (succeededEdit state.now)
  | .markFailedWillRetry jobId expectedVersion attempts error currentErrorHistory nextAttemptScheduledFor =>
      state.updateJob jobId expectedVersion
        (failedEdit state.now attempts error currentErrorHistory nextAttemptScheduledFor)
  | .markDeadLettered jobId expectedVersion attempts error currentErrorHistory =>
      state.updateJob jobId expectedVersion (deadLetteredEdit state.now attempts error currentErrorHistory)
  | .retryDeadLetter jobId expectedVersion => state.updateJob jobId expectedVersion retryEdit
  | .listStuckRunning olderThan =>
      (.ok (orderBy (fun left right => left.startedAt.getD 0 ≤ right.startedAt.getD 0)
        (state.jobs.rows.filter (stuckRunning olderThan))), state)
  | .listStuckQueued olderThan =>
      (.ok (orderBy (fun left right => left.createdAt ≤ right.createdAt)
        (state.jobs.rows.filter (stuckQueued olderThan))), state)
  | .recordJobRetried .. => (.ok (), state)
  | .startHandler _ => (.ok (), state)
  | .awaitHandler _ => (.ok (state.chance state.ticks).outcome, state)

end JobSystem

/-- The surroundings of the job system: each call is made at an instant of its own. -/
def jobEnvironment : Handler jobSignature JobSystem := fun call state =>
  ((state.execute call).1, (state.execute call).2.tick)

end AutomationHub.Jobs
