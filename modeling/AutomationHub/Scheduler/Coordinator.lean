import AutomationHub.Foundation.Leases
import AutomationHub.Foundation.Pool
import AutomationHub.Model.Basic

/-!
The scheduler coordinators of the instances: the registry of jobs, what the
backend holds, the statistics and the locks of each job.

The instances share a lock server; everything else is each instance's own.
-/

set_option autoImplicit false

namespace AutomationHub.Scheduler

open Foundation Model

/-- One job on one instance. -/
structure Site where
  host : Nat
  job : String
deriving DecidableEq

/-- What a lock is held under: the identifier made for one acquisition, or that of an instance. -/
inductive Token where
  | acquisition (number : Nat)
  | holder (host : Nat)
deriving DecidableEq

abbrev LockServer := LeaseService String Token

structure JobRegistration where
  name : String
  intervalSeconds : Nat
  enabled : Bool

structure JobStatistics where
  runCount : Nat
  successCount : Nat
  failureCount : Nat
  skippedOverlapCount : Nat
  skippedNotLeaderCount : Nat
  skippedDistributedLockCount : Nat
  currentlyRunning : Bool
  lastStartedAt : Option Datetime
  lastFinishedAt : Option Datetime
  lastDuration : Option Nat
  lastError : Option String

structure ExecutionResult where
  startedAt : Datetime
  finishedAt : Datetime
  success : Bool
  errorMessage : Option String
deriving DecidableEq

/-- A lock object: that of one process only, or one on the server with its lifetime and the token it was acquired under. -/
inductive DistributedLock where
  | null
  | redis (ttl : Nat) (token : Option Token)

structure Coordinator where
  elects : Bool
  jobLockTtl : Option Nat
  registrations : List JobRegistration
  running : Bool
  scheduled : List (String × Nat)
  statistics : String → Option JobStatistics
  locks : String → Option Bool
  distributedLocks : String → Option DistributedLock
  isLeader : Bool
  leaderLockTtl : Nat
  leaderToken : Option Token

inductive SchedulerFault where
  | registration (jobName reason : String)
  | startup (message : String)
  | lock
  | redis
  | killed
deriving DecidableEq

inductive Operation where
  | register (name : String) (defaultIntervalSeconds : Nat) (intervalSeconds : Option Nat) (enabled : Bool)
  | start (backendFails : Option String)
  | enable (name : String)
  | disable (name : String)
deriving DecidableEq

def JobStatistics.initial : JobStatistics where
  runCount := 0
  successCount := 0
  failureCount := 0
  skippedOverlapCount := 0
  skippedNotLeaderCount := 0
  skippedDistributedLockCount := 0
  currentlyRunning := false
  lastStartedAt := none
  lastFinishedAt := none
  lastDuration := none
  lastError := none

namespace Coordinator

/-- A coordinator without jobs, whose backend is not started. -/
def initial (elects : Bool) (jobLockTtl : Option Nat) (leaderLockTtl : Nat) (isLeader : Bool) : Coordinator where
  elects
  jobLockTtl
  registrations := []
  running := false
  scheduled := []
  statistics := fun _ => none
  locks := fun _ => none
  distributedLocks := fun _ => none
  isLeader
  leaderLockTtl
  leaderToken := none

def isRegistered (coordinator : Coordinator) (name : String) : Bool :=
  coordinator.registrations.any fun registration => registration.name == name

def isEnabled (coordinator : Coordinator) (name : String) : Bool :=
  coordinator.registrations.any fun registration => registration.name == name && registration.enabled

def isScheduled (coordinator : Coordinator) (name : String) : Bool :=
  coordinator.scheduled.any fun entry => entry.1 == name

/-- `SchedulerBackend.add_job`, which replaces a job of the same name. -/
def addJob (coordinator : Coordinator) (name : String) (intervalSeconds : Nat) : Coordinator :=
  { coordinator with
    scheduled := coordinator.scheduled.filter (fun entry => entry.1 != name) ++ [(name, intervalSeconds)] }

def setEnabled (coordinator : Coordinator) (name : String) (enabled : Bool) : Coordinator :=
  { coordinator with
    registrations := coordinator.registrations.map fun registration =>
      if registration.name = name then { registration with enabled } else registration }

def notRegistered (name : String) : SchedulerFault := .registration name "no job with this name is registered."

/-- `register_job`. -/
def registerJob (coordinator : Coordinator) (name : String) (defaultIntervalSeconds : Nat)
    (intervalSeconds : Option Nat) (enabled : Bool) : Except SchedulerFault Unit × Coordinator :=
  if coordinator.isRegistered name then
    (.error (.registration name "a job with this name is already registered."), coordinator)
  else
    let resolvedInterval := intervalSeconds.getD defaultIntervalSeconds
    let registered := { coordinator with
      registrations := coordinator.registrations ++ [{ name, intervalSeconds := resolvedInterval, enabled }]
      statistics := Function.update coordinator.statistics name (some JobStatistics.initial)
      locks := Function.update coordinator.locks name (some false)
      distributedLocks := Function.update coordinator.distributedLocks name
        (some (match coordinator.jobLockTtl with
          | none => .null
          | some ttl => .redis ttl none)) }
    (.ok (), if registered.running && enabled then registered.addJob name resolvedInterval else registered)

/-- `start`; a backend that is running already refuses to start. -/
def start (coordinator : Coordinator) (backendFails : Option String) : Except SchedulerFault Unit × Coordinator :=
  let added := (coordinator.registrations.filter JobRegistration.enabled).foldl
    (fun added registration => added.addJob registration.name registration.intervalSeconds) coordinator
  if coordinator.running then (.error (.startup "Scheduler is already running"), added)
  else match backendFails with
    | some message => (.error (.startup message), added)
    | none => (.ok (), { added with running := true })

def operate (coordinator : Coordinator) : Operation → Except SchedulerFault Unit × Coordinator
  | .register name defaultIntervalSeconds intervalSeconds enabled =>
      coordinator.registerJob name defaultIntervalSeconds intervalSeconds enabled
  | .start backendFails => coordinator.start backendFails
  | .enable name =>
      if coordinator.isRegistered name then (.ok (), coordinator.setEnabled name true)
      else (.error (notRegistered name), coordinator)
  | .disable name =>
      if coordinator.isRegistered name then (.ok (), coordinator.setEnabled name false)
      else (.error (notRegistered name), coordinator)

def updateStatistics (coordinator : Coordinator) (job : String) (change : JobStatistics → JobStatistics) : Coordinator :=
  { coordinator with
    statistics := Function.update coordinator.statistics job ((coordinator.statistics job).map change) }

def setLock (coordinator : Coordinator) (job : String) (held : Bool) : Coordinator :=
  { coordinator with locks := Function.update coordinator.locks job (some held) }

def setToken (coordinator : Coordinator) (job : String) (ttl : Nat) (token : Option Token) : Coordinator :=
  { coordinator with
    distributedLocks := Function.update coordinator.distributedLocks job (some (.redis ttl token)) }

end Coordinator

namespace JobStatistics

def skipNotLeader (statistics : JobStatistics) : JobStatistics :=
  { statistics with skippedNotLeaderCount := statistics.skippedNotLeaderCount + 1 }

def skipOverlap (statistics : JobStatistics) : JobStatistics :=
  { statistics with skippedOverlapCount := statistics.skippedOverlapCount + 1 }

def skipDistributedLock (statistics : JobStatistics) : JobStatistics :=
  { statistics with skippedDistributedLockCount := statistics.skippedDistributedLockCount + 1 }

def setRunning (currentlyRunning : Bool) (statistics : JobStatistics) : JobStatistics :=
  { statistics with currentlyRunning }

def record (result : ExecutionResult) (statistics : JobStatistics) : JobStatistics :=
  { statistics with
    runCount := statistics.runCount + 1
    successCount := if result.success then statistics.successCount + 1 else statistics.successCount
    failureCount := if result.success then statistics.failureCount else statistics.failureCount + 1
    lastError := if result.success then none else result.errorMessage
    lastStartedAt := some result.startedAt
    lastFinishedAt := some result.finishedAt
    lastDuration := some (result.finishedAt - result.startedAt) }

end JobStatistics

/-- The lock object of a job, or that of the election. -/
inductive Slot where
  | job (name : String)
  | leader
deriving DecidableEq

def Slot.key : Slot → String
  | .job name => "eah:scheduler:job-lock:" ++ name
  | .leader => "eah:scheduler:leader"

/-- What the surroundings choose at one instant. -/
structure SchedulerChance where
  now : Datetime
  mistaken : Bool
  outcome : ExecutionResult

structure Cluster (server : LockServer) where
  chance : Nat → SchedulerChance
  ticks : Nat
  store : server.Store
  acquisitions : Nat
  coordinators : Nat → Coordinator

inductive SchedulerCall where
  | operate (host : Nat) (operation : Operation)
  | fire (site : Site)
  | requireJob (site : Site)
  | leaderCheck (host : Nat)
  | skipNotLeader (site : Site)
  | findLock (site : Site)
  | tryLock (site : Site)
  | skipOverlap (site : Site)
  | acquire (host : Nat) (slot : Slot)
  | release (host : Nat) (slot : Slot)
  | extend (host : Nat) (slot : Slot) (ttl : Nat)
  | skipDistributedLock (site : Site)
  | setRunning (site : Site) (currentlyRunning : Bool)
  | startJob (site : Site)
  | finishJob (site : Site)
  | record (site : Site) (result : ExecutionResult)
  | unlock (site : Site)
  | readLeader (host : Nat)
  | writeLeader (host : Nat) (isLeader : Bool)
deriving DecidableEq

@[reducible] def SchedulerCall.Result : SchedulerCall → Type
  | .fire _ | .leaderCheck _ | .findLock _ | .tryLock _ | .acquire .. | .extend .. | .readLeader _ => Bool
  | .finishJob _ => ExecutionResult
  | _ => Unit

/-- The faults that strike a call from outside: the server does not answer, or the process ends. -/
def SchedulerCall.struck : SchedulerCall → SchedulerFault → Bool
  | _, .killed => true
  | .acquire .., .redis | .release .., .redis | .extend .., .redis => true
  | _, _ => false

abbrev schedulerSignature : Signature := ⟨SchedulerCall, fun call => Except SchedulerFault call.Result⟩

namespace Cluster

variable {server : LockServer}

def now (state : Cluster server) : Datetime := (state.chance state.ticks).now

def tick (state : Cluster server) : Cluster server := { state with ticks := state.ticks + 1 }

def setCoordinator (state : Cluster server) (host : Nat) (coordinator : Coordinator) : Cluster server :=
  { state with coordinators := Function.update state.coordinators host coordinator }

def updateStatistics (state : Cluster server) (site : Site) (change : JobStatistics → JobStatistics) : Cluster server :=
  state.setCoordinator site.host ((state.coordinators site.host).updateStatistics site.job change)

def acquire (state : Cluster server) (host : Nat) : Slot → Except SchedulerFault Bool × Cluster server
  | .job name =>
      match (state.coordinators host).distributedLocks name with
      | none | some .null => (.ok true, state)
      | some (.redis ttl _) =>
          let token := Token.acquisition state.acquisitions
          let (granted, store) := server.grant state.store state.now (Slot.job name).key token ttl
          let asked := { state with store, acquisitions := state.acquisitions + 1 }
          (.ok granted,
            if granted then asked.setCoordinator host ((state.coordinators host).setToken name ttl (some token))
            else asked)
  | .leader =>
      let token := Token.holder host
      let (granted, store) :=
        server.grant state.store state.now Slot.leader.key token (state.coordinators host).leaderLockTtl
      let asked := { state with store }
      (.ok granted,
        if granted then asked.setCoordinator host { state.coordinators host with leaderToken := some token } else asked)

def release (state : Cluster server) (host : Nat) : Slot → Except SchedulerFault Unit × Cluster server
  | .job name =>
      match (state.coordinators host).distributedLocks name with
      | none | some .null => (.ok (), state)
      | some (.redis _ none) => (.error .lock, state)
      | some (.redis ttl (some token)) =>
          let (released, store) := server.release state.store state.now (Slot.job name).key token
          (if released then .ok () else .error .lock,
            { state with store }.setCoordinator host ((state.coordinators host).setToken name ttl none))
  | .leader =>
      match (state.coordinators host).leaderToken with
      | none => (.error .lock, state)
      | some token =>
          let (released, store) := server.release state.store state.now Slot.leader.key token
          (if released then .ok () else .error .lock,
            { state with store }.setCoordinator host { state.coordinators host with leaderToken := none })

/-- Only the election extends its lock. -/
def extend (state : Cluster server) (host : Nat) (slot : Slot) (ttl : Nat) :
    Except SchedulerFault Bool × Cluster server :=
  match slot, (state.coordinators host).leaderToken with
  | .leader, some token =>
      let (extended, store) := server.extend state.store state.now Slot.leader.key token ttl
      (if extended then .ok true else .error .lock, { state with store })
  | _, _ => (.error .lock, state)

/-- `_tick`, `_run` and the operators act through these calls. -/
def execute (state : Cluster server) : (call : SchedulerCall) → Except SchedulerFault call.Result × Cluster server
  | .operate host operation =>
      let (reply, coordinator) := (state.coordinators host).operate operation
      (reply, state.setCoordinator host coordinator)
  | .fire site =>
      (.ok ((state.coordinators site.host).running && (state.coordinators site.host).isScheduled site.job), state)
  | .requireJob site =>
      (if (state.coordinators site.host).isRegistered site.job then .ok () else .error (Coordinator.notRegistered site.job),
        state)
  | .leaderCheck host =>
      (.ok (!(state.coordinators host).elects ||
        (state.coordinators host).isLeader != (state.chance state.ticks).mistaken), state)
  | .skipNotLeader site => (.ok (), state.updateStatistics site JobStatistics.skipNotLeader)
  | .findLock site => (.ok ((state.coordinators site.host).locks site.job).isSome, state)
  | .tryLock site =>
      (.ok ((state.coordinators site.host).locks site.job == some false),
        if (state.coordinators site.host).locks site.job == some false then
          state.setCoordinator site.host ((state.coordinators site.host).setLock site.job true)
        else state)
  | .skipOverlap site => (.ok (), state.updateStatistics site JobStatistics.skipOverlap)
  | .acquire host slot => state.acquire host slot
  | .release host slot => state.release host slot
  | .extend host slot ttl => state.extend host slot ttl
  | .skipDistributedLock site => (.ok (), state.updateStatistics site JobStatistics.skipDistributedLock)
  | .setRunning site currentlyRunning => (.ok (), state.updateStatistics site (JobStatistics.setRunning currentlyRunning))
  | .startJob _ => (.ok (), state)
  | .finishJob _ => (.ok (state.chance state.ticks).outcome, state)
  | .record site result => (.ok (), state.updateStatistics site (JobStatistics.record result))
  | .unlock site => (.ok (), state.setCoordinator site.host ((state.coordinators site.host).setLock site.job false))
  | .readLeader host => (.ok (state.coordinators host).isLeader, state)
  | .writeLeader host isLeader => (.ok (), state.setCoordinator host { state.coordinators host with isLeader })

/-- What a call that fails leaves on its own instance: a lock object that tried to release has given its token up. -/
def failed (state : Cluster server) : SchedulerCall → Cluster server
  | .acquire _ (.job _) => { state with acquisitions := state.acquisitions + 1 }
  | .release host (.job name) =>
      match (state.coordinators host).distributedLocks name with
      | some (.redis ttl _) => state.setCoordinator host ((state.coordinators host).setToken name ttl none)
      | _ => state
  | .release host .leader => state.setCoordinator host { state.coordinators host with leaderToken := none }
  | _ => state

end Cluster

/-- The surroundings of the schedulers: each call is made at an instant of its own. -/
def schedulerEnvironment {server : LockServer} : Handler schedulerSignature (Cluster server) := fun call state =>
  ((state.execute call).1, (state.execute call).2.tick)

end AutomationHub.Scheduler
