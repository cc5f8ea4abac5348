import AutomationHub.Scheduler.Coordinator

/-!
What runs in an instance: the runner of a job, as the backend ticks it or an
operator triggers it, and the election of the leader.
-/

set_option autoImplicit false

namespace AutomationHub.Scheduler

open Foundation Model Program

abbrev SchedulerProgram (α : Type) := Program schedulerSignature SchedulerFault α

/-- Make one call; a failure is raised. -/
def ask (call : SchedulerCall) : SchedulerProgram call.Result :=
  .call call fun
    | .ok result => .done result
    | .error fault => .raised fault

/-- `try: program finally: cleanup`; a process that ends cleans nothing up. -/
def ensuring {α : Type} (program : SchedulerProgram α) (cleanup : SchedulerProgram Unit) : SchedulerProgram α := do
  let result : Except SchedulerFault α ← program.caught
  match result with
  | .error .killed => .raised .killed
  | .error fault => do
      cleanup
      .raised fault
  | .ok value => do
      cleanup
      return value

/-- The value in place of any error but the end of the process. -/
def otherwise {α : Type} (program : SchedulerProgram α) (value : α) : SchedulerProgram α :=
  tryCatch program fun
    | .killed => .raised .killed
    | _ => return value

/-- `RedisDistributedLock.acquire`. -/
def acquireLock (host : Nat) (slot : Slot) : SchedulerProgram Bool :=
  otherwise (ask (.acquire host slot)) false

/-- `RedisDistributedLock.release`. -/
def releaseLock (host : Nat) (slot : Slot) : SchedulerProgram Unit :=
  otherwise (ask (.release host slot)) ()

/-- `RedisDistributedLock.extend`. -/
def extendLock (host : Nat) (slot : Slot) (ttl : Nat) : SchedulerProgram Bool :=
  otherwise (ask (.extend host slot ttl)) false

/-- The job is run, unless it is no longer registered. -/
def performJob (site : Site) : SchedulerProgram Unit := do
  ask (.setRunning site true)
  let registered : Bool ← otherwise (do
    ask (.requireJob site)
    return true) false
  if registered then do
    ask (.startJob site)
    let result : ExecutionResult ← ask (.finishJob site)
    ask (.record site result)
  else return ()

/-- The part of `_run` under the lock of the process. -/
def runLocked (site : Site) : SchedulerProgram Unit := do
  let acquired : Bool ← acquireLock site.host (.job site.job)
  if acquired then
    ensuring (performJob site) do
      ask (.setRunning site false)
      releaseLock site.host (.job site.job)
  else ask (.skipDistributedLock site)

/-- `_run`. -/
def runner (site : Site) : SchedulerProgram Unit := do
  let leads : Bool ← ask (.leaderCheck site.host)
  if leads then do
    let found : Bool ← ask (.findLock site)
    if found then do
      let acquired : Bool ← ask (.tryLock site)
      if acquired then ensuring (runLocked site) (ask (.unlock site))
      else ask (.skipOverlap site)
    else return ()
  else ask (.skipNotLeader site)

/-- A tick of the backend, if it holds the job. -/
def tick (site : Site) : SchedulerProgram Unit := do
  let fires : Bool ← ask (.fire site)
  if fires then runner site else return ()

/-- `trigger_now`. -/
def triggerNow (site : Site) : SchedulerProgram Unit := do
  ask (.requireJob site)
  runner site

/-- `LeaderElection._tick`. -/
def electionTick (host renewalInterval : Nat) : SchedulerProgram Unit := do
  let isLeader : Bool ← ask (.readLeader host)
  if isLeader then do
    let renewed : Bool ← extendLock host .leader (renewalInterval * 3)
    if renewed then return () else ask (.writeLeader host false)
  else do
    let acquired : Bool ← acquireLock host .leader
    if acquired then ask (.writeLeader host true) else return ()

/-- The end of `LeaderElection.stop`. -/
def electionStop (host : Nat) : SchedulerProgram Unit := do
  let isLeader : Bool ← ask (.readLeader host)
  if isLeader then do
    releaseLock host .leader
    ask (.writeLeader host false)
  else return ()

/-- What is done in an instance. -/
inductive SchedulerProcess where
  | operator (host : Nat) (operation : Operation)
  | backend (site : Site)
  | trigger (site : Site)
  | election (host renewalInterval : Nat)
  | resignation (host : Nat)

def SchedulerProcess.program : SchedulerProcess → SchedulerProgram Unit
  | .operator host operation => ask (.operate host operation)
  | .backend site => tick site
  | .trigger site => triggerNow site
  | .election host renewalInterval => electionTick host renewalInterval
  | .resignation host => electionStop host

end AutomationHub.Scheduler
