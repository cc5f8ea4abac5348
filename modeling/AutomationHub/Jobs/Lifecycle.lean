import AutomationHub.Jobs.JobDiscipline

/-!
The life of a job: which changes of its row the processes make together.

Every change is made on the row as the process knows it, since the row has the
version that it knows.
-/

set_option autoImplicit false

namespace AutomationHub.Jobs

open Foundation Model Database Program Table

/-- The faults that strike from outside; a lost race is found out by the statement itself. -/
def JobFault.external : JobFault → Bool
  | .database (.concurrentUpdate ..) => false
  | _ => true

/-- A call takes effect, or fails and changes nothing but the time. -/
def jobStep (state : JobSystem) (call : JobCall) (reply : Except JobFault call.Result) (after : JobSystem) : Prop :=
  jobEnvironment call state = (reply, after) ∨
    ∃ fault, call.mayRaise fault = true ∧ fault.external = true ∧ reply = .error fault ∧ after = state.tick

/-- The system in a run, with what each process has in hand and the failures recorded of each job. -/
structure JobRun (ι : Type) where
  system : JobSystem
  phases : ι → JobPhase
  failures : UUID → List JobFailure

/-- A failure counts as recorded once its statement has taken effect. -/
def noteFailure (now : Datetime) (call : JobCall) (reply : Except JobFault call.Result)
    (failures : UUID → List JobFailure) : UUID → List JobFailure :=
  match call, reply with
  | .markFailedWillRetry jobId _ attempts error _ _, .ok _ | .markDeadLettered jobId _ attempts error _, .ok _ =>
      Function.update failures jobId (failures jobId ++ [{ attempt := attempts, error, failedAt := now }])
  | _, _ => failures

section Runs

variable {ι : Type} [DecidableEq ι]

def processing : Effect jobSignature (JobRun ι) ι := fun thread state call reply after =>
  jobStep state.system call reply after.system ∧
    after.phases = Function.update state.phases thread ((state.phases thread).after call reply) ∧
      after.failures = noteFailure state.system.now call reply state.failures

def launchJobs (processes : ι → JobProcess) (start : JobSystem) : Pool jobSignature JobFault (JobRun ι) ι where
  shared := { system := start, phases := fun _ => JobPhase.idle, failures := fun _ => [] }
  threads := fun thread => (processes thread).program

end Runs

/-- What a process remembers of rows: it read them, and those it works on or recovers were then running or queued. -/
structure Remembers (jobs : Table JobRecord) (phase : JobPhase) : Prop where
  fetched : ∀ row, phase.stage = .fetched row → Seen jobs row
  started : ∀ row, phase.stage = .marked row ∨ phase.stage = .executing row ∨ phase.stage = .executed row →
    Seen jobs row ∧ row.status = .running
  listed : ∀ row ∈ phase.listed, Seen jobs row ∧ (row.status = .running ∨ row.status = .queued)
  inspected : ∀ row, phase.inspected = some row → Seen jobs row

/-- The changes of the row of a job that a process makes by a call at an instant. -/
inductive RowChange (phase : JobPhase) (now : Datetime) (row : JobRecord) : JobCall → Edit JobRecord → Prop
  | started (lockedBy : String) (fetched : phase.stage = .fetched row) :
      RowChange phase now row (.markRunning row.id row.version lockedBy) (runningEdit now lockedBy)
  | succeeded (executed : phase.stage = .executed row) (running : row.status = .running) :
      RowChange phase now row (.markSucceeded row.id row.version) (succeededEdit now)
  | failed (error : String) (nextAttempt : Datetime) (settles : phase.Settles row)
      (alive : row.status = .running ∨ row.status = .queued) (left : row.attempts + 1 < row.maxAttempts) :
      RowChange phase now row
        (.markFailedWillRetry row.id row.version (row.attempts + 1) error row.errorHistory nextAttempt)
        (failedEdit now (row.attempts + 1) error row.errorHistory nextAttempt)
  | deadLettered (error : String) (settles : phase.Settles row)
      (alive : row.status = .running ∨ row.status = .queued) (spent : row.attempts + 1 = row.maxAttempts) :
      RowChange phase now row (.markDeadLettered row.id row.version (row.attempts + 1) error row.errorHistory)
        (deadLetteredEdit now (row.attempts + 1) error row.errorHistory)
  | retried (inspected : phase.inspected = some row) (dead : row.status = .deadLettered) :
      RowChange phase now row (.retryDeadLetter row.id row.version) retryEdit

/-- When a call puts off the job that it creates. -/
def JobCall.scheduledFor : JobCall → Option Datetime
  | .createJob _ _ _ _ _ scheduledFor _ _ => scheduledFor
  | _ => none

/-- What a call does to the table. -/
inductive JobMove (phase : JobPhase) (state : JobSystem) (call : JobCall) (reply : Except JobFault call.Result)
    (after : JobSystem) : Prop
  | kept (same : after.jobs = state.jobs) (unnoted : ∀ failures, noteFailure state.now call reply failures = failures)
  | created (draft : Draft JobRecord) (inserted : after.jobs = state.jobs.insert draft)
      (fresh : ∀ id, (draft.build id).status = .queued ∧ (draft.build id).attempts = 0 ∧
        (draft.build id).errorHistory = [] ∧ (draft.build id).scheduledFor = call.scheduledFor)
      (named : (phase.after call reply).held = some state.jobs.next)
      (unstaged : (phase.after call reply).stage = .none) (accepted : ∃ result, reply = .ok result)
      (unnoted : ∀ failures, noteFailure state.now call reply failures = failures)
  | changed (row : JobRecord) (edit : Edit JobRecord) (found : state.jobs.find? row.id = some row)
      (change : RowChange phase state.now row call edit) (accepted : ∃ result, reply = .ok result)
      (written : after.jobs = state.jobs.modify row.id (stamped edit row.version))

@[simp] theorem key_job (job : JobRecord) : Keyed.key job = job.id := rfl

@[simp] theorem version_job (job : JobRecord) : Versioned.version job = job.version := rfl

section Steps

variable {phase : JobPhase} {state after : JobSystem}

theorem updateJob_cases {jobId expectedVersion : Nat} {edit : Edit JobRecord} {reply : Except JobFault JobRecord}
    (outcome : state.updateJob jobId expectedVersion edit = (reply, after)) :
    (∃ error, reply = .error (.database error) ∧ after = state) ∨
      ∃ row, state.jobs.find? jobId = some row ∧ row.version = expectedVersion ∧
        JobSystem.attemptsCheck ((stamped edit expectedVersion).apply row) = none ∧
        reply = .ok ((stamped edit expectedVersion).apply row) ∧
        after = { state with jobs := state.jobs.modify jobId (stamped edit expectedVersion) } := by
  unfold JobSystem.updateJob at outcome
  rcases written : updateWithOptimisticLock "jobs" state.jobs jobId expectedVersion edit JobSystem.attemptsCheck
    with ⟨answer, jobs⟩
  rw [written] at outcome
  obtain ⟨rfl, rfl⟩ := Prod.mk.inj outcome
  cases answer with
  | error error =>
      obtain rfl := updateWithOptimisticLock_error written
      exact .inl ⟨error, rfl, rfl⟩
  | ok row =>
      obtain ⟨old, found, current, accepted, rfl, rfl⟩ := updateWithOptimisticLock_ok_iff.mp written
      exact .inr ⟨old, found, current, accepted, rfl, rfl⟩

theorem promoteDue_jobs (queueName : String) (now : Datetime) :
    (state.promoteDue queueName now).2.jobs = state.jobs := by
  have pushed : ∀ (entries : List (Envelope × Datetime)) (start : JobSystem),
      (entries.foldl (fun promoted entry => promoted.pushReady queueName entry.1) start).jobs = start.jobs := by
    intro entries
    induction entries with
    | nil => exact fun _ => rfl
    | cons entry rest recurse => exact fun start => recurse (start.pushReady queueName entry.1)
  exact pushed _ _

theorem dequeue_jobs (queueNames : List String) (priorityOrder : List JobPriority) :
    (state.dequeue queueNames priorityOrder).2.jobs = state.jobs := by
  unfold JobSystem.dequeue
  cases state.firstReady queueNames priorityOrder <;> rfl

/-- The calls that write the row of a job, with the row version they name. -/
def JobCall.writes : JobCall → Option (UUID × Nat)
  | .markRunning jobId expectedVersion _ | .markSucceeded jobId expectedVersion
  | .markFailedWillRetry jobId expectedVersion .. | .markDeadLettered jobId expectedVersion ..
  | .retryDeadLetter jobId expectedVersion => some (jobId, expectedVersion)
  | _ => none

theorem eq_of_seen {row now : JobRecord} (seen : Seen state.jobs row) (found : state.jobs.find? row.id = some now)
    (unchanged : now.version = row.version) : now = row := by
  obtain ⟨member, keyed⟩ := (find?_eq_some_iff ..).mp found
  exact ((seen.later now member keyed).2 unchanged.symm).symm

theorem Remembers.settles {row : JobRecord} (remembers : Remembers state.jobs phase) (settles : phase.Settles row) :
    Seen state.jobs row ∧ (row.status = .running ∨ row.status = .queued) := by
  rcases settles.2 with executed | marked | ⟨-, listed⟩
  · have known := remembers.started row (.inr (.inr executed))
    exact ⟨known.1, .inl known.2⟩
  · have known := remembers.started row (.inl marked)
    exact ⟨known.1, .inl known.2⟩
  · exact remembers.listed row listed

theorem noteFailure_error (now : Datetime) (call : JobCall) (fault : JobFault) (failures : UUID → List JobFailure) :
    noteFailure now call (.error fault) failures = failures := by
  cases call <;> rfl

private theorem changed_of_update {call : JobCall} {reply : Except JobFault call.Result} {jobId expectedVersion : Nat}
    {edit : Edit JobRecord} {answer : Except JobFault JobRecord}
    (same : ∀ result, answer = .ok result → ∃ result, reply = .ok result)
    (failed : ∀ fault, answer = .error fault → ∃ fault, reply = .error fault)
    (outcome : state.updateJob jobId expectedVersion edit = (answer, after))
    (known : ∀ row, state.jobs.find? jobId = some row → row.version = expectedVersion →
      JobSystem.attemptsCheck ((stamped edit expectedVersion).apply row) = none →
      row.id = jobId → RowChange phase state.now row call edit) :
    JobMove phase state call reply after.tick := by
  rcases updateJob_cases outcome with ⟨error, refused, rfl⟩ | ⟨row, found, current, accepted, written, rfl⟩
  · obtain ⟨fault, rfl⟩ := failed _ refused
    exact .kept rfl (noteFailure_error _ _ _)
  · have keyed : row.id = jobId := ((find?_eq_some_iff ..).mp found).2
    have change := known row found current accepted keyed
    subst keyed current
    exact .changed row edit found change (same _ written) rfl

/-- What a call of a process does to the table: it adds a fresh job, or changes a row as the process knows it. -/
theorem jobMove {call : JobCall} {reply : Except JobFault call.Result} (permitted : phase.Permits call)
    (remembers : Remembers state.jobs phase) (stepped : jobStep state call reply after) :
    JobMove phase state call reply after := by
  rcases stepped with outcome | ⟨fault, -, -, rfl, rfl⟩
  · obtain ⟨rfl, rfl⟩ := Prod.mk.inj outcome
    cases call with
    | createJob taskType queueName priority payload maxAttempts scheduledFor requestId actorId =>
        simp only [JobSystem.execute]
        rcases inserted : insertRow "jobs" state.jobs (newJob state.now taskType queueName priority payload maxAttempts
          scheduledFor requestId actorId) JobSystem.attemptsCheck with ⟨answer, jobs⟩
        cases answer with
        | error error =>
            obtain rfl := insertRow_error inserted
            exact .kept rfl fun _ => rfl
        | ok created =>
            obtain ⟨-, rfl, rfl⟩ := insertRow_ok_iff.mp inserted
            exact .created _ rfl (fun _ => ⟨rfl, rfl, rfl, rfl⟩) rfl permitted.stage ⟨_, rfl⟩ fun _ => rfl
    | markRunning jobId expectedVersion lockedBy =>
        obtain ⟨row, fetched, keyed, versioned⟩ := permitted
        subst keyed versioned
        refine changed_of_update (fun _ accepted => ⟨_, accepted⟩) (fun _ refused => ⟨_, refused⟩) rfl ?_
        intro now found unchanged _ _
        obtain rfl := eq_of_seen (remembers.fetched row fetched) found unchanged
        exact .started lockedBy fetched
    | markSucceeded jobId expectedVersion =>
        obtain ⟨-, row, executed, keyed, versioned⟩ := permitted
        subst keyed versioned
        have known := remembers.started row (.inr (.inr executed))
        refine changed_of_update (fun _ accepted => ⟨_, accepted⟩) (fun _ refused => ⟨_, refused⟩) rfl ?_
        intro now found unchanged _ _
        obtain rfl := eq_of_seen known.1 found unchanged
        exact .succeeded executed known.2
    | markFailedWillRetry jobId expectedVersion attempts error currentErrorHistory nextAttempt =>
        obtain ⟨row, settles, keyed, versioned, counted, left, recorded⟩ := permitted
        subst keyed versioned counted recorded
        have known := remembers.settles settles
        refine changed_of_update (fun _ accepted => ⟨_, accepted⟩) (fun _ refused => ⟨_, refused⟩) rfl ?_
        intro now found unchanged _ _
        obtain rfl := eq_of_seen known.1 found unchanged
        exact .failed error nextAttempt settles known.2 left
    | markDeadLettered jobId expectedVersion attempts error currentErrorHistory =>
        obtain ⟨row, settles, keyed, versioned, counted, spent, recorded⟩ := permitted
        subst keyed versioned counted recorded
        have known := remembers.settles settles
        refine changed_of_update (fun _ accepted => ⟨_, accepted⟩) (fun _ refused => ⟨_, refused⟩) rfl ?_
        intro now found unchanged accepted _
        obtain rfl := eq_of_seen known.1 found unchanged
        have passed : World.firstViolated [("check", decide (now.attempts + 1 ≤ now.maxAttempts))] = none := accepted
        have bounded : now.attempts + 1 ≤ now.maxAttempts := by
          simpa [World.firstViolated_eq_none_iff] using passed
        exact .deadLettered error settles known.2 (Nat.le_antisymm bounded spent)
    | retryDeadLetter jobId expectedVersion =>
        obtain ⟨-, row, inspected, keyed, versioned, dead⟩ := permitted
        subst keyed versioned
        refine changed_of_update (fun _ accepted => ⟨_, accepted⟩) (fun _ refused => ⟨_, refused⟩) rfl ?_
        intro now found unchanged _ _
        obtain rfl := eq_of_seen (remembers.inspected row inspected) found unchanged
        exact .retried inspected dead
    | dequeue queueNames priorityOrder => exact .kept (dequeue_jobs queueNames priorityOrder) fun _ => rfl
    | promoteDue queueName now => exact .kept (promoteDue_jobs queueName now) fun _ => rfl
    | _ => exact .kept rfl fun _ => rfl
  · exact .kept rfl (noteFailure_error _ _ _)

theorem JobMove.evolves {call : JobCall} {reply : Except JobFault call.Result}
    (move : JobMove phase state call reply after) : Evolves state.jobs after.jobs := by
  cases move with
  | kept same _ => rw [same]; exact .refl _
  | created draft inserted _ _ _ _ _ => rw [inserted]; exact evolves_insert _ _
  | changed row edit found _ _ written =>
      rw [written]
      have success := (updateIfVersion_eq_some_iff state.jobs row.id row.version edit _ _).mpr ⟨row, found, rfl, rfl, rfl⟩
      exact evolves_update success

theorem noteFailure_of_change {now : Datetime} {row : JobRecord} {call : JobCall} {edit : Edit JobRecord}
    (change : RowChange phase now row call edit) (reply : Except JobFault call.Result)
    (failures : UUID → List JobFailure) {id : UUID} (other : row.id ≠ id) :
    noteFailure now call reply failures id = failures id := by
  cases change <;> cases reply <;> simp [noteFailure, Ne.symm other]

theorem JobMove.row_cases {call : JobCall} {reply : Except JobFault call.Result}
    (move : JobMove phase state call reply after) {id : UUID} {new : JobRecord} (stored : after.jobs.find? id = some new) :
    (state.jobs.find? id = some new ∧ ∀ failures, noteFailure state.now call reply failures id = failures id) ∨
      (id = state.jobs.next ∧ new.status = .queued ∧ new.attempts = 0 ∧ new.errorHistory = [] ∧
        ∀ failures, noteFailure state.now call reply failures id = failures id) ∨
      ∃ row edit, row.id = id ∧ state.jobs.find? row.id = some row ∧ RowChange phase state.now row call edit ∧
        (∃ result, reply = .ok result) ∧ new = (stamped edit row.version).apply row := by
  cases move with
  | kept same unnoted => exact .inl ⟨same ▸ stored, fun failures => congrFun (unnoted failures) id⟩
  | created draft inserted fresh _ _ _ unnoted =>
      rw [inserted, find?_insert] at stored
      split at stored
      · rename_i next
        obtain rfl := Option.some.inj stored
        obtain ⟨queued, unattempted, blank, -⟩ := fresh state.jobs.next
        exact .inr (.inl ⟨next, queued, unattempted, blank, fun failures => congrFun (unnoted failures) id⟩)
      · exact .inl ⟨stored, fun failures => congrFun (unnoted failures) id⟩
  | changed row edit found change accepted written =>
      rw [written, find?_modify] at stored
      split at stored
      · rename_i same
        rw [found] at stored
        exact .inr (.inr ⟨row, edit, same.symm, found, change, accepted, (Option.some.inj stored).symm⟩)
      · rename_i other
        exact .inl ⟨stored, fun failures => noteFailure_of_change change reply failures (Ne.symm other)⟩

/-- What the reply to a call says of the rows. -/
def Tells (jobs : Table JobRecord) : (call : JobCall) → Except JobFault call.Result → Prop
  | .getJob _, .ok row => row ∈ jobs.rows
  | .markRunning jobId .., .ok row => row ∈ jobs.rows ∧ row.id = jobId ∧ row.status = .running
  | .listStuckRunning _, .ok rows => ∀ row ∈ rows, row ∈ jobs.rows ∧ row.status = .running
  | .listStuckQueued _, .ok rows => ∀ row ∈ rows, row ∈ jobs.rows ∧ row.status = .queued
  | _, _ => True

theorem tells_of_jobStep {call : JobCall} {reply : Except JobFault call.Result}
    (stepped : jobStep state call reply after) : Tells after.jobs call reply := by
  rcases stepped with outcome | ⟨fault, -, -, rfl, rfl⟩
  · obtain ⟨rfl, rfl⟩ := Prod.mk.inj outcome
    cases call with
    | getJob jobId =>
        simp only [JobSystem.execute]
        cases found : getById "jobs" state.jobs jobId with
        | error error => trivial
        | ok row => exact ((find?_eq_some_iff ..).mp (World.getById_ok_iff.mp found)).1
    | markRunning jobId expectedVersion lockedBy =>
        rcases written : state.updateJob jobId expectedVersion (runningEdit state.now lockedBy) with ⟨answer, after⟩
        simp only [JobSystem.execute, written]
        rcases updateJob_cases written with ⟨error, rfl, rfl⟩ | ⟨row, found, -, -, rfl, rfl⟩
        · trivial
        · obtain ⟨member, keyed⟩ := (find?_eq_some_iff ..).mp found
          exact ⟨(mem_modify ..).mpr (.inr ⟨row, member, keyed, rfl⟩), keyed, rfl⟩
    | listStuckRunning olderThan =>
        intro row listed
        have selected := List.mem_filter.mp (mem_orderBy.mp listed)
        exact ⟨selected.1, by simpa [JobSystem.stuckRunning] using (Bool.and_eq_true_iff.mp selected.2).1⟩
    | listStuckQueued olderThan =>
        intro row listed
        have selected := List.mem_filter.mp (mem_orderBy.mp listed)
        exact ⟨selected.1, by
          simpa using (Bool.and_eq_true_iff.mp (Bool.and_eq_true_iff.mp selected.2).1).1⟩
    | _ => trivial
  · cases call <;> trivial

theorem eq_database_of_mapError {α : Type} {answer : Except DatabaseError α} {fault : JobFault}
    (raised : answer.mapError JobFault.database = .error fault) : ∃ error, fault = .database error := by
  cases answer with
  | ok value => cases raised
  | error error => exact ⟨error, (Except.error.inj raised).symm⟩

theorem possible_of_jobStep {call : JobCall} {reply : Except JobFault call.Result}
    (stepped : jobStep state call reply after) : Possible call reply := by
  rcases stepped with outcome | ⟨fault, raises, -, rfl, rfl⟩
  · obtain ⟨rfl, rfl⟩ := Prod.mk.inj outcome
    constructor
    · intro fault raised
      cases call with
      | getJob | markRunning | markSucceeded | markFailedWillRetry | markDeadLettered | retryDeadLetter =>
          obtain ⟨error, rfl⟩ := eq_database_of_mapError raised
          rfl
      | createJob =>
          dsimp only [JobSystem.execute] at raised
          obtain ⟨error, rfl⟩ := eq_database_of_mapError raised
          rfl
      | _ => cases raised
    · cases call with
      | getJob jobId =>
          simp only [JobSystem.execute]
          cases found : getById "jobs" state.jobs jobId with
          | error error => trivial
          | ok row => exact ((find?_eq_some_iff ..).mp (World.getById_ok_iff.mp found)).2
      | _ => trivial
  · refine ⟨fun other same => ?_, by cases call <;> trivial⟩
    obtain rfl := Except.error.inj same
    exact raises

theorem remembers_idle (jobs : Table JobRecord) : Remembers jobs JobPhase.idle where
  fetched := fun _ staged => nomatch staged
  started := fun _ staged => by rcases staged with staged | staged | staged <;> cases staged
  listed := fun _ member => nomatch member
  inspected := fun _ looked => nomatch looked

theorem Remembers.evolves {before later : Table JobRecord} (remembers : Remembers before phase)
    (evolved : Evolves before later) : Remembers later phase where
  fetched := fun row staged => (remembers.fetched row staged).evolves evolved
  started := fun row staged => (remembers.started row staged).imp_left fun seen => seen.evolves evolved
  listed := fun row member => (remembers.listed row member).imp_left fun seen => seen.evolves evolved
  inspected := fun row looked => (remembers.inspected row looked).evolves evolved

theorem remembers_after {jobs : Table JobRecord} {call : JobCall} {reply : Except JobFault call.Result}
    (remembers : Remembers jobs phase) (tells : Tells jobs call reply) : Remembers jobs (phase.after call reply) := by
  have unfetched : ∀ row, Stage.none ≠ .fetched row := by simp
  have unstarted : ∀ row, ¬(Stage.none = .marked row ∨ Stage.none = .executing row ∨ Stage.none = .executed row) := by simp
  have unstaged : ∀ held, Remembers jobs { phase with held, stage := .none } := fun _ =>
    ⟨fun row staged => (unfetched row staged).elim, fun row staged => (unstarted row staged).elim, remembers.listed, remembers.inspected⟩
  have reheld : ∀ held, Remembers jobs { phase with held } := fun _ =>
    ⟨remembers.fetched, remembers.started, remembers.listed, remembers.inspected⟩
  rcases reply with fault | result
  · cases fault <;> cases call <;>
      first | exact remembers_idle jobs | exact remembers | exact reheld _ | exact unstaged _
  · cases call with
    | getJob jobId =>
        have seen := seen_of_mem tells
        simp only [JobPhase.after]
        split
        · refine ⟨fun row staged => Stage.fetched.inj staged ▸ seen, ?_, remembers.listed, remembers.inspected⟩
          intro row staged
          rcases staged with staged | staged | staged <;> cases staged
        · exact ⟨remembers.fetched, remembers.started, remembers.listed,
            fun row looked => Option.some.inj looked ▸ seen⟩
    | markRunning jobId expectedVersion lockedBy =>
        refine ⟨(by intro row staged; cases staged), ?_, remembers.listed, remembers.inspected⟩
        intro row staged
        rcases staged with staged | staged | staged <;> cases staged
        exact ⟨seen_of_mem tells.1, tells.2.2⟩
    | startHandler jobId =>
        cases stage : phase.stage with
        | marked row =>
            have started := remembers.started row (.inl stage)
            simp only [JobPhase.after, stage]
            refine ⟨(by intro row staged; cases staged), ?_, remembers.listed, remembers.inspected⟩
            intro other staged
            rcases staged with staged | staged | staged <;> cases staged
            exact started
        | _ => simpa only [JobPhase.after, stage] using remembers
    | awaitHandler jobId =>
        cases stage : phase.stage with
        | executing row =>
            have started := remembers.started row (.inr (.inl stage))
            simp only [JobPhase.after, stage]
            refine ⟨(by intro row staged; cases staged), ?_, remembers.listed, remembers.inspected⟩
            intro other staged
            rcases staged with staged | staged | staged <;> cases staged
            exact started
        | _ => simpa only [JobPhase.after, stage] using remembers
    | listStuckRunning olderThan =>
        exact ⟨remembers.fetched, remembers.started,
          fun row member => ⟨seen_of_mem (tells row member).1, .inl (tells row member).2⟩, remembers.inspected⟩
    | listStuckQueued olderThan =>
        refine ⟨remembers.fetched, remembers.started, fun row member => ?_, remembers.inspected⟩
        rcases List.mem_append.mp member with earlier | queued
        · exact remembers.listed row earlier
        · exact ⟨seen_of_mem (tells row queued).1, .inr (tells row queued).2⟩
    | _ => first | exact remembers | exact reheld _ | exact unstaged _

end Steps

section Runs

variable {ι : Type} [DecidableEq ι] {effect : Effect jobSignature (JobRun ι) ι}

/-- Every process keeps to the discipline, from what it has in hand, and remembers rows that it read. -/
structure Running (pool : Pool jobSignature JobFault (JobRun ι) ι) : Prop where
  follows : ∀ thread, (pool.threads thread).Ensures jobDiscipline Rests (pool.shared.phases thread)
  remembers : ∀ thread, Remembers pool.shared.system.jobs (pool.shared.phases thread)

omit [DecidableEq ι] in
theorem running_launch (processes : ι → JobProcess) (start : JobSystem) : Running (launchJobs processes start) where
  follows := fun thread => ensures_process (processes thread)
  remembers := fun _ => remembers_idle _

/-- One step of the processes, as far as the invariants ask. -/
structure Advance (thread : ι) (state : JobRun ι) (call : JobCall) (reply : Except JobFault call.Result)
    (after : JobRun ι) : Prop where
  remembers : ∀ other, Remembers state.system.jobs (state.phases other)
  permitted : (state.phases thread).Permits call
  stepped : jobStep state.system call reply after.system
  phases : after.phases = Function.update state.phases thread ((state.phases thread).after call reply)
  failures : after.failures = noteFailure state.system.now call reply state.failures

variable {thread : ι} {state after : JobRun ι} {call : JobCall} {reply : Except JobFault call.Result}

theorem Advance.move (advance : Advance thread state call reply after) :
    JobMove (state.phases thread) state.system call reply after.system :=
  jobMove advance.permitted (advance.remembers thread) advance.stepped

theorem Advance.tells (advance : Advance thread state call reply after) : Tells after.system.jobs call reply :=
  tells_of_jobStep advance.stepped

theorem Advance.phases_self (advance : Advance thread state call reply after) :
    after.phases thread = (state.phases thread).after call reply := by
  rw [advance.phases, Function.update_self]

theorem Advance.phases_other (advance : Advance thread state call reply after) {other : ι} (apart : other ≠ thread) :
    after.phases other = state.phases other := by
  rw [advance.phases, Function.update_of_ne apart]

theorem Running.advance {pool : Pool jobSignature JobFault (JobRun ι) ι} (running : Running pool)
    {next : Except JobFault call.Result → JobProgram Unit} (calling : pool.threads thread = .call call next)
    (answered : processing thread pool.shared call reply after) : Advance thread pool.shared call reply after where
  remembers := running.remembers
  permitted := by
    have follows := running.follows thread
    rw [calling] at follows
    exact follows.1
  stepped := answered.1
  phases := answered.2.1
  failures := answered.2.2

theorem Running.step {pool : Pool jobSignature JobFault (JobRun ι) ι} (running : Running pool)
    {next : Except JobFault call.Result → JobProgram Unit} (calling : pool.threads thread = .call call next)
    (advance : Advance thread pool.shared call reply after) :
    Running ⟨after, Function.update pool.threads thread (next reply)⟩ where
  follows := by
    intro other
    by_cases same : other = thread
    · subst same
      have follows := running.follows other
      rw [calling] at follows
      simpa [advance.phases_self] using follows.2 reply _ ⟨possible_of_jobStep advance.stepped, rfl⟩
    · simpa [same, advance.phases_other same] using running.follows other
  remembers := by
    intro other
    have evolved := advance.move.evolves
    by_cases same : other = thread
    · subst same
      simpa [advance.phases_self] using remembers_after ((running.remembers other).evolves evolved) advance.tells
    · simpa [advance.phases_other same] using (running.remembers other).evolves evolved

theorem Running.run {inv : JobRun ι → Prop} {first last : Pool jobSignature JobFault (JobRun ι) ι}
    {events : List (Event jobSignature ι)} (run : Pool.Run effect first events last) (running : Running first)
    (processes : ∀ thread state call reply after, effect thread state call reply after →
      processing thread state call reply after)
    (preserved : ∀ thread state call reply after, inv state → Advance thread state call reply after →
      effect thread state call reply after → inv after)
    (holds : inv first.shared) : Running last ∧ inv last.shared := by
  induction run with
  | refl => exact ⟨running, holds⟩
  | step before move recurse =>
      obtain ⟨running, holds⟩ := recurse
      cases move with
      | call calling answered =>
          have advance := running.advance calling (processes _ _ _ _ _ answered)
          exact ⟨running.step calling advance, preserved _ _ _ _ _ holds advance answered⟩

end Runs

section Schedules

variable {ι : Type} [DecidableEq ι]

/-- A schedule names the process that makes each call in turn, and the fault that strikes the call, if any. -/
abbrev JobSchedule (ι : Type) := List (ι × Option JobFault)

/-- How a call of a process goes, with or without a fault. -/
def jobHandler (thread : ι) (strikes : Option JobFault) : Handler jobSignature (JobRun ι) := fun call state =>
  let outcome := match strikes with
    | none => jobEnvironment call state.system
    | some fault => (.error fault, state.system.tick)
  (outcome.1,
    { system := outcome.2
      phases := Function.update state.phases thread ((state.phases thread).after call outcome.1)
      failures := noteFailure state.system.now call outcome.1 state.failures })

def playJobs (pool : Pool jobSignature JobFault (JobRun ι) ι) (schedule : JobSchedule ι) :
    Pool jobSignature JobFault (JobRun ι) ι :=
  schedule.foldl (fun pool turn => pool.perform (jobHandler turn.1 turn.2) turn.1) pool

def traceJobs (pool : Pool jobSignature JobFault (JobRun ι) ι) : JobSchedule ι → List (Event jobSignature ι)
  | [] => []
  | turn :: rest =>
      (match pool.threads turn.1 with
        | .call request _ => [⟨turn.1, request, (jobHandler turn.1 turn.2 request pool.shared).1⟩]
        | _ => []) ++ traceJobs (pool.perform (jobHandler turn.1 turn.2) turn.1) rest

/-- Every fault of the schedule can strike where it does, and every call passes the check. -/
def checkedJobs (check : ι → JobRun ι → (call : JobCall) → Except JobFault call.Result → Bool)
    (pool : Pool jobSignature JobFault (JobRun ι) ι) : JobSchedule ι → Bool
  | [] => true
  | turn :: rest =>
      (match pool.threads turn.1 with
        | .call request _ => (turn.2.all fun fault => request.mayRaise fault && fault.external) &&
            check turn.1 pool.shared request (jobHandler turn.1 turn.2 request pool.shared).1
        | _ => true) && checkedJobs check (pool.perform (jobHandler turn.1 turn.2) turn.1) rest

theorem jobHandler_processing (thread : ι) (strikes : Option JobFault) (state : JobRun ι) (call : JobCall)
    (raises : (strikes.all fun fault => call.mayRaise fault && fault.external) = true) :
    processing thread state call (jobHandler thread strikes call state).1 (jobHandler thread strikes call state).2 := by
  refine ⟨?_, rfl, rfl⟩
  cases strikes with
  | none => exact .inl rfl
  | some fault =>
      obtain ⟨raised, external⟩ := Bool.and_eq_true_iff.mp raises
      exact .inr ⟨fault, raised, external, rfl, rfl⟩

theorem playJobs_runs {effect : Effect jobSignature (JobRun ι) ι}
    (check : ι → JobRun ι → (call : JobCall) → Except JobFault call.Result → Bool)
    (offered : ∀ thread state call reply after, check thread state call reply = true →
      processing thread state call reply after → effect thread state call reply after)
    (pool : Pool jobSignature JobFault (JobRun ι) ι) (schedule : JobSchedule ι)
    (passed : checkedJobs check pool schedule = true) :
    Pool.Run effect pool (traceJobs pool schedule) (playJobs pool schedule) := by
  induction schedule generalizing pool with
  | nil => exact .refl pool
  | cons turn rest recurse =>
      obtain ⟨first, others⟩ := Bool.and_eq_true_iff.mp passed
      have run := recurse _ others
      unfold traceJobs
      cases calling : pool.threads turn.1 with
      | call request next =>
          rw [calling] at first
          obtain ⟨raises, held⟩ := Bool.and_eq_true_iff.mp first
          have processed := jobHandler_processing turn.1 turn.2 pool.shared request raises
          have step : Pool.Step effect pool _ _ :=
            Pool.perform_step (jobHandler turn.1 turn.2) pool calling (offered _ _ _ _ _ held processed)
          exact Pool.Run.trans (.step (.refl pool) step) run
      | _ =>
          have unmoved : pool.perform (jobHandler turn.1 turn.2) turn.1 = pool := by simp [Pool.perform, calling]
          rw [unmoved] at run
          simpa [playJobs, unmoved] using run

end Schedules

end AutomationHub.Jobs
