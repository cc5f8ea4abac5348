import AutomationHub.Jobs.Attempts

/-!
Several workers and the reaper over one job.

A worker that holds the current row of its job meets no lost race; the row stays
current as long as nobody else writes it.
-/

set_option autoImplicit false

namespace AutomationHub.Jobs

open Foundation Model Database Program Table

/-- The row that a worker has in work, from its fetch until its outcome is recorded. -/
def Stage.row? : Stage → Option JobRecord
  | .none => Option.none
  | .fetched row | .marked row | .executing row | .executed row => some row

/-- The row of the job whose handler is running. -/
def Stage.inHandler? : Stage → Option JobRecord
  | .executing row => some row
  | _ => Option.none

theorem Stage.inHandler?_eq_some_iff {stage : Stage} {row : JobRecord} :
    stage.inHandler? = some row ↔ stage = .executing row := by
  cases stage <;> simp [Stage.inHandler?]

theorem Stage.executing_of_any {stage : Stage} {selected : JobRecord → Bool}
    (working : stage.inHandler?.any selected = true) : ∃ row, stage = .executing row ∧ selected row = true := by
  obtain ⟨row, running, chosen⟩ := (Option.any_eq_true ..).mp working
  exact ⟨row, Stage.inHandler?_eq_some_iff.mp running, chosen⟩

/-- The row of a job that a worker has started. -/
def Stage.started? : Stage → Option JobRecord
  | .marked row | .executing row | .executed row => some row
  | _ => Option.none

theorem Stage.row?_of_started {stage : Stage} {row : JobRecord} (started : stage.started? = some row) :
    stage.row? = some row := by
  cases stage with
  | none => cases started
  | fetched other => cases started
  | _ => exact started

section Races

/-- The error of a lost race. -/
def Uncontested {α : Type} (result : Except JobFault α) : Prop :=
  ∀ tableName id expectedVersion, result ≠ .error (.database (.concurrentUpdate tableName id expectedVersion))

/-- The calls of a worker. -/
def WorkerCall : JobCall → Prop
  | .listStuckRunning _ | .listStuckQueued _ | .retryDeadLetter .. => False
  | _ => True

def racing : Protocol jobSignature Unit where
  permits := fun _ call => WorkerCall call
  answers := fun _ _ reply _ => Uncontested reply

/-- The program raises the error of a lost race only if a call does. -/
def Absorbs {α : Type} (program : JobProgram α) : Prop :=
  program.Ensures racing (fun result _ => Uncontested result) ()

theorem absorbs_perform {call : JobCall} (worker : WorkerCall call) : Absorbs (perform call) := by
  refine ⟨worker, ?_⟩
  intro reply _ uncontested
  cases reply <;> exact uncontested

theorem absorbs_return {α : Type} (value : α) : Absorbs (return value) := fun _ _ _ same => nomatch same

theorem Absorbs.bind {α β : Type} {program : JobProgram α} {next : α → JobProgram β} (first : Absorbs program)
    (rest : ∀ value, Absorbs (next value)) : Absorbs (program >>= next) := by
  refine (ensures_bind ..).mpr (first.mono ?_)
  intro result _ uncontested
  cases result with
  | ok value => exact rest value
  | error fault =>
      intro tableName id expectedVersion same
      obtain rfl := Except.error.inj same
      exact uncontested tableName id expectedVersion rfl

theorem absorbs_ask {α : Type} {call : JobCall} {next : call.Result → JobProgram α} (worker : WorkerCall call)
    (rest : ∀ result, Absorbs (next result)) : Absorbs (perform call >>= next) :=
  (absorbs_perform worker).bind rest

theorem Absorbs.exceptException {α : Type} {program : JobProgram α} {handle : JobFault → JobProgram α}
    (first : Absorbs program) (handled : ∀ fault, Absorbs (handle fault)) :
    Absorbs (exceptException program handle) := by
  refine (ensures_tryCatch ..).mpr (first.mono ?_)
  intro result _ uncontested
  rcases result with fault | value
  · cases fault <;> first | exact handled _ | exact uncontested
  · exact uncontested

private theorem absorbs_retryOrDeadLetter (job : JobRecord) (error : String) : Absorbs (retryOrDeadLetter job error) := by
  unfold retryOrDeadLetter
  dsimp only
  split
  · exact absorbs_ask trivial fun _ => absorbs_ask trivial fun _ => absorbs_ask trivial fun _ => absorbs_perform trivial
  · exact absorbs_ask trivial fun _ => absorbs_return ()

private theorem absorbs_runHandler (job : JobRecord) : Absorbs (runHandler job) := by
  unfold runHandler
  split
  · refine absorbs_ask trivial fun _ => absorbs_ask trivial fun outcome => ?_
    cases outcome <;> exact absorbs_return _
  · exact absorbs_return _

private theorem absorbs_processOne (hostname : String) (jobId : UUID) : Absorbs (processOne hostname jobId) := by
  have fetching : Absorbs (some <$> perform (.getJob jobId) : JobProgram (Option JobRecord)) :=
    absorbs_ask trivial fun row => absorbs_return (some row)
  refine (fetching.exceptException fun _ => absorbs_return none).bind fun fetched => ?_
  cases fetched with
  | none => exact absorbs_return ()
  | some row =>
      refine absorbs_ask trivial fun job => (absorbs_runHandler job).bind fun ran => ?_
      rcases ran with ⟨success, message⟩
      cases success with
      | true => exact absorbs_ask trivial fun _ => absorbs_return ()
      | false => exact absorbs_retryOrDeadLetter job _

theorem absorbs_workerLoop (hostname : String) (queueNames : List String) (iterations : Nat) :
    ∀ iteration, Absorbs (workerLoop hostname queueNames iteration iterations) := by
  induction iterations with
  | zero => exact fun _ => absorbs_return ()
  | succ iterations recurse =>
      intro iteration
      refine absorbs_ask trivial fun shutdown => ?_
      cases shutdown with
      | true => exact absorbs_return ()
      | false =>
          refine absorbs_ask trivial fun _ => absorbs_ask trivial fun popped => ?_
          cases popped with
          | none => exact recurse (iteration + 1)
          | some jobId => exact (absorbs_processOne hostname jobId).bind fun _ => recurse (iteration + 1)

end Races

section Currency

variable {phase : JobPhase} {state after : JobSystem} {call : JobCall} {reply : Except JobFault call.Result}

theorem writes_of_change {now : Datetime} {row : JobRecord} {edit : Edit JobRecord}
    (change : RowChange phase now row call edit) : call.writes = some (row.id, row.version) := by
  cases change <;> rfl

theorem row?_handled (phase : JobPhase) (jobId : UUID) :
    (phase.after (.startHandler jobId) (.ok ())).stage.row? = phase.stage.row? ∧
      ∀ outcome, (phase.after (.awaitHandler jobId) (.ok outcome)).stage.row? = phase.stage.row? := by
  cases stage : phase.stage <;> simp [JobPhase.after, stage, Stage.row?]

theorem started?_handled (phase : JobPhase) (jobId : UUID) :
    (phase.after (.startHandler jobId) (.ok ())).stage.started? = phase.stage.started? ∧
      ∀ outcome, (phase.after (.awaitHandler jobId) (.ok outcome)).stage.started? = phase.stage.started? := by
  cases stage : phase.stage <;> simp [JobPhase.after, stage, Stage.started?]

/-- The row in work is the one read by the call, or the one before a call that wrote nothing. -/
theorem row?_after {jobs : Table JobRecord} (permitted : phase.Permits call) (tells : Tells jobs call reply)
    {row : JobRecord} (worked : (phase.after call reply).stage.row? = some row) :
    row ∈ jobs.rows ∨ phase.stage.row? = some row ∧ (call.writes = none ∨ ∀ result, reply ≠ .ok result) := by
  rcases reply with fault | result
  · cases fault <;> cases call <;>
      first | exact .inr ⟨worked, .inr fun _ same => nomatch same⟩ | cases worked
  · cases call with
    | getJob jobId =>
        simp only [JobPhase.after] at worked
        split at worked
        · obtain rfl := Option.some.inj worked
          exact .inl tells
        · exact .inr ⟨worked, .inl rfl⟩
    | markRunning jobId expectedVersion lockedBy =>
        obtain rfl := Option.some.inj worked
        exact .inl tells.1
    | startHandler jobId => exact .inr ⟨(row?_handled phase jobId).1 ▸ worked, .inl rfl⟩
    | awaitHandler jobId => exact .inr ⟨(row?_handled phase jobId).2 result ▸ worked, .inl rfl⟩
    | retryDeadLetter jobId expectedVersion =>
        have empty : phase.stage.row? = some row := worked
        rw [permitted.1.stage] at empty
        cases empty
    | _ => first | exact .inr ⟨worked, .inl rfl⟩ | cases worked

theorem started?_after {jobs : Table JobRecord} (tells : Tells jobs call reply) {row : JobRecord}
    (started : (phase.after call reply).stage.started? = some row) :
    phase.stage.started? = some row ∨
      (∃ expectedVersion lockedBy, call = .markRunning row.id expectedVersion lockedBy) ∧ ∃ result, reply = .ok result := by
  rcases reply with fault | result
  · cases fault <;> cases call <;> first | exact .inl started | cases started
  · cases call with
    | getJob jobId =>
        simp only [JobPhase.after] at started
        split at started
        · cases started
        · exact .inl started
    | markRunning jobId expectedVersion lockedBy =>
        obtain rfl := Option.some.inj started
        exact .inr ⟨⟨expectedVersion, lockedBy, by rw [tells.2.1]⟩, result, rfl⟩
    | startHandler jobId => exact .inl ((started?_handled phase jobId).1 ▸ started)
    | awaitHandler jobId => exact .inl ((started?_handled phase jobId).2 result ▸ started)
    | _ => first | exact .inl started | cases started

theorem uncontested_updateJob {row : JobRecord} (found : state.jobs.find? row.id = some row) (edit : Edit JobRecord) :
    Uncontested (state.updateJob row.id row.version edit).1 := by
  have success := (updateIfVersion_eq_some_iff state.jobs row.id row.version edit _ _).mpr ⟨row, found, rfl, rfl, rfl⟩
  unfold JobSystem.updateJob updateWithOptimisticLock
  rw [success]
  intro tableName id expectedVersion same
  dsimp only at same
  split at same <;> cases same

theorem uncontested_step (permitted : phase.Permits call) (worker : WorkerCall call) (unlisted : phase.listed = [])
    (stored : ∀ row, phase.stage.row? = some row → state.jobs.find? row.id = some row)
    (stepped : jobStep state call reply after) : Uncontested reply := by
  have settled : ∀ row, phase.Settles row → state.jobs.find? row.id = some row := by
    intro row settles
    rcases settles.2 with executed | marked | ⟨-, listed⟩
    · exact stored row (by rw [executed]; rfl)
    · exact stored row (by rw [marked]; rfl)
    · rw [unlisted] at listed
      cases listed
  rcases stepped with outcome | ⟨fault, -, external, rfl, -⟩
  · obtain ⟨rfl, rfl⟩ := Prod.mk.inj outcome
    cases call with
    | markRunning jobId expectedVersion lockedBy =>
        obtain ⟨row, fetched, keyed, versioned⟩ := permitted
        subst keyed versioned
        exact uncontested_updateJob (stored row (by rw [fetched]; rfl)) _
    | markSucceeded jobId expectedVersion =>
        obtain ⟨-, row, executed, keyed, versioned⟩ := permitted
        subst keyed versioned
        exact uncontested_updateJob (stored row (by rw [executed]; rfl)) _
    | markFailedWillRetry jobId expectedVersion attempts error currentErrorHistory nextAttempt =>
        obtain ⟨row, settles, keyed, versioned, -⟩ := permitted
        subst keyed versioned
        exact uncontested_updateJob (settled row settles) _
    | markDeadLettered jobId expectedVersion attempts error currentErrorHistory =>
        obtain ⟨row, settles, keyed, versioned, -⟩ := permitted
        subst keyed versioned
        exact uncontested_updateJob (settled row settles) _
    | retryDeadLetter jobId expectedVersion => exact worker.elim
    | getJob jobId =>
        intro tableName id expectedVersion same
        simp only [JobSystem.execute, getById] at same
        split at same <;> cases same
    | createJob taskType queueName priority payload maxAttempts scheduledFor requestId actorId =>
        intro tableName id expectedVersion same
        simp only [JobSystem.execute, insertRow] at same
        split at same <;> cases same
    | _ =>
        intro tableName id expectedVersion same
        cases same
  · intro tableName id expectedVersion same
    obtain rfl := Except.error.inj same
    cases external

end Currency

section Workers

variable {ι : Type} [DecidableEq ι]

/-- No job is written that another worker has in work. -/
def Exclusive (thread : ι) (state : JobRun ι) (call : JobCall) (reply : Except JobFault call.Result) : Prop :=
  ∀ row : JobRecord, call.writes = some (row.id, row.version) → (∃ result, reply = .ok result) →
    state.system.jobs.find? row.id = some row →
    ∀ other worked, other ≠ thread → (state.phases other).stage.row? = some worked → worked.id ≠ row.id

def exclusive : Effect jobSignature (JobRun ι) ι := fun thread state call reply after =>
  processing thread state call reply after ∧ Exclusive thread state call reply

/-- Each row in work is the stored one, and no two workers have started one job. -/
structure Current (state : JobRun ι) : Prop where
  stored : ∀ thread row, (state.phases thread).stage.row? = some row → state.system.jobs.find? row.id = some row
  alone : ∀ first second row other, (state.phases first).stage.started? = some row →
    (state.phases second).stage.started? = some other → row.id = other.id → first = second

variable {thread : ι} {state after : JobRun ι} {call : JobCall} {reply : Except JobFault call.Result}

theorem stored_kept (advance : Advance thread state call reply after) {row : JobRecord}
    (found : state.system.jobs.find? row.id = some row)
    (unwritten : ∀ old : JobRecord, call.writes = some (old.id, old.version) → (∃ result, reply = .ok result) →
      state.system.jobs.find? old.id = some old → old.id ≠ row.id) :
    after.system.jobs.find? row.id = some row := by
  cases advance.move with
  | kept same _ => exact same ▸ found
  | created draft inserted _ _ _ _ _ =>
      have used : row.id ≠ state.system.jobs.next := by
        intro same
        rw [same, find?_next] at found
        cases found
      rw [inserted, find?_insert, if_neg used]
      exact found
  | changed old edit stored change accepted written =>
      rw [written, find?_modify, if_neg (Ne.symm (unwritten old (writes_of_change change) accepted stored))]
      exact found

omit [DecidableEq ι] in
theorem Current.fetched {jobId expectedVersion : Nat} {lockedBy : String} (current : Current state)
    (permitted : (state.phases thread).Permits (.markRunning jobId expectedVersion lockedBy)) :
    ∃ row : JobRecord, row.id = jobId ∧ row.version = expectedVersion ∧ state.system.jobs.find? row.id = some row := by
  obtain ⟨row, fetched, keyed, versioned⟩ := permitted
  exact ⟨row, keyed, versioned, current.stored thread row (by rw [fetched]; rfl)⟩

theorem started_alone (current : Current state) (advance : Advance thread state call reply after)
    (conforms : Exclusive thread state call reply) {row : JobRecord}
    (started : (after.phases thread).stage.started? = some row) {second : ι} {other : JobRecord}
    (apart : second ≠ thread) (working : (state.phases second).stage.started? = some other) : row.id ≠ other.id := by
  rw [advance.phases_self] at started
  rcases started?_after advance.tells started with before | ⟨⟨expectedVersion, lockedBy, rfl⟩, accepted⟩
  · intro same
    exact apart (current.alone second thread other row working before same.symm)
  · obtain ⟨old, keyed, versioned, found⟩ := current.fetched advance.permitted
    have unshared := conforms old (by rw [keyed, versioned]; rfl) accepted found second other apart
      (Stage.row?_of_started working)
    rw [keyed] at unshared
    exact Ne.symm unshared

theorem current_step (current : Current state) (advance : Advance thread state call reply after)
    (conforms : Exclusive thread state call reply) : Current after where
  stored := by
    intro worker row worked
    by_cases own : worker = thread
    · subst own
      rw [advance.phases_self] at worked
      rcases row?_after advance.permitted advance.tells worked with member | ⟨before, unwritten⟩
      · exact find?_of_mem _ member
      · refine stored_kept advance (current.stored worker row before) ?_
        intro old writes accepted
        obtain ⟨result, replied⟩ := accepted
        rcases unwritten with none | refused
        · rw [none] at writes
          cases writes
        · exact (refused result replied).elim
    · rw [advance.phases_other own] at worked
      refine stored_kept advance (current.stored worker row worked) ?_
      intro old writes accepted found same
      exact conforms old writes accepted found worker row own worked same.symm
  alone := by
    intro first second row other working also same
    by_cases own : first = thread
    · by_cases shared : second = thread
      · exact own.trans shared.symm
      · subst own
        rw [advance.phases_other shared] at also
        exact (started_alone current advance conforms working shared also same).elim
    · rw [advance.phases_other own] at working
      by_cases shared : second = thread
      · subst shared
        exact (started_alone current advance conforms also own working same.symm).elim
      · rw [advance.phases_other shared] at also
        exact current.alone first second row other working also same

theorem unlisted_after {phase : JobPhase} (worker : WorkerCall call) (unlisted : phase.listed = []) :
    (phase.after call reply).listed = [] := by
  rcases reply with fault | result
  · cases fault <;> cases call <;> first | exact unlisted | rfl
  · cases call with
    | getJob jobId =>
        simp only [JobPhase.after]
        split <;> exact unlisted
    | startHandler jobId =>
        simp only [JobPhase.after]
        split <;> exact unlisted
    | awaitHandler jobId =>
        simp only [JobPhase.after]
        split <;> exact unlisted
    | listStuckRunning olderThan => exact worker.elim
    | listStuckQueued olderThan => exact worker.elim
    | _ => exact unlisted

def JobProcess.isWorker : JobProcess → Bool
  | .worker .. => true
  | _ => false

/-- The workers hold the stored rows of their jobs, and end on no lost race as long as they lose none. -/
structure Staffed (processes : ι → JobProcess) (pool : Pool jobSignature JobFault (JobRun ι) ι) : Prop where
  running : Running pool
  current : Current pool.shared
  workers : ∀ thread, (processes thread).isWorker = true →
    Absorbs (pool.threads thread) ∧ (pool.shared.phases thread).listed = []

omit [DecidableEq ι] in
theorem staffed_launch (processes : ι → JobProcess) (start : JobSystem) : Staffed processes (launchJobs processes start) where
  running := running_launch processes start
  current := ⟨fun _ _ worked => (nomatch worked), fun _ _ _ _ working => (nomatch working)⟩
  workers := by
    intro thread worker
    refine ⟨?_, rfl⟩
    show Absorbs (processes thread).program
    cases kind : processes thread with
    | worker hostname queueNames iterations => exact absorbs_workerLoop hostname queueNames iterations 0
    | _ =>
        rw [kind] at worker
        cases worker

theorem staffed_step {processes : ι → JobProcess} {pool : Pool jobSignature JobFault (JobRun ι) ι}
    (staffed : Staffed processes pool) {next : Except JobFault call.Result → JobProgram Unit}
    (calling : pool.threads thread = .call call next) (answered : exclusive thread pool.shared call reply after) :
    Staffed processes ⟨after, Function.update pool.threads thread (next reply)⟩ := by
  have advance := staffed.running.advance calling answered.1
  refine ⟨staffed.running.step calling advance, current_step staffed.current advance answered.2, ?_⟩
  intro other worker
  obtain ⟨absorbs, unlisted⟩ := staffed.workers other worker
  by_cases own : other = thread
  · subst own
    rw [calling] at absorbs
    have uncontested := uncontested_step advance.permitted absorbs.1 unlisted (staffed.current.stored other) advance.stepped
    refine ⟨?_, ?_⟩
    · have onward : Absorbs (next reply) := absorbs.2 reply () uncontested
      simpa using onward
    · simpa [advance.phases_self] using unlisted_after absorbs.1 unlisted
  · simpa [own, advance.phases_other own] using And.intro absorbs unlisted

theorem staffed_run {processes : ι → JobProcess} {first last : Pool jobSignature JobFault (JobRun ι) ι}
    {events : List (Event jobSignature ι)} (run : Pool.Run exclusive first events last)
    (staffed : Staffed processes first) : Staffed processes last := by
  induction run with
  | refl => exact staffed
  | step before move recurse =>
      cases move with
      | call calling answered => exact staffed_step recurse calling answered

/-- As long as no process writes a job that another worker has in work, at most one worker is in the handler of a job,
and no lost race ends a worker. -/
theorem handlers_exclusive (processes : ι → JobProcess) (start : JobSystem)
    {last : Pool jobSignature JobFault (JobRun ι) ι} {events : List (Event jobSignature ι)}
    (run : Pool.Run exclusive (launchJobs processes start) events last) :
    (∀ first second row other, (last.shared.phases first).stage = .executing row →
        (last.shared.phases second).stage = .executing other → row.id = other.id → first = second) ∧
      ∀ thread, (processes thread).isWorker = true → ∀ tableName id expectedVersion,
        last.threads thread ≠ .raised (.database (.concurrentUpdate tableName id expectedVersion)) := by
  have staffed := staffed_run run (staffed_launch processes start)
  constructor
  · intro first second row other executing also same
    exact staffed.current.alone first second row other (by rw [executing]; rfl) (by rw [also]; rfl) same
  · intro thread worker tableName id expectedVersion raised
    have absorbs := (staffed.workers thread worker).1
    rw [raised] at absorbs
    exact absorbs tableName id expectedVersion rfl

end Workers

section Samples

/-- Two workers, each for one job. -/
def racingCrew : Fin 5 → JobProcess
  | 0 => .producer 3 emailRequest
  | 1 => .reaper 600000000
  | 2 => .promoter ["default"] 1
  | 3 => .worker "first" ["default"] 1
  | 4 => .worker "second" ["default"] 1

def racingPool : Pool jobSignature JobFault (JobRun (Fin 5)) (Fin 5) := launchJobs racingCrew (emptySystem slowChance)

/-- A program that has ended on the error of a lost race. -/
def lostRace {α : Type} : Program jobSignature JobFault α → Bool
  | .raised (.database (.concurrentUpdate ..)) => true
  | _ => false

theorem raised_of_lostRace {α : Type} {program : Program jobSignature JobFault α} (lost : lostRace program = true) :
    ∃ tableName id expectedVersion, program = .raised (.database (.concurrentUpdate tableName id expectedVersion)) := by
  unfold lostRace at lost
  split at lost
  · exact ⟨_, _, _, rfl⟩
  · cases lost

/-- The first worker is in the handler when the reaper takes its job for stuck, and the second worker starts it too. -/
def overtaken : JobSchedule (Fin 5) := turns 0 2 ++ turns 3 6 ++ turns 1 7 ++ turns 2 3 ++ turns 4 6

def exclusiveCheck (thread : Fin 5) (state : JobRun (Fin 5)) (call : JobCall) (_ : Except JobFault call.Result) : Bool :=
  call.writes.all fun write => (List.finRange 5).all fun other =>
    other == thread || (state.phases other).stage.row?.all fun worked => worked.id != write.1

theorem exclusive_of_check (thread : Fin 5) (state : JobRun (Fin 5)) (call : JobCall) (reply : Except JobFault call.Result)
    (after : JobRun (Fin 5)) (passed : exclusiveCheck thread state call reply = true)
    (processed : processing thread state call reply after) : exclusive thread state call reply after := by
  refine ⟨processed, ?_⟩
  intro row writes _ _ other worked apart working
  unfold exclusiveCheck at passed
  rw [writes] at passed
  have clear := List.all_eq_true.mp passed other (List.mem_finRange other)
  rw [working] at clear
  simpa [apart] using clear

/-- The first worker is in the handler. -/
def delivered : Pool jobSignature JobFault (JobRun (Fin 5)) (Fin 5) := playJobs racingPool (turns 0 2 ++ turns 3 6)

theorem handlers_exclusive_sample :
    ∃ row, (delivered.shared.phases 3).stage = .executing row ∧
      ((delivered.shared.phases 3).stage = .executing row → (delivered.shared.phases 4).stage ≠ .executing row) := by
  have working : (delivered.shared.phases 3).stage.inHandler?.any (fun _ => true) = true := by decide +kernel
  obtain ⟨row, stage, -⟩ := Stage.executing_of_any working
  have run := playJobs_runs exclusiveCheck exclusive_of_check racingPool (turns 0 2 ++ turns 3 6) (by decide +kernel)
  have exclusion := (handlers_exclusive racingCrew (emptySystem slowChance) run).1
  exact ⟨row, stage, fun first second => absurd (exclusion 3 4 row row first second rfl) (by decide)⟩

/-- Both workers are in the handler of the job, and the first one ends on its lost race. -/
theorem handlers_overlap :
    (¬ ∀ (processes : Fin 5 → JobProcess) (start : JobSystem) (events : List (Event jobSignature (Fin 5)))
        (last : Pool jobSignature JobFault (JobRun (Fin 5)) (Fin 5)),
        Pool.Run processing (launchJobs processes start) events last →
        ∀ first second row other, (last.shared.phases first).stage = .executing row →
          (last.shared.phases second).stage = .executing other → row.id = other.id → first = second) ∧
      ¬ ∀ (processes : Fin 5 → JobProcess) (start : JobSystem) (events : List (Event jobSignature (Fin 5)))
        (last : Pool jobSignature JobFault (JobRun (Fin 5)) (Fin 5)),
        Pool.Run processing (launchJobs processes start) events last →
        ∀ thread, (processes thread).isWorker = true → ∀ tableName id expectedVersion,
          last.threads thread ≠ .raised (.database (.concurrentUpdate tableName id expectedVersion)) := by
  constructor
  · intro exclusion
    have run := playJobs_runs (fun _ _ _ _ => true) (fun _ _ _ _ _ _ processed => processed) racingPool overtaken
      (by decide +kernel)
    obtain ⟨row, first, named⟩ := @Stage.executing_of_any ((playJobs racingPool overtaken).shared.phases 3).stage
      (fun row => row.id == 1) (by decide +kernel)
    obtain ⟨other, second, also⟩ := @Stage.executing_of_any ((playJobs racingPool overtaken).shared.phases 4).stage
      (fun row => row.id == 1) (by decide +kernel)
    have same := exclusion racingCrew (emptySystem slowChance) _ _ run 3 4 row other first second
      ((beq_iff_eq.mp named).trans (beq_iff_eq.mp also).symm)
    exact absurd same (by decide)
  · intro absorbed
    have run := playJobs_runs (fun _ _ _ _ => true) (fun _ _ _ _ _ _ processed => processed) racingPool
      (overtaken ++ turns 3 2) (by decide +kernel)
    obtain ⟨tableName, id, expectedVersion, raised⟩ :=
      @raised_of_lostRace _ ((playJobs racingPool (overtaken ++ turns 3 2)).threads 3) (by decide +kernel)
    exact absorbed racingCrew (emptySystem slowChance) _ _ run 3 rfl _ _ _ raised

end Samples

end AutomationHub.Jobs
