import AutomationHub.Jobs.Lifecycle

/-!
Terminal jobs under redelivery.

A worker does not look at the status of the job that it fetched, so a second
entry of a job in a queue starts the job again when it has already ended.
-/

set_option autoImplicit false

namespace AutomationHub.Jobs

open Foundation Model Database Program Table

def isTerminal (status : JobStatus) : Bool := status == .succeeded || status == .deadLettered

section Conclusions

variable {ι : Type} [DecidableEq ι]

/-- No job that has ended is started, and none succeeds while another worker is about to hand it to its handler. -/
structure Lawful (state : JobRun ι) (call : JobCall) (reply : Except JobFault call.Result) : Prop where
  starts : ∀ (row : JobRecord) (lockedBy : String), call = .markRunning row.id row.version lockedBy → (∃ result, reply = .ok result) →
    state.system.jobs.find? row.id = some row → isTerminal row.status = false
  finishes : ∀ row : JobRecord, call = .markSucceeded row.id row.version → (∃ result, reply = .ok result) →
    ∀ other (marked : JobRecord), (state.phases other).stage = .marked marked → marked.id = row.id → marked.taskType ∉ registeredTasks

def lawful : Effect jobSignature (JobRun ι) ι := fun thread state call reply after =>
  processing thread state call reply after ∧ Lawful state call reply

/-- A job that has succeeded is with no worker that is about to hand it to its handler. -/
def Concluded (state : JobRun ι) : Prop :=
  ∀ row : JobRecord, state.system.jobs.find? row.id = some row → row.status = .succeeded →
    ∀ thread marked, (state.phases thread).stage = .marked marked → marked.id = row.id → marked.taskType ∉ registeredTasks

theorem marked_cases {phase : JobPhase} {jobs : Table JobRecord} {call : JobCall} {reply : Except JobFault call.Result}
    {row : JobRecord} (tells : Tells jobs call reply) (marked : (phase.after call reply).stage = .marked row) :
    phase.stage = .marked row ∨ row ∈ jobs.rows ∧ row.status = .running := by
  rcases reply with fault | result
  · cases fault <;> cases call <;> first | exact .inl marked | cases marked
  · cases call with
    | getJob jobId =>
        simp only [JobPhase.after] at marked
        split at marked
        · cases marked
        · exact .inl marked
    | markRunning jobId expectedVersion lockedBy =>
        obtain rfl := Stage.marked.inj marked
        exact .inr ⟨tells.1, tells.2.2⟩
    | startHandler jobId =>
        simp only [JobPhase.after] at marked
        split at marked
        · cases marked
        · exact .inl marked
    | awaitHandler jobId =>
        simp only [JobPhase.after] at marked
        split at marked
        · cases marked
        · exact .inl marked
    | _ => first | exact .inl marked | cases marked

variable {thread : ι} {state after : JobRun ι} {call : JobCall} {reply : Except JobFault call.Result}

theorem terminal_step (advance : Advance thread state call reply after) (conforms : Lawful state call reply)
    {row : JobRecord} (found : state.system.jobs.find? row.id = some row)
    (terminal : isTerminal row.status = true) :
    after.system.jobs.find? row.id = some row ∨
      row.status = .deadLettered ∧ call = .retryDeadLetter row.id row.version ∧ ∃ result, reply = .ok result := by
  cases advance.move with
  | kept same _ => exact .inl (same ▸ found)
  | created draft inserted _ _ _ _ _ =>
      have used : row.id ≠ state.system.jobs.next := by
        intro same
        rw [same, find?_next] at found
        cases found
      rw [inserted, find?_insert, if_neg used]
      exact .inl found
  | changed old edit stored change accepted written =>
      by_cases same : old.id = row.id
      · rw [same, found] at stored
        obtain rfl := Option.some.inj stored
        cases change with
        | started lockedBy fetched =>
            rw [conforms.starts row lockedBy rfl accepted found] at terminal
            cases terminal
        | succeeded executed running => simp [isTerminal, running] at terminal
        | failed error nextAttempt settles alive left =>
            rcases alive with alive | alive <;> simp [isTerminal, alive] at terminal
        | deadLettered error settles alive spent =>
            rcases alive with alive | alive <;> simp [isTerminal, alive] at terminal
        | retried inspected dead => exact .inr ⟨dead, rfl, accepted⟩
      · rw [written, find?_modify, if_neg (Ne.symm same)]
        exact .inl found

theorem concluded_step (concluded : Concluded state) (advance : Advance thread state call reply after)
    (conforms : Lawful state call reply) : Concluded after := by
  intro row found succeeded holder marked staged same
  have known : (state.phases holder).stage = .marked marked ∨ marked.status = .running ∧ marked ∈ after.system.jobs.rows := by
    by_cases own : holder = thread
    · subst own
      rw [advance.phases_self] at staged
      exact (marked_cases advance.tells staged).imp_right And.symm
    · rw [advance.phases_other own] at staged
      exact .inl staged
  rcases known with staged | ⟨running, member⟩
  · rcases advance.move.row_cases found with ⟨before, -⟩ | ⟨-, queued, -⟩ | ⟨old, edit, named, stored, change, accepted, rfl⟩
    · exact concluded row before succeeded holder marked staged same
    · rw [queued] at succeeded
      cases succeeded
    · cases change with
      | succeeded executed running => exact conforms.finishes old rfl accepted holder marked staged (same.trans named.symm)
      | _ => cases succeeded
  · have unique : marked = row := by
      refine after.system.jobs.eq_of_key_eq member ?_ same
      exact ((find?_eq_some_iff ..).mp found).1
    rw [unique, succeeded] at running
    cases running

/-- What is true of the event that brings a dead-lettered job back. -/
def Retries (event : Event jobSignature ι) (jobId : UUID) : Prop :=
  ∃ thread expectedVersion row, event = ⟨thread, .retryDeadLetter jobId expectedVersion, .ok row⟩

theorem terminal_run {first last : Pool jobSignature JobFault (JobRun ι) ι} {events : List (Event jobSignature ι)}
    (run : Pool.Run lawful first events last) (running : Running first) (concluded : Concluded first.shared)
    {row : JobRecord} (found : first.shared.system.jobs.find? row.id = some row) :
    (row.status = .succeeded → last.shared.system.jobs.find? row.id = some row ∧
        ∀ event ∈ events, event.request ≠ .startHandler row.id) ∧
      (row.status = .deadLettered → last.shared.system.jobs.find? row.id = some row ∨
        ∃ event ∈ events, Retries event row.id) := by
  have reach : ∀ {middle : Pool jobSignature JobFault (JobRun ι) ι} {before : List (Event jobSignature ι)},
      Pool.Run lawful first before middle → Running middle ∧ Concluded middle.shared := fun before =>
    running.run before (fun _ _ _ _ _ effect => effect.1)
      (fun _ _ _ _ _ holds advance effect => concluded_step holds advance effect.2) concluded
  induction run with
  | refl => exact ⟨fun _ => ⟨found, by simp⟩, fun _ => .inl found⟩
  | @step middle last events event before move recurse =>
      obtain ⟨running, concluded⟩ := reach before
      cases move with
      | @call thread call next reply after calling answered =>
          have advance := running.advance calling answered.1
          constructor
          · intro succeeded
            obtain ⟨stored, unhanded⟩ := recurse.1 succeeded
            have step := terminal_step advance answered.2 stored (by simp [isTerminal, succeeded])
            refine ⟨step.resolve_right fun retried => by simp [succeeded] at retried, ?_⟩
            intro event member
            rcases List.mem_append.mp member with earlier | latest
            · exact unhanded event earlier
            · obtain rfl := List.mem_singleton.mp latest
              rintro rfl
              obtain ⟨-, marked, staged, named, registered⟩ := advance.permitted
              exact concluded row stored succeeded thread marked staged named registered
          · intro dead
            rcases recurse.2 dead with stored | ⟨event, member, retries⟩
            · rcases terminal_step advance answered.2 stored (by simp [isTerminal, dead]) with kept | ⟨-, rfl, result, rfl⟩
              · exact .inl kept
              · exact .inr ⟨_, List.mem_append_right _ (List.mem_singleton_self _), thread, _, result, rfl⟩
            · exact .inr ⟨event, List.mem_append_left _ member, retries⟩

/-- As long as no worker starts a job that has ended, a job that has succeeded is never handed to its handler again,
and a dead-lettered job comes back by a retry of it only. -/
theorem ended_jobs_rest (processes : ι → JobProcess) (start : JobSystem)
    {middle last : Pool jobSignature JobFault (JobRun ι) ι} {before events : List (Event jobSignature ι)}
    (reached : Pool.Run lawful (launchJobs processes start) before middle) (run : Pool.Run lawful middle events last)
    {row : JobRecord} (found : middle.shared.system.jobs.find? row.id = some row) :
    (row.status = .succeeded → ∀ event ∈ events, event.request ≠ .startHandler row.id) ∧
      (row.status = .deadLettered → last.shared.system.jobs.find? row.id = some row ∨
        ∃ event ∈ events, Retries event row.id) := by
  have concluded : Concluded (launchJobs processes start).shared := by
    intro row _ _ thread marked staged
    cases staged
  have reach := (running_launch processes start).run reached (fun _ _ _ _ _ effect => effect.1)
    (fun _ _ _ _ _ holds advance effect => concluded_step holds advance effect.2) concluded
  have ended := terminal_run run reach.1 reach.2 found
  exact ⟨fun succeeded => (ended.1 succeeded).2, ended.2⟩

end Conclusions

section Samples

/-- Every call takes ten minutes, and every handler reports success. -/
def slowChance (tick : Nat) : Chance where
  now := tick * 600000000
  jitter := 0
  outcome := .returned true
  shutdown := false

def emptySystem (chance : Nat → Chance) : JobSystem where
  chance
  ticks := 0
  jobs := Table.empty
  ready := fun _ => []
  delayed := fun _ => []

def emailRequest : EnqueueRequest where
  taskType := "send_email"
  queueName := "default"
  payload := []
  priority := .normal
  maxAttempts := none
  scheduledFor := none
  requestId := none
  actorId := none

def sampleCrew : Fin 4 → JobProcess
  | 0 => .producer 3 emailRequest
  | 1 => .reaper 600000000
  | 2 => .promoter ["default"] 1
  | 3 => .worker "worker" ["default"] 2

def turns {ι : Type} (thread : ι) (count : Nat) : JobSchedule ι := List.replicate count (thread, none)

def lawfulCheck (_ : Fin 4) (state : JobRun (Fin 4)) (call : JobCall) (_ : Except JobFault call.Result) : Bool :=
  match call with
  | .markRunning jobId .. => (state.system.jobs.find? jobId).all fun row => !isTerminal row.status
  | .markSucceeded .. => (List.finRange 4).all fun other =>
      match (state.phases other).stage with
      | .marked _ => false
      | _ => true
  | _ => true

def firstPool : Pool jobSignature JobFault (JobRun (Fin 4)) (Fin 4) := launchJobs sampleCrew (emptySystem slowChance)

theorem lawful_of_check (thread : Fin 4) (state : JobRun (Fin 4)) (call : JobCall) (reply : Except JobFault call.Result)
    (after : JobRun (Fin 4)) (passed : lawfulCheck thread state call reply = true)
    (processed : processing thread state call reply after) : lawful thread state call reply after := by
  refine ⟨processed, ?_, ?_⟩
  · rintro row lockedBy rfl _ found
    have kept : ((state.system.jobs.find? row.id).all fun row => !isTerminal row.status) = true := passed
    simpa [found] using kept
  · rintro row rfl _ other marked staged
    have apart := List.all_eq_true.mp passed other (List.mem_finRange other)
    rw [staged] at apart
    cases apart

/-- The job is delivered once, and succeeds. -/
def promptDelivery : Pool jobSignature JobFault (JobRun (Fin 4)) (Fin 4) :=
  playJobs firstPool (turns 0 2 ++ turns 3 8)

theorem ended_jobs_rest_sample :
    ∃ row, promptDelivery.shared.system.jobs.find? 1 = some row ∧ row.status = .succeeded ∧
      (row.status = .succeeded → ∀ event ∈ traceJobs promptDelivery (turns 3 3), event.request ≠ .startHandler row.id) := by
  have stored : (promptDelivery.shared.system.jobs.find? 1).any (fun row => row.status == .succeeded) = true := by
    decide +kernel
  obtain ⟨row, found, succeeded⟩ := (Option.any_eq_true ..).mp stored
  have named : row.id = 1 := ((find?_eq_some_iff ..).mp found).2
  have reached := playJobs_runs lawfulCheck lawful_of_check firstPool (turns 0 2 ++ turns 3 8) (by decide +kernel)
  have run := playJobs_runs lawfulCheck lawful_of_check promptDelivery (turns 3 3) (by decide +kernel)
  have rest := ended_jobs_rest sampleCrew (emptySystem slowChance) reached run (named.symm ▸ found)
  exact ⟨row, found, by simpa using succeeded, rest.1⟩

/-- The reaper queues a waiting job for a second time; the second entry starts the job when it has succeeded. -/
theorem ended_job_started_again :
    ¬ ∀ (processes : Fin 4 → JobProcess) (start : JobSystem) (before events : List (Event jobSignature (Fin 4)))
        (middle last : Pool jobSignature JobFault (JobRun (Fin 4)) (Fin 4)),
        Pool.Run processing (launchJobs processes start) before middle → Pool.Run processing middle events last →
        ∀ row : JobRecord, middle.shared.system.jobs.find? row.id = some row →
          (row.status = .succeeded → ∀ event ∈ events, event.request ≠ .startHandler row.id) ∧
            (row.status = .deadLettered → last.shared.system.jobs.find? row.id = some row ∨
              ∃ event ∈ events, Retries event row.id) := by
  intro rests
  let recovered := turns (0 : Fin 4) 2 ++ turns 1 7 ++ turns 2 3 ++ turns 3 8
  have stored : ((playJobs firstPool recovered).shared.system.jobs.find? 1).any (fun row => row.status == .succeeded) = true := by
    decide +kernel
  obtain ⟨row, found, succeeded⟩ := (Option.any_eq_true ..).mp stored
  have named : row.id = 1 := ((find?_eq_some_iff ..).mp found).2
  have reached := playJobs_runs (fun _ _ _ _ => true) (fun _ _ _ _ _ _ processed => processed) firstPool recovered
    (by decide +kernel)
  have run := playJobs_runs (fun _ _ _ _ => true) (fun _ _ _ _ _ _ processed => processed)
    (playJobs firstPool recovered) (turns 3 6) (by decide +kernel)
  have unhanded := (rests sampleCrew (emptySystem slowChance) _ _ _ _ reached run row (named.symm ▸ found)).1
    (by simpa using succeeded)
  have handed : (traceJobs (playJobs firstPool recovered) (turns 3 6)).any
      (fun event => event.request == .startHandler 1) = true := by decide +kernel
  obtain ⟨event, member, started⟩ := List.any_eq_true.mp handed
  exact unhanded event member (by simpa [named] using started)

end Samples

end AutomationHub.Jobs
