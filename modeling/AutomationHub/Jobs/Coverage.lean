import AutomationHub.Jobs.Exclusion

/-!
No job is lost: what the queues, the processes and the reaper know of the jobs
that wait.

The reaper finds a queued job again unless it was put off to a time; it never
looks for a job between two attempts.
-/

set_option autoImplicit false

namespace AutomationHub.Jobs

open Foundation Model Database Program Table

section Queues

variable {state : JobSystem} {jobId : UUID}

/-- A ready list or a delayed set has an entry of the job. -/
def HasEntry (state : JobSystem) (jobId : UUID) : Prop :=
  (∃ key, ∃ envelope ∈ state.ready key, envelope.jobId = jobId) ∨
    ∃ queueName, ∃ entry ∈ state.delayed queueName, entry.1.jobId = jobId

theorem hasEntry_pushReady (has : HasEntry state jobId) (queueName : String) (envelope : Envelope) :
    HasEntry (state.pushReady queueName envelope) jobId := by
  rcases has with ⟨key, queued, member, named⟩ | delayed
  · refine .inl ⟨key, queued, ?_, named⟩
    by_cases same : key = (queueName, envelope.priority)
    · subst same
      simp [JobSystem.pushReady, member]
    · simpa [JobSystem.pushReady, same] using member
  · exact .inr delayed

theorem hasEntry_pushed (state : JobSystem) (queueName : String) (envelope : Envelope) :
    HasEntry (state.pushReady queueName envelope) envelope.jobId :=
  .inl ⟨(queueName, envelope.priority), envelope, by simp [JobSystem.pushReady], rfl⟩

theorem hasEntry_pushDelayed (has : HasEntry state jobId) (queueName : String) (envelope : Envelope) (readyAt : Datetime) :
    HasEntry (state.pushDelayed queueName envelope readyAt) jobId := by
  rcases has with ready | ⟨name, entry, member, named⟩
  · exact .inl ready
  · by_cases same : name = queueName
    · subst same
      by_cases replaced : entry.1 = envelope
      · exact .inr ⟨name, (envelope, readyAt), by simp [JobSystem.pushDelayed], replaced ▸ named⟩
      · exact .inr ⟨name, entry, by simp [JobSystem.pushDelayed, member, replaced], named⟩
    · exact .inr ⟨name, entry, by simpa [JobSystem.pushDelayed, same] using member, named⟩

theorem hasEntry_put_off (state : JobSystem) (queueName : String) (envelope : Envelope) (readyAt : Datetime) :
    HasEntry (state.pushDelayed queueName envelope readyAt) envelope.jobId :=
  .inr ⟨queueName, (envelope, readyAt), by simp [JobSystem.pushDelayed], rfl⟩

theorem hasEntry_promoted (queueName : String) (entries : List (Envelope × Datetime)) :
    ∀ start : JobSystem, HasEntry start jobId ∨ (∃ entry ∈ entries, entry.1.jobId = jobId) →
      HasEntry (entries.foldl (fun promoted entry => promoted.pushReady queueName entry.1) start) jobId := by
  induction entries with
  | nil =>
      intro start known
      exact known.resolve_right fun ⟨_, member, _⟩ => nomatch member
  | cons first rest recurse =>
      intro start known
      apply recurse
      rcases known with has | ⟨entry, member, named⟩
      · exact .inl (hasEntry_pushReady has queueName first.1)
      · rcases List.mem_cons.mp member with rfl | later
        · exact .inl (named ▸ hasEntry_pushed start queueName entry.1)
        · exact .inr ⟨entry, later, named⟩

theorem hasEntry_promoteDue (has : HasEntry state jobId) (queueName : String) (now : Datetime) :
    HasEntry (state.promoteDue queueName now).2 jobId := by
  apply hasEntry_promoted
  rcases has with ready | ⟨name, entry, member, named⟩
  · exact .inl (.inl ready)
  · by_cases same : name = queueName
    · subst same
      rcases Nat.lt_or_ge now entry.2 with later | due
      · exact .inl (.inr ⟨name, entry, by simp [member, later], named⟩)
      · refine .inr ⟨entry, ?_, named⟩
        exact mem_orderBy.mpr (List.mem_filter.mpr ⟨member, by simpa using due⟩)
    · exact .inl (.inr ⟨name, entry, by simpa [same] using member, named⟩)

theorem hasEntry_dequeue (has : HasEntry state jobId) (queueNames : List String) (priorityOrder : List JobPriority) :
    HasEntry (state.dequeue queueNames priorityOrder).2 jobId ∨
      (state.dequeue queueNames priorityOrder).1 = some jobId := by
  unfold JobSystem.dequeue
  cases ready : state.firstReady queueNames priorityOrder with
  | none => exact .inl has
  | some key =>
      rcases has with ⟨other, envelope, member, named⟩ | delayed
      · by_cases same : other = key
        · subst same
          have listed : state.ready other ≠ [] := List.ne_nil_of_mem member
          rw [← List.dropLast_append_getLast listed] at member
          rcases List.mem_append.mp member with kept | last
          · exact .inl (.inl ⟨other, envelope, by simpa using kept, named⟩)
          · obtain rfl := List.mem_singleton.mp last
            exact .inr (by simp [List.getLast?_eq_some_getLast listed, named])
        · exact .inl (.inl ⟨other, envelope, by simpa [same] using member, named⟩)
      · exact .inl (.inr delayed)

theorem hasEntry_step {call : JobCall} {reply : Except JobFault call.Result} {after : JobSystem}
    (has : HasEntry state jobId) (stepped : jobStep state call reply after) :
    HasEntry after jobId ∨ (∃ queueNames priorityOrder, call = .dequeue queueNames priorityOrder) ∧
      ∀ phase : JobPhase, (phase.after call reply).held = some jobId ∧ (phase.after call reply).stage = phase.stage := by
  rcases stepped with outcome | ⟨fault, -, -, -, rfl⟩
  · obtain ⟨rfl, rfl⟩ := Prod.mk.inj outcome
    cases call with
    | pushReady queueName priority other => exact .inl (hasEntry_pushReady has queueName { jobId := other, priority })
    | pushDelayed queueName priority other readyAt =>
        exact .inl (hasEntry_pushDelayed has queueName { jobId := other, priority } readyAt)
    | promoteDue queueName now => exact .inl (hasEntry_promoteDue has queueName now)
    | dequeue queueNames priorityOrder =>
        rcases hasEntry_dequeue has queueNames priorityOrder with kept | popped
        · exact .inl kept
        · exact .inr ⟨⟨_, _, rfl⟩, fun phase => ⟨popped, rfl⟩⟩
    | _ => exact .inl has
  · exact .inl has

end Queues

section Cover

variable {ι : Type} [DecidableEq ι]

/-- The job waits for an entry, since the reaper does not look for it. -/
def Waiting (job : JobRecord) : Prop :=
  job.status = .retrying ∨ job.status = .queued ∧ job.scheduledFor ≠ none

/-- The process holds the job, and knows its row as it is stored if it has fetched it. -/
structure Holds (state : JobRun ι) (thread : ι) (jobId : UUID) : Prop where
  held : (state.phases thread).held = some jobId
  current : ∀ row, (state.phases thread).stage = .fetched row → state.system.jobs.find? jobId = some row

/-- What the calls avoid that would leave a job to nobody.  `keeper` are the processes that count as live workers. -/
structure Careful (keeper : ι → Prop) (thread : ι) (state : JobRun ι) (call : JobCall)
    (reply : Except JobFault call.Result) : Prop where
  failing : keeper thread → ∀ jobId fault, (state.phases thread).held = some jobId → reply = .error fault →
    (∀ row, state.system.jobs.find? jobId = some row → ¬ Waiting row) ∨ HasEntry state.system jobId ∨
      ∃ other, other ≠ thread ∧ keeper other ∧ Holds state other jobId
  popping : ¬ keeper thread → ∀ queueNames priorityOrder, call ≠ .dequeue queueNames priorityOrder
  creating : ¬ keeper thread → (∃ result, reply = .ok result) → call.scheduledFor = none
  retrying : ¬ keeper thread → (∃ result, reply = .ok result) →
    ∀ jobId expectedVersion attempts error history nextAttempt,
      call = .markFailedWillRetry jobId expectedVersion attempts error history nextAttempt →
      HasEntry state.system jobId

def careful (keeper : ι → Prop) : Effect jobSignature (JobRun ι) ι := fun thread state call reply after =>
  processing thread state call reply after ∧ Careful keeper thread state call reply

/-- Every job that waits has an entry, or a live worker that holds it. -/
def Kept (keeper : ι → Prop) (state : JobRun ι) : Prop :=
  ∀ row : JobRecord, state.system.jobs.find? row.id = some row → Waiting row →
    HasEntry state.system row.id ∨ ∃ thread, keeper thread ∧ Holds state thread row.id

variable {keeper : ι → Prop} {thread : ι} {state after : JobRun ι} {call : JobCall}
  {reply : Except JobFault call.Result}

/-- A process that holds a job keeps it through a call that succeeds, or leaves it an entry. -/
theorem holds_after {row : JobRecord} (advance : Advance thread state call reply after) (holds : Holds state thread row.id)
    (succeeded : ∃ result, reply = .ok result) (before : state.system.jobs.find? row.id = some row)
    (found : after.system.jobs.find? row.id = some row) (waiting : Waiting row) :
    HasEntry after.system row.id ∨ Holds after thread row.id := by
  obtain ⟨result, rfl⟩ := succeeded
  have permitted := advance.permitted
  have tells := advance.tells
  have busy : (state.phases thread).held ≠ none := by simp [holds.held]
  have onward : (state.phases thread).after call (.ok result) = state.phases thread → Holds after thread row.id := by
    intro same
    refine ⟨by rw [advance.phases_self, same, holds.held], ?_⟩
    intro fetched staged
    rw [advance.phases_self, same] at staged
    rw [found, ← before, holds.current fetched staged]
  have pushed : ∀ later, jobEnvironment call state.system = (.ok result, later) → after.system = later := by
    intro later outcome
    rcases advance.stepped with same | ⟨_, _, _, same, _⟩
    · rw [outcome] at same
      exact (Prod.mk.inj same).2.symm
    · cases same
  cases call with
  | getJob jobId =>
      rcases permitted.2 with idle | same
      · exact absurd idle busy
      · rw [holds.held] at same
        obtain rfl := Option.some.inj same
        have named : result.id = row.id := (possible_of_jobStep advance.stepped).fetches
        refine .inr ⟨?_, ?_⟩
        · rw [advance.phases_self]
          simp [JobPhase.after, holds.held]
        · intro fetched staged
          rw [advance.phases_self] at staged
          simp only [JobPhase.after, holds.held] at staged
          obtain rfl := Stage.fetched.inj staged
          exact named ▸ find?_of_mem _ tells
  | markRunning jobId expectedVersion lockedBy =>
      obtain ⟨fetched, staged, keyed, -⟩ := permitted
      have named : fetched.id = row.id := ((find?_eq_some_iff ..).mp (holds.current fetched staged)).2
      have stored := find?_of_mem _ tells.1
      rw [key_job, tells.2.1, ← keyed, named, found] at stored
      obtain rfl := Option.some.inj stored
      rcases waiting with retrying | ⟨queued, -⟩
      · rw [tells.2.2] at retrying
        cases retrying
      · rw [tells.2.2] at queued
        cases queued
  | pushReady queueName priority jobId =>
      have same : some jobId = some row.id := permitted.1.symm.trans holds.held
      obtain rfl := Option.some.inj same
      rw [pushed _ rfl]
      exact .inl (hasEntry_pushed state.system queueName { jobId := row.id, priority })
  | pushDelayed queueName priority jobId readyAt =>
      have same : some jobId = some row.id := permitted.1.symm.trans holds.held
      obtain rfl := Option.some.inj same
      rw [pushed _ rfl]
      exact .inl (hasEntry_put_off state.system queueName { jobId := row.id, priority } readyAt)
  | dequeue | createJob | listStuckRunning | listStuckQueued => exact absurd permitted.held busy
  | startHandler | awaitHandler | markSucceeded => exact absurd permitted.1 busy
  | markFailedWillRetry | markDeadLettered =>
      obtain ⟨_, settles, _⟩ := permitted
      exact absurd settles.1 busy
  | retryDeadLetter => exact absurd permitted.1.held busy
  | _ => exact .inr (onward rfl)

theorem Holds.other {row : JobRecord} {holder : ι} (holds : Holds state holder row.id) (apart : holder ≠ thread)
    (advance : Advance thread state call reply after) (found : state.system.jobs.find? row.id = some row)
    (kept : after.system.jobs.find? row.id = some row) : Holds after holder row.id where
  held := by rw [advance.phases_other apart, holds.held]
  current := by
    intro fetched staged
    rw [advance.phases_other apart] at staged
    rw [kept, ← holds.current fetched staged, found]

theorem kept_unchanged (kept : Kept keeper state) (advance : Advance thread state call reply after)
    (careful : Careful keeper thread state call reply) {row : JobRecord}
    (before : state.system.jobs.find? row.id = some row) (found : after.system.jobs.find? row.id = some row)
    (waiting : Waiting row) : HasEntry after.system row.id ∨ ∃ holder, keeper holder ∧ Holds after holder row.id := by
  have entry : HasEntry state.system row.id →
      HasEntry after.system row.id ∨ ∃ holder, keeper holder ∧ Holds after holder row.id := by
    intro has
    rcases hasEntry_step has advance.stepped with still | ⟨⟨queueNames, priorityOrder, rfl⟩, popped⟩
    · exact .inl still
    · by_cases counts : keeper thread
      · refine .inr ⟨thread, counts, ?_, ?_⟩
        · rw [advance.phases_self]
          exact (popped _).1
        · intro fetched staged
          rw [advance.phases_self, (popped _).2, advance.permitted.stage] at staged
          cases staged
      · exact absurd rfl (careful.popping counts queueNames priorityOrder)
  rcases kept row before waiting with has | ⟨holder, counts, holds⟩
  · exact entry has
  · by_cases own : holder = thread
    · subst own
      rcases replied : reply with fault | result
      · rcases careful.failing counts row.id fault holds.held replied with settled | has | ⟨other, apart, also, held⟩
        · exact absurd waiting (settled row before)
        · exact entry has
        · exact .inr ⟨other, also, held.other apart advance before found⟩
      · exact (holds_after advance holds ⟨result, replied⟩ before found waiting).imp_right fun still => ⟨holder, counts, still⟩
    · exact .inr ⟨holder, counts, holds.other own advance before found⟩

theorem kept_step (kept : Kept keeper state) (advance : Advance thread state call reply after)
    (careful : Careful keeper thread state call reply) : Kept keeper after := by
  intro new stored waiting
  cases advance.move with
  | kept same _ => exact kept_unchanged kept advance careful (same ▸ stored) stored waiting
  | created draft inserted fresh named unstaged accepted _ =>
      have found := stored
      rw [inserted, find?_insert] at stored
      split at stored
      · rename_i next
        obtain rfl := Option.some.inj stored
        obtain ⟨queued, -, -, scheduled⟩ := fresh state.system.jobs.next
        have putOff : call.scheduledFor ≠ none := by
          rcases waiting with retrying | ⟨-, putOff⟩
          · rw [queued] at retrying
            cases retrying
          · exact scheduled ▸ putOff
        by_cases counts : keeper thread
        · refine .inr ⟨thread, counts, by rw [advance.phases_self, named, next], ?_⟩
          intro fetched staged
          rw [advance.phases_self, unstaged] at staged
          cases staged
        · exact absurd (careful.creating counts accepted) putOff
      · exact kept_unchanged kept advance careful stored found waiting
  | changed row edit old change accepted written =>
      have found := stored
      rw [written, find?_modify] at stored
      split at stored
      · rename_i same
        rw [old] at stored
        obtain rfl := Option.some.inj stored
        rw [same]
        obtain ⟨result, rfl⟩ := accepted
        cases change with
        | failed error nextAttempt settles alive left =>
            by_cases counts : keeper thread
            · refine .inr ⟨thread, counts, by rw [advance.phases_self]; rfl, ?_⟩
              intro fetched staged
              rw [advance.phases_self] at staged
              cases staged
            · have has := careful.retrying counts ⟨result, rfl⟩ _ _ _ _ _ _ rfl
              refine .inl ((hasEntry_step has advance.stepped).resolve_right ?_)
              rintro ⟨⟨queueNames, priorityOrder, same⟩, -⟩
              cases same
        | retried inspected dead => exact absurd rfl (waiting.resolve_left fun retrying => nomatch retrying).2
        | _ => rcases waiting with status | ⟨status, -⟩ <;> cases status
      · exact kept_unchanged kept advance careful stored found waiting

/-- The job is in a queue, or with a live worker, or found by a query of the reaper once enough time has passed. -/
def Covered (keeper : ι → Prop) (pool : Pool jobSignature JobFault (JobRun ι) ι) (row : JobRecord) : Prop :=
  HasEntry pool.shared.system row.id ∨
    (∃ thread, keeper thread ∧ ¬ (pool.threads thread).Halted ∧ (pool.shared.phases thread).held = some row.id) ∨
    ∃ instant, ∀ olderThan, instant < olderThan →
      JobSystem.stuckRunning olderThan row = true ∨ JobSystem.stuckQueued olderThan row = true

theorem found_by_reaper {row : JobRecord} (queued : row.status = .queued) (unscheduled : row.scheduledFor = none) :
    ∀ olderThan, row.createdAt < olderThan → JobSystem.stuckQueued olderThan row = true := by
  intro olderThan passed
  simp [JobSystem.stuckQueued, queued, unscheduled, passed]

/-- As long as no call fails in the only process that holds a waiting job, and only processes that count as live workers
take jobs out of the sight of the reaper, no job is lost. -/
theorem no_job_lost (keeper : ι → Prop) (processes : ι → JobProcess) (start : JobSystem)
    {last : Pool jobSignature JobFault (JobRun ι) ι} {events : List (Event jobSignature ι)}
    (run : Pool.Run (careful keeper) (launchJobs processes { start with jobs := Table.empty }) events last)
    {row : JobRecord} (stored : row ∈ last.shared.system.jobs.rows)
    (pending : row.status = .queued ∨ row.status = .retrying) : Covered keeper last row := by
  have empty : Kept keeper (launchJobs processes { start with jobs := Table.empty }).shared := fun _ found => nomatch found
  obtain ⟨running, kept⟩ := (running_launch processes _).run run (fun _ _ _ _ _ effect => effect.1)
    (fun _ _ _ _ _ holds advance effect => kept_step holds advance effect.2) empty
  by_cases waiting : Waiting row
  · rcases kept row (find?_of_mem _ stored) waiting with has | ⟨thread, counts, holds⟩
    · exact .inl has
    · refine .inr (.inl ⟨thread, counts, ?_, holds.held⟩)
      intro halted
      obtain ⟨_, rests⟩ := (running.follows thread).halted halted
      exact nomatch rests.held.symm.trans holds.held
  · have queued : row.status = .queued := pending.resolve_right fun retrying => waiting (.inl retrying)
    have unscheduled : row.scheduledFor = none := by
      by_contra putOff
      exact waiting (.inr ⟨queued, putOff⟩)
    exact .inr (.inr ⟨row.createdAt, fun olderThan passed => .inr (found_by_reaper queued unscheduled olderThan passed)⟩)

end Cover

section Samples

/-- Every handler reports a failure. -/
def failingChance (tick : Nat) : Chance := { slowChance tick with outcome := .returned false }

def failingCrew : Fin 2 → JobProcess
  | 0 => .producer 3 emailRequest
  | 1 => .worker "worker" ["default"] 1

def failingPool : Pool jobSignature JobFault (JobRun (Fin 2)) (Fin 2) :=
  launchJobs failingCrew { emptySystem failingChance with jobs := Table.empty }

theorem careful_of_check (thread : Fin 2) (state : JobRun (Fin 2)) (call : JobCall) (reply : Except JobFault call.Result)
    (after : JobRun (Fin 2)) (passed : (match reply with | .ok _ => true | .error _ => false) = true)
    (processed : processing thread state call reply after) : careful (fun _ => True) thread state call reply after := by
  refine ⟨processed, ?_, fun uncounted => (uncounted trivial).elim, fun uncounted => (uncounted trivial).elim,
    fun uncounted => (uncounted trivial).elim⟩
  rintro - jobId fault - rfl
  cases passed

/-- The job has failed once, and is not yet in the delayed set. -/
def failedOnce : Pool jobSignature JobFault (JobRun (Fin 2)) (Fin 2) := playJobs failingPool (turns 0 2 ++ turns 1 10)

theorem no_job_lost_sample :
    ∃ row ∈ failedOnce.shared.system.jobs.rows, row.status = .retrying ∧ Covered (fun _ => True) failedOnce row := by
  have stored : failedOnce.shared.system.jobs.rows.any (fun row => row.status == .retrying) = true := by decide +kernel
  obtain ⟨row, member, retrying⟩ := List.any_eq_true.mp stored
  have pending : row.status = .retrying := by simpa using retrying
  have run := playJobs_runs (fun _ _ _ reply => match reply with | .ok _ => true | .error _ => false) careful_of_check
    failingPool (turns 0 2 ++ turns 1 10) (by decide +kernel)
  exact ⟨row, member, pending, no_job_lost (fun _ => True) failingCrew (emptySystem failingChance) run member (.inr pending)⟩

def laterCrew : Fin 1 → JobProcess := fun _ => .producer 3 { emailRequest with scheduledFor := some 1 }

def laterPool : Pool jobSignature JobFault (JobRun (Fin 1)) (Fin 1) :=
  launchJobs laterCrew { emptySystem slowChance with jobs := Table.empty }

/-- The push of a job that was put off fails: no queue and no process knows of it, and no query of the reaper finds it. -/
def unpushed : JobSchedule (Fin 1) := [(0, none), (0, some (.redis "Connection refused"))]

theorem put_off_job_lost :
    ¬ ∀ (processes : Fin 1 → JobProcess) (start : JobSystem) (events : List (Event jobSignature (Fin 1)))
        (last : Pool jobSignature JobFault (JobRun (Fin 1)) (Fin 1)),
        Pool.Run processing (launchJobs processes { start with jobs := Table.empty }) events last →
        ∀ row ∈ last.shared.system.jobs.rows, row.status = .queued ∨ row.status = .retrying →
          Covered (fun _ => True) last row := by
  intro covered
  have run := playJobs_runs (fun _ _ _ _ => true) (fun _ _ _ _ _ _ processed => processed) laterPool unpushed
    (by decide +kernel)
  have stored : (playJobs laterPool unpushed).shared.system.jobs.rows.any
      (fun row => row.status == .queued && row.scheduledFor == some 1) = true := by decide +kernel
  obtain ⟨row, member, selected⟩ := List.any_eq_true.mp stored
  obtain ⟨queued, putOff⟩ := Bool.and_eq_true_iff.mp selected
  simp only [beq_iff_eq] at queued putOff
  rcases covered laterCrew (emptySystem slowChance) _ _ run row member (.inl queued) with
    (⟨_, _, entry, _⟩ | ⟨_, _, entry, _⟩) | ⟨thread, -, -, held⟩ | ⟨instant, found⟩
  · cases entry
  · cases entry
  · obtain rfl : thread = 0 := Subsingleton.elim _ _
    cases held
  · rcases found (instant + 1) (Nat.lt_succ_self _) with running | swept
    · simp [JobSystem.stuckRunning, queued] at running
    · simp [JobSystem.stuckQueued, putOff] at swept

end Samples

end AutomationHub.Jobs
