import AutomationHub.Scheduler.Instances

/-!
Enabling and disabling jobs while the backend ticks.

The registry says which jobs are enabled; the backend is told of it only when a
job is registered and when the scheduler starts.
-/

set_option autoImplicit false

namespace AutomationHub.Scheduler

open Foundation Model Program

/-- The backend holds enabled jobs only, and every one of them once it runs. -/
structure Synchronised (coordinator : Coordinator) : Prop where
  enabled : ∀ name, coordinator.isScheduled name = true → coordinator.isEnabled name = true
  held : coordinator.running = true → ∀ name, coordinator.isEnabled name = true → coordinator.isScheduled name = true

/-- The operation disables no job that the backend holds, and enables no registered one that a running backend lacks. -/
def Operation.Told (coordinator : Coordinator) : Operation → Prop
  | .disable name => coordinator.isScheduled name = false
  | .enable name =>
      coordinator.running = true → coordinator.isRegistered name = true → coordinator.isScheduled name = true
  | _ => True

theorem synchronised_operate {coordinator : Coordinator} (synchronised : Synchronised coordinator) {operation : Operation}
    (told : operation.Told coordinator) : Synchronised (coordinator.operate operation).2 := by
  cases operation with
  | register name defaultIntervalSeconds intervalSeconds enabled =>
      simp only [Coordinator.operate]
      by_cases known : coordinator.isRegistered name = true
      · simpa only [Coordinator.registerJob, known, if_true] using synchronised
      · obtain ⟨-, enables, schedules, runs, -⟩ :=
          register_spec coordinator defaultIntervalSeconds intervalSeconds enabled (by simpa using known)
        constructor
        · intro other held
          rw [schedules] at held
          rw [enables]
          rcases Bool.or_eq_true_iff.mp held with before | added
          · simp [synchronised.enabled other before]
          · obtain ⟨both, same⟩ := Bool.and_eq_true_iff.mp added
            simp [same, (Bool.and_eq_true_iff.mp both).2]
        · intro running other isEnabled
          rw [runs] at running
          rw [enables] at isEnabled
          rw [schedules]
          rcases Bool.or_eq_true_iff.mp isEnabled with before | added
          · simp [synchronised.held running other before]
          · obtain ⟨same, permitted⟩ := Bool.and_eq_true_iff.mp added
            simp [running, same, permitted]
  | start backendFails =>
      obtain ⟨running, scheduled, same, -, held⟩ := start_spec coordinator backendFails
      have enables : ∀ name, (coordinator.start backendFails).2.isEnabled name = coordinator.isEnabled name := by
        intro name
        rw [same]
        rfl
      simp only [Coordinator.operate]
      constructor
      · intro name isHeld
        rw [held] at isHeld
        rw [enables]
        exact (Bool.or_eq_true_iff.mp isHeld).elim (synchronised.enabled name) id
      · intro _ name isEnabled
        rw [enables] at isEnabled
        rw [held, isEnabled, Bool.or_true]
  | enable name =>
      simp only [Coordinator.operate]
      split
      · rename_i registered
        constructor
        · intro other held
          have before := synchronised.enabled other held
          rw [isEnabled_setEnabled]
          split
          · simpa using isRegistered_of_isEnabled before
          · exact before
        · intro running other isEnabled
          rw [isEnabled_setEnabled] at isEnabled
          split at isEnabled
          · rename_i same
            exact same ▸ told running registered
          · exact synchronised.held running other isEnabled
      · exact synchronised
  | disable name =>
      simp only [Coordinator.operate]
      split
      · constructor
        · intro other held
          rw [isEnabled_setEnabled]
          split
          · rename_i same
            have lacking : coordinator.isScheduled other = false := same ▸ told
            exact absurd (lacking.symm.trans held) (by decide)
          · exact synchronised.enabled other held
        · intro running other isEnabled
          rw [isEnabled_setEnabled] at isEnabled
          split at isEnabled
          · simp at isEnabled
          · exact synchronised.held running other isEnabled
      · exact synchronised

theorem synchronised_move {call : SchedulerCall} {host : Nat} {before after : Coordinator}
    (synchronised : Synchronised before) (told : ∀ operation, call = .operate host operation → operation.Told before)
    (move : CoordinatorMove call host before after) : Synchronised after := by
  cases move with
  | operated operation called => exact synchronised_operate synchronised (told operation called)
  | _ => exact ⟨synchronised.enabled, synchronised.held⟩

section Runs

variable {server : LockServer} {ι : Type} [DecidableEq ι]

/-- The backend is told of every operation that concerns it. -/
def telling : Effect schedulerSignature (SchedulerRun server ι) ι := fun thread state call reply after =>
  scheduling thread state call reply after ∧
    ∀ host operation, call = .operate host operation → operation.Told (state.cluster.coordinators host)

/-- The ticks fire enabled jobs only, and run nothing before they fire. -/
structure Ticking (processes : ι → SchedulerProcess) (state : SchedulerRun server ι) : Prop where
  synchronised : ∀ host, Synchronised (state.cluster.coordinators host)
  enabled : ∀ thread, (state.phases thread).fired = true → state.firedEnabled thread = true
  fired : ∀ thread, (processes thread).triggers = false →
    (state.phases thread).known = (state.phases thread).fired ∧
      ((state.phases thread).ran = true → (state.phases thread).known = true)

variable {processes : ι → SchedulerProcess} {thread : ι} {state after : SchedulerRun server ι} {call : SchedulerCall}
  {reply : Except SchedulerFault call.Result}

/-- A runner that no operator triggered knows its job from its tick, and runs it only then. -/
theorem fired_after {own : Option Site} {phase : RunnerPhase} (permitted : phase.Permits own false call)
    (invariant : phase.known = phase.fired ∧ (phase.ran = true → phase.known = true)) :
    (phase.after call reply).known = (phase.after call reply).fired ∧
      ((phase.after call reply).ran = true → (phase.after call reply).known = true) := by
  obtain ⟨fires, runs⟩ := invariant
  rcases reply with fault | result
  · cases call with
    | acquire host slot | release host slot => cases slot <;> cases fault <;> exact ⟨fires, runs⟩
    | _ => cases fault <;> exact ⟨fires, runs⟩
  · cases call with
    | fire site =>
        constructor
        · exact congrArg (· || result) fires
        · intro ran
          exact Bool.or_eq_true_iff.mpr (.inl (runs ran))
    | requireJob site =>
        have known := permitted.2.resolve_right (by decide)
        exact ⟨known.symm.trans fires, fun _ => rfl⟩
    | startJob site => exact ⟨fires, fun _ => permitted.2.1⟩
    | tryLock site => cases result <;> exact ⟨fires, runs⟩
    | acquire host slot => cases slot <;> cases result <;> exact ⟨fires, runs⟩
    | release host slot => cases slot <;> exact ⟨fires, runs⟩
    | _ => exact ⟨fires, runs⟩

theorem fired_other {phase : RunnerPhase} (apart : ∀ site, call ≠ .fire site) :
    (phase.after call reply).fired = phase.fired := by
  rcases reply with fault | result
  · cases call with
    | acquire host slot | release host slot => cases slot <;> cases fault <;> rfl
    | _ => cases fault <;> rfl
  · cases call with
    | fire site => exact absurd rfl (apart site)
    | tryLock site => cases result <;> rfl
    | acquire host slot => cases slot <;> cases result <;> rfl
    | release host slot => cases slot <;> rfl
    | _ => rfl

theorem noteFire_other {notes : ι → Bool} {state : Cluster server} (apart : ∀ site, call ≠ .fire site) :
    noteFire thread state call reply notes = notes := by
  cases call with
  | fire site => exact absurd rfl (apart site)
  | _ => rfl

theorem enabled_after (synchronised : ∀ host, Synchronised (state.cluster.coordinators host))
    (stepped : schedulerStep state.cluster call reply after.cluster)
    (enabled : ∀ other, (state.phases other).fired = true → state.firedEnabled other = true) {other : ι}
    (fired : (Function.update state.phases thread ((state.phases thread).after call reply) other).fired = true) :
    noteFire thread state.cluster call reply state.firedEnabled other = true := by
  by_cases firing : ∃ site, call = .fire site
  · obtain ⟨site, rfl⟩ := firing
    rcases reply with fault | fires
    · have unmoved : ((state.phases thread).after (.fire site) (.error fault)).fired = (state.phases thread).fired := by
        cases fault <;> rfl
      refine enabled other ?_
      by_cases own : other = thread
      · subst own
        rw [Function.update_self] at fired
        exact unmoved.symm.trans fired
      · rwa [Function.update_of_ne own] at fired
    · by_cases own : other = thread
      · subst own
        rw [Function.update_self] at fired
        cases fires with
        | false => exact enabled other (by simpa [RunnerPhase.after] using fired)
        | true =>
            have outcome := Except.ok.inj (outcome_of_step stepped).1
            have held := (Bool.and_eq_true_iff.mp outcome).2
            simpa [noteFire] using (synchronised site.host).enabled site.job held
      · rw [Function.update_of_ne own] at fired
        cases fires with
        | false => exact enabled other fired
        | true => simpa [noteFire, own] using enabled other fired
  · have apart : ∀ site, call ≠ .fire site := fun site same => firing ⟨site, same⟩
    rw [noteFire_other apart]
    refine enabled other ?_
    by_cases own : other = thread
    · subst own
      rw [Function.update_self] at fired
      exact (fired_other apart).symm.trans fired
    · rwa [Function.update_of_ne own] at fired

theorem ticking_step (ticking : Ticking processes state)
    (permitted : (state.phases thread).Permits (processes thread).site? (processes thread).triggers call)
    (told : telling thread state call reply after) : Ticking processes after where
  synchronised := fun host => synchronised_move (ticking.synchronised host) (told.2 host) (coordinator_move told.1.1 host)
  enabled := by
    intro other fired
    rw [told.1.2.1] at fired
    rw [told.1.2.2.2]
    exact enabled_after ticking.synchronised told.1.1 ticking.enabled fired
  fired := by
    intro other unasked
    rw [told.1.2.1]
    by_cases own : other = thread
    · subst own
      rw [Function.update_self]
      rw [unasked] at permitted
      exact fired_after permitted (ticking.fired other unasked)
    · rw [Function.update_of_ne own]
      exact ticking.fired other unasked

/-- As long as the backend is told of every operation that concerns it, a running backend holds the enabled jobs and no
others, no tick runs a job that was not enabled when it fired, and a tick that has fired runs its job exactly if the job
was enabled and no condition failed it. -/
theorem ticks_follow_registry (processes : ι → SchedulerProcess) (chance : Nat → SchedulerChance) (store : server.Store)
    (elects : Nat → Bool) (jobLockTtl : Option Nat) (leaderLockTtl : Nat) (isLeader : Nat → Bool)
    {last : Pool schedulerSignature SchedulerFault (SchedulerRun server ι) ι} {events : List (Event schedulerSignature ι)}
    (run : Pool.Run telling
      (launchScheduler processes (freshCluster server chance store elects jobLockTtl leaderLockTtl isLeader)) events last) :
    (∀ host name, (last.shared.cluster.coordinators host).running = true →
      (last.shared.cluster.coordinators host).isScheduled name =
        (last.shared.cluster.coordinators host).isEnabled name) ∧
      ∀ thread site, processes thread = .backend site →
        ((last.shared.phases thread).ran = true → last.shared.firedEnabled thread = true) ∧
          (last.threads thread = .done () → (last.shared.phases thread).fired = true →
            ((last.shared.phases thread).ran = true ↔
              last.shared.firedEnabled thread = true ∧ (last.shared.phases thread).blocked = false)) := by
  have start : Ticking processes
      (launchScheduler processes (freshCluster server chance store elects jobLockTtl leaderLockTtl isLeader)).shared :=
    ⟨fun _ => ⟨fun _ held => (nomatch held), fun running => (nomatch running)⟩, fun _ fired => (nomatch fired),
      fun _ _ => ⟨rfl, fun ran => (nomatch ran)⟩⟩
  obtain ⟨follows, -, ticking⟩ := @scheduler_run _ _ _ _ _ (fun _ => Ticking processes) _ _ _ run (fun _ _ _ _ _ told => told.1) (fun thread => ensures_process _)
    (founded_launch processes chance store elects jobLockTtl leaderLockTtl isLeader)
    (fun _ _ _ _ _ _ ticking _ permitted told => ticking_step ticking permitted told) start
  constructor
  · intro host name running
    have synchronised := ticking.synchronised host
    exact Bool.eq_iff_iff.mpr ⟨synchronised.enabled name, synchronised.held running name⟩
  · intro thread site process
    obtain ⟨knows, runs⟩ := ticking.fired thread (by rw [process]; rfl)
    have enabled := ticking.enabled thread
    refine ⟨fun ran => enabled (knows.symm.trans (runs ran)), ?_⟩
    intro finished fired
    have concluded := follows thread
    rw [finished] at concluded
    have accomplished : Accomplished .outside (last.shared.phases thread) := concluded (knows.trans fired)
    rw [accomplished.ran, enabled fired]
    simp

end Runs

section Samples

def quietChance (_ : Nat) : SchedulerChance where
  now := 0
  mistaken := false
  outcome := { startedAt := 0, finishedAt := 0, success := true, errorMessage := none }

/-- One instance without a lock server, in which any process has the leadership. -/
def lonelyCluster : Cluster (LeaseService.timed String Token) :=
  freshCluster (LeaseService.timed String Token) quietChance (fun _ => none) (fun _ => false) none 30 (fun _ => true)

def cleanup : Site := { host := 0, job := "cleanup_expired_sessions" }

/-- A job is registered, started and disabled, and its backend ticks. -/
def disablingCrew : Fin 4 → SchedulerProcess
  | 0 => .operator 0 (.register cleanup.job 300 none true)
  | 1 => .operator 0 (.start none)
  | 2 => .operator 0 (.disable cleanup.job)
  | 3 => .backend cleanup

/-- A job is registered disabled, and enabled once the backend runs. -/
def enablingCrew : Fin 3 → SchedulerProcess
  | 0 => .operator 0 (.register cleanup.job 300 none false)
  | 1 => .operator 0 (.start none)
  | 2 => .operator 0 (.enable cleanup.job)

def toldCheck {ι : Type} (_ : ι) (strikes : Option SchedulerFault) (state : SchedulerRun (LeaseService.timed String Token) ι)
    (call : SchedulerCall) : Bool :=
  (strikes.all fun fault => call.struck fault) && match call with
    | .operate host (.disable name) => !(state.cluster.coordinators host).isScheduled name
    | .operate host (.enable name) => (state.cluster.coordinators host).isScheduled name
    | _ => true

theorem telling_of_check {ι : Type} [DecidableEq ι] (thread : ι) (strikes : Option SchedulerFault)
    (state : SchedulerRun (LeaseService.timed String Token) ι) (call : SchedulerCall)
    (passed : toldCheck thread strikes state call = true) :
    telling thread state call (schedulerHandler thread strikes call state).1
      (schedulerHandler thread strikes call state).2 := by
  obtain ⟨struck, told⟩ := Bool.and_eq_true_iff.mp passed
  refine ⟨schedulerHandler_scheduling thread strikes state call struck, ?_⟩
  rintro host operation rfl
  cases operation with
  | register | start => trivial
  | enable name => exact fun _ _ => told
  | disable name => simpa [Operation.Told] using told

/-- The job is registered and started, and ticks once. -/
def tickedOnce : Pool schedulerSignature SchedulerFault (SchedulerRun (LeaseService.timed String Token) (Fin 4)) (Fin 4) :=
  Pool.enact schedulerHandler (launchScheduler disablingCrew lonelyCluster)
    ([(0, none), (1, none)] ++ List.replicate 13 (3, none))

theorem ticks_follow_registry_sample :
    ∃ halted, tickedOnce.threads 3 = .done halted ∧ (tickedOnce.shared.phases 3).ran = true := by
  have run := Pool.enact_runs telling_of_check (launchScheduler disablingCrew lonelyCluster)
    ([(0, none), (1, none)] ++ List.replicate 13 (3, none)) (by decide +kernel)
  have followed := (@ticks_follow_registry (LeaseService.timed String Token) (Fin 4) _ disablingCrew quietChance
    (fun _ => none) (fun _ => false) none 30 (fun _ => true) _ _ run).2 3 cleanup rfl
  have finished : tickedOnce.threads 3 = .done () := Program.returned?_eq_some_iff.mp (by decide +kernel)
  exact ⟨(), finished, (followed.2 finished (by decide +kernel)).mpr ⟨by decide +kernel, by decide +kernel⟩⟩

/-- The tick runs the job that was disabled, and the backend does not hold the job that was enabled. -/
theorem disabled_job_runs :
    (¬ ∀ (processes : Fin 4 → SchedulerProcess) (events : List (Event schedulerSignature (Fin 4)))
        (last : Pool schedulerSignature SchedulerFault (SchedulerRun (LeaseService.timed String Token) (Fin 4)) (Fin 4)),
        Pool.Run scheduling (launchScheduler processes lonelyCluster) events last →
        ∀ thread site, processes thread = .backend site → (last.shared.phases thread).ran = true →
          last.shared.firedEnabled thread = true) ∧
      ¬ ∀ (processes : Fin 3 → SchedulerProcess) (events : List (Event schedulerSignature (Fin 3)))
        (last : Pool schedulerSignature SchedulerFault (SchedulerRun (LeaseService.timed String Token) (Fin 3)) (Fin 3)),
        Pool.Run scheduling (launchScheduler processes lonelyCluster) events last →
        ∀ host name, (last.shared.cluster.coordinators host).running = true →
          (last.shared.cluster.coordinators host).isEnabled name = true →
          (last.shared.cluster.coordinators host).isScheduled name = true := by
  have offered : ∀ {ι : Type} [DecidableEq ι] (thread : ι) (strikes : Option SchedulerFault)
      (state : SchedulerRun (LeaseService.timed String Token) ι) (call : SchedulerCall),
      (fun _ strikes _ (call : SchedulerCall) => Option.all (fun fault => call.struck fault) strikes :
        ι → Option SchedulerFault → SchedulerRun (LeaseService.timed String Token) ι → SchedulerCall → Bool)
        thread strikes state call = true →
      scheduling thread state call (schedulerHandler thread strikes call state).1
        (schedulerHandler thread strikes call state).2 := fun thread strikes state call =>
    schedulerHandler_scheduling thread strikes state call
  constructor
  · intro follows
    have run := Pool.enact_runs offered (launchScheduler disablingCrew lonelyCluster)
      ([(0, none), (1, none), (2, none)] ++ List.replicate 13 (3, none)) (by decide +kernel)
    have enabled := follows disablingCrew _ _ run 3 cleanup rfl (by decide +kernel)
    exact absurd enabled (by decide +kernel)
  · intro holds
    have run := Pool.enact_runs offered (launchScheduler enablingCrew lonelyCluster)
      [(0, none), (1, none), (2, none)] (by decide +kernel)
    have held := holds enablingCrew _ _ run 0 cleanup.job (by decide +kernel) (by decide +kernel)
    exact absurd held (by decide +kernel)

end Samples

end AutomationHub.Scheduler
