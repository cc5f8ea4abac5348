import AutomationHub.Scheduler.JobLocks

/-!
What the instances make of their jobs: one of them at a time runs a job, and every
tick is counted once.
-/

set_option autoImplicit false

namespace AutomationHub.Scheduler

open Foundation Model Program

/-- The run and skip counters together. -/
def JobStatistics.total (statistics : JobStatistics) : Nat :=
  statistics.runCount + statistics.skippedOverlapCount + statistics.skippedNotLeaderCount +
    statistics.skippedDistributedLockCount

def JobStatistics.Balanced (statistics : JobStatistics) : Prop :=
  statistics.runCount = statistics.successCount + statistics.failureCount

/-- The site whose tick a call counts. -/
def counts? (call : SchedulerCall) (reply : Except SchedulerFault call.Result) : Option Site :=
  match call, reply with
  | .skipNotLeader site, .ok _ | .skipOverlap site, .ok _ | .skipDistributedLock site, .ok _ | .record site _, .ok _ =>
      some site
  | _, _ => none

def kills {α : Type} : Except SchedulerFault α → Bool
  | .error .killed => true
  | _ => false

section Calls

variable {own : Option Site} {asks : Bool} {phase : RunnerPhase} {call : SchedulerCall}
  {reply : Except SchedulerFault call.Result} {site : Site}

theorem permits_counts (permitted : phase.Permits own asks call) (counted : counts? call reply = some site) :
    own = some site ∧ phase.known = true := by
  unfold counts? at counted
  split at counted
  all_goals first
    | (obtain rfl := Option.some.inj counted; exact ⟨permitted.1, permitted.2.1⟩)
    | cases counted

theorem counted_after :
    (phase.after call reply).counted = phase.counted + if (counts? call reply).isSome then 1 else 0 := by
  rcases reply with fault | result
  · cases call with
    | acquire host slot | release host slot => cases slot <;> cases fault <;> rfl
    | _ => cases fault <;> rfl
  · cases call with
    | tryLock site => cases result <;> rfl
    | acquire host slot => cases slot <;> cases result <;> rfl
    | release host slot => cases slot <;> rfl
    | _ => rfl

theorem ended_after (ended : (phase.after call reply).position = .ended) :
    phase.position = .ended ∨ kills reply = true := by
  rcases reply with fault | result
  · cases fault with
    | killed => exact .inr rfl
    | _ =>
        cases call with
        | release host slot => cases slot <;> first | exact .inl ended | cases ended
        | acquire host slot => cases slot <;> exact .inl ended
        | _ => exact .inl ended
  · cases call with
    | tryLock site => cases result <;> first | exact .inl ended | cases ended
    | acquire host slot => cases slot <;> cases result <;> first | exact .inl ended | cases ended
    | release host slot => cases slot <;> first | exact .inl ended | cases ended
    | startJob | finishJob | unlock => cases ended
    | _ => exact .inl ended

theorem counts_error (call : SchedulerCall) (fault : SchedulerFault) : counts? call (.error fault) = none := by
  cases call <;> rfl

end Calls

section Statistics

variable {server : LockServer} {state after : Cluster server} {call : SchedulerCall}
  {reply : Except SchedulerFault call.Result}

def Cluster.statisticsOf (state : Cluster server) (site : Site) : Option JobStatistics :=
  (state.coordinators site.host).statistics site.job

theorem statisticsOf_update (state : Cluster server) (updated site : Site) (change : JobStatistics → JobStatistics) :
    (state.updateStatistics updated change).statisticsOf site =
      if updated = site then (state.statisticsOf site).map change else state.statisticsOf site := by
  unfold Cluster.statisticsOf Cluster.updateStatistics Cluster.setCoordinator Coordinator.updateStatistics
  by_cases same : updated = site
  · subst same
    simp
  · rw [if_neg same]
    by_cases host : site.host = updated.host
    · have job : site.job ≠ updated.job := by
        intro equal
        cases updated
        cases site
        exact same (by simp_all)
      simp [host, job]
    · simp [host]

/-- What a step makes of the statistics of a job: it adds one to them exactly if it counts a tick, and keeps their balance. -/
def Accounts (counted : Bool) (before after : Option JobStatistics) : Prop :=
  ∃ change : JobStatistics → JobStatistics, after = before.map change ∧ ∀ statistics,
    (change statistics).total = statistics.total + (if counted then 1 else 0) ∧
      (statistics.Balanced → (change statistics).Balanced)

theorem accounts_same (statistics : Option JobStatistics) : Accounts false statistics statistics :=
  ⟨id, by simp, fun _ => ⟨rfl, id⟩⟩

theorem accounts_update (state : Cluster server) (updated site : Site) {change : JobStatistics → JobStatistics}
    {counts : Bool} (total : ∀ statistics, (change statistics).total = statistics.total + (if counts then 1 else 0))
    (balanced : ∀ statistics : JobStatistics, statistics.Balanced → (change statistics).Balanced) :
    Accounts (counts && updated == site) (state.statisticsOf site)
      ((state.updateStatistics updated change).statisticsOf site) := by
  rw [statisticsOf_update]
  by_cases same : updated = site
  · rw [if_pos same]
    exact ⟨change, rfl, fun statistics => ⟨by simpa [same] using total statistics, balanced statistics⟩⟩
  · rw [if_neg same]
    rw [beq_eq_false_iff_ne.mpr same, Bool.and_false]
    exact accounts_same _

theorem record_total (result : ExecutionResult) (statistics : JobStatistics) :
    (statistics.record result).total = statistics.total + 1 := by
  simp only [JobStatistics.total, JobStatistics.record]
  omega

theorem record_balanced (result : ExecutionResult) (statistics : JobStatistics) (balanced : statistics.Balanced) :
    (statistics.record result).Balanced := by
  simp only [JobStatistics.Balanced, JobStatistics.record] at balanced ⊢
  cases result.success <;> simp <;> omega

theorem statisticsOf_setCoordinator (state : Cluster server) {host : Nat} {coordinator : Coordinator} (site : Site)
    (same : coordinator.statistics = (state.coordinators host).statistics) :
    (state.setCoordinator host coordinator).statisticsOf site = state.statisticsOf site := by
  unfold Cluster.statisticsOf Cluster.setCoordinator
  by_cases own : site.host = host
  · simp [own, same]
  · simp [own]

theorem statistics_failed (state : Cluster server) (call : SchedulerCall) (site : Site) :
    (state.failed call).statisticsOf site = state.statisticsOf site := by
  cases call with
  | acquire host slot => cases slot <;> rfl
  | release host slot =>
      cases slot with
      | job name =>
          simp only [Cluster.failed]
          split
          · exact statisticsOf_setCoordinator state site rfl
          · rfl
      | leader => exact statisticsOf_setCoordinator state site rfl
  | _ => rfl

theorem statistics_operate (state : Cluster server) (host : Nat) (operation : Operation) (site : Site) :
    let after := (state.execute (.operate host operation)).2
    after.statisticsOf site = state.statisticsOf site ∨
      state.isRegistered site = false ∧ after.statisticsOf site = some JobStatistics.initial := by
  by_cases own : site.host = host
  · subst own
    simp only [Cluster.execute, Cluster.statisticsOf, Cluster.setCoordinator, Cluster.isRegistered, Function.update_self]
    generalize state.coordinators site.host = before
    cases operation with
    | register name defaultIntervalSeconds intervalSeconds enabled =>
        simp only [Coordinator.operate]
        by_cases known : before.isRegistered name = true
        · exact .inl (by simp only [Coordinator.registerJob, known, if_true])
        · obtain ⟨-, -, -, -, -, -, statistics, -⟩ :=
            register_spec before defaultIntervalSeconds intervalSeconds enabled (by simpa using known)
          rw [statistics]
          by_cases same : site.job = name
          · exact .inr ⟨by simpa [same] using known, by simp [same]⟩
          · exact .inl (by simp [same])
    | start backendFails =>
        obtain ⟨running, scheduled, same, -⟩ := start_spec before backendFails
        simp only [Coordinator.operate, same, true_or]
    | enable name | disable name =>
        simp only [Coordinator.operate]
        split <;> exact .inl rfl
  · exact .inl (by simp [Cluster.execute, Cluster.statisticsOf, Cluster.setCoordinator, own])

/-- The statistics of a job change by what a call counts, and start afresh when the job is registered. -/
theorem statistics_step (stepped : schedulerStep state call reply after) (site : Site) :
    Accounts (counts? call reply == some site) (state.statisticsOf site) (after.statisticsOf site) ∨
      state.isRegistered site = false ∧ after.statisticsOf site = some JobStatistics.initial ∧
        counts? call reply = none := by
  have still : ∀ {reached : Cluster server}, reached.statisticsOf site = state.statisticsOf site →
      counts? call reply = none →
      Accounts (counts? call reply == some site) (state.statisticsOf site) (reached.statisticsOf site) := by
    intro reached same uncounted
    rw [same, uncounted]
    exact accounts_same _
  rcases stepped with outcome | ⟨fault, -, rfl, rfl | rfl⟩
  · obtain ⟨rfl, rfl⟩ := Prod.mk.inj outcome
    show Accounts _ _ ((state.execute call).2.statisticsOf site) ∨ _ ∧ (state.execute call).2.statisticsOf site = _ ∧ _
    cases call with
    | operate host operation =>
        rcases statistics_operate state host operation site with same | ⟨unregistered, fresh⟩
        · exact .inl (still same rfl)
        · exact .inr ⟨unregistered, fresh, rfl⟩
    | skipNotLeader updated | skipOverlap updated | skipDistributedLock updated =>
        refine .inl (@accounts_update _ state updated site _ true ?_ fun _ => id)
        intro statistics
        simp only [JobStatistics.total, JobStatistics.skipNotLeader, JobStatistics.skipOverlap,
          JobStatistics.skipDistributedLock, if_true]
        omega
    | record updated result =>
        exact .inl (@accounts_update _ state updated site _ true (record_total result) (record_balanced result))
    | setRunning updated currentlyRunning =>
        exact .inl (@accounts_update _ state updated site _ false (fun _ => rfl) fun _ => id)
    | acquire host slot =>
        refine .inl (still ?_ rfl)
        cases slot with
        | job name =>
            simp only [Cluster.execute, Cluster.acquire]
            split
            · rfl
            · rfl
            · dsimp only
              split
              · exact statisticsOf_setCoordinator _ site rfl
              · rfl
        | leader =>
            simp only [Cluster.execute, Cluster.acquire]
            split
            · exact statisticsOf_setCoordinator _ site rfl
            · rfl
    | release host slot =>
        refine .inl (still ?_ rfl)
        cases slot with
        | job name =>
            simp only [Cluster.execute, Cluster.release]
            split
            · rfl
            · rfl
            · rfl
            · exact statisticsOf_setCoordinator _ site rfl
        | leader =>
            simp only [Cluster.execute, Cluster.release]
            split
            · rfl
            · exact statisticsOf_setCoordinator _ site rfl
    | extend host slot ttl =>
        refine .inl (still ?_ rfl)
        simp only [Cluster.execute, Cluster.extend]
        split <;> rfl
    | tryLock taken =>
        refine .inl (still ?_ rfl)
        simp only [Cluster.execute]
        split
        · exact statisticsOf_setCoordinator _ site rfl
        · rfl
    | unlock taken => exact .inl (still (statisticsOf_setCoordinator _ site rfl) rfl)
    | writeLeader host isLeader => exact .inl (still (statisticsOf_setCoordinator _ site rfl) rfl)
    | _ => exact .inl (still rfl rfl)
  · exact .inl (still (statistics_failed state call site) (counts_error call fault))
  · exact .inl (still (statistics_failed state call site) (counts_error call fault))

end Statistics

section Runs

variable {server : LockServer} {ι : Type} [DecidableEq ι]

/-- The ticks of a site that have been counted. -/
def tally (events : List (Event schedulerSignature ι)) (site : Site) : Nat :=
  events.countP fun event => counts? event.request event.reply == some site

/-- The times that a process has counted a tick of a site. -/
def tallyOf (thread : ι) (events : List (Event schedulerSignature ι)) (site : Site) : Nat :=
  events.countP fun event => decide (event.thread = thread) && counts? event.request event.reply == some site

/-- The statistics say what the calls of the run have counted. -/
structure Counted (processes : ι → SchedulerProcess) (events : List (Event schedulerSignature ι))
    (state : SchedulerRun server ι) : Prop where
  settled : ∀ site statistics, state.cluster.statisticsOf site = some statistics →
    statistics.Balanced ∧ statistics.total = tally events site
  unregistered : ∀ site, state.cluster.isRegistered site = false → tally events site = 0
  own : ∀ thread site, (processes thread).site? = some site → (state.phases thread).counted = tallyOf thread events site
  ended : ∀ thread, (state.phases thread).position = .ended →
    ∃ event ∈ events, event.thread = thread ∧ kills event.reply = true

variable {processes : ι → SchedulerProcess} {thread : ι} {state after : SchedulerRun server ι} {call : SchedulerCall}
  {reply : Except SchedulerFault call.Result} {events : List (Event schedulerSignature ι)}

omit [DecidableEq ι] in
theorem tally_append (site : Site) :
    tally (events ++ [⟨thread, call, reply⟩]) site =
      tally events site + if counts? call reply == some site then 1 else 0 := by
  simp [tally, List.countP_append, List.countP_singleton]

theorem tallyOf_append (other : ι) (site : Site) :
    tallyOf other (events ++ [⟨thread, call, reply⟩]) site =
      tallyOf other events site + if thread = other ∧ counts? call reply = some site then 1 else 0 := by
  simp [tallyOf, List.countP_append, List.countP_singleton]

theorem counted_step (counted : Counted processes events state) (founded : Founded processes state)
    (permitted : (state.phases thread).Permits (processes thread).site? (processes thread).triggers call)
    (scheduled : scheduling thread state call reply after) :
    Counted processes (events ++ [⟨thread, call, reply⟩]) after := by
  have registered : ∀ site, counts? call reply = some site → state.cluster.isRegistered site = true := by
    intro site counts
    obtain ⟨owned, known⟩ := permits_counts permitted counts
    exact founded.known thread site owned known
  constructor
  · intro site statistics present
    rw [tally_append]
    rcases statistics_step scheduled.1 site with ⟨change, changed, accounts⟩ | ⟨unregistered, fresh, uncounted⟩
    · rw [changed] at present
      obtain ⟨before, found, rfl⟩ := Option.map_eq_some_iff.mp present
      obtain ⟨balanced, total⟩ := counted.settled site before found
      exact ⟨(accounts before).2 balanced, by rw [(accounts before).1, total]⟩
    · obtain rfl := Option.some.inj (fresh.symm.trans present)
      rw [counted.unregistered site unregistered, uncounted]
      exact ⟨rfl, rfl⟩
  · intro site unregistered
    have before : state.cluster.isRegistered site = false := by
      cases known : state.cluster.isRegistered site with
      | false => rfl
      | true =>
          have still := (sound_move (founded.sound site.host) (coordinator_move scheduled.1 site.host)).2 site.job known
          exact absurd (unregistered.symm.trans still) (by decide)
    have uncounted : counts? call reply ≠ some site := by
      intro counts
      exact absurd (before.symm.trans (registered site counts)) (by decide)
    rw [tally_append, counted.unregistered site before, beq_eq_false_iff_ne.mpr uncounted]
    rfl
  · intro other site owned
    rw [scheduled.2.1, tallyOf_append]
    by_cases own : other = thread
    · subst own
      have named : (counts? call reply).isSome = true ↔ counts? call reply = some site := by
        constructor
        · intro counts
          obtain ⟨counted, counts⟩ := Option.isSome_iff_exists.mp counts
          obtain rfl := Option.some.inj ((permits_counts permitted counts).1.symm.trans owned)
          exact counts
        · intro counts
          rw [counts]
          rfl
      rw [Function.update_self, counted_after, counted.own other site owned]
      simp only [named, true_and]
    · rw [Function.update_of_ne own, counted.own other site owned]
      simp [Ne.symm own]
  · intro other ended
    rw [scheduled.2.1] at ended
    have earlier : (state.phases other).position = .ended →
        ∃ event ∈ events ++ [⟨thread, call, reply⟩], event.thread = other ∧ kills event.reply = true := by
      intro before
      obtain ⟨event, member, killed⟩ := counted.ended other before
      exact ⟨event, List.mem_append_left _ member, killed⟩
    by_cases own : other = thread
    · subst own
      rw [Function.update_self] at ended
      rcases ended_after ended with before | killed
      · exact earlier before
      · exact ⟨⟨other, call, reply⟩, List.mem_append_right _ (List.mem_singleton_self _), rfl, killed⟩
    · rw [Function.update_of_ne own] at ended
      exact earlier ended

/-- Two runners that execute one job within the time of its lock are one; a release leaves alone the lock that another
instance has acquired; the statistics count each tick that is over once, and balance. -/
theorem job_runs_exclusive_and_counted (fenced : server.TokenFenced) (processes : ι → SchedulerProcess)
    {chance : Nat → SchedulerChance} (clock : Monotone fun instant => (chance instant).now) (store : server.Store)
    (elects : Nat → Bool) (ttl leaderLockTtl : Nat) (isLeader : Nat → Bool)
    {last : Pool schedulerSignature SchedulerFault (SchedulerRun server ι) ι}
    (run : Pool.Run scheduling
      (launchScheduler processes (freshCluster server chance store elects (some ttl) leaderLockTtl isLeader)) events last) :
    (∀ first second one other, (processes first).site? = some one → (processes second).site? = some other →
        one.job = other.job → (last.shared.phases first).position = .executing →
        (last.shared.phases second).position = .executing →
        last.shared.cluster.now < last.shared.leasedAt first + ttl →
        last.shared.cluster.now < last.shared.leasedAt second + ttl → first = second) ∧
      (∀ event next, Pool.Step scheduling last event next → ∀ host name, event.request = .release host (.job name) →
        ∀ other token, other ≠ host → last.shared.cluster.token { host := other, job := name } = some token →
          server.holder last.shared.cluster.store (Slot.job name).key last.shared.cluster.now = some token →
          ∀ instant, last.shared.cluster.now ≤ instant →
            server.holder next.shared.cluster.store (Slot.job name).key instant =
              server.holder last.shared.cluster.store (Slot.job name).key instant) ∧
      (∀ site statistics, last.shared.cluster.statisticsOf site = some statistics →
        statistics.runCount = statistics.successCount + statistics.failureCount ∧
          statistics.total = tally events site) ∧
      ∀ thread site, (processes thread).site? = some site → (last.shared.phases thread).known = true →
        (last.threads thread = .done () → tallyOf thread events site = 1) ∧
          ∀ fault, last.threads thread = .raised fault →
            ∃ event ∈ events, event.thread = thread ∧ kills event.reply = true := by
  have start : Counted processes [] (launchScheduler processes
      (freshCluster server chance store elects (some ttl) leaderLockTtl isLeader)).shared :=
    ⟨fun _ _ present => (nomatch present), fun _ _ => rfl, fun _ _ _ => rfl, fun _ ended => (nomatch ended)⟩
  obtain ⟨follows, -, guarded, counted⟩ := @scheduler_run _ _ _ processes _
    (fun events state => Guarded ttl processes state ∧ Counted processes events state) _ _ _ run
    (fun _ _ _ _ _ scheduled => scheduled) (fun thread => ensures_process _)
    (founded_launch processes chance store elects (some ttl) leaderLockTtl isLeader)
    (fun _ _ _ _ _ _ kept founded permitted scheduled =>
      ⟨guarded_step fenced kept.1 founded permitted scheduled, counted_step kept.2 founded permitted scheduled⟩)
    ⟨guarded_launch processes clock store elects ttl leaderLockTtl isLeader, start⟩
  refine ⟨?_, ?_, counted.settled, ?_⟩
  · intro first second one other owned also same executing executes early within
    exact guarded.exclusive owned also same (by simp [RunnerPhase.leasing, executing])
      (by simp [RunnerPhase.leasing, executes]) early within
  · intro event next step host name called other token apart present holding instant passed
    cases step with
    | call calling answered =>
        dsimp only at called
        subst called
        exact guarded.spared fenced answered.1 apart present holding passed
  · intro thread site owned known
    have concluded := follows thread
    constructor
    · intro finished
      rw [finished] at concluded
      have accomplished : Accomplished .outside (last.shared.phases thread) := concluded known
      rw [← counted.own thread site owned, accomplished.counted]
    · intro fault raised
      rw [raised] at concluded
      exact counted.ended thread (concluded known)

end Runs

section Samples

/-- Two instances that hold one job each. -/
def twoInstances : Fin 6 → SchedulerProcess
  | 0 => .operator 0 (.register "cleanup_expired_sessions" 300 none true)
  | 1 => .operator 1 (.register "cleanup_expired_sessions" 300 none true)
  | 2 => .operator 0 (.start none)
  | 3 => .operator 1 (.start none)
  | 4 => .backend { host := 0, job := "cleanup_expired_sessions" }
  | 5 => .backend { host := 1, job := "cleanup_expired_sessions" }

/-- Nothing is heard of the leader, and no time passes. -/
def idleChance (_ : Nat) : SchedulerChance where
  now := 0
  mistaken := false
  outcome := { startedAt := 0, finishedAt := 0, success := true, errorMessage := none }

def twoInstancesPool :
    Pool schedulerSignature SchedulerFault (SchedulerRun (LeaseService.timed String Token) (Fin 6)) (Fin 6) :=
  launchScheduler twoInstances (freshCluster (LeaseService.timed String Token) idleChance (fun _ => none)
    (fun _ => false) (some 60) 30 (fun _ => false))

/-- The first instance executes the job while the second one ticks. -/
def ticksMeet : List (Fin 6 × Option SchedulerFault) :=
  [(0, none), (1, none), (2, none), (3, none)] ++ List.replicate 8 (4, none) ++ List.replicate 7 (5, none)

theorem job_runs_sample :
    ∃ last events, Pool.Run scheduling twoInstancesPool events last ∧ (last.shared.phases 4).position = .executing ∧
      tallyOf 5 events { host := 1, job := "cleanup_expired_sessions" } = 1 := by
  have run := Pool.enact_runs schedulerHandler_scheduling twoInstancesPool ticksMeet (by decide +kernel)
  have counted := (job_runs_exclusive_and_counted LeaseService.timed_fenced twoInstances monotone_const
    (fun _ => none) (fun _ => false) 60 30 (fun _ => false) run).2.2.2 5 _ rfl (by decide +kernel)
  have finished : (Pool.enact schedulerHandler twoInstancesPool ticksMeet).threads 5 = .done () :=
    Program.returned?_eq_some_iff.mp (by decide +kernel)
  exact ⟨_, _, run, by decide +kernel, counted.1 finished⟩

end Samples

end AutomationHub.Scheduler
