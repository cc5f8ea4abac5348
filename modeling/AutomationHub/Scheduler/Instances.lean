import AutomationHub.Scheduler.RunnerDiscipline

/-!
Any number of instances at once: their operators, the ticks of their backends,
triggered runs and the election.
-/

set_option autoImplicit false

namespace AutomationHub.Scheduler

open Foundation Model Program

/-- The instances in a run, with how far each process has come, when it took the lock of its job on the server, and
whether its job was enabled when its tick fired. -/
structure SchedulerRun (server : LockServer) (ι : Type) where
  cluster : Cluster server
  phases : ι → RunnerPhase
  leasedAt : ι → Datetime
  firedEnabled : ι → Bool

section Steps

variable {server : LockServer}

/-- A call takes effect, or it is struck by a fault; the server may have acted all the same. -/
def schedulerStep (state : Cluster server) (call : SchedulerCall) (reply : Except SchedulerFault call.Result)
    (after : Cluster server) : Prop :=
  schedulerEnvironment call state = (reply, after) ∨
    ∃ fault, call.struck fault = true ∧ reply = .error fault ∧
      (after = (state.failed call).tick ∨
        after = { state.failed call with store := (state.execute call).2.store }.tick)

def SchedulerCall.operates : SchedulerCall → Bool
  | .operate .. => true
  | _ => false

/-- What a call does to one instance. -/
inductive CoordinatorMove (call : SchedulerCall) (host : Nat) (before : Coordinator) : Coordinator → Prop
  | same : CoordinatorMove call host before before
  | operated (operation : Operation) (called : call = .operate host operation) :
      CoordinatorMove call host before (before.operate operation).2
  | counted (job : String) (change : JobStatistics → JobStatistics) (called : call.operates = false) :
      CoordinatorMove call host before (before.updateStatistics job change)
  | locked (job : String) (called : call = .tryLock { host, job }) (free : before.locks job = some false) :
      CoordinatorMove call host before (before.setLock job true)
  | unlocked (job : String) (called : call = .unlock { host, job }) :
      CoordinatorMove call host before (before.setLock job false)
  | leased (job : String) (ttl : Nat) (old : Option Token) (token : Token) (called : call = .acquire host (.job job))
      (object : before.distributedLocks job = some (.redis ttl old)) :
      CoordinatorMove call host before (before.setToken job ttl (some token))
  | released (job : String) (ttl : Nat) (old : Option Token) (called : call = .release host (.job job))
      (object : before.distributedLocks job = some (.redis ttl old)) :
      CoordinatorMove call host before (before.setToken job ttl none)
  | elected (isLeader : Bool) (leaderToken : Option Token) (called : call.operates = false) :
      CoordinatorMove call host before { before with isLeader, leaderToken }

theorem move_update {call : SchedulerCall} {coordinators : Nat → Coordinator} {host : Nat} {coordinator : Coordinator}
    (move : CoordinatorMove call host (coordinators host) coordinator) (other : Nat) :
    CoordinatorMove call other (coordinators other) (Function.update coordinators host coordinator other) := by
  by_cases own : other = host
  · subst own
    rwa [Function.update_self]
  · rw [Function.update_of_ne own]
    exact .same

theorem move_acquire (state : Cluster server) (host : Nat) (slot : Slot) (other : Nat) :
    CoordinatorMove (.acquire host slot) other (state.coordinators other)
      ((state.acquire host slot).2.coordinators other) := by
  cases slot with
  | job name =>
      simp only [Cluster.acquire]
      split
      · exact .same
      · exact .same
      · rename_i ttl old object
        dsimp only
        split
        · exact move_update (.leased name ttl old _ rfl object) other
        · exact .same
  | leader =>
      simp only [Cluster.acquire]
      split
      · exact move_update (.elected (state.coordinators host).isLeader _ rfl) other
      · exact .same

theorem move_release (state : Cluster server) (host : Nat) (slot : Slot) (other : Nat) :
    CoordinatorMove (.release host slot) other (state.coordinators other)
      ((state.release host slot).2.coordinators other) := by
  cases slot with
  | job name =>
      simp only [Cluster.release]
      split
      · exact .same
      · exact .same
      · exact .same
      · rename_i ttl token object
        exact move_update (.released name ttl _ rfl object) other
  | leader =>
      simp only [Cluster.release]
      split
      · exact .same
      · exact move_update (.elected (state.coordinators host).isLeader _ rfl) other

theorem move_extend (state : Cluster server) (host : Nat) (slot : Slot) (ttl : Nat) :
    (state.extend host slot ttl).2.coordinators = state.coordinators := by
  unfold Cluster.extend
  split <;> rfl

theorem move_execute (state : Cluster server) (call : SchedulerCall) (other : Nat) :
    CoordinatorMove call other (state.coordinators other) ((state.execute call).2.coordinators other) := by
  cases call with
  | operate host operation => exact move_update (.operated operation rfl) other
  | skipNotLeader site | skipOverlap site | skipDistributedLock site | setRunning site | record site =>
      exact move_update (.counted site.job _ rfl) other
  | tryLock site =>
      simp only [Cluster.execute]
      split
      · rename_i free
        exact move_update (.locked site.job rfl (by simpa using free)) other
      · exact .same
  | unlock site => exact move_update (.unlocked site.job rfl) other
  | acquire host slot => exact move_acquire state host slot other
  | release host slot => exact move_release state host slot other
  | extend host slot ttl =>
      simp only [Cluster.execute, move_extend]
      exact .same
  | writeLeader host isLeader => exact move_update (.elected isLeader _ rfl) other
  | _ => exact .same

theorem move_failed (state : Cluster server) (call : SchedulerCall) (other : Nat) :
    CoordinatorMove call other (state.coordinators other) ((state.failed call).coordinators other) := by
  cases call with
  | acquire host slot => cases slot <;> exact .same
  | release host slot =>
      cases slot with
      | job name =>
          simp only [Cluster.failed]
          split
          · rename_i ttl token object
            exact move_update (.released name ttl token rfl object) other
          · exact .same
      | leader => exact move_update (.elected (state.coordinators host).isLeader _ rfl) other
  | _ => exact .same

theorem coordinator_move {state after : Cluster server} {call : SchedulerCall}
    {reply : Except SchedulerFault call.Result} (stepped : schedulerStep state call reply after) (other : Nat) :
    CoordinatorMove call other (state.coordinators other) (after.coordinators other) := by
  rcases stepped with outcome | ⟨fault, -, -, rfl | rfl⟩
  · obtain ⟨-, rfl⟩ := Prod.mk.inj outcome
    exact move_execute state call other
  · exact move_failed state call other
  · exact move_failed state call other

end Steps

section Coordinators

variable {coordinator before after : Coordinator} {name other : String}

theorem isScheduled_addJob (intervalSeconds : Nat) :
    (coordinator.addJob name intervalSeconds).isScheduled other = (coordinator.isScheduled other || name == other) := by
  by_cases same : name = other
  · subst same
    simp [Coordinator.addJob, Coordinator.isScheduled]
  · have kept : ∀ entry : String × Nat, (entry.1 != name && entry.1 == other) = (entry.1 == other) := by
      intro entry
      by_cases named : entry.1 = other
      · simp [named, Ne.symm same]
      · simp [named]
    simp [Coordinator.addJob, Coordinator.isScheduled, List.any_filter, kept]

theorem foldl_addJob (registrations : List JobRegistration) :
    ∀ coordinator : Coordinator,
      let added := registrations.foldl (fun added registration => added.addJob registration.name registration.intervalSeconds)
        coordinator
      (added.isScheduled other = (coordinator.isScheduled other || registrations.any fun registration =>
        registration.name == other)) ∧ ∃ scheduled, added = { coordinator with scheduled } := by
  induction registrations with
  | nil => exact fun coordinator => ⟨by simp, coordinator.scheduled, rfl⟩
  | cons registration rest recurse =>
      intro coordinator
      obtain ⟨held, scheduled, same⟩ := recurse (coordinator.addJob registration.name registration.intervalSeconds)
      refine ⟨?_, scheduled, same⟩
      simp only [List.foldl_cons, List.any_cons]
      rw [held, isScheduled_addJob, Bool.or_assoc]

theorem start_spec (coordinator : Coordinator) (backendFails : Option String) :
    ∃ running scheduled, (coordinator.start backendFails).2 = { coordinator with running, scheduled } ∧
      (coordinator.running = true → running = true) ∧
      ∀ name, (coordinator.start backendFails).2.isScheduled name =
        (coordinator.isScheduled name || coordinator.isEnabled name) := by
  obtain ⟨_, scheduled, same⟩ :=
    @foldl_addJob "" (coordinator.registrations.filter JobRegistration.enabled) coordinator
  have held : ∀ name, ((coordinator.registrations.filter JobRegistration.enabled).foldl
      (fun added registration => added.addJob registration.name registration.intervalSeconds) coordinator).isScheduled name =
      (coordinator.isScheduled name || coordinator.isEnabled name) := by
    intro name
    rw [(foldl_addJob _ coordinator).1, List.any_filter]
    simp only [Coordinator.isEnabled, Bool.and_comm]
  unfold Coordinator.start
  dsimp only
  split
  · rename_i running
    exact ⟨true, scheduled, by rw [same]; simp [running], fun _ => rfl, held⟩
  · rename_i stopped
    cases backendFails with
    | some message => exact ⟨coordinator.running, scheduled, same, id, held⟩
    | none =>
        exact ⟨true, scheduled, by rw [same], fun _ => rfl, held⟩

theorem isRegistered_setEnabled (enabled : Bool) :
    (coordinator.setEnabled name enabled).isRegistered other = coordinator.isRegistered other := by
  simp only [Coordinator.isRegistered, Coordinator.setEnabled, List.any_map]
  congr 1
  funext registration
  dsimp only [Function.comp]
  split <;> rfl

theorem isEnabled_setEnabled (enabled : Bool) :
    (coordinator.setEnabled name enabled).isEnabled other =
      if other = name then coordinator.isRegistered other && enabled else coordinator.isEnabled other := by
  simp only [Coordinator.isEnabled, Coordinator.isRegistered, Coordinator.setEnabled, List.any_map]
  by_cases same : other = name
  · subst same
    have each : ∀ registration : JobRegistration,
        ((if registration.name = other then { registration with enabled } else registration).name == other &&
          (if registration.name = other then { registration with enabled } else registration).enabled) =
        (registration.name == other && enabled) := by
      intro registration
      by_cases named : registration.name = other
      · simp [named]
      · simp [named, beq_eq_false_iff_ne.mpr named]
    simp only [Function.comp_def, each]
    cases enabled <;> simp
  · have each : ∀ registration : JobRegistration,
        ((if registration.name = name then { registration with enabled } else registration).name == other &&
          (if registration.name = name then { registration with enabled } else registration).enabled) =
        (registration.name == other && registration.enabled) := by
      intro registration
      by_cases named : registration.name = name
      · simp [named, beq_eq_false_iff_ne.mpr (Ne.symm same)]
      · simp [named]
    simp only [Function.comp_def, each, if_neg same]

theorem register_spec (coordinator : Coordinator) {name : String} (defaultIntervalSeconds : Nat)
    (intervalSeconds : Option Nat) (enabled : Bool) (fresh : coordinator.isRegistered name = false) :
    let registered := (coordinator.registerJob name defaultIntervalSeconds intervalSeconds enabled).2
    (∀ other, registered.isRegistered other = (coordinator.isRegistered other || name == other)) ∧
      (∀ other, registered.isEnabled other = (coordinator.isEnabled other || (name == other && enabled))) ∧
      (∀ other, registered.isScheduled other =
        (coordinator.isScheduled other || (coordinator.running && enabled && name == other))) ∧
      registered.running = coordinator.running ∧ registered.jobLockTtl = coordinator.jobLockTtl ∧
      registered.locks = Function.update coordinator.locks name (some false) ∧
      registered.statistics = Function.update coordinator.statistics name (some JobStatistics.initial) ∧
      registered.distributedLocks = Function.update coordinator.distributedLocks name
        (some (match coordinator.jobLockTtl with
          | none => .null
          | some ttl => .redis ttl none)) := by
  simp only [Coordinator.registerJob, fresh, Bool.false_eq_true, if_false]
  split
  · rename_i scheduling
    obtain ⟨running, permitted⟩ := Bool.and_eq_true_iff.mp scheduling
    have runs : coordinator.running = true := running
    refine ⟨?_, ?_, ?_, rfl, rfl, rfl, rfl, rfl⟩
    · intro other
      simp [Coordinator.isRegistered, Coordinator.addJob]
    · intro other
      simp [Coordinator.isEnabled, Coordinator.addJob]
    · intro other
      rw [isScheduled_addJob]
      simp [Coordinator.isScheduled, runs, permitted]
  · rename_i unscheduled
    have waits : (coordinator.running && enabled) = false := by simpa using unscheduled
    refine ⟨?_, ?_, ?_, rfl, rfl, rfl, rfl, rfl⟩
    · intro other
      simp [Coordinator.isRegistered]
    · intro other
      simp [Coordinator.isEnabled]
    · intro other
      simp [Coordinator.isScheduled, waits]

/-- Every job that the backend holds is registered, and every registered job has its lock and its statistics. -/
structure Sound (coordinator : Coordinator) : Prop where
  scheduled : ∀ name, coordinator.isScheduled name = true → coordinator.isRegistered name = true
  locked : ∀ name, coordinator.isRegistered name = true → (coordinator.locks name).isSome = true
  counted : ∀ name, coordinator.isRegistered name = true → (coordinator.statistics name).isSome = true

theorem sound_initial (elects : Bool) (jobLockTtl : Option Nat) (leaderLockTtl : Nat) (isLeader : Bool) :
    Sound (Coordinator.initial elects jobLockTtl leaderLockTtl isLeader) :=
  ⟨fun _ held => (nomatch held), fun _ known => (nomatch known), fun _ known => (nomatch known)⟩

theorem isRegistered_of_isEnabled (enabled : coordinator.isEnabled name = true) : coordinator.isRegistered name = true := by
  obtain ⟨registration, member, selected⟩ := List.any_eq_true.mp enabled
  exact List.any_eq_true.mpr ⟨registration, member, (Bool.and_eq_true_iff.mp selected).1⟩

theorem sound_operate (sound : Sound coordinator) (operation : Operation) :
    Sound (coordinator.operate operation).2 ∧
      ∀ name, coordinator.isRegistered name = true → (coordinator.operate operation).2.isRegistered name = true := by
  cases operation with
  | register name defaultIntervalSeconds intervalSeconds enabled =>
      simp only [Coordinator.operate]
      by_cases known : coordinator.isRegistered name = true
      · simp only [Coordinator.registerJob, known, if_true]
        exact ⟨sound, fun _ registered => registered⟩
      · obtain ⟨registered, -, scheduled, -, -, locks, statistics, -⟩ :=
          register_spec coordinator defaultIntervalSeconds intervalSeconds enabled (by simpa using known)
        refine ⟨⟨?_, ?_, ?_⟩, ?_⟩
        · intro other held
          rw [scheduled] at held
          rw [registered]
          rcases Bool.or_eq_true_iff.mp held with before | added
          · simp [sound.scheduled other before]
          · simp [(Bool.and_eq_true_iff.mp added).2]
        · intro other known
          rw [registered] at known
          rw [locks]
          by_cases same : other = name
          · simp [same]
          · simpa [same, beq_eq_false_iff_ne.mpr (Ne.symm same)] using sound.locked other (by
              simpa [beq_eq_false_iff_ne.mpr (Ne.symm same)] using known)
        · intro other known
          rw [registered] at known
          rw [statistics]
          by_cases same : other = name
          · simp [same]
          · simpa [same] using sound.counted other (by
              simpa [beq_eq_false_iff_ne.mpr (Ne.symm same)] using known)
        · intro other known
          rw [registered, known]
          rfl
  | start backendFails =>
      obtain ⟨running, scheduled, same, -, held⟩ := start_spec coordinator backendFails
      simp only [Coordinator.operate]
      refine ⟨⟨?_, ?_, ?_⟩, ?_⟩
      · intro name isHeld
        rw [held] at isHeld
        rw [same]
        rcases Bool.or_eq_true_iff.mp isHeld with before | enabled
        · exact sound.scheduled name before
        · exact isRegistered_of_isEnabled enabled
      · rw [same]
        exact sound.locked
      · rw [same]
        exact sound.counted
      · rw [same]
        exact fun _ known => known
  | enable name | disable name =>
      simp only [Coordinator.operate]
      split
      · refine ⟨⟨?_, ?_, ?_⟩, ?_⟩
        · intro other held
          rw [isRegistered_setEnabled]
          exact sound.scheduled other held
        · intro other known
          rw [isRegistered_setEnabled] at known
          exact sound.locked other known
        · intro other known
          rw [isRegistered_setEnabled] at known
          exact sound.counted other known
        · intro other known
          rwa [isRegistered_setEnabled]
      · exact ⟨sound, fun _ known => known⟩

theorem sound_move {call : SchedulerCall} {host : Nat} (sound : Sound before)
    (move : CoordinatorMove call host before after) :
    Sound after ∧ ∀ name, before.isRegistered name = true → after.isRegistered name = true := by
  have updated : ∀ {α : Type} (values : String → Option α) (job name : String) (value : Option α),
      (values name).isSome = true → ((values job).isSome = true → value.isSome = true) →
      (Function.update values job value name).isSome = true := by
    intro α values job name value present also
    by_cases same : name = job
    · subst same
      simpa using also present
    · simpa [same] using present
  cases move with
  | same => exact ⟨sound, fun _ known => known⟩
  | operated operation called => exact sound_operate sound operation
  | counted job change called =>
      refine ⟨⟨sound.scheduled, sound.locked, ?_⟩, fun _ known => known⟩
      intro name known
      exact updated before.statistics job name _ (sound.counted name known) fun present => by simpa using present
  | locked job called free =>
      refine ⟨⟨sound.scheduled, ?_, sound.counted⟩, fun _ known => known⟩
      intro name known
      exact updated before.locks job name _ (sound.locked name known) fun _ => rfl
  | unlocked job called =>
      refine ⟨⟨sound.scheduled, ?_, sound.counted⟩, fun _ known => known⟩
      intro name known
      exact updated before.locks job name _ (sound.locked name known) fun _ => rfl
  | leased | released => exact ⟨⟨sound.scheduled, sound.locked, sound.counted⟩, fun _ known => known⟩
  | elected => exact ⟨⟨sound.scheduled, sound.locked, sound.counted⟩, fun _ known => known⟩

end Coordinators

section Runs

variable {server : LockServer} {ι : Type} [DecidableEq ι]

/-- When a process took the lock of its job on the server. -/
def noteLease (thread : ι) (now : Datetime) (call : SchedulerCall) (reply : Except SchedulerFault call.Result)
    (leasedAt : ι → Datetime) : ι → Datetime :=
  match call, reply with
  | .acquire _ (.job _), .ok true => Function.update leasedAt thread now
  | _, _ => leasedAt

/-- Whether the job of a tick was enabled when the tick fired. -/
def noteFire (thread : ι) (state : Cluster server) (call : SchedulerCall) (reply : Except SchedulerFault call.Result)
    (firedEnabled : ι → Bool) : ι → Bool :=
  match call, reply with
  | .fire site, .ok true => Function.update firedEnabled thread ((state.coordinators site.host).isEnabled site.job)
  | _, _ => firedEnabled

def scheduling : Effect schedulerSignature (SchedulerRun server ι) ι := fun thread state call reply after =>
  schedulerStep state.cluster call reply after.cluster ∧
    after.phases = Function.update state.phases thread ((state.phases thread).after call reply) ∧
    after.leasedAt = noteLease thread state.cluster.now call reply state.leasedAt ∧
    after.firedEnabled = noteFire thread state.cluster call reply state.firedEnabled

/-- The instances before anything is registered, whatever they believe of the leadership. -/
def freshCluster (server : LockServer) (chance : Nat → SchedulerChance) (store : server.Store) (elects : Nat → Bool)
    (jobLockTtl : Option Nat) (leaderLockTtl : Nat) (isLeader : Nat → Bool) : Cluster server where
  chance
  ticks := 0
  store
  acquisitions := 0
  coordinators := fun host => Coordinator.initial (elects host) jobLockTtl leaderLockTtl (isLeader host)

def launchScheduler (processes : ι → SchedulerProcess) (start : Cluster server) :
    Pool schedulerSignature SchedulerFault (SchedulerRun server ι) ι where
  shared :=
    { cluster := start, phases := fun _ => RunnerPhase.idle, leasedAt := fun _ => 0, firedEnabled := fun _ => false }
  threads := fun thread => (processes thread).program

/-- The coordinators are sound, and the jobs of the runners are registered. -/
structure Founded (processes : ι → SchedulerProcess) (state : SchedulerRun server ι) : Prop where
  sound : ∀ host, Sound (state.cluster.coordinators host)
  known : ∀ thread site, (processes thread).site? = some site → (state.phases thread).known = true →
    (state.cluster.coordinators site.host).isRegistered site.job = true

variable {processes : ι → SchedulerProcess} {thread : ι} {state after : SchedulerRun server ι} {call : SchedulerCall}
  {reply : Except SchedulerFault call.Result}

theorem operate_raises {coordinator : Coordinator} {host : Nat} {operation : Operation} {fault : SchedulerFault}
    (raised : (coordinator.operate operation).1 = .error fault) :
    SchedulerCall.mayRaise (.operate host operation) fault = true := by
  cases operation with
  | register name defaultIntervalSeconds intervalSeconds enabled =>
      simp only [Coordinator.operate, Coordinator.registerJob] at raised
      split at raised
      · obtain rfl := Except.error.inj raised
        rfl
      · cases raised
  | start backendFails =>
      simp only [Coordinator.operate, Coordinator.start] at raised
      split at raised
      · obtain rfl := Except.error.inj raised
        rfl
      · split at raised
        · obtain rfl := Except.error.inj raised
          rfl
        · cases raised
  | enable name | disable name =>
      simp only [Coordinator.operate] at raised
      split at raised
      · cases raised
      · obtain rfl := Except.error.inj raised
        rfl

theorem release_raises {state : Cluster server} {host : Nat} {slot : Slot} {fault : SchedulerFault}
    (raised : (state.release host slot).1 = .error fault) : fault = .lock := by
  cases slot with
  | job name =>
      simp only [Cluster.release] at raised
      split at raised
      · cases raised
      · cases raised
      · exact (Except.error.inj raised).symm
      · dsimp only at raised
        split at raised
        · cases raised
        · exact (Except.error.inj raised).symm
  | leader =>
      simp only [Cluster.release] at raised
      split at raised
      · exact (Except.error.inj raised).symm
      · dsimp only at raised
        split at raised
        · cases raised
        · exact (Except.error.inj raised).symm

theorem extend_raises {state : Cluster server} {host : Nat} {slot : Slot} {ttl : Nat} {fault : SchedulerFault}
    (raised : (state.extend host slot ttl).1 = .error fault) : fault = .lock := by
  simp only [Cluster.extend] at raised
  split at raised
  · dsimp only at raised
    split at raised
    · cases raised
    · exact (Except.error.inj raised).symm
  · exact (Except.error.inj raised).symm

theorem acquire_returns (state : Cluster server) (host : Nat) (slot : Slot) :
    ∃ acquired, (state.acquire host slot).1 = .ok acquired := by
  cases slot with
  | job name =>
      simp only [Cluster.acquire]
      split <;> exact ⟨_, rfl⟩
  | leader => exact ⟨_, rfl⟩

omit [DecidableEq ι] in
theorem mayRaise_of_struck {fault : SchedulerFault} (struck : call.struck fault = true) : call.mayRaise fault = true := by
  cases fault with
  | killed => rfl
  | _ => cases call <;> first | (cases struck; done) | rfl

theorem foreseen_of_step {own : Option Site} {asks : Bool} {phase : RunnerPhase} {state after : Cluster server}
    (permitted : phase.Permits own asks call) (sound : ∀ host, Sound (state.coordinators host))
    (known : ∀ site, own = some site → phase.known = true →
      (state.coordinators site.host).isRegistered site.job = true)
    (stepped : schedulerStep state call reply after) : Foreseen phase call reply := by
  rcases stepped with outcome | ⟨fault, struck, rfl, -⟩
  · obtain ⟨rfl, -⟩ := Prod.mk.inj outcome
    cases call with
    | operate host operation => exact ⟨fun _ raised => operate_raises raised, trivial⟩
    | acquire host slot =>
        obtain ⟨acquired, returned⟩ := acquire_returns state host slot
        exact ⟨fun _ raised => (nomatch returned.symm.trans raised), trivial⟩
    | release host slot =>
        refine ⟨fun _ raised => ?_, trivial⟩
        obtain rfl := release_raises raised
        rfl
    | extend host slot ttl =>
        refine ⟨fun _ raised => ?_, trivial⟩
        obtain rfl := extend_raises raised
        rfl
    | findLock site =>
        obtain ⟨owned, knows⟩ := permitted
        exact ⟨fun _ raised => (nomatch raised), (sound site.host).locked site.job (known site owned knows)⟩
    | requireJob site =>
        have registered := known site permitted.1
        simp only [Cluster.execute]
        split
        · exact ⟨fun _ raised => (nomatch raised), trivial⟩
        · rename_i unregistered
          refine ⟨fun fault raised => ?_, fun knows => absurd (registered knows) unregistered⟩
          obtain rfl := Except.error.inj raised
          rfl
    | _ => exact ⟨fun _ raised => (nomatch raised), trivial⟩
  · refine ⟨fun other raised => ?_, ?_⟩
    · obtain rfl := Except.error.inj raised
      exact mayRaise_of_struck struck
    · cases call with
      | requireJob site =>
          intro _
          cases fault <;> first | rfl | cases struck
      | _ => trivial

theorem outcome_of_step {state after : Cluster server} {result : call.Result}
    (stepped : schedulerStep state call (.ok result) after) :
    (state.execute call).1 = .ok result ∧ after = (state.execute call).2.tick := by
  rcases stepped with outcome | ⟨_, _, raised, _⟩
  · exact ⟨(Prod.mk.inj outcome).1, (Prod.mk.inj outcome).2.symm⟩
  · cases raised

theorem known_of_error (phase : RunnerPhase) (call : SchedulerCall) (fault : SchedulerFault) :
    (phase.after call (.error fault)).known = phase.known := by
  cases call with
  | acquire host slot | release host slot => cases slot <;> cases fault <;> rfl
  | _ => cases fault <;> rfl

theorem known_after_step {own : Option Site} {asks : Bool} {phase : RunnerPhase} {state after : Cluster server} {site : Site}
    (owned : own = some site) (permitted : phase.Permits own asks call) (sound : ∀ host, Sound (state.coordinators host))
    (known : phase.known = true → (state.coordinators site.host).isRegistered site.job = true)
    (stepped : schedulerStep state call reply after) (knows : (phase.after call reply).known = true) :
    (state.coordinators site.host).isRegistered site.job = true := by
  rcases reply with fault | result
  · rw [known_of_error] at knows
    exact known knows
  · have outcome := (outcome_of_step stepped).1
    cases call with
    | fire fired =>
        have own' : own = some fired := permitted
        obtain rfl := Option.some.inj (own'.symm.trans owned)
        rcases Bool.or_eq_true_iff.mp knows with before | fires
        · exact known before
        · have fires : result = true := fires
          subst fires
          have held := (Bool.and_eq_true_iff.mp (Except.ok.inj outcome)).2
          exact (sound fired.host).scheduled fired.job held
    | requireJob required =>
        have own' : own = some required := permitted.1
        obtain rfl := Option.some.inj (own'.symm.trans owned)
        simp only [Cluster.execute] at outcome
        split at outcome
        · rename_i registered
          exact registered
        · cases outcome
    | tryLock => cases result <;> exact known knows
    | acquire host slot => cases slot <;> cases result <;> exact known knows
    | release host slot => cases slot <;> exact known knows
    | _ => exact known knows

theorem founded_step (founded : Founded processes state)
    (permitted : (state.phases thread).Permits (processes thread).site? (processes thread).triggers call)
    (scheduled : scheduling thread state call reply after) : Founded processes after where
  sound := fun host => (sound_move (founded.sound host) (coordinator_move scheduled.1 host)).1
  known := by
    intro other site owned knows
    refine (sound_move (founded.sound site.host) (coordinator_move scheduled.1 site.host)).2 site.job ?_
    rw [scheduled.2.1] at knows
    by_cases own : other = thread
    · subst own
      rw [Function.update_self] at knows
      exact known_after_step owned permitted founded.sound (founded.known other site owned) scheduled.1 knows
    · rw [Function.update_of_ne own] at knows
      exact founded.known other site owned knows

theorem scheduler_run {effect : Effect schedulerSignature (SchedulerRun server ι) ι}
    {inv : List (Event schedulerSignature ι) → SchedulerRun server ι → Prop}
    {first last : Pool schedulerSignature SchedulerFault (SchedulerRun server ι) ι}
    {events : List (Event schedulerSignature ι)} (run : Pool.Run effect first events last)
    (schedules : ∀ thread state call reply after, effect thread state call reply after →
      scheduling thread state call reply after)
    (follows : ∀ thread, (first.threads thread).Ensures
      (runnerDiscipline (processes thread).site? (processes thread).triggers) Concludes (first.shared.phases thread))
    (founded : Founded processes first.shared)
    (preserved : ∀ events thread state call reply after, inv events state → Founded processes state →
      (state.phases thread).Permits (processes thread).site? (processes thread).triggers call →
      effect thread state call reply after → inv (events ++ [⟨thread, call, reply⟩]) after)
    (holds : inv [] first.shared) :
    (∀ thread, (last.threads thread).Ensures (runnerDiscipline (processes thread).site? (processes thread).triggers)
      Concludes (last.shared.phases thread)) ∧ Founded processes last.shared ∧ inv events last.shared := by
  refine run.recorded SchedulerRun.phases (fun events state => Founded processes state ∧ inv events state) ?_ follows
    ⟨founded, holds⟩
  rintro events thread state call reply after ⟨founded, holds⟩ permitted effected
  have scheduled := schedules _ _ _ _ _ effected
  have foreseen := foreseen_of_step permitted founded.sound (founded.known thread) scheduled.1
  refine ⟨⟨foreseen, ?_⟩, ?_, founded_step founded permitted scheduled,
    preserved _ _ _ _ _ _ holds founded permitted effected⟩
  · rw [scheduled.2.1, Function.update_self]
  · intro other apart
    rw [scheduled.2.1, Function.update_of_ne apart]

omit [DecidableEq ι] in
theorem founded_launch (processes : ι → SchedulerProcess) (chance : Nat → SchedulerChance) (store : server.Store)
    (elects : Nat → Bool) (jobLockTtl : Option Nat) (leaderLockTtl : Nat) (isLeader : Nat → Bool) :
    Founded processes
      (launchScheduler processes (freshCluster server chance store elects jobLockTtl leaderLockTtl isLeader)).shared where
  sound := fun _ => sound_initial _ _ _ _
  known := fun _ _ _ knows => (nomatch knows)

/-- A call of a thread with its notes; the fault, if any, strikes before the server acts. -/
def schedulerHandler (thread : ι) (strikes : Option SchedulerFault) : Handler schedulerSignature (SchedulerRun server ι) :=
  fun call state =>
    let outcome := match strikes with
      | none => schedulerEnvironment call state.cluster
      | some fault => (.error fault, (state.cluster.failed call).tick)
    (outcome.1,
      { cluster := outcome.2
        phases := Function.update state.phases thread ((state.phases thread).after call outcome.1)
        leasedAt := noteLease thread state.cluster.now call outcome.1 state.leasedAt
        firedEnabled := noteFire thread state.cluster call outcome.1 state.firedEnabled })

theorem schedulerHandler_scheduling (thread : ι) (strikes : Option SchedulerFault) (state : SchedulerRun server ι)
    (call : SchedulerCall) (struck : (strikes.all fun fault => call.struck fault) = true) :
    scheduling thread state call (schedulerHandler thread strikes call state).1
      (schedulerHandler thread strikes call state).2 := by
  refine ⟨?_, rfl, rfl, rfl⟩
  cases strikes with
  | none => exact .inl rfl
  | some fault => exact .inr ⟨fault, struck, rfl, .inl rfl⟩

end Runs

end AutomationHub.Scheduler
