import AutomationHub.Scheduler.Instances
import Mathlib.Order.Monotone.Basic

/-!
The locks of the jobs: that of each instance, and the one they share.

A lock object gets a token of its own with every acquisition, so that what is held
under one token no other object can disturb.
-/

set_option autoImplicit false

namespace AutomationHub.Scheduler

open Foundation Model Program

namespace RunnerPhase

/-- The runner has the lock of its process. -/
def inside (phase : RunnerPhase) : Bool :=
  phase.position == .locked || phase.position == .leased || phase.position == .executing

/-- The runner has the lock of the server as well. -/
def leasing (phase : RunnerPhase) : Bool := phase.position == .leased || phase.position == .executing

theorem inside_of_leasing {phase : RunnerPhase} (leasing : phase.leasing = true) : phase.inside = true := by
  rcases Bool.or_eq_true_iff.mp leasing with leased | executing
  · simp [inside, leased]
  · simp [inside, executing]

end RunnerPhase

/-- The site whose process lock a call takes. -/
def locks? (call : SchedulerCall) (reply : Except SchedulerFault call.Result) : Option Site :=
  match call, reply with
  | .tryLock site, .ok true => some site
  | _, _ => none

/-- The site whose server lock a call takes. -/
def leases? (call : SchedulerCall) (reply : Except SchedulerFault call.Result) : Option Site :=
  match call, reply with
  | .acquire host (.job job), .ok true => some { host, job }
  | _, _ => none

section Calls

variable {own : Option Site} {asks : Bool} {phase : RunnerPhase} {call : SchedulerCall}
  {reply : Except SchedulerFault call.Result}

theorem known_mono (known : phase.known = true) : (phase.after call reply).known = true := by
  rcases reply with fault | result
  · rw [known_of_error, known]
  · cases call with
    | fire site => simp [RunnerPhase.after, known]
    | tryLock site => cases result <;> exact known
    | acquire host slot => cases slot <;> cases result <;> exact known
    | release host slot => cases slot <;> exact known
    | requireJob site => rfl
    | _ => exact known

/-- A runner enters by taking the lock of its process, and stays until it gives it back. -/
theorem inside_after (permitted : phase.Permits own asks call) (foreseen : Foreseen phase call reply)
    (inside : (phase.after call reply).inside = true) :
    (phase.inside = true ∧ ∀ site, call ≠ .unlock site) ∨
      ∃ site, own = some site ∧ phase.known = true ∧ locks? call reply = some site := by
  rcases reply with fault | result
  · cases fault with
    | killed => cases call <;> cases inside
    | _ =>
        have raised := foreseen.raises _ rfl
        cases call with
        | acquire host slot => cases slot <;> exact .inl ⟨inside, fun _ => nofun⟩
        | release host slot =>
            cases slot with
            | job name => exact .inl ⟨by simp [RunnerPhase.inside, permitted.2], fun _ => nofun⟩
            | leader => exact .inl ⟨inside, fun _ => nofun⟩
        | extend | requireJob | operate => exact .inl ⟨inside, fun _ => nofun⟩
        | _ => cases raised
  · cases call with
    | tryLock site =>
        cases result with
        | true => exact .inr ⟨site, permitted.1, permitted.2.1, rfl⟩
        | false => exact .inl ⟨inside, fun _ => nofun⟩
    | acquire host slot =>
        cases slot with
        | job name => exact .inl ⟨by simp [RunnerPhase.inside, permitted.2.2], fun _ => nofun⟩
        | leader => exact .inl ⟨inside, fun _ => nofun⟩
    | release host slot =>
        cases slot with
        | job name => exact .inl ⟨by simp [RunnerPhase.inside, permitted.2], fun _ => nofun⟩
        | leader => exact .inl ⟨inside, fun _ => nofun⟩
    | startJob site | finishJob site => exact .inl ⟨by simp [RunnerPhase.inside, permitted.2.2], fun _ => nofun⟩
    | unlock site => cases inside
    | _ => exact .inl ⟨inside, fun _ => nofun⟩

/-- A runner takes the lock of the server when it has that of its process, and keeps it until it gives it back. -/
theorem leasing_after (permitted : phase.Permits own asks call) (foreseen : Foreseen phase call reply)
    (leasing : (phase.after call reply).leasing = true) :
    (phase.leasing = true ∧ ∀ host name, call ≠ .release host (.job name)) ∨
      ∃ site, own = some site ∧ phase.known = true ∧ leases? call reply = some site := by
  rcases reply with fault | result
  · cases fault with
    | killed => cases call <;> cases leasing
    | _ =>
        have raised := foreseen.raises _ rfl
        cases call with
        | acquire host slot => cases slot <;> exact .inl ⟨leasing, fun _ _ => nofun⟩
        | release host slot =>
            cases slot with
            | job name => cases leasing
            | leader => exact .inl ⟨leasing, fun _ _ => nofun⟩
        | extend | requireJob | operate => exact .inl ⟨leasing, fun _ _ => nofun⟩
        | _ => cases raised
  · cases call with
    | tryLock site =>
        cases result with
        | true => cases leasing
        | false => exact .inl ⟨leasing, fun _ _ => nofun⟩
    | acquire host slot =>
        cases slot with
        | job name =>
            cases result with
            | true => exact .inr ⟨_, permitted.1, permitted.2.1, rfl⟩
            | false => exact .inl ⟨leasing, fun _ _ => nofun⟩
        | leader => exact .inl ⟨leasing, fun _ _ => nofun⟩
    | release host slot =>
        cases slot with
        | job name => cases leasing
        | leader => exact .inl ⟨leasing, fun _ _ => nofun⟩
    | startJob site | finishJob site => exact .inl ⟨by simp [RunnerPhase.leasing, permitted.2.2], fun _ _ => nofun⟩
    | unlock site => cases leasing
    | _ => exact .inl ⟨leasing, fun _ _ => nofun⟩

theorem permits_leases {site : Site} (permitted : phase.Permits own asks call) (leased : leases? call reply = some site) :
    own = some site ∧ phase.position = .locked := by
  unfold leases? at leased
  split at leased
  · obtain rfl := Option.some.inj leased
    exact ⟨permitted.1, permitted.2.2⟩
  · cases leased

theorem key_job_injective {first second : String} (same : (Slot.job first).key = (Slot.job second).key) :
    first = second :=
  (String.append_right_inj "eah:scheduler:job-lock:").mp same

theorem key_job_leader (name : String) : (Slot.job name).key ≠ Slot.leader.key := by
  intro same
  have begins : (Slot.job name).key.toList.take 15 = "eah:scheduler:job-lock:".toList.take 15 := by
    unfold Slot.key
    rw [String.toList_append, List.take_append_of_le_length (by decide)]
  rw [same] at begins
  revert begins
  decide

end Calls

namespace Cluster

variable {server : LockServer}

/-- The lock of a process for a job, and whether it is taken. -/
def lock (state : Cluster server) (site : Site) : Option Bool := (state.coordinators site.host).locks site.job

/-- The token that the lock object of a job has on an instance. -/
def token (state : Cluster server) (site : Site) : Option Token :=
  match (state.coordinators site.host).distributedLocks site.job with
  | some (.redis _ token) => token
  | _ => none

def isRegistered (state : Cluster server) (site : Site) : Bool :=
  (state.coordinators site.host).isRegistered site.job

end Cluster

section Steps

variable {server : LockServer} {state after : Cluster server} {call : SchedulerCall}
  {reply : Except SchedulerFault call.Result}

theorem frame_execute (state : Cluster server) (call : SchedulerCall) :
    (state.execute call).2.chance = state.chance ∧ (state.execute call).2.ticks = state.ticks ∧
      state.acquisitions ≤ (state.execute call).2.acquisitions := by
  cases call with
  | acquire host slot =>
      cases slot with
      | job name =>
          simp only [Cluster.execute, Cluster.acquire]
          split
          · exact ⟨rfl, rfl, Nat.le_refl _⟩
          · exact ⟨rfl, rfl, Nat.le_refl _⟩
          · dsimp only
            split <;> exact ⟨rfl, rfl, Nat.le_succ _⟩
      | leader =>
          simp only [Cluster.execute, Cluster.acquire]
          split <;> exact ⟨rfl, rfl, Nat.le_refl _⟩
  | release host slot =>
      cases slot with
      | job name =>
          simp only [Cluster.execute, Cluster.release]
          split <;> exact ⟨rfl, rfl, Nat.le_refl _⟩
      | leader =>
          simp only [Cluster.execute, Cluster.release]
          split <;> exact ⟨rfl, rfl, Nat.le_refl _⟩
  | extend host slot ttl =>
      simp only [Cluster.execute, Cluster.extend]
      split <;> exact ⟨rfl, rfl, Nat.le_refl _⟩
  | tryLock site =>
      simp only [Cluster.execute]
      split <;> exact ⟨rfl, rfl, Nat.le_refl _⟩
  | _ => exact ⟨rfl, rfl, Nat.le_refl _⟩

theorem frame_failed (state : Cluster server) (call : SchedulerCall) :
    (state.failed call).chance = state.chance ∧ (state.failed call).ticks = state.ticks ∧
      state.acquisitions ≤ (state.failed call).acquisitions ∧ (state.failed call).store = state.store := by
  cases call with
  | acquire host slot => cases slot <;> exact ⟨rfl, rfl, by first | exact Nat.le_succ _ | exact Nat.le_refl _, rfl⟩
  | release host slot =>
      cases slot with
      | job name =>
          simp only [Cluster.failed]
          split <;> exact ⟨rfl, rfl, Nat.le_refl _, rfl⟩
      | leader => exact ⟨rfl, rfl, Nat.le_refl _, rfl⟩
  | _ => exact ⟨rfl, rfl, Nat.le_refl _, rfl⟩

/-- A step takes one instant, numbers no acquisition twice, and leaves of the server what the call made of it. -/
theorem frame_step (stepped : schedulerStep state call reply after) :
    after.chance = state.chance ∧ after.ticks = state.ticks + 1 ∧ state.acquisitions ≤ after.acquisitions ∧
      (after.store = state.store ∨ after.store = (state.execute call).2.store) := by
  obtain ⟨chance, ticks, numbers⟩ := frame_execute state call
  obtain ⟨kept, still, counted, stored⟩ := frame_failed state call
  rcases stepped with outcome | ⟨fault, -, -, rfl | rfl⟩
  · obtain ⟨-, rfl⟩ := Prod.mk.inj outcome
    exact ⟨chance, congrArg (· + 1) ticks, numbers, .inr rfl⟩
  · exact ⟨kept, congrArg (· + 1) still, counted, .inl stored⟩
  · exact ⟨kept, congrArg (· + 1) still, counted, .inr rfl⟩

theorem now_step (clock : Monotone fun instant => (state.chance instant).now)
    (stepped : schedulerStep state call reply after) : state.now ≤ after.now := by
  obtain ⟨chance, ticks, -, -⟩ := frame_step stepped
  unfold Cluster.now
  rw [chance, ticks]
  exact clock (Nat.le_succ _)

/-- What is held of the lock of a job stays held, unless the object with its token gives it back. -/
theorem held_execute (fenced : server.TokenFenced) {job : String} {token : Token} {until_ : Nat}
    (held : server.Held state.store (Slot.job job).key token state.now until_)
    (foreign : ∀ host, call = .release host (.job job) → state.token { host, job } ≠ some token) :
    server.Held (state.execute call).2.store (Slot.job job).key token state.now until_ := by
  cases call with
  | acquire host slot =>
      cases slot with
      | job name =>
          simp only [Cluster.execute, Cluster.acquire]
          split
          · exact held
          · exact held
          · dsimp only
            split <;> exact fenced.held_grant held
      | leader =>
          simp only [Cluster.execute, Cluster.acquire]
          split <;> exact fenced.held_grant held
  | release host slot =>
      cases slot with
      | job name =>
          simp only [Cluster.execute, Cluster.release]
          split
          · exact held
          · exact held
          · exact held
          · rename_i ttl own object
            refine fenced.held_release held ?_
            intro same
            obtain rfl := key_job_injective same
            simpa [Cluster.token, object] using foreign host rfl
      | leader =>
          simp only [Cluster.execute, Cluster.release]
          split
          · exact held
          · exact fenced.held_release held fun same => absurd same (key_job_leader job)
  | extend host slot ttl =>
      simp only [Cluster.execute, Cluster.extend]
      split
      · exact fenced.held_extend held (key_job_leader job)
      · exact held
  | tryLock site =>
      simp only [Cluster.execute]
      split <;> exact held
  | _ => exact held

theorem held_step (fenced : server.TokenFenced) (clock : Monotone fun instant => (state.chance instant).now)
    {job : String} {token : Token} {until_ : Nat}
    (held : server.Held state.store (Slot.job job).key token state.now until_)
    (foreign : ∀ host, call = .release host (.job job) → state.token { host, job } ≠ some token)
    (stepped : schedulerStep state call reply after) :
    server.Held after.store (Slot.job job).key token after.now until_ := by
  have passed := now_step clock stepped
  rcases (frame_step stepped).2.2.2 with same | executed
  · rw [same]
    exact held.later passed
  · rw [executed]
    exact (held_execute fenced held foreign).later passed

theorem lock_step (stepped : schedulerStep state call reply after) (site : Site) :
    after.lock site = state.lock site ∨ (call = .tryLock site ∧ state.lock site = some false) ∨ call = .unlock site ∨
      state.isRegistered site = false := by
  have move := coordinator_move stepped site.host
  unfold Cluster.lock Cluster.isRegistered
  generalize state.coordinators site.host = before at move ⊢
  generalize after.coordinators site.host = reached at move ⊢
  cases move with
  | operated operation called =>
      cases operation with
      | register name defaultIntervalSeconds intervalSeconds enabled =>
          simp only [Coordinator.operate]
          by_cases known : before.isRegistered name = true
          · exact .inl (by simp only [Coordinator.registerJob, known, if_true])
          · obtain ⟨-, -, -, -, -, locks, -, -⟩ :=
              register_spec before defaultIntervalSeconds intervalSeconds enabled (by simpa using known)
            rw [locks]
            by_cases same : site.job = name
            · exact .inr (.inr (.inr (by simpa [same] using known)))
            · exact .inl (by simp [same])
      | start backendFails =>
          obtain ⟨running, scheduled, same, -⟩ := start_spec before backendFails
          simp only [Coordinator.operate, same, true_or]
      | enable name | disable name =>
          simp only [Coordinator.operate]
          split <;> exact .inl rfl
  | locked job called free =>
      by_cases same : site.job = job
      · subst same
        exact .inr (.inl ⟨called, free⟩)
      · exact .inl (by simp [Coordinator.setLock, same])
  | unlocked job called =>
      by_cases same : site.job = job
      · subst same
        exact .inr (.inr (.inl called))
      · exact .inl (by simp [Coordinator.setLock, same])
  | _ => exact .inl rfl

theorem token_step (stepped : schedulerStep state call reply after) (site : Site) :
    after.token site = state.token site ∨
      (after.token site = none ∧ (call = .release site.host (.job site.job) ∨ state.isRegistered site = false)) ∨
      (after.token site = some (.acquisition state.acquisitions) ∧ after.acquisitions = state.acquisitions + 1 ∧
        leases? call reply = some site) := by
  by_cases acquiring : call = .acquire site.host (.job site.job)
  · subst acquiring
    rcases stepped with outcome | ⟨fault, -, -, rfl | rfl⟩
    · obtain ⟨rfl, rfl⟩ := Prod.mk.inj outcome
      simp only [Cluster.execute, Cluster.acquire]
      split
      · exact .inl rfl
      · exact .inl rfl
      · dsimp only
        split
        · rename_i granted
          refine .inr (.inr ⟨?_, rfl, ?_⟩)
          · simp [Cluster.token, Cluster.tick, Cluster.setCoordinator, Coordinator.setToken]
          · rw [granted]
            rfl
        · exact .inl rfl
    · exact .inl rfl
    · exact .inl rfl
  · have move := coordinator_move stepped site.host
    unfold Cluster.token Cluster.isRegistered
    generalize state.coordinators site.host = before at move ⊢
    generalize after.coordinators site.host = reached at move ⊢
    cases move with
    | operated operation called =>
        cases operation with
        | register name defaultIntervalSeconds intervalSeconds enabled =>
            simp only [Coordinator.operate]
            by_cases known : before.isRegistered name = true
            · exact .inl (by simp only [Coordinator.registerJob, known, if_true])
            · obtain ⟨-, -, -, -, -, -, -, objects⟩ :=
                register_spec before defaultIntervalSeconds intervalSeconds enabled (by simpa using known)
              rw [objects]
              by_cases same : site.job = name
              · refine .inr (.inl ⟨?_, .inr (by simpa [same] using known)⟩)
                rw [same, Function.update_self]
                cases before.jobLockTtl <;> rfl
              · exact .inl (by simp [same])
        | start backendFails =>
            obtain ⟨running, scheduled, same, -⟩ := start_spec before backendFails
            simp only [Coordinator.operate, same, true_or]
        | enable name | disable name =>
            left
            congr 1
            simp only [Coordinator.operate]
            split <;> rfl
    | leased job ttl old token called object =>
        by_cases same : site.job = job
        · subst same
          exact absurd called acquiring
        · exact .inl (by simp [Coordinator.setToken, same])
    | released job ttl old called object =>
        by_cases same : site.job = job
        · subst same
          exact .inr (.inl ⟨by simp [Coordinator.setToken], .inl called⟩)
        · exact .inl (by simp [Coordinator.setToken, same])
    | _ => exact .inl rfl

theorem locks_step {site : Site} (stepped : schedulerStep state call reply after)
    (locked : locks? call reply = some site) : state.lock site = some false ∧ after.lock site = some true := by
  unfold locks? at locked
  split at locked
  · rename_i taken
    obtain rfl := Option.some.inj locked
    obtain ⟨free, rfl⟩ := outcome_of_step stepped
    have free : ((state.coordinators taken.host).locks taken.job == some false) = true := Except.ok.inj free
    refine ⟨by simpa [Cluster.lock] using free, ?_⟩
    simp [Cluster.execute, free, Cluster.lock, Cluster.tick, Cluster.setCoordinator, Coordinator.setLock]
  · cases locked

theorem leases_step {site : Site} {ttl : Nat} {old : Option Token} (fenced : server.TokenFenced)
    (clock : Monotone fun instant => (state.chance instant).now)
    (object : (state.coordinators site.host).distributedLocks site.job = some (.redis ttl old))
    (stepped : schedulerStep state call reply after) (leased : leases? call reply = some site) :
    ∃ token, after.token site = some token ∧
      server.Held after.store (Slot.job site.job).key token after.now (state.now + ttl) := by
  have passed := now_step clock stepped
  unfold leases? at leased
  split at leased
  · obtain rfl := Option.some.inj leased
    dsimp only at object
    obtain ⟨granted, rfl⟩ := outcome_of_step stepped
    simp only [Cluster.execute, Cluster.acquire, object] at granted passed ⊢
    have granted := Except.ok.inj granted
    have held : server.Held _ _ _ state.now (state.now + ttl) := (fenced.grant_free granted).2
    simp only [granted, if_true] at passed ⊢
    refine ⟨.acquisition state.acquisitions, ?_, held.later passed⟩
    simp [Cluster.token, Cluster.tick, Cluster.setCoordinator, Coordinator.setToken]
  · cases leased

end Steps

section Coordinators

variable {ttl : Nat} {before after : Coordinator}

/-- Every registered job has a lock object on the server, with the given lifetime. -/
structure Equipped (ttl : Nat) (coordinator : Coordinator) : Prop where
  lifetime : coordinator.jobLockTtl = some ttl
  objects : ∀ name, coordinator.isRegistered name = true →
    ∃ token, coordinator.distributedLocks name = some (.redis ttl token)

theorem equipped_move {call : SchedulerCall} {host : Nat} (equipped : Equipped ttl before)
    (move : CoordinatorMove call host before after) : Equipped ttl after := by
  obtain ⟨lifetime, objects⟩ := equipped
  have refreshed : ∀ (job : String) (token : Option Token) {other : Nat} {old : Option Token},
      before.distributedLocks job = some (.redis other old) → ∀ name, before.isRegistered name = true →
      ∃ present, (before.setToken job other token).distributedLocks name = some (.redis ttl present) := by
    intro job token other old object name known
    by_cases same : name = job
    · subst same
      obtain ⟨present, found⟩ := objects name known
      obtain ⟨rfl, -⟩ : other = ttl ∧ old = present := by simpa [object] using found
      exact ⟨token, by simp [Coordinator.setToken]⟩
    · simpa [Coordinator.setToken, same] using objects name known
  cases move with
  | operated operation called =>
      cases operation with
      | register name defaultIntervalSeconds intervalSeconds enabled =>
          simp only [Coordinator.operate]
          by_cases known : before.isRegistered name = true
          · simp only [Coordinator.registerJob, known, if_true]
            exact ⟨lifetime, objects⟩
          · obtain ⟨registered, -, -, -, kept, -, -, added⟩ :=
              register_spec before defaultIntervalSeconds intervalSeconds enabled (by simpa using known)
            refine ⟨kept.trans lifetime, ?_⟩
            intro other known
            rw [registered] at known
            rw [added, lifetime]
            by_cases same : other = name
            · exact ⟨none, by simp [same]⟩
            · simpa [same] using objects other (by simpa [beq_eq_false_iff_ne.mpr (Ne.symm same)] using known)
      | start backendFails =>
          obtain ⟨running, scheduled, same, -⟩ := start_spec before backendFails
          simp only [Coordinator.operate, same]
          exact ⟨lifetime, objects⟩
      | enable name | disable name =>
          simp only [Coordinator.operate]
          split
          · refine ⟨lifetime, ?_⟩
            intro other known
            rw [isRegistered_setEnabled] at known
            exact objects other known
          · exact ⟨lifetime, objects⟩
  | leased job other old token called object => exact ⟨lifetime, refreshed job (some token) object⟩
  | released job other old called object => exact ⟨lifetime, refreshed job none object⟩
  | _ => exact ⟨lifetime, objects⟩

end Coordinators

section Runs

variable {server : LockServer} {ι : Type} [DecidableEq ι]

/-- No two objects have one token, and none has one that is still to be given. -/
structure Distinct (cluster : Cluster server) : Prop where
  numbered : ∀ site token, cluster.token site = some token → ∃ number, token = .acquisition number ∧ number < cluster.acquisitions
  apart : ∀ site other token, cluster.token site = some token → cluster.token other = some token → site = other

theorem distinct_step {state after : Cluster server} {call : SchedulerCall} {reply : Except SchedulerFault call.Result}
    (distinct : Distinct state) (stepped : schedulerStep state call reply after) : Distinct after := by
  have counted := (frame_step stepped).2.2.1
  -- A token is an earlier one of the same object, or the new one of the only object that acquired in this step.
  have origin : ∀ site token, after.token site = some token → state.token site = some token ∨
      (token = .acquisition state.acquisitions ∧ after.acquisitions = state.acquisitions + 1 ∧
        leases? call reply = some site) := by
    intro site token present
    rcases token_step stepped site with same | ⟨gone, -⟩ | ⟨taken, next, leased⟩
    · exact .inl (same.symm.trans present)
    · exact absurd (gone.symm.trans present) nofun
    · exact .inr ⟨(Option.some.inj (taken.symm.trans present)).symm, next, leased⟩
  have stale : ∀ site, state.token site ≠ some (.acquisition state.acquisitions) := by
    intro site present
    obtain ⟨number, same, below⟩ := distinct.numbered site _ present
    obtain rfl := Token.acquisition.inj same
    exact Nat.lt_irrefl _ below
  constructor
  · intro site token present
    rcases origin site token present with before | ⟨rfl, next, -⟩
    · obtain ⟨number, same, below⟩ := distinct.numbered site token before
      exact ⟨number, same, Nat.lt_of_lt_of_le below counted⟩
    · exact ⟨_, rfl, by rw [next]; exact Nat.lt_succ_self _⟩
  · intro site other token first second
    rcases origin site token first with before | ⟨rfl, -, leased⟩
    · rcases origin other token second with also | ⟨rfl, -, -⟩
      · exact distinct.apart site other token before also
      · exact absurd before (stale site)
    · rcases origin other _ second with also | ⟨-, -, also⟩
      · exact absurd also (stale other)
      · exact Option.some.inj (leased.symm.trans also)

theorem noteLease_other {thread other : ι} {now : Datetime} {call : SchedulerCall}
    {reply : Except SchedulerFault call.Result} {notes : ι → Datetime}
    (unmoved : other = thread → leases? call reply = none) : noteLease thread now call reply notes other = notes other := by
  unfold noteLease
  split
  · by_cases own : other = thread
    · exact absurd (unmoved own) nofun
    · simp [own]
  · rfl

theorem noteLease_self {thread : ι} {now : Datetime} {call : SchedulerCall} {reply : Except SchedulerFault call.Result}
    {notes : ι → Datetime} {site : Site} (leased : leases? call reply = some site) :
    noteLease thread now call reply notes thread = now := by
  unfold leases? at leased
  split at leased
  · simp [noteLease]
  · cases leased

/-- Only the runner inside has the lock of its process, and the one that took the lock of the server holds it for its
time, under the token of its object. -/
structure Guarded (ttl : Nat) (processes : ι → SchedulerProcess) (state : SchedulerRun server ι) : Prop where
  clock : Monotone fun instant => (state.cluster.chance instant).now
  equipped : ∀ host, Equipped ttl (state.cluster.coordinators host)
  distinct : Distinct state.cluster
  entered : ∀ thread site, (processes thread).site? = some site → (state.phases thread).inside = true →
    (state.phases thread).known = true ∧ state.cluster.lock site = some true
  alone : ∀ first second site, (processes first).site? = some site → (processes second).site? = some site →
    (state.phases first).inside = true → (state.phases second).inside = true → first = second
  leased : ∀ thread site, (processes thread).site? = some site → (state.phases thread).leasing = true →
    ∃ token, state.cluster.token site = some token ∧
      server.Held state.cluster.store (Slot.job site.job).key token state.cluster.now (state.leasedAt thread + ttl)

section Step

variable {ttl : Nat} {processes : ι → SchedulerProcess} {thread : ι} {state after : SchedulerRun server ι}
  {call : SchedulerCall} {reply : Except SchedulerFault call.Result}

theorem entered_step (guarded : Guarded ttl processes state) (founded : Founded processes state)
    (permitted : (state.phases thread).Permits (processes thread).site? (processes thread).triggers call)
    (foreseen : Foreseen (state.phases thread) call reply) (scheduled : scheduling thread state call reply after)
    {other : ι} {site : Site} (owned : (processes other).site? = some site)
    (inside : (after.phases other).inside = true) :
    (after.phases other).known = true ∧ after.cluster.lock site = some true := by
  have keeps : (state.phases other).inside = true → (∀ taken, call = .unlock taken → taken ≠ site) →
      after.cluster.lock site = some true := by
    intro before apart
    obtain ⟨known, locked⟩ := guarded.entered other site owned before
    rcases lock_step scheduled.1 site with same | ⟨-, free⟩ | unlocked | unregistered
    · rw [same, locked]
    · exact absurd (free.symm.trans locked) (by decide)
    · exact absurd rfl (apart site unlocked)
    · exact absurd (unregistered.symm.trans (founded.known other site owned known)) (by decide)
  rw [scheduled.2.1] at inside ⊢
  by_cases own : other = thread
  · subst own
    rw [Function.update_self] at inside ⊢
    rcases inside_after permitted foreseen inside with ⟨before, staying⟩ | ⟨taken, owns, known, locked⟩
    · exact ⟨known_mono (guarded.entered other site owned before).1, keeps before fun taken called => absurd called (staying taken)⟩
    · obtain rfl := Option.some.inj (owns.symm.trans owned)
      exact ⟨known_mono known, (locks_step scheduled.1 locked).2⟩
  · rw [Function.update_of_ne own] at inside ⊢
    refine ⟨(guarded.entered other site owned inside).1, keeps inside ?_⟩
    rintro taken rfl rfl
    have within : (state.phases thread).inside = true := by simp [RunnerPhase.inside, permitted.2.2]
    exact own (guarded.alone other thread _ owned permitted.1 inside within)

theorem alone_step (guarded : Guarded ttl processes state)
    (permitted : (state.phases thread).Permits (processes thread).site? (processes thread).triggers call)
    (foreseen : Foreseen (state.phases thread) call reply) (scheduled : scheduling thread state call reply after)
    {first second : ι} {site : Site} (owned : (processes first).site? = some site)
    (also : (processes second).site? = some site) (inside : (after.phases first).inside = true)
    (within : (after.phases second).inside = true) : first = second := by
  -- A runner that enters finds nobody inside.
  have entering : ∀ other, other ≠ thread → (processes thread).site? = some site → (processes other).site? = some site →
      (after.phases thread).inside = true → (after.phases other).inside = true → False := by
    intro other apart owned also inside within
    rw [scheduled.2.1, Function.update_self] at inside
    rw [scheduled.2.1, Function.update_of_ne apart] at within
    rcases inside_after permitted foreseen inside with ⟨before, -⟩ | ⟨taken, owns, -, locked⟩
    · exact apart (guarded.alone other thread site also owned within before)
    · obtain rfl := Option.some.inj (owns.symm.trans owned)
      exact absurd ((locks_step scheduled.1 locked).1.symm.trans (guarded.entered other _ also within).2) (by decide)
  by_cases firstOwn : first = thread
  · subst firstOwn
    by_contra apart
    exact entering second (Ne.symm apart) owned also inside within
  · by_cases secondOwn : second = thread
    · subst secondOwn
      exact (entering first firstOwn also owned within inside).elim
    · rw [scheduled.2.1, Function.update_of_ne firstOwn] at inside
      rw [scheduled.2.1, Function.update_of_ne secondOwn] at within
      exact guarded.alone first second site owned also inside within

theorem leased_step (fenced : server.TokenFenced) (guarded : Guarded ttl processes state)
    (founded : Founded processes state)
    (permitted : (state.phases thread).Permits (processes thread).site? (processes thread).triggers call)
    (foreseen : Foreseen (state.phases thread) call reply) (scheduled : scheduling thread state call reply after)
    {other : ι} {site : Site} (owned : (processes other).site? = some site)
    (leasing : (after.phases other).leasing = true) :
    ∃ token, after.cluster.token site = some token ∧
      server.Held after.cluster.store (Slot.job site.job).key token after.cluster.now (after.leasedAt other + ttl) := by
  have keeps : (state.phases other).leasing = true → call ≠ .release site.host (.job site.job) →
      leases? call reply ≠ some site → (other = thread → leases? call reply = none) →
      (∀ host, call = .release host (.job site.job) → { host, job := site.job } ≠ site) →
      ∃ token, after.cluster.token site = some token ∧
        server.Held after.cluster.store (Slot.job site.job).key token after.cluster.now (after.leasedAt other + ttl) := by
    intro before unreleased untaken unmoved apart
    obtain ⟨token, present, held⟩ := guarded.leased other site owned before
    have known := (guarded.entered other site owned (RunnerPhase.inside_of_leasing before)).1
    have stays : after.cluster.token site = some token := by
      rcases token_step scheduled.1 site with same | ⟨-, released | unregistered⟩ | ⟨-, -, leased⟩
      · exact same.trans present
      · exact absurd released unreleased
      · exact absurd (unregistered.symm.trans (founded.known other site owned known)) (by decide)
      · exact absurd leased untaken
    refine ⟨token, stays, ?_⟩
    rw [scheduled.2.2.1, noteLease_other unmoved]
    refine held_step fenced guarded.clock held ?_ scheduled.1
    intro host called also
    exact apart host called (guarded.distinct.apart _ _ token also present)
  by_cases own : other = thread
  · subst own
    rw [scheduled.2.1, Function.update_self] at leasing
    rcases leasing_after permitted foreseen leasing with ⟨before, holding⟩ | ⟨taken, owns, known, leased⟩
    · have untaken : ∀ taken, leases? call reply ≠ some taken := by
        intro taken leased
        simp [RunnerPhase.leasing, (permits_leases permitted leased).2] at before
      exact keeps before (holding _ _) (untaken site) (fun _ => Option.eq_none_iff_forall_ne_some.mpr untaken)
        fun host called => absurd called (holding host site.job)
    · obtain rfl := Option.some.inj (owns.symm.trans owned)
      obtain ⟨old, object⟩ := (guarded.equipped taken.host).objects taken.job (founded.known other taken owned known)
      rw [scheduled.2.2.1, noteLease_self leased]
      exact leases_step fenced guarded.clock object scheduled.1 leased
  · rw [scheduled.2.1, Function.update_of_ne own] at leasing
    have inside := RunnerPhase.inside_of_leasing leasing
    -- The runner that calls is not at this site: it is inside, and only one is.
    have elsewhere : (processes thread).site? = some site → (state.phases thread).inside = true → False :=
      fun also within => own (guarded.alone other thread site owned also inside within)
    refine keeps leasing ?_ ?_ (fun same => absurd same own) ?_
    · rintro rfl
      exact elsewhere permitted.1 (by simp [RunnerPhase.inside, permitted.2])
    · intro leased
      obtain ⟨owns, locked⟩ := permits_leases permitted leased
      exact elsewhere owns (by simp [RunnerPhase.inside, locked])
    · rintro host rfl same
      exact elsewhere (same ▸ permitted.1) (by simp [RunnerPhase.inside, permitted.2])

theorem guarded_step (fenced : server.TokenFenced) (guarded : Guarded ttl processes state)
    (founded : Founded processes state)
    (permitted : (state.phases thread).Permits (processes thread).site? (processes thread).triggers call)
    (scheduled : scheduling thread state call reply after) : Guarded ttl processes after := by
  have foreseen := foreseen_of_step permitted founded.sound (founded.known thread) scheduled.1
  constructor
  · rw [(frame_step scheduled.1).1]
    exact guarded.clock
  · exact fun host => equipped_move (guarded.equipped host) (coordinator_move scheduled.1 host)
  · exact distinct_step guarded.distinct scheduled.1
  · exact fun _ _ owned inside => entered_step guarded founded permitted foreseen scheduled owned inside
  · exact fun _ _ _ owned also inside within =>
      alone_step guarded permitted foreseen scheduled owned also inside within
  · exact fun _ _ owned leasing => leased_step fenced guarded founded permitted foreseen scheduled owned leasing

omit [DecidableEq ι] in
theorem guarded_launch (processes : ι → SchedulerProcess) {chance : Nat → SchedulerChance}
    (clock : Monotone fun instant => (chance instant).now) (store : server.Store) (elects : Nat → Bool) (ttl : Nat)
    (leaderLockTtl : Nat) (isLeader : Nat → Bool) :
    Guarded ttl processes
      (launchScheduler processes (freshCluster server chance store elects (some ttl) leaderLockTtl isLeader)).shared where
  clock := clock
  equipped := fun _ => ⟨rfl, fun _ known => (nomatch known)⟩
  distinct := ⟨fun _ _ present => (nomatch present), fun _ _ _ present => (nomatch present)⟩
  entered := fun _ _ _ inside => (nomatch inside)
  alone := fun _ _ _ _ _ inside => (nomatch inside)
  leased := fun _ _ _ leasing => (nomatch leasing)

omit [DecidableEq ι] in
theorem Guarded.exclusive (guarded : Guarded ttl processes state) {first second : ι} {one other : Site}
    (owned : (processes first).site? = some one) (also : (processes second).site? = some other)
    (same : one.job = other.job) (leasing : (state.phases first).leasing = true)
    (leased : (state.phases second).leasing = true) (early : state.cluster.now < state.leasedAt first + ttl)
    (within : state.cluster.now < state.leasedAt second + ttl) : first = second := by
  obtain ⟨token, present, held⟩ := guarded.leased first one owned leasing
  obtain ⟨own, found, keeps⟩ := guarded.leased second other also leased
  rw [← same] at keeps
  obtain rfl := held.unique keeps early within
  obtain rfl := guarded.distinct.apart one other token present found
  exact guarded.alone first second one owned also (RunnerPhase.inside_of_leasing leasing)
    (RunnerPhase.inside_of_leasing leased)

omit [DecidableEq ι] in
theorem Guarded.spared (fenced : server.TokenFenced) (guarded : Guarded ttl processes state) {host other : Nat}
    {name : String} {token : Token} {reply : Except SchedulerFault Unit} (stepped : schedulerStep state.cluster (.release host (.job name)) reply after.cluster)
    (apart : other ≠ host) (present : state.cluster.token { host := other, job := name } = some token)
    (holding : server.holder state.cluster.store (Slot.job name).key state.cluster.now = some token) {instant : Nat}
    (passed : state.cluster.now ≤ instant) :
    server.holder after.cluster.store (Slot.job name).key instant =
      server.holder state.cluster.store (Slot.job name).key instant := by
  rcases (frame_step stepped).2.2.2 with same | executed
  · rw [same]
  · rw [executed]
    simp only [Cluster.execute, Cluster.release]
    split
    · rfl
    · rfl
    · rfl
    · rename_i lifetime own object
      refine fenced.release_fenced ?_ instant passed
      intro also
      obtain rfl := Option.some.inj (holding.symm.trans also)
      have found : state.cluster.token { host, job := name } = some token := by simp [Cluster.token, object]
      exact apart (congrArg Site.host (guarded.distinct.apart _ _ token present found))

end Step

end Runs

end AutomationHub.Scheduler
