import AutomationHub.Jobs.Redelivery

/-!
Which tiers a worker serves while others push, promote and pop: the tier that an
iteration lists first always gets its turn, the tier in the middle only when the
one listed before it has nothing ready.
-/

set_option autoImplicit false

namespace AutomationHub.Jobs

open Foundation Model Program

/-- A dequeue of the worker: what it found, what it returned and what it left. -/
structure Poll where
  found : JobSystem
  reply : Option UUID
  left : JobSystem

def pollsOf (found : JobSystem) (call : JobCall) (reply : Except JobFault call.Result) (left : JobSystem) : List Poll :=
  match call, reply with
  | .dequeue .., .ok jobId => [{ found, reply := jobId, left }]
  | _, _ => []

/-- The system in a run, with the dequeues of one worker so far. -/
structure Watched where
  system : JobSystem
  polls : List Poll

/-- Any thread may make any call; those of the worker are watched. -/
def watching {ι : Type} [DecidableEq ι] (worker : ι) : Effect jobSignature Watched ι := fun thread state call reply after =>
  jobStep state.system call reply after.system ∧
    after.polls = if thread = worker then state.polls ++ pollsOf state.system call reply after.system else state.polls

/-- The n-th dequeue polls in the order of the n-th iteration. -/
def polling (queueNames : List String) : Protocol jobSignature Nat where
  permits := fun iteration call =>
    ∀ names order, call = .dequeue names order → names = queueNames ∧ order = priorityOrder iteration
  answers := fun iteration call reply next =>
    next = match call, reply with
      | .dequeue .., .ok _ => iteration + 1
      | _, _ => iteration

/-- A call of anything but a dequeue. -/
def DequeuesNot (call : JobCall) : Prop := ∀ names order, call ≠ .dequeue names order

theorem only_perform {allowed : JobCall → Prop} {call : JobCall} (fine : allowed call) :
    (perform call).Only allowed :=
  ⟨fine, fun reply => by cases reply <;> trivial⟩

theorem only_exceptException {α : Type} {allowed : JobCall → Prop} {program : JobProgram α}
    {handle : JobFault → JobProgram α} (first : program.Only allowed) (handled : ∀ fault, (handle fault).Only allowed) :
    (exceptException program handle).Only allowed :=
  first.tryCatch fun fault => by cases fault <;> first | trivial | exact handled _

theorem only_runHandler (job : JobRecord) : (runHandler job).Only DequeuesNot := by
  unfold runHandler
  split
  · refine (only_perform (fun _ _ => JobCall.noConfusion)).bind fun _ => ?_
    refine (only_perform (fun _ _ => JobCall.noConfusion)).bind fun outcome => ?_
    cases outcome <;> trivial
  · trivial

theorem only_retryOrDeadLetter (job : JobRecord) (error : String) : (retryOrDeadLetter job error).Only DequeuesNot := by
  unfold retryOrDeadLetter
  dsimp only
  split
  · refine (only_perform (fun _ _ => JobCall.noConfusion)).bind fun _ => ?_
    refine (only_perform (fun _ _ => JobCall.noConfusion)).bind fun _ => ?_
    refine (only_perform (fun _ _ => JobCall.noConfusion)).bind fun _ => ?_
    exact only_perform fun _ _ => JobCall.noConfusion
  · exact (only_perform (fun _ _ => JobCall.noConfusion)).bind fun _ => trivial

theorem only_processOne (hostname : String) (jobId : UUID) : (processOne hostname jobId).Only DequeuesNot := by
  unfold processOne
  refine Only.bind (only_exceptException ?_ ?_) ?_
  · exact (only_perform (fun _ _ => JobCall.noConfusion)).bind fun _ => trivial
  · exact fun _ => trivial
  · intro fetched
    cases fetched with
    | none => trivial
    | some fetched =>
        refine (only_perform (fun _ _ => JobCall.noConfusion)).bind fun job => ?_
        refine (only_runHandler job).bind fun ran => ?_
        obtain ⟨outcome, message⟩ := ran
        cases outcome with
        | true => exact (only_perform (fun _ _ => JobCall.noConfusion)).bind fun _ => trivial
        | false => exact only_retryOrDeadLetter job _

theorem polling_of_only {α : Type} {queueNames : List String} {program : JobProgram α} (only : program.Only DequeuesNot)
    (iteration : Nat) :
    program.Ensures (polling queueNames) (fun _ reached => iteration = reached) iteration := by
  refine only.ensures (fun reached => iteration = reached) ?_ rfl
  rintro _ call rfl other
  refine ⟨fun names order same => absurd same (other names order), fun reply next answered => ?_⟩
  cases call with
  | dequeue names order => exact absurd rfl (other names order)
  | _ => exact Eq.symm answered

theorem polling_workerLoop (hostname : String) (queueNames : List String) (remaining : Nat) :
    ∀ iteration, (workerLoop hostname queueNames iteration remaining).Ensures (polling queueNames) (fun _ _ => True)
      iteration := by
  induction remaining with
  | zero => exact fun _ => trivial
  | succ remaining recurse =>
      intro iteration
      have asked : (perform .shutdownRequested).Ensures (polling queueNames) (fun _ reached => iteration = reached)
          iteration := polling_of_only (only_perform fun _ _ => JobCall.noConfusion) iteration
      refine (ensures_bind ..).mpr (asked.mono ?_)
      rintro result _ rfl
      rcases result with fault | shutdown
      · trivial
      cases shutdown with
      | true => trivial
      | false =>
          have beaten : (perform (.recordHeartbeat hostname)).Ensures (polling queueNames)
              (fun _ reached => iteration = reached) iteration :=
            polling_of_only (only_perform fun _ _ => JobCall.noConfusion) iteration
          refine (ensures_bind ..).mpr (beaten.mono ?_)
          rintro result _ rfl
          rcases result with fault | beat
          · trivial
          refine (ensures_bind ..).mpr ⟨?_, ?_⟩
          · rintro names order same
            cases same
            exact ⟨rfl, rfl⟩
          · rintro reply _ rfl
            rcases reply with fault | popped
            · trivial
            cases popped with
            | none => exact recurse (iteration + 1)
            | some jobId =>
                refine (ensures_bind ..).mpr ((polling_of_only (only_processOne hostname jobId) (iteration + 1)).mono ?_)
                rintro result _ rfl
                rcases result with fault | processed
                · trivial
                · exact recurse (iteration + 1)

section Runs

variable {ι : Type} [DecidableEq ι]

/-- A dequeue of the n-th iteration. -/
structure Polled (queueNames : List String) (iteration : Nat) (poll : Poll) : Prop where
  reply : poll.reply = (poll.found.dequeue queueNames (priorityOrder iteration)).1
  left : poll.left.ready = (poll.found.dequeue queueNames (priorityOrder iteration)).2.ready

def AllPolled (queueNames : List String) (polls : List Poll) : Prop :=
  ∀ iteration poll, polls[iteration]? = some poll → Polled queueNames iteration poll

/-- The worker at the start of its loop, among any other programs. -/
def launchWatched (worker : ι) (hostname : String) (queueNames : List String) (iterations : Nat)
    (others : ι → JobProgram Unit) (start : JobSystem) : Pool jobSignature JobFault Watched ι where
  shared := { system := start, polls := [] }
  threads := Function.update others worker (workerLoop hostname queueNames 0 iterations)

/-- The worker keeps to its loop; the others may do anything. -/
def loopOf (worker : ι) (queueNames : List String) (thread : ι) : Protocol jobSignature Nat :=
  if thread = worker then polling queueNames else { permits := fun _ _ => True, answers := fun _ _ _ _ => True }

/-- The iteration in which the worker is. -/
def iterationOf (worker : ι) (state : Watched) (thread : ι) : Nat :=
  if thread = worker then state.polls.length else 0

theorem polled_of_step {found left : JobSystem} {queueNames : List String} {iteration : Nat} {jobId : Option UUID}
    (step : jobStep found (.dequeue queueNames (priorityOrder iteration)) (.ok jobId) left) :
    Polled queueNames iteration { found, reply := jobId, left } := by
  rcases step with taken | ⟨fault, _, _, failed, _⟩
  · obtain ⟨reply, after⟩ := Prod.mk.inj taken
    refine ⟨(Except.ok.inj reply).symm, ?_⟩
    rw [← after]
    rfl
  · cases failed

theorem all_polled_append {queueNames : List String} {polls : List Poll} {poll : Poll}
    (polled : AllPolled queueNames polls) (next : Polled queueNames polls.length poll) :
    AllPolled queueNames (polls ++ [poll]) := by
  intro iteration other found
  rcases Nat.lt_trichotomy iteration polls.length with earlier | rfl | later
  · rw [List.getElem?_append_left earlier] at found
    exact polled iteration other found
  · have same : poll = other := by simpa using found
    exact same ▸ next
  · rw [List.getElem?_eq_none (by simpa using Nat.succ_le_of_lt later)] at found
    cases found

/-- A step of the worker is one of its loop, and what it notes is a dequeue of its iteration. -/
theorem watched_step (worker : ι) (queueNames : List String) (thread : ι) (state : Watched) (call : JobCall)
    (reply : Except JobFault call.Result) (after : Watched) (polled : AllPolled queueNames state.polls)
    (permitted : (loopOf worker queueNames thread).permits (iterationOf worker state thread) call)
    (effect : watching worker thread state call reply after) :
    (loopOf worker queueNames thread).answers (iterationOf worker state thread) call reply (iterationOf worker after thread) ∧
      (∀ other, other ≠ thread → iterationOf worker after other = iterationOf worker state other) ∧
      AllPolled queueNames after.polls := by
  obtain ⟨step, polls⟩ := effect
  by_cases watched : thread = worker
  · subst watched
    have others : ∀ other, other ≠ thread → iterationOf thread after other = iterationOf thread state other := by
      intro other different
      simp [iterationOf, different]
    have noted : after.polls = state.polls ++ pollsOf state.system call reply after.system := by simpa using polls
    simp only [loopOf, iterationOf, if_true] at permitted others ⊢
    by_cases dequeues : DequeuesNot call
    · have unnoted : pollsOf state.system call reply after.system = [] := by
        cases call with
        | dequeue names order => exact absurd rfl (dequeues names order)
        | _ => rfl
      rw [unnoted, List.append_nil] at noted
      refine ⟨?_, others, noted ▸ polled⟩
      cases call with
      | dequeue names order => exact absurd rfl (dequeues names order)
      | _ => exact congrArg List.length noted
    · obtain ⟨names, order, rfl⟩ : ∃ names order, call = .dequeue names order := by
        simpa [DequeuesNot] using dequeues
      obtain ⟨rfl, rfl⟩ := permitted names order rfl
      cases reply with
      | error fault =>
          have unnoted : after.polls = state.polls := by simpa [pollsOf] using noted
          exact ⟨congrArg List.length unnoted, others, unnoted ▸ polled⟩
      | ok jobId =>
          have added : after.polls = state.polls ++ [{ found := state.system, reply := jobId, left := after.system }] := noted
          refine ⟨?_, others, added ▸ all_polled_append polled (polled_of_step step)⟩
          change after.polls.length = state.polls.length + 1
          rw [added, List.length_append, List.length_singleton]
  · have same : after.polls = state.polls := by simpa [watched] using polls
    refine ⟨by simp [loopOf, watched], fun other _ => by simp [iterationOf, same], same ▸ polled⟩

/-- The n-th dequeue of the worker polls in the order of the n-th iteration, whatever the others do. -/
theorem all_polled (worker : ι) (hostname : String) (queueNames : List String) (iterations : Nat)
    (others : ι → JobProgram Unit) (start : JobSystem) {last : Pool jobSignature JobFault Watched ι}
    {events : List (Event jobSignature ι)}
    (run : Pool.Run (watching worker) (launchWatched worker hostname queueNames iterations others start) events last) :
    AllPolled queueNames last.shared.polls := by
  have follows : ∀ thread,
      ((launchWatched worker hostname queueNames iterations others start).threads thread).Ensures
        (loopOf worker queueNames thread) (fun _ _ => True)
        (iterationOf worker (launchWatched worker hostname queueNames iterations others start).shared thread) := by
    intro thread
    by_cases watched : thread = worker
    · subst watched
      simpa [launchWatched, loopOf, iterationOf] using polling_workerLoop hostname queueNames iterations 0
    · simpa [launchWatched, loopOf, watched] using
        ensures_kept (fun _ => True) (fun _ _ _ => ⟨trivial, fun _ _ _ => trivial⟩) (others thread) trivial
  have none : AllPolled queueNames (launchWatched worker hostname queueNames iterations others start).shared.polls :=
    fun iteration poll found => by simp [launchWatched] at found
  exact (run.tracked (iterationOf worker) (fun state => AllPolled queueNames state.polls)
    (watched_step worker queueNames) follows none).2

end Runs

section Tiers

/-- A list of the tier has an entry. -/
def TierReady (queueNames : List String) (system : JobSystem) (tier : JobPriority) : Prop :=
  ∃ queueName ∈ queueNames, system.ready (queueName, tier) ≠ []

/-- The dequeue takes the oldest entry of a list of the tier. -/
def Poll.Serves (queueNames : List String) (poll : Poll) (tier : JobPriority) : Prop :=
  ∃ queueName ∈ queueNames, ∃ rest envelope, poll.found.ready (queueName, tier) = rest ++ [envelope] ∧
    poll.reply = some envelope.jobId ∧ poll.left.ready = Function.update poll.found.ready (queueName, tier) rest

variable {queueNames : List String} {system : JobSystem}

theorem firstReady_cons (tier : JobPriority) (rest : List JobPriority) :
    system.firstReady queueNames (tier :: rest)
      = (system.firstReady queueNames [tier]).or (system.firstReady queueNames rest) := by
  simp [JobSystem.firstReady, List.find?_append]

theorem firstReady_eq_none_iff {tier : JobPriority} :
    system.firstReady queueNames [tier] = none ↔ ¬ TierReady queueNames system tier := by
  simp [JobSystem.firstReady, TierReady]

theorem firstReady_eq_some {priorityOrder : List JobPriority} {key : String × JobPriority}
    (found : system.firstReady queueNames priorityOrder = some key) :
    key.1 ∈ queueNames ∧ system.ready key ≠ [] ∧
      ∃ passed left, priorityOrder = passed ++ key.2 :: left ∧ ∀ earlier ∈ passed, ¬ TierReady queueNames system earlier := by
  induction priorityOrder with
  | nil => cases found
  | cons tier rest ih =>
      rw [firstReady_cons] at found
      cases here : system.firstReady queueNames [tier] with
      | none =>
          rw [here, Option.none_or] at found
          obtain ⟨named, ready, passed, left, rfl, skipped⟩ := ih found
          exact ⟨named, ready, tier :: passed, left, rfl,
            List.forall_mem_cons.2 ⟨firstReady_eq_none_iff.1 here, skipped⟩⟩
      | some first =>
          obtain rfl : first = key := by simpa [here] using found
          have ready : system.ready first ≠ [] := by simpa using List.find?_some here
          have listed := List.mem_of_find?_eq_some here
          obtain ⟨queueName, named, rfl⟩ : ∃ queueName ∈ queueNames, (queueName, tier) = first := by simpa using listed
          exact ⟨named, ready, [], rest, rfl, fun _ none => (List.not_mem_nil none).elim⟩

theorem exists_firstReady {priorityOrder : List JobPriority} {tier : JobPriority} (listed : tier ∈ priorityOrder)
    (ready : TierReady queueNames system tier) : ∃ key, system.firstReady queueNames priorityOrder = some key := by
  induction priorityOrder with
  | nil => cases listed
  | cons first rest ih =>
      rw [firstReady_cons]
      cases here : system.firstReady queueNames [first] with
      | some key => exact ⟨key, rfl⟩
      | none =>
          rcases List.mem_cons.1 listed with rfl | later
          · exact absurd ready (firstReady_eq_none_iff.1 here)
          · simpa using ih later

theorem serves_iff_first {iteration : Nat} {poll : Poll} (polled : Polled queueNames iteration poll)
    {key : String × JobPriority} (first : poll.found.firstReady queueNames (priorityOrder iteration) = some key)
    (tier : JobPriority) : poll.Serves queueNames tier ↔ key.2 = tier := by
  obtain ⟨named, nonempty, -⟩ := firstReady_eq_some first
  have ends := List.dropLast_append_getLast nonempty
  obtain ⟨rest, envelope, entries⟩ : ∃ rest envelope, poll.found.ready key = rest ++ [envelope] := ⟨_, _, ends.symm⟩
  have reply : poll.reply = some envelope.jobId := by
    rw [polled.reply]
    simp [JobSystem.dequeue, first, entries]
  have left : poll.left.ready = Function.update poll.found.ready key rest := by
    rw [polled.left]
    simp [JobSystem.dequeue, first, entries]
  constructor
  · rintro ⟨queueName, _, others, other, held, _, taken⟩
    by_contra different
    have elsewhere : (queueName, tier) ≠ key := fun same => different (same ▸ rfl)
    have unchanged := congrFun (taken.symm.trans left) (queueName, tier)
    rw [Function.update_self, Function.update_of_ne elsewhere, held] at unchanged
    simp at unchanged
  · rintro rfl
    exact ⟨key.1, named, rest, envelope, entries, reply, left⟩

theorem serves_iff {iteration : Nat} {poll : Poll} (polled : Polled queueNames iteration poll) {tier : JobPriority}
    (ready : TierReady queueNames poll.found tier) :
    poll.Serves queueNames tier ↔
      ∀ earlier ∈ (priorityOrder iteration).takeWhile (· ≠ tier), ¬ TierReady queueNames poll.found earlier := by
  have listed : tier ∈ priorityOrder iteration := by
    unfold priorityOrder
    split <;> cases tier <;> decide
  obtain ⟨key, first⟩ := exists_firstReady listed ready
  obtain ⟨named, nonempty, passed, left, order, skipped⟩ := firstReady_eq_some first
  have absent : ∀ earlier ∈ passed, decide (earlier ≠ tier) = true := by
    intro earlier earlierMem
    have different : earlier ≠ tier := fun same => skipped earlier earlierMem (same ▸ ready)
    simpa using different
  rw [serves_iff_first polled first, order, List.takeWhile_append_of_pos absent]
  by_cases same : key.2 = tier
  · simpa [same] using skipped
  · refine iff_of_false same fun unready => ?_
    refine unready key.2 (List.mem_append_right _ ?_) ⟨key.1, named, nonempty⟩
    simp [same]

/-- The tier listed just before the middle one. -/
def listedFirst (iteration : Nat) : JobPriority :=
  if iteration % priorityReversalInterval = 0 then .low else .high

theorem serves_normal_iff {iteration : Nat} {poll : Poll} (polled : Polled queueNames iteration poll)
    (ready : TierReady queueNames poll.found .normal) :
    poll.Serves queueNames .normal ↔ ¬ TierReady queueNames poll.found (listedFirst iteration) := by
  rw [serves_iff polled ready, priorityOrder, listedFirst]
  split <;> simp

theorem serves_listedFirst {iteration : Nat} {poll : Poll} (polled : Polled queueNames iteration poll)
    (ready : TierReady queueNames poll.found (listedFirst iteration)) :
    poll.Serves queueNames (listedFirst iteration) := by
  rw [serves_iff polled ready, priorityOrder, listedFirst]
  split <;> simp

/-- Every window of the period has an iteration that lists low first and one that lists high first. -/
theorem exists_listedFirst (start : Nat) {tier : JobPriority} (outer : tier ≠ .normal) :
    ∃ offset < priorityReversalInterval, listedFirst (start + offset) = tier := by
  cases tier with
  | normal => exact absurd rfl outer
  | low =>
      refine ⟨(8 - start % 8) % 8, Nat.mod_lt _ (by decide), ?_⟩
      have reversed : (start + (8 - start % 8) % 8) % priorityReversalInterval = 0 := by
        unfold priorityReversalInterval
        omega
      simp [listedFirst, reversed]
  | high =>
      by_cases reversed : start % 8 = 0
      · refine ⟨1, by decide, ?_⟩
        have usual : (start + 1) % priorityReversalInterval ≠ 0 := by
          unfold priorityReversalInterval
          omega
        simp [listedFirst, usual]
      · exact ⟨0, by decide, by simp [listedFirst, priorityReversalInterval, reversed]⟩
end Tiers

/-- In every window of a worker's iterations as long as the period, whatever the others do meanwhile, a tier that has
an entry throughout is served, unless it is the middle one and the tier listed before it always has an entry too. -/
theorem tier_served_iff {ι : Type} [DecidableEq ι] (worker : ι) (hostname : String) (queueNames : List String)
    (iterations : Nat) (others : ι → JobProgram Unit) (system : JobSystem)
    {last : Pool jobSignature JobFault Watched ι} {events : List (Event jobSignature ι)}
    (run : Pool.Run (watching worker) (launchWatched worker hostname queueNames iterations others system) events last)
    (start : Nat) (complete : start + priorityReversalInterval ≤ last.shared.polls.length) (tier : JobPriority)
    (ready : ∀ offset < priorityReversalInterval, ∀ poll, last.shared.polls[start + offset]? = some poll →
      TierReady queueNames poll.found tier) :
    (∃ offset < priorityReversalInterval, ∃ poll, last.shared.polls[start + offset]? = some poll ∧
        poll.Serves queueNames tier) ↔
      tier ≠ .normal ∨ ∃ offset < priorityReversalInterval, ∃ poll, last.shared.polls[start + offset]? = some poll ∧
        ¬ TierReady queueNames poll.found (listedFirst (start + offset)) := by
  have polled := all_polled worker hostname queueNames iterations others system run
  constructor
  · rintro ⟨offset, within, poll, found, serves⟩
    by_cases middle : tier = .normal
    · subst middle
      have unready := (serves_normal_iff (polled _ poll found) (ready offset within poll found)).1 serves
      exact .inr ⟨offset, within, poll, found, unready⟩
    · exact .inl middle
  · intro condition
    by_cases middle : tier = .normal
    · subst middle
      obtain ⟨offset, within, poll, found, unready⟩ := condition.resolve_left fun outer => outer rfl
      have serves := (serves_normal_iff (polled _ poll found) (ready offset within poll found)).2 unready
      exact ⟨offset, within, poll, found, serves⟩
    · obtain ⟨offset, within, rfl⟩ := exists_listedFirst start middle
      have inside : start + offset < last.shared.polls.length := by omega
      have found := List.getElem?_eq_getElem inside
      exact ⟨offset, within, _, found, serves_listedFirst (polled _ _ found) (ready offset within _ found)⟩

section Samples

/-- A worker alone, its dequeues noted. -/
def watchedHandler : Handler jobSignature Watched := fun call state =>
  let (reply, after) := jobEnvironment call state.system
  (reply, { system := after, polls := state.polls ++ pollsOf state.system call reply after })

/-- Seven entries of the high tier and one of each other tier; the jobs themselves are gone. -/
def crowdedSystem : JobSystem :=
  { emptySystem slowChance with
    ready := fun key =>
      if key = ("default", .high) then (List.range 7).map fun jobId => { jobId, priority := .high }
      else if key.1 = "default" then [{ jobId := 7, priority := key.2 }]
      else [] }

def crowdedPool : Pool jobSignature JobFault Watched Unit :=
  launchWatched () "worker" ["default"] 8 (fun _ => .done ()) crowdedSystem

/-- Eight iterations of four calls each. -/
def crowdedRun : Pool jobSignature JobFault Watched Unit := crowdedPool.play watchedHandler (List.replicate 32 ())

theorem crowded_runs :
    Pool.Run (watching ()) crowdedPool (crowdedPool.trace watchedHandler (List.replicate 32 ())) crowdedRun :=
  Pool.play_runs watchedHandler (fun _ _ _ => ⟨.inl rfl, rfl⟩) crowdedPool _

theorem crowded_window : 0 + priorityReversalInterval ≤ crowdedRun.shared.polls.length := by decide +kernel

theorem crowded_ready {tier : JobPriority} (outer : tier ≠ .low) (offset : Nat) (poll : Poll)
    (found : crowdedRun.shared.polls[0 + offset]? = some poll) : TierReady ["default"] poll.found tier := by
  have all : crowdedRun.shared.polls.all (fun poll => !(poll.found.ready ("default", tier)).isEmpty) = true := by
    cases tier with
    | low => exact absurd rfl outer
    | _ => decide +kernel
  have nonempty := List.all_eq_true.1 all poll (List.mem_of_getElem? found)
  exact ⟨"default", List.mem_singleton_self _, by simpa using nonempty⟩

theorem tier_served_sample :
    ∃ offset < priorityReversalInterval, ∃ poll, crowdedRun.shared.polls[0 + offset]? = some poll ∧
      poll.Serves ["default"] .high :=
  (tier_served_iff () "worker" ["default"] 8 (fun _ => .done ()) crowdedSystem crowded_runs 0 crowded_window .high
    (fun offset _ => crowded_ready (by decide) offset)).2 (.inl (by decide))

/-- The middle tier has an entry throughout the window and none of its iterations takes it. -/
theorem middle_tier_starves :
    ¬ ∀ (system : JobSystem) (last : Pool jobSignature JobFault Watched Unit) (events : List (Event jobSignature Unit)),
        Pool.Run (watching ()) (launchWatched () "worker" ["default"] 8 (fun _ => .done ()) system) events last →
        ∀ (start : Nat) (tier : JobPriority), start + priorityReversalInterval ≤ last.shared.polls.length →
          (∀ offset < priorityReversalInterval, ∀ poll, last.shared.polls[start + offset]? = some poll →
            TierReady ["default"] poll.found tier) →
          ∃ offset < priorityReversalInterval, ∃ poll, last.shared.polls[start + offset]? = some poll ∧
            poll.Serves ["default"] tier := by
  intro fair
  obtain ⟨offset, _, poll, found, queueName, named, rest, envelope, held, _, left⟩ :=
    fair crowdedSystem _ _ crowded_runs 0 .normal crowded_window fun offset _ => crowded_ready (by decide) offset
  have untouched : crowdedRun.shared.polls.all
      (fun poll => poll.left.ready ("default", .normal) == poll.found.ready ("default", .normal)) = true := by
    decide +kernel
  have same := List.all_eq_true.1 untouched poll (List.mem_of_getElem? found)
  obtain rfl : queueName = "default" := List.mem_singleton.1 named
  rw [left, Function.update_self, held] at same
  simp at same

end Samples

end AutomationHub.Jobs
