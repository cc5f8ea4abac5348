import AutomationHub.Jobs.Worker

/-!
What a process of the job system knows at each point, and which calls it makes
there.

A process names only rows that it read, at the version it read them, and pushes
only jobs that it holds.
-/

set_option autoImplicit false

namespace AutomationHub.Jobs

open Foundation Model Database Program

/-- The row that a worker works on: fetched, marked running, in its handler, and out of it. -/
inductive Stage where
  | none
  | fetched (row : JobRecord)
  | marked (row : JobRecord)
  | executing (row : JobRecord)
  | executed (row : JobRecord)

/-- What a process has in hand: the pointer to a job that no queue holds for it, the row it works on, the rows that the
reaper listed, and the row that an administrator looked at. -/
structure JobPhase where
  held : Option UUID
  stage : Stage
  listed : List JobRecord
  inspected : Option JobRecord

namespace JobPhase

def idle : JobPhase := { held := none, stage := .none, listed := [], inspected := none }

def after (phase : JobPhase) (call : JobCall) (reply : Except JobFault call.Result) : JobPhase :=
  match call, reply with
  | _, .error .killed => idle
  | .dequeue .., .ok jobId => { phase with held := jobId }
  | .getJob _, .ok row => if phase.held.isSome then { phase with stage := .fetched row } else { phase with inspected := some row }
  | .getJob _, .error _ => { phase with held := none }
  | .markRunning .., .ok row => { phase with held := none, stage := .marked row }
  | .markRunning .., .error _ => { phase with held := none, stage := .none }
  | .startHandler _, .ok _ =>
      match phase.stage with
      | .marked row => { phase with stage := .executing row }
      | _ => phase
  | .awaitHandler _, .ok _ =>
      match phase.stage with
      | .executing row => { phase with stage := .executed row }
      | _ => phase
  | .markSucceeded .., _ | .markDeadLettered .., _ => { phase with stage := .none }
  | .markFailedWillRetry jobId .., .ok _ => { phase with held := some jobId, stage := .none }
  | .markFailedWillRetry .., .error _ => { phase with stage := .none }
  | .createJob .., .ok row => { phase with held := some row.id }
  | .retryDeadLetter .., .ok row => { phase with held := some row.id }
  | .pushReady .., _ | .pushDelayed .., _ => { phase with held := none }
  | .listStuckRunning _, .ok rows => { phase with listed := rows }
  | .listStuckQueued _, .ok rows => { phase with listed := phase.listed ++ rows }
  | _, _ => phase

/-- Nothing is in hand. -/
structure Resting (phase : JobPhase) : Prop where
  held : phase.held = none
  stage : phase.stage = .none

/-- The row whose failure the process may record. -/
def Settles (phase : JobPhase) (row : JobRecord) : Prop :=
  phase.held = none ∧ (phase.stage = .executed row ∨ phase.stage = .marked row ∨ phase.stage = .none ∧ row ∈ phase.listed)

def Permits (phase : JobPhase) : JobCall → Prop
  | .dequeue .. | .createJob .. | .listStuckRunning _ | .listStuckQueued _ => phase.Resting
  | .getJob jobId => phase.stage = .none ∧ (phase.held = none ∨ phase.held = some jobId)
  | .markRunning jobId expectedVersion _ =>
      ∃ row, phase.stage = .fetched row ∧ row.id = jobId ∧ row.version = expectedVersion
  | .startHandler jobId =>
      phase.held = none ∧ ∃ row, phase.stage = .marked row ∧ row.id = jobId ∧ row.taskType ∈ registeredTasks
  | .awaitHandler jobId => phase.held = none ∧ ∃ row, phase.stage = .executing row ∧ row.id = jobId
  | .markSucceeded jobId expectedVersion =>
      phase.held = none ∧ ∃ row, phase.stage = .executed row ∧ row.id = jobId ∧ row.version = expectedVersion
  | .markFailedWillRetry jobId expectedVersion attempts _ currentErrorHistory _ =>
      ∃ row, phase.Settles row ∧ row.id = jobId ∧ row.version = expectedVersion ∧ attempts = row.attempts + 1 ∧
        row.attempts + 1 < row.maxAttempts ∧ currentErrorHistory = row.errorHistory
  | .markDeadLettered jobId expectedVersion attempts _ currentErrorHistory =>
      ∃ row, phase.Settles row ∧ row.id = jobId ∧ row.version = expectedVersion ∧ attempts = row.attempts + 1 ∧
        row.maxAttempts ≤ row.attempts + 1 ∧ currentErrorHistory = row.errorHistory
  | .retryDeadLetter jobId expectedVersion =>
      phase.Resting ∧ ∃ row, phase.inspected = some row ∧ row.id = jobId ∧ row.version = expectedVersion ∧
        row.status = .deadLettered
  | .pushReady _ _ jobId | .pushDelayed _ _ jobId _ => phase.held = some jobId ∧ phase.stage = .none
  | _ => True

theorem resting_idle : idle.Resting := ⟨rfl, rfl⟩

end JobPhase

/-- A job that was fetched is the one asked for. -/
def FetchesJob : (call : JobCall) → Except JobFault call.Result → Prop
  | .getJob jobId, .ok row => row.id = jobId
  | _, _ => True

/-- A reply that the call can have. -/
structure Possible (call : JobCall) (reply : Except JobFault call.Result) : Prop where
  raises : ∀ fault, reply = .error fault → call.mayRaise fault = true
  fetches : FetchesJob call reply

def jobDiscipline : Protocol jobSignature JobPhase where
  permits := JobPhase.Permits
  answers := fun phase call reply after => Possible call reply ∧ after = phase.after call reply

theorem ensures_perform {phase : JobPhase} {call : JobCall} {post : Except JobFault call.Result → JobPhase → Prop} :
    (perform call).Ensures jobDiscipline post phase ↔
      phase.Permits call ∧ ∀ reply, Possible call reply → post reply (phase.after call reply) := by
  exact ensures_advancing (fun reply => by cases reply <;> rfl) (fun _ _ => Iff.rfl) post

/-- What a `try` leads to whose handler is entered for every exception but the killing of the process. -/
def Excepted {α : Type} (handle : JobFault → JobProgram α) (post : Except JobFault α → JobPhase → Prop) :
    Except JobFault α → JobPhase → Prop
  | .ok value, final => post (.ok value) final
  | .error .killed, final => post (.error .killed) final
  | .error fault, final => (handle fault).Ensures jobDiscipline post final

theorem ensures_exceptException {α : Type} {phase : JobPhase} {post : Except JobFault α → JobPhase → Prop}
    {program : JobProgram α} {handle : JobFault → JobProgram α}
    (ensured : program.Ensures jobDiscipline (Excepted handle post) phase) :
    (exceptException program handle).Ensures jobDiscipline post phase := by
  refine (ensures_tryCatch ..).mpr (ensured.mono ?_)
  intro result final excepted
  rcases result with fault | value
  · cases fault <;> exact excepted
  · exact excepted

theorem ensures_logged {phase : JobPhase} {post : Except JobFault Unit → JobPhase → Prop} {program : JobProgram Unit}
    (ensured : program.Ensures jobDiscipline (fun _ final => post (.ok ()) final ∧ post (.error .killed) final) phase) :
    (exceptException program fun _ => return ()).Ensures jobDiscipline post phase := by
  refine ensures_exceptException (ensured.mono ?_)
  intro result final held
  rcases result with fault | value
  · cases fault <;> first | exact held.1 | exact held.2
  · exact held.1

section Programs

variable {phase : JobPhase}

/-- How every process ends: nothing in hand. -/
def Rests {α : Type} (_ : Except JobFault α) (phase : JobPhase) : Prop := phase.Resting

theorem resting_after_pushReady (apart : phase.stage = .none) (queueName : String) (priority : JobPriority) (jobId : UUID)
    (reply : Except JobFault Unit) : (phase.after (.pushReady queueName priority jobId) reply).Resting := by
  rcases reply with fault | done
  · cases fault <;> first | exact JobPhase.resting_idle | exact ⟨rfl, apart⟩
  · exact ⟨rfl, apart⟩

theorem resting_after_pushDelayed (apart : phase.stage = .none) (queueName : String) (priority : JobPriority)
    (jobId : UUID) (readyAt : Datetime) (reply : Except JobFault Unit) :
    (phase.after (.pushDelayed queueName priority jobId readyAt) reply).Resting := by
  rcases reply with fault | done
  · cases fault <;> first | exact JobPhase.resting_idle | exact ⟨rfl, apart⟩
  · exact ⟨rfl, apart⟩

private theorem ensures_enqueue (resting : phase.Resting) (defaultMaxAttempts : Nat) (request : EnqueueRequest) :
    (enqueue defaultMaxAttempts request).Ensures jobDiscipline Rests phase := by
  refine (ensures_bind ..).mpr (ensures_perform.mpr ⟨resting, ?_⟩)
  intro reply _
  cases reply with
  | error fault => cases fault <;> first | exact JobPhase.resting_idle | exact resting
  | ok job =>
      refine (ensures_bind ..).mpr (ensures_logged ?_)
      cases request.scheduledFor with
      | none =>
          refine ensures_perform.mpr ⟨⟨rfl, resting.stage⟩, ?_⟩
          intro reply _
          have rested := @resting_after_pushReady { phase with held := some job.id } resting.stage request.queueName
            request.priority job.id reply
          exact ⟨rested, rested⟩
      | some readyAt =>
          refine ensures_perform.mpr ⟨⟨rfl, resting.stage⟩, ?_⟩
          intro reply _
          have rested := @resting_after_pushDelayed { phase with held := some job.id } resting.stage request.queueName
            request.priority job.id readyAt reply
          exact ⟨rested, rested⟩

/-- Nothing is in hand, and the reaper's list is as it was unless the process was killed. -/
def Settled (before : JobPhase) {α : Type} (result : Except JobFault α) (final : JobPhase) : Prop :=
  final.Resting ∧ (result = .error .killed ∧ final = JobPhase.idle ∨ final.listed = before.listed)

/-- The calls that only a killed process fails to make. -/
def unfailing : JobCall → Bool
  | .utcNow | .uniform _ | .shutdownRequested | .startHandler _ | .awaitHandler _ => true
  | _ => false

theorem killed_of_unfailing {call : JobCall} {fault : JobFault} (sure : unfailing call = true)
    (raised : call.mayRaise fault = true) : fault = .killed := by
  cases fault with
  | killed => rfl
  | _ => cases call <;> first | (cases raised; done) | cases sure

theorem ensures_unfailing {call : JobCall} {post : Except JobFault call.Result → JobPhase → Prop}
    (permitted : phase.Permits call) (sure : unfailing call = true)
    (killed : post (.error .killed) JobPhase.idle)
    (answered : ∀ result, post (.ok result) (phase.after call (.ok result))) :
    (perform call).Ensures jobDiscipline post phase := by
  refine ensures_perform.mpr ⟨permitted, ?_⟩
  intro reply possible
  cases reply with
  | ok result => exact answered result
  | error fault =>
      obtain rfl := killed_of_unfailing sure (possible.raises fault rfl)
      have reset : phase.after call (.error .killed) = JobPhase.idle := by cases call <;> rfl
      rw [reset]
      exact killed

theorem settled_killed {α : Type} : Settled (α := α) phase (.error .killed) JobPhase.idle :=
  ⟨JobPhase.resting_idle, .inl ⟨rfl, rfl⟩⟩

theorem ensures_retryOrDeadLetter {job : JobRecord} (settles : phase.Settles job) (error : String) :
    (retryOrDeadLetter job error).Ensures jobDiscipline (Settled phase) phase := by
  unfold retryOrDeadLetter
  dsimp only
  split
  · rename_i again
    refine (ensures_bind ..).mpr (ensures_unfailing trivial rfl settled_killed ?_)
    intro delay
    refine (ensures_bind ..).mpr (ensures_unfailing trivial rfl settled_killed ?_)
    intro now
    refine (ensures_bind ..).mpr (ensures_perform.mpr ⟨⟨job, settles, rfl, rfl, rfl, again, rfl⟩, ?_⟩)
    intro reply _
    rcases reply with fault | written
    · cases fault <;> first | exact settled_killed | exact ⟨⟨settles.1, rfl⟩, .inr rfl⟩
    · refine ensures_perform.mpr ⟨⟨rfl, rfl⟩, ?_⟩
      intro reply _
      rcases reply with fault | done
      · cases fault <;> first | exact settled_killed | exact ⟨⟨rfl, rfl⟩, .inr rfl⟩
      · exact ⟨⟨rfl, rfl⟩, .inr rfl⟩
  · rename_i given
    refine (ensures_bind ..).mpr (ensures_perform.mpr ⟨⟨job, settles, rfl, rfl, rfl, Nat.not_lt.mp given, rfl⟩, ?_⟩)
    intro reply _
    rcases reply with fault | written
    · cases fault <;> first | exact settled_killed | exact ⟨⟨settles.1, rfl⟩, .inr rfl⟩
    · exact ⟨⟨settles.1, rfl⟩, .inr rfl⟩

/-- Where a worker is when its handler is done: a job without a handler is where it was. -/
def HandlerRan (job : JobRecord) : Except JobFault (Bool × Option String) → JobPhase → Prop
  | .ok (success, _), final => final.held = none ∧ final.listed = [] ∧
      (final.stage = .executed job ∨ success = false ∧ final.stage = .marked job)
  | .error _, final => final = JobPhase.idle

private theorem ensures_runHandler {job : JobRecord} (marked : phase.stage = .marked job) (empty : phase.held = none)
    (unlisted : phase.listed = []) : (runHandler job).Ensures jobDiscipline (HandlerRan job) phase := by
  unfold runHandler
  split
  · rename_i registered
    refine (ensures_bind ..).mpr (ensures_unfailing ⟨empty, job, marked, rfl, registered⟩ rfl rfl ?_)
    intro _
    have executing : phase.after (.startHandler job.id) (.ok ()) = { phase with stage := .executing job } := by
      simp [JobPhase.after, marked]
    rw [executing]
    refine (ensures_bind ..).mpr (ensures_unfailing ⟨empty, job, rfl, rfl⟩ rfl rfl ?_)
    intro outcome
    cases outcome <;> exact ⟨empty, unlisted, .inl rfl⟩
  · exact ⟨empty, unlisted, .inr ⟨rfl, marked⟩⟩

/-- Nothing is in hand, and nothing was listed. -/
def Idles {α : Type} (_ : Except JobFault α) (final : JobPhase) : Prop :=
  final.Resting ∧ final.listed = []

theorem ensures_processOne (hostname : String) {jobId : UUID} (holds : phase.held = some jobId)
    (apart : phase.stage = .none) (unlisted : phase.listed = []) :
    (processOne hostname jobId).Ensures jobDiscipline Idles phase := by
  refine (ensures_bind ..).mpr (ensures_exceptException ?_)
  refine (ensures_bind ..).mpr (ensures_perform.mpr ⟨⟨apart, .inr holds⟩, ?_⟩)
  intro reply _
  rcases reply with fault | fetched
  · cases fault <;> first | exact ⟨JobPhase.resting_idle, rfl⟩ | exact ⟨⟨rfl, apart⟩, unlisted⟩
  · have taken : phase.after (.getJob jobId) (.ok fetched) = { phase with stage := .fetched fetched } := by
      simp [JobPhase.after, holds]
    rw [taken]
    refine (ensures_bind ..).mpr (ensures_perform.mpr ⟨⟨fetched, rfl, rfl, rfl⟩, ?_⟩)
    intro reply _
    rcases reply with fault | job
    · cases fault <;> first | exact ⟨JobPhase.resting_idle, rfl⟩ | exact ⟨⟨rfl, rfl⟩, unlisted⟩
    · have running : (runHandler job).Ensures jobDiscipline (HandlerRan job)
          { phase with held := none, stage := .marked job } := ensures_runHandler rfl rfl unlisted
      refine (ensures_bind ..).mpr (running.mono ?_)
      intro result final ran
      rcases result with fault | ⟨success, message⟩
      · have ended : final = JobPhase.idle := ran
        subst ended
        exact ⟨JobPhase.resting_idle, rfl⟩
      · obtain ⟨empty, unlisted, stage⟩ := ran
        cases success with
        | true =>
            have executed := stage.resolve_right fun missing => (nomatch missing.1)
            refine (ensures_bind ..).mpr (ensures_perform.mpr ⟨⟨empty, job, executed, rfl, rfl⟩, ?_⟩)
            intro reply _
            rcases reply with fault | written
            · cases fault <;> first | exact ⟨JobPhase.resting_idle, rfl⟩ | exact ⟨⟨empty, rfl⟩, unlisted⟩
            · exact ⟨⟨empty, rfl⟩, unlisted⟩
        | false =>
            have settles : final.Settles job := ⟨empty, stage.imp_right fun missing => .inl missing.2⟩
            refine (ensures_retryOrDeadLetter settles _).mono ?_
            intro result last settled
            refine ⟨settled.1, ?_⟩
            rcases settled.2 with ⟨-, reset⟩ | kept
            · rw [reset]
              rfl
            · exact kept.trans unlisted

private theorem ensures_workerLoop (hostname : String) (queueNames : List String) (remaining : Nat) :
    ∀ (iteration : Nat) (phase : JobPhase), phase.Resting → phase.listed = [] →
      (workerLoop hostname queueNames iteration remaining).Ensures jobDiscipline Rests phase := by
  induction remaining with
  | zero => exact fun _ _ resting _ => resting
  | succ remaining recurse =>
      intro iteration phase resting unlisted
      refine (ensures_bind ..).mpr (ensures_unfailing trivial rfl JobPhase.resting_idle ?_)
      intro shutdown
      cases shutdown with
      | true => exact resting
      | false =>
          refine (ensures_bind ..).mpr (ensures_perform.mpr ⟨trivial, ?_⟩)
          intro reply _
          rcases reply with fault | beat
          · cases fault <;> first | exact JobPhase.resting_idle | exact resting
          · refine (ensures_bind ..).mpr (ensures_perform.mpr ⟨resting, ?_⟩)
            intro reply _
            rcases reply with fault | popped
            · cases fault <;> first | exact JobPhase.resting_idle | exact resting
            · cases popped with
              | none => exact recurse (iteration + 1) _ ⟨rfl, resting.stage⟩ unlisted
              | some jobId =>
                  have processed : (processOne hostname jobId).Ensures jobDiscipline Idles
                      { phase with held := some jobId } := ensures_processOne hostname rfl resting.stage unlisted
                  refine (ensures_bind ..).mpr (processed.mono ?_)
                  intro result final ended
                  rcases result with fault | done
                  · exact ended.1
                  · exact recurse (iteration + 1) final ended.1 ended.2

private theorem ensures_promoteAll (queueNames : List String) (resting : phase.Resting) :
    (promoteAll queueNames).Ensures jobDiscipline Rests phase := by
  induction queueNames generalizing phase with
  | nil => exact resting
  | cons queueName rest recurse =>
      refine (ensures_bind ..).mpr (ensures_logged ?_)
      refine (ensures_bind ..).mpr (ensures_unfailing trivial rfl ⟨recurse JobPhase.resting_idle, JobPhase.resting_idle⟩ ?_)
      intro now
      refine (ensures_bind ..).mpr (ensures_perform.mpr ⟨trivial, ?_⟩)
      intro reply _
      rcases reply with fault | promoted
      · cases fault <;> first
          | exact ⟨recurse JobPhase.resting_idle, JobPhase.resting_idle⟩
          | exact ⟨recurse resting, resting⟩
      · exact ⟨recurse resting, resting⟩

private theorem ensures_promoterLoop (queueNames : List String) (rounds : Nat) (resting : phase.Resting) :
    (promoterLoop queueNames rounds).Ensures jobDiscipline Rests phase := by
  induction rounds generalizing phase with
  | zero => exact resting
  | succ rounds recurse =>
      refine (ensures_bind ..).mpr (ensures_unfailing trivial rfl JobPhase.resting_idle ?_)
      intro shutdown
      cases shutdown with
      | true => exact resting
      | false =>
          refine (ensures_bind ..).mpr ((ensures_promoteAll queueNames resting).mono ?_)
          intro result final rested
          rcases result with fault | done
          · exact rested
          · exact recurse rested

private theorem ensures_recover {job : JobRecord} (resting : phase.Resting) (listed : job ∈ phase.listed) :
    (recover job).Ensures jobDiscipline (Settled phase) phase := by
  refine (ensures_tryCatch ..).mpr ((ensures_retryOrDeadLetter ⟨resting.held, .inr (.inr ⟨resting.stage, listed⟩)⟩ _).mono ?_)
  intro result final settled
  rcases result with fault | done
  · cases fault with
    | database error =>
        have kept := settled.2.resolve_left fun killed => nomatch killed.1
        cases error <;> exact ⟨settled.1, .inr kept⟩
    | _ => exact settled
  · exact settled

private theorem ensures_recoverAll (jobs : List JobRecord) :
    ∀ phase : JobPhase, phase.Resting → (∀ job ∈ jobs, job ∈ phase.listed) →
      (recoverAll jobs).Ensures jobDiscipline Rests phase := by
  induction jobs with
  | nil => exact fun _ resting _ => resting
  | cons job rest recurse =>
      intro phase resting listed
      have others : ∀ other ∈ rest, other ∈ phase.listed := fun other member => listed other (List.mem_cons_of_mem _ member)
      refine (ensures_bind ..).mpr (ensures_exceptException ?_)
      refine (ensures_recover resting (listed job List.mem_cons_self)).mono ?_
      intro result final settled
      have onward : final.listed = phase.listed → (recoverAll rest).Ensures jobDiscipline Rests final := by
        intro kept
        refine recurse final settled.1 ?_
        rw [kept]
        exact others
      rcases result with fault | done
      · cases fault with
        | killed => exact settled.1
        | _ => exact onward (settled.2.resolve_left fun killed => nomatch killed.1)
      · exact onward (settled.2.resolve_left fun killed => nomatch killed.1)

private theorem ensures_runReaper (threshold : Nat) (resting : phase.Resting) :
    (runReaper threshold).Ensures jobDiscipline Rests phase := by
  refine ensures_logged ?_
  refine (ensures_bind ..).mpr (ensures_unfailing trivial rfl ⟨JobPhase.resting_idle, JobPhase.resting_idle⟩ ?_)
  intro now
  refine (ensures_bind ..).mpr (ensures_perform.mpr ⟨resting, ?_⟩)
  intro reply _
  rcases reply with fault | running
  · cases fault <;> first | exact ⟨JobPhase.resting_idle, JobPhase.resting_idle⟩ | exact ⟨resting, resting⟩
  · refine (ensures_bind ..).mpr (ensures_perform.mpr ⟨⟨resting.held, resting.stage⟩, ?_⟩)
    intro reply _
    rcases reply with fault | queued
    · cases fault <;> first
        | exact ⟨JobPhase.resting_idle, JobPhase.resting_idle⟩
        | exact ⟨⟨resting.held, resting.stage⟩, resting.held, resting.stage⟩
    · have recovered : (recoverAll (running ++ queued)).Ensures jobDiscipline Rests
          { phase with listed := running ++ queued } :=
        ensures_recoverAll _ _ ⟨resting.held, resting.stage⟩ fun _ member => member
      exact recovered.mono fun _ _ rested => ⟨rested, rested⟩

private theorem ensures_translated {call : JobCall} {post : Except JobFault call.Result → JobPhase → Prop}
    (permitted : phase.Permits call) (resting : ∀ fault, (phase.after call (.error fault)).Resting)
    (raised : ∀ fault final, final.Resting → post (.error fault) final)
    (answered : ∀ result, FetchesJob call (.ok result) → post (.ok result) (phase.after call (.ok result))) :
    (retryJob.translated call).Ensures jobDiscipline post phase := by
  refine (ensures_tryCatch ..).mpr (ensures_perform.mpr ⟨permitted, ?_⟩)
  intro reply possible
  rcases reply with fault | result
  · cases fault <;> exact raised _ _ (resting _)
  · exact answered result possible.fetches

private theorem ensures_retryJob (role : UserRole) (userId jobId : UUID) (resting : phase.Resting) :
    (retryJob role userId jobId).Ensures jobDiscipline Rests phase := by
  unfold retryJob
  split
  · exact resting
  · refine (ensures_bind ..).mpr (ensures_translated ⟨resting.stage, .inl resting.held⟩ ?_ (fun _ _ rested => rested) ?_)
    · intro fault
      cases fault <;> first | exact JobPhase.resting_idle | exact ⟨rfl, resting.stage⟩
    · intro job fetches
      have named : job.id = jobId := fetches
      have looked : phase.after (.getJob jobId) (.ok job) = { phase with inspected := some job } := by
        simp [JobPhase.after, resting.held]
      rw [looked]
      dsimp only [Then]
      split
      · exact ⟨resting.held, resting.stage⟩
      · rename_i dead
        refine (ensures_bind ..).mpr (ensures_translated ?_ ?_ (fun _ _ rested => rested) ?_)
        · exact ⟨⟨resting.held, resting.stage⟩, job, rfl, named, rfl, Decidable.not_not.mp dead⟩
        · intro fault
          cases fault <;> first | exact JobPhase.resting_idle | exact ⟨resting.held, resting.stage⟩
        · intro retried _
          refine (ensures_bind ..).mpr (ensures_perform.mpr ⟨⟨rfl, resting.stage⟩, ?_⟩)
          intro reply _
          have rested := @resting_after_pushReady { phase with inspected := some job, held := some retried.id } resting.stage
            retried.queueName retried.priority retried.id reply
          rcases reply with fault | done
          · exact rested
          · refine (ensures_bind ..).mpr (ensures_perform.mpr ⟨trivial, ?_⟩)
            intro reply _
            rcases reply with fault | recorded
            · cases fault <;> first | exact JobPhase.resting_idle | exact rested
            · exact rested

theorem ensures_process (process : JobProcess) :
    process.program.Ensures jobDiscipline Rests JobPhase.idle := by
  have dropped : ∀ {α : Type} {program : JobProgram α}, program.Ensures jobDiscipline Rests JobPhase.idle →
      (do let _ ← program; return () : JobProgram Unit).Ensures jobDiscipline Rests JobPhase.idle := by
    intro α program ensured
    refine (ensures_bind ..).mpr (ensured.mono ?_)
    intro result final rested
    cases result <;> exact rested
  cases process with
  | producer defaultMaxAttempts request => exact dropped (ensures_enqueue JobPhase.resting_idle defaultMaxAttempts request)
  | worker hostname queueNames iterations =>
      exact ensures_workerLoop hostname queueNames iterations 0 _ JobPhase.resting_idle rfl
  | promoter queueNames rounds => exact ensures_promoterLoop queueNames rounds JobPhase.resting_idle
  | reaper threshold => exact ensures_runReaper threshold JobPhase.resting_idle
  | administrator role userId jobId => exact dropped (ensures_retryJob role userId jobId JobPhase.resting_idle)

end Programs

end AutomationHub.Jobs
