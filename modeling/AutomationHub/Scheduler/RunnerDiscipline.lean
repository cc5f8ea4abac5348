import AutomationHub.Scheduler.Runner

/-!
How far a runner has come, and which calls it makes there.

A runner takes the lock of its process before that of the server, gives them back
in the other order, and counts exactly once.
-/

set_option autoImplicit false

namespace AutomationHub.Scheduler

open Foundation Model Program

inductive Position where
  | outside
  | locked
  | leased
  | executing
  | ended
deriving DecidableEq

/-- What a runner has done: a tick fired it, it is known to be of a registered job, a condition failed it, it ran the job,
it counted. -/
structure RunnerPhase where
  fired : Bool
  known : Bool
  position : Position
  blocked : Bool
  ran : Bool
  counted : Nat

namespace RunnerPhase

def idle : RunnerPhase where
  fired := false
  known := false
  position := .outside
  blocked := false
  ran := false
  counted := 0

def after (phase : RunnerPhase) (call : SchedulerCall) (reply : Except SchedulerFault call.Result) : RunnerPhase :=
  match call, reply with
  | _, .error .killed => { phase with position := .ended }
  | .fire _, .ok fires => { phase with fired := phase.fired || fires, known := phase.known || fires }
  | .requireJob _, .ok _ => { phase with known := true }
  | .leaderCheck _, .ok leads => { phase with blocked := phase.blocked || !leads }
  | .tryLock _, .ok acquired => if acquired then { phase with position := .locked } else { phase with blocked := true }
  | .acquire _ (.job _), .ok acquired =>
      if acquired then { phase with position := .leased } else { phase with blocked := true }
  | .acquire _ (.job _), .error _ => { phase with blocked := true }
  | .release _ (.job _), _ => { phase with position := .locked }
  | .startJob _, .ok _ => { phase with position := .executing, ran := true }
  | .finishJob _, .ok _ => { phase with position := .leased }
  | .skipNotLeader _, .ok _ | .skipOverlap _, .ok _ | .skipDistributedLock _, .ok _ | .record .., .ok _ =>
      { phase with counted := phase.counted + 1 }
  | .unlock _, .ok _ => { phase with position := .outside }
  | _, _ => phase

/-- The calls that a process at the site, if any, makes in each phase; a triggered one asks for its job itself. -/
def Permits (own : Option Site) (triggers : Bool) (phase : RunnerPhase) : SchedulerCall → Prop
  | .fire site => own = some site
  | .requireJob site => own = some site ∧ (phase.known = true ∨ triggers = true)
  | .findLock site => own = some site ∧ phase.known = true
  | .tryLock site | .skipNotLeader site | .skipOverlap site =>
      own = some site ∧ phase.known = true ∧ phase.position = .outside
  | .acquire host (.job name) => own = some { host, job := name } ∧ phase.known = true ∧ phase.position = .locked
  | .skipDistributedLock site | .unlock site => own = some site ∧ phase.known = true ∧ phase.position = .locked
  | .release host (.job name) => own = some { host, job := name } ∧ phase.position = .leased
  | .extend _ (.job _) _ => False
  | .setRunning site _ | .startJob site | .record site _ =>
      own = some site ∧ phase.known = true ∧ phase.position = .leased
  | .finishJob site => own = some site ∧ phase.known = true ∧ phase.position = .executing
  | _ => True

end RunnerPhase

def SchedulerCall.mayRaise : SchedulerCall → SchedulerFault → Bool
  | _, .killed => true
  | .acquire .., .redis | .release .., .redis | .extend .., .redis => true
  | .release .., .lock | .extend .., .lock => true
  | .requireJob _, .registration .. | .operate .., .registration .. | .operate .., .startup _ => true
  | _, _ => false

/-- A job that is known to be registered stays so, and has its lock. -/
def Confirms (phase : RunnerPhase) : (call : SchedulerCall) → Except SchedulerFault call.Result → Prop
  | .findLock _, .ok found => found = true
  | .requireJob _, .error fault => phase.known = true → fault = .killed
  | _, _ => True

structure Foreseen (phase : RunnerPhase) (call : SchedulerCall) (reply : Except SchedulerFault call.Result) : Prop where
  raises : ∀ fault, reply = .error fault → call.mayRaise fault = true
  confirms : Confirms phase call reply

def runnerDiscipline (own : Option Site) (triggers : Bool) : Protocol schedulerSignature RunnerPhase where
  permits := RunnerPhase.Permits own triggers
  answers := fun phase call reply after => Foreseen phase call reply ∧ after = phase.after call reply

section Programs

variable {own : Option Site} {asks : Bool} {phase : RunnerPhase}

theorem ensures_ask {call : SchedulerCall} {post : Except SchedulerFault call.Result → RunnerPhase → Prop} :
    (ask call).Ensures (runnerDiscipline own asks) post phase ↔
      phase.Permits own asks call ∧ ∀ reply, Foreseen phase call reply → post reply (phase.after call reply) := by
  exact ensures_advancing (fun reply => by cases reply <;> rfl) (fun _ _ => Iff.rfl) post

/-- The process has ended in the midst of its work. -/
def Ended (fault : SchedulerFault) (final : RunnerPhase) : Prop :=
  fault = .killed ∧ final.position = .ended

/-- The calls that fail only when their process ends. -/
def sure : SchedulerCall → Bool
  | .acquire .. | .release .. | .extend .. | .requireJob _ | .operate .. => false
  | _ => true

theorem killed_of_sure {call : SchedulerCall} {fault : SchedulerFault} (certain : sure call = true)
    (raised : call.mayRaise fault = true) : fault = .killed := by
  cases fault with
  | killed => rfl
  | _ => cases call <;> first | (cases raised; done) | cases certain

theorem ensures_sure {call : SchedulerCall} {post : Except SchedulerFault call.Result → RunnerPhase → Prop}
    (permitted : phase.Permits own asks call) (certain : sure call = true)
    (ended : ∀ fault final, Ended fault final → post (.error fault) final)
    (answered : ∀ result, Foreseen phase call (.ok result) → post (.ok result) (phase.after call (.ok result))) :
    (ask call).Ensures (runnerDiscipline own asks) post phase := by
  refine ensures_ask.mpr ⟨permitted, ?_⟩
  intro reply foreseen
  cases reply with
  | ok result => exact answered result foreseen
  | error fault =>
      obtain rfl := killed_of_sure certain (foreseen.raises fault rfl)
      refine ended _ _ ⟨rfl, ?_⟩
      cases call <;> rfl

theorem ensures_otherwise {α : Type} {program : SchedulerProgram α} {value : α}
    {post : Except SchedulerFault α → RunnerPhase → Prop}
    (ensured : program.Ensures (runnerDiscipline own asks) (fun result final => match result with
      | .ok returned => post (.ok returned) final
      | .error .killed => post (.error .killed) final
      | .error _ => post (.ok value) final) phase) :
    (otherwise program value).Ensures (runnerDiscipline own asks) post phase := by
  refine (ensures_tryCatch ..).mpr (ensured.mono ?_)
  intro result final held
  rcases result with fault | returned
  · cases fault <;> exact held
  · exact held

theorem ensures_ensuring {program : SchedulerProgram Unit} {cleanup : SchedulerProgram Unit}
    {post : Except SchedulerFault Unit → RunnerPhase → Prop}
    (ensured : program.Ensures (runnerDiscipline own asks) (fun result final => match result with
      | .ok _ => cleanup.Ensures (runnerDiscipline own asks) post final
      | .error fault => Ended fault final) phase)
    (ended : ∀ fault final, Ended fault final → post (.error fault) final) :
    (ensuring program cleanup).Ensures (runnerDiscipline own asks) post phase := by
  refine (ensures_bind ..).mpr ((ensures_caught program).mpr (ensured.mono ?_))
  intro result final held
  rcases result with fault | returned
  · have finished : Ended fault final := held
    obtain ⟨rfl, _⟩ := id finished
    exact ended _ _ finished
  · refine (ensures_bind ..).mpr (Ensures.mono held ?_)
    intro result final after
    cases result <;> exact after

/-- The runner has counted once, and ran the job unless a condition failed it. -/
structure Accomplished (position : Position) (final : RunnerPhase) : Prop where
  known : final.known = true
  position : final.position = position
  counted : final.counted = 1
  ran : final.ran = !final.blocked

/-- A runner that returns has done its work; otherwise its process ended. -/
def Accomplishes (position : Position) (result : Except SchedulerFault Unit) (final : RunnerPhase) : Prop :=
  match result with
  | .ok _ => Accomplished position final
  | .error fault => Ended fault final

/-- A runner that has neither run nor counted yet. -/
structure Pristine (position : Position) (phase : RunnerPhase) : Prop where
  known : phase.known = true
  position : phase.position = position
  blocked : phase.blocked = false
  ran : phase.ran = false
  counted : phase.counted = 0

private theorem ensures_performJob {site : Site} (pristine : Pristine .leased phase) :
    (performJob site).Ensures (runnerDiscipline (some site) asks) (Accomplishes .leased) phase := by
  have leased := pristine.position
  refine (ensures_bind ..).mpr (ensures_sure ⟨rfl, pristine.known, leased⟩ rfl (fun _ _ finished => finished) ?_)
  intro _ _
  refine (ensures_bind ..).mpr (ensures_otherwise ((ensures_bind ..).mpr (ensures_ask.mpr
    ⟨⟨rfl, .inl pristine.known⟩, ?_⟩)))
  intro reply foreseen
  rcases reply with fault | registered
  · obtain rfl := foreseen.confirms pristine.known
    exact ⟨rfl, rfl⟩
  · refine (ensures_bind ..).mpr (ensures_sure ⟨rfl, rfl, leased⟩ rfl (fun _ _ finished => finished) ?_)
    intro _ _
    refine (ensures_bind ..).mpr (ensures_sure ⟨rfl, rfl, rfl⟩ rfl (fun _ _ finished => finished) ?_)
    intro result _
    refine ensures_sure ⟨rfl, rfl, rfl⟩ rfl (fun _ _ finished => finished) ?_
    intro _ _
    exact ⟨rfl, rfl, congrArg (· + 1) pristine.counted, by simp [RunnerPhase.after, pristine.blocked]⟩

private theorem ensures_giving_back {site : Site} (done : Accomplished .leased phase) :
    (do
      ask (.setRunning site false)
      releaseLock site.host (.job site.job) : SchedulerProgram Unit).Ensures (runnerDiscipline (some site) asks)
      (Accomplishes .locked) phase := by
  refine (ensures_bind ..).mpr (ensures_sure ⟨rfl, done.known, done.position⟩ rfl (fun _ _ finished => finished) ?_)
  intro _ _
  refine ensures_otherwise (ensures_ask.mpr ⟨⟨rfl, done.position⟩, ?_⟩)
  intro reply _
  rcases reply with fault | released
  · cases fault <;> first | exact ⟨rfl, rfl⟩ | exact ⟨done.known, rfl, done.counted, done.ran⟩
  · exact ⟨done.known, rfl, done.counted, done.ran⟩

private theorem ensures_runLocked {site : Site} (pristine : Pristine .locked phase) :
    (runLocked site).Ensures (runnerDiscipline (some site) asks) (Accomplishes .locked) phase := by
  have skipping : ∀ reached : RunnerPhase, reached = { phase with blocked := true } →
      (ask (.skipDistributedLock site)).Ensures (runnerDiscipline (some site) asks) (Accomplishes .locked) reached := by
    rintro _ rfl
    refine ensures_sure ⟨rfl, pristine.known, pristine.position⟩ rfl (fun _ _ finished => finished) ?_
    intro _ _
    exact ⟨pristine.known, pristine.position, congrArg (· + 1) pristine.counted, by simp [RunnerPhase.after, pristine.ran]⟩
  refine (ensures_bind ..).mpr (ensures_otherwise (ensures_ask.mpr ⟨⟨rfl, pristine.known, pristine.position⟩, ?_⟩))
  intro reply _
  rcases reply with fault | acquired
  · cases fault <;> first | exact ⟨rfl, rfl⟩ | exact skipping _ rfl
  · cases acquired with
    | false => exact skipping _ rfl
    | true =>
        refine ensures_ensuring (Ensures.mono (ensures_performJob ⟨pristine.known, rfl, pristine.blocked, pristine.ran,
          pristine.counted⟩) ?_) (fun _ _ finished => finished)
        intro result final accomplished
        rcases result with fault | _
        · exact accomplished
        · exact ensures_giving_back accomplished

private theorem ensures_runner {site : Site} (pristine : Pristine .outside phase) :
    (runner site).Ensures (runnerDiscipline (some site) asks) (Accomplishes .outside) phase := by
  refine (ensures_bind ..).mpr (ensures_sure trivial rfl (fun _ _ finished => finished) ?_)
  intro leads _
  cases leads with
  | false =>
      refine ensures_sure ⟨rfl, pristine.known, pristine.position⟩ rfl (fun _ _ finished => finished) ?_
      intro _ _
      exact ⟨pristine.known, pristine.position, congrArg (· + 1) pristine.counted,
        by simp [RunnerPhase.after, pristine.ran]⟩
  | true =>
      refine (ensures_bind ..).mpr (ensures_sure ⟨rfl, pristine.known⟩ rfl (fun _ _ finished => finished) ?_)
      intro found foreseen
      have present : found = true := foreseen.confirms
      subst present
      have unblocked : (phase.blocked || !true) = false := by simp [pristine.blocked]
      refine (ensures_bind ..).mpr (ensures_sure ⟨rfl, pristine.known, pristine.position⟩ rfl (fun _ _ finished => finished) ?_)
      intro acquired _
      cases acquired with
      | false =>
          refine ensures_sure ⟨rfl, pristine.known, pristine.position⟩ rfl (fun _ _ finished => finished) ?_
          intro _ _
          exact ⟨pristine.known, pristine.position, congrArg (· + 1) pristine.counted,
            by simp [RunnerPhase.after, pristine.ran]⟩
      | true =>
          refine ensures_ensuring (Ensures.mono (ensures_runLocked ⟨pristine.known, rfl, unblocked, pristine.ran,
            pristine.counted⟩) ?_) (fun _ _ finished => finished)
          intro result final accomplished
          rcases result with fault | _
          · exact accomplished
          · have done : Accomplished .locked final := accomplished
            refine ensures_sure ⟨rfl, done.known, done.position⟩ rfl (fun _ _ finished => finished) ?_
            intro _ _
            exact ⟨done.known, rfl, done.counted, done.ran⟩

/-- What a process has done when it is over: a runner that was fired or triggered has accomplished its work. -/
def Concludes (result : Except SchedulerFault Unit) (final : RunnerPhase) : Prop :=
  final.known = true → match result with
    | .ok _ => Accomplished .outside final
    | .error _ => final.position = .ended

theorem concludes_of_accomplishes {result : Except SchedulerFault Unit} {final : RunnerPhase}
    (accomplishes : Accomplishes .outside result final) : Concludes result final := by
  rcases result with fault | _
  · exact fun _ => accomplishes.2
  · exact fun _ => accomplishes

theorem concludes_of_unknown {result : Except SchedulerFault Unit} {final : RunnerPhase} (unknown : final.known = false) :
    Concludes result final := by
  intro known
  rw [unknown] at known
  cases known

/-- The job that a process may run. -/
def SchedulerProcess.site? : SchedulerProcess → Option Site
  | .backend site | .trigger site => some site
  | _ => none

def SchedulerProcess.triggers : SchedulerProcess → Bool
  | .trigger _ => true
  | _ => false

/-- The calls that have nothing to do with the run of a job. -/
def ElectionCall : SchedulerCall → Prop
  | .operate .. | .readLeader _ | .writeLeader .. | .acquire _ .leader | .release _ .leader | .extend _ .leader _ => True
  | _ => False

private theorem only_asks_election {call : SchedulerCall} (allowed : ElectionCall call) : (ask call).Only ElectionCall := by
  exact only_fallible (fun reply => by cases reply <;> rfl) allowed

private theorem only_otherwise {call : SchedulerCall} {value : call.Result} (allowed : ElectionCall call) :
    (otherwise (ask call) value).Only ElectionCall := by
  refine (only_asks_election allowed).tryCatch fun fault => ?_
  cases fault <;> trivial

private theorem only_electionTick (host renewalInterval : Nat) : (electionTick host renewalInterval).Only ElectionCall := by
  refine Only.bind (only_asks_election ?_) fun isLeader => ?_
  · trivial
  · cases isLeader with
    | true =>
        refine Only.bind (only_otherwise ?_) fun renewed => ?_
        · trivial
        · cases renewed <;> first | trivial | exact only_asks_election trivial
    | false =>
        refine Only.bind (only_otherwise ?_) fun acquired => ?_
        · trivial
        · cases acquired <;> first | trivial | exact only_asks_election trivial

private theorem only_electionStop (host : Nat) : (electionStop host).Only ElectionCall := by
  refine Only.bind (only_asks_election ?_) fun isLeader => ?_
  · trivial
  · cases isLeader with
    | false => trivial
    | true =>
        refine Only.bind (only_otherwise ?_) fun _ => only_asks_election ?_
        · trivial
        · trivial

private theorem known_after {call : SchedulerCall} (allowed : ElectionCall call)
    (reply : Except SchedulerFault call.Result) : (phase.after call reply).known = phase.known := by
  cases call with
  | acquire host slot | release host slot | extend host slot =>
      cases slot with
      | job name => exact allowed.elim
      | leader =>
          rcases reply with fault | result
          · cases fault <;> rfl
          · rfl
  | operate | readLeader | writeLeader =>
      rcases reply with fault | result
      · cases fault <;> rfl
      · rfl
  | _ => exact allowed.elim

/-- A process that has nothing to do with a job keeps out of the discipline of the runners. -/
private theorem ensures_uninvolved {program : SchedulerProgram Unit} (only : program.Only ElectionCall) :
    program.Ensures (runnerDiscipline none false) Concludes RunnerPhase.idle := by
  have step : ∀ (phase : RunnerPhase) (call : SchedulerCall), phase.known = false → ElectionCall call →
      (runnerDiscipline none false).permits phase call ∧ ∀ reply after,
        (runnerDiscipline none false).answers phase call reply after → after.known = false := by
    intro phase call unknown allowed
    refine ⟨?_, ?_⟩
    · cases call with
      | acquire host slot | release host slot | extend host slot =>
          cases slot with
          | job name => exact allowed.elim
          | leader => trivial
      | operate | readLeader | writeLeader => trivial
      | _ => exact allowed.elim
    · rintro reply _ ⟨_, rfl⟩
      exact (known_after allowed reply).trans unknown
  have unknown : RunnerPhase.idle.known = false := rfl
  exact (only.ensures (fun phase => phase.known = false) step unknown).mono fun _ _ unknown => concludes_of_unknown unknown

theorem ensures_process (process : SchedulerProcess) :
    process.program.Ensures (runnerDiscipline process.site? process.triggers) Concludes RunnerPhase.idle := by
  have finished : ∀ fault final, Ended fault final → Concludes (.error fault) final := fun _ _ finished _ => finished.2
  cases process with
  | operator host operation => exact ensures_uninvolved (only_asks_election trivial)
  | backend site =>
      refine (ensures_bind ..).mpr (ensures_sure rfl rfl finished ?_)
      intro fires _
      cases fires with
      | false =>
          show Concludes (.ok ()) RunnerPhase.idle
          exact concludes_of_unknown rfl
      | true => exact (ensures_runner ⟨rfl, rfl, rfl, rfl, rfl⟩).mono fun _ _ done => concludes_of_accomplishes done
  | trigger site =>
      refine (ensures_bind ..).mpr (ensures_ask.mpr ⟨⟨rfl, .inr rfl⟩, ?_⟩)
      intro reply _
      rcases reply with fault | _
      · show Concludes (.error fault) _
        cases fault <;> exact fun known => nomatch known
      · exact (ensures_runner ⟨rfl, rfl, rfl, rfl, rfl⟩).mono fun _ _ done => concludes_of_accomplishes done
  | election host renewalInterval => exact ensures_uninvolved (only_electionTick host renewalInterval)
  | resignation host => exact ensures_uninvolved (only_electionStop host)

end Programs

end AutomationHub.Scheduler
