import AutomationHub.Foundation.Embeddings
import AutomationHub.Scheduler.Runner

/-!
The election of a leader: the thread that contends for the lock of the leader on
each instance, the stop of an instance, and how far each of them has come.
-/

set_option autoImplicit false

namespace AutomationHub.Scheduler

open Foundation Model Program

/-- The stop event of an instance, besides the calls of its scheduler. -/
inductive ElectionRequest where
  | isStopSet (host : Nat)
  | setStop (host : Nat)
  | ask (asked : SchedulerCall)
deriving DecidableEq

@[reducible] def ElectionRequest.Reply : ElectionRequest → Type
  | .isStopSet _ => Bool
  | .setStop _ => Unit
  | .ask asked => Except SchedulerFault asked.Result

abbrev electionSignature : Signature := ⟨ElectionRequest, ElectionRequest.Reply⟩

abbrev ElectionProgram (α : Type) := Program electionSignature SchedulerFault α

def schedulerCalls : schedulerSignature.Embedding electionSignature where
  call := .ask
  reply := fun _ answer => answer

namespace LeaderElection

/-- `_run_loop`, for any number of rounds. -/
def runLoop (host renewalInterval : Nat) : Nat → ElectionProgram Unit
  | 0 => .done ()
  | rounds + 1 =>
      .call (.isStopSet host) fun stopped =>
        if stopped then .done ()
        else (electionTick host renewalInterval).embed schedulerCalls >>= fun _ => runLoop host renewalInterval rounds

/-- `stop`; a tick of the loop that takes too long is not waited for. -/
def stop (host : Nat) : ElectionProgram Unit :=
  .call (.setStop host) fun _ => (electionStop host).embed schedulerCalls

end LeaderElection

/-- The threads of the instances: those of the elections, those that stop them, and those that work. -/
inductive ElectionThread (ι : Type) where
  | background (host : Nat)
  | stopping (host : Nat)
  | working (process : ι)
deriving DecidableEq

def ElectionThread.program {ι : Type} (renewalInterval : Nat) (rounds : Nat → Nat) (processes : ι → SchedulerProcess) :
    ElectionThread ι → ElectionProgram Unit
  | .background host => LeaderElection.runLoop host renewalInterval (rounds host)
  | .stopping host => LeaderElection.stop host
  | .working process => (processes process).program.embed schedulerCalls

inductive ElectionPhase where
  | outside
  | inside
  | contending
  | won
  | renewing
  | lost
  | signalled
  | resigning
  | released
  | finished
  | ended
deriving DecidableEq

namespace ElectionPhase

def after (phase : ElectionPhase) : (request : ElectionRequest) → request.Reply → ElectionPhase
  | .isStopSet _, stopped => if stopped then .finished else .inside
  | .setStop _, _ => .signalled
  | .ask _, .error .killed => .ended
  | .ask (.readLeader _), .ok isLeader =>
      match phase, isLeader with
      | .signalled, true => .resigning
      | .signalled, false => .finished
      | _, true => .renewing
      | _, false => .contending
  | .ask (.acquire _ .leader), .ok true => .won
  | .ask (.acquire _ .leader), _ => .outside
  | .ask (.extend _ .leader _), .ok true => .outside
  | .ask (.extend _ .leader _), _ => .lost
  | .ask (.release _ .leader), _ => .released
  | .ask (.writeLeader ..), .ok _ =>
      match phase with
      | .released => .finished
      | _ => .outside
  | .ask _, _ => phase

end ElectionPhase

/-- The calls that only elections make. -/
def SchedulerCall.elects : SchedulerCall → Bool
  | .readLeader _ | .writeLeader .. | .acquire _ .leader | .release _ .leader | .extend .. => true
  | _ => false

/-- The calls that a thread makes in each phase; the lock is renewed for its lifetime. -/
def ElectionThread.Permits {ι : Type} (ttl : Nat) : ElectionThread ι → ElectionPhase → ElectionRequest → Prop
  | .background host, phase, .isStopSet other => other = host ∧ phase = .outside
  | .background host, phase, .ask (.readLeader other) => other = host ∧ phase = .inside
  | .background host, phase, .ask (.acquire other .leader) => other = host ∧ phase = .contending
  | .background host, phase, .ask (.extend other .leader seconds) => other = host ∧ seconds = ttl ∧ phase = .renewing
  | .background host, phase, .ask (.writeLeader other isLeader) =>
      other = host ∧ (phase = .won ∧ isLeader = true ∨ phase = .lost ∧ isLeader = false)
  | .stopping host, phase, .setStop other => other = host ∧ phase = .outside
  | .stopping host, phase, .ask (.readLeader other) => other = host ∧ phase = .signalled
  | .stopping host, phase, .ask (.release other .leader) => other = host ∧ phase = .resigning
  | .stopping host, phase, .ask (.writeLeader other isLeader) => other = host ∧ phase = .released ∧ isLeader = false
  | .working _, _, .ask asked => asked.elects = false
  | _, _, _ => False

def electionDiscipline {ι : Type} (ttl : Nat) (thread : ElectionThread ι) : Protocol electionSignature ElectionPhase where
  permits := thread.Permits ttl
  answers := fun phase request reply after => after = phase.after request reply

section Programs

variable {ι : Type} {ttl host renewalInterval : Nat} {thread : ElectionThread ι} {phase : ElectionPhase}

theorem ensures_asked {call : SchedulerCall} {post : Except SchedulerFault call.Result → ElectionPhase → Prop}
    (permitted : thread.Permits ttl phase (.ask call)) (answered : ∀ reply, post reply (phase.after (.ask call) reply)) :
    (ask call).Ensures ((electionDiscipline ttl thread).pulled schedulerCalls) post phase := by
  refine (ensures_fallible (fun reply => by cases reply <;> rfl) post).mpr ⟨permitted, ?_⟩
  intro reply after foreseen
  obtain ⟨_, rfl, rfl⟩ := foreseen
  exact answered _

theorem ensures_commanded {call : SchedulerCall} {value : call.Result}
    {post : Except SchedulerFault call.Result → ElectionPhase → Prop} (permitted : thread.Permits ttl phase (.ask call))
    (answered : ∀ result, post (.ok result) (phase.after (.ask call) (.ok result)))
    (failed : ∀ fault, fault ≠ .killed → post (.ok value) (phase.after (.ask call) (.error fault)))
    (ended : post (.error .killed) (phase.after (.ask call) (.error .killed))) :
    (otherwise (ask call) value).Ensures ((electionDiscipline ttl thread).pulled schedulerCalls) post phase := by
  refine (ensures_tryCatch ..).mpr (ensures_asked permitted ?_)
  intro reply
  cases reply with
  | ok result => exact answered result
  | error fault =>
      cases fault with
      | killed => exact ended
      | registration | startup | lock | redis => exact failed _ nofun

/-- What a tick that returns leaves the election in. -/
def Returns (phase : ElectionPhase) : Except SchedulerFault Unit → ElectionPhase → Prop
  | .ok _, final => final = phase
  | .error _, _ => True

theorem ensures_electionTick (wired : renewalInterval * 3 = ttl) :
    (electionTick host renewalInterval).Ensures
      ((electionDiscipline ttl (.background host : ElectionThread ι)).pulled schedulerCalls) (Returns .outside) .inside := by
  have wrote : ∀ (phase : ElectionPhase) (isLeader : Bool), phase = .won ∧ isLeader = true ∨ phase = .lost ∧ isLeader = false →
      (ask (.writeLeader host isLeader)).Ensures
        ((electionDiscipline ttl (.background host : ElectionThread ι)).pulled schedulerCalls) (Returns .outside) phase := by
    intro phase isLeader due
    refine ensures_asked ⟨rfl, due⟩ fun reply => ?_
    cases reply with
    | error fault => trivial
    | ok _ =>
        rcases due with ⟨rfl, -⟩ | ⟨rfl, -⟩
        · rfl
        · rfl
  refine (ensures_bind ..).mpr (ensures_asked ⟨rfl, rfl⟩ fun reply => ?_)
  cases reply with
  | error fault => trivial
  | ok isLeader =>
      cases isLeader with
      | true =>
          refine (ensures_bind ..).mpr (ensures_commanded ⟨rfl, wired, rfl⟩ ?_ ?_ trivial)
          · intro renewed
            cases renewed with
            | true => exact (rfl : Returns .outside (.ok ()) .outside)
            | false => exact wrote .lost false (.inr ⟨rfl, rfl⟩)
          · intro fault survives
            cases fault with
            | killed => exact absurd rfl survives
            | registration | startup | lock | redis => exact wrote .lost false (.inr ⟨rfl, rfl⟩)
      | false =>
          refine (ensures_bind ..).mpr (ensures_commanded ⟨rfl, rfl⟩ ?_ ?_ trivial)
          · intro acquired
            cases acquired with
            | true => exact wrote .won true (.inl ⟨rfl, rfl⟩)
            | false => exact (rfl : Returns .outside (.ok ()) .outside)
          · intro fault survives
            cases fault with
            | killed => exact absurd rfl survives
            | registration | startup | lock | redis => exact (rfl : Returns .outside (.ok ()) .outside)

theorem ensures_runLoop (wired : renewalInterval * 3 = ttl) (rounds : Nat) :
    (LeaderElection.runLoop host renewalInterval rounds).Ensures
      (electionDiscipline ttl (.background host : ElectionThread ι)) (fun _ _ => True) .outside := by
  induction rounds with
  | zero => trivial
  | succ rounds recurse =>
      refine ⟨⟨rfl, rfl⟩, ?_⟩
      intro stopped after moved
      cases moved
      cases stopped with
      | true => trivial
      | false =>
          refine (ensures_bind ..).mpr ((ensures_embed (ensures_electionTick wired)).mono ?_)
          intro result final returned
          cases result with
          | error fault => trivial
          | ok _ =>
              cases returned
              exact recurse

theorem ensures_stop :
    (LeaderElection.stop host).Ensures (electionDiscipline ttl (.stopping host : ElectionThread ι)) (fun _ _ => True)
      .outside := by
  refine ⟨⟨rfl, rfl⟩, ?_⟩
  intro _ after moved
  cases moved
  refine ensures_embed ((ensures_bind ..).mpr (ensures_asked ⟨rfl, rfl⟩ fun reply => ?_))
  cases reply with
  | error fault => trivial
  | ok isLeader =>
      cases isLeader with
      | false => trivial
      | true =>
          have wrote : (ask (.writeLeader host false)).Ensures
              ((electionDiscipline ttl (.stopping host : ElectionThread ι)).pulled schedulerCalls) (fun _ _ => True)
              .released :=
            ensures_asked ⟨rfl, rfl, rfl⟩ fun _ => trivial
          refine (ensures_bind ..).mpr (ensures_commanded ⟨rfl, rfl⟩ (fun _ => wrote) ?_ trivial)
          intro fault survives
          cases fault with
          | killed => exact absurd rfl survives
          | registration | startup | lock | redis => exact wrote

/-- The processes of an instance but its election. -/
def SchedulerProcess.works : SchedulerProcess → Bool
  | .election .. | .resignation _ => false
  | _ => true

private theorem only_asks {call : SchedulerCall} (works : call.elects = false) :
    (ask call).Only (SchedulerCall.elects · = false) :=
  only_fallible (fun reply => by cases reply <;> rfl) works

private theorem only_otherwise_works {α : Type} {program : SchedulerProgram α} {value : α}
    (works : program.Only (SchedulerCall.elects · = false)) :
    (otherwise program value).Only (SchedulerCall.elects · = false) := by
  refine works.tryCatch fun fault => ?_
  cases fault <;> trivial

private theorem only_ensuring {α : Type} {program : SchedulerProgram α} {cleanup : SchedulerProgram Unit}
    (works : program.Only (SchedulerCall.elects · = false)) (cleans : cleanup.Only (SchedulerCall.elects · = false)) :
    (ensuring program cleanup).Only (SchedulerCall.elects · = false) := by
  refine Only.bind ((compositional_only _).caught works) fun result => ?_
  cases result with
  | ok value => exact Only.bind cleans fun _ => trivial
  | error fault =>
      cases fault with
      | killed => trivial
      | registration | startup | lock | redis => exact Only.bind cleans fun _ => trivial

private theorem only_runner (site : Site) : (runner site).Only (SchedulerCall.elects · = false) := by
  have performs : (performJob site).Only (SchedulerCall.elects · = false) := by
    refine Only.bind (only_asks rfl) fun _ => Only.bind (only_otherwise_works (Only.bind (only_asks rfl) fun _ => trivial)) ?_
    intro registered
    cases registered with
    | false => trivial
    | true => exact Only.bind (only_asks rfl) fun _ => Only.bind (only_asks rfl) fun _ => only_asks rfl
  have locks : (runLocked site).Only (SchedulerCall.elects · = false) := by
    refine Only.bind (only_otherwise_works (only_asks rfl)) fun acquired => ?_
    cases acquired with
    | false => exact only_asks rfl
    | true => exact only_ensuring performs (Only.bind (only_asks rfl) fun _ => only_otherwise_works (only_asks rfl))
  refine Only.bind (only_asks rfl) fun leads => ?_
  cases leads with
  | false => exact only_asks rfl
  | true =>
      refine Only.bind (only_asks rfl) fun found => ?_
      cases found with
      | false => trivial
      | true =>
          refine Only.bind (only_asks rfl) fun acquired => ?_
          cases acquired with
          | false => exact only_asks rfl
          | true => exact only_ensuring locks (only_asks rfl)

theorem only_works {process : SchedulerProcess} (works : process.works = true) :
    process.program.Only (SchedulerCall.elects · = false) := by
  cases process with
  | operator host operation => exact only_asks rfl
  | backend site =>
      refine Only.bind (only_asks rfl) fun fires => ?_
      cases fires with
      | false => trivial
      | true => exact only_runner site
  | trigger site => exact Only.bind (only_asks rfl) fun _ => only_runner site
  | election | resignation => cases works

theorem ensures_thread {rounds : Nat → Nat} {processes : ι → SchedulerProcess} (wired : renewalInterval * 3 = ttl)
    (works : ∀ process, (processes process).works = true) (thread : ElectionThread ι) :
    (thread.program renewalInterval rounds processes).Ensures (electionDiscipline ttl thread) (fun _ _ => True) .outside := by
  cases thread with
  | background host => exact ensures_runLoop wired _
  | stopping host => exact ensures_stop
  | working process =>
      have only : ((processes process).program.embed schedulerCalls).Only
          (fun request : ElectionRequest => ∃ asked, request = .ask asked ∧ asked.elects = false) :=
        only_embed ((only_works (works process)).mono fun call works => ⟨call, rfl, works⟩)
      refine only.ensures (fun _ => True) ?_ trivial
      intro phase request _ allowed
      obtain ⟨call, rfl, works⟩ := allowed
      exact ⟨works, fun _ _ _ => trivial⟩

end Programs

end AutomationHub.Scheduler
