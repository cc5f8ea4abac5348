import AutomationHub.Scheduler.Election
import AutomationHub.Scheduler.JobLocks

/-!
Any number of instances that contend for the leadership while they work, with
commands that the server fails, processes that end and ticks that are late.
-/

set_option autoImplicit false

namespace AutomationHub.Scheduler

open Foundation Model Program

/-- The instances in a run, with when each of them last sent a command for the lock of the leader that it has not taken back
since, and when it last heard that it has the lock. -/
structure ElectionRun (server : LockServer) (ι : Type) where
  cluster : Cluster server
  stopped : Nat → Bool
  phases : ElectionThread ι → ElectionPhase
  asked : Nat → Option Datetime
  confirmed : Nat → Option Datetime

/-- One instance of a run, as its own threads see it. -/
structure Candidate where
  isLeader : Bool
  background : ElectionPhase
  stopping : ElectionPhase
  stopped : Bool
  asked : Option Datetime
  confirmed : Option Datetime

/-- What a step may do to an instance. -/
inductive CandidateMove (now : Datetime) (before : Candidate) : Candidate → Prop
  | same : CandidateMove now before before
  | quit (outside : before.background = .outside) : CandidateMove now before { before with background := .finished }
  | entered (outside : before.background = .outside) (running : before.stopped = false) :
      CandidateMove now before { before with background := .inside }
  | renewing (inside : before.background = .inside) (led : before.isLeader = true) :
      CandidateMove now before { before with background := .renewing }
  | contending (inside : before.background = .inside) (unled : before.isLeader = false) :
      CandidateMove now before { before with background := .contending }
  | won (contended : before.background = .contending) :
      CandidateMove now before { before with background := .won, asked := some now, confirmed := some now }
  | refused (contended : before.background = .contending) :
      CandidateMove now before { before with background := .outside, asked := some now }
  | renewed : CandidateMove now before { before with background := .outside, asked := some now, confirmed := some now }
  | lost : CandidateMove now before { before with background := .lost, asked := some now }
  | led (won : before.background = .won) : CandidateMove now before { before with background := .outside, isLeader := true }
  | gaveUp : CandidateMove now before { before with background := .outside, isLeader := false }
  | died (asked : Option Datetime) : CandidateMove now before { before with background := .ended, asked }
  | signalled (fresh : before.stopping = .outside) :
      CandidateMove now before { before with stopping := .signalled, stopped := true }
  | resigning (signalled : before.stopping = .signalled) (led : before.isLeader = true) :
      CandidateMove now before { before with stopping := .resigning }
  | stood (signalled : before.stopping = .signalled) : CandidateMove now before { before with stopping := .finished }
  | released (resigning : before.stopping = .resigning) (asked : Option Datetime) (phase : ElectionPhase)
      (reached : phase = .released ∨ phase = .ended) :
      CandidateMove now before { before with stopping := phase, asked, confirmed := none }
  | resigned (released : before.stopping = .released) :
      CandidateMove now before { before with stopping := .finished, isLeader := false }
  | halted (started : before.stopping ≠ .outside) : CandidateMove now before { before with stopping := .ended }

/-- The last tick of the instance was answered as it hoped. -/
def Candidate.Affirmed (candidate : Candidate) : Prop :=
  ∃ instant, candidate.asked = some instant ∧ candidate.confirmed = some instant

/-- How the belief of an instance follows from what its threads have heard. -/
structure Candidate.Consistent (candidate : Candidate) : Prop where
  unled : candidate.background = .contending ∨ candidate.background = .won → candidate.isLeader = false
  quiet : candidate.stopping = .resigning ∨ candidate.stopping = .released →
    candidate.background ≠ .contending ∧ candidate.background ≠ .won ∧
      (candidate.background = .inside → candidate.isLeader = true)
  signalled : candidate.stopping ≠ .outside → candidate.stopped = true
  won : candidate.background = .won → candidate.Affirmed
  led : candidate.isLeader = true → candidate.Affirmed ∨ candidate.background = .lost ∨ candidate.background = .ended ∨
    candidate.stopping = .released ∨ candidate.stopping = .ended

theorem consistent_move {now : Datetime} {before after : Candidate} (consistent : before.Consistent)
    (move : CandidateMove now before after) : after.Consistent := by
  obtain ⟨unled, quiet, signalled, won, led⟩ := consistent
  have unread : before.background = .won ∨ before.background = .inside ∧ before.isLeader = false →
      before.stopping ≠ .resigning ∧ before.stopping ≠ .released := by
    intro deciding
    refine ⟨fun resigning => ?_, fun released => ?_⟩
    · rcases deciding with holding | ⟨inside, unbelieving⟩
      · exact (quiet (.inl resigning)).2.1 holding
      · exact absurd (unbelieving.symm.trans ((quiet (.inl resigning)).2.2 inside)) (by decide)
    · rcases deciding with holding | ⟨inside, unbelieving⟩
      · exact (quiet (.inr released)).2.1 holding
      · exact absurd (unbelieving.symm.trans ((quiet (.inr released)).2.2 inside)) (by decide)
  cases move with
  | same => exact ⟨unled, quiet, signalled, won, led⟩
  | entered outside running =>
      -- No tick begins once the instance is being stopped.
      have waits : before.stopping = .outside := by
        by_contra begun
        exact absurd (running.symm.trans (signalled begun)) (by decide)
      constructor <;> simp_all [Candidate.Affirmed]
  | contending inside unbelieving =>
      -- A stop that has read that the instance leads is not met by a tick that read the contrary.
      have apart := unread (.inr ⟨inside, unbelieving⟩)
      constructor <;> simp_all [Candidate.Affirmed]
  | led holding =>
      have affirmed := won holding
      have apart := unread (.inl holding)
      constructor <;> simp_all [Candidate.Affirmed]
  | resigning signal believes =>
      have uncontending : before.background ≠ .contending ∧ before.background ≠ .won := by
        refine ⟨fun contending => ?_, fun holding => ?_⟩
        · exact absurd ((unled (.inl contending)).symm.trans believes) (by decide)
        · exact absurd ((unled (.inr holding)).symm.trans believes) (by decide)
      constructor <;> simp_all [Candidate.Affirmed]
  | released resigning asked phase reached =>
      have settled := quiet (.inl resigning)
      constructor <;> simp_all [Candidate.Affirmed]
  | quit | renewing | won | refused | renewed | lost | gaveUp | died => constructor <;> simp_all [Candidate.Affirmed]
  | signalled | stood | resigned | halted => constructor <;> simp_all [Candidate.Affirmed]

section Steps

variable {server : LockServer} {ι : Type} [DecidableEq ι]

def noteAsked (now : Datetime) (notes : Nat → Option Datetime) : (request : ElectionRequest) → request.Reply →
    Nat → Option Datetime
  | .ask (.acquire host .leader), _ | .ask (.extend host .leader _), _ => Function.update notes host (some now)
  | .ask (.release host .leader), .ok _ => Function.update notes host none
  | _, _ => notes

def noteConfirmed (now : Datetime) (notes : Nat → Option Datetime) : (request : ElectionRequest) → request.Reply →
    Nat → Option Datetime
  | .ask (.acquire host .leader), .ok true | .ask (.extend host .leader _), .ok true =>
      Function.update notes host (some now)
  | .ask (.release host .leader), _ => Function.update notes host none
  | _, _ => notes

/-- How a request is answered, and what it does to the instances. -/
def ElectionRun.Answers (state : ElectionRun server ι) : (request : ElectionRequest) → request.Reply →
    ElectionRun server ι → Prop
  | .isStopSet host, reply, after =>
      reply = state.stopped host ∧ after.stopped = state.stopped ∧ after.cluster = state.cluster
  | .setStop host, _, after => after.stopped = Function.update state.stopped host true ∧ after.cluster = state.cluster
  | .ask asked, reply, after => after.stopped = state.stopped ∧ schedulerStep state.cluster asked reply after.cluster

def electing : Effect electionSignature (ElectionRun server ι) (ElectionThread ι) := fun thread state request reply after =>
  state.Answers request reply after ∧
    after.phases = Function.update state.phases thread ((state.phases thread).after request reply) ∧
    after.asked = noteAsked state.cluster.now state.asked request reply ∧
    after.confirmed = noteConfirmed state.cluster.now state.confirmed request reply

def ElectionRun.candidate (state : ElectionRun server ι) (host : Nat) : Candidate where
  isLeader := (state.cluster.coordinators host).isLeader
  background := state.phases (.background host)
  stopping := state.phases (.stopping host)
  stopped := state.stopped host
  asked := state.asked host
  confirmed := state.confirmed host

theorem operate_keeps (coordinator : Coordinator) (operation : Operation) :
    (coordinator.operate operation).2.isLeader = coordinator.isLeader ∧
      (coordinator.operate operation).2.leaderLockTtl = coordinator.leaderLockTtl ∧
      (coordinator.operate operation).2.leaderToken = coordinator.leaderToken := by
  cases operation with
  | register name defaultIntervalSeconds intervalSeconds enabled =>
      simp only [Coordinator.operate, Coordinator.registerJob]
      split
      · exact ⟨rfl, rfl, rfl⟩
      · dsimp only
        split <;> exact ⟨rfl, rfl, rfl⟩
  | start backendFails =>
      obtain ⟨running, scheduled, same, -⟩ := start_spec coordinator backendFails
      simp only [Coordinator.operate, same, and_self]
  | enable name | disable name =>
      simp only [Coordinator.operate]
      split <;> exact ⟨rfl, rfl, rfl⟩

/-- The belief of an instance after a call. -/
def SchedulerCall.writes (call : SchedulerCall) (reply : Except SchedulerFault call.Result) (host : Nat) (isLeader : Bool) :
    Bool :=
  match call, reply with
  | .writeLeader other written, .ok _ => if other = host then written else isLeader
  | _, _ => isLeader

/-- What a call leaves of the part of an instance that the election is about. -/
structure Keeps (before after : Coordinator) (host : Nat) (isLeader : Bool) : Prop where
  isLeader : after.isLeader = isLeader
  lifetime : after.leaderLockTtl = before.leaderLockTtl
  token : ∀ token, after.leaderToken = some token → before.leaderToken = some token ∨ token = .holder host

theorem keeps_of_eq {before after : Coordinator} {host : Nat} (same : after.isLeader = before.isLeader)
    (lifetime : after.leaderLockTtl = before.leaderLockTtl) (token : after.leaderToken = before.leaderToken) :
    Keeps before after host before.isLeader :=
  ⟨same, lifetime, fun _ present => .inl (token.symm.trans present)⟩

theorem keeps_update {coordinators : Nat → Coordinator} {other host : Nat} {coordinator : Coordinator} {isLeader : Bool}
    (own : other = host → Keeps (coordinators host) coordinator host isLeader)
    (apart : other ≠ host → isLeader = (coordinators host).isLeader) :
    Keeps (coordinators host) (Function.update coordinators other coordinator host) host isLeader := by
  by_cases same : other = host
  · have kept := own same
    subst same
    rwa [Function.update_self]
  · rw [Function.update_of_ne (Ne.symm same), apart same]
    exact keeps_of_eq rfl rfl rfl

theorem keeps_execute (state : Cluster server) (call : SchedulerCall) (host : Nat) :
    Keeps (state.coordinators host) ((state.execute call).2.coordinators host) host
      (call.writes (state.execute call).1 host (state.coordinators host).isLeader) := by
  have same : Keeps (state.coordinators host) (state.coordinators host) host (state.coordinators host).isLeader :=
    keeps_of_eq rfl rfl rfl
  cases call with
  | operate other operation =>
      obtain ⟨isLeader, lifetime, token⟩ := operate_keeps (state.coordinators host) operation
      refine keeps_update (fun own => ?_) fun _ => rfl
      subst own
      exact keeps_of_eq isLeader lifetime token
  | skipNotLeader site | skipOverlap site | skipDistributedLock site | setRunning site | record site | unlock site =>
      refine keeps_update (fun own => ?_) fun _ => rfl
      rw [own]
      exact keeps_of_eq rfl rfl rfl
  | tryLock site =>
      simp only [Cluster.execute]
      split
      · refine keeps_update (fun own => ?_) fun _ => rfl
        rw [own]
        exact keeps_of_eq rfl rfl rfl
      · exact same
  | acquire other slot =>
      cases slot with
      | job name =>
          simp only [Cluster.execute, Cluster.acquire]
          split
          · exact same
          · exact same
          · dsimp only
            split
            · refine keeps_update (fun own => ?_) fun _ => rfl
              rw [own]
              exact keeps_of_eq rfl rfl rfl
            · exact same
      | leader =>
          simp only [Cluster.execute, Cluster.acquire]
          split
          · refine keeps_update (fun own => ?_) fun _ => rfl
            subst own
            exact ⟨rfl, rfl, fun _ present => .inr (Option.some.inj present).symm⟩
          · exact same
  | release other slot =>
      cases slot with
      | job name =>
          simp only [Cluster.execute, Cluster.release]
          split
          · exact same
          · exact same
          · exact same
          · refine keeps_update (fun own => ?_) fun _ => rfl
            rw [own]
            exact keeps_of_eq rfl rfl rfl
      | leader =>
          simp only [Cluster.execute, Cluster.release]
          split
          · exact same
          · refine keeps_update (fun own => ?_) fun _ => rfl
            subst own
            exact ⟨rfl, rfl, fun token present => absurd present (by simp)⟩
  | extend other slot seconds =>
      simp only [Cluster.execute, move_extend]
      exact same
  | writeLeader other isLeader =>
      refine keeps_update (fun own => ?_) fun apart => if_neg apart
      subst own
      exact ⟨(if_pos rfl).symm, rfl, fun _ present => .inl present⟩
  | fire | requireJob | leaderCheck | findLock | startJob | finishJob | readLeader => exact same

theorem keeps_failed (state : Cluster server) (call : SchedulerCall) (host : Nat) :
    Keeps (state.coordinators host) ((state.failed call).coordinators host) host (state.coordinators host).isLeader := by
  have same : Keeps (state.coordinators host) (state.coordinators host) host (state.coordinators host).isLeader :=
    keeps_of_eq rfl rfl rfl
  cases call with
  | acquire other slot => cases slot <;> exact same
  | release other slot =>
      cases slot with
      | job name =>
          simp only [Cluster.failed]
          split
          · refine keeps_update (fun own => ?_) fun _ => rfl
            rw [own]
            exact keeps_of_eq rfl rfl rfl
          · exact same
      | leader =>
          refine keeps_update (fun own => ?_) fun _ => rfl
          subst own
          exact ⟨rfl, rfl, fun token present => absurd present (by simp)⟩
  | _ => exact same

theorem keeps_step {state after : Cluster server} {call : SchedulerCall} {reply : Except SchedulerFault call.Result}
    (stepped : schedulerStep state call reply after) (host : Nat) :
    Keeps (state.coordinators host) (after.coordinators host) host
      (call.writes reply host (state.coordinators host).isLeader) := by
  rcases stepped with outcome | ⟨fault, -, rfl, rfl | rfl⟩
  · obtain ⟨rfl, rfl⟩ := Prod.mk.inj outcome
    exact keeps_execute state call host
  · have unwritten : call.writes (.error fault) host (state.coordinators host).isLeader =
        (state.coordinators host).isLeader := by cases call <;> rfl
    rw [unwritten]
    exact keeps_failed state call host
  · have unwritten : call.writes (.error fault) host (state.coordinators host).isLeader =
        (state.coordinators host).isLeader := by cases call <;> rfl
    rw [unwritten]
    exact keeps_failed state call host

theorem reply_readLeader {state after : Cluster server} {host : Nat} {reply : Except SchedulerFault Bool}
    (stepped : schedulerStep state (.readLeader host) reply after) :
    reply = .ok (state.coordinators host).isLeader ∨ reply = .error .killed := by
  rcases stepped with outcome | ⟨fault, struck, rfl, -⟩
  · exact .inl (Prod.mk.inj outcome).1.symm
  · cases fault <;> first | exact .inr rfl | cases struck

theorem reply_writeLeader {state after : Cluster server} {host : Nat} {isLeader : Bool} {reply : Except SchedulerFault Unit}
    (stepped : schedulerStep state (.writeLeader host isLeader) reply after) : reply = .ok () ∨ reply = .error .killed := by
  rcases stepped with outcome | ⟨fault, struck, rfl, -⟩
  · exact .inl (Prod.mk.inj outcome).1.symm
  · cases fault <;> first | exact .inr rfl | cases struck

/-- The instance whose election a request is part of. -/
def ElectionRequest.candidate? : ElectionRequest → Option Nat
  | .isStopSet host | .setStop host | .ask (.readLeader host) | .ask (.writeLeader host _) | .ask (.acquire host .leader)
  | .ask (.release host .leader) | .ask (.extend host _ _) => some host
  | .ask _ => none

def ElectionThread.candidate? : ElectionThread ι → Option Nat
  | .background host | .stopping host => some host
  | .working _ => none

variable {ttl : Nat} {thread : ElectionThread ι} {state after : ElectionRun server ι} {request : ElectionRequest}
  {reply : request.Reply}

omit [DecidableEq ι] in
theorem candidate?_of_permits {phase : ElectionPhase} (permitted : thread.Permits ttl phase request) :
    request.candidate? = thread.candidate? := by
  cases thread with
  | background host | stopping host =>
      cases request with
      | isStopSet | setStop => first | exact congrArg some permitted.1 | exact permitted.elim
      | ask asked =>
          cases asked with
          | readLeader | writeLeader => exact congrArg some permitted.1
          | acquire other slot | release other slot | extend other slot seconds =>
              cases slot <;> first | exact congrArg some permitted.1 | exact permitted.elim
          | _ => exact permitted.elim
  | working process =>
      cases request with
      | isStopSet | setStop => exact permitted.elim
      | ask asked =>
          cases asked with
          | readLeader | writeLeader | extend => cases permitted
          | acquire other slot | release other slot => cases slot <;> first | rfl | cases permitted
          | _ => rfl

theorem notes_elsewhere {host : Nat} (elsewhere : request.candidate? ≠ some host) (now : Datetime)
    (notes : Nat → Option Datetime) :
    noteAsked now notes request reply host = notes host ∧ noteConfirmed now notes request reply host = notes host := by
  have unmoved : ∀ (other : Nat) (note : Option Datetime), some other ≠ some host →
      Function.update notes other note host = notes host :=
    fun other note apart => Function.update_of_ne (fun same => apart (congrArg some same.symm)) ..
  cases request with
  | isStopSet | setStop => exact ⟨rfl, rfl⟩
  | ask asked =>
      cases asked with
      | acquire other slot | extend other slot seconds =>
          cases slot with
          | job => exact ⟨rfl, rfl⟩
          | leader =>
              refine ⟨unmoved _ _ elsewhere, ?_⟩
              rcases reply with fault | granted
              · rfl
              · cases granted with
                | false => rfl
                | true => exact unmoved _ _ elsewhere
      | release other slot =>
          cases slot with
          | job => exact ⟨rfl, rfl⟩
          | leader =>
              refine ⟨?_, unmoved _ _ elsewhere⟩
              rcases reply with fault | _
              · rfl
              · exact unmoved _ _ elsewhere
      | _ => exact ⟨rfl, rfl⟩

theorem candidate_elsewhere {host : Nat} (elsewhere : thread.candidate? ≠ some host)
    (permitted : thread.Permits ttl (state.phases thread) request) (elected : electing thread state request reply after) :
    after.candidate host = state.candidate host := by
  obtain ⟨answered, phases, asked, confirmed⟩ := elected
  have unasked := candidate?_of_permits permitted ▸ elsewhere
  have noted := @notes_elsewhere request reply host unasked state.cluster.now
  have background : after.phases (.background host) = state.phases (.background host) := by
    rw [phases, Function.update_of_ne]
    rintro rfl
    exact elsewhere rfl
  have stopping : after.phases (.stopping host) = state.phases (.stopping host) := by
    rw [phases, Function.update_of_ne]
    rintro rfl
    exact elsewhere rfl
  have stopped : after.stopped host = state.stopped host := by
    cases request with
    | isStopSet other => rw [answered.2.1]
    | setStop other =>
        rw [answered.1, Function.update_of_ne]
        rintro rfl
        exact unasked rfl
    | ask called => rw [answered.1]
  have believes : (after.cluster.coordinators host).isLeader = (state.cluster.coordinators host).isLeader := by
    cases request with
    | isStopSet other => rw [answered.2.2]
    | setStop other => rw [answered.2]
    | ask called =>
        refine (keeps_step answered.2 host).isLeader.trans ?_
        cases called with
        | writeLeader other isLeader =>
            rcases reply with fault | _
            · rfl
            · exact if_neg fun same => unasked (congrArg some same)
        | _ => rfl
  simp only [ElectionRun.candidate, background, stopping, stopped, believes, asked, confirmed, (noted _).1, (noted _).2]

theorem candidate_background {host : Nat} (permitted : (.background host : ElectionThread ι).Permits ttl
      (state.phases (.background host)) request) (elected : electing (.background host) state request reply after) :
    CandidateMove state.cluster.now (state.candidate host) (after.candidate host) := by
  obtain ⟨answered, phases, asked, confirmed⟩ := elected
  have moved : after.candidate host = {
      isLeader := (after.cluster.coordinators host).isLeader
      background := (state.phases (.background host)).after request reply
      stopping := state.phases (.stopping host)
      stopped := after.stopped host
      asked := noteAsked state.cluster.now state.asked request reply host
      confirmed := noteConfirmed state.cluster.now state.confirmed request reply host } := by
    simp [ElectionRun.candidate, phases, asked, confirmed]
  rw [moved]
  cases request with
  | setStop other => exact permitted.elim
  | isStopSet other =>
      obtain ⟨rfl, outside⟩ := permitted
      obtain ⟨rfl, stopped, cluster⟩ := answered
      rw [stopped, cluster]
      by_cases signalled : state.stopped other = true
      · have phase : (state.phases (.background other)).after (.isStopSet other) (state.stopped other) = .finished :=
          if_pos signalled
        rw [phase]
        exact .quit outside
      · have phase : (state.phases (.background other)).after (.isStopSet other) (state.stopped other) = .inside :=
          if_neg signalled
        rw [phase]
        exact .entered outside (Bool.eq_false_iff.mpr signalled)
  | ask called =>
      obtain ⟨stopped, stepped⟩ := answered
      have believes := (keeps_step stepped host).isLeader
      rw [stopped, believes]
      cases called with
      | readLeader other =>
          obtain ⟨rfl, inside⟩ := permitted
          rcases reply_readLeader stepped with rfl | rfl
          · rw [inside]
            by_cases leads : (state.cluster.coordinators other).isLeader = true
            · have phase : ElectionPhase.inside.after (.ask (.readLeader other))
                  (.ok (state.cluster.coordinators other).isLeader) = .renewing := by rw [leads]; rfl
              rw [phase]
              exact .renewing inside leads
            · have unled := Bool.eq_false_iff.mpr leads
              have phase : ElectionPhase.inside.after (.ask (.readLeader other))
                  (.ok (state.cluster.coordinators other).isLeader) = .contending := by rw [unled]; rfl
              rw [phase]
              exact .contending inside unled
          · exact .died _
      | acquire other slot =>
          cases slot with
          | job name => exact permitted.elim
          | leader =>
              obtain ⟨rfl, contending⟩ := permitted
              rcases reply with fault | granted
              · simp only [noteAsked, noteConfirmed, Function.update_self]
                cases fault with
                | killed => exact .died _
                | registration | startup | lock | redis => exact .refused contending
              · cases granted with
                | true =>
                    simp only [noteAsked, noteConfirmed, Function.update_self]
                    exact .won contending
                | false =>
                    simp only [noteAsked, noteConfirmed, Function.update_self]
                    exact .refused contending
      | extend other slot seconds =>
          cases slot with
          | job name => exact permitted.elim
          | leader =>
              obtain ⟨rfl, -, renewing⟩ := permitted
              rcases reply with fault | extended
              · simp only [noteAsked, noteConfirmed, Function.update_self]
                cases fault with
                | killed => exact .died _
                | registration | startup | lock | redis => exact .lost
              · cases extended with
                | true =>
                    simp only [noteAsked, noteConfirmed, Function.update_self]
                    exact .renewed
                | false =>
                    simp only [noteAsked, noteConfirmed, Function.update_self]
                    exact .lost
      | writeLeader other isLeader =>
          obtain ⟨rfl, due⟩ := permitted
          rcases reply_writeLeader stepped with rfl | rfl
          · simp only [SchedulerCall.writes, if_true]
            rcases due with ⟨won, rfl⟩ | ⟨lost, rfl⟩
            · simp only [ElectionPhase.after, won]
              exact .led won
            · simp only [ElectionPhase.after, lost]
              exact .gaveUp
          · exact .died _
      | release other slot => cases slot <;> exact permitted.elim
      | _ => exact permitted.elim

theorem candidate_stopping {host : Nat} (permitted : (.stopping host : ElectionThread ι).Permits ttl
      (state.phases (.stopping host)) request) (elected : electing (.stopping host) state request reply after) :
    CandidateMove state.cluster.now (state.candidate host) (after.candidate host) := by
  obtain ⟨answered, phases, asked, confirmed⟩ := elected
  have moved : after.candidate host = {
      isLeader := (after.cluster.coordinators host).isLeader
      background := state.phases (.background host)
      stopping := (state.phases (.stopping host)).after request reply
      stopped := after.stopped host
      asked := noteAsked state.cluster.now state.asked request reply host
      confirmed := noteConfirmed state.cluster.now state.confirmed request reply host } := by
    simp [ElectionRun.candidate, phases, asked, confirmed]
  rw [moved]
  cases request with
  | isStopSet other => exact permitted.elim
  | setStop other =>
      obtain ⟨rfl, outside⟩ := permitted
      obtain ⟨stopped, cluster⟩ := answered
      rw [stopped, cluster, Function.update_self]
      exact .signalled outside
  | ask called =>
      obtain ⟨stopped, stepped⟩ := answered
      have believes := (keeps_step stepped host).isLeader
      rw [stopped, believes]
      cases called with
      | readLeader other =>
          obtain ⟨rfl, signalled⟩ := permitted
          rcases reply_readLeader stepped with rfl | rfl
          · rw [signalled]
            by_cases leads : (state.cluster.coordinators other).isLeader = true
            · have phase : ElectionPhase.signalled.after (.ask (.readLeader other))
                  (.ok (state.cluster.coordinators other).isLeader) = .resigning := by rw [leads]; rfl
              rw [phase]
              exact .resigning signalled leads
            · have phase : ElectionPhase.signalled.after (.ask (.readLeader other))
                  (.ok (state.cluster.coordinators other).isLeader) = .finished := by
                rw [Bool.eq_false_iff.mpr leads]
                rfl
              rw [phase]
              exact .stood signalled
          · refine .halted fun same => ?_
            exact absurd (signalled.symm.trans same) (by decide)
      | release other slot =>
          cases slot with
          | job name => exact permitted.elim
          | leader =>
              obtain ⟨rfl, resigning⟩ := permitted
              simp only [noteConfirmed, Function.update_self]
              rcases reply with fault | _
              · cases fault with
                | killed => exact .released resigning _ _ (.inr rfl)
                | registration | startup | lock | redis => exact .released resigning _ _ (.inl rfl)
              · exact .released resigning _ _ (.inl rfl)
      | writeLeader other isLeader =>
          obtain ⟨rfl, released, rfl⟩ := permitted
          rcases reply_writeLeader stepped with rfl | rfl
          · simp only [SchedulerCall.writes, if_true, ElectionPhase.after, released]
            exact .resigned released
          · refine .halted fun same => ?_
            exact absurd (released.symm.trans same) (by decide)
      | acquire other slot | extend other slot seconds => cases slot <;> exact permitted.elim
      | _ => exact permitted.elim

theorem candidate_step (host : Nat) (permitted : thread.Permits ttl (state.phases thread) request)
    (elected : electing thread state request reply after) :
    CandidateMove state.cluster.now (state.candidate host) (after.candidate host) := by
  by_cases elsewhere : thread.candidate? = some host
  · cases thread with
    | background other =>
        obtain rfl := Option.some.inj elsewhere
        exact candidate_background permitted elected
    | stopping other =>
        obtain rfl := Option.some.inj elsewhere
        exact candidate_stopping permitted elected
    | working process => cases elsewhere
  · rw [candidate_elsewhere elsewhere permitted elected]
    exact .same

end Steps

section Locks

variable {server : LockServer}

/-- Whatever token the lock object of an election has is that of its instance. -/
def Cluster.Named (state : Cluster server) : Prop :=
  ∀ host token, (state.coordinators host).leaderToken = some token → token = .holder host

theorem named_step {state after : Cluster server} {call : SchedulerCall} {reply : Except SchedulerFault call.Result}
    (named : state.Named) (stepped : schedulerStep state call reply after) : after.Named := by
  intro host token present
  rcases (keeps_step stepped host).token token present with before | own
  · exact named host token before
  · exact own

/-- What an instance holds of the lock of the leader stays held, unless it gives it back itself. -/
theorem held_leader_execute {state : Cluster server} {call : SchedulerCall} {host until_ : Nat}
    (fenced : server.TokenFenced) (renewable : server.Renewable) (named : state.Named)
    (held : server.Held state.store Slot.leader.key (.holder host) state.now until_)
    (unreleased : call ≠ .release host .leader)
    (longer : ∀ seconds, call = .extend host .leader seconds → until_ ≤ state.now + seconds) :
    server.Held (state.execute call).2.store Slot.leader.key (.holder host) state.now until_ := by
  cases call with
  | acquire other slot =>
      cases slot with
      | job name =>
          simp only [Cluster.execute, Cluster.acquire]
          split
          · exact held
          · exact held
          · dsimp only
            split <;> exact fenced.held_grant held
      | leader =>
          simp only [Cluster.execute, Cluster.acquire]
          split <;> exact fenced.held_grant held
  | release other slot =>
      cases slot with
      | job name =>
          simp only [Cluster.execute, Cluster.release]
          split
          · exact held
          · exact held
          · exact held
          · exact fenced.held_release held fun same => absurd same.symm (key_job_leader name)
      | leader =>
          simp only [Cluster.execute, Cluster.release]
          split
          · exact held
          · rename_i token present
            refine fenced.held_release held fun _ same => unreleased ?_
            obtain rfl := Token.holder.inj ((named other token present).symm.trans same)
            rfl
  | extend other slot seconds =>
      simp only [Cluster.execute, Cluster.extend]
      split
      · rename_i token present
        obtain rfl := named other token present
        by_cases own : other = host
        · subst own
          exact renewable.held_extend held (longer seconds rfl)
        · exact renewable.held_foreign held fun same => own (Token.holder.inj same)
      · exact held
  | tryLock site =>
      simp only [Cluster.execute]
      split <;> exact held
  | _ => exact held

/-- Whoever holds the lock of the leader after a call held it before, or has just asked for it. -/
theorem holder_execute {state : Cluster server} {call : SchedulerCall} {instant : Nat} {token : Token}
    (fenced : server.TokenFenced) (lapsing : server.Lapsing) (named : state.Named) (passed : state.now ≤ instant)
    (holding : server.holder (state.execute call).2.store Slot.leader.key instant = some token) :
    server.holder state.store Slot.leader.key instant = some token ∨
      ∃ host, token = .holder host ∧
        (call = .acquire host .leader ∧ instant < state.now + (state.coordinators host).leaderLockTtl ∨
          ∃ seconds, call = .extend host .leader seconds ∧ instant < state.now + seconds) := by
  cases call with
  | acquire other slot =>
      cases slot with
      | job name =>
          left
          simp only [Cluster.execute, Cluster.acquire] at holding
          split at holding
          · exact holding
          · exact holding
          · dsimp only at holding
            split at holding <;> exact (fenced.grant_other (key_job_leader name).symm passed).symm.trans holding
      | leader =>
          simp only [Cluster.execute, Cluster.acquire] at holding
          have granted : server.holder (server.grant state.store state.now Slot.leader.key (.holder other)
              (state.coordinators other).leaderLockTtl).2 Slot.leader.key instant = some token := by
            split at holding <;> exact holding
          exact (lapsing.grant_lapses passed granted).imp id fun asked => ⟨other, asked.1, .inl ⟨rfl, asked.2⟩⟩
  | release other slot =>
      left
      cases slot with
      | job name =>
          simp only [Cluster.execute, Cluster.release] at holding
          split at holding
          · exact holding
          · exact holding
          · exact holding
          · exact (fenced.release_other (key_job_leader name).symm passed).symm.trans holding
      | leader =>
          simp only [Cluster.execute, Cluster.release] at holding
          split at holding
          · exact holding
          · exact (lapsing.release_frees passed holding).1
  | extend other slot seconds =>
      simp only [Cluster.execute, Cluster.extend] at holding
      split at holding
      · rename_i own present
        obtain rfl := named other own present
        exact (lapsing.extend_lapses passed holding).imp id fun asked =>
          ⟨other, asked.1, .inr ⟨seconds, rfl, asked.2⟩⟩
      · exact .inl holding
  | tryLock site =>
      simp only [Cluster.execute] at holding
      split at holding <;> exact .inl holding
  | _ => exact .inl holding

theorem released_execute {state : Cluster server} {host instant : Nat} (lapsing : server.Lapsing) (named : state.Named)
    (passed : state.now ≤ instant) (released : (state.execute (.release host .leader)).1 = .ok ()) :
    server.holder (state.execute (.release host .leader)).2.store Slot.leader.key instant ≠ some (.holder host) := by
  simp only [Cluster.execute, Cluster.release] at released ⊢
  split at released
  · cases released
  · rename_i token present
    dsimp only at released ⊢
    split at released
    · rename_i freed
      obtain rfl := named host token present
      exact fun holding => (lapsing.release_frees passed holding).2 freed rfl
    · cases released

end Locks

section Runs

variable {server : LockServer} {ι : Type} [DecidableEq ι] {ttl : Nat} {thread : ElectionThread ι}
  {state after : ElectionRun server ι} {request : ElectionRequest} {reply : request.Reply}

/-- The instance hears that it has the lock. -/
def ElectionRequest.grants (host : Nat) : (request : ElectionRequest) → request.Reply → Prop
  | .ask (.acquire other .leader), .ok true | .ask (.extend other .leader _), .ok true => other = host
  | _, _ => False

/-- The instance hears that it has given the lock back. -/
def ElectionRequest.returns (host : Nat) : (request : ElectionRequest) → request.Reply → Prop
  | .ask (.release other .leader), .ok _ => other = host
  | _, _ => False

/-- The instance sends a command for the lock. -/
def ElectionRequest.sends (host : Nat) (request : ElectionRequest) : Prop :=
  request = .ask (.acquire host .leader) ∨ ∃ seconds, request = .ask (.extend host .leader seconds)

theorem noteConfirmed_some {now instant : Datetime} {notes : Nat → Option Datetime} {host : Nat}
    (noted : noteConfirmed now notes request reply host = some instant) :
    notes host = some instant ∧ request ≠ .ask (.release host .leader) ∨ instant = now ∧ request.grants host reply := by
  have granted : ∀ other, Function.update notes other (some now) host = some instant →
      notes host = some instant ∨ instant = now ∧ other = host := by
    intro other noted
    by_cases own : other = host
    · subst own
      rw [Function.update_self] at noted
      exact .inr ⟨(Option.some.inj noted).symm, rfl⟩
    · rw [Function.update_of_ne (Ne.symm own)] at noted
      exact .inl noted
  cases request with
  | isStopSet | setStop => exact .inl ⟨noted, nofun⟩
  | ask asked =>
      cases asked with
      | acquire other slot | extend other slot seconds =>
          cases slot with
          | job name => exact .inl ⟨noted, nofun⟩
          | leader =>
              rcases reply with fault | answer
              · exact .inl ⟨noted, nofun⟩
              · cases answer with
                | false => exact .inl ⟨noted, nofun⟩
                | true => exact (granted other noted).imp (fun before => ⟨before, nofun⟩) id
      | release other slot =>
          cases slot with
          | job name => exact .inl ⟨noted, nofun⟩
          | leader =>
              dsimp only [noteConfirmed] at noted
              by_cases own : other = host
              · subst own
                rw [Function.update_self] at noted
                cases noted
              · rw [Function.update_of_ne (Ne.symm own)] at noted
                refine .inl ⟨noted, fun same => own ?_⟩
                cases same
                rfl
      | _ => exact .inl ⟨noted, nofun⟩

theorem noteAsked_cases (now : Datetime) (notes : Nat → Option Datetime) (host : Nat) :
    noteAsked now notes request reply host = some now ∧ request.sends host ∨
      ¬ request.sends host ∧ (noteAsked now notes request reply host = notes host ∨
        request.returns host reply ∧ noteAsked now notes request reply host = none) := by
  cases request with
  | isStopSet | setStop => exact .inr ⟨by simp [ElectionRequest.sends], .inl rfl⟩
  | ask asked =>
      cases asked with
      | acquire other slot | extend other slot seconds =>
          cases slot with
          | job name => exact .inr ⟨by simp [ElectionRequest.sends], .inl rfl⟩
          | leader =>
              dsimp only [noteAsked]
              by_cases own : other = host
              · subst own
                exact .inl ⟨Function.update_self .., by simp [ElectionRequest.sends]⟩
              · exact .inr ⟨by simp [ElectionRequest.sends, own], .inl (Function.update_of_ne (Ne.symm own) ..)⟩
      | release other slot =>
          refine .inr ⟨by simp [ElectionRequest.sends], ?_⟩
          cases slot with
          | job name => exact .inl rfl
          | leader =>
              rcases reply with fault | _
              · exact .inl rfl
              · dsimp only [noteAsked]
                by_cases own : other = host
                · subst own
                  exact .inr ⟨rfl, Function.update_self ..⟩
                · exact .inl (Function.update_of_ne (Ne.symm own) ..)
      | _ => exact .inr ⟨by simp [ElectionRequest.sends], .inl rfl⟩

/-- What every run keeps: an instance that heard that it has the lock holds it for its lifetime. -/
structure Secured (ttl : Nat) (state : ElectionRun server ι) : Prop where
  clock : Monotone fun instant => (state.cluster.chance instant).now
  lifetimes : ∀ host, (state.cluster.coordinators host).leaderLockTtl = ttl
  named : state.cluster.Named
  consistent : ∀ host, (state.candidate host).Consistent
  held : ∀ host instant, state.confirmed host = some instant → instant ≤ state.cluster.now ∧
    server.Held state.cluster.store Slot.leader.key (.holder host) state.cluster.now (instant + ttl)

theorem now_elected (clock : Monotone fun instant => (state.cluster.chance instant).now)
    (elected : electing thread state request reply after) : state.cluster.now ≤ after.cluster.now := by
  have answered := elected.1
  cases request with
  | isStopSet host => rw [answered.2.2]
  | setStop host => rw [answered.2]
  | ask asked => exact now_step clock answered.2

omit [DecidableEq ι] in
theorem lifetime_of_permits {phase : ElectionPhase} {host seconds : Nat}
    (permitted : thread.Permits ttl phase (.ask (.extend host .leader seconds))) : seconds = ttl := by
  cases thread with
  | background other => exact permitted.2.1
  | stopping other => exact permitted.elim
  | working process => cases permitted

theorem held_granted {host : Nat} (fenced : server.TokenFenced) (renewable : server.Renewable) (secured : Secured ttl state)
    (permitted : thread.Permits ttl (state.phases thread) request) (elected : electing thread state request reply after)
    (granted : request.grants host reply) :
    server.Held after.cluster.store Slot.leader.key (.holder host) state.cluster.now (state.cluster.now + ttl) := by
  have answered := elected.1
  cases request with
  | isStopSet | setStop => exact granted.elim
  | ask asked =>
      cases asked with
      | acquire other slot =>
          cases slot with
          | job name => exact granted.elim
          | leader =>
              rcases reply with fault | result
              · exact granted.elim
              · cases result with
                | false => exact granted.elim
                | true =>
                    cases granted
                    obtain ⟨given, reached⟩ := outcome_of_step answered.2
                    simp only [Cluster.execute, Cluster.acquire] at given
                    have held := (fenced.grant_free (Except.ok.inj given)).2
                    rw [secured.lifetimes] at held
                    rw [reached]
                    simp only [Cluster.execute, Cluster.acquire]
                    rw [secured.lifetimes]
                    split <;> exact held
      | extend other slot seconds =>
          cases slot with
          | job name => exact granted.elim
          | leader =>
              rcases reply with fault | result
              · exact granted.elim
              · cases result with
                | false => exact granted.elim
                | true =>
                    cases granted
                    obtain ⟨given, reached⟩ := outcome_of_step answered.2
                    have lasting := lifetime_of_permits permitted
                    subst lasting
                    rw [reached]
                    simp only [Cluster.execute, Cluster.extend] at given ⊢
                    split at given
                    · rename_i token same present
                      obtain rfl := secured.named _ token present
                      dsimp only at given ⊢
                      split at given
                      · rename_i extended
                        exact (renewable.extend_held extended).2
                      · cases given
                    · cases given
      | release other slot => cases slot <;> exact granted.elim
      | _ => exact granted.elim

theorem secured_step (fenced : server.TokenFenced) (renewable : server.Renewable) (secured : Secured ttl state)
    (permitted : thread.Permits ttl (state.phases thread) request) (elected : electing thread state request reply after) :
    Secured ttl after := by
  have passed := now_elected secured.clock elected
  have answered := elected.1
  refine ⟨?_, ?_, ?_, fun host => consistent_move (secured.consistent host) (candidate_step host permitted elected), ?_⟩
  · cases request with
    | isStopSet host => rw [answered.2.2]; exact secured.clock
    | setStop host => rw [answered.2]; exact secured.clock
    | ask asked => rw [(frame_step answered.2).1]; exact secured.clock
  · intro host
    cases request with
    | isStopSet other => rw [answered.2.2]; exact secured.lifetimes host
    | setStop other => rw [answered.2]; exact secured.lifetimes host
    | ask asked => exact (keeps_step answered.2 host).lifetime.trans (secured.lifetimes host)
  · cases request with
    | isStopSet other => rw [answered.2.2]; exact secured.named
    | setStop other => rw [answered.2]; exact secured.named
    | ask asked => exact named_step secured.named answered.2
  · intro host instant confirmed
    rw [elected.2.2.2] at confirmed
    rcases noteConfirmed_some confirmed with ⟨before, unreleased⟩ | ⟨rfl, granted⟩
    · obtain ⟨early, held⟩ := secured.held host instant before
      refine ⟨Nat.le_trans early passed, ?_⟩
      cases request with
      | isStopSet other => rw [answered.2.2]; exact held
      | setStop other => rw [answered.2]; exact held
      | ask asked =>
          rcases (frame_step answered.2).2.2.2 with same | executed
          · rw [same]
            exact held.later passed
          · rw [executed]
            refine (held_leader_execute fenced renewable secured.named held (fun called => unreleased (by rw [called]))
              ?_).later passed
            rintro seconds rfl
            have lasting := lifetime_of_permits permitted
            subst lasting
            exact Nat.add_le_add_right early _
    · exact ⟨passed, (held_granted fenced renewable secured permitted elected granted).later passed⟩

/-- Whoever holds the lock of the leader, at whatever instant from now on, is an instance whose last command for it was sent
less than its lifetime before. -/
structure Bounded (ttl : Nat) (state : ElectionRun server ι) : Prop where
  asked : ∀ host sent, state.asked host = some sent → sent ≤ state.cluster.now
  holder : ∀ instant token, state.cluster.now ≤ instant →
    server.holder state.cluster.store Slot.leader.key instant = some token →
      ∃ host sent, token = .holder host ∧ state.asked host = some sent ∧ instant < sent + ttl

theorem not_returned {host instant : Nat} (lapsing : server.Lapsing) (secured : Secured ttl state)
    (passed : state.cluster.now ≤ instant) (elected : electing thread state request reply after)
    (holding : server.holder after.cluster.store Slot.leader.key instant = some (.holder host)) :
    ¬ request.returns host reply := by
  have answered := elected.1
  intro returned
  cases request with
  | isStopSet | setStop => exact returned
  | ask asked =>
      cases asked with
      | release other slot =>
          cases slot with
          | job name => exact returned
          | leader =>
              rcases reply with fault | _
              · exact returned
              · cases returned
                obtain ⟨given, reached⟩ := outcome_of_step answered.2
                rw [reached] at holding
                exact released_execute lapsing secured.named passed given holding
      | acquire other slot | extend other slot seconds => cases slot <;> exact returned
      | _ => exact returned

theorem bounded_step (fenced : server.TokenFenced) (lapsing : server.Lapsing) (secured : Secured ttl state)
    (bounded : Bounded ttl state) (permitted : thread.Permits ttl (state.phases thread) request)
    (elected : electing thread state request reply after) : Bounded ttl after := by
  have passed := now_elected secured.clock elected
  have answered := elected.1
  have noted := @noteAsked_cases request reply state.cluster.now state.asked
  constructor
  · intro host sent asked
    rw [elected.2.2.1] at asked
    rcases noted host with ⟨now, -⟩ | ⟨-, same | ⟨-, gone⟩⟩
    · obtain rfl := Option.some.inj (now.symm.trans asked)
      exact passed
    · exact Nat.le_trans (bounded.asked host sent (same.symm.trans asked)) passed
    · exact absurd (gone.symm.trans asked) nofun
  · intro instant token reached holding
    have within := Nat.le_trans passed reached
    have earlier : server.holder state.cluster.store Slot.leader.key instant = some token →
        ∃ host sent, token = .holder host ∧ after.asked host = some sent ∧ instant < sent + ttl := by
      intro before
      obtain ⟨host, sent, rfl, asked, early⟩ := bounded.holder instant token within before
      rw [elected.2.2.1]
      rcases noted host with ⟨now, -⟩ | ⟨-, same | ⟨returned, -⟩⟩
      · exact ⟨host, _, rfl, now, Nat.lt_of_lt_of_le early (Nat.add_le_add_right (bounded.asked host sent asked) _)⟩
      · exact ⟨host, sent, rfl, same.trans asked, early⟩
      · exact absurd returned (not_returned lapsing secured within elected holding)
    cases request with
    | isStopSet host => exact earlier (by rwa [answered.2.2] at holding)
    | setStop host => exact earlier (by rwa [answered.2] at holding)
    | ask called =>
        rcases (frame_step answered.2).2.2.2 with same | executed
        · exact earlier (by rwa [same] at holding)
        · rcases holder_execute fenced lapsing secured.named within (by rwa [executed] at holding) with
            before | ⟨host, rfl, asking⟩
          · exact earlier before
          · rw [elected.2.2.1]
            rcases asking with ⟨rfl, early⟩ | ⟨seconds, rfl, early⟩
            · rw [secured.lifetimes] at early
              exact ⟨host, _, rfl, Function.update_self .., early⟩
            · rw [lifetime_of_permits permitted] at early
              exact ⟨host, _, rfl, Function.update_self .., early⟩

/-- The instances before their elections begin. -/
def launchElection (renewalInterval : Nat) (rounds : Nat → Nat) (processes : ι → SchedulerProcess) (start : Cluster server) :
    Pool electionSignature SchedulerFault (ElectionRun server ι) (ElectionThread ι) where
  shared :=
    { cluster := start
      stopped := fun _ => false
      phases := fun _ => .outside
      asked := fun _ => none
      confirmed := fun _ => none }
  threads := fun thread => thread.program renewalInterval rounds processes

omit [DecidableEq ι] in
theorem secured_launch (renewalInterval : Nat) (rounds : Nat → Nat) (processes : ι → SchedulerProcess)
    {chance : Nat → SchedulerChance} (clock : Monotone fun instant => (chance instant).now) (store : server.Store)
    (elects : Nat → Bool) (jobLockTtl : Option Nat) (ttl : Nat) :
    Secured ttl (launchElection renewalInterval rounds processes
      (freshCluster server chance store elects jobLockTtl ttl fun _ => false)).shared where
  clock := clock
  lifetimes := fun _ => rfl
  named := fun _ _ present => nomatch present
  consistent := fun _ => ⟨fun _ => rfl, fun either => (either.elim nofun nofun), fun begun => absurd rfl begun, nofun, nofun⟩
  held := fun _ _ confirmed => nomatch confirmed

theorem election_run {renewalInterval : Nat} {rounds : Nat → Nat} {processes : ι → SchedulerProcess}
    (wired : renewalInterval * 3 = ttl) (works : ∀ process, (processes process).works = true) {start : Cluster server}
    {last : Pool electionSignature SchedulerFault (ElectionRun server ι) (ElectionThread ι)}
    {events : List (Event electionSignature (ElectionThread ι))}
    (run : Pool.Run electing (launchElection renewalInterval rounds processes start) events last)
    (inv : ElectionRun server ι → Prop)
    (preserved : ∀ thread state request reply after, inv state → thread.Permits ttl (state.phases thread) request →
      electing thread state request reply after → inv after)
    (holds : inv (launchElection renewalInterval rounds processes start).shared) : inv last.shared := by
  refine (run.tracked ElectionRun.phases inv ?_ (fun thread => ensures_thread wired works thread) holds).2
  intro thread state request reply after kept permitted elected
  refine ⟨by rw [elected.2.1, Function.update_self]; rfl, fun other apart => ?_,
    preserved thread state request reply after kept permitted elected⟩
  rw [elected.2.1, Function.update_of_ne apart]

/-- The instance takes itself for the leader, none of its threads is giving that up or has ended in its midst, and the last
command of its ticks was sent less than the lifetime of the lock ago. -/
structure ElectionRun.Leads (ttl : Nat) (state : ElectionRun server ι) (host : Nat) : Prop where
  believes : (state.cluster.coordinators host).isLeader = true
  ticking : state.phases (.background host) ≠ .lost ∧ state.phases (.background host) ≠ .ended
  staying : state.phases (.stopping host) ≠ .released ∧ state.phases (.stopping host) ≠ .ended
  recent : ∀ sent, state.asked host = some sent → state.cluster.now < sent + ttl

/-- Of the instances that take themselves for the leader, each with a command of its last tick sent less than the lifetime
of the lock ago and none about to give up, there is at most one, and the server holds the lock for it. -/
theorem one_leader_at_a_time (fenced : server.TokenFenced) (renewable : server.Renewable) {renewalInterval ttl : Nat}
    (wired : renewalInterval * 3 = ttl) (rounds : Nat → Nat) {processes : ι → SchedulerProcess}
    (works : ∀ process, (processes process).works = true) {chance : Nat → SchedulerChance}
    (clock : Monotone fun instant => (chance instant).now) (store : server.Store) (elects : Nat → Bool)
    (jobLockTtl : Option Nat)
    {last : Pool electionSignature SchedulerFault (ElectionRun server ι) (ElectionThread ι)}
    {events : List (Event electionSignature (ElectionThread ι))}
    (run : Pool.Run electing (launchElection renewalInterval rounds processes
      (freshCluster server chance store elects jobLockTtl ttl fun _ => false)) events last) :
    (∀ host, last.shared.Leads ttl host →
      server.holder last.shared.cluster.store Slot.leader.key last.shared.cluster.now = some (.holder host)) ∧
    ∀ first second, last.shared.Leads ttl first → last.shared.Leads ttl second → first = second := by
  have secured := election_run wired works run (Secured ttl)
    (fun _ _ _ _ _ kept permitted elected => secured_step fenced renewable kept permitted elected)
    (secured_launch renewalInterval rounds processes clock store elects jobLockTtl ttl)
  have held : ∀ host, last.shared.Leads ttl host →
      server.holder last.shared.cluster.store Slot.leader.key last.shared.cluster.now = some (.holder host) := by
    intro host leads
    rcases (secured.consistent host).led leads.believes with ⟨instant, asked, confirmed⟩ | lost | ended | released | halted
    · exact (secured.held host instant confirmed).2 _ (Nat.le_refl _) (leads.recent instant asked)
    · exact absurd lost leads.ticking.1
    · exact absurd ended leads.ticking.2
    · exact absurd released leads.staying.1
    · exact absurd halted leads.staying.2
  refine ⟨held, fun first second leads also => ?_⟩
  exact Token.holder.inj (Option.some.inj ((held first leads).symm.trans (held second also)))

/-- The leadership passes on: the server holds the lock only for an instance whose last command was sent less than the
lifetime of the lock ago and that has not given the lock back since, and once there is none, whoever asks for the lock and is
answered gets it. -/
theorem leadership_passes_on (fenced : server.TokenFenced) (renewable : server.Renewable) (lapsing : server.Lapsing)
    {renewalInterval ttl : Nat} (wired : renewalInterval * 3 = ttl) (rounds : Nat → Nat) {processes : ι → SchedulerProcess}
    (works : ∀ process, (processes process).works = true) {chance : Nat → SchedulerChance}
    (clock : Monotone fun instant => (chance instant).now) {store : server.Store}
    (free : ∀ instant, server.holder store Slot.leader.key instant = none) (elects : Nat → Bool) (jobLockTtl : Option Nat)
    {last : Pool electionSignature SchedulerFault (ElectionRun server ι) (ElectionThread ι)}
    {events : List (Event electionSignature (ElectionThread ι))}
    (run : Pool.Run electing (launchElection renewalInterval rounds processes
      (freshCluster server chance store elects jobLockTtl ttl fun _ => false)) events last) :
    (∀ token, server.holder last.shared.cluster.store Slot.leader.key last.shared.cluster.now = some token →
      ∃ host sent, token = .holder host ∧ last.shared.asked host = some sent ∧ last.shared.cluster.now < sent + ttl) ∧
    ((∀ host sent, last.shared.asked host = some sent → sent + ttl ≤ last.shared.cluster.now) →
      ∀ thread host acquired after,
        electing thread last.shared (.ask (.acquire host .leader)) (.ok acquired) after → acquired = true) := by
  have start := secured_launch renewalInterval rounds processes clock store elects jobLockTtl ttl
  obtain ⟨secured, bounded⟩ := election_run wired works run (fun state => Secured ttl state ∧ Bounded ttl state)
    (fun _ _ _ _ _ kept permitted elected =>
      ⟨secured_step fenced renewable kept.1 permitted elected, bounded_step fenced lapsing kept.1 kept.2 permitted elected⟩)
    ⟨start, fun _ _ asked => (nomatch asked), fun instant token _ holding => absurd ((free instant).symm.trans holding) nofun⟩
  refine ⟨fun token holding => bounded.holder _ token (Nat.le_refl _) holding, ?_⟩
  intro quiet thread host acquired after elected
  have unheld : server.holder last.shared.cluster.store Slot.leader.key last.shared.cluster.now = none := by
    cases holding : server.holder last.shared.cluster.store Slot.leader.key last.shared.cluster.now with
    | none => rfl
    | some token =>
        obtain ⟨other, sent, -, asked, early⟩ := bounded.holder _ token (Nat.le_refl _) holding
        exact absurd early (Nat.not_lt.mpr (quiet other sent asked))
  have given := (outcome_of_step elected.1.2).1
  simp only [Cluster.execute, Cluster.acquire] at given
  rw [lapsing.grant_free unheld] at given
  exact (Except.ok.inj given).symm

/-- The answer to a request; a fault, if any, strikes a call of the instance before the server acts. -/
def ElectionRun.answer (strikes : Option SchedulerFault) (state : ElectionRun server ι) :
    (request : ElectionRequest) → request.Reply × (Nat → Bool) × Cluster server
  | .isStopSet host => (state.stopped host, state.stopped, state.cluster)
  | .setStop host => ((), Function.update state.stopped host true, state.cluster)
  | .ask asked =>
      match strikes with
      | none => ((schedulerEnvironment asked state.cluster).1, state.stopped, (schedulerEnvironment asked state.cluster).2)
      | some fault => (.error fault, state.stopped, (state.cluster.failed asked).tick)

def electionHandler (thread : ElectionThread ι) (strikes : Option SchedulerFault) :
    Handler electionSignature (ElectionRun server ι) := fun request state =>
  ((state.answer strikes request).1,
    { cluster := (state.answer strikes request).2.2
      stopped := (state.answer strikes request).2.1
      phases := Function.update state.phases thread
        ((state.phases thread).after request (state.answer strikes request).1)
      asked := noteAsked state.cluster.now state.asked request (state.answer strikes request).1
      confirmed := noteConfirmed state.cluster.now state.confirmed request (state.answer strikes request).1 })

def strikable (_ : ElectionThread ι) (strikes : Option SchedulerFault) (_ : ElectionRun server ι) : ElectionRequest → Bool
  | .ask asked => strikes.all fun fault => asked.struck fault
  | _ => true

theorem electionHandler_electing (thread : ElectionThread ι) (strikes : Option SchedulerFault)
    (state : ElectionRun server ι) (request : ElectionRequest) (struck : strikable thread strikes state request = true) :
    electing thread state request (electionHandler thread strikes request state).1
      (electionHandler thread strikes request state).2 := by
  refine ⟨?_, rfl, rfl, rfl⟩
  cases request with
  | isStopSet host => exact ⟨rfl, rfl, rfl⟩
  | setStop host => exact ⟨rfl, rfl⟩
  | ask asked =>
      cases strikes with
      | none => exact ⟨rfl, .inl rfl⟩
      | some fault => exact ⟨rfl, .inr ⟨fault, struck, rfl, .inl rfl⟩⟩

end Runs

section Samples

/-- Ten seconds pass with every call. -/
def tenSecondsEach (instant : Nat) : SchedulerChance where
  now := instant * 10
  mistaken := false
  outcome := { startedAt := 0, finishedAt := 0, success := true, errorMessage := none }

theorem clock_tenSecondsEach : Monotone fun instant => (tenSecondsEach instant).now :=
  fun _ _ passed => Nat.mul_le_mul_right 10 passed

def electionPool :
    Pool electionSignature SchedulerFault (ElectionRun (LeaseService.timed String Token) Unit) (ElectionThread Unit) :=
  launchElection 10 (fun _ => 1) (fun _ => .operator 0 (.start none))
    (freshCluster (LeaseService.timed String Token) tenSecondsEach (fun _ => none) (fun _ => true) none 30 fun _ => false)

/-- The first instance is elected and not heard of again. -/
def firstElected : List (ElectionThread Unit × Option SchedulerFault) :=
  List.replicate 4 (.background 0, none) ++ List.replicate 2 (.background 1, none)

/-- The second one is elected once the time of the first is over. -/
def secondElected : List (ElectionThread Unit × Option SchedulerFault) :=
  firstElected ++ List.replicate 2 (.background 1, none)

theorem one_leader_at_a_time_sample :
    ∃ last events, Pool.Run electing electionPool events last ∧
      (last.shared.cluster.coordinators 0).isLeader = true ∧ last.shared.Leads 30 1 ∧
      (LeaseService.timed String Token).holder last.shared.cluster.store Slot.leader.key last.shared.cluster.now =
        some (.holder 1) ∧
      ∀ host, last.shared.Leads 30 host → host = 1 := by
  have run := Pool.enact_runs electionHandler_electing electionPool secondElected (by decide +kernel)
  have leader := one_leader_at_a_time LeaseService.timed_fenced LeaseService.timed_renewable rfl (fun _ => 1) (fun _ => rfl)
    clock_tenSecondsEach (fun _ => none) (fun _ => true) none run
  have leads : (Pool.enact electionHandler electionPool secondElected).shared.Leads 30 1 := by
    refine ⟨by decide +kernel, by decide +kernel, by decide +kernel, fun sent asked => ?_⟩
    have sentAt : (Pool.enact electionHandler electionPool secondElected).shared.asked 1 = some 40 := by decide +kernel
    obtain rfl := Option.some.inj (sentAt.symm.trans asked)
    decide +kernel
  exact ⟨_, _, run, by decide +kernel, leads, leader.1 1 leads, fun host also => leader.2 host 1 also leads⟩

theorem leadership_passes_on_sample :
    ∃ last events, Pool.Run electing electionPool events last ∧
      (last.shared.cluster.coordinators 0).isLeader = true ∧
      ∀ thread host acquired after,
        electing thread last.shared (.ask (.acquire host .leader)) (.ok acquired) after → acquired = true := by
  have run := Pool.enact_runs electionHandler_electing electionPool firstElected (by decide +kernel)
  have passes := leadership_passes_on LeaseService.timed_fenced LeaseService.timed_renewable LeaseService.timed_lapsing rfl
    (fun _ => 1) (fun _ => rfl) clock_tenSecondsEach (fun _ => rfl) (fun _ => true) none run
  refine ⟨_, _, run, by decide +kernel, passes.2 ?_⟩
  intro host sent asked
  have only : (Pool.enact electionHandler electionPool firstElected).shared.asked =
      Function.update (fun _ => none) 0 (some 10) := rfl
  rw [only] at asked
  by_cases first : host = 0
  · subst first
    obtain rfl := Option.some.inj asked
    decide +kernel
  · rw [Function.update_of_ne first] at asked
    cases asked

end Samples

end AutomationHub.Scheduler
