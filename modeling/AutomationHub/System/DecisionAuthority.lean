import AutomationHub.System.Knowledge

/-!
On whose authority a decision commits.

The caller's right to decide is checked on the row fetched at the start; the
conditional update names the version the caller supplied, if any.
-/

set_option autoImplicit false

namespace AutomationHub.System

open Foundation Model Database Services Auth Workflow Program Table

/-- The event records a decision on the stage at the version. -/
structure Commits (event : Event hubSignature ℕ) (stageId : UUID) (version : Nat) : Prop where
  decision : ∃ statement, event.request = .query statement ∧ decisionTarget statement = some (stageId, version)
  accepted : event.request.accepted event.reply = true

/-- No decision fetches a stage that has not reached the version its caller supplied. -/
def fetchesReached (operations : ℕ → Operation) : Effect hubSignature World ℕ :=
  fun thread world request reply after => mayFail thread world request reply after ∧
    ∀ identity stageId expected stage, (operations thread).decision = some (identity, stageId, some expected) →
      request = .query (.getStage stageId) → world.stages.find? stageId = some stage → expected ≤ stage.version

private theorem found_of_decision {thread : ℕ} {world after : World} {statement : Query} {stageId : UUID}
    {version : Nat} {reply : Call.Reply (.query statement)}
    (target : decisionTarget statement = some (stageId, version))
    (recorded : Call.accepted (.query statement) reply = true)
    (step : mayFail thread world (.query statement) reply after) :
    ∃ row, world.stages.find? stageId = some row ∧ row.version = version := by
  rcases step with answered | ⟨error, failed, -⟩
  · have executed := (Prod.mk.inj answered).1
    cases statement with
    | approveStage id expected decidedBy note =>
        obtain ⟨rfl, rfl⟩ := Prod.mk.inj (Option.some.inj target)
        cases reply with
        | error error => cases recorded
        | ok written =>
            obtain ⟨row, found, current, -⟩ := World.updateStage_ok_iff.mp (Prod.ext executed rfl)
            exact ⟨row, found, current⟩
    | rejectStage id expected decidedBy note =>
        obtain ⟨rfl, rfl⟩ := Prod.mk.inj (Option.some.inj target)
        cases reply with
        | error error => cases recorded
        | ok written =>
            simp only [World.execute] at executed
            split at executed
            · cases executed
            · obtain ⟨row, found, current, -⟩ := World.updateStage_ok_iff.mp (Prod.ext executed rfl)
              exact ⟨row, found, current⟩
    | _ => cases target
  · cases failed
    cases recorded

/-- A thread has fetched no stage below the version that its caller supplied. -/
def Reached (operation : Operation) (phase : Phase) : Prop :=
  ∀ stage identity expected, phase.origin = some stage →
    operation.decision = some (identity, stage.id, some expected) → expected ≤ stage.version

theorem reached_start (operation : Operation) : Reached operation operation.start := by
  unfold Reached Operation.start
  cases operation.decision <;> exact fun _ _ _ none => nomatch none

theorem reached_after {operations : ℕ → Operation} {phase : Phase} {thread : ℕ} {world after : World}
    {request : Call} {reply : request.Reply} (reached : Reached (operations thread) phase)
    (step : fetchesReached operations thread world request reply after) :
    Reached (operations thread) (phase.after request reply) := by
  obtain ⟨taken, condition⟩ := step
  intro stage identity expected origin described
  rcases phase.origin_after request reply origin with before | ⟨id, rfl, brought⟩
  · exact reached stage identity expected before described
  · have fetched : reply = .ok stage := by
      cases reply with
      | error error => cases brought
      | ok row => exact congrArg Except.ok (Option.some.inj brought)
    subst fetched
    obtain ⟨found, -⟩ := World.stage_of_mayFail taken
    obtain ⟨-, keyed⟩ := (find?_eq_some_iff ..).mp found
    have sameId : stage.id = id := keyed
    exact condition identity id expected stage (sameId ▸ described) rfl found

/-- Whenever a decision commits, its caller had the right to decide the row that it overwrote, provided that no
decision fetched its stage at a version below the one its caller supplied. -/
theorem decision_on_authorized_version {operations : ℕ → Operation} {start : World}
    {events : List (Event hubSignature ℕ)} {before after : Pool hubSignature AppError World ℕ}
    {event : Event hubSignature ℕ} {stageId : UUID} {version : Nat}
    (run : Pool.Run (fetchesReached operations) (launch operations start) events before)
    (step : Pool.Step (fetchesReached operations) before event after) (commits : Commits event stageId version) :
    ∃ identity expected row, (operations event.thread).decision = some (identity, stageId, expected) ∧
      before.shared.stages.find? stageId = some row ∧ row.version = version ∧ identity.mayDecide row = true := by
  obtain ⟨phases, reached, tracked⟩ := (tracked_launch operations start).run run (fun _ _ _ _ _ step => step.1)
    (fun _ phases _ => ∀ thread, Reached (operations thread) (phases thread))
    (by
      intro events phases world thread request reply after reached _ _ step other
      by_cases same : other = thread
      · subst same
        rw [Function.update_self]
        exact reached_after (reached other) step
      · rw [Function.update_of_ne same]
        exact reached other)
    (fun thread => reached_start (operations thread))
  cases step with
  | @call thread request next reply after calling answered =>
      have ensured := tracked.follows thread
      rw [calling] at ensured
      obtain ⟨⟨statement, rfl, target⟩, recorded⟩ := commits
      obtain ⟨row, found, current⟩ := found_of_decision target recorded answered.1
      obtain ⟨stage, alarm, identity, expected, isFetched, described, sameId, permitted, named⟩ :=
        Phase.permits_decision ensured.1 target
      have origin : (phases thread).origin = some stage := by rw [isFetched]; rfl
      obtain ⟨member, keyed⟩ := (find?_eq_some_iff ..).mp found
      have seen := ((tracked.remembered.known thread).stages stage (Phase.origin_mem origin)).seen
      obtain ⟨older, unchanged⟩ := seen.later row member (keyed.trans sameId.symm)
      have notNewer : row.version ≤ stage.version := by
        rw [current, named]
        cases expected with
        | none => exact Nat.le_refl _
        | some supplied => exact reached thread stage identity supplied origin (sameId ▸ described)
      have same : stage = row := unchanged (Nat.le_antisymm older notNewer)
      exact ⟨identity, expected, row, described, found, current, same ▸ permitted⟩

/-- The calls that `fetchesReached` does not exclude. -/
def reachesVersion (operations : ℕ → Operation) (thread : ℕ) (world : World) (request : Call) : Bool :=
  match (operations thread).decision, request with
  | some (_, stageId, some expected), .query (.getStage id) =>
      id != stageId || (world.stages.find? stageId).all fun stage => expected ≤ stage.version
  | _, _ => true

theorem fetchesReached_of_reachesVersion {operations : ℕ → Operation} {thread : ℕ} {world : World} {request : Call}
    (reaches : reachesVersion operations thread world request = true) :
    fetchesReached operations thread world request (environment request world).1 (environment request world).2 := by
  refine ⟨mayFail_environment thread world request, ?_⟩
  intro identity stageId expected stage described fetches found
  subst fetches
  unfold reachesVersion at reaches
  rw [described] at reaches
  simpa [found] using reaches

/-- The decision that a thread makes with its next call, if the database accepts it. -/
def nextCommit (pool : Pool hubSignature AppError World ℕ) (thread : ℕ) : Option (UUID × Nat) :=
  match pool.threads thread with
  | .call (.query statement) _ =>
      if Call.accepted (.query statement) (environment (.query statement) pool.shared).1 then decisionTarget statement
      else none
  | _ => none

theorem commits_of_nextCommit {effect : Effect hubSignature World ℕ} {pool : Pool hubSignature AppError World ℕ}
    {thread : ℕ} {stageId : UUID} {version : Nat} (commit : nextCommit pool thread = some (stageId, version))
    (offered : ∀ statement, decisionTarget statement = some (stageId, version) →
      effect thread pool.shared (.query statement) (environment (.query statement) pool.shared).1
        (environment (.query statement) pool.shared).2) :
    ∃ event, event.thread = thread ∧ Pool.Step effect pool event (pool.perform environment thread) ∧
      Commits event stageId version := by
  unfold nextCommit at commit
  split at commit
  · rename_i statement next calling
    split at commit
    · rename_i recorded
      exact ⟨_, rfl, Pool.perform_step environment pool calling (offered _ commit), ⟨statement, rfl, commit⟩, recorded⟩
    · cases commit
  · cases commit

/-- Thread 1 approves stage 1 at the version that its caller has seen. -/
def plainApproval : ℕ → Operation :=
  operationsOf [.createRequest sampleEmployee (sampleRequest "expense"), .approve sampleApprover 1 (some 1) none]

/-- The request is created, and the approval fetches its stage. -/
def plainSchedule : List ℕ := List.replicate 6 0 ++ [1]

theorem decision_on_authorized_version_sample :
    ∃ identity expected row, (plainApproval 1).decision = some (identity, 1, expected) ∧
      ((launch plainApproval sampleHub).play environment plainSchedule).shared.stages.find? 1 = some row ∧
      row.version = 1 ∧ identity.mayDecide row = true := by
  have passed : (launch plainApproval sampleHub).checked environment (reachesVersion plainApproval) plainSchedule = true := by
    decide +kernel
  have run := Pool.play_runs_of_checked (fun _ _ _ => fetchesReached_of_reachesVersion) _ _ passed
  have commit : nextCommit ((launch plainApproval sampleHub).play environment plainSchedule) 1 = some (1, 1) := by
    decide +kernel
  have offered : ∀ statement, decisionTarget statement = some (1, 1) → ∀ world,
      reachesVersion plainApproval 1 world (.query statement) = true := by
    intro statement target world
    cases statement <;> first | rfl | cases target
  obtain ⟨event, thread, step, commits⟩ := commits_of_nextCommit commit fun statement target =>
    fetchesReached_of_reachesVersion (offered statement target _)
  obtain ⟨identity, expected, row, described, rest⟩ := decision_on_authorized_version run step commits
  exact ⟨identity, expected, row, thread ▸ described, rest⟩

/-- Thread 1 approves stage 1 for the finance approver, who supplies version 2; thread 2 escalates the stage. -/
def overtakenApproval : ℕ → Operation :=
  operationsOf [.createRequest sampleEmployee (sampleRequest "expense"), .approve sampleApprover 1 (some 2) none,
    .escalateStage 1]

/-- The request is created, the approval fetches its stage, and the escalation runs to its end. -/
def overtakenSchedule : List ℕ := List.replicate 6 0 ++ [1] ++ List.replicate 3 2

theorem decision_on_replaced_assignment :
    ∃ events event after,
      Pool.Run mayFail (launch overtakenApproval sampleHub) events
        ((launch overtakenApproval sampleHub).play environment overtakenSchedule) ∧
      Pool.Step mayFail ((launch overtakenApproval sampleHub).play environment overtakenSchedule) event after ∧
      Commits event 1 2 ∧ (overtakenApproval event.thread).decision = some (sampleApprover, 1, some 2) ∧
      (((launch overtakenApproval sampleHub).play environment overtakenSchedule).shared.stages.find? 1).any
        (fun row => row.version == 2 && !sampleApprover.mayDecide row) = true := by
  have run := play_runs_mayFail (launch overtakenApproval sampleHub) overtakenSchedule
  have commit : nextCommit ((launch overtakenApproval sampleHub).play environment overtakenSchedule) 1 = some (1, 2) := by
    decide +kernel
  obtain ⟨event, thread, step, commits⟩ := commits_of_nextCommit commit fun statement _ => mayFail_environment 1 _ _
  exact ⟨_, event, _, run, step, commits, by rw [thread]; rfl, by decide +kernel⟩

end AutomationHub.System
