import AutomationHub.Services.ServiceRuns
import AutomationHub.System.SerialRuns

/-!
A decision sent again by its author: what the replay returns, however far the workflow has gone on since.
-/

set_option autoImplicit false

namespace AutomationHub.System

open Foundation Model Database Services Auth Workflow Program Table

variable {world before later : World} {identity : AuthenticatedIdentity} {decision : Decision} {stageId : UUID}
  {row : WorkflowStageRecord} {request : RequestRecord}

/-- The caller's decision is on the stage, so that the same decision is a replay. -/
structure DecidedBy (identity : AuthenticatedIdentity) (decision : Decision) (row : WorkflowStageRecord) : Prop where
  status : row.status = decision.stageStatus
  author : row.decidedBy = some identity.userId
  company : row.companyId = identity.companyId

theorem run_replay (found : world.stages.find? stageId = some row) (decided : DecidedBy identity decision row)
    (owner : world.requests.find? row.requestId = some request) (expectedVersion : Option Nat) (note : Option String) :
    (decideStage identity stageId decision expectedVersion note).run environment world =
      (.ok { stage := row, requestStatus := request.status, currentStageId := request.currentStageId },
        world.tick.tick) := by
  have fetched : (getByIdForCompany stageId identity.companyId).run environment world = (.ok row, world.tick) := by
    unfold getByIdForCompany
    rw [run_bind, run_orNotFound]
    simp [World.execute, World.getStage, getById, found, Except.mapError, decided.company]
  have reported : (orNotFound (.getRequest row.requestId) : Service RequestRecord).run environment world.tick =
      (.ok request, world.tick.tick) := by
    rw [run_orNotFound]
    simp [World.execute, World.getRequest, getById, owner, Except.mapError]
  unfold decideStage
  rw [run_bind, fetched]
  simp only [continueRun_ok]
  rw [if_pos ⟨decided.status, decided.author⟩]
  unfold replayIdempotentDecision
  rw [run_bind, reported]
  rfl

/-- The stage of the request that was pending, if there was one, is pending still. -/
def noneDecidedSince (earlier later : World) (requestId : UUID) : Prop :=
  ∀ stage ∈ earlier.stages.rows, stage.requestId = requestId → stage.status = .pending →
    ∃ still ∈ later.stages.rows, still.id = stage.id ∧ still.status = .pending

theorem noneDecidedSince_iff {earlier : World} {requestId : UUID} :
    noneDecidedSince earlier later requestId ↔ (workflowOf earlier).Undecided (workflowOf later) requestId := by
  constructor
  · intro none id stage found owned pending
    obtain ⟨row, located, rfl⟩ := Option.map_eq_some_iff.mp found
    obtain ⟨stored, rfl⟩ := (find?_eq_some_iff ..).mp located
    obtain ⟨still, kept, same, waits⟩ := none row stored owned pending
    refine ⟨stageState still, ?_, waits⟩
    have located : later.stages.find? row.id = some still := same ▸ find?_of_mem _ kept
    exact (congrArg (Option.map stageState) located).trans rfl
  · intro undecided row stored owned pending
    have located : earlier.stages.find? row.id = some row := find?_of_mem _ stored
    obtain ⟨state, found, waits⟩ := undecided row.id (stageState row) (by simp [workflowOf, located]) owned pending
    obtain ⟨still, kept, rfl⟩ := Option.map_eq_some_iff.mp found
    obtain ⟨member, same⟩ := (find?_eq_some_iff ..).mp kept
    exact ⟨still, member, same, waits⟩

/-- What stays of a decision once it has returned. -/
structure Lasting (stageId requestId : UUID) (stage : StageState) (status : RequestStatus) (currentStageId : Option UUID)
    (state : WorkflowState) : Prop where
  decided : state.stages stageId = some stage
  follows : state.Follows requestId status currentStageId

theorem Lasting.steps {requestId : UUID} {stage : StageState} {status : RequestStatus} {currentStageId : Option UUID}
    {state after : WorkflowState} (closed : stage.status ≠ .pending)
    (lasting : Lasting stageId requestId stage status currentStageId state) (sequential : state.Sequential)
    (steps : Steps state after) : Lasting stageId requestId stage status currentStageId after where
  decided := WorkflowState.decided_steps lasting.decided closed steps
  follows := lasting.follows.steps sequential steps

/-- After a decision that was taken, in any run of whole operations, the same decision by the same caller changes
nothing; it returns the request status and current stage that the decision returned exactly as long as no further stage
of the request has been decided. -/
theorem replay_returns_outcome {keeps : World → Operation → Prop} {start : World} (initial : Initial start)
    (earlier : SerialRun keeps start before) (found : before.stages.find? stageId = some row)
    (pending : row.status = .pending) (expectedVersion : Option Nat) (note : Option String) {outcome : ApprovalOutcome}
    (returned : ((decideStage identity stageId decision expectedVersion note).run environment before).1 = .ok outcome)
    (since : SerialRun keeps ((decideStage identity stageId decision expectedVersion note).run environment before).2 later)
    (laterVersion : Option Nat) (laterNote : Option String) :
    ∃ replayed, (decideStage identity stageId decision laterVersion laterNote).run environment later =
        (.ok replayed, later.tick.tick) ∧
      (replayed.stage.id = outcome.stage.id ∧ replayed.stage.status = outcome.stage.status ∧
        replayed.stage.decidedBy = outcome.stage.decidedBy) ∧
      ((replayed.requestStatus = outcome.requestStatus ∧ replayed.currentStageId = outcome.currentStageId) ↔
        noneDecidedSince ((decideStage identity stageId decision expectedVersion note).run environment before).2 later
          row.requestId) := by
  have sequential := earlier.sequential initial
  have decides : (decideStage identity stageId decision expectedVersion note).Ensures (serial True) _ before :=
    ensures_decideStage_reported sequential stageId expectedVersion note
  obtain ⟨⟨moves, -⟩, reported⟩ := ensured_of_run decides
  obtain ⟨company, identified, columns, arrived⟩ := reported outcome row returned found pending
  obtain rfl : row.id = stageId := ((find?_eq_some_iff ..).mp found).2
  generalize ((decideStage identity row.id decision expectedVersion note).run environment before).2 = after at *
  have closed : (stageState outcome.stage).status ≠ .pending := by
    rw [columns]
    cases decision <;> simp [Decision.stageStatus]
  have sequential := sequential.moves moves
  obtain ⟨-, lasting⟩ := since.preserves (fun sequential lasting steps => Lasting.steps closed lasting sequential steps)
    sequential ⟨arrived.stage, .inl arrived.standing⟩
  obtain ⟨last, stored, same⟩ := Option.map_eq_some_iff.mp lasting.decided
  obtain ⟨state, known⟩ := lasting.follows.found
  obtain ⟨owner, owned, rfl⟩ := Option.map_eq_some_iff.mp known
  have columns := same.trans columns
  have decided : DecidedBy identity decision last :=
    ⟨congrArg StageState.status columns, congrArg StageState.decidedBy columns,
      (congrArg StageState.companyId columns).trans company⟩
  have owns : last.requestId = row.requestId := congrArg StageState.requestId columns
  have replay := run_replay stored decided (by rw [owns, owned]) laterVersion laterNote
  refine ⟨_, replay, ⟨?_, congrArg StageState.status same, congrArg StageState.decidedBy same⟩, ?_⟩
  · rw [identified]
    exact ((find?_eq_some_iff ..).mp stored).2
  · rw [noneDecidedSince_iff]
    exact WorkflowState.reported_iff arrived.standing sequential lasting.follows known

section Sample

def expenseCreation : Operation := .createRequest sampleEmployee (sampleRequest "expense")

/-- The sample hub once an expense request waits for the first of its two stages. -/
def hubSubmitted : World := (expenseCreation.program.run environment sampleHub).2

/-- The same hub once the first stage is approved. -/
def hubAdvanced : World := ((decideStage sampleApprover 1 .approve none none).run environment hubSubmitted).2

def secondApproval : Operation := .approve sampleApprover 2 none none

/-- The same hub once both stages are approved. -/
def hubFinished : World := (secondApproval.program.run environment hubAdvanced).2

/-- What an outcome says about the request. -/
def reportOf (result : Except AppError ApprovalOutcome) : Option (RequestStatus × Option UUID) :=
  result.toOption.map fun outcome => (outcome.requestStatus, outcome.currentStageId)

theorem replay_returns_outcome_advanced :
    reportOf ((decideStage sampleApprover 1 .approve none none).run environment hubAdvanced).1 =
      some (.inReview, some 2) ∧ ∃ (row : WorkflowStageRecord) (outcome : ApprovalOutcome),
    ((decideStage sampleApprover 1 .approve none none).run environment hubSubmitted).1 = .ok outcome ∧
    ∃ replayed, (decideStage sampleApprover 1 .approve none none).run environment hubAdvanced =
        (.ok replayed, hubAdvanced.tick.tick) ∧
      ((replayed.requestStatus = outcome.requestStatus ∧ replayed.currentStageId = outcome.currentStageId) ↔
        noneDecidedSince hubAdvanced hubAdvanced row.requestId) := by
  have located : (hubSubmitted.stages.find? 1).isSome := by decide +kernel
  obtain ⟨row, found⟩ := Option.isSome_iff_exists.mp located
  have pending : (hubSubmitted.stages.find? 1).all (fun stage => stage.status = .pending) = true := by decide +kernel
  rw [found] at pending
  have decided : ((decideStage sampleApprover 1 .approve none none).run environment hubSubmitted).1.isOk := by
    decide +kernel
  cases returned : ((decideStage sampleApprover 1 .approve none none).run environment hubSubmitted).1 with
  | error error =>
      rw [returned] at decided
      cases decided
  | ok outcome =>
      have earlier : SerialRun (fun _ _ => True) sampleHub hubSubmitted := .operation .start expenseCreation trivial
      obtain ⟨replayed, replay, -, same⟩ := replay_returns_outcome sampleHub_initial earlier found
        (of_decide_eq_true pending) none none returned .start none none
      exact ⟨by decide +kernel, row, outcome, rfl, replayed, replay, same⟩

/-- Once the second stage is approved, a replay of the first approval reports the end of the request. -/
theorem replay_differs_finished : Initial sampleHub ∧ SerialRun (fun _ _ => True) sampleHub hubSubmitted ∧
    SerialRun (fun _ _ => True) hubAdvanced hubFinished ∧
    reportOf ((decideStage sampleApprover 1 .approve none none).run environment hubSubmitted).1 =
      some (.inReview, some 2) ∧
    reportOf ((decideStage sampleApprover 1 .approve none none).run environment hubFinished).1 =
      some (.completed, none) :=
  ⟨sampleHub_initial, .operation .start expenseCreation trivial, .operation .start secondApproval trivial,
    by decide +kernel, by decide +kernel⟩

end Sample

end AutomationHub.System
