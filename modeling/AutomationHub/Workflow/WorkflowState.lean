import AutomationHub.Model.Records
import AutomationHub.Workflow.StateMachine
import Mathlib.Logic.Function.Basic

/-!
The workflow that the operations carry out, without the columns that play no part in
it: a request goes through the stages of its definition, one at a time.
-/

set_option autoImplicit false

namespace AutomationHub.Workflow

open Model Function

structure RequestState where
  companyId : UUID
  definitionId : UUID
  status : RequestStatus
  currentStageId : Option UUID
  completed : Bool
  withdrawn : Bool

structure StageState where
  requestId : UUID
  companyId : UUID
  order : Nat
  name : String
  status : StageStatus
  decidedBy : Option UUID

structure WorkflowState where
  requests : UUID → Option RequestState
  stages : UUID → Option StageState

/-- The request waits for a decision. -/
def RequestState.Active (request : RequestState) : Prop :=
  request.withdrawn = false ∧ isTerminalRequestStatus request.status = false

namespace WorkflowState

def setRequest (state : WorkflowState) (requestId : UUID) (request : RequestState) : WorkflowState :=
  { state with requests := update state.requests requestId (some request) }

def setStage (state : WorkflowState) (stageId : UUID) (stage : StageState) : WorkflowState :=
  { state with stages := update state.stages stageId (some stage) }

variable (state : WorkflowState) (id other : UUID) (request : RequestState) (stage : StageState)

@[simp] theorem setRequest_requests :
    (state.setRequest id request).requests other = if other = id then some request else state.requests other :=
  update_apply ..

@[simp] theorem setRequest_stages : (state.setRequest id request).stages = state.stages := rfl

@[simp] theorem setStage_requests : (state.setStage id stage).requests = state.requests := rfl

@[simp] theorem setStage_stages :
    (state.setStage id stage).stages other = if other = id then some stage else state.stages other :=
  update_apply ..

@[simp] theorem setRequest_setRequest (later : RequestState) :
    (state.setRequest id request).setRequest id later = state.setRequest id later := by
  simp [setRequest]

@[simp] theorem setStage_setStage (later : StageState) :
    (state.setStage id stage).setStage id later = state.setStage id later := by
  simp [setStage]

theorem setRequest_setStage_comm :
    (state.setStage other stage).setRequest id request = (state.setRequest id request).setStage other stage := rfl

variable {state id other request stage}

theorem setStage_of_found (found : state.stages id = some stage) : state.setStage id stage = state := by
  rw [setStage, ← found, update_eq_self]

end WorkflowState

/-- What one operation other than a withdrawal, run alone, does to the workflow. -/
inductive Moves (definitions : UUID → Option WorkflowDefinition) (refusable : Prop) (before : WorkflowState) :
    WorkflowState → Prop where
  | stays : Moves definitions refusable before before
  | creates {requestId stageId companyId definitionId : UUID} {definition : WorkflowDefinition} {entry : StageDefinition}
      (newRequest : before.requests requestId = none) (newStage : before.stages stageId = none)
      (pinned : definitions definitionId = some definition) (company : definition.companyId = companyId)
      (listed : entry ∈ definition.definition.orderedStages) (first : entry.order = 1) :
      Moves definitions refusable before
        ((before.setRequest requestId ⟨companyId, definitionId, .pending, some stageId, false, false⟩).setStage stageId
          ⟨requestId, companyId, 1, entry.name, .pending, none⟩)
  | abandons {requestId companyId definitionId : UUID} {definition : WorkflowDefinition} (refused : refusable)
      (newRequest : before.requests requestId = none)
      (pinned : definitions definitionId = some definition) (company : definition.companyId = companyId) :
      Moves definitions refusable before
        (before.setRequest requestId ⟨companyId, definitionId, .pending, none, false, true⟩)
  | advances {stageId nextId decider : UUID} {stage : StageState} {request : RequestState} {definition : WorkflowDefinition}
      {entry : StageDefinition} (found : before.stages stageId = some stage) (pending : stage.status = .pending)
      (owned : before.requests stage.requestId = some request) (newStage : before.stages nextId = none)
      (pinned : definitions request.definitionId = some definition)
      (listed : entry ∈ definition.definition.orderedStages) (next : entry.order = stage.order + 1) :
      Moves definitions refusable before
        (((before.setStage stageId { stage with status := .approved, decidedBy := some decider }).setStage nextId
          ⟨stage.requestId, request.companyId, stage.order + 1, entry.name, .pending, none⟩).setRequest stage.requestId
          { request with status := .inReview, currentStageId := some nextId, completed := false })
  | completes {stageId decider : UUID} {stage : StageState} {request : RequestState} {definition : WorkflowDefinition}
      (found : before.stages stageId = some stage) (pending : stage.status = .pending)
      (owned : before.requests stage.requestId = some request)
      (pinned : definitions request.definitionId = some definition) (last : definition.definition.length ≤ stage.order) :
      Moves definitions refusable before
        ((before.setStage stageId { stage with status := .approved, decidedBy := some decider }).setRequest stage.requestId
          { request with status := .completed, currentStageId := none, completed := true })
  | rejects {stageId decider : UUID} {stage : StageState} {request : RequestState}
      (found : before.stages stageId = some stage) (pending : stage.status = .pending)
      (owned : before.requests stage.requestId = some request) :
      Moves definitions refusable before
        ((before.setStage stageId { stage with status := .rejected, decidedBy := some decider }).setRequest stage.requestId
          { request with status := .rejected, currentStageId := none, completed := true })

/-- Each pending stage has a request to itself, which it is in the given relation to. -/
structure WorkflowState.Paired (fits : StageState → RequestState → Prop) (state : WorkflowState) : Prop where
  owned : ∀ {stageId stage}, state.stages stageId = some stage → stage.status = .pending →
    ∃ request, state.requests stage.requestId = some request ∧ fits stage request
  unique : ∀ {left right first second}, state.stages left = some first → state.stages right = some second →
    first.status = .pending → second.status = .pending → first.requestId = second.requestId → left = right

namespace WorkflowState.Paired

variable {fits : StageState → RequestState → Prop} {state : WorkflowState}

theorem no_pending_of_missing (paired : state.Paired fits) {requestId : UUID} (missing : state.requests requestId = none)
    {stageId : UUID} {stage : StageState} (found : state.stages stageId = some stage)
    (pending : stage.status = .pending) : stage.requestId ≠ requestId := by
  intro same
  obtain ⟨request, owner, -⟩ := paired.owned found pending
  rw [same, missing] at owner
  cases owner

theorem no_pending_of_decided (paired : state.Paired fits) {stageId : UUID} {stage decided : StageState}
    (found : state.stages stageId = some stage) (pending : stage.status = .pending) (closed : decided.status ≠ .pending)
    {otherId : UUID} {other : StageState} (located : (state.setStage stageId decided).stages otherId = some other)
    (waits : other.status = .pending) : other.requestId ≠ stage.requestId := by
  intro same
  rw [setStage_stages] at located
  split at located
  · cases located
    exact closed waits
  · rename_i apart
    exact apart (paired.unique located found waits pending same)

theorem setRequest (paired : state.Paired fits) {requestId : UUID} {request : RequestState}
    (fitting : ∀ {stageId stage}, state.stages stageId = some stage → stage.status = .pending →
      stage.requestId = requestId → fits stage request) : (state.setRequest requestId request).Paired fits where
  owned := by
    intro stageId stage located pending
    by_cases same : stage.requestId = requestId
    · exact ⟨request, by simp [same], fitting located pending same⟩
    · obtain ⟨owner, owns, fit⟩ := paired.owned located pending
      exact ⟨owner, by simpa [same] using owns, fit⟩
  unique := paired.unique

theorem close (paired : state.Paired fits) {stageId : UUID} {decided : StageState} (closed : decided.status ≠ .pending) :
    (state.setStage stageId decided).Paired fits where
  owned := by
    intro otherId other located waits
    rw [setStage_stages] at located
    split at located
    · cases located
      exact absurd waits closed
    · exact paired.owned located waits
  unique := by
    intro left right first second located also waits awaits same
    rw [setStage_stages] at located also
    split at located
    · cases located
      exact absurd waits closed
    · split at also
      · cases also
        exact absurd awaits closed
      · exact paired.unique located also waits awaits same

theorem begin (paired : state.Paired fits) {stageId : UUID} {stage : StageState} {request : RequestState}
    (owner : state.requests stage.requestId = some request) (fit : fits stage request)
    (alone : ∀ {otherId other}, state.stages otherId = some other → other.status = .pending →
      other.requestId ≠ stage.requestId) : (state.setStage stageId stage).Paired fits where
  owned := by
    intro otherId other located waits
    rw [setStage_stages] at located
    split at located
    · cases located
      exact ⟨request, owner, fit⟩
    · exact paired.owned located waits
  unique := by
    intro left right first second located also waits awaits same
    rw [setStage_stages] at located also
    split at located <;> split at also
    · simp [*]
    · cases located
      exact absurd same.symm (alone also awaits)
    · cases also
      exact absurd same (alone located waits)
    · exact paired.unique located also waits awaits same

theorem create (paired : state.Paired fits) {requestId stageId : UUID} {request : RequestState} {stage : StageState}
    (missing : state.requests requestId = none) (owns : stage.requestId = requestId) (fit : fits stage request) :
    ((state.setRequest requestId request).setStage stageId stage).Paired fits := by
  have none := fun {otherId other} (found : state.stages otherId = some other) (waits : other.status = .pending) =>
    paired.no_pending_of_missing missing found waits
  refine (paired.setRequest fun found waits same => absurd same (none found waits)).begin (by simp [owns]) fit ?_
  intro otherId other found waits
  rw [owns]
  exact none found waits

theorem finish (paired : state.Paired fits) {stageId : UUID} {stage decided : StageState} {request : RequestState}
    (found : state.stages stageId = some stage) (pending : stage.status = .pending)
    (closed : decided.status ≠ .pending) :
    ((state.setStage stageId decided).setRequest stage.requestId request).Paired fits := by
  apply (paired.close closed).setRequest
  intro otherId other located waits same
  exact absurd same (paired.no_pending_of_decided found pending closed located waits)

theorem advance (paired : state.Paired fits) {stageId nextId : UUID} {stage decided next : StageState}
    {request : RequestState} (found : state.stages stageId = some stage) (pending : stage.status = .pending)
    (closed : decided.status ≠ .pending) (owns : next.requestId = stage.requestId) (fit : fits next request) :
    (((state.setStage stageId decided).setStage nextId next).setRequest stage.requestId request).Paired fits := by
  rw [setRequest_setStage_comm]
  refine (paired.finish found pending closed).begin (by simp [owns]) fit ?_
  intro otherId other located waits
  rw [owns]
  exact paired.no_pending_of_decided found pending closed located waits

end WorkflowState.Paired

/-- A pending stage is undecided, and its request not at its end. -/
abbrev WorkflowState.Sequential : WorkflowState → Prop :=
  WorkflowState.Paired fun stage request => stage.decidedBy = none ∧ isTerminalRequestStatus request.status = false

/-- Each active request has one pending stage, and no other request has any. -/
structure WorkflowState.InStep (state : WorkflowState) : Prop extends
    state.Paired fun stage request => request.Active ∧ request.companyId = stage.companyId where
  served : ∀ {requestId request}, state.requests requestId = some request → request.Active →
    ∃ stageId stage, state.stages stageId = some stage ∧ stage.status = .pending ∧ stage.requestId = requestId

theorem WorkflowState.Sequential.moves {state after : WorkflowState} (sequential : state.Sequential)
    {definitions : UUID → Option WorkflowDefinition} {refusable : Prop}
    (moves : Moves definitions refusable state after) : after.Sequential := by
  cases moves with
  | stays => exact sequential
  | creates newRequest => exact sequential.create newRequest rfl ⟨rfl, rfl⟩
  | abandons refused newRequest =>
      exact sequential.setRequest fun found waits same => absurd same (sequential.no_pending_of_missing newRequest found waits)
  | advances found pending owned => exact sequential.advance found pending (by simp) rfl ⟨rfl, rfl⟩
  | completes found pending => exact sequential.finish found pending (by simp)
  | rejects found pending => exact sequential.finish found pending (by simp)

theorem WorkflowState.Sequential.withdraw {state : WorkflowState} (sequential : state.Sequential) {requestId : UUID}
    {request : RequestState} (found : state.requests requestId = some request) :
    (state.setRequest requestId { request with withdrawn := true }).Sequential := by
  apply sequential.setRequest
  intro stageId stage located pending same
  obtain ⟨owner, owns, undecided, running⟩ := sequential.owned located pending
  rw [same, found] at owns
  cases owns
  exact ⟨undecided, running⟩

/-- What one operation, run alone, does to the workflow. -/
inductive Steps (before : WorkflowState) : WorkflowState → Prop where
  | moves {definitions : UUID → Option WorkflowDefinition} {after : WorkflowState}
      (moves : Moves definitions True before after) : Steps before after
  | withdraws {requestId : UUID} {request : RequestState} (found : before.requests requestId = some request) :
      Steps before (before.setRequest requestId { request with withdrawn := true })

theorem WorkflowState.Sequential.steps {state after : WorkflowState} (sequential : state.Sequential)
    (steps : Steps state after) : after.Sequential := by
  cases steps with
  | moves moves => exact sequential.moves moves
  | withdraws found => exact sequential.withdraw found

namespace WorkflowState.InStep

variable {state : WorkflowState}

theorem withdraw (inStep : state.InStep) {requestId : UUID} {request : RequestState}
    (found : state.requests requestId = some request) (idle : ¬request.Active) :
    (state.setRequest requestId { request with withdrawn := true }).InStep where
  toPaired := by
    apply inStep.setRequest
    intro stageId stage located pending same
    obtain ⟨owner, owns, active, -⟩ := inStep.owned located pending
    rw [same, found] at owns
    cases owns
    exact absurd active idle
  served := by
    intro otherId owner owns active
    rw [setRequest_requests] at owns
    split at owns
    · cases owns
      cases active.1
    · exact inStep.served owns active

theorem abandon (inStep : state.InStep) {requestId : UUID} {request : RequestState}
    (missing : state.requests requestId = none) (idle : ¬request.Active) :
    (state.setRequest requestId request).InStep where
  toPaired := inStep.setRequest fun found waits same => absurd same (inStep.no_pending_of_missing missing found waits)
  served := by
    intro otherId owner owns active
    rw [setRequest_requests] at owns
    split at owns
    · cases owns
      exact absurd active idle
    · exact inStep.served owns active

theorem create (inStep : state.InStep) {requestId stageId : UUID} {request : RequestState} {stage : StageState}
    (missing : state.requests requestId = none) (absent : state.stages stageId = none) (active : request.Active)
    (pending : stage.status = .pending) (owns : stage.requestId = requestId) (company : request.companyId = stage.companyId) :
    ((state.setRequest requestId request).setStage stageId stage).InStep where
  toPaired := inStep.toPaired.create missing owns ⟨active, company⟩
  served := by
    intro otherId owner owned busy
    simp only [setStage_requests, setRequest_requests] at owned
    split at owned
    · cases owned
      exact ⟨stageId, stage, by simp, pending, by simp [*]⟩
    · obtain ⟨served, waiting, located, waits, mine⟩ := inStep.served owned busy
      have apart : served ≠ stageId := by
        intro same
        rw [same, absent] at located
        cases located
      exact ⟨served, waiting, by simpa [apart] using located, waits, mine⟩

theorem finish (inStep : state.InStep) {stageId : UUID} {stage decided : StageState} {request : RequestState}
    (found : state.stages stageId = some stage) (pending : stage.status = .pending)
    (closed : decided.status ≠ .pending) (ended : ¬request.Active) :
    ((state.setStage stageId decided).setRequest stage.requestId request).InStep where
  toPaired := inStep.toPaired.finish found pending closed
  served := by
    intro otherId owner owns busy
    rw [setRequest_requests] at owns
    split at owns
    · cases owns
      exact absurd busy ended
    · rename_i apart
      obtain ⟨served, waiting, located, waits, mine⟩ := inStep.served owns busy
      have other : served ≠ stageId := by
        intro same
        rw [same, found] at located
        cases located
        exact apart mine.symm
      exact ⟨served, waiting, by simpa [other] using located, waits, mine⟩

theorem advance (inStep : state.InStep) {stageId nextId : UUID} {stage decided next : StageState}
    {request : RequestState} (found : state.stages stageId = some stage) (pending : stage.status = .pending)
    (closed : decided.status ≠ .pending) (absent : state.stages nextId = none) (active : request.Active)
    (opened : next.status = .pending) (owns : next.requestId = stage.requestId)
    (company : request.companyId = next.companyId) :
    (((state.setStage stageId decided).setStage nextId next).setRequest stage.requestId request).InStep where
  toPaired := inStep.toPaired.advance found pending closed owns ⟨active, company⟩
  served := by
    intro otherId owner owned busy
    rw [setRequest_requests] at owned
    split at owned
    · exact ⟨nextId, next, by simp, opened, by simp [*]⟩
    · rename_i apart
      obtain ⟨served, waiting, located, waits, mine⟩ := inStep.served owned busy
      have older : served ≠ nextId := by
        intro same
        rw [same, absent] at located
        cases located
      have other : served ≠ stageId := by
        intro same
        rw [same, found] at located
        cases located
        exact apart mine.symm
      exact ⟨served, waiting, by simpa [older, other] using located, waits, mine⟩

theorem moves (inStep : state.InStep) {definitions : UUID → Option WorkflowDefinition} {refusable : Prop}
    {after : WorkflowState} (moves : Moves definitions refusable state after) : after.InStep := by
  cases moves with
  | stays => exact inStep
  | creates newRequest newStage => exact inStep.create newRequest newStage ⟨rfl, rfl⟩ rfl rfl rfl
  | abandons refused newRequest => exact inStep.abandon newRequest fun active => nomatch active.1
  | advances found pending owned newStage =>
      obtain ⟨request, owner, active, -⟩ := inStep.owned found pending
      cases owned.symm.trans owner
      exact inStep.advance found pending (by simp) newStage ⟨active.1, rfl⟩ rfl rfl rfl
  | completes found pending => exact inStep.finish found pending (by simp) fun active => nomatch active.2
  | rejects found pending => exact inStep.finish found pending (by simp) fun active => nomatch active.2

end WorkflowState.InStep

end AutomationHub.Workflow
