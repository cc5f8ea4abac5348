import AutomationHub.Workflow.WorkflowState

/-!
A decided stage stays as it is, and its request stays where the decision left it until the
stage that the decision opened is decided in turn.
-/

set_option autoImplicit false

namespace AutomationHub.Workflow

open Model

namespace WorkflowState

variable {state after : WorkflowState} {requestId stageId nextId : UUID} {status : RequestStatus}
  {currentStageId : Option UUID} {stage : StageState}

/-- The request has the status and current stage that a decision reports: a stage that waits for its own decision, or
none, at the end. -/
structure Standing (state : WorkflowState) (requestId : UUID) (status : RequestStatus) (currentStageId : Option UUID) :
    Prop where
  row : ∃ request, state.requests requestId = some request ∧ request.status = status ∧
    request.currentStageId = currentStageId
  opened : ∀ nextId, currentStageId = some nextId →
    ∃ next, state.stages nextId = some next ∧ next.status = .pending ∧ next.requestId = requestId
  ended : currentStageId = none → isTerminalRequestStatus status = true

/-- The request has left the stage, which is decided. -/
structure Passed (state : WorkflowState) (requestId nextId : UUID) : Prop where
  row : ∃ request, state.requests requestId = some request ∧ request.currentStageId ≠ some nextId
  decided : ∃ next, state.stages nextId = some next ∧ next.status ≠ .pending

/-- The request stands where the decision left it, or has passed the stage that the decision opened. -/
def Follows (state : WorkflowState) (requestId : UUID) (status : RequestStatus) (currentStageId : Option UUID) : Prop :=
  state.Standing requestId status currentStageId ∨
    ∃ nextId, currentStageId = some nextId ∧ state.Passed requestId nextId

theorem setStage_stages_of_ne {id other : UUID} (apart : other ≠ id) (written : StageState) :
    (state.setStage id written).stages other = state.stages other := by
  rw [setStage_stages, if_neg apart]

theorem setRequest_requests_of_ne {id other : UUID} (apart : other ≠ id) (written : RequestState) :
    (state.setRequest id written).requests other = state.requests other := by
  rw [setRequest_requests, if_neg apart]

theorem ne_of_found_of_missing {id other : UUID} (found : state.stages id = some stage)
    (missing : state.stages other = none) : id ≠ other := by
  intro same
  rw [same, missing] at found
  cases found

theorem decided_steps (found : state.stages stageId = some stage) (decided : stage.status ≠ .pending)
    (steps : Steps state after) : after.stages stageId = some stage := by
  have apart : ∀ {otherId : UUID} {other : StageState}, state.stages otherId = some other → other.status = .pending →
      stageId ≠ otherId := by
    intro otherId other located waits same
    rw [← same, found] at located
    cases located
    exact decided waits
  cases steps with
  | withdraws => exact found
  | moves moves =>
      cases moves with
      | stays => exact found
      | abandons => exact found
      | creates newRequest newStage =>
          rw [setStage_stages_of_ne (ne_of_found_of_missing found newStage)]
          exact found
      | advances located pending owned newStage =>
          rw [setRequest_stages, setStage_stages_of_ne (ne_of_found_of_missing found newStage),
            setStage_stages_of_ne (apart located pending)]
          exact found
      | completes located pending | rejects located pending =>
          rw [setRequest_stages, setStage_stages_of_ne (apart located pending)]
          exact found

/-- The step decides a pending stage of the request, and the stage that the request comes to is new. -/
structure Decides (state after : WorkflowState) (requestId stageId : UUID) : Prop where
  pending : ∃ stage, state.stages stageId = some stage ∧ stage.status = .pending ∧ stage.requestId = requestId
  decided : ∃ stage, after.stages stageId = some stage ∧ stage.status ≠ .pending
  row : ∃ request, after.requests requestId = some request ∧
    ∀ nextId, request.currentStageId = some nextId → state.stages nextId = none

/-- A step leaves a request and its stages alone, or withdraws it, or decides its pending stage. -/
theorem step_cases (steps : Steps state after) {request : RequestState} (found : state.requests requestId = some request) :
    (∃ withdrawn, after.requests requestId = some { request with withdrawn } ∧
      ∀ id stage, state.stages id = some stage → stage.requestId = requestId → after.stages id = some stage) ∨
    ∃ stageId, Decides state after requestId stageId := by
  have known : ∀ {otherId : UUID}, state.requests otherId = none → requestId ≠ otherId := by
    intro otherId missing same
    rw [same, missing] at found
    cases found
  cases steps with
  | @withdraws otherId other located =>
      refine .inl ?_
      by_cases same : requestId = otherId
      · subst same
        cases found.symm.trans located
        exact ⟨true, by simp, fun _ _ stored _ => stored⟩
      · exact ⟨request.withdrawn, (setRequest_requests_of_ne same _).trans found, fun _ _ stored _ => stored⟩
  | moves moves =>
      cases moves with
      | stays => exact .inl ⟨request.withdrawn, found, fun _ _ stored _ => stored⟩
      | abandons refused newRequest =>
          exact .inl ⟨request.withdrawn, (setRequest_requests_of_ne (known newRequest) _).trans found,
            fun _ _ stored _ => stored⟩
      | creates newRequest newStage =>
          refine .inl ⟨request.withdrawn, (setRequest_requests_of_ne (known newRequest) _).trans found, ?_⟩
          intro id stage stored _
          rw [setStage_stages_of_ne (ne_of_found_of_missing stored newStage)]
          exact stored
      | @advances decidedId nextId decider stage owner definition entry located pending owned newStage =>
          by_cases same : stage.requestId = requestId
          · refine .inr ⟨decidedId, ⟨stage, located, pending, same⟩, ⟨{ stage with
              status := .approved
              decidedBy := some decider }, ?_, by simp⟩, _, by rw [setRequest_requests, if_pos same.symm], ?_⟩
            · rw [setRequest_stages, setStage_stages_of_ne (ne_of_found_of_missing located newStage), setStage_stages,
                if_pos rfl]
            · intro id current
              cases current
              exact newStage
          · refine .inl ⟨request.withdrawn, (setRequest_requests_of_ne (Ne.symm same) _).trans found, ?_⟩
            intro id other stored owns
            have apart : id ≠ decidedId := by
              intro equal
              rw [equal, located] at stored
              cases stored
              exact same owns
            rw [setRequest_stages, setStage_stages_of_ne (ne_of_found_of_missing stored newStage),
              setStage_stages_of_ne apart]
            exact stored
      | @completes decidedId _ stage _ _ located pending owned | @rejects decidedId _ stage _ located pending owned =>
          by_cases same : stage.requestId = requestId
          · refine .inr ⟨decidedId, ⟨stage, located, pending, same⟩,
              ⟨_, by rw [setRequest_stages, setStage_stages, if_pos rfl], by simp⟩,
              _, by rw [setRequest_requests, if_pos same.symm], ?_⟩
            intro id current
            cases current
          · refine .inl ⟨request.withdrawn, (setRequest_requests_of_ne (Ne.symm same) _).trans found, ?_⟩
            intro id other stored owns
            have apart : id ≠ decidedId := by
              intro equal
              rw [equal, located] at stored
              cases stored
              exact same owns
            rw [setRequest_stages, setStage_stages_of_ne apart]
            exact stored

theorem Standing.steps (standing : state.Standing requestId status currentStageId) (sequential : state.Sequential)
    (steps : Steps state after) : after.Follows requestId status currentStageId := by
  obtain ⟨request, found, same, current⟩ := standing.row
  rcases step_cases steps found with ⟨withdrawn, kept, stages⟩ |
    ⟨decidedId, ⟨stage, located, pending, owns⟩, closed, later, written, fresh⟩
  · refine .inl ⟨⟨_, kept, same, current⟩, ?_, standing.ended⟩
    intro nextId opens
    obtain ⟨next, stored, waits, belongs⟩ := standing.opened nextId opens
    exact ⟨next, stages nextId next stored belongs, waits, belongs⟩
  · obtain ⟨owner, owned, -, running⟩ := sequential.owned located pending
    rw [owns, found] at owned
    cases owned
    cases currentStageId with
    | none =>
        have ended := standing.ended rfl
        rw [← same, running] at ended
        cases ended
    | some nextId =>
        obtain ⟨next, stored, waits, belongs⟩ := standing.opened nextId rfl
        obtain rfl := sequential.unique located stored pending waits (owns.trans belongs.symm)
        refine .inr ⟨decidedId, rfl, ⟨later, written, ?_⟩, closed⟩
        intro again
        have missing := fresh decidedId again
        rw [located] at missing
        cases missing

theorem Passed.steps (passed : state.Passed requestId nextId) (steps : Steps state after) :
    after.Passed requestId nextId := by
  obtain ⟨request, found, elsewhere⟩ := passed.row
  obtain ⟨next, stored, decided⟩ := passed.decided
  refine ⟨?_, next, decided_steps stored decided steps, decided⟩
  rcases step_cases steps found with ⟨withdrawn, kept, -⟩ | ⟨decidedId, -, -, later, written, fresh⟩
  · exact ⟨_, kept, elsewhere⟩
  · refine ⟨later, written, ?_⟩
    intro current
    have missing := fresh nextId current
    rw [stored] at missing
    cases missing

theorem Follows.steps (follows : state.Follows requestId status currentStageId) (sequential : state.Sequential)
    (steps : Steps state after) : after.Follows requestId status currentStageId := by
  rcases follows with standing | ⟨nextId, opens, passed⟩
  · exact standing.steps sequential steps
  · exact .inr ⟨nextId, opens, passed.steps steps⟩

theorem Follows.found (follows : state.Follows requestId status currentStageId) :
    ∃ request, state.requests requestId = some request := by
  rcases follows with standing | ⟨nextId, -, passed⟩
  · exact standing.row.imp fun _ => And.left
  · exact passed.row.imp fun _ => And.left

/-- The pending stages of the request in one state are still pending in another. -/
def Undecided (state after : WorkflowState) (requestId : UUID) : Prop :=
  ∀ id stage, state.stages id = some stage → stage.requestId = requestId → stage.status = .pending →
    ∃ later, after.stages id = some later ∧ later.status = .pending

/-- The request reports the outcome of the decision again exactly as long as none of its stages is decided. -/
theorem reported_iff {decided later : WorkflowState} (standing : decided.Standing requestId status currentStageId)
    (sequential : decided.Sequential) (follows : later.Follows requestId status currentStageId) {request : RequestState}
    (found : later.requests requestId = some request) :
    (request.status = status ∧ request.currentStageId = currentStageId) ↔ decided.Undecided later requestId := by
  rcases follows with stands | ⟨nextId, rfl, passed⟩
  · obtain ⟨row, located, reported⟩ := stands.row
    cases found.symm.trans located
    refine iff_of_true reported ?_
    intro id stage stored owns pending
    cases currentStageId with
    | none =>
        obtain ⟨owner, owned, -, running⟩ := sequential.owned stored pending
        obtain ⟨past, known, same, -⟩ := standing.row
        rw [owns, known] at owned
        cases owned
        rw [same, standing.ended rfl] at running
        cases running
    | some nextId =>
        obtain ⟨next, opened, waits, belongs⟩ := standing.opened nextId rfl
        obtain rfl := sequential.unique stored opened pending waits (owns.trans belongs.symm)
        obtain ⟨still, present, awaits, -⟩ := stands.opened id rfl
        exact ⟨still, present, awaits⟩
  · obtain ⟨row, located, elsewhere⟩ := passed.row
    cases found.symm.trans located
    refine iff_of_false (fun reported => elsewhere reported.2) ?_
    intro undecided
    obtain ⟨next, opened, waits, belongs⟩ := standing.opened nextId rfl
    obtain ⟨still, present, awaits⟩ := undecided nextId next opened belongs waits
    obtain ⟨last, closed, nonpending⟩ := passed.decided
    cases present.symm.trans closed
    exact nonpending awaits

end WorkflowState

end AutomationHub.Workflow
