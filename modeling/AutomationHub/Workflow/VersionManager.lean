import AutomationHub.Model.Records
import AutomationHub.Model.Errors

/-!
Rules on versions of a definition, and on the users that a document names.
-/

set_option autoImplicit false

namespace AutomationHub.Workflow

open Model

def nextVersionNumber (existingVersions : List Nat) : Nat :=
  existingVersions.foldr max 0 + 1

def validateEditAllowed (definition : WorkflowDefinition) : Except EngineError Unit :=
  if definition.isActive then .error (.definitionEditNotAllowed definition.id) else .ok ()

def validateActivation (candidate : WorkflowDefinition) (currentlyActive : Option WorkflowDefinition) :
    Except EngineError Unit :=
  if candidate.isActive then .error (.definitionAlreadyActive candidate.id)
  else
    match currentlyActive with
    | none => .ok ()
    | some active =>
        if active.requestType ≠ candidate.requestType then
          .error (.mismatchedRequestType candidate.requestType active.requestType)
        else if active.id = candidate.id then .error (.definitionAlreadyActive candidate.id)
        else .ok ()

/-- The user that a `specific_user` stage names. -/
def specificAssignee (stage : StageDefinition) : Option UUID :=
  if stage.assignmentStrategy = .specificUser then stage.assignedUserId else none

/-- The first unknown assignee, in stage order, is reported. -/
def validateDefinitionAssignees (document : WorkflowDefinitionDocument) (knownProfileIds : List UUID) :
    Except EngineError Unit :=
  match (document.orderedStages.filterMap specificAssignee).find? fun assignee => assignee ∉ knownProfileIds with
  | some unknown => .error (.unknownAssignee unknown)
  | none => .ok ()

theorem validateEditAllowed_ok_iff (definition : WorkflowDefinition) :
    validateEditAllowed definition = .ok () ↔ definition.isActive = false := by
  unfold validateEditAllowed
  cases definition.isActive <;> simp

theorem validateDefinitionAssignees_ok_iff (document : WorkflowDefinitionDocument) (knownProfileIds : List UUID) :
    validateDefinitionAssignees document knownProfileIds = .ok () ↔
      ∀ stage ∈ document.stages, ∀ assignee, specificAssignee stage = some assignee → assignee ∈ knownProfileIds := by
  unfold validateDefinitionAssignees
  have known : (document.orderedStages.filterMap specificAssignee).find? (fun assignee => assignee ∉ knownProfileIds) =
      none ↔ ∀ stage ∈ document.stages, ∀ assignee, specificAssignee stage = some assignee →
        assignee ∈ knownProfileIds := by
    simp only [List.find?_eq_none, List.mem_filterMap, document.mem_orderedStages, decide_not, Bool.not_eq_true',
      decide_eq_false_iff_not, not_not, forall_exists_index, and_imp]
    exact ⟨fun each stage member assignee names => each assignee stage member names,
      fun each assignee stage member names => each stage member assignee names⟩
  cases outcome : (document.orderedStages.filterMap specificAssignee).find? fun assignee =>
      assignee ∉ knownProfileIds with
  | none => exact ⟨fun _ => known.mp outcome, fun _ => rfl⟩
  | some unknown =>
      constructor
      · intro accepted
        cases accepted
      · intro each
        rw [known.mpr each] at outcome
        cases outcome

end AutomationHub.Workflow
