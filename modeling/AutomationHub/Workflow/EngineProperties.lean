import AutomationHub.Workflow.Engine

/-!
What the stage plans of the engine contain.
-/

set_option autoImplicit false

namespace AutomationHub.Workflow

open Model

/-- The plan of one stage of a definition: its order and name, assigned as its strategy says. -/
structure PlanOf (definition : WorkflowDefinition) (requester : ProfileRecord)
    (departmentApprovers : List ProfileRecord) (plan : StagePlan) (stage : StageDefinition) : Prop where
  member : stage ∈ definition.definition.orderedStages
  stageOrder : plan.stageOrder = stage.order
  stageName : plan.stageName = stage.name
  assignedTo : plan.assignedTo = (resolveAssignment stage requester departmentApprovers).assignedTo
  assignedRole : plan.assignedRole = (resolveAssignment stage requester departmentApprovers).assignedRole

theorem isFinalStage_of_mem {definition : WorkflowDefinition} {stage : StageDefinition}
    (member : stage ∈ definition.definition.orderedStages) : ∃ final, isFinalStage definition stage.order = .ok final := by
  have listed : stage.order ∈ definition.definition.stages.map StageDefinition.order :=
    List.mem_map_of_mem ((definition.definition.mem_orderedStages stage).mp member)
  exact ⟨_, if_pos listed⟩

theorem toStagePlan_of_mem {definition : WorkflowDefinition} {stage : StageDefinition}
    (member : stage ∈ definition.definition.orderedStages) (requester : ProfileRecord)
    (departmentApprovers : List ProfileRecord) :
    ∃ plan, toStagePlan definition stage (resolveAssignment stage requester departmentApprovers) = .ok plan ∧
      PlanOf definition requester departmentApprovers plan stage := by
  obtain ⟨final, found⟩ := isFinalStage_of_mem member
  refine ⟨_, by simp only [toStagePlan, found]; rfl, ⟨member, rfl, rfl, rfl, rfl⟩⟩

theorem toStagePlan_fallback {definition : WorkflowDefinition} {stage : StageDefinition} {assignment : AssignmentResult}
    {plan : StagePlan} (planned : toStagePlan definition stage assignment = .ok plan) :
    plan.usedFallback = assignment.usedFallback ∧ plan.fallbackReason = assignment.fallbackReason := by
  unfold toStagePlan at planned
  cases found : isFinalStage definition stage.order with
  | error error =>
      rw [found] at planned
      cases planned
  | ok final =>
      rw [found] at planned
      obtain rfl := Except.ok.inj planned
      exact ⟨rfl, rfl⟩

theorem firstStage_mem (definition : WorkflowDefinition) : firstStage definition ∈ definition.definition.orderedStages :=
  List.head_mem _

theorem resolveDefinition_mem {requestType : String} {candidates : List WorkflowDefinition}
    {definition : WorkflowDefinition} (resolved : resolveDefinition requestType candidates = .ok definition) :
    definition ∈ candidates := by
  unfold resolveDefinition at resolved
  split at resolved
  · cases resolved
  · rename_i only
    obtain rfl := Except.ok.inj resolved
    exact List.mem_of_mem_filter (only ▸ List.mem_singleton_self _)
  · cases resolved

theorem firstStage_order (definition : WorkflowDefinition) : (firstStage definition).order = 1 := by
  have orders := definition.definition.contiguous
  have positive := definition.definition.length_pos
  cases ordered : definition.definition.orderedStages with
  | nil => exact absurd (ordered ▸ firstStage_mem definition) List.not_mem_nil
  | cons stage rest =>
      have first : firstStage definition = stage := by simp [firstStage, ordered]
      obtain ⟨count, length⟩ : ∃ count, definition.definition.stages.length = count + 1 :=
        Nat.exists_eq_succ_of_ne_zero (Nat.pos_iff_ne_zero.mp positive)
      rw [WorkflowDefinitionDocument.orderedStages] at ordered
      rw [ordered, length, List.range'_succ, List.map_cons] at orders
      rw [first]
      exact (List.cons.inj orders).1

theorem planFirstStage_ok (definition : WorkflowDefinition) (requester : ProfileRecord)
    (departmentApprovers : List ProfileRecord) :
    ∃ plan, planFirstStage definition requester departmentApprovers = .ok plan ∧
      PlanOf definition requester departmentApprovers plan (firstStage definition) :=
  toStagePlan_of_mem (firstStage_mem definition) requester departmentApprovers

/-- What a successful plan of the next stage says: the stage decided is the last one generated, and either
the definition ends with it or the plan is that of the stage after it. -/
theorem planNextStage_ok {definition : WorkflowDefinition} {currentOrder highestExistingOrder : Nat}
    {requester : ProfileRecord} {departmentApprovers : List ProfileRecord} {planned : Option StagePlan}
    (success : planNextStage definition currentOrder highestExistingOrder requester departmentApprovers = .ok planned) :
    highestExistingOrder = currentOrder ∧ 0 < currentOrder ∧
      match planned with
      | none => definition.definition.length ≤ currentOrder
      | some plan => ∃ stage, PlanOf definition requester departmentApprovers plan stage ∧ stage.order = currentOrder + 1 := by
  unfold planNextStage nextStage at success
  by_cases started : currentOrder = 0
  · simp [started, bind, Except.bind] at success
  by_cases generated : highestExistingOrder = 0
  · simp [started, generated, bind, Except.bind] at success
  by_cases sequential : highestExistingOrder = currentOrder
  · refine ⟨sequential, Nat.pos_of_ne_zero started, ?_⟩
    simp only [if_neg started, sequential, ne_eq, not_true_eq_false, if_false,
      stageOrderIncrement] at success
    cases found : definition.definition.orderedStages.find? fun stage => stage.order == currentOrder + 1 with
    | none =>
        simp only [found, bind, Except.bind, pure, Except.pure, Except.ok.injEq] at success
        subst success
        have absent := List.find?_eq_none.mp found
        by_contra shorter
        obtain ⟨stage, member, order⟩ := (definition.definition.mem_orders_iff (currentOrder + 1)).mpr (by omega)
        exact absent stage member (by simp [order])
    | some stage =>
        have member := List.mem_of_find?_eq_some found
        have order : stage.order = currentOrder + 1 := by simpa using List.find?_some found
        obtain ⟨plan, made, content⟩ := toStagePlan_of_mem member requester departmentApprovers
        simp only [found, bind, Except.bind, made, pure, Except.pure, Except.ok.injEq] at success
        subst success
        exact ⟨stage, content, order⟩
  · simp [started, generated, sequential, bind, Except.bind] at success

end AutomationHub.Workflow
