import AutomationHub.Model.Basic

/-!
Workflow definition documents.

A document lists its stages in any order; their `order` values are exactly
`1, ..., N`.  A value of either type satisfies every check made when the source
constructs it.
-/

set_option autoImplicit false

namespace AutomationHub.Model

/-- The fields each assignment strategy requires of a stage definition. -/
def strategyFieldsProvided (strategy : AssignmentStrategy) (assignedRole : Option UserRole)
    (department : Option String) (assignedUserId : Option UUID) : Bool :=
  match strategy with
  | .specificUser => assignedUserId.isSome
  | .departmentQueue => department.any (· != "") && assignedRole.isSome
  | .requesterManager => true

structure StageDefinition where
  order : Nat
  name : String
  assignmentStrategy : AssignmentStrategy
  assignedRole : Option UserRole
  department : Option String
  assignedUserId : Option UUID
  escalationHours : Hours
  order_pos : 0 < order
  name_nonempty : name ≠ ""
  escalationHours_pos : escalationHours.Positive
  strategyFields :
    strategyFieldsProvided assignmentStrategy assignedRole department assignedUserId = true
deriving DecidableEq

def sortedByOrder (stages : List StageDefinition) : List StageDefinition :=
  stages.insertionSort fun left right => left.order ≤ right.order

structure WorkflowDefinitionDocument where
  stages : List StageDefinition
  nonempty : stages ≠ []
  distinct : (stages.map StageDefinition.order).Nodup
  contiguous : (sortedByOrder stages).map StageDefinition.order = List.range' 1 stages.length
deriving DecidableEq

namespace WorkflowDefinitionDocument

def orderedStages (document : WorkflowDefinitionDocument) : List StageDefinition :=
  sortedByOrder document.stages

/-- The number `N` of stages. -/
def length (document : WorkflowDefinitionDocument) : Nat :=
  document.stages.length

theorem length_pos (document : WorkflowDefinitionDocument) : 0 < document.length :=
  List.length_pos_iff.mpr document.nonempty

theorem mem_orderedStages (document : WorkflowDefinitionDocument) (stage : StageDefinition) :
    stage ∈ document.orderedStages ↔ stage ∈ document.stages :=
  (List.perm_insertionSort _ document.stages).mem_iff

theorem mem_orders_iff (document : WorkflowDefinitionDocument) (order : Nat) :
    (∃ stage ∈ document.orderedStages, stage.order = order) ↔ 1 ≤ order ∧ order ≤ document.length := by
  rw [← List.mem_map, orderedStages, document.contiguous, List.mem_range'_1, length]
  omega

theorem eq_of_order_eq (document : WorkflowDefinitionDocument) {left right : StageDefinition}
    (leftMember : left ∈ document.orderedStages) (rightMember : right ∈ document.orderedStages)
    (same : left.order = right.order) : left = right :=
  List.inj_on_of_nodup_map document.distinct ((document.mem_orderedStages left).mp leftMember)
    ((document.mem_orderedStages right).mp rightMember) same

end WorkflowDefinitionDocument

/-- A stage of a submitted document, before it is checked. -/
structure StageDefinitionInput where
  order : Int
  name : String
  assignmentStrategy : AssignmentStrategy
  assignedRole : Option UserRole
  department : Option String
  assignedUserId : Option UUID
  escalationHours : Hours
deriving DecidableEq

def StageDefinitionInput.validate (input : StageDefinitionInput) : Option StageDefinition :=
  if valid : 0 < input.order.toNat ∧ input.name ≠ "" ∧ input.escalationHours.Positive ∧
      strategyFieldsProvided input.assignmentStrategy input.assignedRole input.department input.assignedUserId = true then
    some
      { order := input.order.toNat, name := input.name, assignmentStrategy := input.assignmentStrategy,
        assignedRole := input.assignedRole, department := input.department, assignedUserId := input.assignedUserId,
        escalationHours := input.escalationHours, order_pos := valid.1, name_nonempty := valid.2.1,
        escalationHours_pos := valid.2.2.1, strategyFields := valid.2.2.2 }
  else none

/-- Check a submitted document. -/
def WorkflowDefinitionDocument.validate (inputs : List StageDefinitionInput) : Option WorkflowDefinitionDocument := do
  let stages ← inputs.mapM StageDefinitionInput.validate
  if valid : stages ≠ [] ∧ (stages.map StageDefinition.order).Nodup ∧
      (sortedByOrder stages).map StageDefinition.order = List.range' 1 stages.length then
    some { stages, nonempty := valid.1, distinct := valid.2.1, contiguous := valid.2.2 }
  else none

/-- The input that a document was checked from. -/
def WorkflowDefinitionDocument.inputs (document : WorkflowDefinitionDocument) : List StageDefinitionInput :=
  document.stages.map fun stage =>
    { order := stage.order, name := stage.name, assignmentStrategy := stage.assignmentStrategy,
      assignedRole := stage.assignedRole, department := stage.department, assignedUserId := stage.assignedUserId,
      escalationHours := stage.escalationHours }

theorem WorkflowDefinitionDocument.validate_inputs (document : WorkflowDefinitionDocument) :
    validate document.inputs = some document := by
  have each : document.inputs.mapM StageDefinitionInput.validate = some document.stages := by
    unfold inputs
    induction document.stages with
    | nil => rfl
    | cons stage rest recurse =>
        have first := stage.order_pos
        simp [List.mapM_cons, recurse, StageDefinitionInput.validate, stage.order_pos, stage.name_nonempty,
          stage.escalationHours_pos, stage.strategyFields]
  unfold validate
  rw [each]
  exact dif_pos ⟨document.nonempty, document.distinct, document.contiguous⟩

/-- A persisted version of the workflow for one request type of a company. -/
structure WorkflowDefinition where
  id : UUID
  requestType : String
  version : Nat
  definition : WorkflowDefinitionDocument
  isActive : Bool
  createdBy : Option UUID
  rowVersion : Nat
  createdAt : Datetime
  companyId : UUID

end AutomationHub.Model
