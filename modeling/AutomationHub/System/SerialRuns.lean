import AutomationHub.Foundation.TwoRuns
import AutomationHub.System.SerialOperations

/-!
Runs of whole operations, one after another, and the steps of the workflow that they take.
-/

set_option autoImplicit false

namespace AutomationHub.System

open Foundation Model Database Services Auth Workflow Program Table

/-- The operations that keep to a condition, one after another, and between them any other calls of the hub that do not
write the workflow. -/
inductive SerialRun (keeps : World → Operation → Prop) (start : World) : World → Prop
  | start : SerialRun keeps start start
  | operation {world : World} (earlier : SerialRun keeps start world) (operation : Operation)
      (kept : keeps world operation) : SerialRun keeps start (operation.program.run environment world).2
  | call {world : World} (earlier : SerialRun keeps start world) (request : Call)
      (reading : request.writesWorkflow = false) : SerialRun keeps start (environment request world).2
  | profiles {world : World} (earlier : SerialRun keeps start world) (profiles : Table ProfileRecord) :
      SerialRun keeps start { world with profiles }

variable {world after : World}

theorem ensured_of_run {α : Type} {program : Service α} {post : Except AppError α → World → Prop}
    (ensured : program.Ensures (serial True) post world) :
    post (program.run environment world).1 (program.run environment world).2 := by
  have possible : ∀ state request, (serial True).answers state request (environment request state).1
      (environment request state).2 := fun _ _ => ⟨rfl, fun _ _ => trivial⟩
  exact ensured.sound (executes_run possible program)

theorem run_forEffect {α : Type} (service : Service α) (world : World) :
    ((forEffect service).run environment world).2 = (service.run environment world).2 := by
  rw [forEffect, run_bind]
  rcases service.run environment world with ⟨result, final⟩
  cases result <;> rfl

/-- An operation withdraws a request, or takes another step of the workflow, or leaves it as it was. -/
theorem steps_of_operation (sequential : (workflowOf world).Sequential) (operation : Operation) :
    Steps (workflowOf world) (workflowOf (operation.program.run environment world).2) := by
  by_cases withdrawal : ∃ identity requestId expectedVersion,
      operation = .withdrawRequest identity requestId expectedVersion
  · obtain ⟨identity, requestId, expectedVersion, rfl⟩ := withdrawal
    dsimp only [Operation.program]
    rw [run_forEffect]
    obtain ⟨-, unmoved | ⟨-, request, found, moved⟩⟩ :=
      ensured_of_run (ensures_withdrawRequest world identity requestId expectedVersion)
    · rw [unmoved]
      exact .moves (.stays : Moves world.definitions.find? True _ _)
    · rw [moved]
      exact .withdraws found
  · refine .moves (ensured_of_run (taken_of_operation sequential ?_)).1
    intro identity requestId expectedVersion same
    exact withdrawal ⟨identity, requestId, expectedVersion, same⟩

theorem workflowOf_call {request : Call} (reading : request.writesWorkflow = false) :
    workflowOf (environment request world).2 = workflowOf world :=
  (aside_of_reading (Prod.mk.eta.symm : environment request world = (_, _)) reading).kept.workflow

theorem SerialRun.preserves {keeps : World → Operation → Prop} {holds : WorkflowState → Prop}
    (step : ∀ {state later : WorkflowState}, state.Sequential → holds state → Steps state later → holds later)
    (run : SerialRun keeps world after) (sequential : (workflowOf world).Sequential) (first : holds (workflowOf world)) :
    (workflowOf after).Sequential ∧ holds (workflowOf after) := by
  induction run with
  | start => exact ⟨sequential, first⟩
  | operation earlier operation kept reached =>
      obtain ⟨sequential, reached⟩ := reached
      have steps := steps_of_operation sequential operation
      exact ⟨sequential.steps steps, step sequential reached steps⟩
  | call earlier request reading reached =>
      rw [workflowOf_call reading]
      exact reached
  | profiles earlier profiles reached => exact reached

theorem Initial.paired (initial : Initial world) (fits : StageState → RequestState → Prop) :
    (workflowOf world).Paired fits := by
  have missing : ∀ id, (workflowOf world).stages id = none := by
    intro id
    simp [workflowOf, Table.find?, initial.stages]
  constructor <;> intros <;> simp_all

theorem SerialRun.sequential {keeps : World → Operation → Prop} (run : SerialRun keeps world after)
    (initial : Initial world) : (workflowOf after).Sequential :=
  (run.preserves (fun sequential _ steps => sequential.steps steps) (initial.paired _) (initial.paired _)).1

end AutomationHub.System
