import AutomationHub.System.DecisionReplay
import AutomationHub.Workflow.WorkflowProgress

/-!
The law of the workflow: in every state that whole operations reach one after another, the stages of a request are the
first ones of the version that it was created with.
-/

set_option autoImplicit false

namespace AutomationHub.System

open Foundation Model Database Services Auth Workflow Program Table

/-- The call writes no request and no stage, and no document of a version that a request was created with. -/
def SparesWorkflow (world : World) : Call → Prop
  | .query (.updateInactiveDefinition _ definitionId _ _) =>
      ∀ request ∈ world.requests.rows, request.workflowDefinitionId ≠ definitionId
  | .query statement => statement.writesWorkflow = true → statement.writesDefinitions = true
  | _ => True

/-- Whole operations one after another, refused writes included, and between them any calls of the services that
manage definitions, of the other services and of the registration of users. -/
inductive WorkflowRun (start : World) : World → Prop
  | start : WorkflowRun start start
  | operation {world : World} (earlier : WorkflowRun start world) (operation : Operation) :
      WorkflowRun start (operation.program.run environment world).2
  | call {world : World} (earlier : WorkflowRun start world) (request : Call) (spares : SparesWorkflow world request) :
      WorkflowRun start (environment request world).2
  | profiles {world : World} (earlier : WorkflowRun start world) (profiles : Table ProfileRecord) :
      WorkflowRun start { world with profiles }

/-- The first stage of the request was refused, and the request withdrawn at once. -/
structure NeverStarted (world : World) (request : RequestRecord) : Prop where
  withdrawn : request.deletedAt.isSome = true
  status : request.status = .pending
  current : request.currentStageId = none
  unfinished : request.completedAt = none
  stageless : world.stagesOf request.id = []

/-- The stage that the request has reached says what the request is. -/
structure Governs (definition : WorkflowDefinition) (request : RequestRecord) (stage : WorkflowStageRecord) : Prop where
  running : isTerminalRequestStatus request.status = false ↔ stage.status = .pending
  pointed : request.currentStageId = if stage.status = .pending then some stage.id else none
  decider : stage.decidedBy.isSome = true ↔ stage.status ≠ .pending
  completed : request.status = .completed ↔ stage.stageOrder = definition.definition.length ∧ stage.status = .approved
  rejected : request.status = .rejected ↔ stage.status = .rejected
  closed : request.completedAt.isSome = true ↔ isTerminalRequestStatus request.status = true

/-- The request has reached this stage of the version, and passed the ones before. -/
structure Obeys (world : World) (definition : WorkflowDefinition) (request : RequestRecord) (reached : Nat) : Prop where
  started : 1 ≤ reached
  within : reached ≤ definition.definition.length
  numbered : ((world.stagesOf request.id).map WorkflowStageRecord.stageOrder).Perm (List.range' 1 reached)
  named : ∀ stage ∈ world.stagesOf request.id, stage.companyId = request.companyId ∧
    ∃ entry ∈ definition.definition.orderedStages, entry.order = stage.stageOrder ∧ entry.name = stage.stageName
  passed : ∀ stage ∈ world.stagesOf request.id, stage.stageOrder < reached →
    stage.status = .approved ∧ stage.decidedBy.isSome = true
  last : ∀ stage ∈ world.stagesOf request.id, stage.stageOrder = reached → Governs definition request stage

section Rows

variable {world : World} {definition : WorkflowDefinition} {request : RequestRecord} {reached : Nat}

theorem mem_stagesOf_iff {requestId : UUID} {stage : WorkflowStageRecord} :
    stage ∈ world.stagesOf requestId ↔ world.stages.find? stage.id = some stage ∧ stage.requestId = requestId := by
  simp only [World.stagesOf, mem_orderBy, List.mem_filter, beq_iff_eq]
  exact and_congr_left fun _ => ⟨world.stages.find?_of_mem, fun found => ((find?_eq_some_iff ..).mp found).1⟩

theorem found_of_mem_stagesOf {requestId : UUID} {stage : WorkflowStageRecord} (member : stage ∈ world.stagesOf requestId) :
    (workflowOf world).stages stage.id = some (stageState stage) ∧ (stageState stage).requestId = requestId := by
  obtain ⟨found, mine⟩ := mem_stagesOf_iff.mp member
  exact ⟨by simp [workflowOf, found], mine⟩

theorem mem_stagesOf_of_found {stageId : UUID} {state : StageState} (found : (workflowOf world).stages stageId = some state) :
    ∃ stage ∈ world.stagesOf state.requestId, stage.id = stageId ∧ stageState stage = state := by
  obtain ⟨stage, located, same⟩ := Option.map_eq_some_iff.mp found
  have keyed : stage.id = stageId := ((find?_eq_some_iff ..).mp located).2
  exact ⟨stage, mem_stagesOf_iff.mpr ⟨by rwa [keyed], by rw [← same]; rfl⟩, keyed, same⟩

theorem decides_of_standing {stage : WorkflowStageRecord}
    (standing : Standing definition.definition stage.id (stageState stage) (requestState request)) :
    Governs definition request stage := by
  cases standing with
  | waiting pending undecided running current unfinished =>
      change stage.status = .pending at pending
      change stage.decidedBy = none at undecided
      change isTerminalRequestStatus request.status = false at running
      change request.currentStageId = some stage.id at current
      change request.completedAt.isSome = false at unfinished
      refine ⟨by simp [running, pending], by simp [current, pending], by simp [undecided, pending], ?_, ?_, ?_⟩
      · simp only [pending, reduceCtorEq, and_false, iff_false]
        intro completed
        rw [completed] at running
        cases running
      · simp only [pending, reduceCtorEq, iff_false]
        intro rejected
        rw [rejected] at running
        cases running
      · simp [running, unfinished]
  | completed approved decided last status current finished =>
      change stage.status = .approved at approved
      change stage.decidedBy.isSome = true at decided
      change stage.stageOrder = _ at last
      change request.status = .completed at status
      change request.currentStageId = none at current
      change request.completedAt.isSome = true at finished
      refine ⟨?_, ?_, ?_, ?_, ?_, ?_⟩ <;> simp [approved, decided, last, status, current, finished] <;> rfl
  | rejected rejected decided status current finished =>
      change stage.status = .rejected at rejected
      change stage.decidedBy.isSome = true at decided
      change request.status = .rejected at status
      change request.currentStageId = none at current
      change request.completedAt.isSome = true at finished
      refine ⟨?_, ?_, ?_, ?_, ?_, ?_⟩ <;> simp [rejected, decided, status, current, finished] <;> rfl

theorem numbered_of_progress
    (progress : StageProgress definition.definition (workflowOf world).stages request.id (requestState request) reached) :
    ((world.stagesOf request.id).map WorkflowStageRecord.stageOrder).Perm (List.range' 1 reached) := by
  have rows : (world.stagesOf request.id).Nodup :=
    (List.perm_insertionSort _ _).nodup_iff.mpr ((List.Nodup.of_map _ world.stages.distinct).filter _)
  have orders : ((world.stagesOf request.id).map WorkflowStageRecord.stageOrder).Nodup := by
    refine rows.map_on ?_
    intro left first right second same
    obtain ⟨located, mine⟩ := found_of_mem_stagesOf first
    obtain ⟨also, ours⟩ := found_of_mem_stagesOf second
    exact world.stages.eq_of_key_eq ((find?_eq_some_iff ..).mp (mem_stagesOf_iff.mp first).1).1
      ((find?_eq_some_iff ..).mp (mem_stagesOf_iff.mp second).1).1 (progress.once located also mine ours same)
  refine (List.perm_ext_iff_of_nodup orders List.nodup_range').mpr ?_
  intro order
  rw [List.mem_map, List.mem_range'_1]
  constructor
  · intro ⟨stage, member, numbered⟩
    obtain ⟨located, mine⟩ := found_of_mem_stagesOf member
    obtain ⟨-, entry, listed, same, -⟩ := progress.listed located mine
    have first := entry.order_pos
    have most := progress.bounded located mine
    change entry.order = stage.stageOrder at same
    change stage.stageOrder ≤ reached at most
    omega
  · intro ⟨least, most⟩
    obtain ⟨stageId, state, found, mine, numbered⟩ := progress.opened order least (by omega)
    obtain ⟨stage, member, -, same⟩ := mem_stagesOf_of_found found
    rw [mine] at member
    exact ⟨stage, member, by rw [← numbered, ← same]; rfl⟩

theorem obeys_of_progress
    (progress : StageProgress definition.definition (workflowOf world).stages request.id (requestState request) reached) :
    Obeys world definition request reached where
  started := progress.started
  within := progress.within
  numbered := numbered_of_progress progress
  named := by
    intro stage member
    obtain ⟨located, mine⟩ := found_of_mem_stagesOf member
    exact progress.listed located mine
  passed := by
    intro stage member earlier
    obtain ⟨located, mine⟩ := found_of_mem_stagesOf member
    exact progress.passed located mine earlier
  last := by
    intro stage member here
    obtain ⟨located, mine⟩ := found_of_mem_stagesOf member
    exact decides_of_standing (progress.current located mine here)

theorem neverStarted_of_abandoned (abandoned : Abandoned (workflowOf world).stages request.id (requestState request)) :
    NeverStarted world request where
  withdrawn := abandoned.withdrawn
  status := abandoned.status
  current := abandoned.current
  unfinished := by
    have unfinished := abandoned.unfinished
    change request.completedAt.isSome = false at unfinished
    simpa using unfinished
  stageless := by
    apply List.eq_nil_iff_forall_not_mem.mpr
    intro stage member
    obtain ⟨located, mine⟩ := found_of_mem_stagesOf member
    exact abandoned.stageless located mine

end Rows

section Runs

variable {start world : World}

/-- The law of a state. -/
def Ruled (world : World) : Prop :=
  LawfulRequests world.definitions.find? (workflowOf world)

theorem Initial.ruled (initial : Initial world) : Ruled world where
  requests := by
    intro requestId request found
    simp [workflowOf, Table.find?, initial.requests] at found
  stages := by
    intro stageId stage found
    simp [workflowOf, Table.find?, initial.stages] at found

theorem Ruled.operation (ruled : Ruled world) (sequential : (workflowOf world).Sequential) (operation : Operation) :
    Ruled (operation.program.run environment world).2 := by
  by_cases withdrawal : ∃ identity requestId expectedVersion,
      operation = .withdrawRequest identity requestId expectedVersion
  · obtain ⟨identity, requestId, expectedVersion, rfl⟩ := withdrawal
    dsimp only [Operation.program]
    rw [run_forEffect]
    obtain ⟨definitions, unmoved | ⟨-, request, found, moved⟩⟩ :=
      ensured_of_run (ensures_withdrawRequest world identity requestId expectedVersion)
    · rw [Ruled, definitions, unmoved]
      exact ruled
    · rw [Ruled, definitions, moved]
      exact ruled.withdraw found
  · have other : ∀ identity requestId expectedVersion, operation ≠ .withdrawRequest identity requestId expectedVersion :=
      fun identity requestId expectedVersion same => withdrawal ⟨identity, requestId, expectedVersion, same⟩
    obtain ⟨moves, definitions⟩ := ensured_of_run (taken_of_operation sequential other)
    rw [Ruled, definitions]
    exact ruled.moves moves

/-- A call beside the workflow leaves it, and the versions in use by requests, as they are. -/
theorem spared_of_call {request : Call} (spares : SparesWorkflow world request) :
    workflowOf (environment request world).2 = workflowOf world ∧
      ∀ {row definition}, row ∈ world.requests.rows → world.definitions.find? row.workflowDefinitionId = some definition →
        ∃ later, (environment request world).2.definitions.find? row.workflowDefinitionId = some later ∧
          later.companyId = definition.companyId ∧ later.definition = definition.definition := by
  constructor
  · rcases environment_change (Prod.mk.eta.symm : environment request world = (_, _)) with
      ⟨statement, changed, rfl, change, ticked⟩ | ⟨requests, stages, -⟩
    · rw [ticked]
      have untouched : changed.requests = world.requests ∧ changed.stages = world.stages := by
        cases writes : statement.writesWorkflow with
        | false => exact change.unaffected writes
        | true =>
            have other : statement.writesDefinitions = true := by
              cases statement <;> first | exact spares writes | rfl
            cases change with
            | stage update => cases update <;> cases other
            | request update => cases update <;> cases other
            | newStage => cases other
            | newRequest => cases other
            | removedStage => cases other
            | elsewhere requests stages => exact ⟨requests, stages⟩
      exact workflowOf_eq_of_rows untouched.1 untouched.2
    · exact workflowOf_eq_of_rows requests stages
  · intro row definition member pinned
    rcases @World.definitionChange_of_mayFail Unit () world _ request _ (.inl Prod.mk.eta.symm) with
      ⟨statement, changed, rfl, change, ticked⟩ | same
    · rw [ticked]
      change ∃ later, changed.definitions.find? row.workflowDefinitionId = some later ∧ _
      cases change with
      | @update _ id version edit found update located current =>
          rw [find?_modify]
          split
          · rename_i here
            rw [← here, pinned]
            refine ⟨_, rfl, ?_⟩
            cases update with
            | document => exact absurd here (spares row member)
            | activate | deactivate => exact ⟨rfl, rfl⟩
          · exact ⟨definition, pinned, rfl, rfl⟩
      | new =>
          rw [find?_insert, if_neg, pinned]
          · exact ⟨definition, rfl, rfl, rfl⟩
          · intro fresh
            rw [fresh, find?_next] at pinned
            cases pinned
      | removed found idle unnamed =>
          rw [find?_erase, if_neg (unnamed row member), pinned]
          exact ⟨definition, rfl, rfl, rfl⟩
      | elsewhere definitions => exact ⟨definition, by rw [definitions, pinned], rfl, rfl⟩
    · exact ⟨definition, by rw [same, pinned], rfl, rfl⟩

theorem Ruled.call (ruled : Ruled world) {request : Call} (spares : SparesWorkflow world request) :
    Ruled (environment request world).2 := by
  obtain ⟨workflow, kept⟩ := spared_of_call spares
  rw [Ruled, workflow]
  apply ruled.redefine
  intro requestId state definition found pinned
  obtain ⟨row, located, same⟩ := Option.map_eq_some_iff.mp found
  subst same
  exact kept ((find?_eq_some_iff ..).mp located).1 pinned

theorem WorkflowRun.ruled (initial : Initial start) (run : WorkflowRun start world) :
    (workflowOf world).Sequential ∧ Ruled world := by
  induction run with
  | start => exact ⟨initial.paired _, initial.ruled⟩
  | operation earlier operation reached =>
      obtain ⟨sequential, ruled⟩ := reached
      exact ⟨sequential.steps (steps_of_operation sequential operation), ruled.operation sequential operation⟩
  | call earlier request spares reached =>
      obtain ⟨sequential, ruled⟩ := reached
      have workflow := (spared_of_call spares).1
      exact ⟨by rwa [workflow], ruled.call spares⟩
  | profiles earlier profiles reached => exact reached

/-- In every state that whole operations reach, a request was never started, or follows the version that it was created
with. -/
theorem obeys_of_run (initial : Initial start) (run : WorkflowRun start world) :
    ∀ request ∈ world.requests.rows, ∃ definition,
      world.definitions.find? request.workflowDefinitionId = some definition ∧
      definition.companyId = request.companyId ∧
      (NeverStarted world request ∨ ∃ reached, Obeys world definition request reached) := by
  intro request member
  have found : (workflowOf world).requests request.id = some (requestState request) := by
    have located : world.requests.find? request.id = some request := world.requests.find?_of_mem member
    simp [workflowOf, located]
  obtain ⟨definition, pinned, company, abandoned | ⟨reached, progress⟩⟩ := (run.ruled initial).2.requests found
  · exact ⟨definition, pinned, company, .inl (neverStarted_of_abandoned abandoned)⟩
  · exact ⟨definition, pinned, company, .inr ⟨reached, obeys_of_progress progress⟩⟩

theorem obeys_of_run_finished :
    hubFinished.requests.rows ≠ [] ∧ ∀ request ∈ hubFinished.requests.rows, ∃ definition,
      hubFinished.definitions.find? request.workflowDefinitionId = some definition ∧
      definition.companyId = request.companyId ∧
      (NeverStarted hubFinished request ∨ ∃ reached, Obeys hubFinished definition request reached) := by
  have submitted : WorkflowRun sampleHub hubSubmitted := .operation .start expenseCreation
  have advanced : WorkflowRun sampleHub hubAdvanced := by
    have run := submitted.operation (.approve sampleApprover 1 none none)
    dsimp only [Operation.program] at run
    rw [run_forEffect] at run
    exact run
  exact ⟨by decide +kernel, obeys_of_run sampleHub_initial (advanced.operation secondApproval)⟩

end Runs

end AutomationHub.System
