import AutomationHub.Database.RepositoryProperties
import AutomationHub.Foundation.Pool

/-!
Facts about requests and stages that every call keeps, whichever service makes it
and whether or not the database fails it.
-/

set_option autoImplicit false

namespace AutomationHub.Database

open Foundation Model Table

/-- A call takes effect, or the database fails it and nothing changes but the time. -/
def mayFail {ι : Type} : Effect hubSignature World ι := fun _ world request reply after =>
  environment request world = (reply, after) ∨ ∃ error, request.failed error = some reply ∧ after = world.tick

namespace World

theorem change_of_mayFail {ι : Type} {thread : ι} {world after : World} {request : Call} {reply : request.Reply}
    (step : mayFail thread world request reply after) :
    (∃ statement changed, request = .query statement ∧ world.Change statement changed ∧ after = changed.tick) ∨
      (after.requests = world.requests ∧ after.stages = world.stages ∧ after.profiles = world.profiles) := by
  rcases step with answered | ⟨error, -, rfl⟩
  · exact environment_change answered
  · exact .inr ⟨rfl, rfl, rfl⟩

theorem evolves_stages_of_mayFail {ι : Type} {thread : ι} {world after : World} {request : Call} {reply : request.Reply}
    (step : mayFail thread world request reply after) : Evolves world.stages after.stages := by
  rcases change_of_mayFail step with ⟨statement, changed, -, change, rfl⟩ | ⟨-, same, -⟩
  · exact change.evolves_stages
  · exact same ▸ Evolves.refl _

theorem evolves_requests_of_mayFail {ι : Type} {thread : ι} {world after : World} {request : Call}
    {reply : request.Reply} (step : mayFail thread world request reply after) :
    Evolves world.requests after.requests := by
  rcases change_of_mayFail step with ⟨statement, changed, -, change, rfl⟩ | ⟨same, -, -⟩
  · exact change.evolves_requests
  · exact same ▸ Evolves.refl _

theorem definitionChange_of_mayFail {ι : Type} {thread : ι} {world after : World} {request : Call}
    {reply : request.Reply} (step : mayFail thread world request reply after) :
    (∃ statement changed, request = .query statement ∧ world.DefinitionChange statement changed ∧
        after = changed.tick) ∨ after.definitions = world.definitions := by
  rcases step with answered | ⟨error, -, rfl⟩
  · cases request with
    | query statement =>
        obtain ⟨-, rfl⟩ := Prod.mk.inj answered
        exact .inl ⟨statement, _, rfl, execute_definitionChange rfl, rfl⟩
    | _ =>
        obtain ⟨-, rfl⟩ := Prod.mk.inj answered
        exact .inr rfl
  · exact .inr rfl

theorem evolves_definitions_of_mayFail {ι : Type} {thread : ι} {world after : World} {request : Call}
    {reply : request.Reply} (step : mayFail thread world request reply after) :
    Evolves world.definitions after.definitions := by
  rcases definitionChange_of_mayFail step with ⟨statement, changed, -, change, rfl⟩ | same
  · exact change.evolves
  · exact same ▸ Evolves.refl _

theorem definitions_of_mayFail {ι : Type} {thread : ι} {world after : World} {request : Call}
    {reply : request.Reply} (step : mayFail thread world request reply after)
    (other : ∀ statement, request = .query statement → statement.writesDefinitions = false) :
    after.definitions = world.definitions := by
  rcases definitionChange_of_mayFail step with ⟨statement, changed, rfl, change, rfl⟩ | same
  · exact change.unaffected (other statement rfl)
  · exact same

theorem executed_of_mayFail {ι : Type} {thread : ι} {world after : World} {statement : Query}
    {result : statement.Result} (step : mayFail thread world (.query statement) (.ok result) after) :
    ∃ changed, world.execute statement = (.ok result, changed) ∧ after = changed.tick := by
  rcases step with answered | ⟨error, failed, -⟩
  · obtain ⟨replied, rfl⟩ := Prod.mk.inj answered
    exact ⟨_, Prod.ext replied rfl, rfl⟩
  · cases failed

theorem unchanged_of_refused {ι : Type} {thread : ι} {world after : World} {statement : Query} {error : DatabaseError}
    (step : mayFail thread world (.query statement) (.error error) after) : after = world.tick := by
  rcases step with answered | ⟨failure, -, same⟩
  · obtain ⟨replied, rfl⟩ := Prod.mk.inj answered
    have kept : (world.execute statement).2 = world := execute_error (Prod.ext replied rfl)
    rw [kept]
  · exact same

/-- A statement that only reads leaves the database as it is, and a reply that is no error is what it found. -/
theorem read_of_mayFail {world after : World} {statement : Query}
    {reply : Except DatabaseError statement.Result} (reads : (world.execute statement).2 = world)
    (step : mayFail () world (.query statement) reply after) :
    after = world.tick ∧ ∀ result, reply = .ok result → (world.execute statement).1 = .ok result := by
  rcases step with answered | ⟨error, failed, rfl⟩
  · obtain ⟨replied, rfl⟩ := Prod.mk.inj answered
    rw [reads]
    exact ⟨rfl, fun result same => replied.trans same⟩
  · refine ⟨rfl, fun result same => ?_⟩
    subst same
    cases failed

theorem stage_row_of_mayFail {ι : Type} {thread : ι} {world after : World} {request : Call} {reply : request.Reply}
    (step : mayFail thread world request reply after) {stageId : UUID} {row : WorkflowStageRecord}
    (found : world.stages.find? stageId = some row) :
    after.stages.find? stageId = some row ∨
      (request.accepted reply = true ∧ ∃ statement edit, request = .query statement ∧
        StageUpdate world statement stageId row.version edit ∧
        after.stages.find? stageId = some ((stamped edit row.version).apply row)) ∨
      request.accepted reply = true ∧ request = .query (.deleteIfUnchanged stageId row.version) := by
  have recorded : after = world.tick ∨ request.accepted reply = true := by
    cases request with
    | query statement =>
        cases reply with
        | error error => exact .inl (unchanged_of_refused step)
        | ok result => exact .inr rfl
    | _ => exact .inr rfl
  rcases recorded with rfl | recorded
  · exact .inl found
  rcases change_of_mayFail step with ⟨statement, changed, rfl, change, rfl⟩ | ⟨-, stages, -⟩
  · cases change with
    | @stage _ id version edit old update located current =>
        by_cases same : stageId = id
        · subst same
          obtain rfl : old = row := Option.some.inj (located.symm.trans found)
          subst current
          refine .inr (.inl ⟨recorded, statement, edit, rfl, update, ?_⟩)
          exact (find?_modify ..).trans (by rw [if_pos rfl, found]; rfl)
        · exact .inl ((find?_modify ..).trans (by rw [if_neg same]; exact found))
    | newStage =>
        have used : stageId < world.stages.next := by
          obtain ⟨member, rfl⟩ := (find?_eq_some_iff ..).mp found
          exact world.stages.fresh row member
        exact .inl ((find?_insert ..).trans (by rw [if_neg (Nat.ne_of_lt used)]; exact found))
    | @removedStage id version old located current =>
        by_cases same : stageId = id
        · subst same
          obtain rfl : old = row := Option.some.inj (located.symm.trans found)
          subst current
          exact .inr (.inr ⟨recorded, rfl⟩)
        · exact .inl ((find?_erase ..).trans (by rw [if_neg same]; exact found))
    | elsewhere _ stages => exact .inl ((congrArg (Table.find? · stageId) stages).trans found)
    | _ => exact .inl found
  · exact .inl ((congrArg (Table.find? · stageId) stages).trans found)

theorem audit_of_execute (world : World) (statement : Query)
    (other : ∀ action actorId requestId metadata companyId,
      statement ≠ .recordEvent action actorId requestId metadata companyId) :
    (world.execute statement).2.audit = world.audit := by
  cases statement with
  | recordEvent => exact absurd rfl (other _ _ _ _ _)
  | updateEditableFields =>
      simp only [execute]
      split <;> rfl
  | deleteIfUnchanged =>
      simp only [execute, deleteIfUnchanged]
      split
      · rfl
      · split <;> rfl
  | rejectStage =>
      simp only [execute]
      split <;> rfl
  | listPendingForApprover =>
      simp only [execute]
      split <;> rfl
  | markEmailSent =>
      simp only [execute, markEmailSent]
      split <;> rfl
  | createDefinition =>
      obtain ⟨definitions, same⟩ := createDefinition_frame world _ _
      exact (congrArg World.audit same :)
  | updateInactiveDefinition | activateDefinition =>
      obtain ⟨definitions, same⟩ := updateDefinition_frame world _ _ _ _ _
      exact (congrArg World.audit same :)
  | deleteInactiveDefinition =>
      obtain ⟨definitions, same⟩ := deleteInactiveDefinition_frame world _ _ _
      exact (congrArg World.audit same :)
  | deactivatePreviousDefinition =>
      obtain ⟨definitions, same⟩ := deactivatePreviousDefinition_frame world _ _ _
      exact (congrArg World.audit same :)
  | upsertPreference =>
      obtain ⟨preferences, same⟩ := upsertPreference_frame world _ _ _ _ _
      exact (congrArg World.audit same :)
  | _ => rfl

theorem audit_of_mayFail {ι : Type} {thread : ι} {world after : World} {request : Call} {reply : request.Reply}
    (step : mayFail thread world request reply after)
    (other : ∀ action actorId requestId metadata companyId,
      request ≠ .query (.recordEvent action actorId requestId metadata companyId)) :
    after.audit = world.audit := by
  rcases step with answered | ⟨error, -, rfl⟩
  · cases request with
    | query statement =>
        obtain ⟨-, rfl⟩ := Prod.mk.inj answered
        exact audit_of_execute world statement fun action actorId requestId metadata companyId same =>
          other action actorId requestId metadata companyId (congrArg _ same)
    | _ =>
        obtain ⟨-, rfl⟩ := Prod.mk.inj answered
        rfl
  · rfl

theorem recorded_of_mayFail {ι : Type} {thread : ι} {world after : World} {action : AuditAction}
    {actorId requestId companyId : Option UUID} {metadata : Option AuditMetadata} {entry : AuditLogRecord}
    (step : mayFail thread world (.query (.recordEvent action actorId requestId metadata companyId)) (.ok entry) after) :
    entry.action = action ∧ entry.actorId = actorId ∧ entry.requestId = requestId ∧ entry.metadata = metadata ∧
      after.audit.rows = world.audit.rows ++ [entry] ∧ after.stages = world.stages ∧ after.requests = world.requests := by
  obtain ⟨changed, executed, rfl⟩ := executed_of_mayFail step
  obtain ⟨rfl, rfl, -⟩ := recordEvent_ok_iff.mp executed
  exact ⟨rfl, rfl, rfl, rfl, rfl, rfl, rfl⟩

theorem stage_of_mayFail {ι : Type} {thread : ι} {world after : World} {stageId : UUID} {stage : WorkflowStageRecord}
    (step : mayFail thread world (.query (.getStage stageId)) (.ok stage) after) :
    world.stages.find? stageId = some stage ∧ after = world.tick := by
  rcases step with answered | ⟨error, failed, -⟩
  · obtain ⟨found, rfl⟩ := Prod.mk.inj answered
    exact ⟨getById_ok_iff.mp found, rfl⟩
  · cases failed

theorem request_of_mayFail {ι : Type} {thread : ι} {world after : World} {requestId : UUID} {request : RequestRecord}
    (step : mayFail thread world (.query (.getRequest requestId)) (.ok request) after) :
    world.requests.find? requestId = some request ∧ after = world.tick := by
  rcases step with answered | ⟨error, failed, -⟩
  · obtain ⟨found, rfl⟩ := Prod.mk.inj answered
    exact ⟨getById_ok_iff.mp found, rfl⟩
  · cases failed

theorem definition_of_mayFail {ι : Type} {thread : ι} {world after : World} {viewer : Option UUID} {definitionId : UUID}
    {definition : WorkflowDefinition}
    (step : mayFail thread world (.query (.getDefinition viewer definitionId)) (.ok definition) after) :
    world.definitions.find? definitionId = some definition ∧ world.definitionVisible viewer definition = true := by
  obtain ⟨changed, executed, -⟩ := executed_of_mayFail step
  exact getDefinition_ok_iff.mp (congrArg Prod.fst executed)

/-- The constraints of the schema that a statement of the services could break, and the columns of a decision. -/
structure Consistent (world : World) : Prop where
  pointed : ∀ request ∈ world.requests.rows, ∀ stageId, request.currentStageId = some stageId →
    ∃ stage ∈ world.stages.rows, stage.id = stageId
  parent : ∀ stage ∈ world.stages.rows, ∃ request ∈ world.requests.rows, request.id = stage.requestId
  undecided : ∀ stage ∈ world.stages.rows, stage.status = .pending →
    stage.decidedBy = none ∧ stage.decidedAt = none ∧ stage.decisionNote = none
  distinct : ∀ left ∈ world.stages.rows, ∀ right ∈ world.stages.rows, left.requestId = right.requestId →
    left.stageOrder = right.stageOrder → left = right

variable {world after : World}

theorem exists_of_hasRequest {requestId : UUID} (exists_ : world.hasRequest requestId = true) :
    ∃ request ∈ world.requests.rows, request.id = requestId := by
  obtain ⟨request, found⟩ := Option.isSome_iff_exists.mp exists_
  exact ⟨request, (find?_eq_some_iff ..).mp found⟩

theorem exists_of_hasStage {stageId : UUID} (exists_ : world.hasStage stageId = true) :
    ∃ stage ∈ world.stages.rows, stage.id = stageId := by
  obtain ⟨stage, found⟩ := Option.isSome_iff_exists.mp exists_
  exact ⟨stage, (find?_eq_some_iff ..).mp found⟩

/-- Two rows of one stage, in the columns that no update changes. -/
structure SameStage (left right : WorkflowStageRecord) : Prop where
  id : left.id = right.id
  requestId : left.requestId = right.requestId
  stageOrder : left.stageOrder = right.stageOrder
  stageName : left.stageName = right.stageName
  companyId : left.companyId = right.companyId
  createdAt : left.createdAt = right.createdAt

theorem SameStage.refl (stage : WorkflowStageRecord) : SameStage stage stage := ⟨rfl, rfl, rfl, rfl, rfl, rfl⟩

theorem SameStage.trans {first second third : WorkflowStageRecord} (left : SameStage first second)
    (right : SameStage second third) : SameStage first third :=
  ⟨left.id.trans right.id, left.requestId.trans right.requestId, left.stageOrder.trans right.stageOrder,
    left.stageName.trans right.stageName, left.companyId.trans right.companyId, left.createdAt.trans right.createdAt⟩

structure SameRequest (left right : RequestRecord) : Prop where
  id : left.id = right.id
  requesterId : left.requesterId = right.requesterId
  workflowDefinitionId : left.workflowDefinitionId = right.workflowDefinitionId
  companyId : left.companyId = right.companyId

theorem SameRequest.refl (request : RequestRecord) : SameRequest request request := ⟨rfl, rfl, rfl, rfl⟩

theorem SameRequest.trans {first second third : RequestRecord} (left : SameRequest first second)
    (right : SameRequest second third) : SameRequest first third :=
  ⟨left.id.trans right.id, left.requesterId.trans right.requesterId,
    left.workflowDefinitionId.trans right.workflowDefinitionId, left.companyId.trans right.companyId⟩

theorem StageUpdate.fixed {statement : Query} {id version : Nat} {edit : Edit WorkflowStageRecord}
    (update : StageUpdate world statement id version edit) (stage : WorkflowStageRecord) :
    SameStage ((stamped edit version).apply stage) stage := by
  cases update <;> exact ⟨rfl, rfl, rfl, rfl, rfl, rfl⟩

theorem RequestUpdate.fixed {statement : Query} {id version : Nat} {edit : Edit RequestRecord}
    (update : RequestUpdate world statement id version edit) (request : RequestRecord) :
    SameRequest ((stamped edit version).apply request) request := by
  cases update <;> exact ⟨rfl, rfl, rfl, rfl⟩

private theorem undecided_of_update {statement : Query} {id version : Nat} {edit : Edit WorkflowStageRecord}
    (update : StageUpdate world statement id version edit) {stage : WorkflowStageRecord}
    (before : stage.status = .pending → stage.decidedBy = none ∧ stage.decidedAt = none ∧ stage.decisionNote = none)
    (pending : ((stamped edit version).apply stage).status = .pending) :
    ((stamped edit version).apply stage).decidedBy = none ∧ ((stamped edit version).apply stage).decidedAt = none ∧
      ((stamped edit version).apply stage).decisionNote = none := by
  cases update with
  | approve => cases pending
  | reject => cases pending
  | revert => exact ⟨rfl, rfl, rfl⟩
  | escalate => exact before pending

theorem mem_modify_stages {id version : Nat} {edit : Edit WorkflowStageRecord} {stage : WorkflowStageRecord}
    (member : stage ∈ (world.stages.modify id (stamped edit version)).rows) :
    (stage ∈ world.stages.rows ∧ stage.id ≠ id) ∨
      ∃ old ∈ world.stages.rows, old.id = id ∧ stage = (stamped edit version).apply old :=
  (mem_modify ..).mp member

private theorem origin_of_update {statement : Query} {id version : Nat} {edit : Edit WorkflowStageRecord}
    (update : StageUpdate world statement id version edit) {stage : WorkflowStageRecord}
    (member : stage ∈ (world.stages.modify id (stamped edit version)).rows) :
    ∃ old ∈ world.stages.rows, SameStage stage old := by
  rcases mem_modify_stages member with ⟨kept, -⟩ | ⟨old, present, -, rfl⟩
  · exact ⟨stage, kept, .refl stage⟩
  · exact ⟨old, present, update.fixed old⟩

theorem Change.stage_origin {statement : Query} (change : world.Change statement after) {stage : WorkflowStageRecord}
    (member : stage ∈ after.stages.rows) :
    (∃ old ∈ world.stages.rows, SameStage stage old) ∨ world.stages.next ≤ stage.id := by
  cases change with
  | stage update => exact .inl (origin_of_update update member)
  | newStage =>
      rcases (mem_insert ..).mp member with present | rfl
      · exact .inl ⟨stage, present, .refl stage⟩
      · exact .inr (Nat.le_refl _)
  | removedStage => exact .inl ⟨stage, ((mem_erase ..).mp member).1, .refl stage⟩
  | elsewhere _ stages => exact .inl ⟨stage, stages ▸ member, .refl stage⟩
  | _ => exact .inl ⟨stage, member, .refl stage⟩

theorem Change.request_origin {statement : Query} (change : world.Change statement after) {request : RequestRecord}
    (member : request ∈ after.requests.rows) :
    (∃ old ∈ world.requests.rows, SameRequest request old) ∨ world.requests.next ≤ request.id := by
  cases change with
  | request update =>
      rcases (mem_modify ..).mp member with ⟨kept, -⟩ | ⟨old, present, -, rfl⟩
      · exact .inl ⟨request, kept, .refl request⟩
      · exact .inl ⟨old, present, update.fixed old⟩
  | newRequest =>
      rcases (mem_insert ..).mp member with present | rfl
      · exact .inl ⟨request, present, .refl request⟩
      · exact .inr (Nat.le_refl _)
  | elsewhere requests => exact .inl ⟨request, requests ▸ member, .refl request⟩
  | _ => exact .inl ⟨request, member, .refl request⟩

theorem exists_in_modified (id version : Nat) (edit : Edit WorkflowStageRecord) {stage : WorkflowStageRecord}
    (member : stage ∈ world.stages.rows) :
    ∃ new ∈ (world.stages.modify id (stamped edit version)).rows, new.id = stage.id := by
  refine ⟨editRow id (stamped edit version) stage, List.mem_map_of_mem member, ?_⟩
  exact key_editRow id (stamped edit version) stage

theorem Consistent.change {statement : Query} (consistent : world.Consistent)
    (change : world.Change statement after) : after.Consistent := by
  cases change with
  | stage update found current =>
      constructor
      · intro request member stageId points
        obtain ⟨stage, present, rfl⟩ := consistent.pointed request member stageId points
        exact exists_in_modified _ _ _ present
      · intro stage member
        obtain ⟨old, present, same⟩ := origin_of_update update member
        exact same.requestId ▸ consistent.parent old present
      · intro stage member
        rcases mem_modify_stages member with ⟨kept, -⟩ | ⟨old, present, -, rfl⟩
        · exact consistent.undecided stage kept
        · exact undecided_of_update update (consistent.undecided old present)
      · intro left leftMember right rightMember sameRequest sameOrder
        obtain ⟨oldLeft, leftPresent, leftSame⟩ := origin_of_update update leftMember
        obtain ⟨oldRight, rightPresent, rightSame⟩ := origin_of_update update rightMember
        have same := consistent.distinct oldLeft leftPresent oldRight rightPresent
          (leftSame.requestId.symm.trans (sameRequest.trans rightSame.requestId))
          (leftSame.stageOrder.symm.trans (sameOrder.trans rightSame.stageOrder))
        exact eq_of_key_eq _ leftMember rightMember (leftSame.id.trans (same ▸ rightSame.id.symm))
  | request update found current =>
      refine ⟨?_, ?_, consistent.undecided, consistent.distinct⟩
      · intro request member stageId points
        rcases (mem_modify ..).mp member with ⟨kept, -⟩ | ⟨old, present, -, rfl⟩
        · exact consistent.pointed request kept stageId points
        · cases update with
          | setCurrentStage _ _ currentStageId _ _ valid =>
              have target : currentStageId = some stageId := points
              subst target
              exact exists_of_hasStage valid
          | _ => exact consistent.pointed old present stageId points
      · intro stage member
        obtain ⟨request, present, sameId⟩ := consistent.parent stage member
        refine ⟨editRow _ _ request, List.mem_map_of_mem present, ?_⟩
        exact (key_editRow _ _ request).trans sameId
  | newStage positive distinct parent =>
      refine ⟨?_, ?_, ?_, ?_⟩
      · intro request member stageId points
        obtain ⟨stage, present, same⟩ := consistent.pointed request member stageId points
        exact ⟨stage, List.mem_append_left _ present, same⟩
      · intro stage member
        rcases (mem_insert ..).mp member with present | rfl
        · exact consistent.parent stage present
        · exact exists_of_hasRequest parent
      · intro stage member
        rcases (mem_insert ..).mp member with present | rfl
        · exact consistent.undecided stage present
        · exact fun _ => ⟨rfl, rfl, rfl⟩
      · intro left leftMember right rightMember sameRequest sameOrder
        rcases (mem_insert ..).mp leftMember with leftPresent | rfl
        · rcases (mem_insert ..).mp rightMember with rightPresent | rfl
          · exact consistent.distinct left leftPresent right rightPresent sameRequest sameOrder
          · exact absurd sameOrder (distinct left leftPresent sameRequest)
        · rcases (mem_insert ..).mp rightMember with rightPresent | rfl
          · exact absurd sameOrder.symm (distinct right rightPresent sameRequest.symm)
          · rfl
  | newRequest =>
      refine ⟨?_, ?_, consistent.undecided, consistent.distinct⟩
      · intro request member stageId points
        rcases (mem_insert ..).mp member with present | rfl
        · exact consistent.pointed request present stageId points
        · cases points
      · intro stage member
        obtain ⟨request, present, same⟩ := consistent.parent stage member
        exact ⟨request, List.mem_append_left _ present, same⟩
  | @removedStage id version row found current unreferenced =>
      have kept : ∀ {stage : WorkflowStageRecord}, stage ∈ (world.stages.erase id).rows → stage ∈ world.stages.rows :=
        fun member => ((mem_erase ..).mp member).1
      refine ⟨?_, fun stage member => consistent.parent stage (kept member),
        fun stage member => consistent.undecided stage (kept member),
        fun left leftMember right rightMember => consistent.distinct left (kept leftMember) right (kept rightMember)⟩
      intro request member stageId points
      obtain ⟨stage, present, rfl⟩ := consistent.pointed request member stageId points
      refine ⟨stage, (mem_erase ..).mpr ⟨present, fun same => ?_⟩, rfl⟩
      exact unreferenced request member (points.trans (congrArg some same))
  | elsewhere requests stages =>
      rcases consistent with ⟨pointed, parent, undecided, distinct⟩
      rw [← requests] at pointed parent
      rw [← stages] at pointed parent undecided distinct
      exact ⟨pointed, parent, undecided, distinct⟩

theorem Consistent.tick (consistent : world.Consistent) : world.tick.Consistent :=
  ⟨consistent.pointed, consistent.parent, consistent.undecided, consistent.distinct⟩

theorem Consistent.mayFail {ι : Type} {thread : ι} {request : Call} {reply : request.Reply}
    (consistent : world.Consistent) (step : mayFail thread world request reply after) : after.Consistent := by
  rcases change_of_mayFail step with ⟨statement, changed, -, change, rfl⟩ | ⟨requests, stages, profiles⟩
  · exact (consistent.change change).tick
  · exact consistent.change (Change.elsewhere requests stages profiles : world.Change (.getRequest 0) after)

/-- The row was in the table; its fixed columns are still those of the row under its key. -/
structure RecallsStage (world : World) (stage : WorkflowStageRecord) : Prop where
  seen : Seen world.stages stage
  same : ∀ row ∈ world.stages.rows, row.id = stage.id → SameStage row stage

structure RecallsRequest (world : World) (request : RequestRecord) : Prop where
  seen : Seen world.requests request
  same : ∀ row ∈ world.requests.rows, row.id = request.id → SameRequest row request

theorem recallsStage_of_mem {stage : WorkflowStageRecord} (member : stage ∈ world.stages.rows) :
    world.RecallsStage stage where
  seen := seen_of_mem member
  same := fun _ present keyed => world.stages.eq_of_key_eq present member keyed ▸ .refl stage

theorem recallsRequest_of_mem {request : RequestRecord} (member : request ∈ world.requests.rows) :
    world.RecallsRequest request where
  seen := seen_of_mem member
  same := fun _ present keyed => world.requests.eq_of_key_eq present member keyed ▸ .refl request

section Recalling

variable {ι : Type} {thread : ι} {request : Call} {reply : request.Reply}

theorem stage_origin_of_mayFail (step : mayFail thread world request reply after) {stage : WorkflowStageRecord}
    (member : stage ∈ after.stages.rows) :
    (∃ old ∈ world.stages.rows, SameStage stage old) ∨ world.stages.next ≤ stage.id := by
  rcases change_of_mayFail step with ⟨statement, changed, -, change, rfl⟩ | ⟨-, stages, -⟩
  · exact change.stage_origin member
  · exact .inl ⟨stage, stages ▸ member, .refl stage⟩

theorem request_origin_of_mayFail (step : mayFail thread world request reply after) {row : RequestRecord}
    (member : row ∈ after.requests.rows) :
    (∃ old ∈ world.requests.rows, SameRequest row old) ∨ world.requests.next ≤ row.id := by
  rcases change_of_mayFail step with ⟨statement, changed, -, change, rfl⟩ | ⟨requests, -, -⟩
  · exact change.request_origin member
  · exact .inl ⟨row, requests ▸ member, .refl row⟩

theorem RecallsStage.mayFail {stage : WorkflowStageRecord} (recalls : world.RecallsStage stage)
    (step : mayFail thread world request reply after) : after.RecallsStage stage where
  seen := recalls.seen.evolves (evolves_stages_of_mayFail step)
  same := by
    intro row member keyed
    rcases stage_origin_of_mayFail step member with ⟨old, present, same⟩ | fresh
    · exact same.trans (recalls.same old present (same.id.symm.trans keyed))
    · exact absurd (Nat.lt_of_lt_of_le recalls.seen.used fresh) (by simp [keyed])

theorem RecallsRequest.mayFail {remembered : RequestRecord} (recalls : world.RecallsRequest remembered)
    (step : mayFail thread world request reply after) : after.RecallsRequest remembered where
  seen := recalls.seen.evolves (evolves_requests_of_mayFail step)
  same := by
    intro row member keyed
    rcases request_origin_of_mayFail step member with ⟨old, present, same⟩ | fresh
    · exact same.trans (recalls.same old present (same.id.symm.trans keyed))
    · exact absurd (Nat.lt_of_lt_of_le recalls.seen.used fresh) (by simp [keyed])

end Recalling

end World

end AutomationHub.Database
