import AutomationHub.System.PinnedDefinitions
import AutomationHub.System.RequestVisibility

/-!
What the progress view of a request shows of its stages, its definition and its audit trail.
-/

set_option autoImplicit false

namespace AutomationHub.System

open Foundation Model Database Services Auth Program Table

/-- The audit trail of the request has an escalation of the stage. -/
def EscalationLogged (world : World) (requestId stageId : UUID) : Prop :=
  ∃ entry ∈ world.audit.rows, entry.requestId = some requestId ∧ entry.action = .stageEscalated ∧
    entry.metadata.bind AuditMetadata.stageId = some stageId

/-- The view shows the request's progress as the rows have it. -/
structure ProgressFaithful (world : World) (requestId : UUID) (definition : WorkflowDefinition)
    (progress : WorkflowProgress) : Prop where
  existing : ∀ detail ∈ progress.stages, ∃ stage ∈ world.stages.rows, stage.requestId = requestId ∧
    stage.id = detail.stageId ∧ stage.stageOrder = detail.stageOrder ∧ stage.status = detail.status
  once : ∀ entry ∈ definition.definition.stages,
    (progress.stages.map WorkflowStageDetail.stageOrder ++
      progress.upcomingStages.map UpcomingStage.stageOrder).count entry.order = 1
  current : (∃ stage ∈ world.stages.rows, stage.requestId = requestId ∧ stage.status = .pending ∧
      stage.stageOrder = progress.currentStageOrder) ∨
    (∀ stage ∈ world.stages.rows, stage.requestId = requestId → stage.status ≠ .pending) ∧
      world.highestStageOrder requestId = progress.currentStageOrder
  escalated : ∀ detail ∈ progress.stages,
    detail.isEscalated = true ↔ EscalationLogged world requestId detail.stageId

/-- The pending stage, or the last one if none is pending, is among the first hundred stages. -/
def CurrentShown (world : World) (requestId : UUID) : Prop :=
  (∃ stage ∈ firstRows (world.stagesOf requestId), stage.status = .pending) ∨
    (∀ stage ∈ world.stages.rows, stage.requestId = requestId → stage.status ≠ .pending) ∧
      (world.stagesOf requestId).length ≤ 100

/-- Each of the first hundred stages that was escalated has an escalation among the first hundred audit entries. -/
def EscalationsShown (world : World) (requestId : UUID) : Prop :=
  ∀ stage ∈ firstRows (world.stagesOf requestId), EscalationLogged world requestId stage.id →
    ∃ entry ∈ firstRows (world.auditLogsOfRequest requestId), entry.action = .stageEscalated ∧
      entry.metadata.bind AuditMetadata.stageId = some stage.id

section Stages

variable {world : World} {requestId : UUID}

theorem pairwise_orderBy {α : Type} (key : α → Nat) (rows : List α) :
    (orderBy (fun first second => decide (key first ≤ key second)) rows).Pairwise
      fun first second => key first ≤ key second := by
  have total : Std.Total fun first second : α => decide (key first ≤ key second) = true :=
    ⟨fun first second => by simpa using Nat.le_total (key first) (key second)⟩
  have transitive : IsTrans α fun first second : α => decide (key first ≤ key second) = true :=
    ⟨fun first second third => by simpa using Nat.le_trans⟩
  refine (List.pairwise_insertionSort _ rows).imp ?_
  intro first second related
  simpa using related

theorem foldr_max_of_sorted {α : Type} {key : α → Nat} {rows : List α}
    (sorted : rows.Pairwise fun first second => key first < key second) :
    (rows.map key).foldr max 0 = rows.getLast?.elim 0 key := by
  induction rows with
  | nil => rfl
  | cons first rest recurse =>
      obtain ⟨before, sorted⟩ := List.pairwise_cons.mp sorted
      rw [List.map_cons, List.foldr_cons, recurse sorted]
      cases rest with
      | nil => simp
      | cons second rest =>
          have nonempty : second :: rest ≠ [] := List.cons_ne_nil _ _
          rw [List.getLast?_cons_cons, List.getLast?_eq_some_getLast nonempty]
          exact max_eq_right (before _ (List.getLast_mem nonempty)).le

theorem sorted_stagesOf (consistent : world.Consistent) (requestId : UUID) :
    (world.stagesOf requestId).Pairwise fun first second => first.stageOrder < second.stageOrder := by
  have ordered : (world.stagesOf requestId).Pairwise fun first second => first.stageOrder ≤ second.stageOrder :=
    pairwise_orderBy WorkflowStageRecord.stageOrder _
  have distinct : (world.stagesOf requestId).Nodup := by
    rw [World.stagesOf, orderBy]
    exact (List.perm_insertionSort _ _).nodup_iff.mpr (List.Nodup.filter _ (List.Nodup.of_map _ world.stages.distinct))
  refine (ordered.and distinct).imp_of_mem ?_
  intro first second left right sorted
  obtain ⟨among, owned⟩ := mem_stagesOf.mp left
  obtain ⟨also, belongs⟩ := mem_stagesOf.mp right
  refine lt_of_le_of_ne sorted.1 fun same => sorted.2 ?_
  exact consistent.distinct first among second also (owned.trans belongs.symm) same

theorem highestStageOrder_eq (consistent : world.Consistent) (requestId : UUID) :
    world.highestStageOrder requestId = (world.stagesOf requestId).getLast?.elim 0 WorkflowStageRecord.stageOrder := by
  rw [← foldr_max_of_sorted (sorted_stagesOf consistent requestId), World.highestStageOrder, World.stagesOf, orderBy]
  exact ((List.perm_insertionSort _ _).map _).symm.foldr_eq 0

end Stages

section Details

variable {world : World} {requestId : UUID}

/-- What the view shows of a stage, apart from names and dates. -/
def Shows (escalated : List UUID) (stage : WorkflowStageRecord) (detail : WorkflowStageDetail) : Prop :=
  detail.stageId = stage.id ∧ detail.stageOrder = stage.stageOrder ∧ detail.status = stage.status ∧
    detail.isEscalated = escalated.contains stage.id

theorem reads_shownDetails (escalated : List UUID) (names : DisplayNames) (stages : List WorkflowStageRecord) :
    ∃ details, Reads world (stageDetails escalated names stages) details ∧
      List.Forall₂ (Shows escalated) stages details := by
  induction stages generalizing names with
  | nil => exact ⟨[], reads_done _, .nil⟩
  | cons stage rest recurse =>
      obtain ⟨assigned, assignedRead⟩ := @reads_resolveProfileName world names stage.assignedTo
      obtain ⟨decided, decidedRead⟩ := @reads_resolveProfileName world assigned.1 stage.decidedBy
      obtain ⟨details, restRead, shown⟩ := recurse decided.1
      exact ⟨_, reads_bind assignedRead (reads_bind decidedRead (reads_bind restRead (reads_done _))),
        .cons ⟨rfl, rfl, rfl, rfl⟩ shown⟩

/-- The view of a request is made of the first hundred stages and audit entries and the definition that is shown. -/
theorem progress_returned_iff {identity : AuthenticatedIdentity} {record : RequestRecord}
    (returned : ((getRequest identity requestId).run environment world).1 = .ok record) :
    ∃ details, List.Forall₂ (Shows (escalatedStageIds (firstRows (world.auditLogsOfRequest requestId))))
        (firstRows (world.stagesOf requestId)) details ∧
      ∀ progress, ((Services.getWorkflowProgress identity requestId).run environment world).1 = .ok progress ↔
        ∃ definition, world.definitions.find? record.workflowDefinitionId = some definition ∧
          world.definitionVisible (some identity.userId) definition = true ∧ progress = progressOf definition details := by
  obtain ⟨ticks, unmoved⟩ := unmoved_of_only (progressCall_getRequest identity requestId) world
  have stages : Reads world (orTranslate (.listStagesForRequest requestId .firstHundred))
      (paginate (world.stagesOf requestId) .firstHundred) := reads_orTranslate fun _ => rfl
  have entries : Reads world (orTranslate (.listAuditLogsForRequest requestId .firstHundred))
      (paginate (world.auditLogsOfRequest requestId) .firstHundred) := reads_orTranslate fun _ => rfl
  obtain ⟨details, detailed, shown⟩ := @reads_shownDetails world
    (escalatedStageIds (firstRows (world.auditLogsOfRequest requestId))) [] (firstRows (world.stagesOf requestId))
  refine ⟨details, shown, fun progress => ?_⟩
  obtain ⟨second, stagesRun⟩ := stages ticks
  obtain ⟨third, entriesRun⟩ := entries second
  obtain ⟨fourth, detailsRun⟩ := detailed third
  rw [Services.getWorkflowProgress, run_bind_of_ok returned, unmoved, run_bind, stagesRun, continueRun_ok, run_bind,
    entriesRun, continueRun_ok, items_firstHundred, items_firstHundred, run_bind, detailsRun, continueRun_ok, run_bind,
    run_orNotFound]
  have looked : (world.atTick fourth).execute
      (.getDefinition (some identity.userId) record.workflowDefinitionId) =
        (world.getDefinition (some identity.userId) record.workflowDefinitionId, world.atTick fourth) := rfl
  rw [looked]
  cases outcome : world.getDefinition (some identity.userId) record.workflowDefinitionId with
  | error error =>
      constructor
      · intro shown
        cases shown
      · intro shown
        obtain ⟨definition, kept, visible, -⟩ := shown
        rw [World.getDefinition_ok_iff.mpr ⟨kept, visible⟩] at outcome
        cases outcome
  | ok definition =>
      obtain ⟨kept, visible⟩ := World.getDefinition_ok_iff.mp outcome
      constructor
      · intro same
        cases same
        exact ⟨definition, kept, visible, rfl⟩
      · intro shown
        obtain ⟨other, also, -, rfl⟩ := shown
        cases kept.symm.trans also
        rfl

theorem orders_of_shown {escalated : List UUID} {stages : List WorkflowStageRecord} {details : List WorkflowStageDetail}
    (shown : List.Forall₂ (Shows escalated) stages details) :
    details.map WorkflowStageDetail.stageOrder = stages.map WorkflowStageRecord.stageOrder := by
  induction shown with
  | nil => rfl
  | cons first _ recurse => rw [List.map_cons, List.map_cons, recurse, first.2.1]

/-- The current order that the view computes is the one computed from the stages themselves. -/
theorem currentOrder_of_shown {escalated : List UUID} {stages : List WorkflowStageRecord}
    {details : List WorkflowStageDetail} (shown : List.Forall₂ (Shows escalated) stages details) :
    ((details.find? fun detail => detail.status == .pending).or details.getLast?).elim 0 WorkflowStageDetail.stageOrder =
      ((stages.find? fun stage => stage.status == .pending).or stages.getLast?).elim 0 WorkflowStageRecord.stageOrder := by
  have marked : details.map (fun detail => (detail.stageOrder, detail.status)) =
      stages.map fun stage => (stage.stageOrder, stage.status) := by
    induction shown with
    | nil => rfl
    | cons first _ recurse => rw [List.map_cons, List.map_cons, recurse, first.2.1, first.2.2.1]
  have pending := congrArg (fun rows => rows.find? fun row => row.2 == StageStatus.pending) marked
  have last := congrArg List.getLast? marked
  simp only [List.find?_map, List.getLast?_map, Function.comp_def] at pending last
  have position : ∀ {α : Type} (order : α → Nat) (status : α → StageStatus) (row : Option α),
      row.elim 0 order = (row.map fun row => (order row, status row)).elim 0 Prod.fst := by
    intro α order status row
    cases row <;> rfl
  rw [position _ WorkflowStageDetail.status, position _ WorkflowStageRecord.status, Option.map_or, Option.map_or, pending,
    last]

theorem mem_of_forall₂ {α β : Type} {related : α → β → Prop} {left : List α} {right : List β}
    (paired : List.Forall₂ related left right) :
    (∀ second ∈ right, ∃ first ∈ left, related first second) ∧ ∀ first ∈ left, ∃ second ∈ right, related first second := by
  induction paired with
  | nil => simp
  | cons both _ recurse =>
      simp only [List.mem_cons, exists_eq_or_imp, forall_eq_or_imp]
      exact ⟨⟨.inl both, fun second member => .inr (recurse.1 second member)⟩,
        .inl both, fun first member => .inr (recurse.2 first member)⟩

end Details

section Progress

variable {world : World} {requestId : UUID}

theorem mem_escalatedStageIds {stageId : UUID} {entries : List AuditLogRecord} :
    stageId ∈ escalatedStageIds entries ↔ ∃ entry ∈ entries, entry.action = .stageEscalated ∧
      entry.metadata.bind AuditMetadata.stageId = some stageId := by
  simp only [escalatedStageIds, List.mem_filterMap]
  refine exists_congr fun entry => and_congr_right fun _ => ?_
  split <;> simp [*]

theorem escalationLogged_of_shown {stageId : UUID}
    (shown : ∃ entry ∈ firstRows (world.auditLogsOfRequest requestId), entry.action = .stageEscalated ∧
      entry.metadata.bind AuditMetadata.stageId = some stageId) : EscalationLogged world requestId stageId := by
  obtain ⟨entry, listed, escalated, named⟩ := shown
  have member := List.mem_of_mem_take listed
  simp only [World.auditLogsOfRequest, mem_orderBy, List.mem_filter, beq_iff_eq] at member
  exact ⟨entry, member.1, member.2, escalated, named⟩

/-- Each order of the definition is shown once, with a stage that exists or as an upcoming one. -/
theorem shown_once (definition : WorkflowDefinition) {details : List WorkflowStageDetail}
    (distinct : (details.map WorkflowStageDetail.stageOrder).Nodup) {entry : StageDefinition}
    (listed : entry ∈ definition.definition.stages) :
    ((progressOf definition details).stages.map WorkflowStageDetail.stageOrder ++
      (progressOf definition details).upcomingStages.map UpcomingStage.stageOrder).count entry.order = 1 := by
  have ordered := List.perm_insertionSort (fun left right : StageDefinition => left.order ≤ right.order)
    definition.definition.stages
  have upcoming : (progressOf definition details).upcomingStages.map UpcomingStage.stageOrder =
      (definition.definition.orderedStages.map StageDefinition.order).filter fun order =>
        !(details.map WorkflowStageDetail.stageOrder).contains order := by
    simp only [progressOf, List.map_map, List.filter_map]
    rfl
  have single : (definition.definition.orderedStages.map StageDefinition.order).count entry.order = 1 :=
    List.count_eq_one_of_mem ((ordered.map _).nodup_iff.mpr definition.definition.distinct)
      (List.mem_map_of_mem (ordered.mem_iff.mpr listed))
  rw [List.count_append, upcoming]
  by_cases existing : entry.order ∈ details.map WorkflowStageDetail.stageOrder
  · have absent : entry.order ∉ (definition.definition.orderedStages.map StageDefinition.order).filter fun order =>
        !(details.map WorkflowStageDetail.stageOrder).contains order := by
      intro member
      have missing := (List.mem_filter.mp member).2
      simp only [List.contains_iff_mem.mpr existing, Bool.not_true] at missing
      cases missing
    rw [List.count_eq_zero_of_not_mem absent]
    exact List.count_eq_one_of_mem distinct existing
  · have kept : (fun order => !(details.map WorkflowStageDetail.stageOrder).contains order) entry.order = true := by
      simpa using existing
    have retained : ((definition.definition.orderedStages.map StageDefinition.order).filter fun order =>
        !(details.map WorkflowStageDetail.stageOrder).contains order).count entry.order = 1 :=
      (List.count_filter (by exact kept)).trans single
    rw [retained]
    exact congrArg (· + 1) (List.count_eq_zero_of_not_mem existing)

theorem current_iff (consistent : world.Consistent) {escalated : List UUID} {details : List WorkflowStageDetail}
    (shown : List.Forall₂ (Shows escalated) (firstRows (world.stagesOf requestId)) details)
    (definition : WorkflowDefinition) :
    ((∃ stage ∈ world.stages.rows, stage.requestId = requestId ∧ stage.status = .pending ∧
        stage.stageOrder = (progressOf definition details).currentStageOrder) ∨
      (∀ stage ∈ world.stages.rows, stage.requestId = requestId → stage.status ≠ .pending) ∧
        world.highestStageOrder requestId = (progressOf definition details).currentStageOrder) ↔
      CurrentShown world requestId := by
  have position := @shown_position_iff _ WorkflowStageRecord.stageOrder (fun stage => stage.status == .pending) _
    (sorted_stagesOf consistent requestId) 100 (by decide)
  have current : (progressOf definition details).currentStageOrder = _ := currentOrder_of_shown shown
  rw [current, highestStageOrder_eq consistent]
  simp only [mem_stagesOf, and_assoc, and_imp, beq_iff_eq, beq_eq_false_iff_ne] at position
  exact position.trans Iff.rfl

/-- For everyone who may open the request: the view is returned and faithful exactly if the pinned definition is shown to
the caller and neither the current stage nor an escalation of a stage shown lies behind the first hundred rows. -/
theorem progress_faithful_iff (consistent : world.Consistent) {identity : AuthenticatedIdentity} {record : RequestRecord}
    (opens : ((getRequest identity requestId).run environment world).1 = .ok record) :
    (∃ progress definition, ((Services.getWorkflowProgress identity requestId).run environment world).1 = .ok progress ∧
      world.definitions.find? record.workflowDefinitionId = some definition ∧
      ProgressFaithful world requestId definition progress) ↔
      ShowsPinned identity requestId world ∧ CurrentShown world requestId ∧ EscalationsShown world requestId := by
  obtain ⟨found, -⟩ := getRequest_ok opens
  obtain ⟨details, shown, returns⟩ := progress_returned_iff opens
  obtain ⟨origin, presented⟩ := mem_of_forall₂ shown
  constructor
  · intro returned
    obtain ⟨progress, definition, returned, pinned, faithful⟩ := returned
    obtain ⟨other, also, visible, rfl⟩ := (returns progress).mp returned
    cases pinned.symm.trans also
    refine ⟨⟨record, definition, found, pinned, visible⟩, (current_iff consistent shown definition).mp faithful.current, ?_⟩
    intro stage listed logged
    obtain ⟨detail, member, id, -, -, escalated⟩ := presented stage listed
    have marked := (faithful.escalated detail member).mpr (id ▸ logged)
    rw [escalated, List.contains_iff_mem] at marked
    exact mem_escalatedStageIds.mp marked
  · intro within
    obtain ⟨⟨request, definition, located, pinned, visible⟩, current, escalations⟩ := within
    cases found.symm.trans located
    refine ⟨_, definition, (returns _).mpr ⟨definition, pinned, visible, rfl⟩, pinned, ?_, ?_,
      (current_iff consistent shown definition).mpr current, ?_⟩
    · intro detail member
      obtain ⟨stage, listed, id, order, status, -⟩ := origin detail member
      obtain ⟨stored, owned⟩ := mem_stagesOf.mp (List.mem_of_mem_take listed)
      exact ⟨stage, stored, owned, id.symm, order.symm, status.symm⟩
    · intro entry listed
      refine shown_once definition ?_ listed
      rw [orders_of_shown shown]
      refine List.Pairwise.map _ ?_ ((sorted_stagesOf consistent requestId).sublist (List.take_sublist ..))
      exact fun first second => Nat.ne_of_lt
    · intro detail member
      obtain ⟨stage, listed, id, -, -, escalated⟩ := origin detail member
      rw [escalated, List.contains_iff_mem, mem_escalatedStageIds, id]
      exact ⟨escalationLogged_of_shown, escalations stage listed⟩

end Progress

section Sample

theorem hubWithLongRequest_consistent : hubWithLongRequest.Consistent where
  pointed := by decide +kernel
  parent := by decide +kernel
  undecided := by decide +kernel
  distinct := by decide +kernel

/-- What the administrator sees of the request that waits for its hundred and first stage. -/
def longProgress : Option WorkflowProgress :=
  ((Services.getWorkflowProgress sampleAdmin 1).run environment hubWithLongRequest).1.toOption

theorem progress_faithful_iff_long :
    longProgress.map WorkflowProgress.currentStageOrder = some 100 ∧
      ¬∃ progress definition,
        ((Services.getWorkflowProgress sampleAdmin 1).run environment hubWithLongRequest).1 = .ok progress ∧
        hubWithLongRequest.definitions.find? longRequest.workflowDefinitionId = some definition ∧
        ProgressFaithful hubWithLongRequest 1 definition progress := by
  have opens : ((getRequest sampleAdmin 1).run environment hubWithLongRequest).1 = .ok longRequest := by decide +kernel
  refine ⟨by decide +kernel, ?_⟩
  rw [progress_faithful_iff hubWithLongRequest_consistent opens]
  intro shown
  rcases shown.2.1 with pending | ⟨-, short⟩
  · revert pending
    decide +kernel
  · revert short
    decide +kernel

/-- The view reports stage 100 as the current one of a request that waits for stage 101. -/
theorem current_order_behind :
    (hubWithLongRequest.stages.rows.filter fun stage => stage.requestId == 1 && stage.status == .pending).map
      WorkflowStageRecord.stageOrder = [101] ∧
    longProgress.map WorkflowProgress.currentStageOrder = some 100 := by
  constructor <;> decide +kernel

end Sample

end AutomationHub.System
