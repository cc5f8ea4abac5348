import AutomationHub.Analytics.OperationalProperties
import AutomationHub.Services.ServiceRuns
import AutomationHub.System.SerialRuns

/-!
The pending stages that the SLA figures count, and the active requests of the dashboard.
-/

set_option autoImplicit false

namespace AutomationHub.System

open Foundation Model Database Services Auth Workflow Scheduler Analytics Program Table

section Eligibility

/-- The escalation job, evaluating the stage at the instant `now`, queues its escalation. -/
def escalationJobConsiders (world : World) (now : Datetime) (stage : WorkflowStageRecord) : Bool :=
  let evaluated := (evaluateAndEscalateIfEligible .queued [] stage).run environment { world with clock := fun _ => now }
  world.jobs.rows.length < evaluated.2.jobs.rows.length

variable {world : World} {now : Datetime} {stage : WorkflowStageRecord} {request : RequestRecord}
  {definition : WorkflowDefinition}

theorem run_loadStageContext (found : world.requests.find? stage.requestId = some request)
    (pinned : world.definitions.find? request.workflowDefinitionId = some definition) :
    (loadStageContext [] stage).run environment world =
      (.ok ([(request.workflowDefinitionId, definition)],
        match definition.definition.stages.find? (fun entry => entry.order == stage.stageOrder) with
        | none => .error (.stageNotFoundInDefinition stage.stageOrder)
        | some stageDefinition => .ok { request, stageDefinition }), world.tick.tick) := by
  have fetched : (orRaise (.getRequest stage.requestId) : Service RequestRecord).run environment world =
      (.ok request, world.tick) := by
    refine (run_orRaise _ world).trans ?_
    simp [World.execute, World.getRequest, getById, found, Except.mapError]
  have resolved : (orRaise (.getDefinition none request.workflowDefinitionId) : Service WorkflowDefinition).run
      environment world.tick = (.ok definition, world.tick.tick) := by
    refine (run_orRaise _ world.tick).trans ?_
    simp [World.execute, World.getDefinition, pinned, World.definitionVisible, Except.mapError]
  unfold loadStageContext cachedDefinition
  rw [run_bind, fetched]
  simp only [continueRun_ok, List.lookup_nil, run_bind, resolved, pure_eq, Program.run]
  cases definition.definition.stages.find? (fun entry => entry.order == stage.stageOrder) <;> rfl


/-- What the job does with a stage once it knows whether the stage is eligible. -/
def escalateIf (cache : DefinitionCache) (stage : WorkflowStageRecord) (eligible : Bool) :
    Service (DefinitionCache × Except AppError Unit) := do
  return (cache, ← Scheduler.caught do
    if eligible then Jobs.JobDispatcher.queued.enqueue "escalation" (.escalateStage stage.id) .high 3 stage.requestId)

theorem jobs_escalateIf (cache : DefinitionCache) (eligible : Bool) (world : World) :
    ((escalateIf cache stage eligible).run environment world).2.jobs.rows.length =
      if eligible then world.jobs.rows.length + 1 else world.jobs.rows.length := by
  cases eligible with
  | false => rfl
  | true => exact List.length_append

theorem jobs_evaluated_of_entry (found : world.requests.find? stage.requestId = some request)
    (pinned : world.definitions.find? request.workflowDefinitionId = some definition) {entry : StageDefinition}
    (located : definition.definition.stages.find? (fun entry => entry.order == stage.stageOrder) = some entry) :
    ((evaluateAndEscalateIfEligible .queued [] stage).run environment world).2.jobs.rows.length =
      if Workflow.isStageEscalationEligible stage.createdAt entry.escalationHours world.tick.tick.now = .ok true then
        world.jobs.rows.length + 1
      else world.jobs.rows.length := by
  have loaded := run_loadStageContext found pinned
  rw [located] at loaded
  unfold evaluateAndEscalateIfEligible
  rw [run_bind, loaded]
  simp only [continueRun_ok]
  unfold Scheduler.isStageEscalationEligible Workflow.isStageEscalationEligible
  cases computeThreshold stage.createdAt entry.escalationHours with
  | error error => rfl
  | ok threshold =>
      refine (jobs_escalateIf [(request.workflowDefinitionId, definition)] (isPast threshold world.tick.tick.now)
        world.tick.tick.tick).trans ?_
      exact if_congr (by simp [bind, Except.bind, pure, Except.pure]) rfl rfl

theorem jobs_evaluated_of_missing (found : world.requests.find? stage.requestId = some request)
    (pinned : world.definitions.find? request.workflowDefinitionId = some definition)
    (missing : definition.definition.stages.find? (fun entry => entry.order == stage.stageOrder) = none) :
    ((evaluateAndEscalateIfEligible .queued [] stage).run environment world).2.jobs.rows.length =
      world.jobs.rows.length := by
  have loaded := run_loadStageContext found pinned
  rw [missing] at loaded
  unfold evaluateAndEscalateIfEligible
  rw [run_bind, loaded]
  rfl

theorem escalationJobConsiders_iff (found : world.requests.find? stage.requestId = some request)
    (pinned : world.definitions.find? request.workflowDefinitionId = some definition) :
    escalationJobConsiders world now stage = true ↔
      ∃ entry, definition.definition.stages.find? (fun entry => entry.order == stage.stageOrder) = some entry ∧
        Workflow.isStageEscalationEligible stage.createdAt entry.escalationHours now = .ok true := by
  unfold escalationJobConsiders
  cases located : definition.definition.stages.find? (fun entry => entry.order == stage.stageOrder) with
  | none =>
      have unchanged := @jobs_evaluated_of_missing { world with clock := fun _ => now } _ _ _ found pinned located
      simp [unchanged]
  | some entry =>
      have evaluated := @jobs_evaluated_of_entry { world with clock := fun _ => now } _ _ _ found pinned _ located
      have instant : ({ world with clock := fun _ => now } : World).tick.tick.now = now := rfl
      rw [instant] at evaluated
      simp only [evaluated, decide_eq_true_eq, Option.some.injEq, exists_eq_left']
      split <;> simp [*]

end Eligibility

section Figures

/-- The workflow is in step, and each request belongs to the company of its definition. -/
structure InOrder (world : World) : Prop where
  inStep : (workflowOf world).InStep
  pinned : ∀ {requestId request}, (workflowOf world).requests requestId = some request →
    ∃ definition, world.definitions.find? request.definitionId = some definition ∧
      definition.companyId = request.companyId

/-- The thresholds of the company's stages are instants that can be represented. -/
def ThresholdsComputable (world : World) (companyId : UUID) : Prop :=
  ∀ stage ∈ world.stages.rows, stage.companyId = companyId →
    ∀ request ∈ world.requests.find? stage.requestId,
    ∀ definition ∈ world.definitions.find? request.workflowDefinitionId,
    ∀ entry ∈ definition.definition.stages.find? (fun entry => entry.order == stage.stageOrder),
      (computeThreshold stage.createdAt entry.escalationHours).isOk = true

/-- The figures can be computed at `now`, from a query of the stages created until `cutoff`, and their reader may see the
definitions of the stages that the escalation job considers. -/
structure Legible (world : World) (viewer : Option UUID) (companyId : UUID) (now cutoff : Datetime) : Prop where
  created : ∀ stage ∈ world.stages.rows, stage.companyId = companyId → stage.status = .pending → stage.createdAt ≤ cutoff
  computable : ThresholdsComputable world companyId
  visible : ∀ stage ∈ world.stages.rows, stage.companyId = companyId → stage.status = .pending →
    escalationJobConsiders world now stage = true → ∀ request ∈ world.requests.find? stage.requestId,
    ∀ definition ∈ world.definitions.find? request.workflowDefinitionId, world.definitionVisible viewer definition = true

variable {world : World} {viewer : Option UUID} {companyId : UUID} {now cutoff : Datetime} {scope : Scope}
  {stages : List WorkflowStageRecord} {stage : WorkflowStageRecord} {request : RequestRecord}

theorem breached_of_computable (computable : ThresholdsComputable world companyId) (listed : stage ∈ stages)
    (stored : stage ∈ world.stages.rows) (owned : stage.companyId = companyId) (instant : Datetime) :
    ∃ breached, isBreached (effectiveSlaHours (resolveContexts world viewer companyId stages) none stage) stage instant =
      .ok breached := by
  cases resolved : effectiveSlaHours (resolveContexts world viewer companyId stages) none stage with
  | none => exact ⟨false, rfl⟩
  | some hours =>
      cases known : (resolveContexts world viewer companyId stages).requestsById.lookup stage.requestId with
      | none => simp [effectiveSlaHours, known, findStageDefinition] at resolved
      | some request =>
          obtain ⟨found, company⟩ := (request_of_contexts viewer listed).mp known
          obtain ⟨definition, entry, pinned, -, -, located, rfl⟩ :=
            (effectiveSlaHours_of_contexts viewer listed found company).mp resolved
          have computed := computable stage stored owned request found definition pinned entry located
          simp only [isBreached, Workflow.isStageEscalationEligible]
          cases outcome : computeThreshold stage.createdAt entry.escalationHours with
          | error error =>
              rw [outcome] at computed
              cases computed
          | ok threshold => exact ⟨isPast threshold instant, rfl⟩

theorem mem_fetchAllPendingStages : stage ∈ fetchAllPendingStages world companyId cutoff ↔
    stage ∈ world.stages.rows ∧ stage.companyId = companyId ∧ stage.status = .pending ∧ stage.createdAt ≤ cutoff := by
  simp [fetchAllPendingStages, World.overdueStages, and_assoc]

theorem mem_fetchDecidedStages (listed : stage ∈ fetchDecidedStages world scope) :
    stage ∈ world.stages.rows ∧ stage.companyId = scope.companyId := by
  simp only [fetchDecidedStages, fetchAll_eq, decidedStages, World.mem_newestFirst, List.mem_filter, Bool.and_eq_true,
    beq_iff_eq] at listed
  exact ⟨listed.1, listed.2.1.1.1⟩

/-- A pending stage has a request, which waits for the decision and belongs to the stage's company. -/
theorem InOrder.request_of_pending (inOrder : InOrder world) (stored : stage ∈ world.stages.rows)
    (pending : stage.status = .pending) :
    ∃ request, world.requests.find? stage.requestId = some request ∧ (requestState request).Active ∧
      request.companyId = stage.companyId := by
  have located : (workflowOf world).stages stage.id = some (stageState stage) := by
    simp [workflowOf, show world.stages.find? stage.id = some stage from find?_of_mem _ stored]
  obtain ⟨owner, owns, active, company⟩ := inOrder.inStep.owned located pending
  obtain ⟨request, found, rfl⟩ := Option.map_eq_some_iff.mp owns
  exact ⟨request, found, active, company⟩

theorem InOrder.nodup_pending (inOrder : InOrder world) :
    ((fetchAllPendingStages world companyId cutoff).map WorkflowStageRecord.requestId).Nodup := by
  have stages : (fetchAllPendingStages world companyId cutoff).Nodup := by
    rw [fetchAllPendingStages, fetchAll_eq, World.overdueStages, orderBy]
    refine (List.perm_insertionSort _ _).nodup_iff.mpr (List.Nodup.filter _ ?_)
    exact List.Nodup.of_map _ world.stages.distinct
  refine List.Nodup.map_on ?_ stages
  intro first left second right same
  obtain ⟨stored, -, pending, -⟩ := mem_fetchAllPendingStages.mp left
  obtain ⟨also, -, awaits, -⟩ := mem_fetchAllPendingStages.mp right
  have located : ∀ row ∈ world.stages.rows, (workflowOf world).stages row.id = some (stageState row) := by
    intro row member
    simp [workflowOf, show world.stages.find? row.id = some row from find?_of_mem _ member]
  exact eq_of_key_eq world.stages stored also
    (inOrder.inStep.unique (located first stored) (located second also) pending awaits same)

/-- The ages of the pending stages, before they are filtered. -/
def agesOf (world : World) (viewer : Option UUID) (scope : Scope) (now cutoff : Datetime) : List PendingApprovalAge :=
  (fetchAllPendingStages world scope.companyId cutoff).filterMap (ageOf (slaContexts world viewer scope cutoff) none now)

theorem request_of_slaContexts (viewer : Option UUID)
    (listed : stage ∈ fetchAllPendingStages world scope.companyId cutoff) :
    (slaContexts world viewer scope cutoff).requestsById.lookup stage.requestId = some request ↔
      world.requests.find? stage.requestId = some request ∧ request.companyId = scope.companyId :=
  request_of_contexts viewer (List.mem_append_left _ listed)

theorem pendingAges_ok (viewer : Option UUID) (now cutoff : Datetime)
    (computable : ThresholdsComputable world scope.companyId) :
    pendingAges world viewer none scope now cutoff = .ok (filterPendingScope scope (agesOf world viewer scope now cutoff)) := by
  have built := buildPendingApprovalAges_ok (slaContexts world viewer scope cutoff) now
    (fetchAllPendingStages world scope.companyId cutoff) fun stage listed => by
      obtain ⟨stored, owned, -⟩ := mem_fetchAllPendingStages.mp listed
      exact breached_of_computable computable (List.mem_append_left _ listed) stored owned now
  unfold pendingAges
  rw [built]
  rfl

theorem mem_agesOf {age : PendingApprovalAge} :
    age ∈ agesOf world viewer scope now cutoff ↔
      ∃ stage request, stage ∈ fetchAllPendingStages world scope.companyId cutoff ∧
        world.requests.find? stage.requestId = some request ∧
        ageOf (slaContexts world viewer scope cutoff) none now stage = some age ∧ age.requestId = stage.requestId ∧
        age.department = request.department ∧ age.requestType = request.requestType ∧ age.stageId = stage.id := by
  rw [agesOf, List.mem_filterMap]
  constructor
  · intro aged
    obtain ⟨stage, listed, same⟩ := aged
    obtain ⟨request, known, rfl⟩ := Option.map_eq_some_iff.mp same
    exact ⟨stage, request, listed, ((request_of_slaContexts viewer listed).mp known).1, same, rfl, rfl, rfl, rfl⟩
  · intro aged
    obtain ⟨stage, request, listed, -, same, -⟩ := aged
    exact ⟨stage, listed, same⟩

theorem aged_of_pending (viewer : Option UUID) (now : Datetime) (inOrder : InOrder world)
    (listed : stage ∈ fetchAllPendingStages world scope.companyId cutoff) :
    ∃ age, ageOf (slaContexts world viewer scope cutoff) none now stage = some age ∧ age.requestId = stage.requestId := by
  obtain ⟨stored, owned, pending, -⟩ := mem_fetchAllPendingStages.mp listed
  obtain ⟨request, found, -, company⟩ := inOrder.request_of_pending stored pending
  have known := (request_of_slaContexts viewer listed).mpr ⟨found, company.trans owned⟩
  exact ⟨_, Option.map_eq_some_iff.mpr ⟨request, known, rfl⟩, rfl⟩

theorem requestIds_agesOf (inOrder : InOrder world) :
    (agesOf world viewer scope now cutoff).map PendingApprovalAge.requestId =
      (fetchAllPendingStages world scope.companyId cutoff).map WorkflowStageRecord.requestId := by
  rw [agesOf, List.map_filterMap, ← List.filterMap_eq_map]
  apply List.filterMap_congr
  intro stage listed
  obtain ⟨age, aged, same⟩ := aged_of_pending viewer now inOrder listed
  simp [aged, same]

theorem counts_iff (undated : scope.Undated) : scope.counts request = true ↔
    request.companyId = scope.companyId ∧ request.deletedAt = none ∧
      scope.includes request.department request.requestType = true := by
  simp [Scope.counts, Scope.covers, Scope.includes, undated.1, undated.2, and_assoc]

theorem pendingStageCount_eq (inOrder : InOrder world) (undated : scope.Undated)
    (created : ∀ stage ∈ world.stages.rows, stage.companyId = scope.companyId → stage.status = .pending →
      stage.createdAt ≤ cutoff) :
    (filterPendingScope scope (agesOf world viewer scope now cutoff)).length =
      activeRequests (countRequestsByStatus world scope).counts := by
  rw [activeRequests_countRequestsByStatus]
  have ages : ((filterPendingScope scope (agesOf world viewer scope now cutoff)).map
      PendingApprovalAge.requestId).Nodup := by
    refine List.Nodup.sublist (List.Sublist.map _ List.filter_sublist) ?_
    rw [requestIds_agesOf inOrder]
    exact inOrder.nodup_pending
  have requests : (((world.requests.rows.filter scope.counts).filter fun request =>
      !isTerminalRequestStatus request.status).map RequestRecord.id).Nodup :=
    List.Nodup.sublist (List.Sublist.map _ (List.filter_sublist.trans List.filter_sublist)) world.requests.distinct
  rw [← List.length_map PendingApprovalAge.requestId, ← List.length_map RequestRecord.id]
  refine List.Perm.length_eq ((List.perm_ext_iff_of_nodup ages requests).mpr fun id => ?_)
  simp only [List.mem_map, filterPendingScope, List.mem_filter, mem_agesOf]
  constructor
  · intro aged
    obtain ⟨age, ⟨⟨stage, request, listed, found, -, same, department, requestType, -⟩, included⟩, rfl⟩ := aged
    obtain ⟨stored, owned, pending, -⟩ := mem_fetchAllPendingStages.mp listed
    obtain ⟨waiting, also, active, company⟩ := inOrder.request_of_pending stored pending
    cases found.symm.trans also
    rw [department, requestType] at included
    obtain ⟨member, named⟩ := (find?_eq_some_iff ..).mp found
    refine ⟨request, ⟨⟨member, (counts_iff undated).mpr ⟨company.trans owned, ?_, included⟩⟩, ?_⟩, named.trans same.symm⟩
    · exact Option.isNone_iff_eq_none.mp (by simpa [requestState] using active.1)
    · simpa [requestState] using active.2
  · intro counted
    obtain ⟨request, ⟨⟨member, counts⟩, live⟩, rfl⟩ := counted
    obtain ⟨company, kept, included⟩ := (counts_iff undated).mp counts
    have located : world.requests.find? request.id = some request := find?_of_mem _ member
    have active : (requestState request).Active := by
      refine ⟨by simp [requestState, kept], ?_⟩
      simpa [requestState] using live
    have known : (workflowOf world).requests request.id = some (requestState request) := by simp [workflowOf, located]
    obtain ⟨stageId, state, served, pending, mine⟩ := inOrder.inStep.served known active
    obtain ⟨stage, found, rfl⟩ := Option.map_eq_some_iff.mp served
    have stored := ((find?_eq_some_iff ..).mp found).1
    obtain ⟨owner, owns, -, same⟩ := inOrder.request_of_pending stored pending
    have mine : stage.requestId = request.id := mine
    rw [mine, located] at owns
    cases owns
    have owned : stage.companyId = scope.companyId := same.symm.trans company
    have listed := mem_fetchAllPendingStages.mpr ⟨stored, owned, pending, created stage stored owned pending⟩
    obtain ⟨age, aged, requestId⟩ := aged_of_pending viewer now inOrder listed
    obtain ⟨waiting, known, rfl⟩ := Option.map_eq_some_iff.mp aged
    obtain ⟨found, -⟩ := (request_of_slaContexts viewer listed).mp known
    have same := found
    rw [mine, located] at same
    cases same
    exact ⟨_, ⟨⟨stage, request, listed, found, aged, rfl, rfl, rfl, rfl⟩, included⟩, mine⟩

theorem isOverdue_iff (inOrder : InOrder world) (legible : Legible world viewer scope.companyId now cutoff)
    (listed : stage ∈ fetchAllPendingStages world scope.companyId cutoff) {age : PendingApprovalAge}
    (aged : ageOf (slaContexts world viewer scope cutoff) none now stage = some age) :
    age.isOverdue = true ↔ escalationJobConsiders world now stage = true := by
  obtain ⟨stored, owned, pending, -⟩ := mem_fetchAllPendingStages.mp listed
  obtain ⟨request, known, rfl⟩ := Option.map_eq_some_iff.mp aged
  obtain ⟨found, company⟩ := (request_of_slaContexts viewer listed).mp known
  have workflow : (workflowOf world).requests stage.requestId = some (requestState request) := by simp [workflowOf, found]
  obtain ⟨definition, pinned, owner⟩ := inOrder.pinned workflow
  have pinned : world.definitions.find? request.workflowDefinitionId = some definition := pinned
  have owner : definition.companyId = request.companyId := owner
  have resolves := fun hours : Hours => @effectiveSlaHours_of_contexts _ _ _ viewer _ _
    (List.mem_append_left (fetchDecidedStages world scope) listed) found company hours
  rw [escalationJobConsiders_iff found pinned]
  dsimp only [pendingApprovalAge]
  cases resolved : effectiveSlaHours (slaContexts world viewer scope cutoff) none stage with
  | none =>
      refine ⟨fun overdue => by simp [isBreached, Except.toOption] at overdue, fun considered => ?_⟩
      obtain ⟨entry, located, eligible⟩ := considered
      have considers := (escalationJobConsiders_iff found pinned).mpr ⟨entry, located, eligible⟩
      have visible := legible.visible stage stored owned pending considers request found definition pinned
      have same := (resolves _).mpr ⟨definition, entry, pinned, visible, owner.trans company, located, rfl⟩
      rw [slaContexts, same] at resolved
      cases resolved
  | some hours =>
      obtain ⟨other, entry, also, -, -, located, rfl⟩ := (resolves _).mp resolved
      cases pinned.symm.trans also
      simp only [isBreached, located, Option.some.injEq, exists_eq_left']
      cases Workflow.isStageEscalationEligible stage.createdAt entry.escalationHours now with
      | error error => simp [Except.mapError, Except.toOption]
      | ok eligible => simp [Except.mapError, Except.toOption]

theorem getSlaMetrics_ok {ages : List PendingApprovalAge} {counted : Nat × Nat}
    (dates : validateDateRange scope.createdAfter scope.createdBefore = .ok ())
    (aged : pendingAges world viewer none scope now cutoff = .ok ages)
    (breaches : countBreaches (slaContexts world viewer scope cutoff) none
      (filterDecidedScope scope (slaContexts world viewer scope cutoff) (fetchDecidedStages world scope)) = .ok counted) :
    ∃ sla, getSlaMetrics world viewer none scope now cutoff = .ok sla ∧ sla.pendingStageCount = ages.length ∧
      sla.overdueStageCount = (ages.filter PendingApprovalAge.isOverdue).length ∧
      sla.overdueRequestCount =
        ((ages.filter PendingApprovalAge.isOverdue).map PendingApprovalAge.requestId).dedup.length := by
  unfold getSlaMetrics
  simp only [dates, aged, breaches, bind, Except.bind]
  exact ⟨_, rfl, rfl, rfl, rfl⟩

theorem getDashboardMetrics_ok (world : World) (dates : validateDateRange scope.createdAfter scope.createdBefore = .ok ()) :
    ∃ dashboard, getDashboardMetrics world scope = .ok dashboard ∧
      dashboard.activeRequests = activeRequests (countRequestsByStatus world scope).counts := by
  unfold getDashboardMetrics
  simp only [dates, bind, Except.bind]
  exact ⟨_, rfl, rfl⟩

/-- In a workflow in order, the figures agree with the dashboard and with the escalation job. -/
theorem figures_of_inOrder (inOrder : InOrder world) (undated : scope.Undated)
    (legible : Legible world viewer scope.companyId now cutoff) :
    ∃ sla dashboard ages, getSlaMetrics world viewer none scope now cutoff = .ok sla ∧
      getDashboardMetrics world scope = .ok dashboard ∧ pendingAges world viewer none scope now cutoff = .ok ages ∧
      sla.pendingStageCount = dashboard.activeRequests ∧ sla.overdueStageCount ≤ sla.pendingStageCount ∧
      sla.overdueRequestCount ≤ sla.pendingStageCount ∧
      sla.overdueStageCount = (ages.filter PendingApprovalAge.isOverdue).length ∧
      ∀ stage ∈ world.stages.rows, stage.companyId = scope.companyId → stage.status = .pending →
        ∀ request, world.requests.find? stage.requestId = some request →
        scope.includes request.department request.requestType = true →
        ∃ age ∈ ages, age.stageId = stage.id ∧
          (age.isOverdue = true ↔ escalationJobConsiders world now stage = true) := by
  have aged := pendingAges_ok viewer now cutoff legible.computable
  obtain ⟨counted, breaches⟩ := countBreaches_ok (slaContexts world viewer scope cutoff)
    (filterDecidedScope scope (slaContexts world viewer scope cutoff) (fetchDecidedStages world scope))
    fun stage listed decidedAt => by
      have decided := List.mem_of_mem_filter listed
      obtain ⟨stored, owned⟩ := mem_fetchDecidedStages decided
      exact breached_of_computable legible.computable (List.mem_append_right _ decided) stored owned decidedAt
  have dates : validateDateRange scope.createdAfter scope.createdBefore = .ok () := by
    rw [undated.1]
    rfl
  generalize ages : filterPendingScope scope (agesOf world viewer scope now cutoff) = listed at aged
  obtain ⟨sla, computed, pending, overdue, requests⟩ := getSlaMetrics_ok dates aged breaches
  obtain ⟨dashboard, displayed, active⟩ := getDashboardMetrics_ok world dates
  have narrowed := List.length_filter_le PendingApprovalAge.isOverdue listed
  refine ⟨sla, dashboard, listed, computed, displayed, aged, ?_, ?_, ?_, overdue, ?_⟩
  · rw [pending, active, ← ages]
    exact pendingStageCount_eq inOrder undated legible.created
  · rw [pending, overdue]
    exact narrowed
  · rw [pending, requests]
    refine le_trans (List.Sublist.length_le (List.dedup_sublist _)) ?_
    rw [List.length_map]
    exact narrowed
  · intro stage stored owned pending request found included
    have pendingStage := mem_fetchAllPendingStages.mpr
      ⟨stored, owned, pending, legible.created stage stored owned pending⟩
    obtain ⟨waiting, also, -, company⟩ := inOrder.request_of_pending stored pending
    cases found.symm.trans also
    have known := (request_of_slaContexts viewer pendingStage).mpr ⟨found, company.trans owned⟩
    have aged : ageOf (slaContexts world viewer scope cutoff) none now stage = some _ :=
      Option.map_eq_some_iff.mpr ⟨request, known, rfl⟩
    refine ⟨_, ?_, ?_, isOverdue_iff inOrder legible pendingStage aged⟩
    · rw [← ages]
      exact List.mem_filter.mpr ⟨List.mem_filterMap.mpr ⟨stage, pendingStage, aged⟩, included⟩
    · rfl

end Figures

section Runs

/-- Whether a withdrawal returns when it is run alone. -/
def withdraws (world : World) (identity : AuthenticatedIdentity) (requestId : UUID) (expectedVersion : Nat) : Bool :=
  ((Services.withdrawRequest identity requestId expectedVersion).run environment world).1.isOk

/-- The operation does not withdraw a request that waits for a decision. -/
def Operation.Spares (world : World) : Operation → Prop
  | .withdrawRequest identity requestId expectedVersion =>
      withdraws world identity requestId expectedVersion = true →
        ∀ request, world.requests.find? requestId = some request → ¬(requestState request).Active
  | _ => True

variable {world after : World}

theorem Initial.inOrder (initial : Initial world) : InOrder world := by
  have missing : ∀ id, (workflowOf world).requests id = none := by
    intro id
    simp [workflowOf, Table.find?, initial.requests]
  refine ⟨⟨initial.paired _, ?_⟩, ?_⟩ <;> intros <;> simp_all

theorem InOrder.kept (inOrder : InOrder world) (kept : Kept world after) : InOrder after where
  inStep := kept.workflow ▸ inOrder.inStep
  pinned := by
    rw [kept.workflow, kept.definitions]
    exact inOrder.pinned

/-- A request keeps its company and definition whatever the step, and a new one has those of its definition. -/
theorem pinned_of_moves {definitions : UUID → Option WorkflowDefinition} {refusable : Prop} {before state : WorkflowState}
    (moves : Moves definitions refusable before state)
    (pinned : ∀ {requestId request}, before.requests requestId = some request →
      ∃ definition, definitions request.definitionId = some definition ∧ definition.companyId = request.companyId)
    {requestId : UUID} {request : RequestState} (found : state.requests requestId = some request) :
    ∃ definition, definitions request.definitionId = some definition ∧ definition.companyId = request.companyId := by
  cases moves with
  | stays => exact pinned found
  | creates newRequest newStage defined company =>
      simp only [WorkflowState.setStage_requests, WorkflowState.setRequest_requests] at found
      split at found
      · cases found
        exact ⟨_, defined, company⟩
      · exact pinned found
  | abandons refused newRequest defined company =>
      rw [WorkflowState.setRequest_requests] at found
      split at found
      · cases found
        exact ⟨_, defined, company⟩
      · exact pinned found
  | advances located pending owned | completes located pending owned | rejects located pending owned =>
      rw [WorkflowState.setRequest_requests] at found
      split at found
      · cases found
        have defined := pinned owned
        exact defined
      · exact pinned found

theorem InOrder.taken {refusable : Prop} (inOrder : InOrder world) (taken : Taken refusable world after) :
    InOrder after where
  inStep := inOrder.inStep.moves taken.1
  pinned := by
    rw [taken.2]
    exact pinned_of_moves taken.1 inOrder.pinned

theorem InOrder.withdrawn (inOrder : InOrder world) {identity : AuthenticatedIdentity} {requestId : UUID}
    {expectedVersion : Nat} (spares : (Operation.withdrawRequest identity requestId expectedVersion).Spares world) :
    InOrder ((Services.withdrawRequest identity requestId expectedVersion).run environment world).2 := by
  obtain ⟨definitions, unmoved | ⟨⟨record, returned⟩, state, found, moved⟩⟩ :=
    ensured_of_run (ensures_withdrawRequest world identity requestId expectedVersion)
  · exact inOrder.kept ⟨unmoved, definitions⟩
  · obtain ⟨request, located, rfl⟩ := Option.map_eq_some_iff.mp found
    have idle := spares (by simp [withdraws, returned, Except.isOk, Except.toBool]) request located
    refine ⟨moved ▸ inOrder.inStep.withdraw found idle, ?_⟩
    intro otherId other known
    rw [moved, WorkflowState.setRequest_requests] at known
    rw [definitions]
    split at known
    · cases known
      have defined := inOrder.pinned found
      exact defined
    · exact inOrder.pinned known

theorem InOrder.operation (inOrder : InOrder world) (sequential : (workflowOf world).Sequential) {operation : Operation}
    (spares : operation.Spares world) :
    InOrder (operation.program.run environment world).2 := by
  by_cases withdrawal : ∃ identity requestId expectedVersion,
      operation = .withdrawRequest identity requestId expectedVersion
  · obtain ⟨identity, requestId, expectedVersion, rfl⟩ := withdrawal
    dsimp only [Operation.program]
    rw [run_forEffect]
    exact inOrder.withdrawn spares
  · refine inOrder.taken (ensured_of_run (taken_of_operation sequential ?_))
    intro identity requestId expectedVersion same
    exact withdrawal ⟨identity, requestId, expectedVersion, same⟩

theorem company_of_definitionChange {statement : Query} (change : world.DefinitionChange statement after)
    {request : RequestRecord} (stored : request ∈ world.requests.rows) {definition : WorkflowDefinition}
    (pinned : world.definitions.find? request.workflowDefinitionId = some definition) :
    ∃ later, after.definitions.find? request.workflowDefinitionId = some later ∧
      later.companyId = definition.companyId := by
  cases change with
  | update update found current =>
      rw [find?_modify]
      split
      · rename_i same
        rw [← same, pinned]
        refine ⟨_, rfl, ?_⟩
        cases update <;> rfl
      · exact ⟨definition, pinned, rfl⟩
  | new =>
      refine ⟨definition, ?_, rfl⟩
      rw [find?_insert, if_neg, pinned]
      intro same
      rw [same, find?_next] at pinned
      cases pinned
  | removed found idle unnamed =>
      refine ⟨definition, ?_, rfl⟩
      rw [find?_erase, if_neg (unnamed request stored), pinned]
  | elsewhere same => exact ⟨definition, same ▸ pinned, rfl⟩

theorem InOrder.called (inOrder : InOrder world) {request : Call} (reading : request.writesWorkflow = false) :
    InOrder (environment request world).2 := by
  have answered : environment request world = (_, _) := Prod.mk.eta.symm
  have workflow : workflowOf (environment request world).2 = workflowOf world := workflowOf_call reading
  refine ⟨workflow ▸ inOrder.inStep, ?_⟩
  intro requestId state found
  rw [workflow] at found
  obtain ⟨definition, pinned, company⟩ := inOrder.pinned found
  obtain ⟨row, located, rfl⟩ := Option.map_eq_some_iff.mp found
  have step : mayFail () world request (environment request world).1 (environment request world).2 := .inl answered
  rcases World.definitionChange_of_mayFail step with ⟨statement, changed, -, change, same⟩ | same
  · have stored := ((find?_eq_some_iff ..).mp located).1
    obtain ⟨later, kept, unmoved⟩ := company_of_definitionChange change stored pinned
    rw [same]
    exact ⟨later, kept, unmoved.trans company⟩
  · rw [same]
    exact ⟨definition, pinned, company⟩

/-- The workflow stays in order as long as no request is withdrawn that waits for a decision. -/
theorem SerialRun.inOrder {start : World} (run : SerialRun (fun world operation => operation.Spares world) start world)
    (initial : Initial start) : InOrder world := by
  induction run with
  | start => exact initial.inOrder
  | operation earlier operation spares inOrder => exact inOrder.operation (earlier.sequential initial) spares
  | call earlier request reading inOrder => exact inOrder.called reading
  | profiles earlier profiles inOrder => exact ⟨inOrder.inStep, inOrder.pinned⟩

/-- After any run of whole operations, other calls between them, in which no request is withdrawn that waits for a
decision: the SLA figures of every company, department and request type agree with its dashboard and with the escalation
job. -/
theorem sla_figures_agree {start : World} (initial : Initial start)
    (run : SerialRun (fun world operation => operation.Spares world) start world) (viewer : Option UUID) (scope : Scope)
    (undated : scope.Undated) (now cutoff : Datetime) (legible : Legible world viewer scope.companyId now cutoff) :
    ∃ sla dashboard ages, getSlaMetrics world viewer none scope now cutoff = .ok sla ∧
      getDashboardMetrics world scope = .ok dashboard ∧ pendingAges world viewer none scope now cutoff = .ok ages ∧
      sla.pendingStageCount = dashboard.activeRequests ∧ sla.overdueStageCount ≤ sla.pendingStageCount ∧
      sla.overdueRequestCount ≤ sla.pendingStageCount ∧
      sla.overdueStageCount = (ages.filter PendingApprovalAge.isOverdue).length ∧
      ∀ stage ∈ world.stages.rows, stage.companyId = scope.companyId → stage.status = .pending →
        ∀ request, world.requests.find? stage.requestId = some request →
        scope.includes request.department request.requestType = true →
        ∃ age ∈ ages, age.stageId = stage.id ∧
          (age.isOverdue = true ↔ escalationJobConsiders world now stage = true) :=
  figures_of_inOrder (run.inOrder initial) undated legible

end Runs

section Sample

def travelCreation : Operation := .createRequest sampleEmployee (sampleRequest "travel")

/-- The sample hub once a travel request waits for its stage. -/
def hubAwaiting : World := (travelCreation.program.run environment sampleHub).2

def travelWithdrawal : Operation := .withdrawRequest sampleEmployee 1 2

/-- The same hub once the request is withdrawn. -/
def hubWithdrawn : World := (travelWithdrawal.program.run environment hubAwaiting).2

def wholeCompany : Scope where
  companyId := 9
  department := none
  requestType := none
  createdAfter := none
  createdBefore := none

/-- Thirty days after the first instant of the sample hub. -/
def monthLater : Datetime := 30 * 24 * microsecondsPerHour

theorem sla_figures_agree_awaiting : (getSlaMetrics hubAwaiting (some 3) none wholeCompany monthLater monthLater).isOk ∧
    ∃ sla dashboard ages, getSlaMetrics hubAwaiting (some 3) none wholeCompany monthLater monthLater = .ok sla ∧
      getDashboardMetrics hubAwaiting wholeCompany = .ok dashboard ∧
      pendingAges hubAwaiting (some 3) none wholeCompany monthLater monthLater = .ok ages ∧
      sla.pendingStageCount = dashboard.activeRequests := by
  have spared : travelCreation.Spares sampleHub := trivial
  obtain ⟨sla, dashboard, ages, computed, displayed, aged, same, -⟩ := sla_figures_agree sampleHub_initial
    (.operation .start travelCreation spared) (some 3) wholeCompany ⟨rfl, rfl⟩ monthLater monthLater
    ⟨by decide +kernel, by unfold ThresholdsComputable; decide +kernel, by decide +kernel⟩
  exact ⟨by decide +kernel, sla, dashboard, ages, computed, displayed, aged, same⟩

/-- A withdrawn request leaves the dashboard, and its pending stage stays in the SLA figures. -/
theorem sla_figures_disagree_withdrawn : Initial sampleHub ∧
    SerialRun (fun _ _ => True) sampleHub hubWithdrawn ∧ wholeCompany.Undated ∧
    Legible hubWithdrawn (some 3) 9 monthLater monthLater ∧
    (getSlaMetrics hubWithdrawn (some 3) none wholeCompany monthLater monthLater).toOption.map
      SLAMetrics.pendingStageCount = some 1 ∧
    (getDashboardMetrics hubWithdrawn wholeCompany).toOption.map DashboardMetrics.activeRequests = some 0 :=
  ⟨sampleHub_initial, .operation (.operation .start travelCreation trivial) travelWithdrawal trivial, ⟨rfl, rfl⟩,
    ⟨by decide +kernel, by unfold ThresholdsComputable; decide +kernel, by decide +kernel⟩, by decide +kernel,
    by decide +kernel⟩

end Sample

end AutomationHub.System
