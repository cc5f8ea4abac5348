import AutomationHub.System.ManagerChoice

/-!
What the operations make of a `requester_manager` stage, and what their audit entries tell of it.
-/

set_option autoImplicit false

namespace AutomationHub.System

open Foundation Model Database Services Auth Workflow Program Table

/-- The stage that an operation has generated, with the state that its insert found. -/
abbrev Generated := Option (World × WorkflowStageRecord)

def Generated.after (generated : Generated) (world : World) : (request : Call) → request.Reply → Generated
  | .query (.createStage ..), .ok row => some (world, row)
  | _, _ => generated

/-- Calls that the database may fail; the audit entry of an operation that has generated a stage meets a condition. -/
def reporting (holds : World → WorkflowStageRecord → Option AuditMetadata → Prop) :
    Protocol hubSignature (World × Generated) where
  permits := fun state request => ∀ action actorId requestId metadata companyId,
    request = .query (.recordEvent action actorId requestId metadata companyId) →
      ∀ world row, state.2 = some (world, row) → holds world row metadata
  answers := fun state request reply after =>
    mayFail () state.1 request reply after.1 ∧ after.2 = state.2.after state.1 request reply

/-- The stage is that of a `requester_manager` stage of the request's definition. -/
def ManagerStage (world : World) (companyId : UUID) (requester : ProfileRecord) (row : WorkflowStageRecord) : Prop :=
  ∃ request definition stage, world.requests.find? row.requestId = some request ∧ request.companyId = companyId ∧
    world.definitions.find? request.workflowDefinitionId = some definition ∧ stage ∈ definition.definition.stages ∧
    stage.order = row.stageOrder ∧ stage.assignmentStrategy = .requesterManager ∧
    world.profiles.find? request.requesterId = some requester

/-- A generated `requester_manager` stage and its audit entry are as they are meant to be exactly if its manager can be
found. -/
def ManagerReported (world : World) (row : WorkflowStageRecord) (metadata : Option AuditMetadata) : Prop :=
  ∀ companyId requester, ManagerStage world companyId requester row →
    (ManagerAsMeant world companyId requester row metadata ↔ ManagerFindable world companyId requester row)

/-- The calls that generate and report nothing. -/
def Plain : Call → Prop
  | .query (.createStage ..) | .query (.recordEvent ..) => False
  | _ => True

theorem plain_of_auxiliary (request : Call) (auxiliary : Auxiliary request) : Plain request := by
  cases request with
  | query statement => cases statement <;> trivial
  | _ => trivial

section Reporting

variable {α : Type} {holds : World → WorkflowStageRecord → Option AuditMetadata → Prop} {world : World}
  {generated : Generated}

theorem Plain.permitted {request : Call} (plain : Plain request) (state : World × Generated) :
    (reporting holds).permits state request := by
  intro action actorId requestId metadata companyId same
  subst same
  exact plain.elim

theorem Plain.unchanged {request : Call} (plain : Plain request) (reply : request.Reply) :
    generated.after world request reply = generated := by
  cases request with
  | query statement => cases statement <;> first | rfl | exact plain.elim
  | _ => rfl

/-- What plain calls ensure without the record of the generated stage, they ensure with it. -/
theorem ensures_plain {program : Service α} {post : Except AppError α → World → Prop} (only : program.Only Plain)
    {inserted : World → WorkflowStageRecord → Prop} (ensured : program.Ensures (inserting inserted) post world) :
    program.Ensures (reporting holds) (fun result final => post result final.1 ∧ final.2 = generated)
      (world, generated) := by
  induction program generalizing world with
  | done value => exact ⟨ensured, rfl⟩
  | raised error => exact ⟨ensured, rfl⟩
  | call request next recurse =>
      refine ⟨only.1.permitted _, ?_⟩
      intro reply after answered
      obtain ⟨after, later⟩ := after
      obtain ⟨step, recorded⟩ := answered
      have kept : later = generated := recorded.trans (only.1.unchanged reply)
      subst kept
      exact recurse reply (only.2 reply) (ensured.2 reply after step)

theorem plain_kept {program : Service α} (only : program.Only Plain) (state : World × Generated) :
    program.Ensures (reporting holds) (fun _ final => final.2 = state.2) state := by
  refine only.ensures (fun final : World × Generated => final.2 = state.2) ?_ rfl
  intro current request same plain
  refine ⟨plain.permitted current, ?_⟩
  intro reply after answered
  exact (answered.2.trans (plain.unchanged reply)).trans same

theorem plain_sound {program : Service α} (only : program.Only Plain) (state : World × Generated) :
    program.Ensures (reporting holds) (fun _ _ => True) state :=
  (plain_kept only state).mono fun _ _ _ => trivial

/-- The compensations registered so far are plain. -/
def PlainlyUndone (registered : List (Service Unit)) : Prop :=
  ∀ compensation ∈ registered, compensation.Only Plain

theorem PlainlyUndone.nil : PlainlyUndone [] :=
  fun _ member => absurd member List.not_mem_nil

theorem PlainlyUndone.cons {compensation : Service Unit} {registered : List (Service Unit)}
    (undone : PlainlyUndone registered) (only : compensation.Only Plain) : PlainlyUndone (compensation :: registered) := by
  intro other member
  rcases List.mem_cons.mp member with rfl | earlier
  · exact only
  · exact undone other earlier

variable {registered : List (Service Unit)} {state : World × Generated}

theorem plain_transaction (operation : String) {body : Transaction hubSignature AppError α}
    (ensured : Transaction.Ensures (reporting holds) (fun _ later _ => PlainlyUndone later) [] state body) :
    (transaction operation body).Ensures (reporting holds) (fun _ _ => True) state := by
  apply (Transaction.ensures_enact _ body _).mpr
  apply ensured.mono
  intro result later final undone
  cases result with
  | ok value => trivial
  | error error =>
      have only : (Program.call ((transactionReport operation).began later.length)
          fun _ => Transaction.rollback (transactionReport operation) error later : Service α).Only Plain :=
        ⟨trivial, fun _ => Transaction.only_rollback error undone trivial⟩
      exact plain_sound only final

theorem plain_body {body : Transaction hubSignature AppError α} (only : body.Only Plain)
    (undone : PlainlyUndone registered) :
    Transaction.Ensures (reporting holds) (fun _ later final => PlainlyUndone later ∧ final.2 = state.2) registered state
      body := by
  induction body generalizing registered state with
  | done value => exact ⟨undone, rfl⟩
  | raised error => exact ⟨undone, rfl⟩
  | call request next recurse =>
      refine ⟨only.1.permitted state, ?_⟩
      intro reply after answered
      have kept : after.2 = state.2 := answered.2.trans (only.1.unchanged reply)
      apply (recurse reply (only.2 reply) undone).mono
      intro result later final reached
      exact ⟨reached.1, reached.2.trans kept⟩
  | register compensation next recurse => exact recurse only.2 (undone.cons only.1)

end Reporting

/-- The stage that the insert of a plan builds. -/
structure StageOfPlan (request : RequestRecord) (plan : StagePlan) (row : WorkflowStageRecord) : Prop where
  requestId : row.requestId = request.id
  stageOrder : row.stageOrder = plan.stageOrder
  assignedTo : row.assignedTo = plan.assignedTo
  assignedRole : row.assignedRole = plan.assignedRole

section Assignments

variable {world : World} {request : RequestRecord} {plan : StagePlan} {row : WorkflowStageRecord} {companyId : UUID}
  {requester : ProfileRecord}

/-- A planned `requester_manager` stage was planned for the requester, with the approvers of the listing. -/
theorem planned_for_manager {definition : WorkflowDefinition} {stage : StageDefinition} {other : ProfileRecord}
    {approvers : List ProfileRecord} (found : world.requests.find? request.id = some request)
    (pinned : world.definitions.find? request.workflowDefinitionId = some definition)
    (known : world.profiles.find? request.requesterId = some other)
    (content : PlanOf definition other approvers plan stage)
    (listed : stage.assignmentStrategy = .requesterManager → approvers = listedApprovers world request.companyId other)
    (built : StageOfPlan request plan row) (managed : ManagerStage world companyId requester row) :
    stage.assignmentStrategy = .requesterManager ∧ other = requester ∧
      approvers = listedApprovers world companyId requester := by
  obtain ⟨owner, pin, entry, located, rfl, pinnedTo, member, placed, strategy, knownAs⟩ := managed
  rw [built.requestId] at located
  obtain rfl := Option.some.inj (found.symm.trans located)
  obtain rfl := Option.some.inj (pinned.symm.trans pinnedTo)
  obtain rfl := Option.some.inj (known.symm.trans knownAs)
  have same : stage = entry :=
    definition.definition.eq_of_order_eq content.member ((definition.definition.mem_orderedStages entry).mpr member)
      (content.stageOrder.symm.trans (built.stageOrder.symm.trans placed.symm))
  subst same
  exact ⟨strategy, rfl, listed strategy⟩

theorem resolveAssignment_manager {stage : StageDefinition} (strategy : stage.assignmentStrategy = .requesterManager)
    (requester : ProfileRecord) (approvers : List ProfileRecord) :
    resolveAssignment stage requester approvers = resolveRequesterManager requester approvers := by
  unfold resolveAssignment
  rw [strategy]

/-- A stage inserted as planned is assigned to the chosen manager, or to the administrators. -/
theorem assigned_of_planned (planned : PlannedFor world request plan) (built : StageOfPlan request plan row)
    (managed : ManagerStage world companyId requester row) :
    row.assignedTo = (resolutionOf (chosenManager world companyId requester)).1 ∧
      row.assignedRole = (resolutionOf (chosenManager world companyId requester)).2 := by
  obtain ⟨definition, stage, other, approvers, found, pinned, known, content, listed⟩ := planned
  obtain ⟨strategy, rfl, rfl⟩ := planned_for_manager found pinned known content listed built managed
  obtain ⟨resolution, -⟩ := resolved_eq world companyId other
  rw [← resolution, built.assignedTo, built.assignedRole, content.assignedTo, content.assignedRole,
    resolveAssignment_manager strategy]
  exact ⟨rfl, rfl⟩

theorem reported_later (planned : PlannedFor world request plan) (built : StageOfPlan request plan row)
    (later : 1 < row.stageOrder) (stageId : UUID) (note : Option String) :
    ManagerReported world row (some (.stageDecided stageId note)) := by
  intro companyId requester managed
  obtain ⟨assignedTo, assignedRole⟩ := assigned_of_planned planned built managed
  apply managerAsMeant_iff
  refine ⟨assignedTo, assignedRole, ?_⟩
  have different : (row.stageOrder == 1) = false := by simpa using Nat.ne_of_gt later
  rw [different, Bool.and_false]
  rfl

theorem reported_first {definition : WorkflowDefinition} {other : ProfileRecord} {approvers : List ProfileRecord}
    (found : world.requests.find? request.id = some request)
    (pinned : world.definitions.find? request.workflowDefinitionId = some definition)
    (known : world.profiles.find? request.requesterId = some other)
    (planned : planFirstStage definition other approvers = .ok plan)
    (content : PlanOf definition other approvers plan (firstStage definition))
    (listed : (firstStage definition).assignmentStrategy = .requesterManager →
      approvers = listedApprovers world request.companyId other)
    (built : StageOfPlan request plan row) (stageId : UUID) :
    ManagerReported world row
      (some (.requestCreated stageId (if plan.usedFallback then plan.fallbackReason else none))) := by
  intro companyId requester managed
  obtain ⟨assignedTo, assignedRole⟩ := assigned_of_planned
    ⟨definition, firstStage definition, other, approvers, found, pinned, known, content, listed⟩ built managed
  obtain ⟨strategy, rfl, rfl⟩ := planned_for_manager found pinned known content listed built managed
  obtain ⟨used, reason⟩ := toStagePlan_fallback planned
  obtain ⟨-, fallback, given⟩ := resolved_eq world companyId other
  rw [resolveAssignment_manager strategy] at used reason
  apply managerAsMeant_iff
  refine ⟨assignedTo, assignedRole, ?_⟩
  have first : row.stageOrder = 1 := built.stageOrder.trans (content.stageOrder.trans (firstStage_order definition))
  rw [first, used, reason]
  rw [← fallback, beq_self_eq_true, Bool.and_true]
  cases applied : (resolveRequesterManager other (listedApprovers world companyId other)).usedFallback with
  | true => exact given.trans applied
  | false => rfl

end Assignments

section Operations

variable {world : World} {registered : List (Service Unit)}

/-- What an operation has generated was inserted as planned for a request, as a stage after the first. -/
def GeneratedLater (generated : Generated) : Prop :=
  ∀ world row, generated = some (world, row) →
    ∃ request plan, PlannedFor world request plan ∧ StageOfPlan request plan row ∧ 1 < row.stageOrder

theorem generatedLater_none : GeneratedLater none :=
  fun _ _ same => nomatch same

theorem built_of_inserted {request : RequestRecord} {plan : StagePlan} {generated : Generated} {companyId : UUID}
    {row : WorkflowStageRecord} {after : World × Generated}
    (answered : (reporting ManagerReported).answers (world, generated)
      (.query (.createStage request.id plan.stageOrder plan.stageName companyId plan.assignedRole plan.assignedTo))
      (.ok row) after) :
    after.2 = some (world, row) ∧ StageOfPlan request plan row := by
  obtain ⟨step, recorded⟩ := answered
  obtain ⟨changed, executed, -⟩ := World.executed_of_mayFail step
  obtain ⟨rfl, -⟩ := World.createStage_ok_iff.mp executed
  exact ⟨recorded, rfl, rfl, rfl, rfl⟩

theorem generates_openNextStage {request : RequestRecord} {plan : StagePlan} (planned : PlannedFor world request plan)
    (later : 1 < plan.stageOrder) (undone : PlainlyUndone registered) :
    Transaction.Ensures (reporting ManagerReported) (fun _ kept final => PlainlyUndone kept ∧ GeneratedLater final.2)
      registered (world, none) (openNextStage request plan) := by
  apply (Transaction.ensures_lift_bind ..).mpr
  refine (ensures_orTranslate ..).mpr ⟨(fun _ _ _ _ _ same => nomatch same), ?_⟩
  intro reply after answered
  cases reply with
  | error error => exact ⟨undone, by rw [answered.2]; exact generatedLater_none⟩
  | ok row =>
      obtain ⟨recorded, built⟩ := built_of_inserted answered
      have generated : GeneratedLater after.2 := by
        intro start inserted same
        obtain ⟨rfl, rfl⟩ := Prod.mk.inj (Option.some.inj (recorded.symm.trans same))
        exact ⟨request, plan, planned, built, built.stageOrder ▸ later⟩
      apply (plain_body _ undone).mono
      · intro result kept final reached
        exact ⟨reached.1, reached.2 ▸ generated⟩
      · apply Transaction.Only.bind
        · exact Transaction.only_registerCompensation (only_compensateStageCreation_of trivial trivial)
        intro _
        apply Transaction.Only.bind (Transaction.only_ofProgram (only_engineOrTranslate _))
        intro _
        apply Transaction.Only.bind (Transaction.only_ofProgram (only_orTranslate _ trivial))
        intro updated
        apply Transaction.Only.bind (Transaction.only_registerCompensation (only_compensation _ trivial))
        intro _
        trivial

theorem generates_advanceAfterApproval (viewer : Option UUID) (stage : WorkflowStageRecord)
    (undone : PlainlyUndone registered) :
    Transaction.Ensures (reporting ManagerReported) (fun _ kept final => PlainlyUndone kept ∧ GeneratedLater final.2)
      registered (world, none) (advanceAfterApproval viewer stage) := by
  have planned := @ensures_plain _ ManagerReported world none _ _
    ((only_planAfterApproval viewer stage).mono plain_of_auxiliary) (fun _ _ => True)
    (ensures_plannedFor viewer stage world)
  refine (Transaction.ensures_lift_bind ..).mpr (planned.mono ?_)
  intro result final reached
  obtain ⟨current, generated⟩ := final
  obtain ⟨⟨⟨ticks, rfl⟩, plans⟩, rfl⟩ := reached
  cases result with
  | error error => exact ⟨undone, generatedLater_none⟩
  | ok outcome =>
      obtain ⟨request, _ | plan⟩ := outcome
      · apply (Transaction.ensures_bind ..).mpr
        apply (plain_body (only_finishRequest_of trivial (fun _ _ _ _ _ => trivial) request .completed) undone).mono
        intro result kept final reached
        have nothing : GeneratedLater final.2 := reached.2 ▸ generatedLater_none
        cases result <;> exact ⟨reached.1, nothing⟩
      · obtain ⟨planned, later⟩ := plans request plan rfl
        have known : PlannedFor (world.atTick ticks) request plan := planned
        apply (Transaction.ensures_bind ..).mpr
        apply (generates_openNextStage known later undone).mono
        intro result kept final reached
        cases result <;> exact reached

theorem reports_decideStageBody (identity : AuthenticatedIdentity) (stageId : UUID) (stage : WorkflowStageRecord)
    (version : Nat) (note : Option String) :
    Transaction.Ensures (reporting ManagerReported) (fun _ kept _ => PlainlyUndone kept) [] (world, none)
      (decideStageBody identity stageId stage .approve version note) := by
  apply (Transaction.ensures_lift_bind ..).mpr
  refine (ensures_orTranslate ..).mpr ⟨(fun _ _ _ _ _ same => nomatch same), ?_⟩
  intro reply after answered
  obtain ⟨current, generated⟩ := after
  obtain ⟨-, recorded⟩ := answered
  cases reply with
  | error error => exact PlainlyUndone.nil
  | ok decided =>
  obtain rfl : generated = none := recorded
  have undone : PlainlyUndone [compensateDecision stageId decided] := .cons .nil (only_compensation _ trivial)
  refine (Transaction.ensures_bind ..).mpr ((Transaction.ensures_register ..).mpr ((Transaction.ensures_done ..).mpr ?_))
  apply (Transaction.ensures_bind ..).mpr
  apply (generates_advanceAfterApproval (some identity.userId) stage undone).mono
  intro result kept final reached
  obtain ⟨undone, generated⟩ := reached
  cases result with
  | error error => exact undone
  | ok advancement =>
      apply (Transaction.ensures_lift_bind ..).mpr
      refine (ensures_orTranslate ..).mpr ⟨?_, fun reply after _ => ?_⟩
      · intro action actorId requestId metadata companyId same start row inserted
        obtain ⟨request, plan, planned, built, later⟩ := generated start row inserted
        injection same with same
        injection same with sameAction sameActor sameRequest sameMetadata sameCompany
        subst sameMetadata
        exact reported_later planned built later stageId note
      · cases reply <;> exact undone

theorem reports_approveStage (identity : AuthenticatedIdentity) (stageId : UUID) (expected : Option Nat)
    (note : Option DecisionNote) :
    (approveStage identity stageId expected note).Ensures (reporting ManagerReported) (fun _ _ => True) (world, none) := by
  have located : (getByIdForCompany stageId identity.companyId).Only Plain := by
    apply Only.bind (only_orNotFound _ trivial)
    intro record
    split <;> trivial
  refine (ensures_bind ..).mpr ((plain_kept located _).mono ?_)
  intro result final kept
  obtain ⟨current, generated⟩ := final
  obtain rfl : generated = none := kept
  cases result with
  | error error => trivial
  | ok stage =>
  dsimp only [Then]
  split
  · exact plain_sound ((only_replayIdempotentDecision stage).mono plain_of_auxiliary) _
  · have asked := (only_authorize identity (identity.mayDecide stage) "workflow stage").mono plain_of_auxiliary
    refine (ensures_bind ..).mpr ((plain_kept asked _).mono ?_)
    intro result final kept
    obtain ⟨later, generated⟩ := final
    obtain rfl : generated = none := kept
    rcases result with error | granted
    · trivial
    rcases granted with error | permitted
    · trivial
    refine (ensures_bind ..).mpr ((ensures_engineOrTranslate ..).mpr ?_)
    cases validateStageTransition stage.status Decision.approve.stageStatus with
    | error error => trivial
    | ok transition =>
    refine (ensures_bind ..).mpr ((plain_transaction _ (reports_decideStageBody identity stageId stage _ _)).mono ?_)
    intro result last _
    cases result with
    | error error => trivial
    | ok outcome =>
        exact plain_sound ((only_concludeDecision _ stageId stage outcome.2 _).mono plain_of_auxiliary) last

theorem reports_firstStage {definition : WorkflowDefinition} {plan : StagePlan} {requester : ProfileRecord}
    {approvers : List ProfileRecord} {created : RequestRecord} (companyId userId : UUID)
    (found : world.requests.find? created.id = some created)
    (pinned : world.definitions.find? created.workflowDefinitionId = some definition)
    (known : world.profiles.find? created.requesterId = some requester)
    (planned : planFirstStage definition requester approvers = .ok plan)
    (content : PlanOf definition requester approvers plan (firstStage definition))
    (listed : (firstStage definition).assignmentStrategy = .requesterManager →
      approvers = listedApprovers world created.companyId requester)
    (undone : PlainlyUndone registered) :
    Transaction.Ensures (reporting ManagerReported) (fun _ kept _ => PlainlyUndone kept) registered (world, none) (do
      let createdStage : WorkflowStageRecord ← orTranslate (.createStage created.id plan.stageOrder plan.stageName
        companyId plan.assignedRole plan.assignedTo)
      let updatedRequest : RequestRecord ← orTranslate (.setCurrentStage created.id created.version
        (some createdStage.id) .pending none)
      let _ ← orTranslate (.recordEvent .requestCreated (some userId) (some created.id)
        (some (.requestCreated createdStage.id (if plan.usedFallback then plan.fallbackReason else none))) none)
      return updatedRequest) := by
  apply (Transaction.ensures_lift_bind ..).mpr
  refine (ensures_orTranslate ..).mpr ⟨(fun _ _ _ _ _ same => nomatch same), ?_⟩
  intro reply after answered
  cases reply with
  | error error => exact undone
  | ok row =>
  obtain ⟨recorded, built⟩ := built_of_inserted answered
  have reported := reported_first found pinned known planned content listed built row.id
  apply (Transaction.ensures_lift_bind ..).mpr
  refine (ensures_orTranslate ..).mpr ⟨(fun _ _ _ _ _ same => nomatch same), ?_⟩
  intro reply last answered
  have kept : last.2 = some (world, row) := by
    rw [answered.2, recorded]
    cases reply <;> rfl
  cases reply with
  | error error => exact undone
  | ok updated =>
  apply (Transaction.ensures_lift_bind ..).mpr
  refine (ensures_orTranslate ..).mpr ⟨?_, fun reply final _ => ?_⟩
  · intro action actorId requestId metadata company same start inserted generated
    obtain ⟨rfl, rfl⟩ := Prod.mk.inj (Option.some.inj (kept.symm.trans generated))
    injection same with same
    injection same with sameAction sameActor sameRequest sameMetadata sameCompany
    subst sameMetadata
    exact reported
  · cases reply <;> exact undone

theorem reports_createRequestBody (identity : AuthenticatedIdentity) (payload : RequestCreate)
    {definition : WorkflowDefinition} {plan : StagePlan} {requester : ProfileRecord} {approvers : List ProfileRecord}
    (pinned : world.definitions.find? definition.id = some definition)
    (known : world.profiles.find? identity.userId = some requester)
    (planned : planFirstStage definition requester approvers = .ok plan)
    (content : PlanOf definition requester approvers plan (firstStage definition))
    (listed : (firstStage definition).assignmentStrategy = .requesterManager →
      approvers = listedApprovers world identity.companyId requester) :
    Transaction.Ensures (reporting ManagerReported) (fun _ kept _ => PlainlyUndone kept) [] (world, none)
      (createRequestBody identity payload definition plan) := by
  apply (Transaction.ensures_lift_bind ..).mpr
  refine (ensures_orTranslate ..).mpr ⟨(fun _ _ _ _ _ same => nomatch same), ?_⟩
  intro reply after answered
  obtain ⟨current, generated⟩ := after
  obtain ⟨step, recorded⟩ := answered
  cases reply with
  | error error => exact PlainlyUndone.nil
  | ok created =>
  obtain rfl : generated = none := recorded
  have taken : mayFail () world (.query (.createRequest identity.userId definition.id payload.requestType payload.title
    identity.companyId payload.description payload.department)) (.ok created) current := step
  obtain ⟨changed, executed, rfl⟩ := World.executed_of_mayFail taken
  obtain ⟨rfl, rfl, -⟩ := World.createRequest_ok executed
  refine (Transaction.ensures_bind ..).mpr ((Transaction.ensures_register ..).mpr ((Transaction.ensures_done ..).mpr ?_))
  exact reports_firstStage identity.companyId identity.userId ((find?_insert ..).trans (if_pos rfl)) pinned known planned
    content listed (.cons .nil (only_compensation _ trivial))

theorem reports_createRequest (identity : AuthenticatedIdentity) (input : RequestCreate) :
    (Services.createRequest identity input).Ensures (reporting ManagerReported) (fun _ _ => True) (world, none) := by
  refine (ensures_bind ..).mpr ((ensures_ofExcept ..).mpr ?_)
  cases input.validate with
  | error error => trivial
  | ok payload =>
  refine (ensures_bind ..).mpr ((ensures_orTranslate ..).mpr ⟨(fun _ _ _ _ _ same => nomatch same), ?_⟩)
  intro reply after answered
  obtain ⟨current, generated⟩ := after
  obtain ⟨step, recorded⟩ := answered
  obtain rfl : generated = none := recorded
  obtain ⟨rfl, executed⟩ := World.read_of_mayFail rfl step
  cases reply with
  | error error => trivial
  | ok candidates =>
  refine (ensures_bind ..).mpr ((ensures_engineOrTranslate ..).mpr ?_)
  cases resolved : resolveDefinition payload.requestType candidates.items with
  | error error => trivial
  | ok definition =>
  have pinned : world.definitions.find? definition.id = some definition := by
    have listed := Except.ok.inj (executed candidates rfl)
    have member := resolveDefinition_mem resolved
    rw [← listed] at member
    have among := List.mem_of_mem_drop (List.mem_of_mem_take member)
    unfold World.definitionsFor at among
    exact find?_of_mem _ (List.mem_of_mem_filter ((mem_orderBy ..).mp among))
  refine (ensures_bind ..).mpr ((ensures_orNotFound ..).mpr ⟨(fun _ _ _ _ _ same => nomatch same), ?_⟩)
  intro reply after answered
  obtain ⟨current, generated⟩ := after
  obtain ⟨step, recorded⟩ := answered
  obtain rfl : generated = none := recorded
  obtain ⟨rfl, profile⟩ := World.read_of_mayFail rfl step
  cases reply with
  | error error => trivial
  | ok requester =>
  have known := World.getById_ok_iff.mp (profile requester rfl)
  have fetched := @ensures_plain _ ManagerReported world.tick.tick none _ _
    ((only_fetchDepartmentApprovers definition requester identity.companyId).mono plain_of_auxiliary) (fun _ _ => True)
    (ensures_fetchDepartmentApproversIfNeeded definition requester identity.companyId)
  refine (ensures_bind ..).mpr (fetched.mono ?_)
  intro result final reached
  obtain ⟨current, generated⟩ := final
  obtain ⟨⟨⟨ticks, rfl⟩, listed⟩, rfl⟩ := reached
  cases result with
  | error error => trivial
  | ok approvers =>
  obtain ⟨plan, planned, content⟩ := planFirstStage_ok definition requester approvers
  refine (ensures_bind ..).mpr ((ensures_engineOrRaise ..).mpr ?_)
  rw [planned]
  have body := @reports_createRequestBody (world.tick.tick.atTick ticks) identity payload definition plan requester approvers
    pinned known planned content (listed approvers rfl)
  refine (ensures_bind ..).mpr ((plain_transaction _ body).mono ?_)
  intro result last _
  cases result with
  | error error => trivial
  | ok updatedRequest =>
  refine plain_sound ?_ last
  dsimp only
  split
  · apply Only.bind ((only_createAndDispatch ..).mono plain_of_auxiliary)
    intro _
    trivial
  · trivial

/-- Whatever the database fails, in every operation that generates a `requester_manager` stage, first or later: the
stage and the audit entry of the operation are as they are meant to be exactly if the stage is a first one and nobody
is eligible, or one approver comes first among the eligible, within the first hundred of the listed ones. -/
theorem manager_reported_iff_findable (call : GeneratingCall) (world : World) :
    call.program.Ensures (reporting ManagerReported) (fun _ _ => True) (world, none) := by
  cases call with
  | createRequest identity input => exact ensures_forEffect (reports_createRequest identity input)
  | approve identity stageId expected note => exact ensures_forEffect (reports_approveStage identity stageId expected note)

end Operations

section Samples

/-- A stage for the manager of the requester. -/
def managersStage (order : Nat) (positive : 0 < order) : StageDefinition :=
  { order, name := "Manager", assignmentStrategy := .requesterManager, assignedRole := none, department := none,
    assignedUserId := none, escalationHours := .finite 24, order_pos := positive, name_nonempty := (by decide),
    escalationHours_pos := oneDay_positive, strategyFields := rfl }

/-- The sample hub, where `leave` requests pass the first approver and then the manager of the requester. -/
def managedHub : World :=
  { sampleHub with
    definitions :=
      { rows := [sampleDefinition 1 "leave"
          { stages := [personalStage 1 Nat.one_pos 2, managersStage 2 Nat.two_pos], nonempty := (by decide),
            distinct := (by decide), contiguous := (by decide) }],
        next := 2, distinct := (by decide), fresh := (by decide) } }

/-- The hub after an employee of a department without approvers requested leave and the first stage was approved. -/
def fallenBackHub : World :=
  ((do
    let _ ← Services.createRequest sampleEmployee (sampleRequest "leave")
    approveStage sampleApprover 1 none none).run environment managedHub).2

/-- The second stage fell back on the administrators, and no audit entry tells of it. -/
theorem fallback_of_later_stage_untold :
    (∃ stage ∈ fallenBackHub.stages.rows, stage.stageOrder = 2 ∧ stage.assignedTo = none ∧
      stage.assignedRole = some .admin) ∧
    (∃ entry ∈ fallenBackHub.audit.rows, entry.action = .stageApproved) ∧
      ∀ entry ∈ fallenBackHub.audit.rows, carriesFallback entry.metadata = false := by
  decide +kernel

end Samples

end AutomationHub.System
