import AutomationHub.Services.WorkflowDefinitionService
import AutomationHub.System.DecisionAuthority
import AutomationHub.Workflow.EngineProperties

/-!
Who can decide a stage at the moment it is generated.
-/

set_option autoImplicit false

namespace AutomationHub.System

open Foundation Model Database Services Auth Workflow Program Table

/-- The active profiles of a company that were not erased. -/
def staff (world : World) (companyId : UUID) : List ProfileRecord :=
  world.profiles.rows.filter fun profile =>
    profile.companyId == companyId && profile.isActive && profile.deletedAt.isNone

/-- `can_decide_stage` for the holder of a profile. -/
def holderMayDecide (profile : ProfileRecord) (stage : WorkflowStageRecord) : Bool :=
  canDecideStage profile.role (stage.assignedTo == some profile.id) (stage.assignedRole == some profile.role)
    (stage.status == .pending)

def SomeoneDecides (world : World) (companyId : UUID) (stage : WorkflowStageRecord) : Prop :=
  ∃ profile ∈ staff world companyId, holderMayDecide profile stage = true

/-- The approvers among whom the manager of a requester is looked for. -/
def listedApprovers (world : World) (companyId : UUID) (requester : ProfileRecord) : List ProfileRecord :=
  (paginate (world.profilesByRole .approver companyId requester.department) .firstHundred).items

/-- The manager that `requester_manager` finds. -/
def chosenManager (world : World) (companyId : UUID) (requester : ProfileRecord) : Option ProfileRecord :=
  (((listedApprovers world companyId requester).filter fun approver =>
    approver.department == requester.department).insertionSort
      fun left right => left.fullName ≤ right.fullName).head?

/-- The strategy of a stage leads to somebody who can act: a named user who is an approver or administrator among the
staff, a role that one of them holds, or a manager who is active; without any manager, an administrator. -/
def Served (world : World) (companyId : UUID) (requester : ProfileRecord) (stage : StageDefinition) : Prop :=
  match stage.assignmentStrategy with
  | .specificUser => ∃ profile ∈ staff world companyId, stage.assignedUserId = some profile.id ∧ profile.role ≠ .employee
  | .departmentQueue => ∃ profile ∈ staff world companyId, stage.assignedRole = some profile.role ∧ profile.role ≠ .employee
  | .requesterManager =>
      (∀ manager, chosenManager world companyId requester = some manager → manager.isActive = true) ∧
        (chosenManager world companyId requester = none → ∃ profile ∈ staff world companyId, profile.role = .admin)

theorem mem_staff {world : World} {companyId : UUID} {profile : ProfileRecord} :
    profile ∈ staff world companyId ↔ profile ∈ world.profiles.rows ∧ profile.companyId = companyId ∧
      profile.isActive = true ∧ profile.deletedAt = none := by
  simp [staff, and_assoc]

theorem holderMayDecide_iff {profile : ProfileRecord} {stage : WorkflowStageRecord} (pending : stage.status = .pending) :
    holderMayDecide profile stage = true ↔ profile.role ≠ .employee ∧
      (stage.assignedTo = some profile.id ∨ stage.assignedRole = some profile.role) := by
  unfold holderMayDecide canDecideStage
  cases profile.role <;> simp [pending]

theorem chosenManager_mem {world : World} {companyId : UUID} {requester manager : ProfileRecord}
    (chosen : chosenManager world companyId requester = some manager) :
    manager ∈ world.profiles.rows ∧ manager.companyId = companyId ∧ manager.role = .approver ∧
      manager.deletedAt = none := by
  have sorted := List.mem_of_mem_head? chosen
  have filtered := List.mem_of_mem_filter ((List.perm_insertionSort _ _).mem_iff.mp sorted)
  have listed : manager ∈ world.profilesByRole .approver companyId requester.department :=
    List.mem_of_mem_drop (List.mem_of_mem_take filtered)
  unfold World.profilesByRole at listed
  rw [mem_orderBy, List.mem_filter] at listed
  obtain ⟨member, selected⟩ := listed
  simp only [Bool.and_eq_true, beq_iff_eq, Option.isNone_iff_eq_none] at selected
  exact ⟨member, selected.1.1.2, selected.1.1.1, selected.2⟩

section Assignments

variable {world : World} {companyId : UUID} {requester : ProfileRecord} {stage : StageDefinition}
  {row : WorkflowStageRecord}

theorem someoneDecides_iff (pending : row.status = .pending) : SomeoneDecides world companyId row ↔
    ∃ profile ∈ staff world companyId, profile.role ≠ .employee ∧
      (row.assignedTo = some profile.id ∨ row.assignedRole = some profile.role) := by
  unfold SomeoneDecides
  simp only [holderMayDecide_iff pending]

/-- A stage assigned as its definition says can be decided exactly if its strategy leads to somebody. -/
theorem someoneDecides_iff_served {approvers : List ProfileRecord}
    (listed : stage.assignmentStrategy = .requesterManager → approvers = listedApprovers world companyId requester)
    (pending : row.status = .pending)
    (assignedTo : row.assignedTo = (resolveAssignment stage requester approvers).assignedTo)
    (assignedRole : row.assignedRole = (resolveAssignment stage requester approvers).assignedRole) :
    SomeoneDecides world companyId row ↔ Served world companyId requester stage := by
  rw [someoneDecides_iff pending, assignedTo, assignedRole]
  unfold resolveAssignment Served
  cases strategy : stage.assignmentStrategy with
  | specificUser =>
      simp only [resolveSpecificUser, reduceCtorEq, or_false]
      exact exists_congr fun profile => and_congr_right fun _ => and_comm
  | departmentQueue =>
      simp only [resolveDepartmentQueue, reduceCtorEq, false_or]
      exact exists_congr fun profile => and_congr_right fun _ => and_comm
  | requesterManager =>
      have same := listed strategy
      subst same
      have resolved : chosenManager world companyId requester = (((listedApprovers world companyId requester).filter
        fun approver => approver.department == requester.department).insertionSort
          fun left right => left.fullName ≤ right.fullName).head? := rfl
      dsimp only
      unfold resolveRequesterManager
      dsimp only
      split
      · rename_i manager rest eligible
        rw [eligible] at resolved
        obtain ⟨present, company, role, kept⟩ := chosenManager_mem resolved
        simp only [reduceCtorEq, or_false, Option.some.injEq]
        constructor
        · intro decided
          obtain ⟨profile, member, -, named⟩ := decided
          obtain ⟨held, -, active, -⟩ := mem_staff.mp member
          obtain rfl : profile = manager := world.profiles.eq_of_key_eq held present named.symm
          refine ⟨fun other chosen => ?_, fun none => by rw [resolved] at none; cases none⟩
          obtain rfl := Option.some.inj (resolved.symm.trans chosen)
          exact active
        · intro served
          exact ⟨manager, mem_staff.mpr ⟨present, company, served.1 manager resolved, kept⟩, by rw [role]; decide, rfl⟩
      · rename_i eligible
        rw [eligible] at resolved
        have missing : chosenManager world companyId requester = none := resolved
        simp only [reduceCtorEq, false_or, Option.some.injEq, escalationFallbackRole]
        constructor
        · intro decided
          obtain ⟨profile, member, -, administrator⟩ := decided
          exact ⟨fun manager chosen => (by rw [missing] at chosen; cases chosen),
            fun _ => ⟨profile, member, administrator.symm⟩⟩
        · intro served
          obtain ⟨profile, member, administrator⟩ := served.2 missing
          exact ⟨profile, member, by rw [administrator]; decide, administrator.symm⟩

end Assignments

/-- The calls that generate stages. -/
inductive GeneratingCall where
  | createRequest (identity : AuthenticatedIdentity) (input : RequestCreate)
  | approve (identity : AuthenticatedIdentity) (stageId : UUID) (expectedVersion : Option Nat)
      (decisionNote : Option DecisionNote)

def GeneratingCall.program : GeneratingCall → Service Unit
  | .createRequest identity input => forEffect (Services.createRequest identity input)
  | .approve identity stageId expectedVersion decisionNote =>
      forEffect (approveStage identity stageId expectedVersion decisionNote)

/-- The new stage is that of a stage of the request's definition; somebody of the request's company can decide it if
the strategy of that stage leads to somebody, and only then if the strategy names a user. -/
def StaffedAsDefined (world : World) (row : WorkflowStageRecord) : Prop :=
  ∃ request definition stage requester, world.requests.find? row.requestId = some request ∧
    world.definitions.find? request.workflowDefinitionId = some definition ∧
    stage ∈ definition.definition.stages ∧ stage.order = row.stageOrder ∧
    world.profiles.find? request.requesterId = some requester ∧
    (Served world request.companyId requester stage → SomeoneDecides world request.companyId row) ∧
    (stage.assignmentStrategy = .specificUser →
      SomeoneDecides world request.companyId row → Served world request.companyId requester stage)

/-- Calls that the database may fail; each insert of a stage meets a condition on the state and on the new row. -/
def inserting (holds : World → WorkflowStageRecord → Prop) : Protocol hubSignature World where
  permits := fun world request => ∀ requestId stageOrder stageName companyId assignedRole assignedTo,
    request = .query (.createStage requestId stageOrder stageName companyId assignedRole assignedTo) →
      holds world
        ((world.newStage requestId stageOrder stageName companyId assignedRole assignedTo).build world.stages.next)
  answers := fun world request reply after => mayFail () world request reply after

/-- The call inserts no stage. -/
def InsertsNoStage : Call → Prop
  | .query (.createStage ..) => False
  | _ => True

section Generation

variable {holds : World → WorkflowStageRecord → Prop} {world after : World}

theorem InsertsNoStage.permitted {request : Call} (none : InsertsNoStage request) (world : World) :
    (inserting holds).permits world request := by
  intro requestId stageOrder stageName companyId assignedRole assignedTo same
  subst same
  exact none.elim

theorem ensures_insertsNoStage {α : Type} {program : Service α} (only : program.Only InsertsNoStage) (world : World) :
    program.Ensures (inserting holds) (fun _ _ => True) world :=
  only.ensures (fun _ => True) (fun state _ _ none => ⟨none.permitted state, fun _ _ _ => trivial⟩) trivial

/-- What a plan was made of. -/
def PlannedFor (world : World) (request : RequestRecord) (plan : StagePlan) : Prop :=
  ∃ definition stage requester approvers, world.requests.find? request.id = some request ∧
    world.definitions.find? request.workflowDefinitionId = some definition ∧
    world.profiles.find? request.requesterId = some requester ∧
    PlanOf definition requester approvers plan stage ∧
    (stage.assignmentStrategy = .requesterManager →
      approvers = listedApprovers world request.companyId requester)

theorem PlannedFor.staffed {request : RequestRecord} {plan : StagePlan} (planned : PlannedFor world request plan) :
    StaffedAsDefined world ((world.newStage request.id plan.stageOrder plan.stageName request.companyId
      plan.assignedRole plan.assignedTo).build world.stages.next) := by
  obtain ⟨definition, stage, requester, approvers, found, pinned, known, content, listed⟩ := planned
  have decided := @someoneDecides_iff_served world request.companyId requester stage ((world.newStage request.id
    plan.stageOrder plan.stageName request.companyId plan.assignedRole plan.assignedTo).build world.stages.next)
    approvers listed rfl content.assignedTo content.assignedRole
  have member := (definition.definition.mem_orderedStages stage).mp content.member
  exact ⟨request, definition, stage, requester, found, pinned, member, content.stageOrder.symm, known, decided.mpr,
    fun _ => decided.mp⟩

theorem ensures_fetchApproversForNextStage (definition : WorkflowDefinition) (stageOrder : Nat)
    (request : RequestRecord) (requester : ProfileRecord) :
    (fetchApproversForNextStage definition stageOrder request requester).Ensures (inserting holds)
      (fun result final => (∃ ticks, final = world.atTick ticks) ∧ ∀ approvers, result = .ok approvers →
        ∀ stage ∈ definition.definition.orderedStages, stage.order = stageOrder + 1 →
          stage.assignmentStrategy = .requesterManager → approvers = listedApprovers world request.companyId requester)
      world := by
  unfold fetchApproversForNextStage
  dsimp only
  split
  · refine (ensures_bind ..).mpr ((ensures_orRaise ..).mpr ⟨InsertsNoStage.permitted (by trivial) _, ?_⟩)
    intro reply after step
    obtain ⟨rfl, executed⟩ := World.read_of_mayFail rfl step
    cases reply with
    | error error => exact ⟨⟨_, rfl⟩, fun _ same => by cases same⟩
    | ok records =>
        have found := Except.ok.inj (executed records rfl)
        refine ⟨⟨_, rfl⟩, fun approvers same stage _ _ _ => ?_⟩
        obtain rfl := Except.ok.inj same
        rw [← found]
        rfl
  · rename_i other
    refine ⟨⟨world.ticks, rfl⟩, fun approvers _ stage member order strategy => ?_⟩
    exfalso
    apply other
    have selected : stage ∈ definition.definition.orderedStages.filter fun stage => stage.order == stageOrder + 1 :=
      List.mem_filter.mpr ⟨member, by simp [order]⟩
    cases remaining : definition.definition.orderedStages.filter fun stage => stage.order == stageOrder + 1 with
    | nil =>
        rw [remaining] at selected
        cases selected
    | cons first rest =>
        have leading : first ∈ definition.definition.orderedStages.filter fun stage => stage.order == stageOrder + 1 :=
          remaining ▸ List.mem_cons_self
        obtain ⟨firstMember, firstOrder⟩ := List.mem_filter.mp leading
        have same : first = stage := definition.definition.eq_of_order_eq firstMember member
          ((beq_iff_eq.mp firstOrder).trans order.symm)
        simp [same, strategy]

theorem ensures_plannedFor (viewer : Option UUID) (stage : WorkflowStageRecord) (world : World) :
    (planAfterApproval viewer stage).Ensures (inserting holds)
      (fun result final => (∃ ticks, final = world.atTick ticks) ∧
        ∀ request plan, result = .ok (request, some plan) → PlannedFor world request plan ∧ 1 < plan.stageOrder)
      world := by
  refine (ensures_bind ..).mpr ((ensures_orNotFound ..).mpr ⟨InsertsNoStage.permitted (by trivial) _, ?_⟩)
  intro reply after step
  obtain ⟨rfl, fetched⟩ := World.read_of_mayFail rfl step
  cases reply with
  | error error => exact ⟨⟨_, rfl⟩, fun _ _ same => by cases same⟩
  | ok request =>
  have found := World.getById_ok_iff.mp (fetched request rfl)
  have named : request.id = stage.requestId := ((find?_eq_some_iff ..).mp found).2
  refine (ensures_bind ..).mpr ((ensures_orNotFound ..).mpr ⟨InsertsNoStage.permitted (by trivial) _, ?_⟩)
  intro reply after step
  obtain ⟨rfl, looked⟩ := World.read_of_mayFail rfl step
  cases reply with
  | error error => exact ⟨⟨_, rfl⟩, fun _ _ same => by cases same⟩
  | ok definition =>
  have pinned := (World.getDefinition_ok_iff.mp (looked definition rfl)).1
  refine (ensures_bind ..).mpr ((ensures_orRaise ..).mpr ⟨InsertsNoStage.permitted (by trivial) _, ?_⟩)
  intro reply after step
  obtain ⟨rfl, -⟩ := World.read_of_mayFail rfl step
  cases reply with
  | error error => exact ⟨⟨_, rfl⟩, fun _ _ same => by cases same⟩
  | ok highest =>
  refine (ensures_bind ..).mpr ((ensures_orNotFound ..).mpr ⟨InsertsNoStage.permitted (by trivial) _, ?_⟩)
  intro reply after step
  obtain ⟨rfl, profile⟩ := World.read_of_mayFail rfl step
  cases reply with
  | error error => exact ⟨⟨_, rfl⟩, fun _ _ same => by cases same⟩
  | ok requester =>
  have known := World.getById_ok_iff.mp (profile requester rfl)
  refine (ensures_bind ..).mpr ((ensures_fetchApproversForNextStage ..).mono ?_)
  intro result final reached
  obtain ⟨⟨ticks, rfl⟩, listed⟩ := reached
  cases result with
  | error error => exact ⟨⟨_, rfl⟩, fun _ _ same => by cases same⟩
  | ok approvers =>
  refine (ensures_bind ..).mpr ((ensures_engineOrRaise ..).mpr ?_)
  cases planned : planNextStage definition stage.stageOrder highest requester approvers with
  | error error => exact ⟨⟨_, rfl⟩, fun _ _ same => by cases same⟩
  | ok outcome =>
  refine ⟨⟨_, rfl⟩, fun other plan same => ?_⟩
  obtain ⟨rfl, rfl⟩ := Prod.mk.inj (Except.ok.inj same)
  obtain ⟨-, started, next, content, order⟩ := planNextStage_ok planned
  refine ⟨⟨definition, next, requester, approvers, named.symm ▸ found, pinned, known, content, ?_⟩, ?_⟩
  · exact listed approvers rfl next content.member order
  · rw [content.stageOrder, order]
    omega

/-- The compensations insert no stage either. -/
def Undoes (registered : List (Service Unit)) : Prop :=
  ∀ compensation ∈ registered, compensation.Only InsertsNoStage

theorem Undoes.cons {compensation : Service Unit} {registered : List (Service Unit)}
    (only : compensation.Only InsertsNoStage) (undoes : Undoes registered) : Undoes (compensation :: registered) := by
  intro other member
  rcases List.mem_cons.mp member with rfl | earlier
  · exact only
  · exact undoes other earlier

variable {α : Type} {registered : List (Service Unit)}

theorem ensures_staffedTransaction {body : Transaction hubSignature AppError α} (operation : String)
    (ensured : Transaction.Ensures (inserting holds) (fun _ later _ => Undoes later) [] world body) :
    (transaction operation body).Ensures (inserting holds) (fun _ _ => True) world := by
  apply (Transaction.ensures_enact _ body _).mpr
  apply ensured.mono
  intro result later final undoes
  cases result with
  | ok value => trivial
  | error error =>
      have only : (Program.call ((transactionReport operation).began later.length)
          fun _ => Transaction.rollback (transactionReport operation) error later : Service α).Only InsertsNoStage :=
        ⟨trivial, fun _ => Transaction.only_rollback error undoes trivial⟩
      exact ensures_insertsNoStage only final

theorem undoes_of_only {body : Transaction hubSignature AppError α} (only : body.Only InsertsNoStage)
    (undoes : Undoes registered) :
    Transaction.Ensures (inserting holds) (fun _ later _ => Undoes later) registered world body := by
  induction body generalizing registered world with
  | done value => exact undoes
  | raised error => exact undoes
  | call request next recurse =>
      exact ⟨only.1.permitted world, fun reply after _ => recurse reply (only.2 reply) undoes⟩
  | register compensation next recurse => exact recurse only.2 (undoes.cons only.1)

theorem undoes_bind {β : Type} {body : Transaction hubSignature AppError α}
    {next : α → Transaction hubSignature AppError β}
    (first : Transaction.Ensures (inserting holds) (fun _ later _ => Undoes later) registered world body)
    (rest : ∀ value, (next value).Only InsertsNoStage) :
    Transaction.Ensures (inserting holds) (fun _ later _ => Undoes later) registered world (body >>= next) := by
  apply (Transaction.ensures_bind body next _).mpr
  apply first.mono
  intro result later final undoes
  cases result with
  | error error => exact undoes
  | ok value => exact undoes_of_only (rest value) undoes

theorem ensures_stageOpened {request : RequestRecord} {plan : StagePlan} (planned : PlannedFor world request plan)
    (undoes : Undoes registered) :
    Transaction.Ensures (inserting StaffedAsDefined) (fun _ later _ => Undoes later) registered world
      (openNextStage request plan) := by
  apply undoes_bind
  · apply (Transaction.ensures_ofProgram _).mpr
    refine (ensures_orTranslate ..).mpr ⟨?_, fun reply after _ => undoes⟩
    intro requestId stageOrder stageName companyId assignedRole assignedTo same
    injection same with same
    injection same with sameRequest sameOrder sameName sameCompany sameRole sameUser
    subst sameRequest sameOrder sameName sameCompany sameRole sameUser
    exact planned.staffed
  · intro newStage
    apply Transaction.Only.bind
    · exact Transaction.only_registerCompensation (only_compensateStageCreation_of trivial trivial)
    intro _
    apply Transaction.Only.bind (Transaction.only_ofProgram (only_engineOrTranslate _))
    intro _
    apply Transaction.Only.bind (Transaction.only_ofProgram (only_orTranslate _ trivial))
    intro updated
    apply Transaction.Only.bind (Transaction.only_registerCompensation (only_compensation _ trivial))
    intro _
    trivial

theorem ensures_stagesAdvanced (viewer : Option UUID) (stage : WorkflowStageRecord) (undoes : Undoes registered) :
    Transaction.Ensures (inserting StaffedAsDefined) (fun _ later _ => Undoes later) registered world
      (advanceAfterApproval viewer stage) := by
  refine (Transaction.ensures_lift_bind ..).mpr ((ensures_plannedFor viewer stage world).mono ?_)
  intro result final reached
  obtain ⟨⟨ticks, rfl⟩, planned⟩ := reached
  cases result with
  | error error => exact undoes
  | ok outcome =>
      obtain ⟨request, _ | plan⟩ := outcome
      · exact undoes_bind (undoes_of_only (only_finishRequest_of trivial (fun _ _ _ _ _ => trivial) request .completed) undoes) fun _ => trivial
      · have known : PlannedFor (world.atTick ticks) request plan := (planned request plan rfl).1
        exact undoes_bind (ensures_stageOpened known undoes) fun _ => trivial

theorem insertsNone_of_auxiliary {request : Call} (auxiliary : Auxiliary request) : InsertsNoStage request := by
  cases request with
  | query statement => cases statement <;> trivial
  | _ => trivial

theorem ensures_approvalBody (identity : AuthenticatedIdentity) (stageId : UUID) (stage : WorkflowStageRecord)
    (version : Nat) (note : Option String) :
    Transaction.Ensures (inserting StaffedAsDefined) (fun _ later _ => Undoes later) [] world
      (decideStageBody identity stageId stage .approve version note) := by
  have nothing : Undoes [] := fun _ member => absurd member List.not_mem_nil
  refine (Transaction.ensures_lift_bind ..).mpr ((ensures_orTranslate ..).mpr ⟨InsertsNoStage.permitted (by trivial) _, ?_⟩)
  intro reply after _
  cases reply with
  | error error => exact nothing
  | ok decided =>
      have undoes : Undoes [compensateDecision stageId decided] :=
        nothing.cons (only_compensation _ trivial)
      apply undoes_bind (ensures_stagesAdvanced (some identity.userId) stage undoes)
      intro advancement
      exact Transaction.Only.bind (Transaction.only_ofProgram (only_orTranslate _ trivial)) fun _ => trivial

theorem ensures_approveStage (identity : AuthenticatedIdentity) (stageId : UUID) (expected : Option Nat)
    (note : Option DecisionNote) (world : World) :
    (approveStage identity stageId expected note).Ensures (inserting StaffedAsDefined) (fun _ _ => True) world := by
  have located : (getByIdForCompany stageId identity.companyId).Only InsertsNoStage := by
    apply Only.bind (only_orNotFound _ trivial)
    intro record
    split <;> trivial
  refine (ensures_bind ..).mpr ((ensures_insertsNoStage located world).mono ?_)
  intro result final _
  cases result with
  | error error => trivial
  | ok stage =>
  dsimp only [Then]
  split
  · exact ensures_insertsNoStage ((only_replayIdempotentDecision stage).mono fun _ => insertsNone_of_auxiliary) final
  · have asked := (only_authorize identity (identity.mayDecide stage) "workflow stage").mono fun _ => insertsNone_of_auxiliary
    refine (ensures_bind ..).mpr ((ensures_insertsNoStage asked final).mono ?_)
    intro result later _
    rcases result with error | granted
    · trivial
    rcases granted with error | permitted
    · trivial
    refine (ensures_bind ..).mpr ((ensures_engineOrTranslate ..).mpr ?_)
    cases validateStageTransition stage.status Decision.approve.stageStatus with
    | error error => trivial
    | ok transition =>
    refine (ensures_bind ..).mpr ((ensures_staffedTransaction _ (ensures_approvalBody identity stageId stage _ _)).mono ?_)
    intro result last _
    cases result with
    | error error => trivial
    | ok outcome =>
        exact ensures_insertsNoStage
          ((only_concludeDecision _ stageId stage outcome.2 _).mono fun _ => insertsNone_of_auxiliary) last

theorem ensures_fetchDepartmentApproversIfNeeded (definition : WorkflowDefinition) (requester : ProfileRecord)
    (companyId : UUID) :
    (fetchDepartmentApproversIfNeeded definition requester companyId).Ensures (inserting holds)
      (fun result final => (∃ ticks, final = world.atTick ticks) ∧ ∀ approvers, result = .ok approvers →
        (firstStage definition).assignmentStrategy = .requesterManager →
          approvers = listedApprovers world companyId requester) world := by
  unfold fetchDepartmentApproversIfNeeded
  split
  · rename_i other
    exact ⟨⟨world.ticks, rfl⟩, fun _ _ strategy => absurd strategy other⟩
  · refine (ensures_bind ..).mpr ((ensures_orTranslate ..).mpr ⟨InsertsNoStage.permitted (by trivial) _, ?_⟩)
    intro reply after step
    obtain ⟨rfl, executed⟩ := World.read_of_mayFail rfl step
    cases reply with
    | error error => exact ⟨⟨_, rfl⟩, fun _ same => by cases same⟩
    | ok records =>
        have found := Except.ok.inj (executed records rfl)
        refine ⟨⟨_, rfl⟩, fun approvers same _ => ?_⟩
        obtain rfl := Except.ok.inj same
        rw [← found]
        rfl

theorem ensures_createRequestBody (identity : AuthenticatedIdentity) (payload : RequestCreate)
    {definition : WorkflowDefinition} {plan : StagePlan} {requester : ProfileRecord} {approvers : List ProfileRecord}
    {stage : StageDefinition} (pinned : world.definitions.find? definition.id = some definition)
    (known : world.profiles.find? identity.userId = some requester)
    (content : PlanOf definition requester approvers plan stage)
    (listed : stage.assignmentStrategy = .requesterManager →
      approvers = listedApprovers world identity.companyId requester) :
    Transaction.Ensures (inserting StaffedAsDefined) (fun _ later _ => Undoes later) [] world
      (createRequestBody identity payload definition plan) := by
  have nothing : Undoes [] := fun _ member => absurd member List.not_mem_nil
  refine (Transaction.ensures_lift_bind ..).mpr ((ensures_orTranslate ..).mpr ⟨InsertsNoStage.permitted (by trivial) _, ?_⟩)
  intro reply after step
  cases reply with
  | error error => exact nothing
  | ok created =>
  have taken : mayFail () world (.query _) (.ok created) after := step
  obtain ⟨changed, executed, rfl⟩ := World.executed_of_mayFail taken
  obtain ⟨rfl, rfl, -⟩ := World.createRequest_ok executed
  have undoes : Undoes [compensation (.softDelete world.requests.next 1 identity.userId)] :=
    nothing.cons (only_compensation _ trivial)
  refine (Transaction.ensures_bind ..).mpr ((Transaction.ensures_register ..).mpr ((Transaction.ensures_done ..).mpr ?_))
  apply undoes_bind
  · apply (Transaction.ensures_ofProgram _).mpr
    refine (ensures_orTranslate ..).mpr ⟨?_, fun reply after _ => undoes⟩
    intro requestId stageOrder stageName companyId assignedRole assignedTo same
    injection same with same
    injection same with sameRequest sameOrder sameName sameCompany sameRole sameUser
    subst sameRequest sameOrder sameName sameCompany sameRole sameUser
    have member := (definition.definition.mem_orderedStages stage).mp content.member
    refine ⟨_, definition, stage, requester, (find?_insert ..).trans (if_pos rfl), pinned, member,
      content.stageOrder.symm, known, ?_, fun _ => ?_⟩
    · exact (someoneDecides_iff_served listed rfl content.assignedTo content.assignedRole).mpr
    · exact (someoneDecides_iff_served listed rfl content.assignedTo content.assignedRole).mp
  · intro createdStage
    apply Transaction.Only.bind (Transaction.only_ofProgram (only_orTranslate _ trivial))
    intro updatedRequest
    exact Transaction.Only.bind (Transaction.only_ofProgram (only_orTranslate _ trivial)) fun _ => trivial

theorem ensures_createRequest (identity : AuthenticatedIdentity) (input : RequestCreate) (world : World) :
    (Services.createRequest identity input).Ensures (inserting StaffedAsDefined) (fun _ _ => True) world := by
  refine (ensures_bind ..).mpr ((ensures_ofExcept ..).mpr ?_)
  cases input.validate with
  | error error => trivial
  | ok payload =>
  refine (ensures_bind ..).mpr ((ensures_orTranslate ..).mpr ⟨InsertsNoStage.permitted (by trivial) _, ?_⟩)
  intro reply after step
  obtain ⟨rfl, executed⟩ := World.read_of_mayFail rfl step
  cases reply with
  | error error => trivial
  | ok candidates =>
  refine (ensures_bind ..).mpr ((ensures_engineOrTranslate ..).mpr ?_)
  cases resolved : resolveDefinition payload.requestType candidates.items with
  | error error => trivial
  | ok definition =>
  have pinned : world.definitions.find? definition.id = some definition := by
    have listed := Except.ok.inj (executed candidates rfl)
    have member := resolveDefinition_mem resolved
    rw [← listed] at member
    have among := List.mem_of_mem_drop (List.mem_of_mem_take member)
    unfold World.definitionsFor at among
    exact find?_of_mem _ (List.mem_of_mem_filter ((mem_orderBy ..).mp among))
  refine (ensures_bind ..).mpr ((ensures_orNotFound ..).mpr ⟨InsertsNoStage.permitted (by trivial) _, ?_⟩)
  intro reply after step
  obtain ⟨rfl, profile⟩ := World.read_of_mayFail rfl step
  cases reply with
  | error error => trivial
  | ok requester =>
  have known := World.getById_ok_iff.mp (profile requester rfl)
  refine (ensures_bind ..).mpr ((ensures_fetchDepartmentApproversIfNeeded ..).mono ?_)
  intro result final reached
  obtain ⟨⟨ticks, rfl⟩, listed⟩ := reached
  cases result with
  | error error => trivial
  | ok approvers =>
  obtain ⟨plan, planned, content⟩ := planFirstStage_ok definition requester approvers
  refine (ensures_bind ..).mpr ((ensures_engineOrRaise ..).mpr ?_)
  rw [planned]
  have body : Transaction.Ensures (inserting StaffedAsDefined) (fun _ later _ => Undoes later) []
      (world.tick.tick.atTick ticks) (createRequestBody identity payload definition plan) :=
    ensures_createRequestBody identity payload pinned known content (listed approvers rfl)
  refine (ensures_bind ..).mpr ((ensures_staffedTransaction _ body).mono ?_)
  intro result last _
  cases result with
  | error error => trivial
  | ok updatedRequest =>
  refine ensures_insertsNoStage ?_ last
  dsimp only
  split
  · apply Only.bind ((only_createAndDispatch ..).mono fun _ => insertsNone_of_auxiliary)
    intro _
    trivial
  · trivial

end Generation

/-- Whatever the database fails: every stage that a call generates can be decided by an active member of the request's
company if the strategy that its definition gives it leads to one. -/
theorem generated_stages_staffed (call : GeneratingCall) (world : World) :
    call.program.Ensures (inserting StaffedAsDefined) (fun _ _ => True) world := by
  cases call with
  | createRequest identity input => exact ensures_forEffect (ensures_createRequest identity input world)
  | approve identity stageId expected note => exact ensures_forEffect (ensures_approveStage identity stageId expected note world)

instance (world : World) (companyId : UUID) (stage : WorkflowStageRecord) :
    Decidable (SomeoneDecides world companyId stage) :=
  List.decidableBEx _ _

/-- An approver of the sales department whose account is deactivated. -/
def deactivatedApprover : Draft ProfileRecord where
  build := fun id => { sampleProfile id .approver (some "sales") with isActive := false }
  key_build := fun _ => rfl

/-- A submitted stage for that approver. -/
def namedStage : StageDefinitionInput :=
  { order := 1, name := "Line manager", assignmentStrategy := .specificUser, assignedRole := none, department := none,
    assignedUserId := some 5, escalationHours := .finite 48 }

/-- The sample hub with a deactivated approver, after the administrator drafted a workflow that names the approver and
put it in use. -/
def namingHub : World :=
  ((do
    let drafted ← createDefinition (some 3) sampleAdmin "leave" [namedStage]
    activateVersion (some 3) sampleAdmin drafted.id).run environment
      { sampleHub with profiles := sampleHub.profiles.insert deactivatedApprover }).2

/-- The hub after an employee requested leave. -/
def strandedHub : World :=
  ((Services.createRequest sampleEmployee (sampleRequest "leave")).run environment namingHub).2

/-- An administrator is active, and the stage that the new request got can be decided by nobody. -/
theorem request_left_to_deactivated_approver :
    (∃ profile ∈ staff namingHub 9, profile.role = .admin) ∧ namingHub.stages.rows = [] ∧
      ∃ stage ∈ strandedHub.stages.rows, ∃ request ∈ strandedHub.requests.rows, stage.requestId = request.id ∧
        ¬SomeoneDecides strandedHub request.companyId stage := by
  decide +kernel

end AutomationHub.System
