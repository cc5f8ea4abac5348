import AutomationHub.System.TenantAssignees
import Mathlib.Data.List.Dedup

/-!
The operations of the hub keep the assignees within the company, as long as no submitted document names a user of
another one.
-/

set_option autoImplicit false

namespace AutomationHub.System

open Foundation Model Database Services Auth Workflow Program Table Reliance

section Operations

variable {α : Type} {known : World}

theorem namesNobody_of_auxiliary (request : Call) (auxiliary : Auxiliary request) : NamesNobody request := by
  cases request with
  | query statement => cases statement <;> trivial
  | _ => trivial

theorem namesNobody_of_activation (request : Call) (activation : ActivationCall request) : NamesNobody request := by
  cases request with
  | query statement => cases statement <;> trivial
  | _ => trivial

theorem sound_of_harmless {program : Service α} (only : program.Only NamesNobody) : tenantReliance.Sound known program :=
  sound_of_only NamesNobody.permitted only

theorem sound_of_auxiliary {program : Service α} (only : program.Only Auxiliary) : tenantReliance.Sound known program :=
  sound_of_harmless (only.mono namesNobody_of_auxiliary)

theorem covers_of_harmless {registered : List (Service Unit)} {body : Transaction hubSignature AppError α}
    (only : body.Only NamesNobody) (covered : tenantReliance.Covered registered known) :
    tenantReliance.Covers registered known body :=
  covers_of_only NamesNobody.permitted only covered

theorem sound_transaction {operation : String} {body : Transaction hubSignature AppError α}
    (covers : tenantReliance.Covers [] known body) : tenantReliance.Sound known (transaction operation body) :=
  covers.sound (fun _ _ => trivial) fun _ => trivial

theorem answered_later {request : Call} {reply : request.Reply} {after : World}
    (answered : tenantReliance.protocol.answers known request reply after) :
    ∃ state, Onward known state ∧ TenantAssigned state ∧ mayFail () state request reply after ∧ Onward state after := by
  obtain ⟨state, gone, assigned, step, -⟩ := answered
  have failed : mayFail () state request reply after := step
  exact ⟨state, gone, assigned, failed, onward_of_mayFail failed⟩

theorem sound_bind {β : Type} {program : Service α} {next : α → Service β} (first : tenantReliance.Sound known program)
    (rest : ∀ value final, tenantReliance.Sound final (next value)) : tenantReliance.Sound known (program >>= next) := by
  apply (ensures_bind ..).mpr
  apply first.mono
  intro result final _
  cases result with
  | error error => trivial
  | ok value => exact rest value final

theorem stageAssignable_of_found {world : World} (assigned : TenantAssigned world) {stageId : UUID}
    {stage : WorkflowStageRecord} (found : world.stages.find? stageId = some stage) {user : UUID}
    (assignee : stage.assignedTo = some user) : StageAssignable world stageId user := by
  obtain ⟨member, named⟩ := (find?_eq_some_iff ..).mp found
  refine ⟨named ▸ world.stages.fresh stage member, ?_⟩
  intro other present same
  obtain rfl : other = stage := world.stages.eq_of_key_eq present member (same.trans named.symm)
  exact assigned.assigned other member user assignee

/-- An escalation takes the stage from its assignee; only its compensation gives the stage back. -/
theorem covers_escalateStageBody {stageId : UUID} {stage : WorkflowStageRecord}
    (own : ∀ user, stage.assignedTo = some user → StageAssignable known stageId user) :
    tenantReliance.Covers [] known (escalateStageBody stageId stage) := by
  unfold escalateStageBody
  apply (Transaction.ensures_lift_bind ..).mpr
  refine (ensures_orTranslate ..).mpr ⟨(fun user assigned => nomatch assigned), ?_⟩
  intro reply after answered
  cases reply with
  | error error => exact covered_nil
  | ok reassigned =>
      have restored : tenantReliance.Sound after (compensation
          (.escalateStage stageId reassigned.version stage.assignedTo stage.assignedRole)) := by
        refine (ensures_compensation ..).mpr ⟨?_, fun _ _ _ => trivial⟩
        exact fun user assigned => (own user assigned).later (onward_of_answers answered)
      refine (Transaction.ensures_bind ..).mpr ((Transaction.ensures_register ..).mpr ((Transaction.ensures_done ..).mpr ?_))
      refine covers_of_harmless ?_ (covered_nil.cons restored)
      exact Transaction.Only.bind (Transaction.only_ofProgram (only_orTranslate _ trivial)) fun _ => trivial

theorem sound_escalateStage (stageId : UUID) : tenantReliance.Sound known (Services.escalateStage stageId) := by
  refine (ensures_bind ..).mpr ((ensures_orNotFound ..).mpr ⟨trivial, ?_⟩)
  intro reply after answered
  cases reply with
  | error error => trivial
  | ok stage =>
      obtain ⟨state, -, assigned, step, further⟩ := answered_later answered
      obtain ⟨found, -⟩ := World.stage_of_mayFail step
      apply sound_bind
      · apply sound_transaction
        apply covers_escalateStageBody
        exact fun user assignee => (stageAssignable_of_found assigned found assignee).later further
      · intro reassigned final
        dsimp only
        split
        · exact sound_of_auxiliary (only_concludeEscalation ..)
        · trivial

theorem assignee_of_resolved {stage : StageDefinition} {requester : ProfileRecord} {approvers : List ProfileRecord}
    {user : UUID} (resolved : (resolveAssignment stage requester approvers).assignedTo = some user) :
    specificAssignee stage = some user ∨ ∃ approver ∈ approvers, approver.id = user := by
  unfold resolveAssignment at resolved
  cases strategy : stage.assignmentStrategy with
  | specificUser =>
      rw [strategy] at resolved
      exact .inl ((if_pos strategy).trans resolved)
  | departmentQueue =>
      rw [strategy] at resolved
      cases resolved
  | requesterManager =>
      rw [strategy] at resolved
      dsimp only [resolveRequesterManager] at resolved
      split at resolved
      · rename_i chosen rest eligible
        have sorted : chosen ∈ (approvers.filter fun approver => approver.department == requester.department).insertionSort
            fun left right => left.fullName ≤ right.fullName := eligible ▸ List.mem_cons_self
        have listed := List.mem_of_mem_filter ((List.perm_insertionSort _ _).mem_iff.mp sorted)
        exact .inr ⟨chosen, listed, Option.some.inj resolved⟩
      · cases resolved

theorem own_of_plan {companyId user : UUID} {definition : WorkflowDefinition} {requester : ProfileRecord}
    {approvers : List ProfileRecord} {plan : StagePlan} {stage : StageDefinition}
    (content : PlanOf definition requester approvers plan stage)
    (document : OwnDocument known companyId definition.definition)
    (own : ∀ approver ∈ approvers, OwnProfile known companyId approver.id) (assigned : plan.assignedTo = some user) :
    OwnProfile known companyId user := by
  rcases assignee_of_resolved (content.assignedTo.symm.trans assigned) with names | ⟨approver, listed, rfl⟩
  · have member := (definition.definition.mem_orderedStages stage).mp content.member
    exact document user (List.mem_filterMap.mpr ⟨stage, member, names⟩)
  · exact own approver listed

theorem own_of_listed {world after : World} {companyId : UUID} {department : Option String}
    {page : Page} {listed : PagedResult ProfileRecord}
    (answered : tenantReliance.protocol.answers world
      (.query (.listProfilesByRole .approver companyId department page)) (.ok listed) after) :
    ∀ approver ∈ listed.items, OwnProfile after companyId approver.id := by
  obtain ⟨state, -, -, step, -⟩ := answered_later answered
  obtain ⟨rfl, executed⟩ := World.read_of_mayFail rfl step
  obtain rfl := Except.ok.inj (executed listed rfl)
  intro approver member
  have selected : approver ∈ state.profilesByRole .approver companyId department :=
    List.mem_of_mem_drop (List.mem_of_mem_take member)
  unfold World.profilesByRole at selected
  obtain ⟨present, matching⟩ := List.mem_filter.mp (mem_orderBy.mp selected)
  simp only [Bool.and_eq_true, beq_iff_eq] at matching
  exact ⟨approver, present, rfl, matching.1.1.2⟩

theorem ensures_nextApproversOwn (definition : WorkflowDefinition) (stageOrder : Nat) (request : RequestRecord)
    (requester : ProfileRecord) :
    (fetchApproversForNextStage definition stageOrder request requester).Ensures tenantReliance.protocol
      (fun result final => ∀ approvers, result = .ok approvers →
        ∀ approver ∈ approvers, OwnProfile final request.companyId approver.id) known := by
  unfold fetchApproversForNextStage
  dsimp only
  split
  · refine (ensures_bind ..).mpr ((ensures_orRaise ..).mpr ⟨trivial, ?_⟩)
    intro reply after answered
    cases reply with
    | error error => exact fun _ same => nomatch same
    | ok listed =>
        intro approvers same
        obtain rfl := Except.ok.inj same
        exact own_of_listed answered
  · intro approvers same
    obtain rfl := Except.ok.inj same
    exact fun _ member => absurd member List.not_mem_nil

theorem ensures_planAssignable (viewer : Option UUID) (stage : WorkflowStageRecord) :
    (planAfterApproval viewer stage).Ensures tenantReliance.protocol
      (fun result final => ∀ request plan, result = .ok (request, some plan) →
        ∀ user, plan.assignedTo = some user → Assignable final request.id user) known := by
  refine (ensures_bind ..).mpr ((ensures_orNotFound ..).mpr ⟨trivial, ?_⟩)
  intro reply first answered
  cases reply with
  | error error => exact fun _ _ same => nomatch same
  | ok request =>
  obtain ⟨state, -, assigned, step, further⟩ := answered_later answered
  obtain ⟨found, -⟩ := World.request_of_mayFail step
  have stored := ((find?_eq_some_iff ..).mp found).1
  have own : OwnRequest first request.companyId request.id := OwnRequest.later further ⟨request, stored, rfl, rfl⟩
  have pinned := (assigned.pinned request stored).later further
  refine (ensures_bind ..).mpr ((ensures_orNotFound ..).mpr ⟨trivial, ?_⟩)
  intro reply second answered
  cases reply with
  | error error => exact fun _ _ same => nomatch same
  | ok definition =>
  have own := own.later (onward_of_answers answered)
  have document : OwnDocument second request.companyId definition.definition := by
    obtain ⟨later, gone, assigned, step, further⟩ := answered_later answered
    obtain ⟨located, -⟩ := World.definition_of_mayFail step
    obtain ⟨member, named⟩ := (find?_eq_some_iff ..).mp located
    have company : definition.companyId = request.companyId := (pinned.later gone).2 definition member named
    exact (company ▸ assigned.documents definition member).later further
  refine (ensures_bind ..).mpr ((ensures_orRaise ..).mpr ⟨trivial, ?_⟩)
  intro reply third answered
  cases reply with
  | error error => exact fun _ _ same => nomatch same
  | ok highest =>
  have own := own.later (onward_of_answers answered)
  have document := document.later (onward_of_answers answered)
  refine (ensures_bind ..).mpr ((ensures_orNotFound ..).mpr ⟨trivial, ?_⟩)
  intro reply fourth answered
  cases reply with
  | error error => exact fun _ _ same => nomatch same
  | ok requester =>
  have own := own.later (onward_of_answers answered)
  have document := document.later (onward_of_answers answered)
  refine (ensures_bind ..).mpr ((ensures_onward (ensures_nextApproversOwn ..)).mono ?_)
  intro result last reached
  obtain ⟨listed, gone⟩ := reached
  cases result with
  | error error => exact fun _ _ same => nomatch same
  | ok approvers =>
  refine (ensures_bind ..).mpr ((ensures_engineOrRaise ..).mpr ?_)
  cases planned : planNextStage definition stage.stageOrder highest requester approvers with
  | error error => exact fun _ _ same => nomatch same
  | ok outcome =>
  intro other plan same user assignee
  obtain ⟨rfl, rfl⟩ := Prod.mk.inj (Except.ok.inj same)
  obtain ⟨-, -, next, content, -⟩ := planNextStage_ok planned
  exact assignable_of_own (own.later gone)
    (own_of_plan content (document.later gone) (listed approvers rfl) assignee)

variable {registered : List (Service Unit)}

theorem covers_openNextStage {request : RequestRecord} {plan : StagePlan}
    (assignable : ∀ user, plan.assignedTo = some user → Assignable known request.id user)
    (covered : tenantReliance.Covered registered known) :
    tenantReliance.Covers registered known (openNextStage request plan) := by
  apply (Transaction.ensures_lift_bind ..).mpr
  refine (ensures_orTranslate ..).mpr ⟨assignable, ?_⟩
  intro reply after answered
  have covered := covered.later (onward_of_answers answered)
  cases reply with
  | error error => exact covered
  | ok newStage =>
      refine covers_of_harmless ?_ covered
      apply Transaction.Only.bind
      · exact Transaction.only_registerCompensation (only_compensateStageCreation_of trivial trivial)
      intro _
      apply Transaction.Only.bind (Transaction.only_ofProgram (only_engineOrTranslate _))
      intro _
      apply Transaction.Only.bind (Transaction.only_ofProgram (only_orTranslate _ trivial))
      intro updated
      apply Transaction.Only.bind (Transaction.only_registerCompensation (only_compensation _ trivial))
      intro _
      trivial

theorem covers_advanceAfterApproval (viewer : Option UUID) (stage : WorkflowStageRecord)
    (covered : tenantReliance.Covered registered known) :
    tenantReliance.Covers registered known (advanceAfterApproval viewer stage) := by
  refine (Transaction.ensures_lift_bind ..).mpr ((ensures_onward (ensures_planAssignable viewer stage)).mono ?_)
  intro result final reached
  obtain ⟨assignable, gone⟩ := reached
  have covered := covered.later gone
  cases result with
  | error error => exact covered
  | ok outcome =>
      obtain ⟨request, _ | plan⟩ := outcome
      · refine covers_of_harmless (Transaction.Only.bind ?_ fun _ => trivial) covered
        exact only_finishRequest_of trivial (fun _ _ _ _ _ => trivial) request .completed
      · apply covers_bind (covers_openNextStage (assignable request plan rfl) covered)
        exact fun _ _ _ covered => covered

theorem covers_decideStageBody (identity : AuthenticatedIdentity) (stageId : UUID) (stage : WorkflowStageRecord)
    (decision : Decision) (version : Nat) (note : Option String) :
    tenantReliance.Covers [] known (decideStageBody identity stageId stage decision version note) := by
  apply covers_bind
  · have only : (decisionStatement decision stageId version identity.userId note).Only NamesNobody := by
      cases decision <;> exact only_orTranslate _ trivial
    exact covers_of_harmless (Transaction.only_ofProgram only) covered_nil
  intro decided later final covered
  apply covers_bind
  · exact covers_of_harmless (Transaction.only_registerCompensation (only_compensation _ trivial)) covered
  intro _ later final covered
  have reported : ∀ (advancement : DecisionAdvancement) (later : List (Service Unit)) (final : World), tenantReliance.Covered later final →
      tenantReliance.Covers later final (do
        let _ ← orTranslate (.recordEvent advancement.auditAction (some identity.userId) (some stage.requestId)
          (some (.stageDecided stageId note)) none)
        return (decided, advancement)) := by
    intro advancement later final covered
    refine covers_of_harmless ?_ covered
    exact Transaction.Only.bind (Transaction.only_ofProgram (only_orTranslate _ trivial)) fun _ => trivial
  cases decision with
  | approve => exact covers_bind (covers_advanceAfterApproval _ _ covered) reported
  | reject =>
      have finalized : (finalizeRejection stage).Only NamesNobody := by
        apply Transaction.Only.bind (Transaction.only_ofProgram (only_orNotFound _ trivial))
        intro request
        exact Transaction.Only.bind (only_finishRequest_of trivial (fun _ _ _ _ _ => trivial) request .rejected)
          fun _ => trivial
      exact covers_bind (covers_of_harmless finalized covered) reported

theorem sound_decideStage (identity : AuthenticatedIdentity) (stageId : UUID) (decision : Decision)
    (expected : Option Nat) (note : Option String) :
    tenantReliance.Sound known (decideStage identity stageId decision expected note) := by
  have located : (getByIdForCompany stageId identity.companyId).Only NamesNobody := by
    apply Only.bind (only_orNotFound _ trivial)
    intro record
    split <;> trivial
  apply sound_bind (sound_of_harmless located)
  intro stage found
  dsimp only
  split
  · exact sound_of_auxiliary (only_replayIdempotentDecision stage)
  · apply sound_bind (sound_of_auxiliary (only_authorize identity (identity.mayDecide stage) "workflow stage"))
    intro granted asked
    cases granted with
    | error error => trivial
    | ok permitted =>
        apply sound_bind (sound_of_harmless (only_engineOrTranslate _))
        intro _ validated
        apply sound_bind (sound_transaction (covers_decideStageBody identity stageId stage decision _ note))
        intro outcome decided
        exact sound_of_auxiliary (only_concludeDecision _ stageId stage outcome.2 _)

theorem ensures_firstApproversOwn (definition : WorkflowDefinition) (requester : ProfileRecord) (companyId : UUID) :
    (fetchDepartmentApproversIfNeeded definition requester companyId).Ensures tenantReliance.protocol
      (fun result final => ∀ approvers, result = .ok approvers →
        ∀ approver ∈ approvers, OwnProfile final companyId approver.id) known := by
  unfold fetchDepartmentApproversIfNeeded
  split
  · intro approvers same
    obtain rfl := Except.ok.inj same
    exact fun _ member => absurd member List.not_mem_nil
  · refine (ensures_bind ..).mpr ((ensures_orTranslate ..).mpr ⟨trivial, ?_⟩)
    intro reply after answered
    cases reply with
    | error error => exact fun _ same => nomatch same
    | ok listed =>
        intro approvers same
        obtain rfl := Except.ok.inj same
        exact own_of_listed answered

theorem own_of_candidate {world after : World} {viewer : Option UUID} {requestType : String} {companyId : UUID}
    {isActive : Option Bool} {page : Page} {listed : PagedResult WorkflowDefinition}
    (answered : tenantReliance.protocol.answers world
      (.query (.listDefinitions viewer requestType companyId isActive page)) (.ok listed) after) :
    ∀ definition ∈ listed.items, CompanyDefinition after companyId definition.id ∧
      OwnDocument after companyId definition.definition := by
  obtain ⟨state, -, assigned, step, further⟩ := answered_later answered
  obtain ⟨-, executed⟩ := World.read_of_mayFail rfl step
  obtain rfl := Except.ok.inj (executed listed rfl)
  intro definition member
  have selected : definition ∈ state.definitionsFor viewer requestType companyId isActive :=
    List.mem_of_mem_drop (List.mem_of_mem_take member)
  unfold World.definitionsFor at selected
  obtain ⟨present, matching⟩ := List.mem_filter.mp (mem_orderBy.mp selected)
  simp only [Bool.and_eq_true, beq_iff_eq] at matching
  obtain rfl : definition.companyId = companyId := by tauto
  refine ⟨CompanyDefinition.later further ⟨state.definitions.fresh definition present, ?_⟩,
    (assigned.documents definition present).later further⟩
  intro row stored same
  exact congrArg WorkflowDefinition.companyId (state.definitions.eq_of_key_eq stored present same)

theorem covers_createRequestBody {identity : AuthenticatedIdentity} {payload : RequestCreate}
    {definition : WorkflowDefinition} {plan : StagePlan} (pinned : CompanyDefinition known identity.companyId definition.id)
    (own : ∀ user, plan.assignedTo = some user → OwnProfile known identity.companyId user) :
    tenantReliance.Covers [] known (createRequestBody identity payload definition plan) := by
  apply (Transaction.ensures_lift_bind ..).mpr
  refine (ensures_orTranslate ..).mpr ⟨pinned, ?_⟩
  intro reply after answered
  cases reply with
  | error error => exact covered_nil
  | ok created =>
  have request : OwnRequest after identity.companyId created.id := by
    obtain ⟨state, -, -, step, -⟩ := answered_later answered
    obtain ⟨changed, executed, rfl⟩ := World.executed_of_mayFail step
    obtain ⟨rfl, rfl, -⟩ := World.createRequest_ok executed
    exact ⟨_, (mem_insert ..).mpr (.inr rfl), rfl, rfl⟩
  have own : ∀ user, plan.assignedTo = some user → OwnProfile after identity.companyId user :=
    fun user assignee => (own user assignee).later (onward_of_answers answered)
  refine (Transaction.ensures_bind ..).mpr ((Transaction.ensures_register ..).mpr ((Transaction.ensures_done ..).mpr ?_))
  have covered : tenantReliance.Covered [compensation (.softDelete created.id created.version identity.userId)] after :=
    covered_nil.cons (sound_of_harmless (only_compensation _ trivial))
  apply (Transaction.ensures_lift_bind ..).mpr
  refine (ensures_orTranslate ..).mpr ⟨fun user assignee => assignable_of_own request (own user assignee), ?_⟩
  intro reply later answered
  have covered := covered.later (onward_of_answers answered)
  cases reply with
  | error error => exact covered
  | ok createdStage =>
      refine covers_of_harmless ?_ covered
      apply Transaction.Only.bind (Transaction.only_ofProgram (only_orTranslate _ trivial))
      intro updatedRequest
      exact Transaction.Only.bind (Transaction.only_ofProgram (only_orTranslate _ trivial)) fun _ => trivial

theorem sound_createRequest (identity : AuthenticatedIdentity) (input : RequestCreate) :
    tenantReliance.Sound known (Services.createRequest identity input) := by
  apply sound_bind (sound_of_harmless (only_ofExcept _))
  intro payload first
  refine (ensures_bind ..).mpr ((ensures_orTranslate ..).mpr ⟨trivial, ?_⟩)
  intro reply after answered
  cases reply with
  | error error => trivial
  | ok candidates =>
  refine (ensures_bind ..).mpr ((ensures_engineOrTranslate ..).mpr ?_)
  cases resolved : resolveDefinition payload.requestType candidates.items with
  | error error => trivial
  | ok definition =>
  obtain ⟨pinned, document⟩ := own_of_candidate answered definition (resolveDefinition_mem resolved)
  refine (ensures_bind ..).mpr ((ensures_orNotFound ..).mpr ⟨trivial, ?_⟩)
  intro reply further answered
  cases reply with
  | error error => trivial
  | ok requester =>
  have gone := onward_of_answers answered
  refine (ensures_bind ..).mpr ((ensures_onward (ensures_firstApproversOwn ..)).mono ?_)
  intro result last reached
  obtain ⟨listed, latest⟩ := reached
  cases result with
  | error error => trivial
  | ok approvers =>
  obtain ⟨plan, planned, content⟩ := planFirstStage_ok definition requester approvers
  refine (ensures_bind ..).mpr ((ensures_engineOrRaise ..).mpr ?_)
  rw [planned]
  have document : OwnDocument last identity.companyId definition.definition := (document.later gone).later latest
  have body : tenantReliance.Covers [] last (createRequestBody identity payload definition plan) :=
    covers_createRequestBody ((pinned.later gone).later latest)
      fun user assignee => own_of_plan content document (listed approvers rfl) assignee
  apply sound_bind (sound_transaction body)
  intro updatedRequest final
  dsimp only
  split
  · exact sound_of_auxiliary (Only.bind (only_createAndDispatch ..) fun _ => trivial)
  · trivial

theorem ensures_validateAssignees (document : WorkflowDefinitionDocument) :
    (validateAssignees document).Ensures tenantReliance.protocol
      (fun result final => result = .ok () → KnownDocument final document) known := by
  unfold validateAssignees
  dsimp only
  split
  · rename_i nobody
    refine (ensures_engineOrRaise ..).mpr fun _ user named => ?_
    have listed : user ∈ (document.stages.filterMap specificAssignee).dedup := List.mem_dedup.mpr named
    rw [nobody] at listed
    cases listed
  · refine (ensures_bind ..).mpr ((ensures_orRaise ..).mpr ⟨trivial, ?_⟩)
    intro reply after answered
    cases reply with
    | error error => exact fun same => nomatch same
    | ok found =>
        refine (ensures_engineOrTranslate ..).mpr fun accepted user named => ?_
        obtain ⟨stage, member, names⟩ := List.mem_filterMap.mp named
        obtain ⟨state, -, -, step, -⟩ := answered_later answered
        obtain ⟨rfl, executed⟩ := World.read_of_mayFail rfl step
        obtain rfl := Except.ok.inj (executed found rfl)
        cases checked : validateDefinitionAssignees document (_ : List UUID) with
        | error error =>
            rw [checked] at accepted
            cases accepted
        | ok _ =>
            have listed := (validateDefinitionAssignees_ok_iff ..).mp checked stage member user names
            obtain ⟨profile, present, rfl⟩ := List.mem_map.mp listed
            exact ⟨profile, (List.mem_filter.mp present).1, rfl⟩

theorem sound_createDefinition (client : Option UUID) (identity : AuthenticatedIdentity) (requestType : String)
    (definition : List StageDefinitionInput) (own : NamesOwn known identity.companyId definition) :
    tenantReliance.Sound known (Services.createDefinition client identity requestType definition) := by
  have manager := @sound_of_harmless _ known _ (only_requireDefinitionManager trivial identity)
  refine (ensures_bind ..).mpr ((ensures_onward manager).mono ?_)
  intro result first reached
  cases result with
  | error error => trivial
  | ok _ =>
  have own := own.later reached.2
  refine (ensures_bind ..).mpr ((ensures_ofExcept ..).mpr ?_)
  unfold validateDocument
  cases valid : WorkflowDefinitionDocument.validate definition with
  | none => trivial
  | some document =>
  refine (ensures_bind ..).mpr ((ensures_onward (ensures_validateAssignees document)).mono ?_)
  intro result second reached
  cases result with
  | error error => trivial
  | ok _ =>
  have named : OwnDocument second identity.companyId document := own.later reached.2 document valid (reached.1 rfl)
  refine (ensures_bind ..).mpr ((ensures_orTranslate ..).mpr ⟨trivial, ?_⟩)
  intro reply third answered
  cases reply with
  | error error => trivial
  | ok existing =>
      exact (ensures_orTranslate ..).mpr ⟨OwnDocument.later (onward_of_answers answered) named, fun _ _ _ => trivial⟩

theorem ensures_definitionOfCompany (client : Option UUID) (definitionId companyId : UUID) :
    (getDefinitionForCompany client definitionId companyId).Ensures tenantReliance.protocol
      (fun result final => ∀ existing, result = .ok existing → CompanyDefinition final companyId definitionId) known := by
  refine (ensures_bind ..).mpr ((ensures_orNotFound ..).mpr ⟨trivial, ?_⟩)
  intro reply after answered
  cases reply with
  | error error => exact fun _ same => nomatch same
  | ok record =>
      dsimp only [Then, Except.mapError]
      split
      · exact fun _ same => nomatch same
      · rename_i company
        intro existing same
        obtain ⟨state, -, -, step, further⟩ := answered_later answered
        obtain ⟨located, -⟩ := World.definition_of_mayFail step
        obtain ⟨member, named⟩ := (find?_eq_some_iff ..).mp located
        refine CompanyDefinition.later further ⟨named ▸ state.definitions.fresh record member, ?_⟩
        intro row stored keyed
        have same := state.definitions.eq_of_key_eq stored member (keyed.trans named.symm)
        exact same ▸ not_not.mp company

theorem sound_updateDraft (client : Option UUID) (identity : AuthenticatedIdentity) (definitionId : UUID)
    (definition : List StageDefinitionInput) (own : NamesOwn known identity.companyId definition) :
    tenantReliance.Sound known (Services.updateDraft client identity definitionId definition) := by
  have manager := @sound_of_harmless _ known _ (only_requireDefinitionManager trivial identity)
  refine (ensures_bind ..).mpr ((ensures_onward manager).mono ?_)
  intro result first reached
  cases result with
  | error error => trivial
  | ok _ =>
  have own := own.later reached.2
  refine (ensures_bind ..).mpr ((ensures_onward (ensures_definitionOfCompany client definitionId _)).mono ?_)
  intro result second reached
  cases result with
  | error error => trivial
  | ok existing =>
  have own := own.later reached.2
  have located := reached.1 existing rfl
  refine (ensures_bind ..).mpr ((ensures_engineOrTranslate ..).mpr ?_)
  cases validateEditAllowed existing with
  | error error => trivial
  | ok _ =>
  refine (ensures_bind ..).mpr ((ensures_ofExcept ..).mpr ?_)
  unfold validateDocument
  cases valid : WorkflowDefinitionDocument.validate definition with
  | none => trivial
  | some document =>
  refine (ensures_bind ..).mpr ((ensures_onward (ensures_validateAssignees document)).mono ?_)
  intro result third reached
  cases result with
  | error error => trivial
  | ok _ =>
      refine (ensures_orTranslate ..).mpr ⟨⟨identity.companyId, located.later reached.2, ?_⟩, fun _ _ _ => trivial⟩
      exact own.later reached.2 document valid (reached.1 rfl)

theorem sound_deleteDraft (client : Option UUID) (identity : AuthenticatedIdentity) (definitionId : UUID) :
    tenantReliance.Sound known (Services.deleteDraft client identity definitionId) := by
  apply sound_of_harmless
  apply Only.bind (only_requireDefinitionManager trivial identity)
  intro _
  apply Only.bind (only_getDefinitionForCompany client definitionId _ trivial)
  intro existing
  apply Only.bind (only_engineOrTranslate _)
  intro _
  exact only_orTranslate _ trivial

theorem sound_forEffect {service : Service α} (sound : tenantReliance.Sound known service) :
    tenantReliance.Sound known (forEffect service) :=
  ensures_forEffect sound

end Operations

section Runs

/-- The operations on requests, stages and definitions. -/
inductive HubOperation where
  | workflow (operation : Operation)
  | definitions (operation : DefinitionOperation)

def HubOperation.program : HubOperation → Service Unit
  | .workflow operation => operation.program
  | .definitions operation => operation.program

/-- A definition that the operation submits names users of the caller's company, as far as it names existing ones. -/
def HubOperation.NamesOwn (world : World) : HubOperation → Prop
  | .definitions (.createDefinition _ identity _ definition)
  | .definitions (.updateDraft _ identity _ definition) => System.NamesOwn world identity.companyId definition
  | _ => True

/-- Threads about to perform one operation each. -/
def launchHub {ι : Type} (operations : ι → HubOperation) (world : World) : Pool hubSignature AppError World ι where
  shared := world
  threads := fun thread => (operations thread).program

variable {known : World}

theorem sound_operation (operation : Operation) : tenantReliance.Sound known operation.program := by
  have compositional : Compositional fun {α} (program : Service α) => ∀ known, tenantReliance.Sound known program :=
    compositional_sound tenantReliance
  have auxiliary : ∀ request, Auxiliary request → ∀ known, tenantReliance.Sound known (ask request : Service _) :=
    fun request allowed known => sound_of_auxiliary ((only_ask _).mpr allowed)
  have escalate : ∀ stageId known, tenantReliance.Sound known (Services.escalateStage stageId) :=
    fun stageId known => sound_escalateStage stageId
  have enqueue : ∀ queueName payload priority maxAttempts requestId known, tenantReliance.Sound known
      (ask (.query (.enqueueJob queueName payload priority maxAttempts requestId)) : Service _) :=
    fun _ _ _ _ _ known => sound_of_harmless ((only_ask _).mpr trivial)
  cases operation with
  | createRequest identity input => exact sound_forEffect (sound_createRequest identity input)
  | approve identity stageId expected note => exact sound_forEffect (sound_decideStage identity stageId .approve _ _)
  | reject identity stageId expected note =>
      apply sound_forEffect
      unfold rejectStage
      split
      · trivial
      · exact sound_decideStage identity stageId .reject _ _
  | escalateStage stageId => exact sound_forEffect (sound_escalateStage stageId)
  | updateRequest identity requestId title description department expected =>
      exact sound_of_harmless
        (only_forEffect (only_updateRequest_of namesNobody_of_auxiliary identity requestId _ _ _ _ trivial))
  | withdrawRequest identity requestId expected =>
      exact sound_of_harmless
        (only_forEffect (only_withdrawRequest_of namesNobody_of_auxiliary identity requestId _ trivial trivial))
  | escalationJob dispatcher => exact safe_escalationJob compositional auxiliary enqueue escalate dispatcher known
  | reminderJob dispatcher => exact safe_reminderJob compositional auxiliary enqueue escalate dispatcher known
  | executeJob payload => exact safe_executeJob compositional auxiliary escalate payload known
  | listInbox identity page => exact sound_of_auxiliary (only_forEffect (only_listInbox identity page))
  | getApprovalEligibility identity requestId =>
      exact sound_of_auxiliary (only_forEffect (only_getApprovalEligibility identity requestId))

theorem sound_hubOperation (operation : HubOperation) (own : operation.NamesOwn known) :
    tenantReliance.Sound known operation.program := by
  cases operation with
  | workflow operation => exact sound_operation operation
  | definitions operation =>
      cases operation with
      | createDefinition client identity requestType definition =>
          exact sound_forEffect (sound_createDefinition client identity requestType definition own)
      | updateDraft client identity definitionId definition =>
          exact sound_forEffect (sound_updateDraft client identity definitionId definition own)
      | deleteDraft client identity definitionId => exact sound_deleteDraft client identity definitionId
      | activateVersion client identity definitionId =>
          apply sound_forEffect
          exact sound_of_harmless ((activationCall_activateVersion client identity definitionId).mono namesNobody_of_activation)
      | createRequest identity input => exact sound_forEffect (sound_createRequest identity input)

/-- However the operations interleave and whichever of their calls fail: as long as no submitted definition names an
existing user of another company, the stored definitions name users of their own company, and every stage is assigned
within the company of its request. -/
theorem tenantAssigned_of_run {start : World} {operations : ℕ → HubOperation} {events : List (Event hubSignature ℕ)}
    {final : Pool hubSignature AppError World ℕ} (assigned : TenantAssigned start)
    (own : ∀ thread, (operations thread).NamesOwn start)
    (run : Pool.Run mayFail (launchHub operations start) events final) : TenantAssigned final.shared := by
  have sound : ∀ thread, tenantReliance.Sound start (operations thread).program :=
    fun thread => sound_hubOperation (operations thread) (own thread)
  have real : ∀ {thread : ℕ} {state : World} {request : Call} {reply : request.Reply} {after : World},
      mayFail thread state request reply after → mayFail () state request reply after := id
  exact relied tenantReliance real run sound assigned

instance (world : World) (companyId user : UUID) : Decidable (OwnProfile world companyId user) :=
  List.decidableBEx _ _

instance (world : World) (companyId : UUID) (document : WorkflowDefinitionDocument) :
    Decidable (OwnDocument world companyId document) :=
  List.decidableBAll _ _

/-- The sample hub with the administrator of another company. -/
def neighbouredHub : World :=
  { sampleHub with profiles := sampleHub.profiles.insert rivalAdministrator }

theorem neighbouredHub_tenantAssigned : TenantAssigned neighbouredHub where
  documents := by decide +kernel
  pinned := fun _ member => absurd member List.not_mem_nil
  assigned := fun _ member => absurd member List.not_mem_nil

/-- The administrator drafts a workflow and puts it in use, and an employee requests leave. -/
def leaveOperations (stages : List StageDefinitionInput) (thread : ℕ) : HubOperation :=
  [HubOperation.definitions (.createDefinition (some 3) sampleAdmin "leave" stages),
    .definitions (.activateVersion (some 3) sampleAdmin 3),
    .workflow (.createRequest sampleEmployee (sampleRequest "leave"))].getD thread
    (.workflow (.getApprovalEligibility sampleEmployee 0))

def leaveHub (stages : List StageDefinitionInput) : World :=
  ((launchHub (leaveOperations stages) neighbouredHub).play environment
    (List.replicate 12 0 ++ List.replicate 12 1 ++ List.replicate 20 2)).shared

/-- A submitted stage for an approver of the company. -/
def colleagueStage : StageDefinitionInput :=
  { namedStage with assignedUserId := some 2 }

theorem tenantAssigned_of_run_leave :
    (leaveHub [colleagueStage]).stages.rows.map WorkflowStageRecord.assignedTo = [some 2] ∧
      TenantAssigned (leaveHub [colleagueStage]) := by
  refine ⟨by decide +kernel, tenantAssigned_of_run neighbouredHub_tenantAssigned ?_ (play_runs_mayFail _ _)⟩
  intro thread
  match thread with
  | 0 =>
      intro document valid _
      have own : (WorkflowDefinitionDocument.validate [colleagueStage]).all
          (fun document => decide (OwnDocument neighbouredHub 9 document)) = true := by decide +kernel
      rw [valid] at own
      exact of_decide_eq_true own
  | 1 | 2 => trivial
  | later + 3 => trivial

/-- A draft of one company names the administrator of another, is accepted, and a request of the first company is
assigned to that administrator. -/
theorem stage_assigned_across_companies : TenantAssigned neighbouredHub ∧
    (∃ definition ∈ (leaveHub [namedStage]).definitions.rows, definition.companyId = 9 ∧
      5 ∈ namedUsers definition.definition) ∧
    (∃ stage ∈ (leaveHub [namedStage]).stages.rows, stage.assignedTo = some 5 ∧
      ∃ request ∈ (leaveHub [namedStage]).requests.rows, request.id = stage.requestId ∧ request.companyId = 9) ∧
    ((leaveHub [namedStage]).profiles.find? 5).map ProfileRecord.companyId = some 8 := by
  refine ⟨neighbouredHub_tenantAssigned, ?_⟩
  decide +kernel

end Runs

end AutomationHub.System
