import AutomationHub.System.Footprints
import AutomationHub.Workflow.EngineProperties
import AutomationHub.Workflow.DecidedStages

/-!
What each operation does to the workflow when it runs alone: it takes one step of it, or
leaves it as it was.
-/

set_option autoImplicit false

namespace AutomationHub.System

open Foundation Model Database Services Auth Workflow Jobs Scheduler Program Table

def requestState (request : RequestRecord) : RequestState where
  companyId := request.companyId
  definitionId := request.workflowDefinitionId
  status := request.status
  currentStageId := request.currentStageId
  completed := request.completedAt.isSome
  withdrawn := request.deletedAt.isSome

def stageState (stage : WorkflowStageRecord) : StageState where
  requestId := stage.requestId
  companyId := stage.companyId
  order := stage.stageOrder
  name := stage.stageName
  status := stage.status
  decidedBy := stage.decidedBy

def workflowOf (world : World) : WorkflowState where
  requests := fun requestId => (world.requests.find? requestId).map requestState
  stages := fun stageId => (world.stages.find? stageId).map stageState

/-- The repository calls that write. -/
def Writes : Call → Prop
  | .query (.recordEvent ..) | .query (.createNotification ..) | .query (.markEmailSent _) | .query (.enqueueJob ..)
  | .query (.upsertPreference ..) => True
  | request => request.writesWorkflow = true

/-- One operation at a time, by a database that never fails; whether it may refuse a write is left open. -/
def serial (refusable : Prop) : Protocol hubSignature World where
  permits := fun _ _ => True
  answers := fun world request reply after =>
    environment request world = (reply, after) ∧ (Writes request → request.accepted reply = false → refusable)

/-- The workflow and what it rests on are as they were. -/
structure Aside (world after : World) : Prop where
  requests : after.requests = world.requests
  stages : after.stages = world.stages
  profiles : after.profiles = world.profiles
  definitions : after.definitions = world.definitions

/-- The columns of the workflow, and the definitions, are as they were. -/
structure Kept (world after : World) : Prop where
  workflow : workflowOf after = workflowOf world
  definitions : after.definitions = world.definitions

section Frames

variable {refusable : Prop} {world after : World}

theorem Aside.refl (world : World) : Aside world world := ⟨rfl, rfl, rfl, rfl⟩

theorem Aside.trans {last : World} (first : Aside world after) (second : Aside after last) : Aside world last :=
  ⟨second.requests.trans first.requests, second.stages.trans first.stages, second.profiles.trans first.profiles,
    second.definitions.trans first.definitions⟩

theorem workflowOf_eq_of_rows (requests : after.requests = world.requests) (stages : after.stages = world.stages) :
    workflowOf after = workflowOf world := by
  simp only [workflowOf, requests, stages]

theorem Aside.kept (aside : Aside world after) : Kept world after where
  workflow := workflowOf_eq_of_rows aside.requests aside.stages
  definitions := aside.definitions

theorem Kept.refl (world : World) : Kept world world := ⟨rfl, rfl⟩

theorem Kept.trans {last : World} (first : Kept world after) (second : Kept after last) : Kept world last :=
  ⟨second.workflow.trans first.workflow, second.definitions.trans first.definitions⟩

theorem refused_of_answered {statement : Query} {error : DatabaseError}
    (answered : environment (.query statement) world = (.error error, after)) : after = world.tick :=
  @World.unchanged_of_refused Unit () _ _ _ _ (.inl answered)

theorem executed_of_answered {statement : Query} {result : statement.Result}
    (answered : environment (.query statement) world = (.ok result, after)) :
    ∃ changed, world.execute statement = (.ok result, changed) ∧ after = changed.tick :=
  @World.executed_of_mayFail Unit () _ _ _ _ (.inl answered)

theorem answered_of_executed {statement : Query} {reply result : Except DatabaseError statement.Result} {changed : World}
    (answered : environment (.query statement) world = (reply, after)) (executed : world.execute statement = (result, changed)) :
    reply = result ∧ after = changed.tick := by
  obtain ⟨rfl, rfl⟩ := Prod.mk.inj answered
  exact ⟨congrArg Prod.fst executed, congrArg (fun outcome => outcome.2.tick) executed⟩

theorem definitions_of_answered {request : Call} {reply : request.Reply}
    (answered : environment request world = (reply, after))
    (other : ∀ statement, request = .query statement → statement.writesDefinitions = false) :
    after.definitions = world.definitions :=
  @World.definitions_of_mayFail Unit () _ _ _ _ (.inl answered) other

theorem aside_of_reading {request : Call} {reply : request.Reply}
    (answered : environment request world = (reply, after)) (reading : request.writesWorkflow = false) :
    Aside world after := by
  have definitions : after.definitions = world.definitions := by
    apply definitions_of_answered answered
    intro statement same
    subst same
    cases statement <;> first | rfl | cases reading
  rcases environment_change answered with ⟨statement, changed, rfl, change, rfl⟩ | ⟨requests, stages, profiles⟩
  · obtain ⟨requests, stages⟩ := change.unaffected reading
    exact ⟨requests, stages, change.profiles, definitions⟩
  · exact ⟨requests, stages, profiles, definitions⟩

theorem aside_of_only {α : Type} {program : Service α} (only : program.Only Auxiliary) (world : World) :
    program.Ensures (serial refusable) (fun _ final => Aside world final) world := by
  apply only.ensures (Aside world) _ (.refl world)
  intro middle request aside auxiliary
  exact ⟨trivial, fun reply after answered => aside.trans (aside_of_reading answered.1 auxiliary.reading)⟩

theorem workflowOf_modifyStage {id : UUID} {edit : Edit WorkflowStageRecord} (requests : after.requests = world.requests)
    (stages : after.stages = world.stages.modify id edit) (columns : ∀ row, stageState (edit.apply row) = stageState row) :
    workflowOf after = workflowOf world := by
  simp only [workflowOf, requests, stages, find?_modify, WorkflowState.mk.injEq, true_and]
  funext other
  split
  · rename_i same
    subst same
    simp [Option.map_map, Function.comp_def, columns]
  · rfl

theorem workflowOf_modifyRequest {id : UUID} {edit : Edit RequestRecord} (stages : after.stages = world.stages)
    (requests : after.requests = world.requests.modify id edit)
    (columns : ∀ row, requestState (edit.apply row) = requestState row) : workflowOf after = workflowOf world := by
  simp only [workflowOf, requests, stages, find?_modify, WorkflowState.mk.injEq, and_true]
  funext other
  split
  · rename_i same
    subst same
    simp [Option.map_map, Function.comp_def, columns]
  · rfl

theorem workflowOf_setRequest {id : UUID} {edit : Edit RequestRecord} {row : RequestRecord}
    (found : world.requests.find? id = some row) (stages : after.stages = world.stages)
    (requests : after.requests = world.requests.modify id edit) :
    workflowOf after = (workflowOf world).setRequest id (requestState (edit.apply row)) := by
  simp only [workflowOf, requests, stages, find?_modify, WorkflowState.setRequest, WorkflowState.mk.injEq, and_true]
  funext other
  rw [Function.update_apply, found]
  split <;> rfl

theorem workflowOf_setStage {id : UUID} {edit : Edit WorkflowStageRecord} {row : WorkflowStageRecord}
    (found : world.stages.find? id = some row) (requests : after.requests = world.requests)
    (stages : after.stages = world.stages.modify id edit) :
    workflowOf after = (workflowOf world).setStage id (stageState (edit.apply row)) := by
  simp only [workflowOf, requests, stages, find?_modify, WorkflowState.setStage, WorkflowState.mk.injEq, true_and]
  funext other
  rw [Function.update_apply, found]
  split <;> rfl

theorem workflowOf_insertRequest (world : World) (draft : Draft RequestRecord) (stages : after.stages = world.stages)
    (requests : after.requests = world.requests.insert draft) :
    workflowOf after = (workflowOf world).setRequest world.requests.next
      (requestState (draft.build world.requests.next)) := by
  simp only [workflowOf, requests, stages, find?_insert, WorkflowState.setRequest, WorkflowState.mk.injEq, and_true]
  funext other
  rw [Function.update_apply]
  split <;> rfl

theorem workflowOf_insertStage (world : World) (draft : Draft WorkflowStageRecord) (requests : after.requests = world.requests)
    (stages : after.stages = world.stages.insert draft) :
    workflowOf after = (workflowOf world).setStage world.stages.next (stageState (draft.build world.stages.next)) := by
  simp only [workflowOf, requests, stages, find?_insert, WorkflowState.setStage, WorkflowState.mk.injEq, true_and]
  funext other
  rw [Function.update_apply]
  split <;> rfl

theorem kept_of_jobCall {request : Call} {reply : request.Reply}
    (answered : environment request world = (reply, after)) (job : JobCall request) : Kept world after where
  workflow := by
    rcases environment_change answered with ⟨statement, changed, rfl, change, rfl⟩ | ⟨requests, stages, -⟩
    · cases change with
      | stage update =>
          cases update with
          | escalate => exact workflowOf_modifyStage rfl rfl fun _ => rfl
          | _ => cases job
      | request update => cases update <;> cases job
      | newStage => cases job
      | newRequest => cases job
      | removedStage => cases job
      | elsewhere requests stages => exact workflowOf_eq_of_rows requests stages
    · exact workflowOf_eq_of_rows requests stages
  definitions := by
    apply definitions_of_answered answered
    intro statement same
    subst same
    cases statement <;> first | rfl | cases job

/-- An audit entry on a request that exists, by nobody or by a user who has a profile, is never refused. -/
theorem recordEvent_answered {action : AuditAction} {actorId requestId : Option UUID} {metadata : Option AuditMetadata}
    {companyId : Option UUID} {reply : Except DatabaseError AuditLogRecord}
    (actor : actorId.all world.hasProfile = true) (known : requestId.all world.hasRequest = true)
    (answered : environment (.query (.recordEvent action actorId requestId metadata companyId)) world = (reply, after)) :
    (∃ entry, reply = .ok entry) ∧ Aside world after := by
  refine ⟨?_, aside_of_reading answered rfl⟩
  have accepted : world.recordEvent (world.newAuditLog action actorId requestId metadata companyId) = (.ok _, _) :=
    World.recordEvent_ok_iff.mpr ⟨rfl, rfl, actor, known⟩
  exact ⟨_, (congrArg Prod.fst answered).symm.trans (congrArg Prod.fst accepted)⟩

theorem kept_of_only {α : Type} {program : Service α} (only : program.Only JobCall) (world : World) :
    program.Ensures (serial refusable) (fun _ final => Kept world final) world := by
  apply only.ensures (Kept world) _ (.refl world)
  intro middle request kept job
  exact ⟨trivial, fun reply after answered => kept.trans (kept_of_jobCall answered.1 job)⟩

end Frames

section Requests

variable {refusable : Prop} (world : World)

theorem aside_step (middle : World) (request : Call) (aside : Aside world middle) (auxiliary : Auxiliary request) :
    (serial refusable).permits middle request ∧
      ∀ reply after, (serial refusable).answers middle request reply after → Aside world after :=
  ⟨trivial, fun _ _ answered => aside.trans (aside_of_reading answered.1 auxiliary.reading)⟩

theorem kept_updateEditableFields {world after : World} {requestId expectedVersion : Nat}
    {title description department : Option String} {reply : Except DatabaseError RequestRecord}
    (answered : environment (.query (.updateEditableFields requestId expectedVersion title description department)) world =
      (reply, after)) : Kept world after where
  workflow := by
    rcases environment_change answered with ⟨statement, changed, same, change, rfl⟩ | ⟨requests, stages, -⟩
    · cases same
      cases change with
      | stage update => cases update
      | request update =>
          cases update
          exact workflowOf_modifyRequest rfl rfl fun _ => rfl
      | elsewhere requests stages => exact workflowOf_eq_of_rows requests stages
    · exact workflowOf_eq_of_rows requests stages
  definitions := definitions_of_answered answered fun statement same => by cases same; rfl

theorem kept_updateRequest (identity : AuthenticatedIdentity) (requestId : UUID)
    (title description department : Option String) (expectedVersion : Nat) :
    (Services.updateRequest identity requestId title description department expectedVersion).Ensures (serial refusable)
      (fun _ final => Kept world final) world := by
  refine (ensures_bind ..).mpr ((aside_of_only (only_requestOfCompany identity requestId) world).mono ?_)
  intro fetched middle aside
  cases fetched with
  | error error => exact aside.kept
  | ok record =>
  refine (ensures_bind ..).mpr ((aside_of_only (only_authorize ..) middle).mono ?_)
  intro permitted later follows
  have aside := aside.trans follows
  cases permitted with
  | error error => exact aside.kept
  | ok granted =>
  cases granted with
  | error error => exact aside.kept
  | ok granted =>
  refine (ensures_bind ..).mpr ((ensures_ofExcept ..).mpr ?_)
  cases validateRequestUpdate title description with
  | error error => exact aside.kept
  | ok valid =>
      refine (ensures_orTranslate ..).mpr ⟨trivial, fun reply after answered => ?_⟩
      exact aside.kept.trans (kept_updateEditableFields answered.1)

/-- A withdrawal leaves the workflow as it is, or returns and withdraws the request it names. -/
theorem ensures_withdrawRequest (identity : AuthenticatedIdentity) (requestId : UUID) (expectedVersion : Nat) :
    (Services.withdrawRequest identity requestId expectedVersion).Ensures (serial refusable)
      (fun result final => final.definitions = world.definitions ∧ (workflowOf final = workflowOf world ∨
        (∃ record, result = .ok record) ∧ ∃ request, (workflowOf world).requests requestId = some request ∧
          workflowOf final = (workflowOf world).setRequest requestId { request with withdrawn := true })) world := by
  refine (ensures_bind ..).mpr ((aside_of_only (only_requestOfCompany identity requestId) world).mono ?_)
  intro fetched middle aside
  cases fetched with
  | error error => exact ⟨aside.definitions, .inl aside.kept.workflow⟩
  | ok record =>
  refine (ensures_bind ..).mpr ((aside_of_only (only_authorize ..) middle).mono ?_)
  intro permitted later follows
  have aside := aside.trans follows
  cases permitted with
  | error error => exact ⟨aside.definitions, .inl aside.kept.workflow⟩
  | ok granted =>
  cases granted with
  | error error => exact ⟨aside.definitions, .inl aside.kept.workflow⟩
  | ok granted =>
  refine (ensures_bind ..).mpr ((ensures_orTranslate ..).mpr ⟨trivial, fun reply after answered => ?_⟩)
  cases reply with
  | error error =>
      rw [refused_of_answered answered.1]
      exact ⟨aside.definitions, .inl aside.kept.workflow⟩
  | ok updated =>
      obtain ⟨changed, executed, rfl⟩ := executed_of_answered answered.1
      obtain ⟨row, found, current, accepted, rfl, rfl⟩ := World.updateRequest_ok_iff.mp executed
      have actor : later.hasProfile identity.userId = true :=
        (World.firstViolated_eq_none_iff _).mp accepted _ (List.mem_singleton_self _)
      refine (ensures_bind ..).mpr ((ensures_orTranslate ..).mpr ⟨trivial, fun reply last recorded => ?_⟩)
      obtain ⟨⟨entry, rfl⟩, unmoved⟩ := recordEvent_answered (by exact actor)
        (by simp [World.hasRequest, find?_modify, found]) recorded.1
      refine ⟨unmoved.definitions.trans aside.definitions, .inr ⟨⟨_, rfl⟩, requestState row, ?_, ?_⟩⟩
      · rw [← aside.kept.workflow]
        simp [workflowOf, found]
      · have written := workflowOf_setRequest found (by exact unmoved.stages) (by exact unmoved.requests)
        rw [written, ← aside.kept.workflow]
        rfl

end Requests

section Decisions

variable {refusable : Prop} {start world : World} {row decided : WorkflowStageRecord}

theorem ensures_fetchApprovers_alone (definition : WorkflowDefinition) (stageOrder : Nat) (request : RequestRecord)
    (requester : ProfileRecord) (world : World) :
    (fetchApproversForNextStage definition stageOrder request requester).Ensures (serial refusable)
      (fun _ final => Aside world final) world :=
  aside_of_only (only_fetchApproversForNextStage definition stageOrder request requester fun _ _ _ _ => rfl) world

/-- The plan after an approval is made from the request of the stage and the definition it is pinned to. -/
theorem ensures_planAfterApproval_alone (viewer : Option UUID) (stage : WorkflowStageRecord) (world : World) :
    (planAfterApproval viewer stage).Ensures (serial refusable) (fun result final => Aside world final ∧
      ∀ request planned, result = .ok (request, planned) → world.requests.find? stage.requestId = some request ∧
        ∃ definition highest requester approvers,
          world.definitions.find? request.workflowDefinitionId = some definition ∧
          planNextStage definition stage.stageOrder highest requester approvers = .ok planned) world := by
  refine (ensures_bind ..).mpr ((ensures_orNotFound ..).mpr ⟨trivial, fun reply first answered => ?_⟩)
  have fetched : Aside world first := aside_of_reading answered.1 rfl
  cases reply with
  | error error => exact ⟨fetched, fun _ _ same => nomatch same⟩
  | ok request =>
  obtain ⟨changed, executed, -⟩ := executed_of_answered answered.1
  have owner : world.requests.find? stage.requestId = some request :=
    World.getById_ok_iff.mp (congrArg Prod.fst executed)
  refine (ensures_bind ..).mpr ((ensures_orNotFound ..).mpr ⟨trivial, fun reply second answered => ?_⟩)
  have aside := fetched.trans (aside_of_reading answered.1 rfl)
  cases reply with
  | error error => exact ⟨aside, fun _ _ same => nomatch same⟩
  | ok definition =>
  obtain ⟨changed, executed, -⟩ := executed_of_answered answered.1
  have pinned : world.definitions.find? request.workflowDefinitionId = some definition := by
    rw [← fetched.definitions]
    exact (World.getDefinition_ok_iff.mp (congrArg Prod.fst executed)).1
  refine (ensures_bind ..).mpr ((ensures_orRaise ..).mpr ⟨trivial, fun reply third answered => ?_⟩)
  have aside := aside.trans (aside_of_reading answered.1 rfl)
  cases reply with
  | error error => exact ⟨aside, fun _ _ same => nomatch same⟩
  | ok highest =>
  refine (ensures_bind ..).mpr ((ensures_orNotFound ..).mpr ⟨trivial, fun reply fourth answered => ?_⟩)
  have aside := aside.trans (aside_of_reading answered.1 rfl)
  cases reply with
  | error error => exact ⟨aside, fun _ _ same => nomatch same⟩
  | ok requester =>
  refine (ensures_bind ..).mpr ((ensures_fetchApprovers_alone ..).mono ?_)
  intro fetched fifth follows
  have aside := aside.trans follows
  cases fetched with
  | error error => exact ⟨aside, fun _ _ same => nomatch same⟩
  | ok approvers =>
  refine (ensures_bind ..).mpr ((ensures_engineOrRaise ..).mpr ?_)
  cases planning : planNextStage definition stage.stageOrder highest requester approvers with
  | error error => exact ⟨aside, fun _ _ same => nomatch same⟩
  | ok planned =>
      refine ⟨aside, fun other outcome same => ?_⟩
      cases same
      exact ⟨owner, definition, highest, requester, approvers, pinned, planning⟩

/-- The decision on a stage is recorded, and nothing else done yet. -/
structure InDecision (start : World) (row decided : WorkflowStageRecord) (world : World) : Prop where
  workflow : workflowOf world = (workflowOf start).setStage row.id (stageState decided)
  stage : world.stages.find? row.id = some decided
  requests : world.requests = start.requests
  profiles : world.profiles = start.profiles
  definitions : world.definitions = start.definitions

theorem InDecision.aside (inDecision : InDecision start row decided world) {after : World} (aside : Aside world after) :
    InDecision start row decided after where
  workflow := aside.kept.workflow.trans inDecision.workflow
  stage := by rw [aside.stages, inDecision.stage]
  requests := aside.requests.trans inDecision.requests
  profiles := aside.profiles.trans inDecision.profiles
  definitions := aside.definitions.trans inDecision.definitions

theorem ensures_revert {α : Type} (operation : String) (error : AppError)
    (found : start.stages.find? row.id = some row)
    (columns : stageState { decided with status := .pending, decidedBy := none } = stageState row)
    (inDecision : InDecision start row decided world) :
    (Program.call ((transactionReport operation).began 1) fun _ =>
      (Transaction.rollback (transactionReport operation) error [compensateDecision row.id decided] : Service α)).Ensures
      (serial refusable) (fun result final => Kept start final ∧ result = .error error) world := by
  refine ⟨trivial, fun _ ticked logged => ?_⟩
  have inDecision := inDecision.aside (aside_of_reading logged.1 rfl)
  refine (ensures_bind ..).mpr ((ensures_tryCatch ..).mpr ((ensures_compensation ..).mpr
    ⟨trivial, fun reply after answered => ?_⟩))
  have accepted : ticked.updateStage row.id decided.version World.revertEdit (fun _ => none) = (.ok _, _) :=
    World.updateStage_ok_iff.mpr ⟨decided, inDecision.stage, rfl, rfl, rfl, rfl⟩
  obtain ⟨rfl, rfl⟩ := answered_of_executed answered.1 accepted
  refine ⟨⟨?_, inDecision.definitions⟩, rfl⟩
  refine Eq.trans (workflowOf_setStage inDecision.stage rfl rfl) ?_
  rw [inDecision.workflow, WorkflowState.setStage_setStage]
  apply WorkflowState.setStage_of_found
  simp only [workflowOf, found, Option.map_some, ← columns]
  rfl

/-- The workflow has come to the given state, and the audit entry on the request will be accepted. -/
structure Stepped (world : World) (requestId : UUID) (state : WorkflowState) (final : World) : Prop where
  workflow : workflowOf final = state
  profiles : final.profiles = world.profiles
  definitions : final.definitions = world.definitions
  known : final.hasRequest requestId = true

theorem ensures_setCurrentStage {request : RequestRecord} {currentStageId : Option UUID} {status : RequestStatus}
    {completedAt : Option Datetime} (found : world.requests.find? request.id = some request)
    (present : currentStageId.all world.hasStage = true) :
    (orTranslate (.setCurrentStage request.id request.version currentStageId status completedAt)).Ensures
      (serial refusable) (fun result final => (∃ updated, result = .ok updated) ∧
        Stepped world request.id ((workflowOf world).setRequest request.id
          { requestState request with status, currentStageId, completed := completedAt.isSome }) final) world := by
  refine (ensures_orTranslate ..).mpr ⟨trivial, fun reply after answered => ?_⟩
  have accepted : world.updateRequest request.id request.version
      (world.currentStageEdit currentStageId status completedAt)
      (fun request => World.firstViolated [("foreign_key", request.currentStageId.all world.hasStage)]) = (.ok _, _) :=
    World.updateRequest_ok_iff.mpr ⟨request, found, rfl,
      (World.firstViolated_eq_none_iff _).mpr fun constraint listed => by
        rw [List.mem_singleton.mp listed]
        exact present, rfl, rfl⟩
  obtain ⟨rfl, rfl⟩ := answered_of_executed answered.1 accepted
  refine ⟨⟨_, rfl⟩, ?_, rfl, rfl, ?_⟩
  · exact Eq.trans (workflowOf_setRequest found (by rfl) (by rfl)) rfl
  · simp [World.hasRequest, find?_modify, found]

theorem ensures_finishRequest_alone {request : RequestRecord} {status : RequestStatus}
    (found : world.requests.find? request.id = some request)
    (valid : validateRequestTransition request.status status = .ok ()) (registered : List (Service Unit)) :
    Transaction.Ensures (serial refusable) (fun result _ final => result = .ok () ∧
      Stepped world request.id ((workflowOf world).setRequest request.id
        { requestState request with status, currentStageId := none, completed := true }) final)
      registered world (finishRequest request status) := by
  refine (Transaction.ensures_lift_bind ..).mpr ((ensures_engineOrTranslate ..).mpr ?_)
  rw [valid]
  refine (Transaction.ensures_lift_bind ..).mpr ((ensures_utcNow ..).mpr ⟨trivial, fun now ticked answered => ?_⟩)
  have aside : Aside world ticked := aside_of_reading answered.1 rfl
  refine (Transaction.ensures_lift_bind ..).mpr
    ((ensures_setCurrentStage (by rw [aside.requests, found]) rfl).mono ?_)
  intro result final ⟨⟨updated, returned⟩, stepped⟩
  subst returned
  refine ⟨rfl, ?_, stepped.profiles.trans aside.profiles, stepped.definitions.trans aside.definitions, stepped.known⟩
  rw [stepped.workflow, aside.kept.workflow]
  rfl

theorem ensures_openNextStage_alone {request : RequestRecord} (plan : StagePlan)
    (found : world.requests.find? request.id = some request)
    (valid : validateRequestTransition request.status .inReview = .ok ()) (registered : List (Service Unit)) :
    Transaction.Ensures (serial refusable) (fun result later final => match result with
      | .ok newStage => newStage.id = world.stages.next ∧
          Stepped world request.id (((workflowOf world).setStage world.stages.next
            ⟨request.id, request.companyId, plan.stageOrder, plan.stageName, .pending, none⟩).setRequest request.id
            { requestState request with status := .inReview, currentStageId := some world.stages.next,
                                        completed := false }) final
      | .error _ => Aside world final ∧ later = registered ∧ refusable) registered world (openNextStage request plan) := by
  refine (Transaction.ensures_lift_bind ..).mpr ((ensures_orTranslate ..).mpr ⟨trivial, fun reply after answered => ?_⟩)
  cases reply with
  | error error =>
      rw [refused_of_answered answered.1]
      exact ⟨⟨rfl, rfl, rfl, rfl⟩, rfl, answered.2 rfl rfl⟩
  | ok newStage =>
  obtain ⟨changed, executed, rfl⟩ := executed_of_answered answered.1
  obtain ⟨rfl, same, -⟩ := World.createStage_ok_iff.mp executed
  have extended : workflowOf changed.tick = (workflowOf world).setStage world.stages.next
      ⟨request.id, request.companyId, plan.stageOrder, plan.stageName, .pending, none⟩ :=
    workflowOf_insertStage world (world.newStage request.id plan.stageOrder plan.stageName request.companyId
      plan.assignedRole plan.assignedTo) (by rw [same]; rfl) (by rw [same]; rfl)
  refine (Transaction.ensures_bind ..).mpr ((Transaction.ensures_register ..).mpr ((Transaction.ensures_done ..).mpr ?_))
  refine (Transaction.ensures_lift_bind ..).mpr ((ensures_engineOrTranslate ..).mpr ?_)
  rw [valid]
  refine (Transaction.ensures_lift_bind ..).mpr ((ensures_setCurrentStage ?_ ?_).mono ?_)
  · rw [same]
    exact found
  · rw [same]
    simp [World.hasStage, find?_insert, World.newStage]
  · intro result final ⟨⟨updated, returned⟩, stepped⟩
    subst returned
    refine ⟨rfl, ?_, ?_, ?_, stepped.known⟩
    · rw [stepped.workflow, extended]
      rfl
    · rw [stepped.profiles, same]
      rfl
    · rw [stepped.definitions, same]
      rfl

theorem validateRequestTransition_of_active {status : RequestStatus} (active : isTerminalRequestStatus status = false) :
    validateRequestTransition status .inReview = .ok () ∧ validateRequestTransition status .completed = .ok () ∧
      validateRequestTransition status .rejected = .ok () := by
  cases status with
  | pending => exact ⟨rfl, rfl, rfl⟩
  | inReview => exact ⟨rfl, rfl, rfl⟩
  | _ => cases active

/-- A decision on a pending stage of an active request. -/
structure Deciding (start : World) (row : WorkflowStageRecord) (request : RequestRecord) : Prop where
  found : start.stages.find? row.id = some row
  pending : row.status = .pending
  undecided : row.decidedBy = none
  owner : start.requests.find? row.requestId = some request
  active : isTerminalRequestStatus request.status = false

/-- The decision is on its stage, and the request stands where it is reported to. -/
structure Arrived (row decided : WorkflowStageRecord) (status : RequestStatus) (currentStageId : Option UUID)
    (state : WorkflowState) : Prop where
  stage : state.stages row.id = some (stageState decided)
  standing : state.Standing row.requestId status currentStageId

/-- The workflow has taken a step, or the decision is all there is to undo. -/
def Progressed (refusable : Prop) (start : World) (row decided : WorkflowStageRecord) :
    Except AppError DecisionAdvancement → List (Service Unit) → World → Prop
  | .ok advancement, _, final => ∃ state, Moves start.definitions.find? refusable (workflowOf start) state ∧
      Arrived row decided advancement.requestStatus advancement.newStageId state ∧
      Stepped start row.requestId state final
  | .error _, later, final => later = [compensateDecision row.id decided] ∧ InDecision start row decided final

variable {request : RequestRecord}

theorem Deciding.request_id (deciding : Deciding start row request) : request.id = row.requestId :=
  ((find?_eq_some_iff ..).mp deciding.owner).2

theorem Deciding.stage_found (deciding : Deciding start row request) :
    (workflowOf start).stages row.id = some (stageState row) := by
  simp [workflowOf, deciding.found]

theorem Deciding.request_found (deciding : Deciding start row request) :
    (workflowOf start).requests (stageState row).requestId = some (requestState request) := by
  simp [workflowOf, stageState, deciding.owner]

theorem Stepped.since {after final : World} {requestId : UUID} {state : WorkflowState}
    (stepped : Stepped after requestId state final) (inDecision : InDecision start row decided after) :
    Stepped start requestId state final where
  workflow := stepped.workflow
  profiles := stepped.profiles.trans inDecision.profiles
  definitions := stepped.definitions.trans inDecision.definitions
  known := stepped.known

variable {state : WorkflowState} {stage next : StageState} {owner : RequestState} {status : RequestStatus}

theorem arrived_of_finish (columns : stageState decided = stage) (reached : owner.status = status)
    (last : owner.currentStageId = none) (ended : isTerminalRequestStatus status = true) :
    Arrived row decided status none ((state.setStage row.id stage).setRequest row.requestId owner) where
  stage := by simp [columns]
  standing := ⟨⟨owner, by simp, reached, last⟩, (fun _ opens => nomatch opens), fun _ => ended⟩

theorem arrived_of_advance {nextId : UUID} (columns : stageState decided = stage) (apart : row.id ≠ nextId)
    (pending : next.status = .pending) (owned : next.requestId = row.requestId) (reached : owner.status = status)
    (current : owner.currentStageId = some nextId) :
    Arrived row decided status (some nextId)
      (((state.setStage row.id stage).setStage nextId next).setRequest row.requestId owner) where
  stage := by simp [columns, apart]
  standing := by
    refine ⟨⟨owner, by simp, reached, current⟩, ?_, fun last => nomatch last⟩
    intro id opens
    cases opens
    exact ⟨next, by simp, pending, owned⟩

theorem ensures_finalizeRejection_alone (deciding : Deciding start row request)
    (columns : ∃ author, stageState decided = { stageState row with status := .rejected, decidedBy := some author })
    (inDecision : InDecision start row decided world) :
    Transaction.Ensures (serial refusable) (Progressed refusable start row decided) [compensateDecision row.id decided]
      world (finalizeRejection row) := by
  obtain ⟨author, columns⟩ := columns
  refine (Transaction.ensures_lift_bind ..).mpr ((ensures_orNotFound ..).mpr ⟨trivial, fun reply after answered => ?_⟩)
  have later := inDecision.aside (aside_of_reading answered.1 rfl)
  cases reply with
  | error error => exact ⟨rfl, later⟩
  | ok fetched =>
  obtain ⟨changed, executed, -⟩ := executed_of_answered answered.1
  have located : world.requests.find? row.requestId = some fetched :=
    World.getById_ok_iff.mp (congrArg Prod.fst executed)
  rw [inDecision.requests, deciding.owner] at located
  cases located
  have current : after.requests.find? request.id = some request := by
    rw [later.requests, deciding.request_id, deciding.owner]
  refine (Transaction.ensures_bind ..).mpr
    ((ensures_finishRequest_alone current (validateRequestTransition_of_active deciding.active).2.2 _).mono ?_)
  intro result registered final ⟨returned, stepped⟩
  subst returned
  have stepped := stepped.since later
  rw [later.workflow, columns, deciding.request_id] at stepped
  exact ⟨_, .rejects deciding.stage_found deciding.pending deciding.request_found, arrived_of_finish columns rfl rfl rfl,
    stepped⟩

theorem ensures_advanceAfterApproval_alone (viewer : Option UUID) (deciding : Deciding start row request)
    (columns : ∃ author, stageState decided = { stageState row with status := .approved, decidedBy := some author })
    (inDecision : InDecision start row decided world) :
    Transaction.Ensures (serial refusable) (Progressed refusable start row decided) [compensateDecision row.id decided]
      world (advanceAfterApproval viewer row) := by
  obtain ⟨author, columns⟩ := columns
  refine (Transaction.ensures_lift_bind ..).mpr ((ensures_planAfterApproval_alone ..).mono ?_)
  intro result middle ⟨aside, planned⟩
  have later := inDecision.aside aside
  cases result with
  | error error => exact ⟨rfl, later⟩
  | ok outcome =>
  obtain ⟨fetched, plan⟩ := outcome
  obtain ⟨located, definition, highest, requester, approvers, pinned, planning⟩ := planned fetched plan rfl
  rw [inDecision.requests, deciding.owner] at located
  cases located
  rw [inDecision.definitions] at pinned
  have current : middle.requests.find? request.id = some request := by
    rw [later.requests, deciding.request_id, deciding.owner]
  obtain ⟨inReview, completed, -⟩ := validateRequestTransition_of_active deciding.active
  obtain ⟨-, -, content⟩ := planNextStage_ok planning
  cases plan with
  | none =>
      refine (Transaction.ensures_bind ..).mpr ((ensures_finishRequest_alone current completed _).mono ?_)
      intro result registered final ⟨returned, stepped⟩
      subst returned
      have stepped := stepped.since later
      rw [later.workflow, columns, deciding.request_id] at stepped
      exact ⟨_, .completes deciding.stage_found deciding.pending deciding.request_found pinned content,
        arrived_of_finish columns rfl rfl rfl, stepped⟩
  | some plan =>
      obtain ⟨entry, plans, order⟩ := content
      refine (Transaction.ensures_bind ..).mpr ((ensures_openNextStage_alone plan current inReview _).mono ?_)
      intro result registered final opened
      cases result with
      | error error =>
          obtain ⟨unmoved, same, -⟩ := opened
          exact ⟨same, later.aside unmoved⟩
      | ok newStage =>
          obtain ⟨identified, stepped⟩ := opened
          have stepped := stepped.since later
          rw [later.workflow, columns, deciding.request_id, plans.stageOrder, plans.stageName, order] at stepped
          have fresh : (workflowOf middle).stages middle.stages.next = none := by
            simp [workflowOf, find?_next]
          rw [later.workflow, WorkflowState.setStage_stages] at fresh
          split at fresh
          · cases fresh
          · rename_i apart
            refine ⟨_, .advances deciding.stage_found deciding.pending deciding.request_found fresh pinned plans.member
              order, ?_, stepped⟩
            dsimp only
            rw [identified]
            exact arrived_of_advance columns (Ne.symm apart) rfl rfl rfl rfl

/-- A decision that is recorded changes nothing but the status of its stage, and its author has a profile. -/
theorem inDecision_of_executed {status : StageStatus} {decidedBy : UUID} {version : Nat} {note : Option String}
    {changed : World} (found : start.stages.find? row.id = some row)
    (executed : start.decideStage status row.id version decidedBy note = (.ok decided, changed)) :
    InDecision start row decided changed.tick ∧
      stageState decided = { stageState row with status, decidedBy := some decidedBy } ∧
      start.hasProfile decidedBy = true := by
  obtain ⟨old, located, -, accepted, rfl, rfl⟩ := World.updateStage_ok_iff.mp executed
  rw [found] at located
  cases located
  refine ⟨⟨workflowOf_setStage found rfl rfl, ?_, rfl, rfl, rfl⟩, rfl, ?_⟩
  · exact (find?_modify ..).trans (by rw [if_pos rfl, found]; rfl)
  · exact (World.firstViolated_eq_none_iff _).mp accepted ("foreign_key", start.hasProfile decidedBy) (by simp)

variable {decision : Decision} {identity : AuthenticatedIdentity}

theorem ensures_decisionStatement_alone (found : start.stages.find? row.id = some row) (version : Nat)
    (note : Option String) :
    (decisionStatement decision row.id version identity.userId note).Ensures (serial refusable)
      (fun result final => match result with
        | .ok decided => InDecision start row decided final ∧
            stageState decided =
              { stageState row with status := decision.stageStatus, decidedBy := some identity.userId } ∧
            start.hasProfile identity.userId = true
        | .error _ => Aside start final) start := by
  cases decision with
  | approve =>
      refine (ensures_orTranslate ..).mpr ⟨trivial, fun reply after answered => ?_⟩
      cases reply with
      | error error =>
          rw [refused_of_answered answered.1]
          exact ⟨rfl, rfl, rfl, rfl⟩
      | ok decided =>
          obtain ⟨changed, executed, rfl⟩ := executed_of_answered answered.1
          exact inDecision_of_executed found executed
  | reject =>
      refine (ensures_orTranslate ..).mpr ⟨trivial, fun reply after answered => ?_⟩
      cases reply with
      | error error =>
          rw [refused_of_answered answered.1]
          exact ⟨rfl, rfl, rfl, rfl⟩
      | ok decided =>
          obtain ⟨changed, executed, rfl⟩ := executed_of_answered answered.1
          simp only [World.execute] at executed
          split at executed
          · cases congrArg Prod.fst executed
          · exact inDecision_of_executed found executed

/-- The workflow has taken a step, or is as it was. -/
def Taken (refusable : Prop) (start final : World) : Prop :=
  Moves start.definitions.find? refusable (workflowOf start) (workflowOf final) ∧ final.definitions = start.definitions

theorem Kept.taken {final : World} (kept : Kept start final) : Taken refusable start final :=
  ⟨kept.workflow ▸ .stays, kept.definitions⟩

/-- What a decision that returns reports is what it has done. -/
def Reported (decision : Decision) (identity : AuthenticatedIdentity) (row : WorkflowStageRecord)
    (stage : WorkflowStageRecord) (status : RequestStatus) (currentStageId : Option UUID) (state : WorkflowState) : Prop :=
  stage.id = row.id ∧
    stageState stage = { stageState row with status := decision.stageStatus, decidedBy := some identity.userId } ∧
    Arrived row stage status currentStageId state

/-- The audit entry closes a decision whose step is taken; otherwise the decision is rolled back. -/
theorem settles_of_progressed (operation : String) {stageId : UUID} {note : Option String}
    {body : Transaction hubSignature AppError DecisionAdvancement} (deciding : Deciding start row request)
    (identified : decided.id = row.id) (columns : stageState decided =
      { stageState row with status := decision.stageStatus, decidedBy := some identity.userId })
    (author : start.hasProfile identity.userId = true)
    (progressed : Transaction.Ensures (serial refusable) (Progressed refusable start row decided)
      [compensateDecision row.id decided] world body) :
    Transaction.Ensures (serial refusable) (Transaction.Settles (serial refusable) (transactionReport operation)
        fun result final => Taken refusable start final ∧ ∀ outcome, result = .ok outcome →
          Reported decision identity row outcome.1 outcome.2.requestStatus outcome.2.newStageId (workflowOf final))
      [compensateDecision row.id decided] world (do
        let advancement ← body
        let _ ← orTranslate (.recordEvent advancement.auditAction (some identity.userId) (some row.requestId)
          (some (.stageDecided stageId note)) none)
        return (decided, advancement)) := by
  refine (Transaction.ensures_bind ..).mpr (progressed.mono ?_)
  intro result registered final reached
  cases result with
  | error error =>
      obtain ⟨rfl, inDecision⟩ := reached
      refine (ensures_revert operation error deciding.found ?_ inDecision).mono fun _ _ reverted =>
        ⟨reverted.1.taken, fun _ same => by rw [reverted.2] at same; cases same⟩
      simp only [stageState, StageState.mk.injEq] at columns ⊢
      exact ⟨columns.1, columns.2.1, columns.2.2.1, columns.2.2.2.1, deciding.pending.symm, deciding.undecided.symm⟩
  | ok advancement =>
      obtain ⟨state, moves, concluded, stepped⟩ := reached
      refine (Transaction.ensures_lift_bind ..).mpr ((ensures_orTranslate ..).mpr ⟨trivial, fun reply last answered => ?_⟩)
      obtain ⟨⟨entry, rfl⟩, aside⟩ := recordEvent_answered
        (by simpa [World.hasProfile, stepped.profiles] using author) (by simpa using stepped.known) answered.1
      refine ⟨⟨?_, aside.definitions.trans stepped.definitions⟩, ?_⟩
      · rw [aside.kept.workflow, stepped.workflow]
        exact moves
      · intro outcome same
        cases same
        rw [aside.kept.workflow, stepped.workflow]
        exact ⟨identified, columns, concluded⟩

theorem ensures_decideStageBody_alone (operation : String) (version : Nat) (note : Option String)
    (deciding : Deciding start row request) :
    Transaction.Ensures (serial refusable) (Transaction.Settles (serial refusable) (transactionReport operation)
        fun result final => Taken refusable start final ∧ ∀ outcome, result = .ok outcome →
          Reported decision identity row outcome.1 outcome.2.requestStatus outcome.2.newStageId (workflowOf final))
      [] start (decideStageBody identity row.id row decision version note) := by
  refine (Transaction.ensures_lift_bind ..).mpr ((ensures_decisionStatement_alone deciding.found version note).mono ?_)
  intro result final reached
  cases result with
  | error error =>
      refine ⟨trivial, fun _ last logged => ⟨?_, fun _ same => nomatch same⟩⟩
      exact (Aside.trans reached (aside_of_reading logged.1 rfl)).kept.taken
  | ok decided =>
  obtain ⟨inDecision, columns, author⟩ := reached
  have identified : decided.id = row.id := ((find?_eq_some_iff ..).mp inDecision.stage).2
  refine (Transaction.ensures_bind ..).mpr ((Transaction.ensures_register ..).mpr ((Transaction.ensures_done ..).mpr ?_))
  cases decision with
  | approve =>
      exact settles_of_progressed operation deciding identified columns author
        (ensures_advanceAfterApproval_alone (some identity.userId) deciding ⟨_, columns⟩ inDecision)
  | reject =>
      exact settles_of_progressed operation deciding identified columns author
        (ensures_finalizeRejection_alone deciding ⟨_, columns⟩ inDecision)

theorem Taken.since {middle final : World} (taken : Taken refusable middle final) (aside : Aside start middle) :
    Taken refusable start final := by
  obtain ⟨moves, definitions⟩ := taken
  rw [aside.kept.workflow, aside.definitions] at moves
  exact ⟨moves, definitions.trans aside.definitions⟩

theorem Taken.aside {middle final : World} (taken : Taken refusable start middle) (aside : Aside middle final) :
    Taken refusable start final :=
  ⟨aside.kept.workflow ▸ taken.1, aside.definitions.trans taken.2⟩

theorem ensures_getByIdForCompany_alone (stageId companyId : UUID) (start : World) :
    (getByIdForCompany stageId companyId).Ensures (serial refusable) (fun result final => Aside start final ∧
      ∀ row, result = .ok row → start.stages.find? stageId = some row ∧ row.companyId = companyId) start := by
  refine (ensures_bind ..).mpr ((ensures_orNotFound ..).mpr ⟨trivial, fun reply after answered => ?_⟩)
  have aside : Aside start after := aside_of_reading answered.1 rfl
  cases reply with
  | error error => exact ⟨aside, fun _ same => nomatch same⟩
  | ok fetched =>
  obtain ⟨changed, executed, -⟩ := executed_of_answered answered.1
  have found : start.stages.find? stageId = some fetched := World.getById_ok_iff.mp (congrArg Prod.fst executed)
  dsimp only [Program.Then, Except.mapError]
  split
  · exact ⟨aside, fun _ same => nomatch same⟩
  · rename_i own
    exact ⟨aside, fun row same => by cases same; exact ⟨found, not_not.mp own⟩⟩

theorem deciding_of_sequential (sequential : (workflowOf start).Sequential) (found : start.stages.find? row.id = some row)
    (pending : row.status = .pending) : ∃ request, Deciding start row request := by
  have stage : (workflowOf start).stages row.id = some (stageState row) := by simp [workflowOf, found]
  obtain ⟨owner, owns, undecided, active⟩ := sequential.owned stage pending
  obtain ⟨request, located, rfl⟩ := Option.map_eq_some_iff.mp owns
  exact ⟨request, found, pending, undecided, located, active⟩

theorem ensures_concludeDecision_alone (viewer : Option UUID) (stageId : UUID) (stage : WorkflowStageRecord)
    (advancement : DecisionAdvancement) (outcome : ApprovalOutcome) (world : World) :
    (do
      tryCatch (dispatchPostDecisionNotifications viewer stage advancement) fun _ => log (.notificationFailed stageId)
      return outcome : Service ApprovalOutcome).Ensures (serial refusable)
      (fun result final => Aside world final ∧ ∀ returned, result = .ok returned → returned = outcome) world := by
  have dispatched := (notifying_dispatchPostDecisionNotifications viewer stage advancement).mono
    fun _ => NotifyingCall.auxiliary
  refine (ensures_bind ..).mpr ((aside_of_only (Only.tryCatch dispatched fun _ => (only_ask _).mpr trivial) world).mono ?_)
  intro result final aside
  cases result with
  | error error => exact ⟨aside, fun _ same => nomatch same⟩
  | ok dispatched => exact ⟨aside, fun _ same => (Except.ok.inj same).symm⟩

/-- A decision takes one step of the workflow, or leaves it as it was; what it returns on a pending stage is what it has
done. -/
theorem ensures_decideStage_reported (sequential : (workflowOf start).Sequential) (stageId : UUID)
    (expectedVersion : Option Nat) (note : Option String) :
    (decideStage identity stageId decision expectedVersion note).Ensures (serial refusable)
      (fun result final => Taken refusable start final ∧ ∀ outcome row, result = .ok outcome →
        start.stages.find? stageId = some row → row.status = .pending → row.companyId = identity.companyId ∧
          Reported decision identity row outcome.stage outcome.requestStatus outcome.currentStageId (workflowOf final))
      start := by
  refine (ensures_bind ..).mpr ((ensures_getByIdForCompany_alone ..).mono ?_)
  intro fetched first ⟨aside, located⟩
  cases fetched with
  | error error => exact ⟨aside.kept.taken, fun _ _ same => nomatch same⟩
  | ok row =>
  obtain ⟨stored, company⟩ := located row rfl
  have found : first.stages.find? stageId = some row := by rw [aside.stages, stored]
  obtain rfl : row.id = stageId := ((find?_eq_some_iff ..).mp found).2
  dsimp only [Program.Then]
  split
  · rename_i replays
    refine (aside_of_only (only_replayIdempotentDecision row) first).mono fun _ _ follows => ⟨?_, ?_⟩
    · exact (aside.trans follows).kept.taken
    · intro outcome other returned known pending
      cases stored.symm.trans known
      rw [pending] at replays
      cases decision <;> cases replays.1
  · refine (ensures_bind ..).mpr ((ensures_authorize identity (identity.mayDecide row) "workflow stage" (Aside start)
      (fun middle request => aside_step start middle request) aside).mono ?_)
    intro permitted second ⟨aside, right⟩
    cases permitted with
    | error error => exact ⟨aside.kept.taken, fun _ _ same => nomatch same⟩
    | ok granted =>
    cases granted with
    | error error => exact ⟨aside.kept.taken, fun _ _ same => nomatch same⟩
    | ok granted =>
    have pending : row.status = .pending := ((mayDecide_iff identity row).mp (right rfl)).2.1
    refine (ensures_bind ..).mpr ((ensures_engineOrTranslate ..).mpr ?_)
    cases validateStageTransition row.status decision.stageStatus with
    | error error => exact ⟨aside.kept.taken, fun _ _ same => nomatch same⟩
    | ok valid =>
    have sequential : (workflowOf second).Sequential := aside.kept.workflow ▸ sequential
    obtain ⟨request, deciding⟩ := deciding_of_sequential sequential (by rw [aside.stages, stored]) pending
    refine (ensures_bind ..).mpr (((Transaction.ensures_enact ..).mpr (ensures_decideStageBody_alone
      ("decide_stage_" ++ decision.stageStatus.value) (expectedVersion.getD row.version) note deciding)).mono ?_)
    intro result last ⟨taken, reported⟩
    have taken := taken.since aside
    cases result with
    | error error => exact ⟨taken, fun _ _ same => nomatch same⟩
    | ok outcome =>
        refine (ensures_concludeDecision_alone (some identity.userId) row.id row outcome.2 _ last).mono ?_
        intro result final ⟨follows, returns⟩
        refine ⟨taken.aside follows, ?_⟩
        intro returned other same known _
        cases stored.symm.trans known
        cases returns returned same
        refine ⟨company, ?_⟩
        rw [follows.kept.workflow]
        exact reported outcome rfl

theorem ensures_decideStage_alone (sequential : (workflowOf start).Sequential) (stageId : UUID)
    (expectedVersion : Option Nat) (note : Option String) :
    (decideStage identity stageId decision expectedVersion note).Ensures (serial refusable)
      (fun _ final => Taken refusable start final) start :=
  (ensures_decideStage_reported sequential stageId expectedVersion note).mono fun _ _ reported => reported.1

end Decisions

section Creations

variable {refusable : Prop} {start world : World} {definition : WorkflowDefinition}

theorem definition_of_listed {viewer : Option UUID} {requestType : String} {companyId : UUID} {page : Page}
    {candidates : PagedResult WorkflowDefinition}
    (listed : paginate (world.definitionsFor viewer requestType companyId (some true)) page = candidates)
    (resolved : resolveDefinition requestType candidates.items = .ok definition) :
    world.definitions.find? definition.id = some definition ∧ definition.companyId = companyId := by
  have member := resolveDefinition_mem resolved
  rw [← listed] at member
  have among := List.mem_of_mem_drop (List.mem_of_mem_take member)
  unfold World.definitionsFor at among
  obtain ⟨stored, meets⟩ := List.mem_filter.mp ((mem_orderBy ..).mp among)
  simp only [Bool.and_eq_true, beq_iff_eq] at meets
  exact ⟨find?_of_mem _ stored, meets.1.1.2⟩

/-- The new request is there, without a stage. -/
structure Drafted (start : World) (request : RequestRecord) (world : World) : Prop where
  fresh : (workflowOf start).requests request.id = none
  workflow : workflowOf world = (workflowOf start).setRequest request.id (requestState request)
  found : world.requests.find? request.id = some request
  profiles : world.profiles = start.profiles
  definitions : world.definitions = start.definitions

theorem drafted_of_executed {draft : Draft RequestRecord} {created : RequestRecord} {changed : World}
    (executed : start.createRequest draft = (.ok created, changed)) :
    created = draft.build start.requests.next ∧ start.hasProfile created.requesterId = true ∧
      Drafted start created changed.tick := by
  obtain ⟨rfl, rfl, actor⟩ := World.createRequest_ok executed
  have id : (draft.build start.requests.next).id = start.requests.next := draft.key_build _
  refine ⟨rfl, actor, ?_, ?_, ?_, rfl, rfl⟩
  · simp [workflowOf, id, find?_next]
  · rw [id]
    exact workflowOf_insertRequest start draft rfl rfl
  · rw [id]
    exact (find?_insert ..).trans (if_pos rfl)

theorem ensures_abandon {α : Type} (operation : String) (error : AppError) {request : RequestRecord} {deletedBy : UUID}
    (found : world.requests.find? request.id = some request) (actor : world.hasProfile deletedBy = true) :
    (Program.call ((transactionReport operation).began 1) fun _ =>
      (Transaction.rollback (transactionReport operation) error
        [compensation (.softDelete request.id request.version deletedBy)] : Service α)).Ensures (serial refusable)
      (fun _ final => workflowOf final = (workflowOf world).setRequest request.id
          { requestState request with withdrawn := true } ∧ final.definitions = world.definitions) world := by
  refine ⟨trivial, fun _ ticked logged => ?_⟩
  have aside : Aside world ticked := aside_of_reading logged.1 rfl
  refine (ensures_bind ..).mpr ((ensures_tryCatch ..).mpr ((ensures_compensation ..).mpr
    ⟨trivial, fun reply after answered => ?_⟩))
  have located : ticked.requests.find? request.id = some request := by rw [aside.requests, found]
  have accepted : ticked.updateRequest request.id request.version (ticked.softDeleteEdit deletedBy)
      (fun _ => World.firstViolated [("foreign_key", ticked.hasProfile deletedBy)]) = (.ok _, _) :=
    World.updateRequest_ok_iff.mpr ⟨request, located, rfl,
      (World.firstViolated_eq_none_iff _).mpr fun constraint listed => by
        rw [List.mem_singleton.mp listed]
        simpa [World.hasProfile, aside.profiles] using actor, rfl, rfl⟩
  obtain ⟨rfl, rfl⟩ := answered_of_executed answered.1 accepted
  refine ⟨?_, aside.definitions⟩
  rw [← aside.kept.workflow]
  exact Eq.trans (workflowOf_setRequest located (by rfl) (by rfl)) rfl

theorem ensures_createRequestBody_alone (identity : AuthenticatedIdentity) (payload : RequestCreate) {plan : StagePlan}
    {entry : StageDefinition} (pinned : start.definitions.find? definition.id = some definition)
    (company : definition.companyId = identity.companyId) (listed : entry ∈ definition.definition.orderedStages)
    (first : entry.order = 1) (order : plan.stageOrder = entry.order) (name : plan.stageName = entry.name) :
    Transaction.Ensures (serial refusable) (Transaction.Settles (serial refusable) (transactionReport "create_request")
        fun _ final => Taken refusable start final)
      [] start (createRequestBody identity payload definition plan) := by
  refine (Transaction.ensures_lift_bind ..).mpr ((ensures_orTranslate ..).mpr ⟨trivial, fun reply opened answered => ?_⟩)
  cases reply with
  | error error =>
      refine ⟨trivial, fun _ last logged => ?_⟩
      rw [refused_of_answered answered.1] at logged
      exact (Aside.trans ⟨rfl, rfl, rfl, rfl⟩ (aside_of_reading logged.1 rfl)).kept.taken
  | ok created =>
  obtain ⟨changed, executed, rfl⟩ := executed_of_answered answered.1
  obtain ⟨built, actor, drafted⟩ := drafted_of_executed executed
  have state : requestState created = ⟨identity.companyId, definition.id, .pending, none, false, false⟩ := by
    rw [built]
    rfl
  have requester : created.requesterId = identity.userId := by
    rw [built]
    rfl
  generalize changed.tick = opened at drafted
  have actor : opened.hasProfile identity.userId = true := by
    rw [← requester]
    simpa [World.hasProfile, drafted.profiles] using actor
  refine (Transaction.ensures_bind ..).mpr ((Transaction.ensures_register ..).mpr ((Transaction.ensures_done ..).mpr ?_))
  refine (Transaction.ensures_lift_bind ..).mpr ((ensures_orTranslate ..).mpr ⟨trivial, fun reply staged answered => ?_⟩)
  cases reply with
  | error error =>
      obtain rfl := refused_of_answered answered.1
      have found : opened.tick.requests.find? created.id = some created := drafted.found
      refine (ensures_abandon _ _ found actor).mono ?_
      intro _ final ⟨withdrawn, definitions⟩
      refine ⟨?_, definitions.trans drafted.definitions⟩
      have workflow : workflowOf opened.tick = _ := drafted.workflow
      rw [withdrawn, workflow, WorkflowState.setRequest_setRequest, state]
      exact .abandons (answered.2 rfl rfl) drafted.fresh pinned company
  | ok stage =>
  obtain ⟨changed, executed, rfl⟩ := executed_of_answered answered.1
  obtain ⟨rfl, same, -⟩ := World.createStage_ok_iff.mp executed
  have newStage : (workflowOf opened).stages opened.stages.next = none := by simp [workflowOf, find?_next]
  have extended : workflowOf changed.tick = (workflowOf opened).setStage opened.stages.next
      ⟨created.id, identity.companyId, plan.stageOrder, plan.stageName, .pending, none⟩ :=
    workflowOf_insertStage opened (opened.newStage created.id plan.stageOrder plan.stageName identity.companyId
      plan.assignedRole plan.assignedTo) (by rw [same]; rfl) (by rw [same]; rfl)
  have current : changed.tick.requests.find? created.id = some created := by
    rw [same]
    exact drafted.found
  have present : (some opened.stages.next).all changed.tick.hasStage = true := by
    rw [same]
    simp [World.hasStage, find?_insert, World.newStage]
  refine (Transaction.ensures_lift_bind ..).mpr ((ensures_setCurrentStage current present).mono ?_)
  intro result pointed ⟨⟨updated, returned⟩, stepped⟩
  subst returned
  refine (Transaction.ensures_lift_bind ..).mpr ((ensures_orTranslate ..).mpr ⟨trivial, fun reply last answered => ?_⟩)
  have profiles : changed.tick.profiles = opened.profiles := by
    rw [same]
    rfl
  have definitions : changed.tick.definitions = opened.definitions := by
    rw [same]
    rfl
  obtain ⟨⟨logged, rfl⟩, aside⟩ := recordEvent_answered
    (by simpa only [Option.all_some, World.hasProfile, stepped.profiles, profiles] using actor)
    (by simpa using stepped.known) answered.1
  refine ⟨?_, aside.definitions.trans (stepped.definitions.trans (definitions.trans drafted.definitions))⟩
  rw [aside.kept.workflow, stepped.workflow, extended, drafted.workflow, state, WorkflowState.setRequest_setStage_comm,
    WorkflowState.setRequest_setRequest, order, first, name]
  rw [drafted.workflow] at newStage
  exact .creates drafted.fresh newStage pinned company listed first

theorem ensures_createRequest_alone (identity : AuthenticatedIdentity) (input : RequestCreate) (start : World) :
    (Services.createRequest identity input).Ensures (serial refusable) (fun _ final => Taken refusable start final)
      start := by
  refine (ensures_bind ..).mpr ((ensures_ofExcept ..).mpr ?_)
  cases input.validate with
  | error error => exact (Kept.refl start).taken
  | ok payload =>
  refine (ensures_bind ..).mpr ((ensures_orTranslate ..).mpr ⟨trivial, fun reply read answered => ?_⟩)
  have aside : Aside start read := aside_of_reading answered.1 rfl
  cases reply with
  | error error => exact aside.kept.taken
  | ok candidates =>
  obtain ⟨changed, executed, -⟩ := executed_of_answered answered.1
  refine (ensures_bind ..).mpr ((ensures_engineOrTranslate ..).mpr ?_)
  cases resolved : resolveDefinition payload.requestType candidates.items with
  | error error => exact aside.kept.taken
  | ok definition =>
  obtain ⟨pinned, company⟩ := definition_of_listed (Except.ok.inj (congrArg Prod.fst executed)) resolved
  refine (ensures_bind ..).mpr ((aside_of_only (only_orNotFound (.getProfile identity.userId) rfl) read).mono ?_)
  intro fetched second follows
  have aside := aside.trans follows
  cases fetched with
  | error error => exact aside.kept.taken
  | ok requester =>
  refine (ensures_bind ..).mpr ((aside_of_only (only_fetchDepartmentApprovers ..) second).mono ?_)
  intro fetched third follows
  have aside := aside.trans follows
  cases fetched with
  | error error => exact aside.kept.taken
  | ok approvers =>
  obtain ⟨plan, planned, content⟩ := planFirstStage_ok definition requester approvers
  refine (ensures_bind ..).mpr ((ensures_engineOrRaise ..).mpr ?_)
  rw [planned]
  have enacted : (transaction "create_request" (createRequestBody identity payload definition plan)).Ensures
      (serial refusable) (fun _ final => Taken refusable third final) third :=
    (Transaction.ensures_enact ..).mpr (ensures_createRequestBody_alone identity payload
      (by rw [aside.definitions, pinned]) company content.member (firstStage_order definition) content.stageOrder
      content.stageName)
  refine (ensures_bind ..).mpr (enacted.mono ?_)
  intro result last taken
  have taken := taken.since aside
  cases result with
  | error error => exact taken
  | ok created =>
  dsimp only [Program.Then]
  split
  · refine (ensures_bind ..).mpr ((aside_of_only (only_createAndDispatch ..) last).mono ?_)
    intro result final follows
    cases result <;> exact taken.aside follows
  · exact taken

end Creations

section Operations

variable {refusable : Prop} {start : World}

theorem auxiliary_jobCall (request : Call) (auxiliary : Auxiliary request) : (ask request).Only JobCall :=
  (only_ask _).mpr (Auxiliary.jobCall auxiliary)

/-- Any operation but a withdrawal takes one step of the workflow, or leaves it as it was. -/
theorem taken_of_operation (sequential : (workflowOf start).Sequential) {operation : Operation}
    (other : ∀ identity requestId expectedVersion, operation ≠ .withdrawRequest identity requestId expectedVersion) :
    operation.program.Ensures (serial refusable) (fun _ final => Taken refusable start final) start := by
  have escalate : ∀ stageId, (Services.escalateStage stageId).Only JobCall := fun stageId =>
    (only_escalateStage stageId).mono fun _ => EscalationCall.jobCall
  have enqueue : ∀ queueName payload priority maxAttempts requestId,
      (ask (.query (.enqueueJob queueName payload priority maxAttempts requestId))).Only JobCall :=
    fun _ _ _ _ _ => (only_ask _).mpr trivial
  have idle : ∀ {program : Service Unit}, program.Only JobCall →
      program.Ensures (serial refusable) (fun _ final => Taken refusable start final) start :=
    fun only => (kept_of_only only start).mono fun _ _ kept => kept.taken
  cases operation with
  | createRequest identity input => exact ensures_forEffect (ensures_createRequest_alone identity input start)
  | approve identity stageId expected note => exact ensures_forEffect (ensures_decideStage_alone sequential stageId expected _)
  | reject identity stageId expected note =>
      refine ensures_forEffect ?_
      unfold rejectStage
      split
      · exact (Kept.refl start).taken
      · exact ensures_decideStage_alone sequential stageId expected _
  | escalateStage stageId => exact idle (only_forEffect (escalate stageId))
  | updateRequest identity requestId title description department expected =>
      refine ensures_forEffect ((kept_updateRequest start ..).mono fun _ _ kept => kept.taken)
  | withdrawRequest identity requestId expected => exact absurd rfl (other identity requestId expected)
  | escalationJob dispatcher =>
      exact idle (safe_escalationJob (compositional_only JobCall) auxiliary_jobCall enqueue escalate dispatcher)
  | reminderJob dispatcher =>
      exact idle (safe_reminderJob (compositional_only JobCall) auxiliary_jobCall enqueue escalate dispatcher)
  | executeJob payload => exact idle (safe_executeJob (compositional_only JobCall) auxiliary_jobCall escalate payload)
  | listInbox identity page =>
      exact idle (only_forEffect ((only_listInbox identity page).mono fun _ => Auxiliary.jobCall))
  | getApprovalEligibility identity requestId =>
      exact idle (only_forEffect ((only_getApprovalEligibility identity requestId).mono fun _ => Auxiliary.jobCall))

end Operations

end AutomationHub.System
