import AutomationHub.System.DefinitionHistory
import AutomationHub.System.SearchIsolation

/-!
What a running request notices of the versions that are activated meanwhile.

A request keeps the version it was created with; the services read that version
again at each step, with the client of the caller.
-/

set_option autoImplicit false

namespace AutomationHub.System

open Foundation Model Database Services Auth Workflow Program Table

/-- The calls on a running request that look its definition up. -/
inductive WorkflowCall where
  | approve (stageId : UUID) (expectedVersion : Option Nat) (decisionNote : Option DecisionNote)
  | reject (stageId : UUID) (expectedVersion : Option Nat) (decisionNote : String)
  | getWorkflowProgress

inductive WorkflowReply where
  | decided (outcome : ApprovalOutcome)
  | progress (progress : WorkflowProgress)

def WorkflowCall.program (identity : AuthenticatedIdentity) (requestId : UUID) : WorkflowCall → Service WorkflowReply
  | .approve stageId expectedVersion decisionNote => do
      return .decided (← approveStage identity stageId expectedVersion decisionNote)
  | .reject stageId expectedVersion decisionNote => do
      return .decided (← rejectStage identity stageId expectedVersion decisionNote)
  | .getWorkflowProgress => do return .progress (← Services.getWorkflowProgress identity requestId)

/-- The stage that the call names, if there is one, is a stage of the request. -/
def WorkflowCall.Concerns (world : World) (requestId : UUID) : WorkflowCall → Prop
  | .approve stageId .. | .reject stageId .. =>
      ∀ stage, world.stages.find? stageId = some stage → stage.requestId = requestId
  | .getWorkflowProgress => True

/-- What the call replies, and the requests and stages it leaves. -/
def WorkflowCall.outcome (identity : AuthenticatedIdentity) (requestId : UUID) (call : WorkflowCall) (world : World) :
    Except AppError WorkflowReply × List RequestRecord × List WorkflowStageRecord :=
  let ended := (call.program identity requestId).run environment world
  (ended.1, ended.2.requests.rows, ended.2.stages.rows)

/-- A request of an administrator to put a version in use. -/
structure Activation where
  client : Option UUID
  administrator : AuthenticatedIdentity
  definitionId : UUID

/-- The state after a series of activations. -/
def activated (activations : List Activation) (world : World) : World :=
  activations.foldl (fun world activation =>
    ((activateVersion activation.client activation.administrator activation.definitionId).run environment world).2) world

/-- Each call on the request has the outcome that it would have had, at the same instant, without what happened
between the two states. -/
def Unnoticed (identity : AuthenticatedIdentity) (requestId : UUID) (before after : World) : Prop :=
  ∀ call : WorkflowCall, call.Concerns before requestId →
    call.outcome identity requestId after = call.outcome identity requestId (before.atTick after.ticks)

/-- The caller's client shows the version with which the request was created. -/
def ShowsPinned (identity : AuthenticatedIdentity) (requestId : UUID) (world : World) : Prop :=
  ∃ request definition, world.requests.find? requestId = some request ∧
    world.definitions.find? request.workflowDefinitionId = some definition ∧
    world.definitionVisible (some identity.userId) definition = true

/-- The caller may decide a stage of the request. -/
def Entitled (identity : AuthenticatedIdentity) (requestId : UUID) (world : World) : Prop :=
  ∃ stage ∈ world.stages.rows, stage.requestId = requestId ∧ stage.companyId = identity.companyId ∧
    ((authorizeStageDecision identity stage).run environment world.tick).1 = .ok (.ok ())

/-- What an activation keeps of a definition. -/
def frame (definition : WorkflowDefinition) : UUID × WorkflowDefinitionDocument :=
  (definition.companyId, definition.definition)

/-- What activations leave of a state. -/
structure Renewed (before after : World) : Prop where
  rest : after = { before with definitions := after.definitions, audit := after.audit, ticks := after.ticks }
  framed : ∀ id, (after.definitions.find? id).map frame = (before.definitions.find? id).map frame
  trail : ∀ requestId, after.auditLogsOfRequest requestId = before.auditLogsOfRequest requestId

theorem Renewed.refl (world : World) : Renewed world world := ⟨rfl, fun _ => rfl, fun _ => rfl⟩

theorem Renewed.trans {first second third : World} (left : Renewed first second) (right : Renewed second third) :
    Renewed first third where
  rest := by
    have later := right.rest
    rw [left.rest] at later
    exact later
  framed := fun id => (right.framed id).trans (left.framed id)
  trail := fun requestId => (right.trail requestId).trans (left.trail requestId)

theorem Renewed.tick {before after : World} (renewed : Renewed before after) : Renewed before after.tick :=
  renewed.trans ⟨rfl, fun _ => rfl, fun _ => rfl⟩

theorem Renewed.profiles {before after : World} (renewed : Renewed before after) : after.profiles = before.profiles := by
  have same := congrArg World.profiles renewed.rest
  exact same

theorem Renewed.requests {before after : World} (renewed : Renewed before after) : after.requests = before.requests := by
  have same := congrArg World.requests renewed.rest
  exact same

theorem Renewed.stages {before after : World} (renewed : Renewed before after) : after.stages = before.stages := by
  have same := congrArg World.stages renewed.rest
  exact same

/-- The calls of an activation. -/
def ActivationCall : Call → Prop
  | .utcNow | .log _ | .query (.getDefinition ..) | .query (.findActiveForRequestType ..)
  | .query (.deactivatePreviousDefinition ..) | .query (.activateDefinition ..) => True
  | .query (.recordEvent _ _ requestId _ _) => requestId = none
  | _ => False

theorem renewed_modify (world : World) (id version : Nat) (isActive : Bool) :
    Renewed world { world with
      definitions := world.definitions.modify id (stamped (World.activityEdit isActive) version) } where
  rest := rfl
  framed := by
    intro other
    rw [find?_modify]
    split
    · rename_i same
      rw [same, Option.map_map]
      rfl
    · rfl
  trail := fun _ => rfl

theorem renewed_updateDefinition (world : World) (viewer : Option UUID) (id version : Nat) (isActive : Bool)
    (violated : WorkflowDefinition → Option String) :
    Renewed world (world.updateDefinition viewer id version (World.activityEdit isActive) violated).2 := by
  rcases outcome : world.updateDefinition viewer id version (World.activityEdit isActive) violated with ⟨_ | written, after⟩
  · rw [World.updateDefinition_error outcome]
    exact .refl world
  · obtain ⟨row, -, -, -, -, -, rfl⟩ := World.updateDefinition_ok_iff.mp outcome
    exact renewed_modify world id version isActive

theorem renewed_recordEvent (world : World) (action : AuditAction) (actorId : Option UUID)
    (metadata : Option AuditMetadata) (companyId : Option UUID) :
    Renewed world (world.recordEvent (world.newAuditLog action actorId none metadata companyId)).2 := by
  rcases outcome : world.recordEvent (world.newAuditLog action actorId none metadata companyId) with ⟨_ | created, after⟩
  · rw [World.recordEvent_error outcome]
    exact .refl world
  · obtain ⟨-, rfl, -⟩ := World.recordEvent_ok_iff.mp outcome
    refine ⟨rfl, fun _ => rfl, ?_⟩
    intro requestId
    simp [World.auditLogsOfRequest, World.newAuditLog]

theorem renewed_activationCall {world : World} {request : Call} (call : ActivationCall request) :
    Renewed world (environment request world).2 := by
  cases request with
  | query statement =>
      apply Renewed.tick
      cases statement with
      | activateDefinition viewer id version => exact renewed_updateDefinition ..
      | deactivatePreviousDefinition viewer id version =>
          rcases World.deactivatePreviousDefinition_cases
            (Prod.eta (world.deactivatePreviousDefinition viewer id version)).symm with same | changed
          · exact same.2.symm ▸ .refl world
          · obtain ⟨_, -, -, -, same⟩ := changed
            exact same.symm ▸ renewed_modify ..
      | recordEvent action actorId requestId metadata companyId =>
          obtain rfl : requestId = none := call
          exact renewed_recordEvent ..
      | getDefinition | findActiveForRequestType => exact .refl world
      | _ => cases call
  | utcNow | log => exact (Renewed.refl world).tick
  | _ => cases call

theorem activationCall_activateVersion (client : Option UUID) (administrator : AuthenticatedIdentity)
    (definitionId : UUID) : (activateVersion client administrator definitionId).Only ActivationCall := by
  apply Only.bind (only_requireDefinitionManager trivial administrator)
  intro _
  apply Only.bind (only_getDefinitionForCompany client definitionId _ trivial)
  intro candidate
  apply Only.bind (only_orRaise _ trivial)
  intro currentlyActive
  apply Only.bind (only_engineOrTranslate _)
  intro _
  apply Transaction.Only.enact _ (fun _ member => absurd member List.not_mem_nil) (fun _ => trivial) trivial
  apply Transaction.Only.bind (Transaction.only_ofProgram _)
  · intro activated
    apply Transaction.Only.bind (Transaction.only_registerCompensation ((only_ask _).mpr trivial))
    intro _
    exact Transaction.Only.bind (Transaction.only_ofProgram (only_orTranslate _ rfl)) fun _ => trivial
  · apply Only.bind (only_orTranslate _ trivial)
    intro active
    cases active with
    | none => exact only_orTranslate _ trivial
    | some active =>
        dsimp only
        split
        · exact Only.bind (only_orTranslate _ trivial) fun _ => only_orTranslate _ trivial
        · exact only_orTranslate _ trivial

theorem renewed_activateVersion (activation : Activation) (world : World) :
    Renewed world ((activateVersion activation.client activation.administrator activation.definitionId).run
      environment world).2 := by
  have only := activationCall_activateVersion activation.client activation.administrator activation.definitionId
  have kept : (activateVersion activation.client activation.administrator activation.definitionId).Ensures
      (.ofHandler environment) (fun _ final => Renewed world final) world := by
    apply only.ensures (Renewed world) _ (.refl world)
    intro state request renewed call
    refine ⟨trivial, ?_⟩
    intro reply after answered
    have reached : (environment request state).2 = after := congrArg Prod.snd answered
    exact renewed.trans (reached ▸ renewed_activationCall call)
  exact (ensures_ofHandler ..).mp kept

/-- Activations replace no document, and no row outside the definitions and the entries about them. -/
theorem renewed_activated (activations : List Activation) (world : World) :
    Renewed world (activated activations world) := by
  induction activations generalizing world with
  | nil => exact .refl world
  | cons activation later recurse => exact (renewed_activateVersion activation world).trans (recurse _)

section Alongside

/-- The same state under other definitions, and with another audit log. -/
def World.withRules (world : World) (definitions : Table WorkflowDefinition) (audit : Table AuditLogRecord) : World :=
  { world with definitions, audit }

/-- The calls of a decision that depend neither on the definitions nor on the audit log. -/
def UnruledCall : Call → Prop
  | .query (.getStage _) | .query (.getRequest _) | .query (.getProfile _) | .query (.listProfilesByRole ..)
  | .query (.getHighestStageOrder _) | .query (.listStagesForRequest ..) | .query (.approveStage ..)
  | .query (.rejectStage ..) | .query (.revertToPending ..) | .query (.setCurrentStage ..)
  | .query (.createStage ..) | .query (.deleteIfUnchanged ..) | .query (.getPreferences ..)
  | .query (.createNotification ..) | .query (.markEmailSent _) => True
  | .query _ => False
  | _ => True

theorem deleteIfUnchanged_withRules (world : World) (stageId : UUID) (expectedVersion : Nat)
    (definitions : Table WorkflowDefinition) (audit : Table AuditLogRecord) :
    (World.withRules world definitions audit).deleteIfUnchanged stageId expectedVersion =
      ((world.deleteIfUnchanged stageId expectedVersion).1,
        World.withRules (world.deleteIfUnchanged stageId expectedVersion).2 definitions audit) := by
  unfold World.deleteIfUnchanged World.withRules
  dsimp only
  cases world.stages.eraseIfVersion stageId expectedVersion with
  | none => rfl
  | some stages =>
      dsimp only
      split <;> rfl

theorem environment_withRules {request : Call} (unruled : UnruledCall request) (world : World)
    (definitions : Table WorkflowDefinition) (audit : Table AuditLogRecord) :
    environment request (World.withRules world definitions audit) =
      ((environment request world).1, World.withRules (environment request world).2 definitions audit) := by
  cases request with
  | query statement =>
      cases statement with
      | rejectStage stageId expectedVersion decidedBy decisionNote =>
          simp only [environment, World.execute]
          split <;> rfl
      | deleteIfUnchanged stageId expectedVersion =>
          exact congrArg (fun reached : Except DatabaseError Bool × World => (reached.1, reached.2.tick))
            (deleteIfUnchanged_withRules world stageId expectedVersion definitions audit)
      | markEmailSent notificationId =>
          simp only [environment, World.execute, World.markEmailSent, World.withRules]
          cases world.notifications.find? notificationId <;> rfl
      | getStage | getRequest | getProfile | listProfilesByRole | getHighestStageOrder | listStagesForRequest
      | approveStage | revertToPending | setCurrentStage | createStage | getPreferences | createNotification => rfl
      | _ => cases unruled
  | _ => rfl

theorem updateRequest_pins (world : World) (requestId : UUID) (expectedVersion : Nat) (currentStageId : Option UUID)
    (status : RequestStatus) (completedAt : Option Datetime) (violated : RequestRecord → Option String) (id : UUID) :
    ((world.updateRequest requestId expectedVersion (world.currentStageEdit currentStageId status completedAt)
      violated).2.requests.find? id).map RequestRecord.workflowDefinitionId =
        (world.requests.find? id).map RequestRecord.workflowDefinitionId := by
  rcases outcome : world.updateRequest requestId expectedVersion
    (world.currentStageEdit currentStageId status completedAt) violated with ⟨_ | written, after⟩
  · rw [World.updateRequest_error outcome]
  · obtain ⟨row, -, -, -, -, rfl⟩ := World.updateRequest_ok_iff.mp outcome
    rw [find?_modify]
    split
    · rename_i same
      rw [same, Option.map_map]
      rfl
    · rfl

/-- Such a call writes no definition and no profile, and no request gets another version. -/
theorem unruled_keeps {request : Call} (unruled : UnruledCall request) (world : World) :
    (environment request world).2.definitions = world.definitions ∧
      (environment request world).2.profiles = world.profiles ∧
      ∀ id, ((environment request world).2.requests.find? id).map RequestRecord.workflowDefinitionId =
        (world.requests.find? id).map RequestRecord.workflowDefinitionId := by
  cases request with
  | query statement =>
      cases statement with
      | setCurrentStage requestId expectedVersion currentStageId status completedAt =>
          exact ⟨rfl, rfl, updateRequest_pins world requestId expectedVersion currentStageId status completedAt _⟩
      | rejectStage | deleteIfUnchanged | markEmailSent =>
          simp only [environment, World.execute, World.deleteIfUnchanged, World.markEmailSent]
          split
          · exact ⟨rfl, rfl, fun _ => rfl⟩
          · first
              | exact ⟨rfl, rfl, fun _ => rfl⟩
              | split <;> exact ⟨rfl, rfl, fun _ => rfl⟩
      | getStage | getRequest | getProfile | listProfilesByRole | getHighestStageOrder | listStagesForRequest
      | approveStage | revertToPending | createStage | getPreferences | createNotification =>
          exact ⟨rfl, rfl, fun _ => rfl⟩
      | _ => cases unruled
  | _ => exact ⟨rfl, rfl, fun _ => rfl⟩

/-- Two states of the runs of one call, without the activations and with them. -/
structure Alongside (before after : World) (requestId : UUID) (left right : World) : Prop where
  apart : ∃ audit, right = World.withRules left after.definitions audit
  definitions : left.definitions = before.definitions
  profiles : left.profiles = before.profiles
  pinned : (left.requests.find? requestId).map RequestRecord.workflowDefinitionId =
    (before.requests.find? requestId).map RequestRecord.workflowDefinitionId

variable {before after : World} {requestId : UUID}

theorem Renewed.alongside (renewed : Renewed before after) :
    Alongside before after requestId (before.atTick after.ticks) after where
  apart := ⟨after.audit, renewed.rest⟩
  definitions := rfl
  profiles := rfl
  pinned := rfl

theorem coupled_unruled {request : Call} (unruled : UnruledCall request) :
    Coupled environment (Alongside before after requestId) (ask request) := by
  apply coupled_ask
  intro left right start
  obtain ⟨audit, rfl⟩ := start.apart
  obtain ⟨definitions, profiles, pins⟩ := unruled_keeps unruled left
  rw [environment_withRules unruled left after.definitions audit]
  refine ⟨rfl, ⟨audit, rfl⟩, ?_, ?_, ?_⟩
  · exact definitions.trans start.definitions
  · exact profiles.trans start.profiles
  · exact (pins requestId).trans start.pinned

theorem coupled_of_only {α : Type} {program : Service α} (only : program.Only UnruledCall) :
    Coupled environment (Alongside before after requestId) program :=
  (compositional_coupled_service _).of_only (fun _ unruled => coupled_unruled unruled) only

theorem preserves_coupled {α : Type} {program : Service α} (operation : String)
    (coupled : Coupled environment (Alongside before after requestId) program) :
    Transaction.Preserves (fun {α} (program : Service α) => Coupled environment (Alongside before after requestId) program)
      (transactionReport operation) (Transaction.ofProgram program) :=
  Transaction.preserves_lift (compositional_coupled_service _)
    (fun count => @coupled_unruled _ _ _ (.log (.rollback operation count)) trivial)
    (@coupled_unruled _ _ _ (.log (.compensationFailed operation)) trivial) coupled

theorem recordEvent_withRules (world : World) (definitions : Table WorkflowDefinition) (audit : Table AuditLogRecord)
    (action : AuditAction) (actorId requestId : Option UUID) (metadata : Option AuditMetadata)
    (companyId : Option UUID) :
    let statement : Query := .recordEvent action actorId requestId metadata companyId
    ((World.withRules world definitions audit).execute statement).1.map (fun _ => ()) =
        (world.execute statement).1.map (fun _ => ()) ∧
      ∃ later, ((World.withRules world definitions audit).execute statement).2 =
        World.withRules (world.execute statement).2 definitions later := by
  simp only [World.execute, World.recordEvent, insertRow, World.newAuditLog, World.withRules]
  have same : ∀ entries : Table AuditLogRecord,
      World.firstViolated [("foreign_key", actorId.all (World.hasProfile { world with definitions, audit := entries })),
        ("foreign_key", requestId.all (World.hasRequest { world with definitions, audit := entries }))] =
      World.firstViolated [("foreign_key", actorId.all world.hasProfile),
        ("foreign_key", requestId.all world.hasRequest)] := fun _ => rfl
  rw [same]
  cases World.firstViolated [("foreign_key", actorId.all world.hasProfile),
    ("foreign_key", requestId.all world.hasRequest)] with
  | none => exact ⟨rfl, _, rfl⟩
  | some constraint => exact ⟨rfl, _, rfl⟩

theorem coupled_recordEvent {α : Type} (value : α) (action : AuditAction) (actorId entryRequestId : Option UUID)
    (metadata : Option AuditMetadata) (companyId : Option UUID) :
    Coupled environment (Alongside before after requestId) (do
      let _ ← orTranslate (.recordEvent action actorId entryRequestId metadata companyId)
      return value) := by
  intro left right start
  obtain ⟨audit, rfl⟩ := start.apart
  obtain ⟨same, later, reached⟩ :=
    recordEvent_withRules left after.definitions audit action actorId entryRequestId metadata companyId
  have joined : Alongside before after requestId
      ((orTranslate (.recordEvent action actorId entryRequestId metadata companyId)).run environment left).2
      ((orTranslate (.recordEvent action actorId entryRequestId metadata companyId)).run environment
        (World.withRules left after.definitions audit)).2 := by
    rw [run_orTranslate, run_orTranslate, reached]
    exact ⟨⟨later, rfl⟩, start.definitions, start.profiles, start.pinned⟩
  apply paired_bind_of_view (fun _ => ()) _ joined (fun _ _ _ => rfl) (fun _ => ⟨rfl, joined⟩)
  rw [run_orTranslate, run_orTranslate]
  revert same
  cases (left.execute (.recordEvent action actorId entryRequestId metadata companyId)).1 <;>
    cases ((World.withRules left after.definitions audit).execute
      (.recordEvent action actorId entryRequestId metadata companyId)).1 <;> intro same
  · obtain rfl := Except.error.inj same
    rfl
  · cases same
  · cases same
  · rfl

/-- The two states hold one document under the version of the request, as far as the caller sees it. -/
def SharesDocument (viewer : Option UUID) (requestId : UUID) (before after : World) : Prop :=
  ∀ request, before.requests.find? requestId = some request →
    (before.getDefinition viewer request.workflowDefinitionId).map WorkflowDefinition.definition =
      (after.getDefinition viewer request.workflowDefinitionId).map WorkflowDefinition.definition

theorem getDefinition_of_same {left right : World} (definitions : left.definitions = right.definitions)
    (profiles : left.profiles = right.profiles) (viewer : Option UUID) (definitionId : UUID) :
    left.getDefinition viewer definitionId = right.getDefinition viewer definitionId := by
  unfold World.getDefinition World.definitionVisible
  rw [definitions, profiles]

/-- A lookup of the request's version is followed by what uses no more than its document. -/
theorem paired_getDefinition {α : Type} {viewer : Option UUID} (renewed : Renewed before after)
    (shares : SharesDocument viewer requestId before after) {left right : World}
    (start : Alongside before after requestId left right) {first : RequestRecord}
    (origin : before.requests.find? requestId = some first) {next : WorkflowDefinition → Service α}
    (viewed : ∀ value other : WorkflowDefinition, value.definition = other.definition → next value = next other)
    (rest : ∀ value, Coupled environment (Alongside before after requestId) (next value)) :
    Paired environment (Alongside before after requestId)
      (orNotFound (.getDefinition viewer first.workflowDefinitionId) >>= next) left right := by
  obtain ⟨audit, rfl⟩ := start.apart
  have profiles : after.profiles = before.profiles := renewed.profiles
  have agreed := shares first origin
  rw [← getDefinition_of_same start.definitions start.profiles,
    ← @getDefinition_of_same (World.withRules left after.definitions audit) after rfl
      (start.profiles.trans profiles.symm)] at agreed
  have unmoved : Alongside before after requestId left.tick (World.withRules left after.definitions audit).tick :=
    ⟨⟨audit, rfl⟩, start.definitions, start.profiles, start.pinned⟩
  apply paired_bind_of_view WorkflowDefinition.definition
  · rw [run_orNotFound, run_orNotFound]
    change ((left.getDefinition viewer first.workflowDefinitionId).mapError notFoundOrDatabase).map _ =
      (((World.withRules left after.definitions audit).getDefinition viewer
        first.workflowDefinitionId).mapError notFoundOrDatabase).map _
    revert agreed
    cases left.getDefinition viewer first.workflowDefinitionId <;>
      cases (World.withRules left after.definitions audit).getDefinition viewer first.workflowDefinitionId <;>
      intro agreed
    · obtain rfl := Except.error.inj agreed
      rfl
    · cases agreed
    · cases agreed
    · exact congrArg Except.ok (Except.ok.inj agreed)
  · rw [run_orNotFound, run_orNotFound]
    exact unmoved
  · exact viewed
  · intro value
    rw [run_orNotFound, run_orNotFound]
    exact rest value _ _ unmoved

theorem fetchApproversForNextStage_of_document {definition other : WorkflowDefinition}
    (same : definition.definition = other.definition) (stageOrder : Nat) (request : RequestRecord)
    (requester : ProfileRecord) : fetchApproversForNextStage definition stageOrder request requester =
      fetchApproversForNextStage other stageOrder request requester := by
  unfold fetchApproversForNextStage
  rw [same]

theorem planNextStage_of_document {definition other : WorkflowDefinition}
    (same : definition.definition = other.definition) (currentOrder highestExistingOrder : Nat)
    (requester : ProfileRecord) (departmentApprovers : List ProfileRecord) :
    planNextStage definition currentOrder highestExistingOrder requester departmentApprovers =
      planNextStage other currentOrder highestExistingOrder requester departmentApprovers := by
  unfold planNextStage nextStage toStagePlan isFinalStage
  rw [same]

theorem unruled_fetchApprovers (definition : WorkflowDefinition) (stageOrder : Nat) (request : RequestRecord)
    (requester : ProfileRecord) :
    (fetchApproversForNextStage definition stageOrder request requester).Only UnruledCall :=
  only_fetchApproversForNextStage definition stageOrder request requester fun _ _ _ _ => trivial

theorem paired_getRequest {α : Type} {related : World → World → Prop} {id : UUID} {next : RequestRecord → Service α}
    {left right : World} (first : Paired environment related (orNotFound (.getRequest id)) left right)
    (rest : ∀ request, left.requests.find? id = some request → Paired environment related (next request)
      ((orNotFound (.getRequest id)).run environment left).2 ((orNotFound (.getRequest id)).run environment right).2) :
    Paired environment related (orNotFound (.getRequest id) >>= next) left right := by
  apply paired_bind first
  intro request returned
  apply rest
  rw [run_orNotFound] at returned
  have located : (left.getRequest id).mapError notFoundOrDatabase = .ok request := returned
  cases outcome : left.getRequest id with
  | error error =>
      rw [outcome] at located
      cases located
  | ok found =>
      rw [outcome] at located
      obtain rfl := Except.ok.inj located
      exact World.getById_ok_iff.mp outcome

theorem coupled_planAfterApproval (renewed : Renewed before after) {viewer : Option UUID}
    (shares : SharesDocument viewer requestId before after) {stage : WorkflowStageRecord}
    (about : stage.requestId = requestId) :
    Coupled environment (Alongside before after requestId) (planAfterApproval viewer stage) := by
  intro left right start
  subst about
  have fetched : Coupled environment (Alongside before after stage.requestId)
      (orNotFound (.getRequest stage.requestId)) := coupled_of_only (only_orNotFound _ trivial)
  apply paired_getRequest (fetched left right start)
  intro request found
  have pinned := start.pinned
  rw [found] at pinned
  obtain ⟨first, origin, same⟩ := Option.map_eq_some_iff.mp pinned.symm
  rw [← same]
  apply paired_getDefinition renewed shares (fetched left right start).2 origin
  · intro definition other same
    simp only [fetchApproversForNextStage_of_document same, planNextStage_of_document same]
  · intro definition
    apply coupled_of_only
    apply Only.bind (only_orRaise _ trivial)
    intro highest
    apply Only.bind (only_orNotFound _ trivial)
    intro requester
    apply Only.bind (unruled_fetchApprovers ..)
    intro approvers
    exact Only.bind (only_engineOrRaise _) fun _ => trivial

section Decision

variable {operation : String}

theorem preserves_finishRequest (request : RequestRecord) (status : RequestStatus) :
    Transaction.Preserves (fun {α} (program : Service α) => Coupled environment (Alongside before after requestId) program)
      (transactionReport operation) (finishRequest request status) := by
  apply Transaction.Preserves.bind
  · exact preserves_coupled _ (coupled_of_only (only_engineOrTranslate _))
  intro _
  apply Transaction.Preserves.bind
  · exact preserves_coupled _ (@coupled_unruled _ _ _ .utcNow trivial)
  intro completedAt
  apply Transaction.Preserves.bind
  · exact preserves_coupled _ (coupled_of_only (only_orTranslate _ trivial))
  intro updated
  exact Transaction.preserves_register (coupled_of_only (only_compensation _ trivial))

theorem preserves_openNextStage (request : RequestRecord) (plan : StagePlan) :
    Transaction.Preserves (fun {α} (program : Service α) => Coupled environment (Alongside before after requestId) program)
      (transactionReport operation) (openNextStage request plan) := by
  apply Transaction.Preserves.bind
  · exact preserves_coupled _ (coupled_of_only (only_orTranslate _ trivial))
  intro newStage
  apply Transaction.Preserves.bind
  · apply Transaction.preserves_register
    apply coupled_of_only
    apply Only.bind (only_orRaise _ trivial)
    intro deleted
    cases deleted with
    | true => trivial
    | false => exact (only_ask _).mpr trivial
  intro _
  apply Transaction.Preserves.bind
  · exact preserves_coupled _ (coupled_of_only (only_engineOrTranslate _))
  intro _
  apply Transaction.Preserves.bind
  · exact preserves_coupled _ (coupled_of_only (only_orTranslate _ trivial))
  intro updated
  apply Transaction.Preserves.bind
  · exact Transaction.preserves_register (coupled_of_only (only_compensation _ trivial))
  intro _
  exact Transaction.preserves_done newStage

theorem preserves_advanceAfterApproval (renewed : Renewed before after) {viewer : Option UUID}
    (shares : SharesDocument viewer requestId before after) {stage : WorkflowStageRecord}
    (about : stage.requestId = requestId) :
    Transaction.Preserves (fun {α} (program : Service α) => Coupled environment (Alongside before after requestId) program)
      (transactionReport operation) (advanceAfterApproval viewer stage) := by
  apply Transaction.Preserves.bind
  · exact preserves_coupled _ (coupled_planAfterApproval renewed shares about)
  intro planned
  obtain ⟨request, _ | plan⟩ := planned
  · exact Transaction.Preserves.bind (preserves_finishRequest request .completed) fun _ => Transaction.preserves_done _
  · exact Transaction.Preserves.bind (preserves_openNextStage request plan) fun _ => Transaction.preserves_done _

theorem preserves_finalizeRejection (stage : WorkflowStageRecord) :
    Transaction.Preserves (fun {α} (program : Service α) => Coupled environment (Alongside before after requestId) program)
      (transactionReport operation) (finalizeRejection stage) := by
  apply Transaction.Preserves.bind
  · exact preserves_coupled _ (coupled_of_only (only_orNotFound _ trivial))
  intro request
  exact Transaction.Preserves.bind (preserves_finishRequest request .rejected) fun _ => Transaction.preserves_done _

theorem unruled_decisionStatement (decision : Decision) (stageId : UUID) (expectedVersion : Nat) (decidedBy : UUID)
    (decisionNote : Option String) :
    (decisionStatement decision stageId expectedVersion decidedBy decisionNote).Only UnruledCall := by
  cases decision <;> exact only_orTranslate _ trivial

theorem preserves_recordDecision (decided : WorkflowStageRecord) (advancement : DecisionAdvancement)
    (actorId entryRequestId : Option UUID) (metadata : Option AuditMetadata) :
    Transaction.Preserves (fun {α} (program : Service α) => Coupled environment (Alongside before after requestId) program)
      (transactionReport operation) (do
        let _ ← orTranslate (.recordEvent advancement.auditAction actorId entryRequestId metadata none)
        return (decided, advancement)) := by
  have recorded := preserves_coupled operation (@coupled_recordEvent before after requestId _ (decided, advancement)
    advancement.auditAction actorId entryRequestId metadata none)
  rw [Transaction.ofProgram_bind] at recorded
  exact recorded

/-- A rejection never looks the version up; an approval does, and then needs its document. -/
theorem preserves_decideStageBody (renewed : Renewed before after) (identity : AuthenticatedIdentity) (stageId : UUID)
    {stage : WorkflowStageRecord} (about : stage.requestId = requestId) (decision : Decision)
    (shares : decision = .approve → SharesDocument (some identity.userId) requestId before after) (version : Nat)
    (note : Option String) :
    Transaction.Preserves (fun {α} (program : Service α) => Coupled environment (Alongside before after requestId) program)
      (transactionReport operation) (decideStageBody identity stageId stage decision version note) := by
  apply Transaction.Preserves.bind
  · exact preserves_coupled _ (coupled_of_only (unruled_decisionStatement ..))
  intro decided
  apply Transaction.Preserves.bind
  · exact Transaction.preserves_register (coupled_of_only (only_compensation _ trivial))
  intro _
  cases decision with
  | approve =>
      apply Transaction.Preserves.bind (preserves_advanceAfterApproval renewed (shares rfl) about)
      intro advancement
      exact preserves_recordDecision decided advancement _ _ _
  | reject =>
      apply Transaction.Preserves.bind (preserves_finalizeRejection stage)
      intro advancement
      exact preserves_recordDecision decided advancement _ _ _

theorem unruled_concludeDecision (viewer : Option UUID) (stageId : UUID) (stage : WorkflowStageRecord)
    (advancement : DecisionAdvancement) (outcome : ApprovalOutcome) :
    Only UnruledCall (do
      tryCatch (dispatchPostDecisionNotifications viewer stage advancement) fun _ => log (.notificationFailed stageId)
      return outcome) := by
  have only : ∀ request, NotifyingCall request → UnruledCall request := by
    intro request notifying
    cases request with
    | query statement => cases statement <;> first | exact notifying | cases notifying
    | _ => trivial
  exact (notifying_concludeDecision viewer stageId stage advancement outcome).mono only

theorem unruled_getByIdForCompany (stageId companyId : UUID) : (getByIdForCompany stageId companyId).Only UnruledCall := by
  apply Only.bind (only_orNotFound _ trivial)
  intro record
  split <;> trivial

/-- A decision on a fetched stage, under a caller who may not decide it or to whom the version is shown as before. -/
theorem coupled_decideFetched (renewed : Renewed before after) (identity : AuthenticatedIdentity) (stageId : UUID)
    {stage : WorkflowStageRecord} (about : stage.requestId = requestId) (decision : Decision)
    (shares : decision = .approve → SharesDocument (some identity.userId) requestId before after) (version : Nat)
    (note : Option String) :
    Coupled environment (Alongside before after requestId) (do
      let (decided, advancement) ← transaction ("decide_stage_" ++ decision.stageStatus.value)
        (decideStageBody identity stageId stage decision version note)
      tryCatch (dispatchPostDecisionNotifications (some identity.userId) stage advancement)
        fun _ => log (.notificationFailed stageId)
      return ({ stage := decided, requestStatus := advancement.requestStatus,
                currentStageId := advancement.newStageId } : ApprovalOutcome)) := by
  apply (compositional_coupled_service _).bind
  · exact (preserves_decideStageBody renewed identity stageId about decision shares version note).enact
      (compositional_coupled_service _)
  · intro ended
    exact coupled_of_only (unruled_concludeDecision ..)

theorem getByIdForCompany_ok {world : World} {stageId companyId : UUID} {stage : WorkflowStageRecord}
    (returned : ((getByIdForCompany stageId companyId).run environment world).1 = .ok stage) :
    world.stages.find? stageId = some stage ∧ stage.companyId = companyId := by
  have reply : (orNotFound (.getStage stageId) : Service WorkflowStageRecord).run environment world =
      ((world.getStage stageId).mapError notFoundOrDatabase, world.tick) := run_orNotFound (.getStage stageId) world
  rw [getByIdForCompany, run_bind, reply] at returned
  cases outcome : world.getStage stageId with
  | error error =>
      rw [outcome] at returned
      cases returned
  | ok found =>
      rw [outcome] at returned
      by_cases own : found.companyId = companyId
      · have same : found = stage := by simpa [Except.mapError, own] using returned
        subst same
        exact ⟨World.getById_ok_iff.mp outcome, own⟩
      · simp [Except.mapError, own] at returned

theorem tick_of_getByIdForCompany (world : World) (stageId companyId : UUID) :
    ((getByIdForCompany stageId companyId).run environment world).2 = world.tick := by
  have reply : (orNotFound (.getStage stageId) : Service WorkflowStageRecord).run environment world =
      ((world.getStage stageId).mapError notFoundOrDatabase, world.tick) := run_orNotFound (.getStage stageId) world
  rw [getByIdForCompany, run_bind, reply]
  cases world.getStage stageId with
  | error error => rfl
  | ok found =>
      simp only [Except.mapError, continueRun_ok]
      split <;> rfl

theorem paired_decideStage (renewed : Renewed before after) (identity : AuthenticatedIdentity) (stageId : UUID)
    (decision : Decision) (version : Option Nat) (note : Option String)
    (concerns : ∀ stage, before.stages.find? stageId = some stage → stage.requestId = requestId)
    (shares : Entitled identity requestId (before.atTick after.ticks) → decision = .approve →
      SharesDocument (some identity.userId) requestId before after) :
    Paired environment (Alongside before after requestId) (decideStage identity stageId decision version note)
      (before.atTick after.ticks) after := by
  have compositional := compositional_coupled_service (Alongside before after requestId)
  have fetched : Coupled environment (Alongside before after requestId)
      (getByIdForCompany stageId identity.companyId) := coupled_of_only (unruled_getByIdForCompany ..)
  apply paired_bind (fetched _ _ renewed.alongside)
  intro stage returned
  obtain ⟨found, own⟩ := getByIdForCompany_ok returned
  have about : stage.requestId = requestId := concerns stage found
  have joined := (fetched _ _ renewed.alongside).2
  dsimp only
  split
  · have replayed : (replayIdempotentDecision stage).Only UnruledCall :=
      Only.bind (only_orNotFound (.getRequest stage.requestId) trivial) fun _ => only_done _
    exact coupled_of_only replayed _ _ joined
  · have authorized : Coupled environment (Alongside before after requestId) (authorizeStageDecision identity stage) :=
      coupled_of_only (only_authorize_of trivial ..)
    apply paired_bind (authorized _ _ joined)
    intro permitted granted
    have met := (authorized _ _ joined).2
    cases permitted with
    | error error => exact compositional.raised _ _ _ met
    | ok _ =>
        rw [tick_of_getByIdForCompany] at granted
        have entitled : Entitled identity requestId (before.atTick after.ticks) :=
          ⟨stage, ((find?_eq_some_iff ..).mp found).1, about, own, granted⟩
        apply (compositional.bind (coupled_of_only (only_engineOrTranslate _)) _) _ _ met
        intro _
        exact coupled_decideFetched renewed identity stageId about decision (shares entitled) _ note

end Decision

section Progress

/-- Two states between which only time passed since the activations. -/
def Beside (before after left right : World) : Prop :=
  left = before.atTick left.ticks ∧ right = after.atTick left.ticks

theorem Renewed.beside (renewed : Renewed before after) {left right : World} (start : Beside before after left right) :
    Alongside before after requestId left right := by
  obtain ⟨same, rfl⟩ := start
  rw [same]
  refine ⟨⟨after.audit, ?_⟩, rfl, rfl, rfl⟩
  have rest := congrArg (fun world => World.atTick world left.ticks) renewed.rest
  exact rest

/-- The calls with which the stages of a request and their history are read. -/
def ProgressCall (requestId : UUID) : Call → Prop
  | .utcNow | .query (.getRequest _) | .query (.listStagesForRequest ..) => True
  | .query (.listAuditLogsForRequest id _) => id = requestId
  | _ => False

theorem coupled_progressCall (renewed : Renewed before after) {request : Call} (reads : ProgressCall requestId request) :
    Coupled environment (Beside before after) (ask request) := by
  apply coupled_ask
  intro left right start
  have apart := (renewed.beside start : Alongside before after requestId left right).apart
  obtain ⟨same, reached⟩ := start
  have unchanged : (environment request left).2 = left.tick ∧ (environment request right).2 = right.tick := by
    cases request with
    | query statement =>
        cases statement with
        | getRequest | listStagesForRequest | listAuditLogsForRequest => exact ⟨rfl, rfl⟩
        | _ => cases reads
    | utcNow => exact ⟨rfl, rfl⟩
    | _ => cases reads
  rw [unchanged.1, unchanged.2]
  refine ⟨?_, ?_, ?_⟩
  · obtain ⟨audit, rfl⟩ := apart
    cases request with
    | query statement =>
        cases statement with
        | getRequest | listStagesForRequest => rfl
        | listAuditLogsForRequest id page =>
            obtain rfl : id = requestId := reads
            have trail : (World.withRules left after.definitions audit).auditLogsOfRequest id =
                left.auditLogsOfRequest id := by
              rw [reached, same]
              exact renewed.trail id
            exact congrArg (fun entries => Except.ok (paginate entries page)) trail.symm
        | _ => cases reads
    | utcNow => rfl
    | _ => cases reads
  · exact congrArg World.tick same
  · exact congrArg World.tick reached

theorem unruled_stageDetails (escalated : List UUID) (names : DisplayNames) (stages : List WorkflowStageRecord) :
    (stageDetails escalated names stages).Only UnruledCall := by
  have resolved : ∀ names profileId, (resolveProfileName names profileId).Only UnruledCall := by
    intro names profileId
    cases profileId with
    | none => trivial
    | some profileId =>
        unfold resolveProfileName
        dsimp only
        split
        · trivial
        · apply Only.bind (only_attempt _ trivial)
          intro reply
          cases reply with
          | ok profile => trivial
          | error error => cases error <;> trivial
  induction stages generalizing names with
  | nil => trivial
  | cons stage rest recurse =>
      apply Only.bind (resolved names stage.assignedTo)
      intro assigned
      apply Only.bind (resolved assigned.1 stage.decidedBy)
      intro decided
      apply Only.bind (recurse decided.1)
      intro details
      trivial

theorem progressCall_getRequest (identity : AuthenticatedIdentity) (requestId : UUID) :
    (Services.getRequest identity requestId).Only (ProgressCall requestId) := by
  apply Only.bind
  · apply Only.bind (only_orNotFound _ trivial)
    intro record
    dsimp only
    split <;> trivial
  intro record
  apply Only.bind
  · unfold isAssignedToAnyStage
    split
    · trivial
    · exact Only.bind (only_orRaise _ trivial) fun _ => trivial
  intro assigned
  apply Only.bind (only_authorize_of trivial ..)
  intro permitted
  cases permitted <;> trivial

theorem beside_of_only {α : Type} (renewed : Renewed before after) {program : Service α}
    (only : program.Only (ProgressCall requestId)) : Coupled environment (Beside before after) program :=
  (compositional_coupled_service _).of_only (fun _ reads => coupled_progressCall renewed reads) only

theorem paired_getWorkflowProgress (renewed : Renewed before after) (identity : AuthenticatedIdentity)
    (shares : Opens identity (before.atTick after.ticks) requestId →
      SharesDocument (some identity.userId) requestId before after) :
    Paired environment (Alongside before after requestId) (Services.getWorkflowProgress identity requestId)
      (before.atTick after.ticks) after := by
  have joins : ∀ left right, Beside before after left right → Alongside before after requestId left right :=
    fun _ _ => renewed.beside
  have opened := beside_of_only renewed (progressCall_getRequest identity requestId) (before.atTick after.ticks) after ⟨rfl, rfl⟩
  apply paired_bind_via joins opened
  intro record returned
  obtain ⟨found, own⟩ := getRequest_ok returned
  have stageList : (orTranslate (.listStagesForRequest requestId .firstHundred)).Only (ProgressCall requestId) :=
    only_orTranslate _ trivial
  have entryList : (orTranslate (.listAuditLogsForRequest requestId .firstHundred)).Only (ProgressCall requestId) :=
    only_orTranslate _ rfl
  have second := beside_of_only renewed stageList _ _ opened.2
  apply paired_bind_via joins second
  intro stages _
  have third := beside_of_only renewed entryList _ _ second.2
  apply paired_bind_via joins third
  intro entries _
  have detailed : Coupled environment (Alongside before after requestId)
      (stageDetails (escalatedStageIds entries.items) [] stages.items) := coupled_of_only (unruled_stageDetails ..)
  have fourth := detailed _ _ (joins _ _ third.2)
  apply paired_bind fourth
  intro details _
  apply paired_getDefinition renewed (shares ⟨record, returned, own⟩) fourth.2 found
  · intro definition other same
    unfold progressOf
    rw [same]
  · intro definition
    exact (compositional_coupled_service _).done _

end Progress

/-- The caller may open the request or decide one of its stages, at the instant after the activations. -/
def Involved (identity : AuthenticatedIdentity) (requestId : UUID) (before after : World) : Prop :=
  Opens identity (before.atTick after.ticks) requestId ∨ Entitled identity requestId (before.atTick after.ticks)

theorem outcome_of_paired {identity : AuthenticatedIdentity} {call : WorkflowCall}
    (paired : Paired environment (Alongside before after requestId) (call.program identity requestId)
      (before.atTick after.ticks) after) :
    call.outcome identity requestId after = call.outcome identity requestId (before.atTick after.ticks) := by
  obtain ⟨same, joined⟩ := paired
  obtain ⟨audit, apart⟩ := joined.apart
  unfold WorkflowCall.outcome
  dsimp only
  rw [same, apart]
  rfl

theorem unnoticed_of_sharesDocument (renewed : Renewed before after) {identity : AuthenticatedIdentity}
    (shares : Involved identity requestId before after → SharesDocument (some identity.userId) requestId before after) :
    Unnoticed identity requestId before after := by
  intro call concerns
  apply outcome_of_paired
  have compositional := compositional_coupled_service (Alongside before after requestId)
  have decided : ∀ stageId decision version note,
      (∀ stage, before.stages.find? stageId = some stage → stage.requestId = requestId) →
      Paired environment (Alongside before after requestId) (decideStage identity stageId decision version note)
        (before.atTick after.ticks) after :=
    fun stageId decision version note concerned => paired_decideStage renewed identity stageId decision version note
      concerned fun entitled _ => shares (.inr entitled)
  cases call with
  | approve stageId version note =>
      have first := decided stageId .approve version (note.map DecisionNote.text) concerns
      exact paired_bind first fun outcome _ => compositional.done _ _ _ first.2
  | reject stageId version note =>
      have first : Paired environment (Alongside before after requestId) (rejectStage identity stageId version note)
          (before.atTick after.ticks) after := by
        unfold rejectStage
        split
        · exact compositional.raised _ _ _ renewed.alongside
        · exact decided stageId .reject version (some note) concerns
      exact paired_bind first fun outcome _ => compositional.done _ _ _ first.2
  | getWorkflowProgress =>
      have first := paired_getWorkflowProgress renewed identity fun opens => shares (.inl opens)
      exact paired_bind first fun progress _ => compositional.done _ _ _ first.2

theorem sharesDocument_of_shown (renewed : Renewed before after) {identity : AuthenticatedIdentity}
    (shown : ShowsPinned identity requestId before ↔ ShowsPinned identity requestId after) :
    SharesDocument (some identity.userId) requestId before after := by
  intro request found
  have requests : after.requests = before.requests := renewed.requests
  have framed := renewed.framed request.workflowDefinitionId
  unfold World.getDefinition
  cases old : before.definitions.find? request.workflowDefinitionId with
  | none =>
      rw [old, Option.map_none, Option.map_eq_none_iff] at framed
      rw [framed]
  | some row =>
      rw [old, Option.map_some] at framed
      obtain ⟨later, kept, same⟩ := Option.map_eq_some_iff.mp framed
      rw [kept]
      have seen : before.definitionVisible (some identity.userId) row = true ↔
          after.definitionVisible (some identity.userId) later = true := by
        constructor
        · intro visible
          obtain ⟨other, definition, reached, located, shows⟩ := shown.mp ⟨request, row, found, old, visible⟩
          rw [requests, found] at reached
          obtain rfl := Option.some.inj reached
          rw [kept] at located
          exact Option.some.inj located ▸ shows
        · intro visible
          obtain ⟨other, definition, reached, located, shows⟩ :=
            shown.mpr ⟨request, later, requests ▸ found, kept, visible⟩
          rw [found] at reached
          obtain rfl := Option.some.inj reached
          rw [old] at located
          exact Option.some.inj located ▸ shows
      dsimp only
      by_cases visible : before.definitionVisible (some identity.userId) row = true
      · rw [if_pos visible, if_pos (seen.mp visible)]
        exact congrArg (fun kept => Except.ok (Prod.snd kept)) same.symm
      · rw [if_neg visible, if_neg fun hidden => visible (seen.mpr hidden)]

end Alongside

section Noticing

variable {identity : AuthenticatedIdentity} {requestId : UUID} {world : World} {α β : Type}

theorem unmoved_of_only {program : Service α} (only : program.Only (ProgressCall requestId)) (world : World) :
    ∃ ticks, (program.run environment world).2 = world.atTick ticks :=
  ⟨_, (beside_of_only (.refl world) only world world ⟨rfl, rfl⟩).2.1⟩

theorem reads_resolveProfileName (names : DisplayNames) (profileId : Option UUID) :
    ∃ value, Reads world (resolveProfileName names profileId) value := by
  cases profileId with
  | none => exact ⟨_, reads_done _⟩
  | some profileId =>
      unfold resolveProfileName
      dsimp only
      split
      · exact ⟨_, reads_done _⟩
      · have fetched : Reads world (attempt (.getProfile profileId)) (getById "profiles" world.profiles profileId) :=
          reads_attempt fun _ => rfl
        cases found : world.profiles.find? profileId with
        | none =>
            rw [getById, found] at fetched
            exact ⟨_, reads_bind fetched (reads_done _)⟩
        | some profile =>
            rw [getById, found] at fetched
            exact ⟨_, reads_bind fetched (reads_done _)⟩

theorem reads_stageDetails (escalated : List UUID) (names : DisplayNames) (stages : List WorkflowStageRecord) :
    ∃ details, Reads world (stageDetails escalated names stages) details := by
  induction stages generalizing names with
  | nil => exact ⟨_, reads_done _⟩
  | cons stage rest recurse =>
      obtain ⟨assigned, assignedRead⟩ := @reads_resolveProfileName world names stage.assignedTo
      obtain ⟨decided, decidedRead⟩ := @reads_resolveProfileName world assigned.1 stage.decidedBy
      obtain ⟨details, restRead⟩ := recurse decided.1
      exact ⟨_, reads_bind assignedRead (reads_bind decidedRead (reads_bind restRead (reads_done _)))⟩

theorem progress_shown_iff (opens : Opens identity world requestId) :
    (∃ progress, ((Services.getWorkflowProgress identity requestId).run environment world).1 = .ok progress) ↔
      ShowsPinned identity requestId world := by
  obtain ⟨record, returned, -⟩ := opens
  obtain ⟨found, -⟩ := getRequest_ok returned
  obtain ⟨ticks, unmoved⟩ := unmoved_of_only (progressCall_getRequest identity requestId) world
  have stages : Reads world (orTranslate (.listStagesForRequest requestId .firstHundred))
      (paginate (world.stagesOf requestId) .firstHundred) := reads_orTranslate fun _ => rfl
  have entries : Reads world (orTranslate (.listAuditLogsForRequest requestId .firstHundred))
      (paginate (world.auditLogsOfRequest requestId) .firstHundred) := reads_orTranslate fun _ => rfl
  obtain ⟨details, detailed⟩ := @reads_stageDetails world
    (escalatedStageIds (paginate (world.auditLogsOfRequest requestId) .firstHundred).items) []
    (paginate (world.stagesOf requestId) .firstHundred).items
  obtain ⟨second, stagesRun⟩ := stages ticks
  obtain ⟨third, entriesRun⟩ := entries second
  obtain ⟨fourth, detailsRun⟩ := detailed third
  rw [Services.getWorkflowProgress, run_bind_of_ok returned, unmoved, run_bind, stagesRun, continueRun_ok, run_bind,
    entriesRun, continueRun_ok, run_bind, detailsRun, continueRun_ok, run_bind, run_orNotFound]
  have looked : (world.atTick fourth).execute
      (.getDefinition (some identity.userId) record.workflowDefinitionId) =
        (world.getDefinition (some identity.userId) record.workflowDefinitionId, world.atTick fourth) := rfl
  rw [looked]
  cases outcome : world.getDefinition (some identity.userId) record.workflowDefinitionId with
  | error error =>
      constructor
      · intro shown
        obtain ⟨progress, shown⟩ := shown
        cases shown
      · intro shown
        obtain ⟨request, definition, located, kept, visible⟩ := shown
        obtain rfl := Option.some.inj (located.symm.trans found)
        rw [World.getDefinition_ok_iff.mpr ⟨kept, visible⟩] at outcome
        cases outcome
  | ok definition =>
      obtain ⟨kept, visible⟩ := World.getDefinition_ok_iff.mp outcome
      exact ⟨fun _ => ⟨record, definition, found, kept, visible⟩, fun _ => ⟨_, rfl⟩⟩

/-- The error of a lookup of a version that is not shown. -/
def versionNotFound (definitionId : UUID) : AppError := .notFound "workflow_definitions" definitionId

/-- The statement does not report a version as missing. -/
def NeverMissing (definitionId : UUID) (statement : Query) : Prop :=
  ∀ world : World, (world.execute statement).1 ≠ .error (.recordNotFound "workflow_definitions" definitionId)

variable {definitionId : UUID} {statement : Query}

theorem neverMissing_of_update {ρ : Type} [Versioned ρ] (tableName : String) (table : Table ρ)
    (id expectedVersion : Nat) (edit : Edit ρ) (violated : ρ → Option String) :
    (updateWithOptimisticLock tableName table id expectedVersion edit violated).1 ≠
      .error (.recordNotFound "workflow_definitions" definitionId) := by
  unfold updateWithOptimisticLock
  cases table.updateIfVersion id expectedVersion edit with
  | none => simp
  | some outcome => cases refused : violated outcome.1 <;> simp [refused]

theorem neverMissing_of_insert {ρ : Type} [Keyed ρ] (tableName : String) (table : Table ρ) (draft : Draft ρ)
    (violated : ρ → Option String) :
    (insertRow tableName table draft violated).1 ≠ .error (.recordNotFound "workflow_definitions" definitionId) := by
  unfold insertRow
  cases violated (draft.build table.next) <;> simp

theorem neverMissing_createStage (requestId stageOrder : Nat) (stageName : String) (companyId : UUID)
    (assignedRole : Option UserRole) (assignedTo : Option UUID) :
    NeverMissing definitionId (.createStage requestId stageOrder stageName companyId assignedRole assignedTo) := by
  intro world
  dsimp only [World.execute, World.createStage]
  exact neverMissing_of_insert _ _ _ _

theorem neverMissing_recordEvent (action : AuditAction) (actorId entryRequestId : Option UUID)
    (metadata : Option AuditMetadata) (companyId : Option UUID) :
    NeverMissing definitionId (.recordEvent action actorId entryRequestId metadata companyId) := by
  intro world
  dsimp only [World.execute, World.recordEvent]
  exact neverMissing_of_insert _ _ _ _

theorem translated_of_neverMissing (never : NeverMissing definitionId statement) (world : World) :
    ((orTranslate statement).run environment world).1 ≠ .error (versionNotFound definitionId) := by
  rw [run_orTranslate]
  have spared := never world
  cases reply : (world.execute statement).1 with
  | ok result => simp [Except.mapError]
  | error error =>
      rw [reply] at spared
      cases error with
      | recordNotFound table identifier =>
          intro raised
          have same : table = "workflow_definitions" ∧ identifier = definitionId := by
            simpa [Except.mapError, translateDatabaseError, versionNotFound] using raised
          exact spared (by rw [same.1, same.2])
      | _ => simp [Except.mapError, translateDatabaseError, versionNotFound]

theorem translated_engine (result : Except EngineError α) (world : World) :
    ((engineOrTranslate result).run environment world).1 ≠ .error (versionNotFound definitionId) := by
  unfold engineOrTranslate
  rw [run_ofExcept]
  cases result with
  | ok value => simp [Except.mapError]
  | error error => cases error <;> simp [Except.mapError, translateWorkflowError, versionNotFound]

/-- Started in this state, the body raises no such error. -/
def SparesFrom (definitionId : UUID) (registered : List (Service Unit)) (state : World)
    (body : Transaction hubSignature AppError α) : Prop :=
  Transaction.Ensures (.ofHandler environment) (fun result _ _ => result ≠ .error (versionNotFound definitionId))
    registered state body

def Spares (definitionId : UUID) (body : Transaction hubSignature AppError α) : Prop :=
  ∀ registered state, SparesFrom definitionId registered state body

theorem spares_done (value : α) : Spares definitionId (.done value : Transaction hubSignature AppError α) := by
  intro registered state raised
  cases raised

theorem spares_register (undo : Service Unit) : Spares definitionId (Transaction.registerCompensation undo) := by
  intro registered state raised
  cases raised

theorem sparesFrom_bind {registered : List (Service Unit)} {state : World}
    {body : Transaction hubSignature AppError α} {next : α → Transaction hubSignature AppError β}
    (first : SparesFrom definitionId registered state body) (rest : ∀ value, Spares definitionId (next value)) :
    SparesFrom definitionId registered state (body >>= next) := by
  apply (Transaction.ensures_bind body next _).mpr
  apply first.mono
  intro result later final spared
  cases result with
  | ok value => exact rest value later final
  | error error =>
      intro raised
      exact spared (congrArg Except.error (Except.error.inj raised))

theorem spares_bind {body : Transaction hubSignature AppError α} {next : α → Transaction hubSignature AppError β}
    (first : Spares definitionId body) (rest : ∀ value, Spares definitionId (next value)) :
    Spares definitionId (body >>= next) :=
  fun registered state => sparesFrom_bind (first registered state) rest

theorem sparesFrom_lift {program : Service α} {registered : List (Service Unit)} {state : World}
    (spared : (program.run environment state).1 ≠ .error (versionNotFound definitionId)) :
    SparesFrom definitionId registered state (Transaction.ofProgram program) := by
  apply (Transaction.ensures_ofProgram program).mpr
  exact (ensures_ofHandler environment program).mpr spared

theorem spares_lift {program : Service α}
    (spared : ∀ world, (program.run environment world).1 ≠ .error (versionNotFound definitionId)) :
    Spares definitionId (Transaction.ofProgram program) :=
  fun _ state => sparesFrom_lift (spared state)

theorem spares_finishRequest (request : RequestRecord) (status : RequestStatus) :
    Spares definitionId (finishRequest request status) := by
  apply spares_bind (spares_lift (translated_engine _))
  intro _
  apply spares_bind
  · apply spares_lift
    intro world raised
    cases raised
  intro completedAt
  apply spares_bind
  · exact spares_lift (translated_of_neverMissing fun _ => neverMissing_of_update _ _ _ _ _ _)
  intro updated
  exact spares_register _

theorem spares_openNextStage (request : RequestRecord) (plan : StagePlan) :
    Spares definitionId (openNextStage request plan) := by
  apply spares_bind
  · exact spares_lift (translated_of_neverMissing (neverMissing_createStage _ _ _ _ _ _))
  intro newStage
  apply spares_bind (spares_register _)
  intro _
  apply spares_bind (spares_lift (translated_engine _))
  intro _
  apply spares_bind
  · exact spares_lift (translated_of_neverMissing fun _ => neverMissing_of_update _ _ _ _ _ _)
  intro updated
  apply spares_bind (spares_register _)
  intro _
  exact spares_done newStage

theorem spares_recordEvent {value : α} (action : AuditAction) (actorId entryRequestId : Option UUID)
    (metadata : Option AuditMetadata) :
    Spares definitionId (do
      let _ ← orTranslate (.recordEvent action actorId entryRequestId metadata none)
      return value) := by
  apply spares_bind
  · exact spares_lift (translated_of_neverMissing (neverMissing_recordEvent _ _ _ _ _))
  intro entry
  exact spares_done value

theorem spared_bind {program : Service α} {next : α → Service β} {state : World}
    (first : (program.run environment state).1 ≠ .error (versionNotFound definitionId))
    (rest : ∀ value later, ((next value).run environment later).1 ≠ .error (versionNotFound definitionId)) :
    ((program >>= next).run environment state).1 ≠ .error (versionNotFound definitionId) := by
  cases result : (program.run environment state).1 with
  | ok value =>
      rw [run_bind_of_ok result]
      exact rest value _
  | error error =>
      rw [run_bind_of_error result]
      rw [result] at first
      intro raised
      exact first (congrArg Except.error (Except.error.inj raised))

theorem raised_of_database (world : World) :
    ((orRaise statement).run environment world).1 ≠ .error (versionNotFound definitionId) := by
  rw [run_orRaise]
  cases (world.execute statement).1 <;> simp [Except.mapError, versionNotFound]

section Approval

variable {viewer : Option UUID} {stage : WorkflowStageRecord} {request : RequestRecord}

theorem run_fetchRequest (found : world.requests.find? requestId = some request) :
    (orNotFound (.getRequest requestId) : Service RequestRecord).run environment world = (.ok request, world.tick) := by
  have reply : (orNotFound (.getRequest requestId) : Service RequestRecord).run environment world =
      ((getById "requests" world.requests requestId).mapError notFoundOrDatabase, world.tick) :=
    run_orNotFound (.getRequest requestId) world
  rw [reply, getById, found]
  rfl

theorem run_fetchDefinition (world : World) (viewer : Option UUID) (definitionId : UUID) :
    (orNotFound (.getDefinition viewer definitionId) : Service WorkflowDefinition).run environment world =
      ((world.getDefinition viewer definitionId).mapError notFoundOrDatabase, world.tick) :=
  run_orNotFound (.getDefinition viewer definitionId) world

theorem getDefinition_error {error : DatabaseError} (failed : world.getDefinition viewer definitionId = .error error) :
    error = .recordNotFound "workflow_definitions" definitionId := by
  unfold World.getDefinition at failed
  cases kept : world.definitions.find? definitionId with
  | none =>
      rw [kept] at failed
      exact (Except.error.inj failed).symm
  | some row =>
      rw [kept] at failed
      by_cases visible : world.definitionVisible viewer row = true
      · simp [visible] at failed
      · simp only [if_neg visible] at failed
        exact (Except.error.inj failed).symm

theorem planned_iff (found : world.requests.find? stage.requestId = some request) :
    ((planAfterApproval viewer stage).run environment world).1 = .error (versionNotFound request.workflowDefinitionId) ↔
      ∃ error, world.getDefinition viewer request.workflowDefinitionId = .error error := by
  have looked : world.tick.getDefinition viewer request.workflowDefinitionId =
      world.getDefinition viewer request.workflowDefinitionId := rfl
  rw [planAfterApproval, run_bind, run_fetchRequest found, continueRun_ok, run_bind, run_fetchDefinition, looked]
  cases outcome : world.getDefinition viewer request.workflowDefinitionId with
  | error error =>
      rw [getDefinition_error outcome]
      exact ⟨fun _ => ⟨_, rfl⟩, fun _ => rfl⟩
  | ok definition =>
      rw [Except.mapError, continueRun_ok]
      constructor
      · intro raised
        exfalso
        revert raised
        apply spared_bind (raised_of_database _)
        intro highest later
        apply spared_bind
        · rw [run_orNotFound]
          cases reply : (later.execute (.getProfile request.requesterId)).1 with
          | ok profile => simp [Except.mapError]
          | error error =>
              have missing : error = .recordNotFound "profiles" request.requesterId := by
                have looked : getById "profiles" later.profiles request.requesterId = .error error := reply
                unfold getById at looked
                split at looked
                · cases looked
                · exact (Except.error.inj looked).symm
              simp [Except.mapError, missing, notFoundOrDatabase, translateDatabaseError, versionNotFound]
        intro requester later
        apply spared_bind
        · unfold fetchApproversForNextStage
          dsimp only
          split
          · apply spared_bind (raised_of_database _)
            intro records later raised
            cases raised
          · intro raised
            cases raised
        intro approvers later
        apply spared_bind
        · unfold engineOrRaise
          rw [run_ofExcept]
          cases planNextStage definition stage.stageOrder highest requester approvers <;>
            simp [Except.mapError, versionNotFound]
        · intro plan later raised
          cases raised
      · intro refused
        obtain ⟨error, refused⟩ := refused
        cases refused

theorem run_decisionStatement (found : world.stages.find? stage.id = some stage)
    (known : world.hasProfile identity.userId = true) :
    ∃ decided stages, (decisionStatement .approve stage.id stage.version identity.userId none).run environment world =
      (.ok decided, ({ world with stages } : World).tick) := by
  have accepted : World.firstViolated [("check", (none : Option String).all fun note => decide (note.length ≤ 1000)),
      ("foreign_key", world.hasProfile identity.userId)] = none := by simp [World.firstViolated, known]
  have written : world.decideStage .approved stage.id stage.version identity.userId none = (.ok _, _) :=
    World.updateStage_ok_iff.mpr ⟨stage, found, rfl, accepted, rfl, rfl⟩
  exists (stamped (world.decisionEdit .approved identity.userId none) stage.version).apply stage,
    world.stages.modify stage.id (stamped (world.decisionEdit .approved identity.userId none) stage.version)
  rw [decisionStatement, run_orTranslate]
  exact congrArg (fun reached : Except DatabaseError WorkflowStageRecord × World =>
    (reached.1.mapError translateDatabaseError, reached.2.tick)) written

/-- An approval that gets as far as its plan raises the error of the lookup exactly where the version is not shown. -/
theorem decideStageBody_raises_iff (located : world.stages.find? stage.id = some stage)
    (known : world.hasProfile identity.userId = true) (found : world.requests.find? stage.requestId = some request)
    (operation : String) :
    ((transaction operation (decideStageBody identity stage.id stage .approve stage.version none)).run
        environment world).1 = .error (versionNotFound request.workflowDefinitionId) ↔
      ∃ error, world.getDefinition (some identity.userId) request.workflowDefinitionId = .error error := by
  obtain ⟨decided, stages, written⟩ := @run_decisionStatement identity _ _ located known
  have planned := @planned_iff ({ world with stages } : World).tick (some identity.userId) stage request found
  have same : ({ world with stages } : World).tick.getDefinition (some identity.userId) request.workflowDefinitionId =
      world.getDefinition (some identity.userId) request.workflowDefinitionId := rfl
  rw [same] at planned
  -- The body after the statement that records the decision.
  let advancing : Transaction hubSignature AppError (WorkflowStageRecord × DecisionAdvancement) := do
    let advancement ← advanceAfterApproval (some identity.userId) stage
    let _ ← orTranslate (.recordEvent advancement.auditAction (some identity.userId) (some stage.requestId)
      (some (.stageDecided stage.id none)) none)
    return (decided, advancement)
  constructor
  · intro raised
    by_contra shown
    have spared := mt planned.mp shown
    have rest : SparesFrom request.workflowDefinitionId [compensateDecision stage.id decided]
        ({ world with stages } : World).tick advancing := by
      apply sparesFrom_bind
      · apply sparesFrom_bind (sparesFrom_lift spared)
        intro planned
        obtain ⟨request, _ | plan⟩ := planned
        · exact spares_bind (spares_finishRequest request .completed) fun _ => spares_done _
        · exact spares_bind (spares_openNextStage request plan) fun _ => spares_done _
      · intro advancement
        exact spares_recordEvent _ _ _ _
    have ensured : SparesFrom request.workflowDefinitionId [] world
        (decideStageBody identity stage.id stage .approve stage.version none) := by
      apply ensures_lift_run.mpr
      rw [written]
      exact rest
    have ended := @result_of_enact _ _ _ _ environment _ (transactionReport operation) [] world
      (fun result => result ≠ .error (versionNotFound request.workflowDefinitionId)) ensured
    exact ended raised
  · intro hidden
    have refused := planned.mpr hidden
    have rest : Transaction.Ensures (.ofHandler environment)
        (fun result _ _ => result = .error (versionNotFound request.workflowDefinitionId))
        [compensateDecision stage.id decided] ({ world with stages } : World).tick advancing := by
      apply (Transaction.ensures_bind _ _ _).mpr
      apply ensures_lift_run.mpr
      rw [refused]
      rfl
    have ensured : Transaction.Ensures (.ofHandler environment)
        (fun result _ _ => result = .error (versionNotFound request.workflowDefinitionId)) [] world
        (decideStageBody identity stage.id stage .approve stage.version none) := by
      apply ensures_lift_run.mpr
      rw [written]
      exact rest
    exact @result_of_enact _ _ _ _ environment _ (transactionReport operation) [] world
      (fun result => result = .error (versionNotFound request.workflowDefinitionId)) ensured

theorem returns_after_caught (program : Service Unit) (line : LogLine) (value : α) (state : World) :
    ((do tryCatch program fun _ => log line
         return value : Service α).run environment state).1 = .ok value := by
  rw [run_bind, run_tryCatch]
  rcases program.run environment state with ⟨_ | _, later⟩ <;> rfl

theorem run_getByIdForCompany (located : world.stages.find? stage.id = some stage)
    (own : stage.companyId = identity.companyId) :
    (getByIdForCompany stage.id identity.companyId).run environment world = (.ok stage, world.tick) := by
  have reply : (orNotFound (.getStage stage.id) : Service WorkflowStageRecord).run environment world =
      ((getById "workflow_stages" world.stages stage.id).mapError notFoundOrDatabase, world.tick) :=
    run_orNotFound (.getStage stage.id) world
  rw [getByIdForCompany, run_bind, reply, getById, located, Except.mapError, continueRun_ok,
    if_neg (not_not.mpr own)]
  rfl

/-- The approval of a stage that the caller may decide raises the error of the lookup exactly where the version is not
shown. -/
theorem approve_raises_iff (member : stage ∈ world.stages.rows) (own : stage.companyId = identity.companyId)
    (granted : ((authorizeStageDecision identity stage).run environment world.tick).1 = .ok (.ok ()))
    (known : world.hasProfile identity.userId = true) (found : world.requests.find? stage.requestId = some request) :
    ((approveStage identity stage.id none none).run environment world).1 =
        .error (versionNotFound request.workflowDefinitionId) ↔
      ∃ error, world.getDefinition (some identity.userId) request.workflowDefinitionId = .error error := by
  have pending : stage.status = .pending := ((mayDecide_iff identity stage).mp (permitted_of_authorize granted)).2.1
  have located : world.stages.find? stage.id = some stage := find?_of_mem _ member
  obtain ⟨ticks, unmoved⟩ := @unmoved_of_only 0 _ (authorizeStageDecision identity stage)
    (only_authorize_of trivial ..) world.tick
  have valid : validateStageTransition stage.status Decision.approve.stageStatus = .ok () :=
    (validateStageTransition_decision _ _ (by decide)).mpr pending
  have body := @decideStageBody_raises_iff identity (world.tick.atTick ticks) stage request located known found
    ("decide_stage_" ++ Decision.approve.stageStatus.value)
  have undecided : ¬(stage.status = Decision.approve.stageStatus ∧ stage.decidedBy = some identity.userId) := by
    rw [pending]
    exact fun decided => by cases decided.1
  change ((decideStage identity stage.id .approve none none).run environment world).1 = _ ↔ _
  rw [decideStage, run_bind, run_getByIdForCompany located own, continueRun_ok, if_neg undecided,
    run_bind_of_ok granted, unmoved, valid]
  change _ ↔ ∃ error, (world.tick.atTick ticks).getDefinition (some identity.userId) request.workflowDefinitionId =
    .error error
  rw [← body]
  dsimp only
  rw [engineOrTranslate, Except.mapError, run_bind, run_ofExcept, continueRun_ok]
  cases ended : ((transaction ("decide_stage_" ++ Decision.approve.stageStatus.value)
      (decideStageBody identity stage.id stage .approve stage.version none)).run environment
        (world.tick.atTick ticks)).1 with
  | error error =>
      rw [Option.getD_none, run_bind_of_error ended]
      constructor
      · intro raised
        exact congrArg Except.error (Except.error.inj raised)
      · intro raised
        exact congrArg Except.error (Except.error.inj raised)
  | ok value =>
      rw [Option.getD_none, run_bind_of_ok ended]
      constructor
      · intro raised
        rw [returns_after_caught] at raised
        cases raised
      · intro raised
        cases raised

end Approval

variable {before after : World}

theorem opens_alongside (renewed : Renewed before after) :
    Opens identity after requestId ↔ Opens identity (before.atTick after.ticks) requestId := by
  have same := (beside_of_only renewed (progressCall_getRequest identity requestId) (before.atTick after.ticks) after
    ⟨rfl, rfl⟩).1
  unfold Opens
  rw [same]

theorem progressed_iff (world : World) :
    (∃ reply, (WorkflowCall.getWorkflowProgress.outcome identity requestId world).1 = .ok reply) ↔
      ∃ progress, ((Services.getWorkflowProgress identity requestId).run environment world).1 = .ok progress := by
  unfold WorkflowCall.outcome WorkflowCall.program
  dsimp only
  rw [run_bind]
  rcases (Services.getWorkflowProgress identity requestId).run environment world with ⟨error | progress, later⟩
  · constructor <;> intro returned <;> obtain ⟨_, returned⟩ := returned <;> cases returned
  · exact ⟨fun _ => ⟨progress, rfl⟩, fun _ => ⟨.progress progress, rfl⟩⟩

theorem approved_iff (world : World) (stageId : UUID) (error : AppError) :
    ((WorkflowCall.approve stageId none none).outcome identity requestId world).1 = .error error ↔
      ((approveStage identity stageId none none).run environment world).1 = .error error := by
  unfold WorkflowCall.outcome WorkflowCall.program
  dsimp only
  rw [run_bind]
  rcases (approveStage identity stageId none none).run environment world with ⟨raised | outcome, later⟩
  · constructor <;> intro same <;> exact congrArg Except.error (Except.error.inj same)
  · constructor <;> intro same <;> cases same

theorem hasProfile_of_shown (shown : ShowsPinned identity requestId world) : world.hasProfile identity.userId = true := by
  obtain ⟨request, definition, -, -, visible⟩ := shown
  unfold World.definitionVisible at visible
  dsimp only at visible
  unfold World.hasProfile
  cases known : world.profiles.find? identity.userId with
  | none =>
      rw [known] at visible
      cases visible
  | some profile => rfl

theorem hidden_iff {request : RequestRecord} (found : world.requests.find? requestId = some request) :
    (∃ error, world.getDefinition (some identity.userId) request.workflowDefinitionId = .error error) ↔
      ¬ShowsPinned identity requestId world := by
  cases outcome : world.getDefinition (some identity.userId) request.workflowDefinitionId with
  | error error =>
      refine ⟨fun _ shown => ?_, fun _ => ⟨error, rfl⟩⟩
      obtain ⟨other, definition, located, kept, visible⟩ := shown
      obtain rfl := Option.some.inj (located.symm.trans found)
      rw [World.getDefinition_ok_iff.mpr ⟨kept, visible⟩] at outcome
      cases outcome
  | ok definition =>
      constructor
      · intro refused
        obtain ⟨error, refused⟩ := refused
        cases refused
      · intro hidden
        obtain ⟨kept, visible⟩ := World.getDefinition_ok_iff.mp outcome
        exact absurd ⟨request, definition, found, kept, visible⟩ hidden

/-- One who may decide a stage of the request notices when its version appears or disappears. -/
theorem shown_of_unnoticed (renewed : Renewed before after) (unnoticed : Unnoticed identity requestId before after)
    (entitled : Entitled identity requestId (before.atTick after.ticks))
    (shown : ShowsPinned identity requestId before ∨ ShowsPinned identity requestId after) :
    ShowsPinned identity requestId before ↔ ShowsPinned identity requestId after := by
  obtain ⟨stage, member, rfl, own, granted⟩ := entitled
  have stages : after.stages = before.stages := renewed.stages
  have requests : after.requests = before.requests := renewed.requests
  have profiles : after.hasProfile identity.userId = before.hasProfile identity.userId := by
    unfold World.hasProfile
    rw [renewed.profiles]
  obtain ⟨request, found⟩ : ∃ request, before.requests.find? stage.requestId = some request := by
    rcases shown with ⟨request, -, found, -⟩ | ⟨request, -, found, -⟩
    · exact ⟨request, found⟩
    · exact ⟨request, requests ▸ found⟩
  have known : before.hasProfile identity.userId = true := by
    rcases shown with earlier | later
    · exact hasProfile_of_shown earlier
    · exact profiles ▸ hasProfile_of_shown later
  have authorized := beside_of_only renewed (@only_authorize_of (ProgressCall 0) trivial identity
    (identity.mayDecide stage) "workflow stage") (before.atTick after.ticks).tick after.tick ⟨rfl, rfl⟩
  have idle := @approve_raises_iff identity (before.atTick after.ticks) stage request member own granted known found
  have active := @approve_raises_iff identity after stage request (stages ▸ member) own (authorized.1.symm.trans granted)
    (profiles.trans known) (requests ▸ found)
  have concerned : (WorkflowCall.approve stage.id none none).Concerns before stage.requestId := by
    intro other reached
    have located : before.stages.find? stage.id = some stage := find?_of_mem before.stages member
    rw [located] at reached
    obtain rfl := Option.some.inj reached
    rfl
  have outcomes := unnoticed _ concerned
  have laterFound : after.requests.find? stage.requestId = some request := requests ▸ found
  have hiddenIdle := @hidden_iff identity stage.requestId (before.atTick after.ticks) request found
  have hiddenActive := @hidden_iff identity stage.requestId after request laterFound
  have agreed : (¬ShowsPinned identity stage.requestId before) ↔ ¬ShowsPinned identity stage.requestId after := by
    rw [← hiddenActive, ← active, ← approved_iff, outcomes, approved_iff, idle, hiddenIdle]
    exact Iff.rfl
  exact not_iff_not.mp agreed

/-- Activations go unnoticed by a caller exactly if they leave the version of the request visible or hidden, as it was;
unless the caller may neither open the request nor decide a stage of it. -/
theorem unnoticed_iff (renewed : Renewed before after) : Unnoticed identity requestId before after ↔
    (Involved identity requestId before after →
      (ShowsPinned identity requestId before ↔ ShowsPinned identity requestId after)) := by
  constructor
  · intro unnoticed involved
    rcases involved with opens | entitled
    · have outcomes := unnoticed .getWorkflowProgress trivial
      have active := progress_shown_iff ((opens_alongside renewed).mpr opens)
      have idle := progress_shown_iff opens
      rw [← active, ← progressed_iff, outcomes, progressed_iff, idle]
      exact Iff.rfl
    · by_cases shown : ShowsPinned identity requestId before ∨ ShowsPinned identity requestId after
      · exact shown_of_unnoticed renewed unnoticed entitled shown
      · exact ⟨fun earlier => absurd (.inl earlier) shown, fun later => absurd (.inr later) shown⟩
  · intro kept
    exact unnoticed_of_sharesDocument renewed fun involved => sharesDocument_of_shown renewed (kept involved)

end Noticing

/-- A request is under way, and version 2 of its workflow is drafted. -/
def draftedHub : World :=
  ((createDefinition (some 3) sampleAdmin "expense" [administratorsStage 1]).run environment
    (hubWithRequest "expense")).2

/-- The draft is put in use. -/
def sampleActivation : Activation := { client := some 3, administrator := sampleAdmin, definitionId := 3 }

/-- The error that a result reports, if any. -/
def raisedError {α : Type} : Except AppError α → Option AppError
  | .ok _ => none
  | .error error => some error

theorem eq_of_raisedError {α : Type} {result : Except AppError α} {error : AppError}
    (raised : raisedError result = some error) : result = .error error := by
  cases result with
  | ok value => cases raised
  | error other => exact congrArg Except.error (Option.some.inj raised)

end AutomationHub.System
