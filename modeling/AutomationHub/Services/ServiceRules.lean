import AutomationHub.Database.RepositoryProperties
import AutomationHub.Services.ApprovalService

/-!
Rules for the steps from which the services are built, under any protocol.
-/

set_option autoImplicit false

namespace AutomationHub.Services

open Foundation Model Database Auth Program

/-- What `orNotFound` raises for a database error. -/
def notFoundOrDatabase : DatabaseError → AppError
  | .recordNotFound table identifier => translateDatabaseError (.recordNotFound table identifier)
  | error => .database error

section Steps

variable {σ α : Type} {protocol : Protocol hubSignature σ} {state : σ}

@[simp] theorem ensures_ofExcept (result : Except AppError α) (post : Except AppError α → σ → Prop) :
    (Program.ofExcept result : Service α).Ensures protocol post state ↔ post result state := by
  cases result with
  | ok value => exact Iff.rfl
  | error error => exact Iff.rfl

@[simp] theorem ensures_engineOrTranslate (result : Except EngineError α) (post : Except AppError α → σ → Prop) :
    (engineOrTranslate result).Ensures protocol post state ↔ post (result.mapError translateWorkflowError) state :=
  ensures_ofExcept _ _

@[simp] theorem ensures_engineOrRaise (result : Except EngineError α) (post : Except AppError α → σ → Prop) :
    (engineOrRaise result).Ensures protocol post state ↔ post (result.mapError AppError.engine) state :=
  ensures_ofExcept _ _

@[simp] theorem ensures_ask (request : Call) (post : Except AppError request.Reply → σ → Prop) :
    (ask request).Ensures protocol post state ↔ protocol.permits state request ∧
      ∀ reply after, protocol.answers state request reply after → post (.ok reply) after := Iff.rfl

@[simp] theorem ensures_utcNow (post : Except AppError Datetime → σ → Prop) :
    utcNow.Ensures protocol post state ↔ protocol.permits state .utcNow ∧
      ∀ reply after, protocol.answers state .utcNow reply after → post (.ok reply) after := Iff.rfl

@[simp] theorem ensures_log (line : LogLine) (post : Except AppError Unit → σ → Prop) :
    (log line).Ensures protocol post state ↔ protocol.permits state (.log line) ∧
      ∀ reply after, protocol.answers state (.log line) reply after → post (.ok reply) after := Iff.rfl

variable (statement : Query)

@[simp] theorem ensures_attempt (post : Except AppError (Except DatabaseError statement.Result) → σ → Prop) :
    (attempt statement).Ensures protocol post state ↔ protocol.permits state (.query statement) ∧
      ∀ reply after, protocol.answers state (.query statement) reply after → post (.ok reply) after := Iff.rfl

@[simp] theorem ensures_orTranslate (post : Except AppError statement.Result → σ → Prop) :
    (orTranslate statement).Ensures protocol post state ↔ protocol.permits state (.query statement) ∧
      ∀ reply after, protocol.answers state (.query statement) reply after →
        post (reply.mapError translateDatabaseError) after := by
  simp only [orTranslate, ensures_bind, ensures_attempt]
  refine and_congr Iff.rfl (forall_congr' fun reply => forall_congr' fun after => imp_congr Iff.rfl ?_)
  cases reply with
  | ok result => exact Iff.rfl
  | error error => exact Iff.rfl

@[simp] theorem ensures_orNotFound (post : Except AppError statement.Result → σ → Prop) :
    (orNotFound statement).Ensures protocol post state ↔ protocol.permits state (.query statement) ∧
      ∀ reply after, protocol.answers state (.query statement) reply after →
        post (reply.mapError notFoundOrDatabase) after := by
  simp only [orNotFound, ensures_bind, ensures_attempt]
  refine and_congr Iff.rfl (forall_congr' fun reply => forall_congr' fun after => imp_congr Iff.rfl ?_)
  cases reply with
  | ok result => exact Iff.rfl
  | error error => cases error <;> exact Iff.rfl

@[simp] theorem ensures_orRaise (post : Except AppError statement.Result → σ → Prop) :
    (orRaise statement).Ensures protocol post state ↔ protocol.permits state (.query statement) ∧
      ∀ reply after, protocol.answers state (.query statement) reply after →
        post (reply.mapError AppError.database) after := by
  simp only [orRaise, ensures_bind, ensures_attempt]
  refine and_congr Iff.rfl (forall_congr' fun reply => forall_congr' fun after => imp_congr Iff.rfl ?_)
  cases reply with
  | ok result => exact Iff.rfl
  | error error => exact Iff.rfl

@[simp] theorem ensures_compensation (post : Except AppError Unit → σ → Prop) :
    (compensation statement).Ensures protocol post state ↔ protocol.permits state (.query statement) ∧
      ∀ reply after, protocol.answers state (.query statement) reply after →
        post ((reply.mapError AppError.database).map fun _ => ()) after := by
  simp only [compensation, ensures_bind, ensures_orRaise]
  refine and_congr Iff.rfl (forall_congr' fun reply => forall_congr' fun after => imp_congr Iff.rfl ?_)
  cases reply with
  | ok result => exact Iff.rfl
  | error error => exact Iff.rfl

end Steps

section Only

variable {α : Type} {allowed : Call → Prop}

@[simp] theorem only_ofExcept (result : Except AppError α) : (Program.ofExcept result : Service α).Only allowed := by
  cases result <;> trivial

@[simp] theorem only_engineOrTranslate (result : Except EngineError α) : (engineOrTranslate result).Only allowed :=
  only_ofExcept _

@[simp] theorem only_engineOrRaise (result : Except EngineError α) : (engineOrRaise result).Only allowed :=
  only_ofExcept _

@[simp] theorem only_ask (request : Call) : (ask request).Only allowed ↔ allowed request :=
  ⟨fun only => only.1, fun permitted => ⟨permitted, fun _ => trivial⟩⟩

variable (statement : Query)

theorem only_attempt (permitted : allowed (.query statement)) : (attempt statement).Only allowed :=
  ⟨permitted, fun _ => trivial⟩

theorem only_orTranslate (permitted : allowed (.query statement)) : (orTranslate statement).Only allowed := by
  refine (only_attempt statement permitted).bind fun reply => ?_
  cases reply <;> trivial

theorem only_orNotFound (permitted : allowed (.query statement)) : (orNotFound statement).Only allowed := by
  refine (only_attempt statement permitted).bind fun reply => ?_
  cases reply with
  | ok result => trivial
  | error error => cases error <;> trivial

theorem only_orRaise (permitted : allowed (.query statement)) : (orRaise statement).Only allowed := by
  refine (only_attempt statement permitted).bind fun reply => ?_
  cases reply <;> trivial

theorem only_compensation (permitted : allowed (.query statement)) : (compensation statement).Only allowed :=
  (only_orRaise statement permitted).bind fun _ => trivial

end Only

/-- The calls that read, notify or log outside a transaction; fetching a stage is not among them. -/
def Auxiliary : Call → Prop
  | .query (.recordEvent ..) | .query (.getStage _) | .query (.enqueueJob ..) => False
  | .query statement => statement.writesWorkflow = false
  | .log (.rollback ..) | .log (.compensationFailed _) | .log (.stageLeftInPlace _) => False
  | _ => True

theorem Auxiliary.reading {request : Call} (auxiliary : Auxiliary request) : request.writesWorkflow = false := by
  cases request with
  | query statement => cases statement <;> first | rfl | exact auxiliary
  | _ => rfl

theorem only_isExpired {allowed : Call → Prop} (clock : allowed .utcNow) (identity : AuthenticatedIdentity) :
    (isExpired identity).Only allowed := by
  unfold isExpired
  cases identity.expiresAt with
  | none => trivial
  | some expiresAt => exact ⟨clock, fun _ => trivial⟩

theorem only_authorize_of {allowed : Call → Prop} (clock : allowed .utcNow) (identity : AuthenticatedIdentity)
    (permitted : Bool) (resource : String) : (authorize identity permitted resource).Only allowed := by
  apply Only.bind (only_isExpired clock identity)
  intro expired
  cases expired <;> cases permitted <;> trivial

theorem only_authorizeWorkflowDefinitionManagement {allowed : Call → Prop} (clock : allowed .utcNow)
    (identity : AuthenticatedIdentity) : (authorizeWorkflowDefinitionManagement identity).Only allowed := by
  apply Only.bind (only_isExpired clock identity)
  intro expired
  cases expired <;> cases canManageWorkflowDefinitions identity.role <;> trivial

theorem only_authorize (identity : AuthenticatedIdentity) (permitted : Bool) (resource : String) :
    (authorize identity permitted resource).Only Auxiliary :=
  only_authorize_of trivial identity permitted resource

theorem ensures_authorize {σ : Type} {protocol : Protocol hubSignature σ} {state : σ}
    (identity : AuthenticatedIdentity) (permitted : Bool) (resource : String) (kept : σ → Prop)
    (step : ∀ state request, kept state → Auxiliary request → protocol.permits state request ∧
      ∀ reply after, protocol.answers state request reply after → kept after)
    (holds : kept state) :
    (authorize identity permitted resource).Ensures protocol
      (fun result final => kept final ∧ (result = .ok (.ok ()) → permitted = true)) state := by
  cases permitted with
  | true => exact ((only_authorize identity true resource).ensures kept step holds).mono fun _ _ kept => ⟨kept, fun _ => rfl⟩
  | false =>
      unfold authorize isExpired
      cases identity.expiresAt with
      | none => exact ⟨holds, fun granted => by cases granted⟩
      | some expiresAt =>
          obtain ⟨allowed, preserved⟩ := step state .utcNow holds trivial
          simp only [ensures_bind, ensures_utcNow]
          refine ⟨allowed, fun reply after answered => ?_⟩
          simp only [Then, pure_eq, ensures_done]
          split <;> exact ⟨preserved reply after answered, fun granted => by cases granted⟩

/-- The calls that hand a notification over. -/
def NotifyingCall : Call → Prop
  | .query (.getRequest _) | .query (.getPreferences ..) | .query (.createNotification ..)
  | .query (.markEmailSent _) | .readMailer | .sendEmail _ | .submitEmail _ | .log (.notificationFailed _) => True
  | _ => False

theorem NotifyingCall.auxiliary {request : Call} (notifying : NotifyingCall request) : Auxiliary request := by
  cases request with
  | query statement => cases statement <;> first | rfl | cases notifying
  | log line => cases line <;> trivial
  | utcNow => cases notifying
  | _ => trivial

/-- The calls that create one notification and hand its e-mail over. -/
def DeliveryCall (recipientId : UUID) (requestId : Option UUID) (notificationType : NotificationType) : Call → Prop
  | .query (.createNotification recipient kind _ request) =>
      recipient = recipientId ∧ kind = notificationType ∧ request = requestId
  | .query (.getPreferences ..) | .query (.markEmailSent _) | .readMailer | .sendEmail _ | .submitEmail _ => True
  | _ => False

theorem DeliveryCall.notifying {recipientId : UUID} {requestId : Option UUID} {notificationType : NotificationType}
    {request : Call} (delivery : DeliveryCall recipientId requestId notificationType request) : NotifyingCall request := by
  cases request with
  | query statement => cases statement <;> trivial
  | log line => cases delivery
  | utcNow => cases delivery
  | _ => trivial

section Deliveries

variable {recipientId : UUID} {requestId : Option UUID} {notificationType : NotificationType}

theorem delivering_attemptEmailDispatch (notification : NotificationRecord) :
    (attemptEmailDispatch notification).Only (DeliveryCall recipientId requestId notificationType) := by
  refine Only.bind ((only_ask _).mpr trivial) fun mailer => ?_
  split
  · trivial
  · refine Only.bind ((only_ask _).mpr trivial) fun outcome => ?_
    cases outcome with
    | sent => exact only_orRaise _ trivial
    | _ => trivial

theorem delivering_createAndDispatch (viewer : Option UUID) (message : String) :
    (createAndDispatch viewer recipientId requestId notificationType message).Only
      (DeliveryCall recipientId requestId notificationType) := by
  refine Only.bind ?_ fun preference => ?_
  · refine Only.bind (only_orTranslate _ trivial) fun configured => ?_
    split <;> trivial
  · dsimp only
    split
    · trivial
    · refine Only.bind (only_orTranslate _ ⟨rfl, rfl, rfl⟩) fun created => ?_
      split
      · trivial
      · refine Only.bind ((only_ask _).mpr trivial) fun mailer => ?_
        split
        · exact Only.bind ((only_ask _).mpr trivial) fun _ => trivial
        · exact Only.bind (delivering_attemptEmailDispatch created) fun _ => trivial

end Deliveries

theorem notifying_createAndDispatch (viewer : Option UUID) (recipientId : UUID) (requestId : Option UUID)
    (notificationType : NotificationType) (message : String) :
    (createAndDispatch viewer recipientId requestId notificationType message).Only NotifyingCall :=
  (delivering_createAndDispatch viewer message).mono fun _ => DeliveryCall.notifying

theorem only_createAndDispatch (viewer : Option UUID) (recipientId : UUID) (requestId : Option UUID)
    (notificationType : NotificationType) (message : String) :
    (createAndDispatch viewer recipientId requestId notificationType message).Only Auxiliary :=
  (notifying_createAndDispatch ..).mono fun _ => NotifyingCall.auxiliary

theorem notifying_dispatchPostDecisionNotifications (viewer : Option UUID) (stage : WorkflowStageRecord)
    (advancement : DecisionAdvancement) :
    (dispatchPostDecisionNotifications viewer stage advancement).Only NotifyingCall := by
  refine Only.bind (only_attempt (.getRequest stage.requestId) trivial) fun reply => ?_
  cases reply with
  | error error => cases error <;> trivial
  | ok request =>
      dsimp only
      split
      · exact Only.bind (notifying_createAndDispatch ..) fun _ => trivial
      · split
        · exact Only.bind (notifying_createAndDispatch ..) fun _ => trivial
        · split
          · exact Only.bind (notifying_createAndDispatch ..) fun _ => trivial
          · trivial

theorem notifying_concludeDecision (viewer : Option UUID) (stageId : UUID) (stage : WorkflowStageRecord)
    (advancement : DecisionAdvancement) (outcome : ApprovalOutcome) :
    Only NotifyingCall (do
      tryCatch (dispatchPostDecisionNotifications viewer stage advancement) fun _ => log (.notificationFailed stageId)
      return outcome) := by
  refine Only.bind (Only.tryCatch (notifying_dispatchPostDecisionNotifications ..) fun _ => ?_) fun _ => ?_
  · exact (only_ask _).mpr trivial
  · exact only_done outcome

theorem only_concludeDecision (viewer : Option UUID) (stageId : UUID) (stage : WorkflowStageRecord)
    (advancement : DecisionAdvancement) (outcome : ApprovalOutcome) :
    Only Auxiliary (do
      tryCatch (dispatchPostDecisionNotifications viewer stage advancement) fun _ => log (.notificationFailed stageId)
      return outcome) :=
  (notifying_concludeDecision ..).mono fun _ => NotifyingCall.auxiliary

theorem only_concludeEscalation (recipient requestId stageId : UUID) (message : String)
    (reassigned : WorkflowStageRecord) :
    Only Auxiliary (do
      tryCatch (do
          let _ ← notifyEscalation none recipient requestId message)
        fun _ => log (.notificationFailed stageId)
      return reassigned) := by
  refine Only.bind (Only.tryCatch (Only.bind (only_createAndDispatch ..) fun _ => trivial) fun _ => ?_) fun _ => ?_
  · exact (only_ask _).mpr trivial
  · exact only_done reassigned

theorem only_replayIdempotentDecision (stage : WorkflowStageRecord) :
    (replayIdempotentDecision stage).Only Auxiliary :=
  Only.bind (only_orNotFound (.getRequest stage.requestId) rfl) fun _ => only_done _

theorem only_fetchApproversForNextStage {allowed : Call → Prop} (definition : WorkflowDefinition) (stageOrder : Nat)
    (request : RequestRecord) (requester : ProfileRecord)
    (listed : ∀ role companyId department page, allowed (.query (.listProfilesByRole role companyId department page))) :
    (fetchApproversForNextStage definition stageOrder request requester).Only allowed := by
  unfold fetchApproversForNextStage
  dsimp only
  split
  · exact Only.bind (only_orRaise _ (listed ..)) fun _ => trivial
  · trivial

theorem only_planAfterApproval (viewer : Option UUID) (stage : WorkflowStageRecord) :
    (planAfterApproval viewer stage).Only Auxiliary := by
  refine Only.bind (only_orNotFound (.getRequest stage.requestId) rfl) fun request => ?_
  refine Only.bind (only_orNotFound (.getDefinition viewer _) rfl) fun definition => ?_
  refine Only.bind (only_orRaise (.getHighestStageOrder _) rfl) fun highest => ?_
  refine Only.bind (only_orNotFound (.getProfile _) rfl) fun requester => ?_
  refine Only.bind (only_fetchApproversForNextStage _ _ _ _ fun _ _ _ _ => rfl) fun approvers => ?_
  exact Only.bind (only_engineOrRaise _) fun _ => trivial

end AutomationHub.Services
