import AutomationHub.System.Operations

/-!
Which calls each operation can make.
-/

set_option autoImplicit false

namespace AutomationHub.System

open Foundation Model Database Services Auth Jobs Scheduler Api Program

/-- The calls of an escalation: besides the auxiliary ones, those on the stage and its audit entry. -/
def EscalationCall : Call → Prop
  | .query (.getStage _) | .query (.escalateStage ..) | .query (.recordEvent .stageEscalated ..) => True
  | .log (.rollback operation _) | .log (.compensationFailed operation) => operation = "escalate_stage"
  | request => Auxiliary request

/-- The calls of a scheduled job or of a worker. -/
def JobCall : Call → Prop
  | .query (.enqueueJob ..) => True
  | request => EscalationCall request

/-- The calls with which a scheduled job finds the stages to act on. -/
def ScanningCall : Call → Prop
  | .query (.listOverdueStagesAllCompanies ..) | .query (.getRequest _) | .query (.getDefinition ..) | .utcNow
  | .log .itemFailed | .log (.jobFailed _) => True
  | _ => False

/-- The calls of the operations on a request other than a decision. -/
def RequestCall : Call → Prop
  | .query (.createRequest ..) | .query (.createStage ..) | .query (.setCurrentStage ..) | .query (.softDelete ..)
  | .query (.updateEditableFields ..) | .query (.recordEvent .requestCreated ..)
  | .query (.recordEvent .requestWithdrawn ..) => True
  | .log (.rollback operation _) | .log (.compensationFailed operation) => operation = "create_request"
  | request => Auxiliary request

theorem ScanningCall.auxiliary {request : Call} (scanning : ScanningCall request) : Auxiliary request := by
  cases request with
  | query statement => cases statement <;> first | rfl | cases scanning
  | log line => cases line <;> trivial
  | utcNow => trivial
  | _ => cases scanning

theorem Auxiliary.escalationCall {request : Call} (auxiliary : Auxiliary request) : EscalationCall request := by
  cases request with
  | query statement => cases statement <;> first | exact auxiliary | cases auxiliary
  | log line => cases line <;> first | exact auxiliary | cases auxiliary
  | _ => trivial

theorem EscalationCall.jobCall {request : Call} (escalation : EscalationCall request) : JobCall request := by
  cases request with
  | query statement => cases statement <;> first | exact escalation | trivial
  | _ => exact escalation

theorem Auxiliary.jobCall {request : Call} (auxiliary : Auxiliary request) : JobCall request :=
  (Auxiliary.escalationCall auxiliary).jobCall

theorem Auxiliary.requestCall {request : Call} (auxiliary : Auxiliary request) : RequestCall request := by
  cases request with
  | query statement => cases statement <;> first | exact auxiliary | cases auxiliary
  | log line => cases line <;> first | exact auxiliary | cases auxiliary
  | _ => trivial

theorem only_forEffect {α : Type} {allowed : Call → Prop} {service : Service α} (only : service.Only allowed) :
    (forEffect service).Only allowed :=
  Only.bind only fun _ => trivial

theorem ensures_forEffect {σ α : Type} {protocol : Protocol hubSignature σ} {service : Service α} {state : σ}
    {kept : σ → Prop} (ensured : service.Ensures protocol (fun _ final => kept final) state) :
    (forEffect service).Ensures protocol (fun _ final => kept final) state := by
  refine (ensures_bind ..).mpr (ensured.mono ?_)
  intro result final kept
  cases result <;> exact kept

theorem only_escalateStage (stageId : UUID) : (Services.escalateStage stageId).Only EscalationCall := by
  refine Only.bind (only_orNotFound (.getStage stageId) trivial) fun stage => ?_
  refine Only.bind ?_ fun reassigned => ?_
  · refine Transaction.Only.enact ?_ (fun _ member => absurd member List.not_mem_nil) (fun _ => rfl) rfl
    refine Transaction.Only.bind (Transaction.only_ofProgram (only_orTranslate _ trivial)) fun reassigned => ?_
    refine Transaction.Only.bind (Transaction.only_registerCompensation (only_compensation _ trivial)) fun _ => ?_
    exact Transaction.Only.bind (Transaction.only_ofProgram (only_orTranslate _ trivial)) fun _ => trivial
  · split
    · refine Only.bind (Only.tryCatch ?_ fun _ => ?_) fun _ => trivial
      · exact Only.mono (Only.bind (only_createAndDispatch ..) fun _ => trivial) fun _ => Auxiliary.escalationCall
      · exact (only_ask _).mpr trivial
    · trivial

theorem only_finishRequest_of {allowed : Call → Prop} (clock : allowed .utcNow)
    (advance : ∀ requestId version currentStageId status completedAt,
      allowed (.query (.setCurrentStage requestId version currentStageId status completedAt)))
    (request : RequestRecord) (status : RequestStatus) : (finishRequest request status).Only allowed := by
  refine Transaction.Only.bind (Transaction.only_ofProgram (only_engineOrTranslate _)) fun _ => ?_
  refine Transaction.Only.bind (Transaction.only_ofProgram ((only_ask _).mpr clock)) fun completedAt => ?_
  refine Transaction.Only.bind (Transaction.only_ofProgram (only_orTranslate _ (advance ..))) fun updatedRequest => ?_
  exact Transaction.only_registerCompensation (only_compensation _ (advance ..))

theorem only_compensateStageCreation_of {allowed : Call → Prop} {newStage : WorkflowStageRecord}
    (delete : allowed (.query (.deleteIfUnchanged newStage.id newStage.version)))
    (left : allowed (.log (.stageLeftInPlace newStage.id))) : (compensateStageCreation newStage).Only allowed := by
  refine Only.bind (only_orRaise _ delete) fun deleted => ?_
  cases deleted with
  | true => trivial
  | false => exact (only_ask _).mpr left

theorem returns_advanceAfterApproval (viewer : Option UUID) (stage : WorkflowStageRecord) :
    (advanceAfterApproval viewer stage).Returns fun advancement => advancement.auditAction = .stageApproved := by
  refine Transaction.Returns.bind fun planned => ?_
  rcases planned with ⟨request, _ | plan⟩
  · exact Transaction.Returns.bind fun _ => rfl
  · exact Transaction.Returns.bind fun _ => rfl

theorem returns_finalizeRejection (stage : WorkflowStageRecord) :
    (finalizeRejection stage).Returns fun advancement => advancement.auditAction = .stageRejected :=
  Transaction.Returns.bind fun _ => Transaction.Returns.bind fun _ => rfl

section Jobs

variable {safe : ∀ {α : Type}, Service α → Prop}

theorem safe_handle (compositional : Compositional safe) (auxiliary : ∀ request, Auxiliary request → safe (ask request))
    (escalate : ∀ stageId, safe (Services.escalateStage stageId)) (payload : TaskPayload) : safe (handle payload) := by
  cases payload with
  | escalateStage stageId =>
      refine compositional.tryCatch (compositional.bind (escalate stageId) fun _ => compositional.done _) fun error => ?_
      cases error <;> first | exact compositional.done _ | exact compositional.raised _
  | sendReminder recipientId requestId message =>
      exact compositional.bind (compositional.of_only auxiliary (only_createAndDispatch ..)) fun _ => compositional.done _

theorem safe_executeJob (compositional : Compositional safe)
    (auxiliary : ∀ request, Auxiliary request → safe (ask request))
    (escalate : ∀ stageId, safe (Services.escalateStage stageId)) (payload : TaskPayload) :
    safe (executeJob payload) :=
  compositional.tryCatch
    (compositional.bind (safe_handle compositional auxiliary escalate payload) fun _ => compositional.done _)
    fun _ => auxiliary _ trivial

theorem safe_enqueue (compositional : Compositional safe) (auxiliary : ∀ request, Auxiliary request → safe (ask request))
    (escalate : ∀ stageId, safe (Services.escalateStage stageId)) (dispatcher : JobDispatcher) (queueName : String)
    (payload : TaskPayload) (priority : JobPriority) (maxAttempts : Nat) (requestId : UUID)
    (enqueue : safe (ask (.query (.enqueueJob queueName payload priority maxAttempts (some requestId))))) :
    safe (dispatcher.enqueue queueName payload priority maxAttempts requestId) := by
  cases dispatcher with
  | queued =>
      refine compositional.bind (compositional.bind enqueue fun reply => ?_) fun _ => compositional.done _
      cases reply with
      | ok result => exact compositional.done _
      | error error => exact compositional.raised _
  | synchronous =>
      refine compositional.tryCatch (compositional.bind ?_ fun _ => compositional.done _) fun _ => auxiliary _ trivial
      exact safe_handle compositional auxiliary escalate payload

theorem only_pendingStagesFrom (cutoff : Datetime) (remaining index : Nat) :
    (pendingStagesFrom cutoff remaining index).Only ScanningCall := by
  induction remaining generalizing index with
  | zero => trivial
  | succ remaining recurse =>
      refine Only.bind (only_orRaise _ trivial) fun result => ?_
      split
      · trivial
      · split
        · trivial
        · exact Only.bind (recurse (index + 1)) fun _ => trivial

theorem only_loadStageContext (cache : DefinitionCache) (stage : WorkflowStageRecord) :
    (loadStageContext cache stage).Only ScanningCall := by
  refine Only.bind (only_orRaise _ trivial) fun request => ?_
  refine Only.bind ?_ fun cached => ?_
  · unfold cachedDefinition
    split
    · trivial
    · exact Only.bind (only_orRaise _ trivial) fun _ => trivial
  · dsimp only
    split <;> trivial

theorem safe_runOverItems (compositional : Compositional safe)
    (action : DefinitionCache → WorkflowStageRecord → Service (DefinitionCache × Except AppError Unit))
    (each : ∀ cache stage, safe (action cache stage)) (logged : safe (log .itemFailed))
    (cache : DefinitionCache) (stages : List WorkflowStageRecord) : safe (runOverItems action cache stages) := by
  induction stages generalizing cache with
  | nil => exact compositional.done _
  | cons stage rest recurse =>
      refine compositional.bind (compositional.tryCatch (each cache stage) fun _ => compositional.done _) fun outcome => ?_
      dsimp only
      split
      · exact compositional.bind logged fun _ => recurse outcome.1
      · exact recurse outcome.1

theorem safe_runJob (compositional : Compositional safe)
    (scanning : ∀ request, ScanningCall request → safe (ask request)) (jobName : String)
    (action : DefinitionCache → WorkflowStageRecord → Service (DefinitionCache × Except AppError Unit))
    (each : ∀ cache stage, safe (action cache stage)) : safe (runJob jobName action) := by
  refine compositional.tryCatch (compositional.bind ?_ fun candidates => ?_) fun _ => scanning _ trivial
  · refine compositional.of_only scanning (Only.bind ((only_ask _).mpr trivial) fun cutoff => ?_)
    exact only_pendingStagesFrom cutoff maxPages 0
  · exact safe_runOverItems compositional action each (scanning _ trivial) [] candidates

theorem only_isStageEscalationEligible (stage : WorkflowStageRecord) (escalationHours : Hours) :
    (isStageEscalationEligible stage escalationHours).Only ScanningCall :=
  Only.bind (only_engineOrRaise _) fun _ => ⟨trivial, fun _ => trivial⟩

theorem safe_escalationJob (compositional : Compositional safe)
    (auxiliary : ∀ request, Auxiliary request → safe (ask request))
    (enqueue : ∀ queueName payload priority maxAttempts requestId,
      safe (ask (.query (.enqueueJob queueName payload priority maxAttempts requestId))))
    (escalate : ∀ stageId, safe (Services.escalateStage stageId)) (dispatcher : JobDispatcher) :
    safe (Scheduler.escalationJob dispatcher) := by
  have scanning : ∀ request, ScanningCall request → safe (ask request) := fun _ scanned => auxiliary _ scanned.auxiliary
  refine safe_runJob compositional scanning _ _ fun cache stage => ?_
  refine compositional.bind (compositional.of_only scanning (only_loadStageContext cache stage)) fun loaded => ?_
  dsimp only
  split
  · exact compositional.done _
  · refine compositional.bind (compositional.tryCatch (compositional.bind (compositional.bind ?_ fun eligible => ?_)
      fun _ => compositional.done _) fun _ => compositional.done _) fun _ => compositional.done _
    · exact compositional.of_only scanning (only_isStageEscalationEligible ..)
    · cases eligible with
      | false => exact compositional.done _
      | true => exact safe_enqueue compositional auxiliary escalate _ _ _ _ _ _ (enqueue ..)

theorem safe_reminderJobWith (compositional : Compositional safe)
    (scanning : ∀ request, ScanningCall request → safe (ask request)) (settings : ReminderSettings)
    (dispatcher : JobDispatcher)
    (remind : ∀ stage recipientId context, safe (remindIfDue settings dispatcher stage recipientId context)) :
    safe (reminderJobWith settings dispatcher) := by
  refine safe_runJob compositional scanning _ _ fun cache stage => ?_
  unfold evaluateAndRemindIfDue
  split
  · exact compositional.done _
  · refine compositional.bind (compositional.of_only scanning (only_loadStageContext cache stage)) fun loaded => ?_
    dsimp only
    split
    · exact compositional.done _
    · refine compositional.bind (compositional.tryCatch (compositional.bind ?_ fun _ => compositional.done _)
        fun _ => compositional.done _) fun _ => compositional.done _
      exact remind ..

theorem safe_reminderJob (compositional : Compositional safe)
    (auxiliary : ∀ request, Auxiliary request → safe (ask request))
    (enqueue : ∀ queueName payload priority maxAttempts requestId,
      safe (ask (.query (.enqueueJob queueName payload priority maxAttempts requestId))))
    (escalate : ∀ stageId, safe (Services.escalateStage stageId)) (dispatcher : JobDispatcher) :
    safe (Scheduler.reminderJob dispatcher) := by
  have scanning : ∀ request, ScanningCall request → safe (ask request) := fun _ scanned => auxiliary _ scanned.auxiliary
  refine safe_reminderJobWith compositional scanning _ dispatcher fun stage recipientId context => ?_
  refine compositional.bind (compositional.of_only scanning (only_isStageEscalationEligible ..)) fun eligible => ?_
  cases eligible with
  | true => exact compositional.done _
  | false =>
      refine compositional.bind (auxiliary _ trivial) fun now => ?_
      split
      · exact compositional.done _
      · refine compositional.bind (compositional.of_only auxiliary (Only.bind (only_orRaise _ rfl) fun page => ?_))
          fun reminded => ?_
        · exact ⟨trivial, fun _ => trivial⟩
        · cases reminded with
          | true => exact compositional.done _
          | false => exact safe_enqueue compositional auxiliary escalate _ _ _ _ _ _ (enqueue ..)

end Jobs

theorem only_requestOfCompany (identity : AuthenticatedIdentity) (requestId : UUID) :
    (requestOfCompany identity requestId).Only Auxiliary := by
  refine Only.bind (only_orNotFound _ rfl) fun record => ?_
  dsimp only
  split <;> trivial

theorem only_updateRequest_of {allowed : Call → Prop} (auxiliary : ∀ request, Auxiliary request → allowed request)
    (identity : AuthenticatedIdentity) (requestId : UUID) (title description department : Option String)
    (expectedVersion : Nat)
    (edit : allowed (.query (.updateEditableFields requestId expectedVersion title description department))) :
    (Services.updateRequest identity requestId title description department expectedVersion).Only allowed := by
  refine Only.bind ((only_requestOfCompany ..).mono auxiliary) fun record => ?_
  refine Only.bind ((only_authorize ..).mono auxiliary) fun permitted => ?_
  cases permitted with
  | error error => trivial
  | ok _ => exact Only.bind (only_ofExcept _) fun _ => only_orTranslate _ edit

theorem only_updateRequest (identity : AuthenticatedIdentity) (requestId : UUID)
    (title description department : Option String) (expectedVersion : Nat) :
    (Services.updateRequest identity requestId title description department expectedVersion).Only RequestCall :=
  only_updateRequest_of (fun _ => Auxiliary.requestCall) identity requestId title description department expectedVersion
    trivial

theorem only_withdrawRequest_of {allowed : Call → Prop} (auxiliary : ∀ request, Auxiliary request → allowed request)
    (identity : AuthenticatedIdentity) (requestId : UUID) (expectedVersion : Nat)
    (delete : allowed (.query (.softDelete requestId expectedVersion identity.userId)))
    (report : allowed (.query (.recordEvent .requestWithdrawn (some identity.userId) (some requestId) none none))) :
    (Services.withdrawRequest identity requestId expectedVersion).Only allowed := by
  refine Only.bind ((only_requestOfCompany ..).mono auxiliary) fun record => ?_
  refine Only.bind ((only_authorize ..).mono auxiliary) fun permitted => ?_
  cases permitted with
  | error error => trivial
  | ok _ => exact Only.bind (only_orTranslate _ delete) fun _ => Only.bind (only_orTranslate _ report) fun _ => trivial

theorem only_withdrawRequest (identity : AuthenticatedIdentity) (requestId : UUID) (expectedVersion : Nat) :
    (Services.withdrawRequest identity requestId expectedVersion).Only RequestCall :=
  only_withdrawRequest_of (fun _ => Auxiliary.requestCall) identity requestId expectedVersion trivial trivial

theorem only_fetchDepartmentApprovers (definition : WorkflowDefinition) (requester : ProfileRecord) (companyId : UUID) :
    (fetchDepartmentApproversIfNeeded definition requester companyId).Only Auxiliary := by
  unfold fetchDepartmentApproversIfNeeded
  split
  · trivial
  · exact Only.bind (only_orTranslate _ rfl) fun _ => trivial

theorem only_createRequest (identity : AuthenticatedIdentity) (input : RequestCreate) :
    (Services.createRequest identity input).Only RequestCall := by
  refine Only.bind (only_ofExcept input.validate) fun payload => ?_
  refine Only.bind (only_orTranslate _ rfl) fun candidates => ?_
  refine Only.bind (only_engineOrTranslate _) fun definition => ?_
  refine Only.bind (only_orNotFound _ rfl) fun requester => ?_
  refine Only.bind ((only_fetchDepartmentApprovers ..).mono fun _ => Auxiliary.requestCall) fun approvers => ?_
  · refine Only.bind (only_engineOrRaise _) fun plan => ?_
    refine Only.bind ?_ fun updatedRequest => ?_
    · refine Transaction.Only.enact ?_ (fun _ member => absurd member List.not_mem_nil) (fun _ => rfl) rfl
      refine Transaction.Only.bind (Transaction.only_ofProgram (only_orTranslate _ trivial)) fun createdRequest => ?_
      refine Transaction.Only.bind (Transaction.only_registerCompensation (only_compensation _ trivial)) fun _ => ?_
      refine Transaction.Only.bind (Transaction.only_ofProgram (only_orTranslate _ trivial)) fun createdStage => ?_
      refine Transaction.Only.bind (Transaction.only_ofProgram (only_orTranslate _ trivial)) fun updatedRequest => ?_
      exact Transaction.Only.bind (Transaction.only_ofProgram (only_orTranslate _ trivial)) fun _ => trivial
    · split
      · refine Only.bind ?_ fun _ => trivial
        exact (only_createAndDispatch ..).mono fun _ => Auxiliary.requestCall
      · trivial

theorem only_listPendingApprovals (identity : AuthenticatedIdentity) (page : Page) :
    (listPendingApprovals identity page).Only Auxiliary := by
  unfold listPendingApprovals
  split
  · trivial
  · exact only_orTranslate _ rfl

theorem only_getRequest (identity : AuthenticatedIdentity) (requestId : UUID) :
    (Services.getRequest identity requestId).Only Auxiliary := by
  refine Only.bind (only_requestOfCompany ..) fun record => ?_
  refine Only.bind ?_ fun assigned => ?_
  · unfold isAssignedToAnyStage
    split
    · trivial
    · exact Only.bind (only_orRaise _ rfl) fun _ => trivial
  · refine Only.bind (only_authorize ..) fun permitted => ?_
    cases permitted <;> trivial

theorem only_inboxItems (identity : AuthenticatedIdentity) (known : List (UUID × RequestRecord))
    (stages : List WorkflowStageRecord) : (inboxItems identity known stages).Only Auxiliary := by
  induction stages generalizing known with
  | nil => trivial
  | cons stage rest recurse =>
      unfold inboxItems
      split
      · exact Only.bind (recurse known) fun _ => trivial
      · exact Only.bind (only_getRequest ..) fun _ => Only.bind (recurse _) fun _ => trivial

theorem only_listInbox (identity : AuthenticatedIdentity) (page : Page) :
    (Api.listInbox identity page).Only Auxiliary :=
  Only.bind (only_listPendingApprovals identity page) fun _ => Only.bind (only_inboxItems ..) fun _ => trivial

theorem only_getApprovalEligibility (identity : AuthenticatedIdentity) (requestId : UUID) :
    (Api.getApprovalEligibility identity requestId).Only Auxiliary := by
  unfold Api.getApprovalEligibility
  split
  · trivial
  · refine Only.bind (only_listPendingApprovals identity _) fun result => ?_
    split <;> trivial

end AutomationHub.System
