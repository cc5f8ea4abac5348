import AutomationHub.Services.ApprovalService

/-!
The approvals inbox, whether a caller may act on a request, and batches of decisions.
-/

set_option autoImplicit false

namespace AutomationHub.Api

open Foundation Model Database Services Auth

/-- One line of the inbox: the stage with the summary of its request. -/
structure ApprovalInboxItem where
  stageId : UUID
  stageVersion : Nat
  stageOrder : Nat
  stageName : String
  stageStatus : StageStatus
  assignedRole : Option UserRole
  stageCreatedAt : Datetime
  requestId : UUID
  requestTitle : String
  requestType : String
  department : Option String
  requesterId : UUID
  requestStatus : RequestStatus
deriving DecidableEq

def ApprovalInboxItem.of (stage : WorkflowStageRecord) (request : RequestRecord) : ApprovalInboxItem :=
  { stageId := stage.id, stageVersion := stage.version, stageOrder := stage.stageOrder, stageName := stage.stageName,
    stageStatus := stage.status, assignedRole := stage.assignedRole, stageCreatedAt := stage.createdAt,
    requestId := request.id, requestTitle := request.title, requestType := request.requestType,
    department := request.department, requesterId := request.requesterId, requestStatus := request.status }

/-- The items of one page; each request is looked up once. -/
def inboxItems (identity : AuthenticatedIdentity) :
    (requestsById : List (UUID × RequestRecord)) → List WorkflowStageRecord → Service (List ApprovalInboxItem)
  | _, [] => return []
  | requestsById, stage :: rest => do
      match requestsById.lookup stage.requestId with
      | some owningRequest =>
          return .of stage owningRequest :: (← inboxItems identity requestsById rest)
      | none =>
          let owningRequest ← getRequest identity stage.requestId
          return .of stage owningRequest
            :: (← inboxItems identity ((stage.requestId, owningRequest) :: requestsById) rest)

/-- `GET /approvals/inbox`. -/
def listInbox (identity : AuthenticatedIdentity) (page : Page) : Service (PagedResult ApprovalInboxItem) := do
  let result ← listPendingApprovals identity page
  let items ← inboxItems identity [] result.items
  return { items, page := result.page, pageSize := result.pageSize, totalRecords := result.totalRecords }

structure ApprovalEligibility where
  eligible : Bool
  stageId : Option UUID
  expectedVersion : Option Nat
deriving DecidableEq

/-- `GET /requests/{request_id}/approval-eligibility`. -/
def getApprovalEligibility (identity : AuthenticatedIdentity) (requestId : UUID) : Service ApprovalEligibility := do
  if identity.role ≠ .approver ∧ identity.role ≠ .admin then
    return { eligible := false, stageId := none, expectedVersion := none }
  let result ← listPendingApprovals identity (Page.first maxPageSize one_le_maxPageSize (Nat.le_refl maxPageSize))
  match result.items.find? fun stage => stage.requestId == requestId with
  | none => return { eligible := false, stageId := none, expectedVersion := none }
  | some stage => return { eligible := true, stageId := some stage.id, expectedVersion := some stage.version }

/-- The codes with which an item of a batch is answered. -/
inductive ErrorCode where
  | permissionDenied
  | resourceNotFound
  | concurrentUpdate
  | validationError
  | internalError
deriving DecidableEq

def ErrorCode.value : ErrorCode → String
  | .permissionDenied => "PERMISSION_DENIED"
  | .resourceNotFound => "RESOURCE_NOT_FOUND"
  | .concurrentUpdate => "CONCURRENT_UPDATE"
  | .validationError => "VALIDATION_ERROR"
  | .internalError => "INTERNAL_ERROR"

structure BulkDecisionItem where
  stageId : UUID
  expectedVersion : Nat
  decisionNote : Option DecisionNote

structure BulkDecisionResultItem where
  stageId : UUID
  success : Bool
  errorCode : Option ErrorCode
  errorMessage : Option String
deriving DecidableEq

def bulkItemError : AppError → ErrorCode
  | .notFound .. => .resourceNotFound
  | .validation _ => .validationError
  | .permissionDenied _ => .permissionDenied
  | .concurrency _ => .concurrentUpdate
  | _ => .internalError

/-- The result of one item; an exception other than an `EAHError` is not caught. -/
def bulkItemResult (item : BulkDecisionItem) : Except AppError ApprovalOutcome → Except AppError BulkDecisionResultItem
  | .ok _ => .ok { stageId := item.stageId, success := true, errorCode := none, errorMessage := none }
  | .error error =>
      match error.eahMessage with
      | some message =>
          .ok { stageId := item.stageId, success := false, errorCode := some (bulkItemError error),
                errorMessage := some message }
      | none => .error error

/-- The loop over a batch, one call per item. -/
def bulkDecide (decide : BulkDecisionItem → Service ApprovalOutcome) :
    List BulkDecisionItem → Service (List BulkDecisionResultItem)
  | [] => return []
  | item :: rest => do
      let outcome ← (decide item).caught
      let result ← Program.ofExcept (bulkItemResult item outcome)
      return result :: (← bulkDecide decide rest)

/-- `POST /approvals/bulk-approve`. -/
def bulkApprove (identity : AuthenticatedIdentity) (items : List BulkDecisionItem) :
    Service (List BulkDecisionResultItem) :=
  bulkDecide (fun item => approveStage identity item.stageId (some item.expectedVersion) item.decisionNote) items

/-- `POST /approvals/bulk-reject`. -/
def bulkReject (identity : AuthenticatedIdentity) (items : List BulkDecisionItem) :
    Service (List BulkDecisionResultItem) :=
  bulkDecide (fun item => rejectStage identity item.stageId (some item.expectedVersion)
    ((item.decisionNote.map DecisionNote.text).getD "")) items

end AutomationHub.Api
