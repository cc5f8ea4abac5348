import AutomationHub.Analytics.AnalyticsEngine
import AutomationHub.Services.ApprovalService
import AutomationHub.Services.RequestService

/-!
The dashboard of a caller, assembled from what the services answer in one state of the database.
-/

set_option autoImplicit false

namespace AutomationHub.Services

open Foundation Model Database Auth Analytics

theorem five_le_maxPageSize : 5 ≤ maxPageSize := by decide

theorem one_le_five : 1 ≤ 5 := by decide

structure DashboardSummary where
  openRequestsCount : Nat
  pendingApprovalsCount : Nat
  unreadNotificationsCount : Nat
  recentRequests : List RequestRecord
  statusBreakdown : Option StatusBreakdown
  approvalThroughput : Option ApprovalThroughput
deriving DecidableEq

section AnalyticsService

def analyticsRoles : List UserRole := [.approver, .admin]

def requireAnalyticsAccess (identity : AuthenticatedIdentity) : Except AppError Unit :=
  if analyticsRoles.contains identity.role then .ok ()
  else .error (translateAuthError (.roleNotPermitted identity.role analyticsRoles))

/-- What the dashboard asks the analytics about: everything in the company of the caller. -/
def companyFigures (identity : AuthenticatedIdentity) : Scope :=
  { companyId := identity.companyId, department := none, requestType := none, createdAfter := none,
    createdBefore := none }

def getStatusBreakdown (identity : AuthenticatedIdentity) (world : World) : Except AppError StatusBreakdown := do
  requireAnalyticsAccess identity
  return countRequestsByStatus world (companyFigures identity)

def getApprovalThroughput (identity : AuthenticatedIdentity) (world : World) : Except AppError ApprovalThroughput := do
  requireAnalyticsAccess identity
  return approvalThroughput world (companyFigures identity)

end AnalyticsService

/-- The number of unread notifications of the caller that are not archived. -/
def getUnreadCount (identity : AuthenticatedIdentity) (world : World) : Nat :=
  (world.notifications.rows.filter fun notification =>
    notification.recipientId == identity.userId && !notification.isRead && notification.archivedAt.isNone).length

/-- The page of the caller's requests that the dashboard asks for. -/
def recentPage : Page := Page.first 5 one_le_five five_le_maxPageSize

/-- The page of the approvals queue that the dashboard asks for, to learn how long the queue is. -/
def queuePage : Page := Page.first 1 one_le_one_row one_le_maxPageSize

/-- `get_dashboard_summary`; the first call that failed, in the order in which the results are awaited, fails it. -/
def getDashboardSummary (identity : AuthenticatedIdentity) (world : World) : Except AppError DashboardSummary := do
  let isApproverOrAdmin := [UserRole.approver, .admin].contains identity.role
  let recent ← ((listRequests identity none none none recentPage).run environment world).1
  let unreadCount := getUnreadCount identity world
  let pendingApprovalsCount ←
    if isApproverOrAdmin then
      ((listPendingApprovals identity queuePage).run environment world).1.map PagedResult.totalRecords
    else .ok 0
  let statusBreakdown ← if isApproverOrAdmin then (getStatusBreakdown identity world).map some else .ok none
  let approvalThroughput ← if isApproverOrAdmin then (getApprovalThroughput identity world).map some else .ok none
  return { openRequestsCount := recent.totalRecords, pendingApprovalsCount,
           unreadNotificationsCount := unreadCount, recentRequests := recent.items, statusBreakdown, approvalThroughput }

end AutomationHub.Services
