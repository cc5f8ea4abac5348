import AutomationHub.Database.Repositories

/-!
The dashboard figures of a company, taken in one state of the database.
-/

set_option autoImplicit false

namespace AutomationHub.Analytics

open Foundation Model Database

/-- What a figure is restricted to. -/
structure Scope where
  companyId : UUID
  department : Option String
  requestType : Option String
  createdAfter : Option Datetime
  createdBefore : Option Datetime

/-- The figures of all time. -/
def Scope.Undated (scope : Scope) : Prop :=
  scope.createdAfter = none ∧ scope.createdBefore = none

inductive AnalyticsError where
  | invalidTimeRange (createdAfter createdBefore : Datetime)
  | engine (error : EngineError)
deriving DecidableEq

def validateDateRange (createdAfter createdBefore : Option Datetime) : Except AnalyticsError Unit :=
  match createdAfter, createdBefore with
  | some createdAfter, some createdBefore =>
      if createdBefore < createdAfter then .error (.invalidTimeRange createdAfter createdBefore) else .ok ()
  | _, _ => .ok ()

/-- Counts of requests by status; a status without requests is absent. -/
structure StatusBreakdown where
  counts : List (RequestStatus × Nat)
  total : Nat
deriving DecidableEq

section Metrics

def average (values : List ℚ) : Option ℚ :=
  if values.isEmpty then none else some (values.sum / values.length)

def totalRequests (counts : List (RequestStatus × Nat)) : Nat :=
  (counts.map Prod.snd).sum

def activeStatuses : List RequestStatus := [.pending, .inReview]

def activeRequests (counts : List (RequestStatus × Nat)) : Nat :=
  ((counts.filter fun entry => activeStatuses.contains entry.1).map Prod.snd).sum

def completedRequests (counts : List (RequestStatus × Nat)) : Nat :=
  (counts.lookup .completed).getD 0

def rejectedRequests (counts : List (RequestStatus × Nat)) : Nat :=
  (counts.lookup .rejected).getD 0

def completionRate (completedCount rejectedCount : Nat) : Option ℚ :=
  if completedCount + rejectedCount = 0 then none else some (completedCount / (completedCount + rejectedCount : Nat))

def complianceRate (inSlaCount breachedCount : Nat) : Option ℚ :=
  if inSlaCount + breachedCount = 0 then none else some (inSlaCount / (inSlaCount + breachedCount : Nat))

def secondsBetween (start finish : Datetime) : ℚ :=
  ((finish : ℚ) - start) / 1000000

end Metrics

section Aggregates

/-- The `where` clause that the functions share, but for the company. -/
def Scope.covers (scope : Scope) (request : RequestRecord) : Bool :=
  request.deletedAt.isNone
    && scope.department.all (fun department => request.department == some department)
    && scope.requestType.all (fun requestType => request.requestType == requestType)
    && scope.createdAfter.all (fun instant => instant ≤ request.createdAt)
    && scope.createdBefore.all fun instant => request.createdAt ≤ instant

def Scope.counts (scope : Scope) (request : RequestRecord) : Bool :=
  request.companyId == scope.companyId && scope.covers request

def requestStatuses : List RequestStatus := [.pending, .inReview, .approved, .rejected, .completed]

/-- `analytics_count_requests_by_status`. -/
def countRequestsByStatus (world : World) (scope : Scope) : StatusBreakdown :=
  let counted := world.requests.rows.filter scope.counts
  let counts := requestStatuses.filterMap fun status =>
    let group := counted.filter fun request => request.status == status
    if group.isEmpty then none else some (status, group.length)
  { counts, total := (counts.map Prod.snd).sum }

structure ApprovalThroughput where
  averageDecisionSeconds : Option ℚ
  completedCount : Nat
  rejectedCount : Nat
  completionRate : Option ℚ
deriving DecidableEq

/-- `analytics_approval_throughput`; it takes no department. -/
def approvalThroughput (world : World) (scope : Scope) : ApprovalThroughput :=
  let scope := { scope with department := none }
  let counted := world.requests.rows.filter scope.counts
  let completedCount := (counted.filter fun request => request.status == .completed).length
  let rejectedCount := (counted.filter fun request => request.status == .rejected).length
  let decisions := world.stages.rows.filterMap fun stage =>
    if stage.companyId == scope.companyId && (stage.status == .approved || stage.status == .rejected)
        && (world.requests.find? stage.requestId).any scope.covers then
      stage.decidedAt.map fun decidedAt => secondsBetween stage.createdAt decidedAt
    else none
  { averageDecisionSeconds := average decisions, completedCount, rejectedCount,
    completionRate := Analytics.completionRate completedCount rejectedCount }

end Aggregates

structure ApprovalMetrics where
  throughput : ApprovalThroughput
  averageStageDurationSeconds : Option ℚ
  approvalLatencySeconds : Option ℚ
  escalationCount : Option Nat
  reminderCount : Option Nat
deriving DecidableEq

structure DashboardMetrics where
  statusBreakdown : StatusBreakdown
  totalRequests : Nat
  activeRequests : Nat
  completedRequests : Nat
  rejectedRequests : Nat
  approvalMetrics : ApprovalMetrics
deriving DecidableEq

def countEscalations (world : World) (scope : Scope) : Nat :=
  (paginate (world.auditLogsListed scope.companyId
    { actorId := none, action := some AuditAction.stageEscalated.value, createdAfter := scope.createdAfter,
      createdBefore := scope.createdBefore }) (Page.first 1 (by decide) one_le_maxPageSize)).totalRecords

def computeApprovalMetrics (world : World) (scope : Scope) : ApprovalMetrics :=
  let breakdown := countRequestsByStatus world scope
  let completedCount := completedRequests breakdown.counts
  let rejectedCount := rejectedRequests breakdown.counts
  let averageDecisionSeconds :=
    if scope.department.isNone then (approvalThroughput world scope).averageDecisionSeconds else none
  let escalationCount :=
    if scope.department.isNone && scope.requestType.isNone then some (countEscalations world scope) else none
  { throughput :=
      { averageDecisionSeconds, completedCount, rejectedCount,
        completionRate := completionRate completedCount rejectedCount },
    averageStageDurationSeconds := averageDecisionSeconds, approvalLatencySeconds := averageDecisionSeconds,
    escalationCount, reminderCount := none }

def getDashboardMetrics (world : World) (scope : Scope) : Except AnalyticsError DashboardMetrics := do
  validateDateRange scope.createdAfter scope.createdBefore
  let statusBreakdown := countRequestsByStatus world scope
  return {
    statusBreakdown,
    totalRequests := totalRequests statusBreakdown.counts,
    activeRequests := activeRequests statusBreakdown.counts,
    completedRequests := completedRequests statusBreakdown.counts,
    rejectedRequests := rejectedRequests statusBreakdown.counts,
    approvalMetrics := computeApprovalMetrics world scope }

end AutomationHub.Analytics
