import AutomationHub.Analytics.OperationalEngine

/-!
The reports on delays and bottlenecks of a company, taken in one state of the database.
-/

set_option autoImplicit false

namespace AutomationHub.Analytics

open Foundation Model Database Workflow

section Grouping

/-- The values under each key, the keys in the order in which they first occur. -/
def grouped {β : Type} (entries : List (String × β)) : List (String × List β) :=
  entries.foldl (fun groups entry =>
    if groups.any fun group => group.1 == entry.1 then
      groups.map fun group => if group.1 == entry.1 then (group.1, group.2 ++ [entry.2]) else group
    else groups ++ [(entry.1, [entry.2])]) []

def median (values : List ℚ) : Option ℚ :=
  let sorted := orderBy (fun first second => first ≤ second) values
  if sorted.isEmpty then none
  else if sorted.length % 2 = 1 then sorted[sorted.length / 2]?
  else do
    let below ← sorted[sorted.length / 2 - 1]?
    let above ← sorted[sorted.length / 2]?
    return (below + above) / 2

/-- Descending, with what is absent last. -/
def descending {β : Type} (figure : β → Option ℚ) (rows : List β) : List β :=
  orderBy (fun first second => (!(figure first).isNone && (figure second).isNone)
    || ((figure first).isNone == (figure second).isNone && (figure second).getD 0 ≤ (figure first).getD 0)) rows

structure DurationBucket where
  key : String
  averageSeconds : Option ℚ
  count : Nat
deriving DecidableEq

def durationBuckets (stages : List WorkflowStageRecord) (keyOf : WorkflowStageRecord → String) : List DurationBucket :=
  let durations := stages.filterMap fun stage =>
    stage.decidedAt.map fun decidedAt => (keyOf stage, secondsBetween stage.createdAt decidedAt)
  descending DurationBucket.averageSeconds ((grouped durations).map fun group =>
    { key := group.1, averageSeconds := average group.2, count := group.2.length })

structure CountBucket where
  key : String
  count : Nat
deriving DecidableEq

structure RejectionBucket where
  key : String
  decidedCount : Nat
  rejectedCount : Nat
  rejectionRate : Option ℚ
deriving DecidableEq

def rejectionBucket (group : String × List Bool) : RejectionBucket :=
  let rejectedCount := (group.2.filter id).length
  { key := group.1, decidedCount := group.2.length, rejectedCount,
    rejectionRate := if group.2.isEmpty then none else some (rejectedCount / group.2.length) }

end Grouping

structure UserMetrics where
  userId : UUID
  fullName : String
  role : UserRole
  decisionsApproved : Nat
  decisionsRejected : Nat
  pendingAssignedCount : Nat
  averageDecisionSeconds : Option ℚ
deriving DecidableEq

def fetchAllAudit (world : World) (companyId : UUID) (action : AuditAction) : List AuditLogRecord :=
  fetchAll (world.auditLogsListed companyId
    { actorId := none, action := some action.value, createdAfter := none, createdBefore := none })

/-- `get_workload_summary`, given the pending stages. -/
def getWorkloadSummary (world : World) (companyId : UUID) (department : Option String)
    (pendingStages : List WorkflowStageRecord) : List UserMetrics :=
  let profiles := fetchAll (world.profilesByRole .approver companyId department)
    ++ fetchAll (world.profilesByRole .admin companyId department)
  let approvedEntries := fetchAllAudit world companyId .stageApproved
  let rejectedEntries := fetchAllAudit world companyId .stageRejected
  profiles.map fun profile =>
    { userId := profile.id, fullName := profile.fullName, role := profile.role,
      decisionsApproved := (approvedEntries.filter fun entry => entry.actorId == some profile.id).length,
      decisionsRejected := (rejectedEntries.filter fun entry => entry.actorId == some profile.id).length,
      pendingAssignedCount := (pendingStages.filter fun stage => stage.assignedTo == some profile.id).length,
      averageDecisionSeconds := none }

/-- The first age of each request. -/
def firstPerRequest (ages : List PendingApprovalAge) : List PendingApprovalAge :=
  ages.foldl (fun kept age => if kept.any fun other => other.requestId == age.requestId then kept else kept ++ [age]) []

def departmentKey (contexts : Contexts) (stage : WorkflowStageRecord) : String :=
  match (contexts.requestsById.lookup stage.requestId).bind RequestRecord.department with
  | none => "unspecified"
  | some department => if department = "" then "unspecified" else department

def workflowKey (contexts : Contexts) (stage : WorkflowStageRecord) : String :=
  (contexts.requestsById.lookup stage.requestId).elim "" RequestRecord.requestType

structure ApprovalDelayReport where
  longestPending : List PendingApprovalAge
  oldestPendingRequests : List PendingApprovalAge
  averageApprovalSeconds : Option ℚ
  medianApprovalSeconds : Option ℚ
  durationByStage : List DurationBucket
  durationByDepartment : List DurationBucket
  durationByWorkflow : List DurationBucket
deriving DecidableEq

/-- `get_approval_delays`, which reads the clock as `get_sla_metrics` does. -/
def getApprovalDelays (world : World) (viewer : Option UUID) (scope : Scope) (limit : Nat) (now cutoff : Datetime) :
    Except AnalyticsError ApprovalDelayReport := do
  validateDateRange scope.createdAfter scope.createdBefore
  let contexts := slaContexts world viewer scope cutoff
  let ages ← pendingAges world viewer none scope now cutoff
  let requestCreatedAt := fun (age : PendingApprovalAge) =>
    (contexts.requestsById.lookup age.requestId).elim 0 RequestRecord.createdAt
  let decidedScoped := filterDecidedScope scope contexts (fetchDecidedStages world scope)
  let durations := decidedScoped.filterMap fun stage =>
    stage.decidedAt.map fun decidedAt => secondsBetween stage.createdAt decidedAt
  return {
    longestPending := (orderBy (fun first second => second.ageHours ≤ first.ageHours) ages).take limit,
    oldestPendingRequests :=
      (orderBy (fun first second => requestCreatedAt first ≤ requestCreatedAt second) (firstPerRequest ages)).take limit,
    averageApprovalSeconds := average durations,
    medianApprovalSeconds := median durations,
    durationByStage := durationBuckets decidedScoped WorkflowStageRecord.stageName,
    durationByDepartment := durationBuckets decidedScoped (departmentKey contexts),
    durationByWorkflow := durationBuckets decidedScoped (workflowKey contexts) }

structure BottleneckReport where
  slowestStages : List DurationBucket
  slowestWorkflows : List DurationBucket
  departmentsCausingDelay : List DurationBucket
  approverQueueDepth : List UserMetrics
  frequentlyOverdueStages : List CountBucket
  rejectionHotspots : List RejectionBucket
deriving DecidableEq

def getBottlenecks (world : World) (viewer : Option UUID) (scope : Scope) (limit : Nat) (now cutoff : Datetime) :
    Except AnalyticsError BottleneckReport := do
  validateDateRange scope.createdAfter scope.createdBefore
  let pendingStages := fetchAllPendingStages world scope.companyId cutoff
  let contexts := slaContexts world viewer scope cutoff
  let workload := getWorkloadSummary world scope.companyId scope.department pendingStages
  let ages ← pendingAges world viewer none scope now cutoff
  let decidedScoped := filterDecidedScope scope contexts (fetchDecidedStages world scope)
  let overdueNames := (ages.filter PendingApprovalAge.isOverdue).map fun age => (age.stageName, ())
  let overdueCounts := (grouped overdueNames).map fun group => { key := group.1, count := group.2.length : CountBucket }
  let outcomes := decidedScoped.map fun stage => (stage.stageName, stage.status == .rejected)
  return {
    slowestStages := (durationBuckets decidedScoped WorkflowStageRecord.stageName).take limit,
    slowestWorkflows := (durationBuckets decidedScoped (workflowKey contexts)).take limit,
    departmentsCausingDelay := (durationBuckets decidedScoped (departmentKey contexts)).take limit,
    approverQueueDepth :=
      (orderBy (fun first second => second.pendingAssignedCount ≤ first.pendingAssignedCount) workload).take limit,
    frequentlyOverdueStages := (orderBy (fun first second => second.count ≤ first.count) overdueCounts).take limit,
    rejectionHotspots := (descending RejectionBucket.rejectionRate ((grouped outcomes).map rejectionBucket)).take limit }

end AutomationHub.Analytics
