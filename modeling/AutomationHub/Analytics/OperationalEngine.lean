import AutomationHub.Analytics.AnalyticsEngine
import AutomationHub.Workflow.Engine

/-!
The SLA figures of a company, taken in one state of the database.
-/

set_option autoImplicit false

namespace AutomationHub.Analytics

open Foundation Model Database Workflow

section Fetching

variable {α : Type}

/-- The pages of a query from the one numbered `index + 1` on. -/
def fetchAllFrom (rows : List α) : (remaining index : Nat) → List α
  | 0, _ => []
  | remaining + 1, index =>
      let result := paginate rows
        { number := index + 1, size := 100, number_pos := Nat.succ_pos index, size_pos := one_le_hundred,
          size_le := hundred_le_maxPageSize }
      if result.items.isEmpty then []
      else if result.totalPages ≤ index + 1 then result.items
      else result.items ++ fetchAllFrom rows remaining (index + 1)

/-- Every page of a query; there are no more pages than rows. -/
def fetchAll (rows : List α) : List α :=
  fetchAllFrom rows (rows.length + 1) 0

end Fetching

/-- The rows that `list_decided` selects. -/
def decidedStages (world : World) (companyId : UUID) (createdAfter createdBefore : Option Datetime) :
    List WorkflowStageRecord :=
  World.newestFirst WorkflowStageRecord.createdAt (world.stages.rows.filter fun stage =>
    stage.companyId == companyId && (stage.status == .approved || stage.status == .rejected)
      && createdAfter.all (fun instant => instant ≤ stage.createdAt)
      && createdBefore.all fun instant => stage.createdAt ≤ instant)

/-- The rows that `list_by_ids` selects for the caller's client. -/
def definitionsByIds (world : World) (viewer : Option UUID) (companyId : UUID) (definitionIds : List UUID) :
    List WorkflowDefinition :=
  world.definitions.rows.filter fun definition =>
    world.definitionVisible viewer definition && definition.companyId == companyId
      && definitionIds.contains definition.id

def idFilterBatchSize : Nat := 50

def fetchAllPendingStages (world : World) (companyId : UUID) (cutoff : Datetime) : List WorkflowStageRecord :=
  fetchAll (world.overdueStages cutoff companyId)

def fetchDecidedStages (world : World) (scope : Scope) : List WorkflowStageRecord :=
  fetchAll (decidedStages world scope.companyId scope.createdAfter scope.createdBefore)

def anyRequest : RequestFilter where
  status := none
  requestType := none
  department := none
  requesterId := none
  requestIds := none
  includeDeleted := false

def fetchCompletedRequests (world : World) (companyId : UUID) : List RequestRecord :=
  fetchAll (world.requestsListed companyId { anyRequest with status := some .completed })

def fetchRequestBatch (world : World) (companyId : UUID) (requestIds : List UUID) : List RequestRecord :=
  fetchAll (world.requestsListed companyId { anyRequest with requestIds := some requestIds, includeDeleted := true })

def bulkRequestsById (world : World) (companyId : UUID) (requestIds : List UUID) : List (UUID × RequestRecord) :=
  let records := (chunked idFilterBatchSize requestIds).flatMap (fetchRequestBatch world companyId)
  records.map fun record => (record.id, record)

def resolveDefinitions (world : World) (viewer : Option UUID) (companyId : UUID) (definitionIds : List UUID) :
    List (UUID × WorkflowDefinition) :=
  let records := (chunked idFilterBatchSize definitionIds).flatMap fun batch =>
    fetchAll (definitionsByIds world viewer companyId batch)
  records.map fun record => (record.id, record)

/-- The requests and the definitions of a number of stages, by id. -/
structure Contexts where
  requestsById : List (UUID × RequestRecord)
  definitionsById : List (UUID × WorkflowDefinition)

def resolveContexts (world : World) (viewer : Option UUID) (companyId : UUID) (stages : List WorkflowStageRecord) :
    Contexts :=
  let requestsById := bulkRequestsById world companyId (stages.map WorkflowStageRecord.requestId).dedup
  let definitionIds := (requestsById.map fun entry => entry.2.workflowDefinitionId).dedup
  { requestsById, definitionsById := resolveDefinitions world viewer companyId definitionIds }

def findStageDefinition (definition : Option WorkflowDefinition) (stageOrder : Nat) : Option StageDefinition :=
  definition.bind fun definition => (definition.definition.stages.filter fun entry => entry.order == stageOrder).head?

def effectiveSlaHours (contexts : Contexts) (slaHoursOverride : Option Hours) (stage : WorkflowStageRecord) :
    Option Hours :=
  match slaHoursOverride with
  | some hours => some hours
  | none =>
      let request := contexts.requestsById.lookup stage.requestId
      let definition := request.bind fun request => contexts.definitionsById.lookup request.workflowDefinitionId
      (findStageDefinition definition stage.stageOrder).map StageDefinition.escalationHours

structure PendingApprovalAge where
  stageId : UUID
  requestId : UUID
  requestTitle : String
  requestType : String
  department : Option String
  stageName : String
  stageOrder : Nat
  assignedTo : Option UUID
  assignedRole : Option UserRole
  createdAt : Datetime
  ageHours : ℚ
  slaHours : Option Hours
  isOverdue : Bool
deriving DecidableEq

/-- Whether a stage has passed its threshold by `now`, if it has one. -/
def isBreached (slaHours : Option Hours) (stage : WorkflowStageRecord) (now : Datetime) : Except AnalyticsError Bool :=
  match slaHours with
  | none => .ok false
  | some hours => (isStageEscalationEligible stage.createdAt hours now).mapError .engine

def pendingApprovalAge (stage : WorkflowStageRecord) (request : RequestRecord) (slaHours : Option Hours)
    (isOverdue : Bool) (now : Datetime) : PendingApprovalAge :=
  { stageId := stage.id, requestId := stage.requestId, requestTitle := request.title,
    requestType := request.requestType, department := request.department, stageName := stage.stageName,
    stageOrder := stage.stageOrder, assignedTo := stage.assignedTo, assignedRole := stage.assignedRole,
    createdAt := stage.createdAt, ageHours := secondsBetween stage.createdAt now / 3600, slaHours, isOverdue }

/-- An age for each stage whose request is known. -/
def buildPendingApprovalAges (contexts : Contexts) (slaHoursOverride : Option Hours) (now : Datetime) :
    List WorkflowStageRecord → Except AnalyticsError (List PendingApprovalAge)
  | [] => .ok []
  | stage :: rest =>
      match contexts.requestsById.lookup stage.requestId with
      | none => buildPendingApprovalAges contexts slaHoursOverride now rest
      | some request => do
          let slaHours := effectiveSlaHours contexts slaHoursOverride stage
          let isOverdue ← isBreached slaHours stage now
          let ages ← buildPendingApprovalAges contexts slaHoursOverride now rest
          return pendingApprovalAge stage request slaHours isOverdue now :: ages

/-- The filter on department and request type. -/
def Scope.includes (scope : Scope) (department : Option String) (requestType : String) : Bool :=
  scope.department.all (fun wanted => department == some wanted)
    && scope.requestType.all fun wanted => requestType == wanted

def filterPendingScope (scope : Scope) (items : List PendingApprovalAge) : List PendingApprovalAge :=
  items.filter fun item => scope.includes item.department item.requestType

def filterDecidedScope (scope : Scope) (contexts : Contexts) (stages : List WorkflowStageRecord) :
    List WorkflowStageRecord :=
  stages.filter fun stage => (contexts.requestsById.lookup stage.requestId).any fun request =>
    scope.includes request.department request.requestType

def scopeRequests (scope : Scope) (requests : List RequestRecord) : List RequestRecord :=
  requests.filter fun request => scope.includes request.department request.requestType
    && scope.createdAfter.all (fun instant => instant ≤ request.createdAt)
    && scope.createdBefore.all fun instant => request.createdAt ≤ instant

/-- How many of the decided stages have a threshold, and how many of these were decided after it. -/
def countBreaches (contexts : Contexts) (slaHoursOverride : Option Hours) :
    List WorkflowStageRecord → Except AnalyticsError (Nat × Nat)
  | [] => .ok (0, 0)
  | stage :: rest =>
      match effectiveSlaHours contexts slaHoursOverride stage, stage.decidedAt with
      | some hours, some decidedAt => do
          let breached ← isBreached (some hours) stage decidedAt
          let (decidedCount, breachCount) ← countBreaches contexts slaHoursOverride rest
          return (decidedCount + 1, if breached then breachCount + 1 else breachCount)
      | _, _ => countBreaches contexts slaHoursOverride rest

structure SLAMetrics where
  slaHoursOverride : Option Hours
  pendingStageCount : Nat
  overdueStageCount : Nat
  overdueRequestCount : Nat
  averageCurrentStageAgeHours : Option ℚ
  decidedStageCount : Nat
  slaBreachesDecided : Nat
  slaCompliancePercentage : Option ℚ
  averageTotalWorkflowDurationSeconds : Option ℚ
  averageApprovalDurationSeconds : Option ℚ
deriving DecidableEq

/-- The pending stages of the company and the decided ones in scope, with what they refer to. -/
def slaContexts (world : World) (viewer : Option UUID) (scope : Scope) (cutoff : Datetime) : Contexts :=
  resolveContexts world viewer scope.companyId
    (fetchAllPendingStages world scope.companyId cutoff ++ fetchDecidedStages world scope)

/-- `pending_ages`. -/
def pendingAges (world : World) (viewer : Option UUID) (slaHoursOverride : Option Hours) (scope : Scope)
    (now cutoff : Datetime) : Except AnalyticsError (List PendingApprovalAge) := do
  let ages ← buildPendingApprovalAges (slaContexts world viewer scope cutoff) slaHoursOverride now
    (fetchAllPendingStages world scope.companyId cutoff)
  return filterPendingScope scope ages

/-- `get_sla_metrics`, which reads the clock at `now` and, for the query of the pending stages, at `cutoff`. -/
def getSlaMetrics (world : World) (viewer : Option UUID) (slaHoursOverride : Option Hours) (scope : Scope)
    (now cutoff : Datetime) : Except AnalyticsError SLAMetrics := do
  validateDateRange scope.createdAfter scope.createdBefore
  let contexts := slaContexts world viewer scope cutoff
  let ages ← pendingAges world viewer slaHoursOverride scope now cutoff
  let overdue := ages.filter PendingApprovalAge.isOverdue
  let decidedScoped := filterDecidedScope scope contexts (fetchDecidedStages world scope)
  let (decidedCount, breachCount) ← countBreaches contexts slaHoursOverride decidedScoped
  let scopedCompleted := scopeRequests scope (fetchCompletedRequests world scope.companyId)
  let durations := scopedCompleted.filterMap fun request =>
    request.completedAt.map fun completedAt => secondsBetween request.createdAt completedAt
  return {
    slaHoursOverride,
    pendingStageCount := ages.length,
    overdueStageCount := overdue.length,
    overdueRequestCount := (overdue.map PendingApprovalAge.requestId).dedup.length,
    averageCurrentStageAgeHours := average (ages.map PendingApprovalAge.ageHours),
    decidedStageCount := decidedCount,
    slaBreachesDecided := breachCount,
    slaCompliancePercentage := complianceRate (decidedCount - breachCount) breachCount,
    averageTotalWorkflowDurationSeconds := average durations,
    averageApprovalDurationSeconds :=
      if scope.department.isNone then (approvalThroughput world scope).averageDecisionSeconds else none }

end AutomationHub.Analytics
