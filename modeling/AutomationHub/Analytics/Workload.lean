import AutomationHub.Analytics.DelayReports
import AutomationHub.Analytics.OperationalProperties

/-!
The workload of the approvers and administrators of a company: the summary of all of
them, which groups what it fetched in memory, and the metrics of one of them, which
the database counts.
-/

set_option autoImplicit false

namespace AutomationHub.Analytics

open Foundation Model Database

section Counting

variable {κ : Type} [DecidableEq κ]

/-- `result[key] = result.get(key, 0) + 1`. -/
def bump : List (κ × Nat) → κ → List (κ × Nat)
  | [], wanted => [(wanted, 1)]
  | (present, count) :: rest, wanted =>
      if present = wanted then (present, count + 1) :: rest else (present, count) :: bump rest wanted

/-- `CountAggregator.aggregate`. -/
def aggregate (keys : List κ) : List (κ × Nat) :=
  keys.foldl bump []

def countOf (counts : List (κ × Nat)) (wanted : κ) : Nat :=
  (counts.lookup wanted).getD 0

theorem countOf_bump (counts : List (κ × Nat)) (key wanted : κ) :
    countOf (bump counts key) wanted = countOf counts wanted + if key = wanted then 1 else 0 := by
  induction counts with
  | nil =>
      by_cases same : key = wanted
      · simp [bump, countOf, same]
      · simp [bump, countOf, same, List.lookup_cons, beq_eq_false_iff_ne.mpr (Ne.symm same)]
  | cons entry rest ih =>
      obtain ⟨present, count⟩ := entry
      unfold countOf at ih ⊢
      by_cases found : present = key
      · subst found
        by_cases same : present = wanted
        · simp [bump, same]
        · simp [bump, same, List.lookup_cons, beq_eq_false_iff_ne.mpr (Ne.symm same)]
      · by_cases same : present = wanted
        · subst same
          simp [bump, found, Ne.symm found]
        · simpa [bump, found, List.lookup_cons, beq_eq_false_iff_ne.mpr (Ne.symm same)] using ih

theorem countOf_foldl (keys : List κ) (wanted : κ) :
    ∀ counts, countOf (keys.foldl bump counts) wanted = countOf counts wanted + keys.count wanted := by
  induction keys with
  | nil => exact fun _ => rfl
  | cons key rest ih =>
      intro counts
      rw [List.foldl_cons, ih, countOf_bump, List.count_cons, Nat.add_assoc, Nat.add_comm (List.count _ _)]
      simp only [beq_iff_eq]

theorem countOf_aggregate (keys : List κ) (wanted : κ) : countOf (aggregate keys) wanted = keys.count wanted := by
  rw [aggregate, countOf_foldl]
  exact Nat.zero_add _

theorem count_filterMap {ρ : Type} (field : ρ → Option κ) (rows : List ρ) (wanted : κ) :
    (rows.filterMap field).count wanted = (rows.filter fun row => field row == some wanted).length := by
  induction rows with
  | nil => rfl
  | cons row rest ih =>
      cases present : field row with
      | none => simp [present, ih]
      | some value =>
          by_cases same : value = wanted
          · simp [present, same, ih]
          · simp [present, same, ih]

end Counting

/-- `by_actor`, which leaves out the entries of the system. -/
def byActor (entries : List AuditLogRecord) : List (UUID × Nat) :=
  aggregate (entries.filterMap AuditLogRecord.actorId)

/-- `by_assignee`, which leaves out the stages of a pool. -/
def byAssignee (stages : List WorkflowStageRecord) : List (UUID × Nat) :=
  aggregate (stages.filterMap WorkflowStageRecord.assignedTo)

inductive MetricCalculationError where
  | noProfile (userId : UUID)
deriving DecidableEq

namespace AnalyticsEngine

def countAudit (world : World) (companyId userId : UUID) (action : AuditAction) : Nat :=
  (paginate (world.auditLogsListed companyId
    { actorId := some userId, action := some action.value, createdAfter := none, createdBefore := none })
      (Page.first 1 one_le_one_row one_le_maxPageSize)).totalRecords

def getUserMetrics (world : World) (userId companyId : UUID) : Except MetricCalculationError UserMetrics :=
  match world.getProfile userId with
  | .error _ => .error (.noProfile userId)
  | .ok profile =>
      if profile.companyId != companyId then .error (.noProfile userId)
      else .ok {
        userId := profile.id, fullName := profile.fullName, role := profile.role,
        decisionsApproved := countAudit world companyId userId .stageApproved,
        decisionsRejected := countAudit world companyId userId .stageRejected,
        pendingAssignedCount := (paginate (world.pendingForApprover companyId (some userId) none)
          (Page.first 1 one_le_one_row one_le_maxPageSize)).totalRecords,
        averageDecisionSeconds := none }

/-- `get_workload_summary`; `cutoff` is what its own fetch reads from the clock. -/
def getWorkloadSummary (world : World) (companyId : UUID) (department : Option String)
    (pendingStages : Option (List WorkflowStageRecord)) (cutoff : Datetime) : List UserMetrics :=
  let approvers := fetchAll (world.profilesByRole .approver companyId department)
  let admins := fetchAll (world.profilesByRole .admin companyId department)
  let approvedCounts := byActor (fetchAllAudit world companyId .stageApproved)
  let rejectedCounts := byActor (fetchAllAudit world companyId .stageRejected)
  let pendingCounts := byAssignee (pendingStages.getD (fetchAllPendingStages world companyId cutoff))
  (approvers ++ admins).map fun profile =>
    { userId := profile.id, fullName := profile.fullName, role := profile.role,
      decisionsApproved := countOf approvedCounts profile.id, decisionsRejected := countOf rejectedCounts profile.id,
      pendingAssignedCount := countOf pendingCounts profile.id, averageDecisionSeconds := none }

theorem getWorkloadSummary_eq (world : World) (companyId : UUID) (department : Option String)
    (pendingStages : Option (List WorkflowStageRecord)) (cutoff : Datetime) :
    getWorkloadSummary world companyId department pendingStages cutoff = Analytics.getWorkloadSummary world companyId
      department (pendingStages.getD (fetchAllPendingStages world companyId cutoff)) := by
  simp only [getWorkloadSummary, Analytics.getWorkloadSummary, byActor, byAssignee, countOf_aggregate, count_filterMap]

end AnalyticsEngine

end AutomationHub.Analytics
