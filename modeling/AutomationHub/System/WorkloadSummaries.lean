import AutomationHub.Analytics.Workload
import AutomationHub.System.Operations

/-!
The workload summary of a company against the metrics of each user.
-/

set_option autoImplicit false

namespace AutomationHub.System

open Foundation Model Database Analytics

section Agreement

variable {world : World} {companyId : UUID} {department : Option String}

/-- A user whom the summary is to report. -/
def ToReport (world : World) (companyId : UUID) (department : Option String) (profile : ProfileRecord) : Prop :=
  profile ∈ world.profiles.rows ∧ (profile.role = .approver ∨ profile.role = .admin) ∧ profile.companyId = companyId ∧
    (∀ wanted, department = some wanted → profile.department = some wanted) ∧ profile.deletedAt = none

/-- One entry for each user to report, equal to the metrics of that user, whoever fetched the pending stages. -/
structure SummaryAgrees (world : World) (companyId : UUID) (department : Option String)
    (ownCutoff operationalCutoff : Datetime) : Prop where
  once : ((AnalyticsEngine.getWorkloadSummary world companyId department none ownCutoff).map UserMetrics.userId).Nodup
  complete : ∀ userId,
    userId ∈ (AnalyticsEngine.getWorkloadSummary world companyId department none ownCutoff).map UserMetrics.userId ↔
      ∃ profile, ToReport world companyId department profile ∧ profile.id = userId
  exact_ : ∀ metrics ∈ AnalyticsEngine.getWorkloadSummary world companyId department none ownCutoff,
    AnalyticsEngine.getUserMetrics world metrics.userId companyId = .ok metrics
  passed : AnalyticsEngine.getWorkloadSummary world companyId department none ownCutoff =
    AnalyticsEngine.getWorkloadSummary world companyId department
      (some (fetchAllPendingStages world companyId operationalCutoff)) ownCutoff

theorem mem_profilesByRole {role : UserRole} {profile : ProfileRecord} :
    profile ∈ world.profilesByRole role companyId department ↔ profile ∈ world.profiles.rows ∧ profile.role = role ∧
      profile.companyId = companyId ∧ (∀ wanted, department = some wanted → profile.department = some wanted) ∧
        profile.deletedAt = none := by
  cases department with
  | none => simp [World.profilesByRole, and_assoc]
  | some wanted => simp [World.profilesByRole, and_assoc]

theorem length_filter_orderBy {α : Type} (before : α → α → Bool) (rows : List α) (selects : α → Bool) :
    ((Database.orderBy before rows).filter selects).length = (rows.filter selects).length :=
  ((List.perm_insertionSort _ rows).filter selects).length_eq

/-- The pending stages of the company that wait for the user. -/
def waitingFor (world : World) (companyId userId : UUID) : List WorkflowStageRecord :=
  world.stages.rows.filter fun stage =>
    stage.companyId == companyId && stage.status == .pending && stage.assignedTo == some userId

theorem pendingForApprover_length (userId : UUID) :
    (world.pendingForApprover companyId (some userId) none).length = (waitingFor world companyId userId).length := by
  simp [World.pendingForApprover, waitingFor]

theorem count_pendingStages (userId : UUID) (cutoff : Datetime) :
    countOf (byAssignee (fetchAllPendingStages world companyId cutoff)) userId =
      ((waitingFor world companyId userId).filter fun stage => decide (stage.createdAt ≤ cutoff)).length := by
  rw [byAssignee, countOf_aggregate, count_filterMap, fetchAllPendingStages, fetchAll_eq, World.overdueStages,
    length_filter_orderBy, waitingFor, List.filter_filter, List.filter_filter]
  congr 2
  funext stage
  ac_rfl

theorem count_pendingStages_eq_iff (userId : UUID) (cutoff : Datetime) :
    countOf (byAssignee (fetchAllPendingStages world companyId cutoff)) userId =
        (world.pendingForApprover companyId (some userId) none).length ↔
      ∀ stage ∈ waitingFor world companyId userId, stage.createdAt ≤ cutoff := by
  rw [count_pendingStages, pendingForApprover_length, List.length_filter_eq_length_iff]
  simp only [decide_eq_true_eq]

theorem count_audit (userId : UUID) (action : AuditAction) :
    countOf (byActor (fetchAllAudit world companyId action)) userId =
      AnalyticsEngine.countAudit world companyId userId action := by
  rw [byActor, countOf_aggregate, count_filterMap, fetchAllAudit, fetchAll_eq, World.auditLogsListed, World.newestFirst,
    length_filter_orderBy, List.filter_filter, AnalyticsEngine.countAudit, paginate, World.auditLogsListed,
    World.length_newestFirst]
  congr 2
  funext entry
  simp only [AuditFilter.admits, Option.all_none, Option.all_some, Bool.true_and, Bool.and_true]
  ac_rfl

/-- The profiles that the summary reports, in its order. -/
def reportedProfiles (world : World) (companyId : UUID) (department : Option String) : List ProfileRecord :=
  world.profilesByRole .approver companyId department ++ world.profilesByRole .admin companyId department

theorem mem_reportedProfiles {profile : ProfileRecord} :
    profile ∈ reportedProfiles world companyId department ↔ ToReport world companyId department profile := by
  rw [reportedProfiles, List.mem_append, mem_profilesByRole, mem_profilesByRole, ToReport]
  tauto

theorem reportedProfiles_nodup (world : World) (companyId : UUID) (department : Option String) :
    ((reportedProfiles world companyId department).map ProfileRecord.id).Nodup := by
  have rows : world.profiles.rows.Nodup := List.Nodup.of_map _ world.profiles.distinct
  have ofRole : ∀ role, (world.profilesByRole role companyId department).Nodup := fun role =>
    (List.perm_insertionSort _ _).nodup_iff.mpr (rows.filter _)
  have apart : ∀ left ∈ world.profilesByRole .approver companyId department,
      ∀ right ∈ world.profilesByRole .admin companyId department, left ≠ right := by
    intro left approver right admin same
    have first := (mem_profilesByRole.mp approver).2.1
    have second := (mem_profilesByRole.mp admin).2.1
    rw [same, second] at first
    cases first
  apply List.Nodup.map_on _ (List.nodup_append.mpr ⟨ofRole _, ofRole _, apart⟩)
  intro left first right second same
  exact world.profiles.eq_of_key_eq (mem_reportedProfiles.mp first).1 (mem_reportedProfiles.mp second).1 same

/-- The summary's entry of a profile. -/
def entryOf (world : World) (companyId : UUID) (pendingStages : List WorkflowStageRecord) (profile : ProfileRecord) :
    UserMetrics :=
  { userId := profile.id, fullName := profile.fullName, role := profile.role,
    decisionsApproved := countOf (byActor (fetchAllAudit world companyId .stageApproved)) profile.id,
    decisionsRejected := countOf (byActor (fetchAllAudit world companyId .stageRejected)) profile.id,
    pendingAssignedCount := countOf (byAssignee pendingStages) profile.id, averageDecisionSeconds := none }

theorem summary_eq (pendingStages : Option (List WorkflowStageRecord)) (cutoff : Datetime) :
    AnalyticsEngine.getWorkloadSummary world companyId department pendingStages cutoff =
      (reportedProfiles world companyId department).map
        (entryOf world companyId (pendingStages.getD (fetchAllPendingStages world companyId cutoff))) := by
  rw [AnalyticsEngine.getWorkloadSummary, fetchAll_eq, fetchAll_eq]
  rfl

theorem getUserMetrics_eq_iff {profile : ProfileRecord} (reported : ToReport world companyId department profile)
    (pendingStages : List WorkflowStageRecord) :
    AnalyticsEngine.getUserMetrics world profile.id companyId = .ok (entryOf world companyId pendingStages profile) ↔
      countOf (byAssignee pendingStages) profile.id =
        (world.pendingForApprover companyId (some profile.id) none).length := by
  have found : world.getProfile profile.id = .ok profile := by
    have stored : world.profiles.find? profile.id = some profile := world.profiles.find?_of_mem reported.1
    rw [World.getProfile, getById, stored]
  have company : profile.companyId = companyId := reported.2.2.1
  simp [AnalyticsEngine.getUserMetrics, found, company, entryOf, count_audit, paginate, eq_comm]

/-- The summary has one entry for each user to report, equal to that user's metrics, whoever fetches the pending stages,
exactly if none of the stages waiting for these users was created after the instants that the fetches read from the clock. -/
theorem workload_summary_agrees_iff (world : World) (companyId : UUID) (department : Option String)
    (ownCutoff operationalCutoff : Datetime) :
    SummaryAgrees world companyId department ownCutoff operationalCutoff ↔
      ∀ profile, ToReport world companyId department profile → ∀ stage ∈ waitingFor world companyId profile.id,
        stage.createdAt ≤ ownCutoff ∧ stage.createdAt ≤ operationalCutoff := by
  constructor
  · intro agrees profile reported stage waits
    have listed := mem_reportedProfiles.mpr reported
    have own := agrees.exact_ (entryOf world companyId (fetchAllPendingStages world companyId ownCutoff) profile) (by
      rw [summary_eq]
      exact List.mem_map_of_mem listed)
    have counted := (getUserMetrics_eq_iff reported _).mp own
    have same := agrees.passed
    rw [summary_eq, summary_eq] at same
    have entry := List.map_inj_left.mp same profile listed
    have pending : countOf (byAssignee (fetchAllPendingStages world companyId ownCutoff)) profile.id =
        countOf (byAssignee (fetchAllPendingStages world companyId operationalCutoff)) profile.id :=
      congrArg UserMetrics.pendingAssignedCount entry
    have early := (count_pendingStages_eq_iff profile.id ownCutoff).mp counted
    have operational := (count_pendingStages_eq_iff profile.id operationalCutoff).mp (pending.symm.trans counted)
    exact ⟨early stage waits, operational stage waits⟩
  · intro early
    have counted : ∀ profile, ToReport world companyId department profile →
        countOf (byAssignee (fetchAllPendingStages world companyId ownCutoff)) profile.id =
            (world.pendingForApprover companyId (some profile.id) none).length ∧
          countOf (byAssignee (fetchAllPendingStages world companyId operationalCutoff)) profile.id =
            (world.pendingForApprover companyId (some profile.id) none).length := by
      intro profile reported
      constructor
      · exact (count_pendingStages_eq_iff profile.id ownCutoff).mpr fun stage waits => (early profile reported stage waits).1
      · exact (count_pendingStages_eq_iff profile.id operationalCutoff).mpr fun stage waits =>
          (early profile reported stage waits).2
    have ids : ∀ pendingStages, ((reportedProfiles world companyId department).map
        (entryOf world companyId pendingStages)).map UserMetrics.userId =
          (reportedProfiles world companyId department).map ProfileRecord.id := by
      intro pendingStages
      rw [List.map_map]
      rfl
    constructor
    · rw [summary_eq, ids]
      exact reportedProfiles_nodup world companyId department
    · intro userId
      rw [summary_eq, ids, List.mem_map]
      simp only [mem_reportedProfiles]
    · intro metrics listed
      rw [summary_eq] at listed
      obtain ⟨profile, member, rfl⟩ := List.mem_map.mp listed
      have reported := mem_reportedProfiles.mp member
      exact (getUserMetrics_eq_iff reported _).mpr (counted profile reported).1
    · rw [summary_eq, summary_eq]
      apply List.map_congr_left
      intro profile listed
      have both := counted profile (mem_reportedProfiles.mp listed)
      simp only [entryOf, Option.getD_none, Option.getD_some, both.1, both.2]

end Agreement

def idleApprover : UserMetrics where
  userId := 2
  fullName := "Profile"
  role := .approver
  decisionsApproved := 0
  decisionsRejected := 0
  pendingAssignedCount := 0
  averageDecisionSeconds := none

/-- A stage that the database created after the instant that the server reads from its clock is missing. -/
theorem workload_summary_misses_stage : ¬SummaryAgrees (hubWithRequest "travel") 9 none 0 0 := by
  intro agrees
  have listed : idleApprover ∈ AnalyticsEngine.getWorkloadSummary (hubWithRequest "travel") 9 none none 0 := by
    decide +kernel
  have counted : AnalyticsEngine.getUserMetrics (hubWithRequest "travel") 2 9 =
      .ok { idleApprover with pendingAssignedCount := 1 } := by decide +kernel
  have same := (agrees.exact_ idleApprover listed).symm.trans counted
  exact absurd same (by decide)

end AutomationHub.System
