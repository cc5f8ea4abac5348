import AutomationHub.Foundation.Arrangement
import AutomationHub.Services.DashboardService
import AutomationHub.System.DecisionReplay
import AutomationHub.System.RequestVisibility

/-!
The figures of a dashboard against what its documentation says that they count.
-/

set_option autoImplicit false

namespace AutomationHub.System

open Foundation Model Database Services Auth Workflow Program Table

section Counting

variable {α : Type} (rows : List α) (first second : α → Bool)

/-- Two selections have as many rows as each other exactly if each has as many that the other lacks. -/
theorem length_filter_eq_iff : (rows.filter first).length = (rows.filter second).length ↔
    (rows.filter fun row => first row && !second row).length =
      (rows.filter fun row => second row && !first row).length := by
  have left := List.length_eq_length_filter_add (l := rows.filter first) second
  have right := List.length_eq_length_filter_add (l := rows.filter second) first
  have both : (rows.filter first).filter second = (rows.filter second).filter first := by
    simp only [List.filter_filter, Bool.and_comm]
  have onlyFirst : ((rows.filter first).filter fun row => !second row) =
      rows.filter fun row => first row && !second row := by
    simp only [List.filter_filter, Bool.and_comm]
  have onlySecond : ((rows.filter second).filter fun row => !first row) =
      rows.filter fun row => second row && !first row := by
    simp only [List.filter_filter, Bool.and_comm]
  rw [both, onlyFirst] at left
  rw [onlySecond] at right
  omega

end Counting

section Meaning

variable (identity : AuthenticatedIdentity) (world : World)

/-- A live request of the caller. -/
def isOwn (request : RequestRecord) : Bool :=
  request.requesterId == identity.userId && request.deletedAt.isNone

/-- A live request of the caller that is not yet in a terminal status. -/
def isOwnOpen (request : RequestRecord) : Bool :=
  isOwn identity request && !isTerminalRequestStatus request.status

/-- A pending stage of the company that names the caller or the caller's role. -/
def awaits (stage : WorkflowStageRecord) : Bool :=
  stage.companyId == identity.companyId && identity.mayDecide stage

def ofLiveRequest (stage : WorkflowStageRecord) : Bool :=
  (world.requests.find? stage.requestId).any fun request => request.deletedAt.isNone

/-- Newest first. -/
def newestKey (request : RequestRecord) : ℕᵒᵈ := OrderDual.toDual request.createdAt

/-- The summary is what its documentation says; the database may order requests of one instant in any way. -/
structure DashboardAsMeant (summary : DashboardSummary) : Prop where
  openRequests : summary.openRequestsCount = (world.requests.rows.filter (isOwnOpen identity)).length
  recentRequests : ∃ arranged, Arranges newestKey (world.requests.rows.filter (isOwn identity)) arranged ∧
    summary.recentRequests = arranged.take 5
  pendingApprovals : identity.role ≠ .employee → summary.pendingApprovalsCount =
    (world.stages.rows.filter fun stage => awaits identity stage && ofLiveRequest world stage).length

/-- `Listable`, decided. -/
def isListable (request : RequestRecord) : Bool :=
  request.companyId == identity.companyId && request.deletedAt.isNone &&
    match identity.role with
    | .employee => request.requesterId == identity.userId
    | .approver => (queueOf identity world).any fun stage => stage.requestId == request.id
    | .admin => true

/-- What the caller may list, newest first: the caller's own requests, those with a stage in the caller's queue, or those
of the company. -/
def listedRequests : List RequestRecord :=
  World.newestFirst RequestRecord.createdAt (world.requests.rows.filter (isListable identity world))

/-- As many requests may be listed that are not the caller's or not open as there are open ones of the caller that may
not be listed; the five newest that may be listed are the caller's, and no newer one of the caller may not be listed, nor
any if these are fewer than five; and no stage of a withdrawn request waits for the caller. -/
structure DashboardExact : Prop where
  balanced : (world.requests.rows.filter fun request =>
      isListable identity world request && !isOwnOpen identity request).length =
    (world.requests.rows.filter fun request =>
      isOwnOpen identity request && !isListable identity world request).length
  own : ∀ request ∈ (listedRequests identity world).take 5, request.requesterId = identity.userId
  unlisted : ∀ request ∈ world.requests.rows, isOwn identity request = true → isListable identity world request = false →
    5 ≤ (listedRequests identity world).length ∧
      ∀ recent ∈ (listedRequests identity world).take 5, request.createdAt ≤ recent.createdAt
  live : ∀ stage ∈ world.stages.rows, awaits identity stage = true → ofLiveRequest world stage = true

end Meaning

section Figures

variable {identity : AuthenticatedIdentity} {world : World}

theorem isListable_iff {request : RequestRecord} :
    isListable identity world request = true ↔ Listable identity world request := by
  unfold isListable Listable
  cases identity.role <;> simp [and_assoc]

theorem mem_listedRequests {request : RequestRecord} :
    request ∈ listedRequests identity world ↔ request ∈ world.requests.rows ∧ isListable identity world request = true := by
  rw [listedRequests, World.mem_newestFirst, List.mem_filter]

theorem rows_list (page : Page) : (Listing.list none none none page).rows identity.companyId (requesterScope identity)
    (queueScope identity world) world = listedRequests identity world := by
  rw [listedRequests, Listing.rows, World.requestsListed]
  congr 1
  apply List.filter_congr
  intro request stored
  have listed := @mem_of_listable identity world request stored
  have listable := fun member => (@listable_of_mem identity world (.list none none none page) request member).2
  rw [Bool.eq_iff_iff, isListable_iff]
  simp only [Listing.rows, World.requestsListed, World.mem_newestFirst, List.mem_filter, stored, true_and] at listed listable
  exact ⟨listable, fun scope => listed scope page⟩

theorem run_listRequests (page : Page) : ((listRequests identity none none none page).run environment world).1 =
    .ok (paginate (listedRequests identity world) page) := by
  obtain ⟨ticks, run⟩ := @run_listing identity world (.list none none none page)
  have run : ((listRequests identity none none none page).run environment world).1 = _ := run
  rw [run]
  have rows := @rows_list identity world page
  by_cases idle : queueScope identity world = some []
  · have nothing : listedRequests identity world = [] := by
      rw [← rows, idle]
      exact rows_of_no_ids (.list none none none page) _ _
    rw [if_pos idle, nothing]
    simp [paginate, slice, Listing.page]
  · rw [if_neg idle, ← rows]
    rfl

theorem run_listPendingApprovals (page : Page) (decider : identity.role ≠ .employee) :
    ((listPendingApprovals identity page).run environment world).1 =
      .ok (paginate (world.pendingForApprover identity.companyId (some identity.userId) (some identity.role)) page) := by
  have permitted : ¬(identity.role ≠ .approver ∧ identity.role ≠ .admin) := by
    cases role : identity.role <;> simp_all
  rw [listPendingApprovals, if_neg permitted]
  rfl

theorem length_pendingForApprover (decider : identity.role ≠ .employee) :
    (world.pendingForApprover identity.companyId (some identity.userId) (some identity.role)).length =
      (world.stages.rows.filter (awaits identity)).length := by
  rw [World.pendingForApprover, length_orderBy]
  congr 2
  funext stage
  rw [Bool.eq_iff_iff]
  simp only [awaits, Bool.and_eq_true, mayDecide_iff, beq_iff_eq, Bool.or_eq_true, Option.isSome_some, true_and]
  tauto

/-- The dashboard never fails, and its figures are the lengths of what the caller may list and decide. -/
theorem getDashboardSummary_eq (identity : AuthenticatedIdentity) (world : World) : ∃ summary,
    getDashboardSummary identity world = .ok summary ∧
      summary.openRequestsCount = (listedRequests identity world).length ∧
      summary.recentRequests = (listedRequests identity world).take 5 ∧
      (identity.role ≠ .employee →
        summary.pendingApprovalsCount = (world.stages.rows.filter (awaits identity)).length) := by
  have recent : (paginate (listedRequests identity world) recentPage).items = (listedRequests identity world).take 5 :=
    slice_zero 5 _
  unfold getDashboardSummary
  rw [run_listRequests]
  by_cases employee : identity.role = .employee
  · rw [employee]
    exact ⟨_, rfl, rfl, recent, fun decider => absurd rfl decider⟩
  · have access : analyticsRoles.contains identity.role = true := by
      cases role : identity.role <;> simp_all [analyticsRoles]
    have decides : [UserRole.approver, .admin].contains identity.role = true := access
    rw [run_listPendingApprovals queuePage employee, getStatusBreakdown, getApprovalThroughput, requireAnalyticsAccess,
      if_pos access, decides]
    exact ⟨_, rfl, rfl, recent, fun _ => length_pendingForApprover employee⟩

theorem nodup_requests (world : World) : world.requests.rows.Nodup :=
  List.Nodup.of_map _ world.requests.distinct

theorem nodup_listedRequests (identity : AuthenticatedIdentity) (world : World) :
    (listedRequests identity world).Nodup :=
  (List.perm_insertionSort ..).nodup_iff.mpr ((nodup_requests world).filter _)

theorem listedRequests_sorted (identity : AuthenticatedIdentity) (world : World) :
    (listedRequests identity world).Pairwise fun first second => newestKey first ≤ newestKey second := by
  have total : Std.Total fun first second : RequestRecord => decide (second.createdAt ≤ first.createdAt) = true :=
    ⟨fun first second => by simpa using Nat.le_total second.createdAt first.createdAt⟩
  have transitive : IsTrans RequestRecord fun first second => decide (second.createdAt ≤ first.createdAt) = true :=
    ⟨fun first second third => by simpa using fun young older => Nat.le_trans older young⟩
  refine (List.pairwise_insertionSort _ _).imp ?_
  intro first second related
  exact of_decide_eq_true related

theorem recentRequests_iff :
    (∃ arranged, Arranges newestKey (world.requests.rows.filter (isOwn identity)) arranged ∧
      (listedRequests identity world).take 5 = arranged.take 5) ↔
      (∀ request ∈ (listedRequests identity world).take 5, request.requesterId = identity.userId) ∧
        ∀ request ∈ world.requests.rows, isOwn identity request = true → isListable identity world request = false →
          5 ≤ (listedRequests identity world).length ∧
            ∀ recent ∈ (listedRequests identity world).take 5, request.createdAt ≤ recent.createdAt := by
  rw [firsts_arranged_iff (listedRequests_sorted identity world) (nodup_listedRequests identity world)
    ((nodup_requests world).filter _)]
  constructor
  · rintro ⟨own, later⟩
    constructor
    · intro request recent
      have mine := (List.mem_filter.mp (own request recent)).2
      rw [isOwn, Bool.and_eq_true, beq_iff_eq] at mine
      exact mine.1
    · intro request stored mine hidden
      apply later request (List.mem_filter.mpr ⟨stored, mine⟩)
      intro listed
      rw [(mem_listedRequests.mp listed).2] at hidden
      cases hidden
  · rintro ⟨own, unlisted⟩
    constructor
    · intro request recent
      have listed := mem_listedRequests.mp (List.mem_of_mem_take recent)
      rw [List.mem_filter, isOwn, Bool.and_eq_true, beq_iff_eq, Option.isNone_iff_eq_none]
      exact ⟨listed.1, own request recent, (isListable_iff.mp listed.2).2.1⟩
    · intro request member absent
      obtain ⟨stored, mine⟩ := List.mem_filter.mp member
      apply unlisted request stored mine
      rw [Bool.eq_false_iff]
      exact fun listable => absent (mem_listedRequests.mpr ⟨stored, listable⟩)

theorem pendingApprovals_iff : (world.stages.rows.filter (awaits identity)).length =
      (world.stages.rows.filter fun stage => awaits identity stage && ofLiveRequest world stage).length ↔
    ∀ stage ∈ world.stages.rows, awaits identity stage = true → ofLiveRequest world stage = true := by
  have nested : (world.stages.rows.filter fun stage => awaits identity stage && ofLiveRequest world stage) =
      (world.stages.rows.filter (awaits identity)).filter (ofLiveRequest world) := by
    simp only [List.filter_filter, Bool.and_comm]
  rw [nested, eq_comm, List.length_filter_eq_length_iff]
  simp only [List.mem_filter, and_imp]

theorem not_awaits_of_employee (employee : identity.role = .employee) (stage : WorkflowStageRecord) :
    awaits identity stage = false := by
  rw [Bool.eq_false_iff]
  intro waiting
  rw [awaits, Bool.and_eq_true, mayDecide_iff] at waiting
  exact waiting.2.1 employee

/-- The dashboard is what it says it is exactly in the states in which the requests listed stand for the open ones. -/
theorem dashboard_as_meant_iff (identity : AuthenticatedIdentity) (world : World) : ∃ summary,
    getDashboardSummary identity world = .ok summary ∧
      (DashboardAsMeant identity world summary ↔ DashboardExact identity world) := by
  obtain ⟨summary, returned, openCount, recent, pendingCount⟩ := getDashboardSummary_eq identity world
  refine ⟨summary, returned, ?_⟩
  constructor
  · rintro ⟨openRequests, recentRequests, pendingApprovals⟩
    rw [openCount, listedRequests, World.length_newestFirst] at openRequests
    rw [recent] at recentRequests
    obtain ⟨own, unlisted⟩ := recentRequests_iff.mp recentRequests
    refine ⟨(length_filter_eq_iff ..).mp openRequests, own, unlisted, ?_⟩
    by_cases employee : identity.role = .employee
    · intro stage _ waiting
      rw [not_awaits_of_employee employee stage] at waiting
      cases waiting
    · exact pendingApprovals_iff.mp ((pendingCount employee).symm.trans (pendingApprovals employee))
  · rintro ⟨balanced, own, unlisted, live⟩
    constructor
    · rw [openCount, listedRequests, World.length_newestFirst]
      exact (length_filter_eq_iff ..).mpr balanced
    · rw [recent]
      exact recentRequests_iff.mpr ⟨own, unlisted⟩
    · intro decider
      rw [pendingCount decider]
      exact pendingApprovals_iff.mpr live

/-- The employee's only request is completed, and the dashboard counts it as open; to an administrator who made no request
it shows the employee's. -/
theorem dashboard_counts_completed : Initial sampleHub ∧ SerialRun (fun _ _ => True) sampleHub hubFinished ∧
    (∀ summary, getDashboardSummary sampleEmployee hubFinished = .ok summary →
      ¬DashboardAsMeant sampleEmployee hubFinished summary) ∧
    ((getDashboardSummary sampleAdmin hubFinished).toOption.map fun summary =>
      summary.recentRequests.map RequestRecord.requesterId) = some [1] := by
  have submitted : SerialRun (fun _ _ => True) sampleHub hubSubmitted := .operation .start expenseCreation trivial
  have advanced : SerialRun (fun _ _ => True) sampleHub hubAdvanced := by
    rw [hubAdvanced, ← run_forEffect]
    exact .operation submitted (.approve sampleApprover 1 none none) trivial
  have finished : SerialRun (fun _ _ => True) sampleHub hubFinished := .operation advanced secondApproval trivial
  refine ⟨sampleHub_initial, finished, ?_, by decide +kernel⟩
  intro summary returned meant
  have counted : (getDashboardSummary sampleEmployee hubFinished).toOption.map DashboardSummary.openRequestsCount =
      some 1 := by decide +kernel
  have none_open : (hubFinished.requests.rows.filter (isOwnOpen sampleEmployee)).length = 0 := by decide +kernel
  rw [returned] at counted
  exact absurd (meant.openRequests.symm.trans (Option.some.inj counted)) (by rw [none_open]; decide)

end Figures

end AutomationHub.System
