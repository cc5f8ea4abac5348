import AutomationHub.Foundation.Arrangement
import AutomationHub.System.StageStaffing
import Mathlib.Data.String.Basic

/-!
Which approver a `requester_manager` stage is assigned to.

The candidates are one page of the approvers of the requester's department; for a
requester without a department, of all approvers of the company.
-/

set_option autoImplicit false

namespace AutomationHub.System

open Foundation Model Database Services Auth Workflow Program Table

/-- The approver whom the strategy is meant to find: of the company, not erased, and of the requester's department. -/
structure Eligible (world : World) (companyId : UUID) (requester profile : ProfileRecord) : Prop where
  stored : profile ∈ world.profiles.rows
  role : profile.role = .approver
  company : profile.companyId = companyId
  present : profile.deletedAt = none
  department : profile.department = requester.department

/-- The filter of the listing of candidates. -/
def listable (companyId : UUID) (requester profile : ProfileRecord) : Bool :=
  profile.role == .approver && profile.companyId == companyId &&
    (requester.department.isNone || profile.department == requester.department) && profile.deletedAt.isNone

def candidates (world : World) (companyId : UUID) (requester : ProfileRecord) : List ProfileRecord :=
  world.profiles.rows.filter (listable companyId requester)

def sameDepartment (requester profile : ProfileRecord) : Bool :=
  profile.department == requester.department

/-- The one approver who comes first among the eligible, within the first hundred of the listed ones however the
listing orders equal names. -/
abbrev FirstManager (world : World) (companyId : UUID) (requester manager : ProfileRecord) : Prop :=
  Foremost ProfileRecord.fullName 100 (sameDepartment requester) (candidates world companyId requester) manager

section Choice

variable {world : World} {companyId : UUID} {requester : ProfileRecord}

theorem eligible_iff {profile : ProfileRecord} : Eligible world companyId requester profile ↔
    profile ∈ candidates world companyId requester ∧ sameDepartment requester profile = true := by
  unfold candidates listable sameDepartment
  simp only [List.mem_filter, Bool.and_eq_true, beq_iff_eq, Option.isNone_iff_eq_none, Bool.or_eq_true]
  constructor
  · intro eligible
    exact ⟨⟨eligible.stored, ⟨⟨eligible.role, eligible.company⟩, .inr eligible.department⟩, eligible.present⟩,
      eligible.department⟩
  · intro listed
    obtain ⟨⟨stored, ⟨⟨role, company⟩, -⟩, present⟩, department⟩ := listed
    exact ⟨stored, role, company, present, department⟩

theorem pairwise_profilesByRole (world : World) (companyId : UUID) (department : Option String) :
    (world.profilesByRole .approver companyId department).Pairwise fun left right => left.fullName ≤ right.fullName := by
  have total : Std.Total fun left right : ProfileRecord => decide (left.fullName ≤ right.fullName) = true :=
    ⟨fun left right => by simpa using le_total left.fullName right.fullName⟩
  have transitive : IsTrans ProfileRecord fun left right => decide (left.fullName ≤ right.fullName) = true :=
    ⟨fun first second third => by simpa using le_trans⟩
  unfold World.profilesByRole orderBy
  refine (List.pairwise_insertionSort _ _).imp ?_
  intro left right related
  simpa using related

theorem arranges_listed : Arranges ProfileRecord.fullName (candidates world companyId requester)
    (world.profilesByRole .approver companyId requester.department) where
  perm := List.perm_insertionSort _ _
  sorted := pairwise_profilesByRole world companyId requester.department

/-- Filtering and sorting the page again finds the first row of the department in it. -/
theorem chosenManager_eq_pick : chosenManager world companyId requester =
    pick 100 (sameDepartment requester) (world.profilesByRole .approver companyId requester.department) := by
  have sorted : ((listedApprovers world companyId requester).filter fun approver =>
      approver.department == requester.department).Pairwise fun left right => left.fullName ≤ right.fullName := by
    apply List.Pairwise.sublist List.filter_sublist
    exact (pairwise_profilesByRole world companyId requester.department).sublist
      ((List.take_sublist _ _).trans (List.drop_sublist _ _))
  unfold chosenManager
  rw [List.Pairwise.insertionSort_eq sorted, List.head?_filter]
  rfl

/-- The resolution of the strategy, given the manager found. -/
def resolutionOf : Option ProfileRecord → Option UUID × Option UserRole
  | some manager => (some manager.id, none)
  | none => (none, some .admin)

theorem resolved_eq (world : World) (companyId : UUID) (requester : ProfileRecord) :
    let resolved := resolveRequesterManager requester (listedApprovers world companyId requester)
    (resolved.assignedTo, resolved.assignedRole) = resolutionOf (chosenManager world companyId requester) ∧
      resolved.usedFallback = (chosenManager world companyId requester).isNone ∧
      resolved.fallbackReason.isSome = resolved.usedFallback := by
  unfold chosenManager resolveRequesterManager
  dsimp only
  cases ((listedApprovers world companyId requester).filter fun approver =>
    approver.department == requester.department).insertionSort fun left right => left.fullName ≤ right.fullName <;>
    exact ⟨rfl, rfl, rfl⟩

variable (world companyId requester) in
/-- Every order in which the listing may return the approvers is that of the stored profiles in some order. -/
theorem chosen_everywhere_iff (property : Option ProfileRecord → Prop) :
    (∀ profiles : Table ProfileRecord, profiles.rows.Perm world.profiles.rows →
        property (chosenManager { world with profiles } companyId requester)) ↔
      ∀ arranged, Arranges ProfileRecord.fullName (candidates world companyId requester) arranged →
        property (pick 100 (sameDepartment requester) arranged) := by
  constructor
  · intro everywhere arranged arranges
    have selected : arranged.filter (listable companyId requester) = arranged :=
      List.filter_eq_self.mpr fun profile member => List.of_mem_filter (arranges.perm.mem_iff.mp member)
    have perm : (arranged ++ world.profiles.rows.filter fun profile => !listable companyId requester profile).Perm
        world.profiles.rows :=
      (arranges.perm.append_right _).trans (List.filter_append_perm _ _)
    have chosen := everywhere (world.profiles.rearrange perm) perm
    rw [chosenManager_eq_pick] at chosen
    have listed : World.profilesByRole { world with profiles := world.profiles.rearrange perm } .approver companyId
        requester.department = arranged := by
      have rows : candidates { world with profiles := world.profiles.rearrange perm } companyId requester = arranged := by
        unfold candidates rearrange
        rw [List.filter_append, selected, List.filter_filter]
        simp
      have sorted : arranged.Pairwise fun left right => decide (left.fullName ≤ right.fullName) = true := by
        simpa using arranges.sorted
      exact (congrArg _ rows).trans sorted.insertionSort_eq
    rwa [listed] at chosen
  · intro everywhere profiles perm
    rw [chosenManager_eq_pick]
    apply everywhere
    have listed : Arranges ProfileRecord.fullName (candidates { world with profiles } companyId requester) _ :=
      arranges_listed
    exact ⟨listed.perm.trans (perm.filter _), listed.sorted⟩

end Choice

section Claim

/-- The metadata tell that the assignment fell back on the administrators. -/
def carriesFallback : Option AuditMetadata → Bool
  | some (.requestCreated _ assignmentFallbackApplied) => assignmentFallbackApplied.isSome
  | _ => false

/-- The stage went to an eligible approver if there is one, and to the administrators otherwise; the profiles in any
other stored order would have led to the same assignment; and the audit entry tells of the fallback. -/
structure ManagerAsMeant (world : World) (companyId : UUID) (requester : ProfileRecord) (row : WorkflowStageRecord)
    (metadata : Option AuditMetadata) : Prop where
  found : (∃ profile, Eligible world companyId requester profile) →
    ∃ profile, Eligible world companyId requester profile ∧ row.assignedTo = some profile.id ∧ row.assignedRole = none
  routed : (¬∃ profile, Eligible world companyId requester profile) →
    row.assignedTo = none ∧ row.assignedRole = some .admin
  stable : ∀ profiles : Table ProfileRecord, profiles.rows.Perm world.profiles.rows →
    let resolved := resolveRequesterManager requester (listedApprovers { world with profiles } companyId requester)
    resolved.assignedTo = row.assignedTo ∧ resolved.assignedRole = row.assignedRole
  reported : row.assignedTo = none → carriesFallback metadata = true

/-- A first stage without eligible approver, or a stage for the first manager. -/
def ManagerFindable (world : World) (companyId : UUID) (requester : ProfileRecord) (row : WorkflowStageRecord) : Prop :=
  (¬∃ profile, Eligible world companyId requester profile) ∧ row.stageOrder = 1 ∨
    ∃ manager, FirstManager world companyId requester manager

/-- What the services make of the strategy. -/
structure ManagerAsResolved (world : World) (companyId : UUID) (requester : ProfileRecord) (row : WorkflowStageRecord)
    (metadata : Option AuditMetadata) : Prop where
  assignedTo : row.assignedTo = (resolutionOf (chosenManager world companyId requester)).1
  assignedRole : row.assignedRole = (resolutionOf (chosenManager world companyId requester)).2
  reported : carriesFallback metadata = ((chosenManager world companyId requester).isNone && row.stageOrder == 1)

variable {world : World} {companyId : UUID} {requester : ProfileRecord} {row : WorkflowStageRecord}
  {metadata : Option AuditMetadata}

theorem eligible_of_chosen {manager : ProfileRecord}
    (chosen : chosenManager world companyId requester = some manager) : Eligible world companyId requester manager := by
  rw [chosenManager_eq_pick] at chosen
  have listed := List.mem_of_mem_take (List.mem_of_find?_eq_some chosen)
  exact eligible_iff.mpr ⟨arranges_listed.perm.mem_iff.mp listed, List.find?_some chosen⟩

/-- One manager is chosen however the profiles are stored exactly if this is the first manager. -/
theorem always_chosen_iff {manager : ProfileRecord} :
    (∀ profiles : Table ProfileRecord, profiles.rows.Perm world.profiles.rows →
        chosenManager { world with profiles } companyId requester = some manager) ↔
      FirstManager world companyId requester manager := by
  rw [chosen_everywhere_iff world companyId requester fun chosen => chosen = some manager]
  apply picked_iff_foremost
  exact List.Nodup.filter _ (List.Nodup.of_map _ world.profiles.distinct)

theorem managerAsMeant_iff (resolved : ManagerAsResolved world companyId requester row metadata) :
    ManagerAsMeant world companyId requester row metadata ↔ ManagerFindable world companyId requester row := by
  constructor
  · intro meant
    by_cases eligible : ∃ profile, Eligible world companyId requester profile
    · right
      obtain ⟨manager, own, assigned, -⟩ := meant.found eligible
      refine ⟨manager, always_chosen_iff.mp ?_⟩
      intro profiles perm
      obtain ⟨same, -⟩ := meant.stable profiles perm
      obtain ⟨resolution, -⟩ := resolved_eq { world with profiles } companyId requester
      have named : (resolutionOf (chosenManager { world with profiles } companyId requester)).1 = some manager.id :=
        (congrArg Prod.fst resolution).symm.trans (same.trans assigned)
      cases chosen : chosenManager { world with profiles } companyId requester with
      | none =>
          rw [chosen] at named
          cases named
      | some other =>
          rw [chosen] at named
          have stored : other ∈ world.profiles.rows := perm.mem_iff.mp (eligible_of_chosen chosen).stored
          exact congrArg some (world.profiles.eq_of_key_eq stored own.stored (Option.some.inj named))
    · left
      refine ⟨eligible, ?_⟩
      have carried := resolved.reported.symm.trans (meant.reported (meant.routed eligible).1)
      exact beq_iff_eq.mp (Bool.and_eq_true_iff.mp carried).2
  · intro findable
    rcases findable with ⟨missing, first⟩ | ⟨manager, foremost⟩
    · have none : ∀ profiles : Table ProfileRecord, profiles.rows.Perm world.profiles.rows →
          chosenManager { world with profiles } companyId requester = none := by
        intro profiles perm
        by_contra found
        obtain ⟨other, chosen⟩ := Option.ne_none_iff_exists'.mp found
        have eligible := eligible_of_chosen chosen
        exact missing ⟨other, perm.mem_iff.mp eligible.stored, eligible.role, eligible.company, eligible.present,
          eligible.department⟩
      have here : chosenManager world companyId requester = Option.none := none world.profiles (.refl _)
      have assignedTo := resolved.assignedTo
      have assignedRole := resolved.assignedRole
      rw [here] at assignedTo assignedRole
      refine ⟨fun eligible => absurd eligible missing, fun _ => ⟨assignedTo, assignedRole⟩, ?_, ?_⟩
      · intro profiles perm
        obtain ⟨resolution, -⟩ := resolved_eq { world with profiles } companyId requester
        rw [none profiles perm] at resolution
        exact ⟨(congrArg Prod.fst resolution).trans assignedTo.symm, (congrArg Prod.snd resolution).trans assignedRole.symm⟩
      · intro _
        rw [resolved.reported, here, first]
        rfl
    · have always := always_chosen_iff.mpr foremost
      have here : chosenManager world companyId requester = some manager := always world.profiles (.refl _)
      have assignedTo := resolved.assignedTo
      have assignedRole := resolved.assignedRole
      rw [here] at assignedTo assignedRole
      have eligible : Eligible world companyId requester manager := eligible_of_chosen here
      refine ⟨fun _ => ⟨manager, eligible, assignedTo, assignedRole⟩, fun none => absurd ⟨manager, eligible⟩ none, ?_, ?_⟩
      · intro profiles perm
        obtain ⟨resolution, -⟩ := resolved_eq { world with profiles } companyId requester
        rw [always profiles perm] at resolution
        exact ⟨(congrArg Prod.fst resolution).trans assignedTo.symm, (congrArg Prod.snd resolution).trans assignedRole.symm⟩
      · intro nobody
        rw [assignedTo] at nobody
        cases nobody

end Claim

end AutomationHub.System
