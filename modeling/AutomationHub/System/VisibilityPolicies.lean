import AutomationHub.Database.Policies
import AutomationHub.System.SearchIsolation

/-!
The view rule of `get_request` against the policy that decides which rows of `requests` a statement of the same
caller sees.
-/

set_option autoImplicit false

namespace AutomationHub.System

open Foundation Model Database Services Auth Program Table

/-- The rule by which `getRequest` shows a request. -/
def viewRule (identity : AuthenticatedIdentity) (world : World) (request : RequestRecord) : Bool :=
  request.companyId == identity.companyId &&
    canViewRequest identity.role (request.requesterId == identity.userId)
      (assignedToAny identity world request.id)

/-- The stage names the caller or the caller's role. -/
def Names (identity : AuthenticatedIdentity) (stage : WorkflowStageRecord) : Prop :=
  stage.assignedTo = some identity.userId ∨ stage.assignedRole = some identity.role

/-- When the rule and the policy decide alike. -/
def ViewedAlike (identity : AuthenticatedIdentity) (world : World) (request : RequestRecord) : Prop :=
  request.companyId ≠ identity.companyId ∨ identity.role = .admin ∨ request.requesterId = identity.userId ∨
    (∀ stage ∈ world.stages.rows, stage.requestId = request.id → ¬Names identity stage) ∨
      identity.role ≠ .employee ∧ ∃ stage ∈ firstRows (world.stagesOf request.id), Names identity stage

section Visibility

variable {identity : AuthenticatedIdentity} {world : World} {request : RequestRecord}

theorem opens_iff_viewRule (valid : SessionValid identity world)
    (found : world.requests.find? request.id = some request) :
    Opens identity world request.id ↔ viewRule identity world request = true := by
  rw [opens_iff valid, viewRule, Bool.and_eq_true, beq_iff_eq]
  constructor
  · intro opens
    obtain ⟨other, reached, company, permitted⟩ := opens
    obtain rfl : other = request := Option.some.inj (reached.symm.trans found)
    exact ⟨company, permitted⟩
  · intro viewable
    exact ⟨request, found, viewable⟩

theorem assignedToAny_iff {requestId : UUID} : assignedToAny identity world requestId = true ↔
    identity.role ≠ .employee ∧ ∃ stage ∈ firstRows (world.stagesOf requestId), Names identity stage := by
  unfold assignedToAny Names
  cases identity.role <;> simp

theorem viewRule_iff : viewRule identity world request = true ↔
    request.companyId = identity.companyId ∧ (identity.role = .admin ∨ request.requesterId = identity.userId ∨
      identity.role ≠ .employee ∧ ∃ stage ∈ firstRows (world.stagesOf request.id), Names identity stage) := by
  rw [viewRule, Bool.and_eq_true, beq_iff_eq, canViewRequest, ← assignedToAny_iff]
  refine and_congr Iff.rfl ?_
  by_cases administrator : identity.role = .admin
  · rw [if_pos administrator]
    exact iff_of_true rfl (.inl administrator)
  · rw [if_neg administrator, or_iff_right administrator, Bool.or_eq_true, beq_iff_eq]

theorem mem_stagesOf {requestId : UUID} {stage : WorkflowStageRecord} :
    stage ∈ world.stagesOf requestId ↔ stage ∈ world.stages.rows ∧ stage.requestId = requestId := by
  simp [World.stagesOf, mem_orderBy]

theorem requestsSelect_iff {profile : ProfileRecord} (found : world.profiles.find? identity.userId = some profile)
    (role : profile.role = identity.role) (company : profile.companyId = identity.companyId) :
    world.tenantTables.requestsSelect identity.userId request = true ↔
      request.companyId = identity.companyId ∧ (identity.role = .admin ∨ request.requesterId = identity.userId ∨
        ∃ stage ∈ world.stages.rows, stage.requestId = request.id ∧ Names identity stage) := by
  have known : world.tenantTables.profiles.find? identity.userId = some profile := found
  rw [TenantTables.requestsSelect_iff known, role, company, or_left_comm]
  rfl

/-- The rule and the policy decide alike unless the caller, who neither made the request nor administers the company,
is assigned to a stage of it as an employee, or only to stages beyond the first hundred. -/
theorem viewRule_agrees_iff {profile : ProfileRecord} (found : world.profiles.find? identity.userId = some profile)
    (role : profile.role = identity.role) (company : profile.companyId = identity.companyId)
    (live : world.requests.find? request.id = some request) :
    (SessionValid identity world → (Opens identity world request.id ↔ viewRule identity world request = true)) ∧
      ((viewRule identity world request = true ↔
          world.tenantTables.requestsSelect identity.userId request = true) ↔
        ViewedAlike identity world request) := by
  refine ⟨fun valid => opens_iff_viewRule valid live, ?_⟩
  rw [viewRule_iff, requestsSelect_iff found role company, ViewedAlike]
  by_cases own : request.companyId = identity.companyId
  swap
  · exact iff_of_true (iff_of_false (fun viewed => own viewed.1) fun seen => own seen.1) (.inl own)
  by_cases administrator : identity.role = .admin
  · exact iff_of_true (iff_of_true ⟨own, .inl administrator⟩ ⟨own, .inl administrator⟩) (.inr (.inl administrator))
  by_cases made : request.requesterId = identity.userId
  · exact iff_of_true (iff_of_true ⟨own, .inr (.inl made)⟩ ⟨own, .inr (.inl made)⟩) (.inr (.inr (.inl made)))
  have stageListed : (∃ stage ∈ firstRows (world.stagesOf request.id), Names identity stage) →
      ∃ stage ∈ world.stages.rows, stage.requestId = request.id ∧ Names identity stage := by
    intro early
    obtain ⟨stage, member, named⟩ := early
    obtain ⟨present, ofRequest⟩ := mem_stagesOf.mp (List.mem_of_mem_take member)
    exact ⟨stage, present, ofRequest, named⟩
  simp only [own, administrator, made, true_and, false_or, ne_eq, not_true_eq_false]
  constructor
  · intro agrees
    by_cases assigned : ∃ stage ∈ world.stages.rows, stage.requestId = request.id ∧ Names identity stage
    · exact .inr (agrees.mpr assigned)
    · exact .inl fun stage present ofRequest named => assigned ⟨stage, present, ofRequest, named⟩
  · intro alike
    refine ⟨fun viewed => stageListed viewed.2, ?_⟩
    intro assigned
    obtain ⟨stage, present, ofRequest, named⟩ := assigned
    exact alike.resolve_left fun unassigned => unassigned stage present ofRequest named

end Visibility

section Sample

/-- The first stage of a request of the administrator, handed to the employee. -/
def employeesStage (id : UUID) : WorkflowStageRecord :=
  { id, requestId := 1, stageOrder := 1, stageName := "Review", assignedRole := none, assignedTo := some 1,
    status := .pending, decidedBy := none, decidedAt := none, decisionNote := none, version := 1, createdAt := 0,
    companyId := 9 }

def adminsRequest (id : UUID) : RequestRecord :=
  { id, requesterId := 3, workflowDefinitionId := 2, requestType := "travel", title := "Trip", description := none,
    department := none, status := .pending, currentStageId := some 1, version := 1, deletedAt := none,
    deletedBy := none, createdAt := 0, updatedAt := 0, completedAt := none, companyId := 9 }

/-- The sample hub with a request whose stage is the employee's. -/
def hubWithEmployeesStage : World :=
  { sampleHub with
    requests := sampleHub.requests.insert ⟨adminsRequest, fun _ => rfl⟩,
    stages := sampleHub.stages.insert ⟨employeesStage, fun _ => rfl⟩ }

theorem viewRule_agrees_iff_sample :
    hubWithEmployeesStage.requests.find? 1 = some (adminsRequest 1) ∧
      ((viewRule sampleAdmin hubWithEmployeesStage (adminsRequest 1) = true ↔
          hubWithEmployeesStage.tenantTables.requestsSelect sampleAdmin.userId (adminsRequest 1) = true) ↔
        ViewedAlike sampleAdmin hubWithEmployeesStage (adminsRequest 1)) := by
  have administrator : hubWithEmployeesStage.profiles.find? sampleAdmin.userId = some (sampleProfile 3 .admin none) := by
    decide +kernel
  have live : hubWithEmployeesStage.requests.find? (adminsRequest 1).id = some (adminsRequest 1) := by decide +kernel
  exact ⟨live, (viewRule_agrees_iff administrator rfl rfl live).2⟩

/-- The policy shows the employee a request that `getRequest` reports as not found. -/
theorem assigned_employee_locked_out :
    hubWithEmployeesStage.requests.find? 1 = some (adminsRequest 1) ∧
      ((getRequest sampleEmployee 1).run environment hubWithEmployeesStage).1 = .error (.notFound "request" 1) ∧
      viewRule sampleEmployee hubWithEmployeesStage (adminsRequest 1) = false ∧
      hubWithEmployeesStage.tenantTables.requestsSelect sampleEmployee.userId (adminsRequest 1) = true := by
  decide +kernel

end Sample

end AutomationHub.System
