import AutomationHub.Auth.Authorization
import AutomationHub.Database.Statements
import AutomationHub.System.Operations

/-!
What callers who are not administrators bring about by statements of their own,
past the services: the policies say which rows a caller may write, the services
which columns.
-/

set_option autoImplicit false

namespace AutomationHub.System

open Foundation Model Database Auth

/-- The columns of a profile that only administrators may change. -/
def standing (profile : ProfileRecord) : UUID × UserRole × Bool × Bool × UUID :=
  (profile.id, profile.role, profile.isPlatformAdmin, profile.isActive, profile.companyId)

/-- The columns of a request that only decisions change. -/
def progress (request : RequestRecord) : RequestStatus × Option UUID := (request.status, request.currentStageId)

/-- The caller's profile permits the caller to decide the stage. -/
def permitsDecision (tables : TenantTables) (caller : UUID) (stage : WorkflowStageRecord) : Bool :=
  (tables.currentProfileRole caller).any fun role =>
    canDecideStage role (stage.assignedTo == some caller) (stage.assignedRole == some role) (stage.status == .pending)

/-- The stage at a position is pending before the statement and not after it. -/
def Leaves (sent : Sent) (position : Nat) (stage : WorkflowStageRecord) : Prop :=
  sent.before.stages.rows[position]? = some stage ∧ stage.status = .pending ∧
    (sent.after.stages.rows[position]?).map WorkflowStageRecord.status ≠ some .pending

/-- A pending stage of the request at a position was decided by one of the statements. -/
def Decided (events : List Sent) (position : Nat) : Prop :=
  ∃ sent ∈ events, ∃ request, sent.before.requests.rows[position]? = some request ∧
    ∃ place stage, Leaves sent place stage ∧ stage.requestId = request.id

structure Lawful (start : TenantTables) (earlier : List Sent) (sent : Sent) : Prop where
  profiles : sent.after.profiles.rows.map standing = start.profiles.rows.map standing
  requests : ∀ position request, sent.before.requests.rows[position]? = some request →
    (sent.after.requests.rows[position]?).map progress = some (progress request) ∨
      Decided (earlier ++ [sent]) position
  stages : ∀ position stage, Leaves sent position stage → permitsDecision sent.before sent.caller stage = true

/-- What the policies leave to the sender's restraint, in the rows that they let the statement reach. -/
def Restrained (earlier : List Sent) (sent : Sent) : Prop :=
  let tables := sent.before
  match sent.statement with
  | .updateProfiles update => ∀ profile ∈ tables.profiles.rows,
      update.affects (tables.profilesSelect sent.caller) (tables.profilesUpdateSelfOrAdmin sent.caller) profile = true →
        (update.assign profile).role = profile.role ∧
          (update.assign profile).isPlatformAdmin = profile.isPlatformAdmin ∧
          (update.assign profile).isActive = profile.isActive
  | .updateRequests update => ∀ position request, tables.requests.rows[position]? = some request →
      update.affects (tables.requestsSelect sent.caller) (tables.requestsUpdateOwnOrAdmin sent.caller) request = true →
        progress (update.assign request) = progress request ∨ Decided earlier position
  | .updateStages update => tables.currentProfileRole sent.caller = some .employee →
      ∀ stage ∈ tables.stages.rows, stage.status = .pending →
        update.affects (tables.workflowStagesSelect sent.caller)
          (tables.workflowStagesUpdateAssigneeOrAdmin sent.caller) stage = true →
        (update.assign stage).status = .pending
  | _ => True

theorem Decided.append {earlier : List Sent} {position : Nat} (decided : Decided earlier position) (sent : Sent) :
    Decided (earlier ++ [sent]) position := by
  obtain ⟨event, member, settled⟩ := decided
  exact ⟨event, List.mem_append_left _ member, settled⟩

theorem callerIsAdmin_of_standing {start tables : TenantTables} {caller : UUID}
    (same : tables.profiles.rows.map standing = start.profiles.rows.map standing)
    (outsider : ∀ profile ∈ start.profiles.rows, profile.id = caller → profile.role ≠ .admin) :
    tables.callerIsAdmin caller = false := by
  cases found : tables.profiles.find? caller with
  | none => simp [TenantTables.callerIsAdmin, TenantTables.currentProfileRole, found]
  | some profile =>
      obtain ⟨member, keyed⟩ := (Table.find?_eq_some_iff _ _ _).mp found
      have listed : standing profile ∈ start.profiles.rows.map standing :=
        same ▸ List.mem_map_of_mem member
      obtain ⟨original, present, equal⟩ := List.mem_map.mp listed
      simp only [standing, Prod.mk.injEq] at equal
      have ordinary := outsider original present (equal.1.trans keyed)
      rw [equal.2.1] at ordinary
      simp [TenantTables.callerIsAdmin, TenantTables.currentProfileRole, found, ordinary]

/-- Two rows that the policy of the caller's own profile admits differ in no column that it fixes. -/
theorem profile_fixed {tables : TenantTables} {caller : UUID} {old new : ProfileRecord}
    (ordinary : tables.callerIsAdmin caller = false)
    (admitted : tables.profilesUpdateSelfOrAdmin caller old = true)
    (admits : tables.profilesUpdateSelfOrAdmin caller new = true) :
    new.id = old.id ∧ new.companyId = old.companyId := by
  simp only [TenantTables.profilesUpdateSelfOrAdmin, TenantTables.inCallersCompany, ordinary, Bool.or_false,
    Bool.and_eq_true, beq_iff_eq] at admitted admits
  exact ⟨admits.1.trans admitted.1.symm, Option.some.inj (admits.2.symm.trans admitted.2)⟩

theorem progress_of_updateRequests {tables : TenantTables} {caller : UUID} {update : RowUpdate RequestRecord}
    {requests : Table RequestRecord}
    (updated : updateUnder (tables.requestsSelect caller) (tables.requestsUpdateOwnOrAdmin caller) tables.requests
      update = some requests) {position : Nat} {request : RequestRecord}
    (held : tables.requests.rows[position]? = some request) :
    (requests.rows[position]?).map progress = some (progress request) ∨
      update.affects (tables.requestsSelect caller) (tables.requestsUpdateOwnOrAdmin caller) request = true ∧
        (requests.rows[position]?).map progress = some (progress (update.assign request)) := by
  obtain ⟨change, mapped, rows⟩ := updateUnder_rows updated
  rcases rows request (List.mem_of_getElem? held) with same | ⟨assigned, affected, -⟩
  · left
    simp [mapped, held, same]
  · right
    exact ⟨affected, by simp [mapped, held, assigned]⟩

theorem status_of_updateStages {tables : TenantTables} {caller : UUID} {update : RowUpdate WorkflowStageRecord}
    {stages : Table WorkflowStageRecord}
    (updated : updateUnder (tables.workflowStagesSelect caller) (tables.workflowStagesUpdateAssigneeOrAdmin caller)
      tables.stages update = some stages) {position : Nat} {stage : WorkflowStageRecord}
    (held : tables.stages.rows[position]? = some stage) :
    (stages.rows[position]?).map WorkflowStageRecord.status = some stage.status ∨
      update.affects (tables.workflowStagesSelect caller) (tables.workflowStagesUpdateAssigneeOrAdmin caller) stage =
        true ∧ (stages.rows[position]?).map WorkflowStageRecord.status = some (update.assign stage).status := by
  obtain ⟨change, mapped, rows⟩ := updateUnder_rows updated
  rcases rows stage (List.mem_of_getElem? held) with same | ⟨assigned, affected, -⟩
  · left
    simp [mapped, held, same]
  · right
    exact ⟨affected, by simp [mapped, held, assigned]⟩

section Updates

variable {tables : TenantTables} {caller : UUID} (ordinary : tables.callerIsAdmin caller = false)

include ordinary

theorem standing_of_updateProfiles {update : RowUpdate ProfileRecord} {profiles : Table ProfileRecord}
    (updated : updateUnder (tables.profilesSelect caller) (tables.profilesUpdateSelfOrAdmin caller) tables.profiles
      update = some profiles)
    (restrained : ∀ profile ∈ tables.profiles.rows,
      update.affects (tables.profilesSelect caller) (tables.profilesUpdateSelfOrAdmin caller) profile = true →
        (update.assign profile).role = profile.role ∧
          (update.assign profile).isPlatformAdmin = profile.isPlatformAdmin ∧
          (update.assign profile).isActive = profile.isActive) :
    profiles.rows.map standing = tables.profiles.rows.map standing := by
  obtain ⟨change, mapped, rows⟩ := updateUnder_rows updated
  rw [mapped, List.map_map]
  apply List.map_congr_left
  intro profile member
  rcases rows profile member with same | ⟨assigned, affected, admits⟩
  · simp only [Function.comp_apply, same]
  · obtain ⟨id, company⟩ := profile_fixed ordinary (RowUpdate.admits_of_affects affected) admits
    obtain ⟨role, platform, active⟩ := restrained profile member affected
    simp only [Function.comp_apply, assigned, standing, id, role, platform, active, company]

/-- Of those who are no administrators, an assigned caller may decide a pending stage unless an employee. -/
theorem permitsDecision_of_admitted {stage : WorkflowStageRecord}
    (admitted : tables.workflowStagesUpdateAssigneeOrAdmin caller stage = true)
    (employs : tables.currentProfileRole caller ≠ some .employee) (pending : stage.status = .pending) :
    permitsDecision tables caller stage = true := by
  simp only [TenantTables.workflowStagesUpdateAssigneeOrAdmin, ordinary, Bool.or_false, Bool.and_eq_true,
    TenantTables.inCallersCompany, beq_iff_eq] at admitted
  obtain ⟨company, assigned⟩ := admitted
  obtain ⟨profile, found, -⟩ := Option.map_eq_some_iff.mp company
  obtain ⟨role, current⟩ : ∃ role, tables.currentProfileRole caller = some role :=
    ⟨profile.role, by simp [TenantTables.currentProfileRole, found]⟩
  have approves : role = .approver := by
    cases role with
    | employee => exact absurd current employs
    | approver => rfl
    | admin => simp [TenantTables.callerIsAdmin, current] at ordinary
  subst approves
  simp only [TenantTables.assignsCaller, current, Bool.or_eq_true, beq_iff_eq] at assigned
  simp only [permitsDecision, current, Option.any_some, canDecideStage, pending]
  rcases assigned with person | role
  · simp [person]
  · obtain ⟨held, attached, matching⟩ := (Option.any_eq_true ..).mp role
    simp only [beq_iff_eq, Option.some.injEq] at matching
    simp [attached, matching]

end Updates

theorem not_leaves_of_same {sent : Sent} (same : sent.after.stages = sent.before.stages) {position : Nat}
    {stage : WorkflowStageRecord} : ¬Leaves sent position stage := by
  intro ⟨held, pending, left⟩
  simp [same, held, pending] at left

/-- One statement of a caller who is no administrator, after statements that kept every profile's standing. -/
theorem lawful_of_restrained {start : TenantTables} {earlier : List Sent} {sent : Sent}
    (same : sent.before.profiles.rows.map standing = start.profiles.rows.map standing)
    (ordinary : sent.before.callerIsAdmin sent.caller = false) (restrained : Restrained earlier sent) :
    Lawful start earlier sent := by
  obtain ⟨caller, statement, before, after, performed⟩ := sent
  simp only at same ordinary
  rcases performed with rfl | executed
  · exact ⟨same, fun position request held => .inl (by simp [held]),
      fun position stage leaves => absurd leaves (not_leaves_of_same rfl)⟩
  rcases TenantTables.execute_cases executed with rfl | ⟨row, absent, rfl⟩ | ⟨update, profiles, rfl, updated, rfl⟩ |
      ⟨update, requests, rfl, updated, rfl⟩ | ⟨update, stages, rfl, updated, rfl⟩
  · exact ⟨same, fun position request held => .inl (by simp [held]),
      fun position stage leaves => absurd leaves (not_leaves_of_same rfl)⟩
  · refine ⟨same, ?_, fun position stage leaves => absurd leaves (not_leaves_of_same rfl)⟩
    intro position request held
    have within : position < before.requests.rows.length := (List.getElem?_eq_some_iff.mp held).1
    left
    rw [Table.place_rows_of_absent _ row absent, List.getElem?_append_left within]
    simp only [held, Option.map_some]
  · refine ⟨?_, fun position request held => .inl (by simp [held]),
      fun position stage leaves => absurd leaves (not_leaves_of_same rfl)⟩
    exact (standing_of_updateProfiles ordinary updated restrained).trans same
  · refine ⟨same, ?_, fun position stage leaves => absurd leaves (not_leaves_of_same rfl)⟩
    intro position request held
    rcases progress_of_updateRequests updated held with kept | ⟨affected, assigned⟩
    · exact .inl kept
    · rcases restrained position request held affected with kept | decided
      · exact .inl (assigned.trans (congrArg some kept))
      · exact .inr (decided.append _)
  · refine ⟨same, fun position request held => .inl (by simp [held]), ?_⟩
    intro position stage ⟨held, pending, left⟩
    rcases status_of_updateStages updated held with kept | ⟨affected, changed⟩
    · exact absurd (kept.trans (congrArg some pending)) left
    · apply permitsDecision_of_admitted ordinary (RowUpdate.admits_of_affects affected) _ pending
      intro employs
      have kept := restrained employs stage (List.mem_of_getElem? held) pending affected
      exact left (changed.trans (congrArg some kept))

theorem SentRun.standing {start last : TenantTables} {events : List Sent}
    (run : SentRun (Lawful start) start events last) :
    last.profiles.rows.map standing = start.profiles.rows.map standing := by
  cases run with
  | refl => rfl
  | send sent run lawful => exact lawful.profiles

/-- Whatever callers who are not administrators send, as long as they show this restraint. -/
theorem statements_lawful {start last : TenantTables} {events : List Sent} (run : SentRun Restrained start events last)
    (outsiders : ∀ sent ∈ events, ∀ profile ∈ start.profiles.rows, profile.id = sent.caller →
      profile.role ≠ .admin ∧ profile.isPlatformAdmin = false) :
    SentRun (Lawful start) start events last := by
  induction run with
  | refl => exact .refl
  | @send earlier sent run restrained ih =>
      have lawful := ih fun event member => outsiders event (List.mem_append_left _ member)
      have same := SentRun.standing lawful
      have ordinary := callerIsAdmin_of_standing same fun profile member keyed =>
        (outsiders sent (List.mem_append_right _ (List.mem_singleton_self _)) profile member keyed).1
      exact .send sent lawful (lawful_of_restrained same ordinary restrained)

section Samples

def requestedTables : TenantTables := (hubWithRequest "travel").tenantTables

/-- The approver decides the stage that is assigned to the approver. -/
def approval : Sent :=
  Sent.of requestedTables 2 (.updateStages
    { selects := fun stage => stage.id == 1,
      assign := fun stage => { stage with status := .approved, decidedBy := some 2 },
      reads := true })

/-- Then the requester closes the request. -/
def closure : Sent :=
  Sent.of approval.after 1 (.updateRequests
    { selects := fun request => request.id == 1,
      assign := fun request => { request with status := .approved, currentStageId := none },
      reads := false })

theorem approval_decides : Decided [approval] 0 := by
  have shared : (requestedTables.requests.rows[0]?).any (fun request => request.id == 1) = true ∧
      (requestedTables.stages.rows[0]?).any (fun stage => stage.status == .pending && stage.requestId == 1) = true ∧
      (approval.after.stages.rows[0]?).map WorkflowStageRecord.status = some .approved := by
    decide +kernel
  obtain ⟨requested, staged, left⟩ := shared
  obtain ⟨request, held, named⟩ := (Option.any_eq_true ..).mp requested
  obtain ⟨stage, placed, pending⟩ := (Option.any_eq_true ..).mp staged
  simp only [Bool.and_eq_true, beq_iff_eq] at named pending
  refine ⟨approval, List.mem_singleton_self _, request, held, 0, stage, ⟨placed, pending.1, ?_⟩,
    pending.2.trans named.symm⟩
  rw [left]
  decide

theorem statements_lawful_sample :
    SentRun (Lawful requestedTables) requestedTables [approval, closure] closure.after ∧
      (closure.after.requests.find? 1).map progress = some (.approved, none) := by
  have approver : requestedTables.currentProfileRole 2 = some .approver := by decide +kernel
  have alone : approval.after.requests.rows.length = 1 := by decide +kernel
  refine ⟨statements_lawful (.send closure (.send approval .refl ?_) ?_) ?_, by decide +kernel⟩
  · intro employs
    exact absurd (approver.symm.trans employs) (by decide)
  · intro position request held _
    have first : position = 0 := by
      have within := (List.getElem?_eq_some_iff.mp held).1
      change position < approval.after.requests.rows.length at within
      omega
    subst first
    exact .inr approval_decides
  · decide +kernel

/-- An employee makes an administrator of the employee's own profile. -/
def promotion : Sent :=
  Sent.of requestedTables 1 (.updateProfiles
    { selects := fun profile => profile.id == 1,
      assign := fun profile => { profile with role := .admin },
      reads := false })

theorem statements_unlawful :
    ¬∀ (start last : TenantTables) (events : List Sent), SentRun (fun _ _ => True) start events last →
      (∀ sent ∈ events, ∀ profile ∈ start.profiles.rows, profile.id = sent.caller →
        profile.role ≠ .admin ∧ profile.isPlatformAdmin = false) →
      SentRun (Lawful start) start events last := by
  intro always
  have lawful := always requestedTables promotion.after [promotion] (.send promotion .refl trivial) (by decide +kernel)
  exact absurd (SentRun.standing lawful) (by decide +kernel)

end Samples

end AutomationHub.System
