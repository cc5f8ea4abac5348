import AutomationHub.Database.Repositories

/-!
The row-level-security policies of the migrations, as they stand after the last of
them: what a statement sent with a caller's own token may see and write.

A subquery of a policy sees only the rows that the policies of its own table show to
the caller; the functions that are `security definer` see all of them.
-/

set_option autoImplicit false

namespace AutomationHub.Database

open Foundation Model

/-- The tables that the policies look into. -/
structure TenantTables where
  profiles : Table ProfileRecord
  requests : Table RequestRecord
  stages : Table WorkflowStageRecord

def World.tenantTables (world : World) : TenantTables :=
  { profiles := world.profiles, requests := world.requests, stages := world.stages }

namespace TenantTables

/-- The first page of the stages of a request, in ascending order. -/
def firstStages (tables : TenantTables) (requestId : UUID) : List WorkflowStageRecord :=
  (orderBy (fun left right => left.stageOrder ≤ right.stageOrder)
    (tables.stages.rows.filter fun stage => stage.requestId == requestId)).take 100

section Definers

variable (tables : TenantTables) (caller : UUID)

def currentProfileRole : Option UserRole := (tables.profiles.find? caller).map ProfileRecord.role

def currentProfileCompany : Option UUID := (tables.profiles.find? caller).map ProfileRecord.companyId

/-- `public.current_profile_role() = 'admin'`. -/
def callerIsAdmin : Bool := tables.currentProfileRole caller == some .admin

/-- `company_id = public.current_profile_company()`. -/
def inCallersCompany (companyId : UUID) : Bool := tables.currentProfileCompany caller == some companyId

/-- `ws.assigned_to = auth.uid() or ws.assigned_role = public.current_profile_role()`. -/
def assignsCaller (stage : WorkflowStageRecord) : Bool :=
  stage.assignedTo == some caller ||
    stage.assignedRole.any fun role => tables.currentProfileRole caller == some role

/-- `public.request_assigned_to_caller`. -/
def requestAssignedToCaller (requestId : UUID) : Bool :=
  tables.stages.rows.any fun stage => stage.requestId == requestId && tables.assignsCaller caller stage

end Definers

section Policies

variable (tables : TenantTables) (caller : UUID)

def requestsSelect (request : RequestRecord) : Bool :=
  tables.inCallersCompany caller request.companyId &&
    (request.requesterId == caller || tables.callerIsAdmin caller || tables.requestAssignedToCaller caller request.id)

def workflowStagesSelect (stage : WorkflowStageRecord) : Bool :=
  tables.inCallersCompany caller stage.companyId &&
    (tables.assignsCaller caller stage || tables.callerIsAdmin caller ||
      tables.requests.rows.any fun request =>
        tables.requestsSelect caller request && request.id == stage.requestId && request.requesterId == caller)

def profilesSelect (profile : ProfileRecord) : Bool := tables.inCallersCompany caller profile.companyId

def profilesUpdateSelfOrAdmin (profile : ProfileRecord) : Bool :=
  (profile.id == caller || tables.callerIsAdmin caller) && tables.inCallersCompany caller profile.companyId

def requestsInsertOwn (request : RequestRecord) : Bool :=
  request.requesterId == caller && tables.inCallersCompany caller request.companyId

def requestsUpdateOwnOrAdmin (request : RequestRecord) : Bool :=
  tables.inCallersCompany caller request.companyId &&
    (request.requesterId == caller || tables.callerIsAdmin caller)

def workflowStagesUpdateAssigneeOrAdmin (stage : WorkflowStageRecord) : Bool :=
  tables.inCallersCompany caller stage.companyId && (tables.assignsCaller caller stage || tables.callerIsAdmin caller)

/-- Some stage of the request that the caller may see is assigned to the caller. -/
def visiblyAssigned (requestId : UUID) : Bool :=
  tables.stages.rows.any fun stage =>
    tables.workflowStagesSelect caller stage && stage.requestId == requestId && tables.assignsCaller caller stage

/-- `exists (select 1 from public.requests r where r.id = request_id and r.company_id = ... and (condition))`. -/
def parentExists (requestId : UUID) (condition : RequestRecord → Bool) : Bool :=
  tables.requests.rows.any fun request =>
    tables.requestsSelect caller request && request.id == requestId &&
      tables.inCallersCompany caller request.companyId && condition request

def parentSelect (requestId : UUID) : Bool :=
  tables.parentExists caller requestId fun request =>
    request.requesterId == caller || tables.callerIsAdmin caller || tables.visiblyAssigned caller requestId

def parentInsert (requestId : UUID) : Bool :=
  tables.parentExists caller requestId fun request =>
    request.requesterId == caller || tables.visiblyAssigned caller requestId

def parentModerate (requestId : UUID) : Bool :=
  tables.callerIsAdmin caller && tables.parentExists caller requestId fun _ => true

def commentsSelect (comment : CommentRecord) : Bool := tables.parentSelect caller comment.requestId

def commentsInsert (comment : CommentRecord) : Bool :=
  comment.authorId == caller && tables.parentInsert caller comment.requestId

def commentsModerateAdmin (comment : CommentRecord) : Bool := tables.parentModerate caller comment.requestId

def attachmentsSelect (attachment : AttachmentRecord) : Bool := tables.parentSelect caller attachment.requestId

def attachmentsInsert (attachment : AttachmentRecord) : Bool :=
  attachment.uploadedBy == caller && tables.parentInsert caller attachment.requestId

def attachmentsModerateAdmin (attachment : AttachmentRecord) : Bool :=
  tables.parentModerate caller attachment.requestId

/-- The `using` part; its `with check` part asks for the uploader alone. -/
def attachmentsSoftDeleteUploader (attachment : AttachmentRecord) : Bool :=
  attachment.uploadedBy == caller &&
    tables.parentExists caller attachment.requestId fun request => request.status == .pending

/-- A row is inserted and returned. -/
def mayInsertComment (comment : CommentRecord) : Bool :=
  tables.commentsInsert caller comment && tables.commentsSelect caller comment

/-- A row is found, changed and returned. -/
def mayUpdateComment (old new : CommentRecord) : Bool :=
  tables.commentsSelect caller old && tables.commentsModerateAdmin caller old &&
    tables.commentsModerateAdmin caller new && tables.commentsSelect caller new

def mayInsertAttachment (attachment : AttachmentRecord) : Bool :=
  tables.attachmentsInsert caller attachment && tables.attachmentsSelect caller attachment

/-- One of the two policies admits the old row, and one of them the new one. -/
def mayUpdateAttachment (old new : AttachmentRecord) : Bool :=
  tables.attachmentsSelect caller old &&
    (tables.attachmentsModerateAdmin caller old || tables.attachmentsSoftDeleteUploader caller old) &&
    (tables.attachmentsModerateAdmin caller new || new.uploadedBy == caller) && tables.attachmentsSelect caller new

end Policies

theorem currentProfileRole_eq {tables : TenantTables} {caller : UUID} {profile : ProfileRecord}
    (found : tables.profiles.find? caller = some profile) : tables.currentProfileRole caller = some profile.role := by
  rw [currentProfileRole, found, Option.map_some]

theorem currentProfileCompany_eq {tables : TenantTables} {caller : UUID} {profile : ProfileRecord}
    (found : tables.profiles.find? caller = some profile) :
    tables.currentProfileCompany caller = some profile.companyId := by
  rw [currentProfileCompany, found, Option.map_some]

/-- The caller takes part in the request: as its requester, or through a stage of the caller's company. -/
def Joins (tables : TenantTables) (caller : UUID) (profile : ProfileRecord) (request : RequestRecord) : Prop :=
  request.requesterId = caller ∨ ∃ stage ∈ tables.stages.rows, stage.requestId = request.id ∧
    stage.companyId = profile.companyId ∧ (stage.assignedTo = some caller ∨ stage.assignedRole = some profile.role)

section Known

variable {tables : TenantTables} {caller : UUID} {profile : ProfileRecord}
  (found : tables.profiles.find? caller = some profile)

include found

theorem callerIsAdmin_iff : tables.callerIsAdmin caller = true ↔ profile.role = .admin := by
  simp [callerIsAdmin, currentProfileRole_eq found]

theorem inCallersCompany_iff {companyId : UUID} :
    tables.inCallersCompany caller companyId = true ↔ companyId = profile.companyId := by
  simp only [inCallersCompany, currentProfileCompany_eq found, beq_iff_eq, Option.some.injEq]
  exact eq_comm

theorem assignsCaller_iff {stage : WorkflowStageRecord} : tables.assignsCaller caller stage = true ↔
    stage.assignedTo = some caller ∨ stage.assignedRole = some profile.role := by
  simp only [assignsCaller, currentProfileRole_eq found, Bool.or_eq_true, beq_iff_eq, Option.any_eq_true, Option.some.injEq]
  refine or_congr Iff.rfl ?_
  constructor
  · rintro ⟨role, assigned, rfl⟩
    exact assigned
  · intro assigned
    exact ⟨profile.role, assigned, rfl⟩

theorem requestAssignedToCaller_iff {requestId : UUID} : tables.requestAssignedToCaller caller requestId = true ↔
    ∃ stage ∈ tables.stages.rows, stage.requestId = requestId ∧
      (stage.assignedTo = some caller ∨ stage.assignedRole = some profile.role) := by
  simp [requestAssignedToCaller, List.any_eq_true, assignsCaller_iff found]

theorem requestsSelect_iff {request : RequestRecord} : tables.requestsSelect caller request = true ↔
    request.companyId = profile.companyId ∧
      (request.requesterId = caller ∨ profile.role = .admin ∨
        ∃ stage ∈ tables.stages.rows, stage.requestId = request.id ∧
          (stage.assignedTo = some caller ∨ stage.assignedRole = some profile.role)) := by
  simp only [requestsSelect, Bool.and_eq_true, Bool.or_eq_true, inCallersCompany_iff found, callerIsAdmin_iff found,
    requestAssignedToCaller_iff found, beq_iff_eq, or_assoc]

theorem visiblyAssigned_iff {requestId : UUID} : tables.visiblyAssigned caller requestId = true ↔
    ∃ stage ∈ tables.stages.rows, stage.requestId = requestId ∧ stage.companyId = profile.companyId ∧
      (stage.assignedTo = some caller ∨ stage.assignedRole = some profile.role) := by
  simp only [visiblyAssigned, List.any_eq_true, Bool.and_eq_true, beq_iff_eq]
  refine exists_congr fun stage => and_congr Iff.rfl ?_
  constructor
  · rintro ⟨⟨seen, ofRequest⟩, assigned⟩
    rw [workflowStagesSelect, Bool.and_eq_true, inCallersCompany_iff found] at seen
    exact ⟨ofRequest, seen.1, (assignsCaller_iff found).mp assigned⟩
  · rintro ⟨ofRequest, company, assigned⟩
    have named := (assignsCaller_iff found).mpr assigned
    refine ⟨⟨?_, ofRequest⟩, named⟩
    simp [workflowStagesSelect, (inCallersCompany_iff found).mpr company, named]

variable {requestId : UUID} {request : RequestRecord} (live : tables.requests.find? requestId = some request)

include live

theorem parentExists_iff {condition : RequestRecord → Bool} : tables.parentExists caller requestId condition = true ↔
    tables.requestsSelect caller request = true ∧ request.companyId = profile.companyId ∧ condition request = true := by
  obtain ⟨member, keyed⟩ := (Table.find?_eq_some_iff ..).mp live
  simp only [parentExists, List.any_eq_true, Bool.and_eq_true, beq_iff_eq, inCallersCompany_iff found]
  constructor
  · rintro ⟨other, present, ⟨⟨seen, named⟩, company⟩, holds⟩
    obtain rfl : other = request := tables.requests.eq_of_key_eq present member (named.trans keyed.symm)
    exact ⟨seen, company, holds⟩
  · rintro ⟨seen, company, holds⟩
    exact ⟨request, member, ⟨⟨seen, keyed⟩, company⟩, holds⟩

theorem parentInsert_iff : tables.parentInsert caller requestId = true ↔
    request.companyId = profile.companyId ∧ Joins tables caller profile request := by
  have keyed : request.id = requestId := ((Table.find?_eq_some_iff ..).mp live).2
  rw [parentInsert, parentExists_iff found live, requestsSelect_iff found, Bool.or_eq_true, beq_iff_eq,
    visiblyAssigned_iff found, ← keyed]
  constructor
  · rintro ⟨-, company, joins⟩
    exact ⟨company, joins⟩
  · rintro ⟨company, joins⟩
    refine ⟨⟨company, ?_⟩, company, joins⟩
    rcases joins with made | ⟨stage, member, ofRequest, -, named⟩
    · exact .inl made
    · exact .inr (.inr ⟨stage, member, ofRequest, named⟩)

theorem parentSelect_iff : tables.parentSelect caller requestId = true ↔
    request.companyId = profile.companyId ∧ (profile.role = .admin ∨ Joins tables caller profile request) := by
  have keyed : request.id = requestId := ((Table.find?_eq_some_iff ..).mp live).2
  rw [parentSelect, parentExists_iff found live, requestsSelect_iff found]
  simp only [Bool.or_eq_true, beq_iff_eq, visiblyAssigned_iff found, callerIsAdmin_iff found, ← keyed]
  constructor
  · rintro ⟨-, company, (made | administrator) | assigned⟩
    · exact ⟨company, .inr (.inl made)⟩
    · exact ⟨company, .inl administrator⟩
    · exact ⟨company, .inr (.inr assigned)⟩
  · rintro ⟨company, administrator | made | assigned⟩
    · exact ⟨⟨company, .inr (.inl administrator)⟩, company, .inl (.inr administrator)⟩
    · exact ⟨⟨company, .inl made⟩, company, .inl (.inl made)⟩
    · obtain ⟨stage, member, ofRequest, own, named⟩ := assigned
      exact ⟨⟨company, .inr (.inr ⟨stage, member, ofRequest, named⟩)⟩, company, .inr ⟨stage, member, ofRequest, own, named⟩⟩

theorem parentModerate_iff : tables.parentModerate caller requestId = true ↔
    profile.role = .admin ∧ request.companyId = profile.companyId := by
  rw [parentModerate, Bool.and_eq_true, callerIsAdmin_iff found, parentExists_iff found live, requestsSelect_iff found]
  constructor
  · rintro ⟨administrator, -, company, -⟩
    exact ⟨administrator, company⟩
  · rintro ⟨administrator, company⟩
    exact ⟨administrator, ⟨company, .inr (.inl administrator)⟩, company, rfl⟩

theorem requestsSelect_of_parentSelect (seen : tables.parentSelect caller requestId = true) :
    tables.requestsSelect caller request = true :=
  ((parentExists_iff found live).mp seen).1

end Known

end TenantTables

end AutomationHub.Database
