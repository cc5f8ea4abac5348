import AutomationHub.Database.RepositoryProperties

/-!
The rows of one company, and states that agree on them.
-/

set_option autoImplicit false

namespace AutomationHub.Database

open Foundation Model Table

/-- The rows that belong to one company. -/
structure CompanyRows where
  profiles : List ProfileRecord
  definitions : List WorkflowDefinition
  requests : List RequestRecord
  stages : List WorkflowStageRecord
  audit : List AuditLogRecord
  comments : List CommentRecord
  attachments : List AttachmentRecord
  notifications : List NotificationRecord
  preferences : List NotificationPreferenceRecord
  jobs : List JobRecord

namespace World

def ownsProfile (world : World) (companyId profileId : UUID) : Bool :=
  world.profiles.rows.any fun profile => profile.companyId == companyId && profile.id == profileId

def ownsRequest (world : World) (companyId requestId : UUID) : Bool :=
  world.requests.rows.any fun request => request.companyId == companyId && request.id == requestId

/-- An audit entry that names no company belongs to that of its actor and to that of its request. -/
def ownsEntry (world : World) (companyId : UUID) (entry : AuditLogRecord) : Bool :=
  match entry.companyId with
  | some owner => owner == companyId
  | none => entry.actorId.any (world.ownsProfile companyId) || entry.requestId.any (world.ownsRequest companyId)

/-- A job names no company; it belongs to that of its actor and to that of its request. -/
def ownsJob (world : World) (companyId : UUID) (job : JobRecord) : Bool :=
  job.actorId.any (world.ownsProfile companyId) || job.requestId.any (world.ownsRequest companyId)

def rowsOf (world : World) (companyId : UUID) : CompanyRows :=
  { profiles := world.profiles.rows.filter fun profile => profile.companyId == companyId,
    definitions := world.definitions.rows.filter fun definition => definition.companyId == companyId,
    requests := world.requests.rows.filter fun request => request.companyId == companyId,
    stages := world.stages.rows.filter fun stage => stage.companyId == companyId,
    audit := world.audit.rows.filter (world.ownsEntry companyId),
    comments := world.comments.rows.filter fun comment => world.ownsRequest companyId comment.requestId,
    attachments := world.attachments.rows.filter fun attachment => world.ownsRequest companyId attachment.requestId,
    notifications := world.notifications.rows.filter fun notification =>
      world.ownsProfile companyId notification.recipientId,
    preferences := world.preferences.rows.filter fun preference => world.ownsProfile companyId preference.userId,
    jobs := world.jobs.rows.filter (world.ownsJob companyId) }

/-- The stages refer to requests that exist. -/
def StagesParented (world : World) : Prop :=
  ∀ stage ∈ world.stages.rows, ∃ request ∈ world.requests.rows, request.id = stage.requestId

/-- The two states differ in rows of other companies only. -/
structure AgreeFor (companyId : UUID) (left right : World) : Prop where
  clock : left.clock = right.clock
  ticks : left.ticks = right.ticks
  textSearch : left.textSearch = right.textSearch
  rows : left.rowsOf companyId = right.rowsOf companyId

section Agreement

variable {companyId : UUID} {left right : World}

theorem ownsProfile_eq (world : World) (profileId : UUID) : world.ownsProfile companyId profileId =
    (world.rowsOf companyId).profiles.any fun profile => profile.id == profileId := by
  simp [World.ownsProfile, World.rowsOf, List.any_filter]

theorem ownsRequest_eq (world : World) (requestId : UUID) : world.ownsRequest companyId requestId =
    (world.rowsOf companyId).requests.any fun request => request.id == requestId := by
  simp [World.ownsRequest, World.rowsOf, List.any_filter]

theorem ownsProfile_iff {world : World} {profileId : UUID} : world.ownsProfile companyId profileId = true ↔
    ∃ profile, world.profiles.find? profileId = some profile ∧ profile.companyId = companyId := by
  simp only [World.ownsProfile, List.any_eq_true, Bool.and_eq_true, beq_iff_eq, find?_eq_some_iff]
  constructor
  · intro owned
    obtain ⟨profile, member, owned, named⟩ := owned
    exact ⟨profile, ⟨member, named⟩, owned⟩
  · intro found
    obtain ⟨profile, ⟨member, named⟩, owned⟩ := found
    exact ⟨profile, member, owned, named⟩

theorem AgreeFor.symm (agree : AgreeFor companyId left right) : AgreeFor companyId right left where
  clock := agree.clock.symm
  ticks := agree.ticks.symm
  textSearch := agree.textSearch.symm
  rows := agree.rows.symm

theorem AgreeFor.tick (agree : AgreeFor companyId left right) :
    AgreeFor companyId left.tick right.tick where
  clock := agree.clock
  ticks := congrArg (· + 1) agree.ticks
  textSearch := agree.textSearch
  rows := agree.rows

theorem AgreeFor.now (agree : AgreeFor companyId left right) : left.now = right.now := by
  rw [World.now, World.now, agree.clock, agree.ticks]

theorem AgreeFor.profiles (agree : AgreeFor companyId left right) :
    left.profiles.rows.filter (fun profile => profile.companyId == companyId) =
      right.profiles.rows.filter fun profile => profile.companyId == companyId :=
  congrArg CompanyRows.profiles agree.rows

theorem AgreeFor.requests (agree : AgreeFor companyId left right) :
    left.requests.rows.filter (fun request => request.companyId == companyId) =
      right.requests.rows.filter fun request => request.companyId == companyId :=
  congrArg CompanyRows.requests agree.rows

theorem AgreeFor.stages (agree : AgreeFor companyId left right) :
    left.stages.rows.filter (fun stage => stage.companyId == companyId) =
      right.stages.rows.filter fun stage => stage.companyId == companyId :=
  congrArg CompanyRows.stages agree.rows

theorem AgreeFor.ownsProfile (agree : AgreeFor companyId left right) :
    left.ownsProfile companyId = right.ownsProfile companyId := by
  funext profileId
  rw [ownsProfile_eq, ownsProfile_eq, agree.rows]

theorem AgreeFor.ownsRequest (agree : AgreeFor companyId left right) :
    left.ownsRequest companyId = right.ownsRequest companyId := by
  funext requestId
  rw [ownsRequest_eq, ownsRequest_eq, agree.rows]

theorem AgreeFor.ownsEntry (agree : AgreeFor companyId left right) :
    left.ownsEntry companyId = right.ownsEntry companyId := by
  funext entry
  rw [World.ownsEntry, World.ownsEntry, agree.ownsProfile, agree.ownsRequest]

theorem AgreeFor.ownsJob (agree : AgreeFor companyId left right) :
    left.ownsJob companyId = right.ownsJob companyId := by
  funext job
  rw [World.ownsJob, World.ownsJob, agree.ownsProfile, agree.ownsRequest]

theorem AgreeFor.auditLogsListed (agree : AgreeFor companyId left right) (filter : AuditFilter) :
    left.auditLogsListed companyId filter = right.auditLogsListed companyId filter := by
  have rows : left.audit.rows.filter (left.ownsEntry companyId) = right.audit.rows.filter (left.ownsEntry companyId) := by
    have audit := congrArg CompanyRows.audit agree.rows
    simpa only [World.rowsOf, ← agree.ownsEntry] using audit
  refine congrArg (newestFirst AuditLogRecord.createdAt) (filter_of_agree rows ?_)
  intro entry selected
  simp only [Bool.and_eq_true, beq_iff_eq] at selected
  simp [World.ownsEntry, selected.1]

theorem AgreeFor.overdueStages (agree : AgreeFor companyId left right) (createdBefore : Datetime) :
    left.overdueStages createdBefore companyId = right.overdueStages createdBefore companyId := by
  refine congrArg (orderBy _) (filter_of_agree agree.stages ?_)
  intro stage selected
  simp only [Bool.and_eq_true] at selected
  exact selected.1.1

theorem AgreeFor.profilesByRole (agree : AgreeFor companyId left right) (role : UserRole)
    (department : Option String) :
    left.profilesByRole role companyId department = right.profilesByRole role companyId department := by
  refine congrArg (orderBy _) (filter_of_agree agree.profiles ?_)
  intro profile selected
  simp only [Bool.and_eq_true] at selected
  exact selected.1.1.2

theorem AgreeFor.profilesNamed (agree : AgreeFor companyId left right) (queryText : String) :
    left.profilesNamed queryText companyId = right.profilesNamed queryText companyId := by
  unfold World.profilesNamed
  rw [agree.textSearch]
  refine congrArg (orderBy _) (filter_of_agree agree.profiles ?_)
  intro profile selected
  simp only [Bool.and_eq_true] at selected
  exact selected.1.2

end Agreement

end World

end AutomationHub.Database
