import AutomationHub.Foundation.Rely
import AutomationHub.System.PinnedDefinitions
import AutomationHub.System.StageStaffing

/-!
Whose profiles the stages of a company's requests are assigned to.

The assignees of a submitted document are looked up by id, in every company.
-/

set_option autoImplicit false

namespace AutomationHub.System

open Foundation Model Database Services Auth Workflow Program Table

def OwnProfile (world : World) (companyId user : UUID) : Prop :=
  ∃ profile ∈ world.profiles.rows, profile.id = user ∧ profile.companyId = companyId

/-- The users that the `specific_user` stages of a document name. -/
def namedUsers (document : WorkflowDefinitionDocument) : List UUID :=
  document.stages.filterMap specificAssignee

/-- Each user that the document names has a profile in the company. -/
def OwnDocument (world : World) (companyId : UUID) (document : WorkflowDefinitionDocument) : Prop :=
  ∀ user ∈ namedUsers document, OwnProfile world companyId user

def KnownDocument (world : World) (document : WorkflowDefinitionDocument) : Prop :=
  ∀ user ∈ namedUsers document, ∃ profile ∈ world.profiles.rows, profile.id = user

/-- If the submitted stages are a valid document that names existing users, then it names users of the company. -/
def NamesOwn (world : World) (companyId : UUID) (definition : List StageDefinitionInput) : Prop :=
  ∀ document, WorkflowDefinitionDocument.validate definition = some document → KnownDocument world document →
    OwnDocument world companyId document

def CompanyDefinition (world : World) (companyId definitionId : UUID) : Prop :=
  definitionId < world.definitions.next ∧
    ∀ row ∈ world.definitions.rows, row.id = definitionId → row.companyId = companyId

def OwnRequest (world : World) (companyId requestId : UUID) : Prop :=
  ∃ request ∈ world.requests.rows, request.id = requestId ∧ request.companyId = companyId

/-- The user has a profile in the company of the request. -/
def Assignable (world : World) (requestId user : UUID) : Prop :=
  ∃ request ∈ world.requests.rows, request.id = requestId ∧ OwnProfile world request.companyId user

def StageAssignable (world : World) (stageId user : UUID) : Prop :=
  stageId < world.stages.next ∧ ∀ stage ∈ world.stages.rows, stage.id = stageId → Assignable world stage.requestId user

/-- The definitions name, and the stages are assigned to, nobody outside the company. -/
structure TenantAssigned (world : World) : Prop where
  documents : ∀ row ∈ world.definitions.rows, OwnDocument world row.companyId row.definition
  pinned : ∀ request ∈ world.requests.rows, CompanyDefinition world request.companyId request.workflowDefinitionId
  assigned : ∀ stage ∈ world.stages.rows, ∀ user, stage.assignedTo = some user → Assignable world stage.requestId user

theorem assignable_of_own {world : World} {companyId requestId user : UUID} (request : OwnRequest world companyId requestId)
    (own : OwnProfile world companyId user) : Assignable world requestId user := by
  obtain ⟨row, member, named, company⟩ := request
  exact ⟨row, member, named, company ▸ own⟩

section Onward

/-- What every call leaves as it was: the profiles, the company of a request, and what the ids of definitions and stages
stand for. -/
structure Onward (before after : World) : Prop where
  profiles : after.profiles = before.profiles
  requests : ∀ old ∈ before.requests.rows, ∃ new ∈ after.requests.rows, new.id = old.id ∧ new.companyId = old.companyId
  stageIds : before.stages.next ≤ after.stages.next
  stages : ∀ new ∈ after.stages.rows, new.id < before.stages.next →
    ∃ old ∈ before.stages.rows, old.id = new.id ∧ old.requestId = new.requestId
  definitionIds : before.definitions.next ≤ after.definitions.next
  definitions : ∀ new ∈ after.definitions.rows, new.id < before.definitions.next →
    ∃ old ∈ before.definitions.rows, old.id = new.id ∧ old.companyId = new.companyId

variable {world after before : World}

theorem Onward.refl (world : World) : Onward world world where
  profiles := rfl
  requests := fun row member => ⟨row, member, rfl, rfl⟩
  stageIds := Nat.le_refl _
  stages := fun row member _ => ⟨row, member, rfl, rfl⟩
  definitionIds := Nat.le_refl _
  definitions := fun row member _ => ⟨row, member, rfl, rfl⟩

theorem Onward.trans (left : Onward before world) (right : Onward world after) : Onward before after where
  profiles := right.profiles.trans left.profiles
  requests := by
    intro old member
    obtain ⟨middle, present, sameId, sameCompany⟩ := left.requests old member
    obtain ⟨new, found, newId, newCompany⟩ := right.requests middle present
    exact ⟨new, found, newId.trans sameId, newCompany.trans sameCompany⟩
  stageIds := left.stageIds.trans right.stageIds
  stages := by
    intro new member known
    obtain ⟨middle, present, sameId, sameRequest⟩ := right.stages new member (known.trans_le left.stageIds)
    obtain ⟨old, found, oldId, oldRequest⟩ := left.stages middle present (sameId ▸ known)
    exact ⟨old, found, oldId.trans sameId, oldRequest.trans sameRequest⟩
  definitionIds := left.definitionIds.trans right.definitionIds
  definitions := by
    intro new member known
    obtain ⟨middle, present, sameId, sameCompany⟩ := right.definitions new member (known.trans_le left.definitionIds)
    obtain ⟨old, found, oldId, oldCompany⟩ := left.definitions middle present (sameId ▸ known)
    exact ⟨old, found, oldId.trans sameId, oldCompany.trans sameCompany⟩

theorem kept_requests {statement : Query} (change : world.Change statement after) (old : RequestRecord)
    (member : old ∈ world.requests.rows) :
    ∃ new ∈ after.requests.rows, new.id = old.id ∧ new.companyId = old.companyId := by
  cases change with
  | @request _ id version edit row update found current =>
      refine ⟨editRow id (stamped edit version) old, List.mem_map_of_mem member,
        key_editRow id (stamped edit version) old, ?_⟩
      unfold editRow
      split
      · exact (update.fixed old).companyId
      · rfl
  | newRequest => exact ⟨old, List.mem_append_left _ member, rfl, rfl⟩
  | elsewhere same => exact ⟨old, same ▸ member, rfl, rfl⟩
  | _ => exact ⟨old, member, rfl, rfl⟩

theorem kept_definitions {statement : Query} (change : world.DefinitionChange statement after) (new : WorkflowDefinition)
    (member : new ∈ after.definitions.rows) (known : new.id < world.definitions.next) :
    ∃ old ∈ world.definitions.rows, old.id = new.id ∧ old.companyId = new.companyId := by
  cases change with
  | update update found current =>
      rcases (mem_modify ..).mp member with ⟨kept, -⟩ | ⟨old, present, -, rfl⟩
      · exact ⟨new, kept, rfl, rfl⟩
      · cases update <;> exact ⟨old, present, rfl, rfl⟩
  | new =>
      rcases (mem_insert ..).mp member with present | rfl
      · exact ⟨new, present, rfl, rfl⟩
      · exact absurd known (Nat.lt_irrefl _)
  | removed => exact ⟨new, ((mem_erase ..).mp member).1, rfl, rfl⟩
  | elsewhere same => exact ⟨new, same ▸ member, rfl, rfl⟩

theorem onward_of_mayFail {ι : Type} {thread : ι} {request : Call} {reply : request.Reply}
    (step : mayFail thread world request reply after) : Onward world after where
  profiles := by
    rcases World.change_of_mayFail step with ⟨statement, changed, -, change, rfl⟩ | ⟨-, -, same⟩
    · exact change.profiles
    · exact same
  requests := by
    intro old member
    rcases World.change_of_mayFail step with ⟨statement, changed, -, change, rfl⟩ | ⟨same, -, -⟩
    · exact kept_requests change old member
    · exact ⟨old, same ▸ member, rfl, rfl⟩
  stageIds := (World.evolves_stages_of_mayFail step).next_le
  stages := by
    intro new member known
    rcases World.stage_origin_of_mayFail step member with ⟨old, present, same⟩ | fresh
    · exact ⟨old, present, same.id.symm, same.requestId.symm⟩
    · exact absurd known (Nat.not_lt_of_le fresh)
  definitionIds := (World.evolves_definitions_of_mayFail step).next_le
  definitions := by
    intro new member known
    rcases World.definitionChange_of_mayFail step with ⟨statement, changed, -, change, rfl⟩ | same
    · exact kept_definitions change new member known
    · exact ⟨new, same ▸ member, rfl, rfl⟩

variable (gone : Onward world after)

include gone

theorem OwnProfile.later {companyId user : UUID} (own : OwnProfile world companyId user) :
    OwnProfile after companyId user := by
  unfold OwnProfile
  rw [gone.profiles]
  exact own

theorem OwnDocument.later {companyId : UUID} {document : WorkflowDefinitionDocument}
    (own : OwnDocument world companyId document) : OwnDocument after companyId document :=
  fun user named => (own user named).later gone

theorem NamesOwn.later {companyId : UUID} {definition : List StageDefinitionInput}
    (own : NamesOwn world companyId definition) : NamesOwn after companyId definition := by
  intro document valid known
  unfold KnownDocument at known
  rw [gone.profiles] at known
  exact (own document valid known).later gone

theorem CompanyDefinition.later {companyId definitionId : UUID} (own : CompanyDefinition world companyId definitionId) :
    CompanyDefinition after companyId definitionId := by
  refine ⟨own.1.trans_le gone.definitionIds, ?_⟩
  intro row member named
  obtain ⟨old, present, sameId, sameCompany⟩ := gone.definitions row member (named ▸ own.1)
  exact sameCompany.symm.trans (own.2 old present (sameId.trans named))

theorem OwnRequest.later {companyId requestId : UUID} (own : OwnRequest world companyId requestId) :
    OwnRequest after companyId requestId := by
  obtain ⟨request, member, named, company⟩ := own
  obtain ⟨new, present, sameId, sameCompany⟩ := gone.requests request member
  exact ⟨new, present, sameId.trans named, sameCompany.trans company⟩

theorem Assignable.later {requestId user : UUID} (assignable : Assignable world requestId user) :
    Assignable after requestId user := by
  obtain ⟨request, member, named, own⟩ := assignable
  obtain ⟨new, present, sameId, sameCompany⟩ := gone.requests request member
  exact ⟨new, present, sameId.trans named, sameCompany ▸ own.later gone⟩

theorem StageAssignable.later {stageId user : UUID} (assignable : StageAssignable world stageId user) :
    StageAssignable after stageId user := by
  refine ⟨assignable.1.trans_le gone.stageIds, ?_⟩
  intro stage member named
  obtain ⟨old, present, sameId, sameRequest⟩ := gone.stages stage member (named ▸ assignable.1)
  exact sameRequest ▸ (assignable.2 old present (sameId.trans named)).later gone

end Onward

section Permissions

/-- The calls that give stages, requests and definitions their users: each names users of the right company. -/
def Permitted (world : World) : Call → Prop
  | .query (.createDefinition _ _ _ definition _ companyId) => OwnDocument world companyId definition
  | .query (.updateInactiveDefinition _ definitionId _ definition) =>
      ∃ companyId, CompanyDefinition world companyId definitionId ∧ OwnDocument world companyId definition
  | .query (.createRequest _ definitionId _ _ companyId _ _) => CompanyDefinition world companyId definitionId
  | .query (.createStage requestId _ _ _ _ assignedTo) => ∀ user, assignedTo = some user → Assignable world requestId user
  | .query (.escalateStage stageId _ assignedTo _) => ∀ user, assignedTo = some user → StageAssignable world stageId user
  | _ => True

/-- The other calls. -/
def NamesNobody : Call → Prop
  | .query (.createDefinition ..) | .query (.updateInactiveDefinition ..) | .query (.createRequest ..)
  | .query (.createStage ..) | .query (.escalateStage ..) => False
  | _ => True

theorem NamesNobody.permitted (world : World) (request : Call) (harmless : NamesNobody request) :
    Permitted world request := by
  cases request with
  | query statement => cases statement <;> trivial
  | _ => trivial

theorem Permitted.later {world after : World} {request : Call} (gone : Onward world after)
    (permitted : Permitted world request) : Permitted after request := by
  cases request with
  | query statement =>
      cases statement with
      | createDefinition => exact OwnDocument.later gone permitted
      | updateInactiveDefinition =>
          obtain ⟨companyId, own, named⟩ := permitted
          exact ⟨companyId, own.later gone, named.later gone⟩
      | createRequest => exact CompanyDefinition.later gone permitted
      | createStage => exact fun user assigned => (permitted user assigned).later gone
      | escalateStage => exact fun user assigned => (permitted user assigned).later gone
      | _ => trivial
  | _ => trivial

variable {world after : World}

theorem documents_kept {statement : Query} (change : world.DefinitionChange statement after)
    (permitted : Permitted world (.query statement)) (assigned : TenantAssigned world) (row : WorkflowDefinition)
    (member : row ∈ after.definitions.rows) : OwnDocument world row.companyId row.definition := by
  cases change with
  | update update found current =>
      rcases (mem_modify ..).mp member with ⟨kept, -⟩ | ⟨old, present, keyed, rfl⟩
      · exact assigned.documents row kept
      · cases update with
        | document viewer definitionId version definition =>
            obtain ⟨companyId, own, named⟩ := permitted
            have company : old.companyId = companyId := own.2 old present keyed
            exact company ▸ named
        | deactivate | activate => exact assigned.documents old present
  | new =>
      rcases (mem_insert ..).mp member with present | rfl
      · exact assigned.documents row present
      · exact permitted
  | removed => exact assigned.documents row ((mem_erase ..).mp member).1
  | elsewhere same => exact assigned.documents row (same ▸ member)

theorem pinned_kept {statement : Query} (change : world.Change statement after)
    (permitted : Permitted world (.query statement)) (assigned : TenantAssigned world) (request : RequestRecord)
    (member : request ∈ after.requests.rows) : CompanyDefinition world request.companyId request.workflowDefinitionId := by
  cases change with
  | request update found current =>
      rcases (mem_modify ..).mp member with ⟨kept, -⟩ | ⟨old, present, -, rfl⟩
      · exact assigned.pinned request kept
      · have same := update.fixed old
        rw [same.companyId, same.workflowDefinitionId]
        exact assigned.pinned old present
  | newRequest =>
      rcases (mem_insert ..).mp member with present | rfl
      · exact assigned.pinned request present
      · exact permitted
  | elsewhere same => exact assigned.pinned request (same ▸ member)
  | _ => exact assigned.pinned request member

theorem assigned_kept {statement : Query} (change : world.Change statement after)
    (permitted : Permitted world (.query statement)) (assigned : TenantAssigned world) (stage : WorkflowStageRecord)
    (member : stage ∈ after.stages.rows) (user : UUID) (assignee : stage.assignedTo = some user) :
    Assignable world stage.requestId user := by
  cases change with
  | stage update found current =>
      rcases World.mem_modify_stages member with ⟨kept, -⟩ | ⟨old, present, keyed, rfl⟩
      · exact assigned.assigned stage kept user assignee
      · cases update with
        | escalate stageId version assignedTo assignedRole => exact (permitted user assignee).2 old present keyed
        | approve | reject | revert => exact assigned.assigned old present user assignee
  | newStage =>
      rcases (mem_insert ..).mp member with present | rfl
      · exact assigned.assigned stage present user assignee
      · exact permitted user assignee
  | removedStage => exact assigned.assigned stage ((mem_erase ..).mp member).1 user assignee
  | elsewhere _ same => exact assigned.assigned stage (same ▸ member) user assignee
  | _ => exact assigned.assigned stage member user assignee

theorem TenantAssigned.mayFail {ι : Type} {thread : ι} {request : Call} {reply : request.Reply}
    (assigned : TenantAssigned world) (permitted : Permitted world request)
    (step : mayFail thread world request reply after) : TenantAssigned after where
  documents := by
    intro row member
    apply OwnDocument.later (onward_of_mayFail step)
    rcases World.definitionChange_of_mayFail step with ⟨statement, changed, rfl, change, rfl⟩ | same
    · exact documents_kept change permitted assigned row member
    · exact assigned.documents row (same ▸ member)
  pinned := by
    intro row member
    apply CompanyDefinition.later (onward_of_mayFail step)
    rcases World.change_of_mayFail step with ⟨statement, changed, rfl, change, rfl⟩ | ⟨same, -, -⟩
    · exact pinned_kept change permitted assigned row member
    · exact assigned.pinned row (same ▸ member)
  assigned := by
    intro stage member user assignee
    apply Assignable.later (onward_of_mayFail step)
    rcases World.change_of_mayFail step with ⟨statement, changed, rfl, change, rfl⟩ | ⟨-, same, -⟩
    · exact assigned_kept change permitted assigned stage member user assignee
    · exact assigned.assigned stage (same ▸ member) user assignee

/-- The threads of the hub rely on each other for the tenancy of the assignees. -/
def tenantReliance : Reliance hubSignature World where
  onward := Onward
  inv := TenantAssigned
  permits := Permitted
  effect := fun world request reply after => mayFail () world request reply after
  refl := Onward.refl
  trans := Onward.trans
  lasting := Permitted.later
  kept := TenantAssigned.mayFail
  proceeds := onward_of_mayFail

end Permissions

end AutomationHub.System
