import AutomationHub.System.DefinitionClients
import Mathlib.Data.List.Dedup

/-!
The version numbers of one company and request type.

The next number is found on the newest page of the versions. It is greater than all of
them as long as later versions carry greater numbers, which every operation preserves.
-/

set_option autoImplicit false

namespace AutomationHub.System

open Foundation Model Database Services Auth Workflow Program Table

def versionsOf (world : World) (companyId : UUID) (requestType : String) : List WorkflowDefinition :=
  world.definitions.rows.filter fun row => row.companyId == companyId && row.requestType == requestType

/-- No version is younger than the versions that the operation creates. -/
def Younger (companyId : UUID) (requestType : String) (world after : World) : Prop :=
  ∀ created ∈ versionsOf after companyId requestType, (∀ row ∈ world.definitions.rows, row.id ≠ created.id) →
    ∀ row ∈ versionsOf world companyId requestType, row.createdAt < created.createdAt

/-- Whole operations on definitions one after another, whoever calls them, and between them any calls that write no
definition; the versions of the company and request type are created at strictly increasing instants. -/
inductive VersionRun (companyId : UUID) (requestType : String) (start : World) : World → Prop
  | start : VersionRun companyId requestType start start
  | operation {world : World} (earlier : VersionRun companyId requestType start world) (client : Option UUID)
      (identity : AuthenticatedIdentity) (command : ManagementCall)
      (younger : Younger companyId requestType world ((command.program client identity).run environment world).2) :
      VersionRun companyId requestType start ((command.program client identity).run environment world).2
  | call {world : World} (earlier : VersionRun companyId requestType start world) (request : Call)
      (other : ∀ statement, request = .query statement → statement.writesDefinitions = false) :
      VersionRun companyId requestType start (environment request world).2
  | profiles {world : World} (earlier : VersionRun companyId requestType start world)
      (profiles : Table ProfileRecord) : VersionRun companyId requestType start { world with profiles }

/-- Versions have different numbers, and no version has a smaller one than an older version. -/
structure InStep (companyId : UUID) (requestType : String) (world : World) : Prop where
  distinct : ∀ first ∈ versionsOf world companyId requestType, ∀ second ∈ versionsOf world companyId requestType,
    first.version = second.version → first.id = second.id
  ascending : ∀ first ∈ versionsOf world companyId requestType, ∀ second ∈ versionsOf world companyId requestType,
    first.createdAt ≤ second.createdAt → first.version ≤ second.version

/-- The caller is an administrator of the company whose token is valid, the document is, and its assignees exist. -/
structure Creatable (world : World) (identity : AuthenticatedIdentity) (definition : List StageDefinitionInput) :
    Prop where
  administers : Administers world identity
  current : ¬TokenExpired world identity
  document : ∃ document, WorkflowDefinitionDocument.validate definition = some document ∧
    ∀ stage ∈ document.stages, ∀ assignee, specificAssignee stage = some assignee → world.hasProfile assignee = true

section Descent

variable {companyId : UUID} {requestType : String} {world after : World}

theorem mem_versionsOf {row : WorkflowDefinition} : row ∈ versionsOf world companyId requestType ↔
    row ∈ world.definitions.rows ∧ row.companyId = companyId ∧ row.requestType = requestType := by
  simp [versionsOf]

/-- The columns of a version that no operation writes. -/
structure SameVersion (old row : WorkflowDefinition) : Prop where
  id : old.id = row.id
  version : old.version = row.version
  createdAt : old.createdAt = row.createdAt
  companyId : old.companyId = row.companyId
  requestType : old.requestType = row.requestType

/-- Each version is one of those there were. -/
def Descends (world after : World) : Prop :=
  ∀ row ∈ after.definitions.rows, ∃ old ∈ world.definitions.rows, SameVersion old row

theorem Descends.of_definitions (same : after.definitions = world.definitions) : Descends world after :=
  fun row member => ⟨row, same ▸ member, rfl, rfl, rfl, rfl, rfl⟩

theorem Descends.trans {last : World} (first : Descends world after) (second : Descends after last) :
    Descends world last := by
  intro row member
  obtain ⟨middle, reached, onward⟩ := second row member
  obtain ⟨old, present, same⟩ := first middle reached
  exact ⟨old, present, same.id.trans onward.id, same.version.trans onward.version,
    same.createdAt.trans onward.createdAt, same.companyId.trans onward.companyId,
    same.requestType.trans onward.requestType⟩

theorem Descends.version (descends : Descends world after) {row : WorkflowDefinition}
    (member : row ∈ versionsOf after companyId requestType) :
    ∃ old ∈ versionsOf world companyId requestType, SameVersion old row := by
  obtain ⟨present, company, type⟩ := mem_versionsOf.mp member
  obtain ⟨old, known, same⟩ := descends row present
  exact ⟨old, mem_versionsOf.mpr ⟨known, same.companyId.trans company, same.requestType.trans type⟩, same⟩

theorem InStep.descends (inStep : InStep companyId requestType world) (descends : Descends world after) :
    InStep companyId requestType after := by
  constructor
  · intro first left second right number
    obtain ⟨older, reached, same⟩ := descends.version left
    obtain ⟨other, present, alike⟩ := descends.version right
    have ids := inStep.distinct older reached other present (same.version.trans (number.trans alike.version.symm))
    exact same.id.symm.trans (ids.trans alike.id)
  · intro first left second right age
    obtain ⟨older, reached, same⟩ := descends.version left
    obtain ⟨other, present, alike⟩ := descends.version right
    rw [← same.version, ← alike.version]
    exact inStep.ascending older reached other present (by rw [same.createdAt, alike.createdAt]; exact age)

/-- The statement creates no version. -/
def CreatesNone : Call → Prop
  | .query (.createDefinition ..) => False
  | _ => True

theorem sameVersion_of_update {statement : Query} {id version : Nat} {edit : Edit WorkflowDefinition}
    (update : World.DefinitionUpdate statement id version edit) (row : WorkflowDefinition) :
    SameVersion row ((stamped edit version).apply row) := by
  cases update <;> exact ⟨rfl, rfl, rfl, rfl, rfl⟩

theorem descends_of_call {request : Call} (creates : CreatesNone request) :
    Descends world (environment request world).2 := by
  rcases @World.definitionChange_of_mayFail Unit () world _ request _ (.inl Prod.mk.eta.symm) with
    ⟨statement, changed, rfl, change, ticked⟩ | same
  · rw [ticked]
    intro row member
    change row ∈ changed.definitions.rows at member
    cases change with
    | update update found current =>
        rcases (mem_modify ..).mp member with ⟨kept, -⟩ | ⟨old, present, -, rfl⟩
        · exact ⟨row, kept, rfl, rfl, rfl, rfl, rfl⟩
        · exact ⟨old, present, sameVersion_of_update update old⟩
    | new => exact creates.elim
    | removed => exact ⟨row, ((mem_erase ..).mp member).1, rfl, rfl, rfl, rfl, rfl⟩
    | elsewhere definitions => exact Descends.of_definitions definitions row member
  · exact .of_definitions same

theorem descends_of_only {α : Type} {program : Service α} (only : program.Only CreatesNone) (world : World) :
    Descends world (program.run environment world).2 :=
  only.run (Descends world) (fun _ _ descends creates => descends.trans (descends_of_call creates)) (.of_definitions rfl)

end Descent

section Creation

variable {companyId : UUID} {requestType : String} {world after : World} {client : Option UUID}
  {identity : AuthenticatedIdentity} {definition : List StageDefinitionInput} {document : WorkflowDefinitionDocument}

theorem definitionVisible_of_mayWrite (writes : world.mayWriteDefinitions client companyId = true)
    {row : WorkflowDefinition} (own : row.companyId = companyId) : world.definitionVisible client row = true := by
  cases client with
  | none => rfl
  | some caller =>
      simp only [World.mayWriteDefinitions, Option.all_some, Option.any_eq_true, Bool.and_eq_true, beq_iff_eq] at writes
      obtain ⟨profile, found, role, company⟩ := writes
      simp [World.definitionVisible, found, role, company, own]

theorem pairwise_definitionsFor (world : World) (client : Option UUID) (requestType : String) (companyId : UUID)
    (isActive : Option Bool) :
    (world.definitionsFor client requestType companyId isActive).Pairwise
      fun first second => second.createdAt ≤ first.createdAt := by
  have total : Std.Total fun first second : WorkflowDefinition => decide (second.createdAt ≤ first.createdAt) = true :=
    ⟨fun first second => by simpa using Nat.le_total second.createdAt first.createdAt⟩
  have transitive :
      IsTrans WorkflowDefinition fun first second => decide (second.createdAt ≤ first.createdAt) = true :=
    ⟨fun first second third => by simpa using fun young older => Nat.le_trans older young⟩
  refine (List.pairwise_insertionSort _ _).imp ?_
  intro first second related
  simpa using related

/-- The number that the newest page of the versions gives to the next one. -/
def nextVersion (world : World) (client : Option UUID) (companyId : UUID) (requestType : String) : Nat :=
  nextVersionNumber
    ((paginate (world.definitionsFor client requestType companyId none) .firstHundred).items.map WorkflowDefinition.version)

/-- However many versions there are, the number found on the newest page is greater than all of them. -/
theorem version_lt_nextVersion (inStep : InStep companyId requestType world)
    (writes : world.mayWriteDefinitions client companyId = true) :
    ∀ row ∈ versionsOf world companyId requestType, row.version < nextVersion world client companyId requestType := by
  have listed : ∀ row, row ∈ world.definitionsFor client requestType companyId none ↔
      row ∈ versionsOf world companyId requestType := by
    intro row
    rw [mem_versionsOf, World.definitionsFor, mem_orderBy]
    simp only [List.mem_filter, Bool.and_eq_true, beq_iff_eq, Option.all_none, and_true]
    constructor
    · rintro ⟨member, ⟨-, company⟩, type⟩
      exact ⟨member, company, type⟩
    · rintro ⟨member, company, type⟩
      exact ⟨member, ⟨definitionVisible_of_mayWrite writes company, company⟩, type⟩
  have descending : (world.definitionsFor client requestType companyId none).Pairwise
      fun first second => second.version ≤ first.version := by
    refine (pairwise_definitionsFor world client requestType companyId none).imp_of_mem ?_
    intro first second left right older
    exact inStep.ascending second ((listed second).mp right) first ((listed first).mp left) older
  intro row member
  apply Nat.lt_succ_of_le
  refine bounded_of_take descending (by decide : 0 < 100) ?_ row ((listed row).mpr member)
  intro other shown
  apply le_foldr_max
  apply List.mem_map_of_mem
  change other ∈ slice 100 0 (world.definitionsFor client requestType companyId none)
  rw [slice_zero]
  exact shown

/-- What the last statement of a creation answers. -/
def creation (world : World) (client : Option UUID) (identity : AuthenticatedIdentity) (requestType : String)
    (number : Nat) (document : WorkflowDefinitionDocument) : Except AppError WorkflowDefinition × World :=
  let draft := world.newDefinition requestType number document identity.userId identity.companyId
  let answer := world.createDefinition client draft
  (answer.1.mapError translateDatabaseError, answer.2.tick)

theorem run_createDefinition_checked (granted : ((requireDefinitionManager identity).run environment world).1 = .ok ())
    (valid : validateDocument definition = .ok document)
    (assigned : ((validateAssignees document).run environment
      ((requireDefinitionManager identity).run environment world).2).1 = .ok ()) :
    ∃ ticks, (Services.createDefinition client identity requestType definition).run environment world =
      creation (world.atTick ticks) client identity requestType
        (nextVersion world client identity.companyId requestType) document := by
  obtain ⟨first, managed⟩ := run_leavesData (@leavesData_requireDefinitionManager identity) world
  obtain ⟨second, validated⟩ := run_leavesData (leavesData_validateAssignees document) (world.atTick first)
  refine ⟨second + 1, ?_⟩
  rw [Services.createDefinition, run_bind_of_ok granted, run_bind, run_ofExcept, valid, continueRun_ok,
    run_bind_of_ok assigned, managed, validated, run_bind, run_orTranslate]
  simp only [World.execute, Except.mapError, continueRun_ok]
  exact run_orTranslate _ _

/-- A creation is refused before it writes, or asks for the number found on the newest page. -/
theorem run_createDefinition_cases (world : World) (client : Option UUID) (identity : AuthenticatedIdentity)
    (requestType : String) (definition : List StageDefinitionInput) :
    (∃ ticks, ((Services.createDefinition client identity requestType definition).run environment world).2 =
        world.atTick ticks) ∨
      ∃ ticks document, (Services.createDefinition client identity requestType definition).run environment world =
        creation (world.atTick ticks) client identity requestType
          (nextVersion world client identity.companyId requestType) document := by
  obtain ⟨first, managed⟩ := run_leavesData (@leavesData_requireDefinitionManager identity) world
  cases granted : ((requireDefinitionManager identity).run environment world).1 with
  | error error =>
      refine .inl ⟨first, ?_⟩
      rw [Services.createDefinition, run_bind_of_error granted]
      exact managed
  | ok _ =>
      cases valid : validateDocument definition with
      | error error =>
          refine .inl ⟨first, ?_⟩
          rw [Services.createDefinition, run_bind_of_ok granted, run_bind, run_ofExcept, valid, continueRun_error]
          exact managed
      | ok document =>
          cases assigned : ((validateAssignees document).run environment
              ((requireDefinitionManager identity).run environment world).2).1 with
          | error error =>
              obtain ⟨second, validated⟩ :=
                run_leavesData (leavesData_validateAssignees document) (world.atTick first)
              refine .inl ⟨second, ?_⟩
              rw [Services.createDefinition, run_bind_of_ok granted, run_bind, run_ofExcept, valid, continueRun_ok,
                run_bind_of_error assigned, managed]
              exact validated
          | ok _ =>
              obtain ⟨ticks, ran⟩ := @run_createDefinition_checked requestType world client _ _ _ granted valid assigned
              exact .inr ⟨ticks, document, ran⟩

theorem mem_versionsOf_insert {draft : Draft WorkflowDefinition} {row : WorkflowDefinition}
    (inserted : after.definitions = world.definitions.insert draft) :
    row ∈ versionsOf after companyId requestType ↔ row ∈ versionsOf world companyId requestType ∨
      row = draft.build world.definitions.next ∧ row.companyId = companyId ∧ row.requestType = requestType := by
  rw [mem_versionsOf, mem_versionsOf, inserted, mem_insert]
  tauto

/-- A version with a greater number, created later than all, keeps the versions in step. -/
theorem InStep.insert (inStep : InStep companyId requestType world) {draft : Draft WorkflowDefinition}
    (inserted : after.definitions = world.definitions.insert draft) (younger : Younger companyId requestType world after)
    (greater : (draft.build world.definitions.next).companyId = companyId →
      (draft.build world.definitions.next).requestType = requestType →
      ∀ row ∈ versionsOf world companyId requestType, row.version < (draft.build world.definitions.next).version) :
    InStep companyId requestType after := by
  have last : ∀ created ∈ versionsOf after companyId requestType, created = draft.build world.definitions.next →
      ∀ row ∈ versionsOf world companyId requestType, row.version < created.version ∧ row.createdAt < created.createdAt := by
    intro created member built row present
    have named := mem_versionsOf.mp member
    refine ⟨built ▸ greater (built ▸ named.2.1) (built ▸ named.2.2) row present, younger created member ?_ row present⟩
    intro other known
    rw [built]
    exact Nat.ne_of_lt (Nat.lt_of_lt_of_eq (world.definitions.fresh other known) (draft.key_build _).symm)
  constructor
  · intro first left second right number
    rcases (mem_versionsOf_insert inserted).mp left with old | ⟨built, -⟩ <;>
      rcases (mem_versionsOf_insert inserted).mp right with older | ⟨other, -⟩
    · exact inStep.distinct first old second older number
    · exact absurd number (Nat.ne_of_lt (last second right other first old).1)
    · exact absurd number (Nat.ne_of_gt (last first left built second older).1)
    · rw [built, other]
  · intro first left second right age
    rcases (mem_versionsOf_insert inserted).mp left with old | ⟨built, -⟩ <;>
      rcases (mem_versionsOf_insert inserted).mp right with older | ⟨other, -⟩
    · exact inStep.ascending first old second older age
    · exact Nat.le_of_lt (last second right other first old).1
    · exact absurd age (Nat.not_le_of_lt (last first left built second older).2)
    · rw [built, other]

theorem InStep.creation (inStep : InStep companyId requestType world) {ticks : Nat} {type : String}
    {result : Except AppError WorkflowDefinition}
    (ended : creation (world.atTick ticks) client identity type (nextVersion world client identity.companyId type)
      document = (result, after)) (younger : Younger companyId requestType world after) :
    InStep companyId requestType after := by
  rcases answer : (world.atTick ticks).createDefinition client ((world.atTick ticks).newDefinition type
    (nextVersion world client identity.companyId type) document identity.userId identity.companyId) with ⟨_ | row, changed⟩
  · have same : changed = world.atTick ticks := World.createDefinition_error answer
    have unmoved : changed.definitions = world.definitions := by
      rw [same]
      rfl
    simp only [System.creation, answer] at ended
    obtain ⟨-, rfl⟩ := Prod.mk.inj ended
    exact inStep.descends (.of_definitions unmoved)
  · obtain ⟨built, inserted, writes, -⟩ := World.createDefinition_ok_iff.mp answer
    simp only [System.creation, answer] at ended
    obtain ⟨-, rfl⟩ := Prod.mk.inj ended
    refine inStep.insert (congrArg World.definitions inserted) younger ?_
    intro company type
    subst company type
    rw [built] at writes
    exact version_lt_nextVersion inStep writes

end Creation

section Runs

variable {companyId : UUID} {requestType : String} {world after start : World}

theorem createsNone_of_arranging {request : Call} (arranging : Arranging request) : CreatesNone request := by
  cases request with
  | query statement => cases statement <;> trivial
  | _ => trivial

private theorem only_updateDraft (client : Option UUID) (identity : AuthenticatedIdentity) (definitionId : UUID)
    (definition : List StageDefinitionInput) :
    (Services.updateDraft client identity definitionId definition).Only CreatesNone := by
  apply Only.bind (only_requireDefinitionManager trivial identity)
  intro _
  apply Only.bind (only_getDefinitionForCompany _ _ _ trivial)
  intro existing
  apply Only.bind (only_engineOrTranslate _)
  intro _
  apply Only.bind (only_ofExcept _)
  intro document
  apply Only.bind (only_validateAssignees document fun _ => trivial)
  intro _
  exact only_orTranslate _ trivial

theorem InStep.operation (inStep : InStep companyId requestType world) (client : Option UUID)
    (identity : AuthenticatedIdentity) (command : ManagementCall)
    (younger : Younger companyId requestType world ((command.program client identity).run environment world).2) :
    InStep companyId requestType ((command.program client identity).run environment world).2 := by
  cases command with
  | createDefinition type definition =>
      have only : ((ManagementCall.createDefinition type definition).program client identity).run environment world =
          (((Services.createDefinition client identity type definition).run environment world).1.map some,
            ((Services.createDefinition client identity type definition).run environment world).2) := by
        rw [ManagementCall.program, run_bind]
        rcases (Services.createDefinition client identity type definition).run environment world with ⟨_ | created, after⟩ <;> rfl
      rw [only] at younger ⊢
      rcases run_createDefinition_cases world client identity type definition with ⟨ticks, unwritten⟩ | ⟨ticks, document, ended⟩
      · have unmoved := congrArg World.definitions unwritten
        exact inStep.descends (.of_definitions unmoved)
      · rw [ended] at younger ⊢
        exact inStep.creation rfl younger
  | updateDraft definitionId definition =>
      have only : ((ManagementCall.updateDraft definitionId definition).program client identity).Only CreatesNone :=
        (only_updateDraft ..).bind fun _ => trivial
      exact inStep.descends (descends_of_only only world)
  | deleteDraft definitionId =>
      have only : ((ManagementCall.deleteDraft definitionId).program client identity).Only CreatesNone :=
        ((only_deleteDraft ..).mono fun _ => createsNone_of_arranging).bind fun _ => trivial
      exact inStep.descends (descends_of_only only world)
  | activateVersion definitionId =>
      have only : ((ManagementCall.activateVersion definitionId).program client identity).Only CreatesNone :=
        ((only_activateVersion ..).mono fun _ => createsNone_of_arranging).bind fun _ => trivial
      exact inStep.descends (descends_of_only only world)

theorem InStep.run (first : InStep companyId requestType start) (run : VersionRun companyId requestType start world) :
    InStep companyId requestType world := by
  induction run with
  | start => exact first
  | operation earlier client identity command younger inStep => exact inStep.operation client identity command younger
  | call earlier request other inStep =>
      refine inStep.descends (.of_definitions ?_)
      exact @World.definitions_of_mayFail Unit () _ _ _ _ (.inl Prod.mk.eta.symm) other
  | profiles earlier profiles inStep => exact inStep.descends (.of_definitions rfl)

theorem InStep.of_none (none : versionsOf world companyId requestType = []) : InStep companyId requestType world := by
  constructor <;>
  · intro first member
    rw [none] at member
    cases member

end Runs

section Success

variable {companyId : UUID} {requestType : String} {world start : World} {identity : AuthenticatedIdentity}
  {definition : List StageDefinitionInput} {document : WorkflowDefinitionDocument}

theorem validateAssignees_ok (known : ∀ stage ∈ document.stages, ∀ assignee, specificAssignee stage = some assignee →
    world.hasProfile assignee = true) : ((validateAssignees document).run environment world).1 = .ok () := by
  unfold validateAssignees
  dsimp only
  split
  · rename_i none
    have accepted : validateDefinitionAssignees document [] = .ok () := by
      refine (validateDefinitionAssignees_ok_iff document []).mpr ?_
      intro stage member assignee names
      rw [← none]
      exact List.mem_dedup.mpr (List.mem_filterMap.mpr ⟨stage, member, names⟩)
    rw [engineOrRaise, accepted]
    rfl
  · rw [run_bind, run_orRaise]
    have accepted : validateDefinitionAssignees document ((world.profiles.rows.filter fun profile =>
        profile.id ∈ (document.stages.filterMap specificAssignee).dedup).map ProfileRecord.id) = .ok () := by
      refine (validateDefinitionAssignees_ok_iff document _).mpr ?_
      intro stage member assignee names
      obtain ⟨profile, found⟩ := Option.isSome_iff_exists.mp (known stage member assignee names)
      obtain ⟨present, keyed⟩ := (find?_eq_some_iff ..).mp found
      refine List.mem_map.mpr ⟨profile, List.mem_filter.mpr ⟨present, ?_⟩, keyed⟩
      have named : profile.id = assignee := keyed
      rw [named]
      exact decide_eq_true (List.mem_dedup.mpr (List.mem_filterMap.mpr ⟨stage, member, names⟩))
    simp only [World.execute, Except.mapError, continueRun_ok]
    rw [engineOrTranslate, accepted]
    rfl

theorem mayWriteDefinitions_clientOf (administers : Administers world identity) (bound : Bool) :
    world.mayWriteDefinitions (clientOf bound identity) identity.companyId = true := by
  cases bound with
  | false => rfl
  | true => exact mayWriteDefinitions_own administers

/-- While the versions are in step, a creation succeeds, with a number greater than theirs. -/
theorem createDefinition_succeeds (inStep : InStep identity.companyId requestType world)
    (creatable : Creatable world identity definition) (bound : Bool) :
    ∃ created after, (Services.createDefinition (clientOf bound identity) identity requestType definition).run
        environment world = (.ok created, after) ∧
      created ∈ versionsOf after identity.companyId requestType ∧
      ∀ row ∈ versionsOf world identity.companyId requestType, row.version < created.version := by
  obtain ⟨document, validated, known⟩ := creatable.document
  have writes := mayWriteDefinitions_clientOf creatable.administers bound
  have greater := version_lt_nextVersion inStep writes
  obtain ⟨first, managed⟩ := run_leavesData (@leavesData_requireDefinitionManager identity) world
  have valid : validateDocument definition = .ok document := by rw [validateDocument, validated]
  obtain ⟨ticks, ran⟩ := @run_createDefinition_checked requestType world (clientOf bound identity) _ _ _
    (requireDefinitionManager_granted creatable.administers creatable.current) valid (by
      rw [managed]
      exact validateAssignees_ok known)
  obtain ⟨profile, found, -⟩ := creatable.administers.profile
  have fresh : ∀ other ∈ world.definitions.rows, other.companyId = identity.companyId →
      other.requestType = requestType →
      other.version ≠ nextVersion world (clientOf bound identity) identity.companyId requestType := by
    intro other member company type
    exact Nat.ne_of_lt (greater other (mem_versionsOf.mpr ⟨member, company, type⟩))
  have author : world.hasProfile identity.userId = true := Option.isSome_iff_exists.mpr ⟨profile, found⟩
  have written := (@World.createDefinition_ok_iff (world.atTick ticks) _ (clientOf bound identity)
    ((world.atTick ticks).newDefinition requestType
      (nextVersion world (clientOf bound identity) identity.companyId requestType) document identity.userId
      identity.companyId) _).mpr ⟨rfl, rfl, writes, Nat.succ_le_succ (Nat.zero_le _), fresh, author⟩
  rw [creation, written] at ran
  exact ⟨_, _, ran, (mem_versionsOf_insert rfl).mpr (.inr ⟨rfl, rfl, rfl⟩), greater⟩

end Success

section Sample

instance (companyId : UUID) (requestType : String) (world after : World) :
    Decidable (Younger companyId requestType world after) :=
  inferInstanceAs (Decidable (∀ created ∈ versionsOf after companyId requestType,
    (∀ row ∈ world.definitions.rows, row.id ≠ created.id) →
      ∀ row ∈ versionsOf world companyId requestType, row.createdAt < created.createdAt))

def purchaseDraft : ManagementCall := .createDefinition "purchase" [administratorsStage 1]

def hubWithPurchases : World :=
  ((purchaseDraft.program (some 3) sampleAdmin).run environment sampleHub).2

def hubWithPurchaseVersions : World :=
  ((purchaseDraft.program none sampleAdmin).run environment hubWithPurchases).2

theorem creatable_sample : Creatable hubWithPurchaseVersions sampleAdmin [administratorsStage 1] := by
  have unassigned : ∀ stage ∈ ((WorkflowDefinitionDocument.validate [administratorsStage 1]).get (by decide)).stages,
      specificAssignee stage = none := by
    decide
  refine ⟨⟨rfl, ?_⟩, ?_, (WorkflowDefinitionDocument.validate [administratorsStage 1]).get (by decide),
    (Option.some_get _).symm, ?_⟩
  · exact ⟨sampleProfile 3 .admin none, by decide +kernel, rfl, rfl⟩
  · rintro ⟨expiresAt, expires, -⟩
    cases expires
  · intro stage member assignee names
    rw [unassigned stage member] at names
    cases names

end Sample

end AutomationHub.System
