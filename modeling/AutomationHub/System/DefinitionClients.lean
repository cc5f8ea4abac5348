import AutomationHub.Services.ServiceRuns
import AutomationHub.System.DefinitionHistory
import AutomationHub.System.Operations

/-!
Management of definitions through the caller's own client and through the unrestricted one.
-/

set_option autoImplicit false

namespace AutomationHub.System

open Foundation Model Database Services Auth Workflow Program Table

inductive ManagementCall where
  | createDefinition (requestType : String) (definition : List StageDefinitionInput)
  | updateDraft (definitionId : UUID) (definition : List StageDefinitionInput)
  | deleteDraft (definitionId : UUID)
  | activateVersion (definitionId : UUID)

/-- The call, with the definition it returns if any. -/
def ManagementCall.program (client : Option UUID) (identity : AuthenticatedIdentity) :
    ManagementCall → Service (Option WorkflowDefinition)
  | .createDefinition requestType definition => do
      return some (← Services.createDefinition client identity requestType definition)
  | .updateDraft definitionId definition => do
      return some (← Services.updateDraft client identity definitionId definition)
  | .deleteDraft definitionId => do
      Services.deleteDraft client identity definitionId
      return none
  | .activateVersion definitionId => do
      return some (← Services.activateVersion client identity definitionId)

/-- The results of the calls, one after the other, and the state they leave. -/
def manage (bound : Bool) : List (AuthenticatedIdentity × ManagementCall) → World →
    List (Except AppError (Option WorkflowDefinition)) × World
  | [], world => ([], world)
  | (identity, command) :: later, world =>
      let first := (command.program (clientOf bound identity) identity).run environment world
      let rest := manage bound later first.2
      (first.1 :: rest.1, rest.2)

/-- The caller is an administrator of the company, as the profile says too. -/
structure Administers (world : World) (identity : AuthenticatedIdentity) : Prop where
  role : identity.role = .admin
  profile : ∃ profile, world.profiles.find? identity.userId = some profile ∧ profile.role = .admin ∧
    profile.companyId = identity.companyId

def TokenExpired (world : World) (identity : AuthenticatedIdentity) : Prop :=
  ∃ expiresAt, identity.expiresAt = some expiresAt ∧ isPast expiresAt world.now = true

/-- A definition of that id is the company's. -/
def OwnDefinition (world : World) (identity : AuthenticatedIdentity) (definitionId : UUID) : Prop :=
  ∀ row, world.definitions.find? definitionId = some row → row.companyId = identity.companyId

/-- The call names no definition of another company, and deletes no draft. -/
def ManagementCall.Admitted (world : World) (identity : AuthenticatedIdentity) : ManagementCall → Prop
  | .createDefinition .. => True
  | .updateDraft definitionId _ | .activateVersion definitionId => OwnDefinition world identity definitionId
  | .deleteDraft definitionId => OwnDefinition world identity definitionId ∧
      ∀ row, world.definitions.find? definitionId = some row → row.isActive = true

/-- Each call is admitted where it begins, or its caller's token has expired. -/
def AllAdmitted : List (AuthenticatedIdentity × ManagementCall) → World → Prop
  | [], _ => True
  | (identity, command) :: later, world =>
      (TokenExpired world identity ∨ command.Admitted world identity) ∧
        AllAdmitted later ((command.program none identity).run environment world).2

section Statements

variable {world : World} {identity : AuthenticatedIdentity} {definitionId : UUID}

theorem Administers.of_profiles (administers : Administers world identity) {after : World}
    (same : after.profiles = world.profiles) : Administers after identity :=
  ⟨administers.role, same ▸ administers.profile⟩

theorem definitionVisible_own (administers : Administers world identity) (definition : WorkflowDefinition) :
    world.definitionVisible (some identity.userId) definition = (definition.companyId == identity.companyId) := by
  obtain ⟨profile, found, role, company⟩ := administers.profile
  simp [World.definitionVisible, found, role, company]

theorem mayWriteDefinitions_own (administers : Administers world identity) :
    world.mayWriteDefinitions (some identity.userId) identity.companyId = true := by
  obtain ⟨profile, found, role, company⟩ := administers.profile
  simp [World.mayWriteDefinitions, found, role, company]

theorem definitionsFor_alike (administers : Administers world identity) (requestType : String)
    (isActive : Option Bool) :
    world.definitionsFor (some identity.userId) requestType identity.companyId isActive =
      world.definitionsFor none requestType identity.companyId isActive := by
  unfold World.definitionsFor
  congr 2
  funext definition
  rw [definitionVisible_own administers]
  cases definition.companyId == identity.companyId <;> simp [World.definitionVisible]

theorem activeDefinition_alike (administers : Administers world identity) (requestType : String) :
    world.activeDefinition (some identity.userId) requestType identity.companyId =
      world.activeDefinition none requestType identity.companyId := by
  unfold World.activeDefinition
  congr 1
  funext definition
  rw [definitionVisible_own administers]
  cases definition.companyId == identity.companyId <;> simp [World.definitionVisible]

theorem createDefinition_alike (administers : Administers world identity) {draft : Draft WorkflowDefinition}
    (own : (draft.build world.definitions.next).companyId = identity.companyId) :
    world.createDefinition (some identity.userId) draft = world.createDefinition none draft := by
  unfold World.createDefinition
  rw [own, mayWriteDefinitions_own administers]
  rfl

theorem updateDefinition_alike (administers : Administers world identity)
    (own : OwnDefinition world identity definitionId) (expectedRowVersion : Nat) (edit : Edit WorkflowDefinition)
    (violated : WorkflowDefinition → Option String) :
    world.updateDefinition (some identity.userId) definitionId expectedRowVersion edit violated =
      world.updateDefinition none definitionId expectedRowVersion edit violated := by
  unfold World.updateDefinition
  cases found : world.definitions.find? definitionId with
  | none => rfl
  | some row =>
      rw [Option.all_some, own row found, mayWriteDefinitions_own administers]
      rfl

theorem getDefinition_alike (administers : Administers world identity)
    (own : OwnDefinition world identity definitionId) :
    world.getDefinition (some identity.userId) definitionId = world.getDefinition none definitionId := by
  unfold World.getDefinition
  cases found : world.definitions.find? definitionId with
  | none => rfl
  | some row =>
      simp only [definitionVisible_own administers, own row found, beq_self_eq_true]
      rfl

theorem OwnDefinition.deactivated (own : OwnDefinition world identity definitionId) (viewer : Option UUID)
    (previous rowVersion : Nat) :
    OwnDefinition (world.deactivatePreviousDefinition viewer previous rowVersion).2 identity definitionId := by
  rcases World.deactivatePreviousDefinition_cases
    (Prod.eta (world.deactivatePreviousDefinition viewer previous rowVersion)).symm with ⟨-, same⟩ | ⟨row, found, -, -, same⟩
  · rw [same]
    exact own
  · rw [same]
    intro other located
    rw [find?_modify] at located
    split at located
    · obtain ⟨kept, reached, rfl⟩ := Option.map_eq_some_iff.mp located
      exact own kept (‹definitionId = previous› ▸ reached)
    · exact own other located

end Statements

section Programs

variable {world : World} {identity : AuthenticatedIdentity} {definitionId : UUID}

/-- The call changes nothing but the count of calls. -/
def LeavesData (request : Call) : Prop :=
  ∀ world, (environment request world).2 = world.tick

theorem run_leavesData {α : Type} {program : Service α} (only : program.Only LeavesData) (world : World) :
    ∃ ticks, (program.run environment world).2 = world.atTick ticks := by
  apply only.run fun after => ∃ ticks, after = world.atTick ticks
  · intro after request reached leaves
    obtain ⟨ticks, rfl⟩ := reached
    exact ⟨ticks + 1, leaves _⟩
  · exact ⟨world.ticks, rfl⟩

theorem Administers.after {α : Type} (administers : Administers world identity) (program : Service α) :
    Administers (program.run environment world).2 identity :=
  administers.of_profiles (run_profiles program world)

theorem Administers.atTick (administers : Administers world identity) (ticks : Nat) :
    Administers (world.atTick ticks) identity :=
  administers.of_profiles rfl

theorem leavesData_requireDefinitionManager : (requireDefinitionManager identity).Only LeavesData :=
  only_requireDefinitionManager (fun _ => rfl) identity

theorem leavesData_validateAssignees (document : WorkflowDefinitionDocument) :
    (validateAssignees document).Only LeavesData :=
  only_validateAssignees document fun _ _ => rfl

theorem leavesData_getDefinitionForCompany (client : Option UUID) (companyId : UUID) :
    (getDefinitionForCompany client definitionId companyId).Only LeavesData :=
  only_getDefinitionForCompany client definitionId companyId fun _ => rfl

theorem createDefinition_runs_alike (administers : Administers world identity) (requestType : String)
    (definition : List StageDefinitionInput) :
    (Services.createDefinition (some identity.userId) identity requestType definition).run environment world =
      (Services.createDefinition none identity requestType definition).run environment world := by
  apply run_bind_congr rfl
  intro _ _
  obtain ⟨_, managed⟩ := run_leavesData (@leavesData_requireDefinitionManager identity) world
  rw [managed]
  apply run_bind_congr rfl
  intro document _
  rw [run_ofExcept]
  apply run_bind_congr rfl
  intro _ _
  obtain ⟨_, validated⟩ := run_leavesData (leavesData_validateAssignees document) (world.atTick _)
  rw [validated]
  apply run_bind_congr
  · rw [run_orTranslate, run_orTranslate]
    simp only [World.execute, definitionsFor_alike ((administers.atTick _).atTick _)]
  · intro existing _
    rw [run_orTranslate, run_orTranslate, run_orTranslate]
    simp only [World.execute]
    rw [createDefinition_alike]
    · exact administers.of_profiles rfl
    · rfl

theorem OwnDefinition.atTick (own : OwnDefinition world identity definitionId) (ticks : Nat) :
    OwnDefinition (world.atTick ticks) identity definitionId := own

theorem getDefinitionForCompany_runs_alike (administers : Administers world identity)
    (own : OwnDefinition world identity definitionId) :
    (getDefinitionForCompany (some identity.userId) definitionId identity.companyId).run environment world =
      (getDefinitionForCompany none definitionId identity.companyId).run environment world := by
  apply run_bind_congr
  · rw [run_orNotFound, run_orNotFound]
    simp only [World.execute, getDefinition_alike administers own]
  · intro _ _
    rfl

theorem updateDraft_runs_alike (administers : Administers world identity)
    (own : OwnDefinition world identity definitionId) (definition : List StageDefinitionInput) :
    (Services.updateDraft (some identity.userId) identity definitionId definition).run environment world =
      (Services.updateDraft none identity definitionId definition).run environment world := by
  apply run_bind_congr rfl
  intro _ _
  obtain ⟨first, managed⟩ := run_leavesData (@leavesData_requireDefinitionManager identity) world
  rw [managed]
  apply run_bind_congr (getDefinitionForCompany_runs_alike (administers.atTick first) (own.atTick first))
  intro existing _
  obtain ⟨second, fetched⟩ := run_leavesData (@leavesData_getDefinitionForCompany definitionId (some identity.userId)
    identity.companyId) (world.atTick first)
  rw [fetched]
  apply run_bind_congr rfl
  intro _ _
  obtain ⟨third, edited⟩ := @run_leavesData _ (engineOrTranslate (validateEditAllowed existing))
    (only_engineOrTranslate _) ((world.atTick first).atTick second)
  rw [edited]
  apply run_bind_congr rfl
  intro document _
  rw [run_ofExcept]
  apply run_bind_congr rfl
  intro _ _
  obtain ⟨last, validated⟩ := run_leavesData (leavesData_validateAssignees document)
    (((world.atTick first).atTick second).atTick third)
  rw [validated, run_orTranslate, run_orTranslate]
  have written := @updateDefinition_alike (world.atTick last) identity definitionId (administers.atTick last)
    (own.atTick last) existing.rowVersion (World.documentEdit document) fun _ => none
  exact congrArg (fun answer => (answer.1.mapError translateDatabaseError, answer.2.tick)) written

theorem run_getDefinitionForCompany (client : Option UUID) (companyId : UUID) :
    (getDefinitionForCompany client definitionId companyId).run environment world =
      (match world.getDefinition client definitionId with
        | .error error => .error (notFoundOrDatabase error)
        | .ok row => if row.companyId ≠ companyId then .error (.notFound "workflow_definition" definitionId) else .ok row,
        world.tick) := by
  have reply : (orNotFound (.getDefinition client definitionId) : Service WorkflowDefinition).run environment world =
      ((world.getDefinition client definitionId).mapError notFoundOrDatabase, world.tick) :=
    run_orNotFound (.getDefinition client definitionId) world
  rw [getDefinitionForCompany, run_bind, reply]
  cases world.getDefinition client definitionId with
  | error error => rfl
  | ok row =>
      by_cases own : row.companyId = companyId
      · simp [Except.mapError, own]
      · simp [Except.mapError, own, translateDatabaseError]

theorem getDefinitionForCompany_found {client : Option UUID} {companyId : UUID} {row : WorkflowDefinition}
    (returned : ((getDefinitionForCompany client definitionId companyId).run environment world).1 = .ok row) :
    world.definitions.find? definitionId = some row := by
  rw [run_getDefinitionForCompany] at returned
  cases fetched : world.getDefinition client definitionId with
  | error error =>
      rw [fetched] at returned
      cases returned
  | ok existing =>
      rw [fetched] at returned
      dsimp only at returned
      split at returned
      · cases returned
      · cases returned
        exact (World.getDefinition_ok_iff.mp fetched).1

theorem deleteDraft_runs_alike (administers : Administers world identity)
    (own : OwnDefinition world identity definitionId)
    (active : ∀ row, world.definitions.find? definitionId = some row → row.isActive = true) :
    (Services.deleteDraft (some identity.userId) identity definitionId).run environment world =
      (Services.deleteDraft none identity definitionId).run environment world := by
  apply run_bind_congr rfl
  intro _ _
  obtain ⟨first, managed⟩ := run_leavesData (@leavesData_requireDefinitionManager identity) world
  rw [managed]
  apply run_bind_congr (getDefinitionForCompany_runs_alike (administers.atTick first) (own.atTick first))
  intro existing returned
  have inUse : existing.isActive = true := active existing (@getDefinitionForCompany_found (world.atTick first) _ _ _ _ returned)
  apply run_bind_congr rfl
  intro _ permitted
  rw [validateEditAllowed, if_pos inUse] at permitted
  cases permitted

theorem findActive_runs_alike (administers : Administers world identity) (requestType : String) :
    (orRaise (.findActiveForRequestType (some identity.userId) requestType identity.companyId) :
        Service (Option WorkflowDefinition)).run environment world =
      (orRaise (.findActiveForRequestType none requestType identity.companyId) :
        Service (Option WorkflowDefinition)).run environment world := by
  rw [run_orRaise, run_orRaise]
  simp only [World.execute, activeDefinition_alike administers]

theorem deactivate_runs_alike (administers : Administers world identity) {active : WorkflowDefinition}
    {requestType : String} {viewer : Option UUID}
    (found : world.activeDefinition viewer requestType identity.companyId = some active) :
    (orTranslate (.deactivatePreviousDefinition (some identity.userId) active.id active.rowVersion) :
        Service (Option WorkflowDefinition)).run environment world =
      (orTranslate (.deactivatePreviousDefinition none active.id active.rowVersion) :
        Service (Option WorkflowDefinition)).run environment world := by
  have shown := List.find?_some found
  simp only [Bool.and_eq_true, beq_iff_eq] at shown
  have own : OwnDefinition world identity active.id := by
    intro row reached
    have listed : world.definitions.find? active.id = some active := find?_of_mem _ (List.mem_of_find?_eq_some found)
    obtain rfl : row = active := Option.some.inj (reached.symm.trans listed)
    exact shown.1.2
  rw [run_orTranslate, run_orTranslate]
  simp only [World.execute, World.deactivatePreviousDefinition, updateDefinition_alike administers own]

theorem activate_runs_alike (administers : Administers world identity)
    (own : OwnDefinition world identity definitionId) (expectedRowVersion : Nat) :
    (orTranslate (.activateDefinition (some identity.userId) definitionId expectedRowVersion) :
        Service WorkflowDefinition).run environment world =
      (orTranslate (.activateDefinition none definitionId expectedRowVersion) :
        Service WorkflowDefinition).run environment world := by
  rw [run_orTranslate, run_orTranslate]
  simp only [World.execute, updateDefinition_alike administers own]

theorem activateDefinition_runs_alike (administers : Administers world identity)
    (own : OwnDefinition world identity definitionId) (requestType : String) (expectedRowVersion : Nat) :
    (activateDefinition (some identity.userId) definitionId requestType expectedRowVersion identity.companyId).run
        environment world =
      (activateDefinition none definitionId requestType expectedRowVersion identity.companyId).run environment world := by
  unfold activateDefinition
  apply run_bind_congr
  · rw [run_orTranslate, run_orTranslate]
    simp only [World.execute, activeDefinition_alike administers]
  intro currentActive returned
  rw [run_orTranslate] at returned ⊢
  have found : world.activeDefinition (some identity.userId) requestType identity.companyId = currentActive :=
    Except.ok.inj returned
  have there : Administers world.tick identity := administers.of_profiles rfl
  cases currentActive with
  | none => exact activate_runs_alike there own expectedRowVersion
  | some active =>
      dsimp only
      split
      · have shown : world.tick.activeDefinition (some identity.userId) requestType identity.companyId = some active :=
          found
        apply run_bind_congr (deactivate_runs_alike there shown)
        intro _ _
        apply activate_runs_alike (there.after _)
        rw [run_orTranslate]
        have unmoved : OwnDefinition world.tick identity definitionId := own
        exact unmoved.deactivated (some identity.userId) active.id active.rowVersion
      · exact activate_runs_alike there own expectedRowVersion

theorem activateVersion_runs_alike (administers : Administers world identity)
    (own : OwnDefinition world identity definitionId) :
    (Services.activateVersion (some identity.userId) identity definitionId).run environment world =
      (Services.activateVersion none identity definitionId).run environment world := by
  apply run_bind_congr rfl
  intro _ _
  obtain ⟨first, managed⟩ := run_leavesData (@leavesData_requireDefinitionManager identity) world
  rw [managed]
  apply run_bind_congr (getDefinitionForCompany_runs_alike (administers.atTick first) (own.atTick first))
  intro candidate returned
  have named : candidate.id = definitionId := by
    have found := @getDefinitionForCompany_found (world.atTick first) _ _ _ _ returned
    exact ((find?_eq_some_iff ..).mp found).2
  obtain ⟨second, fetched⟩ := run_leavesData (@leavesData_getDefinitionForCompany definitionId (some identity.userId)
    identity.companyId) (world.atTick first)
  rw [fetched]
  apply run_bind_congr (findActive_runs_alike ((administers.atTick first).atTick second) candidate.requestType)
  intro currentlyActive _
  rw [run_orRaise]
  apply run_bind_congr rfl
  intro _ _
  obtain ⟨third, validated⟩ := @run_leavesData _ (engineOrTranslate (validateActivation candidate currentlyActive))
    (only_engineOrTranslate _) ((world.atTick first).atTick second).tick
  have settled : (World.execute ((world.atTick first).atTick second)
      (.findActiveForRequestType (some identity.userId) candidate.requestType identity.companyId)).2.tick =
        ((world.atTick first).atTick second).tick := rfl
  rw [settled, validated]
  apply run_enact_congr
  apply activateDefinition_runs_alike (administers.atTick third)
  rw [named]
  exact own.atTick third

theorem ManagementCall.runs_alike {command : ManagementCall} (administers : Administers world identity)
    (admitted : command.Admitted world identity) :
    (command.program (some identity.userId) identity).run environment world =
      (command.program none identity).run environment world := by
  cases command with
  | createDefinition requestType definition =>
      exact run_bind_congr (createDefinition_runs_alike administers requestType definition) fun _ _ => rfl
  | updateDraft definitionId definition =>
      exact run_bind_congr (updateDraft_runs_alike administers admitted definition) fun _ _ => rfl
  | deleteDraft definitionId =>
      exact run_bind_congr (deleteDraft_runs_alike administers admitted.1 admitted.2) fun _ _ => rfl
  | activateVersion definitionId =>
      exact run_bind_congr (activateVersion_runs_alike administers admitted) fun _ _ => rfl

theorem requireDefinitionManager_expired (expired : TokenExpired world identity) :
    ((requireDefinitionManager identity).run environment world).1 = .error (translateAuthError .sessionExpired) := by
  obtain ⟨expiresAt, expiry, past⟩ := expired
  simp [requireDefinitionManager, authorizeWorkflowDefinitionManagement, isExpired, expiry, run_bind, past]

theorem requireDefinitionManager_granted (administers : Administers world identity)
    (current : ¬TokenExpired world identity) :
    ((requireDefinitionManager identity).run environment world).1 = .ok () := by
  have permitted : canManageWorkflowDefinitions identity.role = true := by
    rw [administers.role]
    rfl
  cases expiry : identity.expiresAt with
  | none =>
      simp [requireDefinitionManager, authorizeWorkflowDefinitionManagement, isExpired, expiry, permitted]
  | some expiresAt =>
      have fresh : isPast expiresAt world.now = false := by
        by_contra past
        exact current ⟨expiresAt, expiry, by simpa using past⟩
      simp [requireDefinitionManager, authorizeWorkflowDefinitionManagement, isExpired, expiry, run_bind, fresh, permitted]

theorem result_of_unfetched {α : Type} (administers : Administers world identity)
    (current : ¬TokenExpired world identity) {client : Option UUID} {error : AppError}
    (unfetched : ∀ ticks, ((getDefinitionForCompany client definitionId identity.companyId).run environment
      (world.atTick ticks)).1 = .error error) (rest : WorkflowDefinition → Service α) :
    ((requireDefinitionManager identity >>= fun _ =>
      getDefinitionForCompany client definitionId identity.companyId >>= rest).run environment world).1 =
        .error error := by
  rw [run_bind_of_ok (requireDefinitionManager_granted administers current)]
  obtain ⟨ticks, managed⟩ := run_leavesData (@leavesData_requireDefinitionManager identity) world
  rw [managed, run_bind_of_error (unfetched ticks)]

/-- The row is hidden from the caller's own client; the unrestricted one compares the companies. -/
theorem foreign_definition (administers : Administers world identity) {row : WorkflowDefinition}
    (found : world.definitions.find? definitionId = some row) (foreign : row.companyId ≠ identity.companyId)
    (ticks : Nat) :
    ((getDefinitionForCompany (some identity.userId) definitionId identity.companyId).run environment
        (world.atTick ticks)).1 = .error (.notFound "workflow_definitions" definitionId) ∧
      ((getDefinitionForCompany none definitionId identity.companyId).run environment (world.atTick ticks)).1 =
        .error (.notFound "workflow_definition" definitionId) := by
  have located : (world.atTick ticks).definitions.find? definitionId = some row := found
  have hidden : (world.atTick ticks).definitionVisible (some identity.userId) row = false := by
    rw [definitionVisible_own (administers.atTick ticks)]
    simpa using foreign
  have shown : (world.atTick ticks).definitionVisible none row = true := rfl
  rw [run_getDefinitionForCompany, run_getDefinitionForCompany, World.getDefinition, World.getDefinition, located]
  simp [hidden, shown, foreign, notFoundOrDatabase, translateDatabaseError]

theorem draft_deletion (administers : Administers world identity) (current : ¬TokenExpired world identity)
    {row : WorkflowDefinition} (own : row.companyId = identity.companyId) (draft : row.isActive = false)
    (client : Option UUID)
    (seen : ∀ ticks, (world.atTick ticks).getDefinition client definitionId = .ok row) :
    ∃ ticks, ((Services.deleteDraft client identity definitionId).run environment world).1 =
      ((world.atTick ticks).deleteInactiveDefinition client definitionId identity.companyId).1.mapError
        translateDatabaseError := by
  obtain ⟨first, managed⟩ := run_leavesData (@leavesData_requireDefinitionManager identity) world
  obtain ⟨second, fetched⟩ := run_leavesData (@leavesData_getDefinitionForCompany definitionId client
    identity.companyId) (world.atTick first)
  have returned : ((getDefinitionForCompany client definitionId identity.companyId).run environment
      (world.atTick first)).1 = .ok row := by
    rw [run_getDefinitionForCompany, seen first]
    simp [own]
  have permitted : ((engineOrTranslate (validateEditAllowed row)).run environment
      ((world.atTick first).atTick second)).1 = .ok () := by
    rw [validateEditAllowed, draft]
    rfl
  obtain ⟨third, edited⟩ := @run_leavesData _ (engineOrTranslate (validateEditAllowed row))
    (only_engineOrTranslate _) ((world.atTick first).atTick second)
  refine ⟨third, ?_⟩
  rw [Services.deleteDraft, run_bind_of_ok (requireDefinitionManager_granted administers current), managed,
    run_bind_of_ok returned, fetched, run_bind_of_ok permitted, edited, run_orTranslate]
  rfl

theorem foreign_runs_apart {α β : Type} (administers : Administers world identity)
    (current : ¬TokenExpired world identity) (foreign : ¬OwnDefinition world identity definitionId)
    (bound unbound : WorkflowDefinition → Service α) (last : α → Service β) :
    (((requireDefinitionManager identity >>= fun _ => getDefinitionForCompany (some identity.userId) definitionId
        identity.companyId >>= bound) >>= last).run environment world).1 ≠
      (((requireDefinitionManager identity >>= fun _ => getDefinitionForCompany none definitionId
        identity.companyId >>= unbound) >>= last).run environment world).1 := by
  unfold OwnDefinition at foreign
  push Not at foreign
  obtain ⟨row, found, other⟩ := foreign
  have apart := foreign_definition administers found other
  rw [run_bind_of_error (result_of_unfetched administers current (fun ticks => (apart ticks).1) _),
    run_bind_of_error (result_of_unfetched administers current (fun ticks => (apart ticks).2) _)]
  simp

theorem draft_runs_apart (administers : Administers world identity) (current : ¬TokenExpired world identity)
    {row : WorkflowDefinition} (found : world.definitions.find? definitionId = some row)
    (own : row.companyId = identity.companyId) (draft : row.isActive = false) :
    ∃ message, ((Services.deleteDraft (some identity.userId) identity definitionId).run environment world).1 =
        .error (.eah message) ∧
      ((Services.deleteDraft none identity definitionId).run environment world).1 ≠ .error (.eah message) := by
  have shown : ∀ ticks, (world.atTick ticks).getDefinition (some identity.userId) definitionId = .ok row := by
    intro ticks
    apply World.getDefinition_ok_iff.mpr
    refine ⟨found, ?_⟩
    rw [definitionVisible_own (administers.atTick ticks), own, beq_self_eq_true]
  obtain ⟨_, refused⟩ := draft_deletion administers current own draft (some identity.userId) shown
  obtain ⟨ticks, deleted⟩ := draft_deletion administers current own draft none fun ticks =>
    World.getDefinition_ok_iff.mpr ⟨found, rfl⟩
  refine ⟨_, refused, ?_⟩
  have located : (world.atTick ticks).definitions.find? definitionId = some row := found
  rw [deleted, World.deleteInactiveDefinition, located]
  simp only [Option.isSome_none, Bool.false_eq_true, if_false, own, draft, ne_eq, not_true_eq_false, or_self]
  split
  · intro same
    cases same
  · intro same
    cases same

theorem ManagementCall.runs_apart {command : ManagementCall} (administers : Administers world identity)
    (current : ¬TokenExpired world identity) (refused : ¬command.Admitted world identity) :
    ((command.program (some identity.userId) identity).run environment world).1 ≠
      ((command.program none identity).run environment world).1 := by
  cases command with
  | createDefinition requestType definition => exact absurd trivial refused
  | updateDraft definitionId definition => exact foreign_runs_apart administers current refused _ _ _
  | activateVersion definitionId => exact foreign_runs_apart administers current refused _ _ _
  | deleteDraft definitionId =>
      by_cases own : OwnDefinition world identity definitionId
      · have idle : ¬∀ row, world.definitions.find? definitionId = some row → row.isActive = true :=
          fun active => refused ⟨own, active⟩
        push Not at idle
        obtain ⟨row, found, draft⟩ := idle
        obtain ⟨message, failed, otherwise⟩ :=
          draft_runs_apart administers current found (own row found) (by simpa using draft)
        simp only [ManagementCall.program]
        rw [run_bind_of_error failed, run_bind]
        rcases reached : (Services.deleteDraft none identity definitionId).run environment world with ⟨error | value, after⟩
        · intro same
          rw [continueRun_error] at same
          obtain rfl : error = .eah message := Except.error.inj same.symm
          exact otherwise (congrArg Prod.fst reached)
        · intro same
          cases same
      · exact foreign_runs_apart administers current own _ _ _

theorem ManagementCall.expired_runs_alike (command : ManagementCall) (expired : TokenExpired world identity) :
    (command.program (some identity.userId) identity).run environment world =
      (command.program none identity).run environment world := by
  have raised : ∀ value, ((requireDefinitionManager identity).run environment world).1 ≠ .ok value := by
    intro value
    rw [requireDefinitionManager_expired expired]
    simp
  cases command with
  | createDefinition requestType definition =>
      exact run_bind_congr (run_bind_congr rfl fun _ granted => absurd granted (raised _)) fun _ _ => rfl
  | updateDraft definitionId definition =>
      exact run_bind_congr (run_bind_congr rfl fun _ granted => absurd granted (raised _)) fun _ _ => rfl
  | deleteDraft definitionId =>
      exact run_bind_congr (run_bind_congr rfl fun _ granted => absurd granted (raised _)) fun _ _ => rfl
  | activateVersion definitionId =>
      exact run_bind_congr (run_bind_congr rfl fun _ granted => absurd granted (raised _)) fun _ _ => rfl

end Programs

/-- Runs of management through the caller's own client and through the unrestricted one have the same results and leave
the same state exactly if no call of them names a definition of another company or deletes a draft. -/
theorem clients_agree_iff {calls : List (AuthenticatedIdentity × ManagementCall)} {world : World}
    (administrators : ∀ entry ∈ calls, Administers world entry.1) :
    manage true calls world = manage false calls world ↔ AllAdmitted calls world := by
  induction calls generalizing world with
  | nil => exact iff_of_true rfl trivial
  | cons entry later recurse =>
      obtain ⟨identity, command⟩ := entry
      have first : Administers world identity := administrators _ List.mem_cons_self
      have rest : ∀ entry ∈ later, Administers ((command.program none identity).run environment world).2 entry.1 :=
        fun entry member => (administrators entry (List.mem_cons_of_mem _ member)).after _
      have bound : clientOf true identity = some identity.userId := rfl
      have unbound : clientOf false identity = none := rfl
      simp only [manage, bound, unbound, AllAdmitted, ← recurse rest]
      by_cases served : TokenExpired world identity ∨ command.Admitted world identity
      · have alike : (command.program (some identity.userId) identity).run environment world =
            (command.program none identity).run environment world := by
          rcases served with expired | admitted
          · exact command.expired_runs_alike expired
          · exact ManagementCall.runs_alike first admitted
        rw [alike]
        simp only [served, true_and, Prod.ext_iff, List.cons.injEq]
      · obtain ⟨current, refused⟩ := not_or.mp served
        have apart := ManagementCall.runs_apart first current refused
        apply iff_of_false
        · intro same
          exact apart (List.cons.inj (congrArg Prod.fst same)).1
        · exact fun admitted => served admitted.1

section Sample

def sampleDraft : Draft WorkflowDefinition where
  build := fun id =>
    { id, requestType := "travel", version := 2, definition := signOff, isActive := false, createdBy := none,
      rowVersion := 1, createdAt := 0, companyId := 9 }
  key_build := fun _ => rfl

/-- The sample hub with a draft. -/
def hubWithDraft : World := { sampleHub with definitions := sampleHub.definitions.insert sampleDraft }

theorem sampleAdmin_administers : Administers hubWithDraft sampleAdmin :=
  ⟨rfl, sampleProfile 3 .admin none, (by decide +kernel), rfl, rfl⟩

theorem clients_agree_iff_sample :
    manage true [(sampleAdmin, .activateVersion 3), (sampleAdmin, .deleteDraft 3)] hubWithDraft =
        manage false [(sampleAdmin, .activateVersion 3), (sampleAdmin, .deleteDraft 3)] hubWithDraft ↔
      AllAdmitted [(sampleAdmin, .activateVersion 3), (sampleAdmin, .deleteDraft 3)] hubWithDraft := by
  apply clients_agree_iff
  intro entry member
  simp only [List.mem_cons, List.not_mem_nil, or_false] at member
  rcases member with rfl | rfl
  · exact sampleAdmin_administers
  · exact sampleAdmin_administers

/-- Through the own client the deletion of the draft is refused; through the unrestricted one it takes place. -/
theorem deletion_refused :
    (manage true [(sampleAdmin, .deleteDraft 3)] hubWithDraft).1 =
        [.error (.eah "Database operation 'delete_inactive_definition' failed on 'workflow_definitions'.")] ∧
      (manage true [(sampleAdmin, .deleteDraft 3)] hubWithDraft).2.definitions.rows.length = 3 ∧
      (manage false [(sampleAdmin, .deleteDraft 3)] hubWithDraft).1 = [.ok none] ∧
      (manage false [(sampleAdmin, .deleteDraft 3)] hubWithDraft).2.definitions.rows.length = 2 := by
  refine ⟨rfl, rfl, rfl, rfl⟩

end Sample

end AutomationHub.System
