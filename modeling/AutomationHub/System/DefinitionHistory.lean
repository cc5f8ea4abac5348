import AutomationHub.Services.WorkflowDefinitionService
import AutomationHub.System.Footprints

/-!
What becomes of a workflow definition once it was activated.

Edits and deletions look at whether the version is in use now; whether it was in
use before is recorded nowhere.
-/

set_option autoImplicit false

namespace AutomationHub.System

open Foundation Model Database Services Auth Workflow Program Table

/-- The operations on definitions, and the one that pins them. -/
inductive DefinitionOperation where
  | createDefinition (client : Option UUID) (identity : AuthenticatedIdentity) (requestType : String)
      (definition : List StageDefinitionInput)
  | updateDraft (client : Option UUID) (identity : AuthenticatedIdentity) (definitionId : UUID)
      (definition : List StageDefinitionInput)
  | deleteDraft (client : Option UUID) (identity : AuthenticatedIdentity) (definitionId : UUID)
  | activateVersion (client : Option UUID) (identity : AuthenticatedIdentity) (definitionId : UUID)
  | createRequest (identity : AuthenticatedIdentity) (input : RequestCreate)

def DefinitionOperation.program : DefinitionOperation → Service Unit
  | .createDefinition client identity requestType definition =>
      forEffect (Services.createDefinition client identity requestType definition)
  | .updateDraft client identity definitionId definition =>
      forEffect (Services.updateDraft client identity definitionId definition)
  | .deleteDraft client identity definitionId => Services.deleteDraft client identity definitionId
  | .activateVersion client identity definitionId =>
      forEffect (Services.activateVersion client identity definitionId)
  | .createRequest identity input => forEffect (Services.createRequest identity input)

/-- Threads about to perform one of these operations each. -/
def launchDefinitions (operations : ℕ → DefinitionOperation) (world : World) :
    Pool hubSignature AppError World ℕ where
  shared := world
  threads := fun thread => (operations thread).program

/-- The operation edits or deletes a draft. -/
def DefinitionOperation.drafts : DefinitionOperation → Bool
  | .updateDraft .. | .deleteDraft .. => true
  | _ => false

/-- The event puts the definition in use. -/
def activates (definitionId : UUID) : Event hubSignature ℕ → Bool
  | ⟨_, .query (.activateDefinition _ id _), .ok _⟩ => id == definitionId
  | _ => false

/-- The event takes the definition out of use. -/
def deactivates (definitionId : UUID) : Event hubSignature ℕ → Bool
  | ⟨_, .query (.deactivatePreviousDefinition _ id _), .ok (some _)⟩ => id == definitionId
  | _ => false

/-- The definition went out of use, and was not put in use again. -/
def retired (definitionId : UUID) (events : List (Event hubSignature ℕ)) : Bool :=
  events.foldl (fun out event => !activates definitionId event && (out || deactivates definitionId event)) false

/-- An edit or a deletion of a draft that gets to see the definition, or deletes it. -/
def draftStep (operations : ℕ → DefinitionOperation) (definitionId : UUID) (event : Event hubSignature ℕ) : Bool :=
  match event with
  | ⟨thread, .query (.getDefinition _ id), .ok _⟩ => (operations thread).drafts && id == definitionId
  | ⟨_, .query (.deleteInactiveDefinition _ id _), _⟩ => id == definitionId
  | _ => false

/-- No edit and no deletion of a draft reads the definition, or deletes it, while it is retired. -/
def LeavesRetired (operations : ℕ → DefinitionOperation) (definitionId : UUID)
    (events : List (Event hubSignature ℕ)) : Prop :=
  ∀ earlier event later, events = earlier ++ event :: later → draftStep operations definitionId event = true →
    retired definitionId earlier = false

theorem leavesRetired_iff (operations : ℕ → DefinitionOperation) (definitionId : UUID)
    (events : List (Event hubSignature ℕ)) :
    LeavesRetired operations definitionId events ↔ ∀ index : Fin events.length,
      draftStep operations definitionId events[index] = true → retired definitionId (events.take index) = false := by
  constructor
  · intro leaves index drafts
    have split : events = events.take index ++ events[index] :: events.drop (index + 1) := by
      rw [Fin.getElem_fin, List.cons_getElem_drop_succ, List.take_append_drop]
    exact leaves _ _ _ split drafts
  · intro each earlier event later split drafts
    subst split
    simpa using each ⟨earlier.length, by simp⟩ (by simpa using drafts)

instance (operations : ℕ → DefinitionOperation) (definitionId : UUID) (events : List (Event hubSignature ℕ)) :
    Decidable (LeavesRetired operations definitionId events) :=
  decidable_of_iff _ (leavesRetired_iff operations definitionId events).symm

section Discipline

/-- The definition row that a thread fetched last. -/
inductive DraftPhase where
  | away
  | fetched (row : WorkflowDefinition)

def DraftPhase.after (phase : DraftPhase) (request : Call) (reply : request.Reply) : DraftPhase :=
  match request, reply with
  | .query (.getDefinition _ _), .ok row => .fetched row
  | _, _ => phase

/-- Only an edit writes a document, on the row it fetched and found out of use; only a deletion deletes. -/
def DefinitionOperation.Permits (operation : DefinitionOperation) (phase : DraftPhase) : Call → Prop
  | .query (.updateInactiveDefinition _ id version _) =>
      operation.drafts = true ∧ ∃ row, phase = .fetched row ∧ row.id = id ∧ row.rowVersion = version ∧ row.isActive = false
  | _ => True

/-- A definition that was fetched is the one asked for. -/
def FetchesDefinition : (request : Call) → request.Reply → Prop
  | .query (.getDefinition _ id), .ok row => row.id = id
  | _, _ => True

def DefinitionOperation.discipline (operation : DefinitionOperation) : Protocol hubSignature DraftPhase where
  permits := operation.Permits
  answers := fun phase request reply after => FetchesDefinition request reply ∧ after = phase.after request reply

/-- The call writes no document into a definition that exists. -/
def EditFree : Call → Prop
  | .query (.updateInactiveDefinition ..) => False
  | _ => True

/-- The calls by which a version is deleted or put in use. -/
def Arranging : Call → Prop
  | .utcNow | .log _ | .query (.getDefinition ..) | .query (.findActiveForRequestType ..)
  | .query (.deactivatePreviousDefinition ..) | .query (.activateDefinition ..)
  | .query (.deleteInactiveDefinition ..) | .query (.recordEvent ..) => True
  | _ => False

theorem Arranging.editFree {request : Call} (arranging : Arranging request) : EditFree request := by
  cases request with
  | query statement => cases statement <;> trivial
  | _ => trivial

theorem Auxiliary.editFree {request : Call} (auxiliary : Auxiliary request) : EditFree request := by
  cases request with
  | query statement => cases statement <;> trivial
  | _ => trivial

theorem RequestCall.editFree {request : Call} (requestCall : RequestCall request) : EditFree request := by
  cases request with
  | query statement => cases statement <;> trivial
  | _ => trivial

theorem only_requireDefinitionManager {allowed : Call → Prop} (clock : allowed .utcNow)
    (identity : AuthenticatedIdentity) : (requireDefinitionManager identity).Only allowed := by
  apply Only.bind (only_authorizeWorkflowDefinitionManagement clock identity)
  intro decision
  cases decision <;> trivial

theorem only_getDefinitionForCompany {allowed : Call → Prop} (client : Option UUID) (definitionId companyId : UUID)
    (fetched : allowed (.query (.getDefinition client definitionId))) :
    (getDefinitionForCompany client definitionId companyId).Only allowed := by
  apply Only.bind (only_orNotFound _ fetched)
  intro record
  split <;> trivial

theorem only_validateAssignees {allowed : Call → Prop} (document : WorkflowDefinitionDocument)
    (listed : ∀ profileIds, allowed (.query (.findProfilesByIds profileIds))) :
    (validateAssignees document).Only allowed := by
  unfold validateAssignees
  dsimp only
  split
  · exact only_engineOrRaise _
  · exact Only.bind (only_orRaise _ (listed _)) fun found => only_engineOrTranslate _

private theorem only_createDefinition (client : Option UUID) (identity : AuthenticatedIdentity) (requestType : String)
    (definition : List StageDefinitionInput) :
    (Services.createDefinition client identity requestType definition).Only EditFree := by
  refine Only.bind (only_requireDefinitionManager trivial identity) fun _ => ?_
  refine Only.bind (only_ofExcept _) fun document => ?_
  refine Only.bind (only_validateAssignees document fun _ => trivial) fun _ => ?_
  refine Only.bind (only_orTranslate _ trivial) fun existing => ?_
  exact only_orTranslate _ trivial

theorem only_deleteDraft (client : Option UUID) (identity : AuthenticatedIdentity) (definitionId : UUID) :
    (Services.deleteDraft client identity definitionId).Only Arranging := by
  refine Only.bind (only_requireDefinitionManager trivial identity) fun _ => ?_
  refine Only.bind (only_getDefinitionForCompany _ _ _ trivial) fun existing => ?_
  refine Only.bind (only_engineOrTranslate _) fun _ => ?_
  exact only_orTranslate _ trivial

theorem only_activateVersion (client : Option UUID) (identity : AuthenticatedIdentity) (definitionId : UUID) :
    (Services.activateVersion client identity definitionId).Only Arranging := by
  refine Only.bind (only_requireDefinitionManager trivial identity) fun _ => ?_
  refine Only.bind (only_getDefinitionForCompany _ _ _ trivial) fun candidate => ?_
  refine Only.bind (only_orRaise _ trivial) fun currentlyActive => ?_
  refine Only.bind (only_engineOrTranslate _) fun _ => ?_
  refine Transaction.Only.enact ?_ (fun _ member => absurd member List.not_mem_nil) (fun _ => trivial) trivial
  refine Transaction.Only.bind (Transaction.only_ofProgram ?_) fun activated => ?_
  · refine Only.bind (only_orTranslate _ trivial) fun active => ?_
    cases active with
    | none => exact only_orTranslate _ trivial
    | some active =>
        dsimp only
        split
        · exact Only.bind (only_orTranslate _ trivial) fun _ => only_orTranslate _ trivial
        · exact only_orTranslate _ trivial
  · refine Transaction.Only.bind (Transaction.only_registerCompensation ((only_ask _).mpr trivial)) fun _ => ?_
    exact Transaction.Only.bind (Transaction.only_ofProgram (only_orTranslate _ trivial)) fun _ => trivial

variable {operation : DefinitionOperation}

private theorem ensures_editFree {α : Type} {program : Service α} (only : program.Only EditFree) (phase : DraftPhase) :
    program.Ensures operation.discipline (fun _ _ => True) phase := by
  refine only.ensures (fun _ => True) ?_ trivial
  intro phase request _ free
  refine ⟨?_, fun _ _ _ => trivial⟩
  cases request with
  | query statement => cases statement <;> trivial
  | _ => trivial

private theorem ensures_updateDraft (drafts : operation.drafts = true) (client : Option UUID)
    (identity : AuthenticatedIdentity) (definitionId : UUID) (definition : List StageDefinitionInput) :
    (Services.updateDraft client identity definitionId definition).Ensures operation.discipline (fun _ _ => True)
      .away := by
  unfold Services.updateDraft
  have manager := @ensures_editFree operation _ _
    (only_requireDefinitionManager trivial identity) .away
  refine (ensures_bind ..).mpr (manager.mono ?_)
  intro result phase _
  cases result with
  | error error => trivial
  | ok _ =>
      refine (ensures_bind ..).mpr ?_
      unfold getDefinitionForCompany
      refine (ensures_bind ..).mpr ((ensures_orNotFound ..).mpr ⟨trivial, ?_⟩)
      intro reply after ⟨fetches, reached⟩
      cases reply with
      | error error => cases error <;> trivial
      | ok existing =>
          have named : existing.id = definitionId := fetches
          subst reached
          dsimp only [Except.mapError, Then]
          split
          · trivial
          · simp only [pure_eq, ensures_done, Then, ensures_bind, ensures_engineOrTranslate]
            cases allowed : validateEditAllowed existing with
            | error error => trivial
            | ok _ =>
                have idle := (validateEditAllowed_ok_iff existing).mp allowed
                simp only [Except.mapError, Then, ensures_bind, ensures_ofExcept]
                cases validateDocument definition with
                | error error => trivial
                | ok document =>
                    have unmoved : (validateAssignees document).Ensures operation.discipline
                        (fun _ final => final = .fetched existing) (DraftPhase.after .away
                          (.query (.getDefinition client definitionId)) (.ok existing)) := by
                      refine (@only_validateAssignees (fun call => ∃ profileIds,
                        call = .query (.findProfilesByIds profileIds)) document fun _ => ⟨_, rfl⟩).ensures _ ?_ rfl
                      intro phase request fetched named
                      obtain ⟨profileIds, lists⟩ := named
                      subst lists fetched
                      refine ⟨trivial, fun reply after answered => ?_⟩
                      cases reply <;> exact answered.2
                    refine unmoved.mono ?_
                    intro result final fetched
                    cases result with
                    | error error => trivial
                    | ok _ =>
                        subst fetched
                        exact (ensures_orTranslate ..).mpr
                          ⟨⟨drafts, existing, rfl, named, rfl, idle⟩, fun _ _ _ => trivial⟩

private theorem ensures_definitionDiscipline (operation : DefinitionOperation) :
    operation.program.Ensures operation.discipline (fun _ _ => True) .away := by
  cases operation with
  | createDefinition => exact ensures_editFree (only_forEffect (only_createDefinition ..)) .away
  | updateDraft => exact ensures_forEffect (ensures_updateDraft rfl ..)
  | deleteDraft => exact ensures_editFree ((only_deleteDraft ..).mono fun _ => Arranging.editFree) .away
  | activateVersion =>
      exact ensures_editFree (only_forEffect ((only_activateVersion ..).mono fun _ => Arranging.editFree)) .away
  | createRequest =>
      exact ensures_editFree (only_forEffect ((only_createRequest ..).mono fun _ => RequestCall.editFree)) .away

end Discipline

section History

variable {definitionId : UUID} {world after : World} {row : WorkflowDefinition}

/-- What one call does to the row of a definition. -/
inductive DefinitionStep (definitionId : UUID) (row : WorkflowDefinition) (event : Event hubSignature ℕ)
    (found : Option WorkflowDefinition) : Prop
  | kept (same : found = some row) (other : activates definitionId event = false)
  | edited (viewer : Option UUID) (document : WorkflowDefinitionDocument)
      (edits : event.request = .query (.updateInactiveDefinition viewer definitionId row.rowVersion document))
  | activated (written : found = some { row with isActive := true, rowVersion := row.rowVersion + 1 })
  | deactivated (written : found = some { row with isActive := false, rowVersion := row.rowVersion + 1 })
      (out : deactivates definitionId event = true)
  | removed (idle : row.isActive = false)
      (deletes : ∃ viewer companyId, event.request = .query (.deleteInactiveDefinition viewer definitionId companyId))

private theorem updated_row {id version : Nat} {edit : Edit WorkflowDefinition} {table : Table WorkflowDefinition}
    (found : table.find? definitionId = some row) :
    (table.modify id (stamped edit version)).find? definitionId =
      if definitionId = id then some ((stamped edit version).apply row) else some row := by
  rw [find?_modify]
  split
  · rename_i same
    subst same
    rw [found]
    rfl
  · exact found

theorem definitionStep_of_mayFail {thread : ℕ} {request : Call} {reply : request.Reply}
    (step : mayFail thread world request reply after) (found : world.definitions.find? definitionId = some row) :
    DefinitionStep definitionId row ⟨thread, request, reply⟩ (after.definitions.find? definitionId) := by
  have unmoved : after.definitions = world.definitions → activates definitionId ⟨thread, request, reply⟩ = false →
      DefinitionStep definitionId row ⟨thread, request, reply⟩ (after.definitions.find? definitionId) :=
    fun same other => .kept (same ▸ found) other
  by_cases writes : ∃ statement, request = .query statement ∧ statement.writesDefinitions = true
  · obtain ⟨statement, asked, writing⟩ := writes
    subst asked
    cases reply with
    | error error =>
        refine unmoved ((congrArg World.definitions (World.unchanged_of_refused step)).trans rfl) ?_
        cases statement <;> rfl
    | ok result =>
        obtain ⟨changed, executed, ticked⟩ := World.executed_of_mayFail step
        subst ticked
        cases statement with
        | createDefinition viewer requestType version document createdBy companyId =>
            obtain ⟨-, inserted⟩ := World.createDefinition_ok executed
            subst inserted
            refine .kept ((find?_insert ..).trans ?_) rfl
            obtain ⟨member, named⟩ := (find?_eq_some_iff ..).mp found
            rw [if_neg (Nat.ne_of_lt (named ▸ world.definitions.fresh row member))]
            exact found
        | updateInactiveDefinition viewer id version document =>
            simp only [World.execute] at executed
            obtain ⟨old, located, -, current, -, -, written⟩ := World.updateDefinition_ok_iff.mp executed
            subst written
            by_cases same : definitionId = id
            · subst same
              obtain rfl := Option.some.inj (located.symm.trans found)
              subst current
              exact .edited viewer document rfl
            · exact .kept ((updated_row found).trans (if_neg same)) rfl
        | activateDefinition viewer id version =>
            obtain ⟨old, located, -, current, -, -, written⟩ := World.updateDefinition_ok_iff.mp executed
            subst written
            by_cases same : definitionId = id
            · subst same
              obtain rfl := Option.some.inj (located.symm.trans found)
              subst current
              exact .activated ((updated_row found).trans (if_pos rfl))
            · exact .kept ((updated_row found).trans (if_neg same)) (by simpa [activates] using Ne.symm same)
        | deactivatePreviousDefinition viewer id version =>
            rcases World.deactivatePreviousDefinition_cases executed with ⟨-, same⟩ | ⟨old, located, current, replied, written⟩
            · exact unmoved (congrArg World.definitions same :) rfl
            · subst written
              by_cases same : definitionId = id
              · subst same
                obtain rfl := Option.some.inj (located.symm.trans found)
                subst current
                obtain rfl := Except.ok.inj replied
                exact .deactivated ((updated_row found).trans (if_pos rfl)) (by simp [deactivates])
              · exact .kept ((updated_row found).trans (if_neg same)) rfl
        | deleteInactiveDefinition viewer id companyId =>
            obtain ⟨-, ⟨old, located, idle⟩, -, erased⟩ := World.deleteInactiveDefinition_ok executed
            subst erased
            by_cases same : definitionId = id
            · subst same
              obtain rfl := Option.some.inj (located.symm.trans found)
              exact .removed idle ⟨viewer, companyId, rfl⟩
            · exact .kept ((find?_erase ..).trans ((if_neg same).trans found)) rfl
        | _ => cases writing
  · have reading : ∀ statement, request = .query statement → statement.writesDefinitions = false := by
      intro statement asked
      cases writing : statement.writesDefinitions with
      | false => rfl
      | true => exact absurd ⟨statement, asked, writing⟩ writes
    refine unmoved (World.definitions_of_mayFail step reading) ?_
    cases request with
    | query statement =>
        cases statement with
        | activateDefinition => cases reading _ rfl
        | _ => rfl
    | _ => rfl

/-- The definition was in use at some time. -/
def WasInUse (definitionId : UUID) (start : World) (events : List (Event hubSignature ℕ)) : Prop :=
  (∃ row, start.definitions.find? definitionId = some row ∧ row.isActive = true) ∨
    ∃ event ∈ events, activates definitionId event = true

/-- The row is the definition's, in use unless the definition is retired, and newer than every draft of it that an
edit still remembers. -/
structure Current (operations : ℕ → DefinitionOperation) (definitionId : UUID) (events : List (Event hubSignature ℕ))
    (phases : ℕ → DraftPhase) (world : World) (row : WorkflowDefinition) : Prop where
  found : world.definitions.find? definitionId = some row
  inUse : retired definitionId events = false → row.isActive = true
  newer : ∀ thread draft, (operations thread).drafts = true → phases thread = .fetched draft → draft.id = definitionId →
    draft.isActive = false → draft.rowVersion < row.rowVersion

/-- What every step keeps while nobody drafts on a retired definition. -/
structure Traced (operations : ℕ → DefinitionOperation) (definitionId : UUID) (start : World)
    (events : List (Event hubSignature ℕ)) (phases : ℕ → DraftPhase) (world : World) : Prop where
  seen : ∀ thread draft, phases thread = .fetched draft → Seen world.definitions draft
  current : WasInUse definitionId start events → ∃ row, Current operations definitionId events phases world row

variable {operations : ℕ → DefinitionOperation} {start : World} {events : List (Event hubSignature ℕ)}
  {phases : ℕ → DraftPhase}

theorem retired_append (event : Event hubSignature ℕ) :
    retired definitionId (events ++ [event]) =
      (!activates definitionId event && (retired definitionId events || deactivates definitionId event)) := by
  unfold retired
  rw [List.foldl_append]
  rfl

theorem LeavesRetired.before {earlier later : List (Event hubSignature ℕ)}
    (leaves : LeavesRetired operations definitionId (earlier ++ later)) :
    LeavesRetired operations definitionId earlier := by
  intro first event rest split drafts
  refine leaves first event (rest ++ later) ?_ drafts
  rw [split, List.append_assoc, List.cons_append]

theorem LeavesRetired.last {event : Event hubSignature ℕ}
    (leaves : LeavesRetired operations definitionId (events ++ [event]))
    (drafts : draftStep operations definitionId event = true) : retired definitionId events = false :=
  leaves events event [] rfl drafts

theorem fetches_of_mayFail {ι : Type} {thread : ι} {request : Call} {reply : request.Reply}
    (step : mayFail thread world request reply after) : FetchesDefinition request reply := by
  cases request with
  | query statement =>
      cases statement with
      | getDefinition viewer id =>
          cases reply with
          | error error => trivial
          | ok row => exact ((find?_eq_some_iff ..).mp (World.definition_of_mayFail step).1).2
      | _ => trivial
  | _ => trivial

private theorem remembered_after (operations : ℕ → DefinitionOperation) {thread other : ℕ} {request : Call} {reply : request.Reply} {draft : WorkflowDefinition}
    (step : mayFail thread world request reply after)
    (fetched : Function.update phases thread ((phases thread).after request reply) other = .fetched draft) :
    phases other = .fetched draft ∨ (world.definitions.find? draft.id = some draft ∧
      ((operations other).drafts = true → draftStep operations draft.id ⟨thread, request, reply⟩ = true)) := by
  by_cases same : other = thread
  · subst same
    rw [Function.update_self] at fetched
    cases request with
    | query statement =>
        cases statement with
        | getDefinition viewer id =>
            cases reply with
            | error error => exact .inl fetched
            | ok row =>
                obtain rfl : row = draft := DraftPhase.fetched.inj fetched
                have found := (World.definition_of_mayFail step).1
                have named : row.id = id := ((find?_eq_some_iff ..).mp found).2
                exact .inr ⟨named ▸ found, fun drafts => by simp [draftStep, drafts, named]⟩
        | _ => exact .inl fetched
    | _ => exact .inl fetched
  · rw [Function.update_of_ne same] at fetched
    exact .inl fetched

private theorem activates_of_deactivates {event : Event hubSignature ℕ} (out : deactivates definitionId event = true) :
    activates definitionId event = false := by
  obtain ⟨thread, request, reply⟩ := event
  cases request with
  | query statement => cases statement <;> first | rfl | cases out
  | _ => rfl

/-- A step that changes no document in use: the definition keeps its row, unless a draft was made of a retired one. -/
theorem Current.step {thread : ℕ} {request : Call} {reply : request.Reply}
    (current : Current operations definitionId events phases world row)
    (leaves : LeavesRetired operations definitionId (events ++ [⟨thread, request, reply⟩]))
    (permitted : (operations thread).Permits (phases thread) request)
    (step : mayFail thread world request reply after) :
    ∃ next, Current operations definitionId (events ++ [⟨thread, request, reply⟩])
      (Function.update phases thread ((phases thread).after request reply)) after next ∧
        next.definition = row.definition := by
  have grown : ∀ other draft, (operations other).drafts = true →
      Function.update phases thread ((phases thread).after request reply) other = .fetched draft →
      draft.id = definitionId → draft.isActive = false → draft.rowVersion < row.rowVersion := by
    intro other draft drafts fetched named idle
    rcases remembered_after operations step fetched with earlier | ⟨found, reads⟩
    · exact current.newer other draft drafts earlier named idle
    · subst named
      obtain rfl := Option.some.inj (found.symm.trans current.found)
      rw [current.inUse (leaves.last (reads drafts))] at idle
      cases idle
  cases definitionStep_of_mayFail step current.found with
  | kept same other =>
      refine ⟨row, ⟨same, ?_, grown⟩, rfl⟩
      intro unretired
      refine current.inUse ?_
      rw [retired_append, other] at unretired
      exact (Bool.or_eq_false_iff.mp unretired).1
  | edited viewer document edits =>
      dsimp only at edits
      subst edits
      obtain ⟨drafts, draft, fetched, named, version, idle⟩ := permitted
      have older := current.newer thread draft drafts fetched named idle
      omega
  | activated written =>
      refine ⟨_, ⟨written, fun _ => rfl, fun other draft drafts fetched named idle => ?_⟩, rfl⟩
      exact Nat.lt_succ_of_lt (grown other draft drafts fetched named idle)
  | deactivated written out =>
      refine ⟨_, ⟨written, fun unretired => ?_, fun other draft drafts fetched named idle => ?_⟩, rfl⟩
      · rw [retired_append, activates_of_deactivates out, out, Bool.or_true] at unretired
        cases unretired
      · exact Nat.lt_succ_of_lt (grown other draft drafts fetched named idle)
  | removed idle deletes =>
      obtain ⟨viewer, companyId, asked⟩ := deletes
      dsimp only at asked
      subst asked
      rw [current.inUse (leaves.last (by simp [draftStep]))] at idle
      cases idle

theorem Current.of_activates {thread : ℕ} {request : Call} {reply : request.Reply}
    (seen : ∀ thread draft, phases thread = .fetched draft → Seen world.definitions draft)
    (activating : activates definitionId ⟨thread, request, reply⟩ = true)
    (step : mayFail thread world request reply after) :
    ∃ row, Current operations definitionId (events ++ [⟨thread, request, reply⟩])
      (Function.update phases thread ((phases thread).after request reply)) after row := by
  cases request with
  | query statement =>
      cases statement with
      | activateDefinition viewer id version =>
          cases reply with
          | error error => cases activating
          | ok written =>
              obtain rfl : id = definitionId := by simpa [activates] using activating
              obtain ⟨changed, executed, ticked⟩ := World.executed_of_mayFail step
              subst ticked
              obtain ⟨row, found, -, current, -, -, same⟩ := World.updateDefinition_ok_iff.mp executed
              subst same current
              refine ⟨_, ⟨(updated_row found).trans (if_pos rfl), fun _ => rfl, ?_⟩⟩
              intro other draft _ fetched named _
              have member := (find?_eq_some_iff ..).mp found
              have shown : Seen world.definitions draft := by
                rcases remembered_after operations step fetched with earlier | ⟨located, -⟩
                · exact seen other draft earlier
                · exact seen_of_mem ((find?_eq_some_iff ..).mp located).1
              exact Nat.lt_succ_of_le (shown.later row member.1 (member.2.trans named.symm)).1
      | _ => cases activating
  | _ => cases activating

theorem WasInUse.grow {later : List (Event hubSignature ℕ)} (before : WasInUse definitionId start events) :
    WasInUse definitionId start (events ++ later) := by
  rcases before with active | ⟨event, member, activating⟩
  · exact .inl active
  · exact .inr ⟨event, List.mem_append_left _ member, activating⟩

/-- The row under the id has kept its document. -/
def SameDocument (definitionId : UUID) (world after : World) : Prop :=
  ∃ row, world.definitions.find? definitionId = some row ∧
    ∃ now, after.definitions.find? definitionId = some now ∧ now.definition = row.definition

theorem SameDocument.trans {middle : World} (left : SameDocument definitionId world middle)
    (right : SameDocument definitionId middle after) : SameDocument definitionId world after := by
  obtain ⟨row, found, now, present, same⟩ := left
  obtain ⟨other, located, final, remaining, kept⟩ := right
  obtain rfl := Option.some.inj (present.symm.trans located)
  exact ⟨row, found, final, remaining, kept.trans same⟩

theorem Traced.step {thread : ℕ} {request : Call} {reply : request.Reply}
    (traced : Traced operations definitionId start events phases world)
    (leaves : LeavesRetired operations definitionId (events ++ [⟨thread, request, reply⟩]))
    (permitted : (operations thread).Permits (phases thread) request)
    (step : mayFail thread world request reply after) :
    Traced operations definitionId start (events ++ [⟨thread, request, reply⟩])
        (Function.update phases thread ((phases thread).after request reply)) after ∧
      (WasInUse definitionId start events → SameDocument definitionId world after) := by
  have kept : WasInUse definitionId start events → SameDocument definitionId world after := by
    intro before
    obtain ⟨row, current⟩ := traced.current before
    obtain ⟨next, currentNext, same⟩ := current.step leaves permitted step
    exact ⟨row, current.found, next, currentNext.found, same⟩
  refine ⟨⟨?_, ?_⟩, kept⟩
  · intro other draft fetched
    refine Seen.evolves ?_ (World.evolves_definitions_of_mayFail step)
    rcases remembered_after operations step fetched with earlier | ⟨found, -⟩
    · exact traced.seen other draft earlier
    · exact seen_of_mem ((find?_eq_some_iff ..).mp found).1
  · intro inUse
    by_cases before : WasInUse definitionId start events
    · obtain ⟨row, current⟩ := traced.current before
      obtain ⟨next, currentNext, -⟩ := current.step leaves permitted step
      exact ⟨next, currentNext⟩
    · refine Current.of_activates traced.seen ?_ step
      rcases inUse with active | ⟨event, member, activating⟩
      · exact absurd (.inl active) before
      · rcases List.mem_append.mp member with earlier | last
        · exact absurd (.inr ⟨event, earlier, activating⟩) before
        · exact List.mem_singleton.mp last ▸ activating

/-- A run in which nobody drafts on a retired definition keeps the invariant, and the document of a definition that
was in use when the run began. -/
theorem Traced.run {first last : Pool hubSignature AppError World ℕ} {prior : List (Event hubSignature ℕ)}
    (run : Pool.Run mayFail first events last) (phases : ℕ → DraftPhase)
    (traced : Traced operations definitionId start prior phases first.shared)
    (follows : ∀ thread, (first.threads thread).Ensures (operations thread).discipline (fun _ _ => True) (phases thread))
    (leaves : LeavesRetired operations definitionId (prior ++ events)) :
    ∃ phases, Traced operations definitionId start (prior ++ events) phases last.shared ∧
      (∀ thread, (last.threads thread).Ensures (operations thread).discipline (fun _ _ => True) (phases thread)) ∧
      (WasInUse definitionId start prior → SameDocument definitionId first.shared last.shared) := by
  have started : LeavesRetired operations definitionId (prior ++ []) →
      Traced operations definitionId start (prior ++ []) phases first.shared ∧
        (WasInUse definitionId start prior → SameDocument definitionId first.shared first.shared) := by
    intro _
    rw [List.append_nil]
    refine ⟨traced, fun before => ?_⟩
    obtain ⟨row, current⟩ := traced.current before
    exact ⟨row, current.found, row, current.found, rfl⟩
  obtain ⟨reached, holds, follows⟩ := run.invariant
    (fun events phases world => LeavesRetired operations definitionId (prior ++ events) →
      Traced operations definitionId start (prior ++ events) phases world ∧
        (WasInUse definitionId start prior → SameDocument definitionId first.shared world))
    (by
      intro events phases world thread request reply after holds permitted step
      refine ⟨(phases thread).after request reply, ⟨fetches_of_mayFail step, rfl⟩, fun leaves => ?_⟩
      rw [← List.append_assoc] at leaves ⊢
      obtain ⟨traced, same⟩ := holds leaves.before
      obtain ⟨next, kept⟩ := traced.step leaves permitted step
      exact ⟨next, fun before => (same before).trans (kept before.grow)⟩)
    phases started follows
  obtain ⟨traced, same⟩ := holds leaves
  exact ⟨reached, traced, follows, same⟩

/-- Once a definition was in use, its document never changes and it is never deleted, as long as no draft is made of it
while it is retired. -/
theorem document_fixed_once_in_use {middle last : Pool hubSignature AppError World ℕ}
    {earlier later : List (Event hubSignature ℕ)}
    (before : Pool.Run mayFail (launchDefinitions operations start) earlier middle)
    (after : Pool.Run mayFail middle later last) (used : WasInUse definitionId start earlier)
    (leaves : LeavesRetired operations definitionId (earlier ++ later)) :
    SameDocument definitionId middle.shared last.shared := by
  have launched : Traced operations definitionId start [] (fun _ => .away) start := by
    refine ⟨fun _ _ fetched => (nomatch fetched), fun inUse => ?_⟩
    rcases inUse with ⟨row, found, active⟩ | ⟨event, member, -⟩
    · exact ⟨row, found, fun _ => active, fun _ _ _ fetched => (nomatch fetched)⟩
    · cases member
  obtain ⟨phases, traced, follows, -⟩ := Traced.run before _ launched
    (fun thread => ensures_definitionDiscipline (operations thread)) leaves.before
  obtain ⟨_, -, -, same⟩ := Traced.run after phases traced follows leaves
  exact same used

end History

/-- A submitted stage for the administrators. -/
def administratorsStage (order : Int) : StageDefinitionInput :=
  { order, name := "Audit", assignmentStrategy := .departmentQueue, assignedRole := some .admin,
    department := some "finance", assignedUserId := none, escalationHours := .finite 48 }

/-- The administrator drafts version 2 of the `expense` workflow, puts it in use, and edits a definition. -/
def revisingOperations (edited : UUID) (thread : ℕ) : DefinitionOperation :=
  [.createDefinition (some 3) sampleAdmin "expense" [administratorsStage 1],
    .activateVersion (some 3) sampleAdmin 3,
    .updateDraft (some 3) sampleAdmin edited [administratorsStage 2, administratorsStage 1]].getD thread
      (.deleteDraft (some 3) sampleAdmin edited)

/-- The sample hub once version 2 is in use. -/
def revisedHub (edited : UUID) : Pool hubSignature AppError World ℕ :=
  (launchDefinitions (revisingOperations edited) sampleHub).play environment (List.replicate 2 0 ++ List.replicate 6 1)

/-- The edit of the version that is in use is refused. -/
theorem document_fixed_once_in_use_sample :
    SameDocument 3 (revisedHub 3).shared ((revisedHub 3).play environment (List.replicate 2 2)).shared := by
  have before := play_runs_mayFail (launchDefinitions (revisingOperations 3) sampleHub)
    (List.replicate 2 0 ++ List.replicate 6 1)
  have after := play_runs_mayFail (revisedHub 3) (List.replicate 2 2)
  refine document_fixed_once_in_use before after (.inr ?_) ?_
  · decide +kernel
  · decide +kernel

/-- Version 1, in use until then, takes the document of the edit. -/
theorem retired_definition_rewritten :
    ∃ earlier later, Pool.Run mayFail (launchDefinitions (revisingOperations 1) sampleHub) earlier (revisedHub 1) ∧
      Pool.Run mayFail (revisedHub 1) later ((revisedHub 1).play environment (List.replicate 2 2)) ∧
      WasInUse 1 sampleHub earlier ∧
      ¬SameDocument 1 (revisedHub 1).shared ((revisedHub 1).play environment (List.replicate 2 2)).shared := by
  have before := play_runs_mayFail (launchDefinitions (revisingOperations 1) sampleHub)
    (List.replicate 2 0 ++ List.replicate 6 1)
  have after := play_runs_mayFail (revisedHub 1) (List.replicate 2 2)
  refine ⟨_, _, before, after, .inl ⟨_, rfl, rfl⟩, ?_⟩
  intro ⟨row, found, now, present, same⟩
  have names : ((revisedHub 1).shared.definitions.find? 1).map (fun row => row.definition.stages.map StageDefinition.name) =
        some ["Review", "Review"] ∧
      (((revisedHub 1).play environment (List.replicate 2 2)).shared.definitions.find? 1).map
        (fun row => row.definition.stages.map StageDefinition.name) = some ["Audit", "Audit"] := by
    decide +kernel
  rw [found, present, Option.map_some, Option.map_some, same] at names
  exact absurd (names.1.symm.trans names.2) (by decide)

end AutomationHub.System
