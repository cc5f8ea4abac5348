import AutomationHub.System.PinnedDefinitions

/-!
Activations that overlap, or that a failure of the database strikes.

Taking the version in use out of use, and putting the new one in use, are two
statements; nothing undoes the first when the second is refused.
-/

set_option autoImplicit false

namespace AutomationHub.System

open Foundation Model Database Services Auth Workflow Program Table

/-- The company and the request type of a definition. -/
def scope (definition : WorkflowDefinition) : UUID × String :=
  (definition.companyId, definition.requestType)

/-- The version is in use for the company and the request type. -/
def ActiveIn (world : World) (group : UUID × String) (row : WorkflowDefinition) : Prop :=
  row ∈ world.definitions.rows ∧ row.isActive = true ∧ scope row = group

/-- The versions in use stay in use. -/
def KeepsActive (group : UUID × String) (before after : World) : Prop :=
  ∀ active, ActiveIn before group active → ∃ row, ActiveIn after group row ∧ row.id = active.id

/-- An activation that raises leaves the version in use in use, and a request type that has a version in use is never
left without. -/
structure ActivationAtomic (definitionId : UUID) (start : World) (result : Except AppError WorkflowDefinition)
    (final : World) : Prop where
  kept : (∃ error, result = .error error) → ∀ candidate, start.definitions.find? definitionId = some candidate →
    KeepsActive (scope candidate) start final
  served : ∀ candidate, start.definitions.find? definitionId = some candidate →
    (∃ active, ActiveIn start (scope candidate) active) → ∃ active, ActiveIn final (scope candidate) active

/-- How far an activation has come: the rows it fetched last; whether it took the version in use out of use, and put its
own in use; whether a statement was refused after the former, and the audit entry after the latter. -/
structure Course where
  candidate : Option WorkflowDefinition
  active : Option WorkflowDefinition
  cleared : Bool
  activated : Bool
  struck : Bool
  unrecorded : Bool

def Course.initial : Course :=
  { candidate := none, active := none, cleared := false, activated := false, struck := false, unrecorded := false }

def Course.after (course : Course) (request : Call) (reply : request.Reply) : Course :=
  match request, reply with
  | .query (.getDefinition ..), .ok row => { course with candidate := some row }
  | .query (.findActiveForRequestType ..), .ok active => { course with active }
  | .query (.deactivatePreviousDefinition ..), .ok (some _) => { course with cleared := true }
  | .query (.activateDefinition ..), .ok _ => { course with activated := true }
  | .query (.recordEvent ..), .error _ =>
      { course with struck := course.struck || course.cleared, unrecorded := course.activated }
  | .query _, .error _ => { course with struck := course.struck || course.cleared }
  | _, _ => course

/-- Any call, which the database may fail, and how far the activation came. -/
def tracking : Protocol hubSignature (World × Course) where
  permits := fun _ _ => True
  answers := fun state request reply after =>
    mayFail () state.1 request reply after.1 ∧ after.2 = state.2.after request reply

section Discipline

/-- The calls of an activation, with the rows that they name. -/
def Course.Permits (course : Course) (definitionId : UUID) : Call → Prop
  | .query (.getDefinition _ id) =>
      id = definitionId ∧ course.candidate = none ∧ course.active = none ∧ course.cleared = false ∧ course.activated = false
  | .query (.findActiveForRequestType _ requestType companyId) =>
      (∃ candidate, course.candidate = some candidate ∧ scope candidate = (companyId, requestType)) ∧
        course.cleared = false ∧ course.activated = false
  | .query (.deactivatePreviousDefinition _ id version) =>
      (∃ active, course.active = some active ∧ active.id = id ∧ active.rowVersion = version) ∧ id ≠ definitionId ∧
        course.cleared = false ∧ course.activated = false
  | .query (.activateDefinition _ id _) => id = definitionId ∧ course.activated = false
  | .query statement => statement.writesDefinitions = false
  | _ => True

def activationDiscipline (definitionId : UUID) : Protocol hubSignature Course where
  permits := fun course => course.Permits definitionId
  answers := fun course request reply after => FetchesDefinition request reply ∧ after = course.after request reply

/-- How an activation ends. -/
def Course.Ended {α : Type} : Except AppError α → Course → Prop
  | .ok _, course => course.activated = true ∧ course.struck = false
  | .error _, course =>
      (course.cleared = true → course.struck = true) ∧ (course.activated = true → course.unrecorded = true)

variable {definitionId : UUID} {course : Course}

/-- Nothing was written yet. -/
structure Course.Unwritten (course : Course) : Prop where
  cleared : course.cleared = false
  activated : course.activated = false
  struck : course.struck = false

theorem Course.Unwritten.ended {α : Type} (unwritten : course.Unwritten) (error : AppError) :
    course.Ended (.error error : Except AppError α) := by
  constructor
  · intro cleared
    rw [unwritten.cleared] at cleared
    cases cleared
  · intro activated
    rw [unwritten.activated] at activated
    cases activated

theorem Course.ended_of_cleared {α : Type} (cleared : course.struck = course.cleared) (idle : course.activated = false)
    (error : AppError) : course.Ended (.error error : Except AppError α) := by
  constructor
  · intro struck
    exact cleared.trans struck
  · intro activated
    rw [idle] at activated
    cases activated

/-- How the two writes of an activation end. -/
def Course.Written : Except AppError WorkflowDefinition → Course → Prop
  | .ok _, course => course.activated = true ∧ course.struck = false
  | .error _, course => course.struck = course.cleared ∧ course.activated = false

private theorem ensures_manager (identity : AuthenticatedIdentity) :
    (requireDefinitionManager identity).Ensures (activationDiscipline definitionId)
      (fun _ final => final = Course.initial) Course.initial := by
  have clock := @only_requireDefinitionManager (· = .utcNow) rfl identity
  refine clock.ensures (fun course => course = Course.initial) ?_ rfl
  intro course request same asked
  subst asked
  refine ⟨trivial, ?_⟩
  intro reply after answered
  exact answered.2.trans same

private theorem ensures_put (client : Option UUID) (version : Nat) (idle : course.activated = false)
    (unstruck : course.struck = false) :
    (orTranslate (.activateDefinition client definitionId version)).Ensures (activationDiscipline definitionId)
      Course.Written course := by
  refine (ensures_orTranslate ..).mpr ⟨⟨rfl, idle⟩, ?_⟩
  intro reply after answered
  obtain ⟨-, reached⟩ := answered
  subst reached
  cases reply with
  | ok written => exact ⟨rfl, unstruck⟩
  | error error => exact ⟨by simp [Course.after, unstruck], idle⟩

private theorem ensures_activateDefinition (client : Option UUID) {candidate : WorkflowDefinition} {companyId : UUID}
    (unwritten : course.Unwritten) (fetched : course.candidate = some candidate) (named : candidate.id = definitionId)
    (owned : candidate.companyId = companyId) :
    (activateDefinition client candidate.id candidate.requestType candidate.rowVersion companyId).Ensures
      (activationDiscipline definitionId) Course.Written course := by
  subst named owned
  unfold activateDefinition
  refine (ensures_bind ..).mpr ((ensures_orTranslate ..).mpr ?_)
  refine ⟨⟨⟨candidate, fetched, rfl⟩, unwritten.cleared, unwritten.activated⟩, ?_⟩
  intro reply after answered
  obtain ⟨-, reached⟩ := answered
  subst reached
  cases reply with
  | error error => exact ⟨by simp [Course.after, unwritten.struck], unwritten.activated⟩
  | ok found =>
      cases found with
      | none =>
          dsimp only [Except.mapError, Then]
          exact ensures_put client _ unwritten.activated unwritten.struck
      | some active =>
          dsimp only [Except.mapError, Then]
          split
          · rename_i other
            refine (ensures_bind ..).mpr ((ensures_orTranslate ..).mpr ?_)
            refine ⟨⟨⟨active, rfl, rfl, rfl⟩, other, unwritten.cleared, unwritten.activated⟩, ?_⟩
            intro reply last answered
            obtain ⟨-, reached⟩ := answered
            subst reached
            cases reply with
            | error error => exact ⟨by simp [Course.after, unwritten.struck], unwritten.activated⟩
            | ok taken =>
                dsimp only [Except.mapError, Then]
                cases taken <;> exact ensures_put client _ unwritten.activated unwritten.struck
          · exact ensures_put client _ unwritten.activated unwritten.struck

private theorem ensures_writes (client : Option UUID) (identity : AuthenticatedIdentity) {candidate : WorkflowDefinition}
    (currentlyActive : Option WorkflowDefinition) (unwritten : course.Unwritten)
    (fetched : course.candidate = some candidate) (named : candidate.id = definitionId)
    (owned : candidate.companyId = identity.companyId) :
    (transaction "activate_workflow_definition"
      (activateVersionBody client identity candidate currentlyActive)).Ensures (activationDiscipline definitionId)
      Course.Ended course := by
  refine (Transaction.ensures_enact ..).mpr ((Transaction.ensures_lift_bind ..).mpr ?_)
  refine (ensures_activateDefinition client unwritten fetched named owned).mono ?_
  intro result written ended
  cases result with
  | error error =>
      refine ⟨trivial, ?_⟩
      intro reply after answered
      obtain ⟨-, reached⟩ := answered
      subst reached
      exact Course.ended_of_cleared ended.1 ended.2 error
  | ok activated =>
      refine (Transaction.ensures_lift_bind ..).mpr ((ensures_orTranslate ..).mpr ⟨rfl, ?_⟩)
      intro reply after answered
      obtain ⟨-, reached⟩ := answered
      subst reached
      cases reply with
      | ok entry => exact ended
      | error error =>
          refine ⟨trivial, ?_⟩
          intro reply last answered
          obtain ⟨-, reached⟩ := answered
          subst reached
          refine ⟨trivial, ?_⟩
          intro reply last answered
          obtain ⟨-, reached⟩ := answered
          subst reached
          constructor
          · intro cleared
            have taken : written.cleared = true := cleared
            change (written.struck || written.cleared) = true
            rw [taken, Bool.or_true]
          · intro _
            exact ended.1

/-- An activation names only rows that it fetched, and whatever is refused once it wrote is noted. -/
theorem ensures_activateVersion (client : Option UUID) (identity : AuthenticatedIdentity) (definitionId : UUID) :
    (activateVersion client identity definitionId).Ensures (activationDiscipline definitionId) Course.Ended
      Course.initial := by
  refine (ensures_bind ..).mpr ((ensures_manager identity).mono ?_)
  intro result course started
  subst started
  have unwritten : Course.initial.Unwritten := ⟨rfl, rfl, rfl⟩
  cases result with
  | error error => exact @Course.Unwritten.ended Course.initial WorkflowDefinition unwritten error
  | ok _ =>
      refine (ensures_bind ..).mpr ((ensures_bind ..).mpr ((ensures_orNotFound ..).mpr ?_))
      refine ⟨⟨rfl, rfl, rfl, rfl, rfl⟩, ?_⟩
      intro reply fetching answered
      obtain ⟨reads, reached⟩ := answered
      subst reached
      cases reply with
      | error error => exact @Course.Unwritten.ended _ WorkflowDefinition ⟨rfl, rfl, rfl⟩ (notFoundOrDatabase error)
      | ok candidate =>
          have named : candidate.id = definitionId := reads
          dsimp only [Except.mapError, Then]
          split
          · exact @Course.Unwritten.ended _ WorkflowDefinition ⟨rfl, rfl, rfl⟩
              (translateDatabaseError (.recordNotFound "workflow_definition" definitionId))
          · rename_i foreign
            have owned : candidate.companyId = identity.companyId := Decidable.not_not.mp foreign
            refine (ensures_bind ..).mpr ((ensures_orRaise ..).mpr ⟨⟨⟨candidate, rfl, ?_⟩, rfl, rfl⟩, ?_⟩)
            · exact Prod.ext owned rfl
            · intro reply found answered
              obtain ⟨-, reached⟩ := answered
              subst reached
              cases reply with
              | error error => exact @Course.Unwritten.ended _ WorkflowDefinition ⟨rfl, rfl, rfl⟩ (.database error)
              | ok currentlyActive =>
                  refine (ensures_bind ..).mpr ((ensures_engineOrTranslate ..).mpr ?_)
                  cases validateActivation candidate currentlyActive with
                  | error error =>
                      exact @Course.Unwritten.ended _ WorkflowDefinition ⟨rfl, rfl, rfl⟩ (translateWorkflowError error)
                  | ok _ => exact ensures_writes client identity currentlyActive ⟨rfl, rfl, rfl⟩ rfl named owned

end Discipline

section Moves

variable {ι : Type} {definitionId : UUID} {course : Course} {world after : World}

/-- The statement was refused. -/
def refuses : (request : Call) → request.Reply → Bool
  | .query _, .error _ => true
  | _, _ => false

/-- What a call of an activation does to the definitions, and to its course. -/
inductive Move (definitionId : UUID) (course : Course) (world : World) (request : Call) (reply : request.Reply)
    (after : World) : Prop
  | other (same : after.definitions = world.definitions)
      (noted : course.after request reply = { course with
        struck := course.struck || (course.cleared && refuses request reply),
        unrecorded := (course.after request reply).unrecorded })
      (unrecorded : (course.after request reply).unrecorded = true →
        course.unrecorded = true ∨ course.activated = true ∧ refuses request reply = true)
  | candidate (row : WorkflowDefinition) (same : after.definitions = world.definitions)
      (found : world.definitions.find? definitionId = some row) (early : course.cleared = false ∧ course.activated = false)
      (first : course.active = none) (noted : course.after request reply = { course with candidate := some row })
  | active (row : Option WorkflowDefinition) (candidate : WorkflowDefinition)
      (same : after.definitions = world.definitions) (fetched : course.candidate = some candidate)
      (shown : ∀ active, row = some active → ActiveIn world (scope candidate) active)
      (early : course.cleared = false ∧ course.activated = false)
      (noted : course.after request reply = { course with active := row })
  | cleared (active row : WorkflowDefinition) (fetched : course.active = some active)
      (found : world.definitions.find? active.id = some row) (current : row.rowVersion = active.rowVersion)
      (different : active.id ≠ definitionId) (early : course.cleared = false ∧ course.activated = false)
      (written : after.definitions = world.definitions.modify active.id (stamped (World.activityEdit false) active.rowVersion))
      (noted : course.after request reply = { course with cleared := true })
  | activated (row : WorkflowDefinition) (version : Nat) (found : world.definitions.find? definitionId = some row)
      (alone : ∀ other, ActiveIn world (scope row) other → other.id = definitionId) (early : course.activated = false)
      (written : after.definitions = world.definitions.modify definitionId (stamped (World.activityEdit true) version))
      (noted : course.after request reply = { course with activated := true })

theorem Move.unrecorded {request : Call} {reply : request.Reply}
    (move : Move definitionId course world request reply after)
    (marked : (course.after request reply).unrecorded = true) :
    course.unrecorded = true ∨ course.activated = true ∧ refuses request reply = true := by
  cases move with
  | other same noted unrecorded => exact unrecorded marked
  | candidate row same found early first noted =>
      rw [noted] at marked
      exact .inl marked
  | active row candidate same fetched shown early noted =>
      rw [noted] at marked
      exact .inl marked
  | cleared active row fetched found current different early written noted =>
      rw [noted] at marked
      exact .inl marked
  | activated row version found alone early written noted =>
      rw [noted] at marked
      exact .inl marked

theorem ActiveIn.of_eq {group : UUID × String} {row : WorkflowDefinition} (same : after.definitions = world.definitions)
    (active : ActiveIn world group row) : ActiveIn after group row := by
  unfold ActiveIn
  rw [same]
  exact active

theorem alone_of_secondActive {row written : WorkflowDefinition} {id : UUID} (admitted : world.secondActive written = none)
    (named : written.id = id) (grouped : scope written = scope row) :
    ∀ other, ActiveIn world (scope row) other → other.id = id := by
  intro other active
  obtain ⟨member, inUse, same⟩ := active
  have passed := (World.firstViolated_eq_none_iff _).mp admitted _ (List.mem_singleton.mpr rfl)
  have holds := List.all_eq_true.mp passed other member
  obtain ⟨company, type⟩ := Prod.mk.inj (same.trans grouped.symm)
  by_contra different
  have distinct : other.id ≠ written.id := fun equal => different (equal.trans named)
  simp [distinct, inUse, company, type] at holds

private theorem move_of_refused {thread : ι} {statement : Query} {error : DatabaseError}
    (step : mayFail thread world (.query statement) (.error error) after) :
    Move definitionId course world (.query statement) (.error error) after := by
  have same : after.definitions = world.definitions :=
    (congrArg World.definitions (World.unchanged_of_refused step)).trans rfl
  cases statement with
  | recordEvent =>
      refine .other same (by simp [Course.after, refuses]) ?_
      intro unrecorded
      exact .inr ⟨unrecorded, rfl⟩
  | _ => exact .other same (by simp [Course.after, refuses]) fun unrecorded => .inl unrecorded

private theorem move_of_accepted {thread : ι} {statement : Query} {result : statement.Result}
    (permitted : course.Permits definitionId (.query statement))
    (step : mayFail thread world (.query statement) (.ok result) after) :
    Move definitionId course world (.query statement) (.ok result) after := by
  obtain ⟨changed, executed, ticked⟩ := World.executed_of_mayFail step
  have unmoved : statement.writesDefinitions = false → after.definitions = world.definitions := by
    intro reading
    refine World.definitions_of_mayFail step ?_
    intro other asked
    obtain rfl := Call.query.inj asked
    exact reading
  subst ticked
  cases statement with
  | getDefinition viewer id =>
      obtain ⟨named, -, first, early⟩ := permitted
      subst named
      exact .candidate result (unmoved rfl) (World.definition_of_mayFail step).1 early first rfl
  | findActiveForRequestType viewer requestType companyId =>
      obtain ⟨⟨candidate, fetched, asked⟩, early⟩ := permitted
      refine .active result candidate (unmoved rfl) fetched ?_ early rfl
      intro active same
      obtain ⟨replied, -⟩ := Prod.mk.inj executed
      have found := (Except.ok.inj replied).trans same
      have shown := List.find?_some found
      simp only [Bool.and_eq_true, beq_iff_eq] at shown
      exact ⟨List.mem_of_find?_eq_some found, shown.2, asked ▸ Prod.ext shown.1.2 shown.1.1.2⟩
  | activateDefinition viewer id version =>
      obtain ⟨named, early⟩ := permitted
      subst named
      obtain ⟨row, found, -, -, admitted, same, written⟩ := World.updateDefinition_ok_iff.mp executed
      subst written
      have keyed := ((find?_eq_some_iff ..).mp found).2
      refine .activated row version found ?_ early rfl rfl
      exact alone_of_secondActive admitted (same ▸ keyed) (same ▸ rfl)
  | deactivatePreviousDefinition viewer id version =>
      obtain ⟨⟨active, fetched, named, remembered⟩, different, early⟩ := permitted
      subst named remembered
      rcases World.deactivatePreviousDefinition_cases executed with ⟨replied, same⟩ | ⟨row, found, current, replied, same⟩
      · obtain rfl := Except.ok.inj replied
        exact .other (congrArg World.definitions same :) (by simp [Course.after, refuses]) fun unrecorded => .inl unrecorded
      · obtain rfl := Except.ok.inj replied
        subst same
        exact .cleared active row fetched found current different early rfl rfl
  | createDefinition => cases (permitted : true = false)
  | updateInactiveDefinition => cases (permitted : true = false)
  | deleteInactiveDefinition => cases (permitted : true = false)
  | _ => exact .other (unmoved rfl) (by simp [Course.after, refuses]) fun unrecorded => .inl unrecorded

theorem move_of_mayFail {thread : ι} {request : Call} {reply : request.Reply}
    (permitted : course.Permits definitionId request) (step : mayFail thread world request reply after) :
    Move definitionId course world request reply after := by
  cases request with
  | query statement =>
      cases reply with
      | error error => exact move_of_refused step
      | ok result => exact move_of_accepted permitted step
  | _ =>
      refine .other (World.definitions_of_mayFail step ?_) (by simp [Course.after, refuses]) fun unrecorded => .inl unrecorded
      intro statement asked
      cases asked

end Moves

section Alone

variable {definitionId : UUID} {start world after : World}

/-- Since the start every definition has stayed one of its company and request type. -/
def Framed (start world : World) : Prop :=
  ∀ id, (world.definitions.find? id).map scope = (start.definitions.find? id).map scope

theorem Framed.of_eq (framed : Framed start world) (same : after.definitions = world.definitions) :
    Framed start after := by
  intro id
  rw [same]
  exact framed id

/-- What is known, while an activation runs alone from a state, of the rows that it fetched and those it wrote. -/
structure Pending (definitionId : UUID) (start : World) (state : World × Course) : Prop where
  candidate : ∀ candidate, state.2.candidate = some candidate → start.definitions.find? definitionId = some candidate
  active : ∀ active, state.2.active = some active → ∃ candidate,
    start.definitions.find? definitionId = some candidate ∧ ActiveIn start (scope candidate) active
  untouched : state.2.cleared = false → state.2.activated = false → state.1.definitions = start.definitions
  kept : state.2.cleared = false → ∀ group, KeepsActive group start state.1
  lost : state.2.cleared = true → ∃ candidate active, start.definitions.find? definitionId = some candidate ∧
    ActiveIn start (scope candidate) active ∧ active.id ≠ definitionId ∧
      ∀ row, state.1.definitions.find? active.id = some row → row.isActive = false
  served : state.2.activated = true → ∃ candidate row, start.definitions.find? definitionId = some candidate ∧
    ActiveIn state.1 (scope candidate) row
  framed : Framed start state.1
  struck : state.2.struck = true → state.2.cleared = true

theorem KeepsActive.refl (group : UUID × String) (world : World) : KeepsActive group world world :=
  fun active inUse => ⟨active, inUse, rfl⟩

theorem Pending.initial (definitionId : UUID) (start : World) : Pending definitionId start (start, Course.initial) where
  candidate := fun _ fetched => nomatch fetched
  active := fun _ fetched => nomatch fetched
  untouched := fun _ _ => rfl
  kept := fun _ group => .refl group start
  lost := fun cleared => nomatch cleared
  served := fun activated => nomatch activated
  framed := fun _ => rfl
  struck := fun struck => nomatch struck

theorem framed_modify {id version : Nat} {isActive : Bool}
    (written : after.definitions = world.definitions.modify id (stamped (World.activityEdit isActive) version))
    (other : UUID) : (after.definitions.find? other).map scope = (world.definitions.find? other).map scope := by
  rw [written, find?_modify]
  split
  · rename_i same
    rw [same, Option.map_map]
    rfl
  · rfl

theorem Framed.step {course : Course} {request : Call} {reply : request.Reply}
    (framed : Framed start world) (move : Move definitionId course world request reply after) : Framed start after := by
  cases move with
  | other same => exact framed.of_eq same
  | candidate _ same => exact framed.of_eq same
  | active _ _ same => exact framed.of_eq same
  | cleared active row fetched found current different early written noted =>
      exact fun id => (framed_modify written id).trans (framed id)
  | activated row version found alone early written noted =>
      exact fun id => (framed_modify written id).trans (framed id)

/-- The versions that are in use after an update: those that were, and the one updated if it was put in use. -/
theorem activeIn_modify {id version : Nat} {isActive : Bool} {group : UUID × String} {row : WorkflowDefinition}
    (written : after.definitions = world.definitions.modify id (stamped (World.activityEdit isActive) version)) :
    ActiveIn after group row ↔ (ActiveIn world group row ∧ row.id ≠ id) ∨
      ∃ old ∈ world.definitions.rows, old.id = id ∧ isActive = true ∧ scope old = group ∧
        row = (stamped (World.activityEdit isActive) version).apply old := by
  unfold ActiveIn
  rw [written, mem_modify]
  constructor
  · intro active
    obtain ⟨member | ⟨old, member, keyed, same⟩, inUse, grouped⟩ := active
    · exact .inl ⟨⟨member.1, inUse, grouped⟩, member.2⟩
    · subst same
      exact .inr ⟨old, member, keyed, inUse, grouped, rfl⟩
  · intro active
    rcases active with ⟨⟨member, inUse, grouped⟩, other⟩ | ⟨old, member, keyed, inUse, grouped, same⟩
    · exact ⟨.inl ⟨member, other⟩, inUse, grouped⟩
    · subst same
      exact ⟨.inr ⟨old, member, keyed, rfl⟩, inUse, grouped⟩

theorem KeepsActive.activated {before : World} {id version : Nat} {group : UUID × String}
    (written : after.definitions = world.definitions.modify id (stamped (World.activityEdit true) version))
    (kept : KeepsActive group before world) : KeepsActive group before after := by
  intro active inUse
  obtain ⟨row, held, keyed⟩ := kept active inUse
  by_cases same : row.id = id
  · refine ⟨_, (activeIn_modify written).mpr (.inr ⟨row, held.1, same, rfl, held.2.2, rfl⟩), ?_⟩
    exact keyed
  · exact ⟨row, (activeIn_modify written).mpr (.inl ⟨held, same⟩), keyed⟩

theorem KeepsActive.of_eq {before : World} {group : UUID × String} (same : after.definitions = world.definitions)
    (kept : KeepsActive group before world) : KeepsActive group before after := by
  intro active inUse
  obtain ⟨row, held, keyed⟩ := kept active inUse
  exact ⟨row, held.of_eq same, keyed⟩

theorem Pending.step {course : Course} {request : Call} {reply : request.Reply}
    (pending : Pending definitionId start (world, course)) (move : Move definitionId course world request reply after) :
    Pending definitionId start (after, course.after request reply) := by
  have framed := pending.framed.step move
  cases move with
  | other same noted unrecorded =>
      rw [noted]
      refine ⟨pending.candidate, pending.active, fun cleared activated => same.trans (pending.untouched cleared activated),
        fun cleared group => (pending.kept cleared group).of_eq same, ?_, ?_, ?_, ?_⟩
      · intro cleared
        rw [same]
        exact pending.lost cleared
      · intro activated
        obtain ⟨candidate, row, found, active⟩ := pending.served activated
        exact ⟨candidate, row, found, active.of_eq same⟩
      · exact pending.framed.of_eq same
      · intro struck
        rcases Bool.or_eq_true_iff.mp struck with earlier | now
        · exact pending.struck earlier
        · exact (Bool.and_eq_true_iff.mp now).1
  | candidate row same found early first noted =>
      rw [noted]
      have unwritten := pending.untouched early.1 early.2
      refine ⟨?_, pending.active, fun _ _ => same.trans unwritten, fun cleared group => (pending.kept cleared group).of_eq same,
        ?_, ?_, ?_, pending.struck⟩
      · intro candidate fetched
        obtain rfl := Option.some.inj fetched
        exact unwritten ▸ found
      · intro cleared
        cases early.1.symm.trans cleared
      · intro activated
        cases early.2.symm.trans activated
      · exact pending.framed.of_eq same
  | active row candidate same fetched shown early noted =>
      rw [noted]
      have unwritten := pending.untouched early.1 early.2
      refine ⟨pending.candidate, ?_, fun _ _ => same.trans unwritten,
        fun cleared group => (pending.kept cleared group).of_eq same, ?_, ?_, ?_, pending.struck⟩
      · intro active same
        exact ⟨candidate, pending.candidate candidate fetched, (shown active same).of_eq unwritten.symm⟩
      · intro cleared
        cases early.1.symm.trans cleared
      · intro activated
        cases early.2.symm.trans activated
      · exact pending.framed.of_eq same
  | cleared active row fetched found current different early written noted =>
      rw [noted]
      obtain ⟨candidate, located, inUse⟩ := pending.active active fetched
      refine ⟨pending.candidate, pending.active, fun cleared => (nomatch cleared), fun cleared => (nomatch cleared), ?_, ?_,
        framed, fun _ => rfl⟩
      · intro _
        refine ⟨candidate, active, located, inUse, different, ?_⟩
        intro now present
        rw [written, find?_modify, if_pos rfl, found] at present
        obtain rfl := Option.some.inj present
        rfl
      · intro activated
        cases early.2.symm.trans activated
  | activated row version found alone early written noted =>
      rw [noted]
      refine ⟨pending.candidate, pending.active, fun _ activated => (nomatch activated),
        fun cleared group => (pending.kept cleared group).activated written, ?_, ?_,
        framed, pending.struck⟩
      · intro cleared
        obtain ⟨candidate, active, located, inUse, different, idle⟩ := pending.lost cleared
        refine ⟨candidate, active, located, inUse, different, ?_⟩
        intro now present
        rw [written, find?_modify, if_neg different] at present
        exact idle now present
      · intro _
        have framed := pending.framed definitionId
        rw [found] at framed
        cases located : start.definitions.find? definitionId with
        | none =>
            rw [located] at framed
            cases framed
        | some candidate =>
            rw [located] at framed
            obtain ⟨member, keyed⟩ := (find?_eq_some_iff ..).mp found
            refine ⟨candidate, _, rfl, (activeIn_modify written).mpr (.inr ⟨row, member, keyed, rfl, ?_, rfl⟩)⟩
            exact Option.some.inj framed

/-- An activation is atomic exactly if no statement of it is refused once it has taken the version in use out of use. -/
theorem activation_atomic_iff_unstruck (client : Option UUID) (identity : AuthenticatedIdentity) (definitionId : UUID)
    (start : World) :
    (activateVersion client identity definitionId).Ensures tracking (fun result final =>
      ActivationAtomic definitionId start result final.1 ↔ final.2.struck = false) (start, Course.initial) := by
  have ensured : (activateVersion client identity definitionId).Ensures tracking
      (fun result final => Course.Ended result final.2 ∧ Pending definitionId start final) (start, Course.initial) :=
    (ensures_activateVersion client identity definitionId).invariant (Pending definitionId start) (fun _ _ => trivial)
      (by
      intro state request reply after pending permitted answered
      obtain ⟨world, course⟩ := state
      obtain ⟨later, reached⟩ := after
      obtain ⟨step, noted⟩ := answered
      have same : reached = course.after request reply := noted
      subst same
      exact ⟨⟨fetches_of_mayFail step, rfl⟩, pending.step (move_of_mayFail permitted step)⟩)
      (.initial definitionId start)
  refine ensured.mono ?_
  intro result final held
  obtain ⟨ended, pending⟩ := held
  constructor
  · intro atomic
    by_contra struck
    have hit : final.2.struck = true := by simpa using struck
    obtain ⟨candidate, active, located, inUse, -, idle⟩ := pending.lost (pending.struck hit)
    cases result with
    | ok written => exact struck ended.2
    | error error =>
        obtain ⟨row, held, keyed⟩ := atomic.kept ⟨error, rfl⟩ candidate located active inUse
        have retired := idle row ((find?_eq_some_iff ..).mpr ⟨held.1, keyed⟩)
        rw [held.2.1] at retired
        cases retired
  · intro unstruck
    have uncleared : (∃ error, result = .error error) → final.2.cleared = false := by
      intro raised
      obtain ⟨error, same⟩ := raised
      subst same
      by_contra cleared
      have struck := ended.1 (by simpa using cleared)
      rw [unstruck] at struck
      cases struck
    constructor
    · intro raised candidate located
      exact pending.kept (uncleared raised) (scope candidate)
    · intro candidate located served
      cases result with
      | error error =>
          obtain ⟨active, inUse⟩ := served
          obtain ⟨row, held, -⟩ := pending.kept (uncleared ⟨error, rfl⟩) (scope candidate) active inUse
          exact ⟨row, held⟩
      | ok written =>
          obtain ⟨other, row, found, held⟩ := pending.served ended.1
          obtain rfl := Option.some.inj (found.symm.trans located)
          exact ⟨row, held⟩

end Alone

/-- A database that fails to put a version in use. -/
def failingActivation : Handler hubSignature World := fun request world =>
  match request with
  | .query (.activateDefinition ..) =>
      (.error (.repository "Database operation 'update' failed on 'workflow_definitions'."), world.tick)
  | request => environment request world

def trackedActivation : Handler hubSignature (World × Course) := fun request state =>
  ((failingActivation request state.1).1,
    ((failingActivation request state.1).2, state.2.after request (failingActivation request state.1).1))

theorem answers_trackedActivation (state : World × Course) (request : Call) :
    tracking.answers state request (trackedActivation request state).1 (trackedActivation request state).2 := by
  refine ⟨?_, rfl⟩
  change mayFail () state.1 request (failingActivation request state.1).1 (failingActivation request state.1).2
  unfold failingActivation
  split
  · exact .inr ⟨_, rfl, rfl⟩
  · exact mayFail_environment () state.1 request

/-- The activation raises, and the request type is left without a version in use. -/
theorem none_active_after_refusal : ∃ error final,
    (activateVersion (some 3) sampleAdmin 3).Executes tracking (draftedHub, Course.initial) (.error error) final ∧
      (∃ active, ActiveIn draftedHub (9, "expense") active) ∧ (∀ row, ¬ActiveIn final.1 (9, "expense") row) ∧
      ¬ActivationAtomic 3 draftedHub (.error error) final.1 := by
  have served : draftedHub.definitions.rows.any (fun row =>
      row.isActive && (scope row == (9, "expense"))) = true := by decide +kernel
  have drafted : (draftedHub.definitions.find? 3).map scope = some (9, "expense") := by decide +kernel
  have raised : (raisedError ((activateVersion (some 3) sampleAdmin 3).run trackedActivation
      (draftedHub, Course.initial)).1).isSome = true := by decide +kernel
  have idle : ((activateVersion (some 3) sampleAdmin 3).run trackedActivation
      (draftedHub, Course.initial)).2.1.definitions.rows.all (fun row =>
        !row.isActive || !(scope row == (9, "expense"))) = true := by decide +kernel
  have executed := @executes_run _ _ _ _ tracking (draftedHub, Course.initial) trackedActivation
    answers_trackedActivation (activateVersion (some 3) sampleAdmin 3)
  obtain ⟨active, member, holds⟩ := List.any_eq_true.mp served
  rw [Bool.and_eq_true, beq_iff_eq] at holds
  have inUse : ActiveIn draftedHub (9, "expense") active := ⟨member, holds.1, holds.2⟩
  obtain ⟨error, same⟩ := Option.isSome_iff_exists.mp raised
  rw [eq_of_raisedError same] at executed
  have none : ∀ row, ¬ActiveIn ((activateVersion (some 3) sampleAdmin 3).run trackedActivation
      (draftedHub, Course.initial)).2.1 (9, "expense") row := by
    intro row held
    have excluded := List.all_eq_true.mp idle row held.1
    simp [held.2.1, held.2.2] at excluded
  refine ⟨error, _, executed, ⟨active, inUse⟩, none, ?_⟩
  intro atomic
  obtain ⟨candidate, found, grouped⟩ := Option.map_eq_some_iff.mp drafted
  obtain ⟨row, held⟩ := atomic.served candidate found ⟨active, grouped ▸ inUse⟩
  exact none row (grouped ▸ held)

end AutomationHub.System
