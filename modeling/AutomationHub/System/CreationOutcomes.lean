import AutomationHub.System.DecisionAtomicity

/-!
What the creation of a request leaves, whichever of its calls the database fails, as long as it carries out the
compensation.

The compensation names the version that the request was inserted with.
-/

set_option autoImplicit false

namespace AutomationHub.System

open Foundation Model Database Services Auth Workflow Program Table Function

/-- The requests and stages but for the new ones. -/
structure CreationFrame (start final : World) : Prop where
  requests : ∀ id, id ≠ start.requests.next → final.requests.find? id = start.requests.find? id
  stages : ∀ id, id ≠ start.stages.next → final.stages.find? id = start.stages.find? id

/-- The new request is live, at its first stage, which is pending. -/
structure Opened (identity : AuthenticatedIdentity) (start final : World) : Prop where
  request : ∃ request, final.requests.find? start.requests.next = some request ∧ request.deletedAt = none ∧
    request.requesterId = identity.userId ∧ request.companyId = identity.companyId ∧ request.status = .pending ∧
    request.currentStageId = some start.stages.next
  stage : ∃ stage, final.stages.find? start.stages.next = some stage ∧ stage.requestId = start.requests.next ∧
    stage.status = .pending ∧ stage.companyId = identity.companyId
  frame : CreationFrame start final

/-- The new request is withdrawn; a stage that was inserted for it stays behind. -/
structure Discarded (identity : AuthenticatedIdentity) (start final : World) : Prop where
  request : ∃ request, final.requests.find? start.requests.next = some request ∧ request.deletedAt ≠ none ∧
    request.deletedBy = some identity.userId ∧ request.requesterId = identity.userId ∧ request.currentStageId = none
  stage : ∀ stage, final.stages.find? start.stages.next = some stage → stage.requestId = start.requests.next
  frame : CreationFrame start final
  audit : final.audit = start.audit

/-- No request, no stage and no audit entry has changed. -/
def Untouched (start final : World) : Prop :=
  final.requests = start.requests ∧ final.stages = start.stages ∧ final.audit = start.audit

/-- One entry of the audit log says that the request was created. -/
def Announced (identity : AuthenticatedIdentity) (start final : World) : Prop :=
  ∃ entry, final.audit.rows = start.audit.rows ++ [entry] ∧ entry.action = .requestCreated ∧
    entry.actorId = some identity.userId ∧ entry.requestId = some start.requests.next ∧
    entry.metadata.bind AuditMetadata.stageId = some start.stages.next

/-- What a rollback leaves: the new request goes, unless it has moved on to its first stage already. -/
def RolledBack (identity : AuthenticatedIdentity) (start final : World) : Prop :=
  Untouched start final ∨ Discarded identity start final ∨ Opened identity start final ∧ final.audit = start.audit

/-- What `create_request` leaves. -/
def CreationLeaves (identity : AuthenticatedIdentity) (start : World) :
    Except AppError RequestRecord → World → (rolledBack : Bool) → Prop
  | .ok request, final, rolledBack => rolledBack = false ∧ final.requests.find? start.requests.next = some request ∧
      Opened identity start final ∧ Announced identity start final
  | .error _, final, true => RolledBack identity start final
  | .error _, final, false => Untouched start final ∨ Opened identity start final ∧ Announced identity start final

section Body

variable {identity : AuthenticatedIdentity} {start world : World} {requests : UUID → Option RequestRecord}
  {stages : UUID → Option WorkflowStageRecord}

theorem Holding.insertRequest (holding : Holding start requests stages world) (draft : Draft RequestRecord) :
    Holding start (update requests world.requests.next (some (draft.build world.requests.next))) stages
      { world with requests := world.requests.insert draft } where
  requests := by
    intro other
    rw [find?_insert, update_apply, holding.requests]
  stages := holding.stages
  others := holding.others

theorem Holding.setNewRequest {request : RequestRecord}
    (holding : Holding start (update start.requests.find? start.requests.next (some request)) stages world)
    (new : request.id = start.requests.next) (edit : Edit RequestRecord) :
    Holding start (update start.requests.find? start.requests.next (some (edit.apply request))) stages
      { world with requests := world.requests.modify request.id edit } := by
  have own : update start.requests.find? start.requests.next (some request) request.id = some request := by
    rw [new, update_self]
  have changed := holding.setRequest own edit
  have placed : update (update start.requests.find? start.requests.next (some request)) request.id
      (some (edit.apply request)) = update start.requests.find? start.requests.next (some (edit.apply request)) := by
    rw [new, update_idem]
  rwa [placed] at changed

/-- Whichever way a rollback from here goes, it leaves what a rollback may leave. -/
def Recoverable (identity : AuthenticatedIdentity) (start : World) (registered : List (Service Unit)) (world : World) :
    Prop :=
  ∀ (ticks : Nat) (operation : String) (error : AppError) (α : Type), RolledBack identity start
    ((Transaction.rollback (transactionReport operation) error registered : Service α).run environment
      (world.atTick ticks)).2

theorem Recoverable.atTick {registered : List (Service Unit)} (recoverable : Recoverable identity start registered world)
    (ticks : Nat) : Recoverable identity start registered (world.atTick ticks) :=
  fun later => recoverable later

/-- The request as it was inserted. -/
structure Fresh (identity : AuthenticatedIdentity) (start : World) (request : RequestRecord) : Prop where
  id : request.id = start.requests.next
  version : request.version = 1
  live : request.deletedAt = none
  requester : request.requesterId = identity.userId
  company : request.companyId = identity.companyId
  status : request.status = .pending
  stageless : request.currentStageId = none

theorem recoverable_fresh {request : RequestRecord} (fresh : Fresh identity start request)
    (known : start.hasProfile identity.userId = true)
    (holding : Holding start (update start.requests.find? start.requests.next (some request)) stages world)
    (orphan : ∀ stage, stages start.stages.next = some stage → stage.requestId = start.requests.next)
    (elsewhere : ∀ id, id ≠ start.stages.next → stages id = start.stages.find? id) :
    Recoverable identity start [compensation (.softDelete request.id request.version identity.userId)] world := by
  intro ticks operation error α
  have held := holding.atTick ticks
  have located : (world.atTick ticks).requests.find? request.id = some request := by
    rw [held.requests, fresh.id, update_self]
  have profiles : (world.atTick ticks).profiles = start.profiles := (congrArg World.profiles held.others :)
  have deleter : (world.atTick ticks).hasProfile identity.userId = true := by
    unfold World.hasProfile at known ⊢
    rwa [profiles]
  let withdrawing := stamped ((world.atTick ticks).softDeleteEdit identity.userId) request.version
  have executed : (world.atTick ticks).execute (.softDelete request.id request.version identity.userId) =
      (.ok (withdrawing.apply request),
        { world.atTick ticks with requests := (world.atTick ticks).requests.modify request.id withdrawing }) := by
    refine World.updateRequest_ok_iff.mpr ⟨request, located, rfl, ?_, rfl, rfl⟩
    apply (World.firstViolated_eq_none_iff _).mpr
    intro constraint listed
    rw [List.mem_singleton.mp listed]
    exact deleter
  rw [Transaction.run_rollback_cons (run_compensation executed)]
  have withdrawn := (held.setNewRequest fresh.id withdrawing).tick
  refine .inr (.inl ⟨⟨withdrawing.apply request, ?_, nofun, rfl, fresh.requester, fresh.stageless⟩, ?_, ⟨?_, ?_⟩, ?_⟩)
  · exact (withdrawn.requests _).trans (update_self ..)
  · intro stage found
    exact orphan stage ((withdrawn.stages _).symm.trans found)
  · intro id other
    exact (withdrawn.requests id).trans (update_of_ne other ..)
  · intro id other
    exact (withdrawn.stages id).trans (elsewhere id other)
  · exact audit_of_others withdrawn

theorem run_compensation_failed {statement : Query} {error : DatabaseError}
    (executed : world.execute statement = (.error error, world)) :
    (compensation statement).run environment world = (.error (.database error), world.tick) := by
  have replied : (environment (.query statement) world).1 = .error error := congrArg Prod.fst executed
  have reached : (environment (.query statement) world).2 = world.tick :=
    congrArg (fun outcome => outcome.2.tick) executed
  rw [compensation, orRaise, run_bind, run_bind]
  simp only [attempt, ask, run_call, run_done, continueRun_ok, replied, reached]
  rfl

/-- The request has moved on to its first stage: the compensation finds it changed and leaves it. -/
theorem recoverable_opened {request : RequestRecord} (moved : ∃ row, world.requests.find? request.id = some row ∧
      row.version ≠ request.version) (opened : Opened identity start world) (audit : world.audit = start.audit) :
    Recoverable identity start [compensation (.softDelete request.id request.version identity.userId)] world := by
  intro ticks operation error α
  obtain ⟨row, located, changed⟩ := moved
  have refused : ∃ error, (world.atTick ticks).execute (.softDelete request.id request.version identity.userId) =
      (.error error, world.atTick ticks) := by
    cases outcome : (world.atTick ticks).execute (.softDelete request.id request.version identity.userId) with
    | mk reply after =>
        cases reply with
        | error error => exact ⟨error, by rw [World.execute_error outcome]⟩
        | ok written =>
            obtain ⟨current, found, version, -⟩ := World.updateRequest_ok_iff.mp outcome
            obtain rfl : current = row := Option.some.inj (found.symm.trans located)
            exact absurd version changed
  obtain ⟨failure, executed⟩ := refused
  rw [Transaction.run_rollback_cons_failed (run_compensation_failed executed)]
  exact .inr (.inr ⟨⟨opened.request, opened.stage, ⟨opened.frame.requests, opened.frame.stages⟩⟩, audit⟩)

theorem created_of_executed {payload : RequestCreate} {definitionId : UUID} {ticks : Nat} {request : RequestRecord}
    {changed : World}
    (executed : (start.atTick ticks).execute (.createRequest identity.userId definitionId payload.requestType payload.title
      identity.companyId payload.description payload.department) = (.ok request, changed)) :
    Fresh identity start request ∧ start.hasProfile identity.userId = true ∧ changed.tick.stages = start.stages ∧
      Holding start (update start.requests.find? start.requests.next (some request)) start.stages.find? changed.tick := by
  obtain ⟨rfl, rfl, known⟩ := World.createRequest_ok executed
  refine ⟨⟨rfl, rfl, rfl, rfl, rfl, rfl, rfl⟩, known, rfl, ?_⟩
  exact (((Holding.refl start).atTick ticks).insertRequest _).tick

/-- What the body of the transaction leaves, in full or to be rolled back. -/
def Creating (identity : AuthenticatedIdentity) (start : World) :
    Except AppError RequestRecord → List (Service Unit) → World → Prop
  | .ok request, _, world => world.requests.find? start.requests.next = some request ∧ Opened identity start world ∧
      Announced identity start world
  | .error _, registered, world => Recoverable identity start registered world

theorem creating_createRequestBody (payload : RequestCreate) (definition : WorkflowDefinition) (plan : StagePlan)
    (ticks : Nat) : Transaction.Ensures fallible (Creating identity start) [] (start.atTick ticks)
      (createRequestBody identity payload definition plan) := by
  refine (Transaction.ensures_lift_bind ..).mpr ((ensures_orTranslate ..).mpr ⟨trivial, fun reply after step => ?_⟩)
  cases reply with
  | error error =>
      have same : after = World.tick _ := @World.unchanged_of_refused _ () _ _ _ _ step
      subst same
      exact fun _ _ _ _ => .inl ⟨rfl, rfl, rfl⟩
  | ok request =>
  obtain ⟨changed, executed, rfl⟩ := @World.executed_of_mayFail _ () _ _ _ _ step
  obtain ⟨fresh, known, unopened, holding⟩ := created_of_executed executed
  generalize changed.tick = beforeStage at unopened holding step
  have unstaged : start.stages.find? start.stages.next = none := find?_next _
  have recoverable := recoverable_fresh fresh known holding (fun stage found => by rw [unstaged] at found; cases found)
    (fun _ _ => rfl)
  refine (Transaction.ensures_bind ..).mpr ((Transaction.ensures_register ..).mpr ((Transaction.ensures_done ..).mpr ?_))
  refine (Transaction.ensures_lift_bind ..).mpr ((ensures_orTranslate ..).mpr ⟨trivial, fun reply after step => ?_⟩)
  cases reply with
  | error error =>
      have same : after = World.tick _ := @World.unchanged_of_refused _ () _ _ _ _ step
      subst same
      exact recoverable.atTick _
  | ok stage =>
  obtain ⟨extended, executed, rfl⟩ := @World.executed_of_mayFail _ () _ _ _ _ step
  obtain ⟨rfl, opened, -⟩ := World.createStage_ok_iff.mp executed
  let draft := beforeStage.newStage request.id plan.stageOrder plan.stageName identity.companyId plan.assignedRole plan.assignedTo
  have staged : Holding start (update start.requests.find? start.requests.next (some request))
      (update start.stages.find? start.stages.next (some (draft.build start.stages.next))) extended.tick := by
    have inserted := (holding.openStage draft).tick
    rw [show beforeStage.stages.next = start.stages.next from congrArg Table.next unopened] at inserted
    rw [opened]
    exact inserted
  generalize extended.tick = world at staged step
  have recoverable := recoverable_fresh fresh known staged
    (fun stage found => by
      rw [update_self] at found
      rw [← Option.some.inj found, ← fresh.id]
      rfl)
    (fun id other => update_of_ne other ..)
  refine (Transaction.ensures_lift_bind ..).mpr ((ensures_orTranslate ..).mpr ⟨trivial, fun reply after step => ?_⟩)
  cases reply with
  | error error =>
      have same : after = World.tick _ := @World.unchanged_of_refused _ () _ _ _ _ step
      subst same
      exact recoverable.atTick _
  | ok updated =>
  obtain ⟨moved, executed, rfl⟩ := @World.executed_of_mayFail _ () _ _ _ _ step
  obtain ⟨row, located, -, -, rfl, rfl⟩ := World.updateRequest_ok_iff.mp executed
  have own : world.requests.find? request.id = some request := by rw [staged.requests, fresh.id, update_self]
  obtain rfl : row = request := Option.some.inj (located.symm.trans own)
  let pointing := stamped (world.currentStageEdit (some (draft.build beforeStage.stages.next).id) .pending none)
    row.version
  have current : Holding start (update start.requests.find? start.requests.next (some (pointing.apply row)))
      (update start.stages.find? start.stages.next (some (draft.build start.stages.next)))
      (World.tick { world with requests := world.requests.modify row.id pointing }) :=
    (staged.setNewRequest fresh.id pointing).tick
  have entered : Opened identity start (World.tick { world with requests := world.requests.modify row.id pointing }) := by
    refine ⟨⟨pointing.apply row, ?_, fresh.live, fresh.requester, fresh.company, rfl, ?_⟩,
      ⟨draft.build start.stages.next, ?_, fresh.id, rfl, rfl⟩, ⟨?_, ?_⟩⟩
    · exact (current.requests _).trans (update_self ..)
    · exact congrArg (fun table => some (Table.next table)) unopened
    · exact (current.stages _).trans (update_self ..)
    · intro id other
      exact (current.requests id).trans (update_of_ne other ..)
    · intro id other
      exact (current.stages id).trans (update_of_ne other ..)
  have unrecorded := audit_of_others current
  have outdated : Recoverable identity start [compensation (.softDelete row.id row.version identity.userId)]
      (World.tick { world with requests := world.requests.modify row.id pointing }) := by
    refine recoverable_opened ⟨pointing.apply row, ?_, (Nat.succ_ne_self row.version)⟩ entered unrecorded
    rw [current.requests, fresh.id, update_self]
  refine (Transaction.ensures_lift_bind ..).mpr ((ensures_orTranslate ..).mpr ⟨trivial, fun reply after step => ?_⟩)
  cases reply with
  | error error =>
      have same : after = World.tick _ := @World.unchanged_of_refused _ () _ _ _ _ step
      subst same
      exact outdated.atTick _
  | ok entry =>
      obtain ⟨action, actor, subject, metadata, appended, stages, requests⟩ :=
        @World.recorded_of_mayFail _ () _ _ _ _ _ _ _ _ step
      refine ⟨?_, ⟨?_, ?_, ⟨?_, ?_⟩⟩, entry, ?_, action, actor, ?_, ?_⟩
      · rw [requests]
        exact (current.requests _).trans (update_self ..)
      · rw [requests]
        exact entered.request
      · rw [stages]
        exact entered.stage
      · rw [requests]
        exact entered.frame.requests
      · rw [stages]
        exact entered.frame.stages
      · rw [appended, unrecorded]
      · rw [subject, fresh.id]
      · rw [metadata]
        exact congrArg (fun table => some (Table.next table)) unopened

theorem silent_createRequestBody (payload : RequestCreate) (definition : WorkflowDefinition) (plan : StagePlan) :
    (createRequestBody identity payload definition plan).Only Silent := by
  refine Transaction.Only.bind (Transaction.only_ofProgram (only_orTranslate _ rfl)) fun request => ?_
  refine Transaction.Only.bind (Transaction.only_registerCompensation (only_compensation _ rfl)) fun _ => ?_
  refine Transaction.Only.bind (Transaction.only_ofProgram (only_orTranslate _ rfl)) fun stage => ?_
  refine Transaction.Only.bind (Transaction.only_ofProgram (only_orTranslate _ rfl)) fun updated => ?_
  exact Transaction.Only.bind (Transaction.only_ofProgram (only_orTranslate _ rfl)) fun _ => trivial

/-- What the transaction leaves, and whether it was rolled back. -/
def CreationTransacted (identity : AuthenticatedIdentity) (start : World) (result : Except AppError RequestRecord)
    (final : World × Bool) : Prop :=
  match result with
  | .ok request => final.2 = false ∧ final.1.requests.find? start.requests.next = some request ∧
      Opened identity start final.1 ∧ Announced identity start final.1
  | .error _ => final.2 = true ∧ RolledBack identity start final.1

theorem ensures_creationTransaction (payload : RequestCreate) (definition : WorkflowDefinition) (plan : StagePlan)
    (ticks : Nat) :
    (transaction "create_request" (createRequestBody identity payload definition plan)).Ensures faltering
      (CreationTransacted identity start) (start.atTick ticks, false) := by
  refine Transaction.ensures_recovering (silent_createRequestBody payload definition plan) (fun _ => rfl) ?_
  refine (creating_createRequestBody payload definition plan ticks).mono fun result registered world creating => ?_
  cases result with
  | ok request => exact ⟨rfl, creating⟩
  | error error =>
      refine ⟨trivial, fun reply after step => (ensures_ofHandler ..).mpr ?_⟩
      have same : after = world.tick := by
        rcases step with answered | ⟨error, none, -⟩
        · exact (Prod.mk.inj answered).2.symm
        · cases none
      subst same
      rw [run_rollback]
      exact ⟨rfl, creating (world.ticks + 1) "create_request" error _⟩

end Body

section Calls

variable {identity : AuthenticatedIdentity} {start : World}

theorem answers_reading {statement : Query} {ticks : Nat} (reads : ∀ world : World, (world.execute statement).2 = world)
    {reply : Except DatabaseError statement.Result} {after : World × Bool}
    (step : faltering.answers (start.atTick ticks, false) (.query statement) reply after) :
    after = (start.atTick (ticks + 1), false) := by
  obtain ⟨after, rolling⟩ := after
  obtain ⟨unswitched, step⟩ := step
  obtain rfl : rolling = false := unswitched
  obtain ⟨rfl, -⟩ := World.read_of_mayFail (reads _) step
  rfl

section Reading

variable {statement : Query} {post : Except AppError statement.Result → World × Bool → Prop} {ticks : Nat}

theorem ensures_translating_reads (reads : ∀ world : World, (world.execute statement).2 = world)
    (answered : ∀ result later, post (.ok result) (start.atTick later, false))
    (failed : ∀ error later, post (.error error) (start.atTick later, false)) :
    (orTranslate statement).Ensures faltering post (start.atTick ticks, false) := by
  refine (ensures_orTranslate ..).mpr ⟨trivial, fun reply after step => ?_⟩
  rw [answers_reading reads step]
  cases reply with
  | ok result => exact answered result _
  | error error => exact failed _ _

theorem ensures_finding_reads (reads : ∀ world : World, (world.execute statement).2 = world)
    (answered : ∀ result later, post (.ok result) (start.atTick later, false))
    (failed : ∀ error later, post (.error error) (start.atTick later, false)) :
    (orNotFound statement).Ensures faltering post (start.atTick ticks, false) := by
  refine (ensures_orNotFound ..).mpr ⟨trivial, fun reply after step => ?_⟩
  rw [answers_reading reads step]
  cases reply with
  | ok result => exact answered result _
  | error error => exact failed _ _

end Reading

theorem ensures_createRequest_leaves (input : RequestCreate) :
    (createRequest identity input).Ensures faltering
      (fun result final => CreationLeaves identity start result final.1 final.2) (start, false) := by
  have untouched : ∀ (error : AppError) (ticks : Nat),
      CreationLeaves identity start (.error error) (start.atTick ticks) false := fun _ _ => .inl ⟨rfl, rfl, rfl⟩
  unfold createRequest
  refine (ensures_bind ..).mpr ((ensures_ofExcept ..).mpr ?_)
  cases input.validate with
  | error error => exact untouched error start.ticks
  | ok payload =>
  refine (ensures_bind ..).mpr (ensures_translating_reads (fun _ => rfl) ?_ untouched)
  intro candidates first
  refine (ensures_bind ..).mpr ((ensures_engineOrTranslate ..).mpr ?_)
  cases resolveDefinition payload.requestType candidates.items with
  | error error => exact untouched (translateWorkflowError error) first
  | ok definition =>
  refine (ensures_bind ..).mpr (ensures_finding_reads (fun _ => rfl) ?_ untouched)
  intro requester second
  have fetched : (fetchDepartmentApproversIfNeeded definition requester identity.companyId).Ensures faltering
      (fun _ final => ∃ later, final = (start.atTick later, false)) (start.atTick second, false) := by
    unfold fetchDepartmentApproversIfNeeded
    split
    · exact ⟨second, rfl⟩
    · exact (ensures_bind ..).mpr (ensures_translating_reads (fun _ => rfl) (fun records later => ⟨later, rfl⟩)
        fun error later => ⟨later, rfl⟩)
  refine (ensures_bind ..).mpr (fetched.mono fun result final ticked => ?_)
  obtain ⟨third, rfl⟩ := ticked
  cases result with
  | error error => exact untouched error third
  | ok departmentApprovers =>
  refine (ensures_bind ..).mpr ((ensures_engineOrRaise ..).mpr ?_)
  cases planFirstStage definition requester departmentApprovers with
  | error error => exact untouched (.engine error) third
  | ok plan =>
  refine (ensures_bind ..).mpr ((ensures_creationTransaction payload definition plan third).mono ?_)
  intro result final transacted
  obtain ⟨final, rolling⟩ := final
  cases result with
  | error error =>
      obtain ⟨rfl, left⟩ := transacted
      exact left
  | ok request =>
      obtain ⟨rfl, found, opened, announced⟩ := transacted
      cases assigned : plan.assignedTo with
      | none => exact ⟨rfl, found, opened, announced⟩
      | some recipient =>
          have notifying : (notifyAssignment (some identity.userId) recipient request.id
              ("You have been assigned to review '" ++ payload.title ++ "'.")).Only NotifyingCall :=
            notifying_createAndDispatch ..
          refine (ensures_bind ..).mpr ((@ensures_notifying_faltering final _ _ notifying).mono ?_)
          intro result last same
          obtain ⟨last, rolling⟩ := last
          obtain ⟨rfl, requests, stages, audit⟩ := same
          have stands : last.requests.find? start.requests.next = some request ∧ Opened identity start last ∧
              Announced identity start last := by
            refine ⟨?_, ⟨?_, ?_, ⟨?_, ?_⟩⟩, ?_⟩
            · exact requests ▸ found
            · exact requests ▸ opened.request
            · exact stages ▸ opened.stage
            · exact requests ▸ opened.frame.requests
            · exact stages ▸ opened.frame.stages
            · unfold Announced
              rw [audit]
              exact announced
          cases result with
          | error error => exact .inr stands.2
          | ok notification => exact ⟨rfl, stands⟩

end Calls

end AutomationHub.System
