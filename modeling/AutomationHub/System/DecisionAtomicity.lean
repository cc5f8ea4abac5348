import AutomationHub.Foundation.Rollbacks
import AutomationHub.System.Footprints
import Mathlib.Logic.Function.Basic

/-!
Decisions that are taken in full or not at all, whichever of their calls the database fails, as long as it carries out
the compensations.
-/

set_option autoImplicit false

namespace AutomationHub.System

open Foundation Model Database Services Auth Workflow Program Table Function

/-- The rows that a decision may change, but for versions and times of change, and the rest of the database. -/
structure Contents where
  requests : UUID → Option RequestRecord
  stages : UUID → Option WorkflowStageRecord
  others : World

def unversionedRequest (request : RequestRecord) : RequestRecord := { request with version := 0, updatedAt := 0 }

def unversionedStage (stage : WorkflowStageRecord) : WorkflowStageRecord := { stage with version := 0 }

def contentsOf (world : World) : Contents where
  requests := fun id => (world.requests.find? id).map unversionedRequest
  stages := fun id => (world.stages.find? id).map unversionedStage
  others := { world with requests := .empty, stages := .empty, ticks := 0 }

/-- The line that reports a rollback. -/
def reportsRollback : Call → Bool
  | .log (.rollback ..) => true
  | _ => false

/-- Any call may fail. -/
def fallible : Protocol hubSignature World where
  permits := fun _ _ => True
  answers := fun world request reply after => mayFail () world request reply after

/-- Any call may fail until a rollback begins, and none from then on. -/
def faltering : Protocol hubSignature (World × Bool) := .switching reportsRollback fallible (.ofHandler environment)

def recordedAction : Decision → AuditAction
  | .approve => .stageApproved
  | .reject => .stageRejected

/-- The decision is recorded, the request has moved on, and one entry of the audit log says so; no other row of the
requests, stages and audit entries has changed. -/
structure Enacted (identity : AuthenticatedIdentity) (decision : Decision) (row : WorkflowStageRecord)
    (outcome : ApprovalOutcome) (start final : World) : Prop where
  stage : final.stages.find? row.id = some outcome.stage
  recorded : outcome.stage.status = decision.stageStatus ∧ outcome.stage.decidedBy = some identity.userId
  request : ∃ request, final.requests.find? row.requestId = some request ∧ request.status = outcome.requestStatus ∧
    request.currentStageId = outcome.currentStageId
  audited : ∃ entry, final.audit.rows = start.audit.rows ++ [entry] ∧ entry.action = recordedAction decision ∧
    entry.actorId = some identity.userId ∧ entry.requestId = some row.requestId
  stages : ∀ id, id ≠ row.id → some id ≠ outcome.currentStageId → final.stages.find? id = start.stages.find? id
  requests : ∀ id, id ≠ row.requestId → final.requests.find? id = start.requests.find? id

/-- The call has found the decision already taken by its caller, and has written nothing. -/
def Replayed (identity : AuthenticatedIdentity) (decision : Decision) (row : WorkflowStageRecord)
    (outcome : ApprovalOutcome) (start final : World) : Prop :=
  outcome.stage = row ∧ row.status = decision.stageStatus ∧ row.decidedBy = some identity.userId ∧
    ∃ ticks, final = start.atTick ticks

section Undoing

variable {start world : World} {requests : UUID → Option RequestRecord} {stages : UUID → Option WorkflowStageRecord}

/-- The rows of requests and stages are these ones; nothing else has changed since `start`. -/
structure Holding (start : World) (requests : UUID → Option RequestRecord) (stages : UUID → Option WorkflowStageRecord)
    (world : World) : Prop where
  requests : ∀ id, world.requests.find? id = requests id
  stages : ∀ id, world.stages.find? id = stages id
  others : (contentsOf world).others = (contentsOf start).others

theorem Holding.refl (world : World) : Holding world world.requests.find? world.stages.find? world :=
  ⟨fun _ => rfl, fun _ => rfl, rfl⟩

theorem Holding.atTick (holding : Holding start requests stages world) (ticks : Nat) :
    Holding start requests stages (world.atTick ticks) :=
  ⟨holding.requests, holding.stages, holding.others⟩

theorem Holding.tick (holding : Holding start requests stages world) : Holding start requests stages world.tick :=
  holding.atTick _

theorem Holding.setStage (holding : Holding start requests stages world) {id : UUID} {row : WorkflowStageRecord}
    (found : stages id = some row) (edit : Edit WorkflowStageRecord) :
    Holding start requests (update stages id (some (edit.apply row)))
      { world with stages := world.stages.modify id edit } where
  requests := holding.requests
  stages := by
    intro other
    rw [find?_modify, update_apply, holding.stages, holding.stages, found]
    rfl
  others := holding.others

theorem Holding.setRequest (holding : Holding start requests stages world) {id : UUID} {row : RequestRecord}
    (found : requests id = some row) (edit : Edit RequestRecord) :
    Holding start (update requests id (some (edit.apply row))) stages
      { world with requests := world.requests.modify id edit } where
  requests := by
    intro other
    rw [find?_modify, update_apply, holding.requests, holding.requests, found]
    rfl
  stages := holding.stages
  others := holding.others

theorem Holding.openStage (holding : Holding start requests stages world) (draft : Draft WorkflowStageRecord) :
    Holding start requests (update stages world.stages.next (some (draft.build world.stages.next)))
      { world with stages := world.stages.insert draft } where
  requests := holding.requests
  stages := by
    intro other
    rw [find?_insert, update_apply, holding.stages]
  others := holding.others

theorem Holding.removeStage {id : UUID} {row : WorkflowStageRecord}
    (holding : Holding start requests (update stages id (some row)) world) (fresh : stages id = none) :
    Holding start requests stages { world with stages := world.stages.erase id } where
  requests := holding.requests
  stages := by
    intro other
    rw [find?_erase, holding.stages, update_apply]
    split
    · rename_i same
      rw [same, fresh]
    · rfl
  others := holding.others

theorem run_compensation {statement : Query} {result : statement.Result} {changed : World}
    (executed : world.execute statement = (.ok result, changed)) :
    (compensation statement).run environment world = (.ok (), changed.tick) := by
  have replied : (environment (.query statement) world).1 = .ok result := congrArg Prod.fst executed
  have reached : (environment (.query statement) world).2 = changed.tick :=
    congrArg (fun outcome => outcome.2.tick) executed
  rw [compensation, orRaise, run_bind, run_bind]
  simp only [attempt, ask, run_call, run_done, continueRun_ok, replied, reached]
  rfl

theorem run_compensateDecision {stageId : UUID} {decided : WorkflowStageRecord}
    (holding : Holding start requests stages world) (found : stages stageId = some decided) :
    ∃ after, (compensateDecision stageId decided).run environment world = (.ok (), after) ∧
      Holding start requests (update stages stageId (some ((stamped World.revertEdit decided.version).apply decided)))
        after := by
  have located : world.stages.find? stageId = some decided := (holding.stages stageId).trans found
  have executed : world.execute (.revertToPending stageId decided.version) =
      (.ok ((stamped World.revertEdit decided.version).apply decided),
        { world with stages := world.stages.modify stageId (stamped World.revertEdit decided.version) }) := by
    simp only [World.execute]
    exact World.updateStage_ok_iff.mpr ⟨decided, located, rfl, rfl, rfl, rfl⟩
  exact ⟨_, run_compensation executed, (holding.setStage found _).tick⟩

theorem run_compensateStageCreation {newStage : WorkflowStageRecord}
    (holding : Holding start requests (update stages newStage.id (some newStage)) world)
    (fresh : stages newStage.id = none)
    (unnamed : ∀ id request, requests id = some request → request.currentStageId ≠ some newStage.id) :
    ∃ after, (compensateStageCreation newStage).run environment world = (.ok (), after) ∧
      Holding start requests stages after := by
  have located : world.stages.find? newStage.id = some newStage := by rw [holding.stages, update_self]
  have executed : world.execute (.deleteIfUnchanged newStage.id newStage.version) =
      (.ok true, { world with stages := world.stages.erase newStage.id }) := by
    refine World.deleteIfUnchanged_true_iff.mpr ⟨⟨newStage, located, rfl⟩, ?_, rfl⟩
    intro request member
    exact unnamed request.id request ((holding.requests request.id).symm.trans (world.requests.find?_of_mem member))
  have replied : (environment (.query (.deleteIfUnchanged newStage.id newStage.version)) world).1 = .ok true :=
    congrArg Prod.fst executed
  have reached : (environment (.query (.deleteIfUnchanged newStage.id newStage.version)) world).2 =
      World.tick { world with stages := world.stages.erase newStage.id } :=
    congrArg (fun outcome => outcome.2.tick) executed
  refine ⟨_, ?_, (holding.removeStage fresh).tick⟩
  rw [compensateStageCreation, orRaise, run_bind, run_bind]
  simp only [attempt, ask, run_call, run_done, continueRun_ok, replied, reached]
  rfl

theorem run_compensateRequestAdvancement {original updated : RequestRecord}
    (holding : Holding start requests stages world) (found : requests original.id = some updated)
    (pointed : ∀ stageId, original.currentStageId = some stageId → (stages stageId).isSome = true) :
    ∃ after restored, (compensateRequestAdvancement original updated).run environment world = (.ok (), after) ∧
      Holding start (update requests original.id (some restored)) stages after ∧
      unversionedRequest restored = unversionedRequest
        { updated with currentStageId := original.currentStageId, status := original.status,
                       completedAt := original.completedAt } := by
  have located : world.requests.find? original.id = some updated := (holding.requests original.id).trans found
  have valid : original.currentStageId.all world.hasStage = true := by
    rw [Option.all_eq_true]
    intro stageId named
    rw [World.hasStage, holding.stages]
    exact pointed stageId named
  have executed : world.execute (.setCurrentStage original.id updated.version original.currentStageId original.status
        original.completedAt) = (.ok ((stamped (world.currentStageEdit original.currentStageId original.status
        original.completedAt) updated.version).apply updated),
      { world with requests := world.requests.modify original.id (stamped (world.currentStageEdit
          original.currentStageId original.status original.completedAt) updated.version) }) := by
    refine World.updateRequest_ok_iff.mpr ⟨updated, located, rfl, ?_, rfl, rfl⟩
    apply (World.firstViolated_eq_none_iff _).mpr
    intro constraint listed
    rw [List.mem_singleton.mp listed]
    exact valid
  exact ⟨_, _, run_compensation executed, (holding.setRequest found _).tick, rfl⟩

/-- The requests are those of `start`, but for versions and times of change. -/
def SameRequests (start : World) (requests : UUID → Option RequestRecord) : Prop :=
  ∀ id, (requests id).map unversionedRequest = (start.requests.find? id).map unversionedRequest

/-- A rollback that begins now leaves what there was at `start`. -/
def Reversible (start : World) (registered : List (Service Unit)) (world : World) : Prop :=
  ∀ (ticks : Nat) (operation : String) (error : AppError) (α : Type),
    contentsOf ((Transaction.rollback (transactionReport operation) error registered : Service α).run environment
      (world.atTick ticks)).2 = contentsOf start

theorem Reversible.atTick {registered : List (Service Unit)} (reversible : Reversible start registered world)
    (ticks : Nat) : Reversible start registered (world.atTick ticks) :=
  fun later => reversible later

theorem Holding.contents (holding : Holding start requests stages world) (sameRequests : SameRequests start requests)
    (sameStages : ∀ id, (stages id).map unversionedStage = (start.stages.find? id).map unversionedStage) :
    contentsOf world = contentsOf start := by
  have rest := holding.others
  unfold contentsOf at rest ⊢
  simp only [Contents.mk.injEq]
  refine ⟨funext fun id => ?_, funext fun id => ?_, rest⟩
  · rw [holding.requests]
    exact sameRequests id
  · rw [holding.stages]
    exact sameStages id

variable {row decided : WorkflowStageRecord} {earlier : List (Service Unit)}

theorem reversible_decision (found : start.stages.find? row.id = some row)
    (reverted : unversionedStage ((stamped World.revertEdit decided.version).apply decided) = unversionedStage row)
    (holding : Holding start requests (update start.stages.find? row.id (some decided)) world)
    (same : SameRequests start requests) : Reversible start [compensateDecision row.id decided] world := by
  intro ticks operation error α
  obtain ⟨after, undone, held⟩ := run_compensateDecision (holding.atTick ticks) (update_self ..)
  rw [Transaction.run_rollback_cons undone]
  refine held.contents same ?_
  intro id
  rw [update_idem, update_apply]
  split
  · rename_i here
    rw [here, found]
    exact congrArg some reverted
  · rfl

theorem SameRequests.unnamed (same : SameRequests start requests) (consistent : start.Consistent) {newId : UUID}
    (fresh : start.stages.find? newId = none) {id : UUID} {request : RequestRecord} (found : requests id = some request) :
    request.currentStageId ≠ some newId := by
  intro named
  have known := same id
  rw [found] at known
  obtain ⟨original, located, alike⟩ := Option.map_eq_some_iff.mp known.symm
  have current : original.currentStageId = some newId := (congrArg RequestRecord.currentStageId alike).trans named
  obtain ⟨stage, member, keyed⟩ := consistent.pointed original ((find?_eq_some_iff ..).mp located).1 newId current
  exact (find?_eq_none_iff ..).mp fresh stage member keyed

theorem reversible_creation {newStage : WorkflowStageRecord} (consistent : start.Consistent)
    (holding : Holding start requests (update stages newStage.id (some newStage)) world)
    (fresh : stages newStage.id = none) (unused : start.stages.find? newStage.id = none) (same : SameRequests start requests)
    (before : ∀ after, Holding start requests stages after → Reversible start earlier after) :
    Reversible start (compensateStageCreation newStage :: earlier) world := by
  intro ticks operation error α
  obtain ⟨after, undone, held⟩ := run_compensateStageCreation (holding.atTick ticks) fresh
    fun id request located => same.unnamed consistent unused located
  rw [Transaction.run_rollback_cons undone]
  exact before after held after.ticks operation error α

theorem reversible_advancement {original updated : RequestRecord}
    (located : start.requests.find? original.id = some original)
    (holding : Holding start (update start.requests.find? original.id (some updated)) stages world)
    (pointed : ∀ stageId, original.currentStageId = some stageId → (stages stageId).isSome = true)
    (columns : unversionedRequest { updated with currentStageId := original.currentStageId, status := original.status,
                                                 completedAt := original.completedAt } = unversionedRequest original)
    (before : ∀ after requests, Holding start requests stages after → SameRequests start requests →
      Reversible start earlier after) :
    Reversible start (compensateRequestAdvancement original updated :: earlier) world := by
  intro ticks operation error α
  obtain ⟨after, restored, undone, held, alike⟩ :=
    run_compensateRequestAdvancement (holding.atTick ticks) (update_self ..) pointed
  rw [Transaction.run_rollback_cons undone]
  refine before after _ held ?_ after.ticks operation error α
  intro id
  rw [update_idem, update_apply]
  split
  · rename_i here
    rw [here, located]
    exact congrArg some (alike.trans columns)
  · rfl

end Undoing

section Deciding

variable {start world : World} {row decided : WorkflowStageRecord} {identity : AuthenticatedIdentity}
  {decision : Decision}

/-- What is in force once the request has moved on. -/
structure Moved (start : World) (row decided : WorkflowStageRecord) (advancement : DecisionAdvancement) (world : World) :
    Prop where
  stage : world.stages.find? row.id = some decided
  request : ∃ request, world.requests.find? row.requestId = some request ∧ request.status = advancement.requestStatus ∧
    request.currentStageId = advancement.newStageId
  audit : world.audit = start.audit
  stages : ∀ id, id ≠ row.id → some id ≠ advancement.newStageId → world.stages.find? id = start.stages.find? id
  requests : ∀ id, id ≠ row.requestId → world.requests.find? id = start.requests.find? id

/-- A transaction under way can be rolled back, and has moved the request on once its body returns. -/
def MovingOn {α : Type} (start : World) (row decided : WorkflowStageRecord) (advancement : α → DecisionAdvancement) :
    Except AppError α → List (Service Unit) → World → Prop
  | .ok value, registered, world => Reversible start registered world ∧ Moved start row decided (advancement value) world
  | .error _, registered, world => Reversible start registered world

/-- The stage of a running decision, recorded and not yet followed by any other write. -/
structure Recorded (start : World) (row decided : WorkflowStageRecord) (registered : List (Service Unit)) (world : World) :
    Prop where
  consistent : start.Consistent
  found : start.stages.find? row.id = some row
  holding : Holding start start.requests.find? (update start.stages.find? row.id (some decided)) world
  before : ∀ after requests, Holding start requests (update start.stages.find? row.id (some decided)) after →
    SameRequests start requests → Reversible start registered after

variable {registered : List (Service Unit)}

theorem Recorded.reversible (recorded : Recorded start row decided registered world) :
    Reversible start registered world :=
  recorded.before world _ recorded.holding fun _ => rfl

theorem Recorded.atTick (recorded : Recorded start row decided registered world) (ticks : Nat) :
    Recorded start row decided registered (world.atTick ticks) :=
  { recorded with holding := recorded.holding.atTick ticks }

theorem audit_of_others {requests : UUID → Option RequestRecord} {stages : UUID → Option WorkflowStageRecord}
    (holding : Holding start requests stages world) : world.audit = start.audit :=
  (congrArg World.audit holding.others :)

/-- The stage at which a request is does not vanish while the request's pending stage is decided. -/
theorem Recorded.pointed (recorded : Recorded start row decided registered world) {request : RequestRecord}
    (located : start.requests.find? request.id = some request) (stageId : UUID)
    (named : request.currentStageId = some stageId) :
    (update start.stages.find? row.id (some decided) stageId).isSome = true := by
  obtain ⟨stage, member, keyed⟩ :=
    recorded.consistent.pointed request ((find?_eq_some_iff ..).mp located).1 stageId named
  rw [update_apply]
  split
  · rfl
  · rw [← keyed]
    exact Option.isSome_iff_exists.mpr ⟨stage, start.stages.find?_of_mem member⟩

theorem moved_of_holding {request updated : RequestRecord} (mine : request.id = row.requestId)
    {advancement : DecisionAdvancement} {after : World} {stages : UUID → Option WorkflowStageRecord}
    (holding : Holding start (update start.requests.find? request.id (some updated)) stages after)
    (here : stages row.id = some decided)
    (elsewhere : ∀ id, id ≠ row.id → some id ≠ advancement.newStageId → stages id = start.stages.find? id)
    (status : updated.status = advancement.requestStatus) (current : updated.currentStageId = advancement.newStageId) :
    Moved start row decided advancement after where
  stage := (holding.stages row.id).trans here
  request := ⟨updated, by rw [holding.requests, ← mine, update_self], status, current⟩
  audit := audit_of_others holding
  stages := fun id other newer => (holding.stages id).trans (elsewhere id other newer)
  requests := by
    intro id other
    rw [holding.requests, update_of_ne (mine ▸ other)]

theorem movingOn_finishRequest {request : RequestRecord} (status : RequestStatus)
    (located : start.requests.find? request.id = some request) (mine : request.id = row.requestId)
    (recorded : Recorded start row decided registered world) (action : AuditAction) (recipient : Option UUID) :
    Transaction.Ensures fallible
      (MovingOn start row decided fun _ => { requestStatus := status, newStageId := none, notifyRecipientId := recipient,
                                              auditAction := action })
      registered world (finishRequest request status) := by
  refine (Transaction.ensures_lift_bind ..).mpr ((ensures_engineOrTranslate ..).mpr ?_)
  cases validateRequestTransition request.status status with
  | error error => exact recorded.reversible
  | ok transition =>
  refine (Transaction.ensures_lift_bind ..).mpr ((ensures_utcNow ..).mpr ⟨trivial, fun now after step => ?_⟩)
  have ticked : after = world.tick := by
    rcases step with answered | ⟨error, none, -⟩
    · exact (Prod.mk.inj answered).2.symm
    · cases none
  subst ticked
  have recorded := recorded.atTick (world.ticks + 1)
  refine (Transaction.ensures_lift_bind ..).mpr ((ensures_orTranslate ..).mpr ⟨trivial, fun reply last step => ?_⟩)
  cases reply with
  | error error =>
      have same : last = world.tick.tick := @World.unchanged_of_refused _ () _ _ _ _ step
      subst same
      exact (recorded.atTick _).reversible
  | ok updated =>
      obtain ⟨changed, executed, rfl⟩ := @World.executed_of_mayFail _ () _ _ _ _ step
      obtain ⟨original, found, -, -, rfl, rfl⟩ := World.updateRequest_ok_iff.mp executed
      have same : original = request :=
        Option.some.inj (found.symm.trans ((recorded.holding.requests request.id).trans located))
      subst same
      have holding := (recorded.holding.setRequest located
        (stamped (world.tick.currentStageEdit none status (some now)) original.version)).tick
      refine ⟨?_, moved_of_holding mine holding (update_self ..) (fun id other _ => update_of_ne other ..) rfl rfl⟩
      exact reversible_advancement located holding (recorded.pointed located) rfl recorded.before

theorem movingOn_openNextStage {request : RequestRecord} (plan : StagePlan)
    (located : start.requests.find? request.id = some request) (mine : request.id = row.requestId)
    (recorded : Recorded start row decided registered world) (action : AuditAction) :
    Transaction.Ensures fallible
      (MovingOn start row decided fun newStage : WorkflowStageRecord =>
        { requestStatus := .inReview, newStageId := some newStage.id, notifyRecipientId := plan.assignedTo,
          auditAction := action })
      registered world (openNextStage request plan) := by
  refine (Transaction.ensures_lift_bind ..).mpr ((ensures_orTranslate ..).mpr ⟨trivial, fun reply after step => ?_⟩)
  cases reply with
  | error error =>
      have same : after = world.tick := @World.unchanged_of_refused _ () _ _ _ _ step
      subst same
      exact (recorded.atTick _).reversible
  | ok newStage =>
  obtain ⟨changed, executed, rfl⟩ := @World.executed_of_mayFail _ () _ _ _ _ step
  obtain ⟨rfl, opened, -⟩ := World.createStage_ok_iff.mp executed
  let draft := world.newStage request.id plan.stageOrder plan.stageName request.companyId plan.assignedRole
    plan.assignedTo
  have holding : Holding start start.requests.find? (update (update start.stages.find? row.id (some decided))
      world.stages.next (some (draft.build world.stages.next))) changed.tick := by
    rw [opened]
    exact (recorded.holding.openStage draft).tick
  generalize changed.tick = current at holding step
  have fresh : update start.stages.find? row.id (some decided) world.stages.next = none := by
    rw [← recorded.holding.stages, find?_next]
  have apart : world.stages.next ≠ row.id := by
    intro same
    rw [same, update_self] at fresh
    cases fresh
  have unused : start.stages.find? world.stages.next = none := by rwa [update_of_ne apart] at fresh
  have before : ∀ after requests, Holding start requests (update (update start.stages.find? row.id (some decided))
      world.stages.next (some (draft.build world.stages.next))) after → SameRequests start requests →
      Reversible start (compensateStageCreation (draft.build world.stages.next) :: registered) after := by
    intro after requests held same
    exact reversible_creation recorded.consistent held fresh unused same fun later held => recorded.before later _ held same
  refine (Transaction.ensures_bind ..).mpr ((Transaction.ensures_register ..).mpr ((Transaction.ensures_done ..).mpr ?_))
  refine (Transaction.ensures_lift_bind ..).mpr ((ensures_engineOrTranslate ..).mpr ?_)
  cases validateRequestTransition request.status .inReview with
  | error error => exact before _ _ holding fun _ => rfl
  | ok transition =>
  refine (Transaction.ensures_lift_bind ..).mpr ((ensures_orTranslate ..).mpr ⟨trivial, fun reply last step => ?_⟩)
  cases reply with
  | error error =>
      have same : last = World.tick _ := @World.unchanged_of_refused _ () _ _ _ _ step
      subst same
      exact before _ _ holding.tick fun _ => rfl
  | ok updated =>
      obtain ⟨changed, executed, rfl⟩ := @World.executed_of_mayFail _ () _ _ _ _ step
      obtain ⟨original, found, -, -, rfl, rfl⟩ := World.updateRequest_ok_iff.mp executed
      have same : original = request :=
        Option.some.inj (found.symm.trans ((holding.requests request.id).trans located))
      subst same
      have moved := (holding.setRequest located
        (stamped (current.currentStageEdit (some (draft.build world.stages.next).id) .inReview none)
          original.version)).tick
      have pointed : ∀ stageId, original.currentStageId = some stageId → (update (update start.stages.find? row.id
          (some decided)) world.stages.next (some (draft.build world.stages.next)) stageId).isSome = true := by
        intro stageId named
        have present := recorded.pointed located stageId named
        rw [update_apply]
        split
        · rfl
        · exact present
      refine ⟨reversible_advancement located moved pointed rfl before, moved_of_holding mine moved ?_ ?_ rfl rfl⟩
      · rw [update_of_ne (Ne.symm apart), update_self]
      · intro id other newer
        have older : id ≠ world.stages.next := fun same => newer (congrArg some same)
        rw [update_of_ne older, update_of_ne other]

theorem ensures_fetchApprovers_fallible (definition : WorkflowDefinition) (stageOrder : Nat) (request : RequestRecord)
    (requester : ProfileRecord) :
    (fetchApproversForNextStage definition stageOrder request requester).Ensures fallible
      (fun _ final => ∃ ticks, final = world.atTick ticks) world := by
  unfold fetchApproversForNextStage
  dsimp only
  split
  · refine (ensures_bind ..).mpr ((ensures_orRaise ..).mpr ⟨trivial, fun reply after step => ?_⟩)
    obtain ⟨rfl, -⟩ := World.read_of_mayFail rfl step
    cases reply <;> exact ⟨_, rfl⟩
  · exact ⟨world.ticks, rfl⟩

theorem ensures_planAfterApproval_fallible (viewer : Option UUID) (stage : WorkflowStageRecord) :
    (planAfterApproval viewer stage).Ensures fallible
      (fun result final => (∃ ticks, final = world.atTick ticks) ∧ ∀ request planned, result = .ok (request, planned) →
        world.requests.find? stage.requestId = some request) world := by
  refine (ensures_bind ..).mpr ((ensures_orNotFound ..).mpr ⟨trivial, fun reply after step => ?_⟩)
  obtain ⟨rfl, fetched⟩ := World.read_of_mayFail rfl step
  cases reply with
  | error error => exact ⟨⟨_, rfl⟩, fun _ _ same => by cases same⟩
  | ok request =>
  have found := World.getById_ok_iff.mp (fetched request rfl)
  refine (ensures_bind ..).mpr ((ensures_orNotFound ..).mpr ⟨trivial, fun reply after step => ?_⟩)
  obtain ⟨rfl, -⟩ := World.read_of_mayFail rfl step
  cases reply with
  | error error => exact ⟨⟨_, rfl⟩, fun _ _ same => by cases same⟩
  | ok definition =>
  refine (ensures_bind ..).mpr ((ensures_orRaise ..).mpr ⟨trivial, fun reply after step => ?_⟩)
  obtain ⟨rfl, -⟩ := World.read_of_mayFail rfl step
  cases reply with
  | error error => exact ⟨⟨_, rfl⟩, fun _ _ same => by cases same⟩
  | ok highest =>
  refine (ensures_bind ..).mpr ((ensures_orNotFound ..).mpr ⟨trivial, fun reply after step => ?_⟩)
  obtain ⟨rfl, -⟩ := World.read_of_mayFail rfl step
  cases reply with
  | error error => exact ⟨⟨_, rfl⟩, fun _ _ same => by cases same⟩
  | ok requester =>
  refine (ensures_bind ..).mpr ((ensures_fetchApprovers_fallible ..).mono ?_)
  intro result final ticked
  obtain ⟨ticks, rfl⟩ := ticked
  cases result with
  | error error => exact ⟨⟨ticks, rfl⟩, fun _ _ same => by cases same⟩
  | ok approvers =>
  refine (ensures_bind ..).mpr ((ensures_engineOrRaise ..).mpr ?_)
  cases planNextStage definition stage.stageOrder highest requester approvers with
  | error error => exact ⟨⟨ticks, rfl⟩, fun _ _ same => by cases same⟩
  | ok planned =>
      refine ⟨⟨ticks, rfl⟩, fun other chosen same => ?_⟩
      obtain ⟨rfl, -⟩ := Prod.mk.inj (Except.ok.inj same)
      exact found

theorem movingOn_then {α β : Type} {body : Transaction hubSignature AppError α}
    {next : α → Transaction hubSignature AppError β} {advancement : α → DecisionAdvancement}
    {outcome : β → DecisionAdvancement}
    (first : Transaction.Ensures fallible (MovingOn start row decided advancement) registered world body)
    (rest : ∀ value registered world, Reversible start registered world → Moved start row decided (advancement value) world →
      Transaction.Ensures fallible (MovingOn start row decided outcome) registered world (next value)) :
    Transaction.Ensures fallible (MovingOn start row decided outcome) registered world (body >>= next) := by
  refine (Transaction.ensures_bind ..).mpr (first.mono ?_)
  intro result later final advancing
  cases result with
  | error error => exact advancing
  | ok value => exact rest value later final advancing.1 advancing.2

theorem Recorded.owner (recorded : Recorded start row decided registered world) {request : RequestRecord}
    (found : world.requests.find? row.requestId = some request) :
    start.requests.find? request.id = some request ∧ request.id = row.requestId := by
  have located := (recorded.holding.requests row.requestId).symm.trans found
  have mine : request.id = row.requestId := ((find?_eq_some_iff ..).mp located).2
  exact ⟨mine ▸ located, mine⟩

theorem movingOn_advanceAfterApproval (viewer : Option UUID)
    (recorded : Recorded start row decided registered world) :
    Transaction.Ensures fallible (MovingOn start row decided id) registered world (advanceAfterApproval viewer row) := by
  refine (Transaction.ensures_lift_bind ..).mpr ((ensures_planAfterApproval_fallible ..).mono ?_)
  intro result final planned
  obtain ⟨⟨ticks, rfl⟩, owner⟩ := planned
  have recorded := recorded.atTick ticks
  cases result with
  | error error => exact recorded.reversible
  | ok outcome =>
      obtain ⟨request, planned⟩ := outcome
      obtain ⟨located, mine⟩ := recorded.owner (owner request planned rfl)
      cases planned with
      | none =>
          exact movingOn_then (movingOn_finishRequest .completed located mine recorded .stageApproved none)
            fun _ _ _ reversible moved => ⟨reversible, moved⟩
      | some plan =>
          exact movingOn_then (movingOn_openNextStage plan located mine recorded .stageApproved)
            fun _ _ _ reversible moved => ⟨reversible, moved⟩

theorem movingOn_finalizeRejection (recorded : Recorded start row decided registered world) :
    Transaction.Ensures fallible (MovingOn start row decided id) registered world (finalizeRejection row) := by
  refine (Transaction.ensures_lift_bind ..).mpr ((ensures_orNotFound ..).mpr ⟨trivial, fun reply after step => ?_⟩)
  obtain ⟨rfl, fetched⟩ := World.read_of_mayFail rfl step
  have recorded := recorded.atTick (world.ticks + 1)
  cases reply with
  | error error => exact recorded.reversible
  | ok request =>
      obtain ⟨located, mine⟩ := recorded.owner (World.getById_ok_iff.mp (fetched request rfl))
      exact movingOn_then (movingOn_finishRequest .rejected located mine recorded .stageRejected none)
        fun _ _ _ reversible moved => ⟨reversible, moved⟩

theorem recorded_of_executed {ticks version : Nat} {note : Option String} {changed : World} (consistent : start.Consistent)
    (found : start.stages.find? row.id = some row) (pending : row.status = .pending)
    (executed : (start.atTick ticks).decideStage decision.stageStatus row.id version identity.userId note =
      (.ok decided, changed)) :
    decided.status = decision.stageStatus ∧ decided.decidedBy = some identity.userId ∧
      Recorded start row decided [compensateDecision row.id decided] changed.tick := by
  obtain ⟨other, located, -, -, rfl, rfl⟩ := World.updateStage_ok_iff.mp executed
  obtain rfl : other = row := Option.some.inj (located.symm.trans found)
  obtain ⟨nobody, never, nothing⟩ := consistent.undecided other ((find?_eq_some_iff ..).mp found).1 pending
  have reverted : unversionedStage ((stamped World.revertEdit ((stamped ((start.atTick ticks).decisionEdit
      decision.stageStatus identity.userId note) version).apply other).version).apply ((stamped
      ((start.atTick ticks).decisionEdit decision.stageStatus identity.userId note) version).apply other)) =
        unversionedStage other := by
    change { other with status := .pending, decidedBy := none, decidedAt := none, decisionNote := none, version := 0 } =
      { other with version := 0 }
    obtain ⟨id, requestId, order, name, role, assignee, status, decider, instant, text, version, created, company⟩ := other
    obtain rfl : status = .pending := pending
    obtain rfl : decider = none := nobody
    obtain rfl : instant = none := never
    obtain rfl : text = none := nothing
    rfl
  refine ⟨rfl, rfl, consistent, found, ?_, ?_⟩
  · exact (((Holding.refl start).atTick ticks).setStage found _).tick
  · intro after requests holding same
    exact reversible_decision found reverted holding same

/-- What the writes of a decision leave, in full or to be taken back. -/
def Resolved (start : World) (identity : AuthenticatedIdentity) (decision : Decision) (row : WorkflowStageRecord) :
    Except AppError (WorkflowStageRecord × DecisionAdvancement) → List (Service Unit) → World → Prop
  | .ok (decided, advancement), _, world => Enacted identity decision row
      { stage := decided, requestStatus := advancement.requestStatus, currentStageId := advancement.newStageId } start world
  | .error _, registered, world => Reversible start registered world

theorem reversible_atTick (start : World) (ticks : Nat) : Reversible start [] (start.atTick ticks) :=
  fun _ _ _ _ => rfl

theorem resolved_of_movingOn {stageId : UUID} {note : Option String} {action : AuditAction}
    {body : Transaction hubSignature AppError DecisionAdvancement}
    (advanced : Transaction.Ensures fallible (MovingOn start row decided id) registered world body)
    (returns : body.Returns fun advancement => advancement.auditAction = action)
    (named : action = recordedAction decision)
    (status : decided.status = decision.stageStatus) (decider : decided.decidedBy = some identity.userId) :
    Transaction.Ensures fallible (Resolved start identity decision row) registered world (do
      let advancement ← body
      let _ ← orTranslate (.recordEvent advancement.auditAction (some identity.userId) (some row.requestId)
        (some (.stageDecided stageId note)) none)
      return (decided, advancement)) := by
  refine (Transaction.ensures_bind ..).mpr ((advanced.returning returns).mono ?_)
  intro result registered final advancing
  cases result with
  | error error => exact advancing.1
  | ok advancement =>
  obtain ⟨⟨reversible, moved⟩, recordedAs⟩ := advancing
  have action := recordedAs advancement rfl
  refine (Transaction.ensures_lift_bind ..).mpr ((ensures_orTranslate ..).mpr ⟨trivial, fun reply last step => ?_⟩)
  cases reply with
  | error error =>
      have same : last = final.tick := @World.unchanged_of_refused _ () _ _ _ _ step
      subst same
      exact reversible.atTick _
  | ok entry =>
      obtain ⟨entered, actor, subject, -, appended, stages, requests⟩ := @World.recorded_of_mayFail _ () _ _ _ _ _ _ _ _ step
      constructor
      case stage => rw [stages, moved.stage]
      case recorded => exact ⟨status, decider⟩
      case request => rw [requests]; exact moved.request
      case audited => exact ⟨entry, by rw [appended, moved.audit], entered.trans (action.trans named), actor, subject⟩
      case stages => rw [stages]; exact moved.stages
      case requests => rw [requests]; exact moved.requests

theorem resolved_decideStageBody {ticks : Nat} (consistent : start.Consistent) (found : start.stages.find? row.id = some row)
    (pending : row.status = .pending) (version : Nat) (note : Option String) :
    Transaction.Ensures fallible (Resolved start identity decision row) [] (start.atTick ticks)
      (decideStageBody identity row.id row decision version note) := by
  have refused : ∀ {statement : Query} {error : DatabaseError} {after : World},
      fallible.answers (start.atTick ticks) (.query statement) (.error error) after → Reversible start [] after := by
    intro statement error after step
    have same : after = World.tick _ := @World.unchanged_of_refused _ () _ _ _ _ step
    rw [same]
    exact reversible_atTick start _
  cases decision with
  | approve =>
      refine (Transaction.ensures_lift_bind ..).mpr ((ensures_orTranslate ..).mpr ⟨trivial, fun reply after step => ?_⟩)
      cases reply with
      | error error => exact refused step
      | ok decided =>
          obtain ⟨changed, executed, rfl⟩ := @World.executed_of_mayFail _ () _ _ _ _ step
          obtain ⟨status, decider, recorded⟩ := @recorded_of_executed start row decided identity .approve _ _ _ _
            consistent found pending executed
          refine (Transaction.ensures_bind ..).mpr
            ((Transaction.ensures_register ..).mpr ((Transaction.ensures_done ..).mpr ?_))
          exact resolved_of_movingOn (movingOn_advanceAfterApproval (some identity.userId) recorded)
            (returns_advanceAfterApproval _ _) rfl status decider
  | reject =>
      refine (Transaction.ensures_lift_bind ..).mpr ((ensures_orTranslate ..).mpr ⟨trivial, fun reply after step => ?_⟩)
      cases reply with
      | error error => exact refused step
      | ok decided =>
          obtain ⟨changed, executed, rfl⟩ := @World.executed_of_mayFail _ () _ _ _ _ step
          simp only [World.execute] at executed
          split at executed
          · cases congrArg Prod.fst executed
          obtain ⟨status, decider, recorded⟩ := @recorded_of_executed start row decided identity .reject _ _ _ _
            consistent found pending executed
          refine (Transaction.ensures_bind ..).mpr
            ((Transaction.ensures_register ..).mpr ((Transaction.ensures_done ..).mpr ?_))
          exact resolved_of_movingOn (movingOn_finalizeRejection recorded) (returns_finalizeRejection _) rfl
            status decider

/-- What a decision leaves, unless it is a replay: all of it, or nothing. -/
def Whole (start : World) (identity : AuthenticatedIdentity) (decision : Decision) (row : WorkflowStageRecord)
    (result : Except AppError (WorkflowStageRecord × DecisionAdvancement)) (final : World × Bool) : Prop :=
  match result with
  | .ok (decided, advancement) => final.2 = false ∧ Enacted identity decision row
      { stage := decided, requestStatus := advancement.requestStatus, currentStageId := advancement.newStageId } start final.1
  | .error _ => contentsOf final.1 = contentsOf start

theorem recovers_of_resolved {result : Except AppError (WorkflowStageRecord × DecisionAdvancement)} (operation : String)
    (settled : Resolved start identity decision row result registered world) :
    Transaction.Recovers fallible (.ofHandler environment) (transactionReport operation)
      (Whole start identity decision row) result registered world := by
  cases result with
  | ok outcome => exact ⟨rfl, settled⟩
  | error error =>
      refine ⟨trivial, fun reply after step => (ensures_ofHandler ..).mpr ?_⟩
      have same : after = world.tick := by
        rcases step with answered | ⟨error, none, -⟩
        · exact (Prod.mk.inj answered).2.symm
        · cases none
      subst same
      rw [run_rollback]
      exact settled (world.ticks + 1) operation error _

end Deciding

section Calls

variable {start world : World} {identity : AuthenticatedIdentity} {decision : Decision}

/-- The call reports no rollback. -/
def Silent (request : Call) : Prop := reportsRollback request = false

theorem Auxiliary.silent {request : Call} (auxiliary : Auxiliary request) : Silent request := by
  cases request with
  | log line => cases line <;> first | rfl | cases auxiliary
  | _ => rfl

theorem silent_openNextStage (request : RequestRecord) (plan : StagePlan) : (openNextStage request plan).Only Silent := by
  refine Transaction.Only.bind (Transaction.only_ofProgram (only_orTranslate _ rfl)) fun newStage => ?_
  refine Transaction.Only.bind (Transaction.only_registerCompensation (only_compensateStageCreation_of rfl rfl)) fun _ => ?_
  refine Transaction.Only.bind (Transaction.only_ofProgram (only_engineOrTranslate _)) fun _ => ?_
  refine Transaction.Only.bind (Transaction.only_ofProgram (only_orTranslate _ rfl)) fun updatedRequest => ?_
  exact Transaction.Only.bind (Transaction.only_registerCompensation (only_compensation _ rfl)) fun _ => trivial

theorem silent_finishRequest (request : RequestRecord) (status : RequestStatus) :
    (finishRequest request status).Only Silent :=
  @only_finishRequest_of Silent rfl (fun _ _ _ _ _ => rfl) request status

theorem silent_advanceAfterApproval (viewer : Option UUID) (row : WorkflowStageRecord) :
    (advanceAfterApproval viewer row).Only Silent := by
  refine Transaction.Only.bind (Transaction.only_ofProgram ?_) fun planned => ?_
  · exact (only_planAfterApproval _ row).mono fun _ => Auxiliary.silent
  · rcases planned with ⟨request, _ | plan⟩
    · exact Transaction.Only.bind (silent_finishRequest request .completed) fun _ => trivial
    · exact Transaction.Only.bind (silent_openNextStage request plan) fun _ => trivial

theorem silent_finalizeRejection (row : WorkflowStageRecord) : (finalizeRejection row).Only Silent := by
  refine Transaction.Only.bind (Transaction.only_ofProgram (only_orNotFound _ rfl)) fun request => ?_
  exact Transaction.Only.bind (silent_finishRequest request .rejected) fun _ => trivial

theorem silent_decideStageBody (row : WorkflowStageRecord) (version : Nat) (note : Option String) :
    (decideStageBody identity row.id row decision version note).Only Silent := by
  have entered : ∀ (decided : WorkflowStageRecord) (advancement : DecisionAdvancement),
      (do
        let _ ← orTranslate (.recordEvent advancement.auditAction (some identity.userId) (some row.requestId)
          (some (.stageDecided row.id note)) none)
        return (decided, advancement) : Transaction hubSignature AppError _).Only Silent :=
    fun decided advancement => Transaction.Only.bind (Transaction.only_ofProgram (only_orTranslate _ rfl)) fun _ => trivial
  cases decision with
  | approve =>
      refine Transaction.Only.bind (Transaction.only_ofProgram (only_orTranslate _ rfl)) fun decided => ?_
      refine Transaction.Only.bind (Transaction.only_registerCompensation (only_compensation _ rfl)) fun _ => ?_
      exact Transaction.Only.bind (silent_advanceAfterApproval _ row) (entered decided)
  | reject =>
      refine Transaction.Only.bind (Transaction.only_ofProgram (only_orTranslate _ rfl)) fun decided => ?_
      refine Transaction.Only.bind (Transaction.only_registerCompensation (only_compensation _ rfl)) fun _ => ?_
      exact Transaction.Only.bind (silent_finalizeRejection row) (entered decided)

theorem ensures_decisionTransaction_whole {row : WorkflowStageRecord} {ticks : Nat} (consistent : start.Consistent)
    (found : start.stages.find? row.id = some row) (pending : row.status = .pending) (operation : String) (version : Nat)
    (note : Option String) :
    (transaction operation (decideStageBody identity row.id row decision version note)).Ensures faltering
      (Whole start identity decision row) (start.atTick ticks, false) := by
  refine Transaction.ensures_recovering (silent_decideStageBody row version note) (fun _ => rfl) ?_
  exact (resolved_decideStageBody consistent found pending version note).mono fun _ _ _ => recovers_of_resolved operation

/-- Notifications write no request, no stage and no audit entry, and begin no rollback. -/
theorem ensures_notifying_faltering {α : Type} {program : Service α} (notifying : program.Only NotifyingCall) :
    program.Ensures faltering (fun _ final => final.2 = false ∧ final.1.requests = world.requests ∧
      final.1.stages = world.stages ∧ final.1.audit = world.audit) (world, false) := by
  refine ensures_unswitched (notifying.mono fun _ notifying => Auxiliary.silent notifying.auxiliary) ?_
  refine (notifying.ensures (fun state : World => state.requests = world.requests ∧ state.stages = world.stages ∧
    state.audit = world.audit) ?_ ⟨rfl, rfl, rfl⟩).mono fun _ _ same => ⟨rfl, same⟩
  intro state request same notifying
  refine ⟨trivial, fun reply after step => ?_⟩
  have answered : mayFail () state request reply after := step
  have audit : after.audit = state.audit := by
    refine World.audit_of_mayFail answered ?_
    intro action actorId requestId metadata companyId asked
    subst asked
    exact notifying
  rcases World.change_of_mayFail answered with ⟨statement, changed, rfl, change, rfl⟩ | ⟨requests, stages, -⟩
  · obtain ⟨requests, stages⟩ := change.unaffected notifying.auxiliary.reading
    exact ⟨requests.trans same.1, stages.trans same.2.1, audit.trans same.2.2⟩
  · exact ⟨requests.trans same.1, stages.trans same.2.1, audit.trans same.2.2⟩

theorem ensures_conclusion_fallible (viewer : Option UUID) (stageId : UUID) (row : WorkflowStageRecord)
    (advancement : DecisionAdvancement) (outcome : ApprovalOutcome) :
    Program.Ensures faltering (do
        tryCatch (dispatchPostDecisionNotifications viewer row advancement) fun _ => log (.notificationFailed stageId)
        return outcome)
      (fun result final => result = .ok outcome ∧ final.1.requests = world.requests ∧ final.1.stages = world.stages ∧
        final.1.audit = world.audit) (world, false) := by
  have notified := @ensures_notifying_faltering world _ _
    (notifying_dispatchPostDecisionNotifications viewer row advancement)
  refine (ensures_bind ..).mpr ((ensures_tryCatch ..).mpr (notified.mono ?_))
  intro result final same
  obtain ⟨final, rolling⟩ := final
  obtain ⟨rfl, same⟩ := same
  cases result with
  | ok value => exact ⟨rfl, same⟩
  | error error =>
      refine (ensures_log ..).mpr ⟨trivial, fun reply after answered => ?_⟩
      obtain ⟨after, rolling⟩ := after
      have ticked : after = final.tick := by
        rcases answered.2 with answered | ⟨error, none, -⟩
        · exact (Prod.mk.inj answered).2.symm
        · cases none
      subst ticked
      exact ⟨rfl, same⟩

theorem ensures_authorize_faltering (permitted : Bool) (resource : String) (ticks : Nat) :
    (authorize identity permitted resource).Ensures faltering
      (fun result final => (∃ later, final = (start.atTick later, false)) ∧ (result = .ok (.ok ()) → permitted = true))
      (start.atTick ticks, false) := by
  unfold authorize isExpired
  cases identity.expiresAt with
  | none => cases permitted <;> exact ⟨⟨ticks, rfl⟩, fun granted => by cases granted <;> rfl⟩
  | some expiresAt =>
      simp only [ensures_bind, ensures_utcNow]
      refine ⟨trivial, fun now after step => ?_⟩
      obtain ⟨after, rolling⟩ := after
      obtain ⟨unswitched, step⟩ := step
      obtain rfl : rolling = false := unswitched
      have ticked : after = (start.atTick ticks).tick := by
        rcases step with answered | ⟨_, none, -⟩
        · exact (Prod.mk.inj answered).2.symm
        · cases none
      subst ticked
      simp only [Then, pure_eq, ensures_done]
      split
      · exact ⟨⟨_, rfl⟩, fun granted => by cases granted⟩
      · cases permitted <;> exact ⟨⟨_, rfl⟩, fun granted => by cases granted <;> rfl⟩

/-- What a decision leaves: all of it, or nothing; nothing, too, if it finds itself already taken. -/
def Atomic (start : World) (identity : AuthenticatedIdentity) (decision : Decision) (stageId : UUID)
    (result : Except AppError ApprovalOutcome) (final : World) : Prop :=
  match result with
  | .ok outcome => ∃ row, start.stages.find? stageId = some row ∧
      (Enacted identity decision row outcome start final ∨ Replayed identity decision row outcome start final)
  | .error _ => contentsOf final = contentsOf start

theorem ensures_decideStage_atomic (consistent : start.Consistent) (stageId : UUID) (expectedVersion : Option Nat)
    (note : Option String) :
    (decideStage identity stageId decision expectedVersion note).Ensures faltering
      (fun result final => Atomic start identity decision stageId result final.1) (start, false) := by
  unfold decideStage getByIdForCompany
  rw [ensures_bind, ensures_bind, ensures_orNotFound]
  refine ⟨trivial, fun (reply : Except DatabaseError WorkflowStageRecord) after step => ?_⟩
  obtain ⟨after, rolling⟩ := after
  obtain ⟨unswitched, step⟩ := step
  obtain rfl : rolling = false := unswitched
  obtain ⟨rfl, fetched⟩ := World.read_of_mayFail rfl step
  cases reply with
  | error error => exact (rfl : contentsOf start.tick = contentsOf start)
  | ok row =>
  have found : start.stages.find? stageId = some row := World.getById_ok_iff.mp (fetched row rfl)
  have keyed : row.id = stageId := ((find?_eq_some_iff ..).mp found).2
  subst keyed
  dsimp only [Except.mapError, Then]
  split
  · exact (rfl : contentsOf start.tick = contentsOf start)
  simp only [pure_eq, ensures_done, Then]
  split
  · rename_i replays
    refine (ensures_bind ..).mpr ((ensures_orNotFound ..).mpr ⟨trivial, fun reply after step => ?_⟩)
    obtain ⟨after, rolling⟩ := after
    obtain ⟨unswitched, step⟩ := step
    obtain ⟨rfl, -⟩ := World.read_of_mayFail rfl step
    cases reply with
    | error error => exact (rfl : contentsOf start.tick.tick = contentsOf start)
    | ok request => exact ⟨row, found, .inr ⟨rfl, replays.1, replays.2, _, rfl⟩⟩
  · refine (ensures_bind ..).mpr ((ensures_authorize_faltering (identity.mayDecide row) "workflow stage" _).mono ?_)
    intro permitted final granted
    obtain ⟨⟨ticks, rfl⟩, right⟩ := granted
    cases permitted with
    | error error => exact (rfl : contentsOf (start.atTick ticks) = contentsOf start)
    | ok permission =>
    cases permission with
    | error error => exact (rfl : contentsOf (start.atTick ticks) = contentsOf start)
    | ok _ =>
    have pending : row.status = .pending := ((mayDecide_iff identity row).mp (right rfl)).2.1
    refine (ensures_bind ..).mpr ((ensures_engineOrTranslate ..).mpr ?_)
    cases validateStageTransition row.status decision.stageStatus with
    | error error => exact (rfl : contentsOf (start.atTick ticks) = contentsOf start)
    | ok _ =>
    refine (ensures_bind ..).mpr ((ensures_decisionTransaction_whole consistent found pending _ _ _).mono ?_)
    intro result final whole
    obtain ⟨final, rolling⟩ := final
    cases result with
    | error error => exact whole
    | ok outcome =>
        obtain ⟨decided, advancement⟩ := outcome
        obtain ⟨rfl, enacted⟩ := whole
        refine (ensures_conclusion_fallible ..).mono ?_
        intro result last same
        obtain ⟨rfl, requests, stages, audit⟩ := same
        refine ⟨row, found, .inl ?_⟩
        constructor
        case stage => rw [stages]; exact enacted.stage
        case recorded => exact enacted.recorded
        case request => rw [requests]; exact enacted.request
        case audited => rw [audit]; exact enacted.audited
        case stages => rw [stages]; exact enacted.stages
        case requests => rw [requests]; exact enacted.requests

/-- A database that fails to insert into the audit log. -/
def failingAudit : Handler hubSignature World := fun request world =>
  match request with
  | .query (.recordEvent ..) => (.error (.repository "Database operation 'insert' failed on 'audit_logs'."), world.tick)
  | request => environment request world

/-- The audit log fails until a rollback begins. -/
def falteringAudit : Handler hubSignature (World × Bool) := fun request state =>
  let outcome := if state.2 then environment request state.1 else failingAudit request state.1
  (outcome.1, outcome.2, state.2 || reportsRollback request)

theorem answers_falteringAudit (state : World × Bool) (request : Call) :
    faltering.answers state request (falteringAudit request state).1 (falteringAudit request state).2 := by
  obtain ⟨world, rolling⟩ := state
  refine ⟨rfl, ?_⟩
  cases rolling with
  | true =>
      change (Protocol.ofHandler environment).answers world request (environment request world).1
        (environment request world).2
      exact rfl
  | false =>
      change mayFail () world request (failingAudit request world).1 (failingAudit request world).2
      unfold failingAudit
      split
      · exact .inr ⟨_, rfl, rfl⟩
      · exact mayFail_environment () world request

end Calls

end AutomationHub.System
