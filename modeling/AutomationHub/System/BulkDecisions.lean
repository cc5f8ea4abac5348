import AutomationHub.System.Operations
import AutomationHub.Workflow.EngineProperties

/-!
Batches of decisions, each of which a failure of the database may strike.
-/

set_option autoImplicit false

namespace AutomationHub.System

open Foundation Model Database Services Auth Workflow Api Program Table

/-- What the calls of a batch have shown so far: the stage that the item at hand fetched, whether it is not the last one
of its request, whether the item's audit entry is written, and whether a failure was met that leaves the item
unaccounted for. -/
structure Watch where
  stage : Option WorkflowStageRecord
  misplaced : Bool
  recorded : Bool
  unhandled : Bool

/-- The lookups translate a missing row, and no other failure. -/
def translatedByLookup : DatabaseError → Bool
  | .recordNotFound .. => true
  | _ => false

/-- The failures that no `except` clause of a decision turns into an `EAHError`, before the decision is recorded; a
stage that is not the last one of its request; and a decision that a rollback fails to undo. -/
def Watch.meets (watch : Watch) : (request : Call) → request.Reply → Bool
  | .query (.getStage _), .error error => !translatedByLookup error
  | .query (.getRequest _), .error error => !watch.recorded && !translatedByLookup error
  | .query (.getDefinition ..), .error error => !translatedByLookup error
  | .query (.getProfile _), .error error => !translatedByLookup error
  | .query (.getProfile _), .ok _ => watch.misplaced
  | .query (.getHighestStageOrder _), .error _ => true
  | .query (.listProfilesByRole ..), .error _ => true
  | .query (.revertToPending ..), .error _ => true
  | _, _ => false

/-- The stage cannot be followed by the next one of its request. -/
def misplaces (highest : Nat) (stage : WorkflowStageRecord) : Bool :=
  highest != stage.stageOrder || stage.stageOrder == 0

def Watch.after (watch : Watch) (request : Call) (reply : request.Reply) : Watch :=
  let unhandled := watch.unhandled || watch.meets request reply
  match request, reply with
  | .query (.getStage _), reply => { stage := reply.toOption, misplaced := false, recorded := false, unhandled }
  | .query (.getHighestStageOrder _), .ok highest => { watch with misplaced := watch.stage.any (misplaces highest), unhandled }
  | .query (.recordEvent ..), .ok _ => { watch with recorded := true, unhandled }
  | _, _ => { watch with unhandled }

/-- Any call, which the database may fail, under the watch. -/
def watching : Protocol hubSignature (World × Watch) where
  permits := fun _ _ => True
  answers := fun state request reply after =>
    mayFail () state.1 request reply after.1 ∧ after.2 = state.2.after request reply

/-- The call of one item. -/
def decideItem (decision : Decision) (identity : AuthenticatedIdentity) (item : BulkDecisionItem) :
    Service ApprovalOutcome :=
  match decision with
  | .approve => approveStage identity item.stageId (some item.expectedVersion) item.decisionNote
  | .reject => rejectStage identity item.stageId (some item.expectedVersion)
      ((item.decisionNote.map DecisionNote.text).getD "")

def bulk (decision : Decision) (identity : AuthenticatedIdentity) (items : List BulkDecisionItem) :
    Service (List BulkDecisionResultItem) :=
  match decision with
  | .approve => bulkApprove identity items
  | .reject => bulkReject identity items

/-- An item of a batch, the states before and after it, and what its call returned. -/
structure Handled where
  item : BulkDecisionItem
  before : World × Watch
  after : World × Watch
  outcome : Except AppError ApprovalOutcome

/-- The runs of a batch, item by item. -/
inductive Batch (decision : Decision) (identity : AuthenticatedIdentity) : List BulkDecisionItem → World × Watch →
    List Handled → Except AppError (List BulkDecisionResultItem) → World × Watch → Prop
  | finished {state : World × Watch} : Batch decision identity [] state [] (.ok []) state
  | answered {item : BulkDecisionItem} {rest : List BulkDecisionItem} {before middle after : World × Watch}
      {outcome : Except AppError ApprovalOutcome} {result : BulkDecisionResultItem} {handled : List Handled}
      {results : Except AppError (List BulkDecisionResultItem)}
      (executed : (decideItem decision identity item).Executes watching before outcome middle)
      (caught : bulkItemResult item outcome = .ok result)
      (onward : Batch decision identity rest middle handled results after) :
      Batch decision identity (item :: rest) before ({ item, before, after := middle, outcome } :: handled)
        (results.map (result :: ·)) after
  | aborted {item : BulkDecisionItem} {rest : List BulkDecisionItem} {before middle : World × Watch}
      {outcome : Except AppError ApprovalOutcome} {error : AppError}
      (executed : (decideItem decision identity item).Executes watching before outcome middle)
      (escaped : bulkItemResult item outcome = .error error) :
      Batch decision identity (item :: rest) before [{ item, before, after := middle, outcome }] (.error error) middle

/-- The caller's decision on a stage is in force. -/
def InForce (decision : Decision) (identity : AuthenticatedIdentity) (stageId : UUID) (world : World) : Prop :=
  ∃ stage, world.stages.find? stageId = some stage ∧ stage.status = decision.stageStatus ∧
    stage.decidedBy = some identity.userId

/-- Nothing differs but the time, and the rows of one request and its stages. -/
structure Undisturbed (requestId : Option UUID) (before after : World) : Prop where
  requests : ∀ id, some id ≠ requestId → after.requests.find? id = before.requests.find? id
  stages : ∀ stage : WorkflowStageRecord, some stage.requestId ≠ requestId →
    (stage ∈ after.stages.rows ↔ stage ∈ before.stages.rows)
  rest : ∃ requests stages ticks, after = { before with requests, stages, ticks }

/-- The result of an item is a success exactly if it has put its decision in force, or found it so, and then the decision
is still in force at the end of the batch; an item that failed leaves everything but its own request as it was. -/
structure Handled.Accounted (decision : Decision) (identity : AuthenticatedIdentity) (final : World) (handled : Handled)
    (result : BulkDecisionResultItem) : Prop where
  named : result.stageId = handled.item.stageId
  success : result.success = true → InForce decision identity handled.item.stageId handled.after.1 ∧
    InForce decision identity handled.item.stageId final
  failure : result.success = false → (InForce decision identity handled.item.stageId handled.after.1 →
    InForce decision identity handled.item.stageId handled.before.1)
  isolated : result.success = false → Undisturbed ((handled.before.1.stages.find? handled.item.stageId).map
    WorkflowStageRecord.requestId) handled.before.1 handled.after.1

/-- The batch answers with one result for each item, in their order, each of which accounts for its item. -/
def BatchAccounted (decision : Decision) (identity : AuthenticatedIdentity) (items : List BulkDecisionItem)
    (handled : List Handled) (result : Except AppError (List BulkDecisionResultItem)) (final : World) : Prop :=
  ∃ results, result = .ok results ∧ handled.map Handled.item = items ∧
    List.Forall₂ (Handled.Accounted decision identity final) handled results

theorem isNone_eahMessage_notFoundOrDatabase (error : DatabaseError) :
    (notFoundOrDatabase error).eahMessage.isNone = !translatedByLookup error := by
  cases error <;> rfl

theorem isNone_eahMessage_translateDatabaseError (error : DatabaseError) :
    (translateDatabaseError error).eahMessage.isNone = false := by
  cases error <;> rfl

theorem isNone_eahMessage_translateWorkflowError (error : EngineError) :
    (translateWorkflowError error).eahMessage.isNone = false := by
  cases error <;> rfl

/-- The statements of a rollback and of the writes before it do not change what the watch has seen. -/
def Quiet : Call → Prop
  | .query (.setCurrentStage ..) | .query (.createStage ..) | .query (.deleteIfUnchanged ..)
  | .query (.approveStage ..) | .query (.rejectStage ..) | .log _ | .utcNow => True
  | _ => False

theorem Watch.unseen {watch later : Watch} {request : Call} {reply : request.Reply}
    (seen : later = watch.after request reply) (quiet : Quiet request) : later = watch := by
  have same : watch = { watch with unhandled := watch.unhandled || false } := by simp
  cases request with
  | query statement => cases statement <;> first | exact seen.trans same.symm | cases quiet
  | log line => exact seen.trans same.symm
  | utcNow => exact seen.trans same.symm
  | _ => cases quiet

/-- From one state to the other only one stage is updated, rows of one request are written, and stages added to it. -/
structure Within (stageId requestId : UUID) (before after : World) : Prop where
  kept : ∀ stage ∈ before.stages.rows, stage.id ≠ stageId → stage ∈ after.stages.rows
  fresh : ∀ stage ∈ after.stages.rows, stage ∈ before.stages.rows ∨ stage.requestId = requestId
  requests : ∀ id, id ≠ requestId → after.requests.find? id = before.requests.find? id
  rest : ∃ requests stages ticks, after = { before with requests, stages, ticks }

namespace Within

variable {stageId requestId : UUID} {before world after : World}

theorem refl (stageId requestId : UUID) (world : World) : Within stageId requestId world world :=
  ⟨fun _ member _ => member, fun _ member => .inl member, fun _ _ => rfl, world.requests, world.stages, world.ticks, rfl⟩

theorem atTick (within : Within stageId requestId before world) (ticks : Nat) :
    Within stageId requestId before (world.atTick ticks) := by
  obtain ⟨requests, stages, earlier, rfl⟩ := within.rest
  exact ⟨within.kept, within.fresh, within.requests, requests, stages, ticks, rfl⟩

theorem tick (within : Within stageId requestId before world) : Within stageId requestId before world.tick :=
  within.atTick _

theorem modifyRequest (within : Within stageId requestId before world) (edit : Edit RequestRecord) :
    Within stageId requestId before { world with requests := world.requests.modify requestId edit } := by
  obtain ⟨requests, stages, ticks, rfl⟩ := within.rest
  refine ⟨within.kept, within.fresh, fun id other => ?_, _, stages, ticks, rfl⟩
  exact (find?_modify ..).trans ((if_neg other).trans (within.requests id other))

theorem modifyStage (within : Within stageId requestId before world) {row : WorkflowStageRecord}
    (found : world.stages.find? stageId = some row) (owned : row.requestId = requestId)
    (edit : Edit WorkflowStageRecord) (keeps : ∀ stage, (edit.apply stage).requestId = stage.requestId) :
    Within stageId requestId before { world with stages := world.stages.modify stageId edit } := by
  obtain ⟨member, keyed⟩ := (find?_eq_some_iff ..).mp found
  have listed := within.kept
  have origin := within.fresh
  obtain ⟨requests, stages, ticks, rfl⟩ := within.rest
  refine ⟨fun stage old other => ?_, fun stage present => ?_, within.requests, requests, _, ticks, rfl⟩
  · exact (mem_modify ..).mpr (.inl ⟨listed stage old other, other⟩)
  · rcases (mem_modify ..).mp present with ⟨earlier, -⟩ | ⟨old, listed, same, rfl⟩
    · exact origin stage earlier
    · have isRow : old = row := stages.eq_of_key_eq listed member (same.trans keyed.symm)
      exact .inr ((keeps old).trans (isRow ▸ owned))

theorem insertStage (within : Within stageId requestId before world) (draft : Draft WorkflowStageRecord)
    (owned : (draft.build world.stages.next).requestId = requestId) :
    Within stageId requestId before { world with stages := world.stages.insert draft } := by
  have listed := within.kept
  have origin := within.fresh
  obtain ⟨requests, stages, ticks, rfl⟩ := within.rest
  refine ⟨fun stage old other => ?_, fun stage present => ?_, within.requests, requests, _, ticks, rfl⟩
  · exact (mem_insert ..).mpr (.inl (listed stage old other))
  · rcases (mem_insert ..).mp present with present | rfl
    · exact origin stage present
    · exact .inr owned

theorem eraseStage (within : Within stageId requestId before world) {newId : UUID}
    (new : ∀ stage ∈ before.stages.rows, stage.id ≠ newId) :
    Within stageId requestId before { world with stages := world.stages.erase newId } := by
  have listed := within.kept
  have origin := within.fresh
  obtain ⟨requests, stages, ticks, rfl⟩ := within.rest
  refine ⟨fun stage old other => ?_, fun stage present => ?_, within.requests, requests, _, ticks, rfl⟩
  · exact (mem_erase ..).mpr ⟨listed stage old other, new stage old⟩
  · exact origin stage ((mem_erase ..).mp present).1

theorem undisturbed (within : Within stageId requestId before after) {row : WorkflowStageRecord}
    (found : before.stages.find? stageId = some row) (owned : row.requestId = requestId) :
    Undisturbed (some requestId) before after := by
  obtain ⟨member, keyed⟩ := (find?_eq_some_iff ..).mp found
  refine ⟨fun id other => ?_, fun stage other => ⟨fun present => ?_, fun old => ?_⟩, within.rest⟩
  · exact within.requests id fun same => other (congrArg some same)
  · exact (within.fresh stage present).resolve_right fun same => other (congrArg some same)
  · refine within.kept stage old fun same => other ?_
    have isRow : stage = row := before.stages.eq_of_key_eq old member (Eq.trans same keyed.symm)
    exact congrArg some (isRow ▸ owned)

theorem inForce (within : Within stageId requestId before after) {decision : Decision} {identity : AuthenticatedIdentity}
    {id : UUID} (other : id ≠ stageId) (held : InForce decision identity id before) :
    InForce decision identity id after := by
  obtain ⟨stage, found, status, decidedBy⟩ := held
  obtain ⟨member, keyed⟩ := (find?_eq_some_iff ..).mp found
  have present := within.kept stage member fun same => other (Eq.trans (Eq.symm keyed) same)
  exact ⟨stage, (find?_eq_some_iff ..).mpr ⟨present, keyed⟩, status, decidedBy⟩

end Within

/-- A decision was recorded on a stage and is not undone. -/
structure Underway (start : World) (decided : WorkflowStageRecord) (world : World) : Prop where
  within : Within decided.id decided.requestId start world
  found : world.stages.find? decided.id = some decided

section Undoing

variable {start world after : World} {decided : WorkflowStageRecord}

theorem Underway.atTick (underway : Underway start decided world) (ticks : Nat) :
    Underway start decided (world.atTick ticks) :=
  ⟨underway.within.atTick ticks, underway.found⟩

theorem Underway.quiet {request : Call} {reply : request.Reply} (underway : Underway start decided world)
    (silent : ∀ world, (environment request world).2 = world.tick) (step : mayFail () world request reply after) :
    Underway start decided after := by
  rcases step with answered | ⟨error, -, rfl⟩
  · have same : (environment request world).2 = after := congrArg Prod.snd answered
    rw [← same, silent]
    exact underway.atTick _
  · exact underway.atTick _

theorem Underway.setCurrentStage {requestId : UUID} {version : Nat} {current : Option UUID} {status : RequestStatus}
    {completedAt : Option Datetime} {reply : Except DatabaseError RequestRecord} (underway : Underway start decided world)
    (owner : requestId = decided.requestId)
    (step : mayFail () world (.query (.setCurrentStage requestId version current status completedAt)) reply after) :
    Underway start decided after := by
  subst owner
  cases reply with
  | error error =>
      rw [World.unchanged_of_refused step]
      exact underway.atTick _
  | ok written =>
      obtain ⟨changed, executed, rfl⟩ := World.executed_of_mayFail step
      obtain ⟨row, -, -, -, -, rfl⟩ := World.updateRequest_ok_iff.mp executed
      exact ⟨(underway.within.modifyRequest _).tick, underway.found⟩

theorem Underway.delete {newId version : Nat} {reply : Except DatabaseError Bool} (underway : Underway start decided world)
    (new : ∀ stage ∈ start.stages.rows, stage.id ≠ newId) (other : decided.id ≠ newId)
    (step : mayFail () world (.query (.deleteIfUnchanged newId version)) reply after) :
    Underway start decided after := by
  by_cases deleted : reply = .ok true
  · subst deleted
    obtain ⟨changed, executed, rfl⟩ := World.executed_of_mayFail step
    obtain ⟨-, -, rfl⟩ := World.deleteIfUnchanged_true_iff.mp executed
    exact ⟨(underway.within.eraseStage new).tick, (find?_erase ..).trans ((if_neg other).trans underway.found)⟩
  · rcases step with answered | ⟨error, -, rfl⟩
    · obtain ⟨replied, rfl⟩ := Prod.mk.inj answered
      have unchanged := World.deleteIfUnchanged_unchanged (Prod.ext replied rfl) deleted
      have same : (world.execute (.deleteIfUnchanged newId version)).2 = world := unchanged
      rw [same]
      exact underway.atTick _
    · exact underway.atTick _

/-- A compensation that touches neither the decision nor what the watch has seen. -/
def Mild (start : World) (decided : WorkflowStageRecord) (compensation : Service Unit) : Prop :=
  ∀ world watch, Underway start decided world → compensation.Ensures watching
    (fun _ final => Underway start decided final.1 ∧ final.2 = watch) (world, watch)

theorem mild_compensateRequestAdvancement {original updated : RequestRecord} (owner : original.id = decided.requestId) :
    Mild start decided (compensateRequestAdvancement original updated) := by
  intro world watch underway
  refine (ensures_compensation ..).mpr ⟨trivial, fun reply after step => ?_⟩
  exact ⟨underway.setCurrentStage owner step.1, Watch.unseen step.2 trivial⟩

theorem mild_compensateStageCreation {newStage : WorkflowStageRecord}
    (new : ∀ stage ∈ start.stages.rows, stage.id ≠ newStage.id) (other : decided.id ≠ newStage.id) :
    Mild start decided (compensateStageCreation newStage) := by
  intro world watch underway
  refine (ensures_bind ..).mpr ((ensures_orRaise ..).mpr ⟨trivial, fun reply after step => ?_⟩)
  obtain ⟨after, later⟩ := after
  obtain rfl : later = watch := Watch.unseen step.2 trivial
  have kept := underway.delete new other step.1
  cases reply with
  | error error => exact ⟨kept, rfl⟩
  | ok deleted =>
      cases deleted with
      | true => exact ⟨kept, rfl⟩
      | false =>
          refine (ensures_log ..).mpr ⟨trivial, fun reply last step => ?_⟩
          exact ⟨kept.quiet (fun _ => rfl) step.1, Watch.unseen step.2 trivial⟩

/-- The compensations registered since the decision, which is undone last. -/
def Undoable (start : World) (decided : WorkflowStageRecord) (registered : List (Service Unit)) : Prop :=
  ∃ later, registered = later ++ [compensateDecision decided.id decided] ∧
    ∀ compensation ∈ later, Mild start decided compensation

theorem Undoable.cons {registered : List (Service Unit)} {compensation : Service Unit}
    (undoable : Undoable start decided registered) (mild : Mild start decided compensation) :
    Undoable start decided (compensation :: registered) := by
  obtain ⟨later, rfl, milds⟩ := undoable
  refine ⟨compensation :: later, rfl, fun other member => ?_⟩
  rcases List.mem_cons.mp member with rfl | earlier
  · exact mild
  · exact milds other earlier

theorem undoable_decision : Undoable start decided [compensateDecision decided.id decided] :=
  ⟨[], rfl, fun _ member => absurd member List.not_mem_nil⟩

/-- After a rollback that began with a decision on record, the decision is undone, or the watch saw that it could not
be. -/
def Undone (start : World) (decided : WorkflowStageRecord) (watch : Watch) (final : World × Watch) : Prop :=
  Within decided.id decided.requestId start final.1 ∧
    ((final.2 = watch ∧ ∃ stage, final.1.stages.find? decided.id = some stage ∧ stage.decidedBy = none) ∨
      (final.2 = { watch with unhandled := true } ∧ final.1.stages.find? decided.id = some decided))

theorem Undone.tick {watch : Watch} {final : World × Watch} (undone : Undone start decided watch final) :
    Undone start decided watch (final.1.tick, final.2) :=
  ⟨undone.1.tick, undone.2⟩

theorem ensures_compensateDecision {watch : Watch} (underway : Underway start decided world) :
    (compensateDecision decided.id decided).Ensures watching (fun _ final => Undone start decided watch final)
      (world, watch) := by
  refine (ensures_compensation ..).mpr ⟨trivial, fun reply after step => ?_⟩
  obtain ⟨after, later⟩ := after
  obtain ⟨taken, seen⟩ := step
  cases reply with
  | error error =>
      have same : after = world.tick := World.unchanged_of_refused taken
      subst same
      have flagged : later = { watch with unhandled := true } := by
        rw [show later = _ from seen]
        simp [Watch.after, Watch.meets]
      exact ⟨underway.within.tick, .inr ⟨flagged, underway.found⟩⟩
  | ok reverted =>
      have unflagged : later = watch := by
        rw [show later = _ from seen]
        simp [Watch.after, Watch.meets]
      have written : mayFail () world (.query (.revertToPending decided.id decided.version)) (.ok reverted) after := taken
      obtain ⟨changed, executed, rfl⟩ := World.executed_of_mayFail written
      simp only [World.execute] at executed
      obtain ⟨row, found, -, -, -, rfl⟩ := World.updateStage_ok_iff.mp executed
      obtain rfl : row = decided := Option.some.inj (found.symm.trans underway.found)
      refine ⟨(underway.within.modifyStage underway.found rfl _ fun _ => rfl).tick, .inl ⟨unflagged, ?_⟩⟩
      exact ⟨_, (find?_modify ..).trans ((if_pos rfl).trans (congrArg (Option.map _) found)), rfl⟩

theorem ensures_undoing {α : Type} (operation : String) (error : AppError) {registered : List (Service Unit)}
    (undoable : Undoable start decided registered) (watch : Watch) (underway : Underway start decided world) :
    (Transaction.rollback (transactionReport operation) error registered : Service α).Ensures watching
      (fun result final => result = .error error ∧ Undone start decided watch final) (world, watch) := by
  obtain ⟨later, rfl, milds⟩ := undoable
  induction later generalizing world with
  | nil =>
      refine (ensures_bind ..).mpr ((ensures_tryCatch ..).mpr ((ensures_compensateDecision underway).mono ?_))
      intro result final undone
      cases result with
      | ok value => exact ⟨rfl, undone⟩
      | error failed =>
          refine ⟨trivial, fun reply last step => ⟨rfl, ?_⟩⟩
          obtain ⟨taken, seen⟩ := step
          obtain ⟨last, later⟩ := last
          obtain rfl : later = final.2 := Watch.unseen seen trivial
          rcases taken with answered | ⟨_, none, -⟩
          · obtain ⟨-, rfl⟩ := Prod.mk.inj answered
            exact undone.tick
          · cases none
  | cons compensation later recurse =>
      have mild := milds compensation List.mem_cons_self world watch underway
      have rest : ∀ other ∈ later, Mild start decided other :=
        fun other member => milds other (List.mem_cons_of_mem _ member)
      refine (ensures_bind ..).mpr ((ensures_tryCatch ..).mpr (mild.mono ?_))
      intro result final kept
      obtain ⟨final, seen⟩ := final
      obtain ⟨underway, rfl⟩ := kept
      cases result with
      | ok value => exact recurse underway rest
      | error failed =>
          refine ⟨trivial, fun reply last step => ?_⟩
          obtain ⟨last, later⟩ := last
          obtain rfl : later = seen := Watch.unseen step.2 trivial
          exact recurse (underway.quiet (fun _ => rfl) step.1) rest

end Undoing

section Deciding

variable {start world : World} {decided row : WorkflowStageRecord} {unhandled : Bool}

/-- What the watch has seen once the stage of an item is fetched. -/
def Watch.fetched (row : WorkflowStageRecord) (unhandled : Bool) : Watch :=
  { stage := some row, misplaced := false, recorded := false, unhandled }

/-- A step either leaves the watch as it was, or raises an exception that is caught unless the watch saw it. -/
def Follows {α : Type} (watch : Watch) : Except AppError α → Watch → Prop
  | .ok _, later => later = watch
  | .error error, later => later.unhandled = (watch.unhandled || error.eahMessage.isNone)

theorem Watch.unhandled_after (watch : Watch) (request : Call) (reply : request.Reply) :
    (watch.after request reply).unhandled = (watch.unhandled || watch.meets request reply) := by
  unfold Watch.after
  dsimp only
  split <;> rfl

theorem planNextStage_of_placed {definition : WorkflowDefinition} {order : Nat} (positive : 0 < order)
    (requester : ProfileRecord) (approvers : List ProfileRecord) :
    ∃ planned, planNextStage definition order order requester approvers = .ok planned := by
  unfold planNextStage nextStage
  have started : order ≠ 0 := Nat.ne_of_gt positive
  cases found : definition.definition.orderedStages.find? fun stage => stage.order == order + stageOrderIncrement with
  | none => exact ⟨none, by simp [started, bind, Except.bind, pure, Except.pure]⟩
  | some stage =>
      obtain ⟨plan, made, -⟩ := toStagePlan_of_mem (List.mem_of_find?_eq_some found) requester approvers
      exact ⟨some plan, by simp [started, bind, Except.bind, made, pure, Except.pure]⟩

theorem misplaces_of_planNextStage {definition : WorkflowDefinition} {highest : Nat} {requester : ProfileRecord}
    {approvers : List ProfileRecord} {error : EngineError} :
    planNextStage definition row.stageOrder highest requester approvers = .error error → misplaces highest row = true := by
  intro failed
  unfold misplaces
  by_contra placed
  rw [Bool.not_eq_true, Bool.or_eq_false_iff, bne_eq_false_iff_eq, beq_eq_false_iff_ne] at placed
  obtain ⟨rfl, started⟩ := placed
  obtain ⟨planned, success⟩ := @planNextStage_of_placed definition row.stageOrder (Nat.pos_of_ne_zero started) requester
    approvers
  rw [success] at failed
  cases failed

theorem follows_of_met {α : Type} {watch later : Watch} {request : Call} {reply : request.Reply} {error : AppError}
    (seen : later = watch.after request reply) (met : watch.meets request reply = error.eahMessage.isNone) :
    Follows watch (.error error : Except AppError α) later := by
  change later.unhandled = _
  rw [seen, Watch.unhandled_after, met]

theorem ensures_fetchApprovers_watched (definition : WorkflowDefinition) (stageOrder : Nat) (request : RequestRecord)
    (requester : ProfileRecord) (watch : Watch) :
    (fetchApproversForNextStage definition stageOrder request requester).Ensures watching
      (fun result final => (∃ ticks, final.1 = world.atTick ticks) ∧
        match result with
        | .ok _ => final.2 = watch
        | .error error => final.2.unhandled = true ∧ error.eahMessage = none) (world, watch) := by
  unfold fetchApproversForNextStage
  dsimp only
  split
  · refine (ensures_bind ..).mpr ((ensures_orRaise ..).mpr ⟨trivial, fun reply after step => ?_⟩)
    obtain ⟨after, later⟩ := after
    obtain ⟨taken, seen⟩ := step
    obtain ⟨rfl, -⟩ := World.read_of_mayFail rfl taken
    cases reply with
    | error error =>
        refine ⟨⟨_, rfl⟩, ?_, rfl⟩
        rw [show later = _ from seen]
        simp [Watch.after, Watch.meets]
    | ok records =>
        refine ⟨⟨_, rfl⟩, ?_⟩
        rw [show later = _ from seen]
        simp [Watch.after, Watch.meets]
  · exact ⟨⟨world.ticks, rfl⟩, rfl⟩

theorem ensures_planAfterApproval_watched (viewer : Option UUID) (row : WorkflowStageRecord) (unhandled : Bool)
    (world : World) :
    (planAfterApproval viewer row).Ensures watching
      (fun result final => (∃ ticks, final.1 = world.atTick ticks) ∧
        Follows (Watch.fetched row unhandled) result final.2 ∧
        ∀ request planned, result = .ok (request, planned) → request.id = row.requestId)
      (world, Watch.fetched row unhandled) := by
  refine (ensures_bind ..).mpr ((ensures_orNotFound ..).mpr ⟨trivial, fun reply after step => ?_⟩)
  obtain ⟨after, later⟩ := after
  obtain ⟨taken, seen⟩ := step
  obtain ⟨rfl, fetched⟩ := World.read_of_mayFail rfl taken
  cases reply with
  | error error =>
      refine ⟨⟨_, rfl⟩, follows_of_met seen ?_, fun _ _ same => by cases same⟩
      rw [isNone_eahMessage_notFoundOrDatabase]
      rfl
  | ok request =>
  have found := World.getById_ok_iff.mp (fetched request rfl)
  have named : request.id = row.requestId := ((find?_eq_some_iff ..).mp found).2
  obtain rfl : later = Watch.fetched row unhandled := by
    rw [show later = _ from seen]
    simp [Watch.after, Watch.meets, Watch.fetched]
  refine (ensures_bind ..).mpr ((ensures_orNotFound ..).mpr ⟨trivial, fun reply after step => ?_⟩)
  obtain ⟨after, later⟩ := after
  obtain ⟨taken, seen⟩ := step
  obtain ⟨rfl, -⟩ := World.read_of_mayFail rfl taken
  cases reply with
  | error error =>
      refine ⟨⟨_, rfl⟩, follows_of_met seen ?_, fun _ _ same => by cases same⟩
      rw [isNone_eahMessage_notFoundOrDatabase]
      rfl
  | ok definition =>
  obtain rfl : later = Watch.fetched row unhandled := by
    rw [show later = _ from seen]
    simp [Watch.after, Watch.meets, Watch.fetched]
  refine (ensures_bind ..).mpr ((ensures_orRaise ..).mpr ⟨trivial, fun reply after step => ?_⟩)
  obtain ⟨after, later⟩ := after
  obtain ⟨taken, seen⟩ := step
  obtain ⟨rfl, -⟩ := World.read_of_mayFail rfl taken
  cases reply with
  | error error => exact ⟨⟨_, rfl⟩, follows_of_met seen rfl, fun _ _ same => by cases same⟩
  | ok highest =>
  obtain rfl : later = { Watch.fetched row unhandled with misplaced := misplaces highest row } := by
    rw [show later = _ from seen]
    simp [Watch.after, Watch.meets, Watch.fetched]
  refine (ensures_bind ..).mpr ((ensures_orNotFound ..).mpr ⟨trivial, fun reply after step => ?_⟩)
  obtain ⟨after, later⟩ := after
  obtain ⟨taken, seen⟩ := step
  obtain ⟨rfl, -⟩ := World.read_of_mayFail rfl taken
  cases reply with
  | error error =>
      refine ⟨⟨_, rfl⟩, ?_, fun _ _ same => by cases same⟩
      change later.unhandled = _
      rw [show later = _ from seen, Watch.unhandled_after, isNone_eahMessage_notFoundOrDatabase]
      rfl
  | ok requester =>
  obtain rfl : later = { Watch.fetched row (unhandled || misplaces highest row) with
      misplaced := misplaces highest row } := by
    rw [show later = _ from seen]
    simp [Watch.after, Watch.meets, Watch.fetched]
  refine (ensures_bind ..).mpr ((ensures_fetchApprovers_watched ..).mono ?_)
  intro result final reached
  obtain ⟨final, later⟩ := final
  obtain ⟨⟨ticks, rfl⟩, kept⟩ := reached
  cases result with
  | error error =>
      obtain ⟨flagged, uncaught⟩ := kept
      refine ⟨⟨_, rfl⟩, ?_, fun _ _ same => by cases same⟩
      change later.unhandled = _
      rw [show later.unhandled = true from flagged, uncaught]
      simp
  | ok approvers =>
  obtain rfl : later = _ := kept
  refine (ensures_bind ..).mpr ((ensures_engineOrRaise ..).mpr ?_)
  cases planned : planNextStage definition row.stageOrder highest requester approvers with
  | error error =>
      refine ⟨⟨_, rfl⟩, ?_, fun _ _ same => by cases same⟩
      change (unhandled || misplaces highest row) = (unhandled || true)
      rw [misplaces_of_planNextStage planned]
  | ok outcome =>
      obtain ⟨rfl, positive, -⟩ := planNextStage_ok planned
      have placed : misplaces row.stageOrder row = false := by
        simp [misplaces, Nat.ne_of_gt positive]
      refine ⟨⟨_, rfl⟩, ?_, ?_⟩
      · change Watch.mk _ _ _ _ = Watch.fetched row unhandled
        rw [placed, Bool.or_false]
        rfl
      · intro other chosen same
        obtain ⟨rfl, rfl⟩ := Prod.mk.inj (Except.ok.inj same)
        exact named

theorem follows_translated {α : Type} (watch : Watch) {error : AppError} (caught : error.eahMessage.isNone = false) :
    Follows watch (.error error : Except AppError α) watch := by
  change watch.unhandled = _
  rw [caught, Bool.or_false]

/-- The state of a transaction that has recorded a decision. -/
def Advancing {α : Type} (start : World) (decided : WorkflowStageRecord) (watch : Watch) (result : Except AppError α)
    (registered : List (Service Unit)) (final : World × Watch) : Prop :=
  Undoable start decided registered ∧ Underway start decided final.1 ∧ Follows watch result final.2

variable {registered : List (Service Unit)} {watch : Watch}

theorem advancing_finishRequest {request : RequestRecord} (status : RequestStatus)
    (owner : request.id = decided.requestId) (undoable : Undoable start decided registered)
    (underway : Underway start decided world) :
    Transaction.Ensures watching (Advancing start decided watch) registered (world, watch)
      (finishRequest request status) := by
  refine (Transaction.ensures_lift_bind ..).mpr ((ensures_engineOrTranslate ..).mpr ?_)
  cases validateRequestTransition request.status status with
  | error error => exact ⟨undoable, underway, follows_translated _ (isNone_eahMessage_translateWorkflowError error)⟩
  | ok transition =>
  refine (Transaction.ensures_lift_bind ..).mpr ((ensures_utcNow ..).mpr ⟨trivial, fun now after step => ?_⟩)
  obtain ⟨after, later⟩ := after
  obtain rfl : later = watch := Watch.unseen step.2 trivial
  have ticked : Underway start decided after := underway.quiet (fun _ => rfl) step.1
  refine (Transaction.ensures_lift_bind ..).mpr ((ensures_orTranslate ..).mpr ⟨trivial, fun reply last step => ?_⟩)
  obtain ⟨last, latest⟩ := last
  obtain rfl : latest = later := Watch.unseen step.2 trivial
  have kept := ticked.setCurrentStage owner step.1
  cases reply with
  | error error => exact ⟨undoable, kept, follows_translated _ (isNone_eahMessage_translateDatabaseError error)⟩
  | ok updated => exact ⟨undoable.cons (mild_compensateRequestAdvancement owner), kept, rfl⟩

theorem Underway.fresh (underway : Underway start decided world) :
    ∀ stage ∈ start.stages.rows, stage.id ≠ world.stages.next := by
  intro stage member
  by_cases same : stage.id = decided.id
  · have present := ((find?_eq_some_iff ..).mp underway.found).1
    exact same ▸ Nat.ne_of_lt (world.stages.fresh decided present)
  · exact Nat.ne_of_lt (world.stages.fresh stage (underway.within.kept stage member same))

theorem Underway.insert (underway : Underway start decided world) (draft : Draft WorkflowStageRecord)
    (owned : (draft.build world.stages.next).requestId = decided.requestId) :
    Underway start decided { world with stages := world.stages.insert draft } := by
  have present := ((find?_eq_some_iff ..).mp underway.found).1
  have older : decided.id ≠ world.stages.next := Nat.ne_of_lt (world.stages.fresh decided present)
  exact ⟨underway.within.insertStage draft owned, (find?_insert ..).trans ((if_neg older).trans underway.found)⟩

theorem advancing_openNextStage {request : RequestRecord} (plan : StagePlan) (owner : request.id = decided.requestId)
    (undoable : Undoable start decided registered) (underway : Underway start decided world) :
    Transaction.Ensures watching (Advancing start decided watch) registered (world, watch)
      (openNextStage request plan) := by
  refine (Transaction.ensures_lift_bind ..).mpr ((ensures_orTranslate ..).mpr ⟨trivial, fun reply after step => ?_⟩)
  obtain ⟨after, later⟩ := after
  obtain rfl : later = watch := Watch.unseen step.2 trivial
  cases reply with
  | error error =>
      have taken : mayFail () world (.query (.createStage ..)) (.error error) after := step.1
      rw [show after = _ from World.unchanged_of_refused taken]
      exact ⟨undoable, underway.atTick _, follows_translated _ (isNone_eahMessage_translateDatabaseError error)⟩
  | ok newStage =>
  have taken : mayFail () world (.query (.createStage ..)) (.ok newStage) after := step.1
  obtain ⟨changed, executed, rfl⟩ := World.executed_of_mayFail taken
  obtain ⟨rfl, rfl, -⟩ := World.createStage_ok_iff.mp executed
  have fresh := underway.fresh
  have older : decided.id ≠ world.stages.next :=
    Nat.ne_of_lt (world.stages.fresh decided ((find?_eq_some_iff ..).mp underway.found).1)
  let draft := world.newStage request.id plan.stageOrder plan.stageName request.companyId plan.assignedRole
    plan.assignedTo
  have extended := (underway.insert draft owner).atTick (world.ticks + 1)
  have mild : Mild start decided (compensateStageCreation (draft.build world.stages.next)) :=
    mild_compensateStageCreation fresh older
  have undoable := undoable.cons mild
  refine (Transaction.ensures_bind ..).mpr ((Transaction.ensures_register ..).mpr ((Transaction.ensures_done ..).mpr ?_))
  refine (Transaction.ensures_lift_bind ..).mpr ((ensures_engineOrTranslate ..).mpr ?_)
  cases validateRequestTransition request.status .inReview with
  | error error => exact ⟨undoable, extended, follows_translated _ (isNone_eahMessage_translateWorkflowError error)⟩
  | ok transition =>
  refine (Transaction.ensures_lift_bind ..).mpr ((ensures_orTranslate ..).mpr ⟨trivial, fun reply last step => ?_⟩)
  obtain ⟨last, latest⟩ := last
  obtain rfl : latest = later := Watch.unseen step.2 trivial
  have kept := extended.setCurrentStage owner step.1
  cases reply with
  | error error => exact ⟨undoable, kept, follows_translated _ (isNone_eahMessage_translateDatabaseError error)⟩
  | ok updated => exact ⟨undoable.cons (mild_compensateRequestAdvancement owner), kept, rfl⟩

theorem advancing_then {α β : Type} {body : Transaction hubSignature AppError α}
    {next : α → Transaction hubSignature AppError β}
    (first : Transaction.Ensures watching (Advancing start decided watch) registered (world, watch) body)
    (rest : ∀ value registered world, Undoable start decided registered → Underway start decided world →
      Transaction.Ensures watching (Advancing start decided watch) registered (world, watch) (next value)) :
    Transaction.Ensures watching (Advancing start decided watch) registered (world, watch) (body >>= next) := by
  refine (Transaction.ensures_bind ..).mpr (first.mono ?_)
  intro result later final advancing
  obtain ⟨undoable, underway, follows⟩ := advancing
  cases result with
  | error error => exact ⟨undoable, underway, follows⟩
  | ok value =>
      obtain ⟨final, seen⟩ := final
      obtain rfl : seen = watch := follows
      exact rest value later final undoable underway

theorem advancing_advanceAfterApproval (viewer : Option UUID) (owner : row.requestId = decided.requestId)
    (undoable : Undoable start decided registered) (underway : Underway start decided world) :
    Transaction.Ensures watching (Advancing start decided (Watch.fetched row unhandled)) registered
      (world, Watch.fetched row unhandled) (advanceAfterApproval viewer row) := by
  refine (Transaction.ensures_lift_bind ..).mpr ((ensures_planAfterApproval_watched ..).mono ?_)
  intro result final reached
  obtain ⟨final, later⟩ := final
  obtain ⟨⟨ticks, rfl⟩, follows, named⟩ := reached
  have kept := underway.atTick ticks
  cases result with
  | error error => exact ⟨undoable, kept, follows⟩
  | ok outcome =>
      obtain ⟨request, planned⟩ := outcome
      obtain rfl : later = Watch.fetched row unhandled := follows
      have mine : request.id = decided.requestId := (named request planned rfl).trans owner
      cases planned with
      | none =>
          exact advancing_then (advancing_finishRequest .completed mine undoable kept)
            fun _ _ _ undoable underway => ⟨undoable, underway, rfl⟩
      | some plan =>
          exact advancing_then (advancing_openNextStage plan mine undoable kept)
            fun _ _ _ undoable underway => ⟨undoable, underway, rfl⟩

theorem advancing_finalizeRejection (owner : row.requestId = decided.requestId)
    (undoable : Undoable start decided registered) (underway : Underway start decided world) :
    Transaction.Ensures watching (Advancing start decided (Watch.fetched row unhandled)) registered
      (world, Watch.fetched row unhandled) (finalizeRejection row) := by
  refine (Transaction.ensures_lift_bind ..).mpr ((ensures_orNotFound ..).mpr ⟨trivial, fun reply after step => ?_⟩)
  obtain ⟨after, later⟩ := after
  obtain ⟨taken, seen⟩ := step
  obtain ⟨rfl, fetched⟩ := World.read_of_mayFail rfl taken
  cases reply with
  | error error =>
      refine ⟨undoable, underway.atTick _, follows_of_met seen ?_⟩
      rw [isNone_eahMessage_notFoundOrDatabase]
      rfl
  | ok request =>
      have found := World.getById_ok_iff.mp (fetched request rfl)
      have mine : request.id = decided.requestId := ((find?_eq_some_iff ..).mp found).2.trans owner
      obtain rfl : later = Watch.fetched row unhandled := by
        rw [show later = _ from seen]
        simp [Watch.after, Watch.meets, Watch.fetched]
      exact advancing_then (advancing_finishRequest .rejected mine undoable (underway.atTick _))
        fun _ _ _ undoable underway => ⟨undoable, underway, rfl⟩

/-- What the recorded decision looks like. -/
structure Decides (decision : Decision) (identity : AuthenticatedIdentity) (row decided : WorkflowStageRecord) : Prop where
  id : decided.id = row.id
  requestId : decided.requestId = row.requestId
  status : decided.status = decision.stageStatus
  decidedBy : decided.decidedBy = some identity.userId

theorem decides_of_executed {decision : Decision} {identity : AuthenticatedIdentity} {version : Nat}
    {note : Option String} {after : World} (found : world.stages.find? row.id = some row)
    (executed : world.decideStage decision.stageStatus row.id version identity.userId note = (.ok decided, after)) :
    Decides decision identity row decided ∧ Underway world decided after := by
  obtain ⟨other, located, -, -, rfl, rfl⟩ := World.updateStage_ok_iff.mp executed
  obtain rfl : other = row := Option.some.inj (located.symm.trans found)
  refine ⟨⟨rfl, rfl, rfl, rfl⟩, ?_, ?_⟩
  · exact (Within.refl ..).modifyStage found rfl _ fun _ => rfl
  · exact (find?_modify ..).trans ((if_pos rfl).trans (congrArg (Option.map _) found))

/-- What the writes of a decision on the fetched row leave. -/
def Written (start : World) (decision : Decision) (identity : AuthenticatedIdentity) (row : WorkflowStageRecord)
    (unhandled : Bool) :
    Except AppError (WorkflowStageRecord × DecisionAdvancement) → List (Service Unit) → World × Watch → Prop
  | .ok _, _, final => final.2.recorded = true ∧ final.2.unhandled = unhandled ∧
      InForce decision identity row.id final.1 ∧
      ∀ stage ∈ start.stages.rows, stage.id ≠ row.id → stage ∈ final.1.stages.rows
  | .error error, registered, final => final.2.unhandled = (unhandled || error.eahMessage.isNone) ∧
      ((registered = [] ∧ ∃ ticks, final.1 = start.atTick ticks) ∨
        ∃ decided, Decides decision identity row decided ∧ Undoable start decided registered ∧
          Underway start decided final.1)

variable {decision : Decision} {identity : AuthenticatedIdentity}

theorem ensures_decisionStatement (found : world.stages.find? row.id = some row) (version : Nat)
    (note : Option String) (watch : Watch) :
    (decisionStatement decision row.id version identity.userId note).Ensures watching
      (fun result final => final.2 = watch ∧
        match result with
        | .ok decided => Decides decision identity row decided ∧ Underway world decided final.1
        | .error error => error.eahMessage.isNone = false ∧ final.1 = world.tick) (world, watch) := by
  cases decision with
  | approve =>
      refine (ensures_orTranslate ..).mpr ⟨trivial, fun reply after step => ⟨Watch.unseen step.2 trivial, ?_⟩⟩
      have taken := step.1
      cases reply with
      | error error =>
          exact ⟨isNone_eahMessage_translateDatabaseError error, @World.unchanged_of_refused _ () _ _ _ _ taken⟩
      | ok decided =>
          obtain ⟨changed, executed, ticked⟩ := @World.executed_of_mayFail _ () _ _ _ _ taken
          obtain ⟨decides, underway⟩ := @decides_of_executed _ _ _ .approve identity _ _ _ found executed
          exact ⟨decides, (show after.1 = changed.tick from ticked) ▸ underway.atTick _⟩
  | reject =>
      refine (ensures_orTranslate ..).mpr ⟨trivial, fun reply after step => ⟨Watch.unseen step.2 trivial, ?_⟩⟩
      have taken := step.1
      cases reply with
      | error error =>
          exact ⟨isNone_eahMessage_translateDatabaseError error, @World.unchanged_of_refused _ () _ _ _ _ taken⟩
      | ok decided =>
          obtain ⟨changed, executed, ticked⟩ := @World.executed_of_mayFail _ () _ _ _ _ taken
          simp only [World.execute] at executed
          split at executed
          · cases congrArg Prod.fst executed
          · obtain ⟨decides, underway⟩ := @decides_of_executed _ _ _ .reject identity _ _ _ found executed
            exact ⟨decides, (show after.1 = changed.tick from ticked) ▸ underway.atTick _⟩

theorem written_of_advancing {start : World} {stageId : UUID} {note : Option String}
    {body : Transaction hubSignature AppError DecisionAdvancement} (decides : Decides decision identity row decided)
    (advanced : Transaction.Ensures watching (Advancing start decided (Watch.fetched row unhandled)) registered
      (world, Watch.fetched row unhandled) body) :
    Transaction.Ensures watching (Written start decision identity row unhandled) registered
      (world, Watch.fetched row unhandled) (do
        let advancement ← body
        let _ ← orTranslate (.recordEvent advancement.auditAction (some identity.userId) (some row.requestId)
          (some (.stageDecided stageId note)) none)
        return (decided, advancement)) := by
  refine (Transaction.ensures_bind ..).mpr (advanced.mono ?_)
  intro result registered final advancing
  obtain ⟨undoable, underway, follows⟩ := advancing
  cases result with
  | error error => exact ⟨follows, .inr ⟨decided, decides, undoable, underway⟩⟩
  | ok advancement =>
  obtain ⟨final, seen⟩ := final
  obtain rfl : seen = Watch.fetched row unhandled := follows
  refine (Transaction.ensures_lift_bind ..).mpr ((ensures_orTranslate ..).mpr ⟨trivial, fun reply last step => ?_⟩)
  obtain ⟨last, latest⟩ := last
  cases reply with
  | error error =>
      have taken : mayFail () final (.query (.recordEvent ..)) (.error error) last := step.1
      obtain rfl : latest = Watch.fetched row unhandled := by
        rw [show latest = _ from step.2]
        simp [Watch.after, Watch.meets, Watch.fetched]
      rw [show last = _ from World.unchanged_of_refused taken]
      exact ⟨@follows_translated DecisionAdvancement _ _ (isNone_eahMessage_translateDatabaseError error),
        .inr ⟨decided, decides, undoable, underway.atTick _⟩⟩
  | ok entry =>
      have taken : mayFail () final (.query (.recordEvent ..)) (.ok entry) last := step.1
      obtain ⟨changed, executed, rfl⟩ := World.executed_of_mayFail taken
      obtain ⟨-, rfl, -⟩ := World.recordEvent_ok_iff.mp executed
      refine ⟨?_, ?_, ⟨decided, decides.id ▸ underway.found, decides.status, decides.decidedBy⟩, ?_⟩
      · rw [show latest = _ from step.2]
        rfl
      · rw [show latest = _ from step.2]
        exact Bool.or_false _
      · intro stage member other
        exact underway.within.kept stage member fun same => other (same.trans decides.id)

theorem ensures_decideStageBody (found : world.stages.find? row.id = some row) (version : Nat) (note : Option String) :
    Transaction.Ensures watching (Written world decision identity row unhandled) [] (world, Watch.fetched row unhandled)
      (decideStageBody identity row.id row decision version note) := by
  refine (Transaction.ensures_lift_bind ..).mpr ((ensures_decisionStatement found version note _).mono ?_)
  intro result final reached
  obtain ⟨after, later⟩ := final
  obtain ⟨same, reached⟩ := reached
  obtain rfl : later = Watch.fetched row unhandled := same
  cases result with
  | error error =>
      obtain ⟨caught, same⟩ := reached
      exact ⟨@follows_translated DecisionAdvancement _ _ caught, .inl ⟨rfl, _, same⟩⟩
  | ok decided =>
  obtain ⟨decides, underway⟩ := reached
  have undoable : Undoable world decided [compensateDecision row.id decided] := decides.id ▸ undoable_decision
  have owner : row.requestId = decided.requestId := decides.requestId.symm
  refine (Transaction.ensures_bind ..).mpr ((Transaction.ensures_register ..).mpr ((Transaction.ensures_done ..).mpr ?_))
  cases decision with
  | approve =>
      exact written_of_advancing decides (advancing_advanceAfterApproval (some identity.userId) owner undoable underway)
  | reject => exact written_of_advancing decides (advancing_finalizeRejection owner undoable underway)

theorem stages_of_mayFail {after : World} {request : Call} {reply : request.Reply}
    (reading : request.writesWorkflow = false) (step : mayFail () world request reply after) :
    after.stages = world.stages := by
  rcases World.change_of_mayFail step with ⟨statement, changed, rfl, change, rfl⟩ | ⟨-, same, -⟩
  · exact (change.unaffected reading).2
  · exact same

/-- Nothing that a notification fails with is unhandled once the decision is recorded. -/
theorem Watch.after_notifying {later : Watch} {request : Call} {reply : request.Reply}
    (seen : later = watch.after request reply) (notifying : NotifyingCall request) (recorded : watch.recorded = true) :
    later = watch := by
  subst seen
  have same : watch = { watch with unhandled := watch.unhandled || false } := by simp
  cases request with
  | query statement =>
      cases statement with
      | getRequest requestId =>
          cases reply with
          | error error =>
              have silent : (!watch.recorded && !translatedByLookup error) = false := by
                rw [recorded]
                rfl
              change { watch with unhandled := watch.unhandled || (!watch.recorded && !translatedByLookup error) } = watch
              rw [silent]
              exact same.symm
          | ok row => exact same.symm
      | _ => first | exact same.symm | cases notifying
  | utcNow => cases notifying
  | _ => exact same.symm

/-- How a call of a batch may end: with its decision in force, or raising an exception. -/
def Answers {α : Type} (decision : Decision) (identity : AuthenticatedIdentity) (stageId : UUID) (start : World)
    (unhandled : Bool) (result : Except AppError α) (final : World × Watch) : Prop :=
  (∀ id, InForce decision identity id start → InForce decision identity id final.1) ∧
    match result with
    | .ok _ => final.2.unhandled = unhandled ∧ InForce decision identity stageId final.1
    | .error error =>
        Undisturbed ((start.stages.find? stageId).map WorkflowStageRecord.requestId) start final.1 ∧
          ∃ unaccounted, final.2.unhandled = (unhandled || unaccounted) ∧
            (unaccounted = false → error.eahMessage.isNone = false ∧
              (InForce decision identity stageId final.1 → InForce decision identity stageId start)) ∧
            (unaccounted = true → error.eahMessage = none ∨
              (InForce decision identity stageId final.1 ∧ ¬InForce decision identity stageId start))

theorem Undisturbed.atTick (requestId : Option UUID) (world : World) (ticks : Nat) :
    Undisturbed requestId world (world.atTick ticks) :=
  ⟨fun _ _ => rfl, fun _ _ => Iff.rfl, world.requests, world.stages, ticks, rfl⟩

theorem answers_of_unwritten {α : Type} {stageId : UUID} {error : AppError} {ticks : Nat} {later : Watch}
    (seen : later.unhandled = (unhandled || error.eahMessage.isNone)) :
    Answers decision identity stageId world unhandled (.error error : Except AppError α) (world.atTick ticks, later) := by
  refine ⟨fun id held => held, Undisturbed.atTick .., error.eahMessage.isNone, seen, fun caught => ⟨caught, fun held => held⟩,
    fun uncaught => .inl (Option.isNone_iff_eq_none.mp uncaught)⟩

theorem not_inForce_of_pending {stageId : UUID} {stage : WorkflowStageRecord}
    (found : world.stages.find? stageId = some stage) (nobody : stage.decidedBy = none) :
    ¬InForce decision identity stageId world := by
  intro held
  obtain ⟨other, located, -, decided⟩ := held
  obtain rfl := Option.some.inj (located.symm.trans found)
  rw [nobody] at decided
  cases decided

theorem answers_of_undone {α : Type} {error : AppError} {start : World} {later : Watch}
    (found : start.stages.find? row.id = some row) (decides : Decides decision identity row decided)
    (undecided : ¬InForce decision identity row.id start)
    (seen : watch.unhandled = (unhandled || error.eahMessage.isNone))
    (undone : Undone start decided watch (world, later)) :
    Answers decision identity row.id start unhandled (.error error : Except AppError α) (world, later) := by
  obtain ⟨within, ending⟩ := undone
  rw [decides.id, decides.requestId] at within
  rw [decides.id] at ending
  refine ⟨fun id held => within.inForce (fun same => undecided (same ▸ held)) held, ?_, ?_⟩
  · have undisturbed := within.undisturbed found rfl
    rw [found]
    exact undisturbed
  · rcases ending with ⟨same, stage, located, nobody⟩ | ⟨same, located⟩
    · obtain rfl : later = watch := same
      refine ⟨error.eahMessage.isNone, seen, fun caught => ⟨caught, fun held => ?_⟩,
        fun uncaught => .inl (Option.isNone_iff_eq_none.mp uncaught)⟩
      exact absurd held (not_inForce_of_pending located nobody)
    · obtain rfl : later = { watch with unhandled := true } := same
      have held : InForce decision identity row.id world := ⟨decided, located, decides.status, decides.decidedBy⟩
      refine ⟨true, (Bool.or_true unhandled).symm, fun none => ?_, fun _ => .inr ⟨held, undecided⟩⟩
      cases none

theorem ensures_decisionTransaction (found : world.stages.find? row.id = some row)
    (undecided : ¬InForce decision identity row.id world) (operation : String) (version : Nat) (note : Option String) :
    (transaction operation (decideStageBody identity row.id row decision version note)).Ensures watching
      (fun result final => Answers decision identity row.id world unhandled result final ∧
        ∀ outcome, result = .ok outcome → final.2.recorded = true) (world, Watch.fetched row unhandled) := by
  apply (Transaction.ensures_enact _ _ _).mpr
  refine (ensures_decideStageBody found version note).mono ?_
  intro result registered final written
  cases result with
  | ok outcome =>
      obtain ⟨recorded, seen, held, kept⟩ := written
      refine ⟨⟨fun id before => ?_, seen, held⟩, fun _ _ => recorded⟩
      have other : id ≠ row.id := fun same => undecided (same ▸ before)
      obtain ⟨stage, located, status, decidedBy⟩ := before
      obtain ⟨member, keyed⟩ := (find?_eq_some_iff ..).mp located
      have present := kept stage member fun same => other (Eq.trans (Eq.symm keyed) same)
      exact ⟨stage, (find?_eq_some_iff ..).mpr ⟨present, keyed⟩, status, decidedBy⟩
  | error error =>
      obtain ⟨final, seen⟩ := final
      obtain ⟨flagged, rest⟩ := written
      refine ⟨trivial, fun reply after step => ?_⟩
      obtain ⟨after, later⟩ := after
      obtain rfl : later = seen := Watch.unseen step.2 trivial
      rcases rest with ⟨rfl, ticks, same⟩ | ⟨decided, decides, undoable, underway⟩
      · obtain rfl : final = world.atTick ticks := same
        have logged : after = (world.atTick ticks).tick := by
          rcases step.1 with answered | ⟨_, none, -⟩
          · exact (Prod.mk.inj answered).2.symm
          · cases none
        subst logged
        exact ⟨answers_of_unwritten flagged, fun _ same => by cases same⟩
      · refine (ensures_undoing operation error undoable later (underway.quiet (fun _ => rfl) step.1)).mono ?_
        intro result final reached
        obtain ⟨rfl, undone⟩ := reached
        exact ⟨answers_of_undone found decides undecided flagged undone, fun _ same => by cases same⟩

theorem ensures_authorize_watched (identity : AuthenticatedIdentity) (permitted : Bool) (resource : String)
    (world : World) (watch : Watch) :
    (authorize identity permitted resource).Ensures watching
      (fun result final => (∃ ticks, final.1 = world.atTick ticks) ∧ final.2 = watch ∧
        ∃ granted, result = .ok granted) (world, watch) := by
  unfold authorize isExpired
  cases identity.expiresAt with
  | none => cases permitted <;> exact ⟨⟨world.ticks, rfl⟩, rfl, _, rfl⟩
  | some expiresAt =>
      simp only [ensures_bind, ensures_utcNow]
      refine ⟨trivial, fun now after step => ?_⟩
      obtain ⟨after, later⟩ := after
      obtain rfl : later = watch := Watch.unseen step.2 trivial
      have ticked : after = world.tick := by
        rcases step.1 with answered | ⟨_, none, -⟩
        · exact (Prod.mk.inj answered).2.symm
        · cases none
      simp only [Then, pure_eq, ensures_done]
      split
      · exact ⟨⟨_, ticked⟩, rfl, _, rfl⟩
      · split <;> exact ⟨⟨_, ticked⟩, rfl, _, rfl⟩

theorem Answers.sinceTick {α : Type} {stageId : UUID} {ticks : Nat} {result : Except AppError α} {final : World × Watch}
    (answers : Answers decision identity stageId (world.atTick ticks) unhandled result final) :
    Answers decision identity stageId world unhandled result final := by
  obtain ⟨kept, ending⟩ := answers
  refine ⟨kept, ?_⟩
  cases result with
  | ok value => exact ending
  | error error =>
      obtain ⟨⟨requests, stages, rest⟩, accounted⟩ := ending
      exact ⟨⟨requests, stages, rest⟩, accounted⟩

/-- The notifications after a decision leave the stages alone, and whatever they raise is caught. -/
theorem ensures_conclusion_watched (viewer : Option UUID) (stageId : UUID) (stage : WorkflowStageRecord)
    (advancement : DecisionAdvancement) (outcome : ApprovalOutcome) (world : World) {watch : Watch}
    (recorded : watch.recorded = true) :
    Program.Ensures watching (do
        tryCatch (dispatchPostDecisionNotifications viewer stage advancement) fun _ => log (.notificationFailed stageId)
        return outcome)
      (fun result final => result = .ok outcome ∧ final.1.stages = world.stages ∧ final.2 = watch) (world, watch) := by
  have kept : ∀ (state : World × Watch) (request : Call),
      state.1.stages = world.stages ∧ state.2 = watch → NotifyingCall request →
      watching.permits state request ∧ ∀ reply after, watching.answers state request reply after →
        after.1.stages = world.stages ∧ after.2 = watch := by
    intro state request same notifying
    refine ⟨trivial, fun reply after step => ?_⟩
    have seen := Watch.after_notifying step.2 notifying (same.2.symm ▸ recorded)
    exact ⟨(stages_of_mayFail notifying.auxiliary.reading step.1).trans same.1, seen.trans same.2⟩
  have notified : (dispatchPostDecisionNotifications viewer stage advancement).Ensures watching
      (fun _ final => final.1.stages = world.stages ∧ final.2 = watch) (world, watch) :=
    (notifying_dispatchPostDecisionNotifications viewer stage advancement).ensures
      (fun state : World × Watch => state.1.stages = world.stages ∧ state.2 = watch) kept ⟨rfl, rfl⟩
  refine (ensures_bind ..).mpr ((ensures_tryCatch ..).mpr (notified.mono ?_))
  intro result final same
  cases result with
  | ok value => exact ⟨rfl, same⟩
  | error error =>
      refine (ensures_log ..).mpr ⟨trivial, fun reply after step => ?_⟩
      exact ⟨rfl, (kept final (.log (.notificationFailed stageId)) same trivial).2 reply after step⟩

theorem Answers.concluded {stageId : UUID} {outcome : ApprovalOutcome} {value : WorkflowStageRecord × DecisionAdvancement}
    {result : Except AppError ApprovalOutcome} {final later : World × Watch}
    (answers : Answers decision identity stageId world unhandled (.ok value) final)
    (kept : result = .ok outcome ∧ later.1.stages = final.1.stages ∧ later.2 = final.2) :
    Answers decision identity stageId world unhandled result later := by
  obtain ⟨rfl, stages, seen⟩ := kept
  obtain ⟨standing, flagged, held⟩ := answers
  have same : ∀ id, InForce decision identity id later.1 ↔ InForce decision identity id final.1 := by
    intro id
    unfold InForce
    rw [stages]
  exact ⟨fun id before => (same id).mpr (standing id before), seen ▸ flagged, (same stageId).mpr held⟩

theorem ensures_decideStage_watched (decision : Decision) (identity : AuthenticatedIdentity) (stageId : UUID)
    (expected : Option Nat) (note : Option String) (world : World) (watch : Watch) :
    (decideStage identity stageId decision expected note).Ensures watching
      (Answers decision identity stageId world watch.unhandled) (world, watch) := by
  unfold decideStage getByIdForCompany
  rw [ensures_bind, ensures_bind, ensures_orNotFound]
  refine ⟨trivial, fun (reply : Except DatabaseError WorkflowStageRecord) after step => ?_⟩
  obtain ⟨after, later⟩ := after
  obtain ⟨taken, seen⟩ := step
  obtain ⟨rfl, fetched⟩ := World.read_of_mayFail rfl taken
  cases reply with
  | error error =>
      have flagged : later.unhandled = (watch.unhandled || (notFoundOrDatabase error).eahMessage.isNone) := by
        rw [show later = _ from seen, Watch.unhandled_after, isNone_eahMessage_notFoundOrDatabase]
        rfl
      exact @answers_of_unwritten world watch.unhandled decision identity ApprovalOutcome stageId _ (world.ticks + 1) later
        flagged
  | ok row =>
  have found : world.stages.find? stageId = some row := World.getById_ok_iff.mp (fetched row rfl)
  have keyed : row.id = stageId := ((find?_eq_some_iff ..).mp found).2
  obtain rfl : later = Watch.fetched row watch.unhandled := by
    rw [show later = _ from seen]
    simp [Watch.after, Watch.meets, Watch.fetched, Except.toOption]
  clear taken seen fetched
  subst keyed
  have refused : ∀ (error : AppError) (ticks : Nat), error.eahMessage.isNone = false →
      Answers decision identity row.id world watch.unhandled (.error error : Except AppError ApprovalOutcome)
        (world.atTick ticks, Watch.fetched row watch.unhandled) := by
    intro error ticks caught
    apply answers_of_unwritten
    rw [caught]
    exact (Bool.or_false _).symm
  dsimp only [Then, Except.mapError]
  split
  · exact refused _ _ rfl
  rw [pure_eq, ensures_done]
  dsimp only [Then]
  split
  · rename_i replayed
    refine (ensures_bind ..).mpr ((ensures_orNotFound ..).mpr ⟨trivial, fun reply after step => ?_⟩)
    obtain ⟨after, later⟩ := after
    obtain ⟨taken, seen⟩ := step
    obtain ⟨rfl, -⟩ := World.read_of_mayFail rfl taken
    cases reply with
    | error error =>
        have flagged : later.unhandled = (watch.unhandled || (notFoundOrDatabase error).eahMessage.isNone) := by
          rw [show later = _ from seen, Watch.unhandled_after, isNone_eahMessage_notFoundOrDatabase]
          rfl
        exact @answers_of_unwritten world watch.unhandled decision identity ApprovalOutcome row.id _ (world.ticks + 2)
          later flagged
    | ok request =>
        refine ⟨fun id held => held, ?_, row, found, replayed.1, replayed.2⟩
        rw [show later = _ from seen]
        exact Bool.or_false _
  · rename_i undecided
    have notInForce : ¬InForce decision identity row.id world := by
      intro held
      obtain ⟨other, located, status, decidedBy⟩ := held
      obtain rfl := Option.some.inj (located.symm.trans found)
      exact undecided ⟨status, decidedBy⟩
    refine (ensures_bind ..).mpr ((ensures_authorize_watched identity _ _ world.tick _).mono ?_)
    intro result final kept
    obtain ⟨final, later⟩ := final
    obtain ⟨⟨ticks, same⟩, watched, granted, rfl⟩ := kept
    obtain rfl : final = world.atTick ticks := same
    obtain rfl : later = Watch.fetched row watch.unhandled := watched
    rcases granted with error | permitted
    · exact refused _ ticks rfl
    refine (ensures_bind ..).mpr ((ensures_engineOrTranslate ..).mpr ?_)
    cases validateStageTransition row.status decision.stageStatus with
    | error error => exact refused _ ticks (isNone_eahMessage_translateWorkflowError error)
    | ok transition =>
    have located : (world.atTick ticks).stages.find? row.id = some row := found
    refine (ensures_bind ..).mpr ((ensures_decisionTransaction located notInForce _ _ note).mono ?_)
    intro result final ended
    obtain ⟨answers, recorded⟩ := ended
    have answers : Answers decision identity row.id world watch.unhandled result final := answers.sinceTick
    cases result with
    | error error => exact answers
    | ok outcome =>
        obtain ⟨decided, advancement⟩ := outcome
        exact (ensures_conclusion_watched _ row.id row advancement _ final.1 (recorded _ rfl)).mono
          fun result later kept => answers.concluded kept

theorem ensures_decideItem (decision : Decision) (identity : AuthenticatedIdentity) (item : BulkDecisionItem)
    (state : World × Watch) :
    (decideItem decision identity item).Ensures watching
      (Answers decision identity item.stageId state.1 state.2.unhandled) state := by
  cases decision with
  | approve => exact ensures_decideStage_watched .approve identity item.stageId _ _ state.1 state.2
  | reject =>
      unfold decideItem rejectStage
      dsimp only
      split
      · exact @answers_of_unwritten state.1 _ .reject identity ApprovalOutcome item.stageId _ state.1.ticks state.2
          (Bool.or_false _).symm
      · exact ensures_decideStage_watched .reject identity item.stageId _ _ state.1 state.2

end Deciding

section Batches

variable {decision : Decision} {identity : AuthenticatedIdentity} {items : List BulkDecisionItem}
  {start final : World × Watch} {handled : List Handled} {result : Except AppError (List BulkDecisionResultItem)}

theorem bulk_eq (decision : Decision) (identity : AuthenticatedIdentity) (items : List BulkDecisionItem) :
    bulk decision identity items = bulkDecide (decideItem decision identity) items := by
  cases decision <;> rfl

theorem ensures_batch (decision : Decision) (identity : AuthenticatedIdentity) (items : List BulkDecisionItem)
    (start : World × Watch) :
    (bulkDecide (decideItem decision identity) items).Ensures watching
      (fun result final => ∃ handled, Batch decision identity items start handled result final) start := by
  induction items generalizing start with
  | nil => exact ⟨[], .finished⟩
  | cons item rest recurse =>
      refine (ensures_bind ..).mpr ((ensures_caught ..).mpr
        ((ensures_executes (fun _ _ => trivial) (decideItem decision identity item)).mono ?_))
      intro outcome middle executed
      refine (ensures_bind ..).mpr ((ensures_ofExcept ..).mpr ?_)
      cases answer : bulkItemResult item outcome with
      | error error => exact ⟨_, .aborted executed answer⟩
      | ok value =>
          refine (ensures_bind ..).mpr ((recurse middle).mono ?_)
          intro results final ran
          obtain ⟨handled, onward⟩ := ran
          have whole := Batch.answered executed answer onward
          cases results with
          | error error => exact ⟨_, whole⟩
          | ok results => exact ⟨_, whole⟩

/-- A decision in force stays so, and what was met unhandled is not forgotten, to the end of a batch. -/
theorem Batch.onward (batch : Batch decision identity items start handled result final) :
    (∀ id, InForce decision identity id start.1 → InForce decision identity id final.1) ∧
      (start.2.unhandled = true → final.2.unhandled = true) := by
  have step : ∀ {item : BulkDecisionItem} {before middle : World × Watch} {outcome : Except AppError ApprovalOutcome},
      (decideItem decision identity item).Executes watching before outcome middle →
      (∀ id, InForce decision identity id before.1 → InForce decision identity id middle.1) ∧
        (before.2.unhandled = true → middle.2.unhandled = true) := by
    intro item before middle outcome executed
    obtain ⟨standing, ending⟩ := (ensures_decideItem decision identity item before).sound executed
    refine ⟨standing, fun flagged => ?_⟩
    cases outcome with
    | ok value => exact ending.1.trans flagged
    | error error =>
        obtain ⟨-, unaccounted, same, -⟩ := ending
        rw [same, flagged]
        rfl
  induction batch with
  | finished => exact ⟨fun _ held => held, fun flagged => flagged⟩
  | answered executed caught rest recurse =>
      obtain ⟨first, flag⟩ := step executed
      exact ⟨fun id held => recurse.1 id (first id held), fun flagged => recurse.2 (flag flagged)⟩
  | aborted executed escaped => exact step executed

theorem bulkItemResult_ok {item : BulkDecisionItem} {outcome : Except AppError ApprovalOutcome}
    {result : BulkDecisionResultItem} (caught : bulkItemResult item outcome = .ok result) :
    result.stageId = item.stageId ∧ ((∃ value, outcome = .ok value ∧ result.success = true) ∨
      ∃ error, outcome = .error error ∧ error.eahMessage ≠ none ∧ result.success = false) := by
  unfold bulkItemResult at caught
  cases outcome with
  | ok value =>
      obtain rfl := Except.ok.inj caught
      exact ⟨rfl, .inl ⟨value, rfl, rfl⟩⟩
  | error error =>
      dsimp only at caught
      cases message : error.eahMessage with
      | none =>
          rw [message] at caught
          cases caught
      | some text =>
          rw [message] at caught
          obtain rfl := Except.ok.inj caught
          exact ⟨rfl, .inr ⟨error, rfl, by rw [message]; simp, rfl⟩⟩

/-- An item that was answered is accounted for exactly if the watch met nothing unhandled in it. -/
theorem accounted_iff {item : BulkDecisionItem} {before middle : World × Watch}
    {outcome : Except AppError ApprovalOutcome} {answer : BulkDecisionResultItem} {last : World}
    (executed : (decideItem decision identity item).Executes watching before outcome middle)
    (caught : bulkItemResult item outcome = .ok answer) (clean : before.2.unhandled = false)
    (lasting : ∀ id, InForce decision identity id middle.1 → InForce decision identity id last) :
    Handled.Accounted decision identity last { item, before, after := middle, outcome } answer ↔
      middle.2.unhandled = false := by
  obtain ⟨-, ending⟩ := (ensures_decideItem decision identity item before).sound executed
  obtain ⟨named, ⟨value, rfl, success⟩ | ⟨error, rfl, message, failure⟩⟩ := bulkItemResult_ok caught
  · obtain ⟨flagged, held⟩ := ending
    refine ⟨fun _ => flagged.trans clean, fun _ => ⟨named, fun _ => ⟨held, lasting _ held⟩, ?_, ?_⟩⟩ <;>
      intro failed <;> rw [success] at failed <;> cases failed
  · obtain ⟨undisturbed, unaccounted, flagged, handled, missed⟩ := ending
    rw [clean, Bool.false_or] at flagged
    rw [flagged]
    cases unaccounted with
    | false =>
        refine ⟨fun _ => rfl, fun _ => ⟨named, fun succeeded => ?_, fun _ => (handled rfl).2, fun _ => undisturbed⟩⟩
        rw [failure] at succeeded
        cases succeeded
    | true =>
        obtain ⟨held, undecided⟩ := (missed rfl).resolve_left message
        refine ⟨fun accounted => absurd (accounted.failure failure held) undecided, fun none => ?_⟩
        cases none

theorem Batch.accounted_iff (batch : Batch decision identity items start handled result final)
    (clean : start.2.unhandled = false) :
    BatchAccounted decision identity items handled result final.1 ↔ final.2.unhandled = false := by
  induction batch with
  | finished => exact ⟨fun _ => clean, fun _ => ⟨[], rfl, rfl, .nil⟩⟩
  | @answered item rest before middle after outcome answer handled results executed caught onward recurse =>
      have first := System.accounted_iff executed caught clean onward.onward.1
      have carried := onward.onward.2
      constructor
      · intro accounted
        obtain ⟨listed, answered, named, each⟩ := accounted
        cases results with
        | error error => cases answered
        | ok results =>
            obtain rfl := Except.ok.inj answered
            obtain ⟨head, others⟩ := List.forall₂_cons.mp each
            exact (recurse (first.mp head)).mp ⟨results, rfl, (List.cons.inj named).2, others⟩
      · intro unmet
        have middleClean : middle.2.unhandled = false := by
          cases flag : middle.2.unhandled with
          | false => rfl
          | true => exact absurd (carried flag) (by rw [unmet]; exact Bool.false_ne_true)
        obtain ⟨listed, rfl, named, each⟩ := (recurse middleClean).mpr unmet
        exact ⟨answer :: listed, rfl, congrArg (item :: ·) named, .cons (first.mpr middleClean) each⟩
  | @aborted item rest before middle outcome error executed escaped =>
      refine ⟨fun accounted => ?_, fun unmet => ?_⟩
      · obtain ⟨listed, answered, -⟩ := accounted
        cases answered
      · obtain ⟨-, ending⟩ := (ensures_decideItem decision identity item before).sound executed
        cases outcome with
        | ok value => cases escaped
        | error raised =>
            obtain ⟨-, unaccounted, flagged, handled, -⟩ := ending
            rw [unmet, clean, Bool.false_or] at flagged
            cases message : raised.eahMessage with
            | none =>
                have caught := (handled flagged.symm).1
                rw [message] at caught
                cases caught
            | some text =>
                unfold bulkItemResult at escaped
                dsimp only at escaped
                rw [message] at escaped
                cases escaped

end Batches

/-- No item fetched a stage yet. -/
def Watch.initial : Watch := { stage := none, misplaced := false, recorded := false, unhandled := false }

/-- The failure of the lookup of stage 2. -/
def lookupFailure (request : Call) : Option request.Reply :=
  match request with
  | .query (.getStage 2) =>
      some (.error (.repository "Database operation 'get_by_id' failed on 'workflow_stages'."))
  | _ => none

/-- An environment in which that lookup fails. -/
def failingLookup : Handler hubSignature World := fun request world =>
  match lookupFailure request with
  | some reply => (reply, world.tick)
  | none => environment request world

/-- The environment under the watch. -/
def watchedLookup : Handler hubSignature (World × Watch) := fun request state =>
  ((failingLookup request state.1).1,
    ((failingLookup request state.1).2, state.2.after request (failingLookup request state.1).1))

theorem answers_watchedLookup (state : World × Watch) (request : Call) :
    watching.answers state request (watchedLookup request state).1 (watchedLookup request state).2 := by
  refine ⟨?_, rfl⟩
  change mayFail () state.1 request (failingLookup request state.1).1 (failingLookup request state.1).2
  unfold failingLookup
  cases struck : lookupFailure request with
  | none => exact .inl rfl
  | some reply =>
      unfold lookupFailure at struck
      split at struck
      · exact .inr ⟨_, struck, rfl⟩
      · cases struck

/-- The approvals of stages 1 and 2. -/
def sampleBatch : List BulkDecisionItem :=
  [{ stageId := 1, expectedVersion := 1, decisionNote := none },
    { stageId := 2, expectedVersion := 1, decisionNote := none }]

end AutomationHub.System
