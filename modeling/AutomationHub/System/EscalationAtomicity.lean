import AutomationHub.System.DecisionAtomicity

/-!
Escalations that are carried out in full or not at all, whichever of their calls the database fails, as long as it
carries out the compensation.
-/

set_option autoImplicit false

namespace AutomationHub.System

open Foundation Model Database Services Auth Workflow Program Table Function

section Assignees

variable {world after : World}

/-- Every assignee has a profile. -/
def KnownAssignees (world : World) : Prop :=
  ∀ stage ∈ world.stages.rows, stage.assignedTo.all world.hasProfile = true

theorem knownAssignees_executed {statement : Query} {result : statement.Result} (known : KnownAssignees world)
    (executed : world.execute statement = (.ok result, after)) : KnownAssignees after := by
  have change := World.execute_change executed
  intro stage member
  cases change with
  | stage update found current =>
      rcases (mem_modify ..).mp member with ⟨kept, -⟩ | ⟨old, present, -, rfl⟩
      · exact known stage kept
      · cases update with
        | escalate stageId version assignedTo assignedRole =>
            obtain ⟨row, -, -, accepted, written, -⟩ := World.updateStage_ok_iff.mp executed
            have checked := (World.firstViolated_eq_none_iff _).mp accepted _ (List.mem_singleton.mpr rfl)
            rw [written] at checked
            exact checked
        | approve => exact known old present
        | reject => exact known old present
        | revert => exact known old present
  | newStage =>
      rcases (mem_insert ..).mp member with present | rfl
      · exact known stage present
      · obtain ⟨rfl, -, -, -, -, assignee⟩ := World.createStage_ok_iff.mp executed
        exact assignee
  | removedStage => exact known stage ((mem_erase ..).mp member).1
  | elsewhere requests stages profiles =>
      have kept := known stage (stages ▸ member)
      unfold World.hasProfile at kept ⊢
      rwa [profiles]
  | request => exact known stage member
  | newRequest => exact known stage member

theorem KnownAssignees.mayFail {ι : Type} {thread : ι} {request : Call} {reply : request.Reply}
    (known : KnownAssignees world) (step : mayFail thread world request reply after) : KnownAssignees after := by
  cases request with
  | query statement =>
      cases reply with
      | error error =>
          rw [World.unchanged_of_refused step]
          exact known
      | ok result =>
          obtain ⟨changed, executed, rfl⟩ := World.executed_of_mayFail step
          have kept : KnownAssignees changed := knownAssignees_executed known executed
          exact kept
  | _ =>
      rcases step with answered | ⟨error, -, rfl⟩
      · obtain ⟨-, rfl⟩ := Prod.mk.inj answered
        exact known
      · exact known

theorem Reachable.knownAssignees (reachable : Reachable world) : KnownAssignees world := by
  cases reachable with
  | intro initial run =>
      apply run.shared_invariant KnownAssignees fun _ _ _ _ _ known step => known.mayFail step
      intro stage member
      exact absurd (initial.stages ▸ member) List.not_mem_nil

end Assignees

section Escalating

variable {start world : World} {stage : WorkflowStageRecord}

/-- The stage as its escalation leaves it. -/
def escalated (stage : WorkflowStageRecord) : WorkflowStageRecord :=
  { stage with assignedTo := none, assignedRole := some escalationFallbackRole, version := stage.version + 1 }

/-- The stage has gone to the fallback role, one entry of the audit log says from whom, and nothing else of the requests,
stages and audit entries has changed. -/
structure Escalated (stage : WorkflowStageRecord) (start final : World) : Prop where
  reassigned : final.stages.find? stage.id = some (escalated stage)
  audited : ∃ entry, final.audit.rows = start.audit.rows ++ [entry] ∧ entry.action = .stageEscalated ∧
    entry.actorId = none ∧ entry.requestId = some stage.requestId ∧
    entry.metadata = some (.stageEscalated stage.id stage.assignedTo stage.assignedRole)
  stages : ∀ id, id ≠ stage.id → final.stages.find? id = start.stages.find? id
  requests : final.requests = start.requests

/-- What an escalation leaves: all of it, or nothing. -/
def EscalatedWhole (start : World) (stageId : UUID) (result : Except AppError WorkflowStageRecord) (final : World) : Prop :=
  match result with
  | .ok reassigned => ∃ stage, start.stages.find? stageId = some stage ∧ reassigned = escalated stage ∧
      Escalated stage start final
  | .error _ => contentsOf final = contentsOf start

theorem reversible_escalation (known : KnownAssignees start) (found : start.stages.find? stage.id = some stage)
    (holding : Holding start start.requests.find? (update start.stages.find? stage.id (some (escalated stage))) world) :
    Reversible start [compensation
      (.escalateStage stage.id (escalated stage).version stage.assignedTo stage.assignedRole)] world := by
  intro ticks operation error α
  have held := holding.atTick ticks
  have located : (world.atTick ticks).stages.find? stage.id = some (escalated stage) :=
    (held.stages stage.id).trans (update_self ..)
  let restoring := stamped (World.assignmentEdit stage.assignedTo stage.assignedRole) (escalated stage).version
  have profiles : (world.atTick ticks).profiles = start.profiles :=
    (congrArg World.profiles held.others :)
  have assignee : (restoring.apply (escalated stage)).assignedTo.all (world.atTick ticks).hasProfile = true := by
    have valid := known stage ((find?_eq_some_iff ..).mp found).1
    unfold World.hasProfile at valid ⊢
    rwa [profiles]
  have executed : (world.atTick ticks).execute
      (.escalateStage stage.id (escalated stage).version stage.assignedTo stage.assignedRole) =
      (.ok (restoring.apply (escalated stage)),
        { world.atTick ticks with stages := (world.atTick ticks).stages.modify stage.id restoring }) := by
    refine World.updateStage_ok_iff.mpr ⟨_, located, rfl, ?_, rfl, rfl⟩
    apply (World.firstViolated_eq_none_iff _).mpr
    intro constraint listed
    rw [List.mem_singleton.mp listed]
    exact assignee
  rw [Transaction.run_rollback_cons (run_compensation executed)]
  have restored := (held.setStage (update_self ..) restoring).tick
  refine restored.contents (fun _ => rfl) ?_
  intro id
  rw [update_idem, update_apply]
  split
  · rename_i here
    rw [here, found]
    rfl
  · rfl

/-- What the body of an escalation leaves: the escalation, or something to be taken back. -/
def Escalating (start : World) (stage : WorkflowStageRecord) :
    Except AppError WorkflowStageRecord → List (Service Unit) → World → Prop
  | .ok reassigned, _, world => reassigned = escalated stage ∧ Escalated stage start world
  | .error _, registered, world => Reversible start registered world

theorem escalating_escalateStageBody {ticks : Nat} (known : KnownAssignees start)
    (found : start.stages.find? stage.id = some stage) :
    Transaction.Ensures fallible (Escalating start stage) [] (start.atTick ticks) (escalateStageBody stage.id stage) := by
  refine (Transaction.ensures_lift_bind ..).mpr ((ensures_orTranslate ..).mpr ⟨trivial, fun reply after step => ?_⟩)
  cases reply with
  | error error =>
      have same : after = World.tick _ := @World.unchanged_of_refused _ () _ _ _ _ step
      subst same
      exact reversible_atTick start _
  | ok reassigned =>
  obtain ⟨changed, executed, rfl⟩ := @World.executed_of_mayFail _ () _ _ _ _ step
  obtain ⟨row, located, -, -, rfl, rfl⟩ := World.updateStage_ok_iff.mp executed
  obtain rfl : row = stage := Option.some.inj (located.symm.trans found)
  have holding := (((Holding.refl start).atTick ticks).setStage found
    (stamped (World.assignmentEdit none (some escalationFallbackRole)) row.version)).tick
  refine (Transaction.ensures_bind ..).mpr ((Transaction.ensures_register ..).mpr ((Transaction.ensures_done ..).mpr ?_))
  have reversible := reversible_escalation known found holding
  refine (Transaction.ensures_lift_bind ..).mpr ((ensures_orTranslate ..).mpr ⟨trivial, fun reply last step => ?_⟩)
  cases reply with
  | error error =>
      have same : last = World.tick _ := @World.unchanged_of_refused _ () _ _ _ _ step
      subst same
      exact reversible.atTick _
  | ok entry =>
      obtain ⟨entered, actor, subject, metadata, appended, stages, requests⟩ :=
        @World.recorded_of_mayFail _ () _ _ _ _ _ _ _ _ step
      refine ⟨rfl, ?_⟩
      constructor
      case reassigned =>
        rw [stages]
        exact (holding.stages row.id).trans (update_self ..)
      case audited => exact ⟨entry, appended, entered, actor, subject, metadata⟩
      case stages =>
        intro id other
        rw [stages]
        exact (holding.stages id).trans (update_of_ne other ..)
      case requests => exact requests

theorem silent_escalateStageBody (stage : WorkflowStageRecord) : (escalateStageBody stage.id stage).Only Silent := by
  refine Transaction.Only.bind (Transaction.only_ofProgram (only_orTranslate _ rfl)) fun reassigned => ?_
  refine Transaction.Only.bind (Transaction.only_registerCompensation (only_compensation _ rfl)) fun _ => ?_
  exact Transaction.Only.bind (Transaction.only_ofProgram (only_orTranslate _ rfl)) fun _ => trivial

theorem ensures_escalateStage_atomic (known : KnownAssignees start) (stageId : UUID) :
    (escalateStage stageId).Ensures faltering (fun result final => EscalatedWhole start stageId result final.1)
      (start, false) := by
  unfold escalateStage
  rw [ensures_bind, ensures_orNotFound]
  refine ⟨trivial, fun (reply : Except DatabaseError WorkflowStageRecord) after step => ?_⟩
  obtain ⟨after, rolling⟩ := after
  obtain ⟨unswitched, step⟩ := step
  obtain rfl : rolling = false := unswitched
  obtain ⟨rfl, fetched⟩ := World.read_of_mayFail rfl step
  cases reply with
  | error error => exact (rfl : contentsOf start.tick = contentsOf start)
  | ok stage =>
  have found : start.stages.find? stageId = some stage := World.getById_ok_iff.mp (fetched stage rfl)
  have keyed : stage.id = stageId := ((find?_eq_some_iff ..).mp found).2
  subst keyed
  have transacted : (transaction "escalate_stage" (escalateStageBody stage.id stage)).Ensures faltering
      (fun result final => match result with
        | .ok reassigned => reassigned = escalated stage ∧ Escalated stage start final.1
        | .error _ => contentsOf final.1 = contentsOf start) (start.tick, false) := by
    refine Transaction.ensures_recovering (silent_escalateStageBody stage) (fun _ => rfl) ?_
    refine (escalating_escalateStageBody known found).mono fun result registered world escalating => ?_
    cases result with
    | ok reassigned => exact escalating
    | error error =>
        refine ⟨trivial, fun reply after step => (ensures_ofHandler ..).mpr ?_⟩
        have same : after = world.tick := by
          rcases step with answered | ⟨error, none, -⟩
          · exact (Prod.mk.inj answered).2.symm
          · cases none
        subst same
        rw [run_rollback]
        exact escalating (world.ticks + 1) "escalate_stage" error _
  refine (ensures_bind ..).mpr (transacted.mono ?_)
  intro result final whole
  cases result with
  | error error => exact whole
  | ok reassigned =>
      obtain ⟨rfl, escalation⟩ := whole
      exact ⟨stage, found, rfl, escalation⟩

end Escalating

end AutomationHub.System
