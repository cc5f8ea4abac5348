import AutomationHub.System.PendingSweep
import AutomationHub.System.Reminders
import AutomationHub.System.ThresholdRange

/-!
The ticks of the Reminder Dispatch job against the window before a stage's threshold in
which a reminder is due.
-/

set_option autoImplicit false

namespace AutomationHub.System

open Foundation Model Database Services Workflow Scheduler Jobs Program Table

section Ticks

/-- `interval_seconds`, by default. -/
def reminderInterval : Nat := 86400 * 1000000

/-- The instants of the ticks, from the first one on. -/
def tickAt (start : Datetime) (tick : Nat) : Datetime := start + tick * reminderInterval

/-- The last tick before an instant, where there is one. -/
def lastTickBefore (start instant : Datetime) : Datetime := instant - 1 - (instant - 1 - start) % reminderInterval

theorem lastTickBefore_eq {start instant : Nat} (first : start < instant) :
    lastTickBefore start instant = tickAt start ((instant - 1 - start) / reminderInterval) := by
  have division := Nat.div_add_mod (instant - 1 - start) reminderInterval
  rw [Nat.mul_comm] at division
  have within : start ≤ instant - 1 := Nat.le_sub_one_of_lt first
  calc lastTickBefore start instant = instant - 1 - (instant - 1 - start) % reminderInterval := rfl
    _ = start + (instant - 1 - start) / reminderInterval * reminderInterval := by omega

theorem tickAt_le_lastTickBefore {start instant tick : Nat}
    (before : (tickAt start tick : Nat) < instant) :
    start < instant ∧ tickAt start tick ≤ lastTickBefore start instant := by
  have first : start < instant := Nat.lt_of_le_of_lt (Nat.le_add_right _ _) before
  have room : tick * reminderInterval ≤ instant - 1 - start := by
    have within : start + tick * reminderInterval < instant := before
    omega
  have fewer : tick ≤ (instant - 1 - start) / reminderInterval := (Nat.le_div_iff_mul_le (by decide)).mpr room
  rw [lastTickBefore_eq first]
  exact ⟨first, Nat.add_le_add_left (Nat.mul_le_mul_right _ fewer) start⟩

theorem lastTickBefore_lt {start instant : Nat} (first : start < instant) : lastTickBefore start instant < instant := by
  have below : lastTickBefore start instant ≤ instant - 1 := Nat.sub_le _ _
  exact Nat.lt_of_le_of_lt below (Nat.sub_one_lt_of_lt first)

/-- What stays so once it is so is so at some tick before an instant exactly if it is so at the last one. -/
theorem exists_tick_iff {start instant : Datetime} {good : Datetime → Prop}
    (lasting : ∀ earlier later : Nat, earlier ≤ later → good earlier → good later) :
    (∃ tick, tickAt start tick < instant ∧ good (tickAt start tick)) ↔
      start < instant ∧ good (lastTickBefore start instant) := by
  constructor
  · intro found
    obtain ⟨tick, before, holds⟩ := found
    obtain ⟨first, reaches⟩ := tickAt_le_lastTickBefore before
    exact ⟨first, lasting _ _ reaches holds⟩
  · intro last
    obtain ⟨first, holds⟩ := last
    have before := lastTickBefore_lt first
    rw [lastTickBefore_eq first] at holds before
    exact ⟨_, before, holds⟩

end Ticks

section Evaluation

variable {world : World} {cache : DefinitionCache} {stage : WorkflowStageRecord} {request : RequestRecord}
  {definition : WorkflowDefinition} {entry : StageDefinition} {recipientId : UUID} {now : Datetime}

/-- What the evaluation of a stage finds. -/
structure Finds (world : World) (cache : DefinitionCache) (stage : WorkflowStageRecord) (entry : StageDefinition)
    (now : Datetime) : Prop where
  clock : ∀ tick, world.clock tick = now
  cached : CachesStored world cache
  resolved : ∃ request definition, world.requests.find? stage.requestId = some request ∧
    world.definitions.find? request.workflowDefinitionId = some definition ∧
    definition.definition.stages.find? (fun entry => entry.order == stage.stageOrder) = some entry

/-- The evaluation of the stage queues a reminder of its request for the recipient. -/
def QueuesReminder (world : World) (cache : DefinitionCache) (stage : WorkflowStageRecord) (recipientId : UUID) : Prop :=
  ∃ job ∈ ((evaluateAndRemindIfDue defaultReminderSettings .queued cache stage).run environment world).2.jobs.rows,
    job ∉ world.jobs.rows ∧ ∃ message, job.taskType = (TaskPayload.sendReminder recipientId stage.requestId message).taskType ∧
      job.payload = (TaskPayload.sendReminder recipientId stage.requestId message).fields

/-- The recipient has no reminder of the request. -/
def NoReminder (world : World) (recipientId requestId : UUID) : Prop :=
  ∀ notification ∈ world.notifications.rows, notification.recipientId = recipientId →
    notification.notificationType = .reminder → notification.requestId ≠ some requestId

/-- The stage is not yet eligible for escalation, and within the lead time of its threshold. -/
def Due (stage : WorkflowStageRecord) (hours : Hours) (now : Datetime) : Prop :=
  Workflow.isStageEscalationEligible stage.createdAt hours now = .ok false ∧
    isDueForReminder defaultReminderSettings hours stage.createdAt now = true

instance (stage : WorkflowStageRecord) (hours : Hours) (now : Datetime) : Decidable (Due stage hours now) :=
  inferInstanceAs (Decidable (_ ∧ _))

/-- The duplicate check finds a reminder. -/
def showsReminder (page : List NotificationRecord) (requestId : UUID) (now : Datetime) : Bool :=
  page.any fun notification =>
    notification.notificationType == .reminder && notification.requestId == some requestId &&
      decide (hoursBetween notification.createdAt now ≤ defaultReminderSettings.duplicateCooldownHours)

theorem run_recentlyReminded (world : World) (stage : WorkflowStageRecord) (recipientId : UUID) :
    (recentlyReminded defaultReminderSettings stage recipientId).run environment world =
      (.ok (showsReminder (firstPage world recipientId) stage.requestId world.tick.now), world.tick.tick) := by
  have listed : (orRaise (.listNotificationsForRecipient recipientId (Page.first 50 (by decide) (by decide))) :
      Service (PagedResult NotificationRecord)).run environment world =
        (.ok (paginate (world.notificationsForRecipient recipientId) (Page.first 50 (by decide) (by decide))), world.tick) :=
    (run_orRaise _ world).trans rfl
  unfold recentlyReminded
  rw [run_bind, listed, continueRun_ok, run_bind, run_utcNow, continueRun_ok]
  rfl

theorem showsReminder_of_none (none : NoReminder world recipientId stage.requestId) (now : Datetime) :
    showsReminder (firstPage world recipientId) stage.requestId now = false := by
  apply List.any_eq_false.mpr
  intro notification shown reminder
  have stored := List.mem_of_mem_drop (List.mem_of_mem_take shown)
  simp only [World.notificationsForRecipient, mem_orderBy, List.mem_filter, Bool.and_eq_true, beq_iff_eq] at stored
  simp only [Bool.and_eq_true, beq_iff_eq] at reminder
  exact none notification stored.1 stored.2.1 reminder.1.1 reminder.1.2

/-- The reminder that the job queues. -/
def reminderOf (stage : WorkflowStageRecord) (request : RequestRecord) (recipientId : UUID) : TaskPayload :=
  .sendReminder recipientId stage.requestId (reminderMessage stage request)

theorem jobs_remindIfDue (world : World) (stage : WorkflowStageRecord) (recipientId : UUID) (context : StageContext)
    (clock : ∀ tick, world.clock tick = now) :
    ∃ own : World, ((remindIfDue defaultReminderSettings .queued stage recipientId context).run environment world).2.jobs =
        if Workflow.isStageEscalationEligible stage.createdAt context.stageDefinition.escalationHours now = .ok false ∧
            isDueForReminder defaultReminderSettings context.stageDefinition.escalationHours stage.createdAt now = true ∧
            showsReminder (firstPage world recipientId) stage.requestId now = false then
          world.jobs.insert (own.newJob "escalation" (reminderOf stage context.request recipientId) .low 3 stage.requestId)
        else world.jobs := by
  have current : world.now = now := clock _
  have next : world.tick.now = now := clock _
  have last : world.tick.tick.tick.now = now := clock _
  refine ⟨world.tick.tick.tick.tick, ?_⟩
  unfold remindIfDue Scheduler.isStageEscalationEligible
  rw [run_bind, run_bind]
  cases computed : computeThreshold stage.createdAt context.stageDefinition.escalationHours with
  | error error =>
      have raised : Workflow.isStageEscalationEligible stage.createdAt context.stageDefinition.escalationHours now =
          .error error := by
        rw [Workflow.isStageEscalationEligible, computed]
        rfl
      simp only [raised, reduceCtorEq, false_and, if_false]
      rfl
  | ok threshold =>
      have answered : Workflow.isStageEscalationEligible stage.createdAt context.stageDefinition.escalationHours now =
          .ok (isPast threshold now) := by
        rw [Workflow.isStageEscalationEligible, computed]
        rfl
      rw [answered]
      simp only [engineOrRaise, Except.mapError, run_ofExcept, continueRun_ok, run_bind, run_utcNow, current,
        pure_eq, Program.run]
      cases isPast threshold now with
      | true => simp
      | false =>
          have page : firstPage world.tick.tick recipientId = firstPage world recipientId := rfl
          have checked := run_recentlyReminded world.tick.tick stage recipientId
          rw [last, page] at checked
          rw [if_neg Bool.false_ne_true, run_bind, run_utcNow, continueRun_ok, next]
          cases due : isDueForReminder defaultReminderSettings context.stageDefinition.escalationHours stage.createdAt
              now with
          | false => simp
          | true =>
              simp only [Bool.not_true, Bool.false_eq_true, if_false, run_bind, checked, continueRun_ok]
              cases showsReminder (firstPage world recipientId) stage.requestId now with
              | true => simp
              | false => rfl

theorem jobs_evaluateAndRemindIfDue (finds : Finds world cache stage entry now) (assigned : stage.assignedTo = some recipientId) :
    ∃ (request : RequestRecord) (own : World),
      ((evaluateAndRemindIfDue defaultReminderSettings .queued cache stage).run environment world).2.jobs =
        if Due stage entry.escalationHours now ∧
            showsReminder (firstPage world recipientId) stage.requestId now = false then
          world.jobs.insert (own.newJob "escalation" (reminderOf stage request recipientId) .low 3 stage.requestId)
        else world.jobs := by
  obtain ⟨request, definition, found, pinned, located⟩ := finds.resolved
  obtain ⟨later, ticks, loaded⟩ := run_loadStageContext_cached finds.cached found pinned located
  obtain ⟨own, queued⟩ := jobs_remindIfDue (world.atTick ticks) stage recipientId
    { request, stageDefinition := entry } finds.clock
  refine ⟨request, own, ?_⟩
  have same : ((evaluateAndRemindIfDue defaultReminderSettings .queued cache stage).run environment world).2.jobs =
      ((remindIfDue defaultReminderSettings .queued stage recipientId { request, stageDefinition := entry }).run environment
        (world.atTick ticks)).2.jobs := by
    unfold evaluateAndRemindIfDue
    rw [assigned]
    dsimp only
    rw [run_bind, loaded, continueRun_ok]
    dsimp only
    rw [run_bind, Scheduler.caught, run_tryCatch, run_bind]
    rcases (remindIfDue defaultReminderSettings .queued stage recipientId { request, stageDefinition := entry }).run
      environment (world.atTick ticks) with ⟨_ | _, after⟩
    · rfl
    · rfl
  rw [same, queued]
  refine if_congr ?_ rfl rfl
  rw [Due, and_assoc]
  rfl

theorem queuesReminder_iff (finds : Finds world cache stage entry now) (assigned : stage.assignedTo = some recipientId) :
    QueuesReminder world cache stage recipientId ↔ Due stage entry.escalationHours now ∧
      showsReminder (firstPage world recipientId) stage.requestId now = false := by
  obtain ⟨request, own, queued⟩ := jobs_evaluateAndRemindIfDue finds assigned
  unfold QueuesReminder
  rw [queued]
  split
  · rename_i due
    refine iff_of_true ?_ due
    refine ⟨_, (world.jobs.mem_insert _ _).mpr (.inr rfl), ?_, reminderMessage stage request, rfl, rfl⟩
    intro present
    exact absurd (world.jobs.fresh _ present) (Nat.lt_irrefl _)
  · rename_i quiet
    refine iff_of_false ?_ quiet
    intro found
    obtain ⟨job, present, new, _⟩ := found
    exact new present

end Evaluation

section Runs

/-- The ticks' evaluations of one stage: its state when each tick comes to it, and the job's cache by then. -/
structure ReminderTicks where
  stage : WorkflowStageRecord
  entry : StageDefinition
  recipientId : UUID
  start : Datetime
  worlds : Nat → World
  caches : Nat → DefinitionCache

namespace ReminderTicks

/-- The tick lists the stage as pending, and queues a reminder of it. -/
def Reminds (ticks : ReminderTicks) (tick : Nat) : Prop :=
  ticks.stage ∈ pendingBefore (tickAt ticks.start tick) (ticks.worlds tick) ∧
    QueuesReminder (ticks.worlds tick) (ticks.caches tick) ticks.stage ticks.recipientId

/-- The stage waits for one user until its threshold, if it has one, and no reminder of its request reaches that user
before a tick has queued one. -/
structure Undisturbed (ticks : ReminderTicks) : Prop where
  assigned : ticks.stage.assignedTo = some ticks.recipientId
  finds : ∀ tick, Finds (ticks.worlds tick) (ticks.caches tick) ticks.stage ticks.entry (tickAt ticks.start tick)
  pending : ticks.stage.status = .pending ∧ ∀ threshold tick,
    computeThreshold ticks.stage.createdAt ticks.entry.escalationHours = .ok threshold →
      ticks.stage.createdAt ≤ tickAt ticks.start tick → tickAt ticks.start tick < threshold →
      ticks.stage ∈ (ticks.worlds tick).stages.rows
  unreminded : ∀ tick, (∀ earlier < tick, ¬ticks.Reminds earlier) →
    NoReminder (ticks.worlds tick) ticks.recipientId ticks.stage.requestId

/-- A tick before the threshold reminds of the stage, and none does once the stage is eligible. -/
structure RemindsInTime (ticks : ReminderTicks) : Prop where
  before : ∀ threshold, computeThreshold ticks.stage.createdAt ticks.entry.escalationHours = .ok threshold →
    ∃ tick, tickAt ticks.start tick < threshold ∧ ticks.Reminds tick
  never : ∀ tick, Workflow.isStageEscalationEligible ticks.stage.createdAt ticks.entry.escalationHours
    (tickAt ticks.start tick) = .ok true → ¬ticks.Reminds tick

end ReminderTicks

/-- The last tick before the threshold comes once the stage exists and within the lead time. -/
def LastTickInWindow (createdAt start : Datetime) (hours : Hours) : Prop :=
  ∀ threshold, computeThreshold createdAt hours = .ok threshold →
    start < threshold ∧ createdAt ≤ lastTickBefore start threshold ∧
      isDueForReminder defaultReminderSettings hours createdAt (lastTickBefore start threshold) = true

variable {ticks : ReminderTicks}

theorem isDueForReminder_lasting {hours : Hours} {createdAt earlier later : Datetime} (order : earlier ≤ later)
    (due : isDueForReminder defaultReminderSettings hours createdAt earlier = true) :
    isDueForReminder defaultReminderSettings hours createdAt later = true := by
  cases hours with
  | infinite => exact due
  | finite amount =>
      have longer : hoursBetween createdAt earlier ≤ hoursBetween createdAt later := hoursBetween_le order
      simp only [isDueForReminder, decide_eq_true_eq] at due ⊢
      linarith

theorem not_eligible_of_before {createdAt threshold now : Datetime} {hours : Hours}
    (computed : computeThreshold createdAt hours = .ok threshold) (before : now < threshold) :
    Workflow.isStageEscalationEligible createdAt hours now = .ok false := by
  apply (eligible_ok_iff ..).mpr
  refine ⟨threshold, computed, ?_⟩
  rw [isPast]
  exact decide_eq_false (Nat.lt_asymm before)

/-- Of the ticks before the threshold, the ones that would remind of the stage do so until one has. -/
theorem exists_reminds_iff (undisturbed : ticks.Undisturbed) {threshold : Datetime}
    (computed : computeThreshold ticks.stage.createdAt ticks.entry.escalationHours = .ok threshold) :
    (∃ tick, tickAt ticks.start tick < threshold ∧ ticks.Reminds tick) ↔
      ∃ tick, tickAt ticks.start tick < threshold ∧ ticks.stage.createdAt ≤ tickAt ticks.start tick ∧
        isDueForReminder defaultReminderSettings ticks.entry.escalationHours ticks.stage.createdAt
          (tickAt ticks.start tick) = true := by
  constructor
  · intro found
    obtain ⟨tick, before, listed, queued⟩ := found
    obtain ⟨due, _⟩ := (queuesReminder_iff (undisturbed.finds tick) undisturbed.assigned).mp queued
    exact ⟨tick, before, (mem_pendingBefore.mp listed).2.2, due.2⟩
  · intro found
    obtain ⟨tick, before, created, due⟩ := found
    by_cases reminded : ∃ earlier < tick, ticks.Reminds earlier
    · obtain ⟨earlier, first, reminds⟩ := reminded
      have sooner : tickAt ticks.start earlier ≤ tickAt ticks.start tick :=
        Nat.add_le_add_left (Nat.mul_le_mul_right _ first.le) _
      exact ⟨earlier, Nat.lt_of_le_of_lt sooner before, reminds⟩
    · have none := undisturbed.unreminded tick fun earlier first reminds => reminded ⟨earlier, first, reminds⟩
      refine ⟨tick, before, ?_, ?_⟩
      · exact mem_pendingBefore.mpr
          ⟨undisturbed.pending.2 threshold tick computed created before, undisturbed.pending.1, created⟩
      · apply (queuesReminder_iff (undisturbed.finds tick) undisturbed.assigned).mpr
        exact ⟨⟨not_eligible_of_before computed before, due⟩, showsReminder_of_none none _⟩

end Runs

section Samples

/-- The stage of the sample hub's travel request, created when the third day is over. -/
def signOffStage : WorkflowStageRecord where
  id := 1
  requestId := 1
  stageOrder := 1
  stageName := "Sign-off"
  assignedRole := none
  assignedTo := some 2
  status := .pending
  decidedBy := none
  decidedAt := none
  decisionNote := none
  version := 1
  createdAt := 259200000000
  companyId := 9

/-- The same database, its clock stopped. -/
def pausedAt (world : World) (now : Datetime) : World := { world with clock := fun _ => now, ticks := 0 }

theorem stages_pausedAt (world : World) (now : Datetime) : (pausedAt world now).stages = world.stages := rfl

theorem requests_pausedAt (world : World) (now : Datetime) : (pausedAt world now).requests = world.requests := rfl

theorem definitions_pausedAt (world : World) (now : Datetime) : (pausedAt world now).definitions = world.definitions := rfl

theorem notifications_pausedAt (world : World) (now : Datetime) :
    (pausedAt world now).notifications = world.notifications := rfl

/-- The stage is to be escalated after a day, and nothing happens in the meantime. -/
def waitingTicks (world : World) (start : Datetime) : ReminderTicks where
  stage := signOffStage
  entry := personalStage 1 Nat.one_pos 2
  recipientId := 2
  start := start
  worlds := fun tick => pausedAt world (tickAt start tick)
  caches := fun _ => []

theorem waitingTicks_undisturbed {world : World} (start : Datetime) (stored : signOffStage ∈ world.stages.rows)
    (resolved : ∃ request definition, world.requests.find? 1 = some request ∧
      world.definitions.find? request.workflowDefinitionId = some definition ∧
      definition.definition.stages.find? (fun entry => entry.order == 1) = some (personalStage 1 Nat.one_pos 2))
    (unreminded : ∀ notification ∈ world.notifications.rows, notification.notificationType ≠ .reminder) :
    (waitingTicks world start).Undisturbed := by
  constructor
  · rfl
  · intro tick
    constructor
    · exact fun _ => rfl
    · intro id known cached
      cases cached
    · change ∃ request definition, (pausedAt world (tickAt start tick)).requests.find? 1 = some request ∧
        (pausedAt world (tickAt start tick)).definitions.find? request.workflowDefinitionId = some definition ∧
        definition.definition.stages.find? (fun entry => entry.order == 1) = some (personalStage 1 Nat.one_pos 2)
      rw [requests_pausedAt, definitions_pausedAt]
      exact resolved
  · refine ⟨rfl, fun _ tick _ _ _ => ?_⟩
    change signOffStage ∈ (pausedAt world (tickAt start tick)).stages.rows
    rw [stages_pausedAt]
    exact stored
  · intro tick _ notification listed _ reminder
    change notification ∈ (pausedAt world (tickAt start tick)).notifications.rows at listed
    rw [notifications_pausedAt] at listed
    exact absurd reminder (unreminded notification listed)

theorem travel_undisturbed (start : Datetime) : (waitingTicks (hubWithRequest "travel") start).Undisturbed := by
  apply waitingTicks_undisturbed
  · decide +kernel
  · have requested : ((hubWithRequest "travel").requests.find? 1).any (fun request =>
        ((hubWithRequest "travel").definitions.find? request.workflowDefinitionId).any fun definition =>
          definition.definition.stages.find? (fun entry => entry.order == 1) = some (personalStage 1 Nat.one_pos 2))
            = true := by decide +kernel
    obtain ⟨request, found, requested⟩ := (Option.any_eq_true ..).mp requested
    obtain ⟨definition, pinned, located⟩ := (Option.any_eq_true ..).mp requested
    exact ⟨request, definition, found, pinned, of_decide_eq_true located⟩
  · decide +kernel

theorem signOffStage_threshold :
    computeThreshold signOffStage.createdAt (personalStage 1 Nat.one_pos 2).escalationHours = .ok 345600000000 := by
  decide +kernel

end Samples

end AutomationHub.System
