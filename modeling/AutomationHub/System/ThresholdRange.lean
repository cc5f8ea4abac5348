import AutomationHub.Analytics.DelayReports
import AutomationHub.System.DefinitionHistory
import AutomationHub.System.PendingFigures

/-!
How far the escalation hours that a document may carry can be computed with.

The document bounds them from below only, and a threshold is an instant of the calendar,
which ends with the year 9999.
-/

set_option autoImplicit false

namespace AutomationHub.System

open Foundation Model Database Services Auth Workflow Scheduler Analytics Jobs Program Table

/-- The hours, rounded to the microsecond, end within the calendar. -/
def Representable (createdAt : Datetime) (hours : Hours) : Prop :=
  ∃ amount, hours = .finite amount ∧ createdAt + roundHalfEven (amount * microsecondsPerHour) ≤ Datetime.max

/-- More time than the hours, rounded to the microsecond, has gone by. -/
def Elapsed (createdAt : Datetime) (hours : Hours) (now : Datetime) : Prop :=
  ∃ amount, hours = .finite amount ∧ roundHalfEven (amount * microsecondsPerHour) < (now : Int) - createdAt

/-- At every instant the stage is told to be eligible exactly if more than its hours have gone by, and once eligible it
stays so. -/
structure EvaluatedAsMeant (createdAt : Datetime) (hours : Hours) : Prop where
  answered : ∀ now, ∃ eligible, Workflow.isStageEscalationEligible createdAt hours now = .ok eligible ∧
    (eligible = true ↔ Elapsed createdAt hours now)
  monotone : ∀ now later, now ≤ later → Workflow.isStageEscalationEligible createdAt hours now = .ok true →
    Workflow.isStageEscalationEligible createdAt hours later = .ok true

section Thresholds

variable {createdAt now : Datetime} {hours : Hours}

theorem roundHalfEven_nonneg {value : ℚ} (nonneg : 0 ≤ value) : 0 ≤ roundHalfEven value := by
  have below : 0 ≤ value.floor := Rat.le_floor_iff.mpr (by simpa using nonneg)
  unfold roundHalfEven
  dsimp only
  split
  · exact below
  · split
    · omega
    · split <;> omega

theorem isPast_iff (value reference : Datetime) : isPast value reference = true ↔ (value : Int) < reference := by
  rw [isPast, decide_eq_true_eq]
  exact Int.ofNat_lt.symm

theorem addHours_eq_some_iff {amount : ℚ} (positive : 0 < amount) {threshold : Datetime} :
    addHours createdAt (.finite amount) = some threshold ↔
      (threshold : Int) = createdAt + roundHalfEven (amount * microsecondsPerHour) ∧
        createdAt + roundHalfEven (amount * microsecondsPerHour) ≤ Datetime.max := by
  have nonneg : 0 ≤ roundHalfEven (amount * microsecondsPerHour) :=
    roundHalfEven_nonneg (mul_nonneg positive.le (Nat.cast_nonneg _))
  have calendar : (Datetime.max : Int) < timedeltaMax := by decide
  simp only [addHours]
  split
  · rename_i outside
    constructor
    · intro absurd
      cases absurd
    · intro inside
      omega
  · rename_i inside
    have ends : (((createdAt : Int) + roundHalfEven (amount * microsecondsPerHour)).toNat : Int) =
        createdAt + roundHalfEven (amount * microsecondsPerHour) := Int.toNat_of_nonneg (by omega)
    rw [Option.some.injEq]
    constructor
    · intro same
      rw [← same]
      exact ⟨ends, by omega⟩
    · intro same
      exact Int.ofNat_inj.mp (ends.trans same.1.symm)

theorem computeThreshold_ok_iff (positive : hours.Positive) {threshold : Datetime} :
    computeThreshold createdAt hours = .ok threshold ↔
      ∃ amount, hours = .finite amount ∧
        (threshold : Int) = createdAt + roundHalfEven (amount * microsecondsPerHour) ∧
        createdAt + roundHalfEven (amount * microsecondsPerHour) ≤ Datetime.max := by
  unfold computeThreshold
  rw [if_pos positive]
  cases hours with
  | infinite =>
      constructor
      · intro absurd
        cases absurd
      · rintro ⟨amount, absurd, -⟩
        cases absurd
  | finite amount =>
      simp only [Hours.finite.injEq, exists_eq_left']
      rw [← addHours_eq_some_iff positive]
      cases addHours createdAt (.finite amount) <;> simp

theorem computed_iff (positive : hours.Positive) :
    (∃ threshold, computeThreshold createdAt hours = .ok threshold) ↔ Representable createdAt hours := by
  constructor
  · rintro ⟨threshold, computed⟩
    obtain ⟨amount, finite, -, inside⟩ := (computeThreshold_ok_iff positive).mp computed
    exact ⟨amount, finite, inside⟩
  · rintro ⟨amount, finite, inside⟩
    have nonneg : 0 ≤ roundHalfEven (amount * microsecondsPerHour) := by
      subst finite
      exact roundHalfEven_nonneg (mul_nonneg (le_of_lt positive) (Nat.cast_nonneg _))
    exact ⟨(createdAt + roundHalfEven (amount * microsecondsPerHour)).toNat,
      (computeThreshold_ok_iff positive).mpr ⟨amount, finite, by omega, inside⟩⟩

theorem eligible_ok_iff (createdAt : Datetime) (hours : Hours) (now : Datetime) {eligible : Bool} :
    Workflow.isStageEscalationEligible createdAt hours now = .ok eligible ↔
      ∃ threshold, computeThreshold createdAt hours = .ok threshold ∧ isPast threshold now = eligible := by
  unfold Workflow.isStageEscalationEligible
  cases computeThreshold createdAt hours <;> simp [bind, Except.bind, pure, Except.pure]

/-- A stage is evaluated as it should be exactly if its threshold is an instant of the calendar. -/
theorem evaluatedAsMeant_iff (positive : hours.Positive) :
    EvaluatedAsMeant createdAt hours ↔ Representable createdAt hours := by
  rw [← computed_iff positive]
  constructor
  · intro evaluated
    obtain ⟨eligible, answered, -⟩ := evaluated.answered 0
    obtain ⟨threshold, computed, -⟩ := (eligible_ok_iff ..).mp answered
    exact ⟨threshold, computed⟩
  · rintro ⟨threshold, computed⟩
    obtain ⟨amount, finite, ends, -⟩ := (computeThreshold_ok_iff positive).mp computed
    constructor
    · intro now
      refine ⟨isPast threshold now, (eligible_ok_iff ..).mpr ⟨threshold, computed, rfl⟩, ?_⟩
      subst finite
      rw [isPast_iff, Elapsed]
      simp only [Hours.finite.injEq, exists_eq_left']
      omega
    · intro now later order eligible
      obtain ⟨other, known, past⟩ := (eligible_ok_iff ..).mp eligible
      refine (eligible_ok_iff ..).mpr ⟨other, known, ?_⟩
      rw [isPast_iff] at past ⊢
      exact past.trans_le (Int.ofNat_le.mpr order)

end Thresholds

/-- The entry by which a report judges a stage: that of its order in the definition of its request, if both are the
company's and the reader may see the definition. -/
structure Judged (world : World) (viewer : Option UUID) (companyId : UUID) (stage : WorkflowStageRecord)
    (request : RequestRecord) (entry : StageDefinition) : Prop where
  found : world.requests.find? stage.requestId = some request
  company : request.companyId = companyId
  entry : ∃ definition, world.definitions.find? request.workflowDefinitionId = some definition ∧
    world.definitionVisible viewer definition = true ∧ definition.companyId = companyId ∧
    definition.definition.stages.find? (fun entry => entry.order == stage.stageOrder) = some entry

/-- The thresholds of the pending stages that the reports fetch are instants of the calendar. -/
def PendingRepresentable (world : World) (viewer : Option UUID) (scope : Scope) (cutoff : Datetime) : Prop :=
  ∀ stage ∈ fetchAllPendingStages world scope.companyId cutoff, ∀ request entry,
    Judged world viewer scope.companyId stage request entry → Representable stage.createdAt entry.escalationHours

/-- The thresholds of the decided stages in scope are instants of the calendar. -/
def DecidedRepresentable (world : World) (viewer : Option UUID) (scope : Scope) : Prop :=
  ∀ stage ∈ fetchDecidedStages world scope, stage.decidedAt ≠ none → ∀ request entry,
    Judged world viewer scope.companyId stage request entry →
      scope.includes request.department request.requestType = true → Representable stage.createdAt entry.escalationHours

section Reports

variable {world : World} {viewer : Option UUID} {companyId : UUID} {scope : Scope} {stages : List WorkflowStageRecord}
  {stage : WorkflowStageRecord} {request : RequestRecord} {now cutoff : Datetime} {limit : Nat}

theorem isBreached_ok_iff {hours : Hours} (positive : hours.Positive) :
    (∃ breached, isBreached (some hours) stage now = .ok breached) ↔ Representable stage.createdAt hours := by
  rw [← computed_iff positive]
  simp only [isBreached, Workflow.isStageEscalationEligible]
  cases computeThreshold stage.createdAt hours <;> simp [Except.mapError, bind, Except.bind, pure, Except.pure]

/-- It can be told of a stage whether it is overdue exactly if the threshold it is judged by is an instant of the
calendar. -/
theorem breached_iff (listed : stage ∈ stages) (found : world.requests.find? stage.requestId = some request)
    (company : request.companyId = companyId) (instant : Datetime) :
    (∃ breached, isBreached (effectiveSlaHours (resolveContexts world viewer companyId stages) none stage) stage instant =
        .ok breached) ↔
      ∀ entry, Judged world viewer companyId stage request entry →
        Representable stage.createdAt entry.escalationHours := by
  cases resolved : effectiveSlaHours (resolveContexts world viewer companyId stages) none stage with
  | none =>
      refine iff_of_true ⟨false, rfl⟩ fun entry judged => ?_
      obtain ⟨definition, pinned, visible, own, located⟩ := judged.entry
      have shown := (effectiveSlaHours_of_contexts viewer listed found company).mpr
        ⟨definition, entry, pinned, visible, own, located, rfl⟩
      rw [resolved] at shown
      cases shown
  | some hours =>
      obtain ⟨definition, entry, pinned, visible, own, located, rfl⟩ :=
        (effectiveSlaHours_of_contexts viewer listed found company).mp resolved
      rw [isBreached_ok_iff entry.escalationHours_pos]
      constructor
      · intro representable other judged
        obtain ⟨same, known, -, -, place⟩ := judged.entry
        obtain rfl := Option.some.inj (pinned.symm.trans known)
        obtain rfl := Option.some.inj (located.symm.trans place)
        exact representable
      · intro each
        exact each entry ⟨found, company, definition, pinned, visible, own, located⟩

theorem pendingAges_ok_iff :
    (∃ ages, pendingAges world viewer none scope now cutoff = .ok ages) ↔
      PendingRepresentable world viewer scope cutoff := by
  have built : (∃ ages, pendingAges world viewer none scope now cutoff = .ok ages) ↔
      ∃ ages, buildPendingApprovalAges (slaContexts world viewer scope cutoff) none now
        (fetchAllPendingStages world scope.companyId cutoff) = .ok ages := by
    unfold pendingAges
    cases buildPendingApprovalAges (slaContexts world viewer scope cutoff) none now
      (fetchAllPendingStages world scope.companyId cutoff) <;> simp [bind, Except.bind, pure, Except.pure]
  rw [built, buildPendingApprovalAges_ok_iff]
  refine forall₂_congr fun stage listed => ?_
  constructor
  · intro told request entry judged
    have known := (request_of_slaContexts viewer listed).mpr ⟨judged.found, judged.company⟩
    have told := told (by rw [known]; rfl)
    exact (breached_iff (List.mem_append_left _ listed) judged.found judged.company now).mp told entry judged
  · intro each present
    obtain ⟨request, known⟩ := Option.isSome_iff_exists.mp present
    obtain ⟨found, company⟩ := (request_of_slaContexts viewer listed).mp known
    exact (breached_iff (List.mem_append_left _ listed) found company now).mpr (each request)

theorem countBreaches_iff :
    (∃ counted, countBreaches (slaContexts world viewer scope cutoff) none
        (filterDecidedScope scope (slaContexts world viewer scope cutoff) (fetchDecidedStages world scope)) = .ok counted) ↔
      DecidedRepresentable world viewer scope := by
  rw [countBreaches_ok_iff]
  have known : ∀ stage ∈ fetchDecidedStages world scope, ∀ request,
      (slaContexts world viewer scope cutoff).requestsById.lookup stage.requestId = some request ↔
        world.requests.find? stage.requestId = some request ∧ request.companyId = scope.companyId := by
    intro stage listed request
    exact request_of_contexts viewer (List.mem_append_right _ listed)
  constructor
  · intro told stage listed decided request entry judged included
    obtain ⟨decidedAt, decided⟩ := Option.ne_none_iff_exists'.mp decided
    have kept : stage ∈ filterDecidedScope scope (slaContexts world viewer scope cutoff)
        (fetchDecidedStages world scope) := by
      refine List.mem_filter.mpr ⟨listed, ?_⟩
      rw [(known stage listed request).mpr ⟨judged.found, judged.company⟩]
      exact included
    exact (breached_iff (List.mem_append_right _ listed) judged.found judged.company decidedAt).mp
      (told stage kept decidedAt decided) entry judged
  · intro each stage kept decidedAt decided
    obtain ⟨listed, included⟩ := List.mem_filter.mp kept
    obtain ⟨request, located, included⟩ := (Option.any_eq_true ..).mp included
    obtain ⟨found, company⟩ := (known stage listed request).mp located
    refine (breached_iff (List.mem_append_right _ listed) found company decidedAt).mpr ?_
    intro entry judged
    exact each stage listed (Option.ne_none_iff_exists'.mpr ⟨decidedAt, decided⟩) request entry judged included

theorem getSlaMetrics_ok_iff (dates : validateDateRange scope.createdAfter scope.createdBefore = .ok ()) :
    (∃ metrics, getSlaMetrics world viewer none scope now cutoff = .ok metrics) ↔
      PendingRepresentable world viewer scope cutoff ∧ DecidedRepresentable world viewer scope := by
  rw [← @pendingAges_ok_iff world viewer scope now, ← @countBreaches_iff world viewer scope cutoff]
  unfold getSlaMetrics
  rw [dates]
  cases pendingAges world viewer none scope now cutoff with
  | error error => simp [bind, Except.bind]
  | ok ages =>
      cases counts : countBreaches (slaContexts world viewer scope cutoff) none
          (filterDecidedScope scope (slaContexts world viewer scope cutoff) (fetchDecidedStages world scope)) with
      | error error => simp [counts, bind, Except.bind]
      | ok counted => simp [counts, bind, Except.bind, pure, Except.pure]

theorem getApprovalDelays_ok_iff (dates : validateDateRange scope.createdAfter scope.createdBefore = .ok ()) :
    (∃ report, getApprovalDelays world viewer scope limit now cutoff = .ok report) ↔
      PendingRepresentable world viewer scope cutoff := by
  rw [← @pendingAges_ok_iff world viewer scope now]
  unfold getApprovalDelays
  rw [dates]
  cases pendingAges world viewer none scope now cutoff <;> simp [bind, Except.bind, pure, Except.pure]

theorem getBottlenecks_ok_iff (dates : validateDateRange scope.createdAfter scope.createdBefore = .ok ()) :
    (∃ report, getBottlenecks world viewer scope limit now cutoff = .ok report) ↔
      PendingRepresentable world viewer scope cutoff := by
  rw [← @pendingAges_ok_iff world viewer scope now]
  unfold getBottlenecks
  rw [dates]
  cases pendingAges world viewer none scope now cutoff <;> simp [bind, Except.bind, pure, Except.pure]

end Reports

section Job

variable {world : World} {cache : DefinitionCache} {stage : WorkflowStageRecord} {request : RequestRecord}
  {definition : WorkflowDefinition} {entry : StageDefinition}

/-- What the job resolved before is what is stored. -/
def CachesStored (world : World) (cache : DefinitionCache) : Prop :=
  ∀ id definition, cache.lookup id = some definition → world.definitions.find? id = some definition

theorem run_cachedDefinition (cached : CachesStored world cache) {id : UUID}
    (pinned : world.definitions.find? id = some definition) :
    ∃ later ticks, (cachedDefinition cache id).run environment world = (.ok (later, definition), world.atTick ticks) := by
  unfold cachedDefinition
  cases resolved : cache.lookup id with
  | some known =>
      obtain rfl := Option.some.inj (pinned.symm.trans (cached id known resolved))
      exact ⟨cache, world.ticks, rfl⟩
  | none =>
      have fetched : (orRaise (.getDefinition none id) : Service WorkflowDefinition).run environment world =
          (.ok definition, world.tick) := by
        refine (run_orRaise _ world).trans ?_
        simp [World.execute, World.getDefinition, pinned, World.definitionVisible, Except.mapError]
      refine ⟨(id, definition) :: cache, world.ticks + 1, ?_⟩
      dsimp only
      rw [run_bind, fetched]
      rfl

theorem run_loadStageContext_cached (cached : CachesStored world cache)
    (found : world.requests.find? stage.requestId = some request)
    (pinned : world.definitions.find? request.workflowDefinitionId = some definition)
    (located : definition.definition.stages.find? (fun entry => entry.order == stage.stageOrder) = some entry) :
    ∃ later ticks, (loadStageContext cache stage).run environment world =
      (.ok (later, .ok { request, stageDefinition := entry }), world.atTick ticks) := by
  have fetched : (orRaise (.getRequest stage.requestId) : Service RequestRecord).run environment world =
      (.ok request, world.tick) := by
    refine (run_orRaise _ world).trans ?_
    simp [World.execute, World.getRequest, getById, found, Except.mapError]
  obtain ⟨later, ticks, resolved⟩ := @run_cachedDefinition world.tick cache definition cached _ pinned
  refine ⟨later, ticks, ?_⟩
  unfold loadStageContext
  rw [run_bind, fetched, continueRun_ok, run_bind, resolved, continueRun_ok]
  dsimp only
  rw [located]
  rfl

theorem run_enqueue (dispatcher : JobDispatcher) (world : World) :
    ((dispatcher.enqueue "escalation" (.escalateStage stage.id) .high 3 stage.requestId).run environment world).1 =
      .ok () := by
  cases dispatcher with
  | queued => rfl
  | synchronous =>
      unfold JobDispatcher.enqueue
      dsimp only
      rw [run_tryCatch]
      rcases ((do
        let _ ← handle (.escalateStage stage.id)
        return ()) : Service Unit).run environment world with ⟨_ | _, after⟩
      · rfl
      · rfl

/-- The job evaluates a stage exactly if its threshold is an instant of the calendar. -/
theorem evaluated_iff (dispatcher : JobDispatcher) (cached : CachesStored world cache)
    (found : world.requests.find? stage.requestId = some request)
    (pinned : world.definitions.find? request.workflowDefinitionId = some definition)
    (located : definition.definition.stages.find? (fun entry => entry.order == stage.stageOrder) = some entry) :
    (∃ later, ((evaluateAndEscalateIfEligible dispatcher cache stage).run environment world).1 = .ok (later, .ok ())) ↔
      Representable stage.createdAt entry.escalationHours := by
  obtain ⟨later, ticks, loaded⟩ := run_loadStageContext_cached cached found pinned located
  rw [← computed_iff entry.escalationHours_pos]
  unfold evaluateAndEscalateIfEligible Scheduler.caught Scheduler.isStageEscalationEligible
  rw [run_bind, loaded, continueRun_ok]
  dsimp only
  rw [run_bind, run_tryCatch, run_bind, run_bind, run_bind]
  cases computeThreshold stage.createdAt entry.escalationHours with
  | error error =>
      refine iff_of_false ?_ ?_
      · rintro ⟨other, same⟩
        cases same
      · rintro ⟨threshold, absurd⟩
        cases absurd
  | ok threshold =>
      refine iff_of_true ⟨later, ?_⟩ ⟨threshold, rfl⟩
      have queued := @run_enqueue stage dispatcher (world.atTick ticks).tick
      let action : Service Unit :=
        if isPast threshold (world.atTick ticks).now then
          dispatcher.enqueue "escalation" (.escalateStage stage.id) .high 3 stage.requestId
        else pure ()
      have done : (action.run environment (world.atTick ticks).tick).1 = .ok () := by
        dsimp only [action]
        split
        · exact queued
        · rfl
      change (continueRun environment (fun outcome => pure (later, outcome))
        (handleRun environment (fun error => pure (Except.error error)) (continueRun environment
          (fun _ => pure (Except.ok ())) (action.run environment (world.atTick ticks).tick)))).1 = _
      rcases ran : action.run environment (world.atTick ticks).tick with ⟨result, after⟩
      rw [ran] at done
      obtain rfl : result = .ok () := done
      rfl

end Job

/-- A stage is evaluated as it should be, by itself, in the reports and by the escalation job, exactly where the threshold
is an instant of the calendar. -/
theorem thresholds_iff_representable (entry : StageDefinition) (createdAt : Datetime) :
    (EvaluatedAsMeant createdAt entry.escalationHours ↔ Representable createdAt entry.escalationHours) ∧
      (∀ world viewer scope limit now cutoff, validateDateRange scope.createdAfter scope.createdBefore = .ok () →
        ((∃ metrics, getSlaMetrics world viewer none scope now cutoff = .ok metrics) ↔
          PendingRepresentable world viewer scope cutoff ∧ DecidedRepresentable world viewer scope) ∧
        ((∃ report, getApprovalDelays world viewer scope limit now cutoff = .ok report) ↔
          PendingRepresentable world viewer scope cutoff) ∧
        ((∃ report, getBottlenecks world viewer scope limit now cutoff = .ok report) ↔
          PendingRepresentable world viewer scope cutoff)) ∧
      ∀ (dispatcher : JobDispatcher) world cache stage request definition, CachesStored world cache →
        world.requests.find? stage.requestId = some request →
        world.definitions.find? request.workflowDefinitionId = some definition →
        definition.definition.stages.find? (fun entry => entry.order == stage.stageOrder) = some entry →
        ((∃ later, ((evaluateAndEscalateIfEligible dispatcher cache stage).run environment world).1 =
            .ok (later, .ok ())) ↔ Representable stage.createdAt entry.escalationHours) := by
  refine ⟨evaluatedAsMeant_iff entry.escalationHours_pos, ?_, ?_⟩
  · intro world viewer scope limit now cutoff dates
    exact ⟨getSlaMetrics_ok_iff dates, getApprovalDelays_ok_iff dates, getBottlenecks_ok_iff dates⟩
  · intro dispatcher world cache stage request definition cached found pinned located
    exact evaluated_iff dispatcher cached found pinned located

section Sample

def companyScope : Scope where
  companyId := 9
  department := none
  requestType := none
  createdAfter := none
  createdBefore := none

/-- In the sample hub a day is an instant of the calendar. -/
theorem thresholds_iff_representable_sample :
    EvaluatedAsMeant 0 (.finite 24) ∧
      ((∃ metrics, getSlaMetrics (hubWithRequest "expense") none none companyScope 0 0 = .ok metrics) ↔
        PendingRepresentable (hubWithRequest "expense") none companyScope 0 ∧
          DecidedRepresentable (hubWithRequest "expense") none companyScope) := by
  have sample := thresholds_iff_representable (financeStage 1 (by decide)) 0
  exact ⟨sample.1.mpr ⟨24, rfl, by decide +kernel⟩, (sample.2.1 (hubWithRequest "expense") none companyScope 0 0 0 rfl).1⟩

/-- A stage that no one lives to see escalated. -/
def remoteStage : StageDefinitionInput :=
  { administratorsStage 1 with escalationHours := .finite 1000000000 }

/-- The sample hub with a pending request for the remote stage. -/
def remoteHub : World :=
  let drafted := ((Services.createDefinition none sampleAdmin "archive" [remoteStage]).run environment sampleHub).2
  let active := ((Services.activateVersion none sampleAdmin 3).run environment drafted).2
  ((Services.createRequest sampleEmployee (sampleRequest "archive")).run environment active).2

/-- The document is accepted; its stage cannot be evaluated, and no report on its company computed. -/
theorem remote_threshold_overflows :
    (WorkflowDefinitionDocument.validate [remoteStage]).isSome = true ∧
      Workflow.isStageEscalationEligible 0 remoteStage.escalationHours 0 = .error .overflow ∧
      getSlaMetrics remoteHub none none companyScope remoteHub.now remoteHub.now = .error (.engine .overflow) ∧
      getApprovalDelays remoteHub none companyScope 10 remoteHub.now remoteHub.now = .error (.engine .overflow) ∧
      getBottlenecks remoteHub none companyScope 10 remoteHub.now remoteHub.now = .error (.engine .overflow) ∧
      ∃ stage ∈ remoteHub.stages.rows,
        (match ((evaluateAndEscalateIfEligible .queued [] stage).run environment remoteHub).1 with
          | .ok (_, .error (.engine .overflow)) => true
          | _ => false) = true := by
  refine ⟨by decide +kernel, by decide +kernel, by decide +kernel, by decide +kernel, by decide +kernel, ?_⟩
  decide +kernel

end Sample

end AutomationHub.System
