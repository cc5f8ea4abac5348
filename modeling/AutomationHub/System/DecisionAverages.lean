import AutomationHub.Analytics.DelayReports
import AutomationHub.System.DecisionReplay
import AutomationHub.System.PendingFigures
import Mathlib.Tactic.Linarith

/-!
The two averages of the time to a decision: the one of the delay report, taken from the
decided stages, and the one of the SLA figures, taken by the database from a join.
-/

set_option autoImplicit false

namespace AutomationHub.System

open Foundation Model Database Services Auth Workflow Analytics Program Table

section Populations

/-- How long the decision of a decided stage took. -/
def decisionSeconds (stage : WorkflowStageRecord) : Option ℚ :=
  stage.decidedAt.map fun decidedAt => secondsBetween stage.createdAt decidedAt

def decided (companyId : UUID) (stage : WorkflowStageRecord) : Bool :=
  stage.companyId == companyId && (stage.status == .approved || stage.status == .rejected)

/-- The stages whose decisions the delay report averages: created in the range, of a request of the company, withdrawn
or not. -/
def inDelays (world : World) (scope : Scope) (stage : WorkflowStageRecord) : Bool :=
  decided scope.companyId stage && scope.createdAfter.all (fun instant => instant ≤ stage.createdAt)
    && scope.createdBefore.all (fun instant => stage.createdAt ≤ instant)
    && (world.requests.find? stage.requestId).any fun request =>
      request.companyId == scope.companyId && scope.includes request.department request.requestType

/-- The stages whose decisions the database averages: of a live request that was created in the range. -/
def inThroughput (world : World) (scope : Scope) (stage : WorkflowStageRecord) : Bool :=
  decided scope.companyId stage && (world.requests.find? stage.requestId).any { scope with department := none }.covers

/-- The decision times of the stages that are counted. -/
def decisionTimes (world : World) (counted : WorkflowStageRecord → Bool) : List ℚ :=
  (world.stages.rows.filter counted).filterMap decisionSeconds

end Populations

section Averages

variable {world : World} {viewer : Option UUID} {scope : Scope}

theorem average_perm {left right : List ℚ} (same : left.Perm right) : average left = average right := by
  unfold average
  rw [same.sum_eq, same.length_eq, same.isEmpty_eq]

theorem average_eq_iff {left right : List ℚ} (same : left.length = right.length) :
    average left = average right ↔ left.sum = right.sum := by
  unfold average
  cases left with
  | nil =>
      obtain rfl : right = [] := List.length_eq_zero_iff.mp same.symm
      exact iff_of_true rfl rfl
  | cons value rest =>
      cases right with
      | nil => cases same
      | cons other more =>
          have positive : ((other :: more).length : ℚ) ≠ 0 := Nat.cast_ne_zero.mpr (Nat.succ_ne_zero _)
          simp only [List.isEmpty_cons, Bool.false_eq_true, if_false, Option.some.injEq]
          rw [same, div_left_inj' positive]

theorem decisionTimes_split (world : World) (counted other : WorkflowStageRecord → Bool) :
    (decisionTimes world counted).Perm
      (decisionTimes world (fun stage => counted stage && other stage)
        ++ decisionTimes world fun stage => counted stage && !other stage) := by
  unfold decisionTimes
  rw [← List.filterMap_append]
  apply List.Perm.filterMap
  have parts := (List.filter_append_perm other (world.stages.rows.filter counted)).symm
  rw [List.filter_filter, List.filter_filter] at parts
  simpa only [Bool.and_comm] using parts

theorem filterDecidedScope_perm (world : World) (viewer : Option UUID) (scope : Scope) (cutoff : Datetime) :
    (filterDecidedScope scope (slaContexts world viewer scope cutoff) (fetchDecidedStages world scope)).Perm
      (world.stages.rows.filter (inDelays world scope)) := by
  have known : ∀ stage ∈ fetchDecidedStages world scope,
      ((slaContexts world viewer scope cutoff).requestsById.lookup stage.requestId).any (fun request =>
        scope.includes request.department request.requestType) =
      (world.requests.find? stage.requestId).any fun request =>
        request.companyId == scope.companyId && scope.includes request.department request.requestType := by
    intro stage listed
    have lookup := fun request => @request_of_contexts world scope.companyId _ viewer stage
      (List.mem_append_right (fetchAllPendingStages world scope.companyId cutoff) listed) request
    apply Bool.eq_iff_iff.mpr
    rw [Option.any_eq_true, Option.any_eq_true]
    constructor
    · intro located
      obtain ⟨request, found, included⟩ := located
      obtain ⟨stored, company⟩ := (lookup request).mp found
      exact ⟨request, stored, Bool.and_eq_true_iff.mpr ⟨beq_iff_eq.mpr company, included⟩⟩
    · intro located
      obtain ⟨request, stored, admitted⟩ := located
      obtain ⟨company, included⟩ := Bool.and_eq_true_iff.mp admitted
      exact ⟨request, (lookup request).mpr ⟨stored, beq_iff_eq.mp company⟩, included⟩
  have fetched : (fetchDecidedStages world scope).Perm (world.stages.rows.filter fun stage =>
      decided scope.companyId stage && scope.createdAfter.all (fun instant => instant ≤ stage.createdAt)
        && scope.createdBefore.all fun instant => stage.createdAt ≤ instant) := by
    rw [fetchDecidedStages, fetchAll_eq]
    exact List.perm_insertionSort _ _
  have kept := fetched.filter fun stage => (world.requests.find? stage.requestId).any fun request =>
    request.companyId == scope.companyId && scope.includes request.department request.requestType
  rw [List.filter_filter] at kept
  rw [filterDecidedScope, List.filter_congr known]
  refine kept.trans (List.Perm.of_eq (List.filter_congr ?_))
  intro stage _
  exact Bool.and_comm ..

theorem decisionTimes_delays (world : World) (viewer : Option UUID) (scope : Scope) (cutoff : Datetime) :
    ((filterDecidedScope scope (slaContexts world viewer scope cutoff) (fetchDecidedStages world scope)).filterMap
      fun stage => stage.decidedAt.map fun decidedAt => secondsBetween stage.createdAt decidedAt).Perm
      (decisionTimes world (inDelays world scope)) :=
  (filterDecidedScope_perm world viewer scope cutoff).filterMap decisionSeconds

theorem averageApprovalSeconds_eq {report : ApprovalDelayReport} {limit : Nat} {now cutoff : Datetime}
    (reported : getApprovalDelays world viewer scope limit now cutoff = .ok report) :
    report.averageApprovalSeconds = average (decisionTimes world (inDelays world scope)) := by
  rw [← average_perm (decisionTimes_delays world viewer scope cutoff)]
  unfold getApprovalDelays at reported
  cases dates : validateDateRange scope.createdAfter scope.createdBefore with
  | error error => simp [dates, bind, Except.bind] at reported
  | ok _ =>
      cases aged : pendingAges world viewer none scope now cutoff with
      | error error => simp [dates, aged, bind, Except.bind] at reported
      | ok ages =>
          simp only [dates, aged, bind, Except.bind, pure, Except.pure, Except.ok.injEq] at reported
          rw [← reported]

theorem countBreaches_overridden {contexts : Contexts} {hours : Hours} {stages : List WorkflowStageRecord}
    {counted : Nat × Nat} (evaluated : countBreaches contexts (some hours) stages = .ok counted) :
    counted.1 = (stages.filterMap decisionSeconds).length := by
  induction stages generalizing counted with
  | nil =>
      cases evaluated
      rfl
  | cons stage rest recurse =>
      unfold countBreaches at evaluated
      cases decision : stage.decidedAt with
      | none =>
          simp only [effectiveSlaHours, decision] at evaluated
          rw [recurse evaluated]
          simp [decisionSeconds, decision]
      | some decidedAt =>
          simp only [effectiveSlaHours, decision] at evaluated
          cases outcome : isBreached (some hours) stage decidedAt with
          | error error => simp [outcome, bind, Except.bind] at evaluated
          | ok breached =>
              cases later : countBreaches contexts (some hours) rest with
              | error error => simp [outcome, later, bind, Except.bind] at evaluated
              | ok others =>
                  simp only [outcome, later, bind, Except.bind, pure, Except.pure, Except.ok.injEq] at evaluated
                  subst evaluated
                  simp [recurse later, decisionSeconds, decision]

theorem averageDecisionSeconds_eq (world : World) (scope : Scope) :
    (approvalThroughput world scope).averageDecisionSeconds = average (decisionTimes world (inThroughput world scope)) := by
  unfold decisionTimes
  rw [List.filterMap_filter]
  rfl

/-- The SLA figures count the stages of the report, and average those of the database. -/
theorem slaMetrics_decisions {sla : SLAMetrics} {hours : Hours} {now cutoff : Datetime} (undivided : scope.department = none)
    (computed : getSlaMetrics world viewer (some hours) scope now cutoff = .ok sla) :
    sla.decidedStageCount = (decisionTimes world (inDelays world scope)).length ∧
      sla.averageApprovalDurationSeconds = average (decisionTimes world (inThroughput world scope)) := by
  unfold getSlaMetrics at computed
  cases dates : validateDateRange scope.createdAfter scope.createdBefore with
  | error error => simp [dates, bind, Except.bind] at computed
  | ok _ =>
      cases aged : pendingAges world viewer (some hours) scope now cutoff with
      | error error => simp [dates, aged, bind, Except.bind] at computed
      | ok ages =>
          cases counted : countBreaches (slaContexts world viewer scope cutoff) (some hours)
              (filterDecidedScope scope (slaContexts world viewer scope cutoff) (fetchDecidedStages world scope)) with
          | error error => simp [dates, aged, counted, bind, Except.bind] at computed
          | ok counts =>
              simp only [dates, aged, counted, bind, Except.bind, pure, Except.pure, Except.ok.injEq] at computed
              subst computed
              constructor
              · rw [← (decisionTimes_delays world viewer scope cutoff).length_eq]
                exact countBreaches_overridden counted
              · simp only [undivided, Option.isNone_none, if_true]
                exact averageDecisionSeconds_eq world scope

end Averages

section Law

/-- The two averages agree, and the number of decided stages is how many each of them ranges over. -/
structure AveragesAgree (world : World) (scope : Scope) (sla : SLAMetrics) (report : ApprovalDelayReport) : Prop where
  delays : report.averageApprovalSeconds = average (decisionTimes world (inDelays world scope))
  throughput : sla.averageApprovalDurationSeconds = average (decisionTimes world (inThroughput world scope))
  equal : report.averageApprovalSeconds = sla.averageApprovalDurationSeconds
  delayed : sla.decidedStageCount = (decisionTimes world (inDelays world scope)).length
  averaged : sla.decidedStageCount = (decisionTimes world (inThroughput world scope)).length

/-- The stages that only one of the averages counts are as many, and took as long in all, as those that only the other
counts. -/
def Balanced (world : World) (scope : Scope) : Prop :=
  let delaysOnly := decisionTimes world fun stage => inDelays world scope stage && !inThroughput world scope stage
  let throughputOnly := decisionTimes world fun stage => inThroughput world scope stage && !inDelays world scope stage
  delaysOnly.length = throughputOnly.length ∧ delaysOnly.sum = throughputOnly.sum

/-- The two averages agree over one number of stages exactly if what only one of them counts is balanced. -/
theorem decision_averages_iff (world : World) (viewer other : Option UUID) (scope : Scope) (hours : Hours) (limit : Nat)
    (now cutoff reportNow reportCutoff : Datetime) {sla : SLAMetrics} {report : ApprovalDelayReport}
    (undivided : scope.department = none)
    (computed : getSlaMetrics world viewer (some hours) scope now cutoff = .ok sla)
    (reported : getApprovalDelays world other scope limit reportNow reportCutoff = .ok report) :
    AveragesAgree world scope sla report ↔ Balanced world scope := by
  have delays := averageApprovalSeconds_eq reported
  obtain ⟨counted, throughput⟩ := slaMetrics_decisions undivided computed
  have left := decisionTimes_split world (inDelays world scope) (inThroughput world scope)
  have right := decisionTimes_split world (inThroughput world scope) (inDelays world scope)
  have shared : (fun stage => inThroughput world scope stage && inDelays world scope stage) =
      fun stage => inDelays world scope stage && inThroughput world scope stage := funext fun _ => Bool.and_comm ..
  rw [shared] at right
  have lengths := left.length_eq
  have others := right.length_eq
  have sums := left.sum_eq
  have totals := right.sum_eq
  rw [List.length_append] at lengths others
  rw [List.sum_append] at sums totals
  unfold Balanced
  constructor
  · intro agree
    have same : (decisionTimes world (inDelays world scope)).length =
        (decisionTimes world (inThroughput world scope)).length := agree.delayed.symm.trans agree.averaged
    refine ⟨by omega, ?_⟩
    have equal := agree.equal
    rw [delays, throughput, average_eq_iff same] at equal
    linarith
  · intro balanced
    obtain ⟨number, total⟩ := balanced
    have same : (decisionTimes world (inDelays world scope)).length =
        (decisionTimes world (inThroughput world scope)).length := by omega
    refine ⟨delays, throughput, ?_, counted, counted.trans same⟩
    rw [delays, throughput, average_eq_iff same]
    linarith

end Law

section Sample

/-- The administrator withdraws the request whose first stage was approved. -/
def withdrawal : Operation := .withdrawRequest sampleAdmin 1 3

def hubAdvancedWithdrawn : World := (withdrawal.program.run environment hubAdvanced).2

theorem exists_of_isOk {ε α : Type} {result : Except ε α} (ok : result.isOk = true) : ∃ value, result = .ok value := by
  cases result with
  | ok value => exact ⟨value, rfl⟩
  | error error => cases ok

theorem decision_averages_sample : ∃ sla report,
    getSlaMetrics hubAdvanced none (some (.finite 24)) wholeCompany hubAdvanced.now hubAdvanced.now = .ok sla ∧
      getApprovalDelays hubAdvanced none wholeCompany 10 hubAdvanced.now hubAdvanced.now = .ok report ∧
      AveragesAgree hubAdvanced wholeCompany sla report := by
  have computable : (getSlaMetrics hubAdvanced none (some (.finite 24)) wholeCompany hubAdvanced.now
      hubAdvanced.now).isOk = true := by decide +kernel
  have reportable : (getApprovalDelays hubAdvanced none wholeCompany 10 hubAdvanced.now hubAdvanced.now).isOk = true := by
    decide +kernel
  obtain ⟨sla, computed⟩ := exists_of_isOk computable
  obtain ⟨report, reported⟩ := exists_of_isOk reportable
  refine ⟨sla, report, computed, reported, ?_⟩
  exact (decision_averages_iff hubAdvanced none none wholeCompany (.finite 24) 10 _ _ _ _ rfl computed reported).mpr
    ⟨by decide +kernel, by decide +kernel⟩

/-- The decision on a request that was withdrawn later stays in the report and leaves the figures of the database. -/
theorem decision_averages_disagree_withdrawn :
    (getSlaMetrics hubAdvancedWithdrawn none (some (.finite 24)) wholeCompany hubAdvancedWithdrawn.now
        hubAdvancedWithdrawn.now).toOption.map SLAMetrics.averageApprovalDurationSeconds = some none ∧
      (getApprovalDelays hubAdvancedWithdrawn none wholeCompany 10 hubAdvancedWithdrawn.now
        hubAdvancedWithdrawn.now).toOption.map ApprovalDelayReport.averageApprovalSeconds = some (some 345600) := by
  constructor
  · decide +kernel
  · decide +kernel

end Sample

end AutomationHub.System
