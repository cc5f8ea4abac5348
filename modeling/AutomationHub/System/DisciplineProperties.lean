import AutomationHub.System.Discipline
import AutomationHub.Workflow.EngineProperties

/-!
Every operation keeps the discipline, whatever the database replies.
-/

set_option autoImplicit false

namespace AutomationHub.System

open Foundation Model Database Services Auth Workflow Program

variable {operation : Operation} {alarm : Alarm} {progress : Progress}

theorem permits_of_progress {request : Call} (calm : alarm ≠ .raised) (permitted : progress.Permits operation request) :
    (Phase.deciding progress alarm).Permits operation request := by
  cases alarm with
  | raised => exact absurd rfl calm
  | silent => exact permitted
  | reported => exact permitted

/-- An auxiliary call is permitted in every phase that has no alarm to report; a decision in progress fetches the
request of its own stage only. -/
theorem Progress.permits_auxiliary {request : Call} (auxiliary : Auxiliary request)
    (kept : (∀ stage written request, progress ≠ .decided stage written request) ∨
      ∀ id, request ≠ .query (.getRequest id)) :
    progress.Permits operation request := by
  rcases progress with _ | stage | ⟨stage, written, _ | seen⟩ | _ | _ <;> cases request with
  | query statement =>
      cases statement <;> first
        | exact auxiliary
        | exact kept.elim (fun other => absurd rfl (other _ _ _)) fun unread => absurd rfl (unread _)
        | exact nomatch auxiliary
  | log line => cases line <;> first | exact auxiliary | exact nomatch auxiliary
  | _ => trivial

theorem Progress.permits_rollback (name : String) (count : Nat) :
    progress.Permits operation (.log (.rollback name count)) := by
  rcases progress with _ | stage | ⟨stage, written, _ | seen⟩ | _ | _ <;> trivial

/-- An auxiliary call leaves the progress as it is, unless it fetches the request of a decision in progress. -/
theorem Progress.after_auxiliary {statement : Query} (auxiliary : Auxiliary (.query statement))
    (reply : Except DatabaseError statement.Result)
    (kept : (∀ stage written request, progress ≠ .decided stage written request) ∨ ∀ id, statement ≠ .getRequest id) :
    progress.after statement reply = (progress, false) := by
  cases progress with
  | decided stage written request =>
      cases kept with
      | inl other => exact absurd rfl (other stage written request)
      | inr unread =>
          cases request <;> cases statement <;>
            first | rfl | exact absurd rfl (unread _) | exact nomatch auxiliary
  | _ => cases statement <;> first | rfl | exact nomatch auxiliary

theorem auxiliary_keeps {phase : Phase} {request : Call} (calm : alarm ≠ .raised)
    (kept : (∀ stage written request, progress ≠ .decided stage written request) ∨ ∀ id, request ≠ .query (.getRequest id))
    (auxiliary : Auxiliary request) (same : phase = .deciding progress alarm) :
    (discipline operation).permits phase request ∧ ∀ reply after,
      (discipline operation).answers phase request reply after → after = .deciding progress alarm := by
  subst same
  refine ⟨permits_of_progress calm (Progress.permits_auxiliary auxiliary kept), ?_⟩
  rintro reply after ⟨-, rfl⟩
  cases request with
  | query statement =>
      have unmoved : progress.after statement reply = (progress, false) :=
        Progress.after_auxiliary auxiliary reply (kept.imp_right fun unread id same => unread id (congrArg _ same))
      simp only [Phase.after, unmoved, cond_false]
  | log line =>
      cases alarm with
      | raised => exact absurd rfl calm
      | _ => rfl
  | _ => rfl

section Rollback

variable {α : Type} {post : Except AppError α → Phase → Prop} {line : LogLine}

/-- One compensating statement: either it brings the decision one phase back, or its failure is reported. -/
private theorem ensures_compensate {statement : Query} {next : Progress} {rest : Service α} (calm : alarm ≠ .raised)
    (permitted : progress.Permits operation (.query statement))
    (moves : ∀ reply, progress.after statement reply = (next, reply.isOk.not)) (reporting : AlarmLine line)
    (continued : ∀ alarm, alarm ≠ .raised → rest.Ensures (discipline operation) post (.deciding next alarm)) :
    (do tryCatch (compensation statement) (fun _ => .call (Call.log line : hubSignature.Call) fun _ => .done ())
        rest).Ensures (discipline operation) post (.deciding progress alarm) := by
  simp only [ensures_bind, ensures_tryCatch, ensures_compensation]
  refine ⟨permits_of_progress calm permitted, ?_⟩
  rintro reply after ⟨-, rfl⟩
  simp only [Phase.after, moves reply]
  cases reply with
  | ok result => exact continued alarm calm
  | error error =>
      refine ⟨reporting, ?_⟩
      rintro ⟨⟩ after ⟨-, rfl⟩
      exact continued .reported (by simp)

variable {report : RollbackReport hubSignature} {error : AppError}

theorem rested_fetched (stage : WorkflowStageRecord) (calm : alarm ≠ .raised) :
    (Phase.deciding (.fetched stage) alarm).Rested := by
  cases alarm with
  | raised => exact absurd rfl calm
  | _ => trivial

private theorem ensures_rollback_decided {stage written : WorkflowStageRecord} {request : Option RequestRecord}
    (reporting : ∃ line, report.failed = .log line ∧ AlarmLine line) (calm : alarm ≠ .raised) :
    (Transaction.rollback report error [compensateDecision stage.id written] : Service α).Ensures
      (discipline operation) (fun result phase => result = .error error ∧ phase.Rested) (.deciding (.decided stage written request) alarm) := by
  obtain ⟨line, failed, alarming⟩ := reporting
  unfold Transaction.rollback
  rw [failed]
  refine ensures_compensate calm ?_ ?_ alarming fun alarm calm => ⟨rfl, rested_fetched stage calm⟩
  · cases request <;> exact ⟨rfl, rfl⟩
  · intro reply
    cases request <;> rfl

private theorem ensures_rollback_created {stage written newStage : WorkflowStageRecord} {request : RequestRecord}
    (reporting : ∃ line, report.failed = .log line ∧ AlarmLine line) (calm : alarm ≠ .raised) :
    (Transaction.rollback report error [compensateStageCreation newStage, compensateDecision stage.id written] :
      Service α).Ensures (discipline operation) (fun result phase => result = .error error ∧ phase.Rested)
        (.deciding (.created stage written request newStage) alarm) := by
  obtain ⟨line, failed, alarming⟩ := reporting
  unfold Transaction.rollback compensateStageCreation
  simp only [ensures_bind, ensures_tryCatch]
  refine ⟨permits_of_progress calm ⟨rfl, rfl⟩, ?_⟩
  rintro reply after ⟨-, rfl⟩
  have resume : ∀ alarm, alarm ≠ .raised → (Transaction.rollback report error [compensateDecision stage.id written] :
      Service α).Ensures (discipline operation) (fun result phase => result = .error error ∧ phase.Rested)
        (.deciding (.decided stage written (some request)) alarm) :=
    fun alarm calm => ensures_rollback_decided ⟨line, failed, alarming⟩ calm
  rcases reply with error | deleted
  · rw [failed]
    refine ⟨alarming, ?_⟩
    rintro ⟨⟩ after ⟨-, rfl⟩
    exact resume .reported (by simp)
  · cases deleted with
    | true => exact resume alarm calm
    | false =>
        refine ⟨trivial, ?_⟩
        rintro ⟨⟩ after ⟨-, rfl⟩
        exact resume .reported (by simp)

private theorem ensures_rollback_advanced {stage written newStage : WorkflowStageRecord}
    {original updated : RequestRecord} (reporting : ∃ line, report.failed = .log line ∧ AlarmLine line)
    (calm : alarm ≠ .raised) :
    (Transaction.rollback report error [compensateRequestAdvancement original updated,
      compensateStageCreation newStage, compensateDecision stage.id written] : Service α).Ensures
        (discipline operation) (fun result phase => result = .error error ∧ phase.Rested)
        (.deciding (.advanced stage written original updated (some newStage)) alarm) := by
  obtain ⟨line, failed, alarming⟩ := reporting
  unfold Transaction.rollback
  rw [failed]
  refine ensures_compensate calm ⟨rfl, rfl, rfl, rfl, rfl⟩ (fun _ => rfl) alarming fun alarm calm => ?_
  exact ensures_rollback_created ⟨line, failed, alarming⟩ calm

private theorem ensures_rollback_finished {stage written : WorkflowStageRecord} {original updated : RequestRecord}
    (reporting : ∃ line, report.failed = .log line ∧ AlarmLine line) (calm : alarm ≠ .raised) :
    (Transaction.rollback report error [compensateRequestAdvancement original updated,
      compensateDecision stage.id written] : Service α).Ensures (discipline operation) (fun result phase => result = .error error ∧ phase.Rested)
        (.deciding (.advanced stage written original updated none) alarm) := by
  obtain ⟨line, failed, alarming⟩ := reporting
  unfold Transaction.rollback
  rw [failed]
  refine ensures_compensate calm ⟨rfl, rfl, rfl, rfl, rfl⟩ (fun _ => rfl) alarming fun alarm calm => ?_
  exact ensures_rollback_decided ⟨line, failed, alarming⟩ calm

/-- The compensations that are registered in each phase of a decision's transaction. -/
def compensationsOf (stageId : UUID) : Progress → List (Service Unit)
  | .decided _ written _ => [compensateDecision stageId written]
  | .created _ written _ newStage => [compensateStageCreation newStage, compensateDecision stageId written]
  | .advanced _ written original updated none =>
      [compensateRequestAdvancement original updated, compensateDecision stageId written]
  | .advanced _ written original updated (some newStage) =>
      [compensateRequestAdvancement original updated, compensateStageCreation newStage, compensateDecision stageId written]
  | _ => []

/-- The stage a decision in its transaction is about. -/
def Progress.stage? : Progress → Option WorkflowStageRecord
  | .decided stage .. | .created stage .. | .advanced stage .. => some stage
  | _ => none

/-- A transaction that raises with the compensations of its phase ends in a phase where the thread may rest. -/
theorem ensures_rollback {stage : WorkflowStageRecord} (located : progress.stage? = some stage)
    (reporting : ∃ line, report.failed = .log line ∧ AlarmLine line)
    (began : ∀ count, ∃ name, report.began count = .log (.rollback name count)) (calm : alarm ≠ .raised) :
    (Program.call (report.began (compensationsOf stage.id progress).length) fun _ =>
      (Transaction.rollback report error (compensationsOf stage.id progress) : Service α)).Ensures
        (discipline operation) (fun result phase => result = .error error ∧ phase.Rested) (.deciding progress alarm) := by
  obtain ⟨name, logging⟩ := began (compensationsOf stage.id progress).length
  rw [logging]
  refine ⟨permits_of_progress calm (Progress.permits_rollback _ _), ?_⟩
  rintro ⟨⟩ after ⟨-, rfl⟩
  have unmoved : ∀ count, (Phase.deciding progress alarm).after (.log (.rollback name count)) () =
      .deciding progress alarm := by
    intro count
    cases alarm with
    | raised => exact absurd rfl calm
    | _ => rfl
  rw [show Phase.after _ (Call.log (LogLine.rollback name _)) PUnit.unit = _ from unmoved _]
  cases progress with
  | unfetched => cases located
  | fetched => cases located
  | decided =>
      cases located
      exact ensures_rollback_decided reporting calm
  | created =>
      cases located
      exact ensures_rollback_created reporting calm
  | advanced _ written original updated newStage =>
      cases located
      cases newStage with
      | none => exact ensures_rollback_finished reporting calm
      | some newStage => exact ensures_rollback_advanced reporting calm

end Rollback

section Body

variable {α : Type} {stage written : WorkflowStageRecord} {request : RequestRecord}

/-- A part of a decision's transaction has ended: the compensations are those of its phase, and `ok` holds of a
returned value and the progress made. -/
def EndsIn (stage : WorkflowStageRecord) (ok : α → Progress → Prop) (result : Except AppError α)
    (registered : List (Service Unit)) (phase : Phase) : Prop :=
  ∃ progress, phase = .deciding progress .silent ∧ progress.stage? = some stage ∧
    registered = compensationsOf stage.id progress ∧ ∀ value, result = .ok value → ok value progress

theorem endsIn_error {ok : α → Progress → Prop} (located : progress.stage? = some stage) (error : AppError) :
    EndsIn stage ok (.error error) (compensationsOf stage.id progress) (.deciding progress .silent) :=
  ⟨progress, rfl, located, rfl, fun _ same => by cases same⟩

theorem endsIn_ok {ok : α → Progress → Prop} {value : α} (located : progress.stage? = some stage)
    (reached : ok value progress) :
    EndsIn stage ok (.ok value) (compensationsOf stage.id progress) (.deciding progress .silent) :=
  ⟨progress, rfl, located, rfl, fun _ same => by cases same; exact reached⟩

private theorem ensures_finishRequest {status : RequestStatus}
    (target : written.status = .approved ∧ status = .completed ∨ written.status = .rejected ∧ status = .rejected) :
    Transaction.Ensures (discipline operation)
      (EndsIn stage fun _ progress => ∃ updated, progress = .advanced stage written request updated none)
      (compensationsOf stage.id (.decided stage written (some request)))
      (.deciding (.decided stage written (some request)) .silent) (finishRequest request status) := by
  unfold finishRequest
  rw [Transaction.ensures_lift_bind, ensures_engineOrTranslate]
  cases valid : validateRequestTransition request.status status with
  | error error => exact endsIn_error rfl _
  | ok _ =>
      dsimp only [Transaction.Then, Except.mapError]
      rw [Transaction.ensures_lift_bind, ensures_utcNow]
      refine ⟨trivial, ?_⟩
      rintro completedAt after ⟨-, rfl⟩
      dsimp only [Transaction.Then]
      rw [Transaction.ensures_lift_bind, ensures_orTranslate]
      refine ⟨⟨rfl, rfl, rfl, rfl, nonterminal_of_validateRequestTransition valid, target⟩, ?_⟩
      · rintro reply after ⟨-, rfl⟩
        cases reply with
        | error error => exact endsIn_error rfl _
        | ok updated => exact endsIn_ok rfl ⟨updated, rfl⟩

private theorem ensures_openNextStage {plan : StagePlan} (approved : written.status = .approved)
    (next : plan.stageOrder = stage.stageOrder + 1) :
    Transaction.Ensures (discipline operation)
      (EndsIn stage fun _ progress => ∃ updated newStage,
        progress = .advanced stage written request updated (some newStage))
      (compensationsOf stage.id (.decided stage written (some request)))
      (.deciding (.decided stage written (some request)) .silent) (openNextStage request plan) := by
  unfold openNextStage
  rw [Transaction.ensures_lift_bind, ensures_orTranslate]
  refine ⟨⟨approved, rfl, next⟩, ?_⟩
  rintro reply after ⟨-, rfl⟩
  cases reply with
  | error error => exact endsIn_error rfl _
  | ok newStage =>
      dsimp only [Transaction.Then, Except.mapError]
      rw [Transaction.registerCompensation_bind, Transaction.ensures_register, Transaction.ensures_lift_bind,
        ensures_engineOrTranslate]
      cases valid : validateRequestTransition request.status .inReview with
      | error error => exact endsIn_error (rfl : (Progress.created stage written request newStage).stage? = some stage) _
      | ok _ =>
          dsimp only [Transaction.Then, Except.mapError]
          rw [Transaction.ensures_lift_bind, ensures_orTranslate]
          refine ⟨⟨rfl, rfl, rfl, rfl, rfl, nonterminal_of_validateRequestTransition valid⟩, ?_⟩
          · rintro reply after ⟨-, rfl⟩
            cases reply with
            | error error => exact endsIn_error (rfl : (Progress.created stage written request newStage).stage? = some stage) _
            | ok updated => exact endsIn_ok rfl ⟨updated, newStage, rfl⟩

/-- The reads after an approval remember the request; the plan is that of the stage after the one decided. -/
private theorem ensures_planAfterApproval (viewer : Option UUID) (stage written : WorkflowStageRecord) :
    (planAfterApproval viewer stage).Ensures (discipline operation)
      (fun result phase => ∃ seen, phase = .deciding (.decided stage written seen) .silent ∧
        ∀ request planned, result = .ok (request, planned) → seen = some request ∧
          ∀ plan, planned = some plan → plan.stageOrder = stage.stageOrder + 1)
      (.deciding (.decided stage written none) .silent) := by
  unfold planAfterApproval
  rw [ensures_bind, ensures_orNotFound]
  refine ⟨rfl, ?_⟩
  rintro reply after ⟨-, rfl⟩
  cases reply with
  | error error => exact ⟨none, rfl, fun _ _ same => by cases same⟩
  | ok request =>
      have failed : ∀ error : AppError, ∃ seen,
          Phase.deciding (.decided stage written (some request)) .silent = .deciding (.decided stage written seen) .silent ∧
          ∀ request planned, (.error error : Except AppError (RequestRecord × Option StagePlan)) = .ok (request, planned) →
            seen = some request ∧ ∀ plan, planned = some plan → plan.stageOrder = stage.stageOrder + 1 :=
        fun error => ⟨some request, rfl, fun _ _ same => by cases same⟩
      dsimp only [Then, Except.mapError]
      rw [ensures_bind, ensures_orNotFound]
      refine ⟨rfl, ?_⟩
      rintro reply after ⟨-, rfl⟩
      rcases reply with error | definition
      · exact failed _
      · dsimp only [Then, Except.mapError]
        rw [ensures_bind, ensures_orRaise]
        refine ⟨rfl, ?_⟩
        rintro reply after ⟨-, rfl⟩
        rcases reply with error | highest
        · exact failed _
        · dsimp only [Then, Except.mapError]
          rw [ensures_bind, ensures_orNotFound]
          refine ⟨rfl, ?_⟩
          rintro reply after ⟨-, rfl⟩
          rcases reply with error | requester
          · exact failed _
          · dsimp only [Then, Except.mapError]
            rw [ensures_bind]
            have quiet : (fetchApproversForNextStage definition stage.stageOrder request requester).Only fun call =>
                Auxiliary call ∧ ∀ id, call ≠ Call.query (.getRequest id) :=
              only_fetchApproversForNextStage _ _ _ _ fun _ _ _ _ => ⟨rfl, fun _ same => by cases same⟩
            refine (quiet.ensures (· = .deciding (.decided stage written (some request)) .silent)
              (fun _ _ same allowed => auxiliary_keeps (by simp) (.inr allowed.2) allowed.1 same) rfl).mono ?_
            rintro (error | approvers) phase rfl
            · exact failed _
            · dsimp only [Then]
              rw [ensures_bind, ensures_engineOrRaise]
              cases planning : planNextStage definition stage.stageOrder highest requester approvers with
              | error error => exact failed _
              | ok planned =>
                  refine ⟨some request, rfl, ?_⟩
                  rintro _ _ ⟨⟩
                  refine ⟨rfl, ?_⟩
                  rintro plan rfl
                  obtain ⟨-, -, entry, content, order⟩ := planNextStage_ok planning
                  exact content.stageOrder.trans order

/-- The phases at the end of a decision's transaction that has not raised. -/
def Completed (stage written : WorkflowStageRecord) (advancement : DecisionAdvancement) (progress : Progress) : Prop :=
  (∃ original updated newStage, progress = .advanced stage written original updated newStage) ∧
    (advancement.auditAction = .stageApproved ∨ advancement.auditAction = .stageRejected)

private theorem ensures_advanceAfterApproval (viewer : Option UUID) (approved : written.status = .approved) :
    Transaction.Ensures (discipline operation) (EndsIn stage (Completed stage written))
      (compensationsOf stage.id (.decided stage written none)) (.deciding (.decided stage written none) .silent)
      (advanceAfterApproval viewer stage) := by
  unfold advanceAfterApproval
  rw [Transaction.ensures_lift_bind]
  refine (ensures_planAfterApproval viewer stage written).mono ?_
  rintro (error | ⟨request, planned⟩) phase ⟨seen, rfl, content⟩
  · exact endsIn_error (rfl : (Progress.decided stage written seen).stage? = some stage) _
  · obtain ⟨rfl, next⟩ := content request planned rfl
    dsimp only [Transaction.Then]
    cases planned with
    | none =>
        rw [Transaction.ensures_bind]
        refine (ensures_finishRequest (.inl ⟨approved, rfl⟩)).mono ?_
        rintro (error | value) registered phase ⟨progress, rfl, located, rfl, reached⟩
        · exact endsIn_error located _
        · obtain ⟨updated, rfl⟩ := reached value rfl
          exact endsIn_ok rfl ⟨⟨request, updated, none, rfl⟩, .inl rfl⟩
    | some plan =>
        rw [Transaction.ensures_bind]
        refine (ensures_openNextStage approved (next plan rfl)).mono ?_
        rintro (error | value) registered phase ⟨progress, rfl, located, rfl, reached⟩
        · exact endsIn_error located _
        · obtain ⟨updated, newStage, rfl⟩ := reached value rfl
          exact endsIn_ok rfl ⟨⟨request, updated, some newStage, rfl⟩, .inl rfl⟩

private theorem ensures_finalizeRejection (rejected : written.status = .rejected) :
    Transaction.Ensures (discipline operation) (EndsIn stage (Completed stage written))
      (compensationsOf stage.id (.decided stage written none)) (.deciding (.decided stage written none) .silent)
      (finalizeRejection stage) := by
  unfold finalizeRejection
  rw [Transaction.ensures_lift_bind, ensures_orNotFound]
  refine ⟨rfl, ?_⟩
  rintro reply after ⟨-, rfl⟩
  cases reply with
  | error error => exact endsIn_error (rfl : (Progress.decided stage written none).stage? = some stage) _
  | ok request =>
      dsimp only [Transaction.Then, Except.mapError]
      rw [Transaction.ensures_bind]
      refine (ensures_finishRequest (.inr ⟨rejected, rfl⟩)).mono ?_
      rintro (error | value) registered phase ⟨progress, rfl, located, rfl, reached⟩
      · exact endsIn_error located _
      · obtain ⟨updated, rfl⟩ := reached value rfl
        exact endsIn_ok rfl ⟨⟨request, updated, none, rfl⟩, .inr rfl⟩

private theorem ensures_recordDecision (identity : AuthenticatedIdentity) (note : Option String)
    {body : Transaction hubSignature AppError DecisionAdvancement}
    (advanced : Transaction.Ensures (discipline operation) (EndsIn stage (Completed stage written))
      (compensationsOf stage.id (.decided stage written none)) (.deciding (.decided stage written none) .silent) body) :
    Transaction.Ensures (discipline operation)
      (EndsIn stage fun _ progress => ∃ original updated newStage,
        progress = .advanced stage written original updated newStage)
      (compensationsOf stage.id (.decided stage written none)) (.deciding (.decided stage written none) .silent) (do
        let advancement ← body
        let _ ← orTranslate (.recordEvent advancement.auditAction (some identity.userId) (some stage.requestId)
          (some (.stageDecided stage.id note)) none)
        return (written, advancement)) := by
  rw [Transaction.ensures_bind]
  refine advanced.mono ?_
  rintro (error | advancement) registered phase ⟨progress, rfl, located, rfl, reached⟩
  · exact endsIn_error located _
  · obtain ⟨⟨original, updated, newStage, rfl⟩, action⟩ := reached advancement rfl
    dsimp only [Transaction.Then]
    rw [Transaction.ensures_lift_bind, ensures_orTranslate]
    refine ⟨action, ?_⟩
    rintro reply after ⟨-, rfl⟩
    cases reply with
    | error error =>
        exact endsIn_error (rfl : (Progress.advanced stage written original updated newStage).stage? = some stage) _
    | ok entry => exact endsIn_ok rfl ⟨original, updated, newStage, rfl⟩

private theorem ensures_afterDecision (decision : Decision) (identity : AuthenticatedIdentity) (note : Option String)
    (recorded : written.status = decision.stageStatus) :
    Transaction.Ensures (discipline operation)
      (EndsIn stage fun _ progress => ∃ original updated newStage,
        progress = .advanced stage written original updated newStage)
      (compensationsOf stage.id (.decided stage written none)) (.deciding (.decided stage written none) .silent) (do
        let advancement ← match decision with
          | .approve => advanceAfterApproval (some identity.userId) stage
          | .reject => finalizeRejection stage
        let _ ← orTranslate (.recordEvent advancement.auditAction (some identity.userId) (some stage.requestId)
          (some (.stageDecided stage.id note)) none)
        return (written, advancement)) := by
  cases decision with
  | approve => exact ensures_recordDecision identity note (ensures_advanceAfterApproval _ recorded)
  | reject => exact ensures_recordDecision identity note (ensures_finalizeRejection recorded)

/-- Where a decision's transaction may end: at rest, and with its writes in place if it returns. -/
def Concluded (result : Except AppError α) (phase : Phase) : Prop :=
  phase.Rested ∧ ∀ outcome, result = .ok outcome → ∃ stage written original updated newStage,
    phase = .deciding (.advanced stage written original updated newStage) .silent

private theorem reporting_decision (decision : Decision) :
    ∃ line, (transactionReport ("decide_stage_" ++ decision.stageStatus.value)).failed = .log line ∧ AlarmLine line := by
  cases decision with
  | approve => exact ⟨_, rfl, .inl rfl⟩
  | reject => exact ⟨_, rfl, .inr rfl⟩

private theorem settles_afterDecision (decision : Decision) (identity : AuthenticatedIdentity) (note : Option String)
    (recorded : written.status = decision.stageStatus) :
    Transaction.Ensures (discipline operation)
      (Transaction.Settles (discipline operation)
        (transactionReport ("decide_stage_" ++ decision.stageStatus.value)) Concluded)
      [compensateDecision stage.id written] (.deciding (.decided stage written none) .silent) (do
        let advancement ← match decision with
          | .approve => advanceAfterApproval (some identity.userId) stage
          | .reject => finalizeRejection stage
        let _ ← orTranslate (.recordEvent advancement.auditAction (some identity.userId) (some stage.requestId)
          (some (.stageDecided stage.id note)) none)
        return (written, advancement)) := by
  refine (ensures_afterDecision decision identity note recorded).mono ?_
  rintro (error | outcome) registered phase ⟨progress, rfl, located, rfl, reached⟩
  · refine (ensures_rollback located (reporting_decision decision) (fun _ => ⟨_, rfl⟩) (by simp)).mono ?_
    rintro result phase ⟨rfl, rested⟩
    exact ⟨rested, fun _ same => by cases same⟩
  · obtain ⟨original, updated, newStage, rfl⟩ := reached outcome rfl
    exact ⟨trivial, fun _ _ => ⟨stage, written, original, updated, newStage, rfl⟩⟩

private theorem ensures_transaction (decision : Decision) (identity : AuthenticatedIdentity) (version : Nat)
    (note : Option String)
    (permitted : ∀ statement, decisionTarget statement = some (stage.id, version) →
      (discipline operation).permits (.deciding (.fetched stage) .silent) (.query statement)) :
    (transaction ("decide_stage_" ++ decision.stageStatus.value)
      (decideStageBody identity stage.id stage decision version note)).Ensures (discipline operation) Concluded
        (.deciding (.fetched stage) .silent) := by
  have refused : ∀ error : AppError, Transaction.Settles (discipline operation)
      (transactionReport ("decide_stage_" ++ decision.stageStatus.value)) Concluded
      (.error error : Except AppError (WorkflowStageRecord × DecisionAdvancement)) []
      (.deciding (.fetched stage) .silent) := by
    refine fun error => ⟨trivial, ?_⟩
    rintro ⟨⟩ after ⟨-, rfl⟩
    exact ⟨trivial, fun _ same => by cases same⟩
  refine (Transaction.ensures_enact ..).mpr ?_
  unfold decideStageBody
  rw [Transaction.ensures_lift_bind]
  cases decision with
  | approve =>
      refine (ensures_orTranslate ..).mpr ⟨permitted _ rfl, ?_⟩
      rintro reply after ⟨truth, rfl⟩
      cases reply with
      | error error => exact refused _
      | ok written => exact settles_afterDecision .approve identity note truth.2.2
  | reject =>
      refine (ensures_orTranslate ..).mpr ⟨permitted _ rfl, ?_⟩
      rintro reply after ⟨truth, rfl⟩
      cases reply with
      | error error => exact refused _
      | ok written => exact settles_afterDecision .reject identity note truth.2.2

end Body

section Operations

variable {identity : AuthenticatedIdentity} {stageId : UUID} {expected : Option Nat}

private theorem rested_of_only {α : Type} {program : Service α} (only : program.Only Auxiliary)
    (unread : ∀ stage written request, progress ≠ .decided stage written request)
    (rested : (Phase.deciding progress .silent).Rested) :
    program.Ensures (discipline operation) (fun _ phase => phase.Rested) (.deciding progress .silent) := by
  refine (only.ensures (· = .deciding progress .silent)
    (fun _ _ same auxiliary => auxiliary_keeps (by simp) (.inl unread) auxiliary same) rfl).mono ?_
  rintro result phase rfl
  exact rested

theorem ensures_decideStage (decision : Decision) (note : Option String)
    (described : operation.decision = some (identity, stageId, expected)) :
    (decideStage identity stageId decision expected note).Ensures (discipline operation)
      (fun _ phase => phase.Rested) (.deciding .unfetched .silent) := by
  unfold decideStage getByIdForCompany
  rw [ensures_bind, ensures_bind, ensures_orNotFound]
  refine ⟨trivial, ?_⟩
  rintro (reply : Except DatabaseError WorkflowStageRecord) after ⟨truth, rfl⟩
  cases reply with
  | error error => trivial
  | ok stage =>
      obtain rfl : stage.id = stageId := truth
      dsimp only [Then, Except.mapError]
      split
      · trivial
      · rw [pure_eq, ensures_done]
        dsimp only [Then]
        split
        · exact rested_of_only (only_replayIdempotentDecision stage) (fun _ _ _ same => by cases same) trivial
        · rw [ensures_bind]
          refine (ensures_authorize identity (identity.mayDecide stage) "workflow stage"
            (· = .deciding (.fetched stage) .silent)
            (fun _ _ same auxiliary => auxiliary_keeps (by simp) (.inl fun _ _ _ same => by cases same) auxiliary same)
            rfl).mono ?_
          rintro (error | granted) phase ⟨rfl, right⟩
          · trivial
          · cases granted with
            | error error => trivial
            | ok _ =>
                have permitted := right rfl
                dsimp only [Then]
                rw [ensures_bind, ensures_engineOrTranslate]
                cases validateStageTransition stage.status decision.stageStatus with
                | error error => trivial
                | ok _ =>
                    dsimp only [Then, Except.mapError]
                    rw [ensures_bind]
                    refine (ensures_transaction decision identity _ note ?_).mono ?_
                    · intro statement target
                      cases statement <;> cases target <;> exact ⟨identity, expected, described, rfl, permitted, rfl⟩
                    · rintro (error | outcome) phase ⟨rested, concluded⟩
                      · exact rested
                      · obtain ⟨stage', written, original, updated, newStage, rfl⟩ := concluded outcome rfl
                        exact rested_of_only (only_concludeDecision ..) (fun _ _ _ same => by cases same) trivial

/-- The phases of a thread that takes no decision. -/
def Idle (phase : Phase) : Prop := ∃ errand, phase = .other errand

theorem Phase.after_other (errand : Errand) (request : Call) (reply : request.Reply) :
    Idle ((Phase.other errand).after request reply) := by
  cases request with
  | query statement => cases errand <;> cases statement <;> rcases reply with _ | _ <;> exact ⟨_, rfl⟩
  | _ => cases errand <;> exact ⟨_, rfl⟩

private theorem idle_keeps {request : Call} {phase : Phase} (idle : Idle phase)
    (permitted : phase.Permits operation request) :
    (discipline operation).permits phase request ∧
      ∀ reply after, (discipline operation).answers phase request reply after → Idle after := by
  obtain ⟨errand, rfl⟩ := idle
  refine ⟨permitted, ?_⟩
  rintro reply after ⟨-, rfl⟩
  exact Phase.after_other errand request reply

theorem Operation.allowed_auxiliary {request : Call} (auxiliary : Auxiliary request) : operation.Allowed request := by
  cases operation <;> first
    | exact auxiliary
    | exact Auxiliary.requestCall auxiliary
    | exact Auxiliary.jobCall auxiliary

/-- A call is permitted in every idle phase, unless it records an escalation in the stage or in the audit log. -/
private theorem idle_permits {request : Call} {phase : Phase} (idle : Idle phase) (allowed : operation.Allowed request)
    (unassigning : ∀ stageId version assignedTo assignedRole,
      request ≠ .query (.escalateStage stageId version assignedTo assignedRole))
    (unrecording : ∀ actorId requestId metadata companyId,
      request ≠ .query (.recordEvent .stageEscalated actorId requestId metadata companyId)) :
    phase.Permits operation request := by
  obtain ⟨errand, rfl⟩ := idle
  cases request with
  | query statement =>
      cases statement with
      | escalateStage => exact absurd rfl (unassigning _ _ _ _)
      | recordEvent action actorId requestId metadata companyId =>
          cases action <;> cases errand <;> first | exact allowed | exact absurd rfl (unrecording _ _ _ _)
      | _ => cases errand <;> exact allowed
  | _ => cases errand <;> exact allowed

private theorem idle_permits_auxiliary {request : Call} {phase : Phase} (idle : Idle phase)
    (auxiliary : Auxiliary request) : phase.Permits operation request :=
  idle_permits idle (Operation.allowed_auxiliary auxiliary) (fun _ _ _ _ same => by cases same; cases auxiliary)
    fun _ _ _ _ same => by cases same; cases auxiliary

private theorem ensures_escalation (allowed : ∀ request, JobCall request → operation.Allowed request)
    (stage : WorkflowStageRecord) :
    (transaction "escalate_stage" (escalateStageBody stage.id stage)).Ensures (discipline operation)
      (fun _ phase => Idle phase) (.other (.fetched stage)) := by
  have logged : ∀ line errand, JobCall (.log line) → (Phase.other errand).Permits operation (.log line) := by
    intro line errand job
    cases errand <;> exact allowed _ job
  refine (Transaction.ensures_enact ..).mpr ?_
  unfold escalateStageBody
  dsimp only
  rw [Transaction.ensures_lift_bind]
  refine (ensures_orTranslate ..).mpr ⟨⟨rfl, rfl, rfl, rfl⟩, ?_⟩
  rintro (reply : Except DatabaseError WorkflowStageRecord) after ⟨truth, rfl⟩
  cases reply with
  | error error =>
      refine ⟨logged (.rollback "escalate_stage" _) (.fetched stage) rfl, ?_⟩
      rintro ⟨⟩ after ⟨-, rfl⟩
      exact ⟨_, rfl⟩
  | ok written =>
      dsimp only [Transaction.Then, Except.mapError]
      rw [Transaction.registerCompensation_bind, Transaction.ensures_register, Transaction.ensures_lift_bind,
        ensures_orTranslate]
      refine ⟨⟨_, rfl, congrArg some truth.1.symm⟩, ?_⟩
      rintro reply after ⟨-, rfl⟩
      cases reply with
      | ok entry => exact ⟨_, rfl⟩
      | error error =>
          refine ⟨logged (.rollback "escalate_stage" _) (.reassigned stage written) rfl, ?_⟩
          rintro ⟨⟩ after ⟨-, rfl⟩
          simp only [Transaction.rollback, ensures_bind, ensures_tryCatch, ensures_compensation]
          refine ⟨⟨truth.1.symm, rfl, rfl, rfl⟩, ?_⟩
          rintro (reply : Except DatabaseError WorkflowStageRecord) after ⟨-, rfl⟩
          cases reply with
          | ok restored => exact ⟨_, rfl⟩
          | error error =>
              refine ⟨logged (.compensationFailed "escalate_stage") .away rfl, ?_⟩
              rintro ⟨⟩ after ⟨-, rfl⟩
              exact ⟨_, rfl⟩

private theorem ensures_escalateStage (allowed : ∀ request, JobCall request → operation.Allowed request)
    (stageId : UUID) (phase : Phase) (idle : Idle phase) :
    (Services.escalateStage stageId).Ensures (discipline operation) (fun _ final => Idle final) phase := by
  unfold Services.escalateStage
  rw [ensures_bind]
  refine (ensures_orNotFound ..).mpr ⟨idle_permits idle (allowed _ trivial) (by simp) (by simp), ?_⟩
  obtain ⟨errand, rfl⟩ := idle
  rintro (reply : Except DatabaseError WorkflowStageRecord) after ⟨truth, rfl⟩
  cases reply with
  | error error => exact Phase.after_other errand _ _
  | ok stage =>
      obtain rfl : stage.id = stageId := truth
      have fetched : (Phase.other errand).after (.query (.getStage stage.id)) (.ok stage) = .other (.fetched stage) := by
        cases errand <;> rfl
      dsimp only [Then, Except.mapError]
      rw [fetched, ensures_bind]
      refine (ensures_escalation allowed stage).mono ?_
      rintro (error | written) phase idle
      · exact idle
      · dsimp only [Then]
        split
        · exact (only_concludeEscalation ..).ensures Idle
            (fun _ _ idle auxiliary => idle_keeps idle (idle_permits_auxiliary idle auxiliary)) idle
        · exact idle

private theorem ensures_idle_of_only {α : Type} {program : Service α} (only : program.Only RequestCall)
    (allowed : ∀ request, RequestCall request → operation.Allowed request) :
    program.Ensures (discipline operation) (fun _ final => Idle final) (.other .away) := by
  refine only.ensures Idle (fun _ request idle requestCall => idle_keeps idle (idle_permits idle (allowed _ requestCall) ?_ ?_))
    ⟨_, rfl⟩
  · rintro _ _ _ _ rfl
    cases requestCall
  · rintro _ _ _ _ rfl
    cases requestCall

private theorem ensures_reading {α : Type} {program : Service α} (only : program.Only Auxiliary) :
    program.Ensures (discipline operation) (fun _ final => Idle final) (.other .away) :=
  only.ensures Idle (fun _ _ idle auxiliary => idle_keeps idle (idle_permits_auxiliary idle auxiliary)) ⟨_, rfl⟩

/-- The phase in which a thread of the operation starts. -/
def Operation.start (operation : Operation) : Phase :=
  match operation.decision with
  | some _ => .deciding .unfetched .silent
  | none => .other .away

theorem ensures_discipline (operation : Operation) :
    operation.program.Ensures (discipline operation) (fun _ final => final.Rested) operation.start := by
  have compositional : Compositional fun {α} (program : Service α) => ∀ phase, Idle phase →
      program.Ensures (discipline operation) (fun _ final => Idle final) phase := compositional_ensures ..
  have idle : ∀ {program : Service Unit}, program.Ensures (discipline operation) (fun _ final => Idle final)
      (.other .away) → program.Ensures (discipline operation) (fun _ final => final.Rested) (.other .away) := by
    intro program ensured
    refine ensured.mono ?_
    rintro result final ⟨errand, rfl⟩
    trivial
  have auxiliary : ∀ request, Auxiliary request → ∀ phase, Idle phase →
      (ask request).Ensures (discipline operation) (fun _ final => Idle final) phase := by
    intro request auxiliary phase idle
    exact idle_keeps idle (idle_permits_auxiliary idle auxiliary)
  have enqueue : (∀ request, JobCall request → operation.Allowed request) →
      ∀ queueName payload priority maxAttempts requestId, ∀ phase, Idle phase →
        (ask (.query (.enqueueJob queueName payload priority maxAttempts requestId))).Ensures (discipline operation)
          (fun _ final => Idle final) phase := by
    intro allowed queueName payload priority maxAttempts requestId phase idle
    exact idle_keeps idle (idle_permits idle (allowed _ trivial) (by simp) (by simp))
  cases operation with
  | createRequest =>
      exact idle (ensures_forEffect (ensures_idle_of_only (only_createRequest ..) fun _ allowed => allowed))
  | approve identity stageId expectedVersion decisionNote =>
      exact ensures_forEffect (ensures_decideStage .approve _ rfl)
  | reject identity stageId expectedVersion decisionNote =>
      refine ensures_forEffect ?_
      unfold rejectStage
      split
      · trivial
      · exact ensures_decideStage .reject _ rfl
  | escalateStage stageId =>
      have jobs : ∀ request, JobCall request → (Operation.escalateStage stageId).Allowed request := fun _ job => job
      exact idle (ensures_forEffect (ensures_escalateStage jobs stageId _ ⟨_, rfl⟩))
  | updateRequest =>
      exact idle (ensures_forEffect (ensures_idle_of_only (only_updateRequest ..) fun _ allowed => allowed))
  | withdrawRequest =>
      exact idle (ensures_forEffect (ensures_idle_of_only (only_withdrawRequest ..) fun _ allowed => allowed))
  | escalationJob dispatcher =>
      have jobs : ∀ request, JobCall request → (Operation.escalationJob dispatcher).Allowed request := fun _ job => job
      exact idle (safe_escalationJob compositional auxiliary (enqueue jobs) (ensures_escalateStage jobs) dispatcher _
        ⟨_, rfl⟩)
  | reminderJob dispatcher =>
      have jobs : ∀ request, JobCall request → (Operation.reminderJob dispatcher).Allowed request := fun _ job => job
      exact idle (safe_reminderJob compositional auxiliary (enqueue jobs) (ensures_escalateStage jobs) dispatcher _
        ⟨_, rfl⟩)
  | executeJob payload =>
      have jobs : ∀ request, JobCall request → (Operation.executeJob payload).Allowed request := fun _ job => job
      exact idle (safe_executeJob compositional auxiliary (ensures_escalateStage jobs) payload _ ⟨_, rfl⟩)
  | listInbox => exact idle (ensures_forEffect (ensures_reading (only_listInbox ..)))
  | getApprovalEligibility => exact idle (ensures_forEffect (ensures_reading (only_getApprovalEligibility ..)))

end Operations

end AutomationHub.System
