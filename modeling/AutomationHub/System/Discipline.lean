import AutomationHub.System.Footprints

/-!
How far each thread has come, and what it may do next.

A decision moves through the phases of its transaction, and back through them
when the transaction rolls back.  A compensation that fails raises an alarm,
which the next call reports.
-/

set_option autoImplicit false

namespace AutomationHub.System

open Foundation Model Database Services Auth Workflow Program

/-- The caller, the stage and the supplied version of an approval or a rejection. -/
def Operation.decision : Operation → Option (AuthenticatedIdentity × UUID × Option Nat)
  | .approve identity stageId expectedVersion _ => some (identity, stageId, expectedVersion)
  | .reject identity stageId expectedVersion _ => some (identity, stageId, expectedVersion)
  | _ => none

/-- The stage and the version that a decision statement names. -/
def decisionTarget : Query → Option (UUID × Nat)
  | .approveStage stageId expectedVersion _ _ => some (stageId, expectedVersion)
  | .rejectStage stageId expectedVersion _ _ => some (stageId, expectedVersion)
  | _ => none

/-- The phases of a decision: what it has fetched and written so far. -/
inductive Progress where
  | unfetched
  | fetched (stage : WorkflowStageRecord)
  | decided (stage written : WorkflowStageRecord) (request : Option RequestRecord)
  | created (stage written : WorkflowStageRecord) (request : RequestRecord) (newStage : WorkflowStageRecord)
  | advanced (stage written : WorkflowStageRecord) (original updated : RequestRecord)
      (newStage : Option WorkflowStageRecord)

inductive Alarm where
  | silent
  | raised
  | reported
deriving DecidableEq

/-- How far an escalation has come; its audit entry, or its compensation, ends it. -/
inductive Errand where
  | away
  | fetched (stage : WorkflowStageRecord)
  | reassigned (stage written : WorkflowStageRecord)

/-- The phase of a thread that takes a decision, or of any other. -/
inductive Phase where
  | deciding (progress : Progress) (alarm : Alarm)
  | other (errand : Errand)

/-- The calls of an operation that takes no decision. -/
def Operation.Allowed : Operation → Call → Prop
  | .createRequest .. | .updateRequest .. | .withdrawRequest .. => RequestCall
  | .escalateStage _ | .escalationJob _ | .reminderJob _ | .executeJob _ => JobCall
  | .approve .. | .reject .. | .listInbox .. | .getApprovalEligibility .. => Auxiliary

/-- What is true of a reply whatever the state is. -/
def Truthful : (request : Call) → request.Reply → Prop
  | .query (.getStage stageId), .ok stage => stage.id = stageId
  | .query (.getRequest requestId), .ok request => request.id = requestId
  | .query (.approveStage stageId version _ _), .ok decided =>
      decided.id = stageId ∧ decided.version = version + 1 ∧ decided.status = .approved
  | .query (.rejectStage stageId version _ _), .ok decided =>
      decided.id = stageId ∧ decided.version = version + 1 ∧ decided.status = .rejected
  | .query (.createStage requestId order ..), .ok created =>
      created.requestId = requestId ∧ created.stageOrder = order ∧ created.status = .pending
  | .query (.setCurrentStage requestId version currentStageId status _), .ok updated =>
      updated.id = requestId ∧ updated.version = version + 1 ∧ updated.currentStageId = currentStageId ∧
        updated.status = status
  | .query (.escalateStage stageId version ..), .ok reassigned =>
      reassigned.id = stageId ∧ reassigned.version = version + 1
  | _, _ => True

/-- The log lines that report a failed compensation of a decision. -/
def AlarmLine : LogLine → Prop
  | .compensationFailed operation => operation = "decide_stage_approved" ∨ operation = "decide_stage_rejected"
  | .stageLeftInPlace _ => True
  | _ => False

/-- The calls of a decision that has come so far. -/
def Progress.Permits (operation : Operation) : Progress → Call → Prop
  | .unfetched, .query (.getStage _) => True
  | .fetched stage, .query (.approveStage stageId version _ _)
  | .fetched stage, .query (.rejectStage stageId version _ _) =>
      ∃ identity expected, operation.decision = some (identity, stageId, expected) ∧ stage.id = stageId ∧
        identity.mayDecide stage = true ∧ version = expected.getD stage.version
  | .decided stage written (some request), .query (.createStage requestId order ..) =>
      written.status = .approved ∧ requestId = request.id ∧ order = stage.stageOrder + 1
  | .decided _ written (some request), .query (.setCurrentStage requestId version currentStageId status completedAt) =>
      requestId = request.id ∧ version = request.version ∧ currentStageId = none ∧ completedAt.isSome ∧
        isTerminalRequestStatus request.status = false ∧
        (written.status = .approved ∧ status = .completed ∨ written.status = .rejected ∧ status = .rejected)
  | .decided stage _ _, .query (.getRequest requestId) => requestId = stage.requestId
  | .decided stage written _, .query (.revertToPending stageId version) =>
      stageId = stage.id ∧ version = written.version
  | .created _ _ request newStage, .query (.setCurrentStage requestId version currentStageId status completedAt) =>
      requestId = request.id ∧ version = request.version ∧ currentStageId = some newStage.id ∧ status = .inReview ∧
        completedAt = none ∧ isTerminalRequestStatus request.status = false
  | .created _ _ _ newStage, .query (.deleteIfUnchanged stageId version) =>
      stageId = newStage.id ∧ version = newStage.version
  | .advanced _ _ original updated _, .query (.setCurrentStage requestId version currentStageId status completedAt) =>
      requestId = original.id ∧ version = updated.version ∧ currentStageId = original.currentStageId ∧
        status = original.status ∧ completedAt = original.completedAt
  | .advanced .., .query (.recordEvent action ..) => action = .stageApproved ∨ action = .stageRejected
  | _, .log (.rollback ..) => True
  | _, request => Auxiliary request

def Phase.Permits (operation : Operation) : Phase → Call → Prop
  | .deciding _ .raised, .log line => AlarmLine line
  | .deciding _ .raised, _ => False
  | .deciding progress _, request => progress.Permits operation request
  | .other (.fetched stage), .query (.escalateStage stageId version assignedTo assignedRole) =>
      stageId = stage.id ∧ version = stage.version ∧ assignedTo = none ∧ assignedRole = some .admin
  | .other (.reassigned stage written), .query (.escalateStage stageId version assignedTo assignedRole) =>
      stageId = written.id ∧ version = written.version ∧ assignedTo = stage.assignedTo ∧
        assignedRole = stage.assignedRole
  | .other .away, .query (.escalateStage ..) => False
  | .other (.reassigned _ written), .query (.recordEvent .stageEscalated _ _ metadata _) =>
      ∃ data, metadata = some data ∧ data.stageId = some written.id
  | .other _, .query (.recordEvent .stageEscalated ..) => False
  | .other _, request => operation.Allowed request

/-- What the phases before the last write of an advanced decision are. -/
def Progress.back (stage written : WorkflowStageRecord) (original : RequestRecord) :
    Option WorkflowStageRecord → Progress
  | none => .decided stage written (some original)
  | some newStage => .created stage written original newStage

/-- The progress after a statement, and whether the statement was a compensation that failed. -/
def Progress.after (progress : Progress) (statement : Query) (reply : Except DatabaseError statement.Result) :
    Progress × Bool :=
  match progress with
  | .unfetched =>
      match statement, reply with
      | .getStage _, .ok stage => (.fetched stage, false)
      | _, _ => (progress, false)
  | .fetched stage =>
      match statement, reply with
      | .approveStage .., .ok written => (.decided stage written none, false)
      | .rejectStage .., .ok written => (.decided stage written none, false)
      | _, _ => (progress, false)
  | .decided stage written none =>
      match statement, reply with
      | .getRequest _, .ok request => (.decided stage written (some request), false)
      | .revertToPending .., reply => (.fetched stage, reply.isOk.not)
      | _, _ => (progress, false)
  | .decided stage written (some request) =>
      match statement, reply with
      | .getRequest _, .ok request => (.decided stage written (some request), false)
      | .createStage .., .ok newStage => (.created stage written request newStage, false)
      | .setCurrentStage .., .ok updated => (.advanced stage written request updated none, false)
      | .revertToPending .., reply => (.fetched stage, reply.isOk.not)
      | _, _ => (progress, false)
  | .created stage written request newStage =>
      match statement, reply with
      | .setCurrentStage .., .ok updated => (.advanced stage written request updated (some newStage), false)
      | .deleteIfUnchanged .., .ok true => (.decided stage written (some request), false)
      | .deleteIfUnchanged .., _ => (.decided stage written (some request), true)
      | _, _ => (progress, false)
  | .advanced stage written original _ newStage =>
      match statement, reply with
      | .setCurrentStage .., reply => (.back stage written original newStage, reply.isOk.not)
      | _, _ => (progress, false)

def Phase.after (phase : Phase) (request : Call) (reply : request.Reply) : Phase :=
  match phase with
  | .deciding progress alarm =>
      match request, reply with
      | .query statement, reply =>
          .deciding (progress.after statement reply).1 (bif (progress.after statement reply).2 then .raised else alarm)
      | .log _, _ => .deciding progress (match alarm with | .raised => .reported | kept => kept)
      | _, _ => .deciding progress alarm
  | .other errand =>
      match errand, request, reply with
      | _, .query (.getStage _), .ok stage => .other (.fetched stage)
      | .fetched stage, .query (.escalateStage ..), .ok written => .other (.reassigned stage written)
      | .reassigned .., .query (.escalateStage ..), _ => .other .away
      | .reassigned .., .query (.recordEvent ..), .ok _ => .other .away
      | _, _, _ => .other errand

/-- The discipline every thread of an operation keeps. -/
def discipline (operation : Operation) : Protocol hubSignature Phase where
  permits := Phase.Permits operation
  answers := fun phase request reply after => Truthful request reply ∧ after = phase.after request reply

/-- A thread may end in the phase: no alarm is left unreported, and a decision is complete or undone unless an alarm
was reported. -/
def Phase.Rested : Phase → Prop
  | .deciding _ .raised => False
  | .deciding _ .reported => True
  | .deciding (.decided ..) .silent => False
  | .deciding (.created ..) .silent => False
  | .deciding _ .silent => True
  | .other .. => True

end AutomationHub.System
