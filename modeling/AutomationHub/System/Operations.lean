import AutomationHub.Api.Approvals
import AutomationHub.Database.Integrity
import AutomationHub.Scheduler.PendingStageJobs
import AutomationHub.Services.ServiceRules

/-!
The operations of the hub, and the states that their interleavings reach.
-/

set_option autoImplicit false

namespace AutomationHub.System

open Foundation Model Database Services Auth Jobs Scheduler Api

inductive Operation where
  | createRequest (identity : AuthenticatedIdentity) (input : RequestCreate)
  | approve (identity : AuthenticatedIdentity) (stageId : UUID) (expectedVersion : Option Nat)
      (decisionNote : Option DecisionNote)
  | reject (identity : AuthenticatedIdentity) (stageId : UUID) (expectedVersion : Option Nat) (decisionNote : String)
  | escalateStage (stageId : UUID)
  | updateRequest (identity : AuthenticatedIdentity) (requestId : UUID) (title description department : Option String)
      (expectedVersion : Nat)
  | withdrawRequest (identity : AuthenticatedIdentity) (requestId : UUID) (expectedVersion : Nat)
  | escalationJob (dispatcher : JobDispatcher)
  | reminderJob (dispatcher : JobDispatcher)
  | executeJob (payload : TaskPayload)
  | listInbox (identity : AuthenticatedIdentity) (page : Page)
  | getApprovalEligibility (identity : AuthenticatedIdentity) (requestId : UUID)

/-- An operation run for its effect. -/
def forEffect {α : Type} (service : Service α) : Service Unit := do
  let _ ← service
  return ()

def Operation.program : Operation → Service Unit
  | .createRequest identity input => forEffect (Services.createRequest identity input)
  | .approve identity stageId expectedVersion decisionNote =>
      forEffect (approveStage identity stageId expectedVersion decisionNote)
  | .reject identity stageId expectedVersion decisionNote =>
      forEffect (rejectStage identity stageId expectedVersion decisionNote)
  | .escalateStage stageId => forEffect (Services.escalateStage stageId)
  | .updateRequest identity requestId title description department expectedVersion =>
      forEffect (Services.updateRequest identity requestId title description department expectedVersion)
  | .withdrawRequest identity requestId expectedVersion =>
      forEffect (Services.withdrawRequest identity requestId expectedVersion)
  | .escalationJob dispatcher => Scheduler.escalationJob dispatcher
  | .reminderJob dispatcher => Scheduler.reminderJob dispatcher
  | .executeJob payload => Jobs.executeJob payload
  | .listInbox identity page => forEffect (Api.listInbox identity page)
  | .getApprovalEligibility identity requestId => forEffect (Api.getApprovalEligibility identity requestId)

/-- Threads about to perform one operation each. -/
def launch {ι : Type} (operations : ι → Operation) (world : World) : Pool hubSignature AppError World ι where
  shared := world
  threads := fun thread => (operations thread).program

/-- A hub in which nobody has created a request yet. -/
structure Initial (world : World) : Prop where
  requests : world.requests.rows = []
  stages : world.stages.rows = []
  audit : world.audit.rows = []
  jobs : world.jobs.rows = []

/-- The states of all interleaved runs, the calls of which the database may fail. -/
inductive Reachable : World → Prop
  | intro {start : World} {operations : ℕ → Operation} {events : List (Event hubSignature ℕ)}
      {final : Pool hubSignature AppError World ℕ} (initial : Initial start)
      (run : Pool.Run mayFail (launch operations start) events final) : Reachable final.shared

theorem mayFail_environment {ι : Type} (thread : ι) (world : World) (request : Call) :
    mayFail thread world request (environment request world).1 (environment request world).2 :=
  .inl rfl

theorem play_runs_mayFail {ι : Type} [DecidableEq ι] (pool : Pool hubSignature AppError World ι) (schedule : List ι) :
    Pool.Run mayFail pool (pool.trace environment schedule) (pool.play environment schedule) :=
  Pool.play_runs environment mayFail_environment pool schedule

theorem reachable_play {start : World} (initial : Initial start) (operations : ℕ → Operation) (schedule : List ℕ) :
    Reachable ((launch operations start).play environment schedule).shared :=
  .intro initial (play_runs_mayFail (launch operations start) schedule)

theorem Initial.consistent {world : World} (initial : Initial world) : world.Consistent := by
  have noRequest : ∀ request, request ∉ world.requests.rows := fun _ => initial.requests ▸ List.not_mem_nil
  have noStage : ∀ stage, stage ∉ world.stages.rows := fun _ => initial.stages ▸ List.not_mem_nil
  exact ⟨fun request member => absurd member (noRequest request), fun stage member => absurd member (noStage stage),
    fun stage member => absurd member (noStage stage), fun left member => absurd member (noStage left)⟩

theorem Reachable.consistent {world : World} (reachable : Reachable world) : world.Consistent := by
  cases reachable with
  | intro initial run =>
      exact run.shared_invariant World.Consistent
        (fun _ _ _ _ _ consistent step => consistent.mayFail step) initial.consistent

section Sample

def sampleProfile (id : UUID) (role : UserRole) (department : Option String) : ProfileRecord :=
  { id, fullName := "Profile", role, department, version := 1, createdAt := 0, updatedAt := 0, companyId := 9,
    isPlatformAdmin := false, isActive := true, deletedAt := none, deletedBy := none }

theorem oneDay_positive : Hours.Positive (.finite 24) := by decide +kernel

/-- A stage handed to the approvers of the finance department. -/
def financeStage (order : Nat) (positive : 0 < order) : StageDefinition :=
  { order, name := "Review", assignmentStrategy := .departmentQueue, assignedRole := some .approver,
    department := some "finance", assignedUserId := none, escalationHours := .finite 24, order_pos := positive,
    name_nonempty := (by decide), escalationHours_pos := oneDay_positive, strategyFields := (by decide) }

/-- A stage handed to one user. -/
def personalStage (order : Nat) (positive : 0 < order) (user : UUID) : StageDefinition :=
  { order, name := "Sign-off", assignmentStrategy := .specificUser, assignedRole := none, department := none,
    assignedUserId := some user, escalationHours := .finite 24, order_pos := positive, name_nonempty := (by decide),
    escalationHours_pos := oneDay_positive, strategyFields := rfl }

def sampleDefinition (id : UUID) (requestType : String) (definition : WorkflowDefinitionDocument) :
    WorkflowDefinition :=
  { id, requestType, version := 1, definition, isActive := true, createdBy := none, rowVersion := 1, createdAt := 0,
    companyId := 9 }

/-- One stage, handed to the first approver. -/
def signOff : WorkflowDefinitionDocument :=
  { stages := [personalStage 1 Nat.one_pos 2], nonempty := (by decide), distinct := (by decide),
    contiguous := (by decide) }

/-- A hub with an employee, two approvers of different departments and an administrator; `expense` requests pass two
finance stages, `travel` requests one stage of the first approver.  Each call comes a day after the one before. -/
def sampleHub : World :=
  { clock := fun tick => tick * 24 * microsecondsPerHour, ticks := 0,
    profiles :=
      { rows := [sampleProfile 1 .employee (some "sales"), sampleProfile 2 .approver (some "finance"),
          sampleProfile 3 .admin none, sampleProfile 4 .approver (some "legal")],
        next := 5, distinct := (by decide), fresh := (by decide) },
    definitions :=
      { rows := [
          sampleDefinition 1 "expense"
            { stages := [financeStage 2 Nat.two_pos, financeStage 1 Nat.one_pos], nonempty := (by decide),
              distinct := (by decide), contiguous := (by decide) },
          sampleDefinition 2 "travel" signOff],
        next := 3, distinct := (by decide), fresh := (by decide) },
    requests := .empty, stages := .empty, audit := .empty, comments := .empty, attachments := .empty,
    notifications := .empty, preferences := .empty, jobs := .empty,
    textSearch := { ilike := fun needle text => needle == text, websearch := fun _ _ => false },
    mailer := { sender := none, background := false }, submittedEmails := [] }

/-- An administrator of another company. -/
def rivalAdministrator : Draft ProfileRecord where
  build := fun id => { sampleProfile id .admin none with companyId := 8 }
  key_build := fun _ => rfl

theorem sampleHub_initial : Initial sampleHub := ⟨rfl, rfl, rfl, rfl⟩

def sampleEmployee : AuthenticatedIdentity := { userId := 1, role := .employee, companyId := 9, expiresAt := none }

def sampleApprover : AuthenticatedIdentity := { userId := 2, role := .approver, companyId := 9, expiresAt := none }

def sampleAdmin : AuthenticatedIdentity := { userId := 3, role := .admin, companyId := 9, expiresAt := none }

def sampleRequest (requestType : String) : RequestCreate :=
  { requestType, title := "Laptop", description := none, department := none }

/-- The listed operations, one thread each; the other threads only read. -/
def operationsOf (listed : List Operation) (thread : ℕ) : Operation :=
  listed.getD thread (.getApprovalEligibility sampleEmployee 0)

/-- The sample hub after a request of the type was created; its first stage is stage 1. -/
def hubWithRequest (requestType : String) : World :=
  ((launch (operationsOf [.createRequest sampleEmployee (sampleRequest requestType)]) sampleHub).play environment
    (List.replicate 20 0)).shared

end Sample

end AutomationHub.System
