import AutomationHub.System.DisciplineProperties

/-!
What the threads know of the rows.

The rows that a phase remembers were in the database, so a row found at a
remembered version is the row remembered, however the calls interleave.
-/

set_option autoImplicit false

namespace AutomationHub.System

open Foundation Model Database Services Auth Workflow Table

/-- The stage row that a reply brings. -/
def replyStage : (request : Call) → request.Reply → Option WorkflowStageRecord
  | .query (.getStage _), .ok stage => some stage
  | .query (.approveStage ..), .ok stage => some stage
  | .query (.rejectStage ..), .ok stage => some stage
  | .query (.createStage ..), .ok stage => some stage
  | .query (.escalateStage ..), .ok stage => some stage
  | _, _ => none

def replyRequest : (request : Call) → request.Reply → Option RequestRecord
  | .query (.getRequest _), .ok request => some request
  | .query (.setCurrentStage ..), .ok request => some request
  | _, _ => none

def Progress.stages : Progress → List WorkflowStageRecord
  | .unfetched => []
  | .fetched stage => [stage]
  | .decided stage written _ => [stage, written]
  | .created stage written _ newStage => [stage, written, newStage]
  | .advanced stage written _ _ newStage => stage :: written :: newStage.toList

def Progress.requests : Progress → List RequestRecord
  | .decided _ _ request => request.toList
  | .created _ _ request _ => [request]
  | .advanced _ _ original updated _ => [original, updated]
  | _ => []

def Errand.stages : Errand → List WorkflowStageRecord
  | .away => []
  | .fetched stage => [stage]
  | .reassigned stage written => [stage, written]

def Phase.stages : Phase → List WorkflowStageRecord
  | .deciding progress _ => progress.stages
  | .other errand => errand.stages

def Phase.requests : Phase → List RequestRecord
  | .deciding progress _ => progress.requests
  | .other .. => []

theorem Progress.stages_after (progress : Progress) (statement : Query) (reply : Except DatabaseError statement.Result)
    {row : WorkflowStageRecord} (member : row ∈ (progress.after statement reply).1.stages) :
    row ∈ progress.stages ∨ replyStage (.query statement) reply = some row := by
  revert member
  fun_cases Progress.after progress statement reply <;> intro member
  case case18 stage written original updated newStage _ _ _ _ _ _ =>
    cases newStage <;> exact .inl (by simpa [Progress.back, Progress.stages] using member)
  all_goals first
    | exact .inl member
    | simp only [Progress.stages, replyStage, List.mem_cons, List.not_mem_nil, or_false, Option.some.injEq] at member ⊢
      tauto

theorem Progress.requests_after (progress : Progress) (statement : Query)
    (reply : Except DatabaseError statement.Result) {row : RequestRecord}
    (member : row ∈ (progress.after statement reply).1.requests) :
    row ∈ progress.requests ∨ replyRequest (.query statement) reply = some row := by
  revert member
  fun_cases Progress.after progress statement reply <;> intro member
  case case18 stage written original updated newStage _ _ _ _ _ _ =>
    cases newStage <;> exact .inl (by simp_all [Progress.back, Progress.requests])
  all_goals first
    | exact .inl member
    | simp only [Progress.requests, replyRequest, List.mem_cons, List.not_mem_nil, or_false, Option.some.injEq,
        Option.toList_some, Option.toList_none] at member ⊢ <;> tauto

theorem Phase.stages_after (phase : Phase) (request : Call) (reply : request.Reply) {row : WorkflowStageRecord}
    (member : row ∈ (phase.after request reply).stages) :
    row ∈ phase.stages ∨ replyStage request reply = some row := by
  revert member
  fun_cases Phase.after phase request reply <;> intro member
  case case1 => exact Progress.stages_after _ _ _ member
  case case4 => exact .inr (congrArg some (List.mem_singleton.mp member).symm)
  case case5 =>
    simp only [Phase.stages, Errand.stages, replyStage, List.mem_cons, List.not_mem_nil, or_false,
      Option.some.injEq] at member ⊢
    tauto
  case case6 | case7 => cases member
  all_goals exact .inl member

theorem Phase.requests_after (phase : Phase) (request : Call) (reply : request.Reply) {row : RequestRecord}
    (member : row ∈ (phase.after request reply).requests) :
    row ∈ phase.requests ∨ replyRequest request reply = some row := by
  revert member
  fun_cases Phase.after phase request reply <;> intro member
  case case1 => exact Progress.requests_after _ _ _ member
  all_goals exact .inl member

/-- How the rows that a decision remembers belong together. -/
def Progress.Coherent : Progress → Prop
  | .unfetched => True
  | .fetched _ => True
  | .decided stage written request =>
      stage.status = .pending ∧ written.id = stage.id ∧ (written.status = .approved ∨ written.status = .rejected) ∧
        ∀ seen, request = some seen → seen.id = stage.requestId
  | .created stage written request newStage =>
      stage.status = .pending ∧ written.id = stage.id ∧ written.status = .approved ∧ request.id = stage.requestId ∧
        newStage.requestId = stage.requestId ∧ newStage.stageOrder = stage.stageOrder + 1 ∧ newStage.status = .pending
  | .advanced stage written original updated none =>
      stage.status = .pending ∧ written.id = stage.id ∧ original.id = stage.requestId ∧
        updated.id = stage.requestId ∧ updated.version = original.version + 1 ∧
        isTerminalRequestStatus original.status = false ∧ updated.currentStageId = none ∧
        (written.status = .approved ∧ updated.status = .completed ∨
          written.status = .rejected ∧ updated.status = .rejected)
  | .advanced stage written original updated (some newStage) =>
      stage.status = .pending ∧ written.id = stage.id ∧ original.id = stage.requestId ∧
        updated.id = stage.requestId ∧ updated.version = original.version + 1 ∧
        isTerminalRequestStatus original.status = false ∧ updated.currentStageId = some newStage.id ∧
        updated.status = .inReview ∧ written.status = .approved ∧ newStage.requestId = stage.requestId ∧
        newStage.stageOrder = stage.stageOrder + 1 ∧ newStage.status = .pending

def Phase.Coherent : Phase → Prop
  | .deciding progress _ => progress.Coherent
  | .other (.reassigned stage written) =>
      written = (stamped (World.assignmentEdit none (some .admin)) stage.version).apply stage
  | .other _ => True

theorem pending_of_mayDecide {identity : AuthenticatedIdentity} {stage : WorkflowStageRecord}
    (permitted : identity.mayDecide stage = true) : stage.status = .pending :=
  ((mayDecide_iff identity stage).mp permitted).2.1

theorem Progress.coherent_after {operation : Operation} {progress : Progress} {statement : Query}
    {reply : Except DatabaseError statement.Result} (coherent : progress.Coherent)
    (permitted : progress.Permits operation (.query statement)) (truth : Truthful (.query statement) reply) :
    (progress.after statement reply).1.Coherent := by
  revert permitted truth coherent
  fun_cases Progress.after progress statement reply <;> intro coherent permitted truth
  case case3 | case4 =>
    obtain ⟨identity, expected, -, target, right, -⟩ := permitted
    obtain ⟨sameId, -, recorded⟩ := truth
    have pending := pending_of_mayDecide right
    exact ⟨pending, sameId.trans target.symm, by simp [recorded], fun _ none => nomatch none⟩
  case case6 | case9 =>
    obtain ⟨pending, sameId, decision, -⟩ := coherent
    have named : _ = _ := permitted
    have found : _ = _ := truth
    exact ⟨pending, sameId, decision, fun seen same => by cases same; exact found.trans named⟩
  case case10 =>
    obtain ⟨pending, sameId, decision, parent⟩ := coherent
    obtain ⟨approved, rfl, rfl⟩ := permitted
    obtain ⟨ofRequest, atOrder, fresh⟩ := truth
    have request := parent _ rfl
    exact ⟨pending, sameId, approved, request, ofRequest.trans request, atOrder, fresh⟩
  case case11 =>
    obtain ⟨pending, sameId, decision, parent⟩ := coherent
    obtain ⟨rfl, rfl, rfl, -, open_, outcome⟩ := permitted
    obtain ⟨ofRequest, next, pointer, recorded⟩ := truth
    have request := parent _ rfl
    exact ⟨pending, sameId, request, ofRequest.trans request, next, open_, pointer, recorded ▸ outcome⟩
  case case14 =>
    obtain ⟨pending, sameId, approved, request, placed⟩ := coherent
    obtain ⟨rfl, rfl, rfl, rfl, -, open_⟩ := permitted
    obtain ⟨sameRequest, next, pointer, recorded⟩ := truth
    exact ⟨pending, sameId, request, sameRequest.trans request, next, open_, pointer, recorded, approved, placed⟩
  case case15 | case16 =>
    obtain ⟨pending, sameId, approved, request, -⟩ := coherent
    exact ⟨pending, sameId, .inl approved, fun seen same => by cases same; exact request⟩
  case case18 stage written original updated newStage _ _ _ _ _ _ =>
    cases newStage with
    | none =>
        obtain ⟨pending, sameId, request, -, -, -, -, outcome⟩ := coherent
        exact ⟨pending, sameId, outcome.imp And.left And.left, fun seen same => by cases same; exact request⟩
    | some newStage =>
        obtain ⟨pending, sameId, request, -, -, -, -, -, approved, placed⟩ := coherent
        exact ⟨pending, sameId, approved, request, placed⟩
  all_goals first
    | exact coherent
    | trivial

/-- The stage that a decision has fetched. -/
def Progress.origin : Progress → Option WorkflowStageRecord
  | .unfetched => none
  | .fetched stage | .decided stage .. | .created stage .. | .advanced stage .. => some stage

def Phase.origin : Phase → Option WorkflowStageRecord
  | .deciding progress _ => progress.origin
  | .other .. => none

/-- The stage that an escalation has fetched. -/
def Phase.errandStage : Phase → Option WorkflowStageRecord
  | .other (.fetched stage) | .other (.reassigned stage _) => some stage
  | _ => none

theorem Phase.errandStage_mem {phase : Phase} {stage : WorkflowStageRecord} (errand : phase.errandStage = some stage) :
    stage ∈ phase.stages := by
  rcases phase with _ | (_ | _ | _) <;> cases errand <;> exact List.mem_cons_self

theorem Phase.errandStage_after (phase : Phase) (request : Call) (reply : request.Reply) {stage : WorkflowStageRecord}
    (errand : (phase.after request reply).errandStage = some stage) :
    phase.errandStage = some stage ∨ (∃ errand, phase = .other errand) ∧
      ∃ id, request = .query (.getStage id) ∧ replyStage request reply = some stage := by
  revert errand
  fun_cases Phase.after phase request reply <;> intro errand
  case case4 => exact .inr ⟨⟨_, rfl⟩, _, rfl, errand⟩
  case case6 | case7 => cases errand
  all_goals exact .inl errand

theorem Phase.origin_mem {phase : Phase} {stage : WorkflowStageRecord} (origin : phase.origin = some stage) :
    stage ∈ phase.stages := by
  rcases phase with ⟨_ | _ | _ | _ | _, _⟩ | _ <;> cases origin <;> exact List.mem_cons_self

theorem Progress.origin_after (progress : Progress) (statement : Query)
    (reply : Except DatabaseError statement.Result) {stage : WorkflowStageRecord}
    (origin : (progress.after statement reply).1.origin = some stage) :
    progress.origin = some stage ∨ ∃ id, statement = .getStage id ∧ replyStage (.query statement) reply = some stage := by
  revert origin
  fun_cases Progress.after progress statement reply <;> intro origin
  case case1 => exact .inr ⟨_, rfl, origin⟩
  case case18 stage written original updated newStage _ _ _ _ _ _ => cases newStage <;> exact .inl origin
  all_goals exact .inl origin

theorem Phase.origin_after (phase : Phase) (request : Call) (reply : request.Reply) {stage : WorkflowStageRecord}
    (origin : (phase.after request reply).origin = some stage) :
    phase.origin = some stage ∨ ∃ id, request = .query (.getStage id) ∧ replyStage request reply = some stage := by
  revert origin
  fun_cases Phase.after phase request reply <;> intro origin
  case case1 =>
    rcases Progress.origin_after _ _ _ origin with kept | ⟨id, rfl, brought⟩
    · exact .inl kept
    · exact .inr ⟨id, rfl, brought⟩
  all_goals exact .inl origin

/-- A decision statement names the stage that was fetched, on which the caller was found to have the right. -/
theorem Phase.permits_decision {operation : Operation} {phase : Phase} {statement : Query} {stageId : UUID}
    {version : Nat} (permitted : phase.Permits operation (.query statement))
    (target : decisionTarget statement = some (stageId, version)) :
    ∃ stage alarm identity expected, phase = .deciding (.fetched stage) alarm ∧
      operation.decision = some (identity, stageId, expected) ∧ stage.id = stageId ∧
      identity.mayDecide stage = true ∧ version = expected.getD stage.version := by
  cases phase with
  | other errand =>
      have allowed : operation.Allowed (.query statement) := by
        cases statement <;> cases target <;> cases errand <;> exact permitted
      cases operation <;> cases statement <;> cases target <;> cases allowed
  | deciding progress alarm =>
      cases alarm with
      | raised => exact permitted.elim
      | _ =>
          rcases progress with _ | stage | ⟨_, _, _ | _⟩ | _ | _ <;> cases statement <;> cases target <;> first
            | obtain ⟨identity, expected, rest⟩ := permitted
              exact ⟨stage, _, identity, expected, rfl, rest⟩
            | exact nomatch permitted

theorem Phase.permits_revert {operation : Operation} {phase : Phase} {stageId : UUID} {version : Nat}
    (permitted : phase.Permits operation (.query (.revertToPending stageId version))) :
    ∃ stage written request alarm, phase = .deciding (.decided stage written request) alarm ∧ stageId = stage.id ∧
      version = written.version := by
  cases phase with
  | other errand => cases operation <;> cases errand <;> cases permitted
  | deciding progress alarm =>
      cases alarm with
      | raised => exact permitted.elim
      | _ =>
          rcases progress with _ | _ | ⟨stage, written, _ | request⟩ | _ | _ <;> first
            | exact ⟨stage, written, _, _, rfl, permitted⟩
            | exact nomatch permitted

theorem Phase.permits_delete {operation : Operation} {phase : Phase} {stageId : UUID} {version : Nat}
    (permitted : phase.Permits operation (.query (.deleteIfUnchanged stageId version))) :
    ∃ stage written request newStage alarm, phase = .deciding (.created stage written request newStage) alarm ∧
      stageId = newStage.id ∧ version = newStage.version := by
  cases phase with
  | other errand => cases operation <;> cases errand <;> cases permitted
  | deciding progress alarm =>
      cases alarm with
      | raised => exact permitted.elim
      | _ =>
          rcases progress with _ | _ | ⟨_, _, _ | _⟩ | ⟨stage, written, request, newStage⟩ | _ <;> first
            | exact ⟨stage, written, request, newStage, _, rfl, permitted⟩
            | exact nomatch permitted

/-- A stage is reassigned from the row fetched, or handed back from the row that the reassignment wrote. -/
theorem Phase.permits_escalate {operation : Operation} {phase : Phase} {stageId : UUID} {version : Nat}
    {assignedTo : Option UUID} {assignedRole : Option UserRole}
    (permitted : phase.Permits operation (.query (.escalateStage stageId version assignedTo assignedRole))) :
    (∃ stage, phase = .other (.fetched stage) ∧ stageId = stage.id ∧ version = stage.version ∧ assignedTo = none ∧
        assignedRole = some .admin) ∨
      ∃ stage written, phase = .other (.reassigned stage written) ∧ stageId = written.id ∧
        version = written.version ∧ assignedTo = stage.assignedTo ∧ assignedRole = stage.assignedRole := by
  cases phase with
  | other errand =>
      cases errand with
      | away => exact permitted.elim
      | fetched stage => exact .inl ⟨stage, rfl, permitted⟩
      | reassigned stage written => exact .inr ⟨stage, written, rfl, permitted⟩
  | deciding progress alarm =>
      cases alarm with
      | raised => exact permitted.elim
      | _ => rcases progress with _ | _ | ⟨_, _, _ | _⟩ | _ | _ <;> exact nomatch permitted

theorem Phase.permits_record {operation : Operation} {phase : Phase} {actorId requestId companyId : Option UUID}
    {metadata : Option AuditMetadata}
    (permitted : phase.Permits operation (.query (.recordEvent .stageEscalated actorId requestId metadata companyId))) :
    ∃ stage written data, phase = .other (.reassigned stage written) ∧ metadata = some data ∧
      data.stageId = some written.id := by
  cases phase with
  | other errand =>
      cases errand with
      | reassigned stage written =>
          obtain ⟨data, given, named⟩ := permitted
          exact ⟨stage, written, data, rfl, given, named⟩
      | _ => exact permitted.elim
  | deciding progress alarm =>
      cases alarm with
      | raised => exact permitted.elim
      | _ => rcases progress with _ | _ | ⟨_, _, _ | _⟩ | _ | _ <;> exact nomatch permitted

section Replies

variable {ι : Type} {thread : ι} {world after : World} {request : Call} {reply : request.Reply}

/-- The row that an update returns is in the table after it, one version above the row it found. -/
theorem written_mem {id version : Nat} {edit : Edit WorkflowStageRecord}
    {violated : WorkflowStageRecord → Option String} {written : WorkflowStageRecord}
    (executed : world.updateStage id version edit violated = (.ok written, after)) :
    written ∈ after.stages.rows ∧ written.version = version + 1 ∧
      ∃ row ∈ world.stages.rows, row.id = id ∧ row.version = version ∧ written = (stamped edit version).apply row := by
  obtain ⟨row, found, current, -, rfl, rfl⟩ := World.updateStage_ok_iff.mp executed
  obtain ⟨member, keyed⟩ := (find?_eq_some_iff ..).mp found
  exact ⟨(mem_modify ..).mpr (.inr ⟨row, member, keyed, rfl⟩), rfl, row, member, keyed, current, rfl⟩

private theorem decided_mem {status : StageStatus} {stageId version decidedBy : Nat} {note : Option String}
    {written : WorkflowStageRecord}
    (executed : world.decideStage status stageId version decidedBy note = (.ok written, after)) :
    written ∈ after.stages.rows ∧ written.id = stageId ∧ written.version = version + 1 ∧ written.status = status := by
  obtain ⟨member, current, row, -, keyed, -, rfl⟩ := written_mem executed
  exact ⟨member, keyed, current, rfl⟩

private theorem rejected_of_execute {stageId version decidedBy : Nat} {note : String} {written : WorkflowStageRecord}
    (executed : world.execute (.rejectStage stageId version decidedBy note) = (.ok written, after)) :
    world.decideStage .rejected stageId version decidedBy (some note) = (.ok written, after) := by
  simp only [World.execute] at executed
  split at executed
  · cases congrArg Prod.fst executed
  · exact executed

theorem mem_of_replyStage (step : mayFail thread world request reply after) {row : WorkflowStageRecord}
    (brought : replyStage request reply = some row) : row ∈ after.stages.rows := by
  unfold replyStage at brought
  split at brought <;> cases brought <;> obtain ⟨changed, executed, rfl⟩ := World.executed_of_mayFail step
  · obtain ⟨found, rfl⟩ := Prod.mk.inj executed
    exact ((find?_eq_some_iff ..).mp (World.getById_ok_iff.mp found)).1
  · exact (decided_mem executed).1
  · exact (decided_mem (rejected_of_execute executed)).1
  · obtain ⟨rfl, rfl, -⟩ := World.createStage_ok_iff.mp executed
    exact (mem_insert ..).mpr (.inr rfl)
  · exact (written_mem executed).1

theorem mem_of_replyRequest (step : mayFail thread world request reply after) {row : RequestRecord}
    (brought : replyRequest request reply = some row) : row ∈ after.requests.rows := by
  unfold replyRequest at brought
  split at brought <;> cases brought <;> obtain ⟨changed, executed, rfl⟩ := World.executed_of_mayFail step
  · obtain ⟨found, rfl⟩ := Prod.mk.inj executed
    exact ((find?_eq_some_iff ..).mp (World.getById_ok_iff.mp found)).1
  · obtain ⟨row, found, -, -, rfl, rfl⟩ := World.updateRequest_ok_iff.mp executed
    obtain ⟨member, keyed⟩ := (find?_eq_some_iff ..).mp found
    exact (mem_modify ..).mpr (.inr ⟨row, member, keyed, rfl⟩)

theorem truthful_of_mayFail (step : mayFail thread world request reply after) : Truthful request reply := by
  unfold Truthful
  split
  · obtain ⟨found, -⟩ := World.stage_of_mayFail step
    exact ((find?_eq_some_iff ..).mp found).2
  · obtain ⟨found, -⟩ := World.request_of_mayFail step
    exact ((find?_eq_some_iff ..).mp found).2
  · obtain ⟨changed, executed, -⟩ := World.executed_of_mayFail step
    exact (decided_mem executed).2
  · obtain ⟨changed, executed, -⟩ := World.executed_of_mayFail step
    exact (decided_mem (rejected_of_execute executed)).2
  · obtain ⟨changed, executed, -⟩ := World.executed_of_mayFail step
    obtain ⟨rfl, -⟩ := World.createStage_ok_iff.mp executed
    exact ⟨rfl, rfl, rfl⟩
  · obtain ⟨changed, executed, -⟩ := World.executed_of_mayFail step
    obtain ⟨row, found, -, -, rfl, -⟩ := World.updateRequest_ok_iff.mp executed
    exact ⟨((find?_eq_some_iff ..).mp found).2, rfl, rfl, rfl⟩
  · obtain ⟨changed, executed, -⟩ := World.executed_of_mayFail step
    obtain ⟨row, found, -, -, rfl, -⟩ := World.updateStage_ok_iff.mp executed
    exact ⟨((find?_eq_some_iff ..).mp found).2, rfl⟩
  · trivial

end Replies

/-- The rows that the phase remembers were in the tables. -/
structure Phase.Known (phase : Phase) (world : World) : Prop where
  stages : ∀ stage ∈ phase.stages, world.RecallsStage stage
  requests : ∀ request ∈ phase.requests, world.RecallsRequest request

section Known

variable {ι : Type} {thread : ι} {world after : World} {phase : Phase} {request : Call} {reply : request.Reply}

theorem Phase.Known.kept (known : phase.Known world) (step : mayFail thread world request reply after) :
    phase.Known after where
  stages := fun stage member => (known.stages stage member).mayFail step
  requests := fun request member => (known.requests request member).mayFail step

theorem Phase.Known.next (known : phase.Known world) (step : mayFail thread world request reply after) :
    (phase.after request reply).Known after where
  stages := by
    intro stage member
    rcases phase.stages_after request reply member with remembered | brought
    · exact (known.kept step).stages stage remembered
    · exact World.recallsStage_of_mem (mem_of_replyStage step brought)
  requests := by
    intro stage member
    rcases phase.requests_after request reply member with remembered | brought
    · exact (known.kept step).requests stage remembered
    · exact World.recallsRequest_of_mem (mem_of_replyRequest step brought)

private theorem reassigned_of_known {stage written : WorkflowStageRecord} {assignedTo : Option UUID}
    {assignedRole : Option UserRole} (recalls : world.RecallsStage stage)
    (step : mayFail thread world (.query (.escalateStage stage.id stage.version assignedTo assignedRole)) (.ok written)
      after) :
    written = (stamped (World.assignmentEdit assignedTo assignedRole) stage.version).apply stage := by
  obtain ⟨changed, executed, -⟩ := World.executed_of_mayFail step
  obtain ⟨-, -, row, member, keyed, current, rfl⟩ := written_mem executed
  have same : stage = row := (recalls.seen.later row member keyed).2 current.symm
  rw [same]

theorem Phase.coherent_after {operation : Operation} (coherent : phase.Coherent) (known : phase.Known world)
    (permitted : phase.Permits operation request) (step : mayFail thread world request reply after) :
    (phase.after request reply).Coherent := by
  revert step permitted known coherent
  fun_cases Phase.after phase request reply <;> intro coherent known permitted step
  case case1 progress alarm statement reply =>
    cases alarm with
    | raised => exact permitted.elim
    | _ => exact Progress.coherent_after coherent permitted (truthful_of_mayFail step)
  case case5 =>
    obtain ⟨rfl, rfl, rfl, rfl⟩ := permitted
    exact reassigned_of_known (known.stages _ List.mem_cons_self) step
  all_goals first
    | exact coherent
    | trivial

end Known

theorem Phase.other_of_after {phase : Phase} {request : Call} {reply : request.Reply} {errand : Errand}
    (other : phase.after request reply = .other errand) : ∃ earlier, phase = .other earlier := by
  cases phase with
  | other earlier => exact ⟨earlier, rfl⟩
  | deciding progress alarm => cases request <;> cases other

/-- The threads remember rows of the tables that belong together. -/
structure Remembered (operations : ℕ → Operation) (phases : ℕ → Phase) (world : World) : Prop where
  known : ∀ thread, (phases thread).Known world
  coherent : ∀ thread, (phases thread).Coherent
  idle : ∀ thread errand, phases thread = .other errand → (operations thread).decision = none

theorem Remembered.current {operations : ℕ → Operation} {phases : ℕ → Phase} {world : World} {thread : ℕ}
    {stageId : UUID} (remembered : Remembered operations phases world) {row stage : WorkflowStageRecord}
    (found : world.stages.find? stageId = some row) (member : stage ∈ (phases thread).stages)
    (sameId : stageId = stage.id) (sameVersion : row.version = stage.version) : stage = row := by
  obtain ⟨present, keyed⟩ := (find?_eq_some_iff ..).mp found
  have recalls := (remembered.known thread).stages stage member
  exact (recalls.seen.later row present (keyed.trans sameId)).2 sameVersion.symm

theorem Remembered.reassigned {operations : ℕ → Operation} {phases : ℕ → Phase} {world : World} {thread : ℕ}
    {stage written : WorkflowStageRecord} (remembered : Remembered operations phases world)
    (reassigned : phases thread = .other (.reassigned stage written)) :
    written = (stamped (World.assignmentEdit none (some .admin)) stage.version).apply stage := by
  have coherent := remembered.coherent thread
  rw [reassigned] at coherent
  exact coherent

theorem Remembered.step {operations : ℕ → Operation} {phases : ℕ → Phase} {world after : World} {thread : ℕ}
    {request : Call} {reply : request.Reply} (remembered : Remembered operations phases world)
    (permitted : (phases thread).Permits (operations thread) request)
    (step : mayFail thread world request reply after) :
    Remembered operations (Function.update phases thread ((phases thread).after request reply)) after where
  known := by
    intro other
    by_cases same : other = thread
    · subst same
      rw [Function.update_self]
      exact (remembered.known other).next step
    · rw [Function.update_of_ne same]
      exact (remembered.known other).kept step
  coherent := by
    intro other
    by_cases same : other = thread
    · subst same
      rw [Function.update_self]
      exact Phase.coherent_after (remembered.coherent other) (remembered.known other) permitted step
    · rw [Function.update_of_ne same]
      exact remembered.coherent other
  idle := by
    intro other errand
    by_cases same : other = thread
    · subst same
      rw [Function.update_self]
      intro reached
      obtain ⟨earlier, before⟩ := Phase.other_of_after reached
      exact remembered.idle other earlier before
    · rw [Function.update_of_ne same]
      exact remembered.idle other errand

/-- The phases that the threads of a pool have reached. -/
structure Tracked (operations : ℕ → Operation) (phases : ℕ → Phase) (pool : Pool hubSignature AppError World ℕ) :
    Prop where
  remembered : Remembered operations phases pool.shared
  follows : ∀ thread, (pool.threads thread).Ensures (discipline (operations thread)) (fun _ final => final.Rested)
    (phases thread)

theorem Operation.known_start (operation : Operation) (world : World) : operation.start.Known world := by
  unfold Operation.start
  cases operation.decision <;>
    exact ⟨fun _ member => absurd member List.not_mem_nil, fun _ member => absurd member List.not_mem_nil⟩

theorem Operation.coherent_start (operation : Operation) : operation.start.Coherent := by
  unfold Operation.start
  cases operation.decision <;> trivial

theorem tracked_launch (operations : ℕ → Operation) (world : World) :
    Tracked operations (fun thread => (operations thread).start) (launch operations world) where
  remembered := by
    refine ⟨fun thread => (operations thread).known_start world, fun thread => (operations thread).coherent_start, ?_⟩
    intro thread errand other
    unfold Operation.start at other
    cases described : (operations thread).decision with
    | none => rfl
    | some decision => rw [described] at other; cases other
  follows := fun thread => ensures_discipline (operations thread)

/-- The invariant rule for the threads of the hub: a step may use what the threads remember and what their phases
permit. -/
theorem Tracked.run {operations : ℕ → Operation} {phases : ℕ → Phase} {effect : Effect hubSignature World ℕ}
    {first last : Pool hubSignature AppError World ℕ} {events : List (Event hubSignature ℕ)}
    (tracked : Tracked operations phases first) (run : Pool.Run effect first events last)
    (within : ∀ thread world request reply after, effect thread world request reply after →
      mayFail thread world request reply after)
    (inv : List (Event hubSignature ℕ) → (ℕ → Phase) → World → Prop)
    (preserved : ∀ events phases world thread request reply after, inv events phases world →
      Remembered operations phases world → (phases thread).Permits (operations thread) request →
      effect thread world request reply after →
      inv (events ++ [⟨thread, request, reply⟩])
        (Function.update phases thread ((phases thread).after request reply)) after)
    (holds : inv [] phases first.shared) :
    ∃ phases, inv events phases last.shared ∧ Tracked operations phases last := by
  obtain ⟨reached, ⟨kept, remembered⟩, follows⟩ := run.invariant
    (fun events phases world => inv events phases world ∧ Remembered operations phases world)
    (by
      intro events phases world thread request reply after ⟨kept, remembered⟩ permitted step
      have taken := within _ _ _ _ _ step
      exact ⟨_, ⟨truthful_of_mayFail taken, rfl⟩,
        preserved events phases world thread request reply after kept remembered permitted step,
        remembered.step permitted taken⟩)
    phases ⟨holds, tracked.remembered⟩ tracked.follows
  exact ⟨reached, kept, remembered, follows⟩

end AutomationHub.System
