import AutomationHub.System.DecisionAuthority

/-!
What escalations do to a stage that was decided, or escalated before.

An escalation reads the stage, then reassigns it at the version read, then
records the reassignment; nothing in it looks at the status of the row.
-/

set_option autoImplicit false

namespace AutomationHub.System

open Foundation Model Database Services Auth Workflow Program Table

/-- The event reassigns the stage. -/
def reassigns (stageId : UUID) : Event hubSignature ℕ → Bool
  | ⟨_, .query (.escalateStage id ..), .ok _⟩ => id == stageId
  | _ => false

/-- The event takes a decision on the stage back. -/
def rollsBack (stageId : UUID) : Event hubSignature ℕ → Bool
  | ⟨_, .query (.revertToPending id _), .ok _⟩ => id == stageId
  | _ => false

/-- The event adds an escalation of the stage to the audit log. -/
def recordsEscalation (stageId : UUID) : Event hubSignature ℕ → Bool
  | ⟨_, .query (.recordEvent .stageEscalated _ _ (some metadata) _), .ok _⟩ => metadata.stageId == some stageId
  | _ => false

section DecidedStages

/-- Escalations fetch the stage while it is pending; decisions fetch theirs at the versions supplied. -/
def escalatesPending (operations : ℕ → Operation) (stageId : UUID) : Effect hubSignature World ℕ :=
  fun thread world request reply after => fetchesReached operations thread world request reply after ∧
    ∀ row, (operations thread).decision = none → request = .query (.getStage stageId) →
      world.stages.find? stageId = some row → row.status = .pending

/-- What the threads that decide or escalate the stage have found, and done so far. -/
structure Engaged (operations : ℕ → Operation) (stageId : UUID) (events : List (Event hubSignature ℕ))
    (phases : ℕ → Phase) : Prop where
  reached : ∀ thread, Reached (operations thread) (phases thread)
  pending : ∀ thread stage, (phases thread).errandStage = some stage → stage.id = stageId → stage.status = .pending
  begun : ∀ thread stage written, phases thread = .other (.reassigned stage written) → written.id = stageId →
    ∃ event ∈ events, event.thread = thread ∧ reassigns stageId event = true

variable {operations : ℕ → Operation} {stageId : UUID} {events : List (Event hubSignature ℕ)} {phases : ℕ → Phase}
  {thread : ℕ} {world after : World} {request : Call} {reply : request.Reply}

theorem engaged_start (operations : ℕ → Operation) (stageId : UUID) :
    Engaged operations stageId [] fun thread => (operations thread).start where
  reached := fun thread => reached_start (operations thread)
  pending := by
    intro thread stage errand
    unfold Operation.start at errand
    cases described : (operations thread).decision <;> rw [described] at errand <;> cases errand
  begun := by
    intro thread stage written reassigned
    unfold Operation.start at reassigned
    cases described : (operations thread).decision <;> rw [described] at reassigned <;> cases reassigned

theorem reassigned_after {phase : Phase} {stage written : WorkflowStageRecord} (thread : ℕ) (truth : Truthful request reply)
    (reassigned : phase.after request reply = .other (.reassigned stage written)) :
    phase = .other (.reassigned stage written) ∨ reassigns written.id ⟨thread, request, reply⟩ = true := by
  revert reassigned truth
  fun_cases Phase.after phase request reply <;> intro truth reassigned
  case case5 =>
    cases reassigned
    exact .inr (by simpa [reassigns] using truth.1.symm)
  all_goals first
    | exact .inl reassigned
    | cases reassigned

theorem Engaged.step (engaged : Engaged operations stageId events phases) (remembered : Remembered operations phases world)
    (step : escalatesPending operations stageId thread world request reply after) :
    Engaged operations stageId (events ++ [⟨thread, request, reply⟩])
      (Function.update phases thread ((phases thread).after request reply)) where
  reached := by
    intro other
    by_cases same : other = thread
    · subst same
      rw [Function.update_self]
      exact reached_after (engaged.reached other) step.1
    · rw [Function.update_of_ne same]
      exact engaged.reached other
  pending := by
    intro other stage
    by_cases same : other = thread
    · subst same
      rw [Function.update_self]
      intro errand ofStage
      rcases Phase.errandStage_after _ _ _ errand with before | ⟨⟨escalating, idle⟩, id, rfl, brought⟩
      · exact engaged.pending other stage before ofStage
      · have fetched : reply = .ok stage := by
          cases reply with
          | error error => cases brought
          | ok row => exact congrArg Except.ok (Option.some.inj brought)
        subst fetched
        obtain ⟨found, -⟩ := World.stage_of_mayFail step.1.1
        have keyed : stage.id = id := ((find?_eq_some_iff ..).mp found).2
        have sameId : id = stageId := keyed.symm.trans ofStage
        subst sameId
        exact step.2 stage (remembered.idle other escalating idle) rfl found
    · rw [Function.update_of_ne same]
      exact engaged.pending other stage
  begun := by
    intro other stage written
    by_cases same : other = thread
    · subst same
      rw [Function.update_self]
      intro reassigned sameId
      have truth := truthful_of_mayFail step.1.1
      rcases reassigned_after other truth reassigned with before | now
      · obtain ⟨event, member, begun⟩ := engaged.begun other stage written before sameId
        exact ⟨event, List.mem_append_left _ member, begun⟩
      · exact ⟨_, List.mem_append_right _ (List.mem_singleton.mpr rfl), rfl, sameId ▸ now⟩
    · rw [Function.update_of_ne same]
      intro reassigned sameId
      obtain ⟨event, member, begun⟩ := engaged.begun other stage written reassigned sameId
      exact ⟨event, List.mem_append_left _ member, begun⟩

theorem decided_row_kept {decided : WorkflowStageRecord} (engaged : Engaged operations stageId events phases)
    (remembered : Remembered operations phases world) (permitted : (phases thread).Permits (operations thread) request)
    (step : mayFail thread world request reply after) (found : world.stages.find? stageId = some decided)
    (final : decided.status ≠ .pending) (standing : rollsBack stageId ⟨thread, request, reply⟩ = false) :
    after.stages.find? stageId = some decided := by
  rcases World.stage_row_of_mayFail step found with kept | ⟨recorded, statement, edit, rfl, update, -⟩ | ⟨-, rfl⟩
  · exact kept
  · exfalso
    cases update with
    | approve | reject =>
        obtain ⟨stage, alarm, identity, expected, fetched, described, sameId, permitted, named⟩ :=
          Phase.permits_decision permitted rfl
        have origin : (phases thread).origin = some stage := by rw [fetched]; rfl
        obtain ⟨present, keyed⟩ := (find?_eq_some_iff ..).mp found
        have recalls := (remembered.known thread).stages stage (Phase.origin_mem origin)
        obtain ⟨older, unchanged⟩ := recalls.seen.later decided present (keyed.trans sameId.symm)
        have notNewer : decided.version ≤ stage.version := by
          rw [named]
          cases expected with
          | none => exact Nat.le_refl _
          | some supplied => exact engaged.reached thread stage identity supplied origin (sameId ▸ described)
        have same : stage = decided := unchanged (Nat.le_antisymm older notNewer)
        exact final (same ▸ pending_of_mayDecide permitted)
    | revert =>
        cases reply with
        | error error => cases recorded
        | ok written => simp [rollsBack] at standing
    | escalate =>
        rcases Phase.permits_escalate permitted with ⟨stage, fetched, sameId, sameVersion, -⟩ |
          ⟨stage, written, reassigned, sameId, sameVersion, -⟩
        · have errand : (phases thread).errandStage = some stage := by rw [fetched]; rfl
          have same := remembered.current found (Phase.errandStage_mem errand) sameId sameVersion
          exact final (same ▸ engaged.pending thread stage errand sameId.symm)
        · have errand : (phases thread).errandStage = some stage := by rw [reassigned]; rfl
          have member : written ∈ (phases thread).stages := by
            rw [reassigned]
            exact List.mem_cons_of_mem _ List.mem_cons_self
          have same := remembered.current found member sameId sameVersion
          have handed := remembered.reassigned reassigned
          have sameStage : written.id = stage.id := by rw [handed]; rfl
          have sameStatus : written.status = stage.status := by rw [handed]; rfl
          have pending := engaged.pending thread stage errand (sameStage.symm.trans sameId.symm)
          exact final (same ▸ sameStatus.trans pending)
  · exfalso
    obtain ⟨stage, written, seen, newStage, alarm, created, sameId, sameVersion⟩ := Phase.permits_delete permitted
    have member : newStage ∈ (phases thread).stages := by
      rw [created]
      simp [Phase.stages, Progress.stages]
    have same := remembered.current found member sameId sameVersion
    have coherent := remembered.coherent thread
    rw [created] at coherent
    obtain ⟨-, -, -, -, -, -, pending⟩ := coherent
    exact final (same ▸ pending)

theorem reassigned_of_records {operation : Operation} {phase : Phase} (permitted : phase.Permits operation request)
    (records : recordsEscalation stageId ⟨thread, request, reply⟩ = true) :
    ∃ stage written, phase = .other (.reassigned stage written) ∧ written.id = stageId := by
  unfold recordsEscalation at records
  split at records
  · rename_i event thread actorId requestId metadata companyId entry same
    cases same
    obtain ⟨stage, written, data, reassigned, given, named⟩ := Phase.permits_record permitted
    cases given
    exact ⟨stage, written, reassigned, Option.some.inj (named.symm.trans (by simpa using records))⟩
  · cases records

theorem not_reassigns_of_kept {row : WorkflowStageRecord} (step : mayFail thread world request reply after)
    (found : world.stages.find? stageId = some row) (kept : after.stages.find? stageId = some row) :
    reassigns stageId ⟨thread, request, reply⟩ = false := by
  cases outcome : reassigns stageId ⟨thread, request, reply⟩ with
  | false => rfl
  | true =>
      exfalso
      unfold reassigns at outcome
      split at outcome
      · rename_i event thread id version assignedTo assignedRole written same
        cases same
        obtain rfl : id = stageId := by simpa using outcome
        obtain ⟨changed, executed, rfl⟩ := World.executed_of_mayFail step
        obtain ⟨member, next, old, present, keyed, current, rfl⟩ := written_mem executed
        obtain ⟨rowMember, rowKeyed⟩ := (find?_eq_some_iff ..).mp found
        obtain ⟨keptMember, keptKeyed⟩ := (find?_eq_some_iff ..).mp kept
        have sameOld : old = row := world.stages.eq_of_key_eq present rowMember (keyed.trans rowKeyed.symm)
        have sameNew := changed.stages.eq_of_key_eq member keptMember (by simp [sameOld])
        have versions : row.version = version + 1 := by rw [← sameNew]; rfl
        have unmoved : row.version = version := sameOld ▸ current
        omega
      · cases outcome

/-- Once a stage is decided, and as long as the decision is not taken back, its row stays as it is; only a thread that
had reassigned the stage before the decision still records that, provided that no escalation fetches the stage once
it is decided and no decision names a version that its stage had not reached. -/
theorem decided_stage_kept {start : World} {firstEvents laterEvents : List (Event hubSignature ℕ)}
    {middle last : Pool hubSignature AppError World ℕ} {decided : WorkflowStageRecord}
    (before : Pool.Run (escalatesPending operations stageId) (launch operations start) firstEvents middle)
    (later : Pool.Run (escalatesPending operations stageId) middle laterEvents last)
    (found : middle.shared.stages.find? stageId = some decided) (final : decided.status ≠ .pending)
    (standing : ∀ event ∈ laterEvents, rollsBack stageId event = false) :
    last.shared.stages.find? stageId = some decided ∧
      ∀ event ∈ laterEvents, recordsEscalation stageId event = true →
        ∃ earlier ∈ firstEvents, earlier.thread = event.thread ∧ reassigns stageId earlier = true := by
  obtain ⟨phases, engaged, tracked⟩ := (tracked_launch operations start).run before (fun _ _ _ _ _ step => step.1.1)
    (fun events phases _ => Engaged operations stageId events phases)
    (fun _ _ _ _ _ _ _ engaged remembered _ step => engaged.step remembered step) (engaged_start operations stageId)
  obtain ⟨phases, kept, -⟩ := tracked.run later (fun _ _ _ _ _ step => step.1.1)
    (fun events phases world => (∀ event ∈ events, rollsBack stageId event = false) →
      Engaged operations stageId (firstEvents ++ events) phases ∧ world.stages.find? stageId = some decided ∧
      (∀ event ∈ events, reassigns stageId event = false) ∧
      ∀ event ∈ events, recordsEscalation stageId event = true →
        ∃ earlier ∈ firstEvents, earlier.thread = event.thread ∧ reassigns stageId earlier = true)
    (by
      intro events phases world thread request reply after kept remembered permitted step standing
      obtain ⟨engaged, found, settled, recorded⟩ := kept fun event member => standing event (List.mem_append_left _ member)
      have now := standing _ (List.mem_append_right _ (List.mem_singleton.mpr rfl))
      have unchanged := decided_row_kept engaged remembered permitted step.1.1 found final now
      refine ⟨List.append_assoc .. ▸ engaged.step remembered step, unchanged, ?_, ?_⟩
      · intro event member
        rcases List.mem_append.mp member with earlier | last
        · exact settled event earlier
        · rw [List.mem_singleton.mp last]
          exact not_reassigns_of_kept step.1.1 found unchanged
      · intro event member records
        rcases List.mem_append.mp member with earlier | last
        · exact recorded event earlier records
        · rw [List.mem_singleton.mp last] at records ⊢
          obtain ⟨stage, written, reassigned, sameId⟩ := reassigned_of_records permitted records
          obtain ⟨event, member, sameThread, begun⟩ := engaged.begun thread stage written reassigned sameId
          rcases List.mem_append.mp member with first | between
          · exact ⟨event, first, sameThread, begun⟩
          · rw [settled event between] at begun
            cases begun)
    (fun _ => ⟨by simpa using engaged, found, fun _ member => absurd member List.not_mem_nil,
      fun _ member => absurd member List.not_mem_nil⟩)
  obtain ⟨-, unchanged, -, recorded⟩ := kept standing
  exact ⟨unchanged, recorded⟩

end DecidedStages

/-- The calls that `escalatesPending` does not exclude. -/
def findsPending (operations : ℕ → Operation) (stageId : UUID) (thread : ℕ) (world : World) (request : Call) : Bool :=
  reachesVersion operations thread world request &&
    match (operations thread).decision, request with
    | none, .query (.getStage id) => id != stageId || (world.stages.find? stageId).all fun row => row.status == .pending
    | _, _ => true

theorem escalatesPending_of_findsPending {operations : ℕ → Operation} {stageId : UUID} {thread : ℕ} {world : World}
    {request : Call} (passed : findsPending operations stageId thread world request = true) :
    escalatesPending operations stageId thread world request (environment request world).1
      (environment request world).2 := by
  obtain ⟨reaches, finds⟩ := Bool.and_eq_true_iff.mp passed
  refine ⟨fetchesReached_of_reachesVersion reaches, ?_⟩
  intro row undeciding fetches found
  subst fetches
  rw [undeciding] at finds
  simpa [found] using finds

/-- Thread 1 approves stage 1; thread 2 escalates it, and fetches it before the decision. -/
def overtakenEscalation : ℕ → Operation :=
  operationsOf [.createRequest sampleEmployee (sampleRequest "travel"), .approve sampleApprover 1 (some 1) none,
    .escalateStage 1]

/-- The request is created, the escalation fetches its stage, and the approval runs to its end. -/
def overtakenEscalationSchedule : List ℕ := List.replicate 20 0 ++ [2] ++ List.replicate 20 1

theorem decided_stage_kept_sample :
    ∃ decided, decided.status = .approved ∧
      (((launch overtakenEscalation sampleHub).play environment overtakenEscalationSchedule).play environment
        (List.replicate 20 2)).shared.stages.find? 1 = some decided := by
  have firstPassed : (launch overtakenEscalation sampleHub).checked environment (findsPending overtakenEscalation 1)
      overtakenEscalationSchedule = true := by decide +kernel
  have before := Pool.play_runs_of_checked (fun _ _ _ => escalatesPending_of_findsPending) _ _ firstPassed
  have laterPassed : ((launch overtakenEscalation sampleHub).play environment overtakenEscalationSchedule).checked
      environment (findsPending overtakenEscalation 1) (List.replicate 20 2) = true := by decide +kernel
  have later := Pool.play_runs_of_checked (fun _ _ _ => escalatesPending_of_findsPending) _ _ laterPassed
  have approved : (((launch overtakenEscalation sampleHub).play environment
      overtakenEscalationSchedule).shared.stages.find? 1).any (fun row => row.status == .approved) = true := by
    decide +kernel
  have standing : (((launch overtakenEscalation sampleHub).play environment overtakenEscalationSchedule).trace
      environment (List.replicate 20 2)).all (fun event => !rollsBack 1 event) = true := by decide +kernel
  obtain ⟨decided, found, isApproved⟩ := (Option.any_eq_true ..).mp approved
  have status : decided.status = .approved := by simpa using isApproved
  have undone : ∀ event ∈ _, rollsBack 1 event = false := fun event member => by
    simpa using List.all_eq_true.mp standing event member
  obtain ⟨kept, -⟩ := decided_stage_kept before later found (by simp [status]) undone
  exact ⟨decided, status, kept⟩

/-- The columns of stage 1 that an escalation writes, with its status. -/
def assignmentOf (pool : Pool hubSignature AppError World ℕ) :
    Option (StageStatus × Option UUID × Option UserRole × Nat) :=
  (pool.shared.stages.find? 1).map fun row => (row.status, row.assignedTo, row.assignedRole, row.version)

/-- The request is created, and its only stage is approved. -/
def decidedPool : Pool hubSignature AppError World ℕ :=
  (launch overtakenEscalation sampleHub).play environment (List.replicate 20 0 ++ List.replicate 20 1)

/-- An escalation that starts after the approval reassigns the approved stage and records it. -/
theorem decided_stage_escalated :
    ∃ firstEvents laterEvents last,
      Pool.Run mayFail (launch overtakenEscalation sampleHub) firstEvents decidedPool ∧
      Pool.Run mayFail decidedPool laterEvents last ∧
      (∀ event ∈ firstEvents, event.thread ≠ 2) ∧
      (∀ event ∈ laterEvents, event.thread = 2 ∧ rollsBack 1 event = false) ∧
      assignmentOf decidedPool = some (.approved, some 2, none, 2) ∧
      assignmentOf last = some (.approved, none, some .admin, 3) ∧
      ∃ event ∈ laterEvents, recordsEscalation 1 event = true := by
  have first := play_runs_mayFail (launch overtakenEscalation sampleHub) (List.replicate 20 0 ++ List.replicate 20 1)
  have later := play_runs_mayFail decidedPool (List.replicate 20 2)
  have others : ((launch overtakenEscalation sampleHub).trace environment
      (List.replicate 20 0 ++ List.replicate 20 1)).all (fun event => event.thread != 2) = true := by decide +kernel
  have standing : (decidedPool.trace environment (List.replicate 20 2)).all
      (fun event => event.thread == 2 && !rollsBack 1 event) = true := by decide +kernel
  have recorded : (decidedPool.trace environment (List.replicate 20 2)).any (recordsEscalation 1) = true := by
    decide +kernel
  refine ⟨_, _, _, first, later, ?_, ?_, by decide +kernel, by decide +kernel, ?_⟩
  · intro event member
    simpa using List.all_eq_true.mp others event member
  · intro event member
    simpa using List.all_eq_true.mp standing event member
  · exact List.any_eq_true.mp recorded

section RepeatedEscalations

/-- Whoever fetches the stage finds it at the given version. -/
def fetchesVersion (stageId : UUID) (version : Nat) : Effect hubSignature World ℕ :=
  fun thread world request reply after => mayFail thread world request reply after ∧
    ∀ row, request = .query (.getStage stageId) → world.stages.find? stageId = some row → row.version = version

/-- The escalations of the stage in the audit log. -/
def escalationEntries (stageId : UUID) (world : World) : List AuditLogRecord :=
  world.audit.rows.filter fun entry =>
    entry.action == .stageEscalated && entry.metadata.any fun metadata => metadata.stageId == some stageId

/-- The thread has reassigned the stage, and neither recorded nor undone that yet. -/
def HasReassigned (stageId : UUID) (phase : Phase) : Prop :=
  ∃ stage written, phase = .other (.reassigned stage written) ∧ written.id = stageId

/-- How far the escalations of a stage have come: it is reassigned from its first version only, by one thread, and
a recorded escalation is final. -/
structure EscalatedOnce (stageId : UUID) (version : Nat) (events : List (Event hubSignature ℕ)) (phases : ℕ → Phase)
    (world : World) : Prop where
  idle : ∀ thread, Idle (phases thread)
  fetched : ∀ thread stage, (phases thread).errandStage = some stage → stage.id = stageId → stage.version = version
  present : ∃ row, world.stages.find? stageId = some row
  under : ∀ thread row, HasReassigned stageId (phases thread) → world.stages.find? stageId = some row →
    row.version = version + 1
  unrecorded : ∀ thread, HasReassigned stageId (phases thread) →
    ∀ event ∈ events, recordsEscalation stageId event = false
  unique : ∀ first second, HasReassigned stageId (phases first) → HasReassigned stageId (phases second) →
    first = second
  recorded : ∀ event ∈ events, recordsEscalation stageId event = true →
    ∀ row, world.stages.find? stageId = some row → row.version = version + 1

variable {operations : ℕ → Operation} {stageId : UUID} {version : Nat} {events : List (Event hubSignature ℕ)}
  {phases : ℕ → Phase} {thread : ℕ} {world after : World} {request : Call} {reply : request.Reply}

/-- What a thread that takes no decision does to the row of a stage: it reassigns the row it fetched, or takes its
reassignment back. -/
theorem row_of_idle_step (idle : Idle (phases thread)) (remembered : Remembered operations phases world)
    (permitted : (phases thread).Permits (operations thread) request)
    (step : mayFail thread world request reply after) {row : WorkflowStageRecord}
    (found : world.stages.find? stageId = some row) :
    after.stages.find? stageId = some row ∨
      recordsEscalation stageId ⟨thread, request, reply⟩ = false ∧
        ∃ new, after.stages.find? stageId = some new ∧ new.version = row.version + 1 ∧
          (phases thread = .other (.fetched row) ∧
              (∃ written, (phases thread).after request reply = .other (.reassigned row written)) ∨
            (∃ stage, phases thread = .other (.reassigned stage row)) ∧
              (phases thread).after request reply = .other .away) := by
  obtain ⟨errand, other⟩ := idle
  rcases World.stage_row_of_mayFail step found with kept | ⟨recorded, statement, edit, rfl, update, changed⟩ | ⟨-, rfl⟩
  · exact .inl kept
  · right
    cases update with
    | approve | reject =>
        obtain ⟨stage, alarm, identity, expected, deciding, -⟩ := Phase.permits_decision permitted rfl
        rw [other] at deciding
        cases deciding
    | revert =>
        obtain ⟨stage, written, seen, alarm, deciding, -⟩ := Phase.permits_revert permitted
        rw [other] at deciding
        cases deciding
    | escalate _ _ assignedTo assignedRole =>
        refine ⟨rfl, _, changed, rfl, ?_⟩
        cases reply with
        | error error => cases recorded
        | ok written =>
            rcases Phase.permits_escalate permitted with ⟨stage, fetched, sameId, sameVersion, -⟩ |
              ⟨stage, handed, reassigned, sameId, sameVersion, -⟩
            · have member : stage ∈ (phases thread).stages := by
                rw [fetched]
                exact List.mem_cons_self
              obtain rfl := remembered.current found member sameId sameVersion
              exact .inl ⟨fetched, written, by rw [fetched]; rfl⟩
            · have member : handed ∈ (phases thread).stages := by
                rw [reassigned]
                exact List.mem_cons_of_mem _ List.mem_cons_self
              obtain rfl := remembered.current found member sameId sameVersion
              exact .inr ⟨⟨stage, reassigned⟩, by rw [reassigned]; rfl⟩
  · obtain ⟨stage, written, seen, newStage, alarm, deciding, -⟩ := Phase.permits_delete permitted
    rw [other] at deciding
    cases deciding

theorem away_of_records {phase : Phase} (reassigned : HasReassigned stageId phase)
    (records : recordsEscalation stageId ⟨thread, request, reply⟩ = true) :
    phase.after request reply = .other .away := by
  obtain ⟨stage, written, rfl, -⟩ := reassigned
  unfold recordsEscalation at records
  split at records
  · rename_i event thread actorId requestId metadata companyId entry same
    cases same
    rfl
  · cases records

theorem not_hasReassigned_away : ¬HasReassigned stageId (.other .away) := by
  rintro ⟨stage, written, same, -⟩
  cases same

private theorem hasReassigned_update {phase : Phase} {other : ℕ}
    (reassigned : HasReassigned stageId (Function.update phases thread phase other)) :
    (other = thread ∧ HasReassigned stageId phase) ∨ other ≠ thread ∧ HasReassigned stageId (phases other) := by
  by_cases same : other = thread
  · subst same
    rw [Function.update_self] at reassigned
    exact .inl ⟨rfl, reassigned⟩
  · rw [Function.update_of_ne same] at reassigned
    exact .inr ⟨same, reassigned⟩

private theorem idle_update (once : EscalatedOnce stageId version events phases world) (thread : ℕ) (request : Call)
    (reply : request.Reply) (other : ℕ) :
    Idle (Function.update phases thread ((phases thread).after request reply) other) := by
  by_cases same : other = thread
  · subst same
    rw [Function.update_self]
    obtain ⟨errand, idle⟩ := once.idle other
    rw [idle]
    exact Phase.after_other errand request reply
  · rw [Function.update_of_ne same]
    exact once.idle other

private theorem fetched_update (once : EscalatedOnce stageId version events phases world)
    (step : fetchesVersion stageId version thread world request reply after) (other : ℕ) (stage : WorkflowStageRecord)
    (errand : (Function.update phases thread ((phases thread).after request reply) other).errandStage = some stage)
    (ofStage : stage.id = stageId) : stage.version = version := by
  by_cases same : other = thread
  · subst same
    rw [Function.update_self] at errand
    rcases Phase.errandStage_after _ _ _ errand with before | ⟨-, id, rfl, brought⟩
    · exact once.fetched other stage before ofStage
    · have fetched : reply = .ok stage := by
        cases reply with
        | error error => cases brought
        | ok row => exact congrArg Except.ok (Option.some.inj brought)
      subst fetched
      obtain ⟨found, -⟩ := World.stage_of_mayFail step.1
      have keyed : stage.id = id := ((find?_eq_some_iff ..).mp found).2
      have sameId : id = stageId := keyed.symm.trans ofStage
      subst sameId
      exact step.2 stage rfl found
  · rw [Function.update_of_ne same] at errand
    exact once.fetched other stage errand ofStage

/-- A call that leaves the row as it is: at most the escalation in progress is recorded or given up. -/
private theorem EscalatedOnce.kept (once : EscalatedOnce stageId version events phases world)
    (permitted : (phases thread).Permits (operations thread) request)
    (step : fetchesVersion stageId version thread world request reply after)
    {row : WorkflowStageRecord} (found : world.stages.find? stageId = some row)
    (kept : after.stages.find? stageId = some row) :
    EscalatedOnce stageId version (events ++ [⟨thread, request, reply⟩])
      (Function.update phases thread ((phases thread).after request reply)) after := by
  have before : ∀ other, HasReassigned stageId
      (Function.update phases thread ((phases thread).after request reply) other) →
      HasReassigned stageId (phases other) := by
    intro other reassigned
    rcases hasReassigned_update reassigned with ⟨rfl, stage, written, now, sameId⟩ | ⟨-, earlier⟩
    · rcases reassigned_after other (truthful_of_mayFail step.1) now with earlier | reassigns
      · exact ⟨stage, written, earlier, sameId⟩
      · have quiet := not_reassigns_of_kept step.1 found kept
        rw [← sameId, reassigns] at quiet
        cases quiet
    · exact earlier
  have recorder : recordsEscalation stageId ⟨thread, request, reply⟩ = true →
      HasReassigned stageId (phases thread) := fun records => reassigned_of_records permitted records
  constructor
  · exact idle_update once thread request reply
  · exact fetched_update once step
  · exact ⟨row, kept⟩
  · intro other now reassigned present
    obtain rfl : row = now := Option.some.inj (kept.symm.trans present)
    exact once.under other row (before other reassigned) found
  · intro other reassigned event member
    rcases List.mem_append.mp member with earlier | last
    · exact once.unrecorded other (before other reassigned) event earlier
    · rw [List.mem_singleton.mp last]
      by_contra records
      have records := Bool.eq_true_of_not_eq_false records
      have same := once.unique other thread (before other reassigned) (recorder records)
      subst same
      rw [Function.update_self, away_of_records (recorder records) records] at reassigned
      exact not_hasReassigned_away reassigned
  · intro first second left right
    exact once.unique first second (before first left) (before second right)
  · intro event member records now present
    obtain rfl : row = now := Option.some.inj (kept.symm.trans present)
    rcases List.mem_append.mp member with earlier | last
    · exact once.recorded event earlier records row found
    · rw [List.mem_singleton.mp last] at records
      exact once.under thread row (recorder records) found

private theorem EscalatedOnce.reassigned (once : EscalatedOnce stageId version events phases world)
    (step : fetchesVersion stageId version thread world request reply after)
    (quiet : recordsEscalation stageId ⟨thread, request, reply⟩ = false)
    {row new : WorkflowStageRecord} (found : world.stages.find? stageId = some row)
    (changed : after.stages.find? stageId = some new) (next : new.version = row.version + 1)
    (fetched : phases thread = .other (.fetched row)) :
    EscalatedOnce stageId version (events ++ [⟨thread, request, reply⟩])
      (Function.update phases thread ((phases thread).after request reply)) after := by
  have current : row.version = version := by
    refine once.fetched thread row (by rw [fetched]; rfl) ?_
    exact ((find?_eq_some_iff ..).mp found).2
  have nobody : ∀ other, ¬HasReassigned stageId (phases other) := by
    intro other reassigned
    have ahead := once.under other row reassigned found
    omega
  have silent : ∀ event ∈ events ++ [⟨thread, request, reply⟩], recordsEscalation stageId event = false := by
    intro event member
    rcases List.mem_append.mp member with earlier | last
    · by_contra records
      have ahead := once.recorded event earlier (Bool.eq_true_of_not_eq_false records) row found
      omega
    · rw [List.mem_singleton.mp last]
      exact quiet
  have only : ∀ other, HasReassigned stageId
      (Function.update phases thread ((phases thread).after request reply) other) → other = thread := by
    intro other reassigned
    rcases hasReassigned_update reassigned with ⟨same, -⟩ | ⟨-, earlier⟩
    · exact same
    · exact absurd earlier (nobody other)
  constructor
  · exact idle_update once thread request reply
  · exact fetched_update once step
  · exact ⟨new, changed⟩
  · intro other now reassigned present
    obtain rfl : new = now := Option.some.inj (changed.symm.trans present)
    omega
  · intro other reassigned event member
    exact silent event member
  · intro first second left right
    exact (only first left).trans (only second right).symm
  · intro event member records
    rw [silent event member] at records
    cases records

/-- A reassignment taken back: the stage is not escalated, and nobody finds it at the first version again. -/
private theorem EscalatedOnce.restored (once : EscalatedOnce stageId version events phases world)
    (step : fetchesVersion stageId version thread world request reply after)
    (quiet : recordsEscalation stageId ⟨thread, request, reply⟩ = false)
    {row new stage : WorkflowStageRecord} (found : world.stages.find? stageId = some row)
    (changed : after.stages.find? stageId = some new)
    (reassigned : phases thread = .other (.reassigned stage row))
    (away : (phases thread).after request reply = .other .away) :
    EscalatedOnce stageId version (events ++ [⟨thread, request, reply⟩])
      (Function.update phases thread ((phases thread).after request reply)) after := by
  have holder : HasReassigned stageId (phases thread) :=
    ⟨stage, row, reassigned, ((find?_eq_some_iff ..).mp found).2⟩
  have nobody : ∀ other, ¬HasReassigned stageId
      (Function.update phases thread ((phases thread).after request reply) other) := by
    intro other now
    rcases hasReassigned_update now with ⟨rfl, now⟩ | ⟨different, earlier⟩
    · rw [away] at now
      exact not_hasReassigned_away now
    · exact different (once.unique other thread earlier holder)
  have silent : ∀ event ∈ events ++ [⟨thread, request, reply⟩], recordsEscalation stageId event = false := by
    intro event member
    rcases List.mem_append.mp member with earlier | last
    · exact once.unrecorded thread holder event earlier
    · rw [List.mem_singleton.mp last]
      exact quiet
  constructor
  · exact idle_update once thread request reply
  · exact fetched_update once step
  · exact ⟨new, changed⟩
  · intro other now reassigned
    exact absurd reassigned (nobody other)
  · intro other reassigned
    exact absurd reassigned (nobody other)
  · intro first second left
    exact absurd left (nobody first)
  · intro event member records
    rw [silent event member] at records
    cases records

theorem EscalatedOnce.step (once : EscalatedOnce stageId version events phases world)
    (remembered : Remembered operations phases world) (permitted : (phases thread).Permits (operations thread) request)
    (step : fetchesVersion stageId version thread world request reply after) :
    EscalatedOnce stageId version (events ++ [⟨thread, request, reply⟩])
      (Function.update phases thread ((phases thread).after request reply)) after := by
  obtain ⟨row, found⟩ := once.present
  rcases row_of_idle_step (once.idle thread) remembered permitted step.1 found with
    kept | ⟨quiet, new, changed, next, ⟨fetched, -⟩ | ⟨⟨stage, reassigned⟩, away⟩⟩
  · exact once.kept permitted step found kept
  · exact once.reassigned step quiet found changed next fetched
  · exact once.restored step quiet found changed reassigned away

theorem escalationEntries_kept (step : mayFail thread world request reply after)
    (quiet : recordsEscalation stageId ⟨thread, request, reply⟩ = false) :
    escalationEntries stageId after = escalationEntries stageId world := by
  by_cases recording : ∃ action actorId requestId metadata companyId,
      request = .query (.recordEvent action actorId requestId metadata companyId)
  · obtain ⟨action, actorId, requestId, metadata, companyId, rfl⟩ := recording
    cases reply with
    | error error => rw [World.unchanged_of_refused step]; rfl
    | ok entry =>
        obtain ⟨ofAction, -, -, ofMetadata, appended, -⟩ := World.recorded_of_mayFail step
        have other : (entry.action == .stageEscalated &&
            entry.metadata.any fun metadata => metadata.stageId == some stageId) = false := by
          rw [ofAction, ofMetadata]
          cases action <;> first | rfl | skip
          cases metadata with
          | none => rfl
          | some metadata => simpa [recordsEscalation] using quiet
        unfold escalationEntries
        rw [appended, List.filter_append, List.filter_cons_of_neg (by simp [other]), List.filter_nil, List.append_nil]
  · have audit := World.audit_of_mayFail step fun action actorId requestId metadata companyId same =>
      recording ⟨action, actorId, requestId, metadata, companyId, same⟩
    unfold escalationEntries
    rw [audit]

theorem escalatedOnce_start {start : World} {original : WorkflowStageRecord}
    (undeciding : ∀ thread, (operations thread).decision = none)
    (found : start.stages.find? stageId = some original) :
    EscalatedOnce stageId version [] (fun thread => (operations thread).start) start := by
  have away : ∀ thread, (operations thread).start = .other .away := by
    intro thread
    unfold Operation.start
    rw [undeciding thread]
  have nobody : ∀ thread, ¬HasReassigned stageId (operations thread).start := by
    intro thread
    rw [away thread]
    exact not_hasReassigned_away
  constructor
  · intro thread
    exact ⟨.away, away thread⟩
  · intro thread stage errand
    rw [away thread] at errand
    cases errand
  · exact ⟨original, found⟩
  · intro thread row reassigned
    exact absurd reassigned (nobody thread)
  · intro thread reassigned
    exact absurd reassigned (nobody thread)
  · intro first second reassigned
    exact absurd reassigned (nobody first)
  · intro event member
    exact absurd member List.not_mem_nil

private theorem EscalatedOnce.finished (once : EscalatedOnce stageId version events phases world)
    {event : Event hubSignature ℕ} (member : event ∈ events) (records : recordsEscalation stageId event = true)
    (thread : ℕ) : ¬HasReassigned stageId (phases thread) := by
  intro reassigned
  rw [once.unrecorded thread reassigned event member] at records
  cases records

/-- Once an escalation is recorded, a step changes neither the row nor the entries of the stage. -/
private theorem EscalatedOnce.final (once : EscalatedOnce stageId version events phases world)
    (remembered : Remembered operations phases world) (permitted : (phases thread).Permits (operations thread) request)
    (step : mayFail thread world request reply after) (escalated : ∃ event ∈ events, recordsEscalation stageId event = true) :
    after.stages.find? stageId = world.stages.find? stageId ∧
      escalationEntries stageId after = escalationEntries stageId world := by
  obtain ⟨event, member, records⟩ := escalated
  obtain ⟨row, found⟩ := once.present
  have ahead := once.recorded event member records row found
  have quiet : recordsEscalation stageId ⟨thread, request, reply⟩ = false := by
    by_contra now
    exact once.finished member records thread (reassigned_of_records permitted (Bool.eq_true_of_not_eq_false now))
  refine ⟨?_, escalationEntries_kept step quiet⟩
  rcases row_of_idle_step (once.idle thread) remembered permitted step found with
    kept | ⟨-, new, -, -, ⟨fetched, -⟩ | ⟨⟨stage, reassigned⟩, -⟩⟩
  · exact kept.trans found.symm
  · have sameId : row.id = stageId := ((find?_eq_some_iff ..).mp found).2
    have current := once.fetched thread row (by rw [fetched]; rfl) sameId
    omega
  · have sameId : row.id = stageId := ((find?_eq_some_iff ..).mp found).2
    exact absurd ⟨stage, row, reassigned, sameId⟩ (once.finished member records thread)

/-- After the first escalation that is recorded, no other changes the row of the stage or its entries in the audit log,
provided that nobody fetches the stage for an escalation once it was reassigned. -/
theorem escalated_stage_kept {start : World} {original : WorkflowStageRecord}
    {firstEvents laterEvents : List (Event hubSignature ℕ)} {middle last : Pool hubSignature AppError World ℕ}
    (undeciding : ∀ thread, (operations thread).decision = none)
    (found : start.stages.find? stageId = some original)
    (before : Pool.Run (fetchesVersion stageId original.version) (launch operations start) firstEvents middle)
    (later : Pool.Run (fetchesVersion stageId original.version) middle laterEvents last)
    (escalated : ∃ event ∈ firstEvents, recordsEscalation stageId event = true) :
    last.shared.stages.find? stageId = middle.shared.stages.find? stageId ∧
      escalationEntries stageId last.shared = escalationEntries stageId middle.shared := by
  obtain ⟨event, member, records⟩ := escalated
  obtain ⟨phases, once, tracked⟩ := (tracked_launch operations start).run before (fun _ _ _ _ _ step => step.1)
    (EscalatedOnce stageId original.version)
    (fun _ _ _ _ _ _ _ once remembered permitted step => once.step remembered permitted step)
    (escalatedOnce_start undeciding found)
  obtain ⟨phases, ⟨-, unchanged⟩, -⟩ := tracked.run later (fun _ _ _ _ _ step => step.1)
    (fun events phases world => EscalatedOnce stageId original.version (firstEvents ++ events) phases world ∧
      world.stages.find? stageId = middle.shared.stages.find? stageId ∧
      escalationEntries stageId world = escalationEntries stageId middle.shared)
    (by
      intro events phases world thread request reply after ⟨once, row, entries⟩ remembered permitted step
      obtain ⟨sameRow, sameEntries⟩ := once.final remembered permitted step.1
        ⟨event, List.mem_append_left _ member, records⟩
      exact ⟨List.append_assoc .. ▸ once.step remembered permitted step, sameRow.trans row, sameEntries.trans entries⟩)
    ⟨by simpa using once, rfl, rfl⟩
  exact unchanged

end RepeatedEscalations

/-- The calls that `fetchesVersion` does not exclude. -/
def findsVersion (stageId : UUID) (version : Nat) (_thread : ℕ) (world : World) (request : Call) : Bool :=
  match request with
  | .query (.getStage id) => id != stageId || (world.stages.find? stageId).all fun row => row.version == version
  | _ => true

theorem fetchesVersion_of_findsVersion {stageId : UUID} {version thread : ℕ} {world : World} {request : Call}
    (passed : findsVersion stageId version thread world request = true) :
    fetchesVersion stageId version thread world request (environment request world).1 (environment request world).2 := by
  refine ⟨mayFail_environment thread world request, ?_⟩
  intro row fetches found
  subst fetches
  simpa [findsVersion, found] using passed

/-- Every thread is a worker or a tick that escalates stage 1. -/
def duplicateJobs : ℕ → Operation
  | 0 => .executeJob (.escalateStage 1)
  | 1 => .executeJob (.escalateStage 1)
  | _ => .escalationJob .queued

/-- Both jobs have fetched the stage, and the first has run to its end. -/
def duplicateJobsPool : Pool hubSignature AppError World ℕ :=
  (launch duplicateJobs (hubWithRequest "travel")).play environment ([0, 1] ++ List.replicate 20 0)

theorem escalated_stage_kept_sample :
    (duplicateJobsPool.play environment (List.replicate 20 1)).shared.stages.find? 1 =
        duplicateJobsPool.shared.stages.find? 1 ∧
      escalationEntries 1 (duplicateJobsPool.play environment (List.replicate 20 1)).shared =
        escalationEntries 1 duplicateJobsPool.shared := by
  have undeciding : ∀ thread, (duplicateJobs thread).decision = none := by
    intro thread
    match thread with
    | 0 | 1 | _ + 2 => rfl
  have present : ((hubWithRequest "travel").stages.find? 1).any (fun row => row.version == 1) = true := by decide +kernel
  obtain ⟨original, found, isFirst⟩ := (Option.any_eq_true ..).mp present
  have first : original.version = 1 := by simpa using isFirst
  have offered : ∀ thread world request, findsVersion 1 1 thread world request = true →
      fetchesVersion 1 original.version thread world request (environment request world).1
        (environment request world).2 := by
    rw [first]
    exact fun _ _ _ => fetchesVersion_of_findsVersion
  have firstPassed : (launch duplicateJobs (hubWithRequest "travel")).checked environment (findsVersion 1 1)
      ([0, 1] ++ List.replicate 20 0) = true := by decide +kernel
  have before := Pool.play_runs_of_checked offered _ _ firstPassed
  have laterPassed : duplicateJobsPool.checked environment (findsVersion 1 1) (List.replicate 20 1) = true := by
    decide +kernel
  have later := Pool.play_runs_of_checked offered _ _ laterPassed
  have recorded : ((launch duplicateJobs (hubWithRequest "travel")).trace environment
      ([0, 1] ++ List.replicate 20 0)).any (recordsEscalation 1) = true := by decide +kernel
  exact escalated_stage_kept undeciding found before later (List.any_eq_true.mp recorded)

/-- Every thread is one tick of the escalation job. -/
def repeatedTicks : ℕ → Operation := fun _ => .escalationJob .synchronous

/-- The overdue stage was escalated by the first tick. -/
def firstTickPool : Pool hubSignature AppError World ℕ :=
  (launch repeatedTicks (hubWithRequest "travel")).play environment (List.replicate 20 0)

/-- The next tick escalates the stage again: it raises the version and records a second escalation. -/
theorem escalated_stage_escalated :
    ∃ firstEvents laterEvents last,
      Pool.Run mayFail (launch repeatedTicks (hubWithRequest "travel")) firstEvents firstTickPool ∧
      Pool.Run mayFail firstTickPool laterEvents last ∧
      (∀ event ∈ firstEvents, event.thread = 0) ∧ (∀ event ∈ laterEvents, event.thread = 1) ∧
      assignmentOf (launch repeatedTicks (hubWithRequest "travel")) = some (.pending, some 2, none, 1) ∧
      assignmentOf firstTickPool = some (.pending, none, some .admin, 2) ∧
      assignmentOf last = some (.pending, none, some .admin, 3) ∧
      (escalationEntries 1 firstTickPool.shared).length = 1 ∧ (escalationEntries 1 last.shared).length = 2 := by
  have first := play_runs_mayFail (launch repeatedTicks (hubWithRequest "travel")) (List.replicate 20 0)
  have later := play_runs_mayFail firstTickPool (List.replicate 20 1)
  have firstThreads : ((launch repeatedTicks (hubWithRequest "travel")).trace environment (List.replicate 20 0)).all
      (fun event => event.thread == 0) = true := by decide +kernel
  have laterThreads : (firstTickPool.trace environment (List.replicate 20 1)).all (fun event => event.thread == 1) =
      true := by decide +kernel
  refine ⟨_, _, _, first, later, ?_, ?_, by decide +kernel, by decide +kernel, by decide +kernel, by decide +kernel,
    by decide +kernel⟩
  · intro event member
    simpa using List.all_eq_true.mp firstThreads event member
  · intro event member
    simpa using List.all_eq_true.mp laterThreads event member

end AutomationHub.System
