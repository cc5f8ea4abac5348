import AutomationHub.Database.Repositories

/-!
What the statements do to requests and stages.

A statement that the database refuses changes nothing.  One that takes effect
updates, inserts or removes a single row, and leaves the profiles alone.
-/

set_option autoImplicit false

namespace AutomationHub.Database

open Foundation Model Table

section Locking

variable {ρ : Type} [Versioned ρ] {tableName : String} {table updated : Table ρ} {id expectedVersion : Nat}
  {edit : Edit ρ} {violated : ρ → Option String} {written : ρ} {error : DatabaseError}

theorem updateWithOptimisticLock_ok_iff :
    updateWithOptimisticLock tableName table id expectedVersion edit violated = (.ok written, updated) ↔
      ∃ row, table.find? id = some row ∧ Versioned.version row = expectedVersion ∧ violated written = none ∧
        written = (stamped edit expectedVersion).apply row ∧ updated = table.modify id (stamped edit expectedVersion) := by
  unfold updateWithOptimisticLock
  constructor
  · intro success
    cases attempted : table.updateIfVersion id expectedVersion edit with
    | none => simp [attempted] at success
    | some outcome =>
        obtain ⟨row, found, current, isWritten, isUpdated⟩ := (updateIfVersion_eq_some_iff ..).mp attempted
        cases refused : violated outcome.1 with
        | some constraint => simp [attempted, refused] at success
        | none =>
            simp only [attempted, refused, Prod.mk.injEq, Except.ok.injEq] at success
            obtain ⟨rfl, rfl⟩ := success
            exact ⟨row, found, current, refused, isWritten, isUpdated⟩
  · rintro ⟨row, found, current, accepted, rfl, rfl⟩
    have attempted := (updateIfVersion_eq_some_iff table id expectedVersion edit _ _).mpr
      ⟨row, found, current, rfl, rfl⟩
    simp [attempted, accepted]

theorem updateWithOptimisticLock_error
    (failed : updateWithOptimisticLock tableName table id expectedVersion edit violated = (.error error, updated)) :
    updated = table := by
  unfold updateWithOptimisticLock at failed
  cases attempted : table.updateIfVersion id expectedVersion edit with
  | none =>
      rw [attempted] at failed
      exact (congrArg Prod.snd failed).symm
  | some outcome =>
      rw [attempted] at failed
      cases refused : violated outcome.1 with
      | none => simp [refused] at failed
      | some constraint =>
          simp only [refused] at failed
          exact (congrArg Prod.snd failed).symm

end Locking

section Inserting

variable {ρ : Type} [Keyed ρ] {tableName : String} {table extended : Table ρ} {draft : Draft ρ}
  {violated : ρ → Option String} {created : ρ} {error : DatabaseError}

theorem insertRow_ok_iff : insertRow tableName table draft violated = (.ok created, extended) ↔
    violated created = none ∧ created = draft.build table.next ∧ extended = table.insert draft := by
  unfold insertRow
  cases refused : violated (draft.build table.next) with
  | none =>
      constructor
      · intro success
        simp only [Prod.mk.injEq, Except.ok.injEq] at success
        obtain ⟨rfl, rfl⟩ := success
        exact ⟨refused, rfl, rfl⟩
      · rintro ⟨-, rfl, rfl⟩
        rfl
  | some constraint =>
      constructor
      · intro success
        simp at success
      · rintro ⟨accepted, rfl, -⟩
        simp [refused] at accepted

theorem insertRow_error (failed : insertRow tableName table draft violated = (.error error, extended)) :
    extended = table := by
  unfold insertRow at failed
  cases refused : violated (draft.build table.next) with
  | none => simp [refused] at failed
  | some constraint =>
      rw [refused] at failed
      exact (congrArg Prod.snd failed).symm

end Inserting

namespace World

variable {world after : World} {error : DatabaseError}

@[simp] theorem tick_clock (world : World) : world.tick.clock = world.clock := rfl
@[simp] theorem tick_profiles (world : World) : world.tick.profiles = world.profiles := rfl
@[simp] theorem tick_definitions (world : World) : world.tick.definitions = world.definitions := rfl
@[simp] theorem tick_requests (world : World) : world.tick.requests = world.requests := rfl
@[simp] theorem tick_stages (world : World) : world.tick.stages = world.stages := rfl
@[simp] theorem tick_audit (world : World) : world.tick.audit = world.audit := rfl
@[simp] theorem tick_preferences (world : World) : world.tick.preferences = world.preferences := rfl
@[simp] theorem tick_jobs (world : World) : world.tick.jobs = world.jobs := rfl

@[simp] theorem hasProfile_tick (world : World) (profileId : UUID) : world.tick.hasProfile profileId = world.hasProfile profileId := rfl
@[simp] theorem hasRequest_tick (world : World) (requestId : UUID) : world.tick.hasRequest requestId = world.hasRequest requestId := rfl
@[simp] theorem hasStage_tick (world : World) (stageId : UUID) : world.tick.hasStage stageId = world.hasStage stageId := rfl

theorem firstViolated_eq_none_iff (constraints : List (String × Bool)) :
    firstViolated constraints = none ↔ ∀ constraint ∈ constraints, constraint.2 = true := by
  simp [firstViolated, List.find?_eq_none]

theorem getById_ok_iff {ρ : Type} [Keyed ρ] {tableName : String} {table : Table ρ} {id : UUID} {row : ρ} :
    getById tableName table id = .ok row ↔ table.find? id = some row := by
  unfold getById
  cases table.find? id with
  | none => simp
  | some found => simp

section Updates

variable {id expectedVersion : Nat}

theorem updateStage_ok_iff {edit : Edit WorkflowStageRecord} {violated : WorkflowStageRecord → Option String}
    {written : WorkflowStageRecord} :
    world.updateStage id expectedVersion edit violated = (.ok written, after) ↔
      ∃ row, world.stages.find? id = some row ∧ row.version = expectedVersion ∧ violated written = none ∧
        written = (stamped edit expectedVersion).apply row ∧
        after = { world with stages := world.stages.modify id (stamped edit expectedVersion) } := by
  unfold updateStage
  constructor
  · intro success
    rcases outcome : updateWithOptimisticLock _ _ id expectedVersion edit violated with ⟨reply, updated⟩
    rw [outcome] at success
    obtain ⟨rfl, rfl⟩ := Prod.mk.inj success
    obtain ⟨row, found, current, accepted, isWritten, rfl⟩ := updateWithOptimisticLock_ok_iff.mp outcome
    exact ⟨row, found, current, accepted, isWritten, rfl⟩
  · rintro ⟨row, found, current, accepted, isWritten, rfl⟩
    rw [updateWithOptimisticLock_ok_iff.mpr ⟨row, found, current, accepted, isWritten, rfl⟩]

theorem updateStage_error {edit : Edit WorkflowStageRecord} {violated : WorkflowStageRecord → Option String}
    (failed : world.updateStage id expectedVersion edit violated = (.error error, after)) : after = world := by
  unfold updateStage at failed
  rcases outcome : updateWithOptimisticLock _ _ id expectedVersion edit violated with ⟨reply, updated⟩
  rw [outcome] at failed
  obtain ⟨rfl, rfl⟩ := Prod.mk.inj failed
  rw [updateWithOptimisticLock_error outcome]

theorem updateRequest_ok_iff {edit : Edit RequestRecord} {violated : RequestRecord → Option String}
    {written : RequestRecord} :
    world.updateRequest id expectedVersion edit violated = (.ok written, after) ↔
      ∃ row, world.requests.find? id = some row ∧ row.version = expectedVersion ∧ violated written = none ∧
        written = (stamped edit expectedVersion).apply row ∧
        after = { world with requests := world.requests.modify id (stamped edit expectedVersion) } := by
  unfold updateRequest
  constructor
  · intro success
    rcases outcome : updateWithOptimisticLock _ _ id expectedVersion edit violated with ⟨reply, updated⟩
    rw [outcome] at success
    obtain ⟨rfl, rfl⟩ := Prod.mk.inj success
    obtain ⟨row, found, current, accepted, isWritten, rfl⟩ := updateWithOptimisticLock_ok_iff.mp outcome
    exact ⟨row, found, current, accepted, isWritten, rfl⟩
  · rintro ⟨row, found, current, accepted, isWritten, rfl⟩
    rw [updateWithOptimisticLock_ok_iff.mpr ⟨row, found, current, accepted, isWritten, rfl⟩]

theorem updateRequest_error {edit : Edit RequestRecord} {violated : RequestRecord → Option String}
    (failed : world.updateRequest id expectedVersion edit violated = (.error error, after)) : after = world := by
  unfold updateRequest at failed
  rcases outcome : updateWithOptimisticLock _ _ id expectedVersion edit violated with ⟨reply, updated⟩
  rw [outcome] at failed
  obtain ⟨rfl, rfl⟩ := Prod.mk.inj failed
  rw [updateWithOptimisticLock_error outcome]

end Updates

section Inserts

theorem createStage_ok_iff {draft : Draft WorkflowStageRecord} {created : WorkflowStageRecord} :
    world.createStage draft = (.ok created, after) ↔
      created = draft.build world.stages.next ∧ after = { world with stages := world.stages.insert draft } ∧
        0 < created.stageOrder ∧
        (∀ other ∈ world.stages.rows, other.requestId = created.requestId → other.stageOrder ≠ created.stageOrder) ∧
        world.hasRequest created.requestId = true ∧ created.assignedTo.all world.hasProfile = true := by
  unfold createStage
  rcases outcome : insertRow "workflow_stages" world.stages draft _ with ⟨reply, extended⟩
  have accepted := (firstViolated_eq_none_iff [
    ("check", decide (0 < created.stageOrder)),
    ("unique", world.stages.rows.all fun other =>
      other.requestId != created.requestId || other.stageOrder != created.stageOrder),
    ("foreign_key", world.hasRequest created.requestId),
    ("foreign_key", created.assignedTo.all world.hasProfile)]).symm
  have distinct : (world.stages.rows.all fun other =>
      other.requestId != created.requestId || other.stageOrder != created.stageOrder) = true ↔
      ∀ other ∈ world.stages.rows, other.requestId = created.requestId → other.stageOrder ≠ created.stageOrder := by
    simp only [List.all_eq_true, Bool.or_eq_true, bne_iff_ne, ne_eq, or_iff_not_imp_left, not_not]
  simp only [List.mem_cons, List.not_mem_nil, or_false, forall_eq_or_imp, forall_eq, decide_eq_true_eq, distinct] at accepted
  constructor
  · intro success
    obtain ⟨rfl, rfl⟩ := Prod.mk.inj success
    obtain ⟨valid, built, rfl⟩ := insertRow_ok_iff.mp outcome
    exact ⟨built, rfl, accepted.mpr valid⟩
  · rintro ⟨built, rfl, valid⟩
    have inserted := outcome.symm.trans (insertRow_ok_iff.mpr ⟨by exact built ▸ accepted.mp valid, rfl, rfl⟩)
    obtain ⟨rfl, rfl⟩ := Prod.mk.inj inserted
    rw [built]

theorem createStage_error {draft : Draft WorkflowStageRecord}
    (failed : world.createStage draft = (.error error, after)) : after = world := by
  unfold createStage at failed
  rcases outcome : insertRow "workflow_stages" world.stages draft _ with ⟨reply, extended⟩
  rw [outcome] at failed
  obtain ⟨rfl, rfl⟩ := Prod.mk.inj failed
  rw [insertRow_error outcome]

theorem createRequest_ok {draft : Draft RequestRecord} {created : RequestRecord}
    (success : world.createRequest draft = (.ok created, after)) :
    created = draft.build world.requests.next ∧ after = { world with requests := world.requests.insert draft } ∧
      world.hasProfile created.requesterId = true := by
  unfold createRequest at success
  rcases outcome : insertRow "requests" world.requests draft _ with ⟨reply, extended⟩
  rw [outcome] at success
  obtain ⟨rfl, rfl⟩ := Prod.mk.inj success
  obtain ⟨valid, built, rfl⟩ := insertRow_ok_iff.mp outcome
  exact ⟨built, rfl, (firstViolated_eq_none_iff _).mp valid ("foreign_key", world.hasProfile created.requesterId) (by simp)⟩

theorem createRequest_error {draft : Draft RequestRecord}
    (failed : world.createRequest draft = (.error error, after)) : after = world := by
  unfold createRequest at failed
  rcases outcome : insertRow "requests" world.requests draft _ with ⟨reply, extended⟩
  rw [outcome] at failed
  obtain ⟨rfl, rfl⟩ := Prod.mk.inj failed
  rw [insertRow_error outcome]

theorem recordEvent_ok_iff {draft : Draft AuditLogRecord} {created : AuditLogRecord} :
    world.recordEvent draft = (.ok created, after) ↔
      created = draft.build world.audit.next ∧ after = { world with audit := world.audit.insert draft } ∧
        created.actorId.all world.hasProfile = true ∧ created.requestId.all world.hasRequest = true := by
  unfold recordEvent
  rcases outcome : insertRow "audit_logs" world.audit draft _ with ⟨reply, extended⟩
  have accepted := (firstViolated_eq_none_iff [
    ("foreign_key", created.actorId.all world.hasProfile),
    ("foreign_key", created.requestId.all world.hasRequest)]).symm
  simp only [List.mem_cons, List.not_mem_nil, or_false, forall_eq_or_imp, forall_eq] at accepted
  constructor
  · intro success
    obtain ⟨rfl, rfl⟩ := Prod.mk.inj success
    obtain ⟨valid, built, rfl⟩ := insertRow_ok_iff.mp outcome
    exact ⟨built, rfl, accepted.mpr valid⟩
  · rintro ⟨built, rfl, valid⟩
    have inserted := outcome.symm.trans (insertRow_ok_iff.mpr ⟨by exact built ▸ accepted.mp valid, rfl, rfl⟩)
    obtain ⟨rfl, rfl⟩ := Prod.mk.inj inserted
    rw [built]

theorem recordEvent_error {draft : Draft AuditLogRecord}
    (failed : world.recordEvent draft = (.error error, after)) : after = world := by
  unfold recordEvent at failed
  rcases outcome : insertRow "audit_logs" world.audit draft _ with ⟨reply, extended⟩
  rw [outcome] at failed
  obtain ⟨rfl, rfl⟩ := Prod.mk.inj failed
  rw [insertRow_error outcome]

theorem createNotification_error {draft : Draft NotificationRecord}
    (failed : world.createNotification draft = (.error error, after)) : after = world := by
  unfold createNotification at failed
  rcases outcome : insertRow "notifications" world.notifications draft _ with ⟨reply, extended⟩
  rw [outcome] at failed
  obtain ⟨rfl, rfl⟩ := Prod.mk.inj failed
  rw [insertRow_error outcome]

theorem deleteIfUnchanged_true_iff {stageId : UUID} {expectedVersion : Nat} :
    world.deleteIfUnchanged stageId expectedVersion = (.ok true, after) ↔
      (∃ row, world.stages.find? stageId = some row ∧ row.version = expectedVersion) ∧
        (∀ request ∈ world.requests.rows, request.currentStageId ≠ some stageId) ∧
        after = { world with stages := world.stages.erase stageId } := by
  unfold deleteIfUnchanged
  cases attempted : world.stages.eraseIfVersion stageId expectedVersion with
  | none =>
      have absent : ¬∃ row, world.stages.find? stageId = some row ∧ row.version = expectedVersion := by
        rintro ⟨row, found, current⟩
        have erased := (eraseIfVersion_eq_some_iff world.stages stageId expectedVersion _).mpr ⟨row, found, current, rfl⟩
        rw [attempted] at erased
        cases erased
      simp [absent]
  | some remaining =>
      obtain ⟨row, found, current, rfl⟩ := (eraseIfVersion_eq_some_iff ..).mp attempted
      have present : ∃ row, world.stages.find? stageId = some row ∧ row.version = expectedVersion := ⟨row, found, current⟩
      by_cases referenced : (world.requests.rows.any fun request => request.currentStageId == some stageId) = true
      · obtain ⟨request, member, points⟩ := List.any_eq_true.mp referenced
        have blocked : ¬∀ request ∈ world.requests.rows, request.currentStageId ≠ some stageId := fun free =>
          free request member (by simpa using points)
        simp [referenced, blocked]
      · have free : ∀ request ∈ world.requests.rows, request.currentStageId ≠ some stageId := by
          intro request member points
          exact referenced (List.any_eq_true.mpr ⟨request, member, by simp [points]⟩)
        simp only [if_neg referenced, Prod.mk.injEq, true_and]
        exact ⟨fun same => ⟨present, free, same.symm⟩, fun same => same.2.2.symm⟩

theorem deleteIfUnchanged_unchanged {stageId : UUID} {expectedVersion : Nat} {reply : Except DatabaseError Bool}
    (failed : world.deleteIfUnchanged stageId expectedVersion = (reply, after)) (kept : reply ≠ .ok true) :
    after = world := by
  unfold deleteIfUnchanged at failed
  split at failed
  · exact (congrArg Prod.snd failed).symm
  · split at failed
    · exact (congrArg Prod.snd failed).symm
    · exact absurd (congrArg Prod.fst failed).symm kept

theorem markEmailSent_error {notificationId : UUID}
    (failed : world.markEmailSent notificationId = (.error error, after)) : after = world := by
  unfold markEmailSent at failed
  split at failed
  · exact (congrArg Prod.snd failed).symm
  · simp at failed

end Inserts

section Definitions

variable {viewer : Option UUID} {definitionId expectedRowVersion : Nat}

theorem getDefinition_ok_iff {definition : WorkflowDefinition} :
    world.getDefinition viewer definitionId = .ok definition ↔
      world.definitions.find? definitionId = some definition ∧ world.definitionVisible viewer definition = true := by
  unfold getDefinition
  cases world.definitions.find? definitionId with
  | none => simp
  | some row =>
      by_cases visible : world.definitionVisible viewer row = true
      · simp only [if_pos visible, Except.ok.injEq, Option.some.injEq]
        exact ⟨fun same => ⟨same, same ▸ visible⟩, fun found => found.1⟩
      · simp only [if_neg visible, Option.some.injEq, reduceCtorEq, false_iff, not_and]
        exact fun same seen => visible (same ▸ seen)

theorem updateDefinition_ok_iff {edit : Edit WorkflowDefinition} {violated : WorkflowDefinition → Option String}
    {written : WorkflowDefinition} :
    world.updateDefinition viewer definitionId expectedRowVersion edit violated = (.ok written, after) ↔
      ∃ row, world.definitions.find? definitionId = some row ∧ world.mayWriteDefinitions viewer row.companyId = true ∧
        row.rowVersion = expectedRowVersion ∧ violated written = none ∧
        written = (stamped edit expectedRowVersion).apply row ∧
        after = { world with definitions := world.definitions.modify definitionId (stamped edit expectedRowVersion) } := by
  unfold updateDefinition
  cases found : world.definitions.find? definitionId with
  | none =>
      constructor
      · intro success
        rcases outcome : updateWithOptimisticLock "workflow_definitions" world.definitions definitionId
          expectedRowVersion edit violated with ⟨reply, updated⟩
        rw [outcome] at success
        obtain ⟨rfl, rfl⟩ := Prod.mk.inj success
        obtain ⟨row, located, -⟩ := updateWithOptimisticLock_ok_iff.mp outcome
        rw [found] at located
        cases located
      · intro ⟨row, located, _⟩
        cases located
  | some row =>
      by_cases permitted : world.mayWriteDefinitions viewer row.companyId = true
      · rw [Option.all_some, if_pos permitted]
        constructor
        · intro success
          rcases outcome : updateWithOptimisticLock "workflow_definitions" world.definitions definitionId
            expectedRowVersion edit violated with ⟨reply, updated⟩
          rw [outcome] at success
          obtain ⟨rfl, rfl⟩ := Prod.mk.inj success
          obtain ⟨other, located, current, accepted, isWritten, rfl⟩ := updateWithOptimisticLock_ok_iff.mp outcome
          obtain rfl : row = other := Option.some.inj (found.symm.trans located)
          exact ⟨row, rfl, permitted, current, accepted, isWritten, rfl⟩
        · intro ⟨other, located, _, current, accepted, isWritten, same⟩
          obtain rfl := Option.some.inj located
          rw [same, updateWithOptimisticLock_ok_iff.mpr ⟨row, found, current, accepted, isWritten, rfl⟩]
      · rw [Option.all_some, if_neg permitted]
        constructor
        · intro success
          cases congrArg Prod.fst success
        · intro ⟨other, located, allowed, _⟩
          obtain rfl := Option.some.inj located
          exact absurd allowed permitted

theorem updateDefinition_frame (world : World) (viewer : Option UUID) (definitionId expectedRowVersion : Nat)
    (edit : Edit WorkflowDefinition) (violated : WorkflowDefinition → Option String) :
    ∃ definitions, (world.updateDefinition viewer definitionId expectedRowVersion edit violated).2 =
      { world with definitions } := by
  unfold updateDefinition
  split
  · exact ⟨_, rfl⟩
  · exact ⟨world.definitions, rfl⟩

theorem createDefinition_frame (world : World) (viewer : Option UUID) (draft : Draft WorkflowDefinition) :
    ∃ definitions, (world.createDefinition viewer draft).2 = { world with definitions } := by
  unfold createDefinition
  split
  · exact ⟨_, rfl⟩
  · exact ⟨world.definitions, rfl⟩

theorem updateDefinition_error {edit : Edit WorkflowDefinition} {violated : WorkflowDefinition → Option String}
    (failed : world.updateDefinition viewer definitionId expectedRowVersion edit violated = (.error error, after)) :
    after = world := by
  unfold updateDefinition at failed
  split at failed
  · rcases outcome : updateWithOptimisticLock _ _ definitionId expectedRowVersion edit violated with ⟨reply, updated⟩
    rw [outcome] at failed
    obtain ⟨rfl, rfl⟩ := Prod.mk.inj failed
    rw [updateWithOptimisticLock_error outcome]
  · exact (congrArg Prod.snd failed).symm

/-- A version is written by an administrator of its company, under a number that no other version of the type has. -/
theorem createDefinition_ok_iff {draft : Draft WorkflowDefinition} {created : WorkflowDefinition} :
    world.createDefinition viewer draft = (.ok created, after) ↔
      created = draft.build world.definitions.next ∧
        after = { world with definitions := world.definitions.insert draft } ∧
        world.mayWriteDefinitions viewer created.companyId = true ∧ 1 ≤ created.version ∧
        (∀ other ∈ world.definitions.rows, other.companyId = created.companyId →
          other.requestType = created.requestType → other.version ≠ created.version) ∧
        created.createdBy.all world.hasProfile = true := by
  unfold createDefinition
  have accepted := (firstViolated_eq_none_iff [
    ("check", decide (1 ≤ created.version)),
    ("unique", world.definitions.rows.all fun other => other.companyId != created.companyId
      || other.requestType != created.requestType || other.version != created.version),
    ("foreign_key", created.createdBy.all world.hasProfile)]).symm
  have distinct : (world.definitions.rows.all fun other => other.companyId != created.companyId
      || other.requestType != created.requestType || other.version != created.version) = true ↔
      ∀ other ∈ world.definitions.rows, other.companyId = created.companyId →
        other.requestType = created.requestType → other.version ≠ created.version := by
    simp only [List.all_eq_true, Bool.or_eq_true, bne_iff_ne]
    exact forall₂_congr fun other _ => by tauto
  simp only [List.mem_cons, List.not_mem_nil, or_false, forall_eq_or_imp, forall_eq, decide_eq_true_eq, distinct] at accepted
  by_cases writes : world.mayWriteDefinitions viewer (draft.build world.definitions.next).companyId = true
  · rw [if_pos writes]
    rcases outcome : insertRow "workflow_definitions" world.definitions draft _ with ⟨reply, extended⟩
    constructor
    · intro success
      obtain ⟨rfl, rfl⟩ := Prod.mk.inj success
      obtain ⟨valid, built, rfl⟩ := insertRow_ok_iff.mp outcome
      exact ⟨built, rfl, built ▸ writes, accepted.mpr valid⟩
    · rintro ⟨built, rfl, -, valid⟩
      have inserted := outcome.symm.trans (insertRow_ok_iff.mpr ⟨by exact built ▸ accepted.mp valid, rfl, rfl⟩)
      obtain ⟨rfl, rfl⟩ := Prod.mk.inj inserted
      rw [built]
  · rw [if_neg writes]
    constructor
    · intro success
      cases congrArg Prod.fst success
    · rintro ⟨built, -, allowed, -⟩
      exact absurd (built ▸ allowed) writes

theorem createDefinition_ok {draft : Draft WorkflowDefinition} {created : WorkflowDefinition}
    (success : world.createDefinition viewer draft = (.ok created, after)) :
    created = draft.build world.definitions.next ∧
      after = { world with definitions := world.definitions.insert draft } := by
  obtain ⟨built, inserted, -⟩ := createDefinition_ok_iff.mp success
  exact ⟨built, inserted⟩

theorem createDefinition_error {draft : Draft WorkflowDefinition}
    (failed : world.createDefinition viewer draft = (.error error, after)) : after = world := by
  unfold createDefinition at failed
  split at failed
  · rcases outcome : insertRow "workflow_definitions" world.definitions draft _ with ⟨reply, extended⟩
    rw [outcome] at failed
    obtain ⟨rfl, rfl⟩ := Prod.mk.inj failed
    rw [insertRow_error outcome]
  · exact (congrArg Prod.snd failed).symm

theorem deleteInactiveDefinition_ok {companyId : UUID}
    (success : world.deleteInactiveDefinition viewer definitionId companyId = (.ok (), after)) :
    viewer = none ∧ (∃ row, world.definitions.find? definitionId = some row ∧ row.isActive = false) ∧
      (∀ request ∈ world.requests.rows, request.workflowDefinitionId ≠ definitionId) ∧
      after = { world with definitions := world.definitions.erase definitionId } := by
  unfold deleteInactiveDefinition at success
  split at success
  · cases congrArg Prod.fst success
  · rename_i unbound
    split at success
    · cases congrArg Prod.fst success
    · rename_i row found
      split at success
      · cases congrArg Prod.fst success
      · rename_i idle
        split at success
        · cases congrArg Prod.fst success
        · rename_i unnamed
          refine ⟨by simpa using unbound, ⟨row, found, by simpa using (not_or.mp idle).2⟩, ?_,
            (congrArg Prod.snd success).symm⟩
          intro request member named
          exact unnamed (List.any_eq_true.mpr ⟨request, member, by simpa using named⟩)

theorem deleteInactiveDefinition_error {companyId : UUID}
    (failed : world.deleteInactiveDefinition viewer definitionId companyId = (.error error, after)) : after = world := by
  unfold deleteInactiveDefinition at failed
  split at failed
  · exact (congrArg Prod.snd failed).symm
  · split at failed
    · exact (congrArg Prod.snd failed).symm
    · split at failed
      · exact (congrArg Prod.snd failed).symm
      · split at failed
        · exact (congrArg Prod.snd failed).symm
        · cases congrArg Prod.fst failed

theorem deactivatePreviousDefinition_cases {reply : Except DatabaseError (Option WorkflowDefinition)}
    (executed : world.deactivatePreviousDefinition viewer definitionId expectedRowVersion = (reply, after)) :
    (reply = .ok none ∧ after = world) ∨ ∃ row, world.definitions.find? definitionId = some row ∧
      row.rowVersion = expectedRowVersion ∧
      reply = .ok (some ((stamped (activityEdit false) expectedRowVersion).apply row)) ∧
      after = { world with
        definitions := world.definitions.modify definitionId (stamped (activityEdit false) expectedRowVersion) } := by
  unfold deactivatePreviousDefinition at executed
  rcases outcome : world.updateDefinition viewer definitionId expectedRowVersion (activityEdit false) fun _ => none with
    ⟨_ | written, changed⟩
  · rw [outcome] at executed
    obtain ⟨rfl, rfl⟩ := Prod.mk.inj executed
    exact .inl ⟨rfl, rfl⟩
  · rw [outcome] at executed
    obtain ⟨rfl, rfl⟩ := Prod.mk.inj executed
    obtain ⟨row, found, -, current, -, rfl, rfl⟩ := updateDefinition_ok_iff.mp outcome
    exact .inr ⟨row, found, current, rfl, rfl⟩

theorem deleteInactiveDefinition_frame (world : World) (viewer : Option UUID) (definitionId companyId : UUID) :
    ∃ definitions, (world.deleteInactiveDefinition viewer definitionId companyId).2 = { world with definitions } := by
  rcases outcome : world.deleteInactiveDefinition viewer definitionId companyId with ⟨_ | _, after⟩
  · exact ⟨world.definitions, deleteInactiveDefinition_error outcome⟩
  · exact ⟨_, (deleteInactiveDefinition_ok outcome).2.2.2⟩

theorem deactivatePreviousDefinition_frame (world : World) (viewer : Option UUID) (definitionId rowVersion : Nat) :
    ∃ definitions, (world.deactivatePreviousDefinition viewer definitionId rowVersion).2 =
      { world with definitions } := by
  rcases deactivatePreviousDefinition_cases
    (Prod.eta (world.deactivatePreviousDefinition viewer definitionId rowVersion)).symm with ⟨-, same⟩ | ⟨_, -, -, -, same⟩
  · exact ⟨world.definitions, same⟩
  · exact ⟨_, same⟩

end Definitions

section Preferences

variable {viewer : Option UUID} {userId : UUID} {notificationType : NotificationType}
  {inAppEnabled emailEnabled : Bool}

theorem upsertPreference_error
    (failed : world.upsertPreference viewer userId notificationType inAppEnabled emailEnabled = (.error error, after)) :
    after = world := by
  unfold upsertPreference at failed
  split at failed
  · split at failed
    · cases congrArg Prod.fst failed
    · rcases outcome : insertRow "notification_preferences" world.preferences _ _ with ⟨reply, extended⟩
      rw [outcome] at failed
      obtain ⟨rfl, rfl⟩ := Prod.mk.inj failed
      rw [insertRow_error outcome]
  · exact (congrArg Prod.snd failed).symm

theorem upsertPreference_frame (world : World) (viewer : Option UUID) (userId : UUID)
    (notificationType : NotificationType) (inAppEnabled emailEnabled : Bool) :
    ∃ preferences, (world.upsertPreference viewer userId notificationType inAppEnabled emailEnabled).2 =
      { world with preferences } := by
  unfold upsertPreference
  split
  · split
    · exact ⟨_, rfl⟩
    · exact ⟨_, rfl⟩
  · exact ⟨world.preferences, rfl⟩

end Preferences

theorem execute_error {statement : Query} (failed : world.execute statement = (.error error, after)) :
    after = world := by
  cases statement with
  | createRequest => exact createRequest_error failed
  | setCurrentStage => exact updateRequest_error failed
  | updateEditableFields requestId expectedVersion title description department =>
      simp only [execute] at failed
      split at failed
      · exact (congrArg Prod.snd failed).symm
      · exact updateRequest_error failed
  | softDelete => exact updateRequest_error failed
  | createStage => exact createStage_error failed
  | deleteIfUnchanged => exact deleteIfUnchanged_unchanged failed (by simp)
  | approveStage => exact updateStage_error failed
  | rejectStage stageId expectedVersion decidedBy decisionNote =>
      simp only [execute] at failed
      split at failed
      · exact (congrArg Prod.snd failed).symm
      · exact updateStage_error failed
  | revertToPending =>
      simp only [execute] at failed
      exact updateStage_error failed
  | escalateStage => exact updateStage_error failed
  | listPendingForApprover companyId assignedTo assignedRole page =>
      simp only [execute] at failed
      split at failed <;> exact (congrArg Prod.snd failed).symm
  | recordEvent => exact recordEvent_error failed
  | createNotification => exact createNotification_error failed
  | markEmailSent => exact markEmailSent_error failed
  | enqueueJob => cases congrArg Prod.fst failed
  | createDefinition => exact createDefinition_error failed
  | updateInactiveDefinition =>
      simp only [execute] at failed
      exact updateDefinition_error failed
  | activateDefinition => exact updateDefinition_error failed
  | deleteInactiveDefinition => exact deleteInactiveDefinition_error failed
  | deactivatePreviousDefinition =>
      rcases deactivatePreviousDefinition_cases failed with ⟨-, same⟩ | ⟨row, -, -, replied, -⟩
      · exact same
      · cases replied
  | upsertPreference => exact upsertPreference_error failed
  | _ => exact (congrArg Prod.snd failed).symm

/-- The updates of one stage row, with the row and version they name. -/
inductive StageUpdate (world : World) : Query → UUID → Nat → Edit WorkflowStageRecord → Prop
  | approve (stageId : UUID) (version : Nat) (decidedBy : UUID) (note : Option String) :
      StageUpdate world (.approveStage stageId version decidedBy note) stageId version
        (world.decisionEdit .approved decidedBy note)
  | reject (stageId : UUID) (version : Nat) (decidedBy : UUID) (note : String) :
      StageUpdate world (.rejectStage stageId version decidedBy note) stageId version
        (world.decisionEdit .rejected decidedBy (some note))
  | revert (stageId : UUID) (version : Nat) :
      StageUpdate world (.revertToPending stageId version) stageId version revertEdit
  | escalate (stageId : UUID) (version : Nat) (assignedTo : Option UUID) (assignedRole : Option UserRole) :
      StageUpdate world (.escalateStage stageId version assignedTo assignedRole) stageId version
        (assignmentEdit assignedTo assignedRole)

inductive RequestUpdate (world : World) : Query → UUID → Nat → Edit RequestRecord → Prop
  | setCurrentStage (requestId : UUID) (version : Nat) (currentStageId : Option UUID) (status : RequestStatus)
      (completedAt : Option Datetime) (valid : currentStageId.all world.hasStage = true) :
      RequestUpdate world (.setCurrentStage requestId version currentStageId status completedAt) requestId version
        (world.currentStageEdit currentStageId status completedAt)
  | updateEditableFields (requestId : UUID) (version : Nat) (title description department : Option String) :
      RequestUpdate world (.updateEditableFields requestId version title description department) requestId version
        (world.editableFieldsEdit title description department)
  | softDelete (requestId : UUID) (version : Nat) (deletedBy : UUID) :
      RequestUpdate world (.softDelete requestId version deletedBy) requestId version (world.softDeleteEdit deletedBy)

/-- What one statement does to the requests and the stages. -/
inductive Change (world : World) : Query → World → Prop
  | stage {statement : Query} {id version : Nat} {edit : Edit WorkflowStageRecord} {row : WorkflowStageRecord}
      (update : StageUpdate world statement id version edit) (found : world.stages.find? id = some row)
      (current : row.version = version) :
      Change world statement { world with stages := world.stages.modify id (stamped edit version) }
  | request {statement : Query} {id version : Nat} {edit : Edit RequestRecord} {row : RequestRecord}
      (update : RequestUpdate world statement id version edit) (found : world.requests.find? id = some row)
      (current : row.version = version) :
      Change world statement { world with requests := world.requests.modify id (stamped edit version) }
  | newStage {requestId : UUID} {order : Nat} {name : String} {companyId : UUID} {role : Option UserRole}
      {assignedTo : Option UUID} (positive : 0 < order)
      (distinct : ∀ other ∈ world.stages.rows, other.requestId = requestId → other.stageOrder ≠ order)
      (parent : world.hasRequest requestId = true) :
      Change world (.createStage requestId order name companyId role assignedTo)
        { world with
          stages := world.stages.insert (world.newStage requestId order name companyId role assignedTo) }
  | newRequest {requesterId definitionId : UUID} {requestType title : String} {companyId : UUID}
      {description department : Option String} :
      Change world (.createRequest requesterId definitionId requestType title companyId description department)
        { world with
          requests := world.requests.insert
            (world.newRequest requesterId definitionId requestType title companyId description department) }
  | removedStage {id version : Nat} {row : WorkflowStageRecord} (found : world.stages.find? id = some row)
      (current : row.version = version)
      (unreferenced : ∀ request ∈ world.requests.rows, request.currentStageId ≠ some id) :
      Change world (.deleteIfUnchanged id version) { world with stages := world.stages.erase id }
  | elsewhere {statement : Query} {after : World} (requests : after.requests = world.requests)
      (stages : after.stages = world.stages) (profiles : after.profiles = world.profiles) :
      Change world statement after

private theorem updateStage_change {statement : Query} {id version : Nat} {edit : Edit WorkflowStageRecord}
    {violated : WorkflowStageRecord → Option String} {reply : Except DatabaseError WorkflowStageRecord}
    (update : StageUpdate world statement id version edit)
    (executed : world.updateStage id version edit violated = (reply, after)) : Change world statement after := by
  cases reply with
  | error error =>
      rw [updateStage_error executed]
      exact .elsewhere rfl rfl rfl
  | ok written =>
      obtain ⟨row, found, current, -, -, rfl⟩ := updateStage_ok_iff.mp executed
      exact .stage update found current

private theorem updateRequest_change {statement : Query} {id version : Nat} {edit : Edit RequestRecord}
    {violated : RequestRecord → Option String} {reply : Except DatabaseError RequestRecord}
    (update : ∀ row, violated ((stamped edit version).apply row) = none → RequestUpdate world statement id version edit)
    (executed : world.updateRequest id version edit violated = (reply, after)) : Change world statement after := by
  cases reply with
  | error error =>
      rw [updateRequest_error executed]
      exact .elsewhere rfl rfl rfl
  | ok written =>
      obtain ⟨row, found, current, accepted, rfl, rfl⟩ := updateRequest_ok_iff.mp executed
      exact .request (update row accepted) found current

private theorem updateDefinition_change {statement : Query} {viewer : Option UUID} {id version : Nat}
    {edit : Edit WorkflowDefinition} {violated : WorkflowDefinition → Option String}
    {reply : Except DatabaseError WorkflowDefinition}
    (executed : world.updateDefinition viewer id version edit violated = (reply, after)) :
    Change world statement after := by
  cases reply with
  | error error =>
      rw [updateDefinition_error executed]
      exact .elsewhere rfl rfl rfl
  | ok written =>
      obtain ⟨row, -, -, -, -, -, rfl⟩ := updateDefinition_ok_iff.mp executed
      exact .elsewhere rfl rfl rfl

theorem execute_change {statement : Query} {reply : Except DatabaseError statement.Result}
    (executed : world.execute statement = (reply, after)) : Change world statement after := by
  cases statement with
  | createRequest =>
      cases reply with
      | error error =>
          rw [createRequest_error executed]
          exact .elsewhere rfl rfl rfl
      | ok created =>
          obtain ⟨-, rfl, -⟩ := createRequest_ok executed
          exact .newRequest
  | setCurrentStage requestId version currentStageId status completedAt =>
      refine updateRequest_change (fun row accepted => ?_) executed
      refine .setCurrentStage requestId version currentStageId status completedAt ?_
      exact (firstViolated_eq_none_iff _).mp accepted ("foreign_key", currentStageId.all world.hasStage)
        (List.mem_singleton.mpr rfl)
  | updateEditableFields requestId version title description department =>
      simp only [execute] at executed
      split at executed
      · obtain ⟨-, rfl⟩ := Prod.mk.inj executed
        exact .elsewhere rfl rfl rfl
      · exact updateRequest_change (fun _ _ => .updateEditableFields ..) executed
  | softDelete => exact updateRequest_change (fun _ _ => .softDelete ..) executed
  | createStage requestId order name companyId role assignedTo =>
      cases reply with
      | error error =>
          rw [createStage_error executed]
          exact .elsewhere rfl rfl rfl
      | ok created =>
          obtain ⟨rfl, rfl, positive, distinct, parent, -⟩ := createStage_ok_iff.mp executed
          exact .newStage positive distinct parent
  | deleteIfUnchanged stageId version =>
      by_cases deleted : reply = .ok true
      · subst deleted
        obtain ⟨⟨row, found, current⟩, unreferenced, rfl⟩ := deleteIfUnchanged_true_iff.mp executed
        exact .removedStage found current unreferenced
      · rw [deleteIfUnchanged_unchanged executed deleted]
        exact .elsewhere rfl rfl rfl
  | approveStage => exact updateStage_change (.approve ..) executed
  | rejectStage stageId version decidedBy decisionNote =>
      simp only [execute] at executed
      split at executed
      · obtain ⟨-, rfl⟩ := Prod.mk.inj executed
        exact .elsewhere rfl rfl rfl
      · exact updateStage_change (.reject ..) executed
  | revertToPending =>
      simp only [execute] at executed
      exact updateStage_change (.revert ..) executed
  | escalateStage => exact updateStage_change (.escalate ..) executed
  | listPendingForApprover companyId assignedTo assignedRole page =>
      simp only [execute] at executed
      split at executed <;> obtain ⟨-, rfl⟩ := Prod.mk.inj executed <;> exact .elsewhere rfl rfl rfl
  | recordEvent =>
      cases reply with
      | error error =>
          rw [recordEvent_error executed]
          exact .elsewhere rfl rfl rfl
      | ok created =>
          obtain ⟨-, rfl, -⟩ := recordEvent_ok_iff.mp executed
          exact .elsewhere rfl rfl rfl
  | createDefinition =>
      cases reply with
      | error error =>
          rw [createDefinition_error executed]
          exact .elsewhere rfl rfl rfl
      | ok created =>
          obtain ⟨-, rfl⟩ := createDefinition_ok executed
          exact .elsewhere rfl rfl rfl
  | updateInactiveDefinition =>
      simp only [execute] at executed
      exact updateDefinition_change executed
  | activateDefinition => exact updateDefinition_change executed
  | deleteInactiveDefinition =>
      cases reply with
      | error error =>
          rw [deleteInactiveDefinition_error executed]
          exact .elsewhere rfl rfl rfl
      | ok _ =>
          obtain ⟨-, -, -, rfl⟩ := deleteInactiveDefinition_ok executed
          exact .elsewhere rfl rfl rfl
  | deactivatePreviousDefinition =>
      rcases deactivatePreviousDefinition_cases executed with ⟨-, rfl⟩ | ⟨row, -, -, -, rfl⟩ <;>
        exact .elsewhere rfl rfl rfl
  | createNotification | markEmailSent notificationId | enqueueJob =>
      have changed := congrArg Prod.snd executed
      simp only [execute, createNotification, markEmailSent] at changed
      try split at changed
      all_goals
        subst changed
        exact .elsewhere rfl rfl rfl
  | upsertPreference viewer userId notificationType inAppEnabled emailEnabled =>
      obtain ⟨preferences, framed⟩ :=
        upsertPreference_frame world viewer userId notificationType inAppEnabled emailEnabled
      obtain rfl : { world with preferences } = after := framed.symm.trans (congrArg Prod.snd executed)
      exact .elsewhere rfl rfl rfl
  | _ =>
      obtain ⟨-, rfl⟩ := Prod.mk.inj executed
      exact .elsewhere rfl rfl rfl

/-- The updates of one definition row, with the row and version they name. -/
inductive DefinitionUpdate : Query → UUID → Nat → Edit WorkflowDefinition → Prop
  | document (viewer : Option UUID) (definitionId : UUID) (version : Nat) (definition : WorkflowDefinitionDocument) :
      DefinitionUpdate (.updateInactiveDefinition viewer definitionId version definition) definitionId version
        (documentEdit definition)
  | deactivate (viewer : Option UUID) (definitionId : UUID) (version : Nat) :
      DefinitionUpdate (.deactivatePreviousDefinition viewer definitionId version) definitionId version
        (activityEdit false)
  | activate (viewer : Option UUID) (definitionId : UUID) (version : Nat) :
      DefinitionUpdate (.activateDefinition viewer definitionId version) definitionId version (activityEdit true)

/-- What one statement does to the definitions. -/
inductive DefinitionChange (world : World) : Query → World → Prop
  | update {statement : Query} {id version : Nat} {edit : Edit WorkflowDefinition} {row : WorkflowDefinition}
      (update : DefinitionUpdate statement id version edit) (found : world.definitions.find? id = some row)
      (current : row.rowVersion = version) :
      DefinitionChange world statement { world with definitions := world.definitions.modify id (stamped edit version) }
  | new {viewer : Option UUID} {requestType : String} {version : Nat} {definition : WorkflowDefinitionDocument}
      {createdBy companyId : UUID} :
      DefinitionChange world (.createDefinition viewer requestType version definition createdBy companyId)
        { world with
          definitions := world.definitions.insert
            (world.newDefinition requestType version definition createdBy companyId) }
  | removed {definitionId companyId : UUID} {row : WorkflowDefinition}
      (found : world.definitions.find? definitionId = some row) (idle : row.isActive = false)
      (unnamed : ∀ request ∈ world.requests.rows, request.workflowDefinitionId ≠ definitionId) :
      DefinitionChange world (.deleteInactiveDefinition none definitionId companyId)
        { world with definitions := world.definitions.erase definitionId }
  | elsewhere {statement : Query} {after : World} (definitions : after.definitions = world.definitions) :
      DefinitionChange world statement after

private theorem updateDefinition_definitionChange {statement : Query} {viewer : Option UUID} {id version : Nat}
    {edit : Edit WorkflowDefinition} {violated : WorkflowDefinition → Option String}
    {reply : Except DatabaseError WorkflowDefinition} (update : DefinitionUpdate statement id version edit)
    (executed : world.updateDefinition viewer id version edit violated = (reply, after)) :
    DefinitionChange world statement after := by
  cases reply with
  | error error =>
      rw [updateDefinition_error executed]
      exact .elsewhere rfl
  | ok written =>
      obtain ⟨row, found, -, current, -, -, rfl⟩ := updateDefinition_ok_iff.mp executed
      exact .update update found current

theorem execute_definitionChange {statement : Query} {reply : Except DatabaseError statement.Result}
    (executed : world.execute statement = (reply, after)) : DefinitionChange world statement after := by
  cases statement with
  | createDefinition =>
      cases reply with
      | error error =>
          rw [createDefinition_error executed]
          exact .elsewhere rfl
      | ok created =>
          obtain ⟨-, rfl⟩ := createDefinition_ok executed
          exact .new
  | updateInactiveDefinition =>
      simp only [execute] at executed
      exact updateDefinition_definitionChange (.document ..) executed
  | activateDefinition => exact updateDefinition_definitionChange (.activate ..) executed
  | deactivatePreviousDefinition =>
      rcases deactivatePreviousDefinition_cases executed with ⟨-, rfl⟩ | ⟨row, found, current, -, rfl⟩
      · exact .elsewhere rfl
      · exact .update (.deactivate ..) found current
  | deleteInactiveDefinition =>
      cases reply with
      | error error =>
          rw [deleteInactiveDefinition_error executed]
          exact .elsewhere rfl
      | ok _ =>
          obtain ⟨rfl, ⟨row, found, idle⟩, unnamed, rfl⟩ := deleteInactiveDefinition_ok executed
          exact .removed found idle unnamed
  | updateEditableFields =>
      simp only [execute] at executed
      split at executed <;> obtain ⟨-, rfl⟩ := Prod.mk.inj executed <;> exact .elsewhere rfl
  | deleteIfUnchanged =>
      simp only [execute, deleteIfUnchanged] at executed
      split at executed
      · obtain ⟨-, rfl⟩ := Prod.mk.inj executed
        exact .elsewhere rfl
      · split at executed <;> obtain ⟨-, rfl⟩ := Prod.mk.inj executed <;> exact .elsewhere rfl
  | rejectStage | listPendingForApprover | markEmailSent =>
      simp only [execute, markEmailSent] at executed
      split at executed <;> obtain ⟨-, rfl⟩ := Prod.mk.inj executed <;> exact .elsewhere rfl
  | upsertPreference viewer userId notificationType inAppEnabled emailEnabled =>
      obtain ⟨preferences, framed⟩ :=
        upsertPreference_frame world viewer userId notificationType inAppEnabled emailEnabled
      obtain rfl : { world with preferences } = after := framed.symm.trans (congrArg Prod.snd executed)
      exact .elsewhere rfl
  | _ =>
      obtain ⟨-, rfl⟩ := Prod.mk.inj executed
      exact .elsewhere rfl

namespace DefinitionChange

variable {statement : Query}

theorem evolves (change : DefinitionChange world statement after) : Evolves world.definitions after.definitions := by
  cases change with
  | update update found current =>
      exact evolves_update ((updateIfVersion_eq_some_iff ..).mpr ⟨_, found, current, rfl, rfl⟩)
  | new => exact evolves_insert _ _
  | removed => exact evolves_erase _ _
  | elsewhere same => exact same ▸ Evolves.refl _

end DefinitionChange

namespace Change

variable {statement : Query}

theorem profiles (change : Change world statement after) : after.profiles = world.profiles := by
  cases change with
  | elsewhere _ _ same => exact same
  | _ => rfl

theorem evolves_stages (change : Change world statement after) : Evolves world.stages after.stages := by
  cases change with
  | stage update found current =>
      exact evolves_update ((updateIfVersion_eq_some_iff ..).mpr ⟨_, found, current, rfl, rfl⟩)
  | newStage => exact evolves_insert _ _
  | removedStage => exact evolves_erase _ _
  | elsewhere _ same _ => exact same ▸ Evolves.refl _
  | _ => exact Evolves.refl _

theorem evolves_requests (change : Change world statement after) : Evolves world.requests after.requests := by
  cases change with
  | request update found current =>
      exact evolves_update ((updateIfVersion_eq_some_iff ..).mpr ⟨_, found, current, rfl, rfl⟩)
  | newRequest => exact evolves_insert _ _
  | elsewhere same _ _ => exact same ▸ Evolves.refl _
  | _ => exact Evolves.refl _

end Change

end World

/-- The statements that write a definition. -/
def Query.writesDefinitions : Query → Bool
  | .createDefinition .. | .updateInactiveDefinition .. | .deleteInactiveDefinition ..
  | .deactivatePreviousDefinition .. | .activateDefinition .. => true
  | _ => false

/-- The statements that may write a definition, a request or a stage. -/
def Query.writesWorkflow : Query → Bool
  | .createDefinition .. | .updateInactiveDefinition .. | .deleteInactiveDefinition ..
  | .deactivatePreviousDefinition .. | .activateDefinition .. => true
  | .createRequest .. | .setCurrentStage .. | .updateEditableFields .. | .softDelete .. | .createStage ..
  | .deleteIfUnchanged .. | .approveStage .. | .rejectStage .. | .revertToPending .. | .escalateStage .. => true
  | _ => false

def Call.writesWorkflow : Call → Bool
  | .query statement => statement.writesWorkflow
  | _ => false

theorem World.DefinitionChange.unaffected {world after : World} {statement : Query}
    (change : world.DefinitionChange statement after) (other : statement.writesDefinitions = false) :
    after.definitions = world.definitions := by
  cases change with
  | update update => cases update <;> cases other
  | new => cases other
  | removed => cases other
  | elsewhere same => exact same

theorem World.Change.unaffected {world after : World} {statement : Query} (change : world.Change statement after)
    (reading : statement.writesWorkflow = false) : after.requests = world.requests ∧ after.stages = world.stages := by
  cases change with
  | stage update => cases update <;> cases reading
  | request update => cases update <;> cases reading
  | newStage => cases reading
  | newRequest => cases reading
  | removedStage => cases reading
  | elsewhere requests stages => exact ⟨requests, stages⟩

theorem environment_change {world after : World} {request : Call} {reply : request.Reply}
    (answered : environment request world = (reply, after)) :
    (∃ statement changed, request = .query statement ∧ world.Change statement changed ∧ after = changed.tick) ∨
      (after.requests = world.requests ∧ after.stages = world.stages ∧ after.profiles = world.profiles) := by
  cases request with
  | query statement =>
      obtain ⟨-, rfl⟩ := Prod.mk.inj answered
      exact .inl ⟨statement, _, rfl, World.execute_change rfl, rfl⟩
  | _ =>
      obtain ⟨-, rfl⟩ := Prod.mk.inj answered
      exact .inr ⟨rfl, rfl, rfl⟩

end AutomationHub.Database
