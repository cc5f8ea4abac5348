import AutomationHub.Analytics.OperationalEngine
import AutomationHub.Database.RepositoryProperties
import Mathlib.Data.List.Dedup
import Mathlib.Data.List.Perm.Basic

/-!
What the fetches of the analytics engines return, and what is computed from them.
-/

set_option autoImplicit false

namespace AutomationHub.Analytics

open Foundation Model Database Workflow Table

section Fetching

variable {α : Type}

theorem fetchAllFrom_eq_drop (rows : List α) {remaining index : Nat} (enough : rows.length ≤ (index + remaining) * 100) :
    fetchAllFrom rows remaining index = rows.drop (index * 100) := by
  induction remaining generalizing index with
  | zero => exact (List.drop_eq_nil_of_le enough).symm
  | succ remaining recurse =>
      unfold fetchAllFrom
      simp only [paginate, PagedResult.totalPages, slice, Nat.add_sub_cancel]
      by_cases empty : ((rows.drop (index * 100)).take 100).isEmpty = true
      · rw [if_pos empty]
        rcases List.take_eq_nil_iff.mp (List.isEmpty_iff.mp empty) with absurd | same
        · cases absurd
        · exact same.symm
      · rw [if_neg empty]
        by_cases last : pageCount 100 rows.length ≤ index + 1
        · rw [if_pos last]
          have total : rows.length ≤ pageCount 100 rows.length * 100 := total_le_pageCount_mul (by decide) rows.length
          apply List.take_of_length_le
          rw [List.length_drop]
          omega
        · rw [if_neg last, recurse (by omega), Nat.succ_mul, ← List.drop_drop]
          exact List.take_append_drop ..

@[simp] theorem fetchAll_eq (rows : List α) : fetchAll rows = rows := by
  rw [fetchAll, fetchAllFrom_eq_drop rows (by omega)]
  simp

theorem lookup_keyed_eq_some_iff (key : α → UUID) {records : List α} {id : UUID} {record : α}
    (unique : ∀ first ∈ records, ∀ second ∈ records, key first = key second → first = second) :
    (records.map fun record => (key record, record)).lookup id = some record ↔ record ∈ records ∧ key record = id := by
  induction records with
  | nil => simp
  | cons head rest recurse =>
      have later := recurse fun first left second right => unique first (.tail _ left) second (.tail _ right)
      rw [List.map_cons, List.lookup_cons]
      by_cases same : id = key head
      · subst same
        simp only [beq_self_eq_true, Option.some.injEq, List.mem_cons]
        constructor
        · intro found
          exact ⟨.inl found.symm, congrArg key found.symm⟩
        · intro located
          exact (unique record (List.mem_cons.mpr located.1) head (.head _) located.2).symm
      · rw [beq_false_of_ne same]
        refine later.trans ⟨fun located => ⟨.tail _ located.1, located.2⟩, fun located => ?_⟩
        rcases List.mem_cons.mp located.1 with first | member
        · exact absurd (located.2 ▸ congrArg key first) same
        · exact ⟨member, located.2⟩

end Fetching

section Contexts

variable {world : World} {viewer : Option UUID} {companyId : UUID} {stages : List WorkflowStageRecord}

theorem batched : 0 < idFilterBatchSize := by decide

theorem lookup_bulkRequestsById {requestIds : List UUID} {id : UUID} {request : RequestRecord} :
    (bulkRequestsById world companyId requestIds).lookup id = some request ↔
      world.requests.find? id = some request ∧ request.companyId = companyId ∧ id ∈ requestIds := by
  have listed : ∀ record, record ∈ (chunked idFilterBatchSize requestIds).flatMap (fetchRequestBatch world companyId) ↔
      record ∈ world.requests.rows ∧ record.companyId = companyId ∧ record.id ∈ requestIds := by
    intro record
    rw [List.mem_flatMap, ← mem_chunked batched requestIds]
    simp only [fetchRequestBatch, fetchAll_eq, World.requestsListed, World.mem_newestFirst, List.mem_filter,
      RequestFilter.admits, anyRequest, Option.all_none, Option.all_some, Bool.true_and, Bool.true_or, Bool.and_true,
      Bool.and_eq_true, beq_iff_eq, List.contains_iff_mem]
    constructor
    · intro found
      obtain ⟨batch, member, stored, company, named⟩ := found
      exact ⟨stored, company, batch, member, named⟩
    · intro found
      obtain ⟨stored, company, batch, member, named⟩ := found
      exact ⟨batch, member, stored, company, named⟩
  have unique := fun (first : RequestRecord) left (second : RequestRecord) right same =>
    eq_of_key_eq world.requests ((listed first).mp left).1 ((listed second).mp right).1 same
  refine (lookup_keyed_eq_some_iff RequestRecord.id unique).trans ?_
  rw [listed, find?_eq_some_iff]
  constructor
  · intro found
    obtain ⟨⟨stored, company, named⟩, same⟩ := found
    exact ⟨⟨stored, same⟩, company, same ▸ named⟩
  · intro found
    obtain ⟨⟨stored, rfl⟩, company, named⟩ := found
    exact ⟨⟨stored, company, named⟩, rfl⟩

theorem lookup_resolveDefinitions {definitionIds : List UUID} {id : UUID} {definition : WorkflowDefinition} :
    (resolveDefinitions world viewer companyId definitionIds).lookup id = some definition ↔
      world.definitions.find? id = some definition ∧ world.definitionVisible viewer definition = true ∧
        definition.companyId = companyId ∧ id ∈ definitionIds := by
  have listed : ∀ record, record ∈ ((chunked idFilterBatchSize definitionIds).flatMap fun batch =>
        fetchAll (definitionsByIds world viewer companyId batch)) ↔
      record ∈ world.definitions.rows ∧ world.definitionVisible viewer record = true ∧ record.companyId = companyId ∧
        record.id ∈ definitionIds := by
    intro record
    rw [List.mem_flatMap, ← mem_chunked batched definitionIds]
    simp only [fetchAll_eq, definitionsByIds, List.mem_filter, Bool.and_eq_true, beq_iff_eq, List.contains_iff_mem]
    constructor
    · intro found
      obtain ⟨batch, member, stored, ⟨visible, company⟩, named⟩ := found
      exact ⟨stored, visible, company, batch, member, named⟩
    · intro found
      obtain ⟨stored, visible, company, batch, member, named⟩ := found
      exact ⟨batch, member, stored, ⟨visible, company⟩, named⟩
  have unique := fun (first : WorkflowDefinition) left (second : WorkflowDefinition) right same =>
    eq_of_key_eq world.definitions ((listed first).mp left).1 ((listed second).mp right).1 same
  refine (lookup_keyed_eq_some_iff WorkflowDefinition.id unique).trans ?_
  rw [listed, find?_eq_some_iff]
  constructor
  · intro found
    obtain ⟨⟨stored, visible, company, named⟩, same⟩ := found
    exact ⟨⟨stored, same⟩, visible, company, same ▸ named⟩
  · intro found
    obtain ⟨⟨stored, rfl⟩, visible, company, named⟩ := found
    exact ⟨⟨stored, visible, company, named⟩, rfl⟩

theorem request_of_contexts (viewer : Option UUID) {stage : WorkflowStageRecord} (listed : stage ∈ stages) {request : RequestRecord} :
    (resolveContexts world viewer companyId stages).requestsById.lookup stage.requestId = some request ↔
      world.requests.find? stage.requestId = some request ∧ request.companyId = companyId := by
  refine lookup_bulkRequestsById.trans ⟨fun found => ⟨found.1, found.2.1⟩, fun found => ⟨found.1, found.2, ?_⟩⟩
  exact List.mem_dedup.mpr (List.mem_map_of_mem listed)

theorem definition_of_contexts {stage : WorkflowStageRecord} {request : RequestRecord}
    (known : (resolveContexts world viewer companyId stages).requestsById.lookup stage.requestId = some request)
    {definition : WorkflowDefinition} :
    (resolveContexts world viewer companyId stages).definitionsById.lookup request.workflowDefinitionId =
        some definition ↔
      world.definitions.find? request.workflowDefinitionId = some definition ∧
        world.definitionVisible viewer definition = true ∧ definition.companyId = companyId := by
  refine lookup_resolveDefinitions.trans
    ⟨fun found => ⟨found.1, found.2.1, found.2.2.1⟩, fun found => ⟨found.1, found.2.1, found.2.2, ?_⟩⟩
  obtain ⟨before, rest, same, -⟩ := List.lookup_eq_some_iff.mp known
  have member : (stage.requestId, request) ∈ (resolveContexts world viewer companyId stages).requestsById := by
    rw [same]
    simp
  exact List.mem_dedup.mpr (List.mem_map.mpr ⟨_, member, rfl⟩)

/-- The threshold of a stage comes from the entry of its order in the definition of its request. -/
theorem effectiveSlaHours_of_contexts (viewer : Option UUID) {stage : WorkflowStageRecord} {request : RequestRecord}
    (listed : stage ∈ stages) (found : world.requests.find? stage.requestId = some request)
    (company : request.companyId = companyId) {hours : Hours} :
    effectiveSlaHours (resolveContexts world viewer companyId stages) none stage = some hours ↔
      ∃ definition entry, world.definitions.find? request.workflowDefinitionId = some definition ∧
        world.definitionVisible viewer definition = true ∧ definition.companyId = companyId ∧
        definition.definition.stages.find? (fun entry => entry.order == stage.stageOrder) = some entry ∧
        hours = entry.escalationHours := by
  have known := (request_of_contexts viewer listed).mpr ⟨found, company⟩
  simp only [effectiveSlaHours, known, Option.bind_some, findStageDefinition, List.head?_filter, Option.map_eq_some_iff,
    Option.bind_eq_some_iff, definition_of_contexts known]
  constructor
  · intro resolved
    obtain ⟨entry, ⟨definition, ⟨pinned, visible, owner⟩, located⟩, rfl⟩ := resolved
    exact ⟨definition, entry, pinned, visible, owner, located, rfl⟩
  · intro resolved
    obtain ⟨definition, entry, pinned, visible, owner, located, rfl⟩ := resolved
    exact ⟨entry, ⟨definition, ⟨pinned, visible, owner⟩, located⟩, rfl⟩

end Contexts

section Ages

variable {contexts : Contexts} {slaHoursOverride : Option Hours} {now : Datetime}

/-- The age of a stage whose request is known. -/
def ageOf (contexts : Contexts) (slaHoursOverride : Option Hours) (now : Datetime) (stage : WorkflowStageRecord) :
    Option PendingApprovalAge :=
  let slaHours := effectiveSlaHours contexts slaHoursOverride stage
  (contexts.requestsById.lookup stage.requestId).map fun request =>
    pendingApprovalAge stage request slaHours ((isBreached slaHours stage now).toOption.getD false) now

theorem buildPendingApprovalAges_ok (contexts : Contexts) (now : Datetime) (stages : List WorkflowStageRecord)
    (computable : ∀ stage ∈ stages, ∃ breached,
      isBreached (effectiveSlaHours contexts slaHoursOverride stage) stage now = .ok breached) :
    buildPendingApprovalAges contexts slaHoursOverride now stages =
      .ok (stages.filterMap (ageOf contexts slaHoursOverride now)) := by
  induction stages with
  | nil => rfl
  | cons stage rest recurse =>
      have later := recurse fun other member => computable other (.tail _ member)
      obtain ⟨breached, computed⟩ := computable stage (.head _)
      unfold buildPendingApprovalAges
      cases known : contexts.requestsById.lookup stage.requestId with
      | none => simp [ageOf, known, later]
      | some request =>
          simp only [computed, later, ageOf, known, Option.map_some, List.filterMap_cons]
          rfl

theorem countBreaches_ok (contexts : Contexts) (stages : List WorkflowStageRecord)
    (computable : ∀ stage ∈ stages, ∀ decidedAt, ∃ breached,
      isBreached (effectiveSlaHours contexts slaHoursOverride stage) stage decidedAt = .ok breached) :
    ∃ counted, countBreaches contexts slaHoursOverride stages = .ok counted := by
  induction stages with
  | nil => exact ⟨_, rfl⟩
  | cons stage rest recurse =>
      obtain ⟨counted, later⟩ := recurse fun other member => computable other (.tail _ member)
      have computed := computable stage (.head _)
      unfold countBreaches
      cases threshold : effectiveSlaHours contexts slaHoursOverride stage with
      | none => exact ⟨counted, later⟩
      | some hours =>
          cases stage.decidedAt with
          | none => exact ⟨counted, later⟩
          | some decidedAt =>
              obtain ⟨breached, passed⟩ := computed decidedAt
              rw [threshold] at passed
              simp only [passed, later]
              exact ⟨_, rfl⟩

/-- The ages are computed exactly if it can be told of each stage whose request is known whether it is overdue. -/
theorem buildPendingApprovalAges_ok_iff (contexts : Contexts) (now : Datetime) (stages : List WorkflowStageRecord) :
    (∃ ages, buildPendingApprovalAges contexts slaHoursOverride now stages = .ok ages) ↔
      ∀ stage ∈ stages, (contexts.requestsById.lookup stage.requestId).isSome = true →
        ∃ breached, isBreached (effectiveSlaHours contexts slaHoursOverride stage) stage now = .ok breached := by
  induction stages with
  | nil => exact iff_of_true ⟨[], rfl⟩ fun stage member => absurd member List.not_mem_nil
  | cons stage rest recurse =>
      rw [List.forall_mem_cons, ← recurse, buildPendingApprovalAges]
      cases known : contexts.requestsById.lookup stage.requestId with
      | none => simp
      | some request =>
          dsimp only
          cases isBreached (effectiveSlaHours contexts slaHoursOverride stage) stage now with
          | error error => simp [bind, Except.bind]
          | ok breached =>
              cases buildPendingApprovalAges contexts slaHoursOverride now rest with
              | error error => simp [bind, Except.bind]
              | ok ages => simp [bind, Except.bind, pure, Except.pure]

/-- The breaches are counted exactly if each decided stage with a threshold can be compared with it. -/
theorem countBreaches_ok_iff (contexts : Contexts) (stages : List WorkflowStageRecord) :
    (∃ counted, countBreaches contexts slaHoursOverride stages = .ok counted) ↔
      ∀ stage ∈ stages, ∀ decidedAt ∈ stage.decidedAt,
        ∃ breached, isBreached (effectiveSlaHours contexts slaHoursOverride stage) stage decidedAt = .ok breached := by
  induction stages with
  | nil => exact iff_of_true ⟨_, rfl⟩ fun stage member => absurd member List.not_mem_nil
  | cons stage rest recurse =>
      rw [List.forall_mem_cons, ← recurse, countBreaches]
      cases threshold : effectiveSlaHours contexts slaHoursOverride stage with
      | none => simp [isBreached]
      | some hours =>
          cases stage.decidedAt with
          | none => simp
          | some decidedAt =>
              cases outcome : isBreached (some hours) stage decidedAt with
              | error error => simp [outcome, bind, Except.bind]
              | ok breached =>
                  cases countBreaches contexts slaHoursOverride rest with
                  | error error => simp [outcome, bind, Except.bind]
                  | ok counted => simp [outcome, bind, Except.bind, pure, Except.pure]

end Ages

section Counts

theorem activeRequests_filterMap (statuses : List RequestStatus) (group : RequestStatus → List RequestRecord) :
    activeRequests (statuses.filterMap fun status =>
        if (group status).isEmpty then none else some (status, (group status).length)) =
      ((statuses.filter activeStatuses.contains).map fun status => (group status).length).sum := by
  induction statuses with
  | nil => rfl
  | cons status rest recurse =>
      rw [List.filterMap_cons, List.filter_cons]
      cases empty : (group status).isEmpty with
      | true =>
          have none : (group status).length = 0 := List.length_eq_zero_iff.mpr (List.isEmpty_iff.mp empty)
          cases activeStatuses.contains status with
          | false => exact recurse
          | true =>
              rw [if_pos rfl, if_pos rfl, List.map_cons, List.sum_cons, none, Nat.zero_add]
              exact recurse
      | false =>
          rw [if_neg Bool.false_ne_true]
          simp only [activeRequests, List.filter_cons] at recurse ⊢
          cases activeStatuses.contains status with
          | false => exact recurse
          | true =>
              rw [if_pos rfl, if_pos rfl, List.map_cons, List.map_cons, List.sum_cons, List.sum_cons, recurse]

theorem length_active_groups (requests : List RequestRecord) :
    (requests.filter fun request => request.status == .pending).length +
        (requests.filter fun request => request.status == .inReview).length =
      (requests.filter fun request => !isTerminalRequestStatus request.status).length := by
  induction requests with
  | nil => rfl
  | cons request rest recurse =>
      cases status : request.status with
      | pending =>
          have terminal : isTerminalRequestStatus .pending = false := rfl
          simp [status, terminal, ← recurse]
          omega
      | inReview =>
          have terminal : isTerminalRequestStatus .inReview = false := rfl
          simp [status, terminal, ← recurse]
          omega
      | approved | rejected | completed =>
          simpa [status, isTerminalRequestStatus, requestStatusTransitions] using recurse

/-- The active requests of the breakdown are the live requests that are pending or in review. -/
theorem activeRequests_countRequestsByStatus (world : World) (scope : Scope) :
    activeRequests (countRequestsByStatus world scope).counts =
      ((world.requests.rows.filter scope.counts).filter fun request =>
        !isTerminalRequestStatus request.status).length := by
  have grouped := activeRequests_filterMap requestStatuses fun status =>
    (world.requests.rows.filter scope.counts).filter fun request => request.status == status
  rw [← length_active_groups]
  exact grouped

end Counts

end AutomationHub.Analytics
