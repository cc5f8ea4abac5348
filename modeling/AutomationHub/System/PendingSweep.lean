import AutomationHub.Foundation.OffsetSweep
import AutomationHub.Scheduler.PendingStageJobs
import AutomationHub.Services.ServiceRules
import AutomationHub.System.Operations

/-!
Which pending stages one sweep of the Scheduler yields while stages are decided
between its page fetches.

The pages are cut by offset out of what is pending at each fetch, and stages
created at the same instant may be listed in any order, another one each time.
-/

set_option autoImplicit false

namespace AutomationHub.System

open Foundation Model Database Services Auth Scheduler Program Table

/-- A page size that `Page` accepts. -/
structure PageSize where
  value : Nat
  positive : 1 ≤ value
  bounded : value ≤ maxPageSize

def PageSize.page (size : PageSize) (index : Nat) : Page where
  number := index + 1
  size := size.value
  number_pos := Nat.succ_pos index
  size_pos := size.positive
  size_le := size.bounded

/-- The pages of the sweep from the one numbered `index + 1` on, of any size. -/
def pagesFrom (size : PageSize) (cutoff : Datetime) : (remaining index : Nat) → Service (List WorkflowStageRecord)
  | 0, _ => return []
  | remaining + 1, index => do
      let result : PagedResult WorkflowStageRecord ←
        orRaise (.listOverdueStagesAllCompanies cutoff (size.page index))
      if result.items.isEmpty then return []
      if result.totalPages ≤ index + 1 then return result.items
      return result.items ++ (← pagesFrom size cutoff remaining (index + 1))

/-- `iter_pending_stages`, with its page size and its limit of pages. -/
def iterPendingStagesOf (size : PageSize) (limit : Nat) : Service (List WorkflowStageRecord) := do
  let cutoff ← utcNow
  pagesFrom size cutoff limit 0

def defaultPageSize : PageSize := ⟨100, one_le_hundred, hundred_le_maxPageSize⟩

/-- The rows that the listing selects. -/
def pendingBefore (cutoff : Datetime) (world : World) : List WorkflowStageRecord :=
  world.stages.rows.filter fun stage => stage.status == .pending && stage.createdAt ≤ cutoff

theorem mem_pendingBefore {cutoff : Datetime} {world : World} {stage : WorkflowStageRecord} :
    stage ∈ pendingBefore cutoff world ↔
      stage ∈ world.stages.rows ∧ stage.status = .pending ∧ stage.createdAt ≤ cutoff := by
  simp [pendingBefore]

theorem pendingBefore_nodup (cutoff : Datetime) (world : World) :
    ((pendingBefore cutoff world).map WorkflowStageRecord.id).Nodup :=
  world.stages.distinct.sublist (List.filter_sublist.map _)

/-- The clock shows the cutoff, and each fetch is answered with a page of what is listed at its moment. -/
def sweeping (cutoff : Datetime) (arranged : Nat → List WorkflowStageRecord) : Protocol hubSignature Nat where
  permits := fun _ _ => True
  answers := fun fetched call => match call with
    | .utcNow => fun now next => now = cutoff ∧ next = fetched
    | .query (.listOverdueStagesAllCompanies createdBefore page) => fun reply next =>
        createdBefore = cutoff ∧ reply = .ok (paginate (arranged fetched) page) ∧ next = fetched + 1
    | _ => fun _ next => next = fetched

section Executions

variable {cutoff : Datetime} {arranged : Nat → List WorkflowStageRecord}

theorem ensures_fetch (size : PageSize) (index : Nat)
    (post : Except AppError (PagedResult WorkflowStageRecord) → Nat → Prop) :
    (orRaise (.listOverdueStagesAllCompanies cutoff (size.page index)) :
        Service (PagedResult WorkflowStageRecord)).Ensures (sweeping cutoff arranged) post index ↔
      post (.ok (paginate (arranged index) (size.page index))) (index + 1) := by
  rw [ensures_orRaise]
  constructor
  · intro ensured
    exact ensured.2 _ _ ⟨rfl, rfl, rfl⟩
  · intro holds
    refine ⟨trivial, ?_⟩
    rintro _ _ ⟨_, rfl, rfl⟩
    exact holds

theorem items_page (size : PageSize) (index : Nat) :
    (paginate (arranged index) (size.page index)).items = slice size.value index (arranged index) := rfl

theorem totalPages_page_le_iff (size : PageSize) (index : Nat) :
    (paginate (arranged index) (size.page index)).totalPages ≤ index + 1 ↔
      (arranged index).length ≤ (index + 1) * size.value :=
  pageCount_le_iff size.positive

theorem slice_eq_nil_of_length_le {size : Nat} {α : Type} {rows : List α} {index : Nat}
    (empty : slice size index rows = []) (positive : 1 ≤ size) : rows.length ≤ (index + 1) * size := by
  rw [slice, List.take_eq_nil_iff, List.drop_eq_nil_iff] at empty
  rw [Nat.succ_mul]
  omega

theorem ensures_pagesFrom (size : PageSize) (remaining : Nat) :
    ∀ (index : Nat) (post : Except AppError (List WorkflowStageRecord) → Prop),
      (pagesFrom size cutoff remaining index).Ensures (sweeping cutoff arranged) (fun result _ => post result) index ↔
        post (.ok (sweep size.value arranged remaining index)) := by
  induction remaining with
  | zero => exact fun _ _ => Iff.rfl
  | succ remaining ih =>
      intro index post
      rw [pagesFrom, ensures_bind, ensures_fetch, Then, items_page]
      by_cases empty : slice size.value index (arranged index) = []
      · rw [sweep_last remaining (slice_eq_nil_of_length_le empty size.positive), empty]
        exact Iff.rfl
      · have shown : (slice size.value index (arranged index)).isEmpty = false := by simpa using empty
        simp only [shown, Bool.false_eq_true, if_false]
        by_cases last : (arranged index).length ≤ (index + 1) * size.value
        · rw [sweep_last remaining last]
          simp only [totalPages_page_le_iff, last, if_true]
          exact Iff.rfl
        · rw [sweep_more remaining last]
          simp only [totalPages_page_le_iff, last, if_false]
          have appended : (Then (sweeping cutoff arranged) (fun stages =>
              (pure (slice size.value index (arranged index) ++ stages) : Service (List WorkflowStageRecord)))
              fun result _ => post result)
              = fun result (_ : Nat) => post (result.map (slice size.value index (arranged index) ++ ·)) := by
            funext result _
            cases result <;> rfl
          rw [ensures_bind, appended, ih]
          rfl

theorem ensures_iterPendingStages (size : PageSize) (limit : Nat)
    (post : Except AppError (List WorkflowStageRecord) → Prop) :
    (iterPendingStagesOf size limit).Ensures (sweeping cutoff arranged) (fun result _ => post result) 0 ↔
      post (.ok (sweep size.value arranged limit 0)) := by
  rw [iterPendingStagesOf, ensures_bind, ensures_utcNow]
  constructor
  · intro ensured
    exact (ensures_pagesFrom size limit 0 post).1 (ensured.2 cutoff 0 ⟨rfl, rfl⟩)
  · intro holds
    refine ⟨trivial, ?_⟩
    rintro _ _ ⟨rfl, rfl⟩
    exact (ensures_pagesFrom size limit 0 post).2 holds

end Executions

/-- The pages that the sweep asks for, given the worlds its fetches find. -/
def fetches (size : PageSize) (limit : Nat) (cutoff : Datetime) (worlds : Nat → World) : List Nat :=
  pagesAsked size.value (fun fetch => (pendingBefore cutoff (worlds fetch)).length) limit 0

def IsPending (world : World) (stageId : UUID) : Prop :=
  ∃ stage ∈ world.stages.rows, stage.id = stageId ∧ stage.status = .pending

/-- The stage is pending when the sweep starts and at each of its fetches. -/
def StaysPending (size : PageSize) (limit : Nat) (cutoff : Datetime) (worlds : Nat → World) (stageId : UUID) : Prop :=
  IsPending (worlds 0) stageId ∧ ∀ fetch ∈ fetches size limit cutoff worlds, IsPending (worlds fetch) stageId

/-- However each fetch lists stages created at the same instant, the sweep yields each stage that stays pending once. -/
def YieldsEachOnce (size : PageSize) (limit : Nat) (cutoff : Datetime) (worlds : Nat → World) : Prop :=
  ∀ arranged : Nat → List WorkflowStageRecord,
    (∀ fetch, Arranges WorkflowStageRecord.createdAt (pendingBefore cutoff (worlds fetch)) (arranged fetch)) →
    (iterPendingStagesOf size limit).Ensures (sweeping cutoff arranged)
      (fun result _ => ∃ stages, result = .ok stages ∧
        ∀ stageId, StaysPending size limit cutoff worlds stageId → (stages.map WorkflowStageRecord.id).count stageId = 1) 0

/-- The stage is surely on one of the pages when that is fetched, and surely off each other one. -/
def OnOnePage (size : PageSize) (limit : Nat) (cutoff : Datetime) (worlds : Nat → World) (stageId : UUID) : Prop :=
  ∃ page ∈ fetches size limit cutoff worlds,
    SurelyOn WorkflowStageRecord.id WorkflowStageRecord.createdAt size.value page (pendingBefore cutoff (worlds page))
        stageId ∧
      ∀ other ∈ fetches size limit cutoff worlds, other ≠ page →
        SurelyOff WorkflowStageRecord.id WorkflowStageRecord.createdAt size.value other
          (pendingBefore cutoff (worlds other)) stageId

theorem yieldsEachOnce_iff (size : PageSize) (limit : Nat) (cutoff : Datetime) (worlds : Nat → World) :
    YieldsEachOnce size limit cutoff worlds ↔
      ∀ stageId, StaysPending size limit cutoff worlds stageId → OnOnePage size limit cutoff worlds stageId := by
  have once := fun stageId => @sweep_once_iff _ _ _ _ _ WorkflowStageRecord.id WorkflowStageRecord.createdAt
    (fun fetch => pendingBefore cutoff (worlds fetch)) (fun fetch => pendingBefore_nodup cutoff (worlds fetch))
    size.value limit stageId
  have yields : YieldsEachOnce size limit cutoff worlds ↔ ∀ arranged : Nat → List WorkflowStageRecord,
      (∀ fetch, Arranges WorkflowStageRecord.createdAt (pendingBefore cutoff (worlds fetch)) (arranged fetch)) →
      ∀ stageId, StaysPending size limit cutoff worlds stageId →
        ((sweep size.value arranged limit 0).map WorkflowStageRecord.id).count stageId = 1 := by
    refine forall_congr' fun arranged => imp_congr_right fun _ => ?_
    rw [ensures_iterPendingStages size limit fun result => ∃ stages, result = .ok stages ∧
      ∀ stageId, StaysPending size limit cutoff worlds stageId → (stages.map WorkflowStageRecord.id).count stageId = 1]
    constructor
    · rintro ⟨stages, same, each⟩
      obtain rfl := Except.ok.inj same
      exact each
    · exact fun each => ⟨_, rfl, each⟩
  rw [yields]
  constructor
  · intro each stageId stays
    exact (once stageId).1 fun arranged arranges => each arranged arranges stageId stays
  · intro onOne arranged arranges stageId stays
    exact (once stageId).2 (onOne stageId stays) arranged arranges

theorem arranges_overdueStages (cutoff : Datetime) (world : World) :
    Arranges WorkflowStageRecord.createdAt (pendingBefore cutoff world) (world.overdueStagesAllCompanies cutoff) where
  perm := List.perm_insertionSort _ _
  sorted := by
    have total : Std.Total fun left right : WorkflowStageRecord => decide (left.createdAt ≤ right.createdAt) = true :=
      ⟨fun left right => by simpa using Nat.le_total left.createdAt right.createdAt⟩
    have transitive : IsTrans WorkflowStageRecord fun left right => decide (left.createdAt ≤ right.createdAt) = true :=
      ⟨fun first second third => by simpa using Nat.le_trans⟩
    exact (List.pairwise_insertionSort _ _).imp fun related => of_decide_eq_true related

/-- Meanwhile stages were decided and nothing else became pending that a fetch would list. -/
structure OnlyDecided (cutoff : Datetime) (before after : World) : Prop where
  pending : ∀ stage ∈ pendingBefore cutoff after, ∃ earlier ∈ pendingBefore cutoff before,
    earlier.id = stage.id ∧ earlier.createdAt = stage.createdAt
  created : ∀ stage ∈ before.stages.rows, ∀ later ∈ after.stages.rows, later.id = stage.id →
    later.createdAt = stage.createdAt

/-- Between two fetches at most as many stages are decided before the stage as leave it on its side of the offset at
which the next page begins. -/
def KeepsItsSide (size : PageSize) (limit : Nat) (cutoff : Datetime) (worlds : Nat → World) (stageId : UUID) : Prop :=
  (∃ stage ∈ pendingBefore cutoff (worlds 0), stage.id = stageId) ∧
    ∀ fetch, fetch + 1 ∈ fetches size limit cutoff worlds →
      ∀ stage ∈ (worlds fetch).stages.rows, stage.id = stageId →
        asOld WorkflowStageRecord.createdAt (pendingBefore cutoff (worlds fetch)) stage ≤ (fetch + 1) * size.value ∨
          (fetch + 1) * size.value ≤
            older WorkflowStageRecord.createdAt (pendingBefore cutoff (worlds (fetch + 1))) stage

section Decisions

variable {size : PageSize} {limit : Nat} {cutoff : Datetime} {worlds : Nat → World} {stageId : UUID}

theorem fetches_down {fetch : Nat} (next : fetch + 1 ∈ fetches size limit cutoff worlds) :
    fetch ∈ fetches size limit cutoff worlds := by
  obtain ⟨count, _, listed, _⟩ := exists_pagesAsked size.value
    (fun fetch => (pendingBefore cutoff (worlds fetch)).length) limit
  exact (listed fetch).2 (Nat.lt_of_succ_lt ((listed (fetch + 1)).1 next))

theorem listed_of_stays (decided : ∀ fetch, OnlyDecided cutoff (worlds fetch) (worlds (fetch + 1)))
    (stays : StaysPending size limit cutoff worlds stageId) {start : WorkflowStageRecord}
    (member : start ∈ pendingBefore cutoff (worlds 0)) (named : start.id = stageId) (fetch : Nat) :
    fetch ∈ fetches size limit cutoff worlds →
      ∃ stage ∈ pendingBefore cutoff (worlds fetch), stage.id = stageId ∧ stage.createdAt = start.createdAt := by
  induction fetch with
  | zero => exact fun _ => ⟨start, member, named, rfl⟩
  | succ fetch ih =>
      intro asked
      obtain ⟨earlier, listed, same, created⟩ := ih (fetches_down asked)
      obtain ⟨stage, stored, isStage, pending⟩ := stays.2 (fetch + 1) asked
      have kept := (decided fetch).created earlier (mem_pendingBefore.1 listed).1 stage stored (isStage.trans same.symm)
      have early : stage.createdAt ≤ cutoff := kept ▸ (mem_pendingBefore.1 listed).2.2
      exact ⟨stage, mem_pendingBefore.2 ⟨stored, pending, early⟩, isStage, kept.trans created⟩

theorem listed_from_start (decided : ∀ fetch, OnlyDecided cutoff (worlds fetch) (worlds (fetch + 1))) (fetch : Nat) :
    ∀ stage ∈ pendingBefore cutoff (worlds fetch), ∃ first ∈ pendingBefore cutoff (worlds 0), first.id = stage.id := by
  induction fetch with
  | zero => exact fun stage listed => ⟨stage, listed, rfl⟩
  | succ fetch ih =>
      intro stage listed
      obtain ⟨earlier, before, same, _⟩ := (decided fetch).pending stage listed
      obtain ⟨first, start, named⟩ := ih earlier before
      exact ⟨first, start, named.trans same⟩

theorem onOnePage_iff_keepsItsSide (decided : ∀ fetch, OnlyDecided cutoff (worlds fetch) (worlds (fetch + 1)))
    (fits : (pendingBefore cutoff (worlds 0)).length ≤ limit * size.value)
    (stays : StaysPending size limit cutoff worlds stageId) :
    OnOnePage size limit cutoff worlds stageId ↔ KeepsItsSide size limit cutoff worlds stageId := by
  by_cases listed : ∃ stage ∈ pendingBefore cutoff (worlds 0), stage.id = stageId
  · obtain ⟨start, member, named⟩ := listed
    have choice : ∀ fetch, ∃ stage : WorkflowStageRecord, stage.id = stageId ∧ stage.createdAt = start.createdAt ∧
        (fetch = 0 ∨ fetch ∈ fetches size limit cutoff worlds → stage ∈ pendingBefore cutoff (worlds fetch)) := by
      intro fetch
      by_cases asked : fetch ∈ fetches size limit cutoff worlds
      · obtain ⟨stage, there, same, created⟩ := listed_of_stays decided stays member named fetch asked
        exact ⟨stage, same, created, fun _ => there⟩
      · exact ⟨start, named, rfl, fun found => (found.resolve_right asked) ▸ member⟩
    choose staying isStage created there using choice
    have position := @on_one_page_of_narrows_iff _ _ _ _ WorkflowStageRecord.id WorkflowStageRecord.createdAt
      (fun fetch => pendingBefore cutoff (worlds fetch)) (fun fetch => pendingBefore_nodup cutoff (worlds fetch))
      (fun fetch => (decided fetch).pending) size.value limit fits staying stageId isStage
      (fun fetch => (created fetch).trans (created 0).symm) (there 0 (.inl rfl)) fun fetch asked => there fetch (.inr asked)
    refine position.trans ?_
    have same : ∀ fetch, fetch ∈ fetches size limit cutoff worlds → ∀ stage ∈ (worlds fetch).stages.rows,
        stage.id = stageId → stage = staying fetch := by
      intro fetch asked stage stored isTheStage
      exact (worlds fetch).stages.eq_of_key_eq stored (mem_pendingBefore.1 (there fetch (.inr asked))).1
        (isTheStage.trans (isStage fetch).symm)
    have olderSame : ∀ fetch, older WorkflowStageRecord.createdAt (pendingBefore cutoff (worlds (fetch + 1)))
        (staying (fetch + 1)) = older WorkflowStageRecord.createdAt (pendingBefore cutoff (worlds (fetch + 1)))
          (staying fetch) := by
      intro fetch
      rw [older, older, created, created]
    constructor
    · intro steady
      refine ⟨⟨start, member, named⟩, fun fetch next stage stored isTheStage => ?_⟩
      rw [same fetch (fetches_down next) stage stored isTheStage, ← olderSame]
      exact steady fetch next
    · intro keeps fetch next
      rw [olderSame]
      exact keeps.2 fetch next _ (mem_pendingBefore.1 (there fetch (.inr (fetches_down next)))).1 (isStage fetch)
  · refine iff_of_false ?_ fun keeps => listed keeps.1
    rintro ⟨page, _, ⟨stage, there, isStage, _⟩, _⟩
    obtain ⟨first, start, named⟩ := listed_from_start decided page stage there
    exact listed ⟨first, start, named.trans isStage⟩

end Decisions

/-- A sweep yields each stage that stays pending once, however stages created at the same instant are listed, exactly if
each is surely on one page when that is fetched and off the others; and where stages are only decided meanwhile and fit
into the pages, exactly if none of them changes its side of the offset of the next page between two fetches. -/
theorem sweep_yields_each_once_iff (size : PageSize) (limit : Nat) (cutoff : Datetime) (worlds : Nat → World) :
    (YieldsEachOnce size limit cutoff worlds ↔
        ∀ stageId, StaysPending size limit cutoff worlds stageId → OnOnePage size limit cutoff worlds stageId) ∧
      ((∀ fetch, OnlyDecided cutoff (worlds fetch) (worlds (fetch + 1))) →
        (pendingBefore cutoff (worlds 0)).length ≤ limit * size.value →
        (YieldsEachOnce size limit cutoff worlds ↔
          ∀ stageId, StaysPending size limit cutoff worlds stageId → KeepsItsSide size limit cutoff worlds stageId)) := by
  refine ⟨yieldsEachOnce_iff size limit cutoff worlds, fun decided fits => ?_⟩
  rw [yieldsEachOnce_iff]
  exact forall_congr' fun stageId => imp_congr_right fun stays => onOnePage_iff_keepsItsSide decided fits stays

theorem OnlyDecided.refl (cutoff : Datetime) (world : World) : OnlyDecided cutoff world world where
  pending := fun stage listed => ⟨stage, listed, rfl, rfl⟩
  created := fun stage stored later found same => by rw [Table.eq_of_key_eq _ found stored same]

section Meanwhile

variable {ι : Type}

/-- Any thread may make any call but taking a decision back, once the clock has passed the cutoff. -/
def deciding (cutoff : Datetime) : Effect hubSignature World ι := fun thread world request reply after =>
  mayFail thread world request reply after ∧ cutoff < world.now ∧
    ∀ stageId version, request ≠ .query (.revertToPending stageId version)

theorem pending_of_deciding {cutoff : Datetime} {thread : ι} {world after : World} {request : Call} {reply : request.Reply}
    (step : deciding cutoff thread world request reply after) {stage : WorkflowStageRecord}
    (listed : stage ∈ pendingBefore cutoff after) :
    ∃ earlier ∈ pendingBefore cutoff world, earlier.id = stage.id ∧ earlier.createdAt = stage.createdAt := by
  obtain ⟨failing, past, final⟩ := step
  obtain ⟨stored, pending, early⟩ := mem_pendingBefore.1 listed
  rcases World.change_of_mayFail failing with ⟨statement, changed, rfl, change, rfl⟩ | ⟨-, same, -⟩
  · cases change with
    | stage update found current =>
        rcases World.mem_modify_stages stored with ⟨kept, -⟩ | ⟨old, present, -, rfl⟩
        · exact ⟨stage, mem_pendingBefore.2 ⟨kept, pending, early⟩, rfl, rfl⟩
        · have fixed := update.fixed old
          have was : old.status = .pending := by
            cases update with
            | approve => cases pending
            | reject => cases pending
            | revert => exact absurd rfl (final _ _)
            | escalate => exact pending
          exact ⟨old, mem_pendingBefore.2 ⟨present, was, fixed.createdAt ▸ early⟩, fixed.id.symm, fixed.createdAt.symm⟩
    | newStage =>
        rcases (mem_insert ..).mp stored with present | rfl
        · exact ⟨stage, mem_pendingBefore.2 ⟨present, pending, early⟩, rfl, rfl⟩
        · exact absurd early (Nat.not_le_of_lt past)
    | removedStage => exact ⟨stage, mem_pendingBefore.2 ⟨((mem_erase ..).mp stored).1, pending, early⟩, rfl, rfl⟩
    | elsewhere _ stages => exact ⟨stage, mem_pendingBefore.2 ⟨stages ▸ stored, pending, early⟩, rfl, rfl⟩
    | _ => exact ⟨stage, mem_pendingBefore.2 ⟨stored, pending, early⟩, rfl, rfl⟩
  · exact ⟨stage, mem_pendingBefore.2 ⟨same ▸ stored, pending, early⟩, rfl, rfl⟩

variable {ε : Type} [DecidableEq ι]

theorem onlyDecided_of_run {cutoff : Datetime} {first last : Pool hubSignature ε World ι} {events : List (Event hubSignature ι)}
    (run : Pool.Run (deciding cutoff) first events last) :
    OnlyDecided cutoff first.shared last.shared ∧ first.shared.stages.next ≤ last.shared.stages.next := by
  induction run with
  | refl => exact ⟨.refl cutoff _, le_rfl⟩
  | step before move ih =>
      obtain ⟨decided, grown⟩ := ih
      cases move with
      | @call thread request next reply after calling step =>
          refine ⟨⟨fun stage listed => ?_, fun stage stored later found same => ?_⟩, ?_⟩
          · obtain ⟨middle, between, named, created⟩ := pending_of_deciding step listed
            obtain ⟨earlier, start, earlierNamed, earlierCreated⟩ := decided.pending middle between
            exact ⟨earlier, start, earlierNamed.trans named, earlierCreated.trans created⟩
          · rcases World.stage_origin_of_mayFail step.1 found with ⟨old, present, fixed⟩ | fresh
            · exact fixed.createdAt.trans (decided.created stage stored old present (fixed.id.symm.trans same))
            · have used : stage.id < first.shared.stages.next := first.shared.stages.fresh stage stored
              exact absurd (Nat.lt_of_lt_of_le used grown) (Nat.not_lt_of_le (same ▸ fresh))
          · exact grown.trans (World.evolves_stages_of_mayFail step.1).next_le

end Meanwhile

section Sample

def pendingStage (createdAt : Datetime) : Draft WorkflowStageRecord where
  build := fun id =>
    { id, requestId := 1, stageOrder := id, stageName := "review", assignedRole := some .approver, assignedTo := none,
      status := .pending, decidedBy := none, decidedAt := none, decisionNote := none, version := 1, createdAt,
      companyId := 9 }
  key_build := fun _ => rfl

/-- Three pending stages, created one after the other. -/
def backlog : World :=
  { sampleHub with
    clock := fun _ => 100
    stages := ((Table.empty.insert (pendingStage 1)).insert (pendingStage 2)).insert (pendingStage 3) }

/-- The stage is approved between the first and the second fetch. -/
def approvedMeanwhile (stageId : UUID) (fetch : Nat) : World :=
  if fetch = 0 then backlog else (environment (.query (.approveStage stageId 1 2 none)) backlog).2

def pairs : PageSize := ⟨2, by decide, by decide⟩

def approver (stageId : UUID) : Pool hubSignature Unit World Unit :=
  ⟨backlog, fun _ => .call (.query (.approveStage stageId 1 2 none)) fun _ => .done ()⟩

theorem approver_step (stageId : UUID) :
    Pool.Step (deciding 50) (approver stageId) ⟨(), _, (environment (.query (.approveStage stageId 1 2 none)) backlog).1⟩
      ((approver stageId).perform environment ()) :=
  Pool.perform_step environment (approver stageId) rfl
    ⟨.inl rfl, (by decide : (50 : Nat) < 100), fun _ _ same => by cases same⟩

theorem backlog_decided (stageId : UUID) (fetch : Nat) :
    OnlyDecided 50 (approvedMeanwhile stageId fetch) (approvedMeanwhile stageId (fetch + 1)) := by
  cases fetch with
  | zero => exact (onlyDecided_of_run (.step (.refl _) (approver_step stageId))).1
  | succ fetch => exact .refl 50 _

theorem backlog_fits (stageId : UUID) : (pendingBefore 50 (approvedMeanwhile stageId 0)).length ≤ 2 * pairs.value := by
  change (pendingBefore 50 backlog).length ≤ 4
  decide +kernel

/-- Approving the youngest stage between the fetches leaves the others on their pages. -/
theorem sweep_yields_each_once_sample : YieldsEachOnce pairs 2 50 (approvedMeanwhile 3) := by
  refine ((sweep_yields_each_once_iff pairs 2 50 (approvedMeanwhile 3)).2 (backlog_decided 3) (backlog_fits 3)).2 ?_
  have pages : fetches pairs 2 50 (approvedMeanwhile 3) = [0, 1] := by decide +kernel
  have decided : ∀ stage ∈ (approvedMeanwhile 3 1).stages.rows, stage.id = 3 → stage.status ≠ .pending := by decide +kernel
  have early : ∀ stage ∈ backlog.stages.rows, stage.id ≠ 3 →
      asOld WorkflowStageRecord.createdAt (pendingBefore 50 backlog) stage ≤ 2 := by decide +kernel
  have all : ∀ stage ∈ backlog.stages.rows, stage ∈ pendingBefore 50 backlog := by decide +kernel
  intro stageId stays
  obtain ⟨stage, stored, named, _⟩ := stays.1
  have other : stageId ≠ 3 := by
    rintro rfl
    obtain ⟨later, found, isStage, pending⟩ := stays.2 1 (by simp [pages])
    exact decided later found isStage pending
  refine ⟨⟨stage, all stage stored, named⟩, fun fetch next row rowStored isRow => .inl ?_⟩
  obtain rfl : fetch = 0 := by simpa [pages] using next
  exact early row rowStored (isRow ▸ other)

/-- Approving the oldest stage after the first fetch moves the youngest one before the second page: it stays pending and
is not yielded. -/
theorem sweep_skips_pending_stage :
    (∀ fetch, OnlyDecided 50 (approvedMeanwhile 1 fetch) (approvedMeanwhile 1 (fetch + 1))) ∧
      (pendingBefore 50 (approvedMeanwhile 1 0)).length ≤ 2 * pairs.value ∧
      StaysPending pairs 2 50 (approvedMeanwhile 1) 3 ∧ ¬ YieldsEachOnce pairs 2 50 (approvedMeanwhile 1) := by
  have pages : fetches pairs 2 50 (approvedMeanwhile 1) = [0, 1] := by decide +kernel
  have pending : ∀ fetch, IsPending (approvedMeanwhile 1 fetch) 3 := by
    intro fetch
    cases fetch with
    | zero => exact ⟨(pendingStage 3).build 3, by decide +kernel, rfl, rfl⟩
    | succ fetch => exact ⟨(pendingStage 3).build 3, by
        change (pendingStage 3).build 3 ∈ (approvedMeanwhile 1 1).stages.rows
        decide +kernel, rfl, rfl⟩
  have stays : StaysPending pairs 2 50 (approvedMeanwhile 1) 3 := ⟨pending 0, fun fetch _ => pending fetch⟩
  refine ⟨backlog_decided 1, backlog_fits 1, stays, fun yields => ?_⟩
  have ensured := yields (fun fetch => (approvedMeanwhile 1 fetch).overdueStagesAllCompanies 50)
    fun fetch => arranges_overdueStages 50 _
  obtain ⟨stages, same, each⟩ := (ensures_iterPendingStages pairs 2 _).1 ensured
  obtain rfl := Except.ok.inj same
  have missed : ((sweep pairs.value (fun fetch => (approvedMeanwhile 1 fetch).overdueStagesAllCompanies 50) 2 0).map
      WorkflowStageRecord.id).count 3 = 0 := by decide +kernel
  exact absurd (each 3 stays) (by rw [missed]; decide)

end Sample

end AutomationHub.System
