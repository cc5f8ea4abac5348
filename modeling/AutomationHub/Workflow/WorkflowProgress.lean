import AutomationHub.Workflow.WorkflowState

/-!
How far a request has come in the document that it was created with: the law that every step of the workflow keeps.
-/

set_option autoImplicit false

namespace AutomationHub.Workflow

open Model

/-- How the stage that a request has reached and the request stand to each other. -/
inductive Standing (document : WorkflowDefinitionDocument) (stageId : UUID) (stage : StageState) (request : RequestState) :
    Prop
  | waiting (pending : stage.status = .pending) (undecided : stage.decidedBy = none)
      (running : isTerminalRequestStatus request.status = false) (current : request.currentStageId = some stageId)
      (unfinished : request.completed = false)
  | completed (approved : stage.status = .approved) (decided : stage.decidedBy.isSome = true)
      (last : stage.order = document.length) (status : request.status = .completed) (current : request.currentStageId = none)
      (finished : request.completed = true)
  | rejected (rejected : stage.status = .rejected) (decided : stage.decidedBy.isSome = true)
      (status : request.status = .rejected) (current : request.currentStageId = none) (finished : request.completed = true)

/-- The stages of the request are the first ones of the document, as many as it has reached, each of them once; the
request has passed all but the last of them. -/
structure StageProgress (document : WorkflowDefinitionDocument) (stages : UUID → Option StageState) (requestId : UUID)
    (request : RequestState) (reached : Nat) : Prop where
  started : 1 ≤ reached
  within : reached ≤ document.length
  opened : ∀ order, 1 ≤ order → order ≤ reached →
    ∃ stageId stage, stages stageId = some stage ∧ stage.requestId = requestId ∧ stage.order = order
  once : ∀ {left right first second}, stages left = some first → stages right = some second →
    first.requestId = requestId → second.requestId = requestId → first.order = second.order → left = right
  bounded : ∀ {stageId stage}, stages stageId = some stage → stage.requestId = requestId → stage.order ≤ reached
  listed : ∀ {stageId stage}, stages stageId = some stage → stage.requestId = requestId →
    stage.companyId = request.companyId ∧
      ∃ entry ∈ document.orderedStages, entry.order = stage.order ∧ entry.name = stage.name
  passed : ∀ {stageId stage}, stages stageId = some stage → stage.requestId = requestId → stage.order < reached →
    stage.status = .approved ∧ stage.decidedBy.isSome = true
  current : ∀ {stageId stage}, stages stageId = some stage → stage.requestId = requestId → stage.order = reached →
    Standing document stageId stage request

/-- The request was withdrawn when its first stage could not be created. -/
structure Abandoned (stages : UUID → Option StageState) (requestId : UUID) (request : RequestState) : Prop where
  withdrawn : request.withdrawn = true
  status : request.status = .pending
  current : request.currentStageId = none
  unfinished : request.completed = false
  stageless : ∀ {stageId stage}, stages stageId = some stage → stage.requestId ≠ requestId

/-- What each request and each stage is at any time. -/
structure LawfulRequests (definitions : UUID → Option WorkflowDefinition) (state : WorkflowState) : Prop where
  requests : ∀ {requestId request}, state.requests requestId = some request →
    ∃ definition, definitions request.definitionId = some definition ∧ definition.companyId = request.companyId ∧
      (Abandoned state.stages requestId request ∨
        ∃ reached, StageProgress definition.definition state.stages requestId request reached)
  stages : ∀ {stageId stage}, state.stages stageId = some stage → ∃ request, state.requests stage.requestId = some request

variable {document : WorkflowDefinitionDocument} {stages later : UUID → Option StageState} {requestId : UUID}
  {request : RequestState} {reached : Nat} {definitions : UUID → Option WorkflowDefinition} {state : WorkflowState}

/-- The stages of the request are the same in both. -/
def SameStages (requestId : UUID) (stages later : UUID → Option StageState) : Prop :=
  ∀ stageId stage, stage.requestId = requestId → (stages stageId = some stage ↔ later stageId = some stage)

theorem SameStages.set {stageId written : UUID} {stage : StageState} (away : requestId ≠ written)
    (mine : stage.requestId = written)
    (before : ∀ earlier, state.stages stageId = some earlier → earlier.requestId = written) :
    SameStages requestId state.stages (state.setStage stageId stage).stages := by
  intro otherId found same
  rw [WorkflowState.setStage_stages]
  by_cases here : otherId = stageId
  · subst here
    rw [if_pos rfl]
    constructor
    · intro located
      exact absurd (same.symm.trans (before found located)) away
    · intro located
      cases located
      exact absurd (same.symm.trans mine) away
  · rw [if_neg here]

theorem SameStages.decide {stageId : UUID} {stage decided : StageState} (away : requestId ≠ stage.requestId)
    (found : state.stages stageId = some stage) (mine : decided.requestId = stage.requestId) :
    SameStages requestId state.stages (state.setStage stageId decided).stages := by
  apply SameStages.set away mine
  intro earlier located
  cases found.symm.trans located
  rfl

theorem SameStages.trans {last : UUID → Option StageState} (first : SameStages requestId stages later)
    (second : SameStages requestId later last) : SameStages requestId stages last :=
  fun stageId stage same => (first stageId stage same).trans (second stageId stage same)

theorem StageProgress.frame (progress : StageProgress document stages requestId request reached)
    (same : SameStages requestId stages later) : StageProgress document later requestId request reached where
  started := progress.started
  within := progress.within
  opened := by
    intro order first last
    obtain ⟨stageId, stage, found, mine, numbered⟩ := progress.opened order first last
    exact ⟨stageId, stage, (same stageId stage mine).mp found, mine, numbered⟩
  once := by
    intro left right first second located also mine ours orders
    exact progress.once ((same _ _ mine).mpr located) ((same _ _ ours).mpr also) mine ours orders
  bounded := fun found mine => progress.bounded ((same _ _ mine).mpr found) mine
  listed := fun found mine => progress.listed ((same _ _ mine).mpr found) mine
  passed := fun found mine => progress.passed ((same _ _ mine).mpr found) mine
  current := fun found mine => progress.current ((same _ _ mine).mpr found) mine

theorem Abandoned.frame (abandoned : Abandoned stages requestId request) (same : SameStages requestId stages later) :
    Abandoned later requestId request where
  withdrawn := abandoned.withdrawn
  status := abandoned.status
  current := abandoned.current
  unfinished := abandoned.unfinished
  stageless := fun found mine => abandoned.stageless ((same _ _ mine).mpr found) mine

theorem StageProgress.order_of_pending (progress : StageProgress document stages requestId request reached) {stageId : UUID}
    {stage : StageState} (found : stages stageId = some stage) (mine : stage.requestId = requestId)
    (pending : stage.status = .pending) : stage.order = reached := by
  rcases Nat.lt_or_eq_of_le (progress.bounded found mine) with earlier | here
  · have approved := (progress.passed found mine earlier).1
    rw [pending] at approved
    cases approved
  · exact here

theorem StageProgress.withdraw (progress : StageProgress document stages requestId request reached) :
    StageProgress document stages requestId { request with withdrawn := true } reached where
  started := progress.started
  within := progress.within
  opened := progress.opened
  once := progress.once
  bounded := progress.bounded
  listed := progress.listed
  passed := progress.passed
  current := by
    intro stageId stage found mine here
    cases progress.current found mine here with
    | waiting pending undecided running current unfinished => exact .waiting pending undecided running current unfinished
    | completed approved decided last status current finished =>
        exact .completed approved decided last status current finished
    | rejected rejected decided status current finished => exact .rejected rejected decided status current finished

theorem StageProgress.create {stageId companyId definitionId : UUID} {entry : StageDefinition}
    (listed : entry ∈ document.orderedStages) (first : entry.order = 1)
    (alone : ∀ {otherId other}, state.stages otherId = some other → other.requestId ≠ requestId) :
    StageProgress document (state.setStage stageId ⟨requestId, companyId, 1, entry.name, .pending, none⟩).stages requestId
      ⟨companyId, definitionId, .pending, some stageId, false, false⟩ 1 := by
  have only : ∀ {otherId other},
      (state.setStage stageId ⟨requestId, companyId, 1, entry.name, .pending, none⟩).stages otherId = some other →
      other.requestId = requestId → otherId = stageId ∧ other = ⟨requestId, companyId, 1, entry.name, .pending, none⟩ := by
    intro otherId other found mine
    rw [WorkflowState.setStage_stages] at found
    split at found
    · exact ⟨‹_›, (Option.some.inj found).symm⟩
    · exact absurd mine (alone found)
  constructor
  case started => exact Nat.le_refl 1
  case within => exact document.length_pos
  case opened =>
    intro order least most
    exact ⟨stageId, ⟨requestId, companyId, 1, entry.name, .pending, none⟩, by simp, rfl, Nat.le_antisymm least most⟩
  case once =>
    intro left right _ _ located also mine ours _
    exact (only located mine).1.trans (only also ours).1.symm
  case bounded =>
    intro otherId other found mine
    rw [(only found mine).2]
  case listed =>
    intro otherId other found mine
    rw [(only found mine).2]
    exact ⟨rfl, entry, listed, first, rfl⟩
  case passed =>
    intro otherId other found mine earlier
    rw [(only found mine).2] at earlier
    exact absurd earlier (Nat.lt_irrefl 1)
  case current =>
    intro otherId other found mine _
    obtain ⟨rfl, rfl⟩ := only found mine
    exact .waiting rfl rfl rfl rfl rfl

section Decisions

variable {stageId nextId : UUID} {stage decided : StageState}

theorem decided_cases {otherId : UUID} {other : StageState}
    (located : (state.setStage stageId decided).stages otherId = some other) :
    (otherId = stageId ∧ other = decided) ∨ (otherId ≠ stageId ∧ state.stages otherId = some other) := by
  rw [WorkflowState.setStage_stages] at located
  split at located
  · exact .inl ⟨‹_›, (Option.some.inj located).symm⟩
  · exact .inr ⟨‹_›, located⟩

theorem StageProgress.finish (progress : StageProgress document state.stages requestId request reached)
    (found : state.stages stageId = some stage) (mine : stage.requestId = requestId) (pending : stage.status = .pending)
    {status : StageStatus} {decider : UUID} {ended : RequestState} (company : ended.companyId = request.companyId)
    (standing : Standing document stageId { stage with status := status, decidedBy := some decider } ended) :
    StageProgress document (state.setStage stageId { stage with status := status, decidedBy := some decider }).stages requestId
      ended reached := by
  have here := progress.order_of_pending found mine pending
  have low := progress.bounded found mine
  have entered := progress.listed found mine
  constructor
  case started => exact progress.started
  case within => exact progress.within
  case opened =>
    intro order least most
    obtain ⟨otherId, other, located, ours, numbered⟩ := progress.opened order least most
    by_cases same : otherId = stageId
    · subst same
      cases found.symm.trans located
      exact ⟨otherId, { stage with status := status, decidedBy := some decider }, by simp, mine, numbered⟩
    · exact ⟨otherId, other, by simpa [same] using located, ours, numbered⟩
  case once =>
    intro left right first second located also ours theirs orders
    rcases decided_cases located with ⟨rfl, rfl⟩ | ⟨apart, older⟩ <;>
      rcases decided_cases also with ⟨rfl, rfl⟩ | ⟨away, newer⟩
    · rfl
    · exact progress.once found newer mine theirs orders
    · exact progress.once older found ours mine orders
    · exact progress.once older newer ours theirs orders
  case bounded =>
    intro otherId other located ours
    rcases decided_cases located with ⟨rfl, rfl⟩ | ⟨apart, located⟩
    · exact low
    · exact progress.bounded located ours
  case listed =>
    intro otherId other located ours
    rw [company]
    rcases decided_cases located with ⟨rfl, rfl⟩ | ⟨apart, located⟩
    · exact entered
    · exact progress.listed located ours
  case passed =>
    intro otherId other located ours earlier
    rcases decided_cases located with ⟨rfl, rfl⟩ | ⟨apart, located⟩
    · exact absurd here (Nat.ne_of_lt earlier)
    · exact progress.passed located ours earlier
  case current =>
    intro otherId other located ours last
    rcases decided_cases located with ⟨rfl, rfl⟩ | ⟨apart, located⟩
    · exact standing
    · exact absurd (progress.once located found ours mine (last.trans here.symm)) apart

theorem StageProgress.advance (progress : StageProgress document state.stages requestId request reached)
    (found : state.stages stageId = some stage) (mine : stage.requestId = requestId) (pending : stage.status = .pending)
    (fresh : state.stages nextId = none) {decider : UUID} {entry : StageDefinition}
    (listed : entry ∈ document.orderedStages) (next : entry.order = stage.order + 1) :
    StageProgress document
      ((state.setStage stageId { stage with status := .approved, decidedBy := some decider }).setStage nextId
        ⟨requestId, request.companyId, stage.order + 1, entry.name, .pending, none⟩).stages requestId
      { request with status := .inReview, currentStageId := some nextId, completed := false } (reached + 1) := by
  have here := progress.order_of_pending found mine pending
  have low := progress.bounded found mine
  have entered := progress.listed found mine
  have apart : nextId ≠ stageId := by
    intro same
    rw [same, found] at fresh
    cases fresh
  have each : ∀ {otherId other},
      ((state.setStage stageId { stage with status := .approved, decidedBy := some decider }).setStage nextId
        ⟨requestId, request.companyId, stage.order + 1, entry.name, .pending, none⟩).stages otherId = some other →
      (otherId = nextId ∧ other = ⟨requestId, request.companyId, stage.order + 1, entry.name, .pending, none⟩) ∨
        (otherId = stageId ∧ other = { stage with status := .approved, decidedBy := some decider }) ∨
        (otherId ≠ stageId ∧ state.stages otherId = some other) := by
    intro otherId other located
    rw [WorkflowState.setStage_stages] at located
    split at located
    · exact .inl ⟨‹_›, (Option.some.inj located).symm⟩
    · exact .inr (decided_cases located)
  constructor
  case started => exact Nat.le_add_left 1 reached
  case within =>
    have := ((document.mem_orders_iff (stage.order + 1)).mp ⟨entry, listed, next⟩).2
    rwa [here] at this
  case opened =>
    intro order least most
    rcases Nat.lt_or_eq_of_le most with earlier | last
    · obtain ⟨otherId, other, located, ours, numbered⟩ := progress.opened order least (Nat.le_of_lt_succ earlier)
      have older : otherId ≠ nextId := by
        intro same
        rw [same, fresh] at located
        cases located
      by_cases same : otherId = stageId
      · subst same
        cases found.symm.trans located
        exact ⟨otherId, { stage with status := .approved, decidedBy := some decider }, by simp [older], mine, numbered⟩
      · exact ⟨otherId, other, by simpa [older, same] using located, ours, numbered⟩
    · exact ⟨nextId, ⟨requestId, request.companyId, stage.order + 1, entry.name, .pending, none⟩, by simp, rfl,
        by rw [here, last]⟩
  case once =>
    intro left right first second located also ours theirs orders
    rcases each located with ⟨rfl, rfl⟩ | ⟨rfl, rfl⟩ | ⟨away, older⟩ <;>
      rcases each also with ⟨rfl, rfl⟩ | ⟨rfl, rfl⟩ | ⟨far, newer⟩
    · rfl
    · exact absurd orders (Nat.succ_ne_self stage.order)
    · have below := progress.bounded newer theirs
      change stage.order + 1 = second.order at orders
      omega
    · exact absurd orders.symm (Nat.succ_ne_self stage.order)
    · rfl
    · exact progress.once found newer mine theirs orders
    · have below := progress.bounded older ours
      change first.order = stage.order + 1 at orders
      omega
    · exact progress.once older found ours mine orders
    · exact progress.once older newer ours theirs orders
  case bounded =>
    intro otherId other located ours
    rcases each located with ⟨rfl, rfl⟩ | ⟨rfl, rfl⟩ | ⟨away, located⟩
    · exact Nat.le_of_eq (by rw [here])
    · exact Nat.le_succ_of_le low
    · exact Nat.le_succ_of_le (progress.bounded located ours)
  case listed =>
    intro otherId other located ours
    rcases each located with ⟨rfl, rfl⟩ | ⟨rfl, rfl⟩ | ⟨away, located⟩
    · exact ⟨rfl, entry, listed, next, rfl⟩
    · exact entered
    · exact progress.listed located ours
  case passed =>
    intro otherId other located ours earlier
    rcases each located with ⟨rfl, rfl⟩ | ⟨rfl, rfl⟩ | ⟨away, located⟩
    · exact absurd (by rw [here]) (Nat.ne_of_lt earlier)
    · exact ⟨rfl, rfl⟩
    · rcases Nat.lt_or_eq_of_le (Nat.le_of_lt_succ earlier) with before | last
      · exact progress.passed located ours before
      · exact absurd (progress.once located found ours mine (last.trans here.symm)) away
  case current =>
    intro otherId other located ours last
    rcases each located with ⟨rfl, rfl⟩ | ⟨rfl, rfl⟩ | ⟨away, located⟩
    · exact .waiting rfl rfl rfl rfl rfl
    · exact absurd (here.symm.trans last) (Nat.ne_of_lt (Nat.lt_succ_self reached))
    · exact absurd (progress.bounded located ours) (by omega)

end Decisions

namespace LawfulRequests

/-- A step that writes one request, and only stages of that request, is lawful if it leaves that request so. -/
theorem set (lawful : LawfulRequests definitions state) {after : UUID → Option StageState} {written : UUID}
    {replaced : RequestState}
    (apart : ∀ {other}, other ≠ written → SameStages other state.stages after)
    (lawfully : ∃ definition, definitions replaced.definitionId = some definition ∧
      definition.companyId = replaced.companyId ∧ (Abandoned after written replaced ∨
        ∃ reached, StageProgress definition.definition after written replaced reached)) :
    LawfulRequests definitions (WorkflowState.setRequest { state with stages := after } written replaced) where
  requests := by
    intro requestId request found
    rw [WorkflowState.setRequest_requests] at found
    split at found
    · rename_i here
      subst here
      cases found
      exact lawfully
    · rename_i away
      obtain ⟨definition, pinned, company, abandoned | ⟨reached, progress⟩⟩ := lawful.requests found
      · exact ⟨definition, pinned, company, .inl (abandoned.frame (apart away))⟩
      · exact ⟨definition, pinned, company, .inr ⟨reached, progress.frame (apart away)⟩⟩
  stages := by
    intro stageId stage found
    by_cases here : stage.requestId = written
    · exact ⟨replaced, by simp [here]⟩
    · obtain ⟨request, owner⟩ := lawful.stages ((apart here stageId stage rfl).mpr found)
      exact ⟨request, by simpa [here] using owner⟩

theorem progress_of_pending (lawful : LawfulRequests definitions state) {stageId : UUID} {stage : StageState}
    (found : state.stages stageId = some stage) (owned : state.requests stage.requestId = some request) :
    ∃ definition, definitions request.definitionId = some definition ∧ definition.companyId = request.companyId ∧
      ∃ reached, StageProgress definition.definition state.stages stage.requestId request reached := by
  obtain ⟨definition, pinned, company, abandoned | progress⟩ := lawful.requests owned
  · exact absurd rfl (abandoned.stageless found)
  · exact ⟨definition, pinned, company, progress⟩

theorem moves (lawful : LawfulRequests definitions state) {refusable : Prop} {after : WorkflowState}
    (moves : Moves definitions refusable state after) : LawfulRequests definitions after := by
  have missing : ∀ {requestId stageId stage}, state.requests requestId = none → state.stages stageId = some stage →
      stage.requestId ≠ requestId := by
    intro requestId stageId stage absent found same
    obtain ⟨request, owner⟩ := lawful.stages found
    rw [same, absent] at owner
    cases owner
  cases moves with
  | stays => exact lawful
  | @creates requestId stageId companyId definitionId definition entry newRequest newStage pinned company listed first =>
      rw [← WorkflowState.setRequest_setStage_comm]
      apply lawful.set
      · intro other away
        refine SameStages.set away rfl ?_
        intro earlier found
        rw [newStage] at found
        cases found
      · exact ⟨definition, pinned, company, .inr ⟨1, .create listed first (missing newRequest)⟩⟩
  | @abandons requestId companyId definitionId definition refused newRequest pinned company =>
      apply lawful.set
      · intro other away stageId stage same
        rfl
      · exact ⟨definition, pinned, company, .inl ⟨rfl, rfl, rfl, rfl, missing newRequest⟩⟩
  | @advances stageId nextId decider stage request definition entry found pending owned newStage pinned listed next =>
      obtain ⟨held, kept, company, reached, progress⟩ := lawful.progress_of_pending found owned
      obtain rfl := Option.some.inj (pinned.symm.trans kept)
      have apart : nextId ≠ stageId := by
        intro same
        rw [same, found] at newStage
        cases newStage
      apply lawful.set
      · intro other away
        have closes := SameStages.decide away found
          (rfl : StageState.requestId { stage with status := .approved, decidedBy := some decider } = stage.requestId)
        refine closes.trans (SameStages.set away rfl ?_)
        intro earlier located
        simp [apart, newStage] at located
      · exact ⟨definition, pinned, company, .inr ⟨reached + 1, progress.advance found rfl pending newStage listed next⟩⟩
  | @completes stageId decider stage request definition found pending owned pinned last =>
      obtain ⟨held, kept, company, reached, progress⟩ := lawful.progress_of_pending found owned
      obtain rfl := Option.some.inj (pinned.symm.trans kept)
      have here := progress.order_of_pending found rfl pending
      apply lawful.set
      · intro other away
        exact SameStages.decide away found rfl
      · refine ⟨definition, pinned, company, .inr ⟨reached, progress.finish found rfl pending rfl ?_⟩⟩
        exact .completed rfl rfl (Nat.le_antisymm (here ▸ progress.within) last) rfl rfl rfl
  | @rejects stageId decider stage request found pending owned =>
      obtain ⟨held, pinned, company, reached, progress⟩ := lawful.progress_of_pending found owned
      apply lawful.set
      · intro other away
        exact SameStages.decide away found rfl
      · exact ⟨held, pinned, company, .inr ⟨reached, progress.finish found rfl pending rfl (.rejected rfl rfl rfl rfl rfl)⟩⟩

theorem withdraw (lawful : LawfulRequests definitions state) (found : state.requests requestId = some request) :
    LawfulRequests definitions (state.setRequest requestId { request with withdrawn := true }) := by
  apply lawful.set
  · intro other away stageId stage same
    rfl
  · obtain ⟨definition, pinned, company, abandoned | ⟨reached, progress⟩⟩ := lawful.requests found
    · exact ⟨definition, pinned, company,
        .inl ⟨rfl, abandoned.status, abandoned.current, abandoned.unfinished, abandoned.stageless⟩⟩
    · exact ⟨definition, pinned, company, .inr ⟨reached, progress.withdraw⟩⟩

/-- The law is about the documents of the versions that requests were created with, and nothing else of the
definitions. -/
theorem redefine (lawful : LawfulRequests definitions state) {renewed : UUID → Option WorkflowDefinition}
    (kept : ∀ {requestId request definition}, state.requests requestId = some request →
      definitions request.definitionId = some definition → ∃ later, renewed request.definitionId = some later ∧
        later.companyId = definition.companyId ∧ later.definition = definition.definition) :
    LawfulRequests renewed state where
  requests := by
    intro requestId request found
    obtain ⟨definition, pinned, company, law⟩ := lawful.requests found
    obtain ⟨later, present, owner, document⟩ := kept found pinned
    exact ⟨later, present, owner.trans company, document ▸ law⟩
  stages := lawful.stages

end LawfulRequests

end AutomationHub.Workflow
