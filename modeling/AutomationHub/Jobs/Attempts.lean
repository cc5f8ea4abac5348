import Mathlib.Data.List.DropRight
import AutomationHub.Jobs.Redelivery

/-!
The count of the attempts of a job, and the record of its failures.
-/

set_option autoImplicit false

namespace AutomationHub.Jobs

open Foundation Model Database Program Table

theorem lastEntries_eq {α : Type} (count : Nat) (entries : List α) :
    lastEntries count entries = (entries.reverse.take count).reverse :=
  List.rtake_eq_reverse_take_reverse entries count

theorem lastEntries_append {α : Type} (count : Nat) (entries added : List α) :
    lastEntries count (lastEntries count entries ++ added) = lastEntries count (entries ++ added) := by
  simp only [lastEntries_eq, List.reverse_append, List.reverse_reverse, List.take_append, List.take_take]
  rw [Nat.min_eq_left (Nat.sub_le _ _)]

section Counts

variable {ι : Type} [DecidableEq ι]

/-- No job that was given up is started. -/
def Undead (state : JobRun ι) (call : JobCall) (reply : Except JobFault call.Result) : Prop :=
  ∀ (row : JobRecord) (lockedBy : String), call = .markRunning row.id row.version lockedBy → (∃ result, reply = .ok result) →
    state.system.jobs.find? row.id = some row → row.status ≠ .deadLettered

def undead : Effect jobSignature (JobRun ι) ι := fun thread state call reply after =>
  processing thread state call reply after ∧ Undead state call reply

/-- The attempts of a job that may be attempted at all. -/
structure Tallied (row : JobRecord) : Prop where
  left : row.status ≠ .deadLettered → row.attempts < row.maxAttempts
  spent : row.status = .deadLettered → row.attempts = row.maxAttempts

/-- The attempts and the failures of every job are accounted for. -/
structure Accounted (state : JobRun ι) : Prop where
  tallied : ∀ row : JobRecord, state.system.jobs.find? row.id = some row → 1 ≤ row.maxAttempts → Tallied row
  recorded : ∀ row : JobRecord, state.system.jobs.find? row.id = some row →
    row.errorHistory = lastEntries maxErrorHistoryEntries (state.failures row.id)
  unused : ∀ id, state.system.jobs.next ≤ id → state.failures id = []

variable {thread : ι} {state after : JobRun ι} {call : JobCall} {reply : Except JobFault call.Result}

theorem tallied_change {phase : JobPhase} {now : Datetime} {row : JobRecord} {edit : Edit JobRecord}
    (positive : 1 ≤ row.maxAttempts) (tallied : Tallied row) (change : RowChange phase now row call edit)
    (alive : (∃ lockedBy, call = .markRunning row.id row.version lockedBy) → row.status ≠ .deadLettered) :
    Tallied ((stamped edit row.version).apply row) := by
  cases change with
  | started lockedBy fetched => exact ⟨fun _ => tallied.left (alive ⟨lockedBy, rfl⟩), fun dead => nomatch dead⟩
  | succeeded executed running =>
      exact ⟨fun _ => tallied.left (by simp [running]), fun dead => nomatch dead⟩
  | failed error nextAttempt settles alive left => exact ⟨fun _ => left, fun dead => nomatch dead⟩
  | deadLettered error settles alive spent => exact ⟨fun living => (living rfl).elim, fun _ => spent⟩
  | retried inspected dead => exact ⟨fun _ => positive, fun dead => nomatch dead⟩

theorem recorded_change {phase : JobPhase} {now : Datetime} {row : JobRecord} {edit : Edit JobRecord}
    {failures : UUID → List JobFailure} (change : RowChange phase now row call edit)
    (accepted : ∃ result, reply = .ok result)
    (recorded : row.errorHistory = lastEntries maxErrorHistoryEntries (failures row.id)) :
    ((stamped edit row.version).apply row).errorHistory =
      lastEntries maxErrorHistoryEntries (noteFailure now call reply failures row.id) := by
  obtain ⟨result, rfl⟩ := accepted
  cases change with
  | failed error nextAttempt settles alive left =>
      have noted : noteFailure now (.markFailedWillRetry row.id row.version (row.attempts + 1) error row.errorHistory
          nextAttempt) (.ok result) failures row.id =
          failures row.id ++ [{ attempt := row.attempts + 1, error, failedAt := now }] := Function.update_self ..
      rw [noted, ← lastEntries_append, ← recorded]
      rfl
  | deadLettered error settles alive spent =>
      have noted : noteFailure now (.markDeadLettered row.id row.version (row.attempts + 1) error row.errorHistory)
          (.ok result) failures row.id =
          failures row.id ++ [{ attempt := row.attempts + 1, error, failedAt := now }] := Function.update_self ..
      rw [noted, ← lastEntries_append, ← recorded]
      rfl
  | _ => exact recorded

theorem accounted_step (accounted : Accounted state) (advance : Advance thread state call reply after)
    (conforms : Undead state call reply) : Accounted after where
  tallied := by
    intro new stored positive
    rcases advance.move.row_cases stored with ⟨before, -⟩ | ⟨-, queued, blank, -⟩ | ⟨row, edit, named, found, change, accepted, written⟩
    · exact accounted.tallied new before positive
    · refine ⟨fun _ => by omega, fun dead => ?_⟩
      rw [queued] at dead
      cases dead
    · subst written
      have same : ((stamped edit row.version).apply row).maxAttempts = row.maxAttempts := by cases change <;> rfl
      rw [same] at positive
      refine tallied_change positive (accounted.tallied row found positive) change ?_
      rintro ⟨lockedBy, started⟩
      exact conforms row lockedBy started accepted found
  recorded := by
    intro new stored
    rw [advance.failures]
    rcases advance.move.row_cases stored with ⟨before, unnoted⟩ | ⟨next, -, -, blank, unnoted⟩ | ⟨row, edit, named, found, change, accepted, written⟩
    · rw [unnoted]
      exact accounted.recorded new before
    · rw [unnoted, accounted.unused new.id (Nat.le_of_eq next.symm), blank]
      rfl
    · rw [← named, written]
      exact recorded_change change accepted (accounted.recorded row found)
  unused := by
    intro id beyond
    rw [advance.failures]
    have before : state.system.jobs.next ≤ id := Nat.le_trans advance.move.evolves.next_le beyond
    have blank := accounted.unused id before
    cases advance.move with
    | kept _ unnoted => rw [unnoted, blank]
    | created _ _ _ _ _ _ unnoted => rw [unnoted, blank]
    | changed row edit found change _ _ =>
        have used : row.id < state.system.jobs.next :=
          state.system.jobs.fresh row ((find?_eq_some_iff ..).mp found).1
        rw [noteFailure_of_change change reply _ (Nat.ne_of_lt (Nat.lt_of_lt_of_le used before)), blank]

/-- As long as no dead-lettered job is started, the attempts of every job keep within its budget, and its history is
the last of the failures recorded. -/
theorem attempts_within_budget (processes : ι → JobProcess) (start : JobSystem)
    {last : Pool jobSignature JobFault (JobRun ι) ι} {events : List (Event jobSignature ι)}
    (run : Pool.Run undead (launchJobs processes { start with jobs := Table.empty }) events last) {row : JobRecord}
    (stored : row ∈ last.shared.system.jobs.rows) (positive : 1 ≤ row.maxAttempts) :
    row.attempts ≤ row.maxAttempts ∧
      (row.status = .queued ∨ row.status = .retrying ∨ row.status = .running → row.attempts < row.maxAttempts) ∧
      (row.status = .deadLettered → row.attempts = row.maxAttempts) ∧
      row.errorHistory = lastEntries 20 (last.shared.failures row.id) := by
  have empty : Accounted (launchJobs processes { start with jobs := Table.empty }).shared :=
    ⟨fun _ found => (nomatch found), fun _ found => (nomatch found), fun _ _ => rfl⟩
  have accounted := ((running_launch processes _).run run (fun _ _ _ _ _ effect => effect.1)
    (fun _ _ _ _ _ holds advance effect => accounted_step holds advance effect.2) empty).2
  have found := find?_of_mem _ stored
  have tallied := accounted.tallied row found positive
  refine ⟨?_, fun alive => tallied.left ?_, tallied.spent, accounted.recorded row found⟩
  · by_cases dead : row.status = .deadLettered
    · exact Nat.le_of_eq (tallied.spent dead)
    · exact Nat.le_of_lt (tallied.left dead)
  · rcases alive with alive | alive | alive <;> simp [alive]

end Counts

section Samples

/-- One attempt is allowed, and the entry of the job is still in its queue when the reaper gives the job up. -/
def singleCrew : Fin 3 → JobProcess
  | 0 => .producer 1 emailRequest
  | 1 => .reaper 600000000
  | 2 => .worker "worker" ["default"] 1

def singlePool : Pool jobSignature JobFault (JobRun (Fin 3)) (Fin 3) :=
  launchJobs singleCrew { emptySystem slowChance with jobs := Table.empty }

def undeadCheck (_ : Fin 3) (state : JobRun (Fin 3)) (call : JobCall) (_ : Except JobFault call.Result) : Bool :=
  match call with
  | .markRunning jobId .. => (state.system.jobs.find? jobId).all fun row => row.status != .deadLettered
  | _ => true

theorem undead_of_check (thread : Fin 3) (state : JobRun (Fin 3)) (call : JobCall) (reply : Except JobFault call.Result)
    (after : JobRun (Fin 3)) (passed : undeadCheck thread state call reply = true)
    (processed : processing thread state call reply after) : undead thread state call reply after := by
  refine ⟨processed, ?_⟩
  rintro row lockedBy rfl _ found
  have kept : ((state.system.jobs.find? row.id).all fun row => row.status != .deadLettered) = true := passed
  simpa [found] using kept

/-- The reaper gives the job up. -/
def givenUp : Pool jobSignature JobFault (JobRun (Fin 3)) (Fin 3) := playJobs singlePool (turns 0 2 ++ turns 1 4)

theorem attempts_within_budget_sample :
    ∃ row ∈ givenUp.shared.system.jobs.rows, row.status = .deadLettered ∧ row.attempts = row.maxAttempts ∧
      row.errorHistory = lastEntries 20 (givenUp.shared.failures row.id) := by
  have stored : givenUp.shared.system.jobs.rows.any
      (fun row => decide (1 ≤ row.maxAttempts) && row.status == .deadLettered) = true := by decide +kernel
  obtain ⟨row, member, selected⟩ := List.any_eq_true.mp stored
  obtain ⟨positive, dead⟩ := Bool.and_eq_true_iff.mp selected
  have run := playJobs_runs undeadCheck undead_of_check singlePool (turns 0 2 ++ turns 1 4) (by decide +kernel)
  have within := attempts_within_budget singleCrew (emptySystem slowChance) run member (by simpa using positive)
  have given : row.status = .deadLettered := by simpa using dead
  exact ⟨row, member, given, within.2.2.1 given, within.2.2.2⟩

/-- A worker starts the job that the reaper gave up: it runs with its attempts spent. -/
theorem spent_job_runs :
    ¬ ∀ (processes : Fin 3 → JobProcess) (start : JobSystem) (events : List (Event jobSignature (Fin 3)))
        (last : Pool jobSignature JobFault (JobRun (Fin 3)) (Fin 3)),
        Pool.Run processing (launchJobs processes { start with jobs := Table.empty }) events last →
        ∀ row ∈ last.shared.system.jobs.rows, 1 ≤ row.maxAttempts →
          row.attempts ≤ row.maxAttempts ∧
            (row.status = .queued ∨ row.status = .retrying ∨ row.status = .running → row.attempts < row.maxAttempts) ∧
            (row.status = .deadLettered → row.attempts = row.maxAttempts) ∧
            row.errorHistory = lastEntries 20 (last.shared.failures row.id) := by
  intro within
  have stored : (playJobs givenUp (turns 2 5)).shared.system.jobs.rows.any
      (fun row => (decide (1 ≤ row.maxAttempts) && row.status == .running) && row.attempts == row.maxAttempts) = true := by
    decide +kernel
  obtain ⟨row, member, selected⟩ := List.any_eq_true.mp stored
  obtain ⟨started, spent⟩ := Bool.and_eq_true_iff.mp selected
  obtain ⟨positive, running⟩ := Bool.and_eq_true_iff.mp started
  have first := playJobs_runs (fun _ _ _ _ => true) (fun _ _ _ _ _ _ processed => processed) singlePool
    (turns 0 2 ++ turns 1 4) (by decide +kernel)
  have then_ := playJobs_runs (fun _ _ _ _ => true) (fun _ _ _ _ _ _ processed => processed) givenUp (turns 2 5)
    (by decide +kernel)
  have left := (within singleCrew (emptySystem slowChance) _ _ (first.trans then_) row member (by simpa using positive)).2.1
    (.inr (.inr (by simpa using running)))
  simp only [beq_iff_eq] at spent
  omega

end Samples

end AutomationHub.Jobs
