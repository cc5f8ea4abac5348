import AutomationHub.Database.RepositoryProperties
import AutomationHub.Foundation.Retry

/-!
Writes over a transport that may lose the response of a call it delivered.

`_execute` retries every statement; between the attempts other callers may write
the table.
-/

set_option autoImplicit false

namespace AutomationHub.Database.Transport

open Foundation Model Table Versioned

/-- `_TRANSIENT_RETRY_POLICY.max_attempts`. -/
def transientRetryAttempts : ℕ := 3

section Model

variable {ρ : Type} [Versioned ρ]

/-- The table, and how many rows the call at hand has changed or created in it. -/
structure Server (ρ : Type) [Keyed ρ] where
  table : Table ρ
  written : ℕ

/-- What the other callers do to the table before each attempt, and the fate of the attempt. -/
structure Traffic (ρ : Type) [Versioned ρ] where
  others : ℕ → Table ρ → Table ρ
  evolves : ∀ number table, Evolves table (others number table)
  fate : ℕ → Fate

def Traffic.attempts (traffic : Traffic ρ) (number : ℕ) : Attempt (Server ρ) :=
  { others := fun server => { server with table := traffic.others number server.table }, fate := traffic.fate number }

/-- A write, with the rows it returns. -/
abbrev Statement (ρ : Type) [Keyed ρ] := Table ρ → Except DatabaseError (List ρ) × Table ρ

def affected : Except DatabaseError (List ρ) → ℕ
  | .ok rows => rows.length
  | .error _ => 0

def apply (statement : Statement ρ) (server : Server ρ) : Except DatabaseError (List ρ) × Server ρ :=
  ((statement server.table).1,
    { table := (statement server.table).2, written := server.written + affected (statement server.table).1 })

/-- `_execute`. -/
def execute (operation tableName : String) (traffic : Traffic ρ) (statement : Statement ρ) (server : Server ρ) :
    Except DatabaseError (List ρ) × Server ρ :=
  match retryCall (fun number => (traffic.attempts number).send (apply statement)) 0 transientRetryAttempts server with
  | (.ok rows, after) => (.ok rows, after)
  | (.error (some error), after) => (.error error, after)
  | (.error none, after) =>
      (.error (.repository ("Database operation '" ++ operation ++ "' failed on '" ++ tableName ++ "'.")), after)

/-- `UPDATE ... WHERE id = id AND version = expectedVersion RETURNING *`. -/
def updateMatching (tableName : String) (id expectedVersion : Nat) (edit : Edit ρ)
    (violated : Table ρ → ρ → Option String) : Statement ρ := fun table =>
  match table.updateIfVersion id expectedVersion edit with
  | none => (.ok [], table)
  | some (written, updated) =>
      match violated table written with
      | some constraint => (.error (.constraintViolation tableName (some constraint)), table)
      | none => (.ok [written], updated)

/-- `INSERT ... RETURNING *`. -/
def insertValues (tableName : String) (draft : Draft ρ) (violated : Table ρ → ρ → Option String) : Statement ρ :=
  fun table =>
    match violated table (draft.build table.next) with
    | some constraint => (.error (.constraintViolation tableName (some constraint)), table)
    | none => (.ok [draft.build table.next], table.insert draft)

def updateWithOptimisticLock (tableName : String) (traffic : Traffic ρ) (table : Table ρ) (id expectedVersion : Nat)
    (edit : Edit ρ) (violated : Table ρ → ρ → Option String) : Except DatabaseError ρ × Server ρ :=
  match execute "update_with_optimistic_lock" tableName traffic
      (updateMatching tableName id expectedVersion edit violated) ⟨table, 0⟩ with
  | (.ok [], after) => (.error (.concurrentUpdate tableName id expectedVersion), after)
  | (.ok (row :: _), after) => (.ok row, after)
  | (.error error, after) => (.error error, after)

/-- `identifier` names the row in the error of an insert that returns none. -/
def insert (tableName : String) (traffic : Traffic ρ) (table : Table ρ) (identifier : UUID) (draft : Draft ρ)
    (violated : Table ρ → ρ → Option String) : Except DatabaseError ρ × Server ρ :=
  match execute "insert" tableName traffic (insertValues tableName draft violated) ⟨table, 0⟩ with
  | (.ok [], after) => (.error (.recordNotFound tableName identifier), after)
  | (.ok (row :: _), after) => (.ok row, after)
  | (.error error, after) => (.error error, after)

/-- The update finds its row at the expected version, and no constraint forbids the row it writes. -/
def Updatable (id expectedVersion : Nat) (edit : Edit ρ) (violated : Table ρ → ρ → Option String)
    (table : Table ρ) : Prop :=
  ∃ row, table.find? id = some row ∧ version row = expectedVersion ∧
    violated table ((stamped edit expectedVersion).apply row) = none

def Insertable (draft : Draft ρ) (violated : Table ρ → ρ → Option String) (table : Table ρ) : Prop :=
  violated table (draft.build table.next) = none

/-- The table after what the others do before the attempts from `first` on, `count` of them. -/
def Traffic.drift (traffic : Traffic ρ) (first : ℕ) : ℕ → Table ρ → Table ρ
  | 0, table => table
  | count + 1, table => traffic.others (first + count) (traffic.drift first count table)

/-- The attempt is the first one that reaches the server at a time when the statement is accepted. -/
structure FirstEffect (traffic : Traffic ρ) (start : Table ρ) (accepts : Table ρ → Prop) (number : ℕ) : Prop where
  reached : traffic.fate number ≠ .unreachable
  accepted : accepts (traffic.drift 0 (number + 1) start)
  first : ∀ earlier < number, traffic.fate earlier ≠ .unreachable → ¬accepts (traffic.drift 0 (earlier + 1) start)

/-- An update takes effect, its response is lost, and a later attempt of the same call is answered. -/
def UpdateRetried (traffic : Traffic ρ) (start : Table ρ) (accepts : Table ρ → Prop) : Prop :=
  ∃ first last, FirstEffect traffic start accepts first ∧ first < last ∧ last < transientRetryAttempts ∧
    Unanswered traffic.attempts last ∧ traffic.fate last = .delivered

/-- An insert takes effect, its response is lost, and a later attempt of the same call reaches the server, which
accepts the row again. -/
def InsertRetried (traffic : Traffic ρ) (start : Table ρ) (draft : Draft ρ) (accepts : Table ρ → Prop) : Prop :=
  ∃ first gap, FirstEffect traffic start accepts first ∧ first + 1 + gap < transientRetryAttempts ∧
    Unanswered traffic.attempts (first + 1 + gap) ∧ traffic.fate (first + 1 + gap) ≠ .unreachable ∧
    accepts (traffic.drift (first + 1) (gap + 1) ((traffic.drift 0 (first + 1) start).insert draft))

end Model

section Writes

variable {ρ : Type} [Versioned ρ] {tableName : String} {traffic : Traffic ρ} {start : Table ρ} {id expectedVersion : Nat}
  {edit : Edit ρ} {draft : Draft ρ} {violated : Table ρ → ρ → Option String} {statement : Statement ρ}
  {accepts : Table ρ → Prop}

/-- The statement changes one row exactly when it is accepted, and otherwise leaves the table alone. -/
structure Effects (statement : Statement ρ) (accepts : Table ρ → Prop) : Prop where
  accepted : ∀ table, accepts table → affected (statement table).1 = 1
  refused : ∀ table, ¬accepts table → affected (statement table).1 = 0 ∧ (statement table).2 = table

theorem updateMatching_of_updatable (tableName : String) {table : Table ρ} (updatable : Updatable id expectedVersion edit violated table) :
    ∃ row, table.find? id = some row ∧ updateMatching tableName id expectedVersion edit violated table =
      (.ok [(stamped edit expectedVersion).apply row], table.modify id (stamped edit expectedVersion)) := by
  obtain ⟨row, found, current, valid⟩ := updatable
  refine ⟨row, found, ?_⟩
  have attempted := (updateIfVersion_eq_some_iff table id expectedVersion edit _ _).mpr ⟨row, found, current, rfl, rfl⟩
  simp [updateMatching, attempted, valid]

theorem effects_updateMatching (tableName : String) (id expectedVersion : Nat) (edit : Edit ρ)
    (violated : Table ρ → ρ → Option String) :
    Effects (updateMatching tableName id expectedVersion edit violated)
      (Updatable id expectedVersion edit violated) where
  accepted := by
    intro table updatable
    obtain ⟨row, -, written⟩ := updateMatching_of_updatable tableName updatable
    rw [written]
    rfl
  refused := by
    intro table refused
    unfold updateMatching
    cases attempted : table.updateIfVersion id expectedVersion edit with
    | none => exact ⟨rfl, rfl⟩
    | some outcome =>
        obtain ⟨row, found, current, isWritten, -⟩ := (updateIfVersion_eq_some_iff ..).mp attempted
        cases valid : violated table outcome.1 with
        | none => exact absurd ⟨row, found, current, isWritten ▸ valid⟩ refused
        | some constraint => simp [valid, affected]

theorem effects_insertValues (tableName : String) (draft : Draft ρ) (violated : Table ρ → ρ → Option String) :
    Effects (insertValues tableName draft violated) (Insertable draft violated) where
  accepted := by
    intro table insertable
    have valid : violated table (draft.build table.next) = none := insertable
    simp [insertValues, valid, affected]
  refused := by
    intro table refused
    unfold insertValues
    cases valid : violated table (draft.build table.next) with
    | none => exact absurd valid refused
    | some constraint => simp [affected]

theorem leaveAll_of_vain (effects : Effects statement accepts) {server : Server ρ} {first count : ℕ} {before : Server ρ}
    (reached : leaveAll traffic.attempts (apply statement) first server = before)
    (vain : ∀ number < count, traffic.fate (first + number) ≠ .unreachable →
      ¬accepts (traffic.drift first (number + 1) before.table)) :
    leaveAll traffic.attempts (apply statement) (first + count) server =
      ⟨traffic.drift first count before.table, before.written⟩ := by
  induction count with
  | zero => exact reached
  | succ count recurse =>
      have earlier := recurse fun number below => vain number (Nat.lt_succ_of_lt below)
      rw [← Nat.add_assoc, leaveAll_succ, earlier]
      by_cases silent : traffic.fate (first + count) = .unreachable
      · rw [Attempt.leave_of_unreachable silent]
        rfl
      · obtain ⟨nothing, unchanged⟩ := effects.refused _ (vain count (Nat.lt_succ_self count) silent)
        rw [Attempt.leave_of_reached silent]
        exact congrArg₂ Server.mk unchanged (congrArg (before.written + ·) nothing)

theorem leaveAll_before_first (effects : Effects statement accepts) {number : ℕ}
    (first : ∀ earlier < number, traffic.fate earlier ≠ .unreachable → ¬accepts (traffic.drift 0 (earlier + 1) start)) :
    leaveAll traffic.attempts (apply statement) number ⟨start, 0⟩ = ⟨traffic.drift 0 number start, 0⟩ := by
  have vain : ∀ earlier < number, traffic.fate (0 + earlier) ≠ .unreachable →
      ¬accepts (traffic.drift 0 (earlier + 1) start) := by
    intro earlier below reached
    rw [Nat.zero_add] at reached
    exact first earlier below reached
  have left := leaveAll_of_vain effects (rfl : leaveAll traffic.attempts (apply statement) 0 ⟨start, 0⟩ = _) vain
  rwa [Nat.zero_add] at left

theorem leaveAll_of_first (effects : Effects statement accepts) {number : ℕ}
    (first : FirstEffect traffic start accepts number) :
    leaveAll traffic.attempts (apply statement) (number + 1) ⟨start, 0⟩ =
      ⟨(statement (traffic.drift 0 (number + 1) start)).2, 1⟩ := by
  rw [leaveAll_succ, leaveAll_before_first effects first.first, Attempt.leave_of_reached first.reached]
  have accepted := first.accepted
  rw [Traffic.drift, Nat.zero_add] at accepted ⊢
  have one := effects.accepted _ accepted
  exact congrArg (Server.mk _) ((Nat.zero_add _).trans one)

theorem written_le_succ (traffic : Traffic ρ) (statement : Statement ρ) (number : ℕ) (server : Server ρ) :
    (leaveAll traffic.attempts (apply statement) number server).written ≤
      (leaveAll traffic.attempts (apply statement) (number + 1) server).written := by
  rw [leaveAll_succ]
  by_cases silent : (traffic.attempts number).fate = .unreachable
  · rw [Attempt.leave_of_unreachable silent]
    exact le_refl _
  · rw [Attempt.leave_of_reached silent]
    exact Nat.le_add_right _ _

theorem written_mono (traffic : Traffic ρ) (statement : Statement ρ) {early late : ℕ} (ordered : early ≤ late) (server : Server ρ) :
    (leaveAll traffic.attempts (apply statement) early server).written ≤
      (leaveAll traffic.attempts (apply statement) late server).written :=
  monotone_nat_of_le_succ (fun number => written_le_succ traffic statement number server) ordered

theorem exists_firstEffect (effects : Effects statement accepts) {count : ℕ}
    (wrote : (leaveAll traffic.attempts (apply statement) count ⟨start, 0⟩).written ≠ 0) :
    ∃ number < count, FirstEffect traffic start accepts number := by
  classical
  by_contra none
  have vain : ∀ number, number < count → traffic.fate number ≠ .unreachable →
      ¬accepts (traffic.drift 0 (number + 1) start) := by
    intro number
    induction number using Nat.strong_induction_on with
    | _ number recurse =>
        intro below reached accepted
        exact none ⟨number, below, reached, accepted, fun earlier less => recurse earlier less (less.trans below)⟩
  rw [leaveAll_before_first effects vain] at wrote
  exact wrote rfl

theorem evolves_updateMatching (table : Table ρ) :
    Evolves table (updateMatching tableName id expectedVersion edit violated table).2 := by
  by_cases updatable : Updatable id expectedVersion edit violated table
  · obtain ⟨row, found, written⟩ := updateMatching_of_updatable tableName updatable
    obtain ⟨other, located, current, -⟩ := updatable
    rw [written]
    exact evolves_update ((updateIfVersion_eq_some_iff ..).mpr ⟨other, located, current, rfl, rfl⟩)
  · rw [((effects_updateMatching tableName id expectedVersion edit violated).refused table updatable).2]
    exact .refl table

theorem evolves_leaveAll (each : ∀ table, Evolves table (statement table).2) {early late : ℕ} (ordered : early ≤ late)
    (server : Server ρ) :
    Evolves (leaveAll traffic.attempts (apply statement) early server).table
      (leaveAll traffic.attempts (apply statement) late server).table := by
  induction ordered with
  | refl => exact .refl _
  | @step late _ recurse =>
      have others := traffic.evolves late (leaveAll traffic.attempts (apply statement) late server).table
      rw [leaveAll_succ]
      by_cases silent : (traffic.attempts late).fate = .unreachable
      · rw [Attempt.leave_of_unreachable silent]
        exact recurse.trans others
      · rw [Attempt.leave_of_reached silent]
        exact (recurse.trans others).trans (each _)

/-- Once an update has written its row, no later attempt of it finds the row at the version expected. -/
theorem unmatched_after_first {number late : ℕ}
    (first : FirstEffect traffic start (Updatable id expectedVersion edit violated) number) (later : number < late) :
    (traffic.others late (leaveAll traffic.attempts
      (apply (updateMatching tableName id expectedVersion edit violated)) late ⟨start, 0⟩).table).updateIfVersion id
        expectedVersion edit = none := by
  have effects := effects_updateMatching tableName id expectedVersion edit violated
  rw [Option.eq_none_iff_forall_not_mem]
  intro outcome matched
  obtain ⟨row, found, current, -⟩ := (updateIfVersion_eq_some_iff _ _ _ _ outcome.1 outcome.2).mp matched
  obtain ⟨old, located, written⟩ := updateMatching_of_updatable tableName first.accepted
  obtain ⟨present, keyed⟩ := (find?_eq_some_iff ..).mp located
  have recorded : Seen (leaveAll traffic.attempts
      (apply (updateMatching tableName id expectedVersion edit violated)) (number + 1) ⟨start, 0⟩).table
      ((stamped edit expectedVersion).apply old) := by
    rw [leaveAll_of_first effects first, written]
    exact seen_of_mem ((mem_modify ..).mpr (.inr ⟨old, present, keyed, rfl⟩))
  have seen := (recorded.evolves (evolves_leaveAll evolves_updateMatching later ⟨start, 0⟩)).evolves
    (traffic.evolves late _)
  obtain ⟨member, sameId⟩ := (find?_eq_some_iff ..).mp found
  have newer := (seen.later row member (by simp [sameId, keyed])).1
  rw [current] at newer
  exact absurd newer (by simp [stamped])

/-- The reply of a retried statement is the reply to the first attempt that is answered. -/
theorem execute_reply (operation tableName : String) (traffic : Traffic ρ) (statement : Statement ρ)
    (server : Server ρ) :
    (∃ number < transientRetryAttempts, Unanswered traffic.attempts number ∧ traffic.fate number = .delivered ∧
      (execute operation tableName traffic statement server).1 = (statement (traffic.others number
        (leaveAll traffic.attempts (apply statement) number server).table)).1) ∨
      Unanswered traffic.attempts transientRetryAttempts ∧
        ∃ message, (execute operation tableName traffic statement server).1 = .error (.repository message) := by
  have answered := retryCall_cases traffic.attempts (apply statement) transientRetryAttempts server
  unfold execute
  cases outcome : retryCall (fun number => (traffic.attempts number).send (apply statement)) 0 transientRetryAttempts
    server with
  | mk reply after =>
      rw [outcome] at answered
      generalize same : (reply, after) = pair at answered
      cases answered with
      | answer number allowed earlier delivered =>
          refine .inl ⟨number, allowed, earlier, delivered, ?_⟩
          obtain ⟨replied, -⟩ := Prod.mk.inj same
          show _ = (apply statement ((traffic.attempts number).others _)).1
          subst replied
          cases (apply statement ((traffic.attempts number).others
            (leaveAll traffic.attempts (apply statement) number server))).1 <;> rfl
      | exhausted all =>
          obtain ⟨replied, -⟩ := Prod.mk.inj same
          subst replied
          exact .inr ⟨all, _, rfl⟩

/-- A retried statement leaves what the attempts made leave, and each attempt is made until one is answered. -/
theorem execute_leaves (operation tableName : String) (traffic : Traffic ρ) (statement : Statement ρ)
    (server : Server ρ) :
    ∃ made ≤ transientRetryAttempts,
      (execute operation tableName traffic statement server).2 =
        leaveAll traffic.attempts (apply statement) made server ∧
      Unanswered traffic.attempts (made - 1) ∧
      ∀ number < transientRetryAttempts, Unanswered traffic.attempts number → number < made := by
  obtain ⟨made, allowed, left, silent, each⟩ := (retryCall_cases traffic.attempts (apply statement)
    transientRetryAttempts server).leaves
  refine ⟨made, allowed, ?_, silent, each⟩
  rw [← left]
  unfold execute
  rcases retryCall (fun number => (traffic.attempts number).send (apply statement)) 0 transientRetryAttempts server with
    ⟨(_ | error) | rows, after⟩ <;> rfl

theorem updateMatching_error {table : Table ρ} {error : DatabaseError}
    (refused : (updateMatching tableName id expectedVersion edit violated table).1 = .error error) :
    ∃ constraint, error = .constraintViolation tableName constraint := by
  unfold updateMatching at refused
  split at refused
  · cases refused
  · split at refused
    · exact ⟨_, (Except.error.inj refused).symm⟩
    · cases refused

theorem answered_unique {first second : ℕ} (left : Unanswered traffic.attempts first)
    (leftDelivered : traffic.fate first = .delivered) (right : Unanswered traffic.attempts second)
    (rightDelivered : traffic.fate second = .delivered) : first = second := by
  rcases Nat.lt_trichotomy first second with less | same | more
  · exact absurd leftDelivered (right first less)
  · exact same
  · exact absurd rightDelivered (left second more)

theorem updateMatching_nothing_iff {table : Table ρ} :
    (updateMatching tableName id expectedVersion edit violated table).1 = .ok [] ↔
      table.updateIfVersion id expectedVersion edit = none := by
  unfold updateMatching
  cases table.updateIfVersion id expectedVersion edit with
  | none => simp
  | some outcome => cases refused : violated table outcome.1 <;> simp [refused]

theorem concurrentUpdate_iff :
    (updateWithOptimisticLock tableName traffic start id expectedVersion edit violated).1 =
        .error (.concurrentUpdate tableName id expectedVersion) ↔
      ∃ number < transientRetryAttempts, Unanswered traffic.attempts number ∧ traffic.fate number = .delivered ∧
        (updateMatching tableName id expectedVersion edit violated (traffic.others number
          (leaveAll traffic.attempts (apply (updateMatching tableName id expectedVersion edit violated)) number
            ⟨start, 0⟩).table)).1 = .ok [] := by
  have reply := execute_reply "update_with_optimistic_lock" tableName traffic
    (updateMatching tableName id expectedVersion edit violated) ⟨start, 0⟩
  unfold updateWithOptimisticLock
  cases outcome : execute "update_with_optimistic_lock" tableName traffic
    (updateMatching tableName id expectedVersion edit violated) ⟨start, 0⟩ with
  | mk answer after =>
      rw [outcome] at reply
      rcases reply with ⟨number, allowed, silent, delivered, same⟩ | ⟨silent, message, rfl⟩
      · have unique : ∀ other, Unanswered traffic.attempts other → traffic.fate other = .delivered → other = number :=
          fun other otherSilent otherDelivered => answered_unique otherSilent otherDelivered silent delivered
        cases answer with
        | error error =>
            obtain ⟨constraint, rfl⟩ := updateMatching_error same.symm
            constructor
            · intro raised
              cases raised
            · intro ⟨other, _, otherSilent, otherDelivered, nothing⟩
              rw [unique other otherSilent otherDelivered] at nothing
              cases same.trans nothing
        | ok rows =>
            cases rows with
            | nil => exact ⟨fun _ => ⟨number, allowed, silent, delivered, same.symm⟩, fun _ => rfl⟩
            | cons row rest =>
                constructor
                · intro raised
                  cases raised
                · intro ⟨other, _, otherSilent, otherDelivered, nothing⟩
                  rw [unique other otherSilent otherDelivered] at nothing
                  cases same.trans nothing
      · constructor
        · intro raised
          cases raised
        · intro ⟨other, allowed, _, delivered, _⟩
          exact absurd delivered (silent other allowed)

theorem written_updateWithOptimisticLock :
    (updateWithOptimisticLock tableName traffic start id expectedVersion edit violated).2 =
      (execute "update_with_optimistic_lock" tableName traffic
        (updateMatching tableName id expectedVersion edit violated) ⟨start, 0⟩).2 := by
  unfold updateWithOptimisticLock
  split <;> rename_i same <;> rw [same]

theorem written_insert {identifier : UUID} :
    (insert tableName traffic start identifier draft violated).2 =
      (execute "insert" tableName traffic (insertValues tableName draft violated) ⟨start, 0⟩).2 := by
  unfold insert
  split <;> rename_i same <;> rw [same]

/-- A conflict is reported by a call that wrote its row itself, exactly when the response to the write was lost and a
retry was answered. -/
theorem conflict_after_write_iff :
    ((updateWithOptimisticLock tableName traffic start id expectedVersion edit violated).1 =
          .error (.concurrentUpdate tableName id expectedVersion) ∧
        (updateWithOptimisticLock tableName traffic start id expectedVersion edit violated).2.written ≠ 0) ↔
      UpdateRetried traffic start (Updatable id expectedVersion edit violated) := by
  have effects := effects_updateMatching tableName id expectedVersion edit violated
  obtain ⟨made, -, left, silentBefore, each⟩ := execute_leaves "update_with_optimistic_lock" tableName traffic
    (updateMatching tableName id expectedVersion edit violated) ⟨start, 0⟩
  rw [concurrentUpdate_iff, written_updateWithOptimisticLock, left]
  constructor
  · intro ⟨⟨last, allowed, silent, delivered, nothing⟩, wrote⟩
    have atLast : made = last + 1 := by
      have reached := each last allowed silent
      by_contra other
      exact silentBefore last (by omega) delivered
    obtain ⟨first, below, effect⟩ := exists_firstEffect effects wrote
    refine ⟨first, last, effect, ?_, allowed, silent, delivered⟩
    rcases Nat.lt_succ_iff_lt_or_eq.mp (atLast ▸ below) with less | rfl
    · exact less
    · exfalso
      have accepted := effects.accepted _ effect.accepted
      rw [leaveAll_before_first effects effect.first] at nothing
      rw [Traffic.drift, Nat.zero_add, nothing] at accepted
      cases accepted
  · intro ⟨first, last, effect, ordered, allowed, silent, delivered⟩
    constructor
    · refine ⟨last, allowed, silent, delivered, ?_⟩
      rw [updateMatching_nothing_iff]
      exact unmatched_after_first effect ordered
    · have reached := written_mono traffic (updateMatching tableName id expectedVersion edit violated)
        (Nat.succ_le_of_lt (ordered.trans (each last allowed silent))) ⟨start, 0⟩
      rw [leaveAll_of_first effects effect] at reached
      exact Nat.one_le_iff_ne_zero.mp reached

/-- A statement that took effect once, and is accepted again on a later attempt, takes effect again. -/
theorem twice_of_accepted_again (effects : Effects statement accepts) {number gap made : ℕ} {base : Table ρ}
    (once : leaveAll traffic.attempts (apply statement) number ⟨start, 0⟩ = ⟨base, 1⟩)
    (reached : traffic.fate (number + gap) ≠ .unreachable) (accepted : accepts (traffic.drift number (gap + 1) base))
    (attempted : number + gap < made) :
    1 < (leaveAll traffic.attempts (apply statement) made ⟨start, 0⟩).written := by
  induction gap using Nat.strong_induction_on with
  | _ gap recurse =>
      by_cases vain : ∀ between < gap, traffic.fate (number + between) ≠ .unreachable →
          ¬accepts (traffic.drift number (between + 1) base)
      · have after := leaveAll_succ traffic.attempts (apply statement) (number + gap) ⟨start, 0⟩
        rw [leaveAll_of_vain effects once vain, Attempt.leave_of_reached reached] at after
        have affectedOne := effects.accepted _ accepted
        have later := written_mono traffic statement (Nat.succ_le_of_lt attempted) ⟨start, 0⟩
        rw [Nat.succ_eq_add_one, after] at later
        exact Nat.lt_of_lt_of_le (Nat.lt_of_lt_of_eq Nat.one_lt_two (congrArg (1 + ·) affectedOne).symm) later
      · push Not at vain
        obtain ⟨between, less, reachedBefore, acceptedBefore⟩ := vain
        exact recurse between less reachedBefore acceptedBefore (by omega)

/-- One insert call leaves more than one row, exactly when the response to its insert was lost and a retry reached a
server that accepted the row again. -/
theorem written_twice_iff {identifier : UUID} :
    1 < (insert tableName traffic start identifier draft violated).2.written ↔
      InsertRetried traffic start draft (Insertable draft violated) := by
  have effects := effects_insertValues tableName draft violated
  obtain ⟨made, allowed, left, silentBefore, each⟩ := execute_leaves "insert" tableName traffic
    (insertValues tableName draft violated) ⟨start, 0⟩
  rw [written_insert, left]
  have afterFirst : ∀ {first : ℕ}, FirstEffect traffic start (Insertable draft violated) first →
      leaveAll traffic.attempts (apply (insertValues tableName draft violated)) (first + 1) ⟨start, 0⟩ =
        ⟨(traffic.drift 0 (first + 1) start).insert draft, 1⟩ := by
    intro first effect
    have valid : violated (traffic.drift 0 (first + 1) start) (draft.build (traffic.drift 0 (first + 1) start).next) =
      none := effect.accepted
    rw [leaveAll_of_first effects effect]
    simp [insertValues, valid]
  constructor
  · intro twice
    obtain ⟨first, below, effect⟩ := exists_firstEffect effects (Nat.ne_of_gt (Nat.lt_of_succ_lt twice))
    by_contra never
    have vain : ∀ gap < made - (first + 1), traffic.fate (first + 1 + gap) ≠ .unreachable →
        ¬Insertable draft violated
          (traffic.drift (first + 1) (gap + 1) ((traffic.drift 0 (first + 1) start).insert draft)) := by
      intro gap within reached accepted
      refine never ⟨first, gap, effect, by omega, ?_, reached, accepted⟩
      exact fun number less => silentBefore number (by omega)
    have once := leaveAll_of_vain effects (afterFirst effect) vain
    rw [Nat.add_sub_cancel' below] at once
    rw [once] at twice
    exact absurd twice (lt_irrefl 1)
  · intro ⟨first, gap, effect, within, silent, reached, accepted⟩
    exact twice_of_accepted_again effects (afterFirst effect) reached accepted (each _ within silent)

/-- An update that reports a conflict has not written its row, and an insert leaves at most one row, exactly as long as
no write whose response was lost is answered on a retry, or accepted once more. -/
theorem retried_writes_iff (tableName : String) (traffic : Traffic ρ) (start : Table ρ) (id expectedVersion : Nat)
    (edit : Edit ρ) (violated : Table ρ → ρ → Option String) (identifier : UUID) (draft : Draft ρ) :
    (((updateWithOptimisticLock tableName traffic start id expectedVersion edit violated).1 =
            .error (.concurrentUpdate tableName id expectedVersion) →
          (updateWithOptimisticLock tableName traffic start id expectedVersion edit violated).2.written = 0) ↔
        ¬UpdateRetried traffic start (Updatable id expectedVersion edit violated)) ∧
      ((insert tableName traffic start identifier draft violated).2.written ≤ 1 ↔
        ¬InsertRetried traffic start draft (Insertable draft violated)) := by
  constructor
  · exact not_and_not_right.symm.trans (not_congr conflict_after_write_iff)
  · exact not_lt.symm.trans (not_congr written_twice_iff)

/-- With the first attempt answered and nobody else writing, the update is the one of the repositories. -/
theorem updateWithOptimisticLock_of_answered (answered : traffic.fate 0 = .delivered)
    (alone : traffic.others 0 start = start) :
    ((updateWithOptimisticLock tableName traffic start id expectedVersion edit violated).1,
        (updateWithOptimisticLock tableName traffic start id expectedVersion edit violated).2.table) =
      Database.updateWithOptimisticLock tableName start id expectedVersion edit (violated start) := by
  have sent : ((traffic.attempts 0).send (apply (updateMatching tableName id expectedVersion edit violated)))
      ⟨start, 0⟩ =
      ((updateMatching tableName id expectedVersion edit violated start).1.mapError .permanent,
        (apply (updateMatching tableName id expectedVersion edit violated) ⟨start, 0⟩).2) := by
    unfold Attempt.send
    have fate : (traffic.attempts 0).fate = .delivered := answered
    have others : (traffic.attempts 0).others ⟨start, 0⟩ = ⟨start, 0⟩ := congrArg (Server.mk · 0) alone
    rw [fate, others]
    rfl
  unfold updateWithOptimisticLock execute transientRetryAttempts retryCall
  rw [sent]
  unfold Database.updateWithOptimisticLock
  cases attempted : start.updateIfVersion id expectedVersion edit with
  | none =>
      have matched : updateMatching tableName id expectedVersion edit violated start = (.ok [], start) := by
        simp [updateMatching, attempted]
      simp [apply, matched, Except.mapError]
  | some outcome =>
      cases refused : violated start outcome.1 with
      | none =>
          have matched : updateMatching tableName id expectedVersion edit violated start =
              (.ok [outcome.1], outcome.2) := by
            simp [updateMatching, attempted, refused]
          simp [apply, matched, refused, Except.mapError]
      | some constraint =>
          have matched : updateMatching tableName id expectedVersion edit violated start =
              (.error (.constraintViolation tableName (some constraint)), start) := by
            simp [updateMatching, attempted, refused]
          simp [apply, matched, refused, Except.mapError]

end Writes

section Sample

/-- The response to the first attempt is lost, the next one arrives, and nobody else writes. -/
def lossyTraffic : Traffic RequestRecord where
  others := fun _ table => table
  evolves := fun _ table => .refl table
  fate := fun number => if number = 0 then .responseLost else .delivered

def lossyRequest : Draft RequestRecord where
  build := fun id =>
    { id, requesterId := 1, workflowDefinitionId := 1, requestType := "expense", title := "Laptop",
      description := none, department := none, status := .pending, currentStageId := none, version := 1,
      deletedAt := none, deletedBy := none, createdAt := 0, updatedAt := 0, completedAt := none, companyId := 9 }
  key_build := fun _ => rfl

def lossyCompletion : Edit RequestRecord where
  apply := fun request => { request with status := .completed }
  key_apply := fun _ => rfl

/-- An update of a request whose response is lost reports a conflict with itself; an insert leaves two requests. -/
theorem lost_responses_conflict_and_duplicate :
    ((updateWithOptimisticLock "requests" lossyTraffic (Table.empty.insert lossyRequest) 1 1 lossyCompletion
          fun _ _ => none).1 = .error (.concurrentUpdate "requests" 1 1) ∧
        (updateWithOptimisticLock "requests" lossyTraffic (Table.empty.insert lossyRequest) 1 1 lossyCompletion
          fun _ _ => none).2.written = 1) ∧
      (insert "requests" lossyTraffic .empty 0 lossyRequest fun _ _ => none).2.written = 2 :=
  ⟨⟨rfl, rfl⟩, rfl⟩

end Sample

end AutomationHub.Database.Transport
