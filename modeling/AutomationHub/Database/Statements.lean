import AutomationHub.Database.Policies

/-!
Statements that a caller sends to the tables with the caller's own token.

The policies are evaluated on the rows as they were when the statement began.
-/

set_option autoImplicit false

namespace AutomationHub.Database

open Foundation Model Table

/-- An `update`; one that filters by a column or returns rows reads them too. -/
structure RowUpdate (ρ : Type) where
  selects : ρ → Bool
  assign : ρ → ρ
  reads : Bool

/-- Statements on the tables that the policies look into; those on other tables leave these as they are. -/
inductive Statement where
  | elsewhere
  | select
  | insertProfile (row : ProfileRecord)
  | insertRequest (row : RequestRecord) (returns : Bool)
  | insertStage (row : WorkflowStageRecord)
  | updateProfiles (update : RowUpdate ProfileRecord)
  | updateRequests (update : RowUpdate RequestRecord)
  | updateStages (update : RowUpdate WorkflowStageRecord)

section Updates

variable {ρ : Type}

def RowUpdate.affects (visible admits : ρ → Bool) (update : RowUpdate ρ) (row : ρ) : Bool :=
  update.selects row && admits row && (!update.reads || visible row)

theorem RowUpdate.admits_of_affects {visible admits : ρ → Bool} {update : RowUpdate ρ} {row : ρ}
    (affected : update.affects visible admits row = true) : admits row = true := by
  simp only [affects, Bool.and_eq_true] at affected
  exact affected.1.2

variable [Keyed ρ]

/-- The rows that the policies let the update reach are assigned to, if the policies admit what they become. -/
def updateUnder (visible admits : ρ → Bool) (table : Table ρ) (update : RowUpdate ρ) : Option (Table ρ) :=
  if table.rows.all fun row => !update.affects visible admits row ||
      (admits (update.assign row) && (!update.reads || visible (update.assign row))) then
    table.rewrite? fun row => if update.affects visible admits row then update.assign row else row
  else none

/-- A row is left as it was, or reached by the update and admitted by the policy after it. -/
theorem updateUnder_rows {visible admits : ρ → Bool} {table changed : Table ρ} {update : RowUpdate ρ}
    (updated : updateUnder visible admits table update = some changed) :
    ∃ change : ρ → ρ, changed.rows = table.rows.map change ∧ ∀ row ∈ table.rows, change row = row ∨
      change row = update.assign row ∧ update.affects visible admits row = true ∧
        admits (update.assign row) = true := by
  unfold updateUnder at updated
  split at updated
  · rename_i accepted
    refine ⟨_, rewrite?_rows updated, ?_⟩
    intro row member
    cases affected : update.affects visible admits row with
    | false => exact .inl rfl
    | true =>
        have passes := List.all_eq_true.mp accepted row member
        simp only [affected, Bool.not_true, Bool.false_or, Bool.and_eq_true] at passes
        exact .inr ⟨rfl, rfl, passes.1⟩
  · cases updated

end Updates

namespace TenantTables

/-- The tables after a statement that the grants and the policies allow. -/
def execute (caller : UUID) (tables : TenantTables) : Statement → Option TenantTables
  | .elsewhere | .select => some tables
  | .insertProfile _ | .insertStage _ => none
  | .insertRequest row returns =>
      if tables.requestsInsertOwn caller row && (!returns || tables.requestsSelect caller row) &&
          (tables.requests.find? row.id).isNone then
        some { tables with requests := tables.requests.place row }
      else none
  | .updateProfiles update =>
      (updateUnder (tables.profilesSelect caller) (tables.profilesUpdateSelfOrAdmin caller) tables.profiles update).map
        fun profiles => { tables with profiles }
  | .updateRequests update =>
      (updateUnder (tables.requestsSelect caller) (tables.requestsUpdateOwnOrAdmin caller) tables.requests update).map
        fun requests => { tables with requests }
  | .updateStages update =>
      (updateUnder (tables.workflowStagesSelect caller) (tables.workflowStagesUpdateAssigneeOrAdmin caller) tables.stages
        update).map fun stages => { tables with stages }

/-- Whatever else a statement is, it leaves the tables as they are, adds a request or updates one table. -/
theorem execute_cases {tables changed : TenantTables} {caller : UUID} {statement : Statement}
    (executed : tables.execute caller statement = some changed) :
    changed = tables ∨
    (∃ row : RequestRecord, tables.requests.find? row.id = none ∧
      changed = { tables with requests := tables.requests.place row }) ∨
    (∃ update profiles, statement = .updateProfiles update ∧
      updateUnder (tables.profilesSelect caller) (tables.profilesUpdateSelfOrAdmin caller) tables.profiles update =
        some profiles ∧ changed = { tables with profiles }) ∨
    (∃ update requests, statement = .updateRequests update ∧
      updateUnder (tables.requestsSelect caller) (tables.requestsUpdateOwnOrAdmin caller) tables.requests update =
        some requests ∧ changed = { tables with requests }) ∨
    (∃ update stages, statement = .updateStages update ∧
      updateUnder (tables.workflowStagesSelect caller) (tables.workflowStagesUpdateAssigneeOrAdmin caller)
        tables.stages update = some stages ∧ changed = { tables with stages }) := by
  cases statement with
  | elsewhere | select =>
      cases executed
      exact .inl rfl
  | insertProfile | insertStage => cases executed
  | insertRequest row returns =>
      simp only [execute] at executed
      split at executed
      · rename_i admitted
        cases executed
        exact .inr (.inl ⟨row, by simpa using (Bool.and_eq_true_iff.mp admitted).2, rfl⟩)
      · cases executed
  | updateProfiles update =>
      obtain ⟨profiles, updated, rfl⟩ := Option.map_eq_some_iff.mp executed
      exact .inr (.inr (.inl ⟨update, profiles, rfl, updated, rfl⟩))
  | updateRequests update =>
      obtain ⟨requests, updated, rfl⟩ := Option.map_eq_some_iff.mp executed
      exact .inr (.inr (.inr (.inl ⟨update, requests, rfl, updated, rfl⟩)))
  | updateStages update =>
      obtain ⟨stages, updated, rfl⟩ := Option.map_eq_some_iff.mp executed
      exact .inr (.inr (.inr (.inr ⟨update, stages, rfl, updated, rfl⟩)))

end TenantTables

/-- One statement: refused for whatever reason, or executed. -/
structure Sent where
  caller : UUID
  statement : Statement
  before : TenantTables
  after : TenantTables
  performed : after = before ∨ before.execute caller statement = some after

/-- A statement, executed if the grants and the policies allow it. -/
def Sent.of (tables : TenantTables) (caller : UUID) (statement : Statement) : Sent where
  caller
  statement
  before := tables
  after := (tables.execute caller statement).getD tables
  performed := by
    cases executed : tables.execute caller statement with
    | none => exact .inl rfl
    | some changed => exact .inr rfl

/-- A sequence of statements, the latest last, each of which is allowed after the earlier ones. -/
inductive SentRun (allowed : List Sent → Sent → Prop) (start : TenantTables) : List Sent → TenantTables → Prop where
  | refl : SentRun allowed start [] start
  | send {earlier : List Sent} (sent : Sent) (run : SentRun allowed start earlier sent.before)
      (allows : allowed earlier sent) : SentRun allowed start (earlier ++ [sent]) sent.after

end AutomationHub.Database
