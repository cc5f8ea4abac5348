import Mathlib.Data.List.Nodup
import Mathlib.Tactic.Common

/-!
Tables of keyed rows with optimistic locking.

A table assigns a fresh key to each inserted row and never assigns one twice.
Rows carry a version; an update names the version it expects and raises it, so
that a row seen again at a known version is the row that was seen.
-/

set_option autoImplicit false

namespace AutomationHub.Foundation

class Keyed (ρ : Type) where
  key : ρ → Nat

/-- Rows whose version counts the updates made to them. -/
class Versioned (ρ : Type) extends Keyed ρ where
  version : ρ → Nat
  withVersion : Nat → ρ → ρ
  key_withVersion : ∀ number row, key (withVersion number row) = key row
  version_withVersion : ∀ number row, version (withVersion number row) = number

attribute [simp] Versioned.key_withVersion Versioned.version_withVersion

open Keyed Versioned

/-- A row that awaits its key. -/
structure Draft (ρ : Type) [Keyed ρ] where
  build : Nat → ρ
  key_build : ∀ id, key (build id) = id

/-- A change of a row that leaves its key alone. -/
structure Edit (ρ : Type) [Keyed ρ] where
  apply : ρ → ρ
  key_apply : ∀ row, key (apply row) = key row

attribute [simp] Draft.key_build Edit.key_apply

structure Table (ρ : Type) [Keyed ρ] where
  rows : List ρ
  next : Nat
  distinct : (rows.map key).Nodup
  fresh : ∀ row ∈ rows, key row < next

namespace Table

/-- What is selected among shared rows is shared. -/
theorem filter_of_agree {ρ : Type} {own selects : ρ → Bool} {left right : List ρ}
    (agree : left.filter own = right.filter own) (within : ∀ row, selects row = true → own row = true) :
    left.filter selects = right.filter selects := by
  have narrowed : ∀ rows : List ρ, (rows.filter own).filter selects = rows.filter selects := by
    intro rows
    rw [List.filter_filter]
    refine List.filter_congr ?_
    intro row _
    cases selected : selects row with
    | false => simp
    | true => simp [within row selected]
  rw [← narrowed left, ← narrowed right, agree]

section Keys

variable {ρ : Type} [Keyed ρ]

def empty : Table ρ where
  rows := []
  next := 1
  distinct := List.nodup_nil
  fresh := fun _ member => by cases member

def find? (table : Table ρ) (id : Nat) : Option ρ :=
  table.rows.find? fun row => key row == id

theorem eq_of_key_eq (table : Table ρ) {first second : ρ} (left : first ∈ table.rows)
    (right : second ∈ table.rows) (same : key first = key second) : first = second :=
  List.inj_on_of_nodup_map table.distinct left right same

theorem find?_eq_some_iff (table : Table ρ) (id : Nat) (row : ρ) :
    table.find? id = some row ↔ row ∈ table.rows ∧ key row = id := by
  constructor
  · intro found
    exact ⟨List.mem_of_find?_eq_some found, by simpa using List.find?_some found⟩
  · rintro ⟨member, keyed⟩
    cases search : table.find? id with
    | none => exact absurd keyed (by simpa using (List.find?_eq_none.mp search) row member)
    | some other =>
        have located : other ∈ table.rows ∧ key other = id :=
          ⟨List.mem_of_find?_eq_some search, by simpa using List.find?_some search⟩
        rw [table.eq_of_key_eq located.1 member (located.2.trans keyed.symm)]

theorem find?_eq_none_iff (table : Table ρ) (id : Nat) :
    table.find? id = none ↔ ∀ row ∈ table.rows, key row ≠ id := by
  simp [find?, List.find?_eq_none]

theorem find?_of_mem (table : Table ρ) {row : ρ} (member : row ∈ table.rows) :
    table.find? (key row) = some row :=
  (table.find?_eq_some_iff _ _).mpr ⟨member, rfl⟩

theorem find?_next (table : Table ρ) : table.find? table.next = none :=
  (table.find?_eq_none_iff _).mpr fun row member => Nat.ne_of_lt (table.fresh row member)

/-- Append a row under the next key. -/
def insert (table : Table ρ) (draft : Draft ρ) : Table ρ where
  rows := table.rows ++ [draft.build table.next]
  next := table.next + 1
  distinct := by
    rw [List.map_append, List.map_singleton, draft.key_build]
    refine List.nodup_append.mpr ⟨table.distinct, List.nodup_singleton _, ?_⟩
    intro id used other last
    obtain ⟨row, member, rfl⟩ := List.mem_map.mp used
    rw [List.mem_singleton.mp last]
    exact Nat.ne_of_lt (table.fresh row member)
  fresh := by
    intro row member
    rcases List.mem_append.mp member with member | last
    · exact Nat.lt_succ_of_lt (table.fresh row member)
    · rw [List.mem_singleton.mp last, draft.key_build]
      exact Nat.lt_succ_self _

@[simp] theorem insert_rows (table : Table ρ) (draft : Draft ρ) :
    (table.insert draft).rows = table.rows ++ [draft.build table.next] := rfl

@[simp] theorem insert_next (table : Table ρ) (draft : Draft ρ) :
    (table.insert draft).next = table.next + 1 := rfl

def editRow (id : Nat) (edit : Edit ρ) (row : ρ) : ρ :=
  if key row = id then edit.apply row else row

@[simp] theorem key_editRow (id : Nat) (edit : Edit ρ) (row : ρ) : key (editRow id edit row) = key row := by
  unfold editRow
  split <;> simp

/-- Change the row under one key in place. -/
def modify (table : Table ρ) (id : Nat) (edit : Edit ρ) : Table ρ where
  rows := table.rows.map (editRow id edit)
  next := table.next
  distinct := by
    have keys : (table.rows.map (editRow id edit)).map key = table.rows.map key := by simp [Function.comp_def]
    exact keys ▸ table.distinct
  fresh := by
    intro row edited
    obtain ⟨old, member, rfl⟩ := List.mem_map.mp edited
    simpa using table.fresh old member

@[simp] theorem modify_rows (table : Table ρ) (id : Nat) (edit : Edit ρ) :
    (table.modify id edit).rows = table.rows.map (editRow id edit) := rfl

@[simp] theorem modify_next (table : Table ρ) (id : Nat) (edit : Edit ρ) :
    (table.modify id edit).next = table.next := rfl

def erase (table : Table ρ) (id : Nat) : Table ρ where
  rows := table.rows.filter fun row => key row != id
  next := table.next
  distinct := table.distinct.sublist (List.filter_sublist.map key)
  fresh := fun row member => table.fresh row (List.mem_of_mem_filter member)

@[simp] theorem erase_rows (table : Table ρ) (id : Nat) :
    (table.erase id).rows = table.rows.filter fun row => key row != id := rfl

@[simp] theorem erase_next (table : Table ρ) (id : Nat) : (table.erase id).next = table.next := rfl

theorem mem_insert (table : Table ρ) (draft : Draft ρ) (row : ρ) :
    row ∈ (table.insert draft).rows ↔ row ∈ table.rows ∨ row = draft.build table.next := by
  simp

theorem mem_modify (table : Table ρ) (id : Nat) (edit : Edit ρ) (row : ρ) :
    row ∈ (table.modify id edit).rows ↔
      (row ∈ table.rows ∧ key row ≠ id) ∨ ∃ old ∈ table.rows, key old = id ∧ row = edit.apply old := by
  simp only [modify_rows, List.mem_map, editRow]
  constructor
  · rintro ⟨old, member, rfl⟩
    split
    · exact .inr ⟨old, member, ‹_›, rfl⟩
    · exact .inl ⟨member, ‹_›⟩
  · rintro (⟨member, other⟩ | ⟨old, member, keyed, rfl⟩)
    · exact ⟨row, member, if_neg other⟩
    · exact ⟨old, member, if_pos keyed⟩

theorem mem_erase (table : Table ρ) (id : Nat) (row : ρ) :
    row ∈ (table.erase id).rows ↔ row ∈ table.rows ∧ key row ≠ id := by
  simp

theorem find?_insert (table : Table ρ) (draft : Draft ρ) (id : Nat) :
    (table.insert draft).find? id =
      if id = table.next then some (draft.build table.next) else table.find? id := by
  by_cases same : id = table.next
  · subst same
    simpa using (find?_eq_some_iff _ _ _).mpr ⟨(table.mem_insert draft _).mpr (.inr rfl), draft.key_build _⟩
  · simp [find?, List.find?_append, same, Ne.symm same]

/-- A search that the edit does not affect finds the row it found, edited. -/
theorem search_modify (table : Table ρ) (id : Nat) (edit : Edit ρ) {sought : ρ → Bool}
    (unaffected : ∀ row, sought (edit.apply row) = sought row) :
    (table.modify id edit).rows.find? sought = (table.rows.find? sought).map (editRow id edit) := by
  have same : sought ∘ editRow id edit = sought := by
    funext row
    simp only [Function.comp_apply, editRow]
    split
    · exact unaffected row
    · rfl
  rw [modify_rows, List.find?_map, same]

theorem search_insert (table : Table ρ) (draft : Draft ρ) (sought : ρ → Bool) :
    (table.insert draft).rows.find? sought =
      (table.rows.find? sought).or (if sought (draft.build table.next) then some (draft.build table.next) else none) := by
  rw [insert_rows, List.find?_append, List.find?_singleton]

theorem find?_modify (table : Table ρ) (id other : Nat) (edit : Edit ρ) :
    (table.modify id edit).find? other =
      if other = id then (table.find? id).map edit.apply else table.find? other := by
  have keys : (fun row => key row == other) ∘ editRow id edit = fun row => key row == other := by
    funext row
    simp
  simp only [find?, modify_rows, List.find?_map, keys]
  by_cases same : other = id
  · subst same
    rw [if_pos rfl]
    cases search : table.rows.find? fun row => key row == other with
    | none => rfl
    | some row => simp [editRow, show key row = other by simpa using List.find?_some search]
  · rw [if_neg same]
    cases search : table.rows.find? fun row => key row == other with
    | none => rfl
    | some row =>
        have keyed : key row = other := by simpa using List.find?_some search
        simp [editRow, keyed, same]

theorem find?_erase (table : Table ρ) (id other : Nat) :
    (table.erase id).find? other = if other = id then none else table.find? other := by
  by_cases same : other = id
  · rw [if_pos same, same]
    exact (find?_eq_none_iff _ _).mpr fun row member => ((mem_erase _ _ _).mp member).2
  · rw [if_neg same]
    cases search : table.find? other with
    | none =>
        have missing := (find?_eq_none_iff _ _).mp search
        exact (find?_eq_none_iff _ _).mpr fun row member => missing row ((mem_erase _ _ _).mp member).1
    | some row =>
        obtain ⟨member, keyed⟩ := (find?_eq_some_iff _ _ _).mp search
        exact (find?_eq_some_iff _ _ _).mpr ⟨(mem_erase _ _ _).mpr ⟨member, keyed ▸ same⟩, keyed⟩

/-- The rows in another order. -/
def rearrange (table : Table ρ) {rows : List ρ} (perm : rows.Perm table.rows) : Table ρ where
  rows := rows
  next := table.next
  distinct := (perm.map key).nodup_iff.mpr table.distinct
  fresh := fun row member => table.fresh row (perm.mem_iff.mp member)

/-- Put a row under its own key, in place of the row there. -/
def place (table : Table ρ) (row : ρ) : Table ρ where
  rows := (table.erase (key row)).rows ++ [row]
  next := max table.next (key row + 1)
  distinct := by
    rw [List.map_append, List.map_singleton]
    refine List.nodup_append.mpr ⟨(table.erase (key row)).distinct, List.nodup_singleton _, ?_⟩
    intro id used other last
    obtain ⟨old, member, rfl⟩ := List.mem_map.mp used
    rw [List.mem_singleton.mp last]
    exact ((table.mem_erase (key row) old).mp member).2
  fresh := by
    intro old member
    rcases List.mem_append.mp member with member | last
    · exact Nat.lt_of_lt_of_le (table.fresh old ((table.mem_erase _ _).mp member).1) (Nat.le_max_left _ _)
    · rw [List.mem_singleton.mp last]
      exact Nat.lt_of_lt_of_le (Nat.lt_succ_self _) (Nat.le_max_right _ _)

theorem mem_place (table : Table ρ) (row other : ρ) :
    other ∈ (table.place row).rows ↔ (other ∈ table.rows ∧ key other ≠ key row) ∨ other = row := by
  simp [place]

theorem find?_place (table : Table ρ) (row : ρ) : (table.place row).find? (key row) = some row :=
  (find?_eq_some_iff _ _ _).mpr ⟨(mem_place _ _ _).mpr (.inr rfl), rfl⟩

theorem find?_place_other (table : Table ρ) (row : ρ) {id : Nat} (apart : id ≠ key row) :
    (table.place row).find? id = table.find? id := by
  cases search : table.find? id with
  | none =>
      have missing := (find?_eq_none_iff _ _).mp search
      refine (find?_eq_none_iff _ _).mpr ?_
      intro other member
      rcases (mem_place _ _ _).mp member with ⟨old, -⟩ | rfl
      · exact missing other old
      · exact Ne.symm apart
  | some other =>
      obtain ⟨member, keyed⟩ := (find?_eq_some_iff _ _ _).mp search
      exact (find?_eq_some_iff _ _ _).mpr ⟨(mem_place _ _ _).mpr (.inl ⟨member, keyed ▸ apart⟩), keyed⟩

theorem place_rows_of_absent (table : Table ρ) (row : ρ) (absent : table.find? (key row) = none) :
    (table.place row).rows = table.rows ++ [row] := by
  have others := (find?_eq_none_iff _ _).mp absent
  have kept : (table.erase (key row)).rows = table.rows := by
    simpa only [erase_rows, List.filter_eq_self, bne_iff_ne] using others
  exact congrArg (fun rows => rows ++ [row]) kept

/-- The row under a key is the only one under it. -/
theorem existsUnique_of_find? (table : Table ρ) {id : Nat} (present : (table.find? id).isSome = true) :
    ∃! row, row ∈ table.rows ∧ key row = id := by
  obtain ⟨row, found⟩ := Option.isSome_iff_exists.mp present
  obtain ⟨member, keyed⟩ := (find?_eq_some_iff _ _ _).mp found
  exact ⟨row, ⟨member, keyed⟩, fun other held => table.eq_of_key_eq held.1 member (held.2.trans keyed.symm)⟩

theorem le_foldr_max {keys : List Nat} {number : Nat} (member : number ∈ keys) : number ≤ keys.foldr max 0 := by
  induction keys with
  | nil => cases member
  | cons first rest recurse =>
      rw [List.foldr_cons]
      rcases List.mem_cons.mp member with rfl | later
      · omega
      · have bounded := recurse later
        omega

/-- Change every row, unless two of them would have one key. -/
def rewrite? (table : Table ρ) (change : ρ → ρ) : Option (Table ρ) :=
  if distinct : ((table.rows.map change).map key).Nodup then
    some
      { rows := table.rows.map change
        next := max table.next (((table.rows.map change).map key).foldr max 0 + 1)
        distinct
        fresh := fun row member => by
          have bounded := le_foldr_max (List.mem_map.mpr ⟨row, member, rfl⟩ : key row ∈ (table.rows.map change).map key)
          omega }
  else none

theorem rewrite?_rows {table changed : Table ρ} {change : ρ → ρ} (rewritten : table.rewrite? change = some changed) :
    changed.rows = table.rows.map change := by
  unfold rewrite? at rewritten
  split at rewritten
  · cases rewritten
    rfl
  · cases rewritten

/-- A selection that passes over the row under a key does not see that row erased. -/
theorem filter_erase (table : Table ρ) (id : Nat) (selects : ρ → Bool)
    (passed : ∀ row ∈ table.rows, key row = id → selects row = false) :
    (table.erase id).rows.filter selects = table.rows.filter selects := by
  rw [erase_rows, List.filter_filter]
  refine List.filter_congr ?_
  intro row member
  by_cases keyed : key row = id
  · simp [passed row member keyed]
  · simp [keyed]

theorem filter_place (table : Table ρ) (row : ρ) (selects : ρ → Bool)
    (passed : ∀ old ∈ table.rows, key old = key row → selects old = false) (new : selects row = false) :
    (table.place row).rows.filter selects = table.rows.filter selects := by
  rw [place, List.filter_append, filter_erase table (key row) selects passed]
  simp [new]

/-- There is a table with the same selected rows that has a row under a key exactly if this one has none, if no row
under the key is selected. -/
theorem exists_toggled (table : Table ρ) (selects : ρ → Bool) (row : ρ) (new : selects row = false)
    (passed : ∀ old, table.find? (key row) = some old → selects old = false) :
    ∃ other : Table ρ, other.rows.filter selects = table.rows.filter selects ∧
      (other.find? (key row)).isSome ≠ (table.find? (key row)).isSome ∧
      ∀ old, other.find? (key row) = some old → selects old = false := by
  have unselected : ∀ old ∈ table.rows, key old = key row → selects old = false := by
    intro old member keyed
    exact passed old ((find?_eq_some_iff _ _ _).mpr ⟨member, keyed⟩)
  cases found : table.find? (key row) with
  | none =>
      have placed := table.find?_place row
      exact ⟨table.place row, table.filter_place row selects unselected new, by simp [placed], by simp [placed, new]⟩
  | some old =>
      have erased : (table.erase (key row)).find? (key row) = none := by simp [find?_erase]
      exact ⟨table.erase (key row), table.filter_erase _ selects unselected, by simp [erased], by simp [erased]⟩

/-- A row of a selection that two tables share is found in both. -/
theorem find?_of_agree {own : ρ → Bool} {left right : Table ρ} {id : Nat} {row : ρ}
    (agree : left.rows.filter own = right.rows.filter own) (found : left.find? id = some row)
    (owned : own row = true) : right.find? id = some row := by
  obtain ⟨member, keyed⟩ := (find?_eq_some_iff ..).mp found
  have selected : row ∈ right.rows.filter own := agree ▸ List.mem_filter.mpr ⟨member, owned⟩
  exact (find?_eq_some_iff ..).mpr ⟨(List.mem_filter.mp selected).1, keyed⟩

end Keys

section Versions

variable {ρ : Type} [Versioned ρ]

/-- The edit together with the version it writes. -/
def stamped (edit : Edit ρ) (expected : Nat) : Edit ρ where
  apply := fun row => withVersion (expected + 1) (edit.apply row)
  key_apply := by simp

/-- Change the row under `id` if it still has the expected version; the reply is the row written. -/
def updateIfVersion (table : Table ρ) (id expected : Nat) (edit : Edit ρ) : Option (ρ × Table ρ) :=
  match table.find? id with
  | none => none
  | some row =>
      if version row = expected then
        some ((stamped edit expected).apply row, table.modify id (stamped edit expected))
      else none

/-- Remove the row under `id` if it still has the expected version. -/
def eraseIfVersion (table : Table ρ) (id expected : Nat) : Option (Table ρ) :=
  match table.find? id with
  | none => none
  | some row => if version row = expected then some (table.erase id) else none

theorem updateIfVersion_eq_some_iff (table : Table ρ) (id expected : Nat) (edit : Edit ρ) (written : ρ)
    (updated : Table ρ) :
    table.updateIfVersion id expected edit = some (written, updated) ↔
      ∃ row, table.find? id = some row ∧ version row = expected ∧
        written = (stamped edit expected).apply row ∧ updated = table.modify id (stamped edit expected) := by
  unfold updateIfVersion
  cases table.find? id with
  | none => simp
  | some row =>
      by_cases current : version row = expected
      · simp [current, eq_comm]
      · simp [current]

theorem eraseIfVersion_eq_some_iff (table : Table ρ) (id expected : Nat) (remaining : Table ρ) :
    table.eraseIfVersion id expected = some remaining ↔
      ∃ row, table.find? id = some row ∧ version row = expected ∧ remaining = table.erase id := by
  unfold eraseIfVersion
  cases table.find? id with
  | none => simp
  | some row =>
      by_cases current : version row = expected
      · simp [current, eq_comm]
      · simp [current]

/-- What a table becomes under inserts, locked updates and erasures: keys are not reused, versions
do not fall, and a row found at its old version is the old row. -/
structure Evolves (before after : Table ρ) : Prop where
  next_le : before.next ≤ after.next
  kept : ∀ new ∈ after.rows, key new < before.next →
    ∃ old ∈ before.rows, key old = key new ∧ version old ≤ version new ∧ (version old = version new → old = new)

theorem Evolves.refl (table : Table ρ) : Evolves table table where
  next_le := Nat.le_refl _
  kept := fun row member _ => ⟨row, member, rfl, Nat.le_refl _, fun _ => rfl⟩

theorem Evolves.trans {first second third : Table ρ} (left : Evolves first second) (right : Evolves second third) :
    Evolves first third where
  next_le := Nat.le_trans left.next_le right.next_le
  kept := by
    intro new member known
    obtain ⟨middle, middleMember, keyed, grown, same⟩ := right.kept new member (Nat.lt_of_lt_of_le known left.next_le)
    obtain ⟨old, oldMember, oldKeyed, oldGrown, oldSame⟩ := left.kept middle middleMember (keyed ▸ known)
    refine ⟨old, oldMember, oldKeyed.trans keyed, Nat.le_trans oldGrown grown, fun equal => ?_⟩
    have unmoved : version old = version middle := Nat.le_antisymm oldGrown (equal ▸ grown)
    rw [oldSame unmoved]
    exact same (unmoved ▸ equal)

theorem evolves_insert (table : Table ρ) (draft : Draft ρ) : Evolves table (table.insert draft) where
  next_le := Nat.le_succ _
  kept := by
    intro new member known
    rcases (table.mem_insert draft new).mp member with member | rfl
    · exact ⟨new, member, rfl, Nat.le_refl _, fun _ => rfl⟩
    · simp at known

theorem evolves_erase (table : Table ρ) (id : Nat) : Evolves table (table.erase id) where
  next_le := Nat.le_refl _
  kept := fun row member _ => ⟨row, ((table.mem_erase id row).mp member).1, rfl, Nat.le_refl _, fun _ => rfl⟩

theorem evolves_update {table updated : Table ρ} {id expected : Nat} {edit : Edit ρ} {written : ρ}
    (success : table.updateIfVersion id expected edit = some (written, updated)) : Evolves table updated := by
  obtain ⟨row, found, current, -, rfl⟩ := (updateIfVersion_eq_some_iff ..).mp success
  refine ⟨Nat.le_refl _, ?_⟩
  intro new present _
  rcases (table.mem_modify id _ new).mp present with ⟨member, -⟩ | ⟨old, member, keyed, rfl⟩
  · exact ⟨new, member, rfl, Nat.le_refl _, fun _ => rfl⟩
  · have same : old = row := table.eq_of_key_eq member ((table.find?_eq_some_iff _ _).mp found).1
      (keyed.trans ((table.find?_eq_some_iff _ _).mp found).2.symm)
    subst same
    refine ⟨old, member, by simp, ?_, ?_⟩ <;> simp [stamped, current]

/-- `row` was in the table at some time: its key is not free, and a row found under its key is a later version of
it, or still the same. -/
structure Seen (table : Table ρ) (row : ρ) : Prop where
  used : key row < table.next
  later : ∀ now ∈ table.rows, key now = key row → version row ≤ version now ∧ (version row = version now → row = now)

theorem seen_of_mem {table : Table ρ} {row : ρ} (member : row ∈ table.rows) : Seen table row where
  used := table.fresh row member
  later := by
    intro now present keyed
    rw [table.eq_of_key_eq present member keyed]
    exact ⟨Nat.le_refl _, fun _ => rfl⟩

theorem Seen.evolves {before after : Table ρ} {row : ρ} (seen : Seen before row) (evolved : Evolves before after) :
    Seen after row where
  used := Nat.lt_of_lt_of_le seen.used evolved.next_le
  later := by
    intro now present keyed
    obtain ⟨old, member, oldKeyed, grown, same⟩ := evolved.kept now present (keyed ▸ seen.used)
    obtain ⟨older, unchanged⟩ := seen.later old member (oldKeyed.trans keyed)
    refine ⟨Nat.le_trans older grown, fun equal => ?_⟩
    have unmoved : version row = version old := Nat.le_antisymm older (equal ▸ grown)
    rw [unchanged unmoved]
    exact same (unmoved ▸ equal)

end Versions

end Table

end AutomationHub.Foundation
