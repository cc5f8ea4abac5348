import Mathlib.Data.List.Basic
import Mathlib.Tactic.Common
import Mathlib.Algebra.Order.Group.Nat

/-!
Offset paging of a list: the pages of a query, put together, are its result.
-/

set_option autoImplicit false

namespace AutomationHub.Foundation

variable {α : Type}

/-- The rows at offsets `index * size` and following, at most `size` of them. -/
def slice (size index : Nat) (rows : List α) : List α :=
  (rows.drop (index * size)).take size

/-- `ceil(total / size)`. -/
def pageCount (size total : Nat) : Nat :=
  (total + size - 1) / size

theorem flatten_slices_eq_take (size count : Nat) (rows : List α) :
    ((List.range count).map fun index => slice size index rows).flatten = rows.take (count * size) := by
  induction count with
  | zero => simp
  | succ count recurse =>
      rw [List.range_succ, List.map_append, List.flatten_append, recurse]
      simp only [List.map_singleton, List.flatten_singleton, slice, Nat.succ_mul]
      exact (List.take_add).symm

theorem total_le_pageCount_mul {size : Nat} (positive : 0 < size) (total : Nat) : total ≤ pageCount size total * size := by
  have division := Nat.div_add_mod (total + size - 1) size
  have remainder := Nat.mod_lt (total + size - 1) positive
  rw [pageCount, Nat.mul_comm]
  omega

theorem pageCount_le_iff {size : Nat} (positive : 0 < size) {total pages : Nat} :
    pageCount size total ≤ pages ↔ total ≤ pages * size := by
  rw [pageCount, ← Nat.lt_succ_iff, Nat.div_lt_iff_lt_mul positive, Nat.succ_mul]
  omega

theorem flatten_pages {size : Nat} (positive : 0 < size) (rows : List α) :
    ((List.range (pageCount size rows.length)).map fun index => slice size index rows).flatten = rows := by
  rw [flatten_slices_eq_take]
  exact List.take_of_length_le (total_le_pageCount_mul positive rows.length)

/-- Consecutive chunks of at most `size` items each. -/
def chunked (size : Nat) (items : List α) : List (List α) :=
  (List.range (pageCount size items.length)).map fun index => slice size index items

theorem mem_chunked {size : Nat} (positive : 0 < size) (items : List α) {item : α} :
    (∃ chunk ∈ chunked size items, item ∈ chunk) ↔ item ∈ items := by
  rw [← List.mem_flatten, chunked, flatten_pages positive]

@[simp] theorem slice_zero (size : Nat) (rows : List α) : slice size 0 rows = rows.take size := by
  simp [slice]

/-- What is cut off a sorted list comes after what is kept. -/
theorem related_of_take_of_drop {before : α → α → Prop} {rows : List α} (sorted : rows.Pairwise before) (size : Nat)
    {first second : α} (kept : first ∈ rows.take size) (dropped : second ∈ rows.drop size) : before first second := by
  rw [← List.take_append_drop size rows] at sorted
  exact (List.pairwise_append.mp sorted).2.2 first kept second dropped

/-- What bounds the first rows of a descending list bounds all of them. -/
theorem bounded_of_take {value : α → Nat} {rows : List α}
    (descending : rows.Pairwise fun first second => value second ≤ value first) {size bound : Nat} (positive : 0 < size)
    (shown : ∀ row ∈ rows.take size, value row ≤ bound) : ∀ row ∈ rows, value row ≤ bound := by
  intro row member
  rw [← List.take_append_drop size rows, List.mem_append] at member
  rcases member with kept | dropped
  · exact shown row kept
  · have longer : size < rows.length := by
      have nonempty := List.length_pos_of_mem dropped
      rw [List.length_drop] at nonempty
      omega
    have first : rows[0] ∈ rows.take size := List.mem_take_iff_getElem.mpr ⟨0, by omega, rfl⟩
    exact Nat.le_trans (related_of_take_of_drop descending size first dropped) (shown _ first)

/-- The position that a view of the first rows takes from the marked row, or from its last one, is that of a marked row or
of the last of all rows exactly if the view reaches as far. -/
theorem shown_position_iff {position : α → Nat} {marked : α → Bool} {rows : List α}
    (sorted : rows.Pairwise fun first second => position first < position second) {size : Nat} (positive : 0 < size) :
    ((∃ row ∈ rows, marked row = true ∧
        position row = (((rows.take size).find? marked).or (rows.take size).getLast?).elim 0 position) ∨
      (∀ row ∈ rows, marked row = false) ∧
        rows.getLast?.elim 0 position = (((rows.take size).find? marked).or (rows.take size).getLast?).elim 0 position) ↔
      (∃ row ∈ rows.take size, marked row = true) ∨ (∀ row ∈ rows, marked row = false) ∧ rows.length ≤ size := by
  cases located : (rows.take size).find? marked with
  | some row =>
      have found := List.mem_of_find?_eq_some located
      have mark := List.find?_some located
      exact iff_of_true (.inl ⟨row, List.mem_of_mem_take found, mark, rfl⟩) (.inl ⟨row, found, mark⟩)
  | none =>
      have unmarked : ∀ row ∈ rows.take size, ¬marked row = true := by simpa using located
      rcases Nat.lt_or_ge size rows.length with long | short
      · have kept : rows.take size ≠ [] := List.ne_nil_of_length_pos (by rw [List.length_take]; omega)
        have dropped : rows.drop size ≠ [] := List.ne_nil_of_length_pos (by rw [List.length_drop]; omega)
        have nonempty : rows ≠ [] := List.ne_nil_of_length_pos (by omega)
        have last := List.getLast_mem dropped
        rw [List.getLast_drop] at last
        rw [List.getLast?_eq_some_getLast kept, List.getLast?_eq_some_getLast nonempty]
        have before := fun {row : α} => @related_of_take_of_drop α _ rows sorted size _ row (List.getLast_mem kept)
        refine iff_of_false ?_ ?_
        · rintro (⟨row, member, mark, same⟩ | ⟨-, same⟩)
          · rw [← List.take_append_drop size rows, List.mem_append] at member
            have beyond := member.resolve_left fun shown => unmarked row shown mark
            exact absurd same (before beyond).ne'
          · exact absurd same (before last).ne'
        · rintro (⟨row, member, mark⟩ | ⟨-, bounded⟩)
          · exact unmarked row member mark
          · omega
      · rw [List.take_of_length_le short] at unmarked ⊢
        refine iff_of_true (.inr ⟨?_, rfl⟩) (.inr ⟨?_, short⟩) <;> simpa using unmarked

end AutomationHub.Foundation
