import AutomationHub.Foundation.Paging
import Mathlib.Data.List.Basic
import Mathlib.Order.Lattice
import Mathlib.Tactic.Common

/-!
The first selected row among the first rows of a sorted query.

A query sorts its rows by a key and may return rows of equal keys in any order.
-/

set_option autoImplicit false

namespace AutomationHub.Foundation

variable {α κ : Type}

/-- The first selected row among the first `size`. -/
def pick (size : Nat) (selects : α → Bool) (arranged : List α) : Option α :=
  (arranged.take size).find? selects

variable [LinearOrder κ]

/-- An order in which the query may return the rows. -/
structure Arranges (key : α → κ) (rows arranged : List α) : Prop where
  perm : arranged.Perm rows
  sorted : arranged.Pairwise fun left right => key left ≤ key right

/-- The row has the one smallest key of the selected rows, and few enough rows have a key up to that. -/
structure Foremost (key : α → κ) (size : Nat) (selects : α → Bool) (rows : List α) (chosen : α) : Prop where
  member : chosen ∈ rows
  selected : selects chosen = true
  alone : ∀ other ∈ rows, selects other = true → key other ≤ key chosen → other = chosen
  within : (rows.filter fun row => decide (key row ≤ key chosen)).length ≤ size

theorem pick_of_split {size : Nat} {selects : α → Bool} {before after : List α} {row : α}
    (none : ∀ earlier ∈ before, selects earlier = false) (short : before.length < size) (selected : selects row = true) :
    pick size selects (before ++ row :: after) = some row := by
  have skipped : before.find? selects = Option.none := by
    apply List.find?_eq_none.mpr
    intro earlier member
    simp [none earlier member]
  obtain ⟨rest, enough⟩ : ∃ rest, size - before.length = rest + 1 := ⟨size - before.length - 1, by omega⟩
  unfold pick
  rw [List.take_append, List.take_of_length_le short.le, enough, List.take_succ_cons, List.find?_append, skipped,
    List.find?_cons_of_pos selected]
  rfl

theorem find?_of_pick {size : Nat} {selects : α → Bool} {arranged : List α} {row : α}
    (picked : pick size selects arranged = some row) : arranged.find? selects = some row := by
  rw [← List.take_append_drop size arranged, List.find?_append]
  unfold pick at picked
  rw [picked]
  rfl

section Sorting

variable (key : α → κ)

/-- The rows sorted by their keys. -/
def sortedBy (rows : List α) : List α :=
  rows.mergeSort fun left right => decide (key left ≤ key right)

theorem arranges_sortedBy (rows : List α) : Arranges key rows (sortedBy key rows) where
  perm := List.mergeSort_perm rows _
  sorted := by
    have transitive : ∀ first second third : α, decide (key first ≤ key second) = true →
        decide (key second ≤ key third) = true → decide (key first ≤ key third) = true := by
      simp only [decide_eq_true_eq]
      exact fun _ _ _ => le_trans
    have total : ∀ first second : α, (decide (key first ≤ key second) || decide (key second ≤ key first)) = true := by
      simpa using fun first second : α => le_total (key first) (key second)
    apply (List.pairwise_mergeSort transitive total rows).imp
    intro first second related
    exact of_decide_eq_true related

variable {key} [DecidableEq α]

/-- A query may return a row after those that may come before it, and before all others. -/
theorem arranges_around {rows : List α} {row : α} (member : row ∈ rows) {early : α → Bool}
    (before : ∀ other, early other = true → key other ≤ key row)
    (after : ∀ other, early other = false → key row ≤ key other) :
    Arranges key rows (sortedBy key ((rows.erase row).filter early) ++
      row :: sortedBy key ((rows.erase row).filter fun other => !early other)) := by
  have front := arranges_sortedBy key ((rows.erase row).filter early)
  have back := arranges_sortedBy key ((rows.erase row).filter fun other => !early other)
  have frontEarly : ∀ other ∈ sortedBy key ((rows.erase row).filter early), key other ≤ key row :=
    fun other listed => before other (List.of_mem_filter (front.perm.mem_iff.mp listed))
  have backLate : ∀ other ∈ sortedBy key ((rows.erase row).filter fun other => !early other), key row ≤ key other := by
    intro other listed
    have late := List.of_mem_filter (back.perm.mem_iff.mp listed)
    exact after other (by simpa using late)
  constructor
  · refine List.perm_middle.trans (.trans (.cons row ?_) (List.perm_cons_erase member).symm)
    exact (front.perm.append back.perm).trans (List.filter_append_perm early _)
  · refine List.pairwise_append.mpr ⟨front.sorted, List.pairwise_cons.mpr ⟨backLate, back.sorted⟩, ?_⟩
    intro left listed right later
    rcases List.mem_cons.mp later with rfl | later
    · exact frontEarly left listed
    · exact (frontEarly left listed).trans (backLate right later)

end Sorting

/-- Exactly the foremost row is picked however the query orders equal keys. -/
theorem picked_iff_foremost [DecidableEq α] {key : α → κ} {size : Nat} {selects : α → Bool} {rows : List α} {chosen : α}
    (distinct : rows.Nodup) :
    (∀ arranged, Arranges key rows arranged → pick size selects arranged = some chosen) ↔
      Foremost key size selects rows chosen := by
  constructor
  · intro picked
    have found := find?_of_pick (picked _ (arranges_sortedBy key rows))
    have member := (arranges_sortedBy key rows).perm.mem_iff.mp (List.mem_of_find?_eq_some found)
    refine ⟨member, List.find?_some found, ?_, ?_⟩
    · intro other listed selected early
      have around := @arranges_around _ _ _ key _ rows other listed (fun row => decide (key row < key other))
        (fun row earlier => (of_decide_eq_true earlier).le) fun row later => not_lt.mp (of_decide_eq_false later)
      have first := find?_of_pick (picked _ around)
      rw [List.find?_append, List.find?_cons_of_pos selected] at first
      cases skipped : (sortedBy key ((rows.erase other).filter fun row => decide (key row < key other))).find? selects with
      | none =>
          rw [skipped] at first
          exact Option.some.inj first
      | some earlier =>
          rw [skipped] at first
          obtain rfl : earlier = chosen := Option.some.inj first
          have listed := (arranges_sortedBy key _).perm.mem_iff.mp (List.mem_of_find?_eq_some skipped)
          exact absurd (of_decide_eq_true (List.of_mem_filter listed :)) (not_lt.mpr early)
    · have around := @arranges_around _ _ _ key _ rows chosen member (fun row => decide (key row ≤ key chosen))
        (fun row earlier => of_decide_eq_true earlier) fun row later => (not_le.mp (of_decide_eq_false later)).le
      have taken := List.mem_of_find?_eq_some (picked _ around)
      have absent : chosen ∉ sortedBy key ((rows.erase chosen).filter fun row => decide (key row ≤ key chosen)) := by
        intro listed
        have kept := List.mem_of_mem_filter ((arranges_sortedBy key _).perm.mem_iff.mp listed)
        exact (List.Nodup.mem_erase_iff distinct).mp kept |>.1 rfl
      have short : (sortedBy key ((rows.erase chosen).filter fun row => decide (key row ≤ key chosen))).length < size := by
        by_contra long
        rw [List.take_append_of_le_length (not_lt.mp long)] at taken
        exact absent (List.mem_of_mem_take taken)
      rw [(arranges_sortedBy key _).perm.length_eq] at short
      have counted := ((List.perm_cons_erase member).filter fun row => decide (key row ≤ key chosen)).length_eq
      rw [List.filter_cons_of_pos (by simp)] at counted
      rw [counted]
      exact short
  · intro foremost arranged arranges
    obtain ⟨before, after, rfl⟩ := List.append_of_mem (arranges.perm.mem_iff.mpr foremost.member)
    have ordered := List.pairwise_append.mp arranges.sorted
    have early : ∀ earlier ∈ before, key earlier ≤ key chosen :=
      fun earlier listed => ordered.2.2 earlier listed chosen List.mem_cons_self
    have apart : chosen ∉ before := by
      have nodup := List.nodup_append.mp (arranges.perm.nodup_iff.mpr distinct)
      exact fun listed => nodup.2.2 chosen listed chosen List.mem_cons_self rfl
    apply pick_of_split
    · intro earlier listed
      by_contra selected
      have same := foremost.alone earlier (arranges.perm.mem_iff.mp (List.mem_append_left _ listed))
        (Bool.not_eq_false _ ▸ selected) (early earlier listed)
      exact apart (same ▸ listed)
    · have counted := (arranges.perm.filter fun row => decide (key row ≤ key chosen)).length_eq
      have all : before.filter (fun row => decide (key row ≤ key chosen)) = before :=
        List.filter_eq_self.mpr fun earlier listed => decide_eq_true (early earlier listed)
      rw [List.filter_append, all, List.filter_cons_of_pos (by simp), List.length_append, List.length_cons] at counted
      have within := foremost.within
      omega
    · exact foremost.selected

section Firsts

variable {key : α → κ} {size : Nat} {shown wanted : List α}

/-- The rows after the first ones of a sorted list that are wanted come after them in an order of the wanted rows. -/
theorem arranges_after_take [DecidableEq α] (sorted : shown.Pairwise fun left right => key left ≤ key right)
    (distinct : shown.Nodup) (once : wanted.Nodup) (own : ∀ row ∈ shown.take size, row ∈ wanted)
    (later : ∀ row ∈ wanted, row ∉ shown → ∀ first ∈ shown.take size, key first ≤ key row) :
    Arranges key wanted (shown.take size ++ sortedBy key (wanted.filter fun row => row ∉ shown.take size)) := by
  have rest := arranges_sortedBy key (wanted.filter fun row => row ∉ shown.take size)
  have mem_rest : ∀ row, row ∈ sortedBy key (wanted.filter fun row => row ∉ shown.take size) ↔
      row ∈ wanted ∧ row ∉ shown.take size := by
    intro row
    rw [rest.perm.mem_iff, List.mem_filter, decide_eq_true_eq]
  constructor
  · apply (List.perm_ext_iff_of_nodup _ once).mpr
    · intro row
      rw [List.mem_append, mem_rest]
      by_cases first : row ∈ shown.take size
      · simp [first, own row first]
      · simp [first]
    · apply List.nodup_append.mpr
      refine ⟨distinct.sublist (List.take_sublist ..), rest.perm.nodup_iff.mpr (once.filter _), ?_⟩
      rintro row first other after rfl
      exact ((mem_rest row).mp after).2 first
  · refine List.pairwise_append.mpr ⟨sorted.sublist (List.take_sublist ..), rest.sorted, ?_⟩
    intro first kept row after
    obtain ⟨member, other⟩ := (mem_rest row).mp after
    by_cases present : row ∈ shown
    · rw [← List.take_append_drop size shown, List.mem_append] at present
      exact related_of_take_of_drop sorted size kept (present.resolve_left other)
    · exact later row member present first kept

/-- The first rows of a sorted list are those of some order of the wanted rows exactly if they are wanted, and a wanted
row that the list lacks comes after a full number of them. -/
theorem firsts_arranged_iff [DecidableEq α] (sorted : shown.Pairwise fun left right => key left ≤ key right)
    (distinct : shown.Nodup) (once : wanted.Nodup) :
    (∃ arranged, Arranges key wanted arranged ∧ shown.take size = arranged.take size) ↔
      (∀ row ∈ shown.take size, row ∈ wanted) ∧
        ∀ row ∈ wanted, row ∉ shown → size ≤ shown.length ∧ ∀ first ∈ shown.take size, key first ≤ key row := by
  constructor
  · rintro ⟨arranged, order, same⟩
    constructor
    · intro row first
      rw [same] at first
      exact order.perm.mem_iff.mp (List.mem_of_mem_take first)
    · intro row member absent
      have dropped : row ∈ arranged.drop size := by
        have listed := order.perm.mem_iff.mpr member
        rw [← List.take_append_drop size arranged, List.mem_append, ← same] at listed
        exact listed.resolve_left fun first => absent (List.mem_of_mem_take first)
      constructor
      · have longer := List.length_pos_of_mem dropped
        have counted := congrArg List.length same
        rw [List.length_drop] at longer
        rw [List.length_take, List.length_take] at counted
        omega
      · intro first kept
        rw [same] at kept
        exact related_of_take_of_drop order.sorted size kept dropped
  · rintro ⟨own, later⟩
    refine ⟨_, arranges_after_take sorted distinct once own fun row member absent => (later row member absent).2, ?_⟩
    rcases Nat.lt_or_ge shown.length size with short | long
    · have none_left : wanted.filter (fun row => row ∉ shown.take size) = [] := by
        apply List.filter_eq_nil_iff.mpr
        intro row member selected
        rw [List.take_of_length_le short.le, decide_eq_true_eq] at selected
        exact absurd (later row member selected).1 (Nat.not_le.mpr short)
      rw [none_left, sortedBy, List.mergeSort_nil, List.append_nil, List.take_take, Nat.min_self]
    · have full : (shown.take size).length = size := List.length_take_of_le long
      rw [List.take_append_of_le_length full.ge, List.take_take, Nat.min_self]

end Firsts

end AutomationHub.Foundation
