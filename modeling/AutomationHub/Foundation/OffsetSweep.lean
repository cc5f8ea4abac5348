import AutomationHub.Foundation.Arrangement
import AutomationHub.Foundation.Paging
import Mathlib.Data.List.Count
import Mathlib.Data.List.Nodup
import Mathlib.Data.List.Range
import Mathlib.Data.Nat.Find

/-!
A sweep over the pages of a query that changes while it is read.

Each page is asked at its offset in what the query returns at that moment; rows
of equal keys may be returned in any order, another one for each page.
-/

set_option autoImplicit false

namespace AutomationHub.Foundation

/-- The pages a sweep asks for: until the count says that there is no further one, or the limit is reached. -/
def pagesAsked (size : Nat) (lengths : Nat → Nat) : (remaining index : Nat) → List Nat
  | 0, _ => []
  | remaining + 1, index =>
      index :: if lengths index ≤ (index + 1) * size then [] else pagesAsked size lengths remaining (index + 1)

theorem mem_pagesAsked {size : Nat} {lengths : Nat → Nat} {page : Nat} (remaining : Nat) :
    ∀ index, page ∈ pagesAsked size lengths remaining index ↔
      index ≤ page ∧ page < index + remaining ∧ ∀ earlier, index ≤ earlier → earlier < page →
        (earlier + 1) * size < lengths earlier := by
  induction remaining with
  | zero =>
      intro index
      simp only [pagesAsked, List.not_mem_nil, Nat.add_zero, false_iff]
      omega
  | succ remaining ih =>
      intro index
      rw [pagesAsked, List.mem_cons]
      constructor
      · rintro (rfl | later)
        · exact ⟨le_rfl, by omega, fun earlier least most => absurd least (by omega)⟩
        · split at later
          · cases later
          · rename_i more
            obtain ⟨least, most, continued⟩ := (ih (index + 1)).1 later
            refine ⟨by omega, by omega, fun earlier first before => ?_⟩
            rcases Nat.eq_or_lt_of_le first with rfl | beyond
            · exact not_le.1 more
            · exact continued earlier beyond before
      · rintro ⟨least, most, continued⟩
        rcases Nat.eq_or_lt_of_le least with rfl | beyond
        · exact .inl rfl
        · have more : ¬lengths index ≤ (index + 1) * size := not_le.2 (continued index le_rfl beyond)
          rw [if_neg more]
          refine .inr ((ih (index + 1)).2 ⟨beyond, by omega, fun earlier first before => ?_⟩)
          exact continued earlier (by omega) before

theorem pagesAsked_nodup (size : Nat) (lengths : Nat → Nat) (remaining : Nat) :
    ∀ index, (pagesAsked size lengths remaining index).Nodup := by
  induction remaining with
  | zero => exact fun _ => List.nodup_nil
  | succ remaining ih =>
      intro index
      rw [pagesAsked, List.nodup_cons]
      constructor
      · split
        · exact List.not_mem_nil
        · intro again
          have := ((mem_pagesAsked remaining (index + 1)).1 again).1
          omega
      · split
        · exact List.nodup_nil
        · exact ih (index + 1)

theorem mem_slice_iff {ι : Type} {before after : List ι} {entry : ι} (distinct : (before ++ entry :: after).Nodup)
    {size page : Nat} :
    entry ∈ slice size page (before ++ entry :: after) ↔
      page * size ≤ before.length ∧ before.length < (page + 1) * size := by
  have here : (before ++ entry :: after)[before.length]? = some entry := by simp
  have alone : ∀ position, (before ++ entry :: after)[position]? = some entry → position = before.length := by
    intro position found
    have within := (List.getElem?_eq_some_iff.1 found).1
    exact (List.getElem?_inj within distinct).1 (found.trans here.symm)
  rw [slice, List.mem_iff_getElem?]
  simp only [List.getElem?_take, List.getElem?_drop]
  constructor
  · intro shown
    obtain ⟨position, found⟩ := shown
    split at found
    · rename_i small
      have same := alone _ found
      rw [Nat.succ_mul]
      omega
    · cases found
  · intro shown
    obtain ⟨least, most⟩ := shown
    rw [Nat.succ_mul] at most
    refine ⟨before.length - page * size, ?_⟩
    rw [if_pos (by omega), Nat.add_sub_of_le least]
    exact here

section Positions

variable {α κ : Type} [LinearOrder κ] (key : α → κ)

/-- How many rows certainly come before a row. -/
def older (rows : List α) (row : α) : Nat := (rows.filter fun other => decide (key other < key row)).length

/-- How many rows, itself included, may come up to a row. -/
def asOld (rows : List α) (row : α) : Nat := (rows.filter fun other => decide (key other ≤ key row)).length

variable {key} {rows : List α} {row : α}

theorem older_lt_asOld (member : row ∈ rows) : older key rows row < asOld key rows row := by
  obtain ⟨before, after, rfl⟩ := List.append_of_mem member
  have smaller : ∀ others : List α, (others.filter fun other => decide (key other < key row)).length
      ≤ (others.filter fun other => decide (key other ≤ key row)).length := by
    intro others
    refine (List.monotone_filter_right others ?_).length_le
    intro other earlier
    simpa using (of_decide_eq_true earlier).le
  have first := smaller before
  have second := smaller after
  simp only [older, asOld, List.filter_append, List.length_append, List.filter_cons, lt_irrefl, le_refl, decide_true,
    decide_false, if_true, if_false, List.length_cons, Bool.false_eq_true]
  omega

/-- However the query orders equal keys, a row comes after the older ones and among those as old. -/
theorem position_bounds {before after : List α} (arranges : Arranges key rows (before ++ row :: after)) :
    older key rows row ≤ before.length ∧ before.length < asOld key rows row := by
  obtain ⟨frontSorted, backSorted, across⟩ := List.pairwise_append.mp arranges.sorted
  have late := (List.pairwise_cons.mp backSorted).1
  have counted : ∀ selects : α → Bool, (rows.filter selects).length
      = (before.filter selects).length + ((row :: after).filter selects).length := by
    intro selects
    rw [← (arranges.perm.filter selects).length_eq, List.filter_append, List.length_append]
  constructor
  · have none : (row :: after).filter (fun other => decide (key other < key row)) = [] := by
      rw [List.filter_eq_nil_iff]
      intro other listed
      rcases List.mem_cons.mp listed with rfl | later
      · simp
      · simpa using late other later
    rw [older, counted, none]
    exact List.length_filter_le _ _
  · have all : before.filter (fun other => decide (key other ≤ key row)) = before := by
      rw [List.filter_eq_self]
      intro other listed
      exact decide_eq_true (across other listed row List.mem_cons_self)
    rw [asOld, counted, all, List.filter_cons_of_pos (by simp), List.length_cons]
    omega

section Ties

variable [DecidableEq α]

/-- The other rows of the same key. -/
def tiesOf (key : α → κ) (rows : List α) (row : α) : List α :=
  (rows.erase row).filter fun other => decide (key other = key row)

theorem older_erase (member : row ∈ rows) :
    ((rows.erase row).filter fun other => decide (key other < key row)).length = older key rows row := by
  have counted := ((List.perm_cons_erase member).filter fun other => decide (key other < key row)).length_eq
  rw [List.filter_cons_of_neg (by simp)] at counted
  exact counted.symm

/-- The older rows and some of the others are all different. -/
theorem nodup_older_append (distinct : rows.Nodup) {ties : List α} (chosen : ties.Sublist (tiesOf key rows row)) :
    (((rows.erase row).filter fun other => decide (key other < key row)) ++ ties).Nodup := by
  have others : (rows.erase row).Nodup := distinct.erase row
  refine List.nodup_append.mpr ⟨others.filter _, (others.filter _).sublist chosen, ?_⟩
  rintro other strict _ tied rfl
  have earlier : key other < key row := by simpa using (List.mem_filter.1 strict).2
  have same : key other = key row := by simpa using (List.mem_filter.1 (chosen.subset tied)).2
  exact absurd same earlier.ne

theorem asOld_eq (distinct : rows.Nodup) (member : row ∈ rows) :
    asOld key rows row = older key rows row + (tiesOf key rows row).length + 1 := by
  have split : ((rows.erase row).filter fun other => decide (key other ≤ key row)).Perm
      (((rows.erase row).filter fun other => decide (key other < key row)) ++ tiesOf key rows row) := by
    refine (List.perm_ext_iff_of_nodup ((distinct.erase row).filter _) (nodup_older_append distinct (.refl _))).2 ?_
    intro other
    simp only [tiesOf, List.mem_append, List.mem_filter, decide_eq_true_eq, le_iff_lt_or_eq, and_or_left]
  have counted := ((List.perm_cons_erase member).filter fun other => decide (key other ≤ key row)).length_eq
  rw [List.filter_cons_of_pos (by simp), List.length_cons, split.length_eq, List.length_append,
    older_erase member] at counted
  exact counted

/-- The query may return a row at any position between these. -/
theorem exists_arranges_at (distinct : rows.Nodup) (member : row ∈ rows) {position : Nat}
    (least : older key rows row ≤ position) (most : position < asOld key rows row) :
    ∃ before after, Arranges key rows (before ++ row :: after) ∧ before.length = position := by
  obtain ⟨ties, chosen⟩ : ∃ ties, ties = (tiesOf key rows row).take (position - older key rows row) := ⟨_, rfl⟩
  have among : ties.Sublist (tiesOf key rows row) := chosen ▸ List.take_sublist _ _
  have tied : ∀ other ∈ ties, other ∈ rows.erase row ∧ key other = key row := by
    intro other listed
    simpa using List.mem_filter.1 (among.subset listed)
  have around := @arranges_around _ _ _ key _ rows row member
    (fun other => decide (key other < key row) || decide (other ∈ ties)) ?_ ?_
  · refine ⟨_, _, around, ?_⟩
    have early : ((rows.erase row).filter fun other => decide (key other < key row) || decide (other ∈ ties)).Perm
        (((rows.erase row).filter fun other => decide (key other < key row)) ++ ties) := by
      refine (List.perm_ext_iff_of_nodup ((distinct.erase row).filter _) (nodup_older_append distinct among)).2 ?_
      intro other
      simp only [List.mem_append, List.mem_filter, Bool.or_eq_true, decide_eq_true_eq, and_or_left]
      exact or_congr_right ⟨fun listed => listed.2, fun listed => ⟨(tied other listed).1, listed⟩⟩
    have many : ties.length = position - older key rows row := by
      have total := @asOld_eq _ _ _ key _ _ _ distinct member
      rw [chosen, List.length_take]
      omega
    rw [(arranges_sortedBy key _).perm.length_eq, early.length_eq, List.length_append, older_erase member, many]
    omega
  · intro other early
    rcases Bool.or_eq_true_iff.1 early with strict | listed
    · exact (of_decide_eq_true strict).le
    · exact (tied other (of_decide_eq_true listed)).2.le
  · intro other late
    exact not_lt.1 (of_decide_eq_false (Bool.or_eq_false_iff.1 late).1)

end Ties

end Positions

section Pages

variable {α ι κ : Type} [LinearOrder κ] (ident : α → ι) (key : α → κ)

/-- However equal keys are ordered, the entry is on the page. -/
def SurelyOn (size page : Nat) (rows : List α) (entry : ι) : Prop :=
  ∃ row ∈ rows, ident row = entry ∧ page * size ≤ older key rows row ∧ asOld key rows row ≤ (page + 1) * size

/-- However equal keys are ordered, the entry is before the page or beyond it. -/
def SurelyOff (size page : Nat) (rows : List α) (entry : ι) : Prop :=
  ∀ row ∈ rows, ident row = entry → asOld key rows row ≤ page * size ∨ (page + 1) * size ≤ older key rows row

variable {ident key} {size page : Nat} {rows : List α} {entry : ι}

theorem map_slice (rows : List α) : (slice size page rows).map ident = slice size page (rows.map ident) := by
  simp only [slice, List.map_take, List.map_drop]

theorem mem_page_iff (distinct : (rows.map ident).Nodup) {before after : List α} {row : α}
    (arranges : Arranges key rows (before ++ row :: after)) :
    ident row ∈ (slice size page (before ++ row :: after)).map ident ↔
      page * size ≤ before.length ∧ before.length < (page + 1) * size := by
  have once : ((before ++ row :: after).map ident).Nodup := ((arranges.perm.map ident).nodup_iff).2 distinct
  rw [List.map_append, List.map_cons] at once
  rw [map_slice, List.map_append, List.map_cons, mem_slice_iff once, List.length_map]

theorem exists_row_of_mem_page {arranged : List α} (arranges : Arranges key rows arranged)
    (shown : entry ∈ (slice size page arranged).map ident) : ∃ row ∈ rows, ident row = entry := by
  obtain ⟨row, listed, named⟩ := List.mem_map.1 shown
  exact ⟨row, arranges.perm.mem_iff.1 (List.mem_of_mem_drop (List.mem_of_mem_take listed)), named⟩

theorem surelyOn_iff (distinct : (rows.map ident).Nodup) :
    SurelyOn ident key size page rows entry ↔
      ∀ arranged, Arranges key rows arranged → entry ∈ (slice size page arranged).map ident := by
  classical
  constructor
  · rintro ⟨row, member, rfl, least, most⟩ arranged arranges
    obtain ⟨before, after, rfl⟩ := List.append_of_mem (arranges.perm.mem_iff.2 member)
    have bounds := position_bounds arranges
    exact (mem_page_iff distinct arranges).2 ⟨by omega, by omega⟩
  · intro always
    obtain ⟨row, member, rfl⟩ := exists_row_of_mem_page (arranges_sortedBy key rows) (always _ (arranges_sortedBy key rows))
    have room := @older_lt_asOld _ _ _ key _ _ member
    obtain ⟨_, _, first, least⟩ := exists_arranges_at (List.Nodup.of_map ident distinct) member le_rfl room
    obtain ⟨_, _, last, most⟩ := exists_arranges_at (List.Nodup.of_map ident distinct) member (Nat.le_sub_one_of_lt room)
      (Nat.sub_one_lt_of_lt room)
    have low := (mem_page_iff distinct first).1 (always _ first)
    have high := (mem_page_iff distinct last).1 (always _ last)
    exact ⟨row, member, rfl, by omega, by omega⟩

theorem surelyOff_iff (distinct : (rows.map ident).Nodup) :
    SurelyOff ident key size page rows entry ↔
      ∀ arranged, Arranges key rows arranged → entry ∉ (slice size page arranged).map ident := by
  classical
  constructor
  · intro off arranged arranges shown
    obtain ⟨row, member, rfl⟩ := exists_row_of_mem_page arranges shown
    obtain ⟨before, after, rfl⟩ := List.append_of_mem (arranges.perm.mem_iff.2 member)
    have bounds := position_bounds arranges
    have inside := (mem_page_iff distinct arranges).1 shown
    have outside := off row member rfl
    omega
  · rintro never row member rfl
    by_contra inside
    obtain ⟨beyond, before⟩ := not_or.1 inside
    have room := @older_lt_asOld _ _ _ key _ _ member
    have widen : (page + 1) * size = page * size + size := Nat.succ_mul page size
    have positive : 0 < size := by
      by_contra none
      obtain rfl : size = 0 := Nat.eq_zero_of_not_pos none
      exact before (by simp)
    obtain ⟨_, _, arranges, at_⟩ := exists_arranges_at (List.Nodup.of_map ident distinct) member
      (Nat.le_max_left (older key rows row) (page * size)) (by omega)
    exact never _ arranges ((mem_page_iff distinct arranges).2 ⟨by omega, by omega⟩)

end Pages

section Sweeps

variable {α : Type}

/-- What a sweep yields: `arranged` is what the query returns at each fetch. -/
def sweep (size : Nat) (arranged : Nat → List α) (remaining index : Nat) : List α :=
  (pagesAsked size (fun page => (arranged page).length) remaining index).flatMap fun page => slice size page (arranged page)

theorem sweep_last {size : Nat} {arranged : Nat → List α} (remaining : Nat) {index : Nat}
    (last : (arranged index).length ≤ (index + 1) * size) :
    sweep size arranged (remaining + 1) index = slice size index (arranged index) := by
  simp [sweep, pagesAsked, last]

theorem sweep_more {size : Nat} {arranged : Nat → List α} (remaining : Nat) {index : Nat}
    (more : ¬(arranged index).length ≤ (index + 1) * size) :
    sweep size arranged (remaining + 1) index
      = slice size index (arranged index) ++ sweep size arranged remaining (index + 1) := by
  simp [sweep, pagesAsked, more]

/-- Something is in several lists once in all exactly if one of them has it and no other. -/
theorem count_flatMap_eq_one {ι : Type} [DecidableEq ι] {pages : List Nat} (distinct : pages.Nodup)
    {shown : Nat → List ι} (once : ∀ page ∈ pages, (shown page).Nodup) (entry : ι) :
    (pages.flatMap shown).count entry = 1 ↔
      ∃ page ∈ pages, entry ∈ shown page ∧ ∀ other ∈ pages, other ≠ page → entry ∉ shown other := by
  induction pages with
  | nil => simp
  | cons page rest ih =>
      obtain ⟨fresh, others⟩ := List.nodup_cons.1 distinct
      have onward := ih others fun other listed => once other (List.mem_cons_of_mem _ listed)
      rw [List.flatMap_cons, List.count_append]
      by_cases here : entry ∈ shown page
      · rw [List.count_eq_one_of_mem (once page List.mem_cons_self) here, Nat.add_eq_left, List.count_eq_zero]
        constructor
        · intro nowhere
          refine ⟨page, List.mem_cons_self, here, fun other listed different => ?_⟩
          have later := (List.mem_cons.1 listed).resolve_left different
          exact fun again => nowhere (List.mem_flatMap.2 ⟨other, later, again⟩)
        · rintro ⟨first, _, there, only⟩ again
          obtain ⟨other, later, shownThere⟩ := List.mem_flatMap.1 again
          have same : page = first := by
            by_contra different
            exact only page List.mem_cons_self different here
          subst same
          exact only other (List.mem_cons_of_mem _ later) (fun same => fresh (same ▸ later)) shownThere
      · rw [List.count_eq_zero_of_not_mem here, Nat.zero_add, onward]
        constructor
        · rintro ⟨first, listed, there, only⟩
          refine ⟨first, List.mem_cons_of_mem _ listed, there, fun other otherListed different => ?_⟩
          rcases List.mem_cons.1 otherListed with rfl | later
          · exact here
          · exact only other later different
        · rintro ⟨first, listed, there, only⟩
          have later := (List.mem_cons.1 listed).resolve_left fun same => here (same ▸ there)
          exact ⟨first, later, there, fun other otherListed => only other (List.mem_cons_of_mem _ otherListed)⟩

variable {ι κ : Type} [DecidableEq ι] [LinearOrder κ] {ident : α → ι} {key : α → κ} {rows : Nat → List α}

theorem count_sweep_eq_one (distinct : ∀ page, ((rows page).map ident).Nodup) {arranged : Nat → List α}
    (arranges : ∀ page, Arranges key (rows page) (arranged page)) (size limit : Nat) (entry : ι) :
    ((sweep size arranged limit 0).map ident).count entry = 1 ↔
      ∃ page ∈ pagesAsked size (fun page => (rows page).length) limit 0,
        entry ∈ (slice size page (arranged page)).map ident ∧
          ∀ other ∈ pagesAsked size (fun page => (rows page).length) limit 0, other ≠ page →
            entry ∉ (slice size other (arranged other)).map ident := by
  have lengths : (fun page => (arranged page).length) = fun page => (rows page).length :=
    funext fun page => (arranges page).perm.length_eq
  have once : ∀ page, ((slice size page (arranged page)).map ident).Nodup := by
    intro page
    have whole : ((arranged page).map ident).Nodup := (((arranges page).perm.map ident).nodup_iff).2 (distinct page)
    refine whole.sublist (List.Sublist.map ident ?_)
    exact (List.take_sublist _ _).trans (List.drop_sublist _ _)
  rw [sweep, lengths, List.map_flatMap]
  exact count_flatMap_eq_one (pagesAsked_nodup _ _ _ _) (fun page _ => once page) entry

/-- A sweep yields an entry once, however the query orders equal keys at each fetch, exactly if the entry is surely on
one of the pages when that is fetched and surely off every other. -/
theorem sweep_once_iff (distinct : ∀ page, ((rows page).map ident).Nodup) (size limit : Nat) (entry : ι) :
    (∀ arranged : Nat → List α, (∀ page, Arranges key (rows page) (arranged page)) →
        ((sweep size arranged limit 0).map ident).count entry = 1) ↔
      ∃ page ∈ pagesAsked size (fun page => (rows page).length) limit 0, SurelyOn ident key size page (rows page) entry ∧
        ∀ other ∈ pagesAsked size (fun page => (rows page).length) limit 0, other ≠ page →
          SurelyOff ident key size other (rows other) entry := by
  constructor
  · intro always
    have sorted : ∀ page, Arranges key (rows page) (sortedBy key (rows page)) := fun page => arranges_sortedBy key _
    obtain ⟨page, asked, shown, only⟩ := (count_sweep_eq_one distinct sorted size limit entry).1 (always _ sorted)
    -- another order at one fetch changes nothing at the others
    have reordered : ∀ (at_ : Nat) (other : List α), Arranges key (rows at_) other →
        ∀ page, Arranges key (rows page) (Function.update (fun page => sortedBy key (rows page)) at_ other page) := by
      intro at_ other arranges page
      by_cases same : page = at_
      · subst same
        simpa using arranges
      · simpa [same] using sorted page
    refine ⟨page, asked, (surelyOn_iff (distinct page)).2 fun arranged arranges => ?_, fun other listed different =>
      (surelyOff_iff (distinct other)).2 fun arranged arranges again => ?_⟩
    · obtain ⟨first, firstAsked, there, _⟩ := (count_sweep_eq_one distinct (reordered page arranged arranges) size limit
        entry).1 (always _ (reordered page arranged arranges))
      by_cases same : first = page
      · subst same
        simpa using there
      · rw [Function.update_of_ne same] at there
        exact absurd there (only first firstAsked same)
    · obtain ⟨first, firstAsked, there, alone⟩ := (count_sweep_eq_one distinct (reordered other arranged arranges) size
        limit entry).1 (always _ (reordered other arranged arranges))
      have onPage : page = first := by
        by_contra apart
        refine alone page asked apart ?_
        rw [Function.update_of_ne (Ne.symm different)]
        exact shown
      have onOther : other = first := by
        by_contra apart
        refine alone other listed apart ?_
        rw [Function.update_self]
        exact again
      exact different (onOther.trans onPage.symm)
  · rintro ⟨page, asked, on_, off⟩ arranged arranges
    refine (count_sweep_eq_one distinct arranges size limit entry).2 ⟨page, asked, ?_, fun other listed different => ?_⟩
    · exact (surelyOn_iff (distinct page)).1 on_ _ (arranges page)
    · exact (surelyOff_iff (distinct other)).1 (off other listed different) _ (arranges other)

end Sweeps

section Shrinking

/-- Positions that only decrease while the pages go on meet exactly one page unless they fall behind between two. -/
theorem on_one_page_iff {size count : Nat} {lowest highest : Nat → Nat} (asked : 0 < count)
    (lower : ∀ page, page + 1 < count → lowest (page + 1) ≤ lowest page)
    (higher : ∀ page, page + 1 < count → highest (page + 1) ≤ highest page)
    (reached : highest (count - 1) ≤ count * size) :
    (∃ page < count, (page * size ≤ lowest page ∧ highest page ≤ (page + 1) * size) ∧
        ∀ other < count, other ≠ page → highest other ≤ other * size ∨ (other + 1) * size ≤ lowest other) ↔
      ∀ page, page + 1 < count → highest page ≤ (page + 1) * size ∨ (page + 1) * size ≤ lowest (page + 1) := by
  have lowerUpTo : ∀ first last, first ≤ last → last < count → lowest last ≤ lowest first := by
    intro first last order
    induction last, order using Nat.le_induction with
    | base => exact fun _ => le_rfl
    | succ last _ ih => exact fun within => (lower last within).trans (ih (by omega))
  have higherUpTo : ∀ first last, first ≤ last → last < count → highest last ≤ highest first := by
    intro first last order
    induction last, order using Nat.le_induction with
    | base => exact fun _ => le_rfl
    | succ last _ ih => exact fun within => (higher last within).trans (ih (by omega))
  constructor
  · rintro ⟨page, within, ⟨least, most⟩, _⟩ earlier next
    rcases Nat.lt_or_ge earlier page with before | later
    · refine .inr (.trans ?_ (least.trans (lowerUpTo (earlier + 1) page before within)))
      exact Nat.mul_le_mul_right size before
    · refine .inl (((higherUpTo page earlier later (by omega)).trans most).trans ?_)
      exact Nat.mul_le_mul_right size (by omega)
  · intro steady
    have some : ∃ page, highest page ≤ (page + 1) * size := ⟨count - 1, by rwa [Nat.sub_add_cancel asked]⟩
    classical
    obtain ⟨page, most, first⟩ : ∃ page, highest page ≤ (page + 1) * size ∧
        ∀ earlier < page, ¬highest earlier ≤ (earlier + 1) * size :=
      ⟨Nat.find some, Nat.find_spec some, fun earlier before => Nat.find_min some before⟩
    have within : page < count := by
      by_contra beyond
      exact first (count - 1) (by omega) (by rwa [Nat.sub_add_cancel asked])
    refine ⟨page, within, ⟨?_, most⟩, fun other otherWithin different => ?_⟩
    · cases page with
      | zero => simp
      | succ earlier => exact (steady earlier within).resolve_left (first earlier (Nat.lt_succ_self _))
    · rcases Nat.lt_or_gt_of_ne different with before | later
      · refine .inr (((steady other (by omega)).resolve_left (first other before)).trans ?_)
        exact lower other (by omega)
      · refine .inl (((higherUpTo page other later.le otherWithin).trans most).trans ?_)
        exact Nat.mul_le_mul_right size later

theorem pagesAsked_eq_range' (size : Nat) (lengths : Nat → Nat) (remaining : Nat) :
    ∀ index, ∃ count, pagesAsked size lengths remaining index = List.range' index count := by
  induction remaining with
  | zero => exact fun _ => ⟨0, rfl⟩
  | succ remaining ih =>
      intro index
      obtain ⟨count, rest⟩ := ih (index + 1)
      by_cases last : lengths index ≤ (index + 1) * size
      · exact ⟨1, by simp [pagesAsked, last]⟩
      · exact ⟨count + 1, by simp [pagesAsked, last, rest, List.range'_succ]⟩

/-- The pages asked are the first ones, and the last of them is the end unless the limit is reached. -/
theorem exists_pagesAsked (size : Nat) (lengths : Nat → Nat) (limit : Nat) :
    ∃ count ≤ limit, (∀ page, page ∈ pagesAsked size lengths limit 0 ↔ page < count) ∧
      (0 < limit → 0 < count) ∧ (count < limit → 0 < count → lengths (count - 1) ≤ count * size) := by
  obtain ⟨count, pages⟩ := pagesAsked_eq_range' size lengths limit 0
  have listed : ∀ page, page ∈ pagesAsked size lengths limit 0 ↔ page < count := by
    intro page
    rw [pages, List.mem_range'_1]
    omega
  have within : ∀ page, page < count → page < limit := by
    intro page asked
    have bounds := ((mem_pagesAsked limit 0).1 ((listed page).2 asked)).2.1
    omega
  refine ⟨count, ?_, listed, ?_, ?_⟩
  · by_contra beyond
    exact absurd (within limit (not_le.1 beyond)) (lt_irrefl _)
  · intro some
    have first : (0 : Nat) ∈ pagesAsked size lengths limit 0 :=
      (mem_pagesAsked limit 0).2 ⟨le_rfl, by omega, fun _ _ before => absurd before (Nat.not_lt_zero _)⟩
    exact (listed 0).1 first
  · intro short some
    by_contra more
    have last := ((mem_pagesAsked limit 0).1 ((listed (count - 1)).2 (by omega))).2.2
    have beyond : count ∈ pagesAsked size lengths limit 0 := by
      refine (mem_pagesAsked limit 0).2 ⟨Nat.zero_le _, by omega, fun earlier first before => ?_⟩
      rcases Nat.lt_or_ge earlier (count - 1) with inside | edge
      · exact last earlier first inside
      · obtain rfl : earlier = count - 1 := by omega
        rw [Nat.sub_add_cancel some]
        exact not_le.1 more
    exact absurd ((listed count).1 beyond) (lt_irrefl _)

section Rows

variable {α ι κ : Type} [LinearOrder κ] {ident : α → ι} {key : α → κ}

/-- Nothing is in the later rows that was not, under the same key, in the earlier ones. -/
def Narrows (ident : α → ι) (key : α → κ) (rows next : List α) : Prop :=
  ∀ row ∈ next, ∃ earlier ∈ rows, ident earlier = ident row ∧ key earlier = key row

omit [LinearOrder κ] in
theorem length_filter_le_of_narrows {rows next : List α} (narrows : Narrows ident key rows next)
    (distinct : (next.map ident).Nodup) (selects : κ → Bool) :
    (next.filter fun row => selects (key row)).length ≤ (rows.filter fun row => selects (key row)).length := by
  have once : ((next.filter fun row => selects (key row)).map ident).Nodup :=
    distinct.sublist (List.filter_sublist.map ident)
  have among : (next.filter fun row => selects (key row)).map ident ⊆ (rows.filter fun row => selects (key row)).map ident := by
    intro entry listed
    obtain ⟨row, kept, rfl⟩ := List.mem_map.1 listed
    obtain ⟨member, selected⟩ := List.mem_filter.1 kept
    obtain ⟨earlier, there, named, same⟩ := narrows row member
    exact List.mem_map.2 ⟨earlier, List.mem_filter.2 ⟨there, by rwa [same]⟩, named⟩
  simpa only [List.length_map] using (List.subperm_of_subset once among).length_le

/-- While rows only leave the query, an entry that stays is on exactly one page unless, between two fetches, it may fall
behind the offset of the next page. -/
theorem on_one_page_of_narrows_iff {rows : Nat → List α} (distinct : ∀ page, ((rows page).map ident).Nodup)
    (narrows : ∀ page, Narrows ident key (rows page) (rows (page + 1))) {size limit : Nat}
    (fits : (rows 0).length ≤ limit * size) {staying : Nat → α} {entry : ι} (named : ∀ page, ident (staying page) = entry)
    (kept : ∀ page, key (staying page) = key (staying 0)) (start : staying 0 ∈ rows 0)
    (stays : ∀ page ∈ pagesAsked size (fun page => (rows page).length) limit 0, staying page ∈ rows page) :
    (∃ page ∈ pagesAsked size (fun page => (rows page).length) limit 0, SurelyOn ident key size page (rows page) entry ∧
        ∀ other ∈ pagesAsked size (fun page => (rows page).length) limit 0, other ≠ page →
          SurelyOff ident key size other (rows other) entry) ↔
      ∀ page, page + 1 ∈ pagesAsked size (fun page => (rows page).length) limit 0 →
        asOld key (rows page) (staying page) ≤ (page + 1) * size ∨
          (page + 1) * size ≤ older key (rows (page + 1)) (staying (page + 1)) := by
  obtain ⟨count, within, listed, some, ended⟩ := exists_pagesAsked size (fun page => (rows page).length) limit
  simp only [listed] at stays ⊢
  have limited : 0 < limit := by
    by_contra none
    have empty : (rows 0).length = 0 := by
      obtain rfl : limit = 0 := Nat.eq_zero_of_not_pos none
      simpa using fits
    exact List.not_mem_nil (List.length_eq_zero_iff.1 empty ▸ start)
  have asked := some limited
  have unique : ∀ page < count, ∀ row ∈ rows page, ident row = entry → row = staying page := by
    intro page inside row member same
    exact List.inj_on_of_nodup_map (distinct page) member (stays page inside) (same.trans (named page).symm)
  have fewer : ∀ (selects : κ → Bool) page, (((rows (page + 1)).filter fun row => selects (key row)).length
      ≤ ((rows page).filter fun row => selects (key row)).length) :=
    fun selects page => length_filter_le_of_narrows (narrows page) (distinct (page + 1)) selects
  have lower : ∀ page, older key (rows (page + 1)) (staying (page + 1)) ≤ older key (rows page) (staying page) := by
    intro page
    simpa only [older, kept (page + 1), kept page] using fewer (fun value => decide (value < key (staying 0))) page
  have higher : ∀ page, asOld key (rows (page + 1)) (staying (page + 1)) ≤ asOld key (rows page) (staying page) := by
    intro page
    simpa only [asOld, kept (page + 1), kept page] using fewer (fun value => decide (value ≤ key (staying 0))) page
  have shorter : ∀ page, (rows page).length ≤ (rows 0).length := by
    intro page
    induction page with
    | zero => exact le_rfl
    | succ page ih => exact (by simpa using fewer (fun _ => true) page : _ ≤ _).trans ih
  have reached : asOld key (rows (count - 1)) (staying (count - 1)) ≤ count * size := by
    refine (List.length_filter_le _ _).trans ?_
    rcases Nat.lt_or_eq_of_le within with short | full
    · exact ended short asked
    · exact full ▸ (shorter (count - 1)).trans fits
  have position := @on_one_page_iff size count (fun page => older key (rows page) (staying page))
    (fun page => asOld key (rows page) (staying page)) asked (fun page _ => lower page) (fun page _ => higher page) reached
  rw [← position]
  refine exists_congr fun page => and_congr_right fun inside => and_congr ?_ ?_
  · constructor
    · rintro ⟨row, member, same, bounds⟩
      obtain rfl := unique page inside row member same
      exact bounds
    · intro bounds
      exact ⟨staying page, stays page inside, named page, bounds⟩
  · refine forall_congr' fun other => forall_congr' fun otherInside => imp_congr_right fun _ => ?_
    constructor
    · intro off
      exact off _ (stays other otherInside) (named other)
    · intro outside row member same
      obtain rfl := unique other otherInside row member same
      exact outside

end Rows

end Shrinking

section Unchanging

variable {α κ : Type} [LinearOrder κ] (key : α → κ)

/-- Rows of equal keys all come before or all come after each page boundary. -/
def TiesKeepPages (size : Nat) (rows : List α) : Prop :=
  ∀ row ∈ rows, ∀ page, asOld key rows row ≤ page * size ∨ page * size ≤ older key rows row

variable {key} {rows : List α}

/-- More pages than the rows fill change nothing. -/
theorem sweep_succ {arranged : Nat → List α} (arranges : ∀ page, Arranges key rows (arranged page)) {size : Nat}
    (remaining : Nat) : ∀ index, 0 < remaining → rows.length ≤ (index + remaining) * size →
      sweep size arranged (remaining + 1) index = sweep size arranged remaining index := by
  induction remaining with
  | zero => exact fun _ positive => absurd positive (lt_irrefl 0)
  | succ remaining ih =>
      intro index _ enough
      by_cases last : (arranged index).length ≤ (index + 1) * size
      · rw [sweep_last _ last, sweep_last _ last]
      · rw [sweep_more _ last, sweep_more _ last]
        have length := (arranges index).perm.length_eq
        have next : rows.length ≤ (index + 1 + remaining) * size := by
          rwa [Nat.add_right_comm, Nat.add_assoc]
        have room : 0 < remaining := by
          by_contra none
          obtain rfl : remaining = 0 := Nat.eq_zero_of_not_pos none
          exact last (length ▸ enough)
        rw [ih (index + 1) room next]

theorem sweep_fuel {arranged : Nat → List α} (arranges : ∀ page, Arranges key rows (arranged page)) {size : Nat}
    (positive : 1 ≤ size) {fuel : Nat} (enough : rows.length < fuel) :
    sweep size arranged fuel 0 = sweep size arranged (rows.length + 1) 0 := by
  induction fuel, enough using Nat.le_induction with
  | base => rfl
  | succ fuel longer ih =>
      rw [← ih]
      apply sweep_succ arranges fuel 0 (Nat.lt_of_lt_of_le (Nat.succ_pos _) longer)
      calc rows.length ≤ fuel := Nat.le_of_succ_le longer
        _ ≤ (0 + fuel) * size := by rw [Nat.zero_add]; exact Nat.le_mul_of_pos_right fuel positive

theorem mem_of_mem_sweep {arranged : Nat → List α} (arranges : ∀ page, Arranges key rows (arranged page))
    {size limit : Nat} {row : α} (listed : row ∈ sweep size arranged limit 0) : row ∈ rows := by
  obtain ⟨page, _, shown⟩ := List.mem_flatMap.1 listed
  exact (arranges page).perm.mem_iff.1 (List.mem_of_mem_drop (List.mem_of_mem_take shown))

theorem sweep_perm_iff_count [DecidableEq α] (distinct : rows.Nodup) {arranged : Nat → List α}
    (arranges : ∀ page, Arranges key rows (arranged page)) (size limit : Nat) :
    (sweep size arranged limit 0).Perm rows ↔ ∀ row ∈ rows, (sweep size arranged limit 0).count row = 1 := by
  constructor
  · intro same row member
    rw [same.count_eq]
    exact List.count_eq_one_of_mem distinct member
  · intro once
    apply List.perm_iff_count.2
    intro row
    by_cases member : row ∈ rows
    · rw [once row member, List.count_eq_one_of_mem distinct member]
    · have absent : row ∉ sweep size arranged limit 0 := fun listed => member (mem_of_mem_sweep arranges listed)
      rw [List.count_eq_zero_of_not_mem absent, List.count_eq_zero_of_not_mem member]

/-- A boundary that the sweep does not reach is beyond all rows. -/
theorem keepPages_iff_of_asked {size limit : Nat} (fits : rows.length ≤ limit * size) (row : α) :
    (∀ page, page + 1 ∈ pagesAsked size (fun _ => rows.length) limit 0 →
        asOld key rows row ≤ (page + 1) * size ∨ (page + 1) * size ≤ older key rows row) ↔
      ∀ page, asOld key rows row ≤ page * size ∨ page * size ≤ older key rows row := by
  constructor
  · intro asked page
    cases page with
    | zero => exact .inr (by simp)
    | succ page =>
        by_cases listed : page + 1 ∈ pagesAsked size (fun _ => rows.length) limit 0
        · exact asked page listed
        · have beyond : rows.length ≤ (page + 1) * size := by
            by_contra more
            apply listed
            rw [mem_pagesAsked]
            refine ⟨Nat.zero_le _, ?_, fun earlier _ before => ?_⟩
            · by_contra late
              exact more (fits.trans (Nat.mul_le_mul_right size (by omega)))
            · exact lt_of_le_of_lt (Nat.mul_le_mul_right size before) (not_le.1 more)
          exact .inl ((List.length_filter_le _ rows).trans beyond)
  · exact fun everywhere page _ => everywhere (page + 1)

/-- A sweep over rows that do not change yields them, in some order, whatever the order of equal keys at each fetch, exactly
if no two rows of equal keys are on different sides of a page boundary. -/
theorem sweep_perm_iff (distinct : rows.Nodup) {size limit : Nat} (fits : rows.length ≤ limit * size) :
    (∀ arranged : Nat → List α, (∀ page, Arranges key rows (arranged page)) →
        (sweep size arranged limit 0).Perm rows) ↔ TiesKeepPages key size rows := by
  classical
  have named : ∀ _ : Nat, (rows.map id).Nodup := fun _ => by rwa [List.map_id]
  have narrows : ∀ _ : Nat, Narrows id key rows rows := fun _ row member => ⟨row, member, rfl, rfl⟩
  have once : ∀ row ∈ rows, (∀ arranged : Nat → List α, (∀ page, Arranges key rows (arranged page)) →
      (sweep size arranged limit 0).count row = 1) ↔
        ∀ page, asOld key rows row ≤ page * size ∨ page * size ≤ older key rows row := by
    intro row member
    have sweeps := @sweep_once_iff _ _ _ _ _ id key (fun _ => rows) named size limit row
    have position := @on_one_page_of_narrows_iff _ _ _ _ id key (fun _ => rows) named narrows size limit fits
      (fun _ => row) row (fun _ => rfl) (fun _ => rfl) member fun _ _ => member
    simp only [List.map_id] at sweeps
    rw [sweeps, position, keepPages_iff_of_asked fits]
  constructor
  · intro whole row member
    exact (once row member).1 fun arranged arranges => (sweep_perm_iff_count distinct arranges size limit).1
      (whole arranged arranges) row member
  · intro apart arranged arranges
    apply (sweep_perm_iff_count distinct arranges size limit).2
    intro row member
    exact (once row member).2 (apart row member) arranged arranges

end Unchanging

end AutomationHub.Foundation
