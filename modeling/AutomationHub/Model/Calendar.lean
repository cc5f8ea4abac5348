import AutomationHub.Model.Basic
import Mathlib.Order.Monotone.Basic
import Mathlib.Tactic.IntervalCases

/-!
The proleptic Gregorian calendar of `datetime`: dates, their ordinals, months and ISO weeks.

The first of January of year 1, a Monday, has ordinal 1.
-/

set_option autoImplicit false

namespace AutomationHub.Model

section Definitions

def isLeap (year : Nat) : Bool :=
  year % 4 == 0 && (year % 100 != 0 || year % 400 == 0)

def daysBeforeYear (year : Nat) : Nat :=
  (year - 1) * 365 + (year - 1) / 4 - (year - 1) / 100 + (year - 1) / 400

/-- The days before a month in a year that is no leap year. -/
def daysBeforeMonthTable : Nat → Nat
  | 2 => 31 | 3 => 59 | 4 => 90 | 5 => 120 | 6 => 151 | 7 => 181 | 8 => 212 | 9 => 243 | 10 => 273 | 11 => 304 | 12 => 334
  | _ => 0

def daysBeforeMonth (year month : Nat) : Nat :=
  daysBeforeMonthTable month + if 2 < month ∧ isLeap year then 1 else 0

def toOrdinal (year month day : Nat) : Nat :=
  daysBeforeYear year + daysBeforeMonth year month + day

/-- The ordinal of the Monday of the first ISO week of a year. -/
def isoWeek1Monday (year : Nat) : Nat :=
  let firstDay := toOrdinal year 1 1
  let firstWeekday := (firstDay + 6) % 7
  firstDay - firstWeekday + if 3 < firstWeekday then 7 else 0

/-- The ISO year and week of the day with the given ordinal in a year. -/
def isoCalendar (year ordinal : Nat) : Nat × Nat :=
  if ordinal < isoWeek1Monday year then (year - 1, (ordinal - isoWeek1Monday (year - 1)) / 7 + 1)
  else if 52 ≤ (ordinal - isoWeek1Monday year) / 7 ∧ isoWeek1Monday (year + 1) ≤ ordinal then (year + 1, 1)
  else (year, (ordinal - isoWeek1Monday year) / 7 + 1)

/-- The calendar date of the day that many days after the first of January of year 1. -/
def dateOf (days : Nat) : Nat × Nat × Nat := civilFromDays (days + 306)

end Definitions

section Years

theorem isLeap_iff (year : Nat) : isLeap year = true ↔ 4 ∣ year ∧ (¬100 ∣ year ∨ 400 ∣ year) := by
  simp [isLeap, Nat.dvd_iff_mod_eq_zero]

theorem daysBeforeYear_succ (year : Nat) (positive : 1 ≤ year) :
    daysBeforeYear (year + 1) = daysBeforeYear year + 365 + if isLeap year then 1 else 0 := by
  obtain ⟨before, rfl⟩ := Nat.exists_eq_add_of_le' positive
  have enough : before / 100 ≤ before * 365 := (Nat.div_le_self ..).trans (by omega)
  have hundred : 100 ∣ before + 1 → 4 ∣ before + 1 := (by decide : 4 ∣ 100).trans
  have fourHundred : 400 ∣ before + 1 → 100 ∣ before + 1 := (by decide : 100 ∣ 400).trans
  simp only [daysBeforeYear, isLeap_iff, Nat.add_sub_cancel, Nat.succ_div]
  generalize before / 4 = fours, before / 100 = hundreds, before / 400 = fourHundreds at *
  by_cases first : 4 ∣ before + 1 <;> by_cases second : 100 ∣ before + 1 <;> by_cases third : 400 ∣ before + 1 <;>
    simp only [first, second, third, if_true, if_false, true_and, false_and, or_true, or_false, not_true, not_false_iff,
      forall_const] at * <;> omega

theorem daysBeforeYear_mono {first second : Nat} (positive : 1 ≤ first) (before : first ≤ second) :
    daysBeforeYear first ≤ daysBeforeYear second := by
  induction before with
  | refl => exact Nat.le_refl _
  | step before recurse =>
      rw [daysBeforeYear_succ _ (positive.trans before), Nat.add_assoc]
      exact Nat.le_add_right_of_le recurse

end Years

section Dates

/-- The place of a day in the centuries, leap cycles and years of its era, which begin with March. -/
structure Placed (dayOfEra century cycle year dayOfYear : Nat) : Prop where
  sum : dayOfEra = 36524 * century + 1461 * cycle + 365 * year + dayOfYear
  century_le : century ≤ 3
  cycle_le : cycle ≤ 24
  year_le : year ≤ 3
  dayOfYear_le : dayOfYear ≤ 365
  leap : dayOfYear = 365 → year = 3 ∧ (cycle = 24 → century = 3)

theorem exists_placed {dayOfEra : Nat} (bounded : dayOfEra < 146097) :
    ∃ century cycle year dayOfYear, Placed dayOfEra century cycle year dayOfYear := by
  obtain ⟨century, centuryEq⟩ : ∃ century, century = min (dayOfEra / 36524) 3 := ⟨_, rfl⟩
  obtain ⟨rest, restEq⟩ : ∃ rest, rest = dayOfEra - 36524 * century := ⟨_, rfl⟩
  have restBound : rest < 36524 ∨ century = 3 ∧ rest ≤ 36524 := by omega
  obtain ⟨year, yearEq⟩ : ∃ year, year = min (rest % 1461 / 365) 3 := ⟨_, rfl⟩
  refine ⟨century, rest / 1461, year, rest % 1461 - 365 * year, ?_, ?_, ?_, ?_, ?_, ?_⟩ <;> omega

variable {dayOfEra century cycle year dayOfYear : Nat}

theorem Placed.yearOfEra (placed : Placed dayOfEra century cycle year dayOfYear) :
    (dayOfEra - dayOfEra / 1460 + dayOfEra / 36524 - dayOfEra / 146096) / 365 = 100 * century + 4 * cycle + year := by
  obtain ⟨sum, centuryLe, cycleLe, yearLe, dayLe, leap⟩ := placed
  have cycles : dayOfEra / 1460 = 25 * century + cycle +
      if 1460 ≤ 24 * century + cycle + 365 * year + dayOfYear then 1 else 0 := by
    split <;> omega
  have centuries : dayOfEra / 36524 - dayOfEra / 146096 = century ∧ dayOfEra / 146096 ≤ dayOfEra / 36524 := by
    rcases (by omega : 1461 * cycle + 365 * year + dayOfYear < 36524 ∨ dayOfEra = 146096) with before | last
    · have early : dayOfEra / 146096 = 0 := by omega
      have whole : dayOfEra / 36524 = century := by omega
      omega
    · subst last
      omega
  split at cycles <;> omega

theorem Placed.dayOfYear_eq (placed : Placed dayOfEra century cycle year dayOfYear) {yearOfEra : Nat}
    (counted : yearOfEra = 100 * century + 4 * cycle + year) :
    dayOfEra - (365 * yearOfEra + yearOfEra / 4 - yearOfEra / 100) = dayOfYear := by
  obtain ⟨sum, centuryLe, cycleLe, yearLe, dayLe, -⟩ := placed
  have fours : yearOfEra / 4 = 25 * century + cycle := by omega
  have hundreds : yearOfEra / 100 = century := by omega
  omega

/-- The month and the day of a day of the year, which begins with March. -/
def monthAndDay (dayOfYear : Nat) : Nat × Nat :=
  let shifted := (5 * dayOfYear + 2) / 153
  (if shifted < 10 then shifted + 3 else shifted - 9, dayOfYear - (153 * shifted + 2) / 5 + 1)

theorem monthAndDay_spec : ∀ dayOfYear < 366, 1 ≤ (monthAndDay dayOfYear).2 ∧
    (3 ≤ (monthAndDay dayOfYear).1 ∧ (monthAndDay dayOfYear).1 ≤ 12 ∧ dayOfYear < 306 ∧
        dayOfYear + 60 = daysBeforeMonthTable (monthAndDay dayOfYear).1 + (monthAndDay dayOfYear).2 ∧
        ((monthAndDay dayOfYear).1 < 12 → dayOfYear + 60 ≤ daysBeforeMonthTable ((monthAndDay dayOfYear).1 + 1)) ∨
      (monthAndDay dayOfYear).1 = 1 ∧ dayOfYear = 305 + (monthAndDay dayOfYear).2 ∧ (monthAndDay dayOfYear).2 ≤ 31 ∨
      (monthAndDay dayOfYear).1 = 2 ∧ dayOfYear = 336 + (monthAndDay dayOfYear).2) := by
  decide +kernel

theorem civilFromDays_eq (era : Nat) (placed : Placed dayOfEra century cycle year dayOfYear) (bounded : dayOfEra < 146097) :
    civilFromDays (146097 * era + dayOfEra) =
      (100 * century + 4 * cycle + year + era * 400 + (if (monthAndDay dayOfYear).1 ≤ 2 then 1 else 0),
        monthAndDay dayOfYear) := by
  have eraEq : (146097 * era + dayOfEra) / 146097 = era := by omega
  have dayEq : (146097 * era + dayOfEra) % 146097 = dayOfEra := by omega
  simp only [civilFromDays, eraEq, dayEq, placed.yearOfEra, placed.dayOfYear_eq rfl, monthAndDay]
  rfl

/-- The ordinal of the first day after a month. -/
def nextMonthOrdinal (year month : Nat) : Nat :=
  if month = 12 then toOrdinal (year + 1) 1 1 else toOrdinal year (month + 1) 1

/-- The date is that of the day. -/
structure IsDate (days year month day : Nat) : Prop where
  year_pos : 1 ≤ year
  month_pos : 1 ≤ month
  month_le : month ≤ 12
  day_pos : 1 ≤ day
  ordinal : toOrdinal year month day = days + 1
  within : days + 1 < nextMonthOrdinal year month

theorem daysBeforeYear_placed (placed : Placed dayOfEra century cycle year dayOfYear) (era : Nat) :
    daysBeforeYear (100 * century + 4 * cycle + year + era * 400 + 1) =
      146097 * era + 36524 * century + 1461 * cycle + 365 * year := by
  obtain ⟨-, centuryLe, cycleLe, yearLe, -, -⟩ := placed
  obtain ⟨past, pastEq⟩ : ∃ past, past = 100 * century + 4 * cycle + year + era * 400 := ⟨_, rfl⟩
  have fours : past / 4 = 25 * century + cycle + 100 * era := by omega
  have hundreds : past / 100 = century + 4 * era := by omega
  have fourHundreds : past / 400 = era := by omega
  rw [← pastEq, daysBeforeYear, Nat.add_sub_cancel, fours, hundreds, fourHundreds]
  omega

theorem isLeap_placed (placed : Placed dayOfEra century cycle year dayOfYear) (last : dayOfYear = 365) (era : Nat) :
    isLeap (100 * century + 4 * cycle + year + era * 400 + 1) = true := by
  obtain ⟨-, centuryLe, cycleLe, -, -, leap⟩ := placed
  obtain ⟨rfl, full⟩ := leap last
  rw [isLeap_iff, Nat.dvd_iff_mod_eq_zero, Nat.dvd_iff_mod_eq_zero, Nat.dvd_iff_mod_eq_zero]
  by_cases whole : cycle = 24
  · obtain rfl := full whole
    omega
  · omega

theorem isDate_dateOf (days : Nat) : IsDate days (dateOf days).1 (dateOf days).2.1 (dateOf days).2.2 := by
  obtain ⟨era, eraEq⟩ : ∃ era, era = (days + 306) / 146097 := ⟨_, rfl⟩
  obtain ⟨dayOfEra, dayEq⟩ : ∃ dayOfEra, dayOfEra = (days + 306) % 146097 := ⟨_, rfl⟩
  have bounded : dayOfEra < 146097 := by omega
  have split : days + 306 = 146097 * era + dayOfEra := by omega
  obtain ⟨century, cycle, year, dayOfYear, placed⟩ := exists_placed bounded
  have before := daysBeforeYear_placed placed era
  have leap := fun last => isLeap_placed placed last era
  have spec := monthAndDay_spec dayOfYear (by have := placed.dayOfYear_le; omega)
  have sum := placed.sum
  have last := placed.dayOfYear_le
  rw [dateOf, split, civilFromDays_eq era placed bounded]
  obtain ⟨past, pastEq⟩ : ∃ past, past = 100 * century + 4 * cycle + year + era * 400 := ⟨_, rfl⟩
  rw [← pastEq] at before leap ⊢
  generalize monthAndDay dayOfYear = date at spec ⊢
  obtain ⟨month, day⟩ := date
  dsimp only at spec ⊢
  obtain ⟨dayPos, ⟨late, monthLe, early, sameDay, other⟩ | ⟨rfl, sameDay, dayLe⟩ | ⟨rfl, sameDay⟩⟩ := spec
  · have yearPos : 1 ≤ past := by omega
    have year := daysBeforeYear_succ past yearPos
    rw [if_neg (by omega), Nat.add_zero]
    refine ⟨yearPos, by omega, monthLe, dayPos, ?_, ?_⟩
    · simp only [toOrdinal, daysBeforeMonth, show 2 < month from late, true_and]
      omega
    · by_cases december : month = 12
      · simp only [nextMonthOrdinal, if_pos december, toOrdinal, daysBeforeMonth, daysBeforeMonthTable]
        omega
      · have bound := other (by omega)
        simp only [nextMonthOrdinal, if_neg december, toOrdinal, daysBeforeMonth, show 2 < month + 1 by omega, true_and]
        omega
  · rw [if_pos (by decide)]
    refine ⟨by omega, by decide, by decide, dayPos, ?_, ?_⟩
    · simp only [toOrdinal, daysBeforeMonth, daysBeforeMonthTable, Nat.reduceLT, false_and, if_false]
      omega
    · simp only [nextMonthOrdinal, toOrdinal, daysBeforeMonth, daysBeforeMonthTable, Nat.reduceAdd, Nat.reduceEqDiff,
        Nat.reduceLT, false_and, if_false]
      omega
  · rw [if_pos (by decide)]
    refine ⟨by omega, by decide, by decide, dayPos, ?_, ?_⟩
    · simp only [toOrdinal, daysBeforeMonth, daysBeforeMonthTable, Nat.lt_irrefl, false_and, if_false]
      omega
    · simp only [nextMonthOrdinal, toOrdinal, daysBeforeMonth, daysBeforeMonthTable, Nat.reduceAdd, Nat.reduceEqDiff,
        Nat.reduceLT, true_and, if_false]
      by_cases whole : dayOfYear = 365
      · rw [leap whole, if_pos rfl]
        omega
      · omega

end Dates

section Months

/-- The ordinal of the first day of a month; the months are counted from January of year 1. -/
def firstOfMonth (index : Nat) : Nat :=
  toOrdinal (index / 12 + 1) (index % 12 + 1) 1

theorem daysBeforeMonthTable_lt : ∀ month < 12, 1 ≤ month →
    daysBeforeMonthTable month < daysBeforeMonthTable (month + 1) := by
  decide

theorem firstOfMonth_lt_succ (index : Nat) : firstOfMonth index < firstOfMonth (index + 1) := by
  by_cases december : index % 12 = 11
  · have year : (index + 1) / 12 = index / 12 + 1 := by omega
    have month : (index + 1) % 12 = 0 := by omega
    have following := daysBeforeYear_succ (index / 12 + 1) (Nat.le_add_left ..)
    simp only [firstOfMonth, year, month, december, toOrdinal, daysBeforeMonth, daysBeforeMonthTable]
    simp only [Nat.reduceAdd, Nat.reduceLT, true_and, false_and, if_false]
    omega
  · have year : (index + 1) / 12 = index / 12 := by omega
    have month : (index + 1) % 12 = index % 12 + 1 := by omega
    have longer := daysBeforeMonthTable_lt (index % 12 + 1) (by omega) (Nat.le_add_left ..)
    simp only [firstOfMonth, year, month, toOrdinal, daysBeforeMonth]
    by_cases leap : isLeap (index / 12 + 1) = true
    · simp only [leap, and_true]
      split <;> split <;> omega
    · simp only [leap, Bool.false_eq_true, and_false, if_false]
      omega

theorem firstOfMonth_strictMono : StrictMono firstOfMonth :=
  strictMono_nat_of_lt_succ firstOfMonth_lt_succ

theorem month_unique {ordinal first second : Nat} (firstStart : firstOfMonth first ≤ ordinal)
    (firstEnd : ordinal < firstOfMonth (first + 1)) (secondStart : firstOfMonth second ≤ ordinal)
    (secondEnd : ordinal < firstOfMonth (second + 1)) : first = second := by
  have notAfter := firstOfMonth_strictMono.lt_iff_lt.mp (firstStart.trans_lt secondEnd)
  have notBefore := firstOfMonth_strictMono.lt_iff_lt.mp (secondStart.trans_lt firstEnd)
  omega

/-- The number of the month of a date. -/
def monthNumber (year month : Nat) : Nat := (year - 1) * 12 + (month - 1)

variable {days year month day : Nat}

theorem IsDate.firstOfMonth_eq (date : IsDate days year month day) :
    firstOfMonth (monthNumber year month) = toOrdinal year month 1 := by
  obtain ⟨yearPos, monthPos, monthLe, -, -, -⟩ := date
  rw [firstOfMonth, show monthNumber year month / 12 + 1 = year by unfold monthNumber; omega,
    show monthNumber year month % 12 + 1 = month by unfold monthNumber; omega]

theorem IsDate.firstOfMonth_succ_eq (date : IsDate days year month day) :
    firstOfMonth (monthNumber year month + 1) = nextMonthOrdinal year month := by
  obtain ⟨yearPos, monthPos, monthLe, -, -, -⟩ := date
  rw [firstOfMonth, nextMonthOrdinal]
  split
  · rw [show (monthNumber year month + 1) / 12 + 1 = year + 1 by unfold monthNumber; omega,
      show (monthNumber year month + 1) % 12 + 1 = 1 by unfold monthNumber; omega]
  · rw [show (monthNumber year month + 1) / 12 + 1 = year by unfold monthNumber; omega,
      show (monthNumber year month + 1) % 12 + 1 = month + 1 by unfold monthNumber; omega]

theorem IsDate.firstOfMonth_le (date : IsDate days year month day) : toOrdinal year month 1 ≤ days + 1 := by
  have ordinal := date.ordinal
  have positive := date.day_pos
  unfold toOrdinal at ordinal ⊢
  omega

/-- A day from the first of a date's month and before the next month has the date's year and month. -/
theorem IsDate.same_month {other otherYear otherMonth otherDay : Nat} (date : IsDate days year month day)
    (otherDate : IsDate other otherYear otherMonth otherDay) (start : toOrdinal year month 1 ≤ other + 1)
    (finish : other + 1 < nextMonthOrdinal year month) : otherYear = year ∧ otherMonth = month := by
  rw [← date.firstOfMonth_eq] at start
  rw [← date.firstOfMonth_succ_eq] at finish
  have otherStart := otherDate.firstOfMonth_le
  have otherFinish := otherDate.within
  rw [← otherDate.firstOfMonth_eq] at otherStart
  rw [← otherDate.firstOfMonth_succ_eq] at otherFinish
  have same := month_unique otherStart otherFinish start finish
  have yearPos := date.year_pos
  have otherPos := otherDate.year_pos
  have monthBounds := And.intro date.month_pos date.month_le
  have otherBounds := And.intro otherDate.month_pos otherDate.month_le
  unfold monthNumber at same
  omega

theorem toOrdinal_first (year : Nat) : toOrdinal year 1 1 = daysBeforeYear year + 1 := by
  simp [toOrdinal, daysBeforeMonth, daysBeforeMonthTable]

theorem IsDate.year_start (date : IsDate days year month day) : daysBeforeYear year < days + 1 := by
  have ordinal := date.ordinal
  have positive := date.day_pos
  unfold toOrdinal at ordinal
  omega

theorem IsDate.year_end (date : IsDate days year month day) : days + 1 ≤ daysBeforeYear (year + 1) := by
  have last : monthNumber year month + 1 ≤ year * 12 := by
    have yearPos := date.year_pos
    have monthLe := date.month_le
    unfold monthNumber
    omega
  have bound := firstOfMonth_strictMono.monotone last
  have within := date.within
  have next : firstOfMonth (year * 12) = daysBeforeYear (year + 1) + 1 := by
    rw [firstOfMonth, Nat.mul_div_cancel _ (by decide), Nat.mul_mod_left, toOrdinal_first]
  rw [date.firstOfMonth_succ_eq, next] at bound
  omega

theorem daysBeforeMonthTable_le : ∀ month ≤ 12, daysBeforeMonthTable month ≤ 334 := by
  decide

/-- A month of a year begins by the end of another year exactly if that year is no earlier. -/
theorem firstOfMonth_le_iff {last : Nat} (positive : 1 ≤ year) (monthLe : month ≤ 12) :
    toOrdinal year month 1 ≤ daysBeforeYear (last + 1) ↔ year ≤ last := by
  constructor
  · intro before
    by_contra later
    have after := daysBeforeYear_mono (Nat.le_add_left 1 last) (by omega : last + 1 ≤ year)
    unfold toOrdinal at before
    omega
  · intro earlier
    have after := daysBeforeYear_mono (Nat.le_add_left 1 year) (Nat.add_le_add_right earlier 1)
    have longer := daysBeforeYear_succ year positive
    have table := daysBeforeMonthTable_le month monthLe
    unfold toOrdinal daysBeforeMonth
    split <;> omega

end Months

section Weeks

theorem isoWeek1Monday_mod (year : Nat) : isoWeek1Monday year % 7 = 1 := by
  have positive : 1 ≤ toOrdinal year 1 1 := Nat.le_add_left ..
  unfold isoWeek1Monday
  generalize toOrdinal year 1 1 = firstDay at *
  dsimp only
  split <;> omega

theorem isoWeek1Monday_bounds (year : Nat) :
    daysBeforeYear year < isoWeek1Monday year + 3 ∧ isoWeek1Monday year ≤ daysBeforeYear year + 4 := by
  unfold isoWeek1Monday
  rw [toOrdinal_first]
  dsimp only
  split <;> omega

theorem monday_of_isoCalendar {year ordinal : Nat} (positive : 1 ≤ year) (monday : ordinal % 7 = 1)
    (after : daysBeforeYear year < ordinal) (before : ordinal ≤ daysBeforeYear (year + 1)) :
    ordinal + 7 = isoWeek1Monday (isoCalendar year ordinal).1 + 7 * (isoCalendar year ordinal).2 := by
  have thisMonday := isoWeek1Monday_mod year
  unfold isoCalendar
  split
  · have second : 2 ≤ year := by
      by_contra first
      obtain rfl : year = 1 := by omega
      have start : isoWeek1Monday 1 = 1 := by decide
      omega
    have lastMonday := isoWeek1Monday_mod (year - 1)
    have lastBounds := isoWeek1Monday_bounds (year - 1)
    have longer := daysBeforeYear_succ (year - 1) (by omega)
    rw [Nat.sub_add_cancel positive] at longer
    dsimp only
    omega
  · split
    · have nextMonday := isoWeek1Monday_mod (year + 1)
      have nextBounds := isoWeek1Monday_bounds (year + 1)
      dsimp only
      omega
    · dsimp only
      omega

example : isoCalendar 2021 (toOrdinal 2021 1 3) = (2020, 53) := by decide

end Weeks

section Numerals

theorem toList_padded (width value : Nat) : (padded width value).toList =
    List.replicate (width - (Nat.toDigits 10 value).length) '0' ++ Nat.toDigits 10 value :=
  String.toList_ofList

theorem ofDigitChars_padded (width value : Nat) : Nat.ofDigitChars 10 (padded width value).toList 0 = value := by
  rw [toList_padded, Nat.ofDigitChars_append, Nat.ofDigitChars_replicate_zero, Nat.mul_zero,
    Nat.ofDigitChars_ten_toDigits]

theorem padded_inj {width first second : Nat} (same : (padded width first).toList = (padded width second).toList) :
    first = second := by
  rw [← ofDigitChars_padded width first, same, ofDigitChars_padded]

theorem dash_notMem_padded (width value : Nat) : '-' ∉ (padded width value).toList := by
  rw [toList_padded, List.mem_append]
  rintro (zero | digit)
  · exact absurd (List.eq_of_mem_replicate zero) (by decide)
  · have isDigit := Nat.isDigit_of_mem_toDigits (by decide) (by decide) digit
    exact absurd isDigit (by decide)

theorem append_mark_inj {α : Type} {mark : α} {front other rest otherRest : List α} (absent : mark ∉ front)
    (otherAbsent : mark ∉ other) (same : front ++ mark :: rest = other ++ mark :: otherRest) :
    front = other ∧ rest = otherRest := by
  induction front generalizing other with
  | nil =>
      cases other with
      | nil => exact ⟨rfl, (List.cons.inj same).2⟩
      | cons first others => exact absurd (List.cons.inj same).1 fun first => otherAbsent (first ▸ List.mem_cons_self)
  | cons first front recurse =>
      cases other with
      | nil => exact absurd (List.cons.inj same).1 fun first => absent (first ▸ List.mem_cons_self)
      | cons _ others =>
          obtain ⟨rfl, tails⟩ := List.cons.inj same
          obtain ⟨rfl, rest⟩ := recurse (fun member => absent (List.mem_cons_of_mem _ member))
            (fun member => otherAbsent (List.mem_cons_of_mem _ member)) tails
          exact ⟨rfl, rest⟩

theorem padded_dash_inj {width first second : Nat} {rest otherRest : List Char}
    (same : (padded width first).toList ++ '-' :: rest = (padded width second).toList ++ '-' :: otherRest) :
    first = second ∧ rest = otherRest := by
  obtain ⟨numeral, rest⟩ := append_mark_inj (dash_notMem_padded width first) (dash_notMem_padded width second) same
  exact ⟨padded_inj numeral, rest⟩

theorem toString_eq_padded (value : Nat) : toString value = padded 0 value := by
  apply String.toList_inj.mp
  rw [toList_padded, Nat.zero_sub]
  exact Nat.toList_repr

end Numerals

end AutomationHub.Model
