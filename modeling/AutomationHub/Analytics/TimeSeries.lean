import AutomationHub.Foundation.Buckets
import AutomationHub.Model.Calendar

/-!
Timestamps bucketed into the days, ISO weeks or months they fall into.
-/

set_option autoImplicit false

namespace AutomationHub.Analytics

open Foundation Model

@[irreducible] def microsecondsPerDay : Nat := 86400000000

theorem microsecondsPerDay_pos : 0 < microsecondsPerDay := by
  rw [microsecondsPerDay]
  decide

inductive TimeGranularity where
  | day
  | week
  | month
deriving DecidableEq

/-- A `datetime` in UTC, or a naive one. -/
structure Timestamp where
  instant : Datetime
  naive : Bool
  bounded : instant ≤ Datetime.max

/-- What is handed over as a timestamp; of anything else its `repr` is shown. -/
inductive TimestampValue where
  | datetime (timestamp : Timestamp)
  | other (repr : String)

inductive BucketingError where
  | aggregation (message : String)
  | overflow
  | yearOutOfRange (year : Nat)
deriving DecidableEq

abbrev TrendPoint := Bucket String Datetime ℚ

structure TimeSeries where
  granularity : TimeGranularity
  points : List TrendPoint
deriving DecidableEq

section Datetimes

/-- A naive value stands for UTC already. -/
def ensureTimezoneAware (value : Timestamp) : Timestamp := { value with naive := false }

def weekday (value : Datetime) : Nat := value / microsecondsPerDay % 7

/-- `value.replace(hour=0, minute=0, second=0, microsecond=0)`. -/
def midnight (value : Datetime) : Datetime := value / microsecondsPerDay * microsecondsPerDay

/-- `value + timedelta(days=days)`. -/
def addDays (value : Datetime) (days : Nat) : Except BucketingError Datetime :=
  if Datetime.max < value + days * microsecondsPerDay then .error .overflow
  else .ok (value + days * microsecondsPerDay)

/-- The first instant of a month. -/
def startOfMonth (year month : Nat) : Except BucketingError Datetime :=
  if 9999 < year then .error (.yearOutOfRange year) else .ok ((toOrdinal year month 1 - 1) * microsecondsPerDay)

/-- The text of `%Y` is padded to four digits by some platforms, and not padded by others. -/
def dayLabel (yearWidth : Nat) (start : Datetime) : String :=
  let (year, month, day) := dateOf (start / microsecondsPerDay)
  padded yearWidth year ++ "-" ++ padded 2 month ++ "-" ++ padded 2 day

def monthLabel (yearWidth : Nat) (start : Datetime) : String :=
  let (year, month, _) := dateOf (start / microsecondsPerDay)
  padded yearWidth year ++ "-" ++ padded 2 month

def weekLabel (start : Datetime) : String :=
  let (year, month, day) := dateOf (start / microsecondsPerDay)
  let (isoYear, isoWeek) := isoCalendar year (toOrdinal year month day)
  toString isoYear ++ "-W" ++ padded 2 isoWeek

end Datetimes

def periodBounds (yearWidth : Nat) (value : Timestamp) (granularity : TimeGranularity) :
    Except BucketingError (String × Datetime × Datetime) := do
  let normalized := ensureTimezoneAware value
  match granularity with
  | .day =>
      let start := midnight normalized.instant
      let finish ← addDays start 1
      return (dayLabel yearWidth start, start, finish)
  | .week =>
      let startOfWeek := normalized.instant - weekday normalized.instant * microsecondsPerDay
      let start := midnight startOfWeek
      let finish ← addDays start 7
      return (weekLabel start, start, finish)
  | .month =>
      let (year, month, _) := dateOf (normalized.instant / microsecondsPerDay)
      let start ← startOfMonth year month
      let finish ← if month = 12 then startOfMonth (year + 1) 1 else startOfMonth year (month + 1)
      return (monthLabel yearWidth start, start, finish)

def requireDatetime : TimestampValue → Except BucketingError Timestamp
  | .datetime timestamp => .ok timestamp
  | .other repr => .error (.aggregation ("Expected a datetime value to bucket, got " ++ repr ++ "."))

/-- The points of the buckets, by their starts. -/
def seriesOfBuckets {β : Type} (granularity : TimeGranularity) (value : β → ℚ) (buckets : List (Bucket String Datetime β)) :
    TimeSeries :=
  { granularity, points := sortedBy Bucket.periodStart (buckets.map (Bucket.mapValue value)) }

/-- Enter a timestamp in the dictionaries of the loops below. -/
def enterPeriod {β : Type} (yearWidth : Nat) (granularity : TimeGranularity) (update : Option β → β)
    (buckets : List (Bucket String Datetime β)) (value : TimestampValue) :
    Except BucketingError (List (Bucket String Datetime β)) := do
  let timestamp ← requireDatetime value
  let (label, start, finish) ← periodBounds yearWidth timestamp granularity
  return put label start finish update buckets

def buildTimeSeries (yearWidth : Nat) (timestamps : List TimestampValue) (granularity : TimeGranularity) :
    Except BucketingError TimeSeries := do
  let buckets ← timestamps.foldlM
    (fun buckets value => enterPeriod yearWidth granularity (fun count => count.getD 0 + 1) buckets value) []
  return seriesOfBuckets granularity (fun count : Nat => (count : ℚ)) buckets

def mean (values : List ℚ) : ℚ := values.sum / values.length

def buildAverageTimeSeries (yearWidth : Nat) (entries : List (TimestampValue × ℚ)) (granularity : TimeGranularity) :
    Except BucketingError TimeSeries := do
  let buckets ← entries.foldlM
    (fun buckets entry => enterPeriod yearWidth granularity (fun values => values.getD [] ++ [entry.2]) buckets entry.1) []
  return seriesOfBuckets granularity mean buckets

section Periods

/-- The first day of the period of a day. -/
def firstDay (granularity : TimeGranularity) (day : Nat) : Nat :=
  match granularity with
  | .day => day
  | .week => day - day % 7
  | .month => toOrdinal (dateOf day).1 (dateOf day).2.1 1 - 1

/-- The first day after the period of a day. -/
def nextDay (granularity : TimeGranularity) (day : Nat) : Nat :=
  match granularity with
  | .day => day + 1
  | .week => day - day % 7 + 7
  | .month => nextMonthOrdinal (dateOf day).1 (dateOf day).2.1 - 1

theorem firstDay_le (granularity : TimeGranularity) (day : Nat) : firstDay granularity day ≤ day := by
  cases granularity with
  | day => exact Nat.le_refl _
  | week => exact Nat.sub_le ..
  | month =>
      have first := (isDate_dateOf day).firstOfMonth_le
      unfold firstDay
      dsimp only
      omega

theorem lt_nextDay (granularity : TimeGranularity) (day : Nat) : day < nextDay granularity day := by
  cases granularity with
  | day => exact Nat.lt_succ_self _
  | week =>
      unfold nextDay
      dsimp only
      omega
  | month =>
      have last := (isDate_dateOf day).within
      unfold nextDay
      dsimp only
      omega

theorem same_period {granularity : TimeGranularity} {day other : Nat} (start : firstDay granularity day ≤ other)
    (finish : other < nextDay granularity day) :
    firstDay granularity other = firstDay granularity day ∧ nextDay granularity other = nextDay granularity day := by
  cases granularity with
  | day =>
      unfold firstDay nextDay at *
      dsimp only at *
      omega
  | week =>
      unfold firstDay nextDay at *
      dsimp only at *
      omega
  | month =>
      unfold firstDay nextDay at *
      dsimp only at *
      have same := (isDate_dateOf day).same_month (isDate_dateOf other) (by omega) (by omega)
      rw [same.1, same.2]
      exact ⟨rfl, rfl⟩

theorem firstDay_firstDay (granularity : TimeGranularity) (day : Nat) :
    firstDay granularity (firstDay granularity day) = firstDay granularity day :=
  (same_period (Nat.le_refl _) ((firstDay_le ..).trans_lt (lt_nextDay ..))).1

theorem nextDay_firstDay (granularity : TimeGranularity) (day : Nat) :
    nextDay granularity (firstDay granularity day) = nextDay granularity day :=
  (same_period (Nat.le_refl _) ((firstDay_le ..).trans_lt (lt_nextDay ..))).2

/-- The label of the period that starts at an instant. -/
def labelOf (yearWidth : Nat) (granularity : TimeGranularity) (start : Datetime) : String :=
  match granularity with
  | .day => dayLabel yearWidth start
  | .week => weekLabel start
  | .month => monthLabel yearWidth start

def dayOf (value : Datetime) : Nat := value / microsecondsPerDay

theorem dayOf_mul (day : Nat) : dayOf (day * microsecondsPerDay) = day :=
  Nat.mul_div_cancel day microsecondsPerDay_pos

theorem dayLabel_inj {yearWidth first second : Nat} (same : dayLabel yearWidth (first * microsecondsPerDay) =
    dayLabel yearWidth (second * microsecondsPerDay)) : first = second := by
  have firstDate := isDate_dateOf first
  have secondDate := isDate_dateOf second
  have texts := congrArg String.toList same
  simp only [dayLabel, Nat.mul_div_cancel _ microsecondsPerDay_pos, String.toList_append,
    List.append_assoc] at texts
  obtain ⟨year, texts⟩ := padded_dash_inj texts
  obtain ⟨month, texts⟩ := padded_dash_inj texts
  have day := padded_inj texts
  have ordinals := firstDate.ordinal
  rw [year, month, day, secondDate.ordinal] at ordinals
  omega

theorem monthLabel_inj {yearWidth first second : Nat} (same : monthLabel yearWidth (first * microsecondsPerDay) =
    monthLabel yearWidth (second * microsecondsPerDay)) : firstDay .month first = firstDay .month second := by
  have texts := congrArg String.toList same
  simp only [monthLabel, Nat.mul_div_cancel _ microsecondsPerDay_pos, String.toList_append,
    List.append_assoc] at texts
  obtain ⟨year, texts⟩ := padded_dash_inj texts
  simp only [firstDay, year, padded_inj texts]

theorem toList_weekLabel {start : Datetime} {day : Nat} (onDay : start / microsecondsPerDay = day) :
    (weekLabel start).toList = (padded 0 (isoCalendar (dateOf day).1 (day + 1)).1).toList ++
      '-' :: 'W' :: (padded 2 (isoCalendar (dateOf day).1 (day + 1)).2).toList := by
  have dash : "-W".toList = ['-', 'W'] := String.toList_ofList
  have ordinal := (isDate_dateOf day).ordinal
  rw [weekLabel, onDay]
  dsimp only
  rw [ordinal, toString_eq_padded, String.toList_append, String.toList_append, dash, List.append_assoc]
  rfl

theorem weekLabel_inj {first second : Nat} (firstMonday : first % 7 = 0) (secondMonday : second % 7 = 0)
    (same : weekLabel (first * microsecondsPerDay) = weekLabel (second * microsecondsPerDay)) : first = second := by
  have firstDate := isDate_dateOf first
  have secondDate := isDate_dateOf second
  have texts := congrArg String.toList same
  rw [toList_weekLabel (dayOf_mul first), toList_weekLabel (dayOf_mul second)] at texts
  obtain ⟨year, texts⟩ := padded_dash_inj texts
  have week := padded_inj (List.cons.inj texts).2
  have firstWeek := monday_of_isoCalendar firstDate.year_pos (by omega) firstDate.year_start firstDate.year_end
  have secondWeek := monday_of_isoCalendar secondDate.year_pos (by omega) secondDate.year_start secondDate.year_end
  rw [year, week] at firstWeek
  omega

theorem labelOf_inj {yearWidth : Nat} {granularity : TimeGranularity} {first second : Nat}
    (same : labelOf yearWidth granularity (firstDay granularity first * microsecondsPerDay) =
      labelOf yearWidth granularity (firstDay granularity second * microsecondsPerDay)) :
    firstDay granularity first = firstDay granularity second := by
  cases granularity with
  | day => exact dayLabel_inj same
  | week =>
      apply weekLabel_inj _ _ same
      · unfold firstDay
        dsimp only
        omega
      · unfold firstDay
        dsimp only
        omega
  | month =>
      have starts := monthLabel_inj same
      rwa [firstDay_firstDay, firstDay_firstDay] at starts

theorem dayOf_mul_le (value : Datetime) : dayOf value * microsecondsPerDay ≤ value :=
  Nat.div_mul_le_self ..

theorem lt_dayOf_succ_mul (value : Datetime) : value < (dayOf value + 1) * microsecondsPerDay :=
  Nat.lt_mul_of_div_lt (Nat.lt_succ_self _) microsecondsPerDay_pos

/-- The periods of a granularity, with their labels. -/
def periods (yearWidth : Nat) (granularity : TimeGranularity) : Tiling Datetime String where
  label value := labelOf yearWidth granularity (firstDay granularity (dayOf value) * microsecondsPerDay)
  start value := firstDay granularity (dayOf value) * microsecondsPerDay
  finish value := nextDay granularity (dayOf value) * microsecondsPerDay
  start_le value := (Nat.mul_le_mul_right _ (firstDay_le ..)).trans (dayOf_mul_le value)
  lt_finish value := (lt_dayOf_succ_mul value).trans_le (Nat.mul_le_mul_right _ (lt_nextDay ..))
  label_of_mem := by
    intro value other start finish
    have later : firstDay granularity (dayOf value) ≤ dayOf other :=
      (Nat.le_div_iff_mul_le microsecondsPerDay_pos).mpr start
    have earlier : dayOf other < nextDay granularity (dayOf value) :=
      (Nat.div_lt_iff_lt_mul microsecondsPerDay_pos).mpr finish
    rw [(same_period later earlier).1]
  bounds_of_label := by
    intro value other same
    have starts := labelOf_inj same
    rw [starts]
    refine ⟨rfl, ?_⟩
    rw [← nextDay_firstDay, starts, nextDay_firstDay]

/-- The period of the timestamp ends by the last instant that a `datetime` holds. -/
def EndsInRange (granularity : TimeGranularity) (timestamp : Timestamp) : Prop :=
  nextDay granularity (dayOf timestamp.instant) * microsecondsPerDay ≤ Datetime.max

theorem midnight_startOfWeek (value : Datetime) :
    midnight (value - weekday value * microsecondsPerDay) = firstDay .week (dayOf value) * microsecondsPerDay := by
  rw [midnight, Nat.mul_comm (weekday value), Nat.sub_mul_div, weekday]
  rfl

theorem mul_le_max_iff (days : Nat) : days * microsecondsPerDay ≤ Datetime.max ↔ days + 1 ≤ daysBeforeYear (9999 + 1) := by
  have total : daysBeforeYear (9999 + 1) = 3652059 := by decide
  rw [total, microsecondsPerDay, Datetime.max]
  omega

/-- The month after that of a date. -/
def nextMonth (year month : Nat) : Nat × Nat :=
  if month = 12 then (year + 1, 1) else (year, month + 1)

theorem toOrdinal_nextMonth (year month : Nat) :
    toOrdinal (nextMonth year month).1 (nextMonth year month).2 1 = nextMonthOrdinal year month := by
  unfold nextMonth nextMonthOrdinal
  split <;> rfl

theorem nextMonth_le_iff {day year month dayOfMonth : Nat} (date : IsDate day year month dayOfMonth) :
    nextMonthOrdinal year month ≤ daysBeforeYear (9999 + 1) ↔ (nextMonth year month).1 ≤ 9999 := by
  have yearPos := date.year_pos
  have monthLe := date.month_le
  rw [← toOrdinal_nextMonth]
  apply firstOfMonth_le_iff <;> (unfold nextMonth; split) <;> dsimp only <;> omega

theorem endsInRange_month_iff (timestamp : Timestamp) : EndsInRange .month timestamp ↔
    (nextMonth (dateOf (dayOf timestamp.instant)).1 (dateOf (dayOf timestamp.instant)).2.1).1 ≤ 9999 := by
  have date := isDate_dateOf (dayOf timestamp.instant)
  have later := date.within
  have last : nextDay .month (dayOf timestamp.instant) + 1 =
      nextMonthOrdinal (dateOf (dayOf timestamp.instant)).1 (dateOf (dayOf timestamp.instant)).2.1 := by
    unfold nextDay
    dsimp only
    omega
  rw [EndsInRange, mul_le_max_iff, last, nextMonth_le_iff date]

instance (granularity : TimeGranularity) (timestamp : Timestamp) : Decidable (EndsInRange granularity timestamp) :=
  inferInstanceAs (Decidable (_ ≤ _))

theorem addDays_of_le {start days next : Nat} (reached : start + days = next)
    (fits : next * microsecondsPerDay ≤ Datetime.max) :
    addDays (start * microsecondsPerDay) days = .ok (next * microsecondsPerDay) := by
  rw [addDays, ← Nat.add_mul, reached, if_neg (Nat.not_lt.mpr fits)]

theorem addDays_of_lt {start days next : Nat} (reached : start + days = next)
    (late : ¬next * microsecondsPerDay ≤ Datetime.max) :
    addDays (start * microsecondsPerDay) days = .error .overflow := by
  rw [addDays, ← Nat.add_mul, reached, if_pos (Nat.not_le.mp late)]

theorem startOfMonth_of_le {year month : Nat} (fits : year ≤ 9999) :
    startOfMonth year month = .ok ((toOrdinal year month 1 - 1) * microsecondsPerDay) := by
  rw [startOfMonth, if_neg (Nat.not_lt.mpr fits)]

theorem startOfMonth_of_lt {year month : Nat} (late : ¬year ≤ 9999) :
    startOfMonth year month = .error (.yearOutOfRange year) := by
  rw [startOfMonth, if_pos (Nat.not_le.mp late)]

theorem periodBounds_week (yearWidth : Nat) (timestamp : Timestamp) : periodBounds yearWidth timestamp .week = do
    let finish ← addDays (firstDay .week (dayOf timestamp.instant) * microsecondsPerDay) 7
    return (weekLabel (firstDay .week (dayOf timestamp.instant) * microsecondsPerDay),
      firstDay .week (dayOf timestamp.instant) * microsecondsPerDay, finish) := by
  have aware : (ensureTimezoneAware timestamp).instant = timestamp.instant := rfl
  simp only [periodBounds, aware, midnight_startOfWeek]

theorem periodBounds_month (yearWidth : Nat) (timestamp : Timestamp) : periodBounds yearWidth timestamp .month = do
    let date := dateOf (dayOf timestamp.instant)
    let start ← startOfMonth date.1 date.2.1
    let finish ← startOfMonth (nextMonth date.1 date.2.1).1 (nextMonth date.1 date.2.1).2
    return (monthLabel yearWidth start, start, finish) := by
  change (do
    let start ← startOfMonth (dateOf (dayOf timestamp.instant)).1 (dateOf (dayOf timestamp.instant)).2.1
    let finish ← if (dateOf (dayOf timestamp.instant)).2.1 = 12 then
        startOfMonth ((dateOf (dayOf timestamp.instant)).1 + 1) 1
      else startOfMonth (dateOf (dayOf timestamp.instant)).1 ((dateOf (dayOf timestamp.instant)).2.1 + 1)
    return (monthLabel yearWidth start, start, finish)) = _
  dsimp only
  congr 1
  funext start
  unfold nextMonth
  split <;> rfl

/-- `periodBounds` returns the period of the timestamp if a `datetime` can hold where it ends, and fails otherwise. -/
theorem periodBounds_eq (yearWidth : Nat) (granularity : TimeGranularity) (timestamp : Timestamp) : ∃ error,
    periodBounds yearWidth timestamp granularity =
      if EndsInRange granularity timestamp then
        .ok ((periods yearWidth granularity).label timestamp.instant,
          (periods yearWidth granularity).start timestamp.instant,
          (periods yearWidth granularity).finish timestamp.instant)
      else .error error := by
  cases granularity with
  | day =>
      have next : dayOf timestamp.instant + 1 = nextDay .day (dayOf timestamp.instant) := rfl
      refine ⟨.overflow, ?_⟩
      change (addDays (dayOf timestamp.instant * microsecondsPerDay) 1 >>= _) = _
      by_cases inRange : EndsInRange .day timestamp
      · rw [if_pos inRange, addDays_of_le next inRange]
        rfl
      · rw [if_neg inRange, addDays_of_lt next inRange]
        rfl
  | week =>
      have next : firstDay .week (dayOf timestamp.instant) + 7 = nextDay .week (dayOf timestamp.instant) := rfl
      refine ⟨.overflow, ?_⟩
      rw [periodBounds_week]
      by_cases inRange : EndsInRange .week timestamp
      · rw [if_pos inRange, addDays_of_le next inRange]
        rfl
      · rw [if_neg inRange, addDays_of_lt next inRange]
        rfl
  | month =>
      have fits := endsInRange_month_iff timestamp
      have next := toOrdinal_nextMonth (dateOf (dayOf timestamp.instant)).1 (dateOf (dayOf timestamp.instant)).2.1
      have noEarlier : (dateOf (dayOf timestamp.instant)).1 ≤
          (nextMonth (dateOf (dayOf timestamp.instant)).1 (dateOf (dayOf timestamp.instant)).2.1).1 := by
        unfold nextMonth
        split <;> dsimp only <;> omega
      rw [periodBounds_month]
      dsimp only
      by_cases inRange : EndsInRange .month timestamp
      · refine ⟨.overflow, ?_⟩
        rw [if_pos inRange, startOfMonth_of_le (noEarlier.trans (fits.mp inRange)), startOfMonth_of_le (fits.mp inRange),
          next]
        rfl
      · by_cases early : (dateOf (dayOf timestamp.instant)).1 ≤ 9999
        · rw [startOfMonth_of_le early, startOfMonth_of_lt (mt fits.mpr inRange)]
          exact ⟨_, (if_neg inRange).symm⟩
        · rw [startOfMonth_of_lt early]
          exact ⟨_, (if_neg inRange).symm⟩

end Periods

section Runs

/-- A loop whose step fails on some items fails if it meets one, and otherwise performs its steps. -/
theorem foldlM_of_steps {α β ε : Type} {step : β → α → Except ε β} {next : β → α → β} {good : α → Prop}
    (steps : ∀ item, (good item → ∀ reached, step reached item = .ok (next reached item)) ∧
      (¬good item → ∀ reached, ∃ error, step reached item = .error error)) (items : List α) :
    ∀ start, ((∀ item ∈ items, good item) → items.foldlM step start = .ok (items.foldl next start)) ∧
      (¬(∀ item ∈ items, good item) → ∃ error, items.foldlM step start = .error error) := by
  induction items with
  | nil => exact fun start => ⟨fun _ => rfl, fun some => absurd (by simp) some⟩
  | cons item items recurse =>
      intro start
      rw [List.foldlM_cons, List.foldl_cons, List.forall_mem_cons]
      by_cases fine : good item
      · rw [(steps item).1 fine start]
        obtain ⟨completes, fails⟩ := recurse (next start item)
        exact ⟨fun all => completes all.2, fun some => fails fun rest => some ⟨fine, rest⟩⟩
      · obtain ⟨error, failed⟩ := (steps item).2 fine start
        rw [failed]
        exact ⟨fun all => absurd all.1 fine, fun _ => ⟨error, rfl⟩⟩

variable {α β : Type} {yearWidth : Nat} {granularity : TimeGranularity} {timestamp : α → Timestamp}

theorem enterPeriod_steps (yearWidth : Nat) (granularity : TimeGranularity) (timestamp : α → Timestamp)
    (update : α → Option β → β) (item : α) :
    (EndsInRange granularity (timestamp item) → ∀ reached,
      enterPeriod yearWidth granularity (update item) reached (.datetime (timestamp item)) =
        .ok (put ((periods yearWidth granularity).label (timestamp item).instant)
          ((periods yearWidth granularity).start (timestamp item).instant)
          ((periods yearWidth granularity).finish (timestamp item).instant) (update item) reached)) ∧
      (¬EndsInRange granularity (timestamp item) → ∀ reached, ∃ error,
        enterPeriod yearWidth granularity (update item) reached (.datetime (timestamp item)) = .error error) := by
  obtain ⟨error, bounds⟩ := periodBounds_eq yearWidth granularity (timestamp item)
  constructor
  · intro inRange reached
    rw [if_pos inRange] at bounds
    change (periodBounds yearWidth (timestamp item) granularity >>= _) = _
    rw [bounds]
    rfl
  · intro outside reached
    rw [if_neg outside] at bounds
    change ∃ error, (periodBounds yearWidth (timestamp item) granularity >>= _) = _
    rw [bounds]
    exact ⟨error, rfl⟩

/-- The loops collect the buckets of the timestamps if all of their periods end in range, and fail otherwise. -/
theorem foldlM_enterPeriod {summary : List α → β} {update : α → Option β → β}
    (first : ∀ item, update item none = summary [item])
    (more : ∀ item earlier, update item (some (summary earlier)) = summary (earlier ++ [item])) (items : List α) :
    ((∀ item ∈ items, EndsInRange granularity (timestamp item)) → ∃ buckets,
      items.foldlM (fun reached item =>
          enterPeriod yearWidth granularity (update item) reached (.datetime (timestamp item))) [] = .ok buckets ∧
        Collected (periods yearWidth granularity) (fun item => (timestamp item).instant) summary items buckets) ∧
      (¬(∀ item ∈ items, EndsInRange granularity (timestamp item)) → ∃ error,
        items.foldlM (fun reached item =>
          enterPeriod yearWidth granularity (update item) reached (.datetime (timestamp item))) [] = .error error) := by
  obtain ⟨completes, fails⟩ :=
    foldlM_of_steps (enterPeriod_steps yearWidth granularity timestamp update) items []
  exact ⟨fun inRange => ⟨_, completes inRange, collected_foldl first more items⟩, fails⟩

theorem buildTimeSeries_run (yearWidth : Nat) (granularity : TimeGranularity) (timestamp : α → Timestamp) (items : List α) :
    ((∀ item ∈ items, EndsInRange granularity (timestamp item)) → ∃ points,
      buildTimeSeries yearWidth (items.map fun item => .datetime (timestamp item)) granularity =
          .ok { granularity, points } ∧
        SeriesOf (periods yearWidth granularity) (fun item => (timestamp item).instant)
          (fun listed => (listed.length : ℚ)) items points) ∧
      (¬(∀ item ∈ items, EndsInRange granularity (timestamp item)) → ∃ error,
        buildTimeSeries yearWidth (items.map fun item => .datetime (timestamp item)) granularity = .error error) := by
  obtain ⟨completes, fails⟩ := @foldlM_enterPeriod α Nat yearWidth granularity timestamp List.length
    (fun _ count => count.getD 0 + 1) (fun _ => rfl) (fun _ _ => by simp) items
  unfold buildTimeSeries
  rw [List.foldlM_map]
  constructor
  · intro inRange
    obtain ⟨buckets, reached, collected⟩ := completes inRange
    rw [reached]
    exact ⟨_, rfl, collected.series fun count : Nat => (count : ℚ)⟩
  · intro outside
    obtain ⟨error, failed⟩ := fails outside
    rw [failed]
    exact ⟨error, rfl⟩

theorem buildAverageTimeSeries_run (yearWidth : Nat) (granularity : TimeGranularity) (entries : List (Timestamp × ℚ))
    (inRange : ∀ entry ∈ entries, EndsInRange granularity entry.1) : ∃ points,
      buildAverageTimeSeries yearWidth (entries.map fun entry => (.datetime entry.1, entry.2)) granularity =
          .ok { granularity, points } ∧
        SeriesOf (periods yearWidth granularity) (fun entry : Timestamp × ℚ => entry.1.instant)
          (fun listed => mean (listed.map Prod.snd)) entries points := by
  obtain ⟨buckets, reached, collected⟩ := (@foldlM_enterPeriod (Timestamp × ℚ) (List ℚ) yearWidth granularity Prod.fst
    (List.map Prod.snd) (fun entry values => values.getD [] ++ [entry.2]) (fun _ => rfl)
    (fun _ _ => by simp) entries).1 inRange
  unfold buildAverageTimeSeries
  rw [List.foldlM_map, reached]
  exact ⟨_, rfl, collected.series mean⟩

/-- The points are the periods of the timestamps, earliest first, and count them. -/
structure CountsByPeriod (granularity : TimeGranularity) (timestamps : List Timestamp) (series : TimeSeries) : Prop where
  granularity : series.granularity = granularity
  sorted : series.points.Pairwise fun earlier later => earlier.periodStart < later.periodStart
  nonempty : ∀ point ∈ series.points, point.periodStart < point.periodEnd
  disjoint : series.points.Pairwise fun first second => ∀ instant, ¬(first.Covers instant ∧ second.Covers instant)
  covered : ∀ timestamp ∈ timestamps, ∃! point, point ∈ series.points ∧ point.Covers timestamp.instant
  counted : ∀ point ∈ series.points,
    point.value = (timestamps.filter fun timestamp => point.Covers timestamp.instant).length
  labels : (series.points.map Bucket.label).Nodup

theorem countsByPeriod_of_series {timestamps : List Timestamp} {points : List TrendPoint}
    (series : SeriesOf (periods yearWidth granularity) Timestamp.instant (fun listed => (listed.length : ℚ)) timestamps
      points) : CountsByPeriod granularity timestamps { granularity, points } where
  granularity := rfl
  sorted := series.ordered
  nonempty _ member := series.nonempty member
  disjoint := series.disjoint
  covered _ member := series.existsUnique_covers member
  counted _ member := series.value_eq member
  labels := series.labels_nodup

/-- The series is the tiling that it should be, whatever the order of the timestamps, and that of averages has its periods,
exactly if each of the periods ends by the last instant that a `datetime` holds. -/
theorem time_series_iff (yearWidth : Nat) (granularity : TimeGranularity) (entries : List (Timestamp × ℚ)) :
    (∃ series average,
      buildTimeSeries yearWidth ((entries.map Prod.fst).map .datetime) granularity = .ok series ∧
        CountsByPeriod granularity (entries.map Prod.fst) series ∧
        (∀ permuted : List Timestamp, permuted.Perm (entries.map Prod.fst) →
          buildTimeSeries yearWidth (permuted.map .datetime) granularity = .ok series) ∧
        buildAverageTimeSeries yearWidth (entries.map fun entry => (.datetime entry.1, entry.2)) granularity =
          .ok average ∧
        average.granularity = granularity ∧
        average.points = series.points.map fun point => { point with
          value := mean ((entries.filter fun entry => point.Covers entry.1.instant).map Prod.snd) }) ↔
      ∀ entry ∈ entries, EndsInRange granularity entry.1 := by
  have same : (entries.map Prod.fst).map TimestampValue.datetime = entries.map fun entry => .datetime entry.1 := by
    rw [List.map_map]
    rfl
  constructor
  · rintro ⟨series, -, returned, -⟩
    by_contra outside
    obtain ⟨error, failed⟩ := (buildTimeSeries_run yearWidth granularity Prod.fst entries).2 outside
    rw [same, failed] at returned
    cases returned
  · intro inRange
    have each : ∀ timestamp ∈ entries.map Prod.fst, EndsInRange granularity timestamp := by
      intro timestamp listed
      obtain ⟨entry, member, rfl⟩ := List.mem_map.mp listed
      exact inRange entry member
    obtain ⟨points, returned, counts⟩ := (buildTimeSeries_run yearWidth granularity id (entries.map Prod.fst)).1 each
    obtain ⟨entryPoints, entriesReturned, byEntry⟩ :=
      (buildTimeSeries_run yearWidth granularity Prod.fst entries).1 inRange
    obtain ⟨averagePoints, averaged, averages⟩ := buildAverageTimeSeries_run yearWidth granularity entries inRange
    have returned : buildTimeSeries yearWidth ((entries.map Prod.fst).map .datetime) granularity = _ := returned
    obtain rfl : points = entryPoints := by
      rw [same, entriesReturned] at returned
      exact (congrArg TimeSeries.points (Except.ok.inj returned)).symm
    refine ⟨_, _, returned, countsByPeriod_of_series counts, ?_, averaged, rfl, ?_⟩
    · intro permuted perm
      have eachPermuted : ∀ timestamp ∈ permuted, EndsInRange granularity timestamp :=
        fun timestamp listed => each timestamp (perm.mem_iff.mp listed)
      obtain ⟨others, permutedReturned, permutedCounts⟩ :=
        (buildTimeSeries_run yearWidth granularity id permuted).1 eachPermuted
      have alike := counts.of_perm perm fun perm => congrArg Nat.cast perm.length_eq
      rw [← permutedCounts.unique alike]
      exact permutedReturned
    · exact averages.unique (byEntry.with_values fun listed => mean (listed.map Prod.snd))

/-- The last midnight that a `datetime` holds. -/
def lastMidnight : Timestamp where
  instant := 315537811200000000
  naive := false
  bounded := by decide

/-- The day of the last midnight ends after the last instant. -/
theorem last_day_overflows : buildTimeSeries 4 [.datetime lastMidnight] .day = .error .overflow := by
  decide +kernel

end Runs

end AutomationHub.Analytics
