import AutomationHub.Foundation.Arrangement
import Mathlib.Data.List.Induction
import Mathlib.Data.List.Nodup

/-!
Items put into buckets by the periods that their instants fall into.

The periods tile the line of instants, and each has a label of its own.
-/

set_option autoImplicit false

namespace AutomationHub.Foundation

structure Bucket (κ τ β : Type) where
  label : κ
  periodStart : τ
  periodEnd : τ
  value : β
deriving DecidableEq

section Dictionary

variable {κ τ β γ : Type}

def Bucket.mapValue (convert : β → γ) (bucket : Bucket κ τ β) : Bucket κ τ γ :=
  { label := bucket.label, periodStart := bucket.periodStart, periodEnd := bucket.periodEnd,
    value := convert bucket.value }

/-- Enter a label with the bounds of its period in dictionaries that share their keys; `update` takes the value entered
before, if any. -/
def put [DecidableEq κ] (label : κ) (periodStart periodEnd : τ) (update : Option β → β) (buckets : List (Bucket κ τ β)) :
    List (Bucket κ τ β) :=
  if buckets.any fun bucket => bucket.label = label then
    buckets.map fun bucket =>
      if bucket.label = label then { label, periodStart, periodEnd, value := update (some bucket.value) } else bucket
  else buckets ++ [{ label, periodStart, periodEnd, value := update none }]

theorem map_label_put [DecidableEq κ] {label : κ} {periodStart periodEnd : τ} {update : Option β → β}
    {buckets : List (Bucket κ τ β)} (once : (buckets.map Bucket.label).Nodup) :
    ((put label periodStart periodEnd update buckets).map Bucket.label).Nodup := by
  unfold put
  split
  · have kept : (buckets.map fun bucket =>
        if bucket.label = label then { label, periodStart, periodEnd, value := update (some bucket.value) } else bucket).map
          Bucket.label = buckets.map Bucket.label := by
      rw [List.map_map]
      apply List.map_congr_left
      intro bucket _
      by_cases same : bucket.label = label <;> simp [same]
    rw [kept]
    exact once
  · rename_i absent
    rw [List.map_append, List.nodup_append]
    refine ⟨once, List.nodup_singleton _, ?_⟩
    intro present listed other last same
    obtain ⟨bucket, member, rfl⟩ := List.mem_map.mp listed
    rw [List.map_singleton, List.mem_singleton] at last
    exact absent (List.any_eq_true.mpr ⟨bucket, member, decide_eq_true (same.trans last)⟩)

end Dictionary

/-- Periods that cover every instant once, told apart by their labels. -/
structure Tiling (τ κ : Type) [LinearOrder τ] where
  label : τ → κ
  start : τ → τ
  finish : τ → τ
  start_le : ∀ instant, start instant ≤ instant
  lt_finish : ∀ instant, instant < finish instant
  label_of_mem : ∀ {instant other}, start instant ≤ other → other < finish instant → label other = label instant
  bounds_of_label : ∀ {instant other}, label instant = label other →
    start instant = start other ∧ finish instant = finish other

section Tilings

variable {α β γ κ τ : Type} [LinearOrder τ] [DecidableEq κ]

def Bucket.Covers (bucket : Bucket κ τ β) (instant : τ) : Prop :=
  bucket.periodStart ≤ instant ∧ instant < bucket.periodEnd

instance (bucket : Bucket κ τ β) (instant : τ) : Decidable (bucket.Covers instant) :=
  inferInstanceAs (Decidable (_ ∧ _))

variable (tiling : Tiling τ κ) (instant : α → τ) (summary : List α → β) (items : List α)

/-- The bucket of an item among all of them. -/
def bucketOf (item : α) : Bucket κ τ β :=
  { label := tiling.label (instant item), periodStart := tiling.start (instant item),
    periodEnd := tiling.finish (instant item),
    value := summary (items.filter fun other => tiling.label (instant other) = tiling.label (instant item)) }

/-- The buckets are those of the items, once each. -/
structure Collected (buckets : List (Bucket κ τ β)) : Prop where
  once : (buckets.map Bucket.label).Nodup
  mem : ∀ bucket, bucket ∈ buckets ↔ ∃ item ∈ items, bucket = bucketOf tiling instant summary items item

variable {tiling instant summary items}

@[simp] theorem label_bucketOf (item : α) :
    (bucketOf tiling instant summary items item).label = tiling.label (instant item) := rfl

theorem bucketOf_congr {item other : α} (same : tiling.label (instant item) = tiling.label (instant other)) :
    bucketOf tiling instant summary items item = bucketOf tiling instant summary items other := by
  obtain ⟨start, finish⟩ := tiling.bounds_of_label same
  simp only [bucketOf, same, start, finish]

theorem bucketOf_append_of_ne {item other : α} (differs : tiling.label (instant item) ≠ tiling.label (instant other)) :
    bucketOf tiling instant summary (items ++ [item]) other = bucketOf tiling instant summary items other := by
  simp [bucketOf, differs]

theorem collected_nil : Collected tiling instant summary [] [] where
  once := List.nodup_nil
  mem := by simp

/-- Entering an item keeps the buckets those of the items. -/
theorem Collected.put {buckets : List (Bucket κ τ β)} (collected : Collected tiling instant summary items buckets)
    (item : α) {update : Option β → β} (first : update none = summary [item])
    (more : ∀ earlier, update (some (summary earlier)) = summary (earlier ++ [item])) :
    Collected tiling instant summary (items ++ [item])
      (put (tiling.label (instant item)) (tiling.start (instant item)) (tiling.finish (instant item)) update buckets) := by
  refine ⟨map_label_put collected.once, ?_⟩
  intro bucket
  have last : ∀ earlier : List α, (earlier ++ [item]).filter
      (fun other => decide (tiling.label (instant other) = tiling.label (instant item))) =
        earlier.filter (fun other => decide (tiling.label (instant other) = tiling.label (instant item))) ++ [item] := by
    intro earlier
    simp
  unfold Foundation.put
  split
  · rename_i found
    obtain ⟨present, member, label⟩ := List.any_eq_true.mp found
    obtain ⟨seen, seenIn, rfl⟩ := (collected.mem present).mp member
    have label : tiling.label (instant seen) = tiling.label (instant item) := of_decide_eq_true label
    have entered : ∀ other, tiling.label (instant other) = tiling.label (instant item) →
        (⟨tiling.label (instant item), tiling.start (instant item), tiling.finish (instant item),
          update (some (bucketOf tiling instant summary items other).value)⟩ : Bucket κ τ β) =
            bucketOf tiling instant summary (items ++ [item]) item := by
      intro other same
      rw [bucketOf_congr same]
      simp only [bucketOf, more, last]
    rw [List.mem_map]
    constructor
    · rintro ⟨earlier, listed, rfl⟩
      obtain ⟨other, otherIn, rfl⟩ := (collected.mem earlier).mp listed
      by_cases same : tiling.label (instant other) = tiling.label (instant item)
      · refine ⟨item, List.mem_append_right _ (List.mem_singleton_self _), ?_⟩
        rw [label_bucketOf, if_pos same, entered other same]
      · refine ⟨other, List.mem_append_left _ otherIn, ?_⟩
        rw [label_bucketOf, if_neg same, bucketOf_append_of_ne (Ne.symm same)]
    · rintro ⟨other, otherIn, rfl⟩
      by_cases same : tiling.label (instant other) = tiling.label (instant item)
      · refine ⟨_, member, ?_⟩
        rw [label_bucketOf, if_pos label, entered seen label, bucketOf_congr same]
      · have earlier : other ∈ items := by
          rcases List.mem_append.mp otherIn with earlier | now
          · exact earlier
          · exact absurd (by rw [List.mem_singleton.mp now]) same
        refine ⟨_, (collected.mem _).mpr ⟨other, earlier, rfl⟩, ?_⟩
        rw [label_bucketOf, if_neg same, bucketOf_append_of_ne (Ne.symm same)]
  · rename_i absent
    have differs : ∀ other ∈ items, tiling.label (instant item) ≠ tiling.label (instant other) := by
      intro other otherIn same
      exact absent (List.any_eq_true.mpr ⟨_, (collected.mem _).mpr ⟨other, otherIn, rfl⟩, decide_eq_true same.symm⟩)
    have none_earlier : items.filter
        (fun other => decide (tiling.label (instant other) = tiling.label (instant item))) = [] := by
      apply List.filter_eq_nil_iff.mpr
      intro other otherIn selected
      exact differs other otherIn (of_decide_eq_true selected).symm
    have entered : (⟨tiling.label (instant item), tiling.start (instant item), tiling.finish (instant item),
        update none⟩ : Bucket κ τ β) = bucketOf tiling instant summary (items ++ [item]) item := by
      simp only [bucketOf, last, none_earlier, first, List.nil_append]
    rw [List.mem_append, List.mem_singleton, entered, collected.mem]
    constructor
    · rintro (⟨other, otherIn, rfl⟩ | rfl)
      · exact ⟨other, List.mem_append_left _ otherIn, (bucketOf_append_of_ne (differs other otherIn)).symm⟩
      · exact ⟨item, List.mem_append_right _ (List.mem_singleton_self _), rfl⟩
    · rintro ⟨other, otherIn, rfl⟩
      rcases List.mem_append.mp otherIn with earlier | now
      · exact .inl ⟨other, earlier, bucketOf_append_of_ne (differs other earlier)⟩
      · rw [List.mem_singleton.mp now]
        exact .inr rfl

/-- Entering all items, one after another, gives the buckets of the items. -/
theorem collected_foldl {update : α → Option β → β} (first : ∀ item, update item none = summary [item])
    (more : ∀ item earlier, update item (some (summary earlier)) = summary (earlier ++ [item])) (items : List α) :
    Collected tiling instant summary items (items.foldl (fun buckets item =>
      put (tiling.label (instant item)) (tiling.start (instant item)) (tiling.finish (instant item)) (update item)
        buckets) []) := by
  induction items using List.reverseRecOn with
  | nil => exact collected_nil
  | append_singleton items item recurse =>
      rw [List.foldl_append]
      exact recurse.put item (first item) (more item)

variable (tiling instant summary items)

/-- The buckets of the items, earliest period first. -/
structure SeriesOf (buckets : List (Bucket κ τ β)) : Prop where
  ordered : buckets.Pairwise fun earlier later => earlier.periodStart < later.periodStart
  mem : ∀ bucket, bucket ∈ buckets ↔ ∃ item ∈ items, bucket = bucketOf tiling instant summary items item

variable {tiling instant summary items}

omit [DecidableEq κ] in
theorem Tiling.label_start (tiling : Tiling τ κ) (instant : τ) :
    tiling.label (tiling.start instant) = tiling.label instant :=
  tiling.label_of_mem (le_refl _) ((tiling.start_le instant).trans_lt (tiling.lt_finish instant))

omit [DecidableEq κ] in
theorem Tiling.label_of_start (tiling : Tiling τ κ) {instant other : τ} (same : tiling.start instant = tiling.start other) :
    tiling.label instant = tiling.label other := by
  rw [← tiling.label_start instant, same, tiling.label_start]

theorem covers_bucketOf {item : α} {moment : τ} :
    (bucketOf tiling instant summary items item).Covers moment ↔ tiling.label moment = tiling.label (instant item) := by
  constructor
  · rintro ⟨start, finish⟩
    exact tiling.label_of_mem start finish
  · intro same
    obtain ⟨start, finish⟩ := tiling.bounds_of_label same
    have first := tiling.start_le moment
    have last := tiling.lt_finish moment
    rw [start] at first
    rw [finish] at last
    exact ⟨first, last⟩

theorem bucketOf_value {item : α} : (bucketOf tiling instant summary items item).value =
    summary (items.filter fun other => (bucketOf tiling instant summary items item).Covers (instant other)) := by
  simp only [covers_bucketOf]
  rfl

/-- Sorted by their starts, the buckets are a series, also of what their values are converted to. -/
theorem Collected.series {buckets : List (Bucket κ τ β)} (collected : Collected tiling instant summary items buckets)
    (convert : β → γ) : SeriesOf tiling instant (fun listed => convert (summary listed)) items
      (sortedBy Bucket.periodStart (buckets.map (Bucket.mapValue convert))) := by
  have arranged := arranges_sortedBy Bucket.periodStart (buckets.map (Bucket.mapValue convert))
  have mem : ∀ bucket, bucket ∈ sortedBy Bucket.periodStart (buckets.map (Bucket.mapValue convert)) ↔
      ∃ item ∈ items, bucket = bucketOf tiling instant (fun listed => convert (summary listed)) items item := by
    intro bucket
    rw [arranged.perm.mem_iff, List.mem_map]
    constructor
    · rintro ⟨collectedBucket, member, rfl⟩
      obtain ⟨item, listed, rfl⟩ := (collected.mem collectedBucket).mp member
      exact ⟨item, listed, rfl⟩
    · rintro ⟨item, listed, rfl⟩
      exact ⟨_, (collected.mem _).mpr ⟨item, listed, rfl⟩, rfl⟩
  refine ⟨?_, mem⟩
  have labels : (buckets.map (Bucket.mapValue convert)).map Bucket.label = buckets.map Bucket.label := by
    rw [List.map_map]
    rfl
  have once := (arranged.perm.map Bucket.label).nodup_iff.mpr (labels ▸ collected.once)
  have apart := List.pairwise_map.mp once
  apply (arranged.sorted.and apart).imp_of_mem
  rintro first second firstIn secondIn ⟨ordered, differ⟩
  apply ordered.lt_of_ne
  intro same
  obtain ⟨item, -, rfl⟩ := (mem first).mp firstIn
  obtain ⟨other, -, rfl⟩ := (mem second).mp secondIn
  exact differ (tiling.label_of_start same)

namespace SeriesOf

variable {buckets : List (Bucket κ τ β)}

theorem unique {others : List (Bucket κ τ β)} (series : SeriesOf tiling instant summary items buckets)
    (other : SeriesOf tiling instant summary items others) : buckets = others := by
  have once : ∀ {listed : List (Bucket κ τ β)}, SeriesOf tiling instant summary items listed → listed.Nodup :=
    fun series => series.ordered.imp fun before same => absurd (congrArg Bucket.periodStart same) before.ne
  have perm := (List.perm_ext_iff_of_nodup (once series) (once other)).mpr fun bucket =>
    (series.mem bucket).trans (other.mem bucket).symm
  apply perm.eq_of_pairwise _ series.ordered other.ordered
  intro first second _ _ before after
  exact absurd before after.asymm

/-- What the items come to in their buckets may change with the order of the items only through the summaries. -/
theorem of_perm {permuted : List α} (series : SeriesOf tiling instant summary items buckets) (perm : permuted.Perm items)
    (alike : ∀ {first second : List α}, first.Perm second → summary first = summary second) :
    SeriesOf tiling instant summary permuted buckets := by
  refine ⟨series.ordered, ?_⟩
  intro bucket
  have same : ∀ item, bucketOf tiling instant summary permuted item = bucketOf tiling instant summary items item := by
    intro item
    simp only [bucketOf, alike (perm.filter _)]
  simp only [series.mem, perm.mem_iff, same]

/-- The series of other values has the same periods. -/
theorem with_values (series : SeriesOf tiling instant summary items buckets) (other : List α → γ) :
    SeriesOf tiling instant other items (buckets.map fun bucket =>
      bucket.mapValue fun _ => other (items.filter fun item => bucket.Covers (instant item))) := by
  constructor
  · exact List.pairwise_map.mpr series.ordered
  · intro bucket
    rw [List.mem_map]
    have same : ∀ item, ((bucketOf tiling instant summary items item).mapValue fun _ =>
        other (items.filter fun listed => (bucketOf tiling instant summary items item).Covers (instant listed))) =
          bucketOf tiling instant other items item := by
      intro item
      simp only [covers_bucketOf]
      rfl
    constructor
    · rintro ⟨listed, member, rfl⟩
      obtain ⟨item, itemIn, rfl⟩ := (series.mem listed).mp member
      exact ⟨item, itemIn, same item⟩
    · rintro ⟨item, itemIn, rfl⟩
      exact ⟨_, (series.mem _).mpr ⟨item, itemIn, rfl⟩, same item⟩

theorem nonempty (series : SeriesOf tiling instant summary items buckets) {bucket : Bucket κ τ β}
    (member : bucket ∈ buckets) : bucket.periodStart < bucket.periodEnd := by
  obtain ⟨item, -, rfl⟩ := (series.mem bucket).mp member
  exact (tiling.start_le _).trans_lt (tiling.lt_finish _)

theorem value_eq (series : SeriesOf tiling instant summary items buckets) {bucket : Bucket κ τ β}
    (member : bucket ∈ buckets) : bucket.value = summary (items.filter fun item => bucket.Covers (instant item)) := by
  obtain ⟨item, -, rfl⟩ := (series.mem bucket).mp member
  exact bucketOf_value

/-- Buckets of the series that cover one instant, or have one label, are the same. -/
theorem eq_of_label (series : SeriesOf tiling instant summary items buckets) {first second : Bucket κ τ β}
    (firstIn : first ∈ buckets) (secondIn : second ∈ buckets) (same : first.label = second.label) : first = second := by
  obtain ⟨item, -, rfl⟩ := (series.mem first).mp firstIn
  obtain ⟨other, -, rfl⟩ := (series.mem second).mp secondIn
  exact bucketOf_congr same

theorem label_of_covers (series : SeriesOf tiling instant summary items buckets) {bucket : Bucket κ τ β} {moment : τ}
    (member : bucket ∈ buckets) (covers : bucket.Covers moment) : bucket.label = tiling.label moment := by
  obtain ⟨item, -, rfl⟩ := (series.mem bucket).mp member
  exact (covers_bucketOf.mp covers).symm

theorem labels_nodup (series : SeriesOf tiling instant summary items buckets) : (buckets.map Bucket.label).Nodup := by
  apply List.pairwise_map.mpr
  apply series.ordered.imp_of_mem
  intro first second firstIn secondIn before same
  obtain rfl := series.eq_of_label firstIn secondIn same
  exact absurd before (lt_irrefl _)

theorem disjoint (series : SeriesOf tiling instant summary items buckets) :
    buckets.Pairwise fun first second => ∀ moment, ¬(first.Covers moment ∧ second.Covers moment) := by
  apply series.ordered.imp_of_mem
  rintro first second firstIn secondIn before moment ⟨covers, coversToo⟩
  have same := (series.label_of_covers firstIn covers).trans (series.label_of_covers secondIn coversToo).symm
  obtain rfl := series.eq_of_label firstIn secondIn same
  exact absurd before (lt_irrefl _)

/-- Every item is in exactly one bucket. -/
theorem existsUnique_covers (series : SeriesOf tiling instant summary items buckets) {item : α} (member : item ∈ items) :
    ∃! bucket, bucket ∈ buckets ∧ bucket.Covers (instant item) := by
  have own : (bucketOf tiling instant summary items item).Covers (instant item) := covers_bucketOf.mpr rfl
  have listed := (series.mem _).mpr ⟨item, member, rfl⟩
  refine ⟨_, ⟨listed, own⟩, ?_⟩
  rintro other ⟨otherIn, covers⟩
  exact series.eq_of_label otherIn listed (series.label_of_covers otherIn covers)

end SeriesOf

end Tilings

end AutomationHub.Foundation
