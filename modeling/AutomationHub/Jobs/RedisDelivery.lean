import AutomationHub.Jobs.RedisQueue

/-!
What the queues deliver over a run of pushes, promotions and dequeues: a
promotion reaches every due job unless the script breaks off before it, and a
dequeue loses what it cannot read.
-/

set_option autoImplicit false

namespace AutomationHub.Jobs.RedisQueue

open Foundation Foundation.Queues Model

section Sweeps

variable {σ : Type} (codec : Codec σ)

/-- The members a sweep moves, with their keys: those before the first that raises. -/
def moves (readyPrefix : String) : List String → List (String × String)
  | [] => []
  | member :: rest =>
      match codec.verdict member with
      | .skipped => moves readyPrefix rest
      | .pushed suffix => (readyPrefix ++ suffix, member) :: moves readyPrefix rest
      | .raised => []

def joins (entries : List (String × String)) : List (Motion String String) :=
  entries.map fun entry => .joined entry.1 entry.2

theorem ready_promoteEach (key readyPrefix : String) (members : List String) :
    ∀ store : RedisStore σ,
      (RedisStore.promoteEach codec key readyPrefix members store).2.ready
        = replay store.ready (joins (moves codec readyPrefix members)) := by
  induction members with
  | nil => exact fun _ => rfl
  | cons member rest ih =>
      intro store
      cases read : codec.verdict member with
      | skipped => simpa [RedisStore.promoteEach, moves, read] using ih store
      | pushed suffix =>
          simpa [RedisStore.promoteEach, moves, read, joins, replay, move, RedisStore.lpush, RedisStore.zrem] using
            ih ((store.lpush (readyPrefix ++ suffix) member).zrem key member)
      | raised => simp [RedisStore.promoteEach, moves, read, joins, replay]

theorem delayed_promoteEach (key readyPrefix : String) (members : List String) :
    ∀ store : RedisStore σ,
      (RedisStore.promoteEach codec key readyPrefix members store).2.delayed
        = Function.update store.delayed key
            ((store.delayed key).discard ((moves codec readyPrefix members).map Prod.snd)) := by
  induction members with
  | nil =>
      intro store
      simp [RedisStore.promoteEach, moves, ScoredSet.discard_nil]
  | cons member rest ih =>
      intro store
      cases read : codec.verdict member with
      | skipped => simpa [RedisStore.promoteEach, moves, read] using ih store
      | pushed suffix =>
          simpa [RedisStore.promoteEach, moves, read, RedisStore.lpush, RedisStore.zrem,
            ScoredSet.discard_discard] using ih ((store.lpush (readyPrefix ++ suffix) member).zrem key member)
      | raised => simp [RedisStore.promoteEach, moves, read, ScoredSet.discard_nil]

theorem moves_sublist (readyPrefix : String) (members : List String) :
    ((moves codec readyPrefix members).map Prod.snd).Sublist members := by
  induction members with
  | nil => exact .slnil
  | cons member rest ih =>
      cases read : codec.verdict member with
      | skipped => simpa [moves, read] using ih.cons member
      | pushed suffix => simpa [moves, read] using ih
      | raised => simp [moves, read]

variable {codec} {readyPrefix : String}

theorem verdict_of_mem_moves {members : List String} {key member : String}
    (moved : (key, member) ∈ moves codec readyPrefix members) :
    ∃ suffix, codec.verdict member = .pushed suffix ∧ key = readyPrefix ++ suffix := by
  induction members with
  | nil => simp [moves] at moved
  | cons first rest ih =>
      cases read : codec.verdict first with
      | skipped => exact ih (by simpa [moves, read] using moved)
      | pushed suffix =>
          rcases List.mem_cons.1 (show (key, member) ∈ (readyPrefix ++ suffix, first) :: moves codec readyPrefix rest by
            simpa [moves, read] using moved) with same | later
          · obtain ⟨rfl, rfl⟩ := Prod.mk.inj same
            exact ⟨suffix, read, rfl⟩
          · exact ih later
      | raised => simp [moves, read] at moved

theorem mem_moves {member suffix : String} (read : codec.verdict member = .pushed suffix) (before later : List String)
    (clear : ∀ earlier ∈ before, codec.verdict earlier ≠ .raised) :
    (readyPrefix ++ suffix, member) ∈ moves codec readyPrefix (before ++ member :: later) := by
  induction before with
  | nil => simp [moves, read]
  | cons first rest ih =>
      have onward := ih fun earlier earlierMem => clear earlier (List.mem_cons_of_mem _ earlierMem)
      cases reading : codec.verdict first with
      | skipped => simpa [moves, reading] using onward
      | pushed other => simpa [moves, reading] using Or.inr onward
      | raised => exact absurd reading (clear first List.mem_cons_self)

theorem clear_of_mem_moves {member : String} (before later : List String)
    (distinct : (before ++ member :: later).Nodup)
    (moved : member ∈ (moves codec readyPrefix (before ++ member :: later)).map Prod.snd) :
    ∀ earlier ∈ before, codec.verdict earlier ≠ .raised := by
  induction before with
  | nil => exact fun _ none => nomatch none
  | cons first rest ih =>
      obtain ⟨fresh, others⟩ := List.nodup_cons.1 distinct
      have different : member ≠ first := by
        rintro rfl
        exact fresh (List.mem_append_right _ List.mem_cons_self)
      have onward : member ∈ (moves codec readyPrefix (rest ++ member :: later)).map Prod.snd ∧
          codec.verdict first ≠ .raised := by
        cases reading : codec.verdict first with
        | skipped => exact ⟨by simpa [moves, reading] using moved, by simp⟩
        | pushed suffix => exact ⟨by simpa [moves, reading, different] using moved, by simp⟩
        | raised => simp [moves, reading] at moved
      obtain ⟨movedLater, harmless⟩ := onward
      exact List.forall_mem_cons.2 ⟨harmless, ih others movedLater⟩

theorem verdict_of_tierOf {member : String} {tier : JobPriority} (wellFormed : codec.tierOf member = some tier) :
    codec.verdict member = .pushed tier.value := by
  unfold Codec.tierOf at wellFormed
  split at wellFormed
  · rename_i fields decoded
    split at wellFormed
    · rename_i jobId text _ named
      have spelled : tier.value = text := by simpa using List.find?_some wellFormed
      simp [Codec.verdict, decoded, luaPriority, named, spelled]
    · cases wellFormed
  · cases wellFormed

theorem brpop_eq_some_iff {store : RedisStore σ} {keys : List String} {key raw : String} :
    store.brpop keys = some (key, raw) ↔
      ∃ before later, keys = before ++ key :: later ∧ (∀ earlier ∈ before, store.ready earlier = []) ∧
        (store.ready key).getLast? = some raw := by
  rw [RedisStore.brpop, List.findSome?_eq_some_iff]
  constructor
  · rintro ⟨before, found, later, rfl, taken, empty⟩
    obtain ⟨entry, last, pair⟩ := Option.map_eq_some_iff.1 taken
    obtain ⟨rfl, rfl⟩ := Prod.mk.inj pair
    exact ⟨before, later, rfl, fun earlier earlierMem => by simpa using empty earlier earlierMem, last⟩
  · rintro ⟨before, later, rfl, empty, last⟩
    exact ⟨before, key, later, rfl, by simp [last], fun earlier earlierMem => by simp [empty earlier earlierMem]⟩

theorem brpop_eq_none_iff {store : RedisStore σ} {keys : List String} :
    store.brpop keys = none ↔ ∀ key ∈ keys, store.ready key = [] := by
  simp [RedisStore.brpop]

theorem brpop_append (store : RedisStore σ) (first second : List String) :
    store.brpop (first ++ second) = (store.brpop first).or (store.brpop second) :=
  List.findSome?_append

theorem brpop_dequeueKeys {store : RedisStore σ} {queueNames : List String} {priorityOrder : List JobPriority} {key raw : String}
    (taken : store.brpop (dequeueKeys queueNames priorityOrder) = some (key, raw)) :
    ∃ passed tier left, priorityOrder = passed ++ tier :: left ∧
      (∀ earlier ∈ passed, ∀ queueName ∈ queueNames, store.ready (readyKey queueName earlier) = []) ∧
      ∃ queueName ∈ queueNames, key = readyKey queueName tier := by
  induction priorityOrder with
  | nil => simp [dequeueKeys, RedisStore.brpop] at taken
  | cons tier rest ih =>
      have keys : dequeueKeys queueNames (tier :: rest)
          = (queueNames.map fun queueName => readyKey queueName tier) ++ dequeueKeys queueNames rest := rfl
      rw [keys, brpop_append] at taken
      cases here : store.brpop (queueNames.map fun queueName => readyKey queueName tier) with
      | some found =>
          obtain ⟨before, later, listed, _, _⟩ := brpop_eq_some_iff.1 (Prod.eta found ▸ here)
          obtain rfl : found = (key, raw) := by simpa [here] using taken
          have member : key ∈ queueNames.map fun queueName => readyKey queueName tier :=
            listed ▸ List.mem_append_right _ List.mem_cons_self
          obtain ⟨queueName, named, rfl⟩ := List.mem_map.1 member
          exact ⟨[], tier, rest, rfl, fun _ none => (List.not_mem_nil none).elim, queueName, named, rfl⟩
      | none =>
          obtain ⟨passed, found, left, rfl, empty, queueName, named, same⟩ := ih (by simpa [here] using taken)
          refine ⟨tier :: passed, found, left, rfl, List.forall_mem_cons.2 ⟨?_, empty⟩, queueName, named, same⟩
          intro other otherNamed
          exact brpop_eq_none_iff.1 here _ (List.mem_map_of_mem otherNamed)

theorem jobIdOf_envelope (jobId : JobId) (priority : JobPriority) :
    codec.jobIdOf (envelope jobId priority) = some jobId.text := by
  simp [Codec.jobIdOf, codec.loads, described, fieldOf, codec.str_string]

theorem verdict_envelope (jobId : JobId) (priority : JobPriority) :
    codec.verdict (envelope jobId priority) = .pushed priority.value := by
  simp [Codec.verdict, codec.decodes, described, luaPriority, fieldOf]

end Sweeps

section Order

variable {σ : Type} [LinearOrder σ] (codec : Codec σ)

/-- What a call does to the ready lists, entry by entry. -/
def motions (store : RedisStore σ) : QueueCall → List (Motion String String)
  | .pushReady queueName priority jobId => [.joined (readyKey queueName priority) (envelope jobId priority)]
  | .pushDelayed .. => []
  | .promoteDue queueName now => joins (moves codec (readyKeyPrefix queueName) (store.due codec queueName now))
  | .dequeue queueNames priorityOrder =>
      (store.brpop (dequeueKeys queueNames priorityOrder)).toList.map fun popped => .left popped.1 popped.2

theorem ready_apply (store : RedisStore σ) (call : QueueCall) :
    (apply codec store call).ready = replay store.ready (motions codec store call) := by
  cases call with
  | pushReady queueName priority jobId => rfl
  | pushDelayed queueName priority jobId readyAt => rfl
  | promoteDue queueName now => exact ready_promoteEach codec _ _ _ store
  | dequeue queueNames priorityOrder =>
      cases popped : store.brpop (dequeueKeys queueNames priorityOrder) with
      | none => simp [apply, RedisStore.dequeue, motions, popped, replay]
      | some taken =>
          cases read : codec.jobIdOf taken.2 <;>
            simp [apply, RedisStore.dequeue, motions, popped, read, replay, move]

theorem allSound_motions (store : RedisStore σ) (call : QueueCall) : AllSound store.ready (motions codec store call) := by
  cases call with
  | pushReady queueName priority jobId => exact ⟨trivial, trivial⟩
  | pushDelayed queueName priority jobId readyAt => trivial
  | promoteDue queueName now => exact allSound_joined _ _
  | dequeue queueNames priorityOrder =>
      cases popped : store.brpop (dequeueKeys queueNames priorityOrder) with
      | none => simp [motions, popped, AllSound]
      | some taken =>
          obtain ⟨_, _, _, _, last⟩ := brpop_eq_some_iff.1 popped
          simpa [motions, popped, AllSound, Sound] using last

def motionsAlong (store : RedisStore σ) (calls : List QueueCall) : List (Motion String String) :=
  (visited codec store calls).flatMap fun visit => motions codec visit.1 visit.2

theorem ready_after (calls : List QueueCall) :
    ∀ store : RedisStore σ, (after codec store calls).ready = replay store.ready (motionsAlong codec store calls) := by
  induction calls with
  | nil => exact fun _ => rfl
  | cons call rest ih =>
      intro store
      have onward := ih (apply codec store call)
      rw [ready_apply] at onward
      simpa [after, motionsAlong, visited, replay_append] using onward

theorem allSound_motionsAlong (calls : List QueueCall) :
    ∀ store : RedisStore σ, AllSound store.ready (motionsAlong codec store calls) := by
  induction calls with
  | nil => exact fun _ => trivial
  | cons call rest ih =>
      intro store
      have onward := ih (apply codec store call)
      rw [ready_apply] at onward
      exact (allSound_append _ _ _).2 ⟨allSound_motions codec store call, onward⟩

/-- The entries that have been pushed or promoted onto a list over a run, in order. -/
def arrived (store : RedisStore σ) (calls : List QueueCall) (key : String) : List String :=
  joinedAt key (motionsAlong codec store calls)

/-- The entries that dequeues have popped from a list over a run, in order. -/
def popped (store : RedisStore σ) (calls : List QueueCall) (key : String) : List String :=
  leftAt key (motionsAlong codec store calls)

/-- Entries are popped in the order in which they arrived, after those that were there. -/
theorem popped_in_order (store : RedisStore σ) (calls : List QueueCall) (key : String) :
    (store.ready key).reverse ++ arrived codec store calls key
      = popped codec store calls key ++ ((after codec store calls).ready key).reverse := by
  rw [ready_after]
  exact first_in_first_out key _ _ (allSound_motionsAlong codec calls store)

end Order

section Delivery

variable {σ : Type} [LinearOrder σ] (codec : Codec σ)

def jobIds (raws : List String) : List String := raws.filterMap codec.jobIdOf

/-- A promotion moves each due well-formed job once, to the far end of its own list, leaves the others that are
not due where they are and loses no job id. -/
structure Promotes (store : RedisStore σ) (queueName : String) (now : Datetime) (promoted : RedisStore σ) : Prop where
  moved : ∃ arrivals : String → List String, (∀ key, promoted.ready key = arrivals key ++ store.ready key) ∧
    ∀ member ∈ store.due codec queueName now, ∀ tier, codec.tierOf member = some tier →
      member ∉ (promoted.delayed (delayedKey queueName)).members ∧
        ∀ key, (arrivals key).count member = if key = readyKey queueName tier then 1 else 0
  future : ∀ entry, codec.timestamp now < entry.2 →
    (entry ∈ (promoted.delayed (delayedKey queueName)).entries ↔ entry ∈ (store.delayed (delayedKey queueName)).entries)
  conserved : ∀ keys : List String, keys.Nodup → (∀ key, key ∉ keys → promoted.ready key = store.ready key) →
    (jobIds codec (keys.flatMap promoted.ready ++ (promoted.delayed (delayedKey queueName)).members)).Perm
      (jobIds codec (keys.flatMap store.ready ++ (store.delayed (delayedKey queueName)).members))
  elsewhere : ∀ key, key ≠ delayedKey queueName → promoted.delayed key = store.delayed key

/-- A dequeue returns the oldest entry of the first tier of its order that has one. -/
def Takes (store : RedisStore σ) (queueNames : List String) (priorityOrder : List JobPriority) :
    DequeueReply × RedisStore σ → Prop
  | (.nothing, after) =>
      after = store ∧ ∀ tier ∈ priorityOrder, ∀ queueName ∈ queueNames, store.ready (readyKey queueName tier) = []
  | (.returned jobId, after) =>
      ∃ passed tier left, priorityOrder = passed ++ tier :: left ∧
        (∀ earlier ∈ passed, ∀ queueName ∈ queueNames, store.ready (readyKey queueName earlier) = []) ∧
        ∃ queueName ∈ queueNames, ∃ rest raw,
          store.ready (readyKey queueName tier) = rest ++ [raw] ∧ codec.jobIdOf raw = some jobId ∧
          after = { store with ready := Function.update store.ready (readyKey queueName tier) rest }
  | (.raised, _) => False

def Delivers (store : RedisStore σ) : QueueCall → Prop
  | .promoteDue queueName now => Promotes codec store queueName now (store.promoteDue codec queueName now).2
  | .dequeue queueNames priorityOrder =>
      Takes codec store queueNames priorityOrder (store.dequeue codec queueNames priorityOrder)
  | .pushReady .. | .pushDelayed .. => True

/-- No due well-formed job has a member before it at which the script breaks off. -/
def Unobstructed (store : RedisStore σ) (queueName : String) (now : Datetime) : Prop :=
  ∀ before member later, store.due codec queueName now = before ++ member :: later →
    (codec.tierOf member).isSome → ∀ earlier ∈ before, codec.verdict earlier ≠ .raised

/-- The oldest entry of the first list that has one has a job id. -/
def Readable (store : RedisStore σ) (queueNames : List String) (priorityOrder : List JobPriority) : Prop :=
  ∀ before key later rest raw, dequeueKeys queueNames priorityOrder = before ++ key :: later →
    (∀ earlier ∈ before, store.ready earlier = []) → store.ready key = rest ++ [raw] → (codec.jobIdOf raw).isSome

def Met (store : RedisStore σ) : QueueCall → Prop
  | .promoteDue queueName now => Unobstructed codec store queueName now
  | .dequeue queueNames priorityOrder => Readable codec store queueNames priorityOrder
  | .pushReady .. | .pushDelayed .. => True

variable {codec} {store : RedisStore σ} {queueName : String} {now : Datetime}

private abbrev moved (codec : Codec σ) (store : RedisStore σ) (queueName : String) (now : Datetime) :
    List (String × String) :=
  moves codec (readyKeyPrefix queueName) (store.due codec queueName now)

private theorem moved_nodup : ((moved codec store queueName now).map Prod.snd).Nodup :=
  (ScoredSet.upTo_nodup _ _).sublist (moves_sublist codec _ _)

theorem mem_members_of_mem_due {member : String} (due : member ∈ store.due codec queueName now) :
    member ∈ (store.delayed (delayedKey queueName)).members := by
  obtain ⟨score, held, _⟩ := ScoredSet.mem_upTo.1 due
  exact List.mem_map.2 ⟨_, held, rfl⟩

theorem ready_promoteDue (key : String) :
    (store.promoteDue codec queueName now).2.ready key
      = (entriesFor key (moved codec store queueName now)).reverse ++ store.ready key := by
  rw [RedisStore.promoteDue, ready_promoteEach]
  exact replay_joined key _ store.ready

theorem delayed_promoteDue :
    (store.promoteDue codec queueName now).2.delayed
      = Function.update store.delayed (delayedKey queueName)
          ((store.delayed (delayedKey queueName)).discard ((moved codec store queueName now).map Prod.snd)) :=
  delayed_promoteEach codec _ _ _ store

theorem count_moved {member : String} {tier : JobPriority} (wellFormed : codec.tierOf member = some tier)
    (reached : (readyKey queueName tier, member) ∈ moved codec store queueName now) (key : String) :
    (entriesFor key (moved codec store queueName now)).reverse.count member
      = if key = readyKey queueName tier then 1 else 0 := by
  have once : (entriesFor key (moved codec store queueName now)).Nodup :=
    moved_nodup.sublist (entriesFor_sublist key _)
  have whose : (key, member) ∈ moved codec store queueName now ↔ key = readyKey queueName tier := by
    constructor
    · intro here
      obtain ⟨suffix, read, rfl⟩ := verdict_of_mem_moves here
      rw [verdict_of_tierOf wellFormed, Verdict.pushed.injEq] at read
      rw [← read, readyKey]
    · rintro rfl
      exact reached
  rw [List.count_reverse, once.count]
  simp only [mem_entriesFor, whose]

theorem promotes_of_unobstructed (unobstructed : Unobstructed codec store queueName now) :
    Promotes codec store queueName now (store.promoteDue codec queueName now).2 := by
  constructor
  case moved =>
    refine ⟨fun key => (entriesFor key (moved codec store queueName now)).reverse, ready_promoteDue, ?_⟩
    intro member due tier wellFormed
    obtain ⟨before, later, split⟩ := List.append_of_mem due
    have clear := unobstructed before member later split (by simp [wellFormed])
    have reached : (readyKey queueName tier, member) ∈ moved codec store queueName now := by
      rw [moved, split]
      exact mem_moves (verdict_of_tierOf wellFormed) before later clear
    refine ⟨?_, count_moved wellFormed reached⟩
    have gone : member ∈ (moved codec store queueName now).map Prod.snd := List.mem_map.2 ⟨_, reached, rfl⟩
    simp [delayed_promoteDue, ScoredSet.discard_members, gone]
  case future =>
    intro entry later
    rw [delayed_promoteDue, Function.update_self, ScoredSet.mem_discard, and_iff_left_iff_imp]
    intro held moved
    obtain ⟨score, also, early⟩ := ScoredSet.mem_upTo.1 ((moves_sublist codec _ _).subset moved)
    have same : (entry.1, score) = entry := List.inj_on_of_nodup_map (store.delayed _).distinct also held rfl
    have scored : score = entry.2 := congrArg Prod.snd same
    exact absurd later (not_lt_of_ge (scored ▸ early))
  case conserved =>
    intro keys distinct covering
    have covered : ∀ entry ∈ moved codec store queueName now, entry.1 ∈ keys := by
      intro entry entryMem
      by_contra outside
      have unchanged : entriesFor entry.1 (moved codec store queueName now) = [] := by
        simpa only [ready_promoteDue, List.append_left_eq_self, List.reverse_eq_nil_iff] using covering entry.1 outside
      exact List.not_mem_nil (unchanged ▸ mem_entriesFor.2 entryMem)
    have joined : (keys.flatMap (store.promoteDue codec queueName now).2.ready).Perm
        ((moved codec store queueName now).map Prod.snd ++ keys.flatMap store.ready) := by
      rw [RedisStore.promoteDue, ready_promoteEach]
      exact replay_joined_perm store.ready distinct _ covered
    have split : (store.delayed (delayedKey queueName)).members.Perm
        ((moved codec store queueName now).map Prod.snd
          ++ ((store.promoteDue codec queueName now).2.delayed (delayedKey queueName)).members) := by
      rw [delayed_promoteDue, Function.update_self]
      exact ScoredSet.discard_perm moved_nodup _ fun member memberMem =>
        mem_members_of_mem_due ((moves_sublist codec _ _).subset memberMem)
    refine List.Perm.filterMap _ ((joined.append_right _).trans ?_)
    refine .trans ?_ (split.append_left (keys.flatMap store.ready)).symm
    rw [List.append_assoc]
    exact List.perm_append_comm_assoc _ _ _
  case elsewhere =>
    intro key other
    simp [delayed_promoteDue, other]

theorem unobstructed_of_promotes (promotes : Promotes codec store queueName now (store.promoteDue codec queueName now).2) :
    Unobstructed codec store queueName now := by
  intro before member later split wellFormed
  obtain ⟨tier, tierOf⟩ := Option.isSome_iff_exists.1 wellFormed
  have due : member ∈ store.due codec queueName now := split ▸ List.mem_append_right _ List.mem_cons_self
  obtain ⟨_, _, delivered⟩ := promotes.moved
  have gone := (delivered member due tier tierOf).1
  have reached : member ∈ (moved codec store queueName now).map Prod.snd := by
    by_contra missed
    refine gone ?_
    rw [delayed_promoteDue, Function.update_self, ScoredSet.discard_members, List.mem_filter]
    exact ⟨mem_members_of_mem_due due, by simpa using missed⟩
  have distinct : (before ++ member :: later).Nodup := split ▸ ScoredSet.upTo_nodup _ _
  rw [moved, split] at reached
  exact clear_of_mem_moves before later distinct reached

omit [LinearOrder σ] in
theorem takes_iff_readable (store : RedisStore σ) (queueNames : List String) (priorityOrder : List JobPriority) :
    Takes codec store queueNames priorityOrder (store.dequeue codec queueNames priorityOrder)
      ↔ Readable codec store queueNames priorityOrder := by
  have last : ∀ {key raw}, (store.ready key).getLast? = some raw ↔ ∃ rest, store.ready key = rest ++ [raw] :=
    List.getLast?_eq_some_iff
  cases taken : store.brpop (dequeueKeys queueNames priorityOrder) with
  | none =>
      have empty := brpop_eq_none_iff.1 taken
      have nothing : store.dequeue codec queueNames priorityOrder = (.nothing, store) := by
        simp [RedisStore.dequeue, taken]
      have passes : Takes codec store queueNames priorityOrder (store.dequeue codec queueNames priorityOrder) := by
        rw [nothing]
        refine ⟨rfl, fun tier listed queueName named => empty _ ?_⟩
        exact List.mem_flatMap.2 ⟨tier, listed, List.mem_map_of_mem named⟩
      refine iff_of_true passes fun before key later rest raw keys _ ends => ?_
      have member : key ∈ dequeueKeys queueNames priorityOrder := keys ▸ List.mem_append_right _ List.mem_cons_self
      simp [empty key member] at ends
  | some found =>
      obtain ⟨key, raw⟩ := found
      obtain ⟨before, later, keys, empty, ends⟩ := brpop_eq_some_iff.1 taken
      have condition : Readable codec store queueNames priorityOrder ↔ (codec.jobIdOf raw).isSome := by
        constructor
        · intro readable
          obtain ⟨rest, entries⟩ := last.1 ends
          exact readable before key later rest raw keys empty entries
        · intro read before' key' later' rest raw' keys' empty' ends'
          have same := brpop_eq_some_iff.2 ⟨before', later', keys', empty', last.2 ⟨rest, ends'⟩⟩
          obtain ⟨-, rfl⟩ := Prod.mk.inj (Option.some.inj (taken.symm.trans same))
          exact read
      rw [condition]
      cases read : codec.jobIdOf raw with
      | none => simp [RedisStore.dequeue, taken, read, Takes]
      | some jobId =>
          obtain ⟨passed, tier, left, order, skipped, queueName, named, rfl⟩ := brpop_dequeueKeys taken
          obtain ⟨rest, entries⟩ := last.1 ends
          refine iff_of_true ?_ rfl
          simp only [RedisStore.dequeue, taken, read]
          refine ⟨passed, tier, left, order, skipped, queueName, named, rest, raw, entries, read, ?_⟩
          rw [entries, List.dropLast_concat]

theorem delivers_iff_met (store : RedisStore σ) (call : QueueCall) :
    Delivers codec store call ↔ Met codec store call := by
  cases call with
  | pushReady queueName priority jobId => exact Iff.rfl
  | pushDelayed queueName priority jobId readyAt => exact Iff.rfl
  | promoteDue queueName now => exact ⟨unobstructed_of_promotes, promotes_of_unobstructed⟩
  | dequeue queueNames priorityOrder => exact takes_iff_readable store queueNames priorityOrder

/-- Over any run of pushes, promotions and dequeues, whoever makes them, entries are popped in the order in which
they arrived; and every call delivers what it should exactly when no promotion is broken off before a due
well-formed job and no dequeue comes upon an entry without a job id. -/
theorem queues_deliver_iff (codec : Codec σ) (store : RedisStore σ) (calls : List QueueCall) :
    ((∀ visit ∈ visited codec store calls, Delivers codec visit.1 visit.2) ∧
      ∀ key, (store.ready key).reverse ++ arrived codec store calls key
        = popped codec store calls key ++ ((after codec store calls).ready key).reverse) ↔
      ∀ visit ∈ visited codec store calls, Met codec visit.1 visit.2 := by
  constructor
  · rintro ⟨delivered, _⟩ visit visitMem
    exact (delivers_iff_met visit.1 visit.2).1 (delivered visit visitMem)
  · intro met
    refine ⟨fun visit visitMem => (delivers_iff_met visit.1 visit.2).2 (met visit visitMem), ?_⟩
    exact popped_in_order codec store calls

/-- Everything in the queues was written by a push. -/
structure Written (store : RedisStore σ) : Prop where
  ready : ∀ key, ∀ raw ∈ store.ready key, ∃ jobId priority, raw = envelope jobId priority
  delayed : ∀ key, ∀ member ∈ (store.delayed key).members, ∃ jobId priority, member = envelope jobId priority

theorem met_of_written (written : Written store) (call : QueueCall) : Met codec store call := by
  cases call with
  | pushReady queueName priority jobId => trivial
  | pushDelayed queueName priority jobId readyAt => trivial
  | promoteDue queueName now =>
      intro before member later split _ earlier earlierMem
      have due : earlier ∈ store.due codec queueName now := split ▸ List.mem_append_left _ earlierMem
      obtain ⟨jobId, priority, rfl⟩ := written.delayed _ earlier (mem_members_of_mem_due due)
      simp [verdict_envelope]
  | dequeue queueNames priorityOrder =>
      intro before key later rest raw keys _ entries
      obtain ⟨jobId, priority, rfl⟩ := written.ready key raw (by simp [entries])
      simp [jobIdOf_envelope]

omit [LinearOrder σ] in
theorem written_lpush (written : Written store) (key : String) (jobId : JobId) (priority : JobPriority) :
    Written (store.lpush key (envelope jobId priority)) := by
  refine ⟨fun other raw rawMem => ?_, written.delayed⟩
  by_cases same : other = key
  · subst same
    have either : raw = envelope jobId priority ∨ raw ∈ store.ready other := by
      simpa [RedisStore.lpush] using rawMem
    rcases either with rfl | before
    · exact ⟨jobId, priority, rfl⟩
    · exact written.ready other raw before
  · exact written.ready other raw (by simpa [RedisStore.lpush, same] using rawMem)

omit [LinearOrder σ] in
theorem written_zadd (written : Written store) (key : String) (jobId : JobId) (priority : JobPriority) (score : σ) :
    Written (store.zadd key (envelope jobId priority) score) := by
  refine ⟨written.ready, fun other member memberMem => ?_⟩
  by_cases same : other = key
  · subst same
    simp only [RedisStore.zadd, Function.update_self] at memberMem
    rcases ScoredSet.mem_members_add memberMem with rfl | before
    · exact ⟨jobId, priority, rfl⟩
    · exact written.delayed other member before
  · exact written.delayed other member (by simpa [RedisStore.zadd, same] using memberMem)

theorem written_promoteDue (written : Written store) (queueName : String) (now : Datetime) :
    Written (store.promoteDue codec queueName now).2 := by
  constructor
  case ready =>
    intro key raw rawMem
    rw [ready_promoteDue, List.mem_append, List.mem_reverse, mem_entriesFor] at rawMem
    rcases rawMem with arrived | before
    · have due := (moves_sublist codec _ _).subset (List.mem_map.2 ⟨_, arrived, rfl⟩)
      exact written.delayed _ raw (mem_members_of_mem_due due)
    · exact written.ready key raw before
  case delayed =>
    intro key member memberMem
    by_cases same : key = delayedKey queueName
    · subst same
      rw [delayed_promoteDue, Function.update_self, ScoredSet.discard_members] at memberMem
      exact written.delayed _ member (List.mem_filter.1 memberMem).1
    · exact written.delayed key member (by simpa [delayed_promoteDue, same] using memberMem)

theorem written_dequeue (written : Written store) (queueNames : List String) (priorityOrder : List JobPriority) :
    Written (store.dequeue codec queueNames priorityOrder).2 := by
  have ready : (store.dequeue codec queueNames priorityOrder).2.ready
      = replay store.ready (motions codec store (.dequeue queueNames priorityOrder)) :=
    ready_apply codec store (.dequeue queueNames priorityOrder)
  have delayed : (store.dequeue codec queueNames priorityOrder).2.delayed = store.delayed := by
    rw [RedisStore.dequeue]
    split <;> [rfl; (split <;> rfl)]
  refine ⟨fun key raw rawMem => written.ready key raw ?_, delayed ▸ written.delayed⟩
  rw [ready, motions] at rawMem
  cases taken : store.brpop (dequeueKeys queueNames priorityOrder) with
  | none => simpa [taken, replay] using rawMem
  | some found =>
      by_cases same : key = found.1
      · subst same
        exact (List.dropLast_sublist _).subset (by simpa [taken, replay, move] using rawMem)
      · simpa [taken, replay, move, same] using rawMem

theorem written_apply (written : Written store) (call : QueueCall) : Written (apply codec store call) := by
  cases call with
  | pushReady queueName priority jobId => exact written_lpush written _ jobId priority
  | pushDelayed queueName priority jobId readyAt => exact written_zadd written _ jobId priority _
  | promoteDue queueName now => exact written_promoteDue written queueName now
  | dequeue queueNames priorityOrder => exact written_dequeue written queueNames priorityOrder

theorem written_queues_deliver (calls : List QueueCall) :
    ∀ store : RedisStore σ, Written store → ∀ visit ∈ visited codec store calls, Delivers codec visit.1 visit.2 := by
  induction calls with
  | nil => exact fun _ _ _ none => nomatch none
  | cons call rest ih =>
      intro store written
      refine List.forall_mem_cons.2 ⟨(delivers_iff_met store call).2 (met_of_written written call), ?_⟩
      exact ih _ (written_apply written call)

end Delivery

section Sample

def opening : String := "\x7b\"job_id\": \""

def closing (priority : JobPriority) : String := "\", \"priority\": \"" ++ priority.value ++ "\"\x7d"

/-- A reader of envelopes, and of the number 5. -/
def readEnvelope (raw : String) : Option Json :=
  if raw = "5" then some (.number raw)
  else
    let rest := raw.toList.drop opening.toList.length
    (priorities.find? fun priority => (closing priority).toList.isSuffixOf rest).map fun priority =>
      described (String.ofList (rest.take (rest.length - (closing priority).toList.length))) priority

theorem envelope_eq (jobId : JobId) (priority : JobPriority) :
    envelope jobId priority = opening ++ (jobId.text ++ closing priority) := by
  unfold envelope opening closing
  simp only [String.append_assoc]

theorem closing_suffix_iff (text : List Char) (first second : JobPriority) :
    (closing first).toList <:+ text ++ (closing second).toList ↔ first = second := by
  constructor
  · intro suffix
    obtain ⟨front, same⟩ := suffix
    have reversed := congrArg (fun characters => characters.reverse.take 3) same
    have long : ∀ tier : JobPriority, 3 ≤ (closing tier).toList.reverse.length := by
      intro tier
      cases tier <;> decide
    simp only [List.reverse_append, List.take_append_of_le_length (long _)] at reversed
    cases first <;> cases second <;> first | rfl | (exact absurd reversed (by decide))
  · rintro rfl
    exact List.suffix_append _ _

theorem readEnvelope_envelope (jobId : JobId) (priority : JobPriority) :
    readEnvelope (envelope jobId priority) = some (described jobId.text priority) := by
  have shape : (envelope jobId priority).toList = opening.toList ++ (jobId.text.toList ++ (closing priority).toList) := by
    rw [envelope_eq, String.toList_append, String.toList_append]
  have rest : (envelope jobId priority).toList.drop opening.toList.length = jobId.text.toList ++ (closing priority).toList := by
    rw [shape, List.drop_left]
  have notFive : envelope jobId priority ≠ "5" := by
    intro same
    have lengths := congrArg String.length same
    have long : 1 < opening.toList.length := by decide
    have short : "5".length = 1 := rfl
    rw [← String.length_toList, shape, List.length_append] at lengths
    omega
  have found : (priorities.find? fun other =>
      (closing other).toList.isSuffixOf (jobId.text.toList ++ (closing priority).toList)) = some priority := by
    have suffix : ∀ other, (closing other).toList.isSuffixOf (jobId.text.toList ++ (closing priority).toList)
        = decide (other = priority) := by
      intro other
      rw [Bool.eq_iff_iff, List.isSuffixOf_iff_suffix, closing_suffix_iff, decide_eq_true_iff]
    simp only [suffix]
    cases priority <;> rfl
  rw [readEnvelope, if_neg notFive]
  simp only [rest, found, Option.map_some, List.length_append, Nat.add_sub_cancel, List.take_left,
    String.ofList_toList]

def sampleCodec : Codec Nat where
  timestamp := id
  cjsonDecode := readEnvelope
  jsonLoads := readEnvelope
  luaNumber := id
  str := fun
    | .string text => text
    | _ => ""
  decodes := readEnvelope_envelope
  loads := readEnvelope_envelope
  str_string := fun _ => rfl

def sampleJob : JobId := ⟨"job-1", by decide⟩

/-- The number 5 is due before a job of the high tier. -/
def obstructedStore : RedisStore Nat where
  ready := fun _ => []
  delayed := fun _ => ⟨[("5", 1), (envelope sampleJob .high, 2)], by decide⟩

theorem due_job_left_behind :
    sampleCodec.tierOf (envelope sampleJob .high) = some .high ∧
      (obstructedStore.promoteDue sampleCodec "default" 3).1 = none ∧
      (obstructedStore.promoteDue sampleCodec "default" 3).2.ready (readyKey "default" .high) = [] ∧
      ¬ Delivers sampleCodec obstructedStore (.promoteDue "default" 3) := by
  have due : obstructedStore.due sampleCodec "default" 3 = ["5"] ++ envelope sampleJob .high :: [] := by decide +kernel
  have wellFormed : sampleCodec.tierOf (envelope sampleJob .high) = some .high := by decide +kernel
  refine ⟨wellFormed, by decide +kernel, by decide +kernel, fun delivers => ?_⟩
  have unobstructed := unobstructed_of_promotes delivers
  exact unobstructed ["5"] _ [] due (by simp [wellFormed]) "5" (List.mem_singleton_self _) (by decide +kernel)

end Sample

end AutomationHub.Jobs.RedisQueue
