import AutomationHub.Foundation.Pool
import Mathlib.Data.List.Nodup

/-!
Partial updates of a row by threads each of which reads the row, fills the fields that its
patch leaves out from what it has read, and writes the whole row back.
-/

set_option autoImplicit false

namespace AutomationHub.Foundation

section Patches

variable {Field : Type} {Value : Field → Type}

/-- For each field the value that is to be set, if any. -/
abbrev Patch (Value : Field → Type) := (field : Field) → Option (Value field)

namespace Patch

def apply (patch : Patch Value) (row : (field : Field) → Value field) : (field : Field) → Value field :=
  fun field => (patch field).getD (row field)

/-- The row has the values that the patch sets. -/
def Carried (patch : Patch Value) (row : (field : Field) → Value field) : Prop :=
  ∀ field value, patch field = some value → row field = value

/-- No field is set by both. -/
def Apart (first second : Patch Value) : Prop :=
  ∀ field, first field = none ∨ second field = none

variable {first second : Patch Value} {row : (field : Field) → Value field}

theorem carried_apply (patch : Patch Value) (row : (field : Field) → Value field) : patch.Carried (patch.apply row) := by
  intro field value set
  rw [apply, set, Option.getD_some]

theorem Apart.symm (apart : Apart first second) : Apart second first :=
  fun field => (apart field).symm

/-- Another patch neither sets nor spoils the fields of a patch. -/
theorem carried_apply_iff (apart : Apart first second) : first.Carried (second.apply row) ↔ first.Carried row := by
  refine forall_congr' fun field => forall_congr' fun value => imp_congr_right ?_
  intro set
  rcases apart field with unset | unset
  · rw [unset] at set
    cases set
  · rw [apply, unset, Option.getD_none]

end Patch

end Patches

/-- What a reply says of the row, and what a call puts in its place. -/
structure RowAccess (sig : Signature) (Row : Type) where
  reads : (request : sig.Call) → sig.Reply request → Option Row
  writes : (request : sig.Call) → sig.Reply request → Option Row

inductive Merging (Row : Type) where
  | starting
  | holding (row : Row)
  | written

section Merging

variable {sig : Signature} {Row ε σ ι : Type}

def Merging.advance : Merging Row → Option Row → Option Row → Merging Row
  | .starting, some row, _ => .holding row
  | .starting, none, _ => .starting
  | .holding _, _, some _ => .written
  | .holding row, _, none => .holding row
  | .written, _, _ => .written

/-- The row is read before it is written, it is written once, and what is written merges what was read. -/
def merging (access : RowAccess sig Row) (allowed : sig.Call → Prop) (merge : Row → Row) : Protocol sig (Merging Row) where
  permits := fun phase request => allowed request ∧
    match phase with
    | .starting => ∀ reply, access.writes request reply = none
    | .holding row => ∀ reply, access.reads request reply = none ∧
        ∀ whole, access.writes request reply = some whole → whole = merge row
    | .written => ∀ reply, access.reads request reply = none ∧ access.writes request reply = none
  answers := fun phase request reply after => after = phase.advance (access.reads request reply) (access.writes request reply)

variable [DecidableEq ι] (access : RowAccess sig Row)

/-- The row as a thread has read it. -/
def rowRead (thread : ι) (events : List (Event sig ι)) : Option Row :=
  events.findSome? fun event => if event.thread = thread then access.reads event.request event.reply else none

/-- The threads that have written the row, in order. -/
def writers (events : List (Event sig ι)) : List ι :=
  events.filterMap fun event => (access.writes event.request event.reply).map fun _ => event.thread

variable {access} {events : List (Event sig ι)} {event : Event sig ι} {thread : ι} {row : Row}

theorem rowRead_append_of_some (read : rowRead access thread events = some row) (event : Event sig ι) :
    rowRead access thread (events ++ [event]) = some row := by
  rw [rowRead, List.findSome?_append]
  rw [rowRead] at read
  rw [read]
  rfl

theorem rowRead_append_of_none (unread : rowRead access thread events = none) :
    rowRead access thread (events ++ [event]) =
      if event.thread = thread then access.reads event.request event.reply else none := by
  rw [rowRead, List.findSome?_append]
  rw [rowRead] at unread
  rw [unread]
  simp only [List.findSome?_cons, List.findSome?_nil, Option.none_or]
  split <;> rename_i found
  · exact found.symm
  · exact found.symm

theorem rowRead_append_of_silent (silent : access.reads event.request event.reply = none) :
    rowRead access thread (events ++ [event]) = rowRead access thread events := by
  cases read : rowRead access thread events with
  | some row => exact rowRead_append_of_some read event
  | none => rw [rowRead_append_of_none read, silent, ite_self]

theorem rowRead_append_of_other (other : event.thread ≠ thread) :
    rowRead access thread (events ++ [event]) = rowRead access thread events := by
  cases read : rowRead access thread events with
  | some row => exact rowRead_append_of_some read event
  | none => rw [rowRead_append_of_none read, if_neg other]

omit [DecidableEq ι] in
theorem writers_append (event : Event sig ι) : writers access (events ++ [event]) =
    writers access events ++ ((access.writes event.request event.reply).map fun _ => event.thread).toList := by
  rw [writers, writers, List.filterMap_append]
  congr 1

/-- What the calls so far have made of the row: nothing, or what the last writer merged into what it had read. -/
structure Merged (access : RowAccess sig Row) (merge : ι → Row → Row) (initial : Row) (events : List (Event sig ι))
    (phases : ι → Merging Row) (current : Row) : Prop where
  starting : ∀ thread, phases thread = .starting → rowRead access thread events = none
  holding : ∀ thread row, phases thread = .holding row → rowRead access thread events = some row
  written : ∀ thread, thread ∈ writers access events ↔ phases thread = .written
  nodup : (writers access events).Nodup
  current : (writers access events = [] ∧ current = initial) ∨
    ∃ earlier thread row, writers access events = earlier ++ [thread] ∧ rowRead access thread events = some row ∧
      current = merge thread row
  read : ∀ thread ∈ writers access events, (rowRead access thread events).isSome = true

/-- What is relied on of the calls: a read says what the row is, and only a write changes it. -/
structure RowAccess.Lawful (access : RowAccess sig Row) (allowed : sig.Call → Prop) (effect : Effect sig σ ι)
    (current : σ → Row) : Prop where
  reads : ∀ {thread state request reply after}, allowed request → effect thread state request reply after →
    ∀ row, access.reads request reply = some row → row = current state
  writes : ∀ {thread state request reply after}, allowed request → effect thread state request reply after →
    current after = (access.writes request reply).getD (current state)
  apart : ∀ request reply, access.reads request reply = none ∨ access.writes request reply = none

variable {merge : ι → Row → Row} {initial present : Row} {phases : ι → Merging Row}

theorem Merged.begin (access : RowAccess sig Row) (merge : ι → Row → Row) (initial : Row) :
    Merged access merge initial [] (fun _ : ι => Merging.starting) initial where
  starting := fun _ _ => rfl
  holding := by
    intro thread row held
    cases held
  written := by
    intro thread
    constructor
    · intro member
      cases member
    · intro done
      cases done
  nodup := List.nodup_nil
  current := .inl ⟨rfl, rfl⟩
  read := by
    intro thread member
    cases member

/-- A call that neither reads nor writes the row changes nothing. -/
theorem Merged.silent (merged : Merged access merge initial events phases present)
    (unread : access.reads event.request event.reply = none) (unwritten : access.writes event.request event.reply = none) :
    Merged access merge initial (events ++ [event]) phases present := by
  have same : writers access (events ++ [event]) = writers access events := by
    rw [writers_append, unwritten, Option.map_none, Option.toList_none, List.append_nil]
  constructor
  · intro thread starting
    rw [rowRead_append_of_silent unread]
    exact merged.starting thread starting
  · intro thread row held
    rw [rowRead_append_of_silent unread]
    exact merged.holding thread row held
  · rw [same]
    exact merged.written
  · rw [same]
    exact merged.nodup
  · rw [same]
    rcases merged.current with untouched | ⟨earlier, thread, row, last, read, value⟩
    · exact .inl untouched
    · exact .inr ⟨earlier, thread, row, last, rowRead_append_of_some read event, value⟩
  · intro thread member
    rw [same] at member
    rw [rowRead_append_of_silent unread]
    exact merged.read thread member

theorem Merged.readRow (merged : Merged access merge initial events phases present)
    (starting : phases event.thread = .starting) (read : access.reads event.request event.reply = some row)
    (unwritten : access.writes event.request event.reply = none) :
    Merged access merge initial (events ++ [event]) (Function.update phases event.thread (.holding row)) present := by
  have same : writers access (events ++ [event]) = writers access events := by
    rw [writers_append, unwritten, Option.map_none, Option.toList_none, List.append_nil]
  have own : rowRead access event.thread (events ++ [event]) = some row := by
    rw [rowRead_append_of_none (merged.starting _ starting), if_pos rfl, read]
  constructor
  · intro thread unread
    by_cases mine : thread = event.thread
    · subst mine
      rw [Function.update_self] at unread
      cases unread
    · rw [Function.update_of_ne mine] at unread
      rw [rowRead_append_of_other (Ne.symm mine)]
      exact merged.starting thread unread
  · intro thread other held
    by_cases mine : thread = event.thread
    · subst mine
      rw [Function.update_self] at held
      cases held
      exact own
    · rw [Function.update_of_ne mine] at held
      rw [rowRead_append_of_other (Ne.symm mine)]
      exact merged.holding thread other held
  · intro thread
    rw [same, merged.written]
    by_cases mine : thread = event.thread
    · subst mine
      rw [Function.update_self, starting]
      constructor <;> intro done <;> cases done
    · rw [Function.update_of_ne mine]
  · rw [same]
    exact merged.nodup
  · rw [same]
    rcases merged.current with untouched | ⟨earlier, thread, other, last, found, value⟩
    · exact .inl untouched
    · exact .inr ⟨earlier, thread, other, last, rowRead_append_of_some found event, value⟩
  · intro thread member
    rw [same] at member
    obtain ⟨other, found⟩ := Option.isSome_iff_exists.mp (merged.read thread member)
    rw [rowRead_append_of_some found event]
    rfl

theorem Merged.writeRow (merged : Merged access merge initial events phases present)
    (holding : phases event.thread = .holding row)
    (written : access.writes event.request event.reply = some (merge event.thread row)) :
    Merged access merge initial (events ++ [event]) (Function.update phases event.thread .written)
      (merge event.thread row) := by
  have longer : writers access (events ++ [event]) = writers access events ++ [event.thread] := by
    rw [writers_append, written, Option.map_some, Option.toList_some]
  have read : rowRead access event.thread (events ++ [event]) = some row :=
    rowRead_append_of_some (merged.holding _ row holding) event
  constructor
  · intro thread starting
    by_cases mine : thread = event.thread
    · subst mine
      rw [Function.update_self] at starting
      cases starting
    · rw [Function.update_of_ne mine] at starting
      rw [rowRead_append_of_other (Ne.symm mine)]
      exact merged.starting thread starting
  · intro thread other held
    by_cases mine : thread = event.thread
    · subst mine
      rw [Function.update_self] at held
      cases held
    · rw [Function.update_of_ne mine] at held
      rw [rowRead_append_of_other (Ne.symm mine)]
      exact merged.holding thread other held
  · intro thread
    rw [longer, List.mem_append, List.mem_singleton, merged.written]
    by_cases mine : thread = event.thread
    · subst mine
      rw [Function.update_self]
      exact iff_of_true (.inr rfl) rfl
    · rw [Function.update_of_ne mine, or_iff_left mine]
  · rw [longer, List.nodup_append]
    refine ⟨merged.nodup, List.nodup_singleton _, ?_⟩
    intro thread member own singleton same
    rw [List.mem_singleton.mp singleton] at same
    rw [same, merged.written, holding] at member
    cases member
  · exact .inr ⟨_, event.thread, row, longer, read, rfl⟩
  · intro thread member
    rw [longer] at member
    rcases List.mem_append.mp member with earlier | own
    · obtain ⟨other, found⟩ := Option.isSome_iff_exists.mp (merged.read thread earlier)
      rw [rowRead_append_of_some found event]
      rfl
    · rw [List.mem_singleton.mp own, read]
      rfl

variable {allowed : sig.Call → Prop} {effect : Effect sig σ ι} {current : σ → Row}

/-- The step of the threads. -/
theorem Merged.step {state after : σ} {request : sig.Call} {reply : sig.Reply request}
    (lawful : access.Lawful allowed effect current)
    (merged : Merged access merge initial events phases (current state))
    (permitted : (merging access allowed (merge thread)).permits (phases thread) request)
    (answered : effect thread state request reply after) :
    Merged access merge initial (events ++ [⟨thread, request, reply⟩])
      (Function.update phases thread ((phases thread).advance (access.reads request reply) (access.writes request reply)))
      (current after) := by
  obtain ⟨allowed, discipline⟩ := permitted
  have value := lawful.writes allowed answered
  cases phase : phases thread with
  | starting =>
      rw [phase] at discipline
      have unwritten := discipline reply
      rw [unwritten, Option.getD_none] at value
      rw [value]
      cases read : access.reads request reply with
      | none =>
          have kept : Function.update phases thread (Merging.starting.advance none (access.writes request reply)) = phases := by
            rw [Merging.advance, ← phase, Function.update_eq_self]
          rw [kept]
          exact merged.silent read unwritten
      | some row => exact merged.readRow phase read unwritten
  | holding row =>
      rw [phase] at discipline
      obtain ⟨unread, whole⟩ := discipline reply
      rw [unread]
      cases written : access.writes request reply with
      | none =>
          have kept : Function.update phases thread ((Merging.holding row).advance none none) = phases := by
            rw [Merging.advance, ← phase, Function.update_eq_self]
          rw [written, Option.getD_none] at value
          rw [value, kept]
          exact merged.silent unread written
      | some new =>
          have same := whole new written
          subst same
          rw [written, Option.getD_some] at value
          rw [value]
          exact merged.writeRow phase written
  | written =>
      rw [phase] at discipline
      obtain ⟨unread, unwritten⟩ := discipline reply
      have kept : Function.update phases thread
          (Merging.written.advance (access.reads request reply) (access.writes request reply)) = phases := by
        rw [Merging.advance, ← phase, Function.update_eq_self]
      rw [unwritten, Option.getD_none] at value
      rw [value, kept]
      exact merged.silent unread unwritten

/-- A list of the two threads without repetition. -/
theorem pair_of_nodup {threads earlier : List Bool} {later : Bool} (nodup : threads.Nodup)
    (all : ∀ thread, thread ∈ threads) (split : threads = earlier ++ [later]) : threads = [!later, later] := by
  subst split
  obtain ⟨first, -, apart⟩ := List.nodup_append.mp nodup
  have others : ∀ thread ∈ earlier, thread = !later := by
    intro thread member
    have different := apart thread member later (List.mem_singleton_self later)
    cases thread <;> cases later <;> simp_all
  cases earlier with
  | nil =>
      have there := List.mem_singleton.mp (all (!later))
      cases later <;> cases there
  | cons thread rest =>
      cases rest with
      | nil => rw [others thread List.mem_cons_self]; rfl
      | cons other rest =>
          have same := (others thread List.mem_cons_self).trans
            (others other (List.mem_cons_of_mem _ List.mem_cons_self)).symm
          rw [same] at first
          exact absurd List.mem_cons_self (List.nodup_cons.mp first).1

/-- A thread that has returned has written. -/
def WrittenOnce (result : Except ε Unit) (phase : Merging Row) : Prop :=
  result = .ok () → phase = .written

/-- Whatever the order of the calls: the row is what the last of the two writers merged into the row that it had read. -/
theorem merged_of_run {patches : Bool → Row → Row} {effect : Effect sig σ Bool} (lawful : access.Lawful allowed effect current)
    {first last : Pool sig ε σ Bool} {events : List (Event sig Bool)} (run : Pool.Run effect first events last)
    (follows : ∀ thread, (first.threads thread).Ensures (merging access allowed (patches thread)) WrittenOnce .starting)
    (finished : ∀ thread, last.threads thread = .done ()) :
    ∃ earlier later row, earlier ≠ later ∧ writers access events = [earlier, later] ∧
      rowRead access later events = some row ∧ current last.shared = patches later row := by
  obtain ⟨phases, merged, ended⟩ := run.invariant
    (fun events phases state => Merged access patches (current first.shared) events phases (current state))
    (fun events phases state thread request reply after merged permitted answered =>
      ⟨_, rfl, merged.step lawful permitted answered⟩)
    (fun _ => .starting) (Merged.begin access patches _) follows
  have written : ∀ thread, thread ∈ writers access events := by
    intro thread
    have reached := ended thread
    rw [finished thread] at reached
    exact (merged.written thread).mpr (reached rfl)
  rcases merged.current with ⟨none, -⟩ | ⟨others, later, row, split, read, value⟩
  · have there := written true
    rw [none] at there
    cases there
  · refine ⟨!later, later, row, ?_, pair_of_nodup merged.nodup written split, read, value⟩
    cases later <;> decide

end Merging

end AutomationHub.Foundation
