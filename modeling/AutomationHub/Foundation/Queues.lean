import Mathlib.Data.List.Basic
import Mathlib.Data.List.Nodup
import Mathlib.Data.List.Perm.Basic
import Mathlib.Data.List.Perm.Lattice
import Mathlib.Data.List.Sort
import Mathlib.Logic.Function.Basic
import Mathlib.Order.Defs.LinearOrder

/-!
Queues under keys, joined at the head of their lists and left at the end, and
sets whose members carry a score.
-/

set_option autoImplicit false

namespace AutomationHub.Foundation.Queues

/-- An entry joins a queue, or leaves it. -/
inductive Motion (κ ε : Type) where
  | joined (key : κ) (entry : ε)
  | left (key : κ) (entry : ε)

section Motions

variable {κ ε : Type} [DecidableEq κ]

def move (queues : κ → List ε) : Motion κ ε → κ → List ε
  | .joined key entry => Function.update queues key (entry :: queues key)
  | .left key _ => Function.update queues key (queues key).dropLast

/-- What leaves is the oldest entry of its queue. -/
def Sound (queues : κ → List ε) : Motion κ ε → Prop
  | .joined .. => True
  | .left key entry => (queues key).getLast? = some entry

def replay (queues : κ → List ε) (motions : List (Motion κ ε)) : κ → List ε :=
  motions.foldl move queues

def AllSound (queues : κ → List ε) : List (Motion κ ε) → Prop
  | [] => True
  | motion :: rest => Sound queues motion ∧ AllSound (move queues motion) rest

def joinedAt (key : κ) (motions : List (Motion κ ε)) : List ε :=
  motions.filterMap fun
    | .joined joined entry => if joined = key then some entry else none
    | .left .. => none

def leftAt (key : κ) (motions : List (Motion κ ε)) : List ε :=
  motions.filterMap fun
    | .joined .. => none
    | .left taken entry => if taken = key then some entry else none

theorem replay_append (queues : κ → List ε) (first second : List (Motion κ ε)) :
    replay queues (first ++ second) = replay (replay queues first) second :=
  List.foldl_append

theorem allSound_append (first second : List (Motion κ ε)) :
    ∀ queues : κ → List ε,
      AllSound queues (first ++ second) ↔ AllSound queues first ∧ AllSound (replay queues first) second := by
  induction first with
  | nil =>
      intro queues
      simp [AllSound, replay]
  | cons motion rest ih =>
      intro queues
      simp only [List.cons_append, AllSound, ih, and_assoc]
      rfl

theorem allSound_joined (entries : List (κ × ε)) :
    ∀ queues : κ → List ε, AllSound queues (entries.map fun entry => Motion.joined entry.1 entry.2) := by
  induction entries with
  | nil => exact fun _ => trivial
  | cons entry rest ih => exact fun queues => ⟨trivial, ih _⟩

/-- The contents of a queue and what joins it since leave it in that order. -/
theorem first_in_first_out (key : κ) (motions : List (Motion κ ε)) :
    ∀ queues : κ → List ε, AllSound queues motions →
      (queues key).reverse ++ joinedAt key motions
        = leftAt key motions ++ (replay queues motions key).reverse := by
  induction motions with
  | nil =>
      intro queues _
      simp [joinedAt, leftAt, replay]
  | cons motion rest ih =>
      intro queues sound
      obtain ⟨first, others⟩ := sound
      have onward := ih (move queues motion) others
      cases motion with
      | joined joined entry =>
          by_cases same : joined = key
          · subst same
            simpa [joinedAt, leftAt, replay, move] using onward
          · have elsewhere : key ≠ joined := Ne.symm same
            simpa [joinedAt, leftAt, replay, move, same, elsewhere] using onward
      | left taken entry =>
          by_cases same : taken = key
          · subst same
            have ends : queues taken = (queues taken).dropLast ++ [entry] :=
              (List.dropLast_append_getLast? entry first).symm
            have front : (queues taken).reverse = entry :: (queues taken).dropLast.reverse := by
              conv_lhs => rw [ends]
              simp
            simp only [move, Function.update_self] at onward
            simpa [joinedAt, leftAt, replay, move, front] using onward
          · have elsewhere : key ≠ taken := Ne.symm same
            simpa [joinedAt, leftAt, replay, move, same, elsewhere] using onward

def entriesFor (key : κ) (entries : List (κ × ε)) : List ε :=
  (entries.filter fun entry => entry.1 = key).map Prod.snd

theorem replay_joined (key : κ) (entries : List (κ × ε)) :
    ∀ queues : κ → List ε,
      replay queues (entries.map fun entry => Motion.joined entry.1 entry.2) key
        = (entriesFor key entries).reverse ++ queues key := by
  induction entries with
  | nil => exact fun _ => rfl
  | cons entry rest ih =>
      intro queues
      have onward := ih (move queues (.joined entry.1 entry.2))
      by_cases same : entry.1 = key
      · subst same
        simpa [replay, entriesFor, move] using onward
      · have elsewhere : key ≠ entry.1 := Ne.symm same
        simpa [replay, entriesFor, move, same, elsewhere] using onward

/-- Entries split by their keys are the same entries. -/
theorem entriesFor_perm {keys : List κ} (distinct : keys.Nodup) (entries : List (κ × ε))
    (covered : ∀ entry ∈ entries, entry.1 ∈ keys) :
    (keys.flatMap fun key => entriesFor key entries).Perm (entries.map Prod.snd) := by
  induction entries with
  | nil => simp [entriesFor]
  | cons entry rest ih =>
      have onward := ih fun other otherMem => covered other (List.mem_cons_of_mem _ otherMem)
      obtain ⟨before, after, rfl⟩ := List.append_of_mem (covered entry List.mem_cons_self)
      have apart := List.nodup_middle.1 distinct
      have elsewhere : ∀ key ∈ before ++ after, entriesFor key (entry :: rest) = entriesFor key rest := by
        intro key keyMem
        have different : entry.1 ≠ key := fun same => (List.nodup_cons.1 apart).1 (same ▸ keyMem)
        simp [entriesFor, different]
      have here : entriesFor entry.1 (entry :: rest) = entry.2 :: entriesFor entry.1 rest := by
        simp [entriesFor]
      have beforeSame : (before.flatMap fun key => entriesFor key (entry :: rest))
          = before.flatMap fun key => entriesFor key rest :=
        List.flatMap_congr fun key keyMem => elsewhere key (List.mem_append_left _ keyMem)
      have afterSame : (after.flatMap fun key => entriesFor key (entry :: rest))
          = after.flatMap fun key => entriesFor key rest :=
        List.flatMap_congr fun key keyMem => elsewhere key (List.mem_append_right _ keyMem)
      simp only [List.flatMap_append, List.flatMap_cons, beforeSame, afterSame, here, List.cons_append,
        List.map_cons] at onward ⊢
      exact (List.perm_middle).trans (onward.cons entry.2)

theorem mem_entriesFor {key : κ} {entry : ε} {entries : List (κ × ε)} :
    entry ∈ entriesFor key entries ↔ (key, entry) ∈ entries := by
  simp [entriesFor]

theorem entriesFor_sublist (key : κ) (entries : List (κ × ε)) :
    (entriesFor key entries).Sublist (entries.map Prod.snd) :=
  List.filter_sublist.map Prod.snd

/-- What joins is added to what the queues hold together. -/
theorem replay_joined_perm (queues : κ → List ε) {keys : List κ} (distinct : keys.Nodup) (entries : List (κ × ε))
    (covered : ∀ entry ∈ entries, entry.1 ∈ keys) :
    (keys.flatMap (replay queues (entries.map fun entry => Motion.joined entry.1 entry.2))).Perm
      (entries.map Prod.snd ++ keys.flatMap queues) := by
  have split : (keys.flatMap fun key => (entriesFor key entries).reverse ++ queues key).Perm
      ((keys.flatMap fun key => (entriesFor key entries).reverse) ++ keys.flatMap queues) :=
    (List.flatMap_append_perm keys _ _).symm
  have unreversed : (keys.flatMap fun key => (entriesFor key entries).reverse).Perm
      (keys.flatMap fun key => entriesFor key entries) :=
    List.Perm.flatMap_left keys fun key _ => List.reverse_perm _
  have arrived := unreversed.trans (entriesFor_perm distinct entries covered)
  simpa only [← replay_joined] using split.trans (arrived.append_right _)

end Motions

/-- Members with a score each, no member twice. -/
structure ScoredSet (ε σ : Type) where
  entries : List (ε × σ)
  distinct : (entries.map Prod.fst).Nodup

namespace ScoredSet

variable {ε σ : Type}

def members (set : ScoredSet ε σ) : List ε := set.entries.map Prod.fst

def empty : ScoredSet ε σ := ⟨[], List.nodup_nil⟩

section Changes

variable [DecidableEq ε]

/-- Without some members. -/
def discard (gone : List ε) (set : ScoredSet ε σ) : ScoredSet ε σ where
  entries := set.entries.filter fun entry => entry.1 ∉ gone
  distinct := set.distinct.sublist (List.filter_sublist.map Prod.fst)

theorem mem_discard {gone : List ε} {set : ScoredSet ε σ} {entry : ε × σ} :
    entry ∈ (set.discard gone).entries ↔ entry ∈ set.entries ∧ entry.1 ∉ gone := by
  simp [discard]

theorem discard_members (gone : List ε) (set : ScoredSet ε σ) :
    (set.discard gone).members = set.members.filter fun member => member ∉ gone := by
  simp [members, discard, List.filter_map, Function.comp_def]

theorem discard_discard (first second : List ε) (set : ScoredSet ε σ) :
    (set.discard first).discard second = set.discard (first ++ second) := by
  simp only [discard, List.filter_filter, mk.injEq]
  refine List.filter_congr fun entry _ => ?_
  simp [Bool.and_comm]

/-- What is discarded and what is left are the members together. -/
theorem discard_perm {gone : List ε} (distinct : gone.Nodup) (set : ScoredSet ε σ)
    (held : ∀ member ∈ gone, member ∈ set.members) : set.members.Perm (gone ++ (set.discard gone).members) := by
  have picked : (set.members.filter fun member => member ∈ gone).Perm gone := by
    have once : set.members.Nodup := set.distinct
    refine (List.perm_ext_iff_of_nodup (once.filter _) distinct).2 fun member => ?_
    simpa only [List.mem_filter, decide_eq_true_eq, and_iff_right_iff_imp] using held member
  have split := (List.filter_append_perm (fun member => decide (member ∈ gone)) set.members).symm
  simpa [discard_members] using split.trans (picked.append_right _)

theorem discard_nil (set : ScoredSet ε σ) : set.discard [] = set := by
  cases set
  simp [discard]

/-- A member with its score; a member already there takes the new one. -/
def add (member : ε) (score : σ) (set : ScoredSet ε σ) : ScoredSet ε σ where
  entries := (set.discard [member]).entries ++ [(member, score)]
  distinct := by
    have absent : member ∉ (set.discard [member]).members := by
      simp [discard_members]
    rw [List.map_append, List.map_singleton]
    exact (set.discard [member]).distinct.append (List.nodup_singleton _)
      (List.disjoint_singleton.2 absent)

theorem mem_members_add {member other : ε} {score : σ} {set : ScoredSet ε σ}
    (held : other ∈ (set.add member score).members) : other = member ∨ other ∈ set.members := by
  obtain ⟨entry, entryMem, rfl⟩ := List.mem_map.1 held
  rcases List.mem_append.1 entryMem with kept | new
  · exact .inr (List.mem_map.2 ⟨entry, (mem_discard.1 kept).1, rfl⟩)
  · exact .inl (congrArg Prod.fst (List.mem_singleton.1 new))

end Changes

section Ranges

variable [LinearOrder ε] [LinearOrder σ]

/-- By score, and among equal scores by the members themselves. -/
def precedes (first second : ε × σ) : Bool :=
  first.2 < second.2 || (first.2 = second.2 && first.1 ≤ second.1)

/-- The members scored up to a bound, by score. -/
def upTo (bound : σ) (set : ScoredSet ε σ) : List ε :=
  ((set.entries.filter fun entry => entry.2 ≤ bound).insertionSort fun first second => precedes first second).map
    Prod.fst

theorem upTo_perm (bound : σ) (set : ScoredSet ε σ) :
    (set.upTo bound).Perm ((set.entries.filter fun entry => entry.2 ≤ bound).map Prod.fst) :=
  (List.perm_insertionSort _ _).map Prod.fst

theorem mem_upTo {bound : σ} {set : ScoredSet ε σ} {member : ε} :
    member ∈ set.upTo bound ↔ ∃ score, (member, score) ∈ set.entries ∧ score ≤ bound := by
  simp [(set.upTo_perm bound).mem_iff]

theorem upTo_nodup (bound : σ) (set : ScoredSet ε σ) : (set.upTo bound).Nodup :=
  (set.upTo_perm bound).nodup_iff.2 (set.distinct.sublist (List.filter_sublist.map Prod.fst))

end Ranges

end ScoredSet

end AutomationHub.Foundation.Queues
