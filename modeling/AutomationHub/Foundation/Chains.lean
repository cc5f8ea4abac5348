import Mathlib.Logic.Relation
import Mathlib.Data.List.Nodup

/-!
Chains of versions: each link has a key of its own, a version, and the key of the
link that it succeeds, if any.
-/

set_option autoImplicit false

namespace AutomationHub.Foundation

structure Link (κ : Type) where
  key : κ
  version : Nat
  predecessor : Option κ
deriving DecidableEq

namespace Link

variable {κ : Type} {links : List (Link κ)} {link first second newer older : Link κ}

/-- A first link has version 1, and any other the version after that of its predecessor. -/
def Numbered (links : List (Link κ)) : Prop :=
  ∀ link ∈ links, match link.predecessor with
    | none => link.version = 1
    | some key => ∃ older ∈ links, older.key = key ∧ link.version = older.version + 1

/-- No two links have one predecessor. -/
def Linear (links : List (Link κ)) : Prop :=
  ∀ first ∈ links, ∀ second ∈ links, ∀ key, first.predecessor = some key → second.predecessor = some key → first = second

/-- The newer link is the next one after the older. -/
structure Follows (links : List (Link κ)) (newer older : Link κ) : Prop where
  newer_mem : newer ∈ links
  older_mem : older ∈ links
  succeeds : newer.predecessor = some older.key

def SameChain (links : List (Link κ)) : Link κ → Link κ → Prop := Relation.EqvGen (Follows links)

theorem Numbered.append (numbered : Numbered links)
    (added : match link.predecessor with
      | none => link.version = 1
      | some key => ∃ older ∈ links, older.key = key ∧ link.version = older.version + 1) :
    Numbered (links ++ [link]) := by
  have extended : ∀ other : Link κ, (match other.predecessor with
      | none => other.version = 1
      | some key => ∃ older ∈ links, older.key = key ∧ other.version = older.version + 1) →
      match other.predecessor with
      | none => other.version = 1
      | some key => ∃ older ∈ links ++ [link], older.key = key ∧ other.version = older.version + 1 := by
    intro other placed
    cases predecessor : other.predecessor with
    | none => simpa only [predecessor] using placed
    | some key =>
        simp only [predecessor] at placed ⊢
        obtain ⟨older, member, rest⟩ := placed
        exact ⟨older, List.mem_append_left _ member, rest⟩
  intro other member
  rcases List.mem_append.mp member with member | last
  · exact extended other (numbered other member)
  · rw [List.mem_singleton.mp last]
    exact extended link added

theorem Linear.append (linear : Linear links)
    (apart : ∀ other ∈ links, ∀ key, link.predecessor = some key → other.predecessor ≠ some key) :
    Linear (links ++ [link]) := by
  intro first left second right key firstAfter secondAfter
  rcases List.mem_append.mp left with left | last
  · rcases List.mem_append.mp right with right | last
    · exact linear first left second right key firstAfter secondAfter
    · rw [List.mem_singleton.mp last] at secondAfter
      exact absurd firstAfter (apart first left key secondAfter)
  · rw [List.mem_singleton.mp last] at firstAfter ⊢
    rcases List.mem_append.mp right with right | last
    · exact absurd secondAfter (apart second right key firstAfter)
    · exact (List.mem_singleton.mp last).symm

theorem follows_rightUnique (distinct : (links.map Link.key).Nodup) : Relator.RightUnique (Follows links) := by
  intro newer older other after also
  have keys : older.key = other.key := Option.some.inj (after.succeeds.symm.trans also.succeeds)
  exact List.inj_on_of_nodup_map distinct after.older_mem also.older_mem keys

theorem follows_leftUnique (linear : Linear links) : Relator.LeftUnique (Follows links) := by
  intro first second older after also
  exact linear first after.newer_mem second also.newer_mem older.key after.succeeds also.succeeds

/-- In lines, of two links of a chain one comes after the other. -/
theorem SameChain.comparable (distinct : (links.map Link.key).Nodup) (linear : Linear links)
    (same : SameChain links first second) :
    Relation.ReflTransGen (Follows links) first second ∨ Relation.ReflTransGen (Follows links) second first := by
  have forward := follows_rightUnique distinct
  have backward := (follows_leftUnique linear).flip
  induction same with
  | rel newer older after => exact .inl (.single after)
  | refl link => exact .inl .refl
  | symm first second _ recurse => exact recurse.symm
  | trans first middle last _ _ left right =>
      rcases left with left | left
      · rcases right with right | right
        · exact .inl (left.trans right)
        · have total := Relation.ReflTransGen.total_of_right_unique backward
            (Relation.reflTransGen_swap.mpr left) (Relation.reflTransGen_swap.mpr right)
          exact total.symm.imp Relation.reflTransGen_swap.mp Relation.reflTransGen_swap.mp
      · rcases right with right | right
        · exact Relation.ReflTransGen.total_of_right_unique forward left right
        · exact .inr (right.trans left)

/-- A chain has one last link. -/
theorem SameChain.eq_of_last (distinct : (links.map Link.key).Nodup) (linear : Linear links)
    (same : SameChain links first second) (last : ∀ newer, ¬ Follows links newer first)
    (ends : ∀ newer, ¬ Follows links newer second) : first = second := by
  rcases same.comparable distinct linear with after | after
  · rcases after.cases_tail with same | ⟨newer, -, follows⟩
    · exact same.symm
    · exact absurd follows (ends newer)
  · rcases after.cases_tail with same | ⟨newer, -, follows⟩
    · exact same
    · exact absurd follows (last newer)

end Link

end AutomationHub.Foundation
