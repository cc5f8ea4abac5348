import Mathlib.Data.List.Basic
import Mathlib.Data.List.Infix
import Mathlib.Tactic.Common

/-!
Texts with an escape symbol: quoted tokens, and patterns with wildcards.

Both readers take the symbol after an escape as it is.
-/

set_option autoImplicit false

namespace AutomationHub.Foundation

section Escapes

variable {α : Type} [DecidableEq α]

/-- The text with every occurrence of a symbol replaced. -/
def substitute (target : α) (replacement text : List α) : List α :=
  text.flatMap fun symbol => if symbol = target then replacement else [symbol]

/-- The text with an escape before each special symbol. -/
def escaped (escape : α) (special : α → Bool) (text : List α) : List α :=
  text.flatMap fun symbol => if special symbol then [escape, symbol] else [symbol]

variable {escape target : α} {special : α → Bool}

omit [DecidableEq α] in
theorem escaped_cons (symbol : α) (text : List α) :
    escaped escape special (symbol :: text) =
      (if special symbol then [escape, symbol] else [symbol]) ++ escaped escape special text := by
  rw [escaped, List.flatMap_cons, escaped]

theorem substitute_append (replacement left right : List α) :
    substitute target replacement (left ++ right) =
      substitute target replacement left ++ substitute target replacement right := by
  simp [substitute]

/-- Doubling the escape escapes it. -/
theorem substitute_escape (text : List α) :
    substitute escape [escape, escape] text = escaped escape (fun symbol => symbol == escape) text := by
  apply List.flatMap_congr
  intro symbol _
  by_cases same : symbol = escape
  · simp [same]
  · simp [same]

/-- A symbol that is not escaped yet is escaped by a substitution. -/
theorem substitute_escaped (apart : target ≠ escape) (plain : special target = false) (text : List α) :
    substitute target [escape, target] (escaped escape special text) =
      escaped escape (fun symbol => special symbol || symbol == target) text := by
  induction text with
  | nil => rfl
  | cons symbol text recurse =>
      rw [escaped_cons, escaped_cons, substitute_append, recurse]
      by_cases same : symbol = target
      · subst same
        simp [substitute, plain]
      · cases held : special symbol with
        | true => simp [substitute, same, Ne.symm apart]
        | false => simp [substitute, same]

/-- Read up to the closing quote; `escaping` tells that an escape came just before. -/
def readQuoted (escape quote : α) (escaping : Bool) : List α → Option (List α × List α)
  | [] => none
  | symbol :: rest =>
      if escaping then (readQuoted escape quote false rest).map fun read => (symbol :: read.1, read.2)
      else if symbol = quote then some ([], rest)
      else if symbol = escape then readQuoted escape quote true rest
      else (readQuoted escape quote false rest).map fun read => (symbol :: read.1, read.2)

theorem readQuoted_escaped {quote : α} (apart : quote ≠ escape) (text rest : List α) :
    readQuoted escape quote false
        (escaped escape (fun symbol => symbol == escape || symbol == quote) text ++ quote :: rest) =
      some (text, rest) := by
  induction text with
  | nil => simp [escaped, readQuoted]
  | cons symbol text recurse =>
      rw [escaped_cons, List.append_assoc]
      by_cases marked : symbol = escape ∨ symbol = quote
      · have first : (symbol == escape || symbol == quote) = true := by simpa using marked
        rw [first, if_pos rfl]
        simp [readQuoted, Ne.symm apart, recurse]
      · obtain ⟨unescaping, unclosing⟩ := not_or.mp marked
        have first : (symbol == escape || symbol == quote) = false := by simp [unescaping, unclosing]
        rw [first, if_neg Bool.false_ne_true]
        simp [readQuoted, unescaping, unclosing, recurse]

end Escapes

/-- The marks of a pattern language. -/
structure PatternMarks (α : Type) where
  escape : α
  anyRun : α
  anyOne : α
  run_ne_escape : anyRun ≠ escape
  one_ne_escape : anyOne ≠ escape

inductive Piece (α : Type) where
  | symbol (value : α)
  | anyOne
  | anyRun

section Patterns

variable {α : Type} [DecidableEq α]

def PatternMarks.special (marks : PatternMarks α) (symbol : α) : Bool :=
  symbol == marks.escape || symbol == marks.anyRun || symbol == marks.anyOne

/-- The pieces of a pattern, which must not end with its escape; `escaping` tells that an escape came just before. -/
def PatternMarks.pieces (marks : PatternMarks α) (escaping : Bool) : List α → Option (List (Piece α))
  | [] => if escaping then none else some []
  | symbol :: rest =>
      if escaping then (marks.pieces false rest).map (Piece.symbol symbol :: ·)
      else if symbol = marks.escape then marks.pieces true rest
      else if symbol = marks.anyRun then (marks.pieces false rest).map (Piece.anyRun :: ·)
      else if symbol = marks.anyOne then (marks.pieces false rest).map (Piece.anyOne :: ·)
      else (marks.pieces false rest).map (Piece.symbol symbol :: ·)

/-- The pieces cover the whole text, where a symbol covers those that are like it. -/
def covers (alike : α → α → Bool) : List (Piece α) → List α → Bool
  | [], text => text.isEmpty
  | .symbol value :: pieces, other :: text => alike value other && covers alike pieces text
  | .anyOne :: pieces, _ :: text => covers alike pieces text
  | .anyRun :: pieces, text => text.tails.any (covers alike pieces)
  | _, [] => false

def PatternMarks.matches? (marks : PatternMarks α) (alike : α → α → Bool) (pattern text : List α) : Option Bool :=
  (marks.pieces false pattern).map fun pieces => covers alike pieces text

theorem PatternMarks.pieces_escaped (marks : PatternMarks α) (text rest : List α) :
    marks.pieces false (escaped marks.escape marks.special text ++ rest) =
      (marks.pieces false rest).map (text.map Piece.symbol ++ ·) := by
  induction text with
  | nil => simp [escaped]
  | cons symbol text recurse =>
      rw [escaped_cons, List.append_assoc]
      cases held : marks.special symbol with
      | true => simp [PatternMarks.pieces, recurse, Function.comp_def]
      | false =>
          have plain : (symbol ≠ marks.escape ∧ symbol ≠ marks.anyRun) ∧ symbol ≠ marks.anyOne := by
            simpa [PatternMarks.special] using held
          simp [PatternMarks.pieces, plain, recurse, Function.comp_def]

/-- The text has a part that is like the needle. -/
def ContainsAlike (alike : α → α → Bool) (needle text : List α) : Prop :=
  ∃ before middle after, text = before ++ middle ++ after ∧
    List.Forall₂ (fun wanted found => alike wanted found = true) needle middle

variable {alike : α → α → Bool}

omit [DecidableEq α] in
theorem covers_prefix_iff (needle text : List α) :
    covers alike (needle.map Piece.symbol ++ [.anyRun]) text = true ↔
      ∃ middle after, text = middle ++ after ∧
        List.Forall₂ (fun wanted found => alike wanted found = true) needle middle := by
  induction needle generalizing text with
  | nil =>
      constructor
      · intro _
        exact ⟨[], text, rfl, .nil⟩
      · intro _
        exact List.any_eq_true.mpr ⟨[], by simp, rfl⟩
  | cons wanted needle recurse =>
      cases text with
      | nil =>
          constructor
          · intro covered
            cases covered
          · intro contained
            obtain ⟨middle, after, joined, liked⟩ := contained
            cases liked
            cases joined
      | cons found text =>
          rw [List.map_cons, List.cons_append, covers, Bool.and_eq_true, recurse]
          constructor
          · intro covered
            obtain ⟨first, middle, after, rfl, liked⟩ := covered
            exact ⟨found :: middle, after, rfl, .cons first liked⟩
          · intro contained
            obtain ⟨_, after, joined, liked⟩ := contained
            cases liked with
            | cons first others =>
                obtain ⟨rfl, rfl⟩ := List.cons.inj joined
                exact ⟨first, _, after, rfl, others⟩

/-- A needle between two runs covers the texts that contain it. -/
theorem PatternMarks.matches?_contains (marks : PatternMarks α) (needle text : List α) :
    ∃ found, marks.matches? alike (marks.anyRun :: (escaped marks.escape marks.special needle ++ [marks.anyRun])) text =
        some found ∧ (found = true ↔ ContainsAlike alike needle text) := by
  have pieces : marks.pieces false (marks.anyRun :: (escaped marks.escape marks.special needle ++ [marks.anyRun])) =
      some (.anyRun :: (needle.map Piece.symbol ++ [.anyRun])) := by
    rw [PatternMarks.pieces]
    simp [PatternMarks.pieces_escaped, PatternMarks.pieces, marks.run_ne_escape]
  refine ⟨_, by rw [PatternMarks.matches?, pieces, Option.map_some], ?_⟩
  rw [covers, List.any_eq_true]
  constructor
  · intro covered
    obtain ⟨suffix, tail, rest⟩ := covered
    obtain ⟨before, rfl⟩ := (List.mem_tails ..).mp tail
    obtain ⟨middle, after, rfl, liked⟩ := (covers_prefix_iff ..).mp rest
    exact ⟨before, middle, after, (List.append_assoc ..).symm, liked⟩
  · intro contained
    obtain ⟨before, middle, after, rfl, liked⟩ := contained
    exact ⟨middle ++ after, (List.mem_tails ..).mpr ⟨before, (List.append_assoc ..).symm⟩,
      (covers_prefix_iff ..).mpr ⟨middle, after, rfl, liked⟩⟩

end Patterns

end AutomationHub.Foundation
