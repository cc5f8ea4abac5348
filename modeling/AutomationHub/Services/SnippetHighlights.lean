import AutomationHub.Services.SearchService
import Mathlib.Data.List.Infix

/-!
The snippets of the search results, in which the first match is highlighted.

The match is looked for in the text in lower case; the snippet is cut out of the text
itself.
-/

set_option autoImplicit false

namespace AutomationHub.Services

open Foundation Model

section Finding

variable {needle text : List Char}

/-- The first occurrence of `needle` is at this position. -/
structure FirstAt (needle text : List Char) (start : Nat) : Prop where
  within : start ≤ text.length
  there : needle <+: text.drop start
  first : ∀ earlier < start, ¬needle <+: text.drop earlier

theorem findFrom_shift (needle text : List Char) :
    ∀ index, findFrom needle index text = (findFrom needle 0 text).map (index + ·) := by
  induction text with
  | nil =>
      intro index
      simp only [findFrom]
      split <;> rfl
  | cons character rest ih =>
      intro index
      simp only [findFrom]
      split
      · rfl
      · rw [ih (index + 1), ih (0 + 1), Option.map_map]
        congr 1
        funext position
        simp only [Function.comp_apply]
        omega

theorem firstAt_cons_succ {character : Char} {rest : List Char} {start : Nat} :
    FirstAt needle (character :: rest) (start + 1) ↔ ¬needle <+: character :: rest ∧ FirstAt needle rest start := by
  constructor
  · intro first
    refine ⟨first.first 0 (Nat.succ_pos _), Nat.le_of_succ_le_succ first.within, first.there, ?_⟩
    intro earlier before
    exact first.first (earlier + 1) (Nat.succ_lt_succ before)
  · intro later
    obtain ⟨absent, first⟩ := later
    refine ⟨Nat.succ_le_succ first.within, first.there, ?_⟩
    intro earlier before
    cases earlier with
    | zero => exact absent
    | succ earlier => exact first.first earlier (Nat.lt_of_succ_lt_succ before)

theorem findFrom_eq_some_iff (needle text : List Char) :
    ∀ start, findFrom needle 0 text = some start ↔ FirstAt needle text start := by
  induction text with
  | nil =>
      intro start
      by_cases empty : needle = []
      · subst empty
        simp only [findFrom, if_true, Option.some.injEq]
        constructor
        · intro same
          subst same
          exact ⟨Nat.le_refl 0, List.nil_prefix, fun _ before => absurd before (Nat.not_lt_zero _)⟩
        · intro first
          exact (Nat.le_zero.mp first.within).symm
      · simp only [findFrom, empty, if_false, reduceCtorEq, false_iff]
        intro first
        have present := first.there
        rw [List.drop_nil, List.prefix_nil] at present
        exact empty present
  | cons character rest ih =>
      intro start
      simp only [findFrom]
      split
      · rename_i here
        have present : needle <+: character :: rest := List.isPrefixOf_iff_prefix.mp here
        cases start with
        | zero =>
            refine iff_of_true rfl ⟨Nat.zero_le _, present, ?_⟩
            exact fun _ before => absurd before (Nat.not_lt_zero _)
        | succ start =>
            refine iff_of_false (by simp) ?_
            exact fun first => (firstAt_cons_succ.mp first).1 present
      · rename_i elsewhere
        have absent : ¬needle <+: character :: rest := fun present => elsewhere (List.isPrefixOf_iff_prefix.mpr present)
        rw [findFrom_shift]
        cases start with
        | zero =>
            refine iff_of_false ?_ fun first => absent first.there
            cases findFrom needle 0 rest with
            | none => simp
            | some position => simp
        | succ start =>
            rw [firstAt_cons_succ, ← ih start]
            cases findFrom needle 0 rest with
            | none => simp [absent]
            | some position =>
                simp only [Option.map_some, Option.some.injEq, absent, not_false_eq_true, true_and]
                omega

theorem infix_iff_exists_drop : needle <:+: text ↔ ∃ start ≤ text.length, needle <+: text.drop start := by
  constructor
  · intro present
    obtain ⟨before, after, rfl⟩ := present
    refine ⟨before.length, by simp, ?_⟩
    rw [List.append_assoc, List.drop_left]
    exact List.prefix_append needle after
  · intro found
    obtain ⟨start, _, present⟩ := found
    exact present.isInfix.trans (List.drop_suffix start text).isInfix

theorem findFrom_eq_none_iff (needle text : List Char) : findFrom needle 0 text = none ↔ ¬needle <:+: text := by
  classical
  constructor
  · intro missing present
    have somewhere := infix_iff_exists_drop.mp present
    have first := Nat.find_spec somewhere
    have found := (findFrom_eq_some_iff needle text (Nat.find somewhere)).mpr
      ⟨first.1, first.2, fun earlier before there =>
        Nat.find_min somewhere before ⟨before.le.trans first.1, there⟩⟩
    rw [missing] at found
    cases found
  · intro absent
    cases found : findFrom needle 0 text with
    | none => rfl
    | some start =>
        have first := (findFrom_eq_some_iff needle text start).mp found
        exact absurd (infix_iff_exists_drop.mpr ⟨start, first.within, first.there⟩) absent

end Finding

section Snippets

variable (lower : List Char → List Char) (contextChars : Nat) (text queryText : List Char)

def stripped (text : List Char) : List Char :=
  ((text.dropWhile isSpace).reverse.dropWhile isSpace).reverse

def ellipsis : List Char := ['.', '.', '.']

def bold : List Char := ['*', '*']

def ellipsisIf (cut : Prop) [Decidable cut] : List Char :=
  if cut then ellipsis else []

/-- The snippet without a match. -/
def shortenedText : List Char :=
  if text.length ≤ contextChars * 2 then text else text.take (contextChars * 2) ++ ellipsis

/-- `_highlight_snippet`, for any `context_chars`. -/
def highlighted : List Char :=
  if text = [] then []
  else
    let needle := lower (stripped queryText)
    match findFrom needle 0 (lower text) with
    | none => shortenedText contextChars text
    | some start =>
        if needle = [] then shortenedText contextChars text
        else
          let stop := start + needle.length
          let first := start - contextChars
          let last := min text.length (stop + contextChars)
          ellipsisIf (0 < first) ++ (text.take start).drop first ++ bold ++ (text.take stop).drop start ++ bold
            ++ (text.take last).drop stop ++ ellipsisIf (last < text.length)

/-- The stripped query is not empty and occurs in the text when both are in lower case. -/
def Occurs : Prop :=
  lower (stripped queryText) ≠ [] ∧ lower (stripped queryText) <:+: lower text

/-- A part of the text with the match, at most `contextChars` characters before and after it, and an ellipsis on each side
where text is left out. -/
def Highlights (snippet : List Char) : Prop :=
  ∃ cutBefore before matched after cutAfter : List Char,
    text = cutBefore ++ before ++ matched ++ after ++ cutAfter ∧ lower matched = lower (stripped queryText) ∧
      before.length ≤ contextChars ∧ after.length ≤ contextChars ∧
      snippet = ellipsisIf (cutBefore ≠ []) ++ before ++ bold ++ matched ++ bold ++ after ++ ellipsisIf (cutAfter ≠ [])

/-- The match is highlighted if there is one, and otherwise the snippet is a prefix of the text. -/
def SnippetAsMeant : Prop :=
  (Occurs lower text queryText →
      Highlights lower contextChars text queryText (highlighted lower contextChars text queryText)) ∧
    (¬Occurs lower text queryText → highlighted lower contextChars text queryText <+: text)

/-- Where the text in lower case has its first match, the text has characters that match as well; a text without a match
fits into the snippet, or goes on with what looks like the ellipsis. -/
def PositionsAgree : Prop :=
  (Occurs lower text queryText → ∃ start, FirstAt (lower (stripped queryText)) (lower text) start ∧
      lower ((text.drop start).take (lower (stripped queryText)).length) = lower (stripped queryText)) ∧
    (¬Occurs lower text queryText → text.length ≤ contextChars * 2 ∨ ellipsis <+: text.drop (contextChars * 2))

variable {lower contextChars text queryText}

theorem highlighted_of_occurs (empty : lower [] = []) (occurs : Occurs lower text queryText) :
    ∃ start, FirstAt (lower (stripped queryText)) (lower text) start ∧
      highlighted lower contextChars text queryText =
        ellipsisIf (0 < start - contextChars) ++ (text.take start).drop (start - contextChars) ++ bold
          ++ (text.take (start + (lower (stripped queryText)).length)).drop start ++ bold
          ++ (text.take (min text.length (start + (lower (stripped queryText)).length + contextChars))).drop
              (start + (lower (stripped queryText)).length)
          ++ ellipsisIf (min text.length (start + (lower (stripped queryText)).length + contextChars) < text.length) := by
  obtain ⟨needed, present⟩ := occurs
  have some : text ≠ [] := by
    intro none
    rw [none, empty, List.infix_nil] at present
    exact needed present
  cases found : findFrom (lower (stripped queryText)) 0 (lower text) with
  | none => exact absurd present ((findFrom_eq_none_iff ..).mp found)
  | some start =>
      refine ⟨start, (findFrom_eq_some_iff ..).mp found, ?_⟩
      simp [highlighted, some, found, needed]

theorem highlighted_of_absent (absent : ¬Occurs lower text queryText) :
    highlighted lower contextChars text queryText = shortenedText contextChars text := by
  unfold highlighted
  split
  · rename_i none
    rw [none]
    rfl
  · cases found : findFrom (lower (stripped queryText)) 0 (lower text) with
    | none =>
        dsimp only
        rw [found]
    | some start =>
        have first := (findFrom_eq_some_iff ..).mp found
        have blank : lower (stripped queryText) = [] := by
          by_contra needed
          exact absent ⟨needed, infix_iff_exists_drop.mpr ⟨start, first.within, first.there⟩⟩
        dsimp only
        rw [found]
        exact if_pos blank

theorem shortenedText_prefix_iff :
    shortenedText contextChars text <+: text ↔
      text.length ≤ contextChars * 2 ∨ ellipsis <+: text.drop (contextChars * 2) := by
  unfold shortenedText
  split
  · rename_i short
    exact iff_of_true (List.prefix_refl text) (.inl short)
  · rename_i long
    constructor
    · intro goes
      obtain ⟨rest, whole⟩ := goes
      rw [List.append_assoc] at whole
      refine .inr ⟨rest, ?_⟩
      have same := whole.trans (List.take_append_drop (contextChars * 2) text).symm
      exact List.append_cancel_left same
    · intro looks
      obtain ⟨rest, goes⟩ := looks.resolve_left long
      refine ⟨rest, ?_⟩
      rw [List.append_assoc, goes]
      exact List.take_append_drop (contextChars * 2) text

theorem take_append_part {start stop : Nat} (order : start ≤ stop) (text : List Char) :
    text.take start ++ (text.take stop).drop start = text.take stop := by
  have whole := List.take_append_drop start (text.take stop)
  rwa [List.take_take, Nat.min_eq_left order] at whole

/-- The snippet is cut out of the text as it should be where the characters at the position of the match do match. -/
theorem highlights_of_kept (empty : lower [] = []) {start size : Nat} (needed : lower (stripped queryText) ≠ [])
    (kept : lower ((text.drop start).take size) = lower (stripped queryText)) :
    Highlights lower contextChars text queryText
      (ellipsisIf (0 < start - contextChars) ++ (text.take start).drop (start - contextChars) ++ bold
        ++ (text.take (start + size)).drop start ++ bold
        ++ (text.take (min text.length (start + size + contextChars))).drop (start + size)
        ++ ellipsisIf (min text.length (start + size + contextChars) < text.length)) := by
  have inside : start < text.length := by
    by_contra beyond
    rw [List.drop_eq_nil_of_le (Nat.le_of_not_lt beyond), List.take_nil, empty] at kept
    exact needed kept.symm
  have matched : (text.take (start + size)).drop start = (text.drop start).take size := by
    rw [List.drop_take, Nat.add_sub_cancel_left]
  refine ⟨text.take (start - contextChars), (text.take start).drop (start - contextChars),
    (text.take (start + size)).drop start,
    (text.take (min text.length (start + size + contextChars))).drop (start + size),
    text.drop (min text.length (start + size + contextChars)), ?_, matched ▸ kept, ?_, ?_, ?_⟩
  · rw [take_append_part (Nat.sub_le ..), take_append_part (Nat.le_add_right ..)]
    by_cases ends : start + size ≤ text.length
    · rw [take_append_part (Nat.le_min.mpr ⟨ends, Nat.le_add_right ..⟩), List.take_append_drop]
    · have all : min text.length (start + size + contextChars) = text.length := by omega
      rw [all, List.take_length, List.drop_length, List.take_of_length_le (by omega), List.drop_of_length_le (by omega)]
      simp
  · rw [List.length_drop, List.length_take]
    omega
  · rw [List.length_drop, List.length_take]
    omega
  · have cutBefore : text.take (start - contextChars) ≠ [] ↔ 0 < start - contextChars := by
      rw [Ne, List.take_eq_nil_iff, Nat.pos_iff_ne_zero]
      have some : text ≠ [] := List.ne_nil_of_length_pos (Nat.zero_lt_of_lt inside)
      tauto
    have cutAfter : text.drop (min text.length (start + size + contextChars)) ≠ [] ↔
        min text.length (start + size + contextChars) < text.length := by
      rw [Ne, List.drop_eq_nil_iff, Nat.not_le]
    simp only [cutBefore, cutAfter]

theorem split_at_mark {mark : Char} {left right otherLeft otherRight : List Char} (free : mark ∉ left)
    (otherFree : mark ∉ otherLeft) (same : left ++ mark :: right = otherLeft ++ mark :: otherRight) :
    left = otherLeft ∧ right = otherRight := by
  induction left generalizing otherLeft with
  | nil =>
      cases otherLeft with
      | nil => exact ⟨rfl, (List.cons.inj same).2⟩
      | cons character rest =>
          obtain ⟨rfl, _⟩ := List.cons.inj same
          exact absurd List.mem_cons_self otherFree
  | cons character rest ih =>
      cases otherLeft with
      | nil =>
          obtain ⟨rfl, _⟩ := List.cons.inj same
          exact absurd List.mem_cons_self free
      | cons other others =>
          obtain ⟨rfl, tails⟩ := List.cons.inj same
          obtain ⟨lefts, rights⟩ := ih (fun inside => free (List.mem_cons_of_mem _ inside))
            (fun inside => otherFree (List.mem_cons_of_mem _ inside)) tails
          exact ⟨congrArg (character :: ·) lefts, rights⟩

theorem star_not_mem_ellipsisIf (cut : Prop) [Decidable cut] : '*' ∉ ellipsisIf cut := by
  unfold ellipsisIf
  split
  · decide
  · exact List.not_mem_nil

theorem matched_eq {start match_ stop otherStart otherMatch otherStop : List Char} (startFree : '*' ∉ start)
    (matchFree : '*' ∉ match_) (otherStartFree : '*' ∉ otherStart) (otherMatchFree : '*' ∉ otherMatch)
    (same : start ++ bold ++ match_ ++ bold ++ stop = otherStart ++ bold ++ otherMatch ++ bold ++ otherStop) :
    match_ = otherMatch := by
  simp only [bold, List.append_assoc, List.cons_append, List.nil_append] at same
  obtain ⟨_, rest⟩ := split_at_mark startFree otherStartFree same
  exact (split_at_mark matchFree otherMatchFree (List.cons.inj rest).2).1

theorem kept_of_highlights {start size : Nat} (plain : '*' ∉ text) {cut last : Prop} [Decidable cut] [Decidable last]
    {begins ends : Nat} (highlights : Highlights lower contextChars text queryText
      (ellipsisIf cut ++ (text.take start).drop begins ++ bold ++ (text.take (start + size)).drop start ++ bold
        ++ (text.take ends).drop (start + size) ++ ellipsisIf last)) :
    lower ((text.drop start).take size) = lower (stripped queryText) := by
  obtain ⟨cutBefore, before, matched, after, cutAfter, whole, compares, _, _, same⟩ := highlights
  have part : ∀ characters : List Char, characters <:+: text → '*' ∉ characters :=
    fun characters inside star => plain (inside.subset star)
  have taken : (text.take (start + size)).drop start = (text.drop start).take size := by
    rw [List.drop_take, Nat.add_sub_cancel_left]
  have beforeFree : '*' ∉ before := by
    apply part
    exact ⟨cutBefore, matched ++ after ++ cutAfter, by rw [whole]; simp⟩
  have matchedFree : '*' ∉ matched := by
    apply part
    exact ⟨cutBefore ++ before, after ++ cutAfter, by rw [whole]; simp⟩
  have first : '*' ∉ (text.take start).drop begins :=
    part _ ((List.drop_suffix ..).isInfix.trans (List.take_prefix ..).isInfix)
  have between : '*' ∉ (text.take (start + size)).drop start :=
    part _ ((List.drop_suffix ..).isInfix.trans (List.take_prefix ..).isInfix)
  have equal := @matched_eq (ellipsisIf cut ++ (text.take start).drop begins) ((text.take (start + size)).drop start)
    ((text.take ends).drop (start + size) ++ ellipsisIf last) (ellipsisIf (cutBefore ≠ []) ++ before) matched
    (after ++ ellipsisIf (cutAfter ≠ []))
    (fun inside => (List.mem_append.mp inside).elim (star_not_mem_ellipsisIf _) first) between
    (fun inside => (List.mem_append.mp inside).elim (star_not_mem_ellipsisIf _) beforeFree) matchedFree
    (by simpa only [List.append_assoc] using same)
  rw [← taken, equal]
  exact compares

end Snippets

theorem toList_strip (text : String) : (strip text).toList = stripped text.toList := by
  rw [strip, String.toList_ofList]
  rfl

theorem toList_highlightSnippet (text : TextFunctions) (empty : text.lower "" = "") (excerpt queryText : String) :
    (highlightSnippet text excerpt queryText).toList =
      highlighted (fun characters => (text.lower (String.ofList characters)).toList) snippetContextChars excerpt.toList
        queryText.toList := by
  have query : String.ofList (stripped queryText.toList) = strip queryText := rfl
  have short : (highlightSnippet.shortened excerpt.toList).toList = shortenedText snippetContextChars excerpt.toList := by
    unfold highlightSnippet.shortened shortenedText
    rw [Nat.mul_comm]
    split
    · exact String.toList_ofList
    · rw [String.toList_append, String.toList_ofList]
      rfl
  unfold highlightSnippet highlighted findText
  dsimp only
  rw [query, String.ofList_toList]
  by_cases none : excerpt.toList = []
  · have blank : excerpt = "" := String.toList_eq_nil_iff.mp none
    subst blank
    rw [empty, if_pos none]
    simp only [String.toList_empty] at short ⊢
    have nothing : shortenedText snippetContextChars [] = [] := rfl
    by_cases missing : text.lower (strip queryText) = ""
    · rw [missing]
      exact short.trans nothing
    · have needed : (text.lower (strip queryText)).toList ≠ [] := by simpa using missing
      simp only [findFrom, needed, if_false]
      exact short.trans nothing
  · rw [if_neg none]
    cases findFrom (text.lower (strip queryText)).toList 0 (text.lower excerpt).toList with
    | none => exact short
    | some start =>
        by_cases blank : text.lower (strip queryText) = ""
        · simp only [blank, if_true, short]
          rfl
        · have needed : (text.lower (strip queryText)).toList ≠ [] := by
            simpa using blank
          simp only [blank, needed, if_false]
          have marks : ∀ (cut : Prop) [Decidable cut], (if cut then "..." else "").toList = ellipsisIf cut := by
            intro cut decided
            unfold ellipsisIf
            split <;> rfl
          simp only [String.toList_append, String.toList_ofList, marks, String.length_toList]
          rfl

section Samples

/-- `str.lower` on the letters of the samples: the dotted capital I becomes two characters. -/
def lowerSample (characters : List Char) : List Char :=
  characters.flatMap fun character =>
    if character = Char.ofNat 0x130 then ['i', Char.ofNat 0x307] else [character.toLower]

def laptopText : List Char := "Please buy a new Laptop soon".toList

/-- A dotted capital I, and `abc`. -/
def dottedText : List Char := Char.ofNat 0x130 :: "abc".toList

end Samples

end AutomationHub.Services
