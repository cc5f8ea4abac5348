import AutomationHub.Foundation.Escaping
import AutomationHub.Model.Errors

/-!
Search texts in the combined filters that are sent to PostgREST.

A text is escaped for `ILIKE`, quoted for PostgREST and put into the filter as it is;
the reader of filters below is PostgREST's.
-/

set_option autoImplicit false

namespace AutomationHub.Database

open Foundation Model

/-- `str.replace` of one character. -/
def replaceChar (value : String) (target : Char) (replacement : String) : String :=
  String.ofList (substitute target replacement.toList value.toList)

def escapeIlikeSpecialCharacters (value : String) : String :=
  replaceChar (replaceChar (replaceChar value '\\' "\\\\") '%' "\\%") '_' "\\_"

def quotePostgrestFilterValue (value : String) : String :=
  "\"" ++ replaceChar (replaceChar value '\\' "\\\\") '"' "\\\"" ++ "\""

/-- The pattern of a search for a text. -/
def searchPattern (text : String) : String := "%" ++ escapeIlikeSpecialCharacters text ++ "%"

/-- The combined filter of `search_requests`. -/
def requestsFilter (text : String) : String :=
  "title.ilike." ++ quotePostgrestFilterValue (searchPattern text) ++ ",description.ilike." ++
    quotePostgrestFilterValue (searchPattern text) ++ ",search_vector.wfts(english)." ++ quotePostgrestFilterValue text

def searchRequestsFilter (queryText : String) : Except DatabaseError String :=
  if strip queryText = "" then .error (.invalidQuery "search_requests requires a non-empty query_text.")
  else .ok (requestsFilter (strip queryText))

/-- The combined filter of `list_invitations`. -/
def invitationsFilter (text : String) : String :=
  "full_name.ilike." ++ quotePostgrestFilterValue (searchPattern text) ++ ",email.ilike." ++
    quotePostgrestFilterValue (searchPattern text)

def listInvitationsFilter (query : Option String) : Except DatabaseError (Option String) :=
  match query with
  | none => .ok none
  | some query =>
      if strip query = "" then .error (.invalidQuery "list_invitations requires a non-empty query when provided.")
      else .ok (some (invitationsFilter (strip query)))

/-- The patterns of `ILIKE`. -/
def ilikeMarks : PatternMarks Char where
  escape := '\\'
  anyRun := '%'
  anyOne := '_'
  run_ne_escape := by decide
  one_ne_escape := by decide

/-- Whether a text matches a pattern; a pattern that ends with its escape is an error. -/
def ilike (alike : Char → Char → Bool) (pattern text : String) : Option Bool :=
  ilikeMarks.matches? alike pattern.toList text.toList

/-- One condition of a combined filter. -/
structure Condition where
  column : String
  operator : String
  value : String
deriving DecidableEq

/-- A name and the text after the dot that ends it. -/
def readName : List Char → Option (List Char × List Char)
  | [] => none
  | symbol :: rest =>
      if symbol = '.' then some ([], rest)
      else (readName rest).map fun read => (symbol :: read.1, read.2)

/-- A value ends at a comma, at a closing parenthesis or with the text. -/
def endsValue : List Char → Bool
  | [] => true
  | symbol :: _ => symbol == ',' || symbol == ')'

def readBare (text : List Char) : List Char × List Char :=
  text.span fun symbol => symbol != ',' && symbol != ')'

/-- A quoted value, or else the text up to the end of the value. -/
def readValue : List Char → List Char × List Char
  | '"' :: rest =>
      match readQuoted '\\' '"' false rest with
      | some read => if endsValue read.2 then read else readBare ('"' :: rest)
      | none => readBare ('"' :: rest)
  | text => readBare text

def readCondition (text : List Char) : Option (Condition × List Char) := do
  let (column, afterColumn) ← readName text
  let (operator, afterOperator) ← readName afterColumn
  let (value, rest) := readValue afterOperator
  return (⟨String.ofList column, String.ofList operator, String.ofList value⟩, rest)

/-- The conditions up to the closing parenthesis, of a text of at most the given length. -/
def readConditions : Nat → List Char → Option (List Condition)
  | 0, _ => none
  | bound + 1, text => do
      let (condition, rest) ← readCondition text
      match rest with
      | [')'] => return [condition]
      | ',' :: more => return condition :: (← readConditions bound more)
      | _ => none

/-- The conditions of the filter that `or_` sends between parentheses. -/
def parseOr (filters : String) : Option (List Condition) :=
  readConditions (filters.toList.length + 1) (filters.toList ++ [')'])

theorem toList_replaceChar (value : String) (target : Char) (replacement : String) :
    (replaceChar value target replacement).toList = substitute target replacement.toList value.toList := by
  rw [replaceChar, String.toList_ofList]

theorem toList_escapeIlikeSpecialCharacters (value : String) :
    (escapeIlikeSpecialCharacters value).toList = escaped '\\' ilikeMarks.special value.toList := by
  have backslash : ("\\\\" : String).toList = ['\\', '\\'] := by decide
  have percent : ("\\%" : String).toList = ['\\', '%'] := by decide
  have underscore : ("\\_" : String).toList = ['\\', '_'] := by decide
  rw [escapeIlikeSpecialCharacters, toList_replaceChar, toList_replaceChar, toList_replaceChar, backslash, percent,
    underscore, substitute_escape, substitute_escaped (by decide) (by decide),
    substitute_escaped (by decide) (by decide)]
  rfl

theorem readQuoted_quotePostgrestFilterValue (value : String) (rest : List Char) :
    ∃ token, (quotePostgrestFilterValue value).toList = '"' :: token ∧
      readQuoted '\\' '"' false (token ++ rest) = some (value.toList, rest) := by
  have backslash : ("\\\\" : String).toList = ['\\', '\\'] := by decide
  have quote : ("\\\"" : String).toList = ['\\', '"'] := by decide
  have mark : ("\"" : String).toList = ['"'] := by decide
  refine ⟨escaped '\\' (fun symbol => symbol == '\\' || symbol == '"') value.toList ++ ['"'], ?_, ?_⟩
  · rw [quotePostgrestFilterValue, String.toList_append, String.toList_append, toList_replaceChar, toList_replaceChar,
      backslash, quote, mark, substitute_escape, substitute_escaped (by decide) (by decide)]
    rfl
  · rw [List.append_assoc]
    exact readQuoted_escaped (by decide) value.toList rest

theorem readName_append {name : List Char} (undotted : '.' ∉ name) (rest : List Char) :
    readName (name ++ '.' :: rest) = some (name, rest) := by
  induction name with
  | nil => rfl
  | cons symbol name recurse =>
      obtain ⟨first, others⟩ := not_or.mp (mt List.mem_cons.mpr undotted)
      rw [List.cons_append, readName, if_neg (Ne.symm first), recurse others]
      rfl

theorem readValue_quoted (value : String) {rest : List Char} (ended : endsValue rest = true) :
    readValue ((quotePostgrestFilterValue value).toList ++ rest) = (value.toList, rest) := by
  obtain ⟨token, quoted, read⟩ := readQuoted_quotePostgrestFilterValue value rest
  rw [quoted, List.cons_append, readValue, read]
  exact if_pos ended

theorem readCondition_quoted {column operator : String} (value : String) {rest : List Char}
    (plainColumn : '.' ∉ column.toList) (plainOperator : '.' ∉ operator.toList) (ended : endsValue rest = true) :
    readCondition (column.toList ++ '.' :: (operator.toList ++ '.' :: ((quotePostgrestFilterValue value).toList ++ rest))) =
      some (⟨column, operator, value⟩, rest) := by
  simp [readCondition, readName_append plainColumn, readName_append plainOperator, readValue_quoted value ended]

theorem readConditions_last {text : List Char} {condition : Condition} (read : readCondition text = some (condition, [')']))
    (bound : Nat) : readConditions (bound + 1) text = some [condition] := by
  rw [readConditions, read]
  rfl

theorem readConditions_more {text more : List Char} {condition : Condition}
    (read : readCondition text = some (condition, ',' :: more)) (bound : Nat) :
    readConditions (bound + 1) text = (readConditions bound more).map (condition :: ·) := by
  rw [readConditions, read]
  change (readConditions bound more).bind (fun later => some (condition :: later)) = _
  cases readConditions bound more <;> rfl

theorem parseOr_requestsFilter (text : String) : parseOr (requestsFilter text) = some
    [⟨"title", "ilike", searchPattern text⟩, ⟨"description", "ilike", searchPattern text⟩,
      ⟨"search_vector", "wfts(english)", text⟩] := by
  have layout : (requestsFilter text).toList ++ [')'] =
      "title".toList ++ '.' :: ("ilike".toList ++ '.' :: ((quotePostgrestFilterValue (searchPattern text)).toList ++
        ',' :: ("description".toList ++ '.' :: ("ilike".toList ++ '.' ::
          ((quotePostgrestFilterValue (searchPattern text)).toList ++
            ',' :: ("search_vector".toList ++ '.' :: ("wfts(english)".toList ++ '.' ::
              ((quotePostgrestFilterValue text).toList ++ [')'])))))))) := by
    have title : ("title.ilike." : String).toList = "title".toList ++ '.' :: ("ilike".toList ++ ['.']) := by decide
    have description : (",description.ilike." : String).toList =
        ',' :: ("description".toList ++ '.' :: ("ilike".toList ++ ['.'])) := by decide
    have searchVector : (",search_vector.wfts(english)." : String).toList =
        ',' :: ("search_vector".toList ++ '.' :: ("wfts(english)".toList ++ ['.'])) := by decide
    unfold requestsFilter
    simp only [String.toList_append, title, description, searchVector, List.append_assoc,
      List.cons_append, List.nil_append]
  obtain ⟨bound, enough⟩ : ∃ bound, (requestsFilter text).toList.length + 1 = bound + 1 + 1 + 1 := by
    have measured := congrArg List.length layout
    simp only [List.length_append, List.length_cons] at measured
    exact ⟨(requestsFilter text).toList.length - 2, by omega⟩
  rw [parseOr, enough, layout, readConditions_more (readCondition_quoted _ (by decide) (by decide) rfl),
    readConditions_more (readCondition_quoted _ (by decide) (by decide) rfl),
    readConditions_last (readCondition_quoted _ (by decide) (by decide) rfl)]
  rfl

theorem parseOr_invitationsFilter (text : String) : parseOr (invitationsFilter text) = some
    [⟨"full_name", "ilike", searchPattern text⟩, ⟨"email", "ilike", searchPattern text⟩] := by
  have layout : (invitationsFilter text).toList ++ [')'] =
      "full_name".toList ++ '.' :: ("ilike".toList ++ '.' :: ((quotePostgrestFilterValue (searchPattern text)).toList ++
        ',' :: ("email".toList ++ '.' :: ("ilike".toList ++ '.' ::
          ((quotePostgrestFilterValue (searchPattern text)).toList ++ [')']))))) := by
    have fullName : ("full_name.ilike." : String).toList =
        "full_name".toList ++ '.' :: ("ilike".toList ++ ['.']) := by decide
    have email : (",email.ilike." : String).toList = ',' :: ("email".toList ++ '.' :: ("ilike".toList ++ ['.'])) := by
      decide
    unfold invitationsFilter
    simp only [String.toList_append, fullName, email, List.append_assoc, List.cons_append, List.nil_append]
  obtain ⟨bound, enough⟩ : ∃ bound, (invitationsFilter text).toList.length + 1 = bound + 1 + 1 := by
    have measured := congrArg List.length layout
    simp only [List.length_append, List.length_cons] at measured
    exact ⟨(invitationsFilter text).toList.length - 1, by omega⟩
  rw [parseOr, enough, layout, readConditions_more (readCondition_quoted _ (by decide) (by decide) rfl),
    readConditions_last (readCondition_quoted _ (by decide) (by decide) rfl)]
  rfl

/-- The filters that the two methods send have their own conditions on the stripped text. -/
theorem conditions_of_searchRequestsFilter {queryText filters : String}
    (built : searchRequestsFilter queryText = .ok filters) : parseOr filters = some
      [⟨"title", "ilike", searchPattern (strip queryText)⟩, ⟨"description", "ilike", searchPattern (strip queryText)⟩,
        ⟨"search_vector", "wfts(english)", strip queryText⟩] := by
  unfold searchRequestsFilter at built
  split at built
  · cases built
  · cases built
    exact parseOr_requestsFilter _

theorem conditions_of_listInvitationsFilter {query filters : String}
    (built : listInvitationsFilter (some query) = .ok (some filters)) : parseOr filters = some
      [⟨"full_name", "ilike", searchPattern (strip query)⟩, ⟨"email", "ilike", searchPattern (strip query)⟩] := by
  unfold listInvitationsFilter at built
  split at built
  · cases built
  · split at built
    · cases built
    · rename_i _ _ given _
      cases given
      cases built
      exact parseOr_invitationsFilter _

/-- A search text ends up as one quoted value that reads back as its pattern, the pattern matches the texts that contain
it, and the filters have the conditions that their methods wrote and no others. -/
theorem search_text_is_one_value (alike : Char → Char → Bool) (text : String) :
    (∀ rest, ∃ token, (quotePostgrestFilterValue (searchPattern text)).toList = '"' :: token ∧
      readQuoted '\\' '"' false (token ++ rest) = some ((searchPattern text).toList, rest)) ∧
    (∀ searched : String, ∃ found, ilike alike (searchPattern text) searched = some found ∧
      (found = true ↔ ContainsAlike alike text.toList searched.toList)) ∧
    parseOr (requestsFilter text) = some
      [⟨"title", "ilike", searchPattern text⟩, ⟨"description", "ilike", searchPattern text⟩,
        ⟨"search_vector", "wfts(english)", text⟩] ∧
    parseOr (invitationsFilter text) = some
      [⟨"full_name", "ilike", searchPattern text⟩, ⟨"email", "ilike", searchPattern text⟩] := by
  refine ⟨fun rest => readQuoted_quotePostgrestFilterValue _ rest, ?_, ?_, ?_⟩
  · intro searched
    have pattern : (searchPattern text).toList =
        ilikeMarks.anyRun :: (escaped ilikeMarks.escape ilikeMarks.special text.toList ++ [ilikeMarks.anyRun]) := by
      have percent : ("%" : String).toList = ['%'] := by decide
      rw [searchPattern, String.toList_append, String.toList_append, toList_escapeIlikeSpecialCharacters, percent]
      rfl
    rw [ilike, pattern]
    exact ilikeMarks.matches?_contains text.toList searched.toList
  · exact parseOr_requestsFilter text
  · exact parseOr_invitationsFilter text

end AutomationHub.Database
