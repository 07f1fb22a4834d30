/-
Settings/Search.lean

Searching among properties.  A query is split into words, each in normal
form; a property matches if one of the words occurs anywhere in its texts.
Short queries match nothing.
-/
import Settings.Property
import Settings.Text.Blank

namespace Settings

/-! ### Words in texts -/

/-- Whether a word occurs in a text, its characters in a row. -/
def occursIn (word : List Char) : List Char → Bool
  | [] => word.isEmpty
  | c :: rest => word.isPrefixOf (c :: rest) || occursIn word rest

/-- A word occurs in a text exactly if the text is the word with something
before and after it. -/
theorem occursIn_iff {word text : List Char} : occursIn word text = true ↔ word <:+: text := by
  induction text with
  | nil => simp [occursIn]
  | cons c rest ih =>
    rw [occursIn, Bool.or_eq_true, List.isPrefixOf_iff_prefix, ih, List.infix_cons_iff]

/-! ### Queries -/

/-- Queries of fewer characters match nothing. -/
def shortestQuery : Nat := 3

/-- The different words of a query in normal form, in order. -/
def queryWords (query : List Char) : List (List Char) :=
  let query := Text.trim query
  if query.length < shortestQuery then [] else (Text.words (Text.normalChars query)).eraseDups

/-- The words that a query looks for. -/
def keywords (query : String) : List String := (queryWords query.toList).map String.ofList

/-- Whether one of the words occurs in the texts of a property. -/
def Property.hasAny (p : Property) (words : List (List Char)) : Bool :=
  let text := p.searchText.toList
  words.any (occursIn · text)

/-- The properties that match a query, in order. -/
def search (properties : List Property) (query : String) : List Property :=
  let words := queryWords query.toList
  properties.filter (·.hasAny words)

end Settings
