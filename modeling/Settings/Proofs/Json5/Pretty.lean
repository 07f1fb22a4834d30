/-
Settings/Proofs/Json5/Pretty.lean

Whole values between the writer of JSON and the reader of JSON5.  The reader
goes back over a value that is written with one item per line, and finds the
same tree, with `null` where a decimal has no text (`Json.raw`); only a
separator in a name or a string stops it (`Json.isPlain`):

    value? fuel (prettyChars depth j ++ rest)
      =  if j.isPlain then some (j.raw, rest) else none

The statement is proved for a value, for items and for entries together, by
recursion on the value (`value?_prettyChars`).  The length of the text is
enough fuel for each of them, since every call has read a character.
-/
import Settings.Proofs.Json5.Number
import Settings.Proofs.Json5.String

namespace Settings

open Json5 (isSeparator)

namespace Json

/-! ### What a text says -/

mutual

/-- Whether no name and no string holds a separator. -/
def isPlain : Json → Bool
  | .string text => !text.toList.any isSeparator
  | .array items => areItemsPlain items
  | .object entries => areEntriesPlain entries
  | _ => true

/-- Whether all items are plain. -/
def areItemsPlain : List Json → Bool
  | [] => true
  | item :: rest => isPlain item && areItemsPlain rest

/-- Whether the names and values of all entries are plain. -/
def areEntriesPlain : List (String × Json) → Bool
  | [] => true
  | (name, value) :: rest =>
    !name.toList.any isSeparator && isPlain value && areEntriesPlain rest

end

mutual

/-- The value as its text says it. -/
def raw : Json → Raw
  | .null => .null
  | .boolean value => .boolean value
  | .integer value => .integer value.toInt
  | .decimal value => if value.isFinite then .decimal value else .null
  | .string value => .string value
  | .array items => .array (rawItems items)
  | .object entries => .object (rawEntries entries)

/-- Items as their texts say them. -/
def rawItems : List Json → List Raw
  | [] => []
  | item :: rest => raw item :: rawItems rest

/-- Entries as their texts say them. -/
def rawEntries : List (String × Json) → List (String × Raw)
  | [] => []
  | (name, value) :: rest => (name, raw value) :: rawEntries rest

end

end Json

namespace Json5

open Json (newline prettyChars prettyItems prettyEntries)

/-! ### First characters -/

/-- The characters that a number can start with. -/
def startsNumber (c : Char) : Bool :=
  Decimal.isDigit c || ['-', '+', '.', 'I', 'N'].contains c

/-- The characters that a written value can start with. -/
def startsValue (c : Char) : Bool := startsNumber c || ['[', '{', '"', 'n', 't', 'f'].contains c

/-- None of them is white space. -/
theorem isSpace_of_startsValue {c : Char} (h : startsValue c = true) : isSpace c = false := by
  rw [startsValue, startsNumber, Bool.or_assoc, Bool.or_eq_true] at h
  rcases h with h | h
  · rw [isDigit_eq, Char.isDigit, Bool.and_eq_true, decide_eq_true_iff, decide_eq_true_iff] at h
    have hlow : 48 ≤ c.toNat := h.1
    have hhigh : c.toNat < 58 := Nat.lt_succ_of_le h.2
    have hdigits : ∀ n < 58, 48 ≤ n → isSpace (Char.ofNat n) = false := by decide
    have hc := hdigits c.toNat hhigh hlow
    rwa [Char.ofNat_toNat] at hc
  · have hall : (['-', '+', '.', 'I', 'N'] ++ ['[', '{', '"', 'n', 't', 'f']).all
        (fun d => !isSpace d) = true := by decide
    rw [Bool.or_eq_true, List.contains_iff_mem, List.contains_iff_mem, ← List.mem_append] at h
    have hc := List.all_eq_true.mp hall c h
    rwa [Bool.not_eq_true'] at hc

/-- No gap is dropped where a token starts. -/
theorem skipGap_cons {c : Char} (hc : isSpace c = false) (hs : c ≠ '/') (rest : List Char) :
    skipGap .blank (c :: rest) = c :: rest := by
  rw [skipGap.eq_def]
  simp [hc, hs]

/-- A value is where it starts, and no bracket closes there. -/
theorem skipGap_startsValue {c : Char} (h : startsValue c = true) (rest : List Char) :
    skipGap .blank (c :: rest) = c :: rest ∧ c ≠ ']' ∧ c ≠ '}' := by
  refine ⟨skipGap_cons (isSpace_of_startsValue h) ?_ rest, ?_, ?_⟩
  · rintro rfl
    exact absurd h (by decide)
  · rintro rfl
    exact absurd h (by decide)
  · rintro rfl
    exact absurd h (by decide)

theorem skipGap_space (rest : List Char) :
    skipGap .blank (' ' :: rest) = skipGap .blank rest := by
  rw [skipGap.eq_def]
  rfl

/-- The start of a line is dropped. -/
theorem skipGap_newline (depth : ℕ) (rest : List Char) :
    skipGap .blank (newline depth ++ rest) = skipGap .blank rest := by
  have hspaces : ∀ n, skipGap .blank (List.replicate n ' ' ++ rest) = skipGap .blank rest := by
    intro n
    induction n with
    | zero => rfl
    | succ n ih => rw [List.replicate_succ, List.cons_append, skipGap_space, ih]
  have hline : ∀ text, skipGap .blank ('\n' :: text) = skipGap .blank text := by
    intro text
    rw [skipGap.eq_def]
    rfl
  rw [newline, List.cons_append, hline, hspaces]

/-- A number starts with one of its characters. -/
theorem startsNumber_of_number? {text : List Char} {r : Raw × List Char}
    (h : number? text = some r) : ∃ c rest, text = c :: rest ∧ startsNumber c = true := by
  cases text with
  | nil => cases h
  | cons c rest =>
    refine ⟨c, rest, rfl, ?_⟩
    by_contra hc
    rw [Bool.not_eq_true, startsNumber, Bool.or_eq_false_iff] at hc
    obtain ⟨hd, hc⟩ := hc
    have h0 : c ≠ '0' := by
      rintro rfl
      exact absurd hd (by decide)
    simp only [List.contains_cons, List.contains_nil, Bool.or_eq_false_iff,
      beq_eq_false_iff_ne] at hc
    simp [number?, spanSign, unsigned?, decimal?, Decimal.spanDigits, hd, hc, h0] at h

/-! ### Leaves -/

/-- What can be read as a number is read as one. -/
theorem value?_of_number? {text : List Char} {r : Raw × List Char} (h : number? text = some r)
    (fuel : ℕ) : grammar.value? (fuel + 1) text = some r := by
  obtain ⟨c, rest, rfl, hc⟩ := startsNumber_of_number? h
  have hne : ∀ d ∈ ['[', '{', 'n', 't', 'f', '"', '\''], c ≠ d := by
    have hstart : (['[', '{', 'n', 't', 'f', '"', '\''].all fun d => !startsNumber d) = true := by
      decide
    rintro d hd rfl
    have hnot := List.all_eq_true.mp hstart c hd
    rw [hc] at hnot
    exact Bool.false_ne_true hnot
  simp only [List.forall_mem_cons] at hne
  have hleaf : leaf? (c :: rest) = number? (c :: rest) := by
    simp [leaf?, hne]
  have hvalue : grammar.value? (fuel + 1) (c :: rest) = leaf? (c :: rest) := by
    rw [Raw.Grammar.value?]
    · rfl
    · simp [hne]
    · simp [hne]
  rw [hvalue, hleaf, h]

/-- A string is read where no separator stands in it. -/
theorem value?_stringText (text : String) (fuel : ℕ) (rest : List Char) :
    grammar.value? (fuel + 1) (Json.stringText text ++ rest) =
      if !text.toList.any isSeparator then some (.string text, rest) else none := by
  have htext : Json.stringText text ++ rest
      = '"' :: (text.toList.flatMap Json.escapeChar ++ '"' :: rest) := by simp [Json.stringText]
  have hvalue : ∀ after, grammar.value? (fuel + 1) ('"' :: after)
      = (string? '"' after).map fun read => (Raw.ofText read.1, read.2) := by
    intro after
    rw [Raw.Grammar.value?]
    · rfl
    · simp
    · simp
  rw [htext, hvalue, string?_escapeChar]
  cases text.toList.any isSeparator <;> rfl

/-- A decimal is read where a number ends, or `null` in its stead. -/
theorem value?_decimalText (x : Float) (fuel : ℕ) {rest : List Char} (hr : Ends rest) :
    grammar.value? (fuel + 1) (Json.decimalText x ++ rest) =
      some (if x.isFinite then .decimal x else .null, rest) := by
  by_cases hx : x.isFinite = true
  · rw [if_pos hx]
    exact value?_of_number? (number?_decimalText hx hr) fuel
  · rw [Json.decimalText, if_neg hx, if_neg hx]
    rfl

/-- The text of a value starts like one. -/
theorem prettyChars_eq_cons (depth : ℕ) (j : Json) :
    ∃ c tail, prettyChars depth j = c :: tail ∧ startsValue c = true := by
  have hnumber : ∀ {text : List Char} {r : Raw × List Char}, number? (text ++ []) = some r →
      ∃ c tail, text = c :: tail ∧ startsValue c = true := by
    intro text r h
    rw [List.append_nil] at h
    obtain ⟨c, tail, htext, hc⟩ := startsNumber_of_number? h
    exact ⟨c, tail, htext, by rw [startsValue, hc, Bool.true_or]⟩
  cases j with
  | null => exact ⟨'n', _, rfl, by decide⟩
  | boolean value =>
    cases value
    · exact ⟨'f', _, rfl, by decide⟩
    · exact ⟨'t', _, rfl, by decide⟩
  | integer n => exact hnumber (number?_integerText n (.inl rfl))
  | decimal x =>
    by_cases hx : x.isFinite = true
    · exact hnumber (number?_decimalText hx (.inl rfl))
    · refine ⟨'n', ['u', 'l', 'l'], ?_, by decide⟩
      rw [prettyChars, Json.decimalText, if_neg hx]
      rfl
  | string text => exact ⟨'"', _, rfl, by decide⟩
  | array items =>
    rw [prettyChars]
    split
    · exact ⟨'[', _, rfl, by decide⟩
    · exact ⟨'[', _, rfl, by decide⟩
  | object entries =>
    rw [prettyChars]
    split
    · exact ⟨'{', _, rfl, by decide⟩
    · exact ⟨'{', _, rfl, by decide⟩

/-- On a line of its own, the reader comes to it. -/
theorem skipGap_prettyChars (depth : ℕ) (j : Json) (rest : List Char) :
    skipGap .blank (prettyChars depth j ++ rest) = prettyChars depth j ++ rest ∧
      ∀ after, prettyChars depth j ++ rest ≠ ']' :: after := by
  obtain ⟨c, tail, htext, hc⟩ := prettyChars_eq_cons depth j
  obtain ⟨hskip, hclose, -⟩ := skipGap_startsValue hc (tail ++ rest)
  rw [htext]
  exact ⟨hskip, fun after h => hclose (List.cons.inj h).1⟩

/-! ### Brackets -/

section

variable {fuel : ℕ} {text after rest : List Char}

/-- Between tokens the reader skips what is a gap in JSON5. -/
theorem skip_eq (text : List Char) : grammar.skip text = skipGap .blank text := rfl

/-- After a bracket that does not close at once, items are read. -/
theorem value?_array (h : ∀ after, skipGap .blank text ≠ ']' :: after) :
    grammar.value? (fuel + 1) ('[' :: text) =
      (grammar.items? fuel (skipGap .blank text)).map fun (items, rest) =>
        (Raw.array items, rest) := by
  rw [Raw.Grammar.value?, skip_eq]
  split
  · rename_i heq
    exact absurd heq (h _)
  · rfl

theorem value?_object (h : ∀ after, skipGap .blank text ≠ '}' :: after) :
    grammar.value? (fuel + 1) ('{' :: text) =
      (grammar.entries? fuel (skipGap .blank text)).map fun (entries, rest) =>
        (Raw.ofEntries entries, rest) := by
  rw [Raw.Grammar.value?, skip_eq]
  split
  · rename_i heq
    exact absurd heq (h _)
  · rfl

/-- The last item. -/
theorem items?_last {item : Raw} (hv : grammar.value? fuel text = some (item, after))
    (ha : skipGap .blank after = ']' :: rest) :
    grammar.items? (fuel + 1) text = some ([item], rest) := by
  rw [Raw.Grammar.items?, hv]
  simp only [skip_eq, ha]

/-- An item and more. -/
theorem items?_more {item : Raw} (hv : grammar.value? fuel text = some (item, ',' :: after))
    (h : ∀ rest, skipGap .blank after ≠ ']' :: rest) :
    grammar.items? (fuel + 1) text =
      (grammar.items? fuel (skipGap .blank after)).map fun (items, rest) =>
        (item :: items, rest) := by
  have hc : skipGap .blank (',' :: after) = ',' :: after := skipGap_cons (by decide) (by decide) _
  rw [Raw.Grammar.items?, hv]
  simp only [skip_eq, hc]

theorem items?_none (hv : grammar.value? fuel text = none) :
    grammar.items? (fuel + 1) text = none := by
  rw [Raw.Grammar.items?, hv]

variable {name : Option String} {value : Raw} {body : List Char}

/-- What stands between a name and its value. -/
theorem skip_colon (body : List Char) :
    grammar.skip (':' :: ' ' :: body) = ':' :: ' ' :: body ∧
      grammar.skip (' ' :: body) = skipGap .blank body :=
  ⟨skipGap_cons (by decide) (by decide) _, skipGap_space body⟩

/-- The last entry. -/
theorem entries?_last (hn : name? text = some (name, ':' :: ' ' :: body))
    (hv : grammar.value? fuel (skipGap .blank body) = some (value, after))
    (ha : skipGap .blank after = '}' :: rest) :
    grammar.entries? (fuel + 1) text = some ([(name, value)], rest) := by
  obtain ⟨hcolon, hspace⟩ := skip_colon body
  have hn : grammar.name? text = some (name, ':' :: ' ' :: body) := hn
  rw [Raw.Grammar.entries?, hn]
  simp only [hcolon, hspace, hv]
  simp only [skip_eq, ha]

/-- An entry and more. -/
theorem entries?_more (hn : name? text = some (name, ':' :: ' ' :: body))
    (hv : grammar.value? fuel (skipGap .blank body) = some (value, ',' :: after))
    (h : ∀ rest, skipGap .blank after ≠ '}' :: rest) :
    grammar.entries? (fuel + 1) text =
      (grammar.entries? fuel (skipGap .blank after)).map fun (entries, rest) =>
        ((name, value) :: entries, rest) := by
  obtain ⟨hcolon, hspace⟩ := skip_colon body
  have hn : grammar.name? text = some (name, ':' :: ' ' :: body) := hn
  have hc : skipGap .blank (',' :: after) = ',' :: after := skipGap_cons (by decide) (by decide) _
  rw [Raw.Grammar.entries?, hn]
  simp only [hcolon, hspace, hv]
  simp only [skip_eq, hc]

/-- An entry without a name. -/
theorem entries?_of_name?_eq_none (hn : name? text = none) :
    grammar.entries? (fuel + 1) text = none := by
  have hn : grammar.name? text = none := hn
  rw [Raw.Grammar.entries?, hn]

/-- An entry without a value. -/
theorem entries?_of_value?_eq_none (hn : name? text = some (name, ':' :: ' ' :: body))
    (hv : grammar.value? fuel (skipGap .blank body) = none) :
    grammar.entries? (fuel + 1) text = none := by
  obtain ⟨hcolon, hspace⟩ := skip_colon body
  have hn : grammar.name? text = some (name, ':' :: ' ' :: body) := hn
  rw [Raw.Grammar.entries?, hn]
  simp only [hcolon, hspace, hv]

end

/-! ### Whole values -/

/-- What follows a value on the last line of its container. -/
theorem ends_newline (depth : ℕ) (rest : List Char) : Ends (newline depth ++ rest) :=
  .inr ⟨'\n', _, rfl, .inr rfl⟩

/-- The name of a written entry. -/
theorem name?_stringText (text : String) (rest : List Char) :
    name? (Json.stringText text ++ rest) =
      if !text.toList.any isSeparator then some (some text, rest) else none := by
  have htext : Json.stringText text ++ rest
      = '"' :: (text.toList.flatMap Json.escapeChar ++ '"' :: rest) := by simp [Json.stringText]
  show _ = _
  rw [htext, name?, string?_escapeChar]
  cases text.toList.any isSeparator <;> rfl

/-- A written object has all its names. -/
theorem ofEntries_some (entries : List (String × Raw)) :
    Raw.ofEntries (entries.map fun entry => (some entry.1, entry.2)) = .object entries := by
  have hmap : (entries.map fun entry => (some entry.1, entry.2)).mapM
      (fun entry : Option String × Raw => entry.1.map (·, entry.2)) = some entries := by
    induction entries with
    | nil => rfl
    | cons entry rest ih => simp [List.map_cons, List.mapM_cons, ih]
  rw [Raw.ofEntries, hmap]

/-- What follows an item: a comma and the other items, or the end of the text. -/
def afterItem (depth : ℕ) (rest : List Char) : List Json → List Char
  | [] => rest
  | items => ',' :: (prettyItems depth items ++ rest)

/-- A line starts with an item, and a comma goes on to the next one. -/
theorem prettyItems_eq_append (depth : ℕ) (item : Json) (items : List Json) (rest : List Char) :
    prettyItems depth (item :: items) ++ rest =
      newline depth ++ (prettyChars depth item ++ afterItem depth rest items) := by
  cases items with
  | nil => simp [prettyItems, afterItem]
  | cons next items => simp [prettyItems, afterItem]

/-- A number may end before what follows an item. -/
theorem ends_afterItem (depth : ℕ) {rest : List Char} (hr : Ends rest) :
    ∀ items, Ends (afterItem depth rest items)
  | [] => hr
  | _ :: _ => .inr ⟨',', _, rfl, .inl rfl⟩

/-- Both the first item and the others are shorter than the whole. -/
theorem length_prettyItems_cons (depth : ℕ) (item : Json) (items : List Json) :
    (prettyChars depth item).length < (prettyItems depth (item :: items)).length ∧
      (prettyItems depth items).length < (prettyItems depth (item :: items)).length := by
  cases items with
  | nil =>
    simp only [prettyItems, newline, List.length_append, List.length_cons, List.length_nil]
    omega
  | cons next items =>
    simp only [prettyItems, newline, List.length_append, List.length_cons]
    omega

/-- No bracket closes where the first item is read. -/
theorem skipGap_prettyItems (depth : ℕ) (item : Json) (items : List Json) (rest : List Char) :
    ∀ after, skipGap .blank (prettyItems depth (item :: items) ++ rest) ≠ ']' :: after := by
  rw [prettyItems_eq_append, skipGap_newline, (skipGap_prettyChars ..).1]
  exact (skipGap_prettyChars depth item _).2

/-- What follows an entry: a comma and the other entries, or the end of the text. -/
def afterEntry (depth : ℕ) (rest : List Char) : List (String × Json) → List Char
  | [] => rest
  | entries => ',' :: (prettyEntries depth entries ++ rest)

/-- A line starts with the name of an entry. -/
theorem prettyEntries_eq_append (depth : ℕ) (name : String) (value : Json)
    (entries : List (String × Json)) (rest : List Char) :
    prettyEntries depth ((name, value) :: entries) ++ rest =
      newline depth ++ (Json.stringText name ++
        ':' :: ' ' :: (prettyChars depth value ++ afterEntry depth rest entries)) := by
  cases entries with
  | nil => simp [prettyEntries, afterEntry]
  | cons entry entries => simp [prettyEntries, afterEntry]

theorem ends_afterEntry (depth : ℕ) {rest : List Char} (hr : Ends rest) :
    ∀ entries, Ends (afterEntry depth rest entries)
  | [] => hr
  | _ :: _ => .inr ⟨',', _, rfl, .inl rfl⟩

theorem length_prettyEntries_cons (depth : ℕ) (name : String) (value : Json)
    (entries : List (String × Json)) :
    (prettyChars depth value).length < (prettyEntries depth ((name, value) :: entries)).length ∧
      (prettyEntries depth entries).length <
        (prettyEntries depth ((name, value) :: entries)).length := by
  cases entries with
  | nil =>
    simp only [prettyEntries, newline, List.length_append, List.length_cons, List.length_nil]
    omega
  | cons entry entries =>
    simp only [prettyEntries, newline, List.length_append, List.length_cons]
    omega

theorem skipGap_stringText (text : String) (rest : List Char) :
    skipGap .blank (Json.stringText text ++ rest) = Json.stringText text ++ rest :=
  skipGap_cons (by decide) (by decide) _

/-- Neither does a brace where the first entry is read. -/
theorem skipGap_prettyEntries (depth : ℕ) (entry : String × Json)
    (entries : List (String × Json)) (rest : List Char) :
    ∀ after, skipGap .blank (prettyEntries depth (entry :: entries) ++ rest) ≠ '}' :: after := by
  obtain ⟨name, value⟩ := entry
  rw [prettyEntries_eq_append, skipGap_newline, skipGap_stringText]
  exact fun after h => nomatch h

/-- A closing bracket stands on a line of its own. -/
theorem skipGap_newline_cons (depth : ℕ) {c : Char} (hc : isSpace c = false) (hs : c ≠ '/')
    (rest : List Char) : skipGap .blank (newline depth ++ c :: rest) = c :: rest := by
  rw [skipGap_newline, skipGap_cons hc hs]

mutual

/-- **What is written is read**: the reader goes back over the text of a value
unless a separator stands in it. -/
theorem value?_prettyChars (depth : ℕ) {rest : List Char} (hr : Ends rest) :
    ∀ (j : Json) (fuel : ℕ), (prettyChars depth j).length < fuel →
      grammar.value? fuel (prettyChars depth j ++ rest) =
        if j.isPlain then some (j.raw, rest) else none
  | _, 0, hf => absurd hf (Nat.not_lt_zero _)
  | .null, _ + 1, _ => rfl
  | .boolean true, _ + 1, _ => rfl
  | .boolean false, _ + 1, _ => rfl
  | .integer n, fuel + 1, _ => value?_of_number? (number?_integerText n hr) fuel
  | .decimal x, fuel + 1, _ => value?_decimalText x fuel hr
  | .string text, fuel + 1, _ => by
    rw [prettyChars, value?_stringText, Json.isPlain, Json.raw]
  | .array [], _ + 1, _ => rfl
  | .array (item :: items), fuel + 1, hf => by
    -- the bracket costs one unit of fuel and one character
    have htext : prettyChars depth (.array (item :: items)) ++ rest
        = '[' :: (prettyItems (depth + 1) (item :: items) ++ (newline depth ++ ']' :: rest)) := by
      simp [prettyChars]
    have hlength : (prettyItems (depth + 1) (item :: items)).length < fuel := by
      have h := congrArg List.length htext
      simp only [List.length_append, List.length_cons] at h
      omega
    have hitems := items?_prettyItems (depth + 1) depth rest (item :: items) fuel
      (List.cons_ne_nil _ _) hlength
    rw [htext, value?_array (skipGap_prettyItems _ _ _ _), hitems, Json.isPlain, Json.raw]
    split <;> rfl
  | .object [], _ + 1, _ => rfl
  | .object (entry :: entries), fuel + 1, hf => by
    have htext : prettyChars depth (.object (entry :: entries)) ++ rest
        = '{' :: (prettyEntries (depth + 1) (entry :: entries) ++
            (newline depth ++ '}' :: rest)) := by
      simp [prettyChars]
    have hlength : (prettyEntries (depth + 1) (entry :: entries)).length < fuel := by
      have h := congrArg List.length htext
      simp only [List.length_append, List.length_cons] at h
      omega
    have hentries := entries?_prettyEntries (depth + 1) depth rest (entry :: entries) fuel
      (List.cons_ne_nil _ _) hlength
    rw [htext, value?_object (skipGap_prettyEntries _ _ _ _), hentries, Json.isPlain, Json.raw]
    split
    · rw [Option.map_some]
      simp only [ofEntries_some]
    · rfl

/-- Items are read up to the bracket that closes them. -/
theorem items?_prettyItems (depth close : ℕ) (rest : List Char) :
    ∀ (items : List Json) (fuel : ℕ), items ≠ [] → (prettyItems depth items).length < fuel →
      grammar.items? fuel
          (skipGap .blank (prettyItems depth items ++ (newline close ++ ']' :: rest))) =
        if Json.areItemsPlain items then some (Json.rawItems items, rest) else none
  | _, 0, _, hf => absurd hf (Nat.not_lt_zero _)
  | [], _, hne, _ => absurd rfl hne
  | item :: items, fuel + 1, _, hf => by
    obtain ⟨hitem, hitems⟩ := length_prettyItems_cons depth item items
    have hends := ends_newline close (']' :: rest)
    have hv := value?_prettyChars depth (ends_afterItem depth hends items) item fuel (by omega)
    have hrest := fun hne => items?_prettyItems depth close rest items fuel hne (by omega)
    rw [prettyItems_eq_append, skipGap_newline, (skipGap_prettyChars ..).1, Json.areItemsPlain,
      Json.rawItems]
    -- an item that is not plain stops the reader, and the others are not looked at
    cases hp : item.isPlain with
    | false =>
      rw [hp, if_neg Bool.false_ne_true] at hv
      exact items?_none hv
    | true =>
      rw [hp, if_pos rfl] at hv
      cases items with
      | nil => exact items?_last hv (skipGap_newline_cons close (by decide) (by decide) rest)
      | cons next items =>
        rw [items?_more hv (skipGap_prettyItems depth next items _),
          hrest (List.cons_ne_nil _ _), Bool.true_and]
        split <;> rfl

/-- Entries are read up to the brace that closes them. -/
theorem entries?_prettyEntries (depth close : ℕ) (rest : List Char) :
    ∀ (entries : List (String × Json)) (fuel : ℕ), entries ≠ [] →
      (prettyEntries depth entries).length < fuel →
      grammar.entries? fuel
          (skipGap .blank (prettyEntries depth entries ++ (newline close ++ '}' :: rest))) =
        if Json.areEntriesPlain entries then
          some ((Json.rawEntries entries).map fun entry => (some entry.1, entry.2), rest)
        else none
  | _, 0, _, hf => absurd hf (Nat.not_lt_zero _)
  | [], _, hne, _ => absurd rfl hne
  | (name, value) :: entries, fuel + 1, _, hf => by
    obtain ⟨hvalue, hentries⟩ := length_prettyEntries_cons depth name value entries
    have hends := ends_newline close ('}' :: rest)
    have hn := name?_stringText name (':' :: ' ' :: (prettyChars depth value ++
      afterEntry depth (newline close ++ '}' :: rest) entries))
    have hv := value?_prettyChars depth (ends_afterEntry depth hends entries) value fuel
      (by omega)
    have hrest := fun hne => entries?_prettyEntries depth close rest entries fuel hne (by omega)
    -- the value is read where it starts
    rw [← (skipGap_prettyChars ..).1] at hv
    rw [prettyEntries_eq_append, skipGap_newline, skipGap_stringText, Json.areEntriesPlain,
      Json.rawEntries]
    cases hname : name.toList.any isSeparator with
    | true =>
      rw [hname] at hn
      exact entries?_of_name?_eq_none hn
    | false =>
      rw [hname] at hn
      cases hp : value.isPlain with
      | false =>
        rw [hp, if_neg Bool.false_ne_true] at hv
        exact entries?_of_value?_eq_none hn hv
      | true =>
        rw [hp, if_pos rfl] at hv
        cases entries with
        | nil => exact entries?_last hn hv (skipGap_newline_cons close (by decide) (by decide) rest)
        | cons next entries =>
          rw [entries?_more hn hv (skipGap_prettyEntries depth next entries _),
            hrest (List.cons_ne_nil _ _)]
          simp only [Bool.not_false, Bool.true_and]
          split <;> rfl

end

end Json5

end Settings
