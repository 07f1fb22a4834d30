/-
Settings/Proofs/Json5/String.lean

Strings between the writer of JSON and the reader of JSON5.  The writer leaves
alone all characters but the quotation mark, the backslash and the controls;
the reader takes all of that back, except for the two separators `U+2028` and
`U+2029`, which end a line for it and cannot stand in a string.

The reader goes through a string piece by piece, so this is said for one
character first (`Spells`) and carried to whole strings by induction
(`stringBody?_flatMap`).  A separator can be spelled by its number; for that
reason the induction is about any way of spelling characters.
-/
import Settings.Json.Printer
import Settings.Json5

namespace Settings.Json5

open Raw (Piece joinPieces? readHex? hexValue?)

/-! ### Pieces -/

/-- The piece stands for the character, by itself or by its number. -/
def Stands (piece : Piece) (c : Char) : Prop := piece = .char c ∨ piece = .unit c.toNat

/-- No character is half of a pair. -/
theorem not_isHalf (c : Char) : (Raw.isLeading c.toNat || Raw.isTrailing c.toNat) = false := by
  have hc := c.valid
  simp only [Raw.isLeading, Raw.isTrailing, Char.toNat, UInt32.isValidChar, Nat.isValidChar] at *
  grind

/-- A piece that is not half of a pair is joined with nothing. -/
theorem joinPieces?_cons {join : Nat → Nat → Nat} {piece : Piece} {c : Char}
    (h : Stands piece c) (rest : List Piece) :
    joinPieces? join (piece :: rest) = (joinPieces? join rest).map (c :: ·) := by
  rcases h with rfl | rfl
  · rfl
  · have hhalf := not_isHalf c
    have hlead : Raw.isLeading c.toNat = false := (Bool.or_eq_false_iff.mp hhalf).1
    cases rest with
    | nil => simp [joinPieces?, hhalf, Char.ofNat_toNat]
    | cons next rest =>
      -- two numbers in a row could be the halves of a pair
      cases next with
      | char d => simp [joinPieces?, hhalf, Char.ofNat_toNat]
      | unit n =>
        have htrail : Raw.isTrailing c.toNat = false := (Bool.or_eq_false_iff.mp hhalf).2
        simp [joinPieces?, hlead, htrail, Char.ofNat_toNat]

/-! ### Characters -/

/-- In a string, `spelled` is read as the character. -/
def Spells (spelled : List Char) (c : Char) : Prop :=
  ∃ piece, Stands piece c ∧ ∀ fuel rest, stringBody? '"' (fuel + 1) (spelled ++ rest)
    = (stringBody? '"' fuel rest).map fun (pieces, rest) => (piece :: pieces, rest)

/-- The characters that end a line for the reader and not for the writer. -/
def isSeparator (c : Char) : Bool := c = '\u2028' || c = '\u2029'

/-- A character that stands for itself. -/
theorem spells_self {c : Char} (hq : c ≠ '"') (hb : c ≠ '\\') (hl : isLineEnd c = false) :
    Spells [c] c := by
  refine ⟨.char c, .inl rfl, ?_⟩
  intro fuel rest
  show stringBody? '"' (fuel + 1) (c :: rest) = _
  rw [stringBody?, if_neg hq, if_neg hb, hl, if_neg Bool.false_ne_true]

/-- A character that is escaped by a letter. -/
theorem spells_escape {c d : Char} (h : ∀ rest, escape? (d :: rest) = some (some (.char c), rest)) :
    Spells ['\\', d] c := by
  refine ⟨.char c, .inl rfl, ?_⟩
  intro fuel rest
  show stringBody? '"' (fuel + 1) ('\\' :: d :: rest) = _
  rw [stringBody?, if_neg (by decide), if_pos rfl, h]
  rfl

/-- A character that is escaped by its number. -/
theorem spells_number {c : Char} {w x y z : Char}
    (h : ([w, x, y, z].mapM hexValue?).map (·.foldl (fun n value => 16 * n + value) 0)
      = some c.toNat) : Spells ['\\', 'u', w, x, y, z] c := by
  refine ⟨.unit c.toNat, .inr rfl, ?_⟩
  intro fuel rest
  obtain ⟨values, hvalues, hnumber⟩ := Option.map_eq_some_iff.mp h
  have hread : readHex? 4 (w :: x :: y :: z :: rest) = some (c.toNat, rest) := by
    simp [readHex?, hvalues, hnumber]
  have hu : escape? ('u' :: w :: x :: y :: z :: rest) = some (some (.unit c.toNat), rest) := by
    show (readHex? 4 (w :: x :: y :: z :: rest)).map _ = _
    rw [hread]
    rfl
  show stringBody? '"' (fuel + 1) ('\\' :: 'u' :: w :: x :: y :: z :: rest) = _
  rw [stringBody?, if_neg (by decide), if_pos rfl, hu]
  rfl

/-- What is written for a character is read as it, but for the separators. -/
theorem spells_escapeChar {c : Char} (h : isSeparator c = false) :
    Spells (Json.escapeChar c) c := by
  unfold Json.escapeChar
  split
  -- seven characters have an escape of their own
  · exact spells_escape fun _ => rfl
  · exact spells_escape fun _ => rfl
  · exact spells_escape fun _ => rfl
  · exact spells_escape fun _ => rfl
  · exact spells_escape fun _ => rfl
  · exact spells_escape fun _ => rfl
  · exact spells_escape fun _ => rfl
  · split
    next hc =>
      have hcontrol : ∀ n < 32, (['0', '0', Json.hexDigit (n / 16), Json.hexDigit (n % 16)].mapM
          hexValue?).map (·.foldl (fun n value => 16 * n + value) 0) = some n := by
        decide
      exact spells_number (hcontrol c.toNat hc)
    next hc =>
      -- no control is left, so only the separators end a line
      apply spells_self
      · assumption
      · assumption
      · have hn : c ≠ '\n' := by
          rintro rfl
          exact hc (by decide)
        have hr : c ≠ '\r' := by
          rintro rfl
          exact hc (by decide)
        simpa [isLineEnd, isSeparator, hn, hr] using h

/-- The separators have another spelling that is read. -/
theorem spells_separator {c : Char} (h : isSeparator c = true) :
    Spells ['\\', 'u', '2', '0', '2', if c = '\u2028' then '8' else '9'] c := by
  rw [isSeparator, Bool.or_eq_true, decide_eq_true_iff, decide_eq_true_iff] at h
  rcases h with rfl | rfl
  · exact spells_number (by decide)
  · exact spells_number (by decide)

/-! ### Strings -/

/-- A string is read if each of its characters is. -/
theorem stringBody?_flatMap {spell : Char → List Char} (rest : List Char) :
    ∀ (text : List Char) (fuel : Nat), (∀ c ∈ text, Spells (spell c) c) → text.length < fuel →
      ∃ pieces, stringBody? '"' fuel (text.flatMap spell ++ '"' :: rest) = some (pieces, rest) ∧
        joinPieces? joinHalves pieces = some text
  | [], fuel + 1, _, _ => ⟨[], by simp [stringBody?], rfl⟩
  | c :: text, fuel + 1, hs, hf => by
    obtain ⟨piece, hstands, hread⟩ := hs c List.mem_cons_self
    obtain ⟨pieces, hpieces, hjoin⟩ := stringBody?_flatMap rest text fuel
      (fun d hd => hs d (List.mem_cons_of_mem _ hd)) (Nat.lt_of_succ_lt_succ hf)
    refine ⟨piece :: pieces, ?_, ?_⟩
    · rw [List.flatMap_cons, List.append_assoc, hread, hpieces]
      rfl
    · rw [joinPieces?_cons hstands, hjoin]
      rfl

/-- A string is not read if a separator stands in it. -/
theorem stringBody?_eq_none (rest : List Char) :
    ∀ {text : List Char} {fuel : Nat}, text.any isSeparator = true →
      stringBody? '"' fuel (text.flatMap Json.escapeChar ++ '"' :: rest) = none
  | _, 0, _ => rfl
  | c :: text, fuel + 1, h => by
    rw [List.flatMap_cons, List.append_assoc]
    cases hc : isSeparator c with
    | true =>
      have hstop : ∀ after, stringBody? '"' (fuel + 1) (Json.escapeChar c ++ after) = none := by
        intro after
        rw [isSeparator, Bool.or_eq_true, decide_eq_true_iff, decide_eq_true_iff] at hc
        rcases hc with rfl | rfl <;> rfl
      exact hstop _
    | false =>
      -- this character is read, and the separator stands further on
      obtain ⟨piece, -, hread⟩ := spells_escapeChar hc
      rw [List.any_cons, hc, Bool.false_or] at h
      rw [hread, stringBody?_eq_none rest h]
      rfl

theorem length_le_length_flatMap {spell : Char → List Char} (h : ∀ c, spell c ≠ []) :
    ∀ text : List Char, text.length ≤ (text.flatMap spell).length
  | [] => Nat.le_refl 0
  | c :: text => by
    have hc := List.length_pos_iff.mpr (h c)
    have ht := length_le_length_flatMap h text
    rw [List.flatMap_cons, List.length_append, List.length_cons]
    omega

/-- A string is read, whatever follows it. -/
theorem string?_flatMap {spell : Char → List Char} (hne : ∀ c, spell c ≠ []) {text : List Char}
    (hs : ∀ c ∈ text, Spells (spell c) c) (rest : List Char) :
    string? '"' (text.flatMap spell ++ '"' :: rest) = some (some (String.ofList text), rest) := by
  have hlength := length_le_length_flatMap hne text
  obtain ⟨pieces, hpieces, hjoin⟩ := stringBody?_flatMap rest text
    ((text.flatMap spell ++ '"' :: rest).length + 1) hs (by
      rw [List.length_append]
      omega)
  rw [string?, hpieces]
  simp [textOf?, hjoin]

theorem escapeChar_ne_nil (c : Char) : Json.escapeChar c ≠ [] := by
  unfold Json.escapeChar
  split
  iterate 7 · exact List.cons_ne_nil _ _
  · split <;> exact List.cons_ne_nil _ _

/-- A written string is read unless a separator stands in it. -/
theorem string?_escapeChar (text : String) (rest : List Char) :
    string? '"' (text.toList.flatMap Json.escapeChar ++ '"' :: rest)
      = if text.toList.any isSeparator then none else some (some text, rest) := by
  cases h : text.toList.any isSeparator with
  | true =>
    rw [string?, stringBody?_eq_none rest h]
    rfl
  | false =>
    have hs : ∀ c ∈ text.toList, Spells (Json.escapeChar c) c :=
      fun c hc => spells_escapeChar (by simpa using List.any_eq_false.mp h c hc)
    rw [string?_flatMap escapeChar_ne_nil hs, String.ofList_toList]
    rfl

/-! ### A spelling of every string -/

/-- A spelling that is read for any character. -/
def spelledChar (c : Char) : List Char :=
  if isSeparator c then ['\\', 'u', '2', '0', '2', if c = '\u2028' then '8' else '9']
  else Json.escapeChar c

/-- The string in quotation marks, such that it is read whatever stands in it. -/
def quoted (text : String) : List Char := '"' :: (text.toList.flatMap spelledChar ++ ['"'])

theorem spells_spelledChar (c : Char) : Spells (spelledChar c) c := by
  unfold spelledChar
  split
  next h => exact spells_separator h
  next h => exact spells_escapeChar (Bool.not_eq_true _ ▸ h)

theorem spelledChar_ne_nil (c : Char) : spelledChar c ≠ [] := by
  unfold spelledChar
  split
  · exact List.cons_ne_nil _ _
  · exact escapeChar_ne_nil c

/-- Any name is read where it is quoted. -/
theorem name?_quoted (text : String) (rest : List Char) :
    name? (quoted text ++ rest) = some (some text, rest) := by
  have htext : quoted text ++ rest = '"' :: (text.toList.flatMap spelledChar ++ '"' :: rest) := by
    simp [quoted]
  rw [htext, name?, string?_flatMap spelledChar_ne_nil (fun c _ => spells_spelledChar c),
    String.ofList_toList]

end Settings.Json5
