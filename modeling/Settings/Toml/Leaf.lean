/-
Settings/Toml/Leaf.lean

The leaves of TOML: strings in four forms, whole numbers in four bases,
decimals, and dates and times.  There is no value for dates, so a date is
read as an object with one entry, its text.
-/
import Settings.Raw.Grammar
import Settings.Decimal.Reader

namespace Settings.Toml

open Decimal (isDigit natOfDigits)

/-! ### Characters -/

/-- Whether the character is a blank within a line. -/
def isBlank (c : Char) : Bool := c = ' ' || c = '\t'

/-- Whether the character may stand in comments and literal strings: no
control but the tab. -/
def isPlain (c : Char) : Bool := c = '\t' || (' ' ≤ c && c ≠ '\x7f')

/-- Drops blanks. -/
def skipBlanks (text : List Char) : List Char := text.dropWhile isBlank

/-- Drops the end of a line that the text starts with. -/
def newline? : List Char → Option (List Char)
  | '\n' :: rest => some rest
  | '\r' :: '\n' :: rest => some rest
  | _ => none

/-! ### Strings on one line -/

/-- A character by its number. -/
def charOf? (n : Nat) : Option Char :=
  if n < 0xD800 || (0xDFFF < n && n < 0x110000) then some (Char.ofNat n) else none

/-- Reads the escape after a backslash. -/
def escape? : List Char → Option (Char × List Char)
  | 'b' :: rest => some ('\x08', rest)
  | 't' :: rest => some ('\t', rest)
  | 'n' :: rest => some ('\n', rest)
  | 'f' :: rest => some ('\x0c', rest)
  | 'r' :: rest => some ('\r', rest)
  | '"' :: rest => some ('"', rest)
  | '\\' :: rest => some ('\\', rest)
  | 'u' :: rest =>
    match Raw.readHex? 4 rest with
    | some (n, rest) => (charOf? n).map (·, rest)
    | none => none
  | 'U' :: rest =>
    match Raw.readHex? 8 rest with
    | some (n, rest) => (charOf? n).map (·, rest)
    | none => none
  | _ => none

/-- Reads the rest of a string with escapes. -/
def basicBody? : (fuel : Nat) → List Char → Option (List Char × List Char)
  | 0, _ => none
  | _ + 1, [] => none
  | _ + 1, '"' :: rest => some ([], rest)
  | fuel + 1, '\\' :: rest =>
    match escape? rest with
    | none => none
    | some (c, rest) => (basicBody? fuel rest).map fun (text, rest) => (c :: text, rest)
  | fuel + 1, c :: rest =>
    if isPlain c then (basicBody? fuel rest).map fun (text, rest) => (c :: text, rest) else none

/-- Reads the rest of a string without escapes. -/
def literalBody? : List Char → Option (List Char × List Char)
  | [] => none
  | '\'' :: rest => some ([], rest)
  | c :: rest =>
    if isPlain c then (literalBody? rest).map fun (text, rest) => (c :: text, rest) else none

/-! ### Strings over several lines -/

/-- Drops blanks and line ends after a backslash at the end of a line. -/
def skipLines : List Char → List Char
  | '\r' :: '\n' :: rest => skipLines rest
  | c :: rest => if isBlank c || c = '\n' then skipLines rest else c :: rest
  | [] => []

/-- Reads the rest of a string over several lines, with escapes if
`escapes`.  One or two marks may stand anywhere in it, and also before the
three marks that close it. -/
def longBody? (mark : Char) (escapes : Bool) :
    (fuel : Nat) → List Char → Option (List Char × List Char)
  | 0, _ => none
  | _ + 1, [] => none
  | fuel + 1, c :: rest =>
    if c = mark then
      let marks := rest.takeWhile (· = mark)
      let after := rest.drop marks.length
      if marks.length < 2 then
        (longBody? mark escapes fuel after).map fun (text, rest) => (c :: marks ++ text, rest)
      else if marks.length ≤ 4 then some (marks.drop 2, after)
      else none
    else if escapes && c = '\\' then
      match newline? (skipBlanks rest) with
      | some after => longBody? mark escapes fuel (skipLines after)
      | none =>
        match escape? rest with
        | none => none
        | some (c, rest) =>
          (longBody? mark escapes fuel rest).map fun (text, rest) => (c :: text, rest)
    else
      match newline? (c :: rest) with
      | some after =>
        (longBody? mark escapes fuel after).map fun (text, rest) => ('\n' :: text, rest)
      | none =>
        if isPlain c then
          (longBody? mark escapes fuel rest).map fun (text, rest) => (c :: text, rest)
        else none

/-- Reads the rest of a string over several lines.  A line end right at its
start does not belong to it. -/
def long? (mark : Char) (escapes : Bool) (text : List Char) : Option (List Char × List Char) :=
  let text := (newline? text).getD text
  longBody? mark escapes (text.length + 1) text

/-- Reads a string in one of the four forms. -/
def string? : List Char → Option (List Char × List Char)
  | '"' :: '"' :: '"' :: rest => long? '"' true rest
  | '\'' :: '\'' :: '\'' :: rest => long? '\'' false rest
  | '"' :: rest => basicBody? (rest.length + 1) rest
  | '\'' :: rest => literalBody? rest
  | _ => none

/-! ### Numbers -/

/-- Digits with single underscores between them: the digits, and what
follows. -/
def spanGrouped (accepts : Char → Bool) : List Char → List Char × List Char
  | '_' :: c :: rest =>
    if accepts c then
      let (digits, rest) := spanGrouped accepts rest
      (c :: digits, rest)
    else ([], '_' :: c :: rest)
  | c :: rest =>
    if accepts c then
      let (digits, rest) := spanGrouped accepts rest
      (c :: digits, rest)
    else ([], c :: rest)
  | [] => ([], [])

/-- Digits with single underscores between them, at least one. -/
def grouped? (accepts : Char → Bool) (text : List Char) : Option (List Char × List Char) :=
  match text with
  | '_' :: _ => none
  | text =>
    let (digits, rest) := spanGrouped accepts text
    if digits = [] then none else some (digits, rest)

/-- A whole number of 64 bits. -/
def rawInteger? (n : Int) : Option Raw := (Value.integerOf? n).map fun n => .integer n.toInt

/-- Reads the digits of a whole number in base 2, 8 or 16. -/
def based? (base : Nat) (text : List Char) : Option (Raw × List Char) :=
  let accepts (c : Char) : Bool :=
    match Raw.hexValue? c with
    | some n => decide (n < base)
    | none => false
  match grouped? accepts text with
  | none => none
  | some (digits, rest) =>
    let n : Nat := (digits.filterMap Raw.hexValue?).foldl (fun n digit => base * n + digit) 0
    (rawInteger? n).map (·, rest)

/-- Reads a whole number in base ten without its sign: a zero alone, or digits
that do not start with one. -/
def whole? (text : List Char) : Option (List Char × List Char) :=
  match text with
  | '0' :: rest => some (['0'], rest)
  | text => grouped? isDigit text

/-- Reads a fraction with its point, if there is one. -/
def fraction? : List Char → Option (List Char × List Char)
  | '.' :: rest => grouped? isDigit rest
  | text => some ([], text)

/-- Reads an exponent, if there is one. -/
def exponent? : List Char → Option (Option Int × List Char)
  | c :: rest =>
    if c = 'e' || c = 'E' then
      let (negative, rest) := Decimal.spanSign rest
      match grouped? isDigit rest with
      | none => none
      | some (digits, rest) =>
        let size : Int := natOfDigits digits
        some (some (if negative then -size else size), rest)
    else some (none, c :: rest)
  | [] => some (none, [])

/-- Reads a number in base ten, or one of the words for infinity and for what
is not a number.  A decimal that is too large is an error unless it is
negative. -/
def decimal? (text : List Char) : Option (Raw × List Char) :=
  let (negative, rest) := Decimal.spanSign text
  match rest with
  | 'i' :: _ => Raw.word? "inf" (.decimal (Decimal.withSign negative (1.0 / 0.0))) rest
  | 'n' :: _ => Raw.word? "nan" (.decimal (Decimal.withSign negative (0.0 / 0.0))) rest
  | rest =>
    match whole? rest with
    | none => none
    | some (whole, rest) =>
      match fraction? rest with
      | none => none
      | some (fraction, rest) =>
        match exponent? rest with
        | none => none
        | some (exponent, rest) =>
          if fraction = [] && exponent.isNone then
            let n : Int := natOfDigits whole
            (rawInteger? (if negative then -n else n)).map (·, rest)
          else
            let digits : Decimal.Digits :=
              ⟨natOfDigits (whole ++ fraction), exponent.getD 0 - fraction.length⟩
            let x := Decimal.withSign negative digits.nearest
            if x == 1.0 / 0.0 then none else some (.decimal x, rest)

/-! ### Dates and times -/

/-- Reads exactly `count` digits as a number between two bounds. -/
def fixed? (count low high : Nat) (text : List Char) : Option (Nat × List Char) :=
  let digits := text.take count
  if digits.length = count && digits.all isDigit then
    let n := natOfDigits digits
    if low ≤ n && n ≤ high then some (n, text.drop count) else none
  else none

/-- Drops the given character. -/
def dropChar? (c : Char) : List Char → Option (List Char)
  | d :: rest => if c = d then some rest else none
  | [] => none

/-- The number of days of a month. -/
def daysOf (year month : Nat) : Nat :=
  if month = 2 then
    if year % 4 = 0 && (year % 100 ≠ 0 || year % 400 = 0) then 29 else 28
  else if month = 4 || month = 6 || month = 9 || month = 11 then 30
  else 31

/-- Drops a date. -/
def dropDate? (text : List Char) : Option (List Char) := do
  let (year, rest) ← fixed? 4 0 9999 text
  let rest ← dropChar? '-' rest
  let (month, rest) ← fixed? 2 1 12 rest
  let rest ← dropChar? '-' rest
  let (_, rest) ← fixed? 2 1 (daysOf year month) rest
  some rest

/-- Drops a time of day; the seconds may have a fraction. -/
def dropTime? (text : List Char) : Option (List Char) := do
  let (_, rest) ← fixed? 2 0 23 text
  let rest ← dropChar? ':' rest
  let (_, rest) ← fixed? 2 0 59 rest
  let rest ← dropChar? ':' rest
  let (_, rest) ← fixed? 2 0 60 rest
  match rest with
  | '.' :: rest =>
    let (digits, rest) := Decimal.spanDigits rest
    if digits = [] then none else some rest
  | rest => some rest

/-- Drops the distance from universal time. -/
def dropOffset? : List Char → Option (List Char)
  | c :: rest =>
    if c = 'Z' || c = 'z' then some rest
    else if c = '+' || c = '-' then do
      let (_, rest) ← fixed? 2 0 23 rest
      let rest ← dropChar? ':' rest
      let (_, rest) ← fixed? 2 0 59 rest
      some rest
    else none
  | [] => none

/-- Drops the time of day after a date, if there is one, and its distance from
universal time, if there is one. -/
def dropTimeAfterDate : List Char → List Char
  | c :: rest =>
    if c = 'T' || c = 't' || c = ' ' then
      match dropTime? rest with
      | some rest => (dropOffset? rest).getD rest
      | none => c :: rest
    else c :: rest
  | [] => []

/-- The name under which the text of a date is kept. -/
def dateName : String := "date"

/-- Reads a date, a time or both. -/
def date? (text : List Char) : Option (Raw × List Char) :=
  let after := match dropDate? text with
    | some rest => some (dropTimeAfterDate rest)
    | none => dropTime? text
  after.map fun rest =>
    let written := text.take (text.length - rest.length)
    (.object [(dateName, .string (String.ofList written))], rest)

/-! ### All leaves -/

/-- Reads a number or a date. -/
def number? (text : List Char) : Option (Raw × List Char) :=
  match date? text with
  | some found => some found
  | none =>
    match text with
    | '0' :: 'x' :: rest => based? 16 rest
    | '0' :: 'o' :: rest => based? 8 rest
    | '0' :: 'b' :: rest => based? 2 rest
    | text => decimal? text

/-- Reads a value without brackets. -/
def leaf? : List Char → Option (Raw × List Char)
  | 't' :: rest => Raw.word? "true" (.boolean true) ('t' :: rest)
  | 'f' :: rest => Raw.word? "false" (.boolean false) ('f' :: rest)
  | '"' :: rest =>
    (string? ('"' :: rest)).map fun (text, rest) => (.string (String.ofList text), rest)
  | '\'' :: rest =>
    (string? ('\'' :: rest)).map fun (text, rest) => (.string (String.ofList text), rest)
  | text => number? text

end Settings.Toml
