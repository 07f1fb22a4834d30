/-
Settings/Json5.lean

Reading JSON5, the format of settings documents: comments, names without
quotation marks, strings in either kind of them, more forms of numbers, and
a comma after the last item.

Whole numbers have 64 bits, or 32 bits in base sixteen, where no sign is
allowed.  A number with a point or an exponent must be finite, unless it is
spelled `Infinity` or `NaN`; these two take a minus sign but no plus sign.
Of a surrogate pair the two halves are joined by `or`, not by adding, so that
a bit of the first half can be lost in the carry.
-/
import Settings.Raw.Grammar
import Settings.Text.Identifier

namespace Settings.Json5

open Raw (Piece readHex?)

/-! ### Between tokens -/

/-- Whether the character ends a line. -/
def isLineEnd (c : Char) : Bool := c = '\n' || c = '\r' || c = '\u2028' || c = '\u2029'

/-- Whether the character is white space between tokens. -/
def isSpace (c : Char) : Bool :=
  isLineEnd c || c = '\t' || c = '\x0b' || c = '\x0c' || c = ' ' || c = '\u00A0'
    || c = '\uFEFF' || c = '\u1680' || (0x2000 ≤ c.toNat && c.toNat ≤ 0x200A)
    || c = '\u202F' || c = '\u205F' || c = '\u3000'

/-- Where one is between two tokens. -/
inductive Gap where
  | blank
  | lineComment
  | blockComment

/-- Drops white space and comments.  A comment that is not closed leaves its
slash behind, which starts no token. -/
def skipGap : Gap → List Char → List Char
  | .blank, [] => []
  | .blank, '/' :: '/' :: rest => skipGap .lineComment rest
  | .blank, '/' :: '*' :: rest => skipGap .blockComment rest
  | .blank, c :: rest => if isSpace c then skipGap .blank rest else c :: rest
  | .lineComment, [] => []
  | .lineComment, c :: rest =>
    if isLineEnd c then skipGap .blank rest else skipGap .lineComment rest
  | .blockComment, [] => ['/']
  | .blockComment, '*' :: '/' :: rest => skipGap .blank rest
  | .blockComment, _ :: rest => skipGap .blockComment rest

/-! ### Strings and names -/

/-- Reads the escape after a backslash.  There is no piece where a line goes
on after its end. -/
def escape? : List Char → Option (Option Piece × List Char)
  | '\r' :: '\n' :: rest => some (none, rest)
  | 'b' :: rest => some (some (.char '\x08'), rest)
  | 'f' :: rest => some (some (.char '\x0c'), rest)
  | 'n' :: rest => some (some (.char '\n'), rest)
  | 'r' :: rest => some (some (.char '\r'), rest)
  | 't' :: rest => some (some (.char '\t'), rest)
  | 'v' :: rest => some (some (.char '\x0b'), rest)
  | '0' :: rest => some (some (.char '\x00'), rest)
  | 'x' :: rest => (readHex? 2 rest).map fun (n, rest) => (some (.char (Char.ofNat n)), rest)
  | 'u' :: rest => (readHex? 4 rest).map fun (n, rest) => (some (.unit n), rest)
  | c :: rest =>
    if isLineEnd c then some (none, rest)
    else if Decimal.isDigit c then none
    else some (some (.char c), rest)
  | [] => none

/-- Reads the pieces of a string up to the given quotation mark. -/
def stringBody? (mark : Char) : (fuel : Nat) → List Char → Option (List Piece × List Char)
  | 0, _ => none
  | _ + 1, [] => none
  | fuel + 1, c :: rest =>
    if c = mark then some ([], rest)
    else if c = '\\' then
      match escape? rest with
      | none => none
      | some (piece, rest) =>
        (stringBody? mark fuel rest).map fun (pieces, rest) => (piece.toList ++ pieces, rest)
    else if isLineEnd c then none
    else (stringBody? mark fuel rest).map fun (pieces, rest) => (.char c :: pieces, rest)

/-- The code point of a surrogate pair, from ten bits of each half. -/
def joinHalves (leading trailing : Nat) : Nat := (leading <<< 10) ||| (trailing + 0x10000)

/-- The text of some pieces. -/
def textOf? (pieces : List Piece) : Option String :=
  (Raw.joinPieces? joinHalves pieces).map String.ofList

/-- Reads a string after its first quotation mark. -/
def string? (mark : Char) (text : List Char) : Option (Option String × List Char) :=
  (stringBody? mark (text.length + 1) text).map fun (pieces, rest) => (textOf? pieces, rest)

/-- Whether a name can start with the character. -/
def startsName (c : Char) : Bool := c = '$' || c = '_' || Text.isLetter c

/-- Whether a name can go on with the character. -/
def continuesName (c : Char) : Bool :=
  startsName c || Text.isContinuation c || c = '\u200C' || c = '\u200D'

/-- Reads a character of a name, which may be escaped by its number. -/
def nameChar? (accepts : Char → Bool) : List Char → Option (Piece × List Char)
  | '\\' :: 'u' :: rest => (readHex? 4 rest).map fun (n, rest) => (.unit n, rest)
  | c :: rest => if accepts c then some (.char c, rest) else none
  | [] => none

/-- Reads the further characters of a name. -/
def nameRest : (fuel : Nat) → List Char → List Piece × List Char
  | 0, text => ([], text)
  | fuel + 1, text =>
    match nameChar? continuesName text with
    | none => ([], text)
    | some (piece, rest) =>
      let (pieces, rest) := nameRest fuel rest
      (piece :: pieces, rest)

/-- Reads the name of an entry. -/
def name? : List Char → Option (Option String × List Char)
  | '"' :: rest => string? '"' rest
  | '\'' :: rest => string? '\'' rest
  | text =>
    (nameChar? startsName text).map fun (piece, rest) =>
      let (pieces, rest) := nameRest rest.length rest
      (textOf? (piece :: pieces), rest)

/-! ### Numbers -/

/-- The sign of a number. -/
inductive Sign where
  | none
  | plus
  | minus
deriving DecidableEq

/-- The sign that a text may start with, and what follows it. -/
def spanSign : List Char → Sign × List Char
  | '+' :: rest => (.plus, rest)
  | '-' :: rest => (.minus, rest)
  | text => (.none, text)

/-- The digits of base sixteen that a text starts with. -/
def spanHex (text : List Char) : List Nat × List Char :=
  let digits := text.takeWhile fun c => (Raw.hexValue? c).isSome
  (digits.filterMap Raw.hexValue?, text.drop digits.length)

/-- A number of base sixteen. -/
def rawHex (sign : Sign) (digits : List Nat) : Raw :=
  let n : Nat := digits.foldl (fun n digit => 16 * n + digit) 0
  if sign = .none && n < UInt32.size then .integer n else .unreadable

/-- A number spelled as a word. -/
def rawWord (sign : Sign) (x : Float) : Raw :=
  if sign = .plus then .unreadable else .decimal (Decimal.withSign (sign = .minus) x)

/-- A whole number. -/
def rawWhole (sign : Sign) (digits : List Char) : Raw :=
  let n : Int := Decimal.natOfDigits digits
  match Value.integerOf? (if sign = .minus then -n else n) with
  | some n => .integer n.toInt
  | none => .unreadable

/-- A decimal with the given digits before and after its point. -/
def rawDecimal (sign : Sign) (whole fraction : List Char) (exponent : Int) : Raw :=
  let digits : Decimal.Digits :=
    ⟨Decimal.natOfDigits (whole ++ fraction), exponent - fraction.length⟩
  let x := digits.nearest
  if x.isFinite then .decimal (Decimal.withSign (sign = .minus) x) else .unreadable

/-- The exponent that a text may start with, and what follows.  Without digits
it is none. -/
def spanExponent (text : List Char) : Option Int × List Char :=
  match text with
  | c :: rest =>
    if c = 'e' || c = 'E' then
      let (negative, rest) := Decimal.spanSign rest
      let (digits, rest) := Decimal.spanDigits rest
      if digits = [] then (none, text)
      else
        let size : Int := Decimal.natOfDigits digits
        (some (if negative then -size else size), rest)
    else (none, text)
  | [] => (none, [])

/-- Reads a number of base ten without its sign.  A number does not start with
a zero that another digit follows. -/
def decimal? (sign : Sign) (text : List Char) : Option (Raw × List Char) :=
  let (whole, rest) := Decimal.spanDigits text
  let (whole, rest) := match whole with
    | '0' :: more => (['0'], more ++ rest)
    | whole => (whole, rest)
  match rest with
  | '.' :: after =>
    let (fraction, rest) := Decimal.spanDigits after
    if whole = [] && fraction = [] then none
    else
      let (exponent, rest) := spanExponent rest
      some (rawDecimal sign whole fraction (exponent.getD 0), rest)
  | rest =>
    if whole = [] then none
    else
      match spanExponent rest with
      | (some exponent, rest) => some (rawDecimal sign whole [] exponent, rest)
      | (none, rest) => some (rawWhole sign whole, rest)

/-- Reads a number without its sign. -/
def unsigned? (sign : Sign) (text : List Char) : Option (Raw × List Char) :=
  match text with
  | 'I' :: _ => Raw.word? "Infinity" (rawWord sign (1.0 / 0.0)) text
  | 'N' :: _ => Raw.word? "NaN" (rawWord sign (0.0 / 0.0)) text
  | '0' :: x :: rest =>
    let (digits, after) := spanHex rest
    if (x = 'x' || x = 'X') && digits ≠ [] then some (rawHex sign digits, after)
    else decimal? sign text
  | _ => decimal? sign text

/-- Reads a number. -/
def number? (text : List Char) : Option (Raw × List Char) :=
  let (sign, rest) := spanSign text
  unsigned? sign rest

/-! ### Values -/

/-- Reads a value without brackets. -/
def leaf? : List Char → Option (Raw × List Char)
  | 'n' :: rest => Raw.word? "null" .null ('n' :: rest)
  | 't' :: rest => Raw.word? "true" (.boolean true) ('t' :: rest)
  | 'f' :: rest => Raw.word? "false" (.boolean false) ('f' :: rest)
  | '"' :: rest => (string? '"' rest).map fun (text, rest) => (.ofText text, rest)
  | '\'' :: rest => (string? '\'' rest).map fun (text, rest) => (.ofText text, rest)
  | text => number? text

/-- The grammar of JSON5. -/
def grammar : Raw.Grammar where
  skip := skipGap .blank
  leaf? := leaf?
  name? := name?
  lastComma := true

/-- Reads a text that holds one value. -/
def read? (text : String) : Option Raw := grammar.read? text.toList

end Settings.Json5
