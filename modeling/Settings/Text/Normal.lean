/-
Settings/Text/Normal.lean

The normal form under which texts are searched: lower-case, taken apart into
base characters and combining marks, without the marks.

The canonical order of marks plays no part here.  Ordering only permutes
characters of non-zero combining class, and all of those are marks, so that
nothing of them is left (Settings/Proofs/Text/CanonicalOrder.lean).
-/
import Settings.Text.LowerCase
import Settings.Text.Decomposition
import Settings.Text.Mark

namespace Settings.Text

/-- The normal form of a list of characters. -/
def normalChars (text : List Char) : List Char :=
  ((lower text).flatMap decompose).filter (!isMark ·)

/-- The normal form of a text. -/
def normalize (text : String) : String := String.ofList (normalChars text.toList)

/-- A normal form holds no combining mark. -/
theorem not_isMark_of_mem_normalChars {text : List Char} {c : Char}
    (h : c ∈ normalChars text) : isMark c = false := by
  simpa using (List.mem_filter.mp h).2

end Settings.Text
