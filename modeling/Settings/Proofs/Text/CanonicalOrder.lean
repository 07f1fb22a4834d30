/-
Settings/Proofs/Text/CanonicalOrder.lean

The canonical order of combining marks.  A mark has a class, and where a mark
of a higher class stands right before one of a lower class, the two are
exchanged, until there is no such pair left.  Characters of class zero are
never moved.

`CombiningClasses.order` brings a text into this order, character after character
from behind, and does nothing but exchange such neighbours (`exchanges_order`).
An exchange moves marks only, so that all orders leave the same when marks are
dropped.  Therefore normal forms can be computed without it,

    classes.normalChars text  =  Text.normalChars text

whatever the classes are (`normalChars_eq`).
-/
import Mathlib.Logic.Relation
import Settings.Text.Normal

namespace Settings.Text

/-- The classes of characters.  Only marks have one that is not zero. -/
structure CombiningClasses where
  rank : Char → Nat
  isMark_of_rank : ∀ c, rank c ≠ 0 → isMark c = true

namespace CombiningClasses

variable {classes : CombiningClasses} {c d : Char} {s t text : List Char}

/-- Two neighbours that stand in the wrong order. -/
def Reorderable (classes : CombiningClasses) (c d : Char) : Prop :=
  0 < classes.rank d ∧ classes.rank d < classes.rank c

instance (classes : CombiningClasses) (c d : Char) : Decidable (classes.Reorderable c d) :=
  inferInstanceAs (Decidable (_ ∧ _))

/-- The second text is the first with two such neighbours exchanged. -/
inductive Exchange (classes : CombiningClasses) : List Char → List Char → Prop
  | here {c d : Char} (rest : List Char) :
      classes.Reorderable c d → Exchange classes (c :: d :: rest) (d :: c :: rest)
  | later (c : Char) {s t : List Char} : Exchange classes s t → Exchange classes (c :: s) (c :: t)

/-- Any number of exchanges. -/
abbrev Exchanges (classes : CombiningClasses) : List Char → List Char → Prop :=
  Relation.ReflTransGen classes.Exchange

/-! ### Bringing a text into order -/

/-- Moves a character behind those of lower classes. -/
def insert (classes : CombiningClasses) (c : Char) : List Char → List Char
  | [] => [c]
  | d :: rest => if classes.Reorderable c d then d :: classes.insert c rest else c :: d :: rest

/-- The text with its marks in canonical order. -/
def order (classes : CombiningClasses) : List Char → List Char
  | [] => []
  | c :: rest => classes.insert c (classes.order rest)

theorem Exchanges.later (c : Char) (h : classes.Exchanges s t) :
    classes.Exchanges (c :: s) (c :: t) :=
  h.lift (c :: ·) fun _ _ => Exchange.later c

theorem exchanges_insert (c : Char) (text : List Char) :
    classes.Exchanges (c :: text) (classes.insert c text) := by
  induction text with
  | nil => exact .refl
  | cons d rest ih =>
    rw [insert]
    split
    next h => exact .head (.here rest h) (Exchanges.later d ih)
    next => exact .refl

/-- Nothing but exchanges leads to the order. -/
theorem exchanges_order (text : List Char) : classes.Exchanges text (classes.order text) := by
  induction text with
  | nil => exact .refl
  | cons c rest ih => exact (Exchanges.later c ih).trans (exchanges_insert c _)

/-! ### Without the marks -/

/-- An exchange cannot be seen when marks are dropped. -/
theorem filter_of_exchange (h : classes.Exchange s t) :
    t.filter (!isMark ·) = s.filter (!isMark ·) := by
  induction h with
  | @here c d rest hcd =>
    have hc := classes.isMark_of_rank c (Nat.ne_zero_of_lt hcd.2)
    have hd := classes.isMark_of_rank d (Nat.ne_of_gt hcd.1)
    simp [hc, hd]
  | later c _ ih => rw [List.filter_cons, List.filter_cons, ih]

theorem filter_of_exchanges (h : classes.Exchanges s t) :
    t.filter (!isMark ·) = s.filter (!isMark ·) := by
  induction h with
  | refl => rfl
  | tail _ hstep ih => rw [filter_of_exchange hstep, ih]

/-- The normal form of a text, by way of the canonical order. -/
def normalChars (classes : CombiningClasses) (text : List Char) : List Char :=
  (classes.order ((lower text).flatMap decompose)).filter (!isMark ·)

/-- **Normal forms do not depend on the order of marks.** -/
theorem normalChars_eq (classes : CombiningClasses) (text : List Char) :
    classes.normalChars text = Text.normalChars text :=
  filter_of_exchanges (exchanges_order _)

/-- The classes of the dots above and below a letter. -/
def dots : CombiningClasses where
  rank c := if c = '\u0307' then 230 else if c = '\u0323' then 220 else 0
  isMark_of_rank c h := by
    by_cases habove : c = '\u0307'
    · subst habove
      decide +kernel
    · by_cases hbelow : c = '\u0323'
      · subst hbelow
        decide +kernel
      · simp [habove, hbelow] at h

example : dots.order ['s', '\u0307', '\u0323'] = ['s', '\u0323', '\u0307'] := by decide

end CombiningClasses

end Settings.Text
