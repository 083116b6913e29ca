import SlashCommands.Text.MarkTable
import SlashCommands.Text.Ranges

/-!
# Order of marks

Marks behind a character that do not touch each other may be written in any order, so a text is
brought into the order of their combining classes.  Marks of one class stay as they are.
-/

namespace SlashCommands.Text

/-- The code point of the first mark. -/
def firstMark : Nat := 0x300

/-- Holds of the marks that take no room of their own. -/
def isNonspacing (c : Char) : Bool :=
  firstMark ≤ c.toNat && inRanges nonspacingRanges c

/-- Holds of marks. -/
def isMark (c : Char) : Bool :=
  isNonspacing c || (firstMark ≤ c.toNat && inRanges spacingRanges c)

/-- The combining class of a character; it is zero for those that others combine with. -/
def combiningClass (c : Char) : Nat :=
  if c.toNat < firstMark then 0 else (valueInRanges? combiningRanges c).getD 0

/-- The combining class of the marks that take the vowel from a letter. -/
def vowelKiller : Nat := 9

/-- Puts a character in front of an ordered text, behind the marks of lower classes. -/
def place (c : Char) : List Char → List Char
  | [] => [c]
  | d :: rest =>
    if 0 < combiningClass d && combiningClass d < combiningClass c then d :: place c rest
    else c :: d :: rest

/-- A text with its marks in order. -/
def order (s : List Char) : List Char :=
  s.foldr place []

end SlashCommands.Text
