import SlashCommands.Text.Blank
import SlashCommands.Text.Case
import SlashCommands.Text.Normal
import SlashCommands.Url.Domain.FoldTable

/-!
# Folding

Domain names that look or read the same are the same.  Folding replaces every character by what it
stands for and brings the text into normal form; a text that folding does not change is folded.
-/

namespace SlashCommands.Url.Domain

/-- The entry of the folding table for a code point. -/
def folding? (code : Nat) : Option (List Char) := do
  let (first, images) ← (foldings.takeWhile (·.1 ≤ code)).getLast?
  (Text.splitAt (· == ' ') images.toList)[code - first]?

/-- What a character of a domain name stands for, unless a domain name cannot hold it. -/
def foldChar? (c : Char) : Option (List Char) :=
  if c.toNat < 0x80 then some [c.toLower]
  else if Text.inRanges barredRanges c then none
  else if Text.inRanges silentRanges c then some []
  else some ((folding? c.toNat).getD (Text.lowerChar c))

/-- The folded form of a text. -/
def fold? (s : List Char) : Option (List Char) :=
  (s.mapM foldChar?).map fun images => Text.normal images.flatten

/-- Holds of folded texts. -/
def isFolded (s : List Char) : Bool :=
  fold? s == some s

example : foldChar? 'ﬁ' = some ['f', 'i'] := by decide +kernel
example : foldChar? 'ẞ' = some ['ß'] := by decide +kernel
example : foldChar? '\u00ad' = some [] := by decide +kernel
example : foldChar? '\u0378' = none := by decide +kernel

end SlashCommands.Url.Domain
