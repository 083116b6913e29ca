import SlashCommands.Url.Domain.Direction
import SlashCommands.Url.Domain.Fold
import SlashCommands.Url.Domain.Joiner
import SlashCommands.Url.Punycode

/-!
# Domain names

A domain name consists of labels with dots in between.  It is folded, and every label that has
characters beyond ASCII is written in its ASCII form.  A label that is given in its ASCII form has
to stand for a label that could be given itself.
-/

namespace SlashCommands.Url.Domain

/-- Holds of texts in ASCII. -/
def isAscii (s : List Char) : Bool :=
  s.all (·.toNat < 0x80)

/-- The mark in front of the ASCII form of a label. -/
def asciiMark : List Char := "xn--".toList

/-- The greatest number of characters of a label beyond ASCII. -/
def greatestLabel : Nat := 1000

/-- The greatest number of characters behind the mark of an ASCII form. -/
def greatestForm : Nat := 2000

/-- The label that an ASCII form without its mark stands for. -/
def labelOfForm? (form : List Char) : Option (List Char) := do
  if form.getLast? == some '-' || greatestForm < form.length || !isAscii form then none
  let label ← Punycode.decode? form
  if isAscii label || !isFolded label then none else some label

/-- The label that is meant by a folded one. -/
def label? (folded : List Char) : Option (List Char) :=
  if asciiMark.isPrefixOf folded then labelOfForm? (folded.drop asciiMark.length)
  else if isAscii folded || folded.length ≤ greatestLabel then some folded
  else none

/-- Holds of labels that can stand anywhere: they do not begin with a mark, and joiners fit. -/
def isProper (label : List Char) : Bool :=
  !label.head?.any Text.isMark && joinersFit label

/-- The form of a label in ASCII. -/
def asciiForm (label : List Char) : List Char :=
  if isAscii label then label else asciiMark ++ Punycode.encode label

/-- Holds of the characters that the ASCII form of a domain name cannot hold. -/
def isBarred (c : Char) : Bool :=
  c.toNat ≤ 0x20 || 0x7F ≤ c.toNat || "%#/:<>?@[\\]^|".toList.contains c

/-- The ASCII form of a domain name. -/
def asciiName? (name : List Char) : Option (List Char) := do
  let labels ← (Text.splitAt (· == '.') (← fold? name)).mapM label?
  let name := ['.'].intercalate (labels.map asciiForm)
  if labels.all isProper && directionsAgree labels && !name.any isBarred then some name else none

/-- The ASCII form of a domain name, as text. -/
def normalForm? (name : String) : Option String :=
  (asciiName? name.toList).map String.ofList

example : normalForm? "EXAMPLE.com" = some "example.com" := by decide +kernel
example : normalForm? "a b" = none := by decide +kernel
example : normalForm? "xn--a" = none := by decide +kernel

end SlashCommands.Url.Domain
