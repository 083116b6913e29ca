/-!
# Percent encoding

A URL is written in ASCII without blanks.  A character that a part of it cannot hold is written as
its bytes, each of them a percent sign and two hexadecimal digits.  What a part cannot hold differs
from part to part, so it is given as a predicate.
-/

namespace SlashCommands.Url

/-- The two hexadecimal digits of a byte after a percent sign. -/
def percentByte (b : UInt8) : List Char :=
  ['%', Nat.digitChar (b.toNat / 16), Nat.digitChar (b.toNat % 16)].map Char.toUpper

/-- Characters in which those that satisfy `escaped` are replaced by their bytes. -/
def percentEncode (escaped : Char → Bool) (s : List Char) : List Char :=
  s.flatMap fun c =>
    if escaped c then c.toString.toUTF8.toList.flatMap percentByte else [c]

/-- Holds of the characters that no part can hold: control characters and all beyond ASCII. -/
def isEscaped (c : Char) : Bool :=
  c.toNat < 0x20 || 0x7F ≤ c.toNat

/-- Holds of the characters that a fragment cannot hold. -/
def isEscapedInFragment (c : Char) : Bool :=
  isEscaped c || [' ', '"', '<', '>', '\x60'].contains c

/-- Holds of the characters that a path cannot hold. -/
def isEscapedInPath (c : Char) : Bool :=
  isEscapedInFragment c || ['#', '?', '\x7b', '\x7d'].contains c

/-- Holds of the characters that a query cannot hold. -/
def isEscapedInQuery (c : Char) : Bool :=
  isEscaped c || [' ', '"', '#', '<', '>'].contains c

/-- The value of a hexadecimal digit. -/
def hexDigit? (c : Char) : Option Nat :=
  if c.isDigit then some (c.toNat - '0'.toNat)
  else if 'a' ≤ c.toLower && c.toLower ≤ 'f' then some (c.toLower.toNat - 'a'.toNat + 10)
  else none

/-- The bytes of a text, where a percent sign and two hexadecimal digits stand for one byte. -/
def percentDecode : List Char → List UInt8
  | [] => []
  | '%' :: a :: b :: rest =>
    match hexDigit? a, hexDigit? b with
    | some high, some low => (16 * high + low).toUInt8 :: percentDecode rest
    | _, _ => 0x25 :: percentDecode (a :: b :: rest)
  | c :: rest => c.toString.toUTF8.toList ++ percentDecode rest
termination_by s => s.length

example : percentEncode isEscapedInPath "é ?".toList = "%C3%A9%20%3F".toList := by decide +kernel
example : percentDecode "%41%4".toList = "A%4".toUTF8.toList := by decide +kernel

end SlashCommands.Url
