import SlashCommands.Text.CompositeTable
import SlashCommands.Text.Mark

/-!
# Normal form

A letter with an accent can be written as one character or as two.  In the normal form a text is
taken apart, its marks are ordered, and then every character is composed with as many of those
behind it as there is a composite for.  The composites of Hangul syllables are not listed but
computed.
-/

namespace SlashCommands.Text

/-! ### Hangul syllables

A syllable has a leading consonant, a vowel and possibly a trailing consonant.  The syllables are
numbered by their leading consonants first and their trailing ones last. -/

/-- The code point of the first syllable. -/
def firstSyllable : Nat := 0xAC00

/-- The code point of the first leading consonant. -/
def firstLeading : Nat := 0x1100

/-- The code point of the first vowel. -/
def firstVowel : Nat := 0x1161

/-- The code point before the first trailing consonant. -/
def beforeTrailing : Nat := 0x11A7

/-- How many leading consonants there are. -/
def leadingCount : Nat := 19

/-- How many vowels there are. -/
def vowelCount : Nat := 21

/-- In how many ways a syllable can end. -/
def endingCount : Nat := 28

/-- How many syllables there are. -/
def syllableCount : Nat := leadingCount * vowelCount * endingCount

/-- The last part of a syllable and what stands before it, which is a syllable if the last part is
a consonant. -/
def syllableParts? (code : Nat) : Option (Nat × Nat) :=
  let i := code - firstSyllable
  if code < firstSyllable ∨ syllableCount ≤ i then none
  else if i % endingCount = 0 then
    let pair := i / endingCount
    some (firstLeading + pair / vowelCount, firstVowel + pair % vowelCount)
  else some (code - i % endingCount, beforeTrailing + i % endingCount)

/-- The syllable of two parts. -/
def syllable? (first last : Nat) : Option Nat :=
  let leading := first - firstLeading
  let vowel := last - firstVowel
  let trailing := last - beforeTrailing
  let i := first - firstSyllable
  if firstLeading ≤ first ∧ leading < leadingCount ∧ firstVowel ≤ last ∧ vowel < vowelCount then
    some (firstSyllable + (leading * vowelCount + vowel) * endingCount)
  else if firstSyllable ≤ first ∧ i < syllableCount ∧ i % endingCount = 0
      ∧ 0 < trailing ∧ trailing < endingCount then
    some (first + trailing)
  else none

/-! ### Composites -/

/-- Characters as pairs. -/
def pairs : List Char → List (Char × Char)
  | a :: b :: rest => (a, b) :: pairs rest
  | _ => []

/-- The last part of a composite and what stands before it. -/
def parts? (c : Char) : Option (Char × Char) :=
  match syllableParts? c.toNat with
  | some (first, last) => some (Char.ofNat first, Char.ofNat last)
  | none => composites.findSome? fun (last, entries) =>
    ((pairs entries.toList).find? (·.2 == c)).map fun pair => (pair.1, Char.ofNat last)

/-- The composite of two parts. -/
def composite? (first last : Char) : Option Char :=
  match syllable? first.toNat last.toNat with
  | some code => some (Char.ofNat code)
  | none => composites.findSome? fun (code, entries) =>
    if code = last.toNat then ((pairs entries.toList).find? (·.1 == first)).map (·.2) else none

/-- The greatest number of times that a composite can be taken apart. -/
def greatestDepth : Nat := 3

/-- The characters that a character is composed of, when it can be taken apart so many times. -/
def decomposeChar : Nat → Char → List Char
  | 0, c => [c]
  | depth + 1, c =>
    match parts? c with
    | some (first, last) => decomposeChar depth first ++ [last]
    | none => [c]

/-- A text without composites. -/
def decompose (s : List Char) : List Char :=
  s.flatMap (decomposeChar greatestDepth)

/-- Composes a character with those behind it, when `passed` stand in between that it could not be
composed with.  Characters of the class of one in between, or of a lower one, are out of reach. -/
def composeFrom (c : Char) (passed : List Char) : List Char → List Char
  | [] => c :: passed
  | d :: rest =>
    let reaches := passed.all fun p => combiningClass p < combiningClass d
    match if reaches then composite? c d else none with
    | some whole => composeFrom whole passed rest
    | none =>
      if combiningClass d = 0 then c :: passed ++ composeFrom d [] rest
      else composeFrom c (passed ++ [d]) rest

/-- Composes an ordered text. -/
def compose : List Char → List Char
  | [] => []
  | c :: rest => if combiningClass c = 0 then composeFrom c [] rest else c :: compose rest

/-- The normal form of a text; without marks, a text in one of the first scripts has it. -/
def normal (s : List Char) : List Char :=
  if s.all (·.toNat < firstMark) then s else compose (order (decompose s))

end SlashCommands.Text
