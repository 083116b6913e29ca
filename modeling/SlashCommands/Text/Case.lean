import SlashCommands.Text.CaseTable
import SlashCommands.Text.Ranges

/-!
# Full case mapping

`upper` maps each character on its own; `lower` also looks around a capital sigma, which is
written in its final form at the end of a word.  A character without a mapping stays as it is.
-/

namespace SlashCommands.Text

/-- The image of a code point under the run that holds it, if one does. -/
def CaseRun.image? (run : CaseRun) (code : Nat) : Option Nat :=
  if run.first ≤ code && code ≤ run.last && (code - run.first) % run.step == 0 then
    some (Int.toNat (code + run.shift))
  else none

/-- Maps one character by a table of expansions and one of runs. -/
def mapCase (expansions : List (Nat × List Nat)) (runs : List CaseRun) (c : Char) : List Char :=
  match expansions.find? (·.1 == c.toNat) with
  | some expansion => expansion.2.map Char.ofNat
  | none =>
    match runs.findSome? (·.image? c.toNat) with
    | some code => [Char.ofNat code]
    | none => [c]

/-- The full upper case of one character. -/
def upperChar (c : Char) : List Char :=
  mapCase upperExpansions upperRuns c

/-- The full lower case of one character, whatever stands around it. -/
def lowerChar (c : Char) : List Char :=
  mapCase lowerExpansions lowerRuns c

/-- The full upper case of a text. -/
def upper (s : List Char) : List Char :=
  s.flatMap upperChar

/-- Holds if, past the characters that casing ignores, a cased character comes next. -/
def casedAhead (s : List Char) : Bool :=
  match s.dropWhile (inRanges caseIgnorableRanges) with
  | c :: _ => inRanges casedRanges c
  | [] => false

/-- The lower case of a text, given what stands before it, nearest character first.  A capital
sigma is final if a cased character comes before it and none after it. -/
def lowerAfter (before : List Char) : List Char → List Char
  | [] => []
  | c :: rest =>
    let image :=
      if c == 'Σ' then [if casedAhead before && !casedAhead rest then 'ς' else 'σ']
      else lowerChar c
    image ++ lowerAfter (c :: before) rest

/-- The full lower case of a text. -/
def lower (s : List Char) : List Char :=
  lowerAfter [] s

/-- The full lower case of a text. -/
def lowerText (s : String) : String :=
  String.ofList (lower s.toList)

example : lower "ὈΔΥΣΣΕΎΣ Σ".toList = "ὀδυσσεύς σ".toList := by decide +kernel
example : upper "straße ŉ".toList = "STRASSE ʼN".toList := by decide +kernel

end SlashCommands.Text
