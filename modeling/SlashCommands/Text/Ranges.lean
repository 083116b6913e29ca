/-!
# Ranges of characters

A property of characters is stored as the ranges of code points that have it.
-/

namespace SlashCommands.Text

/-- Holds of a character in one of the ranges. -/
def inRanges (ranges : List (Nat × Nat)) (c : Char) : Bool :=
  ranges.any fun r => r.1 ≤ c.toNat && c.toNat ≤ r.2

/-- The value of the first range that holds a character. -/
def valueInRanges? {α : Type} (ranges : List (Nat × Nat × α)) (c : Char) : Option α :=
  (ranges.find? fun r => r.1 ≤ c.toNat && c.toNat ≤ r.2.1).map (·.2.2)

end SlashCommands.Text
