/-!
# Data

`Datum` is what the readers of data formats produce and what decoders consume: nothing, truth
values, whole numbers, doubles, text, lists, and tables whose entries stay in written order.
-/

namespace SlashCommands

/-- A value of a data format.  `void` is a literal that is spelled correctly and denotes no value,
such as a number beyond the doubles: it can be skipped and cannot be used. -/
inductive Datum
  | null
  | bool (value : Bool)
  | int (value : Int)
  | float (value : Float)
  | text (value : String)
  | list (items : List Datum)
  | table (entries : List (String × Datum))
  | void
  deriving Inhabited

namespace Datum

/-- Holds of the whole numbers that fit 64 bits with a sign. -/
def fitsInt64 (n : Int) : Bool :=
  Int64.minValue.toInt ≤ n && n ≤ Int64.maxValue.toInt

/-- The last entry under a key. -/
def lookup? (key : String) (entries : List (String × Datum)) : Option Datum :=
  entries.foldl (fun found entry => if entry.1 == key then some entry.2 else found) none

/-- The entry of a table under a key; other values have none. -/
def get? (key : String) : Datum → Option Datum
  | .table entries => lookup? key entries
  | _ => none

/-- Drops the entries whose key comes again later. -/
def dropEarlier : List (String × Datum) → List (String × Datum)
  | [] => []
  | entry :: rest =>
    if rest.any (·.1 == entry.1) then dropEarlier rest else entry :: dropEarlier rest

/-- The value in which every table keeps only the last entry of a key. -/
def lastWins : Datum → Datum
  | .list items => .list (items.attach.map fun ⟨item, _⟩ => item.lastWins)
  | .table entries => .table (dropEarlier (entries.attach.map fun ⟨entry, h⟩ =>
      have : sizeOf entry.2 < sizeOf entries := by
        have := List.sizeOf_lt_of_mem h
        cases entry; simp_all; omega
      (entry.1, entry.2.lastWins)))
  | other => other

/-- How deep lists and tables are nested in a value. -/
def depth : Datum → Nat
  | .list items => 1 + (items.attach.map fun ⟨item, _⟩ => item.depth).foldl max 0
  | .table entries => 1 + (entries.attach.map fun ⟨entry, h⟩ =>
      have : sizeOf entry.2 < sizeOf entries := by
        have := List.sizeOf_lt_of_mem h
        cases entry; simp_all; omega
      entry.2.depth).foldl max 0
  | _ => 0

end Datum

end SlashCommands
