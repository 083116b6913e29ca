import SlashCommands.Datum

/-!
# Records

A record type is read from a table, by field name, or from a list, by field position.  `Fields`
holds the fields that were given; the readers below say what a missing field means.
-/

namespace SlashCommands.Datum

/-- The formats that records are read from. -/
inductive Format
  | json
  | toml
  deriving DecidableEq, Repr

/-- Holds if a format skips the items of a list that come after the last field of its record. -/
def Format.skipsSurplus : Format → Bool
  | .json => false
  | .toml => true

/-- The given fields of a record.  Those of a list are `positional`: there a field can only be left
out, at the end, if it has a default. -/
structure Fields where
  positional : Bool
  entries : List (String × Datum)

/-- Holds if no key of the record is given twice. -/
def noRepeat (names : List String) (entries : List (String × Datum)) : Bool :=
  names.all fun name => (entries.filter (·.1 == name)).length ≤ 1

/-- The fields of a record with these field names.  A table must not give one of them twice, and its
other keys are skipped; a list must not be longer than they are, unless the format skips the
surplus. -/
def fields? (format : Format) (names : List String) : Datum → Option Fields
  | .table entries => if noRepeat names entries then some ⟨false, entries⟩ else none
  | .list items =>
    if items.length ≤ names.length || format.skipsSurplus then some ⟨true, names.zip items⟩
    else none
  | _ => none

/-- The fields of a record whose table must have no other keys. -/
def closedFields? (format : Format) (names : List String) : Datum → Option Fields
  | .table entries =>
    if entries.all fun entry => names.contains entry.1 then fields? format names (.table entries)
    else none
  | other => fields? format names other

namespace Fields

variable {α : Type}

/-- The datum given for a field. -/
def find? (f : Fields) (name : String) : Option Datum :=
  lookup? name f.entries

/-- A field that must be given. -/
def required (f : Fields) (name : String) (decode : Datum → Option α) : Option α :=
  (f.find? name).bind decode

/-- A field with a default, which takes effect when the field is missing. -/
def withDefault (f : Fields) (name : String) (value : α) (decode : Datum → Option α) : Option α :=
  match f.find? name with
  | none => some value
  | some datum => decode datum

/-- Reads nothing from `null`. -/
def nullable (decode : Datum → Option α) : Datum → Option (Option α)
  | .null => some none
  | datum => (decode datum).map some

/-- A field that may be null, and may be missing from a table. -/
def optional (f : Fields) (name : String) (decode : Datum → Option α) : Option (Option α) :=
  match f.find? name with
  | none => if f.positional then none else some none
  | some datum => nullable decode datum

/-- A field that may be null or missing, from a list too. -/
def optionalLast (f : Fields) (name : String) (decode : Datum → Option α) : Option (Option α) :=
  f.withDefault name none (nullable decode)

end Fields

/-- Reads text. -/
def text? : Datum → Option String
  | .text s => some s
  | _ => none

/-- Reads a truth value. -/
def bool? : Datum → Option Bool
  | .bool b => some b
  | _ => none

/-- Reads a whole number that fits so many bits without a sign. -/
def unsigned? (bits : Nat) : Datum → Option Nat
  | .int n => if 0 ≤ n ∧ n.toNat < 1 <<< bits then some n.toNat else none
  | _ => none

/-- Reads a number as a double. -/
def float? : Datum → Option Float
  | .int n => some (Float.ofInt n)
  | .float x => some x
  | _ => none

/-- Reads a list. -/
def list? {α : Type} (decode : Datum → Option α) : Datum → Option (List α)
  | .list items => items.mapM decode
  | _ => none

/-- Reads a choice that carries no data: its name, or a table with the name as its only key and a
datum that stands for nothing. -/
def choice? {α : Type} (isUnit : Datum → Bool) (named : String → Option α) : Datum → Option α
  | .text name => named name
  | .table [(name, datum)] => if isUnit datum then named name else none
  | _ => none

/-- Holds of `null`. -/
def isNull : Datum → Bool
  | .null => true
  | _ => false

/-- Holds of the table without entries. -/
def isEmptyTable : Datum → Bool
  | .table [] => true
  | _ => false

/-- Holds of the list without items. -/
def isEmptyList : Datum → Bool
  | .list [] => true
  | _ => false

/-- Holds of what stands for nothing in a format; where there is no `null`, a table or a list
without content does. -/
def Format.isUnit : Format → Datum → Bool
  | .json, d => isNull d
  | .toml, d => isEmptyTable d || isEmptyList d

end SlashCommands.Datum
