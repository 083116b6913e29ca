import SlashCommands.Datum

/-!
# TOML tables

A document builds its tables piece by piece, and most pieces may come only once.  An `Item`
remembers how a table came about: by a header of its own, because a header names one of its parts,
or because a dotted key does.  `descend` finds the place a key path leads to under the rules for
going on with each kind.
-/

namespace SlashCommands.Toml

/-- How a table came about: by its header, implied by the header of a part, or by a dotted key. -/
inductive Form
  | header
  | implied
  | dotted
  deriving DecidableEq, Repr

/-- What stands under a key.  Of an array of tables only the last one can still grow. -/
inductive Item
  | value (datum : Datum)
  | table (form : Form) (entries : List (String × Item))
  | tables (earlier : List (List (String × Item))) (last : List (String × Item))

/-- The entries of a table in written order. -/
abbrev Entries := List (String × Item)

/-- The item under a key. -/
def Entries.find? (key : String) (entries : Entries) : Option Item :=
  (List.find? (fun entry : String × Item => entry.1 == key) entries).map (·.2)

/-- Puts an item under a key, in the place of one that is there. -/
def Entries.put (key : String) (item : Item) : Entries → Entries
  | [] => [(key, item)]
  | entry :: rest =>
    if entry.1 == key then (key, item) :: rest else entry :: Entries.put key item rest

/-- Changes the table at the end of a path; `dotted` tells whether the path comes from a dotted key
or from a header.  Missing tables are made on the way.  A value blocks the way, and so does, for a
dotted key, a table with a header. -/
def descend (dotted : Bool) (change : Form → Entries → Option Entries) :
    List String → Form → Entries → Option Entries
  | [], form, entries => change form entries
  | key :: path, _, entries =>
    match entries.find? key with
    | none =>
      let form : Form := if dotted then .dotted else .implied
      (descend dotted change path form []).map fun inner => entries.put key (.table form inner)
    | some (.value _) => none
    | some (.tables earlier last) =>
      (descend dotted change path .header last).map fun inner =>
        entries.put key (.tables earlier inner)
    | some (.table form inner) =>
      if dotted && form == .header then none
      else (descend dotted change path form inner).map fun inner =>
        entries.put key (.table form inner)

/-- A key path: the tables on the way and the last key. -/
structure KeyPath where
  path : List String
  key : String

/-- Adds a key with a value to a table.  The key must be new, and a path to it must end at a table
that dotted keys made. -/
def addValue (k : KeyPath) (datum : Datum) (entries : Entries) : Option Entries :=
  let insert (form : Form) (entries : Entries) : Option Entries :=
    if !k.path.isEmpty && form != .dotted then none
    else if (entries.find? k.key).isSome then none
    else some (entries.put k.key (.value datum))
  descend true insert k.path .header entries

/-- Adds several keys one after the other. -/
def addValues (entries : Entries) (values : List (KeyPath × Datum)) : Option Entries :=
  values.foldlM (fun entries (k, datum) => addValue k datum entries) entries

/-- Adds the table of a header with its values.  The table must be new or implied. -/
def addTable (k : KeyPath) (values : List (KeyPath × Datum)) (root : Entries) : Option Entries :=
  let insert (_ : Form) (entries : Entries) : Option Entries := do
    let start ← match entries.find? k.key with
      | none => some []
      | some (.table .implied inner) => some inner
      | some _ => none
    return entries.put k.key (.table .header (← addValues start values))
  descend false insert k.path .header root

/-- Adds one more table to an array of tables. -/
def addElement (k : KeyPath) (values : List (KeyPath × Datum)) (root : Entries) : Option Entries :=
  let insert (_ : Form) (entries : Entries) : Option Entries := do
    let earlier ← match entries.find? k.key with
      | none => some []
      | some (.tables earlier last) => some (earlier ++ [last])
      | some _ => none
    return entries.put k.key (.tables earlier (← addValues [] values))
  descend false insert k.path .header root

mutual

/-- The datum of an item. -/
def Item.toDatum : Item → Datum
  | .value datum => datum
  | .table _ entries => .table (entriesData entries)
  | .tables earlier last => .list (tablesData earlier ++ [.table (entriesData last)])

/-- The entries of a table as data. -/
def entriesData : List (String × Item) → List (String × Datum)
  | [] => []
  | (key, item) :: rest => (key, item.toDatum) :: entriesData rest

/-- The tables of an array as data. -/
def tablesData : List (List (String × Item)) → List Datum
  | [] => []
  | entries :: rest => .table (entriesData entries) :: tablesData rest

end

end SlashCommands.Toml
