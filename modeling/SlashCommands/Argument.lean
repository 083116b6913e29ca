import SlashCommands.Datum.Record
import SlashCommands.Keyed
import SlashCommands.Pattern.Token

/-!
# Arguments

The arguments of a command stand at top level or in one of its subcommands.  A `Key` names an
argument together with that scope; `Node` is an element of a command's list of arguments.
-/

namespace SlashCommands

/-- An argument's name together with the subcommand it belongs to, if it belongs to one. -/
structure Key where
  scope : Option String
  name : String
  deriving DecidableEq, Repr

namespace Key

/-- Keys are ordered by scope, no scope first, and then by name. -/
instance : Ord Key where
  compare := compareLex (compareOn Key.scope) (compareOn Key.name)

instance : Std.TransOrd Key :=
  inferInstanceAs (Std.TransCmp (compareLex (compareOn Key.scope) (compareOn Key.name)))

instance : Std.LawfulEqOrd Key where
  compare_self := Std.ReflCmp.compare_self
  eq_of_compare {a b} h := by
    have h' : (compareOn Key.scope a b).then (compareOn Key.name a b) = .eq := h
    obtain ⟨h1, h2⟩ := Ordering.then_eq_eq.mp h'
    cases a; cases b
    simp only [compareOn] at h1 h2
    rw [Std.LawfulEqCmp.eq_of_compare h1, Std.LawfulEqCmp.eq_of_compare h2]

/-- The text of a key. -/
def display (key : Key) : String :=
  match key.scope with
  | some scope => scope ++ ":" ++ key.name
  | none => key.name

end Key

/-- A declared argument or flag. -/
structure Entry where
  kind : TokenKind
  datatype : String
  optional : Bool
  name : String
  description : String
  flag : Option String
  min : Option Float
  max : Option Float

/-- The kind of option that an argument becomes. -/
def Entry.optionKind (e : Entry) : OptionKind :=
  .ofDatatype e.datatype

/-- Holds of flags. -/
def Entry.isFlag (e : Entry) : Bool :=
  e.kind == .flag

/-- A subcommand with its arguments. -/
structure Subcommand where
  name : String
  description : String
  entries : List Entry

/-- An element of a command's list of arguments. -/
inductive Node
  | argument (entry : Entry)
  | subcommand (sub : Subcommand)

/-- The name of a node. -/
def Node.name : Node → String
  | .argument entry => entry.name
  | .subcommand sub => sub.name

/-- The arguments of a node with their scope. -/
def Node.entries : Node → List (Option String × Entry)
  | .argument entry => [(none, entry)]
  | .subcommand sub => sub.entries.map (some sub.name, ·)

/-- All arguments of a list of nodes with their scopes, in order. -/
def Node.walk (nodes : List Node) : List (Option String × Entry) :=
  nodes.flatMap Node.entries

/-! ### Reading nodes -/

open Datum (Fields fields? text? bool? float? list? choice? isNull isEmptyTable)

/-- The field names of an argument in order. -/
def Entry.fieldNames : List String :=
  ["kind", "datatype", "optional", "name", "description", "flag", "min", "max"]

/-- Reads an argument from its fields. -/
def Entry.ofFields? (f : Fields) : Option Entry := do
  let kind ← f.required "kind" (choice? (fun d => isNull d || isEmptyTable d) TokenKind.named?)
  let datatype ← f.required "datatype" text?
  let optional ← f.required "optional" bool?
  let name ← f.required "name" text?
  let description ← f.required "description" text?
  let flag ← f.optional "flag" text?
  let min ← f.optional "min" float?
  let max ← f.optional "max" float?
  return ⟨kind, datatype, optional, name, description, flag, min, max⟩

/-- Reads an argument. -/
def Entry.ofDatum? (d : Datum) : Option Entry :=
  (fields? .json Entry.fieldNames d).bind Entry.ofFields?

/-- Reads a subcommand. -/
def Subcommand.ofDatum? (d : Datum) : Option Subcommand := do
  let f ← fields? .json ["name", "description", "subarguments"] d
  let name ← f.required "name" text?
  let description ← f.required "description" text?
  let entries ← f.required "subarguments" (list? Entry.ofDatum?)
  return ⟨name, description, entries⟩

/-- Takes the tag off a tagged record: the field `type` of a table, the first item of a list. -/
def takeTag? : Datum → Option (String × Datum)
  | .table entries =>
    match entries.filter (·.1 == "type") with
    | [(_, .text tag)] => some (tag, .table (entries.filter (·.1 != "type")))
    | _ => none
  | .list (.text tag :: items) => some (tag, .list items)
  | _ => none

/-- Reads a node by its tag. -/
def Node.ofDatum? (d : Datum) : Option Node := do
  match ← takeTag? d with
  | ("argument", rest) => (Entry.ofDatum? rest).map .argument
  | ("command", rest) => (Subcommand.ofDatum? rest).map .subcommand
  | _ => none

end SlashCommands
