import SlashCommands.Datum
import SlashCommands.Decimal.Dyadic

/-!
# Schemas

The description of a command that the platform stores.  It has the arguments and the subcommands as
options; subcommands have options of their own and options nest no deeper.
-/

namespace SlashCommands

/-- A value in a schema. -/
inductive SchemaValue
  | text (s : String)
  | integer (n : Int64)
  | number (x : Float)

/-- A choice offered for an option. -/
structure ChoiceSchema where
  name : String
  value : SchemaValue

/-- The option of an argument. -/
structure ArgumentSchema where
  type : Nat
  name : String
  description : String
  required : Bool
  choices : List ChoiceSchema
  autocomplete : Bool
  minValue : Option SchemaValue
  maxValue : Option SchemaValue

/-- An option of a command. -/
inductive OptionSchema
  | argument (a : ArgumentSchema)
  | subcommand (name description : String) (options : List ArgumentSchema)

/-- Holds of the options that must be supplied. -/
def OptionSchema.required : OptionSchema → Bool
  | .argument a => a.required
  | .subcommand .. => false

/-- The schema of a command. -/
structure CommandSchema where
  name : String
  type : Nat
  description : Option String
  options : List OptionSchema
  permissions : UInt64

/-! ### Data of schemas

The keys of a table stand in alphabetical order.  Lists without items, flags that do not hold and
absent values are left out. -/

namespace Schema

/-- The number of the options that stand for subcommands. -/
def subcommandType : Nat := 1

/-- An entry that is there if a condition holds. -/
def entryIf (condition : Bool) (key : String) (value : Datum) : List (String × Datum) :=
  if condition then [(key, value)] else []

/-- An entry that is there if it has a value. -/
def entryOf {α : Type} (value : Option α) (key : String) (datum : α → Datum) :
    List (String × Datum) :=
  match value with
  | some value => [(key, datum value)]
  | none => []

end Schema

/-- The datum of a value; a double that is no number has none. -/
def SchemaValue.toDatum : SchemaValue → Datum
  | .text s => .text s
  | .integer n => .int n.toInt
  | .number x => if (Decimal.Double.view x).isFinite then .float x else .null

/-- The datum of a choice. -/
def ChoiceSchema.toDatum (c : ChoiceSchema) : Datum :=
  .table [("name", .text c.name), ("value", c.value.toDatum)]

open Schema (entryIf entryOf)

/-- The datum of an argument's option. -/
def ArgumentSchema.toDatum (a : ArgumentSchema) : Datum :=
  .table (entryIf a.autocomplete "autocomplete" (.bool true)
    ++ entryIf (!a.choices.isEmpty) "choices" (.list (a.choices.map ChoiceSchema.toDatum))
    ++ [("description", .text a.description)]
    ++ entryOf a.maxValue "max_value" SchemaValue.toDatum
    ++ entryOf a.minValue "min_value" SchemaValue.toDatum
    ++ [("name", .text a.name)]
    ++ entryIf a.required "required" (.bool true)
    ++ [("type", .int a.type)])

/-- The datum of an option. -/
def OptionSchema.toDatum : OptionSchema → Datum
  | .argument a => a.toDatum
  | .subcommand name description options =>
    .table ([("description", .text description), ("name", .text name)]
      ++ entryIf (!options.isEmpty) "options" (.list (options.map ArgumentSchema.toDatum))
      ++ [("type", .int Schema.subcommandType)])

/-- The datum of a command's schema. -/
def CommandSchema.toDatum (s : CommandSchema) : Datum :=
  .table (entryIf (s.permissions != 0) "default_member_permissions"
      (.text (toString s.permissions.toNat))
    ++ entryOf s.description "description" .text
    ++ [("name", .text s.name)]
    ++ entryIf (!s.options.isEmpty) "options" (.list (s.options.map OptionSchema.toDatum))
    ++ [("type", .int s.type)])

end SlashCommands
