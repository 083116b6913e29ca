import SlashCommands.Definition

/-!
# The schema of a definition

Each argument becomes an option and each subcommand an option with options.  Required options come
first at both levels, in declared order otherwise.  A command of a context menu has neither a
description nor options.  Required permissions are published as one mask.
-/

namespace SlashCommands

open Decimal (Double)

/-- The nearest signed 64-bit integer to a whole number. -/
def saturate (n : Int) : Int64 :=
  if n < Int64.minValue.toInt then Int64.minValue
  else if Int64.maxValue.toInt < n then Int64.maxValue
  else Int64.ofInt n

/-- A bound of an option: an integer if the option takes integers and the bound is whole. -/
def SchemaValue.ofBound (kind : OptionKind) (bound : Float) : SchemaValue :=
  match kind, (Double.view bound).toInt? with
  | .integer, some n => .integer (saturate n)
  | _, _ => .number bound

/-- The value of a choice: a number if the option takes numbers and the text spells one. -/
def SchemaValue.ofChoice (kind : OptionKind) (choice : String) : SchemaValue :=
  match kind with
  | .integer =>
    match Text.readSigned choice with
    | .ok n => .integer n
    | .error _ => .text choice
  | .number =>
    match Decimal.readFloat? choice with
    | some x => .number x
    | none => .text choice
  | _ => .text choice

/-- The description of an argument's option.  Without a description of its own a flag is described
by its text, and anything else by its name. -/
def Entry.shownDescription (e : Entry) : String :=
  if e.description.isEmpty then
    match e.flag with
    | some text => if text.isEmpty then e.name else text
    | none => e.name
  else e.description

/-- Puts the elements that satisfy `p` first and keeps the order otherwise. -/
def stablePartition {α : Type} (p : α → Bool) (xs : List α) : List α :=
  xs.filter p ++ xs.filter (!p ·)

namespace Definition

/-- The bounds of an option, which only options that take numbers have. -/
def bound? (kind : OptionKind) (bound : Option Float) : Option SchemaValue :=
  if kind.isNumeric then bound.map (SchemaValue.ofBound kind) else none

/-- The option of an argument in a scope. -/
def argumentSchema (d : Definition) (scope : Option String) (e : Entry) : ArgumentSchema :=
  let kind := e.optionKind
  let key : Key := ⟨scope, e.name⟩
  { type := kind.code
    name := e.name
    description := e.shownDescription
    required := !e.optional
    choices := ((d.choices.get? key).getD []).map fun c => ⟨c, .ofChoice kind c⟩
    autocomplete := d.completers.contains key
    minValue := bound? kind e.min
    maxValue := bound? kind e.max }

/-- The option of a node. -/
def optionSchema (d : Definition) : Node → OptionSchema
  | .argument e => .argument (d.argumentSchema none e)
  | .subcommand s =>
    .subcommand s.name s.description
      (stablePartition (·.required) (s.entries.map (d.argumentSchema (some s.name))))

/-- The permissions that a command requires, in order. -/
def requiredPermissions (d : Definition) : List Permission :=
  d.requires.filterMap fun
    | .permission p => some p
    | .role _ => none

/-- The schema of a command. -/
def schema (d : Definition) : CommandSchema :=
  { name := d.name
    type := d.kind.code
    description := if d.kind.isContextMenu then none else some d.description
    options :=
      if d.kind.isContextMenu then []
      else stablePartition (·.required) (d.nodes.map d.optionSchema)
    permissions := Permissions.maskOf d.requiredPermissions }

end Definition

end SlashCommands
