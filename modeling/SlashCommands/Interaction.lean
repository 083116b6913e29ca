import SlashCommands.CommandKind
import SlashCommands.OptionValue
import SlashCommands.Permission

/-!
# Interactions

What a member of a guild does with a command, and what is sent back.  The options of an interaction
are those of the subcommand it selects, if it selects one.
-/

namespace SlashCommands

/-- An option of an interaction; one that is being typed is focused. -/
structure SuppliedOption where
  name : String
  value : Option OptionValue
  focused : Bool

/-- An option with a value that is not being typed. -/
def SuppliedOption.ofValue (name : String) (value : OptionValue) : SuppliedOption :=
  ⟨name, some value, false⟩

/-- The same option while it is being typed. -/
def SuppliedOption.focus (o : SuppliedOption) : SuppliedOption :=
  { o with focused := true }

/-- A channel, by id and perhaps by name. -/
structure ChannelRef where
  id : String
  name : Option String
  deriving DecidableEq, Repr

/-- Holds if a restriction names the channel, by its id or its name. -/
def ChannelRef.isNamed (c : ChannelRef) (restriction : String) : Bool :=
  c.id == restriction || c.name == some restriction

/-- A role, by id and perhaps by name. -/
structure RoleRef where
  id : String
  name : Option String
  deriving DecidableEq, Repr

/-- Holds if a requirement names the role, by its id or its name. -/
def RoleRef.isNamed (r : RoleRef) (role : String) : Bool :=
  r.id == role || r.name == some role

/-- The member who invokes a command. -/
structure Member where
  userId : String
  permissions : Permissions
  roles : List RoleRef
  deriving DecidableEq, Repr

/-- Holds if the member has a role of that id or name. -/
def Member.hasRole (m : Member) (role : String) : Bool :=
  m.roles.any (·.isNamed role)

/-- An invocation of a command, or a request for suggestions while one is typed. -/
structure Interaction where
  id : String
  commandName : String
  commandKind : CommandKind
  subcommand : Option String
  options : List SuppliedOption
  channel : ChannelRef
  guildId : Option String
  member : Option Member

namespace Interaction

/-- The first option with a name. -/
def option? (i : Interaction) (name : String) : Option SuppliedOption :=
  i.options.find? (·.name == name)

/-- The first focused option. -/
def focused? (i : Interaction) : Option SuppliedOption :=
  i.options.find? (·.focused)

end Interaction

/-- A text to send back, to the whole channel or to the member alone. -/
structure Reply where
  content : String
  ephemeral : Bool
  deriving DecidableEq, Repr

/-- A suggestion: what is shown and what it stands for. -/
structure Suggestion where
  name : String
  value : String
  deriving DecidableEq, Repr

/-- The suggestion that stands for the text it shows. -/
def Suggestion.ofText (text : String) : Suggestion := ⟨text, text⟩

/-- The datum of a suggestion. -/
def Suggestion.toDatum (s : Suggestion) : Datum :=
  .table [("name", .text s.name), ("value", .text s.value)]

/-- What is sent back for an interaction. -/
inductive Message
  | reply (reply : Reply)
  | suggest (suggestions : List Suggestion)
  deriving DecidableEq, Repr

/-! ### Reading interactions -/

open Datum (fields? text? bool? unsigned? list?)

/-- Reads an option. -/
def SuppliedOption.ofDatum? (d : Datum) : Option SuppliedOption := do
  let f ← fields? .json ["name", "value", "focused"] d
  let name ← f.required "name" text?
  let value ← f.optional "value" OptionValue.ofDatum?
  let focused ← f.withDefault "focused" false bool?
  return ⟨name, value, focused⟩

/-- Reads a channel. -/
def ChannelRef.ofDatum? (d : Datum) : Option ChannelRef := do
  let f ← fields? .json ["id", "name"] d
  return ⟨← f.required "id" text?, ← f.optional "name" text?⟩

/-- Reads a role. -/
def RoleRef.ofDatum? (d : Datum) : Option RoleRef := do
  let f ← fields? .json ["id", "name"] d
  return ⟨← f.required "id" text?, ← f.optional "name" text?⟩

/-- Reads a mask of permissions. -/
def Permissions.ofDatum? (d : Datum) : Option Permissions :=
  (unsigned? 64 d).map fun n => ⟨n.toUInt64⟩

/-- Reads a member. -/
def Member.ofDatum? (d : Datum) : Option Member := do
  let f ← fields? .json ["user_id", "permissions", "roles"] d
  let userId ← f.required "user_id" text?
  let permissions ← f.required "permissions" Permissions.ofDatum?
  let roles ← f.required "roles" (list? RoleRef.ofDatum?)
  return ⟨userId, permissions, roles⟩

/-- Reads an interaction. -/
def Interaction.ofDatum? (d : Datum) : Option Interaction := do
  let f ← fields? .json ["id", "command_name", "command_kind", "subcommand", "options", "channel",
    "guild_id", "member"] d
  let id ← f.required "id" text?
  let commandName ← f.required "command_name" text?
  let commandKind ← f.required "command_kind" (CommandKind.ofDatum? .json)
  let subcommand ← f.optional "subcommand" text?
  let options ← f.required "options" (list? SuppliedOption.ofDatum?)
  let channel ← f.required "channel" ChannelRef.ofDatum?
  let guildId ← f.optional "guild_id" text?
  let member ← f.optional "member" Member.ofDatum?
  return ⟨id, commandName, commandKind, subcommand, options, channel, guildId, member⟩

end SlashCommands
