import SlashCommands.Hub
import SlashCommands.RoleNames
import SlashCommands.Text.Integer

/-!
# Payloads

The platform delivers an interaction as a payload: options nested in the subcommand they belong to,
roles by id, permissions as decimal text.  `Payload.toInteraction` brings it into the form that
commands are served in, or tells what is wrong with it.
-/

namespace SlashCommands

/-- An option of a payload; a subcommand or a group of subcommands has options of its own. -/
structure PayloadOption where
  name : String
  type : Nat
  value : Option OptionValue
  options : List PayloadOption
  focused : Bool

namespace PayloadOption

/-- The type of a subcommand. -/
def subcommandType : Nat := 1

/-- The type of a group of subcommands. -/
def groupType : Nat := 2

/-- Holds of subcommands. -/
def isSubcommand (o : PayloadOption) : Bool := o.type == subcommandType

/-- Holds of groups of subcommands. -/
def isGroup (o : PayloadOption) : Bool := o.type == groupType

/-- The option without what it holds. -/
def toSupplied (o : PayloadOption) : SuppliedOption :=
  ⟨o.name, o.value, o.focused⟩

/-- The invoked subcommand and its options.  The first subcommand or group is taken, of a group the
first subcommand; without either, the options are the command's own. -/
def flatten (options : List PayloadOption) : Option String × List SuppliedOption :=
  match options.find? fun o => o.isSubcommand || o.isGroup with
  | none => (none, options.map toSupplied)
  | some selected =>
    if selected.isGroup then
      match selected.options.find? isSubcommand with
      | some inner => (some inner.name, inner.options.map toSupplied)
      | none => (none, [])
    else (some selected.name, selected.options.map toSupplied)

end PayloadOption

/-- What a payload says about the command. -/
structure PayloadData where
  name : String
  type : Option Nat
  options : List PayloadOption

/-- The member in a payload. -/
structure PayloadMember where
  userId : Option String
  roles : List String
  permissions : Option String

/-- An interaction as the platform delivers it. -/
structure Payload where
  id : String
  token : String
  type : Nat
  data : Option PayloadData
  guildId : Option String
  channelId : Option String
  channel : Option ChannelRef
  member : Option PayloadMember

/-- What can be wrong with a payload. -/
inductive PayloadFault
  | unsupportedType (type : Nat)
  | noData (id : String)
  | unknownCommandType (code : Nat)
  | noChannel (id : String)
  | permissions (bits : String) (fault : Text.IntegerFault)
  deriving DecidableEq, Repr

/-- The wording of a fault. -/
def PayloadFault.message : PayloadFault → String
  | .unsupportedType type => s!"unsupported interaction type {type}"
  | .noData id => s!"interaction {id} carries no command data"
  | .unknownCommandType code => s!"unknown command type {code}"
  | .noChannel id => s!"interaction {id} has no channel"
  | .permissions bits fault => s!"invalid permission bitfield '{bits}': " ++ fault.message

namespace PayloadMember

/-- The mask of permissions, which is empty if the payload has none. -/
def permissionMask (m : PayloadMember) : Except PayloadFault Permissions :=
  match m.permissions with
  | none => .ok .empty
  | some bits =>
    match Text.readUnsigned bits with
    | .ok n => .ok ⟨n⟩
    | .error fault => .error (.permissions bits fault)

/-- The member with the roles by id. -/
def toMember (m : PayloadMember) : Except PayloadFault Member := do
  return ⟨m.userId.getD "", ← m.permissionMask, m.roles.map (⟨·, none⟩)⟩

end PayloadMember

namespace Payload

/-- The type of an invocation. -/
def commandType : Nat := 2

/-- The type of a request for suggestions. -/
def autocompleteType : Nat := 4

/-- What a payload announces, if it announces a kind that is served. -/
def eventKind? (p : Payload) : Option EventKind :=
  if p.type = commandType then some .command
  else if p.type = autocompleteType then some .autocomplete
  else none

/-- The kind of the command; without a type it is typed into the chat. -/
def commandKind (data : PayloadData) : Except PayloadFault CommandKind :=
  match data.type with
  | none => .ok .chatInput
  | some code =>
    match CommandKind.ofCode? code with
    | some kind => .ok kind
    | none => .error (.unknownCommandType code)

/-- The channel, if only by its id. -/
def channelRef (p : Payload) : Except PayloadFault ChannelRef :=
  match p.channel, p.channelId with
  | some channel, _ => .ok channel
  | none, some id => .ok ⟨id, none⟩
  | none, none => .error (.noChannel p.id)

/-- The interaction that a payload carries. -/
def toInteraction (p : Payload) : Except PayloadFault Interaction := do
  match p.data with
  | none => .error (.noData p.id)
  | some data =>
    let kind ← commandKind data
    let (subcommand, options) := PayloadOption.flatten data.options
    let channel ← p.channelRef
    let member ← p.member.mapM PayloadMember.toMember
    return ⟨p.id, data.name, kind, subcommand, options, channel, p.guildId, member⟩

/-- What a payload announces, with its interaction. -/
def toEvent (p : Payload) : Except PayloadFault (EventKind × Interaction) :=
  match p.eventKind? with
  | none => .error (.unsupportedType p.type)
  | some kind => p.toInteraction.map (kind, ·)

/-- What a payload announces, with the names of the member's roles filled in. -/
def toEventWithRoles {μ : Type → Type} [Monad μ] (p : Payload) (roles : RoleNames)
    (directory : RoleDirectory μ) :
    μ (Except PayloadFault (EventKind × Interaction) × RoleNames) := do
  match p.toEvent with
  | .error fault => return (.error fault, roles)
  | .ok (kind, i) =>
    let (i, roles) ← roles.resolve directory i
    return (.ok (kind, i), roles)

/-- A computation in two steps ends well if both do. -/
theorem exists_of_bind_eq_ok {ε α β : Type} {first : Except ε α} {next : α → Except ε β}
    {result : β} (h : first >>= next = .ok result) :
    ∃ between, first = .ok between ∧ next between = .ok result := by
  cases first with
  | error fault => cases h
  | ok between => exact ⟨between, rfl, h⟩

/-- A payload is brought into an interaction part by part. -/
theorem toInteraction_eq_ok_iff {p : Payload} {i : Interaction} :
    p.toInteraction = .ok i ↔
      ∃ data kind channel member, p.data = some data ∧ commandKind data = .ok kind ∧
        p.channelRef = .ok channel ∧ p.member.mapM PayloadMember.toMember = .ok member ∧
        i = ⟨p.id, data.name, kind, (PayloadOption.flatten data.options).1,
          (PayloadOption.flatten data.options).2, channel, p.guildId, member⟩ := by
  rw [toInteraction]
  constructor
  · intro h
    cases hdata : p.data with
    | none =>
      rw [hdata] at h
      cases h
    | some data =>
      rw [hdata] at h
      obtain ⟨kind, hkind, h⟩ := exists_of_bind_eq_ok h
      obtain ⟨channel, hchannel, h⟩ := exists_of_bind_eq_ok h
      obtain ⟨member, hmember, h⟩ := exists_of_bind_eq_ok h
      exact ⟨data, kind, channel, member, rfl, hkind, hchannel, hmember, (Except.ok.inj h).symm⟩
  · rintro ⟨data, kind, channel, member, hdata, hkind, hchannel, hmember, rfl⟩
    rw [hdata]
    dsimp only
    rw [hkind, hchannel, hmember]
    rfl

end Payload

/-! ### Reading payloads -/

open Datum (fields? text? bool? unsigned? list?)

/-- Reads an option whose nesting is at most `fuel`. -/
def PayloadOption.ofDatumWithin? (fuel : Nat) (d : Datum) : Option PayloadOption :=
  match fuel with
  | 0 => none
  | fuel + 1 => do
    let f ← fields? .json ["name", "type", "value", "options", "focused"] d
    let name ← f.required "name" text?
    let type ← f.required "type" (unsigned? 8)
    let value ← f.optionalLast "value" OptionValue.ofDatum?
    let options ← f.withDefault "options" [] (list? (ofDatumWithin? fuel))
    let focused ← f.withDefault "focused" false bool?
    return ⟨name, type, value, options, focused⟩

/-- Reads an option. -/
def PayloadOption.ofDatum? (d : Datum) : Option PayloadOption :=
  PayloadOption.ofDatumWithin? (d.depth + 1) d

/-- Reads what a payload says about the command. -/
def PayloadData.ofDatum? (d : Datum) : Option PayloadData := do
  let f ← fields? .json ["name", "type", "options"] d
  let name ← f.required "name" text?
  let type ← f.optionalLast "type" (unsigned? 8)
  let options ← f.withDefault "options" [] (list? PayloadOption.ofDatum?)
  return ⟨name, type, options⟩

/-- Reads the channel of a payload; from a list too, its name may be missing. -/
def Payload.channelOfDatum? (d : Datum) : Option ChannelRef := do
  let f ← fields? .json ["id", "name"] d
  return ⟨← f.required "id" text?, ← f.optionalLast "name" text?⟩

/-- Reads the id of a user. -/
def Payload.userOfDatum? (d : Datum) : Option String := do
  let f ← fields? .json ["id"] d
  f.required "id" text?

/-- Reads the member of a payload. -/
def PayloadMember.ofDatum? (d : Datum) : Option PayloadMember := do
  let f ← fields? .json ["user", "roles", "permissions"] d
  let userId ← f.optionalLast "user" Payload.userOfDatum?
  let roles ← f.withDefault "roles" [] (list? text?)
  let permissions ← f.optionalLast "permissions" text?
  return ⟨userId, roles, permissions⟩

/-- Reads a payload. -/
def Payload.ofDatum? (d : Datum) : Option Payload := do
  let f ← fields? .json ["id", "token", "type", "data", "guild_id", "channel_id", "channel",
    "member"] d
  let id ← f.required "id" text?
  let token ← f.required "token" text?
  let type ← f.required "type" (unsigned? 8)
  let data ← f.optionalLast "data" PayloadData.ofDatum?
  let guildId ← f.optionalLast "guild_id" text?
  let channelId ← f.optionalLast "channel_id" text?
  let channel ← f.optionalLast "channel" Payload.channelOfDatum?
  let member ← f.optionalLast "member" PayloadMember.ofDatum?
  return ⟨id, token, type, data, guildId, channelId, channel, member⟩

end SlashCommands
