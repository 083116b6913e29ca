import SlashCommands.Interaction
import SlashCommands.Keyed

/-!
# Role names

Interactions carry the ids of a member's roles, while requirements usually name them.  `RoleNames`
keeps the listings of guilds that a directory has given; a listing stays until its guild is
forgotten.  A lookup is made of steps: `lookup?` finds a kept listing, and otherwise the directory
is asked and `receive` keeps its answer.
-/

namespace SlashCommands

/-- The names of a guild's roles by id. -/
abbrev RoleListing := Keyed String String

/-- The kept listings by guild. -/
structure RoleNames where
  guilds : Keyed String RoleListing

/-- Asks for the listing of a guild. -/
abbrev RoleDirectory (μ : Type → Type) := String → μ (Except String RoleListing)

namespace RoleNames

/-- No listings. -/
def empty : RoleNames := ⟨.empty⟩

/-- The kept listing of a guild. -/
def lookup? (r : RoleNames) (guild : String) : Option RoleListing :=
  r.guilds.get? guild

/-- Keeps a listing that the directory gave; a failure changes nothing. -/
def receive (r : RoleNames) (guild : String) : Except String RoleListing → RoleNames
  | .ok listing => ⟨r.guilds.insert guild listing⟩
  | .error _ => r

/-- Drops the listing of a guild. -/
def forget (r : RoleNames) (guild : String) : RoleNames :=
  ⟨r.guilds.erase guild⟩

@[simp]
theorem receive_error (r : RoleNames) (guild message : String) :
    r.receive guild (.error message) = r := rfl

/-- An answer takes the place of what was kept of its guild, unless it is a failure. -/
theorem lookup?_receive (r : RoleNames) (guild other : String)
    (answer : Except String RoleListing) :
    (r.receive guild answer).lookup? other =
      if other = guild then answer.toOption.or (r.lookup? other) else r.lookup? other := by
  cases answer with
  | ok listing => exact Keyed.get?_insert r.guilds guild other listing
  | error message => exact (ite_self _).symm

theorem lookup?_forget (r : RoleNames) (guild other : String) :
    (r.forget guild).lookup? other = if other = guild then none else r.lookup? other :=
  Keyed.get?_erase r.guilds guild other

variable {μ : Type → Type} [Monad μ]

/-- The listing of a guild; the directory is asked if none is kept. -/
def namesFor (r : RoleNames) (directory : RoleDirectory μ) (guild : String) :
    μ (Except String RoleListing × RoleNames) := do
  match r.lookup? guild with
  | some listing => return (.ok listing, r)
  | none =>
    let answer ← directory guild
    return (answer, r.receive guild answer)

end RoleNames

/-- The role with its name in a listing, if it has none yet. -/
def RoleRef.nameFrom (listing : RoleListing) (role : RoleRef) : RoleRef :=
  { role with name := role.name.or (listing.get? role.id) }

/-- The member with the names of a listing. -/
def Member.nameRoles (listing : RoleListing) (m : Member) : Member :=
  { m with roles := m.roles.map (RoleRef.nameFrom listing) }

/-- The interaction with the names of a listing. -/
def Interaction.nameRoles (listing : RoleListing) (i : Interaction) : Interaction :=
  { i with member := i.member.map (Member.nameRoles listing) }

/-- Fills in the names of the member's roles.  Without a guild, a member or a listing, nothing
changes. -/
def RoleNames.resolve {μ : Type → Type} [Monad μ] (r : RoleNames) (directory : RoleDirectory μ)
    (i : Interaction) : μ (Interaction × RoleNames) := do
  match i.guildId, i.member with
  | some guild, some _ =>
    match ← r.namesFor directory guild with
    | (.ok listing, r) => return (i.nameRoles listing, r)
    | (.error _, r) => return (i, r)
  | _, _ => return (i, r)

end SlashCommands
