import SlashCommands.Schema.OfDefinition

/-!
# The registry

The platform stores the schemas of commands, globally and for each guild.  What is to be done to
that store is a list of operations; `perform` carries one out until one fails.
-/

namespace SlashCommands

/-- One operation on the registry. -/
inductive Operation
  | clearGlobal
  | clearGuild (guild : String)
  | createGlobal (schema : CommandSchema)
  | createGuild (guild : String) (schema : CommandSchema)

namespace Operation

/-- What is reported when the operation fails. -/
def failure : Operation → String
  | .clearGlobal => "failed to clear global commands"
  | .clearGuild guild => s!"failed to clear commands of guild {guild}"
  | .createGlobal schema =>
    let name := schema.name
    s!"failed to publish /{name}"
  | .createGuild guild schema =>
    let name := schema.name
    s!"failed to publish /{name} to guild {guild}"

/-- The datum of an operation; its name comes first. -/
def toDatum : Operation → Datum
  | .clearGlobal => .table [("op", .text "clear_global")]
  | .clearGuild guild => .table [("op", .text "clear_guild"), ("guild_id", .text guild)]
  | .createGlobal schema => .table [("op", .text "create_global"), ("schema", schema.toDatum)]
  | .createGuild guild schema =>
    .table [("op", .text "create_guild"), ("guild_id", .text guild), ("schema", schema.toDatum)]

end Operation

/-- An operation that failed, and why. -/
structure RegistryFailure where
  operation : Operation
  cause : String

/-- The wording of a failure. -/
def RegistryFailure.message (f : RegistryFailure) : String :=
  f.operation.failure ++ ": " ++ f.cause

/-- Carries out an operation and tells why it failed, if it did. -/
abbrev Registry (m : Type → Type) := Operation → m (Except String Unit)

namespace Registry

variable {m : Type → Type} [Monad m]

/-- Carries out operations up to the first that fails. -/
def perform (registry : Registry m) : List Operation → m (Except RegistryFailure Unit)
  | [] => pure (.ok ())
  | op :: rest => do
    match ← registry op with
    | .ok () => perform registry rest
    | .error cause => return .error ⟨op, cause⟩

/-- The registry that accepts everything and remembers it. -/
def recording : Registry (StateM (List Operation)) :=
  fun op => do
    modify (· ++ [op])
    return .ok ()

end Registry

end SlashCommands
