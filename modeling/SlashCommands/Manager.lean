import SlashCommands.Draft
import SlashCommands.Gate
import SlashCommands.Registry

/-!
# The command manager

The manager keeps the definitions by name, publishes them to the registry and serves the
interactions that come back.  Publishing is planned as a list of operations: `resetPlan` empties
every scope a definition lives in, `publishPlan` registers the definitions in the order of their
names.  Serving is a conversation; it reads the kept definitions once, at its start.
-/

namespace SlashCommands

/-- The kept definitions by name. -/
abbrev Cache := Keyed String Definition

namespace Cache

/-- The definitions in the order of their command names. -/
def sorted (c : Cache) : List Definition :=
  c.values.mergeSort fun a b => (compare a.name b.name).isLE

/-- The cache of definitions, each under its command name; the last of a name stays. -/
def ofDefinitions (definitions : List Definition) : Cache :=
  .ofList (definitions.map fun d => (d.name, d))

/-- The guilds that some definition is scoped to. -/
def guilds (c : Cache) : List String :=
  (NameSet.ofNames (c.values.flatMap (·.guilds.keys))).keys

end Cache

/-- The greatest number of suggestions that the platform takes at once. -/
def maxSuggestions : Nat := 25

/-- The reply to a denied invocation unless another is set. -/
def defaultDenialMessage : String := "You do not have permission to use this command."

/-- What can be set for a manager. -/
structure ManagerSettings where
  denialMessage : String := defaultDenialMessage
  maxSuggestions : Nat := maxSuggestions
  deriving DecidableEq, Repr

/-- The kept definitions and the settings. -/
structure Manager where
  settings : ManagerSettings
  cache : Cache

/-- What publishing did. -/
structure PublishReport where
  global : Nat
  guild : Nat
  clearedGuilds : Nat
  deriving DecidableEq, Repr

/-- How serving an invocation ended. -/
inductive DispatchOutcome
  | ignored
  | denied (denial : Denial)
  | completed
  | actionFailed
  deriving DecidableEq, Repr

/-- How serving a request for suggestions ended. -/
inductive CompletionOutcome
  | ignored
  | suggested (count : Nat)
  deriving DecidableEq, Repr

namespace Definition

/-- The operations that register a definition: in each of its guilds, or globally if it has none. -/
def publishPlan (d : Definition) : List Operation :=
  if d.guilds.isEmpty then [.createGlobal d.schema]
  else d.guilds.keys.map fun guild => .createGuild guild d.schema

/-- The definition with its schema. -/
def attachSchema (d : Definition) : Definition :=
  { d with published := some d.schema }

end Definition

namespace Cache

/-- The operations that empty the global scope and every guild of a definition. -/
def resetPlan (c : Cache) : List Operation :=
  .clearGlobal :: c.guilds.map .clearGuild

/-- The operations that register every definition. -/
def publishPlan (c : Cache) : List Operation :=
  c.sorted.flatMap Definition.publishPlan

/-- The cache after publishing: every definition with its schema, under its command name. -/
def published (c : Cache) : Cache :=
  ofDefinitions (c.sorted.map Definition.attachSchema)

/-- How many registrations publishing takes, globally and in guilds. -/
def publishReport (c : Cache) : PublishReport :=
  { global := (c.values.filter (·.guilds.isEmpty)).length
    guild := (c.values.flatMap (·.guilds.keys)).length
    clearedGuilds := 0 }

end Cache

namespace Manager

/-- A manager without definitions. -/
def new (settings : ManagerSettings) : Manager := ⟨settings, .empty⟩

/-- Keeps a definition under its command name. -/
def add (m : Manager) (d : Definition) : Manager :=
  { m with cache := m.cache.insert d.name d }

/-- Keeps definitions one after the other. -/
def addAll (m : Manager) (definitions : List Definition) : Manager :=
  definitions.foldl add m

variable {μ : Type → Type} [Monad μ]

/-- Empties the scopes in the registry and tells how many guilds that were. -/
def reset (m : Manager) (registry : Registry μ) : μ (Except RegistryFailure Nat) := do
  match ← registry.perform m.cache.resetPlan with
  | .ok () => return .ok m.cache.guilds.length
  | .error failure => return .error failure

/-- Registers all definitions.  The schemas are attached once every operation has succeeded. -/
def publish (m : Manager) (registry : Registry μ) :
    μ (Except RegistryFailure PublishReport × Manager) := do
  match ← registry.perform m.cache.publishPlan with
  | .ok () => return (.ok m.cache.publishReport, { m with cache := m.cache.published })
  | .error failure => return (.error failure, m)

/-- Empties the scopes and then registers all definitions. -/
def republish (m : Manager) (registry : Registry μ) :
    μ (Except RegistryFailure PublishReport × Manager) := do
  match ← m.reset registry with
  | .error failure => return (.error failure, m)
  | .ok cleared =>
    let (result, m) ← m.publish registry
    return (result.map fun report => { report with clearedGuilds := cleared }, m)

/-! ### Serving -/

/-- Serves an invocation with a definition: denies it, or starts the action. -/
def serve (settings : ManagerSettings) (d : Definition) (i : Interaction) :
    Conversation DispatchOutcome :=
  match d.denial? i with
  | some denial =>
    .send (.reply ⟨settings.denialMessage, true⟩) fun _ => .finish (.denied denial)
  | none =>
    let invocation : Invocation :=
      ⟨d.toSignature, i, .ofInteraction d.nodes d.defaults i⟩
    .mark (.started invocation) do
      match ← d.action invocation with
      | .ok () => return .completed
      | .error _ => return .actionFailed

/-- Serves an invocation. -/
def dispatch (m : Manager) (i : Interaction) : Conversation DispatchOutcome :=
  match m.cache.get? i.commandName with
  | none => .finish .ignored
  | some d => serve m.settings d i

/-- The option to complete: the focused one if it has a completer, else the first that has one. -/
def completionTarget? (d : Definition) (i : Interaction) : Option (SuppliedOption × Completer) :=
  let withCompleter (o : SuppliedOption) : Option (SuppliedOption × Completer) :=
    (d.completers.get? ⟨i.subcommand, o.name⟩).map (o, ·)
  (i.focused?.bind withCompleter).or (i.options.findSome? withCompleter)

/-- Serves a request for suggestions with a definition.  If the completer fails, no suggestions are
sent. -/
def suggest (settings : ManagerSettings) (d : Definition) (i : Interaction) :
    Conversation CompletionOutcome :=
  match completionTarget? d i with
  | none => .finish .ignored
  | some (option, completer) =>
    .mark (.consulted ⟨i.subcommand, option.name⟩ option) do
      let texts := match ← (completer option i).converse with
        | .ok texts => texts
        | .error _ => []
      let suggestions := (texts.take settings.maxSuggestions).map Suggestion.ofText
      .send (.suggest suggestions) fun _ => .finish (.suggested suggestions.length)

/-- Serves a request for suggestions. -/
def autocomplete (m : Manager) (i : Interaction) : Conversation CompletionOutcome :=
  match m.cache.get? i.commandName with
  | none => .finish .ignored
  | some d => suggest m.settings d i

end Manager

end SlashCommands
