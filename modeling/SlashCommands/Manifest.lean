import SlashCommands.Draft
import SlashCommands.Toml.Codec

/-!
# Manifests

A manifest declares commands as data.  Every command is compiled to calls on a draft, so that the
same checks apply to it as to one that is declared call by call.
-/

namespace SlashCommands

/-- A subcommand in a manifest. -/
structure SubcommandManifest where
  name : String
  description : String

/-- The arguments of one pattern in a manifest. -/
structure ArgumentManifest where
  pattern : String
  description : String
  choices : Option (List String)
  autocomplete : Option (List String)
  default : Option OptionValue
  min : Option Float
  max : Option Float

/-- A command in a manifest. -/
structure CommandManifest where
  name : String
  description : String
  kind : Option CommandKind
  requires : List String
  channels : List String
  guilds : List String
  reply : Option String
  ephemeral : Bool
  subcommands : List SubcommandManifest
  arguments : List ArgumentManifest

/-- The commands of a manifest. -/
structure Manifest where
  commands : List CommandManifest

/-- Why a command of a manifest does not compile. -/
inductive CompileFault
  | choicesAndAutocomplete (pattern : String)
  | refused (fault : Fault)
  deriving DecidableEq, Repr

/-- The wording of a fault of one command. -/
def CompileFault.message : CompileFault → String
  | .choicesAndAutocomplete pattern =>
    s!"argument '{pattern}' sets both choices and autocomplete"
  | .refused fault => fault.message

/-- Why a manifest has no definitions. -/
inductive ManifestFault
  | declaredTwice (name : String)
  | invalidCommand (name : String) (fault : CompileFault)
  deriving DecidableEq, Repr

/-- The wording of a fault of a manifest. -/
def ManifestFault.message : ManifestFault → String
  | .declaredTwice name => s!"command '{name}' is declared twice"
  | .invalidCommand name fault => s!"invalid command '{name}': " ++ fault.message

namespace ArgumentManifest

/-- The options of a pattern; its suggestions come from one source. -/
def toOptions (a : ArgumentManifest) : Except CompileFault ArgumentOptions := do
  let completion ← match a.choices, a.autocomplete with
    | some _, some _ => .error (.choicesAndAutocomplete a.pattern)
    | some texts, none => .ok (some (.choices texts))
    | none, some texts => .ok (some (.autocomplete (.ofList texts)))
    | none, none => .ok none
  return ⟨a.pattern, a.description, a.default, completion, a.min, a.max⟩

end ArgumentManifest

namespace CommandManifest

/-- Makes calls on a draft up to the first that is refused. -/
def callAll (d : Draft) (calls : List Call) : Except CompileFault Draft :=
  (d.applyWhileAccepted calls).mapError .refused

/-- Declares arguments one after the other. -/
def declare (d : Draft) : List ArgumentManifest → Except CompileFault Draft
  | [] => .ok d
  | a :: rest => do
    let options ← a.toOptions
    declare (← callAll d [.addArgument options]) rest

/-- The calls that come before the arguments. -/
def openingCalls (c : CommandManifest) : List Call :=
  .setCommand c.name c.description :: (c.kind.map Call.setKind).toList
    ++ c.subcommands.map fun s => .addSubcommand s.name s.description

/-- The calls that come after the arguments. -/
def closingCalls (c : CommandManifest) : List Call :=
  c.requires.map .addRequire ++ c.channels.map .addChannel ++ c.guilds.map .addGuild
    ++ (c.reply.map fun text => Call.setAction (.reply text c.ephemeral)).toList

/-- The definition of a command. -/
def compile (c : CommandManifest) : Except CompileFault Definition := do
  let opened ← callAll .empty c.openingCalls
  let declared ← declare opened c.arguments
  let closed ← callAll declared c.closingCalls
  closed.build.mapError .refused

end CommandManifest

namespace Manifest

/-- The definitions of commands, given the names of those before. -/
def compileAfter (names : List String) :
    List CommandManifest → Except ManifestFault (List Definition)
  | [] => .ok []
  | c :: rest =>
    if names.contains c.name then .error (.declaredTwice c.name)
    else do
      let d ← c.compile.mapError (.invalidCommand c.name)
      return d :: (← compileAfter (c.name :: names) rest)

/-- The definitions of a manifest, in order. -/
def definitions (m : Manifest) : Except ManifestFault (List Definition) :=
  compileAfter [] m.commands

end Manifest

/-! ### Reading manifests -/

open Datum (Format closedFields? text? bool? float? list?)

/-- Reads a subcommand. -/
def SubcommandManifest.ofDatum? (format : Format) (d : Datum) : Option SubcommandManifest := do
  let f ← closedFields? format ["name", "description"] d
  return ⟨← f.required "name" text?, ← f.required "description" text?⟩

/-- Reads the arguments of a pattern. -/
def ArgumentManifest.ofDatum? (format : Format) (d : Datum) : Option ArgumentManifest := do
  let f ← closedFields? format ["syntax", "description", "choices", "autocomplete", "default",
    "min", "max"] d
  let pattern ← f.required "syntax" text?
  let description ← f.withDefault "description" "" text?
  let choices ← f.optionalLast "choices" (list? text?)
  let autocomplete ← f.optionalLast "autocomplete" (list? text?)
  let default ← f.optionalLast "default" OptionValue.ofDatum?
  let min ← f.optionalLast "min" float?
  let max ← f.optionalLast "max" float?
  return ⟨pattern, description, choices, autocomplete, default, min, max⟩

/-- Reads a command. -/
def CommandManifest.ofDatum? (format : Format) (d : Datum) : Option CommandManifest := do
  let f ← closedFields? format ["name", "description", "kind", "requires", "channels", "guilds",
    "reply", "ephemeral", "subcommand", "argument"] d
  let name ← f.required "name" text?
  let description ← f.required "description" text?
  let kind ← f.optionalLast "kind" (CommandKind.ofDatum? format)
  let requires ← f.withDefault "requires" [] (list? text?)
  let channels ← f.withDefault "channels" [] (list? text?)
  let guilds ← f.withDefault "guilds" [] (list? text?)
  let reply ← f.optionalLast "reply" text?
  let ephemeral ← f.withDefault "ephemeral" false bool?
  let subcommands ← f.withDefault "subcommand" [] (list? (SubcommandManifest.ofDatum? format))
  let arguments ← f.withDefault "argument" [] (list? (ArgumentManifest.ofDatum? format))
  return ⟨name, description, kind, requires, channels, guilds, reply, ephemeral, subcommands,
    arguments⟩

/-- Reads a manifest. -/
def Manifest.ofDatum? (format : Format) (d : Datum) : Option Manifest := do
  let f ← closedFields? format ["command"] d
  return ⟨← f.withDefault "command" [] (list? (CommandManifest.ofDatum? format))⟩

/-- Reads a manifest from a TOML document. -/
def Manifest.ofToml? (toml : Toml.Codec) (text : String) : Option Manifest :=
  (toml.read? text).bind (Manifest.ofDatum? .toml)

end SlashCommands
