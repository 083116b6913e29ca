import SlashCommands.Files
import SlashCommands.Settings
import SlashCommands.Toml.Codec

/-!
# The settings file

Settings are kept in a TOML document with a table for the platform and one for the commands.  In a
document every value may be missing; a written document has them all.
-/

namespace SlashCommands

/-- Why settings cannot be loaded. -/
inductive LoadFault
  | unreadable (path : String) (fault : FileFault)
  | malformed (path cause : String)
  | refused (fault : SettingsFault)
  deriving DecidableEq, Repr

/-- The wording of a fault. -/
def LoadFault.message : LoadFault → String
  | .unreadable path fault => s!"failed to read slashkit config {path}: " ++ fault.message
  | .malformed path cause => s!"failed to parse slashkit config {path}: " ++ cause
  | .refused fault => fault.message

/-- Why settings cannot be saved. -/
inductive SaveFault
  | directory (path : String) (fault : FileFault)
  | document (cause : String)
  | file (path : String) (fault : FileFault)
  deriving DecidableEq, Repr

/-- The wording of a fault. -/
def SaveFault.message : SaveFault → String
  | .directory path fault => s!"failed to create config dir {path}: " ++ fault.message
  | .document cause => "failed to serialize slashkit config: " ++ cause
  | .file path fault => s!"failed to write slashkit config {path}: " ++ fault.message

namespace Settings

open Datum (fields? text? unsigned?)

/-- Reads the table for the platform into settings. -/
def withPlatform? (s : Settings) (d : Datum) : Option Settings := do
  let f ← fields? .toml ["token", "application_id", "api_base"] d
  let token ← f.withDefault "token" "" text?
  let applicationId ← f.withDefault "application_id" "" text?
  let apiBase ← f.optionalLast "api_base" text?
  return { s with token, applicationId, apiBase := apiBase.getD s.apiBase }

/-- Reads the table for the commands into settings. -/
def withCommands? (s : Settings) (d : Datum) : Option Settings := do
  let f ← fields? .toml ["denial_message", "max_suggestions", "manifest"] d
  let denialMessage ← f.optionalLast "denial_message" text?
  let maxSuggestions ← f.optionalLast "max_suggestions" (unsigned? 64)
  let manifest ← f.optionalLast "manifest" text?
  return { s with
    denialMessage := denialMessage.getD s.denialMessage
    maxSuggestions := maxSuggestions.getD s.maxSuggestions
    manifest := manifest.getD s.manifest }

/-- Reads settings; what is missing has its default. -/
def ofDatum? (d : Datum) : Option Settings := do
  let f ← fields? .toml ["discord", "commands"] d
  let s ← f.withDefault "discord" {} (withPlatform? {})
  f.withDefault "commands" s (withCommands? s)

/-- The tables of the document that holds settings. -/
def sections (s : Settings) : List Toml.Section :=
  [⟨"discord", [("token", .text s.token), ("application_id", .text s.applicationId),
      ("api_base", .text s.apiBase)]⟩,
    ⟨"commands", [("denial_message", .text s.denialMessage),
      ("max_suggestions", .int s.maxSuggestions), ("manifest", .text s.manifest)]⟩]

/-- The file that settings are kept in. -/
def filePath (home : String) (path : Option String) : String :=
  path.getD (Path.expandTilde home defaultSettingsPath)

/-- What a file says, given its content if there is one. -/
def ofContent (toml : Toml.Codec) (path : String) :
    Option (Except FileFault String) → Except LoadFault Settings
  | none => .ok {}
  | some (.error fault) => .error (.unreadable path fault)
  | some (.ok text) =>
    match (toml.read? text).bind ofDatum? with
    | some s => .ok s
    | none => .error (.malformed path (toml.fault text))

/-- The checked settings of all sources, given the content of the file if there is one. -/
def ofSources (toml : Toml.Codec) (path : String) (content : Option (Except FileFault String))
    (env : Environment) (flags : SettingsFlags) (home : String) : Except LoadFault Settings := do
  let s := (← ofContent toml path content).merge env flags home
  match s.fault? with
  | some fault => .error (.refused fault)
  | none => .ok s

variable {μ : Type → Type} [Monad μ]

/-- Loads settings.  A file that does not exist says nothing. -/
def load (toml : Toml.Codec) (host : Host μ) (env : Environment) (path : Option String)
    (flags : SettingsFlags) : μ (Except LoadFault Settings) := do
  let path := filePath host.home path
  let content ← if ← host.exists? path then some <$> host.read path else pure none
  return ofSources toml path content env flags host.home

/-- Makes the directory that a file lies in. -/
def makeParent (host : Host μ) (path : String) : μ (Except SaveFault Unit) := do
  match Path.parent? path with
  | none => return .ok ()
  | some parent => return (← host.makeDirectories parent).mapError (.directory parent)

/-- Saves settings, in a directory that is made if need be. -/
def save (toml : Toml.Codec) (host : Host μ) (s : Settings) (path : Option String) :
    μ (Except SaveFault Unit) := do
  let path := filePath host.home path
  match ← makeParent host path with
  | .error fault => return .error fault
  | .ok () =>
    match toml.write s.sections with
    | .error cause => return .error (.document cause)
    | .ok text => return (← host.write path text).mapError (.file path)

end Settings

end SlashCommands
