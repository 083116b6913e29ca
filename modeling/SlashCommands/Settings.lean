import SlashCommands.Manager
import SlashCommands.Path

/-!
# Settings

Settings come from a file, from the environment and from flags.  `Settings.merge` brings the sources
together: a flag replaces what the file says, and a variable fills in credentials that the file
leaves blank.  The merged settings are checked, not the file, so that a flag can replace a value
that would be refused.
-/

namespace SlashCommands

/-- The address of the platform unless another is set. -/
def defaultApiBase : String := "https://discord.com/api/v10"

/-- The manifest unless another is set. -/
def defaultManifestPath : String := "~/.slashkit/commands.toml"

/-- The file that settings are kept in unless another is given. -/
def defaultSettingsPath : String := "~/.slashkit/config.toml"

/-- What can be set for the program. -/
structure Settings where
  token : String := ""
  applicationId : String := ""
  apiBase : String := defaultApiBase
  denialMessage : String := defaultDenialMessage
  maxSuggestions : Nat := maxSuggestions
  manifest : String := defaultManifestPath
  deriving DecidableEq, Repr

/-- The values that flags give. -/
structure SettingsFlags where
  token : Option String := none
  applicationId : Option String := none
  apiBase : Option String := none
  manifest : Option String := none

/-- The variables of the environment that settings come from. -/
structure Environment where
  token : Option String := none
  applicationId : Option String := none

/-- The name of the variable for the token. -/
def Environment.tokenName : String := "DISCORD_BOT_TOKEN"

/-- The name of the variable for the id of the application. -/
def Environment.applicationIdName : String := "DISCORD_APPLICATION_ID"

/-- A value that is replaced, if it is blank, by another that may be there. -/
def fillBlank (value : String) (other : Option String) : String :=
  if Text.isBlankText value then other.getD value else value

/-- Why settings are refused. -/
inductive SettingsFault
  | maxSuggestions
  | denialMessage
  | apiBase
  deriving DecidableEq, Repr

/-- The wording of a fault. -/
def SettingsFault.message : SettingsFault → String
  | .maxSuggestions => s!"max_suggestions must be between 1 and {SlashCommands.maxSuggestions}"
  | .denialMessage => "denial_message cannot be empty"
  | .apiBase => "discord api_base cannot be empty"

/-- A credential that publishing needs. -/
inductive Credential
  | token
  | applicationId
  deriving DecidableEq, Repr

/-- What is said when a credential is missing. -/
def Credential.missing : Credential → String
  | .token => "discord token is required (set DISCORD_BOT_TOKEN or pass --token)"
  | .applicationId =>
    "discord application_id is required (set DISCORD_APPLICATION_ID or pass --application-id)"

namespace Settings

/-- The settings with the blank credentials filled in. -/
def fillCredentials (s : Settings) (env : Environment) : Settings :=
  { s with
    token := fillBlank s.token env.token
    applicationId := fillBlank s.applicationId env.applicationId }

/-- The settings with the values of flags. -/
def applyFlags (s : Settings) (flags : SettingsFlags) : Settings :=
  { s with
    token := flags.token.getD s.token
    applicationId := flags.applicationId.getD s.applicationId
    apiBase := flags.apiBase.getD s.apiBase
    manifest := flags.manifest.getD s.manifest }

/-- The settings with the path of the manifest expanded. -/
def expandPaths (s : Settings) (home : String) : Settings :=
  { s with manifest := Path.expandTilde home s.manifest }

/-- What a file, the environment and flags amount to. -/
def merge (file : Settings) (env : Environment) (flags : SettingsFlags) (home : String) :
    Settings :=
  ((file.fillCredentials env).applyFlags flags).expandPaths home

/-- The first thing that is wrong with settings. -/
def fault? (s : Settings) : Option SettingsFault :=
  if s.maxSuggestions < 1 || SlashCommands.maxSuggestions < s.maxSuggestions then
    some .maxSuggestions
  else if Text.isBlankText s.denialMessage then some .denialMessage
  else if Text.isBlankText s.apiBase then some .apiBase
  else none

/-- The first credential that publishing needs and settings lack. -/
def missingCredential? (s : Settings) : Option Credential :=
  if Text.isBlankText s.token then some .token
  else if Text.isBlankText s.applicationId then some .applicationId
  else none

/-- The settings of the manager. -/
def toManagerSettings (s : Settings) : ManagerSettings :=
  ⟨s.denialMessage, s.maxSuggestions⟩

end Settings

end SlashCommands
