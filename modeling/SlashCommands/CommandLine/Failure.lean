import SlashCommands.Hub
import SlashCommands.Manifest
import SlashCommands.Payload
import SlashCommands.Settings.File

/-!
# Failures of commands

Why a command of the command line fails, and what is said of it.
-/

namespace SlashCommands.CommandLine

/-- Why a command fails. -/
inductive Failure
  | settings (fault : LoadFault)
  | settingsExist (path : String)
  | unsaved (fault : SaveFault)
  | unreadableManifest (path : String) (fault : FileFault)
  | malformedManifest (path cause : String)
  | manifest (fault : ManifestFault)
  | noCredential (credential : Credential)
  | reset (failure : RegistryFailure)
  | publish (failure : RegistryFailure)
  | unwrittenPlan (cause : String)
  | unwrittenSchemas (cause : String)
  | unreadablePayload (path : String) (fault : FileFault)
  | malformedPayload (cause : String)
  | notStarted (failure : RegistryFailure)
  | payload (fault : PayloadFault)
  | noListener (kind : EventKind)

/-- The wording of a failure. -/
def Failure.message : Failure → String
  | .settings fault => "Failed to load slashkit config: " ++ fault.message
  | .settingsExist path => s!"Config already exists at {path}. Use --force to overwrite."
  | .unsaved fault => "Failed to save slashkit config: " ++ fault.message
  | .unreadableManifest path fault => s!"failed to read command manifest {path}: " ++ fault.message
  | .malformedManifest path cause => s!"in {path}: failed to parse command manifest: " ++ cause
  | .manifest fault => fault.message
  | .noCredential credential => credential.missing
  | .reset failure => "Failed to reset commands: " ++ failure.message
  | .publish failure => "Failed to publish commands: " ++ failure.message
  | .unwrittenPlan cause => "Failed to render plan: " ++ cause
  | .unwrittenSchemas cause => "Failed to render schema: " ++ cause
  | .unreadablePayload path fault => s!"Failed to read {path}: " ++ fault.message
  | .malformedPayload cause => "Failed to parse interaction payload: " ++ cause
  | .notStarted failure => "Failed to initialize commands: " ++ failure.message
  | .payload fault => "Unsupported interaction: " ++ fault.message
  | .noListener .command => "No listener for Command interactions"
  | .noListener .autocomplete => "No listener for Autocomplete interactions"

end SlashCommands.CommandLine
