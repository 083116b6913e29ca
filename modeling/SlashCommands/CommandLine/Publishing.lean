import SlashCommands.CommandLine.Failure
import SlashCommands.Json.Codec
import SlashCommands.Rest.Api

/-!
# Publishing from the command line

Publishing replaces what is registered by the definitions of a manifest.  A dry run does this in a
registry that only remembers and prints what it remembers; otherwise it is done in the registry of
the platform, if the settings have the credentials.
-/

namespace SlashCommands.CommandLine

/-- What came of a command, unless the program broke off: its output or why it failed; and the
requests that were made. -/
structure Outcome where
  result : Except Rest.Panic (Except Failure String)
  requests : List Rest.Request

/-- The outcome without requests. -/
def Outcome.ofResult (result : Except Failure String) : Outcome := ⟨.ok result, []⟩

/-- Replaces what is registered by definitions. -/
def replaceCommands {m : Type → Type} [Monad m] (registry : Registry m) (settings : Settings)
    (definitions : List Definition) : m (Except Failure PublishReport) := do
  let manager := (Manager.new settings.toManagerSettings).addAll definitions
  match ← manager.reset registry with
  | .error failure => return .error (.reset failure)
  | .ok cleared =>
    match ← manager.publish registry with
    | (.error failure, _) => return .error (.publish failure)
    | (.ok report, _) => return .ok { report with clearedGuilds := cleared }

/-- The text of a plan. -/
def planText (json : Json.Codec) (operations : List Operation) : Except Failure String :=
  match json.pretty (.list (operations.map Operation.toDatum)) with
  | .ok text => .ok (text ++ "\n")
  | .error cause => .error (.unwrittenPlan cause)

/-- How to get at the platform with settings. -/
def apiOf (client : Rest.Client) (s : Settings) : Rest.Api :=
  ⟨client, s.apiBase, s.token, s.applicationId⟩

/-- What is said of what publishing did. -/
def reportText (report : PublishReport) : String :=
  let global := report.global
  let guild := report.guild
  let cleared := report.clearedGuilds
  s!"✓ Published {global} global and {guild} guild command(s), cleared {cleared} guild(s)\n"

/-- Publishes definitions, or tells what publishing would do. -/
def publishDefinitions (client : Rest.Client) (server : Rest.Server) (json : Json.Codec)
    (dryRun : Bool) (s : Settings) (definitions : List Definition) : Outcome :=
  if dryRun then
    let (result, operations) := (replaceCommands Registry.recording s definitions).run []
    .ofResult (result.bind fun _ => planText json operations)
  else
    match s.missingCredential? with
    | some credential => .ofResult (.error (.noCredential credential))
    | none =>
      let (result, traffic) :=
        (replaceCommands (apiOf client s).registry s definitions).run.run (.start server)
      ⟨result.map (·.map reportText), traffic.requests⟩

end SlashCommands.CommandLine
