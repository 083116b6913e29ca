import SlashCommands.CommandLine.Line
import SlashCommands.CommandLine.Publishing

/-!
# Running command lines

One command writes a file with settings.  The others load the settings and the definitions of a
manifest and have a task with them: check that they compile, print their schemas, publish them, or
serve a payload with them and print what would be sent back.
-/

namespace SlashCommands.CommandLine

/-! ### Checking -/

/-- A text filled up with blanks at the end. -/
def padEnd (width : Nat) (s : String) : String :=
  s ++ String.ofList (List.replicate (width - s.length) ' ')

/-- The line about a definition. -/
def summary (d : Definition) : String :=
  let flags := (d.entries.filter fun e => e.2.isFlag).length
  let args := d.entries.length - flags
  let guilds := d.guilds.size
  "/" ++ padEnd 20 d.name ++ " " ++ padEnd 10 d.kind.name ++ s!" args={args} flags={flags} "
    ++ (if d.guilds.isEmpty then "global" else s!"guilds={guilds}") ++ "\n"

/-- The lines about definitions. -/
def checkText (manifest : String) (definitions : List Definition) : String :=
  let count := definitions.length
  String.join (definitions.map summary) ++ s!"✓ {count} command(s) in {manifest}\n"

/-- The schemas of definitions, on one line or several. -/
def schemaText (json : Json.Codec) (compact : Bool) (definitions : List Definition) :
    Except Failure String :=
  let schemas := Datum.list (definitions.map fun d => d.schema.toDatum)
  match if compact then json.write schemas else json.pretty schemas with
  | .ok text => .ok (text ++ "\n")
  | .error cause => .error (.unwrittenSchemas cause)

/-! ### Simulating -/

/-- The line for a message; suggestions may be impossible to write. -/
def messageText (json : Json.Codec) : Message → Except String String
  | .reply r =>
    let visibility := if r.ephemeral then "ephemeral" else "public"
    .ok (s!"reply ({visibility}): " ++ r.content ++ "\n")
  | .suggest suggestions =>
    (json.write (.list (suggestions.map Suggestion.toDatum))).map fun text =>
      "suggestions: " ++ text ++ "\n"

/-- Prints the messages of a conversation. -/
def printing (json : Json.Codec) : Responder :=
  fun _ message => (messageText json message).map fun _ => ()

/-- What has been printed in the course of a conversation. -/
def eventsText (json : Json.Codec) (events : List Event) : String :=
  String.join (events.map fun
    | .sent message _ => (messageText json message).toOption.getD ""
    | .marked _ => "")

/-- Serves a payload with definitions and gives the lines for what is sent back. -/
def simulatePayload (json : Json.Codec) (settings : Settings) (definitions : List Definition)
    (p : Payload) : Except Failure String := do
  let manager := (Manager.new settings.toManagerSettings).addAll definitions
  let (started, manager, hub) := ((manager.initializeCommands .empty Registry.recording).run []).1
  let _ ← started.mapError .notStarted
  let (kind, interaction) ← p.toEvent.mapError .payload
  let conversation := hub.initializeAutocomplete.emit [] kind manager interaction
  let (events, listeners) := conversation.run (printing json)
  if listeners = 0 then .error (.noListener kind) else .ok (eventsText json events)

/-! ### Commands -/

variable {μ : Type → Type} [Monad μ]

/-- Where commands find what they need: files and variables, the server that they get at by a
client, and how documents are read and written. -/
structure World (μ : Type → Type) where
  host : Host μ
  environment : Environment
  server : Rest.Server
  client : Rest.Client
  toml : Toml.Codec
  json : Json.Codec

/-- Writes settings with their defaults to a file, which must not be there unless it is forced. -/
def writeDefaults (toml : Toml.Codec) (host : Host μ) (path : Option String) (force : Bool) :
    μ (Except Failure String) := do
  let path := Settings.filePath host.home path
  if (← host.exists? path) && !force then return .error (.settingsExist path)
  match ← Settings.save toml host {} (some path) with
  | .error fault => return .error (.unsaved fault)
  | .ok () => return .ok s!"✓ Config saved to {path}\n"

/-- The definitions of a manifest, given what its file holds. -/
def definitionsOf (toml : Toml.Codec) (path : String) :
    Except FileFault String → Except Failure (List Definition)
  | .error fault => .error (.unreadableManifest path fault)
  | .ok text =>
    match Manifest.ofToml? toml text with
    | none => .error (.malformedManifest path (toml.fault text))
    | some m => m.definitions.mapError .manifest

/-- Reads a payload, given what its file holds. -/
def payloadOf (json : Json.Codec) (path : String) :
    Except FileFault String → Except Failure Payload
  | .error fault => .error (.unreadablePayload path fault)
  | .ok text =>
    match (json.read? text).bind Payload.ofDatum? with
    | some p => .ok p
    | none => .error (.malformedPayload (json.fault text))

/-- The flags for a task; credentials that are not given come from the environment. -/
def Task.flags (env : Environment) (manifest : Option String) : Task → SettingsFlags
  | .publish token applicationId _ =>
    { manifest, token := token.or env.token, applicationId := applicationId.or env.applicationId }
  | _ => { manifest }

/-- Does a task with definitions. -/
def Task.perform (world : World μ) (s : Settings) (definitions : List Definition) :
    Task → μ Outcome
  | .check => return .ofResult (.ok (checkText s.manifest definitions))
  | .schema compact => return .ofResult (schemaText world.json compact definitions)
  | .publish _ _ dryRun =>
    return publishDefinitions world.client world.server world.json dryRun s definitions
  | .simulate path => do
    let payload := payloadOf world.json path (← world.host.read path)
    return .ofResult (payload.bind (simulatePayload world.json s definitions))

/-- Does a task with the definitions of the manifest that settings name. -/
def Task.run (world : World μ) (s : Settings) (task : Task) : μ Outcome := do
  match definitionsOf world.toml s.manifest (← world.host.read s.manifest) with
  | .error failure => return .ofResult (.error failure)
  | .ok definitions => task.perform world s definitions

/-- Runs a command line. -/
def Line.run (world : World μ) (line : Line) : μ Outcome := do
  match line.command with
  | .init force => return .ofResult (← writeDefaults world.toml world.host line.settingsPath force)
  | .withManifest manifest task =>
    match ← Settings.load world.toml world.host world.environment line.settingsPath
        (task.flags world.environment manifest) with
    | .error fault => return .ofResult (.error (.settings fault))
    | .ok s => task.run world s

/-- How the program ends: it exits with a code, after it has printed something, or it breaks off. -/
inductive Ending
  | exit (code : UInt32) (output errors : String)
  | panic (panic : Rest.Panic)

/-- What the program leaves behind: how it ended, and the requests it made. -/
structure Report where
  ending : Ending
  requests : List Rest.Request

/-- The report of an outcome. -/
def Outcome.report (o : Outcome) : Report where
  ending :=
    match o.result with
    | .ok (.ok text) => .exit 0 text ""
    | .ok (.error failure) => .exit 1 "" (failure.message ++ "\n")
    | .error panic => .panic panic
  requests := o.requests

/-- The report of a command line that was not read. -/
def Stop.report : Stop → Report
  | .help => ⟨.exit 0 usage "", []⟩
  | .fault f => ⟨.exit 2 "" ("error: " ++ f.message ++ "\n"), []⟩

/-- Runs the program on the words of a command line. -/
def run (world : World μ) (words : List String) : μ Report := do
  match Line.read words with
  | .error stop => return stop.report
  | .ok line => return (← line.run world).report

end SlashCommands.CommandLine
