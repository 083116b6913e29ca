import SlashCommands.Text.Blank

/-!
# Command lines

A command line names one of the commands, with options before and after it.  Words are read from
left to right and the first that does not fit ends the reading, as does a request for help.
-/

namespace SlashCommands.CommandLine

/-- What to do with the definitions of a manifest. -/
inductive Task
  | check
  | schema (compact : Bool)
  | publish (token applicationId : Option String) (dryRun : Bool)
  | simulate (payload : String)
  deriving DecidableEq, Repr

/-- What the program is asked to do. -/
inductive Command
  | init (force : Bool)
  | withManifest (manifest : Option String) (task : Task)
  deriving DecidableEq, Repr

/-- A command line that has been read. -/
structure Line where
  settingsPath : Option String
  command : Command
  deriving DecidableEq, Repr

/-- Why a command line is not read. -/
inductive UsageFault
  | unexpected (word : String)
  | repeated (option : String)
  | noValue (option : String)
  | noCommand
  | noPayload
  deriving DecidableEq, Repr

/-- The wording of a fault. -/
def UsageFault.message : UsageFault → String
  | .unexpected word => s!"unexpected argument '{word}'"
  | .repeated option => s!"'{option}' is given more than once"
  | .noValue option => s!"'{option}' needs a value"
  | .noCommand => "a command is needed"
  | .noPayload => "a payload is needed"

/-- Why the reading of a command line stops early. -/
inductive Stop
  | help
  | fault (fault : UsageFault)
  deriving DecidableEq, Repr

/-- What may stand on one side of the name of the command: switches, options with a path or any
text as their value, and operands, which are paths. -/
structure Grammar where
  switches : List String
  paths : List String
  texts : List String
  operands : Nat

/-- What has been given on that side. -/
structure Given where
  switches : List String := []
  values : List (String × String) := []
  operands : List String := []

namespace Given

/-- Holds if a switch has been given. -/
def has (g : Given) (switch : String) : Bool :=
  g.switches.contains switch

/-- The value that has been given for an option. -/
def value? (g : Given) (option : String) : Option String :=
  g.values.lookup option

/-- Takes a switch. -/
def takeSwitch (g : Given) (switch : String) : Except Stop Given :=
  if g.has switch then .error (.fault (.repeated switch))
  else .ok { g with switches := switch :: g.switches }

/-- Takes the value of an option; a path must not be empty. -/
def takeValue (g : Given) (grammar : Grammar) (option value : String) : Except Stop Given :=
  if grammar.paths.contains option && value.isEmpty then .error (.fault (.noValue option))
  else if (g.value? option).isSome then .error (.fault (.repeated option))
  else .ok { g with values := (option, value) :: g.values }

/-- Takes an operand. -/
def takeOperand (g : Given) (grammar : Grammar) (word : String) : Except Stop Given :=
  if g.operands.length < grammar.operands && !word.isEmpty then
    .ok { g with operands := g.operands ++ [word] }
  else .error (.fault (.unexpected word))

end Given

/-- What a word is by its spelling. -/
inductive Word
  | terminator
  | long (name : String) (value : Option String)
  | short (letters : List Char)
  | free
  deriving DecidableEq, Repr

/-- The kind of a word.  The value of a long option may be joined to it. -/
def Word.ofText (word : String) : Word :=
  match word.toList with
  | ['-', '-'] => .terminator
  | '-' :: '-' :: rest =>
    match Text.splitOnce ['='] rest with
    | some (name, value) => .long (String.ofList name) (some (String.ofList value))
    | none => .long (String.ofList rest) none
  | '-' :: letter :: rest => .short (letter :: rest)
  | _ => .free

/-- Reads the words on one side.  At a free word that is no operand the reading ends, and the word
and those after it are left. -/
def readWords (grammar : Grammar) (given : Given) : List String → Except Stop (Given × List String)
  | [] => .ok (given, [])
  | word :: rest =>
    match Word.ofText word with
    | .terminator => do
      return (← rest.foldlM (·.takeOperand grammar) given, [])
    | .long name none =>
      if name == "help" then .error .help
      else if grammar.switches.contains name then do
        readWords grammar (← given.takeSwitch name) rest
      else if grammar.paths.contains name || grammar.texts.contains name then
        match rest with
        | [] => .error (.fault (.noValue name))
        | value :: rest =>
          if Word.ofText value == .free then do
            readWords grammar (← given.takeValue grammar name value) rest
          else .error (.fault (.noValue name))
      else .error (.fault (.unexpected word))
    | .long name (some value) =>
      if grammar.paths.contains name || grammar.texts.contains name then do
        readWords grammar (← given.takeValue grammar name value) rest
      else .error (.fault (.unexpected word))
    | .short letters =>
      if letters.head? == some 'h' then .error .help else .error (.fault (.unexpected word))
    | .free =>
      if grammar.operands = 0 then .ok (given, word :: rest)
      else do readWords grammar (← given.takeOperand grammar word) rest

/-- The name of the option for the file with the settings, which may stand on both sides. -/
def settingsOption : String := "config"

/-- A grammar with what may stand on both sides. -/
def Grammar.common (switches paths texts : List String) (operands : Nat) : Grammar :=
  ⟨"debug" :: switches, settingsOption :: paths, texts, operands⟩

/-- The commands by name: what may follow the name, and what is made of it. -/
def commands : List (String × Grammar × (Given → Except UsageFault Command)) :=
  [("init", .common ["force"] [] [] 0, fun g => .ok (.init (g.has "force"))),
    ("check", .common [] [] [] 1, fun g => .ok (.withManifest g.operands.head? .check)),
    ("schema", .common ["compact"] [] [] 1, fun g =>
      .ok (.withManifest g.operands.head? (.schema (g.has "compact")))),
    ("publish", .common ["dry-run"] [] ["token", "application-id"] 1, fun g =>
      .ok (.withManifest g.operands.head?
        (.publish (g.value? "token") (g.value? "application-id") (g.has "dry-run")))),
    ("simulate", .common [] ["manifest"] [] 1, fun g =>
      match g.operands.head? with
      | some payload => .ok (.withManifest (g.value? "manifest") (.simulate payload))
      | none => .error .noPayload)]

/-- Reads what follows a request for help in words: nothing, or what help is wanted with. -/
def readTopic : List String → Stop
  | [] => .help
  | [topic] =>
    if topic == "help" || (commands.lookup topic).isSome then .help
    else .fault (.unexpected topic)
  | _ :: word :: _ => .fault (.unexpected word)

/-- Reads a command line. -/
def Line.read (words : List String) : Except Stop Line := do
  let (before, rest) ← readWords (.common [] [] [] 0) {} words
  match rest with
  | [] => .error (.fault .noCommand)
  | name :: rest =>
    if name == "help" then .error (readTopic rest)
    else
      match commands.lookup name with
      | none => .error (.fault (.unexpected name))
      | some (grammar, make) =>
        let (after, rest) ← readWords grammar {} rest
        match rest with
        | word :: _ => .error (.fault (.unexpected word))
        | [] =>
          let command ← (make after).mapError .fault
          return ⟨(after.value? settingsOption).or (before.value? settingsOption), command⟩

example : (Line.read ["check", "--config=a", "b"]).toOption =
    some ⟨some "a", .withManifest (some "b") .check⟩ := by decide +kernel
example : (Line.read ["--config", "a", "simulate", "p", "--config", "b"]).toOption =
    some ⟨some "b", .withManifest none (.simulate "p")⟩ := by decide +kernel
example : (Line.read ["check", "-x", "-h"]).toOption = none := by decide +kernel

/-- How the program is used. -/
def usage : String :=
  "Compile and publish slash command manifests\n\n"
    ++ "Usage: slashkit [--debug] [--config <FILE>] <COMMAND>\n\n"
    ++ "Commands:\n"
    ++ "  init [--force]\n"
    ++ "  check [MANIFEST]\n"
    ++ "  schema [MANIFEST] [--compact]\n"
    ++ "  publish [MANIFEST] [--token <TOKEN>] [--application-id <ID>] [--dry-run]\n"
    ++ "  simulate <PAYLOAD> [--manifest <MANIFEST>]\n"
    ++ "  help [COMMAND]\n"

end SlashCommands.CommandLine
