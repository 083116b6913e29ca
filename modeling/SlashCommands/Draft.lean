import SlashCommands.Definition

/-!
# Drafts

A draft collects the declaration of one command, call by call.  `Draft.apply` makes one call and
gives the draft afterwards together with the fault, if the call is refused; `Draft.build` turns a
draft into a definition.
-/

namespace SlashCommands

/-- Where the suggested values of an argument come from. -/
inductive Completion
  | autocomplete (completer : Completer)
  | choices (texts : List String)

/-- A pattern with what belongs to the last argument in it. -/
structure ArgumentOptions where
  pattern : String
  description : String
  default : Option OptionValue
  completion : Option Completion
  min : Option Float
  max : Option Float

namespace ArgumentOptions

/-- A pattern with a description and nothing else. -/
def plain (pattern description : String) : ArgumentOptions :=
  ⟨pattern, description, none, none, none, none⟩

/-- Holds if there is a bound. -/
def isBounded (o : ArgumentOptions) : Bool :=
  o.min.isSome || o.max.isSome

/-- Holds if there is something that belongs to an argument. -/
def targetsArgument (o : ArgumentOptions) : Bool :=
  o.default.isSome || o.completion.isSome || o.isBounded

end ArgumentOptions

/-- One call on a draft. -/
inductive Call
  | setCommand (name description : String)
  | setDescription (description : String)
  | setKind (kind : CommandKind)
  | addSubcommand (name description : String)
  | addArgument (options : ArgumentOptions)
  | addRequire (value : String)
  | addChannel (channel : String)
  | addGuild (guild : String)
  | setAction (action : Action)

/-- The declaration of a command so far. -/
structure Draft where
  command : Option String
  description : Option String
  kind : Option CommandKind
  nodes : List Node
  completers : Keyed Key Completer
  choices : Keyed Key (List String)
  defaults : Keyed Key OptionValue
  requires : List Requirement
  channels : NameSet
  guilds : NameSet
  action : Action

namespace Node

/-- Holds of the subcommand with a name. -/
def isSubcommand (name : String) : Node → Bool
  | .subcommand s => s.name == name
  | .argument _ => false

/-- The list with a subcommand of that name: a new one at the end unless there is one. -/
def ensure (name description : String) (nodes : List Node) : List Node :=
  if nodes.any (isSubcommand name) then nodes else nodes ++ [.subcommand ⟨name, description, []⟩]

/-- Adds arguments to the first subcommand with a name. -/
def extend (name : String) (entries : List Entry) : List Node → List Node
  | [] => []
  | .subcommand s :: rest =>
    if s.name = name then .subcommand { s with entries := s.entries ++ entries } :: rest
    else .subcommand s :: extend name entries rest
  | node :: rest => node :: extend name entries rest

/-- Adds arguments in a scope; a subcommand that is not there yet is described by its name. -/
def append (scope : Option String) (entries : List Entry) (nodes : List Node) : List Node :=
  match scope with
  | none => nodes ++ entries.map .argument
  | some name => extend name entries (ensure name name nodes)

end Node

namespace Token

/-- The argument that a token declares. -/
def toEntry (t : Token) (description : String) (min max : Option Float) : Entry :=
  ⟨t.kind, t.datatype, t.optional, t.name, description, t.flag, min, max⟩

/-- The scope that tokens select: the subcommand that leads them. -/
def scope? : List Token → Option String
  | [] => none
  | t :: _ => if t.kind = .command then some t.name else none

/-- The tokens that declare arguments. -/
def arguments (tokens : List Token) : List Token :=
  tokens.filter (·.kind != .command)

end Token

/-- The arguments that tokens declare; the bounds belong to the last. -/
def ArgumentOptions.entries (o : ArgumentOptions) : List Token → List Entry
  | [] => []
  | [t] => [t.toEntry o.description o.min o.max]
  | t :: rest => t.toEntry o.description none none :: o.entries rest

namespace Draft

/-- A draft on which no call has been made. -/
def empty : Draft :=
  { command := none
    description := none
    kind := none
    nodes := []
    completers := .empty
    choices := .empty
    defaults := .empty
    requires := []
    channels := .empty
    guilds := .empty
    action := .nothing }

/-- What a call leaves: the draft and whether the call was refused. -/
abbrev Outcome := Draft × Except Fault Unit

/-- Accepts a call. -/
def accept (d : Draft) : Outcome := (d, .ok ())

/-- Refuses a call and leaves the draft as it is. -/
def refuse (d : Draft) (fault : Fault) : Outcome := (d, .error fault)

/-- Makes a change that needs the name of the command. -/
def whenNamed (d : Draft) (operation : String) (change : Draft → Outcome) : Outcome :=
  if d.command.isSome then change d else d.refuse (.commandNotSet operation)

/-- Sets the description, once; an empty one is ignored. -/
def setDescription (d : Draft) (description : String) : Outcome :=
  if description.isEmpty then d.accept
  else if d.description.isSome then d.refuse (.duplicateDescription (d.command.getD ""))
  else accept { d with description := some description }

/-- Sets the name, once, and then the description. -/
def setCommand (d : Draft) (name description : String) : Outcome :=
  match d.command with
  | some existing => d.refuse (.duplicateCommand existing)
  | none => setDescription { d with command := some name } description

/-- Records where the suggestions for an argument come from: choices or a completer, whichever came
last. -/
def setCompletion (d : Draft) (key : Key) : Option Completion → Draft
  | none => d
  | some (.autocomplete completer) =>
    { d with
      choices := d.choices.erase key
      completers := d.completers.insert key completer }
  | some (.choices texts) =>
    { d with
      completers := d.completers.erase key
      choices := d.choices.insert key texts }

/-- Records the default of an argument, if the argument is optional. -/
def setDefault (d : Draft) (key : Key) (optional : Bool) : Option OptionValue → Draft
  | some value => if optional then { d with defaults := d.defaults.insert key value } else d
  | none => d

/-- Adds the arguments of a pattern.  What belongs to an argument goes to the last one; only
arguments with a numeric datatype can be bounded. -/
def addArgument (d : Draft) (o : ArgumentOptions) : Outcome :=
  match Pattern.tokens o.pattern with
  | .error fault => d.refuse fault
  | .ok tokens =>
    let scope := Token.scope? tokens
    let arguments := Token.arguments tokens
    let declared := { d with nodes := Node.append scope (o.entries arguments) d.nodes }
    match arguments.getLast? with
    | none =>
      if o.targetsArgument then d.refuse (.noArgumentTarget o.pattern) else accept declared
    | some target =>
      if o.isBounded && !isNumericDatatype target.datatype then
        d.refuse (.numericBound target.name target.datatype)
      else
        let key : Key := ⟨scope, target.name⟩
        accept ((declared.setCompletion key o.completion).setDefault key target.optional o.default)

/-- Adds a requirement unless it is there already. -/
def addRequirement (d : Draft) (r : Requirement) : Draft :=
  if d.requires.contains r then d else { d with requires := d.requires ++ [r] }

/-- Makes a call. -/
def apply (d : Draft) : Call → Outcome
  | .setCommand name description => d.setCommand name description
  | .setDescription description => d.setDescription description
  | .setKind kind => accept { d with kind := some kind }
  | .addSubcommand name description =>
    d.whenNamed "add_subcommand" fun d =>
      accept { d with nodes := Node.ensure name description d.nodes }
  | .addArgument options => d.whenNamed "add_argument" (addArgument · options)
  | .addRequire value =>
    d.whenNamed "add_require" fun d => accept (d.addRequirement (.classify value))
  | .addChannel channel =>
    d.whenNamed "add_channel" fun d => accept { d with channels := d.channels.insert channel () }
  | .addGuild guild =>
    d.whenNamed "add_guild" fun d => accept { d with guilds := d.guilds.insert guild () }
  | .setAction action => d.whenNamed "set_action" fun d => accept { d with action := action }

/-- Makes calls one after the other, refused or not. -/
def applyAll (d : Draft) (calls : List Call) : Draft :=
  calls.foldl (fun d call => (d.apply call).1) d

/-- Makes calls one after the other up to the first that is refused. -/
def applyWhileAccepted (d : Draft) : List Call → Except Fault Draft
  | [] => .ok d
  | call :: rest =>
    match d.apply call with
    | (d, .ok ()) => d.applyWhileAccepted rest
    | (_, .error fault) => .error fault

/-- The definition that a draft has grown to. -/
def build (d : Draft) : Except Fault Definition :=
  match d.command, d.description with
  | none, _ => .error (.commandNotSet "build")
  | some name, none => .error (.missingDescription name)
  | some name, some description =>
    .ok
      { name := name
        description := description
        kind := d.kind.getD .chatInput
        nodes := d.nodes
        choices := d.choices
        defaults := d.defaults
        requires := d.requires
        channels := d.channels
        guilds := d.guilds
        completers := d.completers
        action := d.action
        published := none }

end Draft

end SlashCommands
