import SlashCommands.Argument
import SlashCommands.Interaction

/-!
# Arguments of an invocation

`Resolved.ofNodes` pairs each declared argument with the value that an interaction supplies for it.
`Arguments` is what an action reads: it looks values up by name, in the scope of the invoked
subcommand first and at top level second, and falls back on recorded defaults.
-/

namespace SlashCommands

/-- A declared argument with the value supplied for it, if there is one. -/
structure ResolvedArgument where
  name : String
  scope : Option String
  kind : TokenKind
  datatype : String
  optional : Bool
  flag : Option String
  value : Option OptionValue

/-- The declared arguments and flags with their values. -/
structure Resolved where
  args : List ResolvedArgument
  flags : List ResolvedArgument

/-- The value that an interaction supplies for an argument.  The arguments of a subcommand have none
unless that subcommand is invoked. -/
def suppliedValue (i : Interaction) (scope : Option String) (name : String) : Option OptionValue :=
  if scope.isNone || i.subcommand == scope then (i.option? name).bind (·.value) else none

/-- Pairs an argument with its value. -/
def ResolvedArgument.ofEntry (i : Interaction) (scope : Option String) (e : Entry) :
    ResolvedArgument :=
  ⟨e.name, scope, e.kind, e.datatype, e.optional, e.flag, suppliedValue i scope e.name⟩

namespace Resolved

/-- Adds an argument after the others of its sort: flags are kept apart. -/
def push (r : Resolved) (a : ResolvedArgument) : Resolved :=
  if a.kind == .flag then { r with flags := r.flags ++ [a] } else { r with args := r.args ++ [a] }

/-- Adds the arguments of a node with their values. -/
def pushNode (i : Interaction) (r : Resolved) : Node → Resolved
  | .argument e => r.push (.ofEntry i none e)
  | .subcommand s => s.entries.foldl (fun r e => r.push (.ofEntry i (some s.name) e)) r

/-- Pairs all arguments with their values, node by node. -/
def ofNodes (nodes : List Node) (i : Interaction) : Resolved :=
  nodes.foldl (pushNode i) ⟨[], []⟩

theorem pushNode_eq (i : Interaction) (r : Resolved) (node : Node) :
    pushNode i r node = node.entries.foldl (fun r v => r.push (.ofEntry i v.1 v.2)) r := by
  cases node with
  | argument e => rfl
  | subcommand s => rw [pushNode, Node.entries, List.foldl_map]

theorem foldl_push (r : Resolved) (all : List ResolvedArgument) :
    all.foldl push r =
      ⟨r.args ++ all.filter (·.kind != .flag), r.flags ++ all.filter (·.kind == .flag)⟩ := by
  induction all generalizing r with
  | nil => rw [List.foldl_nil, List.filter_nil, List.filter_nil, List.append_nil, List.append_nil]
  | cons a rest ih =>
    rw [List.foldl_cons, ih, push]
    by_cases hkind : a.kind = .flag
    · simp [hkind]
    · simp [hkind]

/-- The arguments are those of a walk over the nodes, sorted. -/
theorem ofNodes_eq_walk (nodes : List Node) (i : Interaction) :
    let all := (Node.walk nodes).map fun v => ResolvedArgument.ofEntry i v.1 v.2
    ofNodes nodes i = ⟨all.filter (·.kind != .flag), all.filter (·.kind == .flag)⟩ := by
  intro all
  have hfold : ofNodes nodes i = all.foldl push ⟨[], []⟩ := by
    rw [List.foldl_map, Node.walk, List.foldl_flatMap, ofNodes]
    exact congrArg (nodes.foldl · ⟨[], []⟩) (funext fun r => funext fun node => pushNode_eq i r node)
  rw [hfold, foldl_push, List.nil_append, List.nil_append]

end Resolved

/-- What an action reads its arguments from. -/
structure Arguments where
  resolved : Resolved
  scope : Option String
  defaults : Keyed Key OptionValue

namespace Arguments

/-- The arguments of an interaction with a command. -/
def ofInteraction (nodes : List Node) (defaults : Keyed Key OptionValue) (i : Interaction) :
    Arguments :=
  ⟨.ofNodes nodes i, i.subcommand, defaults⟩

/-- The first argument of a name in the active scope, else the first at top level. -/
def find? (a : Arguments) (among : List ResolvedArgument) (name : String) :
    Option ResolvedArgument :=
  (among.find? fun r => r.name == name && r.scope == a.scope).or
    (among.find? fun r => r.name == name && r.scope.isNone)

/-- The default for a name in the active scope, else the one at top level. -/
def default? (a : Arguments) (name : String) : Option OptionValue :=
  (a.defaults.get? ⟨a.scope, name⟩).or (a.defaults.get? ⟨none, name⟩)

/-- The supplied value of a name, else its default. -/
def lookup? (a : Arguments) (among : List ResolvedArgument) (name : String) : Option OptionValue :=
  ((a.find? among name).bind (·.value)).or (a.default? name)

/-- The value of an argument. -/
def arg? (a : Arguments) (name : String) : Option OptionValue :=
  a.lookup? a.resolved.args name

/-- The value of a flag. -/
def flag? (a : Arguments) (name : String) : Option OptionValue :=
  a.lookup? a.resolved.flags name

/-- Holds if the member supplied a flag, whatever its value. -/
def hasFlag (a : Arguments) (name : String) : Bool :=
  ((a.find? a.resolved.flags name).bind (·.value)).isSome

end Arguments

end SlashCommands
