/-!
# Faults of a declaration

What can be wrong with the declaration of a command.  These are mistakes of whoever declares it;
serving interactions never produces one.
-/

namespace SlashCommands

/-- Why a declaration is refused. -/
inductive Fault
  | duplicateCommand (existing : String)
  | duplicateDescription (command : String)
  | commandNotSet (operation : String)
  | missingDescription (command : String)
  | numericBound (name datatype : String)
  | misplacedSubcommand (token : String) (index : Nat)
  | unterminatedGroup (pattern : String)
  | emptyPattern
  | noArgumentTarget (pattern : String)
  deriving DecidableEq, Repr

/-- The wording of a fault. -/
def Fault.message : Fault → String
  | .duplicateCommand existing => s!"command name already set to '{existing}'"
  | .duplicateDescription command => s!"description already set for command '{command}'"
  | .commandNotSet operation => s!"command name must be set before calling {operation}"
  | .missingDescription command => s!"command '{command}' has no description"
  | .numericBound name datatype =>
    s!"min/max set on argument '{name}' with non-numeric type '{datatype}'"
  | .misplacedSubcommand token index =>
    s!"subcommand token '{token}' at position {index}; subcommands must lead the syntax"
  | .unterminatedGroup pattern => s!"unterminated bracket group in syntax '{pattern}'"
  | .emptyPattern => "syntax string is empty"
  | .noArgumentTarget pattern =>
    s!"syntax '{pattern}' declares no argument to attach options to"

end SlashCommands
