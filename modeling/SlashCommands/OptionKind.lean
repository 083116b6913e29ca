/-!
# Datatypes and option kinds

A pattern tags its arguments with datatypes, any lower-case words; the platform knows eight kinds
of options.  Tags that name no other kind are strings.
-/

namespace SlashCommands

/-- The datatype of an argument without a tag. -/
def defaultDatatype : String := "string"

/-- The tags of arguments that can be bounded. -/
def numericDatatypes : List String := ["num", "number", "float", "int", "intg", "integer"]

/-- Holds of the tags of arguments that can be bounded. -/
def isNumericDatatype (datatype : String) : Bool :=
  numericDatatypes.contains datatype

/-- The kind of an option on the platform. -/
inductive OptionKind
  | string
  | integer
  | boolean
  | user
  | channel
  | role
  | mentionable
  | number
  deriving DecidableEq, Repr

namespace OptionKind

/-- The kind that a datatype stands for. -/
def ofDatatype : String → OptionKind
  | "channel" => .channel
  | "user" => .user
  | "boolean" | "bool" => .boolean
  | "role" => .role
  | "mention" | "mentionable" => .mentionable
  | "num" | "number" | "float" => .number
  | "int" | "integer" | "intg" => .integer
  | _ => .string

/-- The number of a kind on the platform. -/
def code : OptionKind → Nat
  | .string => 3
  | .integer => 4
  | .boolean => 5
  | .user => 6
  | .channel => 7
  | .role => 8
  | .mentionable => 9
  | .number => 10

/-- The name of a kind. -/
def name : OptionKind → String
  | .string => "string"
  | .integer => "integer"
  | .boolean => "boolean"
  | .user => "user"
  | .channel => "channel"
  | .role => "role"
  | .mentionable => "mentionable"
  | .number => "number"

/-- Holds of the kinds whose options can be bounded. -/
def isNumeric : OptionKind → Bool
  | .integer | .number => true
  | _ => false

theorem isNumeric_ofDatatype (datatype : String) :
    (ofDatatype datatype).isNumeric = isNumericDatatype datatype := by
  fun_cases ofDatatype datatype <;> simp_all [isNumeric, isNumericDatatype, numericDatatypes]

end OptionKind

end SlashCommands
