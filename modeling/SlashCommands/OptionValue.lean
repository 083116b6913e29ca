import SlashCommands.Datum.Record
import SlashCommands.Decimal.Layout
import SlashCommands.Decimal.Reading
import SlashCommands.Text.Integer

/-!
# Option values

The value of an option as the platform delivers it, and the views of it that an action can ask for.
-/

namespace SlashCommands

/-- The value of an option. -/
inductive OptionValue
  | boolean (value : Bool)
  | integer (value : Int64)
  | number (value : Float)
  | string (value : String)

namespace OptionValue

/-- The text of a value; numbers are written without an exponent. -/
def display : OptionValue → String
  | .boolean b => if b then "true" else "false"
  | .integer n => Decimal.signed (n.toInt < 0) (Decimal.digitText n.toInt.natAbs)
  | .number x => Decimal.plain x
  | .string s => s

/-- The value as text, if it is text. -/
def asString? : OptionValue → Option String
  | .string s => some s
  | _ => none

/-- The value as an integer, if it is one or is text that spells one. -/
def asInteger? : OptionValue → Option Int64
  | .integer n => some n
  | .string s => (Text.readSigned s).toOption
  | _ => none

/-- The value as a double, if it is a number or is text that spells one. -/
def asNumber? : OptionValue → Option Float
  | .integer n => some (Float.ofInt n.toInt)
  | .number x => some x
  | .string s => Decimal.readFloat? s
  | .boolean _ => none

/-- The value as a truth value, if it is one. -/
def asBool? : OptionValue → Option Bool
  | .boolean b => some b
  | _ => none

/-- Reads a value.  Whole numbers that do not fit 64 bits with a sign become doubles. -/
def ofDatum? : Datum → Option OptionValue
  | .bool b => some (.boolean b)
  | .int n =>
    if Datum.fitsInt64 n then some (.integer (Int64.ofInt n))
    else some (.number (Float.ofInt n))
  | .float x => some (.number x)
  | .text s => some (.string s)
  | _ => none

/-- The datum of a value. -/
def toDatum : OptionValue → Datum
  | .boolean b => .bool b
  | .integer n => .int n.toInt
  | .number x => .float x
  | .string s => .text s

end OptionValue

end SlashCommands
