import SlashCommands.Datum
import SlashCommands.Decimal.Layout

/-!
# Writing JSON

Values are written on one line without blanks, or with an entry a line and two blanks for each
level.  Entries keep their order; doubles that are no numbers are written as `null`.
-/

namespace SlashCommands.Json

/-- The four hexadecimal digits of a code below `0x10000`. -/
def hexFour (code : Nat) : String :=
  let digits := Nat.toDigits 16 code
  String.ofList (List.replicate (4 - digits.length) '0' ++ digits)

/-- A character as it stands in a string.  Quotes, backslashes and control characters are escaped,
those with a letter by it. -/
def escapeChar (c : Char) : String :=
  match c with
  | '"' => "\\\""
  | '\\' => "\\\\"
  | '\x08' => "\\b"
  | '\x0c' => "\\f"
  | '\n' => "\\n"
  | '\r' => "\\r"
  | '\t' => "\\t"
  | c => if c.toNat < 0x20 then "\\u" ++ hexFour c.toNat else c.toString

/-- A text as a JSON string. -/
def quote (s : String) : String :=
  "\"" ++ String.join (s.toList.map escapeChar) ++ "\""

/-- A whole number. -/
def intText (n : Int) : String :=
  Decimal.signed (n < 0) (Decimal.digitText n.natAbs)

/-- A value without parts. -/
def scalar : Datum → String
  | .bool true => "true"
  | .bool false => "false"
  | .int n => intText n
  | .float x => (Decimal.compact? x).getD "null"
  | .text s => quote s
  | _ => "null"

/-- Joins texts with a separator. -/
def intercalate (separator : String) : List String → String
  | [] => ""
  | [s] => s
  | s :: rest => s ++ separator ++ intercalate separator rest

mutual

/-- A value on one line. -/
def write : Datum → String
  | .list items => "[" ++ intercalate "," (writeItems items) ++ "]"
  | .table entries => "\x7b" ++ intercalate "," (writeEntries entries) ++ "\x7d"
  | other => scalar other

/-- The items of a list on one line. -/
def writeItems : List Datum → List String
  | [] => []
  | item :: rest => write item :: writeItems rest

/-- The entries of a table on one line. -/
def writeEntries : List (String × Datum) → List String
  | [] => []
  | (key, value) :: rest => (quote key ++ ":" ++ write value) :: writeEntries rest

end

/-- A line break and the blanks of a level. -/
def lineBreak (level : Nat) : String :=
  String.ofList ('\n' :: List.replicate (2 * level) ' ')

/-- Parts between brackets, each on a line of its own; without parts the brackets stand alone. -/
def block (level : Nat) (opening closing : String) (parts : List String) : String :=
  if parts.isEmpty then opening ++ closing
  else
    opening ++ lineBreak (level + 1) ++ intercalate ("," ++ lineBreak (level + 1)) parts
      ++ lineBreak level ++ closing

mutual

/-- A value on several lines, at some level. -/
def prettyAt (level : Nat) : Datum → String
  | .list items => block level "[" "]" (prettyItems (level + 1) items)
  | .table entries => block level "\x7b" "\x7d" (prettyEntries (level + 1) entries)
  | other => scalar other

/-- The items of a list on several lines. -/
def prettyItems (level : Nat) : List Datum → List String
  | [] => []
  | item :: rest => prettyAt level item :: prettyItems level rest

/-- The entries of a table on several lines. -/
def prettyEntries (level : Nat) : List (String × Datum) → List String
  | [] => []
  | (key, value) :: rest =>
    (quote key ++ ": " ++ prettyAt level value) :: prettyEntries level rest

end

/-- A value on several lines. -/
def pretty (value : Datum) : String :=
  prettyAt 0 value

end SlashCommands.Json
