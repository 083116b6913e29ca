import SlashCommands.Toml.Codec
import SlashCommands.Toml.Quoted

/-!
# Writing TOML

A document is written as its tables, one after the other, with an entry a line and an empty line
between tables.  Entries hold values without parts.
-/

namespace SlashCommands.Toml

/-- A value without parts.  Apart from text these are spelled as in JSON. -/
def scalar : Datum → String
  | .text s => quote s
  | other => Json.scalar other

/-- The line of an entry. -/
def entryLine (key : String) (value : Datum) : String :=
  key ++ " = " ++ scalar value ++ "\n"

/-- The lines of a table. -/
def Section.text (s : Section) : String :=
  "[" ++ s.name ++ "]\n" ++ String.join (s.entries.map fun e => entryLine e.1 e.2)

/-- The text of a document. -/
def write (sections : List Section) : String :=
  Json.intercalate "\n" (sections.map Section.text)

end SlashCommands.Toml
