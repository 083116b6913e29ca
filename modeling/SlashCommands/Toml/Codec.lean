import SlashCommands.Datum

/-!
# What is asked of TOML

The program reads TOML documents and writes documents of tables with an entry a line.  How such
texts look is up to a `Toml.Codec`.
-/

namespace SlashCommands.Toml

/-- A table of a document: its name and its entries. -/
structure Section where
  name : String
  entries : List (String × Datum)

/-- The datum of a document. -/
def documentDatum (sections : List Section) : Datum :=
  .table (sections.map fun s => (s.name, .table s.entries))

/-- Reads and writes documents.  `fault` is what is said of a text that is not the document it
should be; writing may fail, and then tells why. -/
structure Codec where
  read? : String → Option Datum
  fault : String → String
  write : List Section → Except String String

end SlashCommands.Toml
