import SlashCommands.Json.Codec
import SlashCommands.Json.Reader
import SlashCommands.Json.Writer

/-!
# JSON

The codec that the program runs with.  Every value can be written.
-/

namespace SlashCommands.Json

/-- Reads and writes JSON; what is wrong with a text is not told. -/
def codec : Codec where
  read? := read?
  fault _ := ""
  write d := .ok (write d)
  pretty d := .ok (pretty d)

end SlashCommands.Json
