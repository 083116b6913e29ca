import SlashCommands.Datum

/-!
# What is asked of JSON

The program reads JSON texts and writes values on one line or on several.  How such texts look is up
to a `Json.Codec`.
-/

namespace SlashCommands.Json

/-- Reads and writes values.  `fault` is what is said of a text that is not the value it should be;
writing may fail, and then tells why. -/
structure Codec where
  read? : String → Option Datum
  fault : String → String
  write : Datum → Except String String
  pretty : Datum → Except String String

end SlashCommands.Json
