import SlashCommands.Toml.Reader
import SlashCommands.Toml.Writer

/-!
# TOML

The codec that the program runs with.  A document can be written if its numbers are not too large.
-/

namespace SlashCommands.Toml

/-- Holds of tables whose numbers can be written. -/
def Section.fits (s : Section) : Bool :=
  s.entries.all fun
    | (_, .int n) => Datum.fitsInt64 n
    | _ => true

/-- Reads and writes TOML; what is wrong with a text is not told. -/
def codec : Codec where
  read? := read?
  fault _ := "TOML parse error"
  write sections :=
    if sections.all Section.fits then .ok (write sections)
    else .error "out-of-range value for u64 type"

end SlashCommands.Toml
