import SlashCommands.Datum.Record
import SlashCommands.Permission

/-!
# Requirements

A command may require permissions and roles of the member who invokes it.
-/

namespace SlashCommands

/-- One requirement; a role is meant by its id or its name. -/
inductive Requirement
  | permission (permission : Permission)
  | role (role : String)
  deriving DecidableEq, Repr

namespace Requirement

/-- Classifies a requirement as it is written.  After an at sign a role is meant in any case, else
the name of a permission means the permission. -/
def classify (value : String) : Requirement :=
  match value.toList with
  | '@' :: rest => .role (String.ofList rest)
  | _ =>
    match Permission.named? value with
    | some known => .permission known
    | none => .role value

open Datum (Format fields? choice? text?)

/-- Reads the value of a requirement of some kind. -/
def valueOfDatum? (kind : String) (d : Datum) : Option Requirement :=
  match kind with
  | "permission" => (text? d).bind fun name => (Permission.named? name).map .permission
  | "role" => (text? d).map .role
  | _ => none

/-- Reads a requirement from its kind and its value; the kind is a choice in a table and plain text
in a list. -/
def ofDatum? (d : Datum) : Option Requirement := do
  let f ← fields? .json ["kind", "value"] d
  let kind ← f.required "kind" (if f.positional then text? else choice? Format.json.isUnit some)
  f.required "value" (valueOfDatum? kind)

/-- The kind of a requirement. -/
def kindName : Requirement → String
  | .permission _ => "permission"
  | .role _ => "role"

/-- The name that a requirement asks for. -/
def subject : Requirement → String
  | .permission known => known.name
  | .role wanted => wanted

/-- The datum of a requirement: its kind and its value. -/
def toDatum (r : Requirement) : Datum :=
  .table [("kind", .text r.kindName), ("value", .text r.subject)]

end Requirement

end SlashCommands
