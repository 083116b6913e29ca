import SlashCommands.Datum.Record

/-!
# Kinds of commands

A command is typed into the chat or is picked from the context menu of a user or a message.
-/

namespace SlashCommands

/-- How a command is invoked. -/
inductive CommandKind
  | chatInput
  | user
  | message
  deriving DecidableEq, Repr, Inhabited

namespace CommandKind

/-- The number of a kind on the platform. -/
def code : CommandKind → Nat
  | .chatInput => 1
  | .user => 2
  | .message => 3

/-- The kind with a number. -/
def ofCode? : Nat → Option CommandKind
  | 1 => some .chatInput
  | 2 => some .user
  | 3 => some .message
  | _ => none

/-- The name of a kind. -/
def name : CommandKind → String
  | .chatInput => "chat_input"
  | .user => "user"
  | .message => "message"

/-- The kind with a name. -/
def named? : String → Option CommandKind
  | "chat_input" => some .chatInput
  | "user" => some .user
  | "message" => some .message
  | _ => none

/-- Holds of the kinds that are picked from a menu. -/
def isContextMenu : CommandKind → Bool
  | .chatInput => false
  | _ => true

/-- Reads a kind by its name. -/
def ofDatum? (format : Datum.Format) : Datum → Option CommandKind :=
  Datum.choice? format.isUnit named?

theorem ofCode?_code (kind : CommandKind) : ofCode? kind.code = some kind := by
  cases kind <;> rfl

/-- The platform numbers no other kinds. -/
theorem ofCode?_eq_none_iff {code : Nat} : ofCode? code = none ↔ code ≠ 1 ∧ code ≠ 2 ∧ code ≠ 3 := by
  rw [ofCode?.eq_def]
  split
  · simp
  · simp
  · simp
  · next h1 h2 h3 => exact iff_of_true rfl ⟨h1, h2, h3⟩

theorem named?_name (kind : CommandKind) : named? kind.name = some kind := by
  cases kind <;> rfl

end CommandKind

end SlashCommands
