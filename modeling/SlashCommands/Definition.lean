import SlashCommands.Conversation
import SlashCommands.Schema
import SlashCommands.Text.Case

/-!
# Definitions

A definition is a command's signature together with what the command does: its action, and for the
arguments that offer suggestions a completer.  The schema is attached when the command has been
published.
-/

namespace SlashCommands

/-- What a command does when it is invoked.  It may fail with a message. -/
abbrev Action := Invocation → Conversation (Except String Unit)

namespace Action

/-- Does nothing. -/
def nothing : Action := fun _ => .finish (.ok ())

/-- Sends a fixed reply, and fails if that fails. -/
def reply (content : String) (ephemeral : Bool) : Action :=
  fun _ => .tell (.reply ⟨content, ephemeral⟩)

/-- Fails with a message. -/
def fail (message : String) : Action := fun _ => .finish (.error message)

/-- Notes what it finds under some names before it goes on. -/
def noting (names : List String) (next : Action) : Action :=
  fun invocation => .mark (.noted invocation names) (next invocation)

end Action

/-- What is done to find suggestions, until there are texts or it fails with a message.  Nothing is
sent in between; notes tell how far it has come. -/
inductive Consultation
  | finish (result : Except String (List String))
  | note (text : String) (next : Consultation)

namespace Consultation

/-- What it comes to. -/
def result : Consultation → Except String (List String)
  | .finish result => result
  | .note _ next => next.result

/-- What it leaves in a record. -/
def record : Consultation → List Event
  | .finish _ => []
  | .note text next => .marked (.worked text) :: next.record

/-- The conversation that it is a part of. -/
def converse : Consultation → Conversation (Except String (List String))
  | .finish result => .finish result
  | .note text next => .mark (.worked text) next.converse

end Consultation

/-- Suggests texts for an option that is being typed. -/
abbrev Completer := SuppliedOption → Interaction → Consultation

namespace Completer

/-- The texts of a list that start with what has been typed, without regard to case.  All of them
are suggested before anything is typed. -/
def ofList (texts : List String) : Completer :=
  fun option _ =>
    let typed := match option.value with
      | some value => Text.lower value.display.toList
      | none => []
    .finish (.ok (texts.filter fun text => typed.isPrefixOf (Text.lower text.toList)))

/-- The same texts whatever has been typed. -/
def always (texts : List String) : Completer := fun _ _ => .finish (.ok texts)

/-- Fails with a message. -/
def fail (message : String) : Completer := fun _ _ => .finish (.error message)

end Completer

/-- A command: its signature, what it does, and its schema once it is published. -/
structure Definition extends Signature where
  completers : Keyed Key Completer
  action : Action
  published : Option CommandSchema

end SlashCommands
