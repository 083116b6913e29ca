import SlashCommands.Arguments
import SlashCommands.Requirement

/-!
# Conversations

Serving an interaction is a conversation with whoever answers it: messages are sent one after the
other, each is accepted or fails, and the rest may depend on that.  A `Conversation` is such a plan
as a value; `Conversation.run` plays it against a responder and keeps a record.
-/

namespace SlashCommands

/-- What the declaration of a command says, apart from what the command does. -/
structure Signature where
  name : String
  description : String
  kind : CommandKind
  nodes : List Node
  choices : Keyed Key (List String)
  defaults : Keyed Key OptionValue
  requires : List Requirement
  channels : NameSet
  guilds : NameSet

/-- All arguments of a command with their scopes, in order. -/
def Signature.entries (s : Signature) : List (Option String × Entry) :=
  Node.walk s.nodes

/-- What an action gets to work with. -/
structure Invocation where
  signature : Signature
  interaction : Interaction
  arguments : Arguments

/-- What happens in the course of a conversation besides messages. -/
inductive Mark
  | started (invocation : Invocation)
  | noted (invocation : Invocation) (names : List String)
  | consulted (key : Key) (option : SuppliedOption)
  | worked (note : String)

/-- A conversation that ends with a result. -/
inductive Conversation (α : Type) : Type
  | finish (result : α)
  | mark (mark : Mark) (next : Conversation α)
  | send (message : Message) (next : Except String Unit → Conversation α)

namespace Conversation

variable {α β : Type}

/-- Goes on with another conversation at the end of one. -/
def bind : Conversation α → (α → Conversation β) → Conversation β
  | .finish result, next => next result
  | .mark m rest, next => .mark m (rest.bind next)
  | .send message rest, next => .send message fun answer => (rest answer).bind next

instance : Monad Conversation where
  pure := .finish
  bind := bind

/-- Sends a message and ends with the answer. -/
def tell (message : Message) : Conversation (Except String Unit) :=
  .send message .finish

/-- Holds conversations one after the other. -/
def inTurn : List (Conversation Unit) → Conversation Unit
  | [] => .finish ()
  | c :: rest => c.bind fun _ => inTurn rest

/-- Holds conversations at the same time.  A schedule says which of them goes on, mark by mark and
message by message; what is left at its end is held in turn. -/
def join : List Nat → List (Conversation Unit) → Conversation Unit
  | [], conversations => inTurn conversations
  | n :: schedule, conversations =>
    match conversations[n]? with
    | some (.mark m next) => .mark m (join schedule (conversations.set n next))
    | some (.send message next) =>
      .send message fun answer => join schedule (conversations.set n (next answer))
    | _ => join schedule conversations

end Conversation

/-- Answers the messages of a conversation, given how many came before. -/
abbrev Responder := Nat → Message → Except String Unit

/-- What the record of a conversation holds. -/
inductive Event
  | marked (mark : Mark)
  | sent (message : Message) (failed : Bool)

namespace Conversation

variable {α : Type}

/-- Plays a conversation after so many messages. -/
def runFrom (responder : Responder) : Nat → Conversation α → List Event × α
  | _, .finish result => ([], result)
  | count, .mark m next =>
    let (events, result) := next.runFrom responder count
    (.marked m :: events, result)
  | count, .send message next =>
    let answer := responder count message
    let (events, result) := (next answer).runFrom responder (count + 1)
    (.sent message (match answer with | .ok _ => false | .error _ => true) :: events, result)

/-- Plays a conversation: its record and its result. -/
def run (responder : Responder) (c : Conversation α) : List Event × α :=
  c.runFrom responder 0

end Conversation

end SlashCommands
