import SlashCommands.Manager

/-!
# The hub

Inbound interactions are announced at the hub, which runs the listeners subscribed to their kind, all
of them at the same time.  A manager serves what it is subscribed to.
-/

namespace SlashCommands

/-- What is announced: invocations, from the chat or a menu, and requests for suggestions. -/
inductive EventKind
  | command
  | autocomplete
  deriving DecidableEq, Repr

/-- Serves an interaction as the manager stands when it comes. -/
abbrev Listener := Manager → Interaction → Conversation Unit

/-- The listeners by kind, in the order of their subscription. -/
structure Hub where
  command : List Listener
  autocomplete : List Listener

namespace Hub

/-- A hub without listeners. -/
def empty : Hub := ⟨[], []⟩

/-- The listeners of a kind. -/
def listeners (h : Hub) : EventKind → List Listener
  | .command => h.command
  | .autocomplete => h.autocomplete

/-- Subscribes a listener. -/
def subscribe (h : Hub) (kind : EventKind) (listener : Listener) : Hub :=
  match kind with
  | .command => { h with command := h.command ++ [listener] }
  | .autocomplete => { h with autocomplete := h.autocomplete ++ [listener] }

/-- Announces an interaction and tells how many listeners ran.  They run at the same time, in the
order that a schedule brings about. -/
def emit (h : Hub) (schedule : List Nat) (kind : EventKind) (m : Manager) (i : Interaction) :
    Conversation Nat := do
  .join schedule ((h.listeners kind).map fun listener => listener m i)
  return (h.listeners kind).length

end Hub

/-- Serves invocations. -/
def Listener.dispatching : Listener := fun m i => do
  let _ ← m.dispatch i

/-- Serves requests for suggestions. -/
def Listener.completing : Listener := fun m i => do
  let _ ← m.autocomplete i

namespace Manager

variable {μ : Type → Type} [Monad μ]

/-- Subscribes the manager to invocations, then empties the scopes and registers all definitions. -/
def initializeCommands (m : Manager) (hub : Hub) (registry : Registry μ) :
    μ (Except RegistryFailure PublishReport × Manager × Hub) := do
  let hub := hub.subscribe .command .dispatching
  let (result, m) ← m.republish registry
  return (result, m, hub)

end Manager

/-- Subscribes the manager to requests for suggestions. -/
def Hub.initializeAutocomplete (hub : Hub) : Hub :=
  hub.subscribe .autocomplete .completing

end SlashCommands
