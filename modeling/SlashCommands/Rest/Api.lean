import SlashCommands.Conversation
import SlashCommands.Registry
import SlashCommands.Rest.Exchange
import SlashCommands.RoleNames

/-!
# The platform

The platform keeps the commands of an application, knows the roles of guilds and takes the answers
to interactions.  An errand is a request for one of these together with the words that reports use
for it.
-/

namespace SlashCommands.Rest

/-- How to get at the platform. -/
structure Api where
  client : Client
  base : String
  token : String
  applicationId : String

/-- An address without the slashes at its end. -/
def trimSlashes (base : String) : String :=
  String.ofList (base.toList.reverse.dropWhile (· == '/')).reverse

/-- A request and what it is for. -/
structure Errand where
  purpose : String
  request : Request

/-- Why an errand fails. -/
inductive ErrandFault
  | exchange (errand : Errand) (fault : ExchangeFault)
  | unreadableRoles (guild : String)

namespace ErrandFault

/-- The wording of a fault. -/
def message : ErrandFault → String
  | .exchange errand (.unsent _) =>
    let purpose := errand.purpose
    s!"discord {purpose} request failed"
  | .exchange errand (.refused body) =>
    let purpose := errand.purpose
    s!"discord {purpose} failed: {body}"
  | .unreadableRoles guild => s!"failed to decode roles of guild {guild}"

/-- The wording of a fault with its cause. -/
def explained : ErrandFault → String
  | .exchange errand (.unsent cause) => message (.exchange errand (.unsent cause)) ++ ": " ++ cause
  | fault => fault.message

end ErrandFault

/-- Does an errand and gives the body of the response. -/
def Errand.run (client : Client) (errand : Errand) : Link (Except ErrandFault String) :=
  return (← send client errand.request).mapError (.exchange errand)

/-- The commands of an application, all of its guilds or one. -/
inductive Scope
  | global
  | guild (id : String)
  deriving DecidableEq, Repr

/-- The word for a scope. -/
def Scope.name : Scope → String
  | .global => "global"
  | .guild _ => "guild"

namespace Api

/-- The authorization of the application. -/
def authorization (api : Api) : String := "Bot " ++ api.token

/-- The address of the commands in a scope. -/
def commandsUrl (api : Api) : Scope → String
  | .global => trimSlashes api.base ++ "/applications/" ++ api.applicationId ++ "/commands"
  | .guild id =>
    trimSlashes api.base ++ "/applications/" ++ api.applicationId ++ "/guilds/" ++ id ++ "/commands"

/-- The address of the roles of a guild. -/
def rolesUrl (api : Api) (guild : String) : String :=
  trimSlashes api.base ++ "/guilds/" ++ guild ++ "/roles"

/-- Removes all commands in a scope. -/
def clear (api : Api) (scope : Scope) : Errand :=
  ⟨"clear " ++ scope.name ++ " commands",
    ⟨.put, api.commandsUrl scope, some api.authorization, some (.list [])⟩⟩

/-- Adds a command in a scope. -/
def create (api : Api) (scope : Scope) (schema : Datum) : Errand :=
  ⟨"create " ++ scope.name ++ " command",
    ⟨.post, api.commandsUrl scope, some api.authorization, some schema⟩⟩

/-- Asks for the roles of a guild. -/
def roles (api : Api) (guild : String) : Errand :=
  ⟨"list guild roles", ⟨.get, api.rolesUrl guild, some api.authorization, none⟩⟩

/-- The errand that carries out an operation. -/
def errand (api : Api) : Operation → Errand
  | .clearGlobal => api.clear .global
  | .clearGuild guild => api.clear (.guild guild)
  | .createGlobal schema => api.create .global schema.toDatum
  | .createGuild guild schema => api.create (.guild guild) schema.toDatum

/-- The registry of the platform. -/
def registry (api : Api) : Registry Link := fun op => do
  match ← (api.errand op).run api.client with
  | .ok _ => return .ok ()
  | .error fault => return .error fault.explained

end Api

/-- Reads a role: its id and its name. -/
def roleOfDatum? (d : Datum) : Option (String × String) := do
  let f ← Datum.fields? .json ["id", "name"] d
  return (← f.required "id" Datum.text?, ← f.required "name" Datum.text?)

/-- Reads a listing of roles. -/
def listingOfDatum? (d : Datum) : Option RoleListing :=
  (Datum.list? roleOfDatum? d).map .ofList

/-- The directory of the platform. -/
def Api.directory (api : Api) : RoleDirectory Link := fun guild => do
  match ← (api.roles guild).run api.client with
  | .error fault => return .error fault.message
  | .ok body =>
    match (api.client.read? body).bind listingOfDatum? with
    | some listing => return .ok listing
    | none => return .error (ErrandFault.unreadableRoles guild).message

/-! ### Answers to interactions -/

/-- Where an interaction is answered; its token is all that this takes. -/
structure Callback where
  client : Client
  base : String
  interactionId : String
  token : String

namespace Callback

/-- The address for the answer. -/
def url (c : Callback) : String :=
  trimSlashes c.base ++ "/interactions/" ++ c.interactionId ++ "/" ++ c.token ++ "/callback"

/-- The type of an answer that is a message. -/
def messageType : Nat := 4

/-- The type of an answer that is a list of suggestions. -/
def suggestionsType : Nat := 8

/-- The flag of a message that only the member sees. -/
def ephemeralFlag : Nat := 64

/-- The body of an answer. -/
def body (type : Nat) (data : List (String × Datum)) : Datum :=
  .table [("type", .int type), ("data", .table data)]

/-- Sends a message back. -/
def errand (c : Callback) : Message → Errand
  | .reply r =>
    let flags := if r.ephemeral then [("flags", Datum.int ephemeralFlag)] else []
    ⟨"interaction reply",
      ⟨.post, c.url, none, some (body messageType (("content", .text r.content) :: flags))⟩⟩
  | .suggest suggestions =>
    ⟨"autocomplete result", ⟨.post, c.url, none,
      some (body suggestionsType [("choices", .list (suggestions.map Suggestion.toDatum))])⟩⟩

/-- Answers with a message. -/
def answer (c : Callback) (message : Message) : Link (Except String Unit) := do
  match ← (c.errand message).run c.client with
  | .ok _ => return .ok ()
  | .error fault => return .error fault.explained

end Callback

end SlashCommands.Rest
