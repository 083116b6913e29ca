import SlashCommands.Datum

/-!
# Requests

A request to the platform, and the client that makes it.  All that the program knows of a client is
what it says of a request that does not get through, and how it reads what comes back.
-/

namespace SlashCommands.Rest

/-- The method of a request. -/
inductive Method
  | get
  | post
  | put
  deriving DecidableEq, Repr

/-- The name of a method. -/
def Method.name : Method → String
  | .get => "GET"
  | .post => "POST"
  | .put => "PUT"

/-- A request to the platform; a body is sent as JSON. -/
structure Request where
  method : Method
  url : String
  authorization : Option String
  body : Option Datum

/-- What makes requests.  `fault?` is what is wrong with a request that cannot be made, and `lost`
what is said of one that can be made and gets no answer; `read?` reads the body of an answer. -/
structure Client where
  fault? : Request → Option String
  lost : Request → String
  read? : String → Option Datum

end SlashCommands.Rest
