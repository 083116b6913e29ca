import SlashCommands.Datum.Record
import SlashCommands.Rest.Request

/-!
# Exchanges

A request is sent again as long as the server answers that there were too many, each time after the
wait that the server asks for.  `exchange` plays this against the answers that a server is going to
give, one for each request.  A wait of more seconds than a duration has is no failure of the
request: the program breaks off.
-/

namespace SlashCommands.Rest

/-- What a server does with a request. -/
inductive Answer
  | response (status : Nat) (body : String)
  | dropped
  deriving DecidableEq, Repr

/-- What a server is going to do.  After its last answer it drops what it gets.  Requests do not get
to a server that is not reachable. -/
structure Server where
  reachable : Bool
  answers : List Answer

/-- The server that nothing gets to. -/
def Server.unreachable : Server := ⟨false, []⟩

/-- Why an exchange fails: there is no answer, or the answer is no success. -/
inductive ExchangeFault
  | unsent (cause : String)
  | refused (body : String)
  deriving DecidableEq, Repr

/-- The program breaks off at a wait that is no duration. -/
structure Panic where
  wait : Float

/-- The status of a server that has had too many requests. -/
def tooMany : Nat := 429

/-- Holds of the statuses of success. -/
def isSuccess (status : Nat) : Bool :=
  200 ≤ status && status < 300

/-- The seconds that a rate limit asks to wait, if it does. -/
def wantedWait? (d : Datum) : Option Float := do
  let f ← Datum.fields? .json ["retry_after"] d
  f.required "retry_after" Datum.float?

/-- The wait if none is asked for. -/
def usualWait : Float := 1.0

/-- The shortest wait. -/
def leastWait : Float := 0.1

/-- Holds of the seconds that can be waited. -/
def isWait (seconds : Float) : Bool :=
  seconds < 18446744073709551616.0

namespace Client

variable (client : Client)

/-- The seconds that the body of a rate limit asks to wait. -/
def askedWait? (body : String) : Option Float :=
  (client.read? body).bind wantedWait?

/-- The seconds to wait after a rate limit. -/
def waitAfter (body : String) : Float :=
  let asked := (client.askedWait? body).getD usualWait
  if leastWait < asked then asked else leastWait

end Client

/-- How an exchange went: the requests that were sent, the waits between them, what came of it, and
the answers that the server has left. -/
structure Exchange where
  sent : List Request
  waits : List Float
  outcome : Except Panic (Except ExchangeFault String)
  answers : List Answer

/-- The exchange in which a request was sent first, and a wait came after it. -/
def Exchange.after (request : Request) (wait : Float) (e : Exchange) : Exchange :=
  { e with sent := request :: e.sent, waits := wait :: e.waits }

/-- The exchange with a server that is going to give some answers. -/
def exchange (client : Client) (request : Request) : List Answer → Exchange
  | [] => ⟨[request], [], .ok (.error (.unsent (client.lost request))), []⟩
  | .dropped :: rest => ⟨[request], [], .ok (.error (.unsent (client.lost request))), rest⟩
  | .response status body :: rest =>
    if status = tooMany then
      let wait := client.waitAfter body
      if isWait wait then (exchange client request rest).after request wait
      else ⟨[request], [], .error ⟨wait⟩, rest⟩
    else if isSuccess status then ⟨[request], [], .ok (.ok body), rest⟩
    else ⟨[request], [], .ok (.error (.refused body)), rest⟩

/-- What has gone between the program and the server. -/
structure Traffic where
  server : Server
  exchanges : List Exchange

namespace Traffic

/-- No traffic yet. -/
def start (server : Server) : Traffic := ⟨server, []⟩

/-- All requests that the server got. -/
def requests (t : Traffic) : List Request :=
  t.exchanges.flatMap (·.sent)

/-- All waits, in seconds. -/
def waits (t : Traffic) : List Float :=
  t.exchanges.flatMap (·.waits)

/-- The traffic with one more exchange. -/
def add (t : Traffic) (e : Exchange) : Traffic :=
  ⟨{ t.server with answers := e.answers }, t.exchanges ++ [e]⟩

end Traffic

/-- What is done with the server at hand; the program may break off on the way. -/
abbrev Link := ExceptT Panic (StateM Traffic)

/-- Sends a request, again if need be, and gives the body of the response. -/
def send (client : Client) (request : Request) : Link (Except ExchangeFault String) := do
  match client.fault? request with
  | some cause => return .error (.unsent cause)
  | none =>
    let t ← get
    if t.server.reachable then
      let e := exchange client request t.server.answers
      set (t.add e)
      liftExcept e.outcome
    else return .error (.unsent (client.lost request))

end SlashCommands.Rest
