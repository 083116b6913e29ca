import SlashCommands.Json.Reader
import SlashCommands.Rest.Request
import SlashCommands.Url

/-!
# Requests by URL

The client that the program runs with takes the address of a request for a URL.  Whether a request
can be made at all is settled before anything is sent: its address must be a URL of the network with
a host, and its headers must be texts that can be written on a line.
-/

namespace SlashCommands.Rest

/-- Why a request cannot be made. -/
inductive RequestFault
  | address (fault : Url.Fault)
  | header
  | scheme (url : Url)
  | target (url : Url)
  deriving DecidableEq, Repr

/-- The wording of a fault. -/
def RequestFault.message : RequestFault → String
  | .address fault => "builder error: " ++ fault.message
  | .header => "builder error: failed to parse header value"
  | .scheme url => "builder error for url (" ++ url.text ++ "): URL scheme is not allowed"
  | .target url => "builder error for url (" ++ url.text ++ "): Parsed Url is not a valid Uri"

/-- Holds of the characters that can stand in a header. -/
def isHeaderChar (c : Char) : Bool :=
  c == '\t' || (0x20 ≤ c.toNat && c.toNat != 0x7F)

/-- Holds if the headers of a request can be written. -/
def Request.hasWritableHeaders (r : Request) : Bool :=
  r.authorization.all fun text => text.toList.all isHeaderChar

/-- Holds of the schemes that requests are made by. -/
def isRequestScheme (scheme : String) : Bool :=
  scheme == "http" || scheme == "https"

/-- The length beyond which an address cannot be sent, in bytes. -/
def addressLimit : Nat := 65534

/-- Holds of the characters that the host of a URL can hold and an address that is sent cannot. -/
def isUnsendable (c : Char) : Bool :=
  ['"', '\x60', '\x7b', '\x7d'].contains c

/-- Holds of the addresses that can be sent. -/
def isSendable (url : Url) : Bool :=
  url.text.utf8ByteSize ≤ addressLimit &&
    url.authority.all fun a => !a.host.text.toList.any isUnsendable

/-- The address of a request that can be made.  Of several faults the first one counts in the order:
the address as such, the headers, what the address is good for. -/
def Request.prepare (r : Request) : Except RequestFault Url := do
  let url ← (Url.ofText r.url).mapError .address
  if !url.hasHost then .error (.scheme url)
  else if !r.hasWritableHeaders then .error .header
  else if !isRequestScheme url.scheme then .error (.scheme url)
  else if !isSendable url then .error (.target url)
  else return url

/-- The target of a request that can be made. -/
def Request.target (r : Request) : String :=
  r.prepare.toOption.elim "" Url.target

/-- The client that takes addresses for URLs. -/
def Client.byUrl : Client where
  fault? r :=
    match r.prepare with
    | .ok _ => none
    | .error fault => some fault.message
  lost r :=
    let url := r.prepare.toOption.elim r.url Url.text
    s!"error sending request for url ({url})"
  read? := Json.read?

/-- Which requests can be made: the address must be a URL of the network with a host that can be
sent, and the headers must be writable. -/
theorem Client.fault?_byUrl_eq_none_iff {r : Request} :
    Client.byUrl.fault? r = none ↔
      r.hasWritableHeaders ∧ ∃ url, Url.ofText r.url = .ok url ∧ url.hasHost ∧
        isRequestScheme url.scheme ∧ isSendable url := by
  have hfault : Client.byUrl.fault? r = none ↔ ∃ url, r.prepare = .ok url := by
    rw [byUrl]
    dsimp only
    cases r.prepare with
    | error fault => simp
    | ok url => simp
  rw [hfault, Request.prepare]
  cases Url.ofText r.url with
  | error fault =>
    constructor
    · rintro ⟨url, ⟨⟩⟩
    · rintro ⟨-, url, ⟨⟩, -⟩
  | ok url =>
    have hok : (Except.ok url : Except Url.Fault Url).mapError RequestFault.address = .ok url := rfl
    simp only [hok, bind, Except.bind, Except.ok.injEq, exists_eq_left']
    cases url.hasHost <;> cases r.hasWritableHeaders <;> cases isRequestScheme url.scheme <;>
      cases isSendable url <;> simp [pure, Except.pure]

end SlashCommands.Rest
