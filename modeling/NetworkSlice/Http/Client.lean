import NetworkSlice.Credential.Basic
import NetworkSlice.Http.Authority
import NetworkSlice.Http.Status
import NetworkSlice.Http.Url
import NetworkSlice.Wire.Record

/-
Clients: who asks, with which token, and what can go wrong on the way.

A client is made from a credential, and everything it sends carries the
credential's token. What lies between it and the servers is a `Transport`,
which either brings a reply or nothing.
-/
namespace NetworkSlice.Http

/-- How clients are made. -/
structure ClientSettings where
  /-- How many seconds a request may take. -/
  timeoutSecs : UInt64
deriving DecidableEq, Repr

/-- The settings that hold unless others are set. -/
def ClientSettings.standard : ClientSettings := ⟨30⟩

/-- The members of client settings. -/
def ClientSettings.record : Wire.Record ClientSettings (UInt64 × Unit) where
  name := "RestConfig"
  fields := .cons (.defaulted "timeout_secs" .u64 standard.timeoutSecs) .nil
  closed := false
  write s := (s.timeoutSecs, ())
  read | (secs, ()) => .ok ⟨secs⟩

/-- The format of client settings. -/
def ClientSettings.format : Wire.Format ClientSettings := ClientSettings.record.format

/-- What a request does. -/
inductive Verb where
  | get
  | post
  | delete
deriving DecidableEq, Repr

/-- The name of a verb. -/
def Verb.name : Verb → String
  | get => "GET"
  | post => "POST"
  | delete => "DELETE"

/-- A request on its way. -/
structure Message where
  verb : Verb
  url : Url
  authorization : String
  contentType : String
  body : String

/-- What a server replies. -/
structure ServerReply where
  status : Nat
  body : String

/-- What carries requests; it may change with each. -/
structure Transport (τ : Type) where
  carry : τ → Message → Option ServerReply × τ

/-- Nothing is answered. -/
def Transport.silent {τ : Type} : Transport τ := ⟨fun state _ => (none, state)⟩

/-- Why there is no reply. -/
inductive SendError where
  /-- The address is none. -/
  | noAddress
  /-- The address is not one the client can ask. -/
  | wrongAddress (url : Url)
  /-- Nothing came back. -/
  | noReply (url : Url)
deriving DecidableEq, Repr

/-- The wording of the error. -/
def SendError.message : SendError → String
  | noAddress => "builder error"
  | wrongAddress url => s!"builder error for url ({url.text})"
  | noReply url => s!"error sending request for url ({url.text})"

/-- A client of one server. -/
structure Client where
  /-- What all addresses begin with. -/
  base : String
  authorization : String
deriving DecidableEq, Repr

/-- Whether a byte may stand in a header. -/
def isHeaderByte (b : UInt8) : Bool := (32 ≤ b && b != 127) || b == 9

namespace Client

/-- An address without slashes at its end. -/
def trimSlashes (s : String) : String :=
  String.ofList (s.toList.reverse.dropWhile (· == '/')).reverse

/-- The client of a credential. -/
def make (c : Credential) : Except String Client :=
  if !c.token.toUTF8.toList.all isHeaderByte then
    .error "Invalid bearer token: failed to parse header value"
  else if c.ca.all Authority.isUsable then .ok ⟨trimSlashes c.endpoint, "Bearer " ++ c.token⟩
  else .error "Failed to create HTTP client: builder error"

/-- Send a request to an address. -/
def send {τ : Type} (client : Client) (t : Transport τ) (state : τ) (verb : Verb)
    (address body : String) : Except SendError ServerReply × τ :=
  match (Url.read? address).map Url.asked with
  | none => (.error .noAddress, state)
  | some url =>
    if url.isReachable then
      match t.carry state ⟨verb, url, client.authorization, "application/json", body⟩ with
      | (some reply, state) => (.ok reply, state)
      | (none, state) => (.error (.noReply url), state)
    else (.error (.wrongAddress url), state)

end Client

end NetworkSlice.Http
