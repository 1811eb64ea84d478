import NetworkSlice.Cluster.Basic
import NetworkSlice.Http.Client
import NetworkSlice.Json.Printer

/-
The object interface of a cluster's server.

Objects are created by posting them to their collection and deleted by name
inside it. The namespace and the name stand in the address as one
percent-encoded segment each.
-/
namespace NetworkSlice.Api

open Http

/-- The address of a collection. -/
def collectionUrl (base : String) (kind : ObjectKind) (namespaceName : String) : String :=
  base ++ "/apis/" ++ apiVersion ++ "/namespaces/" ++ Text.percentEncoded namespaceName ++ "/" ++
    kind.plural

/-- The address of an object. -/
def objectUrl (base : String) (kind : ObjectKind) (namespaceName name : String) : String :=
  collectionUrl base kind namespaceName ++ "/" ++ Text.percentEncoded name

/-- What a status other than success means for a call about a named object. -/
def statusError (name : String) (reply : ServerReply) : ObjectError :=
  if reply.status = 404 then .notFound name
  else if reply.status = 409 then .alreadyExists name
  else .rejected reply.status (if reply.status = 304 then "" else reply.body)

/-- The result of a call. -/
def callResult (name : String) : Except SendError ServerReply → Except ObjectError Unit
  | .error e => .error (.transport e.message)
  | .ok reply => if isSuccess reply.status then .ok () else .error (statusError name reply)

/-- Carry out a call. -/
def call {τ : Type} (client : Client) (t : Transport τ) (state : τ) (c : Call) :
    Except ObjectError Unit × τ :=
  let (result, state) := match c with
    | .create kind ns object =>
      client.send t state .post (collectionUrl client.base kind ns) object.sorted.compact
    | .delete kind ns name =>
      client.send t state .delete (objectUrl client.base kind ns name) ""
  (callResult c.name result, state)

/-- What a participant's server and its client have come to. -/
structure Session (τ : Type) where
  client : Option Client
  net : τ

/-- A call before there is a client. -/
def notConnected : ObjectError := .transport "not connected"

/-- The server of one participant. -/
def cluster {τ : Type} (t : Transport τ) (participant : String) : Cluster (Session τ) where
  lookup _ := some 0
  connect s c :=
    match Client.make c with
    | .ok client => ⟨some 0, .ok (), { s with client := some client }, s⟩
    | .error reason => ⟨some 0, .error (.clusterUnreachable participant reason), s, s⟩
  call s c :=
    match s.client with
    | none => ⟨some 0, .error notConnected, s, s⟩
    | some client =>
      let (result, net) := call client t s.net c
      ⟨some 0, result, { s with net }, s⟩

end NetworkSlice.Api
