import NetworkSlice.Credential.Vault
import NetworkSlice.Http.Client
import NetworkSlice.Wire.Document

/-
Listing the secrets of a managing cluster.

The secrets that carry a label are asked for in one request. Each of them
names its cluster in the label's value and holds the cluster's certificates
under a key; one that cannot be used is passed over, so that only its own
cluster is left without.
-/
namespace NetworkSlice.Api

open Http Wire

/-- The name and labels of a secret. -/
structure SecretMeta where
  name : String
  labels : Table String
deriving DecidableEq

/-- A secret. -/
structure Secret where
  metadata : SecretMeta
  data : Table String
deriving DecidableEq

/-- A list of secrets. -/
structure SecretList where
  items : List Secret
deriving DecidableEq

/-- The members of a secret's metadata. -/
def SecretMeta.record : Record SecretMeta (String × Table String × Unit) where
  name := "SecretMeta"
  fields :=
    .cons (.defaulted "name" .text "") <|
    .cons (.defaulted "labels" Format.text.table Table.empty) .nil
  closed := false
  write m := (m.name, m.labels, ())
  read | (a, b, ()) => .ok ⟨a, b⟩

/-- The members of a secret. -/
def Secret.record : Record Secret (SecretMeta × Table String × Unit) where
  name := "Secret"
  fields :=
    .cons (.required "metadata" SecretMeta.record.format) <|
    .cons (.defaulted "data" Format.text.table Table.empty) .nil
  closed := false
  write s := (s.metadata, s.data, ())
  read | (a, b, ()) => .ok ⟨a, b⟩

/-- The members of a list of secrets. -/
def SecretList.record : Record SecretList (List Secret × Unit) where
  name := "SecretList"
  fields := .cons (.defaulted "items" Secret.record.format.list []) .nil
  closed := false
  write l := (l.items, ())
  read | (a, ()) => .ok ⟨a⟩

/-- The cluster of a secret and its certificates, if the secret can be used. -/
def Secret.entry? (selector dataKey : String) (s : Secret) : Option (String × Bytes) := do
  let cluster ← s.metadata.labels.get? selector
  let encoded ← s.data.get? dataKey
  let bytes ← Text.Base64.decode encoded.toList
  return (cluster, bytes)

/-- The certificates of every cluster that has some; of two secrets for one
cluster the later counts. -/
def SecretList.collect (selector dataKey : String) (l : SecretList) : Table Bytes :=
  Table.ofList (l.items.filterMap (Secret.entry? selector dataKey))

/-- The address of the list. -/
def secretsUrl (base selector : String) : String :=
  base ++ "/api/v1/secrets?labelSelector=" ++ Text.percentEncoded selector

/-- What the reply to the request says. -/
def listingOf (client : Client) (selector dataKey : String) : Except SendError ServerReply → Listing
  | .error e =>
    .error (.clusterUnreachable client.base s!"secret listing failed: {e.message}")
  | .ok reply =>
    if !isSuccess reply.status then
      .error (.clusterUnreachable client.base
        s!"secret listing returned {statusText reply.status}")
    else
      match SecretList.record.format.readText reply.body with
      | .ok list => .ok (list.collect selector dataKey)
      | .error _ => .error (.serialization "secret list: error decoding response body")

/-- List the secrets with a label. -/
def listSecrets {τ : Type} (client : Client) (t : Transport τ) (state : τ)
    (selector dataKey : String) : Listing × τ :=
  let (result, state) := client.send t state .get (secretsUrl client.base selector) ""
  (listingOf client selector dataKey result, state)

/-- The client that lists secrets. -/
def lister (manager : Credential) : Except SliceError Client :=
  (Client.make manager).mapError .configuration

end NetworkSlice.Api
