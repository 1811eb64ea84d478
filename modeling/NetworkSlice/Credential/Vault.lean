import NetworkSlice.Credential.Basic
import NetworkSlice.Slice.Spec
import NetworkSlice.Table

/-
Vaults: where the credentials of participants come from.

The credentials of an operation are put together from two halves: the
endpoint and token of the request and the authority's certificates from a
listing of secrets. A participant has credentials only if both halves are
there under its name.
-/
namespace NetworkSlice

/-- What a listing of secrets says: certificates by the name of the cluster. -/
abbrev Listing := Except SliceError (Table Bytes)

/-- A source of credentials. -/
inductive Vault where
  /-- Credentials that were put in one by one. -/
  | memory (credentials : Table Credential)
  /-- Credentials put together from a listing; for participants without, the
  reason why. -/
  | assembled (found : Table Credential) (missing : Table String)
  /-- No credentials at all. -/
  | unavailable (error : SliceError)

namespace Vault

/-- The credential of a participant. -/
def resolve (v : Vault) (participant : String) : Except SliceError Credential :=
  match v with
  | memory credentials =>
    match credentials.get? participant with
    | some c => .ok c
    | none => .error (.credentialNotFound participant "no credential stored")
  | assembled found missing =>
    match found.get? participant with
    | some c => .ok c
    | none =>
      .error (.credentialNotFound participant
        ((missing.get? participant).getD "participant not part of this request"))
  | unavailable e => .error e

/-- The credential of one participant, or why there is none. -/
def assemble (selector : String) (secrets : Table Bytes) (p : Participant) :
    Except String Credential :=
  match p.auth with
  | none => .error "request carries no auth"
  | some auth =>
    match secrets.get? p.name with
    | none => .error s!"no secret labelled {selector}={p.name}"
    | some ca => .ok ⟨auth.endpoint, auth.token, some ca⟩

/-- Add the participants' credentials in turn. -/
def assembleAll (selector : String) (secrets : Table Bytes) :
    Table Credential → Table String → List Participant → Vault
  | found, missing, [] => assembled found missing
  | found, missing, p :: rest =>
    match assemble selector secrets p with
    | .ok c => assembleAll selector secrets (found.insert p.name c) missing rest
    | .error reason => assembleAll selector secrets found (missing.insert p.name reason) rest

/-- The credentials that a listing gives to the participants of a request. -/
def load (selector : String) (listing : Listing) (participants : List Participant) : Vault :=
  match listing with
  | .ok secrets => assembleAll selector secrets .empty .empty participants
  | .error e =>
    let reason := s!"secret listing failed: {e.message}"
    assembled .empty (Table.ofList (participants.map fun p => (p.name, reason)))

end Vault

end NetworkSlice
