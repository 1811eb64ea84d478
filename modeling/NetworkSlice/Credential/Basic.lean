import NetworkSlice.Text.Inspect

/-
What it takes to reach a cluster: where it is, the token to show, and the
certificate authority to trust.
-/
namespace NetworkSlice

/-- Bytes. -/
abbrev Bytes := List UInt8

/-- Access to one cluster. -/
structure Credential where
  endpoint : String
  token : String
  /-- The certificates of the authority to trust. -/
  ca : Option Bytes
deriving DecidableEq, Repr

/-- What an inspection shows of a credential: not the token, and only the size
of the certificates. -/
def Credential.inspect (c : Credential) : Text.Shape :=
  .record "Credential" [
    ("endpoint", .quote c.endpoint),
    ("bearer_token", .quote Text.redacted),
    ("ca_data", .optional (fun ca => .number ca.length) c.ca)]

end NetworkSlice
