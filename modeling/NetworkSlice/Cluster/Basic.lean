import NetworkSlice.Credential.Vault
import NetworkSlice.Operation.Run

/-
Clusters: what answers for a participant apart from its credentials.

A cluster may be connected to and called, and says how long it takes until
its participant's credentials are found. The credentials themselves come from
a vault, so a `Site` is a cluster together with a vault and a name to look up
there: nothing a cluster does can put other credentials in their place.
-/
namespace NetworkSlice

/-- What answers for one participant. -/
structure Cluster (σ : Type) where
  /-- How long it takes to find the credentials, in nanoseconds; nothing if it
  never ends. -/
  lookup : σ → Option Nat
  connect : σ → Credential → Reply σ (Except SliceError Unit)
  call : σ → Call → Reply σ (Except ObjectError Unit)

/-- The site of a participant, whose credentials are in the vault. -/
def Cluster.site {σ : Type} (c : Cluster σ) (vault : Vault) (participant : String) : Site σ where
  resolve s := ⟨c.lookup s, vault.resolve participant, s, s⟩
  connect := c.connect
  call := c.call

end NetworkSlice
