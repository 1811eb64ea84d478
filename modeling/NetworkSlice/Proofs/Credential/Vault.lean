import NetworkSlice.Credential.Vault
import NetworkSlice.Proofs.Attempt

/-
What the vault of a listing says of participants.

A participant whose name is its own gets what its entry and the secret of its
name make up, and nothing else (`resolve_load_of_mem`). A participant that
gets nothing is told that credentials were not found (`resolve_load_failsOnly`).
-/
namespace NetworkSlice.Vault

variable {selector participant : String} {participants : List Participant}
  {secrets : Table Bytes} {p : Participant}

/-- Adding participants' credentials makes an assembled vault. -/
theorem assembleAll_eq_assembled (selector : String) (secrets : Table Bytes)
    (participants : List Participant) :
    ∀ found missing, ∃ found' missing',
      assembleAll selector secrets found missing participants = assembled found' missing' := by
  induction participants with
  | nil => intro found missing; exact ⟨found, missing, rfl⟩
  | cons p rest ih =>
      intro found missing
      unfold assembleAll
      split
      · exact ih _ _
      · exact ih _ _

/-- Whatever the listing says, the vault of a request is an assembled one. -/
theorem load_eq_assembled (selector : String) (listing : Listing)
    (participants : List Participant) :
    ∃ found missing, load selector listing participants = assembled found missing := by
  cases listing with
  | error e => exact ⟨_, _, rfl⟩
  | ok secrets => exact assembleAll_eq_assembled selector secrets participants _ _

/-- So a participant without credentials is told that they were not found. -/
theorem resolve_load_failsOnly (listing : Listing) :
    FailsOnly (fun e => ∃ reason, e = .credentialNotFound participant reason)
      ((load selector listing participants).resolve participant) := by
  obtain ⟨found, missing, hload⟩ := load_eq_assembled selector listing participants
  rw [hload]
  unfold resolve
  dsimp only
  split
  · exact failsOnly_ok _
  · exact failsOnly_error ⟨_, rfl⟩

/-- A credential is put together from the auth of an entry and the secret of
its name. -/
theorem assemble_eq_ok_iff {c : Credential} :
    assemble selector secrets p = .ok c
      ↔ ∃ auth ca, p.auth = some auth ∧ secrets.get? p.name = some ca
        ∧ c = ⟨auth.endpoint, auth.token, some ca⟩ := by
  unfold assemble
  cases p.auth with
  | none => simp
  | some auth =>
      cases secrets.get? p.name with
      | none => simp
      | some ca => simp [eq_comm]

/-- Adding other participants' credentials does not change what a vault says
of a name. -/
theorem resolve_assembleAll_of_not_mem {ps : List Participant} :
    ∀ {found : Table Credential} {missing : Table String},
      (∀ p ∈ ps, p.name ≠ participant) →
      (assembleAll selector secrets found missing ps).resolve participant
        = (assembled found missing).resolve participant := by
  induction ps with
  | nil => intro found missing _; rfl
  | cons q rest ih =>
      intro found missing hne
      obtain ⟨hq, hrest⟩ := List.forall_mem_cons.mp hne
      unfold assembleAll
      cases assemble selector secrets q with
      | ok c =>
          refine (ih hrest).trans ?_
          simp only [resolve, Table.get?_insert, if_neg (Ne.symm hq)]
      | error reason =>
          refine (ih hrest).trans ?_
          simp only [resolve, Table.get?_insert, if_neg (Ne.symm hq)]

/-- What a vault says of a participant is what its entry comes to. -/
theorem resolve_assembleAll_of_mem {ps : List Participant} :
    ∀ {found : Table Credential} {missing : Table String},
      (ps.map Participant.name).Nodup → p ∈ ps → found.get? p.name = none →
      (assembleAll selector secrets found missing ps).resolve p.name
        = (assemble selector secrets p).mapError (.credentialNotFound p.name) := by
  induction ps with
  | nil => intro found missing _ hp; cases hp
  | cons q rest ih =>
      intro found missing hnames hp hfresh
      obtain ⟨hq, hrest⟩ := List.nodup_cons.mp hnames
      have hothers : ∀ p' ∈ rest, p'.name ≠ q.name := fun p' hp' heq =>
        hq (heq ▸ List.mem_map_of_mem hp')
      unfold assembleAll
      rcases List.mem_cons.mp hp with rfl | hp
      · cases assemble selector secrets p with
        | ok c =>
            refine (resolve_assembleAll_of_not_mem hothers).trans ?_
            simp [resolve]
        | error reason =>
            refine (resolve_assembleAll_of_not_mem hothers).trans ?_
            simp [resolve, hfresh]
      · cases assemble selector secrets q with
        | ok c =>
            refine ih hrest hp ?_
            rw [Table.get?_insert, if_neg (hothers p hp), hfresh]
        | error reason => exact ih hrest hp hfresh

/-- The vault of a listing says of a participant what its entry and the secret
of its name come to. -/
theorem resolve_load_of_mem (hnames : (participants.map Participant.name).Nodup)
    (hp : p ∈ participants) :
    (load selector (.ok secrets) participants).resolve p.name
      = (assemble selector secrets p).mapError (.credentialNotFound p.name) :=
  resolve_assembleAll_of_mem hnames hp rfl

/-- Without a listing there are no credentials at all. -/
theorem resolve_load_of_error (selector : String) (participants : List Participant)
    (participant : String) (e : SliceError) :
    ∃ reason, (load selector (.error e) participants).resolve participant
      = .error (.credentialNotFound participant reason) :=
  ⟨_, rfl⟩

end NetworkSlice.Vault
