import NetworkSlice.Proofs.Credential.Vault
import NetworkSlice.Proofs.Service.Steps
import NetworkSlice.Proofs.Table

/-
A credential has two halves, and a vault gives it out when both are there.

The one half is the auth of an entry and the other the secret of the entry's
name. The names of a request may be repeated before it is planned, so one name
can have entries with auth and entries without. The loop that goes through them
fills two tables, and each table has what the last entry of the name put into
it (`load_eq_tables`). A name that is in both was found: with a secret in the
listing it is the last entry with auth that counts, whatever stands around it
(`resolve_eq_ok_iff`). A name that was not found is told why, and there is one
reason for each way of missing a half (`Lacking`).
-/
namespace NetworkSlice.Vault

variable {selector q : String} {participants : List Participant} {secrets : Table Bytes}
  {listing : Listing} {p : Participant} {c : Credential} {reason : String}

-- =================================================================== entries

/-- The entries of a name. -/
def entriesOf (q : String) (participants : List Participant) : List Participant :=
  participants.filter fun p => p.name = q

theorem mem_entriesOf : p ∈ entriesOf q participants ↔ p ∈ participants ∧ p.name = q := by
  rw [entriesOf, List.mem_filter, decide_eq_true_iff]

/-- The last entry of a name is the last of all entries that have the name. -/
theorem isLast_entriesOf {P : Participant → Prop} :
    IsLast P p (entriesOf q participants) ↔ IsLast (fun p => p.name = q ∧ P p) p participants := by
  rw [entriesOf, IsLast.filter_iff]
  exact IsLast.congr fun p => by rw [decide_eq_true_iff]

theorem getLast?_entriesOf :
    (entriesOf q participants).getLast? = some p
      ↔ IsLast (fun p => p.name = q) p participants := by
  rw [← IsLast.true_iff, isLast_entriesOf]
  exact IsLast.congr fun p => by rw [and_true]

/-- The credential of an entry, under its name. -/
def credentialOf (selector : String) (secrets : Table Bytes) (p : Participant) :
    Option (String × Credential) :=
  (assemble selector secrets p).toOption.map fun c => (p.name, c)

/-- The reason why an entry has none, under its name. -/
def reasonOf (selector : String) (secrets : Table Bytes) (p : Participant) :
    Option (String × String) :=
  match assemble selector secrets p with
  | .ok _ => none
  | .error reason => some (p.name, reason)

/-- An entry gives a credential where it has auth and its secret is listed. -/
theorem credentialOf_eq_some_iff :
    credentialOf selector secrets p = some (q, c)
      ↔ p.name = q ∧ ∃ auth ca, p.auth = some auth ∧ secrets.get? q = some ca
        ∧ c = ⟨auth.endpoint, auth.token, some ca⟩ := by
  have hassemble : credentialOf selector secrets p = some (q, c)
      ↔ p.name = q ∧ assemble selector secrets p = .ok c := by
    unfold credentialOf
    cases assemble selector secrets p <;> simp [Except.toOption]
  rw [hassemble, assemble_eq_ok_iff]
  constructor
  · rintro ⟨rfl, h⟩
    exact ⟨rfl, h⟩
  · rintro ⟨rfl, h⟩
    exact ⟨rfl, h⟩

/-- With a secret in the listing, an entry has a credential as soon as it has
auth. -/
theorem exists_credentialOf_iff {ca : Bytes} (hca : secrets.get? q = some ca) (p : Participant) :
    (∃ c, credentialOf selector secrets p = some (q, c)) ↔ p.name = q ∧ p.auth.isSome := by
  simp only [credentialOf_eq_some_iff]
  constructor
  · rintro ⟨c, hname, auth, -, hauth, -, -⟩
    exact ⟨hname, hauth ▸ rfl⟩
  · rintro ⟨hname, hsome⟩
    obtain ⟨auth, hauth⟩ := Option.isSome_iff_exists.mp hsome
    exact ⟨_, hname, auth, ca, hauth, hca, rfl⟩

/-- Otherwise it gives the reason why not. -/
theorem reasonOf_eq_some_iff :
    reasonOf selector secrets p = some (q, reason)
      ↔ p.name = q
        ∧ (p.auth = none ∧ reason = "request carries no auth"
          ∨ p.auth ≠ none ∧ secrets.get? q = none
            ∧ reason = s!"no secret labelled {selector}={q}") := by
  unfold reasonOf assemble
  constructor
  · intro h
    cases hauth : p.auth with
    | none => simp_all [eq_comm]
    | some auth =>
        cases hca : secrets.get? p.name with
        | none => simp_all [eq_comm]
        | some ca => simp_all
  · rintro ⟨rfl, ⟨hauth, rfl⟩ | ⟨hauth, hca, rfl⟩⟩
    · rw [hauth]
    · obtain ⟨auth, hauth⟩ := Option.ne_none_iff_exists'.mp hauth
      rw [hauth, hca]

-- ==================================================================== tables

/-- The two tables are filled from the entries, each in their order. -/
theorem assembleAll_eq_tables :
    ∀ {found : Table Credential} {missing : Table String},
      assembleAll selector secrets found missing participants
        = assembled
          ((participants.filterMap (credentialOf selector secrets)).foldl
            (fun t e => t.insert e.1 e.2) found)
          ((participants.filterMap (reasonOf selector secrets)).foldl
            (fun t e => t.insert e.1 e.2) missing) := by
  induction participants with
  | nil => intro found missing; rfl
  | cons p rest ih =>
      intro found missing
      unfold assembleAll
      cases h : assemble selector secrets p with
      | ok c =>
          have hfound : credentialOf selector secrets p = some (p.name, c) := by
            rw [credentialOf, h]; rfl
          have hmissing : reasonOf selector secrets p = none := by rw [reasonOf, h]
          rw [List.filterMap_cons_some hfound, List.filterMap_cons_none hmissing]
          exact ih
      | error reason =>
          have hfound : credentialOf selector secrets p = none := by
            rw [credentialOf, h]; rfl
          have hmissing : reasonOf selector secrets p = some (p.name, reason) := by
            rw [reasonOf, h]
          rw [List.filterMap_cons_none hfound, List.filterMap_cons_some hmissing]
          exact ih

/-- The loop fills one table with the credentials and one with the reasons. -/
theorem load_eq_tables :
    load selector (.ok secrets) participants
      = assembled (.ofList (participants.filterMap (credentialOf selector secrets)))
        (.ofList (participants.filterMap (reasonOf selector secrets))) :=
  assembleAll_eq_tables

-- =============================================================== both halves

/-- The credential is made of the secret of the name and of the last entry of
the name that has auth. -/
def Paired (listing : Listing) (participants : List Participant) (q : String)
    (c : Credential) : Prop :=
  ∃ secrets ca p auth, listing = .ok secrets ∧ secrets.get? q = some ca
    ∧ IsLast (fun p => p.auth.isSome) p (entriesOf q participants)
    ∧ p.auth = some auth ∧ c = ⟨auth.endpoint, auth.token, some ca⟩

/-- A name is found where its halves are both there. -/
theorem resolve_eq_ok_iff :
    (load selector listing participants).resolve q = .ok c ↔ Paired listing participants q c := by
  cases listing with
  | error e =>
      constructor
      · intro h
        cases h
      · rintro ⟨secrets, ca, p, auth, h, -⟩
        cases h
  | ok secrets =>
      have hresolve : (load selector (.ok secrets) participants).resolve q = .ok c
          ↔ (Table.ofList (participants.filterMap (credentialOf selector secrets))).get? q
            = some c := by
        rw [load_eq_tables]
        unfold resolve
        dsimp only
        cases (Table.ofList (participants.filterMap (credentialOf selector secrets))).get? q <;>
          simp
      have hlast : ∀ {ca : Bytes}, secrets.get? q = some ca → ∀ p,
          IsLast (fun p => ∃ c, credentialOf selector secrets p = some (q, c)) p participants
            ↔ IsLast (fun p => p.auth.isSome) p (entriesOf q participants) := by
        intro ca hca p
        rw [isLast_entriesOf]
        exact IsLast.congr (exists_credentialOf_iff hca)
      rw [hresolve, Table.get?_ofList_filterMap_iff]
      constructor
      · rintro ⟨p, hp, hc⟩
        obtain ⟨-, auth, ca, hauth, hca, rfl⟩ := credentialOf_eq_some_iff.mp hc
        exact ⟨secrets, ca, p, auth, rfl, hca, (hlast hca p).mp hp, hauth, rfl⟩
      · rintro ⟨_, ca, p, auth, ⟨rfl⟩, hca, hp, hauth, rfl⟩
        have hname := (mem_entriesOf.mp hp.mem).2
        exact ⟨p, (hlast hca p).mpr hp,
          credentialOf_eq_some_iff.mpr ⟨hname, auth, ca, hauth, hca, rfl⟩⟩

-- ============================================================= a half missing

/-- Why a name has no credential: it is no participant's, or the listing failed,
or the last entry of the name lacks a half. -/
inductive Lacking (selector : String) (listing : Listing) (participants : List Participant)
    (q : String) : String → Prop
  | stranger (hnone : entriesOf q participants = []) :
    Lacking selector listing participants q "participant not part of this request"
  | unlisted {e : SliceError} (hlisting : listing = .error e)
    (hsome : entriesOf q participants ≠ []) :
    Lacking selector listing participants q s!"secret listing failed: {e.message}"
  | noAuth {secrets : Table Bytes} {p : Participant} (hlisting : listing = .ok secrets)
    (hhalf : secrets.get? q = none ∨ ∀ p ∈ entriesOf q participants, p.auth = none)
    (hlast : (entriesOf q participants).getLast? = some p) (hauth : p.auth = none) :
    Lacking selector listing participants q "request carries no auth"
  | noSecret {secrets : Table Bytes} {p : Participant} (hlisting : listing = .ok secrets)
    (hhalf : secrets.get? q = none)
    (hlast : (entriesOf q participants).getLast? = some p) (hauth : p.auth ≠ none) :
    Lacking selector listing participants q s!"no secret labelled {selector}={q}"

/-- A name that is not found is told the reason noted for it. -/
theorem resolve_of_not_found {found : Table Credential} {missing : Table String}
    (hfound : found.get? q = none) :
    (assembled found missing).resolve q
      = .error (.credentialNotFound q
          ((missing.get? q).getD "participant not part of this request")) := by
  unfold resolve
  dsimp only
  rw [hfound]

/-- After a listing that failed there are no credentials, and one reason for all
participants. -/
theorem resolve_of_listing_error {e : SliceError} :
    (load selector (.error e) participants).resolve q
      = .error (.credentialNotFound q (if entriesOf q participants = []
          then "participant not part of this request"
          else s!"secret listing failed: {e.message}")) := by
  let reason := s!"secret listing failed: {e.message}"
  have htable : participants.map (fun p => (p.name, reason))
      = participants.filterMap fun p => some (p.name, reason) := by
    rw [← List.filterMap_eq_map]
    rfl
  refine (resolve_of_not_found rfl).trans ?_
  rw [htable]
  by_cases hnone : entriesOf q participants = []
  · rw [if_pos hnone, Table.get?_ofList_filterMap_eq_none_iff.mpr]
    · rfl
    · intro p hp w hw
      have hname := (Prod.mk.inj (Option.some.inj hw)).1
      have hmem := mem_entriesOf.mpr ⟨hp, hname⟩
      rw [hnone] at hmem
      cases hmem
  · obtain ⟨p, hp⟩ := Option.ne_none_iff_exists'.mp (mt List.getLast?_eq_none_iff.mp hnone)
    have hlast := getLast?_entriesOf.mp hp
    rw [if_neg hnone, Table.get?_ofList_filterMap_iff.mpr ⟨p, ?_, ?_⟩]
    · rfl
    · exact (IsLast.congr fun p' => by simp).mp hlast
    · rw [hlast.holds]

/-- A name of which no entry has both halves is told what the last entry
lacks. -/
theorem resolve_of_reasonOf
    (hhalf : secrets.get? q = none ∨ ∀ p ∈ entriesOf q participants, p.auth = none)
    (hlast : (entriesOf q participants).getLast? = some p)
    (hreason : reasonOf selector secrets p = some (q, reason)) :
    (load selector (.ok secrets) participants).resolve q
      = .error (.credentialNotFound q reason) := by
  have hfound : (Table.ofList (participants.filterMap (credentialOf selector secrets))).get? q
      = none := by
    rw [Table.get?_ofList_filterMap_eq_none_iff]
    intro p' hp' w hw
    obtain ⟨hname, auth, ca, hauth, hca, -⟩ := credentialOf_eq_some_iff.mp hw
    rcases hhalf with hnone | hnone
    · rw [hnone] at hca
      cases hca
    · rw [hnone p' (mem_entriesOf.mpr ⟨hp', hname⟩)] at hauth
      cases hauth
  -- only entries of the name have a reason under it, so the last reason is the last entry's
  have hmissing : (Table.ofList (participants.filterMap (reasonOf selector secrets))).get? q
      = some reason := by
    obtain ⟨before, after, hsplit, -, hafter⟩ := getLast?_entriesOf.mp hlast
    refine Table.get?_ofList_filterMap_iff.mpr
      ⟨p, ⟨before, after, hsplit, ⟨reason, hreason⟩, ?_⟩, hreason⟩
    rintro p' hp' ⟨w, hw⟩
    exact hafter p' hp' (reasonOf_eq_some_iff.mp hw).1
  rw [load_eq_tables, resolve_of_not_found hfound, hmissing]
  rfl

/-- What a name lacks is what it is told. -/
theorem Lacking.resolve (h : Lacking selector listing participants q reason) :
    (load selector listing participants).resolve q = .error (.credentialNotFound q reason) := by
  cases h with
  | stranger hnone =>
      cases listing with
      | error e => rw [resolve_of_listing_error, if_pos hnone]
      | ok secrets =>
          refine resolve_assembleAll_of_not_mem fun p hp hname => ?_
          have hmem := mem_entriesOf.mpr ⟨hp, hname⟩
          rw [hnone] at hmem
          cases hmem
  | unlisted hlisting hsome =>
      subst hlisting
      rw [resolve_of_listing_error, if_neg hsome]
  | noAuth hlisting hhalf hlast hauth =>
      subst hlisting
      have hname := (getLast?_entriesOf.mp hlast).holds
      exact resolve_of_reasonOf hhalf hlast
        (reasonOf_eq_some_iff.mpr ⟨hname, Or.inl ⟨hauth, rfl⟩⟩)
  | noSecret hlisting hhalf hlast hauth =>
      subst hlisting
      have hname := (getLast?_entriesOf.mp hlast).holds
      exact resolve_of_reasonOf (Or.inl hhalf) hlast
        (reasonOf_eq_some_iff.mpr ⟨hname, Or.inr ⟨hauth, hhalf, rfl⟩⟩)

/-- Every name has a credential or a reason. -/
theorem paired_or_lacking (selector : String) (listing : Listing)
    (participants : List Participant) (q : String) :
    (∃ c, Paired listing participants q c)
      ∨ ∃ reason, Lacking selector listing participants q reason := by
  by_cases hsome : entriesOf q participants = []
  · exact Or.inr ⟨_, .stranger hsome⟩
  · cases listing with
    | error e => exact Or.inr ⟨_, .unlisted rfl hsome⟩
    | ok secrets =>
        obtain ⟨p, hlast⟩ := Option.ne_none_iff_exists'.mp (mt List.getLast?_eq_none_iff.mp hsome)
        have hlacking :
            (secrets.get? q = none ∨ ∀ p ∈ entriesOf q participants, p.auth = none) →
            ∃ reason, Lacking selector (.ok secrets) participants q reason := by
          intro hhalf
          by_cases hauth : p.auth = none
          · exact ⟨_, .noAuth rfl hhalf hlast hauth⟩
          · refine ⟨_, .noSecret rfl (hhalf.resolve_right fun hnone => ?_) hlast hauth⟩
            exact hauth (hnone p (List.mem_of_getLast? hlast))
        cases hca : secrets.get? q with
        | none => exact Or.inr (hlacking (Or.inl hca))
        | some ca =>
            by_cases hauth : ∃ p ∈ entriesOf q participants, p.auth.isSome
            · obtain ⟨p', hp'⟩ := IsLast.exists_iff.mpr hauth
              obtain ⟨auth, hauth'⟩ := Option.isSome_iff_exists.mp hp'.holds
              exact Or.inl ⟨_, secrets, ca, p', auth, rfl, hca, hp', hauth', rfl⟩
            · refine Or.inr (hlacking (Or.inr fun p' hp' => ?_))
              exact Option.not_isSome_iff_eq_none.mp fun hsome => hauth ⟨p', hp', hsome⟩

/-- And it is told nothing else. -/
theorem resolve_eq_error_iff {e : SliceError} :
    (load selector listing participants).resolve q = .error e
      ↔ ∃ reason, e = .credentialNotFound q reason
        ∧ Lacking selector listing participants q reason := by
  constructor
  · intro h
    rcases paired_or_lacking selector listing participants q with ⟨c, hc⟩ | ⟨reason, hreason⟩
    · rw [resolve_eq_ok_iff.mpr hc] at h
      cases h
    · rw [hreason.resolve] at h
      exact ⟨reason, (Except.error.inj h).symm, hreason⟩
  · rintro ⟨reason, rfl, h⟩
    exact h.resolve

-- ============================================================== other names

section others

variable {listing' : Listing} {participants' : List Participant}
  (hlisting : listing'.map (·.get? q) = listing.map (·.get? q))
  (hentries : entriesOf q participants' = entriesOf q participants)

include hlisting hentries

/-- The halves of a name are a matter of its own entries and its own secret. -/
theorem Paired.of_same_entries (h : Paired listing participants q c) :
    Paired listing' participants' q c := by
  obtain ⟨secrets, ca, p, auth, rfl, hca, hlast, hauth, rfl⟩ := h
  cases listing' with
  | error e => cases hlisting
  | ok secrets' =>
      exact ⟨secrets', ca, p, auth, rfl, (Except.ok.inj hlisting).trans hca, hentries ▸ hlast,
        hauth, rfl⟩

theorem Lacking.of_same_entries (h : Lacking selector listing participants q reason) :
    Lacking selector listing' participants' q reason := by
  cases h with
  | stranger hnone => exact .stranger (hentries.trans hnone)
  | unlisted h hsome =>
      subst h
      cases listing' with
      | ok secrets' => cases hlisting
      | error e' =>
          cases hlisting
          exact .unlisted rfl (hentries ▸ hsome)
  | noAuth h hhalf hlast hauth =>
      subst h
      cases listing' with
      | error e => cases hlisting
      | ok secrets' =>
          have hget : secrets'.get? q = _ := Except.ok.inj hlisting
          exact .noAuth rfl (by rw [hget, hentries]; exact hhalf) (hentries ▸ hlast) hauth
  | noSecret h hhalf hlast hauth =>
      subst h
      cases listing' with
      | error e => cases hlisting
      | ok secrets' =>
          exact .noSecret rfl ((Except.ok.inj hlisting).trans hhalf) (hentries ▸ hlast) hauth

/-- What a vault says of a name depends on the entries and the secret of that
name. -/
theorem resolve_congr :
    (load selector listing' participants').resolve q
      = (load selector listing participants).resolve q := by
  rcases paired_or_lacking selector listing participants q with ⟨c, hc⟩ | ⟨reason, hreason⟩
  · rw [resolve_eq_ok_iff.mpr hc,
      resolve_eq_ok_iff.mpr (hc.of_same_entries hlisting hentries)]
  · rw [hreason.resolve, (hreason.of_same_entries hlisting hentries).resolve]

end others

/-- A name is resolved exactly when both halves of its credential are there, and
to what they make up; else to the reason why. No other name has a say in it. The
secrets are listed once for all names, and the vault is made of what the listing
said. -/
theorem load_resolves (selector q : String) (participants : List Participant)
    (listing : Listing) :
    (∀ c, (load selector listing participants).resolve q = .ok c
        ↔ Paired listing participants q c)
      ∧ (∀ e, (load selector listing participants).resolve q = .error e
        ↔ ∃ reason, e = .credentialNotFound q reason
          ∧ Lacking selector listing participants q reason)
      ∧ (∀ (listing' : Listing) (participants' : List Participant),
        listing'.map (·.get? q) = listing.map (·.get? q) →
        entriesOf q participants' = entriesOf q participants →
        (load selector listing' participants').resolve q
          = (load selector listing participants).resolve q)
      ∧ (∀ {σ : Type} (s : Settings) (m : Method) (r : Request) (plan : Plan) (list : Lister)
        (clusters : String → Cluster σ) (states : String → σ),
        (Service.carryOut s m r plan list clusters states).listings.map
            (fun l => (l.selector, l.dataKey)) = [(s.credentialSelector, s.credentialDataKey)])
      ∧ ∀ (s : Settings) (r : Request) (list : Lister) (v : Vault) (now : Nat),
        Service.vault? s r list = some (v, now) →
          (Service.listingAsk s list).answered = some now
              ∧ v = load s.credentialSelector
                (list s.credentialSelector s.credentialDataKey).listing
                r.slice.participants
            ∨ (Service.listingAsk s list).answered = none
              ∧ v = .unavailable Service.listingTimeout := by
  refine ⟨fun c => resolve_eq_ok_iff, fun e => resolve_eq_error_iff,
    fun _ _ hlisting hentries => resolve_congr hlisting hentries, ?_, ?_⟩
  · intro σ s m r plan list clusters states
    rw [Service.carryOut_listings]
    rfl
  · intro s r list v now h
    unfold Service.listingAsk
    rcases Service.vault?_eq_some h with ⟨hwait, hv⟩ | ⟨hwait, hv⟩
    · rw [hwait]
      exact Or.inl ⟨rfl, hv⟩
    · rw [hwait]
      exact Or.inr ⟨rfl, hv⟩

/-- An entry whose auth may be left out. -/
def entryOf (name : String) (auth : Option Auth) : Participant :=
  { Participant.named name "gate" "10.0.0.1" with auth }

/-- One name with auth twice and without it three times, and one other. -/
def repeatedEntries : List Participant :=
  [entryOf "a" none, entryOf "a" (some ⟨"https://a1", "first"⟩), entryOf "b" none,
    entryOf "a" none, entryOf "a" (some ⟨"https://a2", "second"⟩), entryOf "a" none]

/-- The later auth counts, without regard to what comes after it or to the entry
of the other name. -/
theorem load_resolves_repeatedEntries :
    (load "l2sm-cert" (.ok (Table.ofList [("a", [65]), ("c", [67])])) repeatedEntries).resolve "a"
        = .ok ⟨"https://a2", "second", some [65]⟩
      ∧ Paired (.ok (Table.ofList [("a", [65]), ("c", [67])])) repeatedEntries "a"
        ⟨"https://a2", "second", some [65]⟩
      ∧ (load "l2sm-cert" (.ok (Table.ofList [("a", [65]), ("b", [66])]))
          (repeatedEntries.filter fun p => p.name ≠ "b")).resolve "a"
        = .ok ⟨"https://a2", "second", some [65]⟩
      ∧ ∃ v, Service.vault? .standard ⟨"", Slice.named "blue" repeatedEntries⟩
          (fun _ _ => ⟨some 5, .ok (Table.ofList [("a", [65])])⟩) = some (v, 5)
        ∧ v = load "l2sm-cert" (.ok (Table.ofList [("a", [65])])) repeatedEntries := by
  obtain ⟨hok, -, hothers, -, hvault⟩ := load_resolves "l2sm-cert" "a" repeatedEntries
    (.ok (Table.ofList [("a", [65]), ("c", [67])]))
  have hresolve : (load "l2sm-cert" (.ok (Table.ofList [("a", [65]), ("c", [67])]))
      repeatedEntries).resolve "a" = .ok ⟨"https://a2", "second", some [65]⟩ := rfl
  refine ⟨hresolve, (hok _).mp hresolve, (hothers _ _ rfl rfl).trans hresolve, _, rfl, ?_⟩
  rcases hvault .standard ⟨"", Slice.named "blue" repeatedEntries⟩
    (fun _ _ => ⟨some 5, .ok (Table.ofList [("a", [65])])⟩) _ 5 rfl with ⟨-, hv⟩ | ⟨hnone, -⟩
  · exact hv
  · cases hnone

end NetworkSlice.Vault
