import NetworkSlice.Api.Secrets
import NetworkSlice.Proofs.Table
import NetworkSlice.Proofs.Text.Base64

/-
What is collected from a list of secrets.

A secret is of use to one cluster at most: the one its label names, if it has
the cluster's certificates in Base64 under the key (`Secret.Holds`). What is
collected for a cluster is what the last secret holds that is of use to it
(`get?_collect_iff`), and a secret that is of no use to a cluster could as well
not be there (`get?_collect_skip`). So a later secret that cannot be used takes
nothing away, and a list with one good secret for each cluster is the table of
their certificates, in whatever order it comes (`collect_exact`).
-/
namespace NetworkSlice.Api

variable {selector dataKey cluster : String} {b : Bytes} {s : Secret} {l : SecretList}

/-- The label names the cluster, and these bytes are under the key in Base64. -/
def Secret.Holds (selector dataKey : String) (s : Secret) (cluster : String) (b : Bytes) : Prop :=
  s.metadata.labels.get? selector = some cluster
    ∧ s.data.get? dataKey = some (String.ofList (Text.Base64.encode b))

/-- The secret has the cluster's certificates. -/
def Secret.Serves (selector dataKey cluster : String) (s : Secret) : Prop :=
  ∃ b, s.Holds selector dataKey cluster b

namespace Secret

/-- A secret has an entry where it names a cluster and holds its certificates.
-/
theorem entry?_eq_some_iff :
    s.entry? selector dataKey = some (cluster, b) ↔ s.Holds selector dataKey cluster b := by
  have hdecode : ∀ encoded : String,
      Text.Base64.decode encoded.toList = some b
        ↔ encoded = String.ofList (Text.Base64.encode b) := fun encoded => by
    rw [Text.Base64.decode_eq_some_iff, ← String.toList_inj, String.toList_ofList]
  unfold entry? Holds
  simp only [Option.bind_eq_bind, Option.bind_eq_some_iff]
  constructor
  · rintro ⟨x, hx, encoded, hencoded, bytes, hbytes, h⟩
    cases h
    exact ⟨hx, hencoded.trans (congrArg some ((hdecode encoded).mp hbytes))⟩
  · rintro ⟨hx, hencoded⟩
    exact ⟨cluster, hx, _, hencoded, b, (hdecode _).mpr rfl, rfl⟩

end Secret

namespace SecretList

/-- A cluster is listed with the last secret that serves it. -/
theorem get?_collect_iff :
    (l.collect selector dataKey).get? cluster = some b
      ↔ ∃ s, IsLast (Secret.Serves selector dataKey cluster) s l.items
        ∧ s.Holds selector dataKey cluster b := by
  unfold collect
  simp only [Table.get?_ofList_filterMap_iff, Secret.entry?_eq_some_iff]
  exact Iff.rfl

/-- A cluster is not listed where no secret serves it. -/
theorem get?_collect_eq_none_iff :
    (l.collect selector dataKey).get? cluster = none
      ↔ ∀ s ∈ l.items, ¬s.Serves selector dataKey cluster := by
  unfold collect
  rw [Table.get?_ofList_filterMap_eq_none_iff]
  simp only [ne_eq, Secret.entry?_eq_some_iff, Secret.Serves, not_exists]

/-- A secret plays no part in what is collected for a cluster that it does not
serve. -/
theorem get?_collect_skip {before after : List Secret}
    (h : ¬s.Serves selector dataKey cluster) :
    (collect selector dataKey ⟨before ++ s :: after⟩).get? cluster
      = (collect selector dataKey ⟨before ++ after⟩).get? cluster := by
  refine Option.ext fun b => ?_
  simp only [get?_collect_iff, IsLast.skip_iff h]

/-- A good secret for each entry of a table makes up the table, in whatever order
they come. -/
theorem collect_of_holds {t : Table Bytes} {entries : List (String × Bytes)}
    {secretOf : String × Bytes → Secret} (hperm : entries.Perm t.entries)
    (hholds : ∀ e ∈ entries, (secretOf e).Holds selector dataKey e.1 e.2) :
    collect selector dataKey ⟨entries.map secretOf⟩ = t := by
  have hentries : (entries.map secretOf).filterMap (Secret.entry? selector dataKey) = entries := by
    clear hperm
    induction entries with
    | nil => rfl
    | cons e rest ih =>
        have he := Secret.entry?_eq_some_iff.mpr (hholds e List.mem_cons_self)
        rw [List.map_cons, List.filterMap_cons_some he,
          ih fun e' he' => hholds e' (List.mem_cons_of_mem e he')]
  have hnodup : (entries.map Prod.fst).Nodup :=
    (hperm.map Prod.fst).nodup_iff.mpr t.ordered.nodup
  refine Table.ext_get? fun q => Option.ext fun v => ?_
  unfold collect
  rw [hentries, Table.get?_ofList hnodup, lookup_eq_some_iff_mem hnodup, hperm.mem_iff,
    Table.get?_eq_some_iff_mem]

/-- A cluster gets the bytes of the last secret that serves it and nothing where
none does, whatever secrets that do not serve it stand before, between or after;
and one secret for each entry of a table gives back the table. -/
theorem collect_exact (selector dataKey cluster : String) (l : SecretList) :
    (∀ b, (l.collect selector dataKey).get? cluster = some b
        ↔ ∃ s, IsLast (Secret.Serves selector dataKey cluster) s l.items
          ∧ s.Holds selector dataKey cluster b)
      ∧ ((l.collect selector dataKey).get? cluster = none
        ↔ ∀ s ∈ l.items, ¬s.Serves selector dataKey cluster)
      ∧ (∀ before s after, l.items = before ++ s :: after →
        ¬s.Serves selector dataKey cluster →
        (l.collect selector dataKey).get? cluster
          = (collect selector dataKey ⟨before ++ after⟩).get? cluster)
      ∧ ∀ (t : Table Bytes) (entries : List (String × Bytes)) (secretOf : String × Bytes → Secret),
        entries.Perm t.entries →
        (∀ e ∈ entries, (secretOf e).Holds selector dataKey e.1 e.2) →
        collect selector dataKey ⟨entries.map secretOf⟩ = t := by
  refine ⟨fun b => get?_collect_iff, get?_collect_eq_none_iff, ?_, ?_⟩
  · rintro before s after hitems hs
    obtain ⟨items⟩ := l
    subst hitems
    exact get?_collect_skip hs
  · exact fun t entries secretOf hperm hholds => collect_of_holds hperm hholds

/-- The secret of a cluster with this text under the key. -/
def secretWith (cluster text : String) : Secret where
  metadata := { name := "", labels := Table.ofList [("l2sm-cert", cluster)] }
  data := Table.ofList [("cert-value", text)]

/-- A good secret, an older good one before it, a broken one after it, and one of
another cluster. -/
def mixedSecrets : List Secret :=
  [secretWith "edge" "QQ==", secretWith "edge" "Q0E=", secretWith "core" "Q0EA",
    secretWith "edge" "Q0E"]

/-- The broken secret takes nothing away, and certificates of any length are got
back. -/
theorem collect_exact_mixedSecrets :
    (collect "l2sm-cert" "cert-value" ⟨mixedSecrets⟩).get? "edge" = some [67, 65]
      ∧ ¬(secretWith "edge" "Q0E").Serves "l2sm-cert" "cert-value" "edge"
      ∧ collect "l2sm-cert" "cert-value" ⟨[("edge", [65]), ("core", [67, 65, 0]), ("far", [])].map
          fun e => secretWith e.1 (String.ofList (Text.Base64.encode e.2))⟩
        = Table.ofList [("core", [67, 65, 0]), ("edge", [65]), ("far", [])] := by
  obtain ⟨-, -, hskip, htable⟩ := collect_exact "l2sm-cert" "cert-value" "edge" ⟨mixedSecrets⟩
  have hbroken : ¬(secretWith "edge" "Q0E").Serves "l2sm-cert" "cert-value" "edge" := by
    rintro ⟨b, hb⟩
    exact nomatch Secret.entry?_eq_some_iff.mpr hb
  refine ⟨?_, hbroken, ?_⟩
  · exact (hskip (mixedSecrets.take 3) _ [] rfl hbroken).trans rfl
  · refine htable _ _ _ (List.Perm.swap _ _ _) fun e _ => ⟨?_, rfl⟩
    exact (Table.get?_insert Table.empty _ _ _).trans (if_pos rfl)

end SecretList

end NetworkSlice.Api
