import NetworkSlice.Operation.Report
import NetworkSlice.Proofs.Operation.Conduct

/-
Clusters as stores.

Whatever the state of a cluster is, an `Inventory` is what is seen of it: its
objects by their keys. A cluster that is `Confined` changes nothing but the
objects it is asked to create, and these as it likes: it may refuse, or fail to
answer, or be given up, and have stored the object or not. One that is
`Healthy` takes connections, deletes what is there and says so of what is not.

Creating on the one leaves all but the participant's own objects as they were
(`Run.ofPlan_confined`), and deleting on the other takes just these away,
however many are there, and counts them (`Run.ofPlan_healthy`), if all it asks
is answered, as by a cluster that is `Prompt`. The count is right because no
key is deleted twice.
-/
namespace NetworkSlice

-- ============================================================ inventories

/-- The objects of a cluster, by what they are found under. -/
abbrev Inventory (β : Type) := ObjectKey → Option β

namespace Inventory

variable {β : Type} {i i' : Inventory β} {keys : List ObjectKey} {key : ObjectKey}

/-- The inventory after the objects under some keys are taken away. -/
def without (i : Inventory β) (keys : List ObjectKey) : Inventory β :=
  fun k => if k ∈ keys then none else i k

/-- How many of the keys there is an object under. -/
def count (i : Inventory β) (keys : List ObjectKey) : Nat :=
  (keys.filter fun k => (i k).isSome).length

theorem without_cons (i : Inventory β) (key : ObjectKey) (keys : List ObjectKey) :
    i.without (key :: keys) = (i.without [key]).without keys := by
  funext k
  by_cases hkey : k = key <;> by_cases hk : k ∈ keys <;> simp [without, hkey, hk]

/-- What is not there cannot be taken away. -/
theorem without_eq_self (h : ∀ k ∈ keys, i k = none) : i.without keys = i := by
  funext k
  unfold without
  split
  · next hk => exact (h k hk).symm
  · rfl

/-- What is taken away makes no difference any more. -/
theorem without_congr (h : ∀ k, k ∉ keys → i k = i' k) : i.without keys = i'.without keys := by
  funext k
  unfold without
  split
  · rfl
  · next hk => exact h k hk

/-- It does not matter from which end keys are taken away. -/
theorem without_reverse (i : Inventory β) (keys : List ObjectKey) :
    i.without keys.reverse = i.without keys := by
  funext k
  simp [without]

theorem count_reverse (i : Inventory β) (keys : List ObjectKey) :
    i.count keys.reverse = i.count keys := by
  rw [count, List.filter_reverse, List.length_reverse]
  rfl

/-- Keys are counted one by one. -/
theorem count_cons (i : Inventory β) (key : ObjectKey) (keys : List ObjectKey) :
    i.count (key :: keys) = (if (i key).isSome then 1 else 0) + i.count keys := by
  unfold count
  rw [List.filter_cons]
  split
  · rw [List.length_cons, Nat.add_comm]
  · rw [Nat.zero_add]

theorem count_eq_zero (h : ∀ k ∈ keys, i k = none) : i.count keys = 0 := by
  unfold count
  rw [List.length_eq_zero_iff, List.filter_eq_nil_iff]
  intro k hk
  simp [h k hk]

/-- Taking away another object leaves the count. -/
theorem count_without (h : key ∉ keys) : (i.without [key]).count keys = i.count keys := by
  unfold count
  rw [List.filter_congr]
  intro k hk
  have hne : k ≠ key := fun heq => h (heq ▸ hk)
  simp [without, hne]

end Inventory

-- =============================================================== clusters

variable {σ β : Type}

/-- The cluster changes nothing but what it is asked to create, whether it is
answered or given up. -/
structure Cluster.Confined (c : Cluster σ) (view : σ → Inventory β) : Prop where
  connect : ∀ state credential, view (c.connect state credential).state = view state
    ∧ view (c.connect state credential).abandoned = view state
  create : ∀ state (r : Call), r.isCreate = true → ∀ k, k ≠ r.key →
    view (c.call state r).state k = view state k ∧ view (c.call state r).abandoned k = view state k

/-- The cluster takes connections and deletes what it is asked to delete. -/
structure Cluster.Healthy (c : Cluster σ) (view : σ → Inventory β) : Prop where
  connect : ∀ state credential, (c.connect state credential).answer = .ok ()
    ∧ view (c.connect state credential).state = view state
  present : ∀ state (r : Call), r.isCreate = false → (view state r.key).isSome →
    (c.call state r).answer = .ok ()
  absent : ∀ state (r : Call), r.isCreate = false → view state r.key = none →
    ∃ e, (c.call state r).answer = .error e ∧ e.isNotFound = true
  delete : ∀ state (r : Call), r.isCreate = false →
    view (c.call state r).state = (view state).without [r.key]

/-- The cluster takes no time for anything. -/
structure Cluster.Prompt (c : Cluster σ) : Prop where
  lookup : ∀ state, c.lookup state = some 0
  connect : ∀ state credential, (c.connect state credential).after = some 0
  call : ∀ state r, (c.call state r).after = some 0

variable {c : Cluster σ} {view : σ → Inventory β} {v : Vault} {p ns : String}
  {deadline : Option Nat} {now : Nat} {state : σ} {q : ParticipantPlan}

/-- A healthy cluster answers a delete with whether there was anything. -/
theorem Cluster.Healthy.answer_delete (hc : c.Healthy view) (state : σ) {r : Call}
    (hr : r.isCreate = false) :
    Action.delete.Passes (c.call state r).answer
      ∧ Call.Answer.isAbsence (c.call state r).answer = (view state r.key).isNone := by
  cases hobject : view state r.key with
  | some object =>
      rw [hc.present state r hr (by rw [hobject]; rfl)]
      exact ⟨trivial, rfl⟩
  | none =>
      obtain ⟨e, hanswer, he⟩ := hc.absent state r hr hobject
      rw [hanswer]
      exact ⟨he, he⟩

namespace Run

/-- A prompt cluster answers all it is asked, with a deadline or without. -/
theorem answered_of_prompt (hc : c.Prompt) (v : Vault) (p : String) (deadline : Option Nat)
    (work : Work) (state : σ) (now : Nat) (m : Machine) :
    ∀ x ∈ (Run.work (c.site v p) deadline now m state work).trace, x.answered ≠ none := by
  induction work, state using turns (c.site v p) generalizing now m with
  | done result state => intro x hx; cases hx
  | enter input rest state ih => exact ih now (m.advance input).1
  | turn work state t ht ih =>
      have hafter : t.after = some 0 := by
        rcases Site.turn?_cases ht with ⟨next, -, rfl⟩ | ⟨c, next, -, rfl⟩ | ⟨r, next, -, rfl⟩
        · exact hc.lookup state
        · exact hc.connect state c
        · exact hc.call state r
      intro x hx
      rw [work_of_turn ht, hafter, Wait.until_zero] at hx
      rcases List.mem_cons.mp hx with rfl | hx
      · exact Option.some_ne_none _
      · exact ih now m x hx

-- =============================================================== creating

/-- Creating leaves all objects but the participant's own as they were. -/
theorem ofPlan_confined (hc : c.Confined view) (v : Vault) (p : String) (deadline : Option Nat)
    (now : Nat) (state : σ) (ns : String) (q : ParticipantPlan) :
    (view (Run.ofPlan (c.site v p) deadline now state .apply ns q).state).without (q.keys ns)
      = (view state).without (q.keys ns) := by
  let own : Ask → Prop := fun a => ∀ r, a = .call r → r.isCreate = true ∧ r.key ∈ q.keys ns
  have hwork : (Work.ofPlan .apply ns q).Ensures .any own fun _ => True := by
    apply Work.ofPlan_ensures
    · intro r h; cases h
    · intro credential _ r h; cases h
    · intro d hd r h
      injection h with h
      subst h
      refine ⟨rfl, ?_⟩
      rw [key_call]
      exact List.mem_map_of_mem hd
    · intro e _; trivial
    · intro e _; trivial
    · intro e; trivial
    · intro text; trivial
  apply Inventory.without_congr
  refine keeps_state (I := fun s => ∀ k, k ∉ q.keys ns → view s k = view state k)
    (c.site v p).meets_any ?_ deadline _ state now (.start .pending) hwork fun k _ => rfl
  intro s work t ht hask hs
  rcases Site.turn?_cases ht with ⟨next, rfl, rfl⟩ | ⟨credential, next, rfl, rfl⟩
    | ⟨r, next, rfl, rfl⟩
  · exact ⟨hs, hs⟩
  · obtain ⟨hanswered, habandoned⟩ := hc.connect s credential
    constructor
    · intro k hk
      exact (congrFun hanswered k).trans (hs k hk)
    · intro k hk
      exact (congrFun habandoned k).trans (hs k hk)
  · obtain ⟨hcreate, hown⟩ := hask r rfl
    constructor
    · intro k hk
      exact (hc.create s r hcreate k fun heq => hk (heq ▸ hown)).1.trans (hs k hk)
    · intro k hk
      exact (hc.create s r hcreate k fun heq => hk (heq ▸ hown)).2.trans (hs k hk)

-- =============================================================== deleting

/-- Deleting under different keys takes away what is there, and counts what is
not. -/
theorem deletes_healthy (hc : c.Healthy view) {participant : String} {total : Nat}
    {ds : List Descriptor} :
    ∀ {absent now : Nat} {m : Machine} {state : σ}, (ds.map (Descriptor.key ns)).Nodup →
      (∀ x ∈ (Run.work (c.site v p) deadline now m state
        (.deletes participant ns total absent ds)).trace, x.answered ≠ none) →
      (∃ gone, gone + (view state).count (ds.map (Descriptor.key ns)) = absent + ds.length
          ∧ (Run.work (c.site v p) deadline now m state
              (.deletes participant ns total absent ds)).ending
            = .finished (.ok s!"deleted {total - gone} resources ({gone} already absent)"))
        ∧ view (Run.work (c.site v p) deadline now m state
              (.deletes participant ns total absent ds)).state
            = (view state).without (ds.map (Descriptor.key ns)) := by
  induction ds with
  | nil =>
      intro absent now m state _ _
      refine ⟨⟨absent, rfl, rfl⟩, ?_⟩
      exact (Inventory.without_eq_self fun k hk => absurd hk List.not_mem_nil).symm
  | cons d rest ih =>
      intro absent now m state hkeys hall
      obtain ⟨hd, hrest⟩ := List.nodup_cons.mp hkeys
      let r : Call := Action.delete.call ns d
      have hkey : r.key = d.key ns := key_call .delete ns d
      obtain ⟨next, hloop, hpassed, -⟩ :=
        (Work.deletes_loop participant ns total).cons absent d rest
      have hturn : (c.site v p).turn? state (.call r next)
          = some ⟨.call r, (c.call state r).after, (c.call state r).state,
            (c.call state r).abandoned, next (c.call state r).answer⟩ := rfl
      obtain ⟨hpasses, habsence⟩ := hc.answer_delete state (r := r) rfl
      have hview : view (c.call state r).state = (view state).without [d.key ns] := by
        rw [hc.delete state r rfl, hkey]
      rw [hloop] at hall ⊢
      obtain ⟨time, x, -, hrun, hall⟩ := work_of_answered hturn hall
      dsimp only at hrun hall
      rw [hpassed _ hpasses] at hrun hall
      obtain ⟨⟨gone, hsum, hend⟩, hstate⟩ := ih hrest hall
      rw [hview, Inventory.count_without hd, habsence, hkey] at hsum
      rw [hview] at hstate
      rw [hrun, List.map_cons, Inventory.without_cons, Inventory.count_cons, List.length_cons]
      refine ⟨⟨gone, ?_, hend⟩, hstate⟩
      cases hobject : view state (d.key ns) with
      | some object => simp [hobject] at hsum ⊢; omega
      | none => simp [hobject] at hsum ⊢; omega

end Run

/-- The outcome of a participant whose objects are gone, of which so many were
there before. -/
def Outcome.deletion (participant : String) (deleted total : Nat) : Outcome :=
  ⟨participant, .deleted,
    s!"deleted {deleted} resources ({total - deleted} already absent)", none, none⟩

/-- With credentials for a healthy cluster that answers all, deleting takes
away the participant's objects and counts those that were there. -/
theorem Run.ofPlan_healthy (hc : c.Healthy view) {credential : Credential}
    (hv : v.resolve p = .ok credential) (hkeys : (q.keys ns).Nodup) {run : Run σ}
    (hrun : run = Run.ofPlan (c.site v p) deadline now state .delete ns q)
    (hall : ∀ x ∈ run.trace, x.answered ≠ none) :
    view run.state = (view state).without (q.keys ns)
      ∧ run.outcome? .delete p
        = some (.deletion p ((view state).count (q.keys ns)) q.descriptors.length) := by
  subst hrun
  obtain ⟨found, reached, hplan, hfound, hreached⟩ :
      ∃ (found : Except SliceError Credential → Work) (reached : Except SliceError Unit → Work),
        Work.ofPlan .delete ns q = .enter .authenticate (.resolve found)
          ∧ found (.ok credential) = .connect credential reached
          ∧ reached (.ok ()) = .enter .connected (.deletes q.participant ns
              q.descriptors.length 0 q.descriptors.reverse) :=
    ⟨_, _, rfl, rfl, rfl⟩
  rw [Run.ofPlan, hplan, Run.work] at hall ⊢
  -- the credentials are found
  have hresolve : (c.site v p).turn? state (.resolve found)
      = some ⟨.resolve, c.lookup state, state, state, found (v.resolve p)⟩ := rfl
  obtain ⟨time, x, -, hrun, hall⟩ := Run.work_of_answered hresolve hall
  dsimp only at hrun hall
  rw [hv, hfound] at hrun hall
  -- the cluster takes the connection
  have hconnect : (c.site v p).turn? state (.connect credential reached)
      = some ⟨.connect credential, (c.connect state credential).after,
        (c.connect state credential).state, (c.connect state credential).abandoned,
        reached (c.connect state credential).answer⟩ := rfl
  obtain ⟨hanswer, hview⟩ := hc.connect state credential
  obtain ⟨time', x', -, hrun', hall⟩ := Run.work_of_answered hconnect hall
  dsimp only at hrun' hall
  rw [hanswer, hreached, Run.work] at hrun' hall
  rw [hrun, hrun']
  -- and deletes the objects, last first
  have hreverse : q.descriptors.reverse.map (Descriptor.key ns) = (q.keys ns).reverse :=
    List.map_reverse
  obtain ⟨⟨absent, hsum, hend⟩, hstate⟩ := Run.deletes_healthy hc
    (by rw [hreverse]; exact List.pairwise_reverse.mpr (hkeys.imp Ne.symm)) hall
  rw [hreverse, hview] at hsum hstate
  rw [Inventory.count_reverse, List.length_reverse] at hsum
  rw [Inventory.without_reverse] at hstate
  have hdeleted : q.descriptors.length - absent = (view state).count (q.keys ns) := by omega
  have habsent : absent = q.descriptors.length - (view state).count (q.keys ns) := by omega
  rw [hdeleted, habsent] at hend
  refine ⟨hstate, ?_⟩
  unfold Run.outcome? Run.result?
  dsimp only [Run.after, Run.told]
  rw [hend]
  rfl

-- ============================================================= rehearsals

namespace Rehearsal

/-- What a rehearsed cluster remembers, as an inventory. -/
def inventory (m : Memory) : Inventory Unit := fun k => if k ∈ m.getD [] then some () else none

/-- A cluster holds what it remembers. -/
theorem inventory_eq_none_iff {m : Memory} {k : ObjectKey} :
    inventory m k = none ↔ k ∉ m.getD [] := by
  simp [inventory]

/-- However it behaves, a rehearsed cluster is confined. -/
theorem cluster_confined (b : Behaviour) : (cluster b).Confined inventory where
  connect _ _ := ⟨rfl, rfl⟩
  create := by
    intro m r hcreate k hk
    refine ⟨?_, rfl⟩
    show inventory (answer b m r).2 k = inventory m k
    unfold answer
    split
    · rfl
    · split
      · simp only [inventory, ObjectStore.after, hcreate, if_true, Option.getD_some]
        split
        · rfl
        · simp [hk]
      · rfl

/-- One that is quick is prompt. -/
theorem cluster_prompt {b : Behaviour} (hconnect : b.connectDelay = some 0)
    (hcall : b.callDelay = some 0) : (cluster b).Prompt where
  lookup _ := rfl
  connect _ _ := hconnect
  call _ _ := hcall

/-- One that remembers and refuses nothing is healthy. -/
theorem cluster_healthy {b : Behaviour} (hconnect : b.connectError = none) (hrules : b.rules = [])
    (hstateful : b.stateful = true) : (cluster b).Healthy inventory := by
  have hanswer : ∀ m r, answer b m r
      = ((m.getD []).answer r, some ((m.getD []).after r)) := by
    intro m r
    unfold answer
    rw [hrules, hstateful]
    rfl
  refine ⟨?_, ?_, ?_, ?_⟩
  · intro m credential
    refine ⟨?_, rfl⟩
    simp only [cluster, hconnect]
  · intro m r hdelete hthere
    have hmem : r.key ∈ m.getD [] := by
      refine Decidable.not_not.mp fun hgone => ?_
      rw [inventory_eq_none_iff.mpr hgone] at hthere
      cases hthere
    show (answer b m r).1 = .ok ()
    rw [hanswer, ObjectStore.answer, hdelete]
    exact if_pos hmem
  · intro m r hdelete hgone
    refine ⟨.notFound r.name, ?_, rfl⟩
    show (answer b m r).1 = _
    rw [hanswer, ObjectStore.answer, hdelete]
    exact if_neg (inventory_eq_none_iff.mp hgone)
  · intro m r hdelete
    show inventory (answer b m r).2 = _
    rw [hanswer, ObjectStore.after, hdelete]
    funext k
    by_cases hk : k = r.key
    · simp [inventory, Inventory.without, hk]
    · simp [inventory, Inventory.without, hk]

end Rehearsal

end NetworkSlice
