import NetworkSlice.Proofs.Api.Addresses
import NetworkSlice.Proofs.Http.Url

/-
What is asked of a server stands below its namespaces.

The addresses of a collection and of an object go on from the address of the
server's namespaces with two and three segments. The namespace and the name are
one segment each whatever characters they are made of, and they stay where they
are, with one exception: the names `.` and `..` are written as they are, and what
is asked then is about the place itself or the one above it
(`ReadsBelow.collectionUrl_iff`, `ReadsBelow.objectUrl_iff`). Of the objects of a
slice the segment alone can have such a name, since it has the name of the slice
(`isDots_nameIn_iff`).
-/
namespace NetworkSlice.Api

open Http Text

variable {base ns name : String} {kind : ObjectKind} {u : Url} {front : List (List Char)}

-- ================================================================== addresses

/-- The address of a server's namespaces. -/
def namespacesUrl (base : String) : String := base ++ "/apis/" ++ apiVersion ++ "/namespaces"

/-- The segments of that address after the first. -/
def rootSegments : List (List Char) :=
  ["l2sm.l2sm.k8s.local".toList, "v1".toList, "namespaces".toList]

/-- The segments of a collection below the namespaces. -/
def collectionSegments (kind : ObjectKind) (ns : String) : List (List Char) :=
  [encoded ns, kind.plural.toList]

/-- The segments of an object below the namespaces. -/
def objectSegments (kind : ObjectKind) (ns name : String) : List (List Char) :=
  [encoded ns, kind.plural.toList, encoded name]

theorem plain_rootSegments : ∀ segment ∈ rootSegments, ∀ c ∈ segment, IsPlain c := by
  simp only [forall_char_iff_all]
  decide

theorem plain_plural : ∀ c ∈ kind.plural.toList, IsPlain c := by
  rw [forall_char_iff_all]
  cases kind <;> rfl

theorem isNamed_plural : IsNamed kind.plural.toList := by cases kind <;> exact ⟨rfl, rfl⟩

/-- The address of the namespaces is the base with their segments. -/
theorem namespacesUrl_eq : namespacesUrl base
    = base ++ String.ofList (UrlPath.segments ("apis".toList :: rootSegments)).chars := by
  unfold namespacesUrl
  rw [String.append_assoc, String.append_assoc]
  exact congrArg (base ++ ·) (String.toList_inj.mp rfl)

/-- An address goes on with more segments. -/
theorem append_chars (known more : List (List Char)) :
    base ++ String.ofList (UrlPath.segments known).chars
        ++ String.ofList (UrlPath.segments more).chars
      = base ++ String.ofList (UrlPath.segments (known ++ more)).chars := by
  rw [String.append_assoc, ← String.ofList_append]
  exact congrArg (fun cs => base ++ String.ofList cs) List.flatMap_append.symm

/-- That of a collection goes on with two more. -/
theorem collectionUrl_eq : collectionUrl base kind ns
    = base ++ String.ofList (UrlPath.segments
      ("apis".toList :: (rootSegments ++ collectionSegments kind ns))).chars := by
  have hbelow : collectionUrl base kind ns = namespacesUrl base
      ++ String.ofList (UrlPath.segments (collectionSegments kind ns)).chars := by
    unfold collectionUrl namespacesUrl
    refine String.toList_inj.mp ?_
    simp [UrlPath.chars, collectionSegments, encoded]
  rw [hbelow, namespacesUrl_eq, append_chars]
  rfl

/-- That of an object with three. -/
theorem objectUrl_eq : objectUrl base kind ns name
    = base ++ String.ofList (UrlPath.segments
      ("apis".toList :: (rootSegments ++ objectSegments kind ns name))).chars := by
  have hbelow : objectUrl base kind ns name = collectionUrl base kind ns
      ++ String.ofList (UrlPath.segments [encoded name]).chars := by
    unfold objectUrl
    refine String.toList_inj.mp ?_
    simp [UrlPath.chars, encoded]
  rw [hbelow, collectionUrl_eq, append_chars]
  rfl

-- ==================================================================== reading

/-- The address of the namespaces with these segments instead of the ones below
them. -/
def below (u : Url) (front segments : List (List Char)) : Url :=
  { u with path := .segments (front ++ "namespaces".toList :: segments) }

/-- Different segments below one place are different places. -/
theorem below_inj {segments segments' : List (List Char)} :
    below u front segments = below u front segments' ↔ segments = segments' := by
  unfold below
  simp

/-- An address a client can ask, with nothing after its path. -/
structure IsPlainAddress (u : Url) : Prop where
  scheme : u.scheme = "http".toList ∨ u.scheme = "https".toList
  query : u.query = none
  fragment : u.fragment = none

/-- What is below the namespaces is read as the address of the namespaces with the
segments followed from there. -/
def ReadsBelow (base : String) (u : Url) (front : List (List Char)) : Prop :=
  ∀ segments, (∀ segment ∈ segments, ∀ c ∈ segment, IsPlain c) →
    Url.read? (base ++ String.ofList (UrlPath.segments
        ("apis".toList :: (rootSegments ++ segments))).chars)
      = some { u with
        path := .segments (followDots false ("namespaces".toList :: front.reverse) segments) }

/-- A plain address of the namespaces is read with the group and version in
front. -/
theorem exists_readsBelow (hread : Url.read? (namespacesUrl base) = some u)
    (hu : IsPlainAddress u) :
    ∃ front, u.path = .segments (front ++ ["namespaces".toList]) ∧ ReadsBelow base u front := by
  have hspecial : isSpecial u.scheme = true := by
    rcases hu.scheme with h | h <;> rw [h] <;> decide
  have hfile : u.scheme ≠ fileScheme := by
    rcases hu.scheme with h | h <;> rw [h] <;> decide
  have hnamed : ∀ segment ∈ rootSegments, IsNamed segment := by
    unfold rootSegments IsNamed
    decide
  have hroot := hread
  rw [namespacesUrl_eq] at hroot
  obtain ⟨before, hbefore⟩ := exists_read?_below (forall_char_iff_all.mpr rfl)
    (by decide) plain_rootSegments (by decide) hroot hspecial hfile hu.query hu.fragment
  refine ⟨before.reverse ++ ["l2sm.l2sm.k8s.local".toList, "v1".toList], ?_, fun segments h => ?_⟩
  · have hsame := Option.some.inj (hroot.symm.trans (hbefore _ (by decide) plain_rootSegments))
    have hpath := congrArg Url.path hsame
    rw [followDots_of_named hnamed] at hpath
    rw [hpath, List.append_assoc]
    rfl
  · have hplain : ∀ segment ∈ rootSegments ++ segments, ∀ c ∈ segment, IsPlain c :=
      List.forall_mem_append.mpr ⟨plain_rootSegments, h⟩
    rw [hbefore _ (by simp [rootSegments]) hplain, followDots_append_of_named _ _ hnamed,
      List.reverse_append, List.reverse_reverse]
    rfl

/-- Names below it are read as they are. -/
theorem ReadsBelow.of_named (h : ReadsBelow base u front) {segments : List (List Char)}
    (hplain : ∀ segment ∈ segments, ∀ c ∈ segment, IsPlain c)
    (hnamed : ∀ segment ∈ segments, IsNamed segment) :
    Url.read? (base ++ String.ofList (UrlPath.segments
        ("apis".toList :: (rootSegments ++ segments))).chars)
      = some (below u front segments) := by
  rw [h segments hplain, followDots_of_named hnamed]
  simp [below]

/-- A dot at the beginning makes the path shorter. -/
theorem ReadsBelow.ne_of_dot (h : ReadsBelow base u front) {segment : List Char}
    {more : List (List Char)} (hplain : ∀ s ∈ segment :: more, ∀ c ∈ s, IsPlain c)
    (hdot : ¬IsNamed segment) (hmore : more ≠ []) :
    Url.read? (base ++ String.ofList (UrlPath.segments
        ("apis".toList :: (rootSegments ++ segment :: more))).chars)
      ≠ some (below u front (segment :: more)) := by
  intro heq
  rw [h _ hplain] at heq
  have hpath := congrArg Url.path (Option.some.inj heq)
  injection hpath with hpath
  have hlength := length_followDots_of_dot ("namespaces".toList :: front.reverse) hdot hmore
  rw [hpath] at hlength
  simp only [List.length_append, List.length_cons, List.length_reverse] at hlength
  omega

/-- The segments of a collection are plain, whatever the namespace is. -/
theorem plain_collectionSegments :
    ∀ segment ∈ collectionSegments kind ns, ∀ c ∈ segment, IsPlain c := by
  simp only [collectionSegments, List.forall_mem_cons]
  exact ⟨fun _ => plain_encoded, plain_plural, nofun⟩

theorem plain_objectSegments :
    ∀ segment ∈ objectSegments kind ns name, ∀ c ∈ segment, IsPlain c := by
  simp only [objectSegments, List.forall_mem_cons]
  exact ⟨fun _ => plain_encoded, plain_plural, fun _ => plain_encoded, nofun⟩

/-- The address of a collection is kept unless the namespace is dots. -/
theorem ReadsBelow.collectionUrl_iff (h : ReadsBelow base u front) :
    Url.read? (collectionUrl base kind ns) = some (below u front (collectionSegments kind ns))
      ↔ ¬IsDots ns := by
  rw [collectionUrl_eq]
  refine ⟨fun heq hdots => ?_, fun hdots => ?_⟩
  · exact h.ne_of_dot plain_collectionSegments
      (mt isNamed_encoded_iff.mp (not_not_intro hdots)) (List.cons_ne_nil _ _) heq
  · refine h.of_named plain_collectionSegments ?_
    simp only [collectionSegments, List.forall_mem_cons]
    exact ⟨isNamed_encoded_iff.mpr hdots, isNamed_plural, nofun⟩

/-- From a collection that is kept, one dot leads to the collection itself and two
dots to its namespace. -/
theorem ReadsBelow.objectUrl_of_dots (h : ReadsBelow base u front) (kind : ObjectKind)
    (hns : ¬IsDots ns) :
    Url.read? (objectUrl base kind ns ".")
        = some (below u front [encoded ns, kind.plural.toList, []])
      ∧ Url.read? (objectUrl base kind ns "..") = some (below u front [encoded ns, []]) := by
  have hnamed : ∀ segment ∈ collectionSegments kind ns, IsNamed segment := by
    simp only [collectionSegments, List.forall_mem_cons]
    exact ⟨isNamed_encoded_iff.mpr hns, isNamed_plural, nofun⟩
  have hdrive : beginsWithDrive kind.plural.toList = false := by cases kind <;> rfl
  have hfollow : ∀ name, Url.read? (objectUrl base kind ns name)
      = some { u with path := .segments (followDots false
          (kind.plural.toList :: encoded ns :: "namespaces".toList :: front.reverse)
          [encoded name]) } := by
    intro name
    rw [objectUrl_eq, h _ plain_objectSegments]
    have hparts : objectSegments kind ns name = collectionSegments kind ns ++ [encoded name] := rfl
    rw [hparts, followDots_append_of_named _ _ hnamed]
    rfl
  have hsingle : ∀ place, followDots false place [encoded "."] = place.reverse ++ [[]] :=
    fun _ => List.reverse_cons
  have hdouble : ∀ place, followDots false (kind.plural.toList :: place) [encoded ".."]
      = place.reverse ++ [[]] := by
    intro place
    show List.reverse ([] :: above (kind.plural.toList :: place)) = _
    rw [above, hdrive, List.reverse_cons]
    rfl
  rw [hfollow, hfollow, hsingle, hdouble]
  simp [below]

/-- The address of an object is kept unless the namespace or the name is dots. -/
theorem ReadsBelow.objectUrl_iff (h : ReadsBelow base u front) :
    Url.read? (objectUrl base kind ns name) = some (below u front (objectSegments kind ns name))
      ↔ ¬IsDots ns ∧ ¬IsDots name := by
  constructor
  · intro heq
    have hns : ¬IsDots ns := by
      intro hdots
      rw [objectUrl_eq] at heq
      exact h.ne_of_dot plain_objectSegments (mt isNamed_encoded_iff.mp (not_not_intro hdots))
        (List.cons_ne_nil _ _) heq
    obtain ⟨hsingle, hdouble⟩ := h.objectUrl_of_dots kind hns
    refine ⟨hns, ?_⟩
    rintro (rfl | rfl)
    · rw [hsingle, Option.some.injEq, below_inj, objectSegments] at heq
      have hlast : [] = encoded "." := by simpa using heq
      exact absurd hlast (by decide)
    · rw [hdouble, Option.some.injEq, below_inj, objectSegments] at heq
      simp at heq
  · rintro ⟨hns, hname⟩
    rw [objectUrl_eq]
    refine h.of_named plain_objectSegments ?_
    simp only [objectSegments, List.forall_mem_cons]
    exact ⟨isNamed_encoded_iff.mpr hns, isNamed_plural, isNamed_encoded_iff.mpr hname, nofun⟩

-- ====================================================================== calls

/-- The address of a call. -/
def callUrl (base : String) : Call → String
  | .create kind ns _ => collectionUrl base kind ns
  | .delete kind ns name => objectUrl base kind ns name

/-- The segments of what a call is about. -/
def callSegments : Call → List (List Char)
  | .create kind ns _ => collectionSegments kind ns
  | .delete kind ns name => objectSegments kind ns name

/-- No name in the address of a call is dots. -/
def IsNamedCall : Call → Prop
  | .create _ ns _ => ¬IsDots ns
  | .delete _ ns name => ¬IsDots ns ∧ ¬IsDots name

/-- A call asks for its own place when its names are no dots. -/
theorem ReadsBelow.callUrl_iff (h : ReadsBelow base u front) (c : Call) :
    Url.read? (callUrl base c) = some (below u front (callSegments c)) ↔ IsNamedCall c := by
  cases c with
  | create => exact h.collectionUrl_iff
  | delete => exact h.objectUrl_iff

theorem Url.asked_path (v : Url) : v.asked.path = v.path := by
  unfold Url.asked
  split
  · rfl
  · rfl

/-- What a client has carried to the server, if anything, is a request for the
address. -/
theorem send_carries {τ : Type} {client : Client} {t : Transport τ} {state : τ} {address : String}
    {v : Url} (h : Url.read? address = some v) (verb : Verb) (body : String) :
    (client.send t state verb address body).2 = state
      ∨ ∃ m : Message, m.url.path = v.path
        ∧ (client.send t state verb address body).2 = (t.carry state m).2 := by
  unfold Client.send
  rw [h, Option.map_some]
  dsimp only
  split
  · refine Or.inr ⟨⟨verb, v.asked, client.authorization, "application/json", body⟩,
      Url.asked_path v, ?_⟩
    rcases t.carry state ⟨verb, v.asked, client.authorization, "application/json", body⟩ with
      ⟨_ | reply, state⟩
    · rfl
    · rfl
  · exact Or.inl rfl

/-- A call sends at most one message, for the path of its address. -/
theorem call_carries {τ : Type} {client : Client} {t : Transport τ} {state : τ} {c : Call}
    {v : Url} (h : Url.read? (callUrl client.base c) = some v) :
    (call client t state c).2 = state
      ∨ ∃ m : Message, m.url.path = v.path ∧ (call client t state c).2 = (t.carry state m).2 := by
  cases c with
  | create kind ns object =>
      have h : Url.read? (collectionUrl client.base kind ns) = some v := h
      unfold call
      dsimp only
      exact send_carries h .post _
  | delete kind ns name =>
      have h : Url.read? (objectUrl client.base kind ns name) = some v := h
      unfold call
      dsimp only
      exact send_carries h .delete _

-- ====================================================================== plans

/-- Of the objects of a slice the segment alone can be called dots. -/
theorem isDots_nameIn_iff {sliceName : String} :
    IsDots (kind.nameIn sliceName) ↔ kind = .segment ∧ IsDots sliceName := by
  have hlong : ∀ ending : String, 2 < ending.length → ¬IsDots (sliceName ++ ending) := by
    rintro ending hending (h | h)
    · have hlength := congrArg String.length h
      rw [String.length_append] at hlength
      have : ".".length = 1 := rfl
      omega
    · have hlength := congrArg String.length h
      rw [String.length_append] at hlength
      have : "..".length = 2 := rfl
      omega
  cases kind with
  | segment => exact (and_iff_right rfl).symm
  | edgeDevice => exact iff_of_false (hlong "-ned" (by decide)) nofun
  | overlay => exact iff_of_false (hlong "-overlay" (by decide)) nofun

/-- What is asked of a server for an object of a slice is about the collection or
the object and nothing else, unless the namespace or the name is dots. -/
theorem address_of_descriptor {c : Composer} {s : Slice} {scope : Scope} {plan : Plan}
    (hplan : c.plan s scope = .ok plan) (hread : Url.read? (namespacesUrl base) = some u)
    (hu : IsPlainAddress u) :
    ∃ front, u.path = .segments (front ++ ["namespaces".toList])
      ∧ (∀ x : String, percentDecode? (encoded x) = some x.toList
        ∧ ∀ c ∈ encoded x, isSlash true c = false)
      ∧ ∀ (ns : String), ∀ q ∈ plan.participants, ∀ d ∈ q.descriptors,
        (IsDots d.name ↔ d.kind = .segment ∧ IsDots s.name)
          ∧ (∀ action : Action,
            (Url.read? (callUrl base (action.call ns d))
                = some (below u front (callSegments (action.call ns d)))
              ↔ IsNamedCall (action.call ns d))
            ∧ (IsNamedCall (action.call ns d) →
              ∀ {τ : Type} (client : Client) (t : Transport τ) (state : τ), client.base = base →
                (call client t state (action.call ns d)).2 = state
                  ∨ ∃ m : Message,
                    m.url.path = (below u front (callSegments (action.call ns d))).path
                    ∧ (call client t state (action.call ns d)).2 = (t.carry state m).2))
          ∧ (¬IsDots ns → d.name = "." → Url.read? (objectUrl base d.kind ns d.name)
              = some (below u front [encoded ns, d.kind.plural.toList, []]))
          ∧ (¬IsDots ns → d.name = ".." → Url.read? (objectUrl base d.kind ns d.name)
              = some (below u front [encoded ns, []])) := by
  obtain ⟨front, hfront, hbelow⟩ := exists_readsBelow hread hu
  refine ⟨front, hfront, fun x => ⟨percentDecode?_encoded x,
    fun c hc => (plain_encoded hc).isSlash true⟩, fun ns q hq d hd => ⟨?_, ?_, ?_, ?_⟩⟩
  · obtain ⟨-, -, -, -, -, hname⟩ := Composer.plan_eq_ok_iff.mp hplan
    rw [Composer.name_of_plan hplan hq hd, isDots_nameIn_iff, hname]
  · intro action
    refine ⟨hbelow.callUrl_iff _, ?_⟩
    rintro hnamed τ client t state rfl
    exact call_carries ((hbelow.callUrl_iff _).mpr hnamed)
  · intro hns hname
    rw [hname]
    exact (hbelow.objectUrl_of_dots d.kind hns).1
  · intro hns hname
    rw [hname]
    exact (hbelow.objectUrl_of_dots d.kind hns).2

/-- A server on this host. -/
def loopback : Url where
  scheme := "http".toList
  host := some "[::1]".toList
  user := none
  port := some 6443
  path := .segments ("apis".toList :: rootSegments)
  query := none
  fragment := none

/-- Names with a slash and a blank are one segment each. -/
theorem address_of_descriptor_joinedSlice :
    ∃ plan, (Composer.ofSettings .standard).plan (joinedSlice "blue/1") .slice = .ok plan
      ∧ ∀ q ∈ plan.participants, ∀ d ∈ q.descriptors,
        Url.read? (objectUrl "http://[::1]:6443" d.kind "a b" d.name)
          = some (below loopback ["apis".toList, "l2sm.l2sm.k8s.local".toList, "v1".toList]
            ["a%20b".toList, d.kind.plural.toList, encoded d.name]) := by
  have hread : Url.read? (namespacesUrl "http://[::1]:6443") = some loopback := by decide +kernel
  obtain ⟨plan, hplan⟩ : ∃ plan,
      (Composer.ofSettings .standard).plan (joinedSlice "blue/1") .slice = .ok plan := ⟨_, rfl⟩
  obtain ⟨front, hfront, -, hall⟩ := address_of_descriptor hplan hread ⟨Or.inl rfl, rfl, rfl⟩
  refine ⟨plan, hplan, fun q hq d hd => ?_⟩
  obtain ⟨hdots, hactions, -⟩ := hall "a b" q hq d hd
  have hname : ¬IsDots d.name := by
    rw [hdots]
    exact fun h => absurd h.2 (by decide)
  have hparts : front = ["apis".toList, "l2sm.l2sm.k8s.local".toList, "v1".toList] := by
    injection hfront with hfront
    exact List.append_cancel_right hfront.symm
  have hkept := (hactions .delete).1.mpr ⟨by decide, hname⟩
  rw [hparts] at hkept
  exact hkept

/-- A slice that is called by two dots is planned, and what is asked of the server
to delete its segment is about the namespace. -/
theorem exists_delete_above_collection :
    (∃ plan, (Composer.ofSettings .standard).plan (joinedSlice "..") .slice = .ok plan
        ∧ ∃ q ∈ plan.participants, ∃ d ∈ q.descriptors, (d.kind, d.name) = (.segment, ".."))
      ∧ (Url.read? (objectUrl "http://[::1]:6443" .segment "default" "..")).map Url.target
        = some "/apis/l2sm.l2sm.k8s.local/v1/namespaces/default/" := by
  refine ⟨⟨_, rfl, _, List.mem_cons_self, _, List.mem_cons_self, rfl⟩, ?_⟩
  decide +kernel

end NetworkSlice.Api
