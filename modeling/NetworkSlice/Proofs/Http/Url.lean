import NetworkSlice.Http.Url
import NetworkSlice.Proofs.Http.Path

/-
Addresses that go on with a path of plain segments.

What such a path is added to decides about everything else: the scheme and the
host are read from what comes before (`readScheme_append`,
`exists_readAuthority`), and no mark in the path begins a query or a fragment.
So addresses that go on from the same place differ in their paths only, and
there by what the segments lead to (`exists_read?_below`).
-/
namespace NetworkSlice.Http

open Text

variable {c : Char} {cs path rest scheme : List Char} {segments : List (List Char)} {u : Url}

-- ======================================================================= marks

theorem cutAt_of_not_mem (h : c ∉ cs) : cutAt c cs = (cs, none) := by
  have hpass : ∀ x ∈ cs, (x != c) = true := fun x hx => bne_iff_ne.mpr fun heq => h (heq ▸ hx)
  have hdrop : (cs ++ []).dropWhile (· != c) = [] := List.dropWhile_append_of_pos hpass
  unfold cutAt
  rw [← List.append_nil cs, hdrop]

/-- A text is cut at its first mark. -/
theorem cutAt_append_cons (h : c ∉ cs) (rest : List Char) :
    cutAt c (cs ++ c :: rest) = (cs, some rest) := by
  have hpass : ∀ x ∈ cs, (x != c) = true := fun x hx => bne_iff_ne.mpr fun heq => h (heq ▸ hx)
  unfold cutAt
  rw [List.dropWhile_append_of_pos hpass, List.takeWhile_append_of_pos hpass]
  simp

/-- A text that is not cut is without the mark. -/
theorem not_mem_of_cutAt (h : (cutAt c cs).2 = none) : c ∉ cs := by
  intro hmem
  obtain ⟨front, rest, rfl, hfront⟩ := List.eq_append_cons_of_mem hmem
  rw [cutAt_append_cons hfront] at h
  cases h

/-- The scheme ends before a path of plain segments begins. -/
theorem readScheme_append (h : ':' ∉ path) (cs : List Char) :
    readScheme (cs ++ path) = (readScheme cs).map fun r => (r.1, r.2 ++ path) := by
  unfold readScheme
  by_cases hmark : ':' ∈ cs
  · obtain ⟨name, rest, rfl, hname⟩ := List.eq_append_cons_of_mem hmark
    rw [List.append_assoc, List.cons_append, cutAt_append_cons hname, cutAt_append_cons hname]
    cases name with
    | nil => rfl
    | cons first name =>
        dsimp only
        split
        · rfl
        · rfl
  · have hmark' : ':' ∉ cs ++ path := fun hmem => (List.mem_append.mp hmem).elim hmark h
    rw [cutAt_of_not_mem hmark, cutAt_of_not_mem hmark']
    rfl

-- =============================================================== plain paths

/-- In a path of plain segments there are slashes and plain characters. -/
theorem mem_chars (h : ∀ segment ∈ segments, ∀ c ∈ segment, IsPlain c)
    (hc : c ∈ (UrlPath.segments segments).chars) : c = '/' ∨ IsPlain c := by
  obtain ⟨segment, hsegment, hc⟩ := List.mem_flatMap.mp hc
  exact (List.mem_cons.mp hc).imp_right (h segment hsegment c)

/-- A character that is not looked at where an address begins or ends. -/
def isEdge (c : Char) : Bool := c.toNat ≤ 0x20

/-- A character that is not looked at anywhere in an address. -/
def isLook (c : Char) : Bool := c != '\t' && c != '\n' && c != '\r'

/-- The characters of an address that are looked at. -/
def seen (cs : List Char) : List Char :=
  (((cs.dropWhile isEdge).reverse.dropWhile isEdge).reverse).filter isLook

/-- A path takes nothing away from what it is added to. -/
theorem seen_append (h : ∀ c ∈ path, c = '/' ∨ IsPlain c) (hpath : path ≠ []) (cs : List Char) :
    seen (cs ++ path) = (cs.dropWhile isEdge).filter isLook ++ path := by
  have hvisible : ∀ c ∈ path, 0x20 < c.toNat := fun c hc => by
    rcases h c hc with rfl | hplain
    · decide
    · exact hplain.range.1
  have hedge : ∀ c ∈ path, ¬isEdge c = true := fun c hc => by
    have hlow := hvisible c hc
    simpa [isEdge] using hlow
  have hfront : (cs ++ path).dropWhile isEdge = cs.dropWhile isEdge ++ path := by
    rw [List.dropWhile_append]
    split
    · next hempty =>
        rw [List.isEmpty_iff.mp hempty, List.nil_append]
        cases path with
        | nil => rfl
        | cons c rest => exact List.dropWhile_cons_of_neg (hedge c List.mem_cons_self)
    · rfl
  have hback : ∀ front : List Char,
      ((front ++ path).reverse.dropWhile isEdge).reverse = front ++ path := by
    intro front
    obtain ⟨c, rest, hrev⟩ := List.exists_cons_of_ne_nil (mt List.reverse_eq_nil_iff.mp hpath)
    have hc : c ∈ path := List.mem_reverse.mp (hrev ▸ List.mem_cons_self)
    rw [List.reverse_append, hrev, List.cons_append, List.dropWhile_cons_of_neg (hedge c hc),
      ← List.cons_append, ← hrev, ← List.reverse_append, List.reverse_reverse]
  have hlook : path.filter isLook = path := by
    refine List.filter_eq_self.mpr fun c hc => ?_
    have hne : ∀ x : Char, x.toNat ≤ 0x20 → c ≠ x := by
      rintro x hx rfl
      exact absurd (hvisible c hc) (by omega)
    simp [isLook, hne '\t' (by decide), hne '\n' (by decide), hne '\r' (by decide)]
  unfold seen
  rw [hfront, hback, List.filter_append, hlook]

-- ================================================================ the place

/-- What a path leads to depends on what comes before it and on its segments. -/
theorem exists_pathAfterHost (front : List Char) :
    ∃ before, ∀ rest, pathAfterHost true (front ++ '/' :: rest)
      = .segments (followDots false []
          (before ++ (pieces (isSlash true) rest).map (encodeAll pathSet))) := by
  cases front with
  | nil => exact ⟨[], fun rest => rfl⟩
  | cons c front =>
      by_cases hc : isSlash true c = true
      · refine ⟨(pieces (isSlash true) front).map (encodeAll pathSet), fun rest => ?_⟩
        rw [List.cons_append, pathAfterHost, if_pos hc, readSegments, pieces_append_sep rfl,
          List.map_append]
      · refine ⟨(pieces (isSlash true) (c :: front)).map (encodeAll pathSet), fun rest => ?_⟩
        rw [List.cons_append, pathAfterHost, if_neg hc, ← List.cons_append, readSegments,
          pieces_append_sep rfl, List.map_append]

/-- Who is asked, and how, stands before the first slash. -/
theorem exists_readAuthority (hspecial : isSpecial scheme = true) (isLast : Bool) (cs : List Char) :
    (∀ rest, readAuthority scheme isLast (cs ++ '/' :: rest) = none)
      ∨ ∃ host user port before, ∀ rest, readAuthority scheme isLast (cs ++ '/' :: rest)
        = some ⟨host, user, port, .segments (followDots false []
          (before ++ (pieces (isSlash true) rest).map (encodeAll pathSet)))⟩ := by
  have hslash : isSlash true '/' = true := rfl
  have hauthority : ∀ rest, (cs ++ '/' :: rest).takeWhile (fun c => !isSlash true c)
      = cs.takeWhile fun c => !isSlash true c := by
    intro rest
    rw [List.takeWhile_append]
    split
    · next hall =>
        have hself := (List.takeWhile_prefix fun c => !isSlash true c).eq_of_length hall
        simp [hself, hslash]
    · rfl
  have hrest : ∀ rest, (cs ++ '/' :: rest).dropWhile (fun c => !isSlash true c)
      = cs.dropWhile (fun c => !isSlash true c) ++ '/' :: rest := by
    intro rest
    rw [List.dropWhile_append]
    split
    · next hempty =>
        rw [List.isEmpty_iff.mp hempty]
        simp [hslash]
    · rfl
  unfold readAuthority
  simp only [hspecial, hauthority, hrest, Bool.true_or, if_true]
  -- nothing but the path has the rest in it
  generalize cs.dropWhile (fun c => !isSlash true c) = front
  generalize cutUser (cs.takeWhile fun c => !isSlash true c) = user
  generalize cutPort false user.2 = host
  cases host.1.isEmpty with
  | true => exact Or.inl fun rest => rfl
  | false =>
      cases readHost host.1 with
      | none => exact Or.inl fun rest => rfl
      | some name =>
          cases readPort scheme (host.2.getD []) with
          | none => exact Or.inl fun rest => rfl
          | some port =>
              obtain ⟨before, hbefore⟩ := exists_pathAfterHost (port.2 ++ front)
              refine Or.inr ⟨some name, user.1.bind readUser, port.1, before, fun rest => ?_⟩
              rw [← hbefore, List.append_assoc]
              rfl

-- ============================================================ whole addresses

/-- An address whose scheme has been read. -/
def afterScheme (scheme rest : List Char) : Option Url := do
  let place ← readPlace scheme
    ((cutAt '?' (cutAt '#' rest).1).2.isNone && (cutAt '#' rest).2.isNone)
    (cutAt '?' (cutAt '#' rest).1).1
  return {
    scheme
    host := place.host
    user := place.user
    port := place.port
    path := place.path
    query := (cutAt '?' (cutAt '#' rest).1).2.map (encodeAll (querySet (isSpecial scheme)))
    fragment := (cutAt '#' rest).2.map (encodeAll fragmentSet) }

theorem read?_eq_bind (s : String) :
    Url.read? s = (readScheme (seen s.toList)).bind fun r => afterScheme r.1 r.2 := rfl

/-- Without a query and a fragment, all that follows the scheme is the place. -/
theorem afterScheme_of_not_mem (hfragment : '#' ∉ rest) (hquery : '?' ∉ rest) :
    afterScheme scheme rest = (readPlace scheme true rest).map fun place =>
      ⟨scheme, place.host, place.user, place.port, place.path, none, none⟩ := by
  unfold afterScheme
  simp only [cutAt_of_not_mem hfragment, cutAt_of_not_mem hquery, Option.isNone_none,
    Bool.and_true]
  exact Option.map_eq_bind.symm

/-- Without query and fragment there is no mark of either. -/
theorem not_mem_of_afterScheme (h : afterScheme scheme rest = some u) (hquery : u.query = none)
    (hfragment : u.fragment = none) : scheme = u.scheme ∧ '#' ∉ rest ∧ '?' ∉ rest := by
  obtain ⟨place, -, hu⟩ := Option.bind_eq_some_iff.mp h
  have hu := Option.some.inj hu
  have hmark : '#' ∉ rest := by
    rw [← hu] at hfragment
    exact not_mem_of_cutAt (Option.map_eq_none_iff.mp hfragment)
  have hmark' : '?' ∉ rest := by
    rw [← hu] at hquery
    have hmark' := not_mem_of_cutAt (Option.map_eq_none_iff.mp hquery)
    rw [cutAt_of_not_mem hmark] at hmark'
    exact hmark'
  exact ⟨congrArg Url.scheme hu, hmark, hmark'⟩

/-- What stands before the path of an address, as far as it is looked at. -/
def beforePath (base : String) : List Char := (base.toList.dropWhile isEdge).filter isLook

theorem not_mem_path (h : ∀ c ∈ path, c = '/' ∨ IsPlain c) {x : Char} (hslash : x ≠ '/')
    (hx : ¬IsPlain x) : x ∉ path := fun hmem => (h x hmem).elim hslash hx

/-- The scheme is read before the path is. -/
theorem read?_append_eq_bind (h : ∀ c ∈ path, c = '/' ∨ IsPlain c) (hpath : path ≠ [])
    (base : String) :
    Url.read? (base ++ String.ofList path)
      = (readScheme (beforePath base)).bind fun r => afterScheme r.1 (r.2 ++ path) := by
  have hscheme := readScheme_append (not_mem_path h (by decide) (by decide)) (beforePath base)
  rw [read?_eq_bind, String.toList_append, String.toList_ofList, seen_append h hpath]
  show (readScheme (beforePath base ++ path)).bind _ = _
  rw [hscheme, Option.bind_map]
  rfl

/-- The segments of a path are read as they are. -/
theorem map_pieces_of_plain {segment : List Char}
    (h : ∀ s ∈ segment :: segments, ∀ c ∈ s, IsPlain c) :
    (pieces (isSlash true) (segment ++ (UrlPath.segments segments).chars)).map (encodeAll pathSet)
      = segment :: segments := by
  obtain ⟨hsegment, hsegments⟩ := List.forall_mem_cons.mp h
  rw [pieces_chars true hsegments, pieces_of_not_sep fun c hc => (hsegment c hc).isSlash true]
  exact (List.map_congr_left fun s hs => encodeAll_of_plain (h s hs)).trans (List.map_id _)

/-- The place has the path, and beside it nothing that depends on the path. -/
theorem exists_readPlace {first : List Char} (hspecial : isSpecial scheme = true)
    (hfile : scheme ≠ fileScheme) (hfirst : ∀ c ∈ first, IsPlain c) (hne : first ≠ [])
    (cs : List Char) :
    (∀ segments ≠ [], readPlace scheme true (cs ++ (UrlPath.segments (first :: segments)).chars)
        = none)
      ∨ ∃ host user port before, ∀ segments ≠ [], (∀ s ∈ segments, ∀ c ∈ s, IsPlain c) →
        readPlace scheme true (cs ++ (UrlPath.segments (first :: segments)).chars)
          = some ⟨host, user, port, .segments (followDots false before segments)⟩ := by
  have hnot : ((cs ++ '/' :: first).dropWhile (isSlash true)).isEmpty = false := by
    obtain ⟨c, more, rfl⟩ := List.exists_cons_of_ne_nil hne
    refine Bool.eq_false_iff.mpr fun hempty => ?_
    -- if all of it were dropped, the first segment would be slashes
    have hall := List.all_takeWhile (p := isSlash true) (l := cs ++ '/' :: c :: more)
    have hself := List.takeWhile_append_dropWhile (p := isSlash true) (l := cs ++ '/' :: c :: more)
    rw [List.isEmpty_iff.mp hempty, List.append_nil] at hself
    rw [hself, List.all_eq_true] at hall
    have hslash := hall c (List.mem_append_right _ (by simp))
    rw [(hfirst c List.mem_cons_self).isSlash true] at hslash
    cases hslash
  have hplace : ∀ (segment : List Char) (more : List (List Char)),
      readPlace scheme true (cs ++ (UrlPath.segments (first :: segment :: more)).chars)
        = readAuthority scheme true ((cs ++ '/' :: first).dropWhile (isSlash true)
          ++ '/' :: (segment ++ (UrlPath.segments more).chars)) := by
    intro segment more
    have hchars : cs ++ (UrlPath.segments (first :: segment :: more)).chars
        = (cs ++ '/' :: first) ++ '/' :: (segment ++ (UrlPath.segments more).chars) :=
      (List.append_assoc _ _ _).symm
    unfold readPlace
    rw [if_neg hfile, if_pos hspecial, hchars, List.dropWhile_append, hnot]
    rfl
  rcases exists_readAuthority hspecial true ((cs ++ '/' :: first).dropWhile (isSlash true)) with
    hnone | ⟨host, user, port, before, hsome⟩
  · refine Or.inl fun segments hsegments => ?_
    obtain ⟨segment, more, rfl⟩ := List.exists_cons_of_ne_nil hsegments
    rw [hplace, hnone]
  · refine Or.inr ⟨host, user, port, climb [] before, fun segments hsegments h => ?_⟩
    obtain ⟨segment, more, rfl⟩ := List.exists_cons_of_ne_nil hsegments
    rw [hplace, hsome, map_pieces_of_plain h, followDots_append hsegments]

/-- Addresses that go on from the same place: where one has neither a query nor a
fragment, the others are the same but for what their segments lead to. -/
theorem exists_read?_below {base : String} {first : List Char} {known : List (List Char)}
    (hfirst : ∀ c ∈ first, IsPlain c) (hne : first ≠ [])
    (hplain : ∀ segment ∈ known, ∀ c ∈ segment, IsPlain c) (hknown : known ≠ [])
    (hread : Url.read? (base ++ String.ofList (UrlPath.segments (first :: known)).chars) = some u)
    (hspecial : isSpecial u.scheme = true) (hfile : u.scheme ≠ fileScheme)
    (hquery : u.query = none) (hfragment : u.fragment = none) :
    ∃ before, ∀ segments ≠ [], (∀ segment ∈ segments, ∀ c ∈ segment, IsPlain c) →
      Url.read? (base ++ String.ofList (UrlPath.segments (first :: segments)).chars)
        = some { u with path := .segments (followDots false before segments) } := by
  have hpath : ∀ segments : List (List Char), (∀ segment ∈ segments, ∀ c ∈ segment, IsPlain c) →
      ∀ c ∈ (UrlPath.segments (first :: segments)).chars, c = '/' ∨ IsPlain c :=
    fun segments h c hc => mem_chars (List.forall_mem_cons.mpr ⟨hfirst, h⟩) hc
  have hafter := hread
  rw [read?_append_eq_bind (hpath known hplain) (List.cons_ne_nil _ _)] at hafter
  obtain ⟨⟨scheme, front⟩, hscheme, hafter⟩ := Option.bind_eq_some_iff.mp hafter
  obtain ⟨rfl, hmark, hmark'⟩ := not_mem_of_afterScheme hafter hquery hfragment
  -- no path brings a mark with it, so what differs is in the place
  have hplace : ∀ segments, (∀ segment ∈ segments, ∀ c ∈ segment, IsPlain c) →
      Url.read? (base ++ String.ofList (UrlPath.segments (first :: segments)).chars)
        = (readPlace u.scheme true (front ++ (UrlPath.segments (first :: segments)).chars)).map
          fun place => ⟨u.scheme, place.host, place.user, place.port, place.path, none, none⟩ := by
    intro segments h
    have hfree : ∀ x : Char, x ∉ front → x ≠ '/' → ¬IsPlain x →
        x ∉ front ++ (UrlPath.segments (first :: segments)).chars :=
      fun x hx hslash hnot hmem =>
        (List.mem_append.mp hmem).elim hx (not_mem_path (hpath segments h) hslash hnot)
    rw [read?_append_eq_bind (hpath segments h) (List.cons_ne_nil _ _), hscheme]
    exact afterScheme_of_not_mem
      (hfree '#' (fun h => hmark (List.mem_append_left _ h)) (by decide) (by decide))
      (hfree '?' (fun h => hmark' (List.mem_append_left _ h)) (by decide) (by decide))
  rcases exists_readPlace hspecial hfile hfirst hne front with
    hnone | ⟨host, user, port, before, hsome⟩
  · rw [hplace known hplain, hnone known hknown] at hread
    cases hread
  · have hu : u = ⟨u.scheme, host, user, port, .segments (followDots false before known),
        none, none⟩ := by
      rw [hplace known hplain, hsome known hknown hplain] at hread
      exact (Option.some.inj hread).symm
    refine ⟨before, fun segments hsegments h => ?_⟩
    rw [hplace segments h, hsome segments hsegments h, hu]
    rfl

end NetworkSlice.Http
