import NetworkSlice.Plan.Composer
import NetworkSlice.Proofs.Attempt

/-
What a plan comes from, step by step.

`plan_eq_ok_iff` takes a successful plan apart into its five steps and is the
only place that opens `Composer.plan`; the lemmas after it take the steps
apart in turn, down to the single participant. A plan is written participant
by participant in the order of the slice, so what is known of one participant
is known under its index (`plan_participant`), and the names of the plan are
the names of the slice, each of them once (`plan_names`, `nodup_names_of_plan`),
so a name finds its one entry (`filter_eq_singleton_of_nodup`).
-/
namespace NetworkSlice

variable {s : Slice} {c : Composer} {scope : Scope} {links : List Link}
  {assignment : Option Assignment} {index : Nat}

-- ==================================================== lists of named things

/-- Where no name is repeated, the entries of an entry's name are the entry
alone. -/
theorem filter_eq_singleton_of_nodup {α : Type} {f : α → String} {l : List α} {x : α}
    (h : (l.map f).Nodup) (hx : x ∈ l) : (l.filter fun y => f y = f x) = [x] := by
  induction l with
  | nil => cases hx
  | cons y rest ih =>
      rw [List.map_cons, List.nodup_cons] at h
      obtain ⟨hy, hrest⟩ := h
      rcases List.mem_cons.mp hx with rfl | hx
      · have hnone : (rest.filter fun y => f y = f x) = [] := by
          refine List.filter_eq_nil_iff.mpr fun z hz => ?_
          rw [decide_eq_true_eq]
          exact fun hzx => hy (hzx ▸ List.mem_map_of_mem hz)
        rw [List.filter_cons_of_pos (by simp), hnone]
      · have hne : f y ≠ f x := fun hyx => hy (hyx ▸ List.mem_map_of_mem hx)
        rw [List.filter_cons_of_neg (by simpa using hne), ih hrest hx]

/-- So the first entry of its name is the entry. -/
theorem find?_eq_some_of_nodup {α : Type} {f : α → String} {l : List α} {x : α}
    (h : (l.map f).Nodup) (hx : x ∈ l) : (l.find? fun y => f y = f x) = some x := by
  rw [← List.head?_filter, filter_eq_singleton_of_nodup h hx]
  rfl

/-- And what is listed under the names is found there. -/
theorem lookup_map_of_nodup {α β : Type} {f : α → String} {g : α → β} {l : List α} {x : α}
    (h : (l.map f).Nodup) (hx : x ∈ l) : (l.map fun y => (f y, g y)).lookup (f x) = some (g x) := by
  induction l with
  | nil => cases hx
  | cons y rest ih =>
      obtain ⟨hy, hrest⟩ := List.nodup_cons.mp h
      rw [List.map_cons, lookup_cons_eq_ite]
      rcases List.mem_cons.mp hx with rfl | hx
      · exact if_pos rfl
      · have hne : f x ≠ f y := fun heq => hy (heq ▸ List.mem_map_of_mem hx)
        rw [if_neg hne, ih hrest hx]

/-- Under other names there is nothing. -/
theorem lookup_map_eq_none {α β : Type} {f : α → String} {g : α → β} {l : List α} {name : String}
    (h : name ∉ l.map f) : (l.map fun y => (f y, g y)).lookup name = none := by
  induction l with
  | nil => rfl
  | cons y rest ih =>
      obtain ⟨hy, hrest⟩ := not_or.mp (mt List.mem_cons.mpr h)
      rw [List.map_cons, lookup_cons_eq_ite, if_neg hy, ih hrest]

-- ============================================================ validation

namespace Slice

/-- Names pass when none is blank, none repeats another and none is one of
those before. -/
theorem checkNames_eq_ok_iff {names : List String} :
    ∀ {seen : List String}, checkNames seen names = .ok ()
      ↔ (∀ n ∈ names, Text.isBlankText n = false) ∧ names.Nodup ∧ ∀ n ∈ names, n ∉ seen := by
  induction names with
  | nil => intro seen; simp [checkNames]
  | cons name rest ih =>
      intro seen
      unfold checkNames
      cases hblank : Text.isBlankText name with
      | true => simp [hblank]
      | false =>
          by_cases hseen : name ∈ seen
          · simp [hseen]
          · simp only [Bool.false_eq_true, if_false, if_neg hseen, ih, List.nodup_cons]
            constructor
            · rintro ⟨hrest, hnodup, hfresh⟩
              refine ⟨?_, ⟨?_, hnodup⟩, ?_⟩
              · intro n hn
                rcases List.mem_cons.mp hn with rfl | hn
                · exact hblank
                · exact hrest n hn
              · exact fun hn => hfresh name hn List.mem_cons_self
              · intro n hn
                rcases List.mem_cons.mp hn with rfl | hn
                · exact hseen
                · exact fun h => hfresh n hn (List.mem_cons_of_mem name h)
            · rintro ⟨hblanks, ⟨hname, hnodup⟩, hfresh⟩
              refine ⟨fun n hn => hblanks n (List.mem_cons_of_mem name hn), hnodup, ?_⟩
              intro n hn h
              rcases List.mem_cons.mp h with rfl | h
              · exact hname hn
              · exact hfresh n (List.mem_cons_of_mem name hn) h

/-- A slice passes when its name is not blank, it has participants, their
names pass, and so does its block. -/
theorem validate_eq_ok_iff :
    s.validate = .ok ()
      ↔ Text.isBlankText s.name = false ∧ s.participants ≠ []
        ∧ checkNames [] s.names = .ok ()
        ∧ ∃ block, s.block = .ok block ∧ checkBlock s.partition block = .ok () := by
  unfold validate
  cases hname : Text.isBlankText s.name with
  | true => simp [throw, throwThe, MonadExceptOf.throw, bind, Except.bind]
  | false =>
      cases hps : s.participants with
      | nil => simp [throw, throwThe, MonadExceptOf.throw, bind, Except.bind]
      | cons p rest =>
          cases hnames : checkNames [] s.names with
          | error e => simp [bind, Except.bind]
          | ok u =>
              cases hblock : s.block with
              | error e => simp [bind, Except.bind]
              | ok block => simp [bind, Except.bind]

/-- The names of a slice that passes are all different. -/
theorem nodup_names_of_validate (h : s.validate = .ok ()) : s.names.Nodup := by
  obtain ⟨-, -, hnames, -⟩ := validate_eq_ok_iff.mp h
  exact (checkNames_eq_ok_iff.mp hnames).2.1

/-- A slice that passes and is to be partitioned has a block. -/
theorem block_of_validate (h : s.validate = .ok ()) (hpart : s.partition = true) :
    ∃ block, s.block = .ok (some block) := by
  obtain ⟨-, -, -, block, hblock, hcheck⟩ := validate_eq_ok_iff.mp h
  cases block with
  | some block => exact ⟨block, hblock⟩
  | none =>
      rw [hpart] at hcheck
      cases hcheck

end Slice

namespace Composer

-- =========================================================== participants

/-- A participant's plan has its name and its segment, and where participants
are joined an edge device and an overlay after it. -/
theorem participantPlan_cases {p : Participant} {q : ParticipantPlan}
    (h : c.participantPlan s links assignment scope index p = .ok q) :
    ∃ segment, c.segment s assignment index p = .ok segment ∧ q.participant = p.name
      ∧ ((joins s scope = false ∧ q.descriptors = [.segment segment])
        ∨ ∃ ns overlay, joins s scope = true ∧ neighbors s links p.name = .ok ns
          ∧ c.overlay s p = .ok overlay
          ∧ q.descriptors
            = [.segment segment, .edgeDevice (c.edgeDevice s ns p), .overlay overlay]) := by
  unfold participantPlan at h
  obtain ⟨segment, hsegment, h⟩ := bind_eq_ok.mp h
  refine ⟨segment, hsegment, ?_⟩
  split at h
  case isFalse hjoins =>
      injection h with h
      subst h
      exact ⟨rfl, Or.inl ⟨by simpa using hjoins, rfl⟩⟩
  case isTrue hjoins =>
      obtain ⟨ns, hns, h⟩ := bind_eq_ok.mp h
      obtain ⟨overlay, hoverlay, h⟩ := bind_eq_ok.mp h
      injection h with h
      subst h
      exact ⟨rfl, Or.inr ⟨ns, overlay, hjoins, hns, hoverlay, rfl⟩⟩

/-- A participant's plan has its name, and begins with its one segment. -/
theorem participantPlan_eq_ok {p : Participant} {q : ParticipantPlan}
    (h : c.participantPlan s links assignment scope index p = .ok q) :
    q.participant = p.name
      ∧ ∃ segment rest, c.segment s assignment index p = .ok segment
        ∧ q.descriptors = .segment segment :: rest ∧ ∀ d ∈ rest, d.segment? = none := by
  obtain ⟨segment, hsegment, hname, ⟨-, hds⟩ | ⟨ns, overlay, -, -, -, hds⟩⟩ :=
    participantPlan_cases h
  · exact ⟨hname, segment, [], hsegment, hds, by simp⟩
  · exact ⟨hname, segment, _, hsegment, hds, by simp [Descriptor.segment?]⟩

/-- A segment is made of the addresses that the participant is given, once
there are any. -/
theorem segment_eq_ok_iff {p : Participant} {x : Segment} :
    c.segment s assignment index p = .ok x
      ↔ ∃ given, addresses s assignment index p = .ok given
        ∧ x = {
            metadata := ObjectMeta.forSlice s.name s.name
            spec := {
              networkType := s.networkType.getD c.defaults.networkType
              addresses := given
              podRange := p.podRange
              provider := (c.provider s).controllerRef } } := by
  unfold Composer.segment
  rw [bind_eq_ok]
  refine exists_congr fun given => and_congr_right fun _ => ?_
  exact ⟨fun h => (Except.ok.inj h).symm, fun h => congrArg Except.ok h.symm⟩

/-- And an overlay of the links between the participant's nodes. -/
theorem overlay_eq_ok_iff {p : Participant} {o : Overlay} :
    c.overlay s p = .ok o
      ↔ ∃ links, Topology.resolve (overlayNodes p) p.overlayLinks c.emptyLinks = .ok links
        ∧ o = {
            metadata := ObjectMeta.forSlice (s.name ++ "-overlay") s.name
            spec := {
              controller := (c.provider s).controllerRef
              topology := ⟨overlayNodes p, links⟩
              switch := SwitchTemplate.overlaySwitch c.defaults.overlaySwitchImage } } := by
  unfold Composer.overlay
  rw [bind_eq_ok]
  refine exists_congr fun links => and_congr mapError_eq_ok ?_
  exact ⟨fun h => (Except.ok.inj h).symm, fun h => congrArg Except.ok h.symm⟩

/-- Composing goes through the participants one after another. -/
theorem composeFrom_cons_eq_ok_iff {p : Participant} {rest : List Participant} {index : Nat}
    {qs : List ParticipantPlan} :
    c.composeFrom s links assignment scope index (p :: rest) = .ok qs
      ↔ ∃ q more, c.participantPlan s links assignment scope index p = .ok q
        ∧ c.composeFrom s links assignment scope (index + 1) rest = .ok more
        ∧ qs = q :: more := by
  rw [composeFrom, bind_eq_ok]
  constructor
  · rintro ⟨q, hq, h⟩
    obtain ⟨more, hmore, h⟩ := bind_eq_ok.mp h
    exact ⟨q, more, hq, hmore, (Except.ok.inj h).symm⟩
  · rintro ⟨q, more, hq, hmore, rfl⟩
    exact ⟨q, hq, bind_eq_ok.mpr ⟨more, hmore, rfl⟩⟩

/-- The plans of participants stand in the order of the participants, each
worked out under its own index. -/
theorem composeFrom_eq_ok {ps : List Participant} :
    ∀ {index : Nat} {qs : List ParticipantPlan},
      c.composeFrom s links assignment scope index ps = .ok qs →
      qs.length = ps.length
        ∧ ∀ i p, ps[i]? = some p → ∃ q, qs[i]? = some q
          ∧ c.participantPlan s links assignment scope (index + i) p = .ok q := by
  induction ps with
  | nil =>
      intro index qs h
      injection h with h
      subst h
      exact ⟨rfl, fun i p hp => by cases hp⟩
  | cons p rest ih =>
      intro index qs h
      obtain ⟨q, more, hq, hmore, rfl⟩ := composeFrom_cons_eq_ok_iff.mp h
      obtain ⟨hlen, hget⟩ := ih hmore
      refine ⟨by rw [List.length_cons, List.length_cons, hlen], ?_⟩
      intro i p' hp'
      cases i with
      | zero =>
          injection hp' with hp'
          subst hp'
          exact ⟨q, rfl, hq⟩
      | succ i =>
          obtain ⟨q', hq', hplan⟩ := hget i p' hp'
          refine ⟨q', hq', ?_⟩
          rw [← hplan]
          congr 1
          omega

/-- So participants are composed when each of them is. -/
theorem exists_composeFrom_iff {ps : List Participant} :
    ∀ {index : Nat}, (∃ qs, c.composeFrom s links assignment scope index ps = .ok qs)
      ↔ ∀ i p, ps[i]? = some p →
          ∃ q, c.participantPlan s links assignment scope (index + i) p = .ok q := by
  induction ps with
  | nil => intro index; simp [composeFrom]
  | cons p rest ih =>
      intro index
      constructor
      · rintro ⟨qs, h⟩ i p' hp'
        obtain ⟨q, -, hq⟩ := (composeFrom_eq_ok h).2 i p' hp'
        exact ⟨q, hq⟩
      · intro h
        obtain ⟨q, hq⟩ := h 0 p rfl
        have hrest : ∃ more, c.composeFrom s links assignment scope (index + 1) rest = .ok more := by
          refine ih.mpr fun i p' hp' => ?_
          rw [Nat.add_assoc, Nat.add_comm 1 i]
          exact h (i + 1) p' hp'
        obtain ⟨more, hmore⟩ := hrest
        exact ⟨q :: more, composeFrom_cons_eq_ok_iff.mpr ⟨q, more, hq, hmore, rfl⟩⟩

/-- And two ways of composing agree when they do on each participant. -/
theorem composeFrom_congr {s' : Slice} {links' : List Link} {scope' : Scope}
    {ps : List Participant}
    (h : ∀ p ∈ ps, ∀ index, c.participantPlan s links assignment scope index p
      = c.participantPlan s' links' assignment scope' index p) :
    ∀ index, c.composeFrom s links assignment scope index ps
      = c.composeFrom s' links' assignment scope' index ps := by
  induction ps with
  | nil => intro index; rfl
  | cons p rest ih =>
      intro index
      obtain ⟨hp, hrest⟩ := List.forall_mem_cons.mp h
      unfold composeFrom
      rw [hp, ih hrest]

/-- Neighbors are looked up among the participants alone. -/
theorem neighborsOf_congr {s' : Slice} (h : s.participants = s'.participants)
    (names : List String) : neighborsOf s names = neighborsOf s' names := by
  induction names with
  | nil => rfl
  | cons name rest ih =>
      unfold neighborsOf neighbor lastNamed?
      rw [ih, h]

/-- The links are composed by the neighbors across them, and by nothing else. -/
theorem compose_congr_links {links' : List Link}
    (h : ∀ p ∈ s.participants, neighbors s links p.name = neighbors s links' p.name) :
    c.compose s links assignment scope = c.compose s links' assignment scope := by
  refine composeFrom_congr (fun p hp index => ?_) 0
  unfold participantPlan
  rw [h p hp]

-- ============================================================= whole plans

variable {plan : Plan}

/-- A plan is made of what its five steps come to. -/
theorem plan_eq_ok_iff :
    c.plan s scope = .ok plan
      ↔ s.validate = .ok () ∧ checkGiven s = .ok ()
        ∧ assign s = .ok plan.assignment ∧ c.links s scope = .ok plan.links
        ∧ c.compose s plan.links plan.assignment scope = .ok plan.participants
        ∧ plan.sliceName = s.name := by
  unfold Composer.plan
  constructor
  · intro h
    obtain ⟨_, hvalid, h⟩ := bind_eq_ok.mp h
    obtain ⟨_, hgiven, h⟩ := bind_eq_ok.mp h
    obtain ⟨assignment, hassign, h⟩ := bind_eq_ok.mp h
    obtain ⟨links, hlinks, h⟩ := bind_eq_ok.mp h
    obtain ⟨participants, hparticipants, h⟩ := bind_eq_ok.mp h
    injection h with h
    subst h
    exact ⟨hvalid, hgiven, hassign, hlinks, hparticipants, rfl⟩
  · rintro ⟨hvalid, hgiven, hassign, hlinks, hparticipants, hname⟩
    rw [hvalid, hgiven, hassign, hlinks]
    show (c.compose s plan.links plan.assignment scope >>= fun participants =>
      .ok ⟨s.name, plan.links, plan.assignment, participants⟩) = .ok plan
    rw [hparticipants, ← hname]
    rfl

/-- A plan assigns sub-blocks exactly where the slice has a block and is to
be partitioned. -/
theorem assign_eq_ok_iff :
    assign s = .ok assignment
      ↔ ∃ block, s.block = .ok block
        ∧ match block with
          | some block =>
              if s.partition then
                ∃ blocks, block.partition s.participants.length = .ok blocks
                  ∧ assignment = some ⟨blocks⟩
              else assignment = none
          | none => assignment = none := by
  unfold assign
  constructor
  · intro h
    obtain ⟨block, hblock, h⟩ := bind_eq_ok.mp h
    refine ⟨block, hblock, ?_⟩
    cases block with
    | none => injection h with h; exact h.symm
    | some block =>
        dsimp only at h ⊢
        split at h
        case isFalse hpart => rw [if_neg hpart]; injection h with h; exact h.symm
        case isTrue hpart =>
            rw [if_pos hpart]
            obtain ⟨a, ha, h⟩ := bind_eq_ok.mp h
            obtain ⟨blocks, hblocks, ha⟩ := bind_eq_ok.mp ha
            injection h with h
            injection ha with ha
            exact ⟨blocks, hblocks, by rw [← h, ← ha]⟩
  · rintro ⟨block, hblock, h⟩
    rw [hblock]
    cases block with
    | none => subst h; rfl
    | some block =>
        dsimp only at h
        split at h
        case isFalse hpart => subst h; simp [bind, Except.bind, hpart]; rfl
        case isTrue hpart =>
            obtain ⟨blocks, hblocks, rfl⟩ := h
            simp [bind, Except.bind, hpart, Assignment.compute, hblocks]
            rfl

/-- Every participant of the slice has its plan, in its place. -/
theorem plan_participant (h : c.plan s scope = .ok plan) {i : Nat} {p : Participant}
    (hp : s.participants[i]? = some p) :
    ∃ q, plan.participants[i]? = some q
      ∧ c.participantPlan s plan.links plan.assignment scope i p = .ok q := by
  obtain ⟨-, -, -, -, hcompose, -⟩ := plan_eq_ok_iff.mp h
  obtain ⟨q, hq, hplan⟩ := (composeFrom_eq_ok hcompose).2 i p hp
  rw [Nat.zero_add] at hplan
  exact ⟨q, hq, hplan⟩

/-- A plan has as many participants as its slice. -/
theorem length_plan (h : c.plan s scope = .ok plan) :
    plan.participants.length = s.participants.length := by
  obtain ⟨-, -, -, -, hcompose, -⟩ := plan_eq_ok_iff.mp h
  exact (composeFrom_eq_ok hcompose).1

/-- And every plan of a participant is that of one of the slice. -/
theorem exists_participant_of_plan (h : c.plan s scope = .ok plan) {q : ParticipantPlan}
    (hq : q ∈ plan.participants) :
    ∃ i p, s.participants[i]? = some p
      ∧ c.participantPlan s plan.links plan.assignment scope i p = .ok q := by
  obtain ⟨i, hi⟩ := List.mem_iff_getElem?.mp hq
  have hlt : i < s.participants.length :=
    length_plan h ▸ (List.getElem?_eq_some_iff.mp hi).1
  obtain ⟨q', hq', hplan⟩ := plan_participant h (List.getElem?_eq_getElem hlt)
  rw [hi] at hq'
  injection hq' with hq'
  exact ⟨i, _, List.getElem?_eq_getElem hlt, hq' ▸ hplan⟩

/-- And every object of a plan is the segment, the edge device or the overlay of
one of them. -/
theorem descriptor_of_plan (h : c.plan s scope = .ok plan) {q : ParticipantPlan}
    (hq : q ∈ plan.participants) {d : Descriptor} (hd : d ∈ q.descriptors) :
    ∃ i p, s.participants[i]? = some p
      ∧ ((∃ segment, c.segment s plan.assignment i p = .ok segment ∧ d = .segment segment)
        ∨ (∃ ns, d = .edgeDevice (c.edgeDevice s ns p))
        ∨ ∃ overlay, c.overlay s p = .ok overlay ∧ d = .overlay overlay) := by
  obtain ⟨i, p, hp, hplan⟩ := exists_participant_of_plan h hq
  refine ⟨i, p, hp, ?_⟩
  obtain ⟨segment, hsegment, -, ⟨-, hds⟩ | ⟨ns, overlay, -, -, hoverlay, hds⟩⟩ :=
    participantPlan_cases hplan
  · rw [hds] at hd
    exact Or.inl ⟨segment, hsegment, List.mem_singleton.mp hd⟩
  · rw [hds] at hd
    simp only [List.mem_cons, List.not_mem_nil, or_false] at hd
    rcases hd with rfl | rfl | rfl
    · exact Or.inl ⟨segment, hsegment, rfl⟩
    · exact Or.inr (Or.inl ⟨ns, rfl⟩)
    · exact Or.inr (Or.inr ⟨overlay, hoverlay, rfl⟩)

/-- The participants of a plan have the names of the slice, in order. -/
theorem plan_names (h : c.plan s scope = .ok plan) :
    plan.participants.map ParticipantPlan.participant = s.names := by
  unfold Slice.names
  refine List.ext_getElem? fun i => ?_
  rw [List.getElem?_map, List.getElem?_map]
  cases hp : s.participants[i]? with
  | none =>
      have hlen := List.getElem?_eq_none_iff.mp hp
      rw [List.getElem?_eq_none (by rw [length_plan h]; exact hlen)]
      rfl
  | some p =>
      obtain ⟨q, hq, hplan⟩ := plan_participant h hp
      rw [hq]
      exact congrArg some (participantPlan_eq_ok hplan).1

/-- No two participants of a plan have one name. -/
theorem nodup_names_of_plan (h : c.plan s scope = .ok plan) :
    (plan.participants.map ParticipantPlan.participant).Nodup := by
  rw [plan_names h]
  exact Slice.nodup_names_of_validate (plan_eq_ok_iff.mp h).1

/-- A participant of a plan is found under its name. -/
theorem participant?_of_plan (h : c.plan s scope = .ok plan) {q : ParticipantPlan}
    (hq : q ∈ plan.participants) : plan.participant? q.participant = some q :=
  find?_eq_some_of_nodup (nodup_names_of_plan h) hq

end Composer

end NetworkSlice
