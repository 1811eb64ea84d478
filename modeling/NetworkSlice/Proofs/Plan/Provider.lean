import NetworkSlice.Proofs.Resource.Keys
import NetworkSlice.Proofs.Text.Blank

/-
One provider for all the objects of a plan.

The provider of a slice is settled part by part: what is asked for stays, and
what is not, or is blank, becomes the default (`provider_settles`). The objects
hold it in three shapes, segments and overlays by name and domain and edge
devices with the ports, and each is made by a function of its own, so the copies
could come apart; `providedBy_of_plan` is that they do not, whichever the
participant and the kind.

A slice's provider has a part in its plan only as it is settled
(`plan_congr_provider`), and what is settled settles to itself
(`provider_withProvider`). So a slice that asks for the very provider it got has
the plan it had.
-/
namespace NetworkSlice

/-- The provider as a slice asks for it. -/
def ProviderEndpoint.asked (p : ProviderEndpoint) : Provider :=
  ⟨p.name, p.domain, ⟨some p.ofPort, some p.sdnPort, some p.dnsPort, some p.dnsGrpcPort⟩⟩

/-- The slice, asking for another provider. -/
def Slice.withProvider (s : Slice) (given : Option Provider) : Slice :=
  { s with provider := given }

/-- The object is provided by `p`: it has all of it, or its name and domain. -/
def Descriptor.ProvidedBy (p : ProviderEndpoint) : Descriptor → Prop
  | segment x => x.spec.provider.name = p.name ∧ x.spec.provider.domain = p.domain
  | edgeDevice x => x.spec.provider = p
  | overlay x => x.spec.controller.name = p.name ∧ x.spec.controller.domain = p.domain

namespace Composer

variable {c : Composer} {s : Slice} {scope : Scope} {links : List Link}
  {assignment : Option Assignment} {index : Nat}

-- ============================================== settling the whole provider

/-- Each part of the provider is the one that the slice asks for, or the
default. -/
structure Settles (c : Composer) (s : Slice) (p : ProviderEndpoint) : Prop where
  name : Text.Settled (s.provider.map fun a => a.name) c.defaults.providerName p.name
  domain : Text.Settled (s.provider.map fun a => a.domain) c.defaults.providerDomain p.domain
  ofPort : Text.Settled (s.provider.bind fun a => a.ports.ofPort) c.defaults.ofPort p.ofPort
  sdnPort : Text.Settled (s.provider.bind fun a => a.ports.sdnPort) c.defaults.sdnPort p.sdnPort
  dnsPort : Text.Settled (s.provider.bind fun a => a.ports.dnsPort) c.defaults.dnsPort p.dnsPort
  dnsGrpcPort :
    Text.Settled (s.provider.bind fun a => a.ports.dnsGrpcPort) c.defaults.dnsGrpcPort p.dnsGrpcPort

/-- A slice that asks for no provider asks for none of its parts. -/
theorem provider_eq (c : Composer) (s : Slice) :
    c.provider s = {
      name := Text.orElse ((s.provider.map fun a => a.name).getD "") c.defaults.providerName
      domain := Text.orElse ((s.provider.map fun a => a.domain).getD "") c.defaults.providerDomain
      ofPort := Text.orElse ((s.provider.bind fun a => a.ports.ofPort).getD "") c.defaults.ofPort
      sdnPort := Text.orElse ((s.provider.bind fun a => a.ports.sdnPort).getD "") c.defaults.sdnPort
      dnsPort := Text.orElse ((s.provider.bind fun a => a.ports.dnsPort).getD "") c.defaults.dnsPort
      dnsGrpcPort :=
        Text.orElse ((s.provider.bind fun a => a.ports.dnsGrpcPort).getD "")
          c.defaults.dnsGrpcPort } := by
  unfold provider
  cases s.provider with
  | none => rfl
  | some a => rfl

/-- What the slice says of a provider goes before the defaults, field by field.
-/
theorem provider_settles (c : Composer) (s : Slice) : c.Settles s (c.provider s) := by
  rw [provider_eq]
  exact {
    name := Text.settled_orElse _ _
    domain := Text.settled_orElse _ _
    ofPort := Text.settled_orElse _ _
    sdnPort := Text.settled_orElse _ _
    dnsPort := Text.settled_orElse _ _
    dnsGrpcPort := Text.settled_orElse _ _ }

/-- What is settled settles to itself. -/
theorem provider_withProvider (c : Composer) (s : Slice) :
    c.provider (s.withProvider (some (c.provider s).asked)) = c.provider s := by
  simp only [provider, Slice.withProvider, ProviderEndpoint.asked, Option.getD_some,
    Text.orElse_orElse]

-- =========================================== composing without the provider

variable {given : Option Provider}

/-- A segment reads nothing of a provider but what comes of it. -/
theorem segment_congr_provider (h : c.provider (s.withProvider given) = c.provider s)
    (p : Participant) :
    c.segment (s.withProvider given) assignment index p = c.segment s assignment index p := by
  unfold Composer.segment
  rw [h]
  rfl

theorem edgeDevice_congr_provider (h : c.provider (s.withProvider given) = c.provider s)
    (ns : List Neighbor) (p : Participant) :
    c.edgeDevice (s.withProvider given) ns p = c.edgeDevice s ns p := by
  unfold Composer.edgeDevice
  rw [h]
  rfl

theorem overlay_congr_provider (h : c.provider (s.withProvider given) = c.provider s)
    (p : Participant) : c.overlay (s.withProvider given) p = c.overlay s p := by
  unfold Composer.overlay
  rw [h]
  rfl

/-- So a participant's plan does not either. -/
theorem participantPlan_congr_provider (h : c.provider (s.withProvider given) = c.provider s)
    (index : Nat) (p : Participant) :
    c.participantPlan (s.withProvider given) links assignment scope index p
      = c.participantPlan s links assignment scope index p := by
  have hnames : ∀ names, neighborsOf (s.withProvider given) names = neighborsOf s names :=
    neighborsOf_congr rfl
  unfold participantPlan neighbors
  simp only [segment_congr_provider h, edgeDevice_congr_provider h, overlay_congr_provider h, hnames]
  rfl

/-- A provider has a part in a plan only as it is settled. -/
theorem plan_congr_provider (h : c.provider (s.withProvider given) = c.provider s) :
    c.plan (s.withProvider given) scope = c.plan s scope := by
  have hcompose : c.compose (s.withProvider given) = c.compose s := by
    funext links assignment scope
    exact composeFrom_congr (fun p _ index => participantPlan_congr_provider h index p) 0
  unfold plan
  rw [hcompose]
  rfl

-- ================================================================ the copies

variable {plan : Plan} {q : ParticipantPlan}

/-- All the objects of a plan are provided by the slice's one provider. -/
theorem providedBy_of_plan (h : c.plan s scope = .ok plan) (hq : q ∈ plan.participants)
    {d : Descriptor} (hd : d ∈ q.descriptors) : d.ProvidedBy (c.provider s) := by
  obtain ⟨i, p, -, ⟨segment, hsegment, rfl⟩ | ⟨ns, rfl⟩ | ⟨overlay, hoverlay, rfl⟩⟩ :=
    descriptor_of_plan h hq hd
  · obtain ⟨given, -, rfl⟩ := segment_eq_ok_iff.mp hsegment
    exact ⟨rfl, rfl⟩
  · rfl
  · obtain ⟨links, -, rfl⟩ := overlay_eq_ok_iff.mp hoverlay
    exact ⟨rfl, rfl⟩

/-- Participants are joined in a slice of more than one. -/
theorem joins_iff : joins s scope = true ↔ scope = .slice ∧ 1 < s.participants.length := by
  simp [joins, Slice.isMultiCluster]

/-- What kinds of object a participant has goes by the slice and the scope, and
is the same for all. -/
theorem kinds_of_plan (h : c.plan s scope = .ok plan) (hq : q ∈ plan.participants) :
    q.descriptors.map Descriptor.kind
      = if scope = .slice ∧ 1 < s.participants.length then [.segment, .edgeDevice, .overlay]
        else [.segment] := by
  obtain ⟨i, p, -, hplan⟩ := exists_participant_of_plan h hq
  obtain ⟨segment, -, -, ⟨hjoins, hds⟩ | ⟨ns, overlay, hjoins, -, -, hds⟩⟩ :=
    participantPlan_cases hplan
  · have halone : ¬ (scope = .slice ∧ 1 < s.participants.length) := fun hboth => by
      rw [joins_iff.mpr hboth] at hjoins
      cases hjoins
    rw [hds, if_neg halone]
    rfl
  · rw [hds, if_pos (joins_iff.mp hjoins)]
    rfl

/-- Every plan has one shape and one provider. There is an entry for each
participant, in order and under its name; its objects are a segment, an edge
device and an overlay where clusters are joined, and else a segment alone. All
objects, of all kinds and participants, are labelled with the slice and provided
by its one provider, each part of which is the one that is asked for, unless
blank, and else the default. A slice that asks for this provider in full has the
same plan. -/
theorem plan_uniform (h : c.plan s scope = .ok plan) :
    plan.participants.map ParticipantPlan.participant = s.names
      ∧ (∀ q ∈ plan.participants,
          q.descriptors.map Descriptor.kind
              = (if scope = .slice ∧ 1 < s.participants.length then
                  [.segment, .edgeDevice, .overlay]
                else [.segment])
            ∧ ∀ d ∈ q.descriptors,
                d.metadata.labels.get? sliceLabel = some s.name ∧ d.ProvidedBy (c.provider s))
      ∧ c.Settles s (c.provider s)
      ∧ c.plan (s.withProvider (some (c.provider s).asked)) scope = .ok plan := by
  refine ⟨plan_names h, ?_, provider_settles c s, ?_⟩
  · intro q hq
    refine ⟨kinds_of_plan h hq, fun d hd => ⟨?_, providedBy_of_plan h hq hd⟩⟩
    rw [metadata_of_plan h hq hd, ObjectMeta.forSlice, Table.get?_insert, if_pos rfl]
  · rw [plan_congr_provider (provider_withProvider c s)]
    exact h

/-- Two clusters and a provider that is asked for in part: its domain and one of
its ports are blank, and two are not given. -/
def partlyProvidedSlice : Slice :=
  { Slice.named "blue" [
      Participant.named "north" "north-gate" "10.0.0.1",
      Participant.named "south" "south-gate" "10.0.0.2"] with
    provider := some ⟨"mine", " ", ⟨some "9999", some "\t", none, none⟩⟩ }

/-- The parts that are asked for are in the objects, with the defaults between
them. -/
theorem plan_uniform_partlyProvidedSlice :
    ∃ plan, (ofSettings .standard).plan partlyProvidedSlice .slice = .ok plan
      ∧ plan.participants.map ParticipantPlan.participant = ["north", "south"]
      ∧ (∀ q ∈ plan.participants, ∀ d ∈ q.descriptors,
          d.ProvidedBy ⟨"mine", "l2sm-controller-service.l2sm-system.svc", "9999", "30808", "30053",
            "30818"⟩)
      ∧ (ofSettings .standard).plan
          (partlyProvidedSlice.withProvider
            (some ((ofSettings .standard).provider partlyProvidedSlice).asked)) .slice
        = .ok plan := by
  have hok : ((ofSettings .standard).plan partlyProvidedSlice .slice).isOk = true := by rfl
  cases hplan : (ofSettings .standard).plan partlyProvidedSlice .slice with
  | error e => rw [hplan] at hok; cases hok
  | ok plan =>
      obtain ⟨hnames, hobjects, -, hagain⟩ := plan_uniform hplan
      exact ⟨plan, rfl, hnames, fun q hq d hd => ((hobjects q hq).2 d hd).2, hagain⟩

end Composer

end NetworkSlice
