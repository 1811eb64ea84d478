/-
Switch templates: what runs at the nodes of an overlay and on a gateway.

The two switches are one container that learns the name of its node and may
administer the network; they differ in how it is started.
-/
namespace NetworkSlice

/-- What a container's variable takes its value from. -/
structure FieldRef where
  path : String
deriving DecidableEq, Repr

/-- The source of a variable's value. -/
structure EnvSource where
  fieldRef : FieldRef
deriving DecidableEq, Repr

/-- A variable of a container. -/
structure EnvVar where
  name : String
  source : EnvSource
deriving DecidableEq, Repr

/-- What a container may do beyond the usual. -/
structure Capabilities where
  add : List String
deriving DecidableEq, Repr

/-- How a container is secured. -/
structure SecurityContext where
  capabilities : Capabilities
deriving DecidableEq, Repr

/-- A container. -/
structure Container where
  name : String
  image : String
  command : List String
  env : List EnvVar
  imagePullPolicy : Option String
  securityContext : SecurityContext
deriving DecidableEq, Repr

/-- What a pod runs. -/
structure SwitchPod where
  /-- Whether the pod shares the network of its node. -/
  hostNetwork : Bool
  containers : List Container
deriving DecidableEq, Repr

/-- The template of a switch's pods. -/
structure SwitchTemplate where
  pod : SwitchPod
deriving DecidableEq, Repr

/-- A container with what both switches need. -/
def Container.switch (name image : String) : Container where
  name := name
  image := image
  command := []
  env := [⟨"NODENAME", ⟨⟨"spec.nodeName"⟩⟩⟩]
  imagePullPolicy := none
  securityContext := ⟨⟨["NET_ADMIN"]⟩⟩

namespace SwitchTemplate

/-- The switch at every node of an overlay. -/
def overlaySwitch (image : String) : SwitchTemplate :=
  ⟨⟨false, [{ Container.switch "l2sm-switch" image with imagePullPolicy := some "Always" }]⟩⟩

/-- The switch on the gateway, on the network of its node. -/
def edgeSwitch (image : String) : SwitchTemplate :=
  ⟨⟨true, [{ Container.switch "l2sm-ned" image with command := ["./setup_ned.sh"] }]⟩⟩

end SwitchTemplate

end NetworkSlice
