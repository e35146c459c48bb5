/-
**Mode-setting devices.**

A device is a card whose capabilities were negotiated, whose objects were enumerated and whose
connectors were all routed.  A device that exists is complete and does not change any more; what
it answers about its displays follows from its routing.

Main definitions:

* `Scanout.Device`, `Scanout.Device.init` — a device and how a card becomes one;
* `Scanout.Pipeline` — a display with the objects that drive it;
* `Scanout.Device.pipeline?`, `Scanout.Device.pipelines`, `Scanout.Device.displayForConnector?` —
  the displays of a device;
* `Scanout.Device.name` — the name of the driver.
-/

import Scanout.Capability
import Scanout.Resources
import Scanout.Routing.Report

set_option relaxedAutoImplicit false
set_option autoImplicit false

namespace Scanout

variable {κ σ : Type}

/-- A display and the objects that drive it. -/
structure Pipeline where
  display : DisplayId
  connector : Connector
  encoder : Encoder
  crtc : Crtc
  deriving DecidableEq, Repr

/-- The routing problem that the objects of a card pose. -/
def Resources.problem (r : Resources) : Routing.Problem :=
  ⟨r.connectors, r.encoders, r.crtcs⟩

/-- An initialized card. -/
structure Device (κ : Type) where
  card : κ
  capabilities : Capabilities
  resources : Resources
  assignment : Routing.Assignment
  deriving DecidableEq, Repr

namespace Device

/-! ### Displays -/

/-- Whether the device drives a display. -/
def handles (d : Device κ) (n : DisplayId) : Bool := (d.assignment.pipe? n).isSome

/-- The number of displays. -/
def displayCount (d : Device κ) : Nat := d.assignment.size

/-- The displays, in order. -/
def displays (d : Device κ) : List DisplayId := d.assignment.pipes.map (·.1)

/-- The first display id after those of the device. -/
def nextDisplay (d : Device κ) : DisplayId := d.assignment.next

/-- A display with the objects at the positions of its pipe. -/
def resolve? (d : Device κ) (n : DisplayId) (pipe : Routing.Pipe) : Option Pipeline :=
  (d.resources.problem.resolve? pipe).map fun (connector, encoder, crtc) =>
    ⟨n, connector, encoder, crtc⟩

/-- What drives a display. -/
def pipeline? (d : Device κ) (n : DisplayId) : Option Pipeline :=
  (d.assignment.pipe? n).bind (d.resolve? n)

/-- All displays with what drives them, in display order. -/
def pipelines (d : Device κ) : List Pipeline :=
  d.assignment.pipes.filterMap fun (n, pipe) => d.resolve? n pipe

/-- The connector of a display. -/
def connector? (d : Device κ) (n : DisplayId) : Option Connector :=
  (d.pipeline? n).map (·.connector)

/-- The encoder of a display. -/
def encoder? (d : Device κ) (n : DisplayId) : Option Encoder := (d.pipeline? n).map (·.encoder)

/-- The CRTC of a display. -/
def crtc? (d : Device κ) (n : DisplayId) : Option Crtc := (d.pipeline? n).map (·.crtc)

/-- The display on the first connector with a kernel id. -/
def displayForConnector? (d : Device κ) (id : ObjectId) : Option DisplayId :=
  (d.resources.connectors.findIdx? (·.id = id)).bind d.assignment.displayOf?

/-! ### Objects -/

/-- The first CRTC with a kernel id. -/
def findCrtc? (d : Device κ) (id : ObjectId) : Option Crtc := d.resources.crtcs.find? (·.id = id)

/-- The first encoder with a kernel id. -/
def findEncoder? (d : Device κ) (id : ObjectId) : Option Encoder :=
  d.resources.encoders.find? (·.id = id)

/-- Whether framebuffers can have explicit format modifiers. -/
def hasModifiers (d : Device κ) : Bool := d.capabilities.modifiers

/-! ### Kernel services -/

/-- What a driver is called whose name cannot be read. -/
def fallbackName : String := "generic"

/-- The name of the driver. -/
def name (K : Kernel κ σ) (d : Device κ) : Action κ σ String := do
  match ← K.ask d.card .driverName with
  | .ok name => return name
  | .error e =>
    Action.debug s!"error getting driver name: {e.debug}"
    return fallbackName

/-- A property of one of the device's objects. -/
def property (K : Kernel κ σ) (d : Device κ) (object : ObjectId) (kind : ObjectKind)
    (name : String) : Attempt κ σ DeviceError Property :=
  getProperty K d.card object kind name

/-! ### Initialization -/

/-- Logs each display and what drives it. -/
def announce : List Pipeline → Action κ σ Unit
  | [] => return ()
  | p :: rest => do
    Action.debug <|
      s!"display {p.display}: {p.connector.name} on CRTC {p.crtc.id.toNat} " ++
        s!"(encoder {p.encoder.id.toNat})"
    announce rest

/-- Makes a card a device whose displays are numbered from `first`. -/
def init (K : Kernel κ σ) (card : κ) (first : DisplayId) :
    Attempt κ σ DeviceError (Device κ) := do
  let capabilities ← negotiate K card
  let resources ← enumerate K card
  let assignment ← Routing.route resources.problem first
  let device : Device κ := ⟨card, capabilities, resources, assignment⟩
  ExceptT.lift (announce device.pipelines)
  return device

end Device

end Scanout
