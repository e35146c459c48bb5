/-
**Building cards in memory.**

A card is built step by step: each step adds an object, a property or a refusal.  Properties are
numbered from 1000 over the whole card in the order in which they are added, and a property of an
object is kept apart from those of every other object and type.

Main definitions:

* `Scanout.BuildStep` — the steps;
* `Scanout.MemoryCard.apply`, `Scanout.MemoryCard.build` — the card after one step and after many;
* `Scanout.MemoryCard.laptop` — a card with a lit panel and a socket for a monitor.
-/

import Scanout.MemoryCard.Basic

set_option relaxedAutoImplicit false
set_option autoImplicit false

namespace Scanout

/-- A connector to be added. -/
structure ConnectorPlan where
  id : ObjectId
  interface : Interface
  state : ConnectionState
  currentEncoder : Option ObjectId
  encoders : List ObjectId
  deriving DecidableEq, Repr

/-- A step in building a card. -/
inductive BuildStep where
  /-- Starts anew from the card `laptop`. -/
  | laptop
  /-- An operation is refused as invalid. -/
  | refuse (op : Operation)
  /-- The capability for format modifiers. -/
  | modifiers (supported : Bool)
  /-- A CRTC with its properties. -/
  | crtc (id : ObjectId)
  /-- A CRTC without properties, which cannot be read. -/
  | bareCrtc (id : ObjectId)
  | encoder (id : ObjectId) (currentCrtc : Option ObjectId) (possibleCrtcs : UInt32)
  /-- A connector with its property. -/
  | connector (plan : ConnectorPlan)
  /-- A connector without properties, which cannot be read. -/
  | bareConnector (plan : ConnectorPlan)
  | plane (id : ObjectId) (kind : PlaneKind) (possibleCrtcs : UInt32)
  /-- A plane whose property `type` has any value. -/
  | rawPlane (id : ObjectId) (type : UInt64) (possibleCrtcs : UInt32)
  | property (object : ObjectId) (kind : ObjectKind) (name : String) (value : UInt64)
  deriving DecidableEq, Repr

namespace MemoryCard

/-! ### Adding single things -/

/-- The number of the first property of a card. -/
def firstProperty : Nat := 1000

/-- The card on which an object has a list of properties, perhaps an empty one. -/
def touch (m : MemoryCard) (kind : ObjectKind) (id : ObjectId) : MemoryCard :=
  { m with properties := m.properties.modify (kind, id) (·.getD []) }

/-- Adds a property to an object. -/
def addProperty (m : MemoryCard) (object : ObjectId) (kind : ObjectKind) (name : String)
    (value : UInt64) : MemoryCard :=
  let id := UInt32.ofNat (firstProperty + m.propertyInfos.size)
  let info : PropertyInfo :=
    ⟨name, if name = "type" then .enumeration else .range, false, true⟩
  { m with
    propertyInfos := m.propertyInfos.insert id (.ok info)
    properties := m.properties.modify (kind, object) fun values => values.getD [] ++ [(id, value)] }

/-- Adds a CRTC without properties. -/
def addBareCrtc (m : MemoryCard) (id : ObjectId) : MemoryCard :=
  touch { m with crtcs := m.crtcs ++ [⟨id, ⟨none⟩, none⟩] } .crtc id

/-- Adds a CRTC with the properties of an atomic driver. -/
def addCrtc (m : MemoryCard) (id : ObjectId) : MemoryCard :=
  ((m.addBareCrtc id).addProperty id .crtc "ACTIVE" 0).addProperty id .crtc "MODE_ID" 0

/-- Adds an encoder. -/
def addEncoder (m : MemoryCard) (id : ObjectId) (currentCrtc : Option ObjectId)
    (possibleCrtcs : UInt32) : MemoryCard :=
  { m with encoders := m.encoders ++ [⟨id, ⟨currentCrtc, possibleCrtcs⟩, none⟩] }

/-- Adds a connector without properties.  Connectors of one interface are numbered from 1. -/
def addBareConnector (m : MemoryCard) (plan : ConnectorPlan) : MemoryCard :=
  let before := m.connectors.countP (·.info.interface = plan.interface)
  let info : ConnectorInfo := {
    interface := plan.interface
    interfaceId := UInt32.ofNat (before + 1)
    state := plan.state
    currentEncoder := plan.currentEncoder
    encoders := plan.encoders }
  touch { m with connectors := m.connectors ++ [⟨plan.id, info, none⟩] } .connector plan.id

/-- Adds a connector with the property that binds it to a CRTC. -/
def addConnector (m : MemoryCard) (plan : ConnectorPlan) : MemoryCard :=
  (m.addBareConnector plan).addProperty plan.id .connector "CRTC_ID" 0

/-- Adds a plane whose property `type` has a value. -/
def addPlane (m : MemoryCard) (id : ObjectId) (type : UInt64) (possibleCrtcs : UInt32) :
    MemoryCard :=
  addProperty { m with planes := m.planes ++ [⟨id, ⟨none, possibleCrtcs⟩, none⟩] } id .plane "type"
    type

/-! ### Building -/

/-- The card with nothing on it from which building starts. -/
def blank : MemoryCard := empty .notFound

/-- A card with two CRTCs, two encoders tied to one CRTC each, a built-in panel that is lit through
the first encoder and a monitor for which nothing is configured. -/
def laptop : MemoryCard :=
  let withEncoders :=
    (((blank.addCrtc 20).addCrtc 21).addEncoder 30 (some 20) 0b01).addEncoder 31 none 0b10
  let withConnectors :=
    (withEncoders.addConnector ⟨40, .embeddedDisplayPort, .connected, some 30, [30]⟩).addConnector
      ⟨41, .hdmiA, .connected, none, [30, 31]⟩
  ((withConnectors.addPlane 50 PlaneKind.primary.code 0b01).addPlane 51 PlaneKind.primary.code
    0b10).addPlane 52 PlaneKind.cursor.code 0b11

/-- The card after a step. -/
def apply (m : MemoryCard) : BuildStep → MemoryCard
  | .laptop => laptop
  | .refuse op => m.setRefusal op (some (.os 22))
  | .modifiers supported => { m with addFb2 := if supported then 1 else 0 }
  | .crtc id => m.addCrtc id
  | .bareCrtc id => m.addBareCrtc id
  | .encoder id currentCrtc possibleCrtcs => m.addEncoder id currentCrtc possibleCrtcs
  | .connector plan => m.addConnector plan
  | .bareConnector plan => m.addBareConnector plan
  | .plane id kind possibleCrtcs => m.addPlane id kind.code possibleCrtcs
  | .rawPlane id type possibleCrtcs => m.addPlane id type possibleCrtcs
  | .property object kind name value => m.addProperty object kind name value

/-- The card after steps, from nothing. -/
def build (steps : List BuildStep) : MemoryCard := steps.foldl apply blank

end MemoryCard

end Scanout
