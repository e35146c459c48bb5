/-
**Cards in memory.**

A card in memory answers every request from tables: the objects it lists, what it reports about
them, and which requests it refuses.  Of its state a request can change only whether writeback
connectors are shown, how often mastership was granted, and the blobs.

Main definitions:

* `Scanout.MemoryCard` — a card in memory;
* `Scanout.MemoryCard.answer` — how it answers a request;
* `Scanout.MemoryCard.kernel`, `Scanout.MemoryCard.bank` — one such card, and a row of them, as
  kernels.
-/

import Scanout.Kernel
import Scanout.Table

set_option relaxedAutoImplicit false
set_option autoImplicit false

namespace Scanout

open Text (Bytes)

/-! ### Refusals -/

/-- The requests that a card can be told to refuse. -/
inductive Operation where
  | universalPlanes
  | atomic
  | writeback
  /-- Any other client capability. -/
  | otherClientCapability
  | addFb2
  /-- Any other driver capability. -/
  | otherDriverCapability
  | master
  | driver
  | resources
  | planes
  | crtcInfo
  | encoderInfo
  | connectorInfo
  | planeInfo
  | objectProperties
  | propertyInfo
  | blobCreate
  | blobDestroy
  deriving DecidableEq, Repr

/-- The operation a request belongs to. -/
def Request.operation : Request → Operation
  | .setClientCapability .universalPlanes _ => .universalPlanes
  | .setClientCapability .atomic _ => .atomic
  | .setClientCapability .writebackConnectors _ => .writeback
  | .setClientCapability .stereo3d _ | .setClientCapability .aspectRatio _ => .otherClientCapability
  | .driverCapability .addFb2Modifiers => .addFb2
  | .driverCapability .prime | .driverCapability .cursorWidth => .otherDriverCapability
  | .acquireMaster => .master
  | .driverName => .driver
  | .resources => .resources
  | .planeIds => .planes
  | .connectorInfo _ => .connectorInfo
  | .encoderInfo _ => .encoderInfo
  | .crtcInfo _ => .crtcInfo
  | .planeInfo _ => .planeInfo
  | .objectProperties .. => .objectProperties
  | .propertyInfo _ => .propertyInfo
  | .createBlob _ => .blobCreate
  | .destroyBlob _ => .blobDestroy

/-! ### Objects and blobs -/

/-- A listed object and what the card says about it. -/
structure Listed (α : Type) where
  id : ObjectId
  info : α
  /-- The error with which the card answers instead, if it does. -/
  refusal : Option SystemError
  deriving DecidableEq, Repr

/-- The blobs of a card. -/
structure Blobs where
  /-- The data of all blobs ever made, oldest first; the ids count them from 1. -/
  made : List Bytes
  /-- The ids of the blobs that were not destroyed, oldest first. -/
  live : List ObjectId
  /-- The ids the card was asked to destroy, in that order, whether it did or not. -/
  destroyed : List ObjectId
  deriving DecidableEq, Repr, Inhabited

/-- No blobs. -/
def Blobs.none : Blobs := ⟨[], [], []⟩

/-- The blobs with one more, which has the last id. -/
def Blobs.create (b : Blobs) (data : Bytes) : ObjectId × Blobs :=
  let id := UInt32.ofNat (b.made.length + 1)
  (id, { b with made := b.made ++ [data], live := b.live ++ [id] })

/-- A card in memory. -/
structure MemoryCard where
  driver : String
  /-- The value of the driver capability for format modifiers. -/
  addFb2 : UInt64
  /-- The value of every other driver capability. -/
  otherCapabilities : UInt64
  bounds : Bounds
  crtcs : List (Listed CrtcInfo)
  encoders : List (Listed EncoderInfo)
  connectors : List (Listed ConnectorInfo)
  planes : List (Listed PlaneInfo)
  /-- The properties of each object that has any list of them. -/
  properties : Table (ObjectKind × ObjectId) PropertyValues
  propertyInfos : Table ObjectId (Except SystemError PropertyInfo)
  /-- The answer to a question about something that does not exist. -/
  unknown : SystemError
  /-- The operations that are refused, and how. -/
  refusals : Table Operation SystemError
  /-- Whether writeback connectors are shown. -/
  writeback : Bool
  /-- How often mastership was granted. -/
  mastered : Nat
  blobs : Blobs

namespace MemoryCard

/-- A card with nothing on it, to which questions about unknown objects fail with `unknown`. -/
def empty (unknown : SystemError) : MemoryCard where
  driver := "fake"
  addFb2 := 0
  otherCapabilities := 0
  bounds := ⟨(1, 1), (16384, 16384)⟩
  crtcs := []
  encoders := []
  connectors := []
  planes := []
  properties := .empty
  propertyInfos := .empty
  unknown := unknown
  refusals := .empty
  writeback := false
  mastered := 0
  blobs := .none

/-! ### Answers that change nothing -/

/-- The connectors that the card shows. -/
def shownConnectors (m : MemoryCard) : List (Listed ConnectorInfo) :=
  m.connectors.filter fun c => m.writeback || c.info.interface ≠ .writeback

/-- The ids of the card's objects. -/
def resourceList (m : MemoryCard) : ResourceList where
  crtcs := m.crtcs.map (·.id)
  encoders := m.encoders.map (·.id)
  connectors := m.shownConnectors.map (·.id)
  bounds := m.bounds

/-- What is said about the first object with an id in a list. -/
def lookUp {α : Type} (m : MemoryCard) (objects : List (Listed α)) (id : ObjectId) :
    Except SystemError α :=
  match objects.find? (·.id = id) with
  | none => .error m.unknown
  | some object =>
    match object.refusal with
    | some e => .error e
    | none => .ok object.info

/-- The properties of an object. -/
def propertiesOf (m : MemoryCard) (id : ObjectId) (kind : ObjectKind) :
    Except SystemError PropertyValues :=
  match m.properties.find? (kind, id) with
  | some values => .ok values
  | none => .error m.unknown

/-- The metadata of a property. -/
def infoOf (m : MemoryCard) (id : ObjectId) : Except SystemError PropertyInfo :=
  (m.propertyInfos.find? id).getD (.error m.unknown)

/-! ### Blobs -/

/-- Makes a blob. -/
def createBlob (m : MemoryCard) (data : Bytes) : ObjectId × MemoryCard :=
  let (id, blobs) := m.blobs.create data
  (id, { m with blobs := blobs })

/-- The card after it was asked to destroy a blob, before it does so. -/
def recordDestroy (m : MemoryCard) (id : ObjectId) : MemoryCard :=
  { m with blobs := { m.blobs with destroyed := m.blobs.destroyed ++ [id] } }

/-- Destroys a live blob. -/
def destroyBlob (m : MemoryCard) (id : ObjectId) : Except SystemError Unit × MemoryCard :=
  if m.blobs.live.contains id then
    (.ok (), { m with blobs := { m.blobs with live := m.blobs.live.erase id } })
  else (.error m.unknown, m)

/-! ### Answers -/

/-- The answer to a request that is not refused. -/
def grant (m : MemoryCard) : (q : Request) → Except SystemError q.Reply × MemoryCard
  | .setClientCapability .writebackConnectors enable => (.ok (), { m with writeback := enable })
  | .setClientCapability _ _ => (.ok (), m)
  | .driverCapability .addFb2Modifiers => (.ok m.addFb2, m)
  | .driverCapability _ => (.ok m.otherCapabilities, m)
  | .acquireMaster => (.ok (), { m with mastered := m.mastered + 1 })
  | .driverName => (.ok m.driver, m)
  | .resources => (.ok m.resourceList, m)
  | .planeIds => (.ok (m.planes.map (·.id)), m)
  | .connectorInfo id => (m.lookUp m.connectors id, m)
  | .encoderInfo id => (m.lookUp m.encoders id, m)
  | .crtcInfo id => (m.lookUp m.crtcs id, m)
  | .planeInfo id => (m.lookUp m.planes id, m)
  | .objectProperties id kind => (m.propertiesOf id kind, m)
  | .propertyInfo id => (m.infoOf id, m)
  | .createBlob data => ((.ok (m.createBlob data).1), (m.createBlob data).2)
  | .destroyBlob id => m.destroyBlob id

/-- What is noted of a request before it is granted or refused. -/
def note (m : MemoryCard) : Request → MemoryCard
  | .destroyBlob id => m.recordDestroy id
  | _ => m

/-- The answer to a request. -/
def answer (m : MemoryCard) (q : Request) : Except SystemError q.Reply × MemoryCard :=
  match m.refusals.find? q.operation with
  | some e => (.error e, m.note q)
  | none => (m.note q).grant q

/-- The card on which an operation is refused from now on, or not any more. -/
def setRefusal (m : MemoryCard) (op : Operation) (e : Option SystemError) : MemoryCard :=
  { m with
    refusals := match e with
      | some e => m.refusals.insert op e
      | none => m.refusals.erase op }

/-! ### Kernels -/

/-- The kernel with a single card. -/
def kernel : Kernel Unit MemoryCard where
  answer _ q m := m.answer q

/-- The kernel of a row of cards, a card's handle being its position. -/
def bank : Kernel Nat (List MemoryCard) where
  answer i q cards :=
    match cards[i]? with
    | none => (.error .notFound, cards)
    | some m => ((m.answer q).1, cards.set i (m.answer q).2)

end MemoryCard

end Scanout
