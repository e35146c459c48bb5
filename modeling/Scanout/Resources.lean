/-
**Enumerating a card's objects.**

Every id in the kernel's lists is read into a typed object.  An object that cannot be read, or that
lacks a property a device needs, is left out with a warning; only a list that cannot be read at all
stops the enumeration.  Objects keep the position they have in the kernel's list, whatever was left
out before them, because masks of possible CRTCs count those positions.

Main definitions:

* `Scanout.ObjectError` — why one object could not be read;
* `Scanout.Crtc.read`, `Scanout.Encoder.read`, `Scanout.Connector.read`, `Scanout.Plane.read` — how
  one object is read;
* `Scanout.readAll` — how a list of ids is read;
* `Scanout.Resources`, `Scanout.enumerate` — everything a card has.
-/

import Scanout.Property

set_option relaxedAutoImplicit false
set_option autoImplicit false

namespace Scanout

variable {κ σ : Type}

/-! ### One object -/

/-- Why an object could not be read. -/
inductive ObjectError where
  /-- The kernel did not say anything about the object; `subject` is the type of the object. -/
  | noInfo (subject : String) (source : SystemError)
  /-- A property of the object could not be found. -/
  | property (cause : DeviceError)
  /-- The property `type` of a plane has a value without a meaning. -/
  | unknownPlaneType (value : UInt64)
  deriving Repr

/-- The messages of an error and its causes. -/
def ObjectError.chain : ObjectError → Text.Chain
  | .noInfo subject source => ⟨s!"error getting {subject} info", [source.message]⟩
  | .property cause => cause.chain
  | .unknownPlaneType value => ⟨s!"unknown plane type {value.toNat}", []⟩

/-- A property that an object must have. -/
def requireProperty (K : Kernel κ σ) (card : κ) (object : ObjectId) (kind : ObjectKind)
    (name : String) : Attempt κ σ ObjectError Property :=
  ExceptT.mk do
    match ← getProperty K card object kind name with
    | .ok property => return .ok property
    | .error e => return .error (.property e)

/-- Reads the CRTC at a position of the kernel's list. -/
def Crtc.read (K : Kernel κ σ) (card : κ) (id : ObjectId) (index : Nat) :
    Attempt κ σ ObjectError Crtc := do
  let info ← K.demand card (.crtcInfo id) (.noInfo "CRTC")
  let active ← requireProperty K card id .crtc "ACTIVE"
  let modeId ← requireProperty K card id .crtc "MODE_ID"
  return ⟨id, index, info.modeSize, active.id, modeId.id⟩

/-- Reads the encoder at a position of the kernel's list. -/
def Encoder.read (K : Kernel κ σ) (card : κ) (id : ObjectId) (index : Nat) :
    Attempt κ σ ObjectError Encoder := do
  let info ← K.demand card (.encoderInfo id) (.noInfo "encoder")
  return ⟨id, index, info.currentCrtc, info.possibleCrtcs⟩

/-- Reads the connector at a position of the kernel's list. -/
def Connector.read (K : Kernel κ σ) (card : κ) (id : ObjectId) (index : Nat) :
    Attempt κ σ ObjectError Connector := do
  let info ← K.demand card (.connectorInfo id) (.noInfo "connector")
  let crtcId ← requireProperty K card id .connector "CRTC_ID"
  return ⟨id, index, info.interface, info.interfaceId, info.state, info.currentEncoder,
    info.encoders, crtcId.id⟩

/-- Reads a plane. -/
def Plane.read (K : Kernel κ σ) (card : κ) (id : ObjectId) : Attempt κ σ ObjectError Plane := do
  let info ← K.demand card (.planeInfo id) (.noInfo "plane")
  let type ← requireProperty K card id .plane "type"
  match PlaneKind.ofCode? type.value with
  | some kind => return ⟨id, kind, info.currentCrtc, info.possibleCrtcs⟩
  | none => throw (.unknownPlaneType type.value)

/-! ### All objects -/

/-- Reads the objects of a list of ids, the first of them at position `index`.  One that cannot be
read is left out with a warning. -/
def readAll {α : Type} (subject : String) (read : ObjectId → Nat → Attempt κ σ ObjectError α) :
    List ObjectId → Nat → Action κ σ (List α)
  | [], _ => return []
  | id :: rest, index => do
    match ← (read id index).run with
    | .ok object =>
      let others ← readAll subject read rest (index + 1)
      return object :: others
    | .error e =>
      Action.warn s!"skipping {subject} {id.toNat}: {e.chain.report}"
      readAll subject read rest (index + 1)

/-- Everything a card has, each list in kernel order. -/
structure Resources where
  /-- The connectors that lead to screens. -/
  connectors : List Connector
  /-- The connectors that write to memory. -/
  writebackConnectors : List Connector
  encoders : List Encoder
  crtcs : List Crtc
  planes : List Plane
  bounds : Bounds
  deriving DecidableEq, Repr

/-- The number of objects of each type, as logs show it. -/
def Resources.summary (r : Resources) : String :=
  let connectors := r.connectors.length + r.writebackConnectors.length
  s!"found {r.crtcs.length} CRTCs, {r.encoders.length} encoders, {connectors} connectors " ++
    s!"({r.writebackConnectors.length} writeback), {r.planes.length} planes"

/-- Reads everything a card has. -/
def enumerate (K : Kernel κ σ) (card : κ) : Attempt κ σ DeviceError Resources := do
  let listed ← K.demand card .resources (.noResources "resources")
  let planeIds ← K.demand card .planeIds (.noResources "plane resources")
  ExceptT.lift do
    let crtcs ← readAll "CRTC" (Crtc.read K card) listed.crtcs 0
    let encoders ← readAll "encoder" (Encoder.read K card) listed.encoders 0
    let connectors ← readAll "connector" (Connector.read K card) listed.connectors 0
    let planes ← readAll "plane" (fun id _ => Plane.read K card id) planeIds 0
    let resources : Resources := {
      connectors := connectors.filter (!·.isWriteback)
      writebackConnectors := connectors.filter (·.isWriteback)
      encoders := encoders
      crtcs := crtcs
      planes := planes
      bounds := listed.bounds }
    Action.debug resources.summary
    return resources

/-- Whether a card has at least one CRTC, one connector and one encoder. -/
def hasModeSetting (K : Kernel κ σ) (card : κ) : Action κ σ Bool := do
  match ← K.ask card .resources with
  | .ok listed =>
    return !listed.crtcs.isEmpty && !listed.connectors.isEmpty && !listed.encoders.isEmpty
  | .error e =>
    Action.debug s!"error getting resources: {e.debug}"
    return false

end Scanout
