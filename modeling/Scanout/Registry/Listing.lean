/-
**Listing displays.**

A listing shows each display of a registry in one record: the path and driver of its device, its
connector, and the encoder and CRTC that drive it.  Records are written as lines of text or as
JSON; JSON cannot hold a path that is not text.

Main definitions:

* `Scanout.DisplayRecord` — what a listing says about a display;
* `Scanout.Registry.record?`, `Scanout.Registry.records` — the record of a display and of all;
* `Scanout.DisplayRecord.line`, `Scanout.listingText` — records as text;
* `Scanout.DisplayRecord.toJson`, `Scanout.listingJson` — records as JSON.
-/

import Scanout.Registry.Basic
import Scanout.Text.Json

set_option relaxedAutoImplicit false
set_option autoImplicit false

namespace Scanout

open Text (Json)

variable {κ σ : Type}

/-- What a listing says about a display. -/
structure DisplayRecord where
  display : DisplayId
  /-- The path of the device's node. -/
  device : Path
  /-- The name of the device's driver. -/
  driver : String
  connector : String
  connectorId : ObjectId
  connected : Bool
  internal : Bool
  encoderId : ObjectId
  crtcId : ObjectId
  crtcIndex : Nat
  modeSize : Option (UInt16 × UInt16)
  deriving Repr

/-! ### Taking records -/

/-- The record of a pipeline of a device. -/
def DisplayRecord.ofPipeline (path : Path) (driver : String) (p : Pipeline) : DisplayRecord where
  display := p.display
  device := path
  driver := driver
  connector := p.connector.name
  connectorId := p.connector.id
  connected := p.connector.isConnected
  internal := p.connector.isInternal
  encoderId := p.encoder.id
  crtcId := p.crtc.id
  crtcIndex := p.crtc.index
  modeSize := p.crtc.modeSize

/-- Records of pipelines of a device.  The driver's name is asked for each time. -/
def recordPipelines (K : Kernel κ σ) (path : Path) (device : Device κ) :
    List Pipeline → Action κ σ (List DisplayRecord)
  | [] => return []
  | p :: rest => do
    let driver ← device.name K
    let others ← recordPipelines K path device rest
    return .ofPipeline path driver p :: others

/-- Records of all pipelines of registered devices. -/
def recordDevices (K : Kernel κ σ) :
    List (Path × Device κ) → Action κ σ (List DisplayRecord)
  | [] => return []
  | (path, device) :: rest => do
    let first ← recordPipelines K path device device.pipelines
    let others ← recordDevices K rest
    return first ++ others

namespace Registry

/-- The record of a display. -/
def record? (K : Kernel κ σ) (r : Registry κ) (n : DisplayId) :
    Action κ σ (Option DisplayRecord) :=
  match r.deviceFor? n with
  | none => return none
  | some (path, device) =>
    match device.pipeline? n with
    | none => return none
    | some p => do
      let driver ← device.name K
      return some (.ofPipeline path driver p)

/-- The records of all displays, in display order. -/
def records (K : Kernel κ σ) (r : Registry κ) : Action κ σ (List DisplayRecord) := do
  let all ← recordDevices K r.entries
  return all.mergeSort fun a b => a.display ≤ b.display

end Registry

/-! ### Records as text -/

/-- The size of a mode as text. -/
def sizeText (size : UInt16 × UInt16) : String := s!"{size.1.toNat}x{size.2.toNat}"

/-- A record as a line of text. -/
def DisplayRecord.line (r : DisplayRecord) : String :=
  let kind := if r.internal then "internal" else "external"
  let state := if r.connected then "connected" else "disconnected"
  let mode := match r.modeSize with
    | some size => ", " ++ sizeText size
    | none => ""
  s!"display {r.display}: {r.connector} ({kind}, {state}) on {r.device.display}: " ++
    s!"encoder {r.encoderId.toNat}, CRTC {r.crtcId.toNat} (index {r.crtcIndex}){mode}"

/-- A listing as lines of text. -/
def listingText : List DisplayRecord → String
  | [] => "no displays\n"
  | records => String.join (records.map fun r => r.line ++ "\n")

/-! ### Records as JSON -/

/-- Why a listing could not be written. -/
inductive ListingError where
  /-- A path is not text. -/
  | pathNotText
  deriving DecidableEq, Repr

/-- The text of an error. -/
def ListingError.message : ListingError → String
  | .pathNotText => "path contains invalid UTF-8 characters"

/-- A record as JSON. -/
def DisplayRecord.toJson (r : DisplayRecord) : Except ListingError Json :=
  match r.device.text? with
  | none => .error .pathNotText
  | some device => .ok <| .object [
      ("display", .number r.display.val.toNat),
      ("device", .string device),
      ("driver", .string r.driver),
      ("connector", .string r.connector),
      ("connector_id", .number r.connectorId.toNat),
      ("connected", .bool r.connected),
      ("internal", .bool r.internal),
      ("encoder_id", .number r.encoderId.toNat),
      ("crtc_id", .number r.crtcId.toNat),
      ("crtc_index", .number r.crtcIndex),
      ("mode_size", match r.modeSize with
        | some (width, height) => .array [.number width.toNat, .number height.toNat]
        | none => .null)]

/-- A listing as JSON text. -/
def listingJson (records : List DisplayRecord) : Except ListingError String := do
  let items ← records.mapM DisplayRecord.toJson
  return (Json.array items).pretty

end Scanout
