/-
**The registry of devices.**

The registry owns every initialized device under the path of its node and numbers displays across
devices: each device goes on where the one before stopped.  A device that is removed takes its
displays with it, and their ids are not given out again.

Main definitions:

* `Scanout.Registry` — the registered devices and the next free display id;
* `Scanout.Registry.AddError` — why a card was not registered;
* `Scanout.Registry.add`, `Scanout.Registry.remove` — how devices come and go;
* `Scanout.Registry.get?`, `Scanout.Registry.deviceFor?`, `Scanout.Registry.pipeline?` — finding
  devices by path and by display.
-/

import Scanout.Device

set_option relaxedAutoImplicit false
set_option autoImplicit false

namespace Scanout

variable {κ σ : Type}

/-- Devices in the order in which they were registered. -/
structure Registry (κ : Type) where
  entries : List (Path × Device κ)
  /-- The first display id that was never given out. -/
  next : DisplayId
  /-- Whether scaling is left to the GPU rather than to the display hardware. -/
  scaleWithGpu : Bool
  deriving Repr

namespace Registry

/-- The registry without devices. -/
def empty (scaleWithGpu : Bool) : Registry κ := ⟨[], .zero, scaleWithGpu⟩

/-! ### Finding devices -/

/-- The device at a path, however the path is spelled. -/
def get? (r : Registry κ) (path : Path) : Option (Device κ) :=
  (r.entries.find? (·.1 == path)).map (·.2)

/-- The number of devices. -/
def size (r : Registry κ) : Nat := r.entries.length

/-- Whether there is no device. -/
def isEmpty (r : Registry κ) : Bool := r.entries.isEmpty

/-- The number of displays of all devices. -/
def displayCount (r : Registry κ) : Nat := (r.entries.map (·.2.displayCount)).foldr (· + ·) 0

/-- The device that drives a display, with its path. -/
def deviceFor? (r : Registry κ) (n : DisplayId) : Option (Path × Device κ) :=
  r.entries.find? (·.2.handles n)

/-- Whether some device drives a display. -/
def handles (r : Registry κ) (n : DisplayId) : Bool := (r.deviceFor? n).isSome

/-- What drives a display. -/
def pipeline? (r : Registry κ) (n : DisplayId) : Option Pipeline :=
  (r.deviceFor? n).bind fun (_, device) => device.pipeline? n

/-! ### Registering -/

/-- Why a card was not registered. -/
inductive AddError where
  /-- A device has the same path. -/
  | alreadyRegistered (path : Path)
  /-- The card has no CRTC, no connector or no encoder. -/
  | notModeSetting (path : Path)
  /-- The card did not become a device. -/
  | initFailed (path : Path) (cause : DeviceError)
  deriving Repr

namespace AddError

/-- The messages of an error and its causes. -/
def chain : AddError → Text.Chain
  | .alreadyRegistered path => ⟨s!"device {path.quoted} is already registered", []⟩
  | .notModeSetting path => ⟨s!"{path.quoted} is not a mode-setting device", []⟩
  | .initFailed path cause => cause.chain.wrap s!"error initializing {path.quoted}"

/-- The device error behind an error. -/
def cause? : AddError → Option DeviceError
  | .initFailed _ cause => some cause
  | .alreadyRegistered _ | .notModeSetting _ => none

end AddError

/-- The registry with one more device at the end. -/
def append (r : Registry κ) (path : Path) (device : Device κ) : Registry κ :=
  { r with entries := r.entries ++ [(path, device)], next := device.nextDisplay }

/-- Makes a card a device and registers it; gives the number of its displays.  Nothing is asked of a
card whose path is taken, and mastership is not asked of one without screens. -/
def add (K : Kernel κ σ) (r : Registry κ) (path : Path) (card : κ) :
    Attempt κ σ AddError (Nat × Registry κ) := do
  ExceptT.lift <| Action.debug s!"adding device: {path.quoted}"
  if (r.get? path).isSome then throw (.alreadyRegistered path)
  if !(← ExceptT.lift (hasModeSetting K card)) then throw (.notModeSetting path)
  match ← ExceptT.lift (Device.init K card r.next).run with
  | .error e => throw (.initFailed path e)
  | .ok device =>
    let name ← ExceptT.lift (device.name K)
    ExceptT.lift <| Action.info <|
      s!"{path.quoted}: {device.displayCount} displays starting at {r.next}, driver {name}"
    return (device.displayCount, r.append path device)

/-- The first device at a path, and the registry without it. -/
def take? (r : Registry κ) (path : Path) : Option (Device κ × Registry κ) := do
  let position ← r.entries.findIdx? (·.1 == path)
  let (_, device) ← r.entries[position]?
  return (device, { r with entries := r.entries.eraseIdx position })

/-- Takes the device at a path out of the registry. -/
def remove (r : Registry κ) (path : Path) : Action κ σ (Option (Device κ) × Registry κ) := do
  Action.debug s!"removing device: {path.quoted}"
  match r.take? path with
  | some (device, rest) => return (some device, rest)
  | none =>
    Action.warn s!"unknown device {path.quoted}"
    return (none, r)

end Registry

end Scanout
