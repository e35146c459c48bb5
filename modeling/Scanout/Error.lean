/-
**Errors of mode setting.**

A device fails to initialize, or a service of a device fails, for one of a fixed set of causes.
Each cause has one message, and those that come from a failed kernel call name it as their source.

Main definitions:

* `Scanout.RoutingError` — why connectors could not be routed to encoders and CRTCs;
* `Scanout.DeviceError` — why a device or one of its services failed;
* `Scanout.DeviceError.message`, `Scanout.DeviceError.source?`, `Scanout.DeviceError.chain` — the
  texts of an error.
-/

import Scanout.DisplayId
import Scanout.Object
import Scanout.Path
import Scanout.SystemError
import Scanout.Text.Chain

set_option relaxedAutoImplicit false
set_option autoImplicit false

namespace Scanout

/-- Why connectors could not be routed. -/
inductive RoutingError where
  /-- A connector exhausted every pair of an encoder and a CRTC. -/
  | noSuitableEncoder (connector : ObjectId) (display : DisplayId)
  /-- A display was offered a second CRTC. -/
  | displayAlreadyBound (display : DisplayId)
  /-- No display id is left after `last`. -/
  | displayIdsExhausted (last : DisplayId)
  /-- An object that was bound before could not be found again. -/
  | bindingLost
  deriving DecidableEq, Repr

/-- The text of a routing error. -/
def RoutingError.message : RoutingError → String
  | .noSuitableEncoder connector display =>
    s!"no free encoder/CRTC for connector {connector.toNat} (display {display})"
  | .displayAlreadyBound display => s!"display {display} already has a CRTC"
  | .displayIdsExhausted last => s!"no display ids left after {last}"
  | .bindingLost => "a bound object was lost"

/-- Why a device or one of its services failed. -/
inductive DeviceError where
  /-- The device node could not be opened. -/
  | noDevice (path : Path) (source : SystemError)
  /-- The driver refused a capability that is required. -/
  | capabilityUnsupported (capability : String) (source : SystemError)
  /-- The card is mastered by someone else. -/
  | accessDenied (source : SystemError)
  /-- A list of objects could not be read. -/
  | noResources (query : String) (source : SystemError)
  /-- The connectors could not be routed. -/
  | routing (cause : RoutingError)
  /-- An object has no property of a name. -/
  | propertyNotFound (object : ObjectId) (name : String)
  /-- The properties of an object could not be read. -/
  | propertyQueryFailed (object : ObjectId) (source : SystemError)
  /-- A blob could not be created. -/
  | blobCreateFailed (source : SystemError)
  deriving Repr

namespace DeviceError

/-- The text of an error, without its source. -/
def message : DeviceError → String
  | .noDevice path _ => s!"error opening DRM device {path.quoted}"
  | .capabilityUnsupported capability _ => s!"error enabling the {capability} client capability"
  | .accessDenied _ => "DRM master access is required"
  | .noResources query _ => s!"error getting {query}"
  | .routing cause => cause.message
  | .propertyNotFound object name =>
    s!"couldn't find property {Text.quote name} on object {object.toNat}"
  | .propertyQueryFailed object _ => s!"error getting properties for object {object.toNat}"
  | .blobCreateFailed _ => "error creating property blob"

/-- The failed call behind an error, if there is one. -/
def source? : DeviceError → Option SystemError
  | .noDevice _ source | .capabilityUnsupported _ source | .accessDenied source
  | .noResources _ source | .propertyQueryFailed _ source | .blobCreateFailed source => some source
  | .routing _ | .propertyNotFound .. => none

/-- The messages of an error and its source. -/
def chain (e : DeviceError) : Text.Chain :=
  ⟨e.message, e.source?.toList.map SystemError.message⟩

end DeviceError

end Scanout
