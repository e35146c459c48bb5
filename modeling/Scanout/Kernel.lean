/-
**The kernel interface of a card.**

Everything a program wants from a card it asks by one of a fixed set of requests, and each request
has a type of reply.  A kernel is anything that answers them: a card handle, a request and the
state of the world give a reply or an error, and the next state.

Main definitions:

* `Scanout.Request`, `Scanout.Request.Reply` — the requests and the types of their replies;
* `Scanout.Kernel` — a way to answer every request.
-/

import Scanout.Object
import Scanout.SystemError

set_option relaxedAutoImplicit false
set_option autoImplicit false

namespace Scanout

open Text (Bytes)

/-- What a client can ask a driver to show it. -/
inductive ClientCapability where
  | stereo3d
  | universalPlanes
  | atomic
  | aspectRatio
  | writebackConnectors
  deriving DecidableEq, Repr

/-- What a client can ask about a driver. -/
inductive DriverCapability where
  | addFb2Modifiers
  | prime
  | cursorWidth
  deriving DecidableEq, Repr

/-- A request to the kernel about one card. -/
inductive Request where
  | setClientCapability (capability : ClientCapability) (enable : Bool)
  | driverCapability (capability : DriverCapability)
  | acquireMaster
  | driverName
  | resources
  | planeIds
  | connectorInfo (id : ObjectId)
  | encoderInfo (id : ObjectId)
  | crtcInfo (id : ObjectId)
  | planeInfo (id : ObjectId)
  /-- The properties of an object and their current values. -/
  | objectProperties (id : ObjectId) (kind : ObjectKind)
  | propertyInfo (id : ObjectId)
  | createBlob (data : Bytes)
  | destroyBlob (id : ObjectId)
  deriving DecidableEq, Repr

/-- What a request is answered with when it succeeds. -/
abbrev Request.Reply : Request → Type
  | .setClientCapability .. => Unit
  | .driverCapability _ => UInt64
  | .acquireMaster => Unit
  | .driverName => String
  | .resources => ResourceList
  | .planeIds => List ObjectId
  | .connectorInfo _ => ConnectorInfo
  | .encoderInfo _ => EncoderInfo
  | .crtcInfo _ => CrtcInfo
  | .planeInfo _ => PlaneInfo
  | .objectProperties .. => PropertyValues
  | .propertyInfo _ => PropertyInfo
  | .createBlob _ => ObjectId
  | .destroyBlob _ => Unit

/-- A way to answer requests: `κ` are the handles of opened cards, `σ` the states of the world. -/
structure Kernel (κ σ : Type) where
  /-- The reply to a request on a card, and the world afterwards. -/
  answer : κ → (q : Request) → σ → Except SystemError q.Reply × σ

end Scanout
