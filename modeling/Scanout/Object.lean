/-
**Mode-setting objects.**

The kernel drives a screen through a chain of objects: a connector is the socket, an encoder feeds
it, a CRTC scans out to the encoder, and planes are the layers of the CRTC.  This module holds what
the kernel reports about each of them and the objects that a device keeps.

Main definitions:

* `Scanout.Interface`, `Scanout.ConnectionState`, `Scanout.PlaneKind` — what distinguishes sockets
  and layers;
* `Scanout.ConnectorInfo`, `Scanout.EncoderInfo`, `Scanout.CrtcInfo`, `Scanout.PlaneInfo`,
  `Scanout.PropertyInfo`, `Scanout.ResourceList` — the kernel's replies;
* `Scanout.Connector`, `Scanout.Encoder`, `Scanout.Crtc`, `Scanout.Plane`, `Scanout.Property` — the
  objects a device keeps;
* `Scanout.Encoder.supports`, `Scanout.Connector.supports`, `Scanout.Plane.supports` — which
  objects the hardware can connect.
-/

set_option relaxedAutoImplicit false
set_option autoImplicit false

namespace Scanout

/-- The id the kernel gives an object; unique among objects of one type. -/
abbrev ObjectId := UInt32

/-! ### Kinds -/

/-- The types of objects that carry properties. -/
inductive ObjectKind where
  | connector
  | crtc
  | plane
  deriving DecidableEq, Repr

/-- The name of an object type in messages. -/
def ObjectKind.name : ObjectKind → String
  | .connector => "connector"
  | .crtc => "CRTC"
  | .plane => "plane"

/-- The kinds of sockets. -/
inductive Interface where
  | unknown
  | vga
  | dviI
  | dviD
  | dviA
  | composite
  | sVideo
  | lvds
  | component
  | din
  | displayPort
  | hdmiA
  | hdmiB
  | tv
  | embeddedDisplayPort
  | virtual
  | dsi
  | dpi
  | writeback
  | spi
  | usb
  deriving DecidableEq, Repr

namespace Interface

/-- The kinds of sockets in the order of their kernel codes, from zero. -/
def all : List Interface := [
  .unknown, .vga, .dviI, .dviD, .dviA, .composite, .sVideo, .lvds, .component, .din, .displayPort,
  .hdmiA, .hdmiB, .tv, .embeddedDisplayPort, .virtual, .dsi, .dpi, .writeback, .spi, .usb]

/-- The name the kernel uses. -/
def name : Interface → String
  | .unknown => "Unknown"
  | .vga => "VGA"
  | .dviI => "DVI-I"
  | .dviD => "DVI-D"
  | .dviA => "DVI-A"
  | .composite => "Composite"
  | .sVideo => "SVIDEO"
  | .lvds => "LVDS"
  | .component => "Component"
  | .din => "DIN"
  | .displayPort => "DP"
  | .hdmiA => "HDMI-A"
  | .hdmiB => "HDMI-B"
  | .tv => "TV"
  | .embeddedDisplayPort => "eDP"
  | .virtual => "Virtual"
  | .dsi => "DSI"
  | .dpi => "DPI"
  | .writeback => "Writeback"
  | .spi => "SPI"
  | .usb => "USB"

/-- The socket with a kernel code; codes without a meaning are unknown sockets. -/
def ofCode (code : Nat) : Interface := all[code]?.getD .unknown

/-- The socket the kernel calls by a name. -/
def ofName? (s : String) : Option Interface := all.find? (·.name == s)

end Interface

/-- Whether something is plugged in. -/
inductive ConnectionState where
  | connected
  | disconnected
  | unknown
  deriving DecidableEq, Repr

namespace ConnectionState

/-- The name of a connection state. -/
def name : ConnectionState → String
  | .connected => "connected"
  | .disconnected => "disconnected"
  | .unknown => "unknown"

/-- The state with a kernel code. -/
def ofCode : Nat → ConnectionState
  | 1 => .connected
  | 2 => .disconnected
  | _ => .unknown

/-- The state with a name. -/
def ofName? (s : String) : Option ConnectionState :=
  [connected, disconnected, unknown].find? (·.name == s)

end ConnectionState

/-- The layers of a CRTC. -/
inductive PlaneKind where
  | overlay
  | primary
  | cursor
  deriving DecidableEq, Repr

namespace PlaneKind

/-- The name of a kind of layer. -/
def name : PlaneKind → String
  | .overlay => "Overlay"
  | .primary => "Primary"
  | .cursor => "Cursor"

/-- The value of the property `type` on such a plane. -/
def code : PlaneKind → UInt64
  | .overlay => 0
  | .primary => 1
  | .cursor => 2

/-- The kind of layer a value of the property `type` stands for. -/
def ofCode? (value : UInt64) : Option PlaneKind :=
  [overlay, primary, cursor].find? (·.code == value)

end PlaneKind

/-- What kind of value a property takes. -/
inductive PropertyKind where
  | unknown
  | boolean
  | range
  | signedRange
  | enumeration
  | bitmask
  | blob
  | object
  deriving DecidableEq, Repr

/-! ### What the kernel reports -/

/-- The least and greatest size of a framebuffer, width before height. -/
structure Bounds where
  min : UInt32 × UInt32
  max : UInt32 × UInt32
  deriving DecidableEq, Repr, Inhabited

/-- The ids of a card's objects, in kernel order. -/
structure ResourceList where
  crtcs : List ObjectId
  encoders : List ObjectId
  connectors : List ObjectId
  bounds : Bounds
  deriving DecidableEq, Repr

/-- The reply about a connector. -/
structure ConnectorInfo where
  interface : Interface
  /-- Counts the connectors of one interface. -/
  interfaceId : UInt32
  state : ConnectionState
  currentEncoder : Option ObjectId
  /-- The encoders that can feed the connector. -/
  encoders : List ObjectId
  deriving DecidableEq, Repr

/-- The reply about an encoder. -/
structure EncoderInfo where
  currentCrtc : Option ObjectId
  /-- Bit `n` is set when the CRTC at position `n` of the resource list can drive the encoder. -/
  possibleCrtcs : UInt32
  deriving DecidableEq, Repr

/-- The reply about a CRTC. -/
structure CrtcInfo where
  /-- Width and height of the programmed mode, if there is one. -/
  modeSize : Option (UInt16 × UInt16)
  deriving DecidableEq, Repr

/-- The reply about a plane. -/
structure PlaneInfo where
  currentCrtc : Option ObjectId
  /-- As for encoders. -/
  possibleCrtcs : UInt32
  deriving DecidableEq, Repr

/-- The reply about a property. -/
structure PropertyInfo where
  name : String
  kind : PropertyKind
  immutable : Bool
  atomic : Bool
  deriving DecidableEq, Repr

/-- The properties of an object with their current values, in kernel order. -/
abbrev PropertyValues := List (ObjectId × UInt64)

/-! ### What a device keeps -/

/-- A property found on an object, with its value at that time. -/
structure Property where
  /-- The object it was found on. -/
  object : ObjectId
  id : ObjectId
  name : String
  kind : PropertyKind
  immutable : Bool
  atomic : Bool
  value : UInt64
  deriving DecidableEq, Repr

/-- A CRTC with the properties an atomic commit needs. -/
structure Crtc where
  id : ObjectId
  /-- Position in the kernel's list, the bit of the CRTC in masks. -/
  index : Nat
  modeSize : Option (UInt16 × UInt16)
  /-- The id of the property `ACTIVE`. -/
  active : ObjectId
  /-- The id of the property `MODE_ID`. -/
  modeId : ObjectId
  deriving DecidableEq, Repr

/-- An encoder. -/
structure Encoder where
  id : ObjectId
  /-- Position in the kernel's list. -/
  index : Nat
  currentCrtc : Option ObjectId
  possibleCrtcs : UInt32
  deriving DecidableEq, Repr

/-- A connector with the property that binds it to a CRTC. -/
structure Connector where
  id : ObjectId
  /-- Position in the kernel's list. -/
  index : Nat
  interface : Interface
  interfaceId : UInt32
  state : ConnectionState
  currentEncoder : Option ObjectId
  encoders : List ObjectId
  /-- The id of the property `CRTC_ID`. -/
  crtcId : ObjectId
  deriving DecidableEq, Repr

/-- A plane. -/
structure Plane where
  id : ObjectId
  kind : PlaneKind
  currentCrtc : Option ObjectId
  possibleCrtcs : UInt32
  deriving DecidableEq, Repr

namespace Crtc

/-- The bit of the CRTC in masks of possible CRTCs.  Masks have 32 bits and positions are counted
in 32-bit words; a CRTC beyond the last bit has none. -/
def mask (c : Crtc) : UInt32 :=
  let bit := c.index % 0x100000000
  if bit < 32 then 1 <<< UInt32.ofNat bit else 0

/-- Whether a mask of possible CRTCs has the bit of the CRTC. -/
def inMask (c : Crtc) (possible : UInt32) : Bool :=
  possible &&& c.mask != 0

end Crtc

/-- Whether the hardware can drive an encoder from a CRTC. -/
def Encoder.supports (e : Encoder) (c : Crtc) : Bool :=
  c.inMask e.possibleCrtcs

/-- Whether the hardware can show a plane on a CRTC. -/
def Plane.supports (p : Plane) (c : Crtc) : Bool :=
  c.inMask p.possibleCrtcs

namespace Connector

/-- The name of a connector, its interface and its number among those. -/
def name (c : Connector) : String :=
  s!"{c.interface.name}-{c.interfaceId.toNat}"

/-- Whether something is known to be plugged in. -/
def isConnected (c : Connector) : Bool :=
  c.state = .connected

/-- Whether the connector leads to a built-in panel or a virtual output. -/
def isInternal (c : Connector) : Bool :=
  match c.interface with
  | .lvds | .embeddedDisplayPort | .dsi | .dpi | .virtual => true
  | _ => false

/-- Whether the connector writes to memory instead of a screen. -/
def isWriteback (c : Connector) : Bool :=
  c.interface = .writeback

/-- Whether the connector is a socket for a screen outside the case. -/
def isExternal (c : Connector) : Bool :=
  !c.isInternal && !c.isWriteback

/-- Whether an encoder can feed the connector. -/
def supports (c : Connector) (e : Encoder) : Bool :=
  c.encoders.contains e.id

end Connector

end Scanout
