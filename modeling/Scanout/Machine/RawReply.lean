/-
**Raw replies of the kernel.**

The kernel answers in fixed-width words: zero stands for an object that is not there, kinds are
codes and bits, and names are bytes that end at the first NUL.  This module gives each raw reply its
meaning.

Main definitions:

* `Scanout.RawEncoder`, `Scanout.RawPlane`, `Scanout.RawCrtc`, `Scanout.RawConnector`,
  `Scanout.RawProperty` — raw replies;
* `Scanout.RawEncoder.info` and its siblings — what they say;
* `Scanout.RawProperty.kind` — the kind of value that the bits of a property stand for.
-/

import Scanout.Object
import Scanout.Text.Utf8

set_option relaxedAutoImplicit false
set_option autoImplicit false

namespace Scanout

open Text (Bytes)

/-- The object a word names; zero names none. -/
def objectOfWord (word : UInt32) : Option ObjectId :=
  if word = 0 then none else some word

theorem objectOfWord_eq_some_iff {word id : UInt32} :
    objectOfWord word = some id ↔ word = id ∧ word ≠ 0 := by
  by_cases h : word = 0 <;> simp [objectOfWord, h]

/-! ### Objects -/

/-- The raw reply about an encoder. -/
structure RawEncoder where
  crtc : UInt32
  possibleCrtcs : UInt32
  deriving DecidableEq, Repr

/-- What the reply says. -/
def RawEncoder.info (r : RawEncoder) : EncoderInfo := ⟨objectOfWord r.crtc, r.possibleCrtcs⟩

/-- The raw reply about a plane. -/
structure RawPlane where
  crtc : UInt32
  possibleCrtcs : UInt32
  deriving DecidableEq, Repr

/-- What the reply says. -/
def RawPlane.info (r : RawPlane) : PlaneInfo := ⟨objectOfWord r.crtc, r.possibleCrtcs⟩

/-- The raw reply about a CRTC. -/
structure RawCrtc where
  /-- Not zero when the mode below is programmed. -/
  modeValid : UInt32
  /-- Width and height of the mode. -/
  mode : UInt16 × UInt16
  deriving DecidableEq, Repr

/-- What the reply says. -/
def RawCrtc.info (r : RawCrtc) : CrtcInfo :=
  ⟨if r.modeValid = 0 then none else some r.mode⟩

/-- The raw reply about a connector. -/
structure RawConnector where
  /-- The code of the kind of socket. -/
  type : UInt32
  typeId : UInt32
  /-- The code of the connection state. -/
  connection : UInt32
  encoder : UInt32
  encoders : List ObjectId
  deriving DecidableEq, Repr

/-- What the reply says. -/
def RawConnector.info (r : RawConnector) : ConnectorInfo where
  interface := .ofCode r.type.toNat
  interfaceId := r.typeId
  state := .ofCode r.connection.toNat
  currentEncoder := objectOfWord r.encoder
  encoders := r.encoders

/-! ### Properties -/

/-- The raw reply about a property. -/
structure RawProperty where
  name : Bytes
  flags : UInt32
  values : List UInt64
  deriving DecidableEq, Repr

namespace RawProperty

/-- The greatest length of a name in bytes, without the NUL at its end. -/
def nameLimit : Nat := 31

/-- The bytes of the name up to its end. -/
def nameBytes (r : RawProperty) : Bytes :=
  (r.name.take nameLimit).takeWhile (· ≠ 0)

/-- Whether the flags have a bit. -/
def has (r : RawProperty) (bit : UInt32) : Bool := r.flags &&& bit != 0

/-- The kinds of objects that the value of an object property can name, by their codes: CRTCs,
connectors, encoders, framebuffers, planes, properties and any object. -/
def objectCodes : List UInt32 :=
  [0xcccccccc, 0xc0c0c0c0, 0xe0e0e0e0, 0xfbfbfbfb, 0xeeeeeeee, 0xb0b0b0b0, 0]

/-- The code of blobs among the kinds of objects. -/
def blobCode : UInt32 := 0xbbbbbbbb

/-- The kind of a property whose values are objects with a code; only the low word counts. -/
def objectKind (code : UInt64) : PropertyKind :=
  if objectCodes.contains code.toUInt32 then .object
  else if code.toUInt32 = blobCode then .blob
  else .unknown

/-- The kind of a range; from zero to one it is a truth value. -/
def rangeKind (values : List UInt64) : PropertyKind :=
  if values.take 2 = [0, 1] then .boolean else .range

/-- The kind of value: the first bit that is set decides, ranges before signed ranges, enumerations,
blobs, bitmasks and objects. -/
def kind (r : RawProperty) : PropertyKind :=
  if r.has 0x2 then rangeKind r.values
  else if r.has 0x80 then .signedRange
  else if r.has 0x8 then .enumeration
  else if r.has 0x10 then .blob
  else if r.has 0x20 then .bitmask
  else if r.has 0x40 then objectKind (r.values.headD 0)
  else .unknown

/-- What the reply says. -/
def info (r : RawProperty) : PropertyInfo where
  name := Text.decodeLossy r.nameBytes
  kind := r.kind
  immutable := r.has 0x4
  atomic := r.has 0x80000000

end RawProperty

end Scanout
