/-
**Routing connectors to encoders and CRTCs.**

Every connector of a card gets a display id, an encoder that feeds it and a CRTC that drives the
encoder; no two connectors share an encoder or a CRTC.  Display ids are handed out first, in display
order.  Then connectors are served one by one in kernel order: what the kernel has already connected
is preferred, otherwise the first free encoder and CRTC that fit are taken.  A connector that
cannot be served fails the routing as a whole.

Objects are named by their positions in the lists of the problem.

Main definitions:

* `Scanout.Routing.Problem` — the objects to be connected;
* `Scanout.Routing.Bindings` — which objects are taken, as four tables that refer to each other;
* `Scanout.Routing.plan` — the display ids of the connectors;
* `Scanout.Routing.tryEncoder`, `Scanout.Routing.findPipe`, `Scanout.Routing.serve` — how one
  encoder is tried, one connector served and all of them;
* `Scanout.Routing.Assignment`, `Scanout.Routing.assign` — the result.
-/

import Scanout.Error
import Scanout.Routing.Order
import Scanout.Table

set_option relaxedAutoImplicit false
set_option autoImplicit false

namespace Scanout

namespace Routing

/-! ### Problems and results -/

/-- The objects to be connected. -/
structure Problem where
  connectors : List Connector
  encoders : List Encoder
  crtcs : List Crtc
  deriving DecidableEq, Repr

/-- The position of the first encoder with an id. -/
def Problem.encoderAt? (p : Problem) (id : ObjectId) : Option Nat :=
  p.encoders.findIdx? (·.id = id)

/-- The position of the first CRTC with an id. -/
def Problem.crtcAt? (p : Problem) (id : ObjectId) : Option Nat :=
  p.crtcs.findIdx? (·.id = id)

/-- The positions of the objects that drive one display. -/
structure Pipe where
  connector : Nat
  encoder : Nat
  crtc : Nat
  deriving DecidableEq, Repr

/-- The objects at the positions of a pipe. -/
def Problem.resolve? (p : Problem) (pipe : Pipe) : Option (Connector × Encoder × Crtc) := do
  let connector ← p.connectors[pipe.connector]?
  let encoder ← p.encoders[pipe.encoder]?
  let crtc ← p.crtcs[pipe.crtc]?
  return (connector, encoder, crtc)

/-- A complete routing. -/
structure Assignment where
  /-- The displays and what drives them, in display order. -/
  pipes : List (DisplayId × Pipe)
  /-- The display of each connector position. -/
  displays : Table Nat DisplayId
  /-- The first display id that was not handed out. -/
  next : DisplayId
  deriving DecidableEq, Repr

namespace Assignment

/-- What drives a display. -/
def pipe? (a : Assignment) (d : DisplayId) : Option Pipe :=
  (a.pipes.find? (·.1 = d)).map (·.2)

/-- The display of the connector at a position. -/
def displayOf? (a : Assignment) (connector : Nat) : Option DisplayId :=
  a.displays.find? connector

/-- The number of displays. -/
def size (a : Assignment) : Nat := a.pipes.length

/-- Whether there is no display. -/
def isEmpty (a : Assignment) : Bool := a.pipes.isEmpty

end Assignment

/-! ### Display ids -/

/-- Hands out ids to connector positions, the first of them `d`, and says which id comes next. -/
def handOut : List Nat → DisplayId → Table Nat DisplayId →
    Except RoutingError (Table Nat DisplayId × DisplayId)
  | [], d, ids => .ok (ids, d)
  | connector :: rest, d, ids =>
    match d.next with
    | none => .error (.displayIdsExhausted d)
    | some d' => handOut rest d' (ids.insert connector d)

/-- The display ids of all connectors from `first` on, and the id that comes next. -/
def plan (p : Problem) (first : DisplayId) :
    Except RoutingError (Table Nat DisplayId × DisplayId) :=
  handOut (displayOrder p.connectors) first .empty

/-! ### Bindings -/

/-- Which objects are taken.  The four tables lead from a display to its CRTC, from there to the
encoder and back to the display. -/
structure Bindings where
  /-- The connector position of each display. -/
  displayConnectors : Table DisplayId Nat
  /-- The CRTC position of each display. -/
  displayCrtcs : Table DisplayId Nat
  /-- The encoder position of each taken CRTC position. -/
  crtcEncoders : Table Nat Nat
  /-- The display of each taken encoder position. -/
  encoderDisplays : Table Nat DisplayId
  deriving DecidableEq, Repr

namespace Bindings

/-- Nothing is taken. -/
def none : Bindings := ⟨.empty, .empty, .empty, .empty⟩

/-- Whether a CRTC position is taken. -/
def hasCrtc (b : Bindings) (crtc : Nat) : Bool := b.crtcEncoders.contains crtc

/-- Whether an encoder position is taken. -/
def hasEncoder (b : Bindings) (encoder : Nat) : Bool := b.encoderDisplays.contains encoder

/-- The bindings with one more pipe. -/
def bind (b : Bindings) (d : DisplayId) (pipe : Pipe) : Bindings where
  displayConnectors := b.displayConnectors.insert d pipe.connector
  displayCrtcs := b.displayCrtcs.insert d pipe.crtc
  crtcEncoders := b.crtcEncoders.insert pipe.crtc pipe.encoder
  encoderDisplays := b.encoderDisplays.insert pipe.encoder d

/-- What drives a display: its connector and CRTC, and the encoder of that CRTC. -/
def pipe? (b : Bindings) (d : DisplayId) (connector : Nat) : Option Pipe := do
  let crtc ← b.displayCrtcs.find? d
  let encoder ← b.crtcEncoders.find? crtc
  return ⟨connector, encoder, crtc⟩

end Bindings

/-! ### Serving one connector -/

/-- What came of trying to drive a display through an encoder. -/
inductive Trial where
  /-- The CRTC at a position is free. -/
  | bound (crtc : Nat)
  /-- The encoder has no free CRTC; another encoder may have one. -/
  | noneFree
  /-- The whole routing fails. -/
  | failed (e : RoutingError)
  deriving DecidableEq, Repr

/-- The CRTC an encoder is connected to, if it is listed and free. -/
def currentCrtc? (p : Problem) (b : Bindings) (e : Encoder) : Option Nat :=
  (e.currentCrtc.bind p.crtcAt?).filter (!b.hasCrtc ·)

/-- The first free CRTC that can drive an encoder, other than the one it is connected to. -/
def otherCrtc? (p : Problem) (b : Bindings) (e : Encoder) : Option Nat :=
  (p.crtcs.zipIdx.find? fun (c, i) =>
    e.supports c && some c.id != e.currentCrtc && !b.hasCrtc i).map (·.2)

/-- Tries to drive a display through the encoder at a position.  The CRTC it is connected to comes
first, whether or not the mask of the encoder has it. -/
def tryEncoder (p : Problem) (b : Bindings) (d : DisplayId) (encoder : Nat) : Trial :=
  if b.displayCrtcs.contains d then .failed (.displayAlreadyBound d)
  else
    match p.encoders[encoder]? with
    | none => .failed .bindingLost
    | some e =>
      match (currentCrtc? p b e).or (otherCrtc? p b e) with
      | some crtc => .bound crtc
      | none => .noneFree

/-- The encoder a connector is connected to, if it is listed and free. -/
def currentEncoder? (p : Problem) (b : Bindings) (c : Connector) : Option Nat :=
  (c.currentEncoder.bind p.encoderAt?).filter (!b.hasEncoder ·)

/-- The other free encoders that can feed a connector, in their order. -/
def otherEncoders (p : Problem) (b : Bindings) (c : Connector) : List Nat :=
  let current := currentEncoder? p b c
  (p.encoders.zipIdx.filter fun (e, i) =>
    some i != current && c.supports e && !b.hasEncoder i).map (·.2)

/-- The first encoder with a free CRTC, and that CRTC; `failure` if there is none. -/
def firstFit (p : Problem) (b : Bindings) (d : DisplayId) (failure : RoutingError) :
    List Nat → Except RoutingError (Nat × Nat)
  | [] => .error failure
  | encoder :: rest =>
    match tryEncoder p b d encoder with
    | .bound crtc => .ok (encoder, crtc)
    | .noneFree => firstFit p b d failure rest
    | .failed e => .error e

/-- The display of the connector at a position and what is to drive it. -/
def findPipe (p : Problem) (planned : Table Nat DisplayId) (b : Bindings) (connector : Nat) :
    Except RoutingError (DisplayId × Pipe) :=
  match p.connectors[connector]?, planned.find? connector with
  | some c, some d => do
    let encoders := (currentEncoder? p b c).toList ++ otherEncoders p b c
    let (encoder, crtc) ← firstFit p b d (.noSuitableEncoder c.id d) encoders
    return (d, ⟨connector, encoder, crtc⟩)
  | _, _ => .error .bindingLost

/-! ### Serving all connectors -/

/-- Serves connectors one after the other. -/
def serve (p : Problem) (planned : Table Nat DisplayId) :
    List Nat → Bindings → Except RoutingError Bindings
  | [], b => .ok b
  | connector :: rest, b => do
    let (d, pipe) ← findPipe p planned b connector
    serve p planned rest (b.bind d pipe)

/-- The pipes of the bound displays. -/
def pipesOf (b : Bindings) : List (DisplayId × Nat) → Except RoutingError (List (DisplayId × Pipe))
  | [] => .ok []
  | (d, connector) :: rest =>
    match b.pipe? d connector with
    | none => .error .bindingLost
    | some pipe => (pipesOf b rest).map ((d, pipe) :: ·)

/-- The routing that bindings stand for. -/
def finish (b : Bindings) (next : DisplayId) : Except RoutingError Assignment := do
  let bound := b.displayConnectors.entries.mergeSort fun x y => x.1 ≤ y.1
  let pipes ← pipesOf b bound
  return {
    pipes := pipes
    displays := ⟨bound.map fun (d, connector) => (connector, d)⟩
    next := next }

/-- Routes every connector, numbering displays from `first`. -/
def assign (p : Problem) (first : DisplayId) : Except RoutingError Assignment := do
  let (planned, next) ← plan p first
  let b ← serve p planned (List.range p.connectors.length) .none
  finish b next

end Routing

end Scanout
