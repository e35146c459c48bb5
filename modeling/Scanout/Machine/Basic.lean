/-
**A machine with device nodes.**

Behind each node of a machine is a card in memory.  Opening a node gives a descriptor of its own,
but everything that requests change belongs to the card: blobs, mastership, and whether writeback
connectors are shown.  Handles that share a descriptor keep it open until the last of them is gone.
A path outside the directory of device nodes leads into the tree of files; a file opens, too, but it
takes no request.

Main definitions:

* `Scanout.DeviceNode`, `Scanout.Machine` — nodes and machines;
* `Scanout.CardHandle` — a descriptor with the path it was opened by;
* `Scanout.Machine.openNode`, `Scanout.Machine.answer` — how nodes open and how cards answer;
* `Scanout.Machine.host` — a machine as a host;
* `Scanout.Machine.openDescriptors` — how many descriptors of a node some handles keep open.
-/

import Scanout.FileTree
import Scanout.Host
import Scanout.MemoryCard.Basic

set_option relaxedAutoImplicit false
set_option autoImplicit false

namespace Scanout

/-- A device node. -/
structure DeviceNode where
  path : Path
  card : MemoryCard
  /-- The error with which opening the node fails, if it does. -/
  refusal : Option SystemError
  /-- How often the node was opened. -/
  opened : Nat

/-- A machine. -/
structure Machine where
  nodes : List DeviceNode
  /-- Everything outside the directory of device nodes. -/
  files : FileTree
  /-- What each descriptor was opened from, in the order of opening: the node at a position, or a
  file. -/
  descriptors : List (Option Nat)

/-- A descriptor with the path it was opened by. -/
structure CardHandle where
  descriptor : Nat
  path : Path
  deriving Repr

namespace Machine

/-! ### Opening nodes -/

/-- The machine without nodes and files. -/
def empty : Machine := ⟨[], ⟨[], []⟩, []⟩

/-- The position of the node with a spelling. -/
def nodeAt? (m : Machine) (path : Path) : Option Nat :=
  m.nodes.findIdx? (·.path.bytes = path.bytes)

/-- The directory of device nodes. -/
def deviceDirectory : Text.Bytes := Text.encode "/dev/dri/"

/-- The descriptor of the next opening. -/
def openAs (m : Machine) (path : Path) (node : Option Nat) : CardHandle × Machine :=
  (⟨m.descriptors.length, path⟩, { m with descriptors := m.descriptors ++ [node] })

/-- Opens the node at a position. -/
def openDevice (m : Machine) (path : Path) (i : Nat) : Except SystemError (CardHandle × Machine) :=
  match m.nodes[i]? with
  | none => .error (.os 2)
  | some node =>
    match node.refusal with
    | some e => .error e
    | none =>
      .ok ({ m with nodes := m.nodes.set i { node with opened := node.opened + 1 } }.openAs path i)

/-- Opens a file; directories are not opened. -/
def openFile (m : Machine) (path : Path) : Except SystemError (CardHandle × Machine) := do
  match ← m.files.find path with
  | .directory => throw (.os 21)
  | .file _ => return m.openAs path none

/-- Opens what stands at a path.  Only the spelling of a device node leads to it, even if another
path is equal to its path, and a NUL byte ends no path. -/
def tryOpen (m : Machine) (path : Path) : Except SystemError (CardHandle × Machine) :=
  if path.bytes.contains 0 then .error (.os 22)
  else
    match m.nodeAt? path with
    | some i => m.openDevice path i
    | none =>
      if deviceDirectory.isPrefixOf path.bytes then .error (.os 2) else m.openFile path

/-- Opens what stands at a path; nothing changes if that fails. -/
def openNode (path : Path) (m : Machine) : Except SystemError CardHandle × Machine :=
  match m.tryOpen path with
  | .error e => (.error e, m)
  | .ok (handle, m') => (.ok handle, m')

/-! ### Answers -/

/-- The objects that a request may only name by an id other than zero. -/
def mustNotBeZero : Request → Option ObjectId
  | .connectorInfo id | .crtcInfo id | .propertyInfo id | .objectProperties id _ => some id
  | _ => none

/-- The node a handle was opened from, with its position.  Handles of files have none. -/
def nodeOf? (m : Machine) (handle : CardHandle) : Option (Nat × DeviceNode) := do
  let i ← (← m.descriptors[handle.descriptor]?)
  return (i, ← m.nodes[i]?)

/-- The answer to a request through a descriptor; a file has none. -/
def answer (handle : CardHandle) (q : Request) (m : Machine) :
    Except SystemError q.Reply × Machine :=
  if mustNotBeZero q = some 0 then (.error .zeroObjectId, m)
  else
    match m.nodeOf? handle with
    | none => (.error (.os 25), m)
    | some (i, node) =>
      let (reply, card) := node.card.answer q
      (reply, { m with nodes := m.nodes.set i { node with card := card } })

/-- The kernel of a machine. -/
def kernel : Kernel CardHandle Machine := ⟨answer⟩

/-- The machine as a host. -/
def host : Host CardHandle Machine := ⟨kernel, openNode⟩

/-! ### Descriptors that are kept open -/

/-- How many descriptors of the node at a position are kept open by some handles. -/
def openDescriptors (m : Machine) (held : List CardHandle) (node : Nat) : Nat :=
  (m.descriptors.zipIdx.filter fun (opened, i) =>
    opened = some node && held.any (·.descriptor = i)).length

end Machine

end Scanout
