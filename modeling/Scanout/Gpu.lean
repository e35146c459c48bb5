/-
**The GPUs of a seat.**

A machine tells the nodes of the GPUs of a seat and which of them is the primary one; both can fail,
and nothing is known of what it says.  A device database is one source of such answers: it knows the
node of each GPU, the seat it is attached to and whether the firmware booted with it, and takes the
GPU that the firmware booted with for the primary one, or the first of all if it used none of them.

Main definitions:

* `Scanout.GpuAnswers` — what a machine says about the GPUs of its seats;
* `Scanout.Gpu`, `Scanout.GpuDatabase` — GPUs and a database of them;
* `Scanout.GpuDatabase.nodes` — the nodes of a seat, in path order;
* `Scanout.GpuDatabase.primary` — the node of the primary GPU of a seat;
* `Scanout.GpuDatabase.answers` — what a machine with the database says;
* `Scanout.moveToFront` — a list of nodes with one of them first.
-/

import Scanout.Path
import Scanout.SystemError

set_option relaxedAutoImplicit false
set_option autoImplicit false

namespace Scanout

/-- The seat of everything that is not assigned to another one. -/
def defaultSeat : String := "seat0"

/-- What a machine says about the GPUs of its seats. -/
structure GpuAnswers where
  /-- The nodes of the GPUs of a seat. -/
  nodes : String → Except SystemError (List Path)
  /-- The node of the primary GPU of a seat, if there is one. -/
  primary : String → Except SystemError (Option Path)

/-! ### A device database -/

/-- A GPU as the device database describes it. -/
structure Gpu where
  /-- The path of its device node, if it has one. -/
  node : Option Path
  seat : String
  /-- What its bus says about whether the firmware booted with it, if it says anything. -/
  bootVga : Option String
  deriving Repr

/-- Whether the firmware booted with the GPU. -/
def Gpu.isBoot (g : Gpu) : Bool := g.bootVga = some "1"

/-- The device database of a machine. -/
structure GpuDatabase where
  /-- All GPUs, in the order in which the database lists them. -/
  gpus : List Gpu
  /-- The error with which listing the nodes of a seat fails, if it does. -/
  listRefusal : Option SystemError
  /-- The error with which finding a primary GPU fails, if it does. -/
  primaryRefusal : Option SystemError
  deriving Repr

namespace GpuDatabase

/-- The database of a machine without GPUs. -/
def empty : GpuDatabase := ⟨[], none, none⟩

/-- The GPUs of a seat, in database order. -/
def onSeat (db : GpuDatabase) (seat : String) : List Gpu :=
  db.gpus.filter (·.seat = seat)

/-- The nodes of a seat, in path order. -/
def sortedNodes (db : GpuDatabase) (seat : String) : List Path :=
  ((db.onSeat seat).filterMap (·.node)).mergeSort Path.le

/-- The nodes of a seat, in path order, if the database can be read. -/
def nodes (db : GpuDatabase) (seat : String) : Except SystemError (List Path) :=
  match db.listRefusal with
  | some e => .error e
  | none => .ok (db.sortedNodes seat)

/-- The node of the first GPU of a seat that the firmware booted with, or else the first node. -/
def primary (db : GpuDatabase) (seat : String) : Except SystemError (Option Path) :=
  match db.primaryRefusal with
  | some e => .error e
  | none =>
    .ok ((((db.onSeat seat).filter (·.isBoot)).findSome? (·.node)).or (db.sortedNodes seat).head?)

/-- What a machine with the database says. -/
def answers (db : GpuDatabase) : GpuAnswers := ⟨db.nodes, db.primary⟩

instance : Coe GpuDatabase GpuAnswers := ⟨answers⟩

end GpuDatabase

/-! ### One node first -/

/-- The list with the first path equal to `path` at its front, if there is one. -/
def moveToFront (path : Path) (paths : List Path) : List Path :=
  match paths.findIdx? (· == path) with
  | none => paths
  | some i => paths[i]?.toList ++ paths.eraseIdx i

/-- Only the order changes. -/
theorem moveToFront_perm (path : Path) (paths : List Path) :
    (moveToFront path paths).Perm paths := by
  unfold moveToFront
  split
  · exact List.Perm.refl _
  · next i h =>
    have hi : i < paths.length := (List.findIdx?_eq_some_iff_getElem.1 h).1
    rw [List.getElem?_eq_getElem hi, List.eraseIdx_eq_take_drop_succ]
    show (paths[i] :: (paths.take i ++ paths.drop (i + 1))).Perm paths
    refine List.perm_middle.symm.trans ?_
    rw [← List.drop_eq_getElem_cons hi, List.take_append_drop]

end Scanout
