/-
**Configurations.**

A configuration says which device nodes are probed and how.  Everything in it is optional: the
default one probes every GPU of the default seat.

Main definitions:

* `Scanout.Config` — a configuration;
* `Scanout.Config.seatName` — the seat whose GPUs are probed;
* `Scanout.Config.ignores` — whether a node is left alone.
-/

import Scanout.Gpu

set_option relaxedAutoImplicit false
set_option autoImplicit false

namespace Scanout

/-- Which device nodes are probed and how. -/
structure Config where
  /-- The nodes to probe, in order; if there are none, all GPUs of the seat are probed. -/
  devices : List Path
  /-- Nodes that are left alone, whoever lists them. -/
  ignored : List Path
  seat : Option String
  /-- Whether scaling is left to the GPU rather than to the display hardware. -/
  scaleWithGpu : Bool
  deriving Repr, BEq

namespace Config

/-- The configuration in which nothing is set. -/
def default : Config := ⟨[], [], none, false⟩

/-- The seat whose GPUs are probed. -/
def seatName (c : Config) : String := c.seat.getD defaultSeat

/-- Whether the node at a path is left alone, however the path is spelled. -/
def ignores (c : Config) (path : Path) : Bool := c.ignored.any (· == path)

end Config

end Scanout
