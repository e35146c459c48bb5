/-
**The order in which connectors get display ids.**

Display ids go to built-in connected screens first, then to other connected ones, then to built-in
and other connectors with nothing known to be plugged in.  Among equals the kernel's order is kept.
So the first display is a lit built-in panel whenever there is one.

Main definitions:

* `Scanout.Connector.rank` — the class of a connector, the lower the earlier;
* `Scanout.displayOrder` — the positions of connectors in the order of their display ids.
-/

import Scanout.Object

set_option relaxedAutoImplicit false
set_option autoImplicit false

namespace Scanout

/-- The class of a connector; lower classes get their display ids first. -/
def Connector.rank (c : Connector) : Nat :=
  match c.isInternal, c.isConnected with
  | true, true => 0
  | false, true => 1
  | true, false => 2
  | false, false => 3

/-- The positions of connectors, ordered by class and within a class by position. -/
def displayOrder (connectors : List Connector) : List Nat :=
  (connectors.zipIdx.mergeSort fun a b => a.1.rank ≤ b.1.rank).map (·.2)

@[simp] theorem length_displayOrder (connectors : List Connector) :
    (displayOrder connectors).length = connectors.length := by
  simp [displayOrder, List.length_mergeSort]

end Scanout
