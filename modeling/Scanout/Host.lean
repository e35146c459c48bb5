/-
**Hosts: kernels whose cards are opened by path.**

A card is reached through a device node.  A host is a kernel together with a way to open nodes; it
decides which handle a path leads to and whether it may be opened at all.

Main definitions:

* `Scanout.Host` — a kernel with device nodes;
* `Scanout.Host.openCard` — the action that opens a node;
* `Scanout.Host.openDevice` — opening a node and initializing the card behind it.
-/

import Scanout.Device

set_option relaxedAutoImplicit false
set_option autoImplicit false

namespace Scanout

/-- A kernel with device nodes. -/
structure Host (κ σ : Type) where
  kernel : Kernel κ σ
  /-- The handle that opening a node gives, and the world afterwards. -/
  openNode : Path → σ → Except SystemError κ × σ

namespace Host

variable {κ σ : Type}

/-- Opens the node at a path. -/
def openCard (H : Host κ σ) (path : Path) : Attempt κ σ DeviceError κ :=
  ExceptT.mk fun s =>
    let (reply, s') := H.openNode path s
    ⟨reply.mapError (.noDevice path), s', [.opened path]⟩

/-- Opens the node at a path and makes the card behind it a device whose displays are numbered from
`first`. -/
def openDevice (H : Host κ σ) (path : Path) (first : DisplayId) :
    Attempt κ σ DeviceError (Device κ) := do
  let card ← H.openCard path
  Device.init H.kernel card first

end Host

end Scanout
