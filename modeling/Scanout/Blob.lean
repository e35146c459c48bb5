/-
**Property blobs with an owner.**

A blob is uploaded to a card and lives until its owner releases it.  Releasing asks the kernel to
destroy it, once; a refusal is logged and not tried again.

Main definitions:

* `Scanout.Blob` — a blob on a card;
* `Scanout.Blob.create`, `Scanout.Blob.release` — the beginning and the end of its life.
-/

import Scanout.Device

set_option relaxedAutoImplicit false
set_option autoImplicit false

namespace Scanout

variable {κ σ : Type}

open Text (Bytes)

/-- A blob on a card. -/
structure Blob (κ : Type) where
  card : κ
  id : ObjectId
  deriving DecidableEq, Repr

namespace Blob

/-- Uploads data as a new blob. -/
def create (K : Kernel κ σ) (card : κ) (data : Bytes) : Attempt κ σ DeviceError (Blob κ) := do
  let id ← K.demand card (.createBlob data) .blobCreateFailed
  ExceptT.lift <| Action.trace s!"created property blob {id.toNat} ({data.length} bytes)"
  return ⟨card, id⟩

/-- Asks the kernel to destroy the blob. -/
def release (K : Kernel κ σ) (b : Blob κ) : Action κ σ Unit := do
  match ← K.ask b.card (.destroyBlob b.id) with
  | .ok _ => return ()
  | .error e => Action.warn s!"error destroying property blob {b.id.toNat}: {e.debug}"

/-- The blob as debug output shows it. -/
def debug (b : Blob κ) : String := s!"ScopedBlob \x7b id: {b.id.toNat} \x7d"

end Blob

/-- Uploads data to the card of a device. -/
def Device.createBlob (K : Kernel κ σ) (d : Device κ) (data : Bytes) :
    Attempt κ σ DeviceError (Blob κ) :=
  Blob.create K d.card data

end Scanout
