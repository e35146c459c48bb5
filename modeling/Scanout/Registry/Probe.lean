/-
**Probing device nodes.**

Probing starts from an empty registry and tries one node after the other: the configured nodes, or
all GPUs of the seat with the primary one first.  A node that is ignored, cannot be opened or does
not become a device is logged and skipped; only a seat whose GPUs cannot be listed stops probing.

Main definitions:

* `Scanout.ProbeError` — why nothing could be probed;
* `Scanout.candidates` — the nodes to probe, in order;
* `Scanout.Registry.probeNode`, `Scanout.Registry.probeAll` — how one node and all nodes are tried;
* `Scanout.Registry.probe` — the registry that a configuration leads to.
-/

import Scanout.Config.Basic
import Scanout.Host
import Scanout.Registry.Basic

set_option relaxedAutoImplicit false
set_option autoImplicit false

namespace Scanout

variable {κ σ : Type}

/-- Why nothing could be probed. -/
inductive ProbeError where
  /-- The GPUs of the seat could not be listed. -/
  | enumeration (source : SystemError)
  deriving Repr

/-- The messages of an error and its cause. -/
def ProbeError.chain : ProbeError → Text.Chain
  | .enumeration source => ⟨"error enumerating GPUs", [source.message]⟩

/-! ### What is probed -/

/-- The GPUs of a seat with the primary one first. -/
def arrange (gpus : GpuAnswers) (seat : String) (paths : List Path) : Action κ σ (List Path) :=
  match gpus.primary seat with
  | .ok (some primary) => do
    Action.debug s!"primary GPU: {primary.quoted}"
    return moveToFront primary paths
  | .ok none => do
    Action.debug s!"no primary GPU on {seat}"
    return paths
  | .error e => do
    Action.warn s!"error getting the primary GPU: {e.debug}"
    return paths

/-- The nodes to probe: the configured ones, or else the GPUs of the seat. -/
def candidates (gpus : GpuAnswers) (c : Config) : Attempt κ σ ProbeError (List Path) :=
  if c.devices.isEmpty then
    match gpus.nodes c.seatName with
    | .ok paths => ExceptT.lift (arrange gpus c.seatName paths)
    | .error e => throw (.enumeration e)
  else return c.devices

/-! ### Trying nodes -/

namespace Registry

/-- The registry after a node was tried. -/
def probeNode (H : Host κ σ) (c : Config) (r : Registry κ) (path : Path) :
    Action κ σ (Registry κ) := do
  if c.ignores path then
    Action.debug s!"{path.quoted} is ignored, skipping"
    return r
  match ← (H.openCard path).run with
  | .error e =>
    Action.warn e.chain.report
    return r
  | .ok card =>
    match ← (r.add H.kernel path card).run with
    | .error e =>
      Action.warn e.chain.report
      return r
    | .ok (_, r') => return r'

/-- The registry after nodes were tried in turn. -/
def probeAll (H : Host κ σ) (c : Config) : Registry κ → List Path → Action κ σ (Registry κ)
  | r, [] => return r
  | r, path :: rest => do
    let r' ← r.probeNode H c path
    r'.probeAll H c rest

/-- The registry that a configuration leads to. -/
def probe (H : Host κ σ) (gpus : GpuAnswers) (c : Config) :
    Attempt κ σ ProbeError (Registry κ) := do
  let paths ← candidates gpus c
  ExceptT.lift ((empty c.scaleWithGpu).probeAll H c paths)

end Registry

end Scanout
