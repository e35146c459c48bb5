/-
**Negotiating capabilities.**

Before a card's objects are read, the driver is asked to show universal planes and atomic properties
and to grant mastership; without these nothing works.  Writeback connectors and format modifiers
are optional: whether they are there is recorded, and their absence never fails the negotiation.

Main definitions:

* `Scanout.Capabilities` — the optional capabilities that were granted;
* `Scanout.negotiate` — the negotiation.
-/

import Scanout.Action
import Scanout.Error

set_option relaxedAutoImplicit false
set_option autoImplicit false

namespace Scanout

/-- The optional capabilities that were granted. -/
structure Capabilities where
  /-- The kernel reports writeback connectors. -/
  writeback : Bool
  /-- Framebuffers can have explicit format modifiers. -/
  modifiers : Bool
  deriving DecidableEq, Repr

namespace Capabilities

/-- The capabilities as a set of bits: 1 for writeback connectors, 2 for modifiers. -/
def bits (c : Capabilities) : Nat :=
  (if c.writeback then 1 else 0) + (if c.modifiers then 2 else 0)

/-- The names of the capabilities that were granted. -/
def names (c : Capabilities) : List String :=
  (if c.writeback then ["WRITEBACK_CONNECTORS"] else []) ++
    (if c.modifiers then ["ADDFB2_MODIFIERS"] else [])

/-- The capabilities as logs show them. -/
def describe (c : Capabilities) : String :=
  match c.names with
  | [] => "Capabilities(0x0)"
  | names => "Capabilities(" ++ " | ".intercalate names ++ ")"

end Capabilities

variable {κ σ : Type}

/-- Asks for writeback connectors and says whether they were granted. -/
def requestWriteback (K : Kernel κ σ) (card : κ) : Action κ σ Bool := do
  match ← K.ask card (.setClientCapability .writebackConnectors true) with
  | .ok _ => return true
  | .error e =>
    Action.info s!"writeback connectors are unavailable: {e.message}"
    return false

/-- Asks whether the driver takes format modifiers.  Any value but zero says so. -/
def queryModifiers (K : Kernel κ σ) (card : κ) : Action κ σ Bool := do
  match ← K.ask card (.driverCapability .addFb2Modifiers) with
  | .ok value => return value != 0
  | .error e =>
    Action.warn <|
      "error getting the AddFB2 modifiers capability, assuming no modifiers: " ++ e.debug
    return false

/-- Enables what a device needs, records what is optional and takes mastership. -/
def negotiate (K : Kernel κ σ) (card : κ) : Attempt κ σ DeviceError Capabilities := do
  let _ ← K.demand card (.setClientCapability .universalPlanes true)
    (.capabilityUnsupported "universal planes")
  let _ ← K.demand card (.setClientCapability .atomic true) (.capabilityUnsupported "atomic")
  let writeback ← requestWriteback K card
  let modifiers ← queryModifiers K card
  let _ ← K.demand card .acquireMaster .accessDenied
  let granted : Capabilities := ⟨writeback, modifiers⟩
  ExceptT.lift <| Action.debug s!"negotiated capabilities: {granted.describe}"
  return granted

end Scanout
