/-
**What a routing run reports.**

A run logs each pipe as it is bound, and each connector whose current encoder had no free CRTC so
that another one was looked for.  The reports follow the run step by step and never influence it.

Main definitions:

* `Scanout.Routing.reports` — the log lines of a run;
* `Scanout.Routing.route` — the action that routes and logs.
-/

import Scanout.Action
import Scanout.Routing.Basic

set_option relaxedAutoImplicit false
set_option autoImplicit false

namespace Scanout

namespace Routing

/-- The report of a pipe that was bound. -/
def boundReport (p : Problem) (d : DisplayId) (pipe : Pipe) : List (Level × String) :=
  match p.resolve? pipe with
  | none => []
  | some (connector, encoder, crtc) =>
    [(.trace, s!"display {d}: connector {connector.id.toNat}, encoder {encoder.id.toNat}, " ++
      s!"CRTC {crtc.id.toNat}")]

/-- The report of a connector whose current encoder has no free CRTC. -/
def searchReport (p : Problem) (planned : Table Nat DisplayId) (b : Bindings) (connector : Nat) :
    List (Level × String) :=
  match p.connectors[connector]?, planned.find? connector with
  | some c, some d =>
    match (currentEncoder? p b c).map (tryEncoder p b d) with
    | some .noneFree =>
      [(.debug, s!"current encoder of connector {c.id.toNat} has no free CRTC, searching")]
    | _ => []
  | _, _ => []

/-- The reports of serving connectors one after the other, up to the one that fails. -/
def serveReports (p : Problem) (planned : Table Nat DisplayId) :
    List Nat → Bindings → List (Level × String)
  | [], _ => []
  | connector :: rest, b =>
    searchReport p planned b connector ++
      match findPipe p planned b connector with
      | .error _ => []
      | .ok (d, pipe) => boundReport p d pipe ++ serveReports p planned rest (b.bind d pipe)

/-- The log lines of a run. -/
def reports (p : Problem) (first : DisplayId) : List (Level × String) :=
  match plan p first with
  | .error _ => []
  | .ok (planned, _) => serveReports p planned (List.range p.connectors.length) .none

/-- Routes every connector and logs how. -/
def route {κ σ : Type} (p : Problem) (first : DisplayId) : Attempt κ σ DeviceError Assignment :=
  ExceptT.mk fun s =>
    ⟨(assign p first).mapError .routing, s,
      (reports p first).map fun (level, line) => .logged level line⟩

end Routing

end Scanout
