/-
**Actions: computations that talk to a kernel.**

An action starts from a state of the world and ends with a value, the state it leaves and the
events on the way, oldest first: every node that was opened, every request that was made and every
line that was logged.  The events are part of the outcome, so that what an action asked, and in
which order, can be read off it.

Main definitions:

* `Scanout.Event`, `Scanout.Outcome`, `Scanout.Action` — events, outcomes and actions;
* `Scanout.Kernel.ask` — the action that makes one request;
* `Scanout.Action.log` — the action that logs one line;
* `Scanout.Attempt` — an action that may fail.
-/

import Scanout.Kernel
import Scanout.Path

set_option relaxedAutoImplicit false
set_option autoImplicit false

namespace Scanout

/-! ### Events -/

/-- How important a log line is. -/
inductive Level where
  | trace
  | debug
  | info
  | warn
  | error
  deriving DecidableEq, Repr

/-- The name of a level. -/
def Level.name : Level → String
  | .trace => "trace"
  | .debug => "debug"
  | .info => "info"
  | .warn => "warn"
  | .error => "error"

/-- Something that happened during an action. -/
inductive Event (κ : Type) where
  /-- A device node was asked to open, whether it did or not. -/
  | opened (path : Path)
  /-- A request was made on a card, whether it was granted or not. -/
  | asked (card : κ) (request : Request)
  /-- A line was logged. -/
  | logged (level : Level) (line : String)
  deriving Repr

namespace Event

variable {κ : Type}

/-- The request of an event. -/
def request? : Event κ → Option (κ × Request)
  | .asked card q => some (card, q)
  | .opened _ | .logged .. => none

/-- The log line of an event. -/
def line? : Event κ → Option (Level × String)
  | .logged level line => some (level, line)
  | .opened _ | .asked .. => none

/-- The path of an event that opened a node. -/
def path? : Event κ → Option Path
  | .opened path => some path
  | .asked .. | .logged .. => none

end Event

/-! ### Actions -/

/-- How an action ended. -/
structure Outcome (κ σ α : Type) where
  value : α
  /-- The world afterwards. -/
  state : σ
  /-- What happened on the way, oldest first. -/
  events : List (Event κ)

/-- A computation on a world of states `σ` with card handles `κ`. -/
def Action (κ σ α : Type) : Type := σ → Outcome κ σ α

/-- An action that may fail with an `ε`; the state and the events stay. -/
abbrev Attempt (κ σ ε α : Type) : Type := ExceptT ε (Action κ σ) α

namespace Action

variable {κ σ α β : Type}

/-- Runs an action. -/
def run (x : Action κ σ α) (s : σ) : Outcome κ σ α := x s

instance : Monad (Action κ σ) where
  pure a := fun s => ⟨a, s, []⟩
  bind x f := fun s =>
    let first := x s
    let second := f first.value first.state
    ⟨second.value, second.state, first.events ++ second.events⟩

@[simp] theorem run_pure (a : α) (s : σ) : (pure a : Action κ σ α).run s = ⟨a, s, []⟩ := rfl

@[simp] theorem run_bind (x : Action κ σ α) (f : α → Action κ σ β) (s : σ) :
    (x >>= f).run s =
      ⟨((f (x.run s).value).run (x.run s).state).value,
        ((f (x.run s).value).run (x.run s).state).state,
        (x.run s).events ++ ((f (x.run s).value).run (x.run s).state).events⟩ := rfl

instance : LawfulMonad (Action κ σ) := LawfulMonad.mk' (Action κ σ)
  (fun x => funext fun s => by
    show (⟨(x s).value, (x s).state, (x s).events ++ []⟩ : Outcome κ σ _) = x s
    rw [List.append_nil])
  (fun _ _ => rfl)
  (fun x f g => funext fun s => by
    show (⟨_, _, ((x s).events ++ (f (x s).value (x s).state).events) ++ _⟩ : Outcome κ σ _) = _
    rw [List.append_assoc]
    rfl)

/-- Logs a line. -/
def log (level : Level) (line : String) : Action κ σ Unit :=
  fun s => ⟨(), s, [.logged level line]⟩

/-- Logs a line of level `trace`. -/
def trace (line : String) : Action κ σ Unit := log .trace line

/-- Logs a line of level `debug`. -/
def debug (line : String) : Action κ σ Unit := log .debug line

/-- Logs a line of level `info`. -/
def info (line : String) : Action κ σ Unit := log .info line

/-- Logs a line of level `warn`. -/
def warn (line : String) : Action κ σ Unit := log .warn line

@[simp] theorem run_log (level : Level) (line : String) (s : σ) :
    (log level line : Action κ σ Unit).run s = ⟨(), s, [.logged level line]⟩ := rfl

end Action

/-! ### Requests as actions -/

namespace Kernel

variable {κ σ : Type}

/-- Makes a request on a card. -/
def ask (K : Kernel κ σ) (card : κ) (q : Request) : Action κ σ (Except SystemError q.Reply) :=
  fun s => ⟨(K.answer card q s).1, (K.answer card q s).2, [.asked card q]⟩

@[simp] theorem run_ask (K : Kernel κ σ) (card : κ) (q : Request) (s : σ) :
    (K.ask card q).run s = ⟨(K.answer card q s).1, (K.answer card q s).2, [.asked card q]⟩ := rfl

/-- Makes a request and fails with what `wrap` makes of its error. -/
def demand {ε : Type} (K : Kernel κ σ) (card : κ) (q : Request) (wrap : SystemError → ε) :
    Attempt κ σ ε q.Reply :=
  ExceptT.mk do
    match ← K.ask card q with
    | .ok reply => return .ok reply
    | .error e => return .error (wrap e)

end Kernel

end Scanout
