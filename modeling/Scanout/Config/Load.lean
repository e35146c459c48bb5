/-
**Loading configurations from files.**

A configuration is loaded by reading a file as text and parsing it.  An error says which of the two
failed; what is wrong with the text of a configuration is not repeated in it.

Main definitions:

* `Scanout.LoadError` — why a configuration could not be loaded;
* `Scanout.Config.load` — the configuration in a file.
-/

import Scanout.Action
import Scanout.Config.Decode
import Scanout.FileTree
import Scanout.Text.Chain

set_option relaxedAutoImplicit false
set_option autoImplicit false

namespace Scanout

/-- Why a configuration could not be loaded. -/
inductive LoadError where
  /-- The file could not be read. -/
  | unreadable (path : Path) (source : SystemError)
  /-- The text is not a configuration. -/
  | unparsable (cause : ConfigError)
  deriving Repr

/-- The messages of an error and its causes. -/
def LoadError.chain : LoadError → Text.Chain
  | .unreadable path source =>
    ⟨"error loading config", [s!"error reading {path.quoted}", source.message]⟩
  | .unparsable cause => ⟨"error loading config", ["error parsing", cause.message]⟩

/-- The configuration in the file at a path. -/
def Config.load {κ σ : Type} (t : FileTree) (path : Path) : Attempt κ σ LoadError Config :=
  match t.readText path with
  | .error e => throw (.unreadable path e)
  | .ok text =>
    match Config.parse text with
    | .error e => throw (.unparsable e)
    | .ok config => do
      ExceptT.lift <| Action.debug s!"loaded config from {path.quoted}"
      return config

end Scanout
