/-
**The command line of the program.**

The executable takes its arguments, the environment and the configuration file from the system.  It
has no kernel of its own, so it runs on a machine without device nodes.

Main definitions:

* `Scanout.Shell.environment` — the environment of the process;
* `main` — the entry point.
-/

import Scanout.Machine.Basic
import Scanout.Program

set_option relaxedAutoImplicit false
set_option autoImplicit false

namespace Scanout.Shell

open Text (Bytes)

/-- The variables of the process that the program looks at. -/
def bindings : IO (List (String × Bytes)) := do
  let found ← Environment.consulted.mapM fun name => do
    return (← IO.getEnv name).map fun value => (name, Text.encode value)
  return found.filterMap id

/-- The tree that holds the file at a path, if it can be read, and nothing else. -/
def treeWith (path : Path) : IO FileTree := do
  let place := (Path.segments path.bytes).foldl FileTree.step []
  try
    let contents ← IO.FS.readBinFile path.display
    return ⟨[(place, .file contents.toList)], []⟩
  catch _ => return ⟨[], []⟩

/-- The environment of the process, with the configuration that a command line asks for. -/
def environment (arguments : List Bytes) : IO Environment := do
  let env : Environment := ⟨← bindings, ⟨[], []⟩⟩
  match Invocation.parse arguments with
  | .ok (.list settings) =>
    match configPath? env settings with
    | some path => return { env with files := ← treeWith path }
    | none => return env
  | _ => return env

end Scanout.Shell

open Scanout in
/-- Runs the program and writes what it logged, its output and its complaint. -/
def main (arguments : List String) : IO UInt32 := do
  let bytes := arguments.map Text.encode
  let env ← Shell.environment bytes
  let ended := (runProgram Machine.host GpuDatabase.empty env bytes).run .empty
  for (level, line) in ended.events.filterMap Event.line? do
    IO.eprintln s!"{level.name}: {line}"
  IO.print ended.value.output
  IO.eprint ended.value.complaint
  return UInt32.ofNat ended.value.code
