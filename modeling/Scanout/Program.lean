/-
**The program.**

The program reads its command line and its configuration, probes the device nodes of a host and
lists the displays it found.  A configuration that cannot be loaded counts as the default one; only
GPUs that cannot be listed and a path that JSON cannot hold make the program fail.

Main definitions:

* `Scanout.Environment` — what the program is started with, besides its command line;
* `Scanout.Exit` — how the program ends;
* `Scanout.configPath?`, `Scanout.loadConfig` — which configuration is used;
* `Scanout.Environment.wantsStyles` — whether messages keep their styles;
* `Scanout.listDisplays` — the displays of a host as text;
* `Scanout.runProgram` — the whole program.
-/

import Scanout.CommandLine.Parse
import Scanout.Config.Load
import Scanout.Registry.Listing
import Scanout.Registry.Probe

set_option relaxedAutoImplicit false
set_option autoImplicit false

namespace Scanout

open Text (Bytes)

variable {κ σ : Type}

/-- What the program is started with, besides its command line. -/
structure Environment where
  /-- The values of the environment variables that are set. -/
  bindings : List (String × Bytes)
  files : FileTree
  deriving Repr

/-- How the program ends. -/
structure Exit where
  /-- Zero for success. -/
  code : Nat
  output : String
  /-- What is written to the standard error stream besides log lines. -/
  complaint : String
  deriving DecidableEq, Repr

/-- Success with some output. -/
def Exit.success (output : String) : Exit := ⟨0, output, ""⟩

/-- Failure for a chain of reasons. -/
def Exit.failure (c : Text.Chain) : Exit := ⟨1, "", s!"Error: {c.report}\n"⟩

/-! ### The configuration -/

/-- The variables that the program looks at. -/
def Environment.consulted : List String :=
  ["XDG_CONFIG_HOME", "HOME", "CLICOLOR_FORCE", "NO_COLOR"]

/-- The value of a variable; one that is set to nothing counts as not set. -/
def Environment.value? (env : Environment) (name : String) : Option Bytes :=
  (env.bindings.lookup name).filter (· ≠ [])

/-- The value of a variable as a path. -/
def Environment.path? (env : Environment) (name : String) : Option Path :=
  (env.value? name).map (⟨·⟩)

/-- The directory of the user's configurations: only an absolute path counts as one that was
chosen. -/
def Environment.configDirectory? (env : Environment) : Option Path :=
  ((env.path? "XDG_CONFIG_HOME").filter (·.isAbsolute)).or
    ((env.path? "HOME").map (·.join (.ofString ".config")))

/-- The path of the configuration that is used if no other one is given. -/
def Environment.defaultConfigPath? (env : Environment) : Option Path :=
  env.configDirectory?.map fun directory =>
    (directory.join (.ofString programName)).join (.ofString "config.kdl")

/-- The path of the configuration that settings ask for. -/
def configPath? (env : Environment) (s : Settings) : Option Path :=
  s.config.or env.defaultConfigPath?

/-- The configuration at a path, or the default one if it cannot be loaded. -/
def loadOrDefault (files : FileTree) (path : Path) : Action κ σ Config := do
  match ← (Config.load files path).run with
  | .ok config => return config
  | .error e =>
    Action.warn e.chain.report
    return .default

/-- The configuration that settings ask for. -/
def findConfig (env : Environment) (s : Settings) : Action κ σ Config :=
  match configPath? env s with
  | none => do
    Action.debug "no config directory, using the default config"
    return .default
  | some path =>
    if s.config.isNone && !env.files.contains path then do
      Action.debug s!"{path.quoted} doesn't exist, using the default config"
      return .default
    else loadOrDefault env.files path

/-- The configuration that settings ask for, with the nodes they name instead of its own. -/
def loadConfig (env : Environment) (s : Settings) : Action κ σ Config := do
  let found ← findConfig env s
  return if s.devices.isEmpty then found else { found with devices := s.devices }

/-! ### Styles -/

/-- Whether messages keep their styles: only on demand, and not where that is forbidden. -/
def Environment.wantsStyles (env : Environment) : Bool :=
  (env.value? "CLICOLOR_FORCE").isSome && (env.value? "NO_COLOR").isNone

/-- A text as the program writes it. -/
def Environment.written (env : Environment) (t : Text.Styled) : String :=
  if env.wantsStyles then t.colored else t.bare

/-! ### The listing -/

/-- A listing as settings want it. -/
def writeListing (json : Bool) (records : List DisplayRecord) : Exit :=
  if json then
    match listingJson records with
    | .ok text => .success (text ++ "\n")
    | .error e => .failure ⟨"error serializing", [e.message]⟩
  else .success (listingText records)

/-- Lists the displays of the nodes that settings ask for. -/
def listDisplays (H : Host κ σ) (gpus : GpuAnswers) (env : Environment) (s : Settings) :
    Action κ σ Exit := do
  let config ← loadConfig env s
  match ← (Registry.probe H gpus config).run with
  | .error e => return .failure e.chain
  | .ok registry =>
    let records ← registry.records H.kernel
    Action.info s!"{registry.size} devices, {records.length} displays"
    return writeListing s.json records

/-- Runs the program with a command line. -/
def runProgram (H : Host κ σ) (gpus : GpuAnswers) (env : Environment) (arguments : List Bytes) :
    Action κ σ Exit :=
  match Invocation.parse arguments with
  | .error e => return ⟨2, "", env.written e.message⟩
  | .ok .help => return .success (env.written helpText)
  | .ok .version => return .success versionText
  | .ok (.list settings) => listDisplays H gpus env settings

end Scanout
