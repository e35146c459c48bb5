/-
**Reading command lines.**

Arguments are read from left to right.  A value may be attached to its option or follow as an
argument of its own; in that case the option takes effect only when the next one is met or when the
command line ends, so that an argument which nothing takes is found first.  After `--` there are no
options any more.

Main definitions:

* `Scanout.Scan` — what was read so far;
* `Scanout.Scan.apply`, `Scanout.Scan.resolve` — how an option takes effect;
* `Scanout.Scan.readLong`, `Scanout.Scan.readLetters`, `Scanout.Scan.step` — how an argument is
  read;
* `Scanout.Invocation.parse` — what a command line asks for.
-/

import Scanout.CommandLine.Basic
import Scanout.Text.Similarity

set_option relaxedAutoImplicit false
set_option autoImplicit false

namespace Scanout

open Text (Bytes)

/-- What was read so far. -/
structure Scan where
  settings : Settings
  /-- The options that took effect, in the order of their first occurrence. -/
  used : List CommandOption
  /-- An option that did not take effect yet, with its value once it was met. -/
  pending : Option (CommandOption × Option Bytes)
  /-- Whether the next argument may be the value of the pending option. -/
  awaiting : Bool
  /-- Whether `--` was met. -/
  ended : Bool

/-- Why reading stopped before the end. -/
inductive Interruption where
  | refused (e : UsageError)
  | help
  | version

/-- A step of reading. -/
abbrev Scanned := Except Interruption Scan

namespace Scan

/-- The beginning. -/
def start : Scan := ⟨⟨none, [], false⟩, [], none, false, false⟩

/-- Refuses the command line. -/
def refuse (e : UsageError) : Scanned := .error (.refused e)

/-! ### Options that take effect -/

/-- The options used once `o` is used, too. -/
def withOption (used : List CommandOption) (o : CommandOption) : List CommandOption :=
  if used.contains o then used else used ++ [o]

/-- Applies an option with its value. -/
def apply (s : Scan) (o : CommandOption) (v : Option Bytes) : Scanned :=
  match o with
  | .help => .error .help
  | .version => .error .version
  | .json =>
    if s.used.contains o then refuse (.repeated o)
    else .ok { s with used := s.used ++ [o], settings := { s.settings with json := true } }
  | .config =>
    match v with
    | none => refuse (.missingValue o)
    | some path =>
      if s.used.contains o then refuse (.repeated o)
      else if path = [] then refuse (.missingValue o)
      else
        .ok { s with used := s.used ++ [o], settings := { s.settings with config := some ⟨path⟩ } }
  | .device =>
    match v with
    | none | some [] => refuse (.missingValue o)
    | some path =>
      .ok { s with
        used := withOption s.used o
        settings := { s.settings with devices := s.settings.devices ++ [⟨path⟩] } }

/-- Applies the pending option. -/
def resolve (s : Scan) : Scanned :=
  match s.pending with
  | none => .ok { s with awaiting := false }
  | some (o, v) => { s with pending := none, awaiting := false }.apply o v

/-- The options used once the pending option was tried, even if that failed. -/
def usedAfterPending (s : Scan) : List CommandOption :=
  match s.pending with
  | none | some (_, none) => s.used
  | some (o, some _) =>
    if o = .config ∧ s.used.contains o then s.used.erase o else withOption s.used o

/-- Reads an option with the value attached to it, if there is one. -/
def meet (s : Scan) (o : CommandOption) (attached : Option Bytes) : Scanned := do
  let s ← s.resolve
  if o.takesValue && attached.isNone then
    return { s with pending := some (o, none), awaiting := true }
  s.apply o attached

/-! ### Arguments -/

/-- Refuses a long option that does not exist. -/
def refuseLong (s : Scan) (name : Bytes) : Scanned :=
  let shown := Text.decodeLossy name
  let similar := (Text.mostSimilar shown (CommandOption.all.map (·.longName))).bind
    CommandOption.ofLongName?
  let used := s.usedAfterPending
  refuse (.unexpectedArgument s!"--{shown}" similar (similar.elim used (withOption used)))

/-- The byte between the name and the value of a long option. -/
def equalsSign : UInt8 := 61

/-- The byte that options begin with. -/
def hyphen : UInt8 := 45

/-- The value after an equals sign, if there is one. -/
def attachedValue : Bytes → Option Bytes
  | [] => none
  | _ :: value => some value

/-- Reads what follows the two hyphens of a long option. -/
def readLong (s : Scan) (text : Bytes) : Scanned :=
  let name := text.takeWhile (· ≠ equalsSign)
  let attached := attachedValue (text.dropWhile (· ≠ equalsSign))
  match (Text.decode name).bind CommandOption.ofLongName?, attached with
  | none, _ => s.refuseLong name
  | some o, some value =>
    if o.takesValue then s.meet o attached
    else refuse (.unneededValue (Text.decodeLossy value) o !s.used.isEmpty)
  | some o, none => s.meet o none

/-- The value that follows the letter of an option. -/
def letterValue : Bytes → Option Bytes
  | [] => none
  | b :: rest => some (if b = equalsSign then rest else b :: rest)

/-- Reads the letters behind a single hyphen; the rest of the text is the value of the first one
that takes a value. -/
def readLetters (s : Scan) : List Text.Piece → Bytes → Scanned
  | [], _ => .ok s
  | .bad _ :: _, text =>
    refuse (.unexpectedArgument s!"-{Text.decodeLossy text}" none [])
  | .char c :: rest, text =>
    let after := text.drop (Text.encode c.toString).length
    match CommandOption.ofLetter? c with
    | none => refuse (.unexpectedArgument s!"-{c}" none [])
    | some o =>
      if o.takesValue then s.meet o (letterValue after)
      else s.meet o none >>= fun s' => s'.readLetters rest after

/-- Reads an argument that is no option. -/
def readPlain (s : Scan) (argument : Bytes) : Scanned :=
  match s.awaiting && !s.ended, s.pending with
  | true, some (o, _) => .ok { s with pending := some (o, some argument), awaiting := false }
  | _, _ => refuse (.unexpectedArgument (Text.decodeLossy argument) none [])

/-- Reads an argument. -/
def step (s : Scan) (argument : Bytes) : Scanned :=
  if s.ended then s.readPlain argument
  else
    match argument with
    | a :: b :: rest =>
      if a = hyphen && b = hyphen then
        if rest = [] then .ok { s with ended := true } else s.readLong rest
      else if a = hyphen then s.readLetters (Text.pieces (b :: rest)) (b :: rest)
      else s.readPlain argument
    | _ => s.readPlain argument

end Scan

/-- What a command line asks for, without the name of the program at its front. -/
def Invocation.parse (arguments : List Bytes) : Except UsageError Invocation :=
  match arguments.foldlM Scan.step Scan.start >>= Scan.resolve with
  | .ok s => .ok (.list s.settings)
  | .error .help => .ok .help
  | .error .version => .ok .version
  | .error (.refused e) => .error e

end Scanout
