/-
**Paths of device nodes and files.**

A path is a byte string.  Two spellings name the same path when their components agree: repeated
and trailing slashes and `.` between components do not count, `..` is never resolved, and a leading
`.` is a component of its own.

Main definitions:

* `Scanout.Path` — a path as it was spelled;
* `Scanout.Path.components` — what a spelling stands for; `==` on paths compares it;
* `Scanout.Path.le` — the order in which nodes are listed, component by component;
* `Scanout.Path.join` — a path below another;
* `Scanout.Path.quoted`, `Scanout.Path.display` — how diagnostics and listings show it.
-/

import Scanout.Text.Quoted

set_option relaxedAutoImplicit false
set_option autoImplicit false

namespace Scanout

open Text

/-- A path as it was spelled. -/
structure Path where
  /-- The bytes of the spelling. -/
  bytes : Bytes
  deriving Repr, Inhabited

namespace Path

/-- A path spelled by a text. -/
def ofString (s : String) : Path := ⟨encode s⟩

/-! ### Components -/

/-- A component of a path. -/
inductive Component where
  /-- The slash an absolute path begins with. -/
  | root
  /-- A leading `.`. -/
  | current
  /-- `..`, wherever it stands. -/
  | parent
  /-- A name. -/
  | name (bytes : Bytes)
  deriving DecidableEq, Repr

/-- The byte between components. -/
def slash : UInt8 := 47

/-- The byte string `.`. -/
def dot : Bytes := [46]

/-- The byte string `..`. -/
def dotDot : Bytes := [46, 46]

/-- The byte strings between slashes; there is always at least one. -/
def segments : Bytes → List Bytes
  | [] => [[]]
  | b :: rest =>
    if b = slash then [] :: segments rest
    else
      match segments rest with
      | [] => [[b]]
      | s :: more => (b :: s) :: more

/-- The component of a segment that is neither empty nor a `.`. -/
def Component.ofSegment (s : Bytes) : Component :=
  if s = dotDot then .parent else .name s

/-- The components of segments that follow another component. -/
def followingComponents (ss : List Bytes) : List Component :=
  (ss.filter fun s => s ≠ [] && s ≠ dot).map Component.ofSegment

/-- What a spelling stands for. -/
def components (p : Path) : List Component :=
  match segments p.bytes with
  | [] => []
  | first :: rest =>
    if first = [] && rest ≠ [] then .root :: followingComponents rest
    else if first = dot then .current :: followingComponents rest
    else followingComponents (first :: rest)

/-- Paths are compared by their components. -/
instance : BEq Path := ⟨fun p q => p.components == q.components⟩

theorem beq_iff {p q : Path} : (p == q) = true ↔ p.components = q.components := by
  show (p.components == q.components) = true ↔ p.components = q.components
  exact beq_iff_eq

/-- Whether a path begins at the root. -/
def isAbsolute (p : Path) : Bool :=
  p.bytes.head? == some slash

/-! ### Order -/

/-- Byte strings in lexicographic order. -/
def bytesLe : Bytes → Bytes → Bool
  | [], _ => true
  | _ :: _, [] => false
  | a :: s, b :: t => a < b || (a == b && bytesLe s t)

/-- Kinds of components in the order `root`, `current`, `parent`, names by their bytes. -/
def Component.le : Component → Component → Bool
  | .root, _ => true
  | .current, c => c ≠ .root
  | .parent, c => c ≠ .root && c ≠ .current
  | .name s, .name t => bytesLe s t
  | .name _, _ => false

/-- Lists of components in lexicographic order. -/
def componentsLe : List Component → List Component → Bool
  | [], _ => true
  | _ :: _, [] => false
  | a :: s, b :: t => if a = b then componentsLe s t else a.le b

/-- Paths in the order of their components. -/
def le (p q : Path) : Bool :=
  componentsLe p.components q.components

/-! ### Building and showing -/

/-- `q` below `p`; an absolute `q` stands for itself. -/
def join (p q : Path) : Path :=
  if q.isAbsolute then q
  else if p.bytes = [] || p.bytes.getLast? == some slash then ⟨p.bytes ++ q.bytes⟩
  else ⟨p.bytes ++ slash :: q.bytes⟩

/-- The path in quotes, with everything escaped that a reader could not see. -/
def quoted (p : Path) : String := quoteBytes p.bytes

/-- The path as plain text, every run of bytes that is not text replaced by `U+FFFD`. -/
def display (p : Path) : String := decodeLossy p.bytes

/-- The path as text, if it is text. -/
def text? (p : Path) : Option String := decode p.bytes

end Path

end Scanout
