/-
**Files in memory.**

A tree of files has entries at places; a place is the list of names that leads to it from the root.
Reading a path walks from directory to directory and fails with the error number of the first step
that leads nowhere.

Main definitions:

* `Scanout.FileTree` — a tree, with the directory in which relative paths begin;
* `Scanout.FileTree.at?`, `Scanout.FileTree.find` — what stands at a place and what a path leads to;
* `Scanout.FileTree.readText` — the contents of a file as text.
-/

import Scanout.Path
import Scanout.SystemError

set_option relaxedAutoImplicit false
set_option autoImplicit false

namespace Scanout

open Text (Bytes)

/-- What stands at a place. -/
inductive FileEntry where
  | directory
  | file (contents : Bytes)
  deriving DecidableEq, Repr

/-- A place: the names that lead to it from the root. -/
abbrev Place := List Bytes

/-- A tree of files. -/
structure FileTree where
  entries : List (Place × FileEntry)
  /-- The directory in which relative paths begin. -/
  working : Place
  deriving Repr

namespace FileTree

/-- The longest path that the system takes, in bytes. -/
def pathLimit : Nat := 4095

/-- The longest name that the system takes, in bytes. -/
def nameLimit : Nat := 255

/-- What stands at a place: what is entered there, or a directory if there is something below. -/
def at? (t : FileTree) (place : Place) : Option FileEntry :=
  match t.entries.find? (·.1 = place) with
  | some (_, entry) => some entry
  | none =>
    if (t.working :: t.entries.map (·.1)).any fun p => place.isPrefixOf p then some .directory
    else none

/-- The place that a name leads to from a directory. -/
def step (place : Place) (name : Bytes) : Place :=
  if name = [] ∨ name = Path.dot then place
  else if name = Path.dotDot then place.dropLast
  else place ++ [name]

/-- What the names of a path lead to from a place.  Every name but the last must lead to a
directory, and one that is too long leads nowhere. -/
def follow (t : FileTree) : Place → List Bytes → Except SystemError FileEntry
  | place, [] =>
    match t.at? place with
    | none => .error (.os 2)
    | some entry => .ok entry
  | place, name :: rest =>
    match t.at? place with
    | none => .error (.os 2)
    | some (.file _) => .error (.os 20)
    | some .directory =>
      if name.length > nameLimit then .error (.os 36) else t.follow (step place name) rest

/-- What a path leads to. -/
def find (t : FileTree) (path : Path) : Except SystemError FileEntry :=
  if path.bytes.contains 0 then .error .nulInPath
  else if path.bytes = [] then .error (.os 2)
  else if path.bytes.length > pathLimit then .error (.os 36)
  else t.follow (if path.isAbsolute then [] else t.working) (Path.segments path.bytes)

/-- Whether a path leads anywhere. -/
def contains (t : FileTree) (path : Path) : Bool := (t.find path).isOk

/-- The contents of a file as text. -/
def readText (t : FileTree) (path : Path) : Except SystemError String := do
  match ← t.find path with
  | .directory => throw (.os 21)
  | .file contents =>
    match Text.decode contents with
    | some text => return text
    | none => throw .notUtf8

end FileTree

end Scanout
