/-
**Decoding configurations from documents.**

A configuration is a document with at most one node `drm`, whose children say what is probed.  Most
problems are collected, so that one attempt reports as many as possible; a problem that leaves no
way to go on ends the decoding.  There is a configuration only if there was no problem at all.

Main definitions:

* `Scanout.DecodeProblem` — what can be wrong with a document;
* `Scanout.Decoding` — the configuration and the problems so far;
* `Scanout.decodeSetting` — what one node of the section contributes;
* `Scanout.decodeSection`, `Scanout.Config.ofDocument` — the section and the whole document;
* `Scanout.Config.parse` — a configuration from text.
-/

import Scanout.Config.Basic
import Scanout.Kdl.Document

set_option relaxedAutoImplicit false
set_option autoImplicit false

namespace Scanout

open Kdl (Literal Node Value)

/-! ### Problems -/

/-- What can be wrong with a document. -/
inductive DecodeProblem where
  | unexpectedNode (name : String)
  /-- A node that may occur once occurs again. -/
  | duplicateNode (name : String)
  /-- A node has a type annotation. -/
  | typedNode
  | unexpectedArgument
  | unexpectedProperty (name : String)
  /-- A node lacks the argument that a setting needs. -/
  | missingArgument (setting : String)
  /-- An argument has a type annotation; `expected` is the type of the setting. -/
  | typedArgument (expected found : String)
  /-- An argument is not a string but something else. -/
  | notString (found : String)
  deriving DecidableEq, Repr

/-- The text of a problem. -/
def DecodeProblem.message : DecodeProblem → String
  | .unexpectedNode name => s!"unexpected node {tick}{Text.escapeAscii name}{tick}"
  | .duplicateNode name =>
    s!"duplicate node {tick}{Text.escapeAscii name}{tick}, single node expected"
  | .typedNode => "no type name expected for this node"
  | .unexpectedArgument => "unexpected argument"
  | .unexpectedProperty name => s!"unexpected property {tick}{Text.escapeAscii name}{tick}"
  | .missingArgument setting => s!"additional argument {tick}{setting}{tick} is required"
  | .typedArgument expected found => s!"no type for {expected}, found {found}"
  | .notString found => s!"expected string scalar, found {found}"
where
  /-- The mark around a name. -/
  tick : String := "\x60"

/-- What a literal is called in messages. -/
def literalName : Literal → String
  | .null => "null"
  | .bool _ => "boolean"
  | .integer _ => "integer"
  | .decimal _ => "decimal"
  | .string _ => "string"

/-! ### Decoding step by step -/

/-- The configuration and the problems so far, oldest first. -/
structure Decoding where
  config : Config
  problems : List DecodeProblem

/-- A step of decoding fails with all problems when there is no way to go on. -/
abbrev Decoded := Except (List DecodeProblem) Decoding

namespace Decoding

/-- The beginning. -/
def start : Decoding := ⟨.default, []⟩

/-- Notes problems. -/
def note (d : Decoding) (problems : List DecodeProblem) : Decoding :=
  { d with problems := d.problems ++ problems }

/-- Gives up because of a problem. -/
def stop (d : Decoding) (problem : DecodeProblem) : Decoded :=
  .error (d.problems ++ [problem])

/-- What decoding comes to: the configuration, if there was no problem. -/
def result (d : Decoding) : Except (List DecodeProblem) Config :=
  if d.problems.isEmpty then .ok d.config else .error d.problems

theorem result_eq_ok_iff {d : Decoding} {c : Config} :
    d.result = .ok c ↔ d.problems = [] ∧ d.config = c := by
  by_cases h : d.problems = [] <;> simp [result, h]

end Decoding

/-- The problems of children that a node must not have. -/
def strayChildren (n : Node) : List DecodeProblem :=
  n.children.map fun child => .unexpectedNode child.name

/-- The text of an argument, empty if it is not a string, and what is wrong with it. -/
def textArgument (expected : String) (v : Value) : String × List DecodeProblem :=
  let typeProblems := v.typeName.toList.map (.typedArgument expected)
  match v.literal with
  | .string text => (text, typeProblems)
  | other => ("", typeProblems ++ [.notString (literalName other)])

/-- The one argument of a node that has nothing else; `setting` and `expected` are the name and the
type of what the argument sets. -/
def decodeArgument (d : Decoding) (n : Node) (setting expected : String)
    (set : String → Config) : Decoded :=
  match n.arguments with
  | [] => d.stop (.missingArgument setting)
  | v :: others =>
    let (text, problems) := textArgument expected v
    let noted := d.note problems
    if !others.isEmpty then noted.stop .unexpectedArgument
    else
      match n.propertyNames with
      | key :: _ => noted.stop (.unexpectedProperty key)
      | [] => .ok { noted.note (strayChildren n) with config := set text }

/-- The problems of a node that should have nothing but its name. -/
def flagProblems (n : Node) : List DecodeProblem :=
  n.arguments.map (fun _ => .unexpectedArgument) ++
    n.propertyNames.map .unexpectedProperty ++ strayChildren n

/-! ### The section -/

/-- What a node of the section contributes. -/
def decodeSetting (d : Decoding) (n : Node) : Decoded :=
  let c := d.config
  match n.name with
  | "device" =>
    decodeArgument d n "devices" "PathBuf" fun text =>
      { c with devices := c.devices ++ [.ofString text] }
  | "ignore-device" =>
    decodeArgument d n "ignored_devices" "PathBuf" fun text =>
      { c with ignored := c.ignored ++ [.ofString text] }
  | "seat" =>
    if c.seat.isSome then d.stop (.duplicateNode n.name)
    else decodeArgument d n "seat" "String" fun text => { c with seat := some text }
  | "scale-with-gpu" =>
    let again := if c.scaleWithGpu then [.duplicateNode n.name] else []
    .ok { d.note (flagProblems n ++ again) with config := { c with scaleWithGpu := true } }
  | name => .ok (d.note [.unexpectedNode name])

/-- What the node `drm` contributes. -/
def decodeSection (d : Decoding) (n : Node) : Decoded :=
  let noted := d.note (n.typeName.toList.map fun _ => .typedNode)
  if !n.arguments.isEmpty then noted.stop .unexpectedArgument
  else
    match n.propertyNames with
    | key :: _ => noted.stop (.unexpectedProperty key)
    | [] => n.children.foldlM decodeSetting noted

/-- The name of the section. -/
def sectionName : String := "drm"

/-- Decodes the nodes of a document; `seen` says whether the section was there already. -/
def decodeNodes : Bool → Decoding → List Node → Decoded
  | _, d, [] => .ok d
  | seen, d, n :: rest =>
    if n.name = sectionName then
      if seen then d.stop (.duplicateNode n.name)
      else decodeSection d n >>= fun d' => decodeNodes true d' rest
    else decodeNodes seen (d.note [.unexpectedNode n.name]) rest

/-! ### Configurations -/

/-- Why a text is not a configuration. -/
inductive ConfigError where
  /-- It is not a document. -/
  | notKdl
  /-- It is a document with problems. -/
  | undecodable (problems : List DecodeProblem)
  deriving DecidableEq, Repr

/-- The text of an error, whatever the problems are. -/
def ConfigError.message (_ : ConfigError) : String := "error parsing KDL"

namespace Config

/-- The configuration of a document. -/
def ofDocument (nodes : List Node) : Except (List DecodeProblem) Config :=
  decodeNodes false .start nodes >>= Decoding.result

/-- The configuration of a text. -/
def parse (text : String) : Except ConfigError Config :=
  match Kdl.document? text with
  | none => .error .notKdl
  | some nodes => (ofDocument nodes).mapError .undecodable

end Config

end Scanout
