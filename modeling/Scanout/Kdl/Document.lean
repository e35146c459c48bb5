/-
**KDL documents.**

A document is a list of nodes.  A node has a name, arguments, properties and children that are nodes
themselves; it ends with a newline, a semicolon, a line comment or the end of the text.  What stands
behind a slash and a dash is left out.

Main definitions:

* `Scanout.Kdl.Node` — a node;
* `Scanout.Kdl.Node.propertyNames` — the names of its properties, each once and in order;
* `Scanout.Kdl.node`, `Scanout.Kdl.nodes` — how nodes are read;
* `Scanout.Kdl.document?` — the nodes of a text, if it is a document.
-/

import Scanout.Kdl.Literal

set_option relaxedAutoImplicit false
set_option autoImplicit false

namespace Scanout

namespace Kdl

open Text (Reader)

/-- A node. -/
structure Node where
  typeName : Option String
  name : String
  arguments : List Value
  /-- The properties as they are written; of those with one name the last counts. -/
  properties : List (String × Value)
  children : List Node
  deriving Repr

mutual

/-- Whether two nodes are the same.  A node holds nodes in a list, for which equality is not derived. -/
def Node.decEq : (m n : Node) → Decidable (m = n)
  | ⟨type, label, arguments, properties, children⟩,
      ⟨type', label', arguments', properties', children'⟩ =>
    have : Decidable (children = children') := Node.decEqAll children children'
    decidable_of_iff (type = type' ∧ label = label' ∧ arguments = arguments' ∧
      properties = properties' ∧ children = children') (by rw [Node.mk.injEq])

/-- Whether two lists of nodes are the same. -/
def Node.decEqAll : (ms ns : List Node) → Decidable (ms = ns)
  | [], [] => isTrue rfl
  | [], _ :: _ => isFalse (List.cons_ne_nil _ _).symm
  | _ :: _, [] => isFalse (List.cons_ne_nil _ _)
  | m :: ms, n :: ns =>
    have : Decidable (m = n) := Node.decEq m n
    have : Decidable (ms = ns) := Node.decEqAll ms ns
    decidable_of_iff (m = n ∧ ms = ns) (by rw [List.cons.injEq])

end

instance : DecidableEq Node := Node.decEq

/-- The names of the properties, each once and in order. -/
def Node.propertyNames (n : Node) : List String :=
  (n.properties.map (·.1)).eraseDups.mergeSort fun a b => a ≤ b

/-! ### Entries -/

/-- An argument or a property of a node. -/
inductive Entry where
  | argument (v : Value)
  | property (key : String) (v : Value)
  deriving DecidableEq, Repr

/-- A value that belongs to the key before it. -/
def assigned : Reader Value := do
  Reader.exactly "="
  value

/-- An entry that begins with a literal: only a string can be a key. -/
def literalEntry : Reader Entry := do
  let l ← literal
  match ← optional assigned with
  | none => return .argument ⟨none, l⟩
  | some v =>
    match l with
    | .string key => return .property key v
    | _ => failure

/-- An entry that begins with a key without quotes. -/
def bareEntry : Reader Entry := do
  let key ← bareIdentifier
  return .property key (← assigned)

/-- An entry. -/
def entry : Reader Entry :=
  literalEntry <|> bareEntry <|> (Entry.argument <$> typedValue)

/-- An entry, or nothing if it is to be left out. -/
def keptEntry : Reader (Option Entry) :=
  (do dropMark; let _ ← entry; return none) <|> (some <$> entry)

/-! ### Nodes -/

/-- The end of a node. -/
def terminator : Reader Unit :=
  newline <|> lineComment <|> Reader.exactly ";" <|> Reader.ended

/-- A block of children in braces. -/
def block (children : Reader (List Node)) : Reader (List Node) := do
  let _ ← Reader.many nodeBlank
  let dropped ← (do dropMark; return true) <|> pure false
  Reader.exactly "\x7b"
  let inner ← children
  Reader.exactly "\x7d"
  return if dropped then [] else inner

/-- A node whose children are read by `children`. -/
def node (children : Reader (List Node)) : Reader Node := do
  let type ← optional typeName
  let label ← name
  let entries ← Reader.many do
    let _ ← Reader.oneOrMore nodeBlank
    keptEntry
  let inner ← block children <|> pure []
  let _ ← Reader.many nodeBlank
  terminator
  return {
    typeName := type
    name := label
    arguments := entries.filterMap fun
      | some (.argument v) => some v
      | _ => none
    properties := entries.filterMap fun
      | some (.property key v) => some (key, v)
      | _ => none
    children := inner }

/-- A node, or nothing if it is to be left out. -/
def keptNode (children : Reader (List Node)) : Reader (Option Node) :=
  (do dropMark; let _ ← node children; return none) <|> (some <$> node children)

/-- The nodes of a document or a block; `depth` bounds how many blocks may stand in each other. -/
def nodes : Nat → Reader (List Node)
  | 0 => failure
  | depth + 1 => do
    let _ ← Reader.many lineBlank
    let kept ← Reader.many do
      let n ← keptNode (nodes depth)
      let _ ← Reader.many lineBlank
      return n
    return kept.filterMap id

/-- The nodes of a text, if it is a document.  Every block has a brace of its own, so there cannot
be more of them than characters. -/
def document? (text : String) : Option (List Node) :=
  let s := text.toList
  match nodes (s.length + 1) s with
  | some (ns, []) => some ns
  | _ => none

end Kdl

end Scanout
