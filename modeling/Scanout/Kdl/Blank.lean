/-
**Blanks of KDL documents.**

Between the words of a document stand spaces, comments and newlines.  A block comment may hold
block comments; one that is never closed is no comment, its first two characters are then part of
the comment around it.

Main definitions:

* `Scanout.Kdl.isSpace` — the characters that separate words;
* `Scanout.Kdl.newline`, `Scanout.Kdl.lineComment`, `Scanout.Kdl.blockComment` — newlines and
  comments;
* `Scanout.Kdl.blank` — what counts as space;
* `Scanout.Kdl.nodeBlank`, `Scanout.Kdl.lineBlank` — what may stand within a node and between nodes.
-/

import Scanout.Text.Reader

set_option relaxedAutoImplicit false
set_option autoImplicit false

namespace Scanout

namespace Kdl

open Text (Reader)

/-! ### Characters -/

/-- The spaces of Unicode other than newlines, with the byte order mark. -/
def isSpace (c : Char) : Bool :=
  let n := c.toNat
  n = 0x9 || n = 0x20 || n = 0xa0 || n = 0x1680 || (0x2000 ≤ n && n ≤ 0x200a) || n = 0x202f ||
    n = 0x205f || n = 0x3000 || n = 0xfeff

/-- The characters that end a line, besides a carriage return with a line feed. -/
def isNewline (c : Char) : Bool :=
  let n := c.toNat
  n = 0xa || n = 0xc || n = 0xd || n = 0x85 || n = 0x2028 || n = 0x2029

/-! ### Newlines and comments -/

/-- What follows the newline at the front of a text. -/
def newlineRest : List Char → Option (List Char)
  | '\r' :: '\n' :: rest => some rest
  | c :: rest => if isNewline c then some rest else none
  | [] => none

/-- A newline. -/
def newline : Reader Unit := fun s => (newlineRest s).map fun rest => ((), rest)

/-- What follows the newline that ends a line; nothing after the last line. -/
def lineRest : List Char → List Char
  | [] => []
  | c :: rest => (newlineRest (c :: rest)).getD (lineRest rest)

/-- A comment up to the end of the line, with its newline. -/
def lineComment : Reader Unit := do
  Reader.exactly "//"
  modify lineRest

/-- What follows a block comment that was opened. -/
def commentRest (s : List Char) : Option { rest : List Char // rest.length < s.length } :=
  match s with
  | [] => none
  | '*' :: '/' :: rest => some ⟨rest, by simp only [List.length_cons]; omega⟩
  | '/' :: '*' :: rest =>
    match commentRest rest with
    | some ⟨inner, h⟩ =>
      (commentRest inner).map fun r => ⟨r.1, by have := r.2; simp only [List.length_cons]; omega⟩
    | none =>
      -- The comment inside is never closed, so only a slash right here can close this one.
      match rest with
      | '/' :: after => some ⟨after, by simp only [List.length_cons]; omega⟩
      | _ => none
  | _ :: rest =>
    (commentRest rest).map fun r => ⟨r.1, by have := r.2; simp only [List.length_cons]; omega⟩
termination_by s.length

/-- A comment between `/*` and `*/`. -/
def blockComment : Reader Unit := do
  Reader.exactly "/*"
  fun s => (commentRest s).map fun rest => ((), rest.1)

/-! ### Blanks -/

/-- Some space. -/
def blank : Reader Unit := do
  let _ ← Reader.oneOrMore ((do let _ ← Reader.next isSpace) <|> blockComment)

/-- A line break that does not end a node. -/
def continuation : Reader Unit := do
  Reader.exactly "\\"
  Reader.skippable blank
  lineComment <|> newline

/-- What may stand within a node. -/
def nodeBlank : Reader Unit := blank <|> continuation

/-- What may stand between nodes. -/
def lineBlank : Reader Unit := newline <|> blank <|> lineComment

/-- The mark of something that is to be left out, with the space after it. -/
def dropMark : Reader Unit := do
  Reader.exactly "/-"
  let _ ← Reader.many nodeBlank

end Kdl

end Scanout
