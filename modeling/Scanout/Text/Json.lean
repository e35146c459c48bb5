/-
**Writing JSON.**

Values are written over several lines, two spaces deeper at each level; an empty array or object
stays on its line.  Inside strings only quotes, backslashes and control characters are escaped.

Main definitions:

* `Scanout.Text.Json` — a value;
* `Scanout.Text.Json.pretty` — the value as text.
-/

import Scanout.Text.Quoted

set_option relaxedAutoImplicit false
set_option autoImplicit false

namespace Scanout

namespace Text

/-- A JSON value.  Numbers are natural numbers; the members of an object are written in order. -/
inductive Json where
  | null
  | bool (b : Bool)
  | number (n : Nat)
  | string (s : String)
  | array (items : List Json)
  | object (members : List (String × Json))

namespace Json

/-- How a character is written inside a JSON string. -/
def escapeChar (c : Char) : String :=
  match c with
  | '"' => "\\\""
  | '\\' => "\\\\"
  | '\x08' => "\\b"
  | '\t' => "\\t"
  | '\n' => "\\n"
  | '\x0c' => "\\f"
  | '\r' => "\\r"
  | c =>
    if c.toNat < 0x10 then "\\u000" ++ hex c.toNat
    else if c.toNat < 0x20 then "\\u00" ++ hex c.toNat
    else c.toString

/-- A text as a JSON string. -/
def quoteString (s : String) : String :=
  "\"" ++ String.join (s.toList.map escapeChar) ++ "\""

/-- The beginning of a line at a level. -/
def indent (level : Nat) : String :=
  String.ofList (List.replicate (2 * level) ' ')

/-- Lines between brackets, the lines one level deeper than the brackets. -/
def block (opening closing : String) (level : Nat) : List String → String
  | [] => opening ++ closing
  | items =>
    opening ++ "\n" ++ ",\n".intercalate (items.map (indent (level + 1) ++ ·)) ++ "\n" ++
      indent level ++ closing

mutual

/-- A value that begins on a line at a level. -/
def render (level : Nat) : Json → String
  | null => "null"
  | bool b => if b then "true" else "false"
  | number n => toString n
  | string s => quoteString s
  | array items => block "[" "]" level (renderItems (level + 1) items)
  | object members => block "\x7b" "\x7d" level (renderMembers (level + 1) members)

/-- The values of an array. -/
def renderItems (level : Nat) : List Json → List String
  | [] => []
  | item :: rest => render level item :: renderItems level rest

/-- The members of an object. -/
def renderMembers (level : Nat) : List (String × Json) → List String
  | [] => []
  | (key, value) :: rest =>
    (quoteString key ++ ": " ++ render level value) :: renderMembers level rest

end

/-- The value as text, over several lines. -/
def pretty (v : Json) : String := render 0 v

end Json

end Text

end Scanout
