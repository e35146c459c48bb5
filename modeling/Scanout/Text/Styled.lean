/-
**Text in styles.**

A message for users is a row of spans, each in a style that says what the span stands for.  A
terminal is told about styles by control sequences around the spans; where styles are not wanted,
every control sequence is taken out, those inside the spans included.

Main definitions:

* `Scanout.Text.Style`, `Scanout.Text.Style.codes` — the styles and how they look;
* `Scanout.Text.Styled` — text in styles;
* `Scanout.Text.Styled.colored`, `Scanout.Text.Styled.bare` — the text with and without its styles.
-/

import Scanout.Text.ControlSequence

set_option relaxedAutoImplicit false
set_option autoImplicit false

namespace Scanout

namespace Text

/-- What a span of text stands for. -/
inductive Style where
  | plain
  /-- The title of a section. -/
  | heading
  /-- The word that opens an error. -/
  | error
  /-- A text to be typed as it is. -/
  | literal
  /-- A text that would be accepted. -/
  | valid
  /-- A text that was refused. -/
  | invalid
  deriving DecidableEq, Repr

/-- The renditions a style selects: 1 is bold, 4 underlined, 31 red, 32 green and 33 yellow. -/
def Style.codes : Style → List Nat
  | .plain => []
  | .heading => [1, 4]
  | .error => [1, 31]
  | .literal => [1]
  | .valid => [32]
  | .invalid => [33]

/-- Selects a rendition; zero is the default one. -/
def rendition (code : Nat) : String := s!"\x1b[{code}m"

/-- A text in one style. -/
structure Span where
  style : Style
  text : String
  deriving DecidableEq, Repr

/-- A text with the control sequences of its style around it. -/
def Span.colored (s : Span) : String :=
  match s.style.codes with
  | [] => s.text
  | codes => String.join (codes.map rendition) ++ s.text ++ rendition 0

/-- A text in styles, span by span. -/
abbrev Styled := List Span

namespace Styled

def plain (text : String) : Span := ⟨.plain, text⟩
def heading (text : String) : Span := ⟨.heading, text⟩
def error (text : String) : Span := ⟨.error, text⟩
def literal (text : String) : Span := ⟨.literal, text⟩
def valid (text : String) : Span := ⟨.valid, text⟩
def invalid (text : String) : Span := ⟨.invalid, text⟩

/-- The text with its styles. -/
def colored (t : Styled) : String := String.join (t.map Span.colored)

/-- The text without control sequences. -/
def bare (t : Styled) : String := visible t.colored

end Styled

end Text

end Scanout
