/-
**Control sequences inside text.**

A text that goes to a terminal may hold control characters, and sequences of characters that move
the cursor, change colours or carry data.  What a reader sees is the rest.  A sequence begins with
the escape character and ends as its first characters say; the blanks tab, line feed, form feed and
carriage return are seen even where they interrupt a sequence, and the text behind them is seen up
to the next control character, where the sequence goes on.

Main definitions:

* `Scanout.Text.Sequence` — what an unfinished sequence waits for;
* `Scanout.Text.Place` — a place in a text;
* `Scanout.Text.Place.read` — whether the character at a place is seen, and the place behind it;
* `Scanout.Text.visible` — what is seen of a text.

Main results:

* `Scanout.Text.visibleFrom_append` — a text is read piece by piece;
* `Scanout.Text.visible_eq_self` — a text without control characters is seen as it is.
-/

import Scanout.Text.Utf8

set_option relaxedAutoImplicit false
set_option autoImplicit false

namespace Scanout

namespace Text

/-! ### Control characters -/

/-- The characters with which ASCII controls devices. -/
def isControl (c : Char) : Bool := c.toNat < 0x20 || c = '\x7f'

/-- The control characters that are blanks. -/
def isBlankControl (c : Char) : Bool := c = '\t' || c = '\n' || c = '\x0c' || c = '\r'

/-- The beginning of a sequence. -/
def escapeChar : Char := '\x1b'

/-- The control characters that abandon a sequence. -/
def isCancel (c : Char) : Bool := c = '\x18' || c = '\x1a'

/-- Whether a character stands between two others, ends included. -/
def isBetween (low high c : Char) : Bool := low ≤ c && c ≤ high

/-- Whether the one-byte string terminator occurs in the encoding of a character. -/
def holdsTerminator (c : Char) : Bool := (encode c.toString).contains 0x9c

/-! ### Sequences -/

/-- What a sequence waits for that is not at its end. -/
inductive Sequence where
  /-- Only the escape character was read. -/
  | escape
  /-- An escape sequence with intermediate characters waits for its final character. -/
  | intermediate
  /-- A control sequence waits for its final character. -/
  | control
  /-- A device control string waits for its parameters. -/
  | device
  /-- A device control string is in its parameters. -/
  | deviceParameters
  /-- A device control string is in its intermediate characters. -/
  | deviceIntermediate
  /-- A string waits for its terminator. -/
  | string
  /-- A command of the operating system waits for its end, which may be a bell. -/
  | command
  deriving DecidableEq, Repr

/-- A place in a text. -/
inductive Place where
  /-- Between seen characters.  A sequence that blanks interrupted goes on at the next control
  character. -/
  | text (interrupted : Option Sequence)
  /-- Inside a sequence. -/
  | inside (q : Sequence)
  deriving DecidableEq, Repr

namespace Sequence

/-- Whether blanks are seen inside a sequence. -/
def showsBlanks : Sequence → Bool
  | .escape | .intermediate | .control => true
  | _ => false

/-- The place behind a character that does not show inside a sequence and does not begin another
one. -/
def advance (q : Sequence) (c : Char) : Place :=
  match q with
  | .escape =>
    if isBetween ' ' '/' c then .inside .intermediate
    else if c = '[' then .inside .control
    else if c = ']' then .inside .command
    else if c = 'P' then .inside .device
    else if c = 'X' || c = '^' || c = '_' then .inside .string
    else if isBetween '0' '~' c then .text none
    else .inside q
  | .intermediate => if isBetween '0' '~' c then .text none else .inside q
  | .control => if isBetween '@' '~' c then .text none else .inside q
  | .device =>
    if isBetween ' ' '/' c then .inside .deviceIntermediate
    else if isBetween '0' '?' c then .inside .deviceParameters
    else if isBetween '@' '~' c then .inside .string
    else .inside q
  | .deviceParameters =>
    if isBetween ' ' '/' c then .inside .deviceIntermediate
    else if isBetween '<' '~' c then .inside .string
    else .inside q
  | .deviceIntermediate => if isBetween '0' '~' c then .inside .string else .inside q
  | .string => if holdsTerminator c then .text none else .inside q
  | .command => if c = '\x07' then .text none else .inside q

end Sequence

/-! ### What is seen -/

/-- Whether the character at a place is seen, and the place behind it. -/
def Place.read (p : Place) (c : Char) : Bool × Place :=
  if c = escapeChar then (false, .inside .escape)
  else if isCancel c then (false, .text none)
  else
    match p with
    | .text interrupted =>
      if isBlankControl c || !isControl c then
        (true, .text (if c.toNat < 0x80 then interrupted else none))
      else (false, interrupted.elim p .inside)
    | .inside q =>
      if q.showsBlanks && isBlankControl c then (true, .text (some q)) else (false, q.advance c)

/-- What is seen of a text that begins at a place. -/
def visibleFrom : Place → List Char → List Char
  | _, [] => []
  | p, c :: rest =>
    if (p.read c).1 then c :: visibleFrom (p.read c).2 rest else visibleFrom (p.read c).2 rest

/-- What is seen of a text. -/
def visible (s : String) : String := String.ofList (visibleFrom (.text none) s.toList)

/-- The place behind a text. -/
def Place.after (p : Place) (s : List Char) : Place := s.foldl (fun p c => (p.read c).2) p

/-- Each piece of a text is read from the place behind the piece before it. -/
theorem visibleFrom_append (p : Place) (s t : List Char) :
    visibleFrom p (s ++ t) = visibleFrom p s ++ visibleFrom (p.after s) t := by
  induction s generalizing p with
  | nil => rfl
  | cons c s ih =>
    simp only [List.cons_append, visibleFrom, Place.after, List.foldl_cons]
    split
    · rw [ih]; rfl
    · rw [ih]; rfl

/-- A character that is no control character is seen in text, and text goes on behind it. -/
theorem read_text_of_not_isControl {c : Char} (h : isControl c = false) :
    Place.read (.text none) c = (true, .text none) := by
  have noEscape : c ≠ escapeChar := fun e => by simp [e, isControl, escapeChar] at h
  have noCancel : isCancel c = false := by
    rw [Bool.eq_false_iff]
    intro e
    simp only [isCancel, Bool.or_eq_true, decide_eq_true_eq] at e
    rcases e with rfl | rfl <;> simp [isControl] at h
  simp [Place.read, noEscape, noCancel, h]

/-- A text without control characters is seen as it is. -/
theorem visibleFrom_eq_self {s : List Char} (h : ∀ c ∈ s, isControl c = false) :
    visibleFrom (.text none) s = s := by
  induction s with
  | nil => rfl
  | cons c s ih =>
    have read := read_text_of_not_isControl (h c (by simp))
    simp [visibleFrom, read, ih fun d hd => h d (by simp [hd])]

/-- A text without control characters is seen as it is. -/
theorem visible_eq_self {s : String} (h : ∀ c ∈ s.toList, isControl c = false) :
    visible s = s := by
  simp [visible, visibleFrom_eq_self h]

end Text

end Scanout
