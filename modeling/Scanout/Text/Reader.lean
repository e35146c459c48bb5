/-
**Readers: grammars over characters.**

A reader takes something from the front of a text and leaves the rest, or refuses the text and
leaves all of it.  Of two readers joined by `<|>` the second reads what the first one refused; a
reader that is repeated goes on as long as it takes at least one character.

Main definitions:

* `Scanout.Text.Reader` — a reader;
* `Scanout.Text.Reader.next`, `Scanout.Text.Reader.exactly`, `Scanout.Text.Reader.run` — one
  character, a given text, a run of characters;
* `Scanout.Text.Reader.many`, `Scanout.Text.Reader.oneOrMore` — a reader repeated;
* `Scanout.Text.Reader.spelled` — what a reader took, character by character.
-/

set_option relaxedAutoImplicit false
set_option autoImplicit false

namespace Scanout

namespace Text

/-- A way to take something from the front of a text. -/
abbrev Reader (α : Type) : Type := StateT (List Char) Option α

namespace Reader

variable {α : Type}

/-- Takes one character of a class. -/
def next (p : Char → Bool) : Reader Char
  | c :: rest => if p c then some (c, rest) else none
  | [] => none

/-- What is left of a text after its beginning. -/
def dropStart : List Char → List Char → Option (List Char)
  | [], rest => some rest
  | _ :: _, [] => none
  | a :: start, c :: rest => if a = c then dropStart start rest else none

/-- Takes a given text. -/
def exactly (text : String) : Reader Unit :=
  fun s => (dropStart text.toList s).map fun rest => ((), rest)

/-- Takes the longest run of characters of a class, which may be empty. -/
def run (p : Char → Bool) : Reader (List Char) :=
  fun s => some (s.takeWhile p, s.dropWhile p)

/-- Takes nothing, at the end of a text. -/
def ended : Reader Unit
  | [] => some ((), [])
  | _ :: _ => none

/-- Takes what a reader takes, or nothing. -/
def skippable (r : Reader α) : Reader Unit :=
  (do let _ ← r) <|> pure ()

/-- Everything a reader takes from a text when it is repeated, and the rest. -/
def repeated (r : Reader α) (s : List Char) : List α × List Char :=
  match r s with
  | none => ([], s)
  | some (a, rest) =>
    if rest.length < s.length then
      let (others, rest') := repeated r rest
      (a :: others, rest')
    else ([], s)
termination_by s.length

/-- Repeats a reader. -/
def many (r : Reader α) : Reader (List α) :=
  fun s => some (repeated r s)

/-- Repeats a reader that must succeed at least once. -/
def oneOrMore (r : Reader α) : Reader (List α) := do
  let first ← r
  let others ← many r
  return first :: others

/-- What a reader took, as it was spelled. -/
def spelled (r : Reader α) : Reader String :=
  fun s => (r s).map fun (_, rest) => (String.ofList (s.take (s.length - rest.length)), rest)

/-! ### What is left -/

theorem dropStart_eq_some_iff {start s rest : List Char} :
    dropStart start s = some rest ↔ s = start ++ rest := by
  induction start generalizing s with
  | nil => simp [dropStart]
  | cons a start ih =>
    cases s with
    | nil => simp [dropStart]
    | cons c s =>
      by_cases h : a = c
      · simp [dropStart, h, ih]
      · simp [dropStart, h, Ne.symm h]

/-- A run and the rest are the whole text. -/
theorem takeWhile_append_of_run {p : Char → Bool} {s taken rest : List Char}
    (h : run p s = some (taken, rest)) : taken ++ rest = s := by
  cases h
  exact List.takeWhile_append_dropWhile

theorem length_repeated_snd_le (r : Reader α) (s : List Char) :
    (repeated r s).2.length ≤ s.length := by
  fun_induction repeated r s with
  | case1 => exact Nat.le_refl _
  | case2 s a rest _ h others rest' hr ih =>
    rw [hr] at ih
    exact Nat.le_trans ih (Nat.le_of_lt h)
  | case3 => exact Nat.le_refl _

end Reader

end Text

end Scanout
