/-
**Reading bytes as UTF-8.**

A byte string need not be text.  It is read as a sequence of pieces: a character, or a run of bytes
that belongs to none.  A run of bad bytes is as long as a well-formed character could still have
begun with it, so each piece can be replaced or escaped on its own.

Main definitions:

* `Scanout.Text.Piece` — a character or a run of bytes that is not one;
* `Scanout.Text.pieces` — the pieces of a byte string, from the left;
* `Scanout.Text.decode` — the text of a byte string, if all of it is well formed;
* `Scanout.Text.decodeLossy` — its text with every bad run replaced by `U+FFFD`;
* `Scanout.Text.encode` — the bytes of a text.
-/

set_option relaxedAutoImplicit false
set_option autoImplicit false

namespace Scanout

namespace Text

/-- A byte string. -/
abbrev Bytes := List UInt8

/-- A piece of a byte string read as UTF-8. -/
inductive Piece where
  /-- A well-formed character. -/
  | char (c : Char)
  /-- Bytes that belong to no character. -/
  | bad (bytes : Bytes)
  deriving DecidableEq, Repr

/-! ### Lead bytes and the bytes after them -/

/-- How many bytes follow a lead byte, and the bounds of the first of them.  The bounds keep out
overlong forms, surrogates and code points above `U+10FFFF`. -/
def tailOf (lead : UInt8) : Option (Nat × UInt8 × UInt8) :=
  if 0xc2 ≤ lead && lead ≤ 0xdf then some (1, 0x80, 0xbf)
  else if lead == 0xe0 then some (2, 0xa0, 0xbf)
  else if lead == 0xed then some (2, 0x80, 0x9f)
  else if 0xe1 ≤ lead && lead ≤ 0xef then some (2, 0x80, 0xbf)
  else if lead == 0xf0 then some (3, 0x90, 0xbf)
  else if 0xf1 ≤ lead && lead ≤ 0xf3 then some (3, 0x80, 0xbf)
  else if lead == 0xf4 then some (3, 0x80, 0x8f)
  else none

/-- The bits that a lead byte with `n` bytes after it contributes. -/
def leadBits (n : Nat) (lead : UInt8) : Nat :=
  lead.toNat % (64 >>> n)

/-- The character of a lead byte and its tail. -/
def assemble (lead : UInt8) (tail : Bytes) : Char :=
  Char.ofNat (tail.foldl (fun n b => n * 64 + b.toNat % 64) (leadBits tail.length lead))

/-- Splits off at most `n` bytes, the first within `low` and `high` and the others plain tails. -/
def takeTail : Nat → UInt8 → UInt8 → Bytes → Bytes × Bytes
  | 0, _, _, rest => ([], rest)
  | _ + 1, _, _, [] => ([], [])
  | n + 1, low, high, b :: rest =>
    if low ≤ b && b ≤ high then
      let (tail, rest') := takeTail n 0x80 0xbf rest
      (b :: tail, rest')
    else ([], b :: rest)

theorem length_takeTail_snd_le (n : Nat) (low high : UInt8) (s : Bytes) :
    (takeTail n low high s).2.length ≤ s.length := by
  induction n generalizing low high s with
  | zero => simp [takeTail]
  | succ n ih =>
    cases s with
    | nil => simp [takeTail]
    | cons b rest =>
      simp only [takeTail]
      split
      · exact Nat.le_succ_of_le (ih _ _ rest)
      · simp

/-! ### The pieces of a byte string -/

/-- The first piece of a byte string that begins with `b`, and what is left. -/
def nextPiece (b : UInt8) (rest : Bytes) : Piece × Bytes :=
  if b < 0x80 then (.char (Char.ofNat b.toNat), rest)
  else
    match tailOf b with
    | none => (.bad [b], rest)
    | some (n, low, high) =>
      let (tail, rest') := takeTail n low high rest
      if tail.length = n then (.char (assemble b tail), rest') else (.bad (b :: tail), rest')

theorem length_nextPiece_snd_le (b : UInt8) (rest : Bytes) :
    (nextPiece b rest).2.length ≤ rest.length := by
  unfold nextPiece
  split
  · exact Nat.le_refl _
  · cases tailOf b with
    | none => exact Nat.le_refl _
    | some t =>
      have h := length_takeTail_snd_le t.1 t.2.1 t.2.2 rest
      dsimp only
      split <;> exact h

/-- The pieces of a byte string, from the left. -/
def pieces : Bytes → List Piece
  | [] => []
  | b :: rest => (nextPiece b rest).1 :: pieces (nextPiece b rest).2
termination_by s => s.length
decreasing_by exact Nat.lt_succ_of_le (length_nextPiece_snd_le b rest)

/-! ### Text -/

/-- The characters of the pieces, if none is bad. -/
def charsOfPieces : List Piece → Option (List Char)
  | [] => some []
  | .char c :: rest => (charsOfPieces rest).map (c :: ·)
  | .bad _ :: _ => none

/-- The text of a byte string, if it is well formed throughout. -/
def decode (s : Bytes) : Option String :=
  (charsOfPieces (pieces s)).map String.ofList

/-- The text of a byte string with every bad run replaced by `U+FFFD`. -/
def decodeLossy (s : Bytes) : String :=
  String.ofList ((pieces s).map fun
    | .char c => c
    | .bad _ => '\ufffd')

/-- The bytes of a text. -/
def encode (s : String) : Bytes :=
  s.toUTF8.toList

end Text

end Scanout
