/-
**Texts in quotes, as diagnostics show them.**

A diagnostic puts a name or a path between double quotes.  Inside, a quote and a backslash are
preceded by a backslash, the usual control characters have a letter, a character without a printed
form of its own is written as `\u` with its code point in braces, and a byte that is not text is
written as `\x` with two hexadecimal digits.  An apostrophe stays as it is.

Main definitions:

* `Scanout.Text.hex` — a number in lower-case hexadecimal;
* `Scanout.Text.escape` — how a character is written between quotes;
* `Scanout.Text.quote`, `Scanout.Text.quoteBytes` — a text and a byte string in quotes;
* `Scanout.Text.escapeAscii` — a text with everything outside printable ASCII escaped.
-/

import Scanout.Text.Invisible
import Scanout.Text.Utf8

set_option relaxedAutoImplicit false
set_option autoImplicit false

namespace Scanout

namespace Text

/-- A number in hexadecimal digits, lower case, without leading zeros. -/
def hex (n : Nat) : String :=
  String.ofList (Nat.toDigits 16 n)

/-- A byte as two upper-case hexadecimal digits. -/
def hexByte (b : UInt8) : String :=
  let digits := (Nat.toDigits 16 b.toNat).map Char.toUpper
  String.ofList (if digits.length < 2 then '0' :: digits else digits)

/-- A code point between braces. -/
def unicodeEscape (c : Char) : String :=
  "\\u\x7b" ++ hex c.toNat ++ "\x7d"

/-- How a character is written between double quotes. -/
def escape (c : Char) : String :=
  match c with
  | '\x00' => "\\0"
  | '\t' => "\\t"
  | '\r' => "\\r"
  | '\n' => "\\n"
  | '\\' => "\\\\"
  | '"' => "\\\""
  | c => if isInvisible c then unicodeEscape c else c.toString

/-- How a piece of a byte string is written between double quotes. -/
def escapePiece : Piece → String
  | .char c => escape c
  | .bad bytes => String.join (bytes.map fun b => "\\x" ++ hexByte b)

/-- A text in double quotes. -/
def quote (s : String) : String :=
  "\"" ++ String.join (s.toList.map escape) ++ "\""

/-- A byte string in double quotes. -/
def quoteBytes (s : Bytes) : String :=
  "\"" ++ String.join ((pieces s).map escapePiece) ++ "\""

/-- How a character is written where only printable ASCII may stand: both kinds of quotes and the
backslash are preceded by a backslash, too. -/
def escapeAsciiChar (c : Char) : String :=
  match c with
  | '\t' => "\\t"
  | '\r' => "\\r"
  | '\n' => "\\n"
  | '\'' => "\\'"
  | '"' => "\\\""
  | '\\' => "\\\\"
  | c => if 0x20 ≤ c.toNat && c.toNat < 0x7f then c.toString else unicodeEscape c

/-- A text with everything outside printable ASCII escaped. -/
def escapeAscii (s : String) : String :=
  String.join (s.toList.map escapeAsciiChar)

end Text

end Scanout
