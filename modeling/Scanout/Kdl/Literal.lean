/-
**Words of KDL documents: literals and identifiers.**

A literal is a string, a number, a truth value or null.  Strings are written between quotes with
escapes, or raw between quotes with any number of `#`.  An identifier is a run of characters that
could not be the beginning of a number; the names of the other literals are no identifiers.

Main definitions:

* `Scanout.Kdl.Literal`, `Scanout.Kdl.Value` — literals, and literals with a type annotation;
* `Scanout.Kdl.string`, `Scanout.Kdl.number`, `Scanout.Kdl.literal` — how literals are read;
* `Scanout.Kdl.bareIdentifier`, `Scanout.Kdl.name` — how names are read.
-/

import Scanout.Kdl.Blank

set_option relaxedAutoImplicit false
set_option autoImplicit false

namespace Scanout

namespace Kdl

open Text (Reader)

/-- A literal. -/
inductive Literal where
  | null
  | bool (b : Bool)
  /-- A whole number, as it is spelled. -/
  | integer (spelling : String)
  /-- A number with a fraction or an exponent, as it is spelled. -/
  | decimal (spelling : String)
  | string (text : String)
  deriving DecidableEq, Repr

/-- A literal with its type annotation. -/
structure Value where
  typeName : Option String
  literal : Literal
  deriving DecidableEq, Repr

/-! ### Strings -/

/-- Whether a character is a hexadecimal digit. -/
def isHexDigit (c : Char) : Bool :=
  c.isDigit || ('a' ≤ c && c ≤ 'f') || ('A' ≤ c && c ≤ 'F')

/-- The value of a hexadecimal digit. -/
def hexDigitValue (c : Char) : Nat :=
  if c.isDigit then c.toNat - '0'.toNat
  else if c.isLower then c.toNat - 'a'.toNat + 10
  else c.toNat - 'A'.toNat + 10

/-- The character that a letter stands for after a backslash. -/
def escapedChar : Char → Option Char
  | '"' => some '"'
  | '\\' => some '\\'
  | '/' => some '/'
  | 'b' => some '\x08'
  | 'f' => some '\x0c'
  | 'n' => some '\n'
  | 'r' => some '\r'
  | 't' => some '\t'
  | _ => none

/-- The character with a code point of one to six hexadecimal digits. -/
def charOfDigits (digits : List Char) : Option Char :=
  let n := digits.foldl (fun n c => n * 16 + hexDigitValue c) 0
  if digits ≠ [] ∧ digits.length ≤ 6 ∧ n.isValidChar then some (Char.ofNat n) else none

/-- An escape that begins with a backslash. -/
def escapeSequence : Reader Char := do
  Reader.exactly "\\"
  let letter ← Reader.next fun _ => true
  if letter = 'u' then
    Reader.exactly "\x7b"
    let digits ← Reader.run isHexDigit
    Reader.exactly "\x7d"
    StateT.lift (charOfDigits digits)
  else StateT.lift (escapedChar letter)

/-- A string between quotes. -/
def quotedString : Reader String := do
  Reader.exactly "\""
  let chars ← Reader.many (Reader.next (fun c => c ≠ '"' && c ≠ '\\') <|> escapeSequence)
  Reader.exactly "\""
  return String.ofList chars

/-- The characters before the first occurrence of `closing`, and those after it. -/
def splitAtClosing (closing : List Char) : List Char → Option (List Char × List Char)
  | [] => none
  | c :: rest =>
    match Reader.dropStart closing (c :: rest) with
    | some after => some ([], after)
    | none => (splitAtClosing closing rest).map fun (before, after) => (c :: before, after)

/-- A raw string: it ends at the first quote with as many `#` as stand before its first one. -/
def rawString : Reader String := do
  Reader.exactly "r"
  let hashes ← Reader.run (· = '#')
  Reader.exactly "\""
  let chars ← splitAtClosing ('"' :: hashes)
  return String.ofList chars

/-- A string. -/
def string : Reader String := rawString <|> quotedString

/-! ### Numbers -/

/-- A plus or a minus. -/
def isSign (c : Char) : Bool := c = '+' || c = '-'

/-- A digit of a class, then digits of the class and underscores. -/
def digits (p : Char → Bool) : Reader Unit := do
  let _ ← Reader.next p
  let _ ← Reader.run fun c => p c || c = '_'

/-- A number in binary, octal or hexadecimal digits. -/
def radixNumber : Reader Unit := do
  Reader.skippable (Reader.next isSign)
  (do Reader.exactly "0b"; digits fun c => c = '0' || c = '1') <|>
    (do Reader.exactly "0o"; digits fun c => '0' ≤ c && c ≤ '7') <|>
    (do Reader.exactly "0x"; digits isHexDigit)

/-- A fraction with its point. -/
def fraction : Reader Unit := do
  Reader.exactly "."
  digits Char.isDigit

/-- An exponent with its letter; it need not have digits. -/
def exponent : Reader Unit := do
  let _ ← Reader.next fun c => c = 'e' || c = 'E'
  Reader.skippable (Reader.next isSign)
  let _ ← Reader.run fun c => c.isDigit || c = '_'

/-- A number in decimal digits. -/
def decimalNumber : Reader Unit := do
  Reader.skippable (Reader.next isSign)
  digits Char.isDigit
  Reader.skippable fraction
  Reader.skippable exponent

/-- The number with a decimal spelling. -/
def numberOfSpelling (spelling : String) : Literal :=
  if spelling.toList.any fun c => c = '.' || c = 'e' || c = 'E' then .decimal spelling
  else .integer spelling

/-- A number. -/
def number : Reader Literal :=
  (Literal.integer <$> Reader.spelled radixNumber) <|>
    (numberOfSpelling <$> Reader.spelled decimalNumber)

/-! ### Literals -/

/-- A truth value or null. -/
def keyword : Reader Literal :=
  (do Reader.exactly "null"; return .null) <|>
    (do Reader.exactly "true"; return .bool true) <|>
    (do Reader.exactly "false"; return .bool false)

/-- A literal. -/
def literal : Reader Literal :=
  (Literal.string <$> string) <|> keyword <|> number

/-! ### Identifiers -/

/-- Punctuation and spaces, which no identifier holds. -/
def isReserved (c : Char) : Bool :=
  let n := c.toNat
  n ≤ 0x20 || "\\/()\x7b\x7d<>;[]=,\"".toList.contains c || n = 0xa0 || n = 0x1680 ||
    (0x2000 ≤ n && n ≤ 0x200a) || n = 0x202f || n = 0x205f || n = 0x3000 || n = 0x85 ||
    n = 0x2028 || n = 0x2029

/-- The characters of an identifier after the first ones. -/
def isIdentifierChar (c : Char) : Bool := !isReserved c && c ≠ '!'

/-- The characters that an identifier may have after a sign. -/
def isAfterSign (c : Char) : Bool := !isReserved c && !c.isDigit

/-- The characters that an identifier without a sign may begin with. -/
def isIdentifierStart (c : Char) : Bool := isAfterSign c && !isSign c

/-- A run of identifier characters: a sign that no digit follows, or no sign and no digit first. -/
def identifierRun : Reader Unit :=
  (do
    let _ ← Reader.next isSign
    let _ ← Reader.next isAfterSign
    let _ ← Reader.run isIdentifierChar) <|>
  (do let _ ← Reader.next isSign) <|>
  (do
    let _ ← Reader.next isIdentifierStart
    let _ ← Reader.run isIdentifierChar)

/-- An identifier without quotes. -/
def bareIdentifier : Reader String := do
  let text ← Reader.spelled identifierRun
  if ["true", "false", "null"].contains text then failure
  return text

/-- The name of a node or a type.  A text that begins like a number is none. -/
def name : Reader String := fun s =>
  match number s with
  | some _ => none
  | none => (bareIdentifier <|> string) s

/-! ### Values -/

/-- A type annotation. -/
def typeName : Reader String := do
  Reader.exactly "("
  let text ← name
  Reader.exactly ")"
  return text

/-- A literal with a type annotation. -/
def typedValue : Reader Value := do
  let type ← typeName
  let l ← literal
  return ⟨some type, l⟩

/-- A literal with or without a type annotation. -/
def value : Reader Value :=
  typedValue <|> do return ⟨none, ← literal⟩

end Kdl

end Scanout
