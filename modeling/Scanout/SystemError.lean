/-
**Errors of system calls.**

A kernel call or a file operation fails with an error number, or with a fault that was found before
the system was asked.  An error has two texts: the message that users read and the debug form that
goes into logs.

Main definitions:

* `Scanout.SystemError` — the causes;
* `Scanout.SystemError.message` — the text for users, an error number with its meaning;
* `Scanout.SystemError.debug` — the text for logs.
-/

import Scanout.ErrorNumber
import Scanout.Text.Quoted

set_option relaxedAutoImplicit false
set_option autoImplicit false

namespace Scanout

/-- Why a system call failed. -/
inductive SystemError where
  /-- The system answered with an error number. -/
  | os (number : ErrorNumber)
  /-- What was asked for does not exist; no error number is known. -/
  | notFound
  /-- Zero was given as the id of an object; no object has it. -/
  | zeroObjectId
  /-- A text file holds bytes that are not UTF-8. -/
  | notUtf8
  /-- A path holds a NUL byte. -/
  | nulInPath
  deriving DecidableEq, Repr

namespace SystemError

/-- The text that users read. -/
def message : SystemError → String
  | .os number => s!"{ErrorNumber.meaning number} (os error {number})"
  | .notFound => "entity not found"
  | .zeroObjectId => "zero object id"
  | .notUtf8 => "stream did not contain valid UTF-8"
  | .nulInPath => "file name contained an unexpected NUL byte"

/-- The text that goes into logs. -/
def debug : SystemError → String
  | .os number =>
    let meaning := Text.quote (ErrorNumber.meaning number)
    s!"Os \x7b code: {number}, kind: {ErrorNumber.kind number}, message: {meaning} \x7d"
  | .notFound => "Kind(NotFound)"
  | .zeroObjectId => "Custom \x7b kind: InvalidInput, error: \"zero object id\" \x7d"
  | .notUtf8 =>
    "Error \x7b kind: InvalidData, message: \"stream did not contain valid UTF-8\" \x7d"
  | .nulInPath =>
    "Error \x7b kind: InvalidInput, message: \"file name contained an unexpected NUL byte\" \x7d"

end SystemError

end Scanout
