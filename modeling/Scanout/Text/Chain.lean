/-
**Chains of causes.**

An error may have a cause, which may have a cause of its own.  The messages from the outermost error
inwards form its chain.  A report shows the first message and lists the others below it.

Main definitions:

* `Scanout.Text.Chain` — the messages of an error and its causes, outermost first;
* `Scanout.Text.Chain.report` — the report of a chain.
-/

set_option relaxedAutoImplicit false
set_option autoImplicit false

namespace Scanout

namespace Text

/-- The messages of an error and its causes, outermost first. -/
structure Chain where
  /-- What went wrong. -/
  message : String
  /-- Why, from the nearest cause to the first one. -/
  causes : List String
  deriving DecidableEq, Repr

namespace Chain

/-- All messages, outermost first. -/
def toList (c : Chain) : List String := c.message :: c.causes

/-- The chain of an error that this chain caused. -/
def wrap (c : Chain) (message : String) : Chain := ⟨message, c.toList⟩

@[simp] theorem toList_wrap (c : Chain) (message : String) :
    (c.wrap message).toList = message :: c.toList := rfl

/-- A number at the right of five columns. -/
def column (n : Nat) : String :=
  let digits := toString n
  String.ofList (List.replicate (5 - digits.length) ' ') ++ digits

/-- The causes as lines of a report, numbered from `n`. -/
def numbered : Nat → List String → List String
  | _, [] => []
  | n, cause :: rest => s!"{column n}: {cause}" :: numbered (n + 1) rest

/-- The lines of a report below its first one.  A single cause is not numbered. -/
def causeLines : List String → List String
  | [] => []
  | [cause] => ["", "Caused by:", s!"    {cause}"]
  | causes => ["", "Caused by:"] ++ numbered 0 causes

/-- The message, and below it a list of the causes. -/
def report (c : Chain) : String :=
  "\n".intercalate (c.message :: causeLines c.causes)

end Chain

end Text

end Scanout
