/-
**Finding properties by name.**

The kernel lists the properties of an object by id; their names have to be asked for one by one.
The first property of the wanted name counts.  A property whose metadata cannot be read matches no
name and is passed over.

Main definitions:

* `Scanout.findNamed` — the first property of a name in a list;
* `Scanout.getProperty` — a property of an object, with its current value.
-/

import Scanout.Action
import Scanout.Error

set_option relaxedAutoImplicit false
set_option autoImplicit false

namespace Scanout

variable {κ σ : Type}

/-- A property of an object, put together from its metadata and its value. -/
def Property.ofInfo (object id : ObjectId) (info : PropertyInfo) (value : UInt64) : Property where
  object := object
  id := id
  name := info.name
  kind := info.kind
  immutable := info.immutable
  atomic := info.atomic
  value := value

/-- The first property called `name` in a list of an object's properties. -/
def findNamed (K : Kernel κ σ) (card : κ) (object : ObjectId) (kind : ObjectKind) (name : String) :
    PropertyValues → Action κ σ (Option Property)
  | [] => return none
  | (id, value) :: rest => do
    match ← K.ask card (.propertyInfo id) with
    | .error e =>
      Action.debug <|
        s!"error getting property {id.toNat} of {kind.name} {object.toNat}: {e.debug}"
      findNamed K card object kind name rest
    | .ok info =>
      if info.name = name then return some (.ofInfo object id info value)
      else findNamed K card object kind name rest

/-- The property of an object with a name. -/
def getProperty (K : Kernel κ σ) (card : κ) (object : ObjectId) (kind : ObjectKind)
    (name : String) : Attempt κ σ DeviceError Property := do
  let values ← K.demand card (.objectProperties object kind) (.propertyQueryFailed object)
  match ← findNamed K card object kind name values with
  | some property => return property
  | none => throw (.propertyNotFound object name)

end Scanout
