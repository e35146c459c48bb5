/-
**Display ids.**

Displays are numbered by 32-bit words across all devices.  An id is an ordinal, not a kernel id: it
is handed out once and never again.

Main definitions:

* `Scanout.DisplayId` — a display slot;
* `Scanout.DisplayId.next` — the following id, if there is one;
* `Scanout.DisplayId.last` — the id after which there is none.
-/

set_option relaxedAutoImplicit false
set_option autoImplicit false

namespace Scanout

/-- A display slot. -/
structure DisplayId where
  /-- The number of the slot. -/
  val : UInt32
  deriving DecidableEq, Repr, Inhabited

namespace DisplayId

instance : LT DisplayId := ⟨fun a b => a.val < b.val⟩

instance : LE DisplayId := ⟨fun a b => a.val ≤ b.val⟩

instance (a b : DisplayId) : Decidable (a < b) := inferInstanceAs (Decidable (a.val < b.val))

instance (a b : DisplayId) : Decidable (a ≤ b) := inferInstanceAs (Decidable (a.val ≤ b.val))

instance : Ord DisplayId := ⟨fun a b => compare a.val b.val⟩

/-- The first id of all. -/
def zero : DisplayId := ⟨0⟩

/-- The id after which there is none. -/
def last : DisplayId := ⟨0xffffffff⟩

/-- The following id, or nothing at the end of the id space. -/
def next (d : DisplayId) : Option DisplayId :=
  if d = last then none else some ⟨d.val + 1⟩

/-- The number as text. -/
def text (d : DisplayId) : String := toString d.val.toNat

instance : ToString DisplayId := ⟨text⟩

@[simp] theorem next_last : last.next = none := if_pos rfl

/-- Away from the end the next id is one greater, without wrapping. -/
theorem toNat_next {d e : DisplayId} (h : d.next = some e) : e.val.toNat = d.val.toNat + 1 := by
  unfold next at h
  split at h
  · cases h
  · next hd =>
    have hne : d.val.toNat ≠ 0xffffffff := fun hn => hd (by
      cases d
      exact congrArg DisplayId.mk (UInt32.toNat_inj.1 hn))
    have hlt := d.val.toNat_lt
    cases h
    rw [UInt32.toNat_add, UInt32.toNat_one, Nat.mod_eq_of_lt (by omega)]

end DisplayId

end Scanout
