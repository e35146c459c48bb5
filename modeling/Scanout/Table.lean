/-
**Finite tables.**

A table maps finitely many keys to values.  Each key has one entry; a key that is entered again
moves to the end with its new value, so the entries stand in the order in which they were last made.

Main definitions:

* `Scanout.Table` — a table;
* `Scanout.Table.find?` — the value of a key;
* `Scanout.Table.insert`, `Scanout.Table.modify` — a table with one entry changed.
-/

set_option relaxedAutoImplicit false
set_option autoImplicit false

namespace Scanout

/-- A finite map from keys `κ` to values `ν`. -/
structure Table (κ ν : Type) where
  /-- The entries, oldest first. -/
  entries : List (κ × ν)
  deriving DecidableEq, Repr

namespace Table

variable {κ ν : Type} [DecidableEq κ]

/-- The table without entries. -/
def empty : Table κ ν := ⟨[]⟩

/-- The number of entries. -/
def size (t : Table κ ν) : Nat := t.entries.length

/-- The value of the first entry of a key. -/
def valueIn (k : κ) : List (κ × ν) → Option ν
  | [] => none
  | (a, v) :: rest => if a = k then some v else valueIn k rest

/-- The value of a key. -/
def find? (t : Table κ ν) (k : κ) : Option ν := valueIn k t.entries

/-- Whether a key has an entry. -/
def contains (t : Table κ ν) (k : κ) : Bool := (t.find? k).isSome

/-- The table without the entry of a key. -/
def erase (t : Table κ ν) (k : κ) : Table κ ν :=
  ⟨t.entries.filter (·.1 ≠ k)⟩

/-- The table in which a key has a value, whatever it had before. -/
def insert (t : Table κ ν) (k : κ) (v : ν) : Table κ ν :=
  ⟨(t.erase k).entries ++ [(k, v)]⟩

/-- The table in which the value of a key is what `f` makes of the one before. -/
def modify (t : Table κ ν) (k : κ) (f : Option ν → ν) : Table κ ν :=
  t.insert k (f (t.find? k))

/-! ### Finding after a change -/

theorem valueIn_append (k : κ) (l m : List (κ × ν)) :
    valueIn k (l ++ m) = (valueIn k l).or (valueIn k m) := by
  induction l with
  | nil => rfl
  | cons e rest ih => by_cases h : e.1 = k <;> simp [valueIn, h, ih]

theorem valueIn_filter_self (k : κ) (l : List (κ × ν)) :
    valueIn k (l.filter (·.1 ≠ k)) = none := by
  induction l with
  | nil => rfl
  | cons e rest ih => by_cases h : e.1 = k <;> simp_all [valueIn]

theorem valueIn_filter_of_ne {k k' : κ} (h : k' ≠ k) (l : List (κ × ν)) :
    valueIn k' (l.filter (·.1 ≠ k)) = valueIn k' l := by
  induction l with
  | nil => rfl
  | cons e rest ih =>
    by_cases hk : e.1 = k
    · have hk' : e.1 ≠ k' := fun he => h (he.symm.trans hk)
      rw [List.filter_cons_of_neg (by simpa using hk), ih, valueIn, if_neg hk']
    · rw [List.filter_cons_of_pos (by simpa using hk), valueIn, valueIn, ih]

@[simp] theorem find?_empty (k : κ) : (empty : Table κ ν).find? k = none := rfl

@[simp] theorem find?_insert_self (t : Table κ ν) (k : κ) (v : ν) :
    (t.insert k v).find? k = some v := by
  simp only [find?, insert, erase, valueIn_append, valueIn_filter_self]
  simp [valueIn]

theorem find?_insert_of_ne (t : Table κ ν) {k k' : κ} (h : k' ≠ k) (v : ν) :
    (t.insert k v).find? k' = t.find? k' := by
  simp only [find?, insert, erase, valueIn_append, valueIn_filter_of_ne h]
  simp [valueIn, Ne.symm h]

theorem find?_insert (t : Table κ ν) (k k' : κ) (v : ν) :
    (t.insert k v).find? k' = if k' = k then some v else t.find? k' := by
  split
  · next h => rw [h, find?_insert_self]
  · next h => exact find?_insert_of_ne t h v

end Table

end Scanout
