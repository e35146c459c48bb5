/-
**Counting display ids.**

Ids are handed out one after the other, so the id of a display is known by how far it is from the
first one.  As long as the count stays inside the id space nothing wraps, and ids compare as their
distances do.

Main definitions:

* `Scanout.DisplayId.HasRoom` — so many ids can be handed out, and one is left after them;
* `Scanout.DisplayId.advance` — the id so many places further on;
* `Scanout.DisplayId.block` — so many ids one after the other.

Main results:

* `Scanout.DisplayId.toNat_advance` — inside the id space advancing is addition;
* `Scanout.DisplayId.next_eq_some`, `Scanout.DisplayId.eq_last_of_not_hasRoom` — the next id is one
  place further on, and only the last id has none;
* `Scanout.DisplayId.advance_lt_advance` — ids compare as their distances do;
* `Scanout.DisplayId.pairwise_block`, `Scanout.DisplayId.mem_block` — the ids of a block go up and are
  those between its ends.
-/

import Mathlib.Order.Defs.LinearOrder
import Scanout.DisplayId

set_option relaxedAutoImplicit false
set_option autoImplicit false

namespace Scanout

namespace DisplayId

/-! ### Order -/

theorem lt_iff_toNat {d e : DisplayId} : d < e ↔ d.val.toNat < e.val.toNat := UInt32.lt_iff_toNat_lt

theorem le_iff_toNat {d e : DisplayId} : d ≤ e ↔ d.val.toNat ≤ e.val.toNat := UInt32.le_iff_toNat_le

theorem eq_of_toNat {d e : DisplayId} (h : d.val.toNat = e.val.toNat) : d = e := by
  cases d
  cases e
  exact congrArg mk (UInt32.toNat_inj.1 h)

/-- Ids are ordered as their numbers are. -/
instance : LinearOrder DisplayId where
  le_refl d := le_iff_toNat.2 (Nat.le_refl _)
  le_trans d e f hde hef := le_iff_toNat.2 (Nat.le_trans (le_iff_toNat.1 hde) (le_iff_toNat.1 hef))
  le_antisymm d e hde hed :=
    eq_of_toNat (Nat.le_antisymm (le_iff_toNat.1 hde) (le_iff_toNat.1 hed))
  lt_iff_le_not_ge d e := by
    rw [lt_iff_toNat, le_iff_toNat, le_iff_toNat]
    omega
  le_total d e := by
    rw [le_iff_toNat, le_iff_toNat]
    exact Nat.le_total _ _
  toDecidableLE := inferInstance
  toDecidableLT := inferInstance
  toDecidableEq := inferInstance
  compare_eq_compareOfLessAndEq d e := by
    have heq : d = e ↔ d.val = e.val := ⟨congrArg val, fun h => eq_of_toNat (congrArg _ h)⟩
    simp only [compare, compareOfLessAndEq, heq]
    rfl

/-! ### Counting on -/

/-- There are `n` ids from `d` on, and one more after them. -/
def HasRoom (d : DisplayId) (n : Nat) : Prop := d.val.toNat + n ≤ last.val.toNat

instance (d : DisplayId) (n : Nat) : Decidable (d.HasRoom n) :=
  inferInstanceAs (Decidable (d.val.toNat + n ≤ last.val.toNat))

theorem hasRoom_iff {d : DisplayId} {n : Nat} : d.HasRoom n ↔ d.val.toNat + n < UInt32.size :=
  Nat.lt_succ_iff.symm

theorem HasRoom.mono {d : DisplayId} {m n : Nat} (h : d.HasRoom n) (hmn : m ≤ n) : d.HasRoom m := by
  rw [hasRoom_iff] at *
  omega

theorem hasRoom_zero (d : DisplayId) : d.HasRoom 0 := hasRoom_iff.2 d.val.toNat_lt_size

/-- The id `k` places after `d`, counted round the end of the id space. -/
def advance (d : DisplayId) (k : Nat) : DisplayId := ⟨UInt32.ofNat (d.val.toNat + k)⟩

@[simp] theorem advance_zero (d : DisplayId) : d.advance 0 = d :=
  eq_of_toNat (by simp [advance])

theorem advance_advance (d : DisplayId) (j k : Nat) :
    (d.advance j).advance k = d.advance (j + k) :=
  eq_of_toNat (by simp [advance, Nat.add_assoc])

/-- Inside the id space advancing is addition. -/
theorem toNat_advance {d : DisplayId} {k : Nat} (h : d.HasRoom k) :
    (d.advance k).val.toNat = d.val.toNat + k := by
  rw [hasRoom_iff] at h
  simp only [advance, UInt32.toNat_ofNat']
  exact Nat.mod_eq_of_lt h

theorem le_advance {d : DisplayId} {k : Nat} (h : d.HasRoom k) : d ≤ d.advance k := by
  rw [le_iff_toNat, toNat_advance h]
  omega

theorem advance_lt_advance {d : DisplayId} {j k : Nat} (h : d.HasRoom k) (hjk : j < k) :
    d.advance j < d.advance k := by
  rw [lt_iff_toNat, toNat_advance h, toNat_advance (h.mono (by omega))]
  omega

theorem next_eq_some {d : DisplayId} (h : d.HasRoom 1) : d.next = some (d.advance 1) := by
  have hne : d ≠ last := by
    rintro rfl
    exact absurd h (by decide)
  rw [next, if_neg hne]
  refine congrArg some (eq_of_toNat ?_)
  rw [toNat_advance h, UInt32.toNat_add, UInt32.toNat_one]
  exact Nat.mod_eq_of_lt (hasRoom_iff.1 h)

/-- Without room for one more there is no next id, because this is the last one. -/
theorem eq_last_of_not_hasRoom {d : DisplayId} (h : ¬ d.HasRoom 1) : d = last := by
  have hlt := d.val.toNat_lt_size
  rw [hasRoom_iff] at h
  exact eq_of_toNat (show d.val.toNat = UInt32.size - 1 by omega)

theorem hasRoom_advance {d : DisplayId} {j k : Nat} (h : d.HasRoom j) :
    (d.advance j).HasRoom k ↔ d.HasRoom (j + k) := by
  rw [HasRoom, HasRoom, toNat_advance h]
  omega

theorem zero_le (d : DisplayId) : zero ≤ d := le_iff_toNat.2 (Nat.zero_le _)

/-- Every id is reached from the first one. -/
theorem hasRoom_zero_toNat (d : DisplayId) : zero.HasRoom d.val.toNat := by
  have hzero : zero.val.toNat = 0 := rfl
  rw [hasRoom_iff, hzero, Nat.zero_add]
  exact d.val.toNat_lt_size

theorem zero_advance (d : DisplayId) : zero.advance d.val.toNat = d := by
  have hzero : zero.val.toNat = 0 := rfl
  refine eq_of_toNat ?_
  rw [toNat_advance d.hasRoom_zero_toNat, hzero, Nat.zero_add]

/-! ### Blocks -/

/-- The `n` ids from `d` on. -/
def block (d : DisplayId) (n : Nat) : List DisplayId := (List.range n).map d.advance

@[simp] theorem length_block (d : DisplayId) (n : Nat) : (d.block n).length = n := by simp [block]

@[simp] theorem block_zero (d : DisplayId) : d.block 0 = [] := rfl

theorem map_toNat_block {d : DisplayId} {n : Nat} (h : d.HasRoom n) :
    (d.block n).map (·.val.toNat) = List.range' d.val.toNat n := by
  rw [block, List.map_map, List.range'_eq_map_range]
  refine List.map_congr_left fun k hk => ?_
  exact toNat_advance (h.mono (Nat.le_of_lt (List.mem_range.1 hk)))

theorem pairwise_block {d : DisplayId} {n : Nat} (h : d.HasRoom n) :
    (d.block n).Pairwise (· < ·) := by
  refine List.pairwise_map.2 (List.pairwise_lt_range.imp_of_mem fun {j k} _ hk hjk => ?_)
  exact advance_lt_advance (h.mono (Nat.le_of_lt (List.mem_range.1 hk))) hjk

/-- A block has the ids from its first up to the one that follows it. -/
theorem mem_block {d e : DisplayId} {n : Nat} (h : d.HasRoom n) :
    e ∈ d.block n ↔ d ≤ e ∧ e < d.advance n := by
  rw [block, List.mem_map, le_iff_toNat, lt_iff_toNat, toNat_advance h]
  constructor
  · rintro ⟨k, hk, rfl⟩
    rw [List.mem_range] at hk
    rw [toNat_advance (h.mono (Nat.le_of_lt hk))]
    omega
  · rintro ⟨hle, hlt⟩
    refine ⟨e.val.toNat - d.val.toNat, List.mem_range.2 (by omega), eq_of_toNat ?_⟩
    rw [toNat_advance (h.mono (by omega))]
    omega

/-- A block goes on with the block after it. -/
theorem block_append (d : DisplayId) (m n : Nat) :
    d.block m ++ (d.advance m).block n = d.block (m + n) := by
  rw [block, block, block, List.range_add, List.map_append, List.map_map]
  exact congrArg _ (List.map_congr_left fun k _ => advance_advance d m k)

end DisplayId

end Scanout
