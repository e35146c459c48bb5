/-
**Tables made from lists.**

A table that only ever got new keys holds one entry for each item that was entered, in the order of
entering.  It is the image of the list of items under a key and a value, and to look something up in
it is to look for an item of the list.  What was entered before stays as it is, so the number of
entries is the number of keys.

Main definitions:

* `Scanout.Table.ofList` — the table with one entry for each item of a list;
* `Scanout.Table.Holds` — a table has so many entries, each for another key.

Main results:

* `Scanout.Table.find?_ofList`, `Scanout.Table.contains_ofList` — to look up a key is to look for an
  item that has it;
* `Scanout.Table.find?_ofList_eq_some_iff` — when no two items share a key, a key leads to the value
  of its item;
* `Scanout.Table.insert_ofList` — entering an item with a new key puts it at the end of the list;
* `Scanout.Table.Holds.insert`, `Scanout.Table.find?_insert_of_find?` — a new key gives one more entry
  and changes no other one.
-/

import Mathlib.Data.List.Nodup
import Scanout.Table

set_option relaxedAutoImplicit false
set_option autoImplicit false

namespace Scanout

namespace Table

variable {α κ ν : Type}

/-- The table with one entry for each item of a list. -/
def ofList (key : α → κ) (value : α → ν) (l : List α) : Table κ ν :=
  ⟨l.map fun a => (key a, value a)⟩

variable [DecidableEq κ] {key : α → κ} {value : α → ν} {l : List α}

theorem find?_ofList (k : κ) :
    (ofList key value l).find? k = (l.find? fun a => key a = k).map value := by
  induction l with
  | nil => rfl
  | cons a l ih =>
      by_cases h : key a = k
      · rw [List.find?_cons_of_pos (by simpa using h)]
        exact if_pos h
      · rw [List.find?_cons_of_neg (by simpa using h)]
        exact (if_neg h).trans ih

theorem contains_ofList (k : κ) : (ofList key value l).contains k = true ↔ k ∈ l.map key := by
  rw [contains, find?_ofList, Option.isSome_map, List.find?_isSome, List.mem_map]
  simp only [decide_eq_true_eq]

/-- When no two items share a key, the first item with a key is the only one. -/
theorem find?_key_eq_some_iff (hkeys : (l.map key).Nodup) {k : κ} {a : α} :
    l.find? (fun b => key b = k) = some a ↔ a ∈ l ∧ key a = k := by
  constructor
  · intro h
    exact ⟨List.mem_of_find?_eq_some h, by simpa using List.find?_some h⟩
  · rintro ⟨ha, rfl⟩
    have hfound : (l.find? fun b => key b = key a).isSome := by
      rw [List.find?_isSome]
      exact ⟨a, ha, decide_eq_true rfl⟩
    obtain ⟨b, hb⟩ := Option.isSome_iff_exists.1 hfound
    have hkey : key b = key a := by simpa using List.find?_some hb
    rwa [List.inj_on_of_nodup_map hkeys (List.mem_of_find?_eq_some hb) ha hkey] at hb

/-- When no two items share a key, a key leads to the value of its item. -/
theorem find?_ofList_eq_some_iff (hkeys : (l.map key).Nodup) {k : κ} {v : ν} :
    (ofList key value l).find? k = some v ↔ ∃ a ∈ l, key a = k ∧ value a = v := by
  rw [find?_ofList, Option.map_eq_some_iff]
  simp only [find?_key_eq_some_iff hkeys, and_assoc]

theorem insert_ofList {a : α} (h : key a ∉ l.map key) :
    (ofList key value l).insert (key a) (value a) = ofList key value (l ++ [a]) := by
  have hkept : (l.map fun b => (key b, value b)).filter (·.1 ≠ key a) =
      l.map fun b => (key b, value b) := by
    refine List.filter_eq_self.2 fun e he => ?_
    obtain ⟨b, hb, rfl⟩ := List.mem_map.1 he
    exact decide_eq_true fun hba => h (List.mem_map.2 ⟨b, hb, hba⟩)
  simp only [insert, erase, ofList, hkept, List.map_append, List.map_cons, List.map_nil]

/-! ### Entering new keys -/

variable {t : Table κ ν} {k k' : κ} {v w : ν}

theorem contains_iff_mem : t.contains k = true ↔ k ∈ t.entries.map (·.1) := by
  have hlist : ofList (·.1) (·.2) t.entries = t := by rw [ofList, List.map_id']
  have hmem : (ofList (·.1) (·.2) t.entries).contains k = true ↔ k ∈ t.entries.map (·.1) :=
    contains_ofList k
  rwa [hlist] at hmem

theorem contains_insert : (t.insert k v).contains k' = true ↔ k' = k ∨ t.contains k' = true := by
  rw [contains, find?_insert]
  by_cases h : k' = k
  · simp [h]
  · simp [h, contains]

/-- Entering a new key changes no other entry. -/
theorem find?_insert_of_find? (h : t.find? k' = some w) (hnew : t.contains k = false) :
    (t.insert k v).find? k' = some w := by
  have hother : k' ≠ k := by
    rintro rfl
    rw [contains, h] at hnew
    cases hnew
  rw [find?_insert_of_ne t hother, h]

/-- A table has `n` entries, each for another key. -/
structure Holds (t : Table κ ν) (n : Nat) : Prop where
  size : t.size = n
  keys : (t.entries.map (·.1)).Nodup

omit [DecidableEq κ] in
theorem holds_empty : (empty : Table κ ν).Holds 0 := ⟨rfl, .nil⟩

theorem Holds.insert {n : Nat} (h : t.Holds n) (hnew : t.contains k = false) :
    (t.insert k v).Holds (n + 1) := by
  have hkey : k ∉ t.entries.map (·.1) := fun hmem => by
    rw [contains_iff_mem.2 hmem] at hnew
    cases hnew
  have hentries : (t.insert k v).entries = t.entries ++ [(k, v)] := by
    refine congrArg (· ++ [(k, v)]) (List.filter_eq_self.2 fun e he => decide_eq_true fun hek => ?_)
    exact hkey (hek ▸ List.mem_map_of_mem he)
  constructor
  case size => rw [Table.size, hentries, List.length_append, ← h.size, Table.size, List.length_singleton]
  case keys =>
      rw [hentries, List.map_append, List.map_singleton, List.nodup_append_comm]
      exact List.nodup_cons.2 ⟨hkey, h.keys⟩

end Table

end Scanout
