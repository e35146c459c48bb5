/-
**Which display ids connectors get.**

Before anything is bound every connector position has its display id: the positions are put into
display order, and the one at place `k` of that order gets the id `k` places after the first.  A run
whose ids do not fit into the id space fails here and looks at no encoder and no CRTC.

Main definitions:

* `Scanout.Routing.plannedDisplay`, `Scanout.Routing.plannedIds` — the display id of a connector
  position, and of all of them.

Main results:

* `Scanout.displayOrder_perm` — the display order lists every position once;
* `Scanout.displayOrder_congr` — the display order depends only on the classes of the connectors;
* `Scanout.Routing.plan_eq` — planning gives every position its id, or fails for want of room;
* `Scanout.Routing.map_plannedDisplay_displayOrder` — in display order the ids are consecutive;
* `Scanout.Routing.toNat_plannedDisplay` — the number of a display is that of the first one plus its
  place;
* `Scanout.Routing.plannedDisplay_inj` — no two positions have the same id.
-/

import Mathlib.Data.List.Nodup
import Scanout.Proofs.DisplayId
import Scanout.Proofs.Table
import Scanout.Routing.Basic

set_option relaxedAutoImplicit false
set_option autoImplicit false

namespace Scanout

/-! ### The display order -/

/-- The display order lists every position once. -/
theorem displayOrder_perm (connectors : List Connector) :
    (displayOrder connectors).Perm (List.range connectors.length) := by
  have hsorted := (List.mergeSort_perm connectors.zipIdx fun a b => a.1.rank ≤ b.1.rank).map Prod.snd
  rwa [List.zipIdx_map_snd, ← List.range_eq_range'] at hsorted

theorem displayOrder_nodup (connectors : List Connector) : (displayOrder connectors).Nodup :=
  (displayOrder_perm connectors).nodup_iff.2 List.nodup_range

@[simp] theorem mem_displayOrder {connectors : List Connector} {i : Nat} :
    i ∈ displayOrder connectors ↔ i < connectors.length := by
  rw [(displayOrder_perm connectors).mem_iff, List.mem_range]

theorem displayOrder_eq_mergeSort_rank (connectors : List Connector) :
    displayOrder connectors =
      ((connectors.map Connector.rank).zipIdx.mergeSort fun a b => a.1 ≤ b.1).map Prod.snd := by
  have hmap := List.map_mergeSort (r := fun a b : Connector × Nat => decide (a.1.rank ≤ b.1.rank))
    (s := fun a b : Nat × Nat => decide (a.1 ≤ b.1)) (f := fun a => (a.1.rank, a.2))
    (l := connectors.zipIdx) fun _ _ _ _ => rfl
  have hzip : (connectors.map Connector.rank).zipIdx =
      connectors.zipIdx.map fun a => (a.1.rank, a.2) := List.zipIdx_map ..
  rw [hzip, ← hmap, List.map_map]
  rfl

/-- The display order depends only on the classes of the connectors. -/
theorem displayOrder_congr {xs ys : List Connector}
    (h : xs.map Connector.rank = ys.map Connector.rank) : displayOrder xs = displayOrder ys := by
  rw [displayOrder_eq_mergeSort_rank, displayOrder_eq_mergeSort_rank, h]

namespace Routing

/-! ### Planned ids -/

/-- The display id of a connector position: as many places after `first` as the position stands in
display order. -/
def plannedDisplay (connectors : List Connector) (first : DisplayId) (i : Nat) : DisplayId :=
  first.advance ((displayOrder connectors).idxOf i)

/-- The display ids of all connector positions, in display order. -/
def plannedIds (connectors : List Connector) (first : DisplayId) : Table Nat DisplayId :=
  .ofList id (plannedDisplay connectors first) (displayOrder connectors)

variable {connectors : List Connector} {first : DisplayId}

theorem find?_plannedIds_eq_some_iff {i : Nat} {d : DisplayId} :
    (plannedIds connectors first).find? i = some d ↔
      i < connectors.length ∧ plannedDisplay connectors first i = d := by
  have hkeys : ((displayOrder connectors).map id).Nodup := by simpa using displayOrder_nodup connectors
  constructor
  · intro h
    obtain ⟨j, hj, rfl, rfl⟩ := (Table.find?_ofList_eq_some_iff hkeys).1 h
    exact ⟨mem_displayOrder.1 hj, rfl⟩
  · rintro ⟨hi, rfl⟩
    exact (Table.find?_ofList_eq_some_iff hkeys).2 ⟨i, mem_displayOrder.2 hi, rfl, rfl⟩

theorem find?_plannedIds {i : Nat} (hi : i < connectors.length) :
    (plannedIds connectors first).find? i = some (plannedDisplay connectors first i) :=
  find?_plannedIds_eq_some_iff.2 ⟨hi, rfl⟩

/-- In display order the ids are consecutive. -/
theorem map_plannedDisplay_displayOrder (connectors : List Connector) (first : DisplayId) :
    (displayOrder connectors).map (plannedDisplay connectors first) =
      first.block connectors.length := by
  refine List.ext_getElem (by simp) fun k hk _ => ?_
  have hplace := (displayOrder_nodup connectors).idxOf_getElem k (by simpa using hk)
  simp only [List.getElem_map, List.getElem_range, DisplayId.block, plannedDisplay, hplace]

theorem plannedDisplay_congr {xs ys : List Connector}
    (h : xs.map Connector.rank = ys.map Connector.rank) (first : DisplayId) :
    plannedDisplay xs first = plannedDisplay ys first := by
  funext i
  rw [plannedDisplay, plannedDisplay, displayOrder_congr h]

theorem idxOf_displayOrder_le (connectors : List Connector) (i : Nat) :
    (displayOrder connectors).idxOf i ≤ connectors.length := by
  have hle := List.idxOf_le_length (l := displayOrder connectors) (a := i)
  rwa [length_displayOrder] at hle

theorem idxOf_displayOrder_lt {i : Nat} (hi : i < connectors.length) :
    (displayOrder connectors).idxOf i < connectors.length := by
  have hlt := List.idxOf_lt_length_iff.2 (mem_displayOrder.2 hi)
  rwa [length_displayOrder] at hlt

/-- As long as the ids fit, the number of a display is that of the first one plus its place. -/
theorem toNat_plannedDisplay (hroom : first.HasRoom connectors.length) (i : Nat) :
    (plannedDisplay connectors first i).val.toNat =
      first.val.toNat + (displayOrder connectors).idxOf i :=
  DisplayId.toNat_advance (hroom.mono (idxOf_displayOrder_le connectors i))

/-- No two positions have the same id. -/
theorem plannedDisplay_inj (hroom : first.HasRoom connectors.length) {i j : Nat}
    (hi : i < connectors.length)
    (h : plannedDisplay connectors first i = plannedDisplay connectors first j) : i = j := by
  have hnumber := congrArg (fun d => d.val.toNat) h
  simp only [toNat_plannedDisplay hroom] at hnumber
  have hplace : (displayOrder connectors).idxOf i = (displayOrder connectors).idxOf j := by omega
  exact (List.idxOf_inj (mem_displayOrder.2 hi)).1 hplace

/-! ### Planning -/

/-- Handing out ids to positions that follow `done`, when `ids` says which they are to get. -/
theorem handOut_eq {ids : Nat → DisplayId} {l : List Nat} :
    ∀ (done : List Nat) (d : DisplayId), (done ++ l).Nodup →
      (∀ (k : Nat) (hk : k < l.length), ids l[k] = d.advance k) →
      handOut l d (.ofList id ids done) =
        if d.HasRoom l.length then .ok (.ofList id ids (done ++ l), d.advance l.length)
        else .error (.displayIdsExhausted .last) := by
  induction l with
  | nil =>
      intro done d _ _
      rw [handOut, List.length_nil, if_pos d.hasRoom_zero, DisplayId.advance_zero,
        List.append_nil]
  | cons i l ih =>
      intro done d hnodup hids
      by_cases h₁ : d.HasRoom 1
      · have hi : ids i = d := (hids 0 (Nat.succ_pos _)).trans d.advance_zero
        -- the position is new, so its entry goes to the end of the table
        have hnew : id i ∉ done.map id := by
          rw [List.map_id, id]
          intro hmem
          exact (List.nodup_append.1 hnodup).2.2 i hmem i (by simp) rfl
        have hrest : ∀ (k : Nat) (hk : k < l.length), ids l[k] = (d.advance 1).advance k := by
          intro k hk
          rw [DisplayId.advance_advance, Nat.add_comm 1 k]
          exact hids (k + 1) (Nat.succ_lt_succ hk)
        have hinsert : (Table.ofList id ids done).insert i d = .ofList id ids (done ++ [i]) := by
          rw [← hi]
          exact Table.insert_ofList hnew
        simp only [handOut, DisplayId.next_eq_some h₁]
        rw [hinsert, ih (done ++ [i]) (d.advance 1) (by simpa using hnodup) hrest]
        simp only [DisplayId.hasRoom_advance h₁, DisplayId.advance_advance, List.append_assoc,
          List.cons_append, List.nil_append, List.length_cons, Nat.add_comm 1]
      · have hlast := DisplayId.eq_last_of_not_hasRoom h₁
        subst hlast
        have hfull : ¬ DisplayId.last.HasRoom (i :: l).length := fun h => h₁ (h.mono (by simp))
        rw [handOut, DisplayId.next_last, if_neg hfull]

/-- Planning gives every position its id, or fails for want of room. -/
theorem plan_eq (p : Problem) (first : DisplayId) :
    plan p first =
      if first.HasRoom p.connectors.length then
        .ok (plannedIds p.connectors first, first.advance p.connectors.length)
      else .error (.displayIdsExhausted .last) := by
  have hids : ∀ (k : Nat) (hk : k < (displayOrder p.connectors).length),
      plannedDisplay p.connectors first (displayOrder p.connectors)[k] = first.advance k :=
    fun k hk => by rw [plannedDisplay, (displayOrder_nodup _).idxOf_getElem k hk]
  have h := handOut_eq [] first (by simpa using displayOrder_nodup p.connectors) hids
  rw [List.nil_append, length_displayOrder] at h
  exact h

end Routing

end Scanout
