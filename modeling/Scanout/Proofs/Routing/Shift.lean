/-
**Routing from another first id.**

The ids that a run hands out are distances from the first one.  Which links connectors get does not
depend on them, and neither does the order in which displays are listed, as ids compare as their distances
do.  So from another first id, as long as there is room after it, a run ends with the same routing, with
the same distance added to every id.

Main definitions:

* `Scanout.DisplayId.rebase` — the id that is as far from one first id as another is from a second;
* `Scanout.Routing.Assignment.rebase` — a routing with its ids counted from another first one.

Main results:

* `Scanout.Routing.inDisplayOrder_grants_rebase` — displays are listed in the same order;
* `Scanout.Routing.assign_rebase` — **a run from another first id ends with the same routing**, up to the
  ids;
* `Scanout.Routing.forall₂_pipes_of_assign` — two runs on one problem differ by a distance between ids.
-/

import Mathlib.Data.List.Forall2
import Scanout.Proofs.Routing.Displays

set_option relaxedAutoImplicit false
set_option autoImplicit false

namespace Scanout

/-! ### Counting from another id -/

namespace DisplayId

variable {old new d : DisplayId} {n j k : Nat}

theorem advance_le_advance_iff (h : d.HasRoom n) (hj : j ≤ n) (hk : k ≤ n) :
    d.advance j ≤ d.advance k ↔ j ≤ k := by
  rw [le_iff_toNat, toNat_advance (h.mono hj), toNat_advance (h.mono hk)]
  omega

/-- The id that is as far from `new` as `d` is from `old`. -/
def rebase (old new d : DisplayId) : DisplayId := new.advance (d.val.toNat - old.val.toNat)

theorem rebase_advance (h : old.HasRoom k) : rebase old new (old.advance k) = new.advance k := by
  rw [rebase, toNat_advance h, Nat.add_sub_cancel_left]

end DisplayId

namespace Routing

/-! ### Grants -/

section Grants

variable {connectors : List Connector} {old new : DisplayId} {links : List Link}

/-- A grant with its id counted from another first one. -/
def Grant.rebase (old new : DisplayId) (g : Grant) : Grant := (DisplayId.rebase old new g.1, g.2)

theorem grants_rebase (hold : old.HasRoom connectors.length) :
    grants connectors new links = (grants connectors old links).map (Grant.rebase old new) := by
  rw [grants, grants, List.map_map]
  refine List.map_congr_left fun x _ => ?_
  have hplace := idxOf_displayOrder_le connectors x.2
  have hid : DisplayId.rebase old new (plannedDisplay connectors old x.2) =
      plannedDisplay connectors new x.2 := DisplayId.rebase_advance (hold.mono hplace)
  exact Prod.ext hid.symm rfl

/-- Displays are listed in the same order, because ids compare as their distances do. -/
theorem inDisplayOrder_grants_rebase (hold : old.HasRoom connectors.length)
    (hnew : new.HasRoom connectors.length) :
    inDisplayOrder (grants connectors new links) =
      (inDisplayOrder (grants connectors old links)).map (Grant.rebase old new) := by
  have hdistance : ∀ g ∈ grants connectors old links, ∃ k ≤ connectors.length,
      g.1 = old.advance k := by
    intro g hg
    exact ⟨_, idxOf_displayOrder_le connectors _, (mem_grants.1 hg).1⟩
  rw [grants_rebase hold, inDisplayOrder, inDisplayOrder]
  refine (List.map_mergeSort fun x hx y hy => ?_).symm
  obtain ⟨j, hj, hxj⟩ := hdistance x hx
  obtain ⟨k, hk, hyk⟩ := hdistance y hy
  rw [decide_eq_decide, Grant.rebase, Grant.rebase, hxj, hyk, DisplayId.rebase_advance (hold.mono hj),
    DisplayId.rebase_advance (hold.mono hk), DisplayId.advance_le_advance_iff hold hj hk,
    DisplayId.advance_le_advance_iff hnew hj hk]

end Grants

/-! ### Routings -/

/-- A routing with its ids counted from another first one. -/
def Assignment.rebase (old new : DisplayId) (a : Assignment) : Assignment where
  pipes := a.pipes.map (Grant.rebase old new)
  displays := ⟨a.displays.entries.map fun x => (x.1, DisplayId.rebase old new x.2)⟩
  next := DisplayId.rebase old new a.next

/-- **A run from another first id ends with the same routing**, up to the ids. -/
theorem assign_rebase {p : Problem} {old new : DisplayId} {a : Assignment} (h : assign p old = .ok a)
    (hnew : new.HasRoom p.connectors.length) : assign p new = .ok (a.rebase old new) := by
  obtain ⟨hold, links, hgreedy, rfl⟩ := assign_eq_ok_iff.1 h
  refine assign_eq_ok_iff.2 ⟨hnew, links, hgreedy, ?_⟩
  simp only [Assignment.rebase, Assignment.ofGrants, Table.ofList,
    inDisplayOrder_grants_rebase hold hnew, DisplayId.rebase_advance hold, List.map_map]
  rfl

/-- **Two runs on one problem differ by a distance**, which is added to every display id. -/
theorem forall₂_pipes_of_assign {p : Problem} {old new : DisplayId} {a b : Assignment}
    (ha : assign p old = .ok a) (hb : assign p new = .ok b) :
    List.Forall₂ (fun g g' : Grant =>
      (g'.1.val.toNat : Int) = g.1.val.toNat + (new.val.toNat - old.val.toNat) ∧ g'.2 = g.2)
      a.pipes b.pipes := by
  obtain ⟨hold, hdisplays, -⟩ := displays_of_assign ha
  obtain ⟨hnew, -⟩ := displays_of_assign hb
  obtain rfl := Except.ok.inj (hb.symm.trans (assign_rebase ha hnew))
  rw [Assignment.rebase, List.forall₂_map_right_iff, List.forall₂_same]
  intro g hg
  -- every id is some places after the first one
  have hmem : g.1 ∈ old.block p.connectors.length := hdisplays ▸ List.mem_map_of_mem hg
  obtain ⟨k, hk, hplace⟩ := List.mem_map.1 hmem
  have hle : k ≤ p.connectors.length := Nat.le_of_lt (List.mem_range.1 hk)
  refine ⟨?_, rfl⟩
  rw [Grant.rebase, ← hplace, DisplayId.rebase_advance (hold.mono hle),
    DisplayId.toNat_advance (hold.mono hle), DisplayId.toNat_advance (hnew.mono hle)]
  omega

end Routing

end Scanout
