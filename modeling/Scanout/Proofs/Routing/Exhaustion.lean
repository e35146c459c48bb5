/-
**The end of the id space.**

Planning hands out an id only if another one follows it, so there is always an id left for the next run
and the last one of all is never handed out.  Hence a run on `n` connectors needs `n + 1` ids, the first one
included.  Too few are noticed before any encoder or CRTC is looked at.  When there are enough, all ids that
a run computes are sums that fit into a word, and what comes after planning makes no further ids: a routing
has the planned ones, and a failure tells the one of the connector that got nothing.

Main definitions:

* `Scanout.Routing.Counted` — ids are counted from the first one on, in display order;
* `Scanout.Routing.DrawsFrom` — a run ends with the ids that were planned.

Main results:

* `Scanout.Routing.assign_eq_exhausted_iff` — a run is out of ids exactly when there is no room for them;
* `Scanout.Routing.counted_plannedIds` — with room, planned ids are counted;
* `Scanout.Routing.assign_within_id_space` — **a run fits into the id space, or says that it does not**.
-/

import Scanout.Proofs.Routing.Displays

set_option relaxedAutoImplicit false
set_option autoImplicit false

namespace Scanout

namespace Routing

/-- The ids of connectors are counted from `first` on in display order, and another one follows them. -/
structure Counted (connectors : List Connector) (first : DisplayId) (ids : Table Nat DisplayId)
    (next : DisplayId) : Prop where
  /-- The connector at place `k` of the display order has the id `first + k`, and nothing else has one. -/
  places : ∀ i d, ids.find? i = some d ↔
    ∃ k, (displayOrder connectors)[k]? = some i ∧ d.val.toNat = first.val.toNat + k
  below : ∀ i d, ids.find? i = some d → d < .last
  free : next.val.toNat = first.val.toNat + connectors.length

/-- A run ends with the ids that were planned: with a routing in which every connector has its id, or with
the id of a connector that cannot be served. -/
inductive DrawsFrom (p : Problem) (ids : Table Nat DisplayId) (next : DisplayId) :
    Except RoutingError Assignment → Prop
  | routed {a : Assignment} (displays : ∀ i, a.displayOf? i = ids.find? i)
      (pipes : ∀ g ∈ a.pipes, ids.find? g.2.connector = some g.1) (free : a.next = next) :
      DrawsFrom p ids next (.ok a)
  | stuck {i : Nat} {c : Connector} {d : DisplayId} (connector : p.connectors[i]? = some c)
      (display : ids.find? i = some d) : DrawsFrom p ids next (.error (.noSuitableEncoder c.id d))

variable {p : Problem} {connectors : List Connector} {first : DisplayId}

/-! ### Planned ids -/

/-- With room for them, the planned ids are counted. -/
theorem counted_plannedIds (hroom : first.HasRoom connectors.length) :
    Counted connectors first (plannedIds connectors first) (first.advance connectors.length) := by
  constructor
  case places =>
      intro i d
      rw [find?_plannedIds_eq_some_iff]
      constructor
      · rintro ⟨hi, rfl⟩
        exact ⟨_, List.getElem?_idxOf (mem_displayOrder.2 hi), toNat_plannedDisplay hroom i⟩
      · rintro ⟨k, hk, hd⟩
        obtain ⟨hlt, rfl⟩ := List.getElem?_eq_some_iff.1 hk
        refine ⟨mem_displayOrder.1 (List.getElem_mem hlt), DisplayId.eq_of_toNat ?_⟩
        rw [toNat_plannedDisplay hroom, (displayOrder_nodup connectors).idxOf_getElem k hlt, hd]
  case below =>
      intro i d h
      obtain ⟨hi, rfl⟩ := find?_plannedIds_eq_some_iff.1 h
      rw [DisplayId.lt_iff_toNat, toNat_plannedDisplay hroom]
      -- a place is less than the number of connectors, and that many ids fit
      have hlt := idxOf_displayOrder_lt hi
      rw [DisplayId.HasRoom] at hroom
      omega
  case free => exact DisplayId.toNat_advance hroom

/-! ### Runs -/

/-- A run is out of ids exactly when there is no room for them, whatever there is to drive connectors. -/
theorem assign_eq_exhausted_iff {last : DisplayId} :
    assign p first = .error (.displayIdsExhausted last) ↔
      ¬ first.HasRoom p.connectors.length ∧ last = .last := by
  rw [assign_eq]
  by_cases hroom : first.HasRoom p.connectors.length
  · rw [if_pos hroom]
    cases p.greedy with
    | ok links => simp [hroom]
    | error failure => simp [hroom]
  · simp [hroom, eq_comm]

/-- With a link for every connector, each one has the display that was planned for it. -/
theorem displayOf?_ofGrants_eq_planned {links : List Link} (hlen : links.length = connectors.length)
    (next : DisplayId) (i : Nat) :
    (Assignment.ofGrants (grants connectors first links) next).displayOf? i =
      (plannedIds connectors first).find? i := by
  rw [displayOf?_ofGrants_grants]
  ext d
  rw [find?_plannedIds_eq_some_iff, Option.map_eq_some_iff, ← hlen]
  constructor
  · rintro ⟨x, hx, hd⟩
    exact ⟨(List.getElem?_eq_some_iff.1 hx).1, hd⟩
  · rintro ⟨hi, hd⟩
    exact ⟨_, List.getElem?_eq_getElem hi, hd⟩

theorem drawsFrom_assign (hroom : first.HasRoom p.connectors.length) :
    DrawsFrom p (plannedIds p.connectors first) (first.advance p.connectors.length)
      (assign p first) := by
  rw [assign_eq, if_pos hroom]
  cases hgreedy : p.greedy with
  | error failure =>
      obtain ⟨c, i⟩ := failure
      have hc := Problem.greedy_eq_error hgreedy
      exact .stuck hc (find?_plannedIds (List.getElem?_eq_some_iff.1 hc).1)
  | ok links =>
      obtain ⟨hlen, -⟩ := Problem.greedy_eq_ok_iff.1 hgreedy
      refine .routed (displayOf?_ofGrants_eq_planned hlen _) (fun g hg => ?_) rfl
      obtain ⟨hd, hx⟩ := mem_grants.1 ((inDisplayOrder_perm _).mem_iff.1 hg)
      exact find?_plannedIds_eq_some_iff.2 ⟨hlen ▸ (List.getElem?_eq_some_iff.1 hx).1, hd.symm⟩

/-- **A run fits into the id space, or says that it does not.**  The numbers are unbounded here, so neither
side of an equation wraps. -/
theorem assign_within_id_space (p : Problem) (first : DisplayId) :
    (∀ last, assign p first = .error (.displayIdsExhausted last) ↔
      0xffffffff < first.val.toNat + p.connectors.length ∧ last.val.toNat = 0xffffffff) ∧
    (first.val.toNat + p.connectors.length ≤ 0xffffffff → ∃ ids next,
      plan p first = .ok (ids, next) ∧ Counted p.connectors first ids next ∧
        DrawsFrom p ids next (assign p first)) ∧
    (p.connectors = [] → assign p first = .ok ⟨[], .empty, first⟩) := by
  have hmax : DisplayId.last.val.toNat = 0xffffffff := rfl
  refine ⟨fun last => ?_, fun hfits => ?_, fun hnil => ?_⟩
  · have hlast : last = .last ↔ last.val.toNat = 0xffffffff :=
      ⟨fun h => h ▸ hmax, fun h => DisplayId.eq_of_toNat (h.trans hmax.symm)⟩
    rw [assign_eq_exhausted_iff, hlast, DisplayId.HasRoom, hmax, Nat.not_le]
  · have hroom : first.HasRoom p.connectors.length := hfits
    exact ⟨_, _, by rw [plan_eq, if_pos hroom], counted_plannedIds hroom, drawsFrom_assign hroom⟩
  · have hroom : first.HasRoom p.connectors.length := hnil ▸ first.hasRoom_zero
    have hgreedy : p.greedy = .ok [] := by rw [Problem.greedy, hnil, Problem.walk]
    refine assign_eq_ok_iff.2 ⟨hroom, [], hgreedy, ?_⟩
    rw [hnil, List.length_nil, DisplayId.advance_zero, grants, List.zipIdx_nil, List.map_nil,
      Assignment.ofGrants, inDisplayOrder, List.mergeSort_nil]
    rfl

/-- A screen that nothing feeds. -/
def unfed : Problem where
  connectors := [⟨40, 0, .displayPort, 1, .connected, none, [30], 0⟩]
  encoders := []
  crtcs := [⟨20, 0, none, 0, 0⟩]

/-- At the last id the screen is never looked at, one id earlier it is found that nothing feeds it, and
without the screen the last id is left alone. -/
theorem unfed_within_id_space :
    assign unfed .last = .error (.displayIdsExhausted .last) ∧
    (∃ d, assign unfed ⟨0xfffffffe⟩ = .error (.noSuitableEncoder 40 d)) ∧
    (∃ ids next, plan unfed ⟨0xfffffffe⟩ = .ok (ids, next) ∧
      Counted unfed.connectors ⟨0xfffffffe⟩ ids next ∧
      DrawsFrom unfed ids next (assign unfed ⟨0xfffffffe⟩)) ∧
    assign { unfed with connectors := [] } .last = .ok ⟨[], .empty, .last⟩ := by
  have hroom : (⟨0xfffffffe⟩ : DisplayId).HasRoom unfed.connectors.length := by decide
  have hstuck : unfed.greedy = .error (unfed.connectors[0], 0) := rfl
  refine ⟨?_, ⟨_, assign_of_stuck hroom hstuck⟩, ?_, ?_⟩
  · exact ((assign_within_id_space unfed .last).1 .last).2 ⟨by decide, rfl⟩
  · exact (assign_within_id_space unfed ⟨0xfffffffe⟩).2.1 hroom
  · exact (assign_within_id_space { unfed with connectors := [] } .last).2.2 rfl

end Routing

end Scanout
