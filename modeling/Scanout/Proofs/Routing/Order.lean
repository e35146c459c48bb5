/-
**The display order sorts by class and position.**

Display ids are handed out class by class, and within a class in kernel order.  Sorting is stable, so
the class alone is enough to sort by; what comes out is the lexicographic order of the pairs of class
and position, and a lit built-in panel, if there is one, stands at the front.

Main definitions:

* `Scanout.OrderedByClass` — a list has every position once, by class and then by position.

Main results:

* `Scanout.Connector.rank_eq` — connected comes before the rest, and built-in before external;
* `Scanout.pairwise_displayOrder` — positions stand in lexicographic order;
* `Scanout.displayOrder_orderedByClass` — **the display order is ordered by class**;
* `Scanout.exists_lit_at_front` — the front is a lit built-in panel whenever there is one.
-/

import Mathlib.Data.Prod.Lex
import Scanout.Proofs.Routing.Numbering

set_option relaxedAutoImplicit false
set_option autoImplicit false

namespace Scanout

theorem Connector.rank_eq (c : Connector) :
    c.rank = (if c.isConnected then 0 else 2) + (if c.isInternal then 0 else 1) := by
  unfold rank
  cases c.isInternal <;> cases c.isConnected <;> rfl

theorem Connector.rank_eq_zero_iff {c : Connector} :
    c.rank = 0 ↔ c.isInternal = true ∧ c.isConnected = true := by
  rw [rank_eq]
  cases c.isInternal <;> cases c.isConnected <;> decide

/-! ### Stable sorting -/

/-- Numbers that are sorted with their positions come out in lexicographic order, because those that
are equal keep theirs. -/
theorem pairwise_mergeSort_zipIdx (ranks : List Nat) :
    (ranks.zipIdx.mergeSort fun a b => a.1 ≤ b.1).Pairwise fun a b => toLex a ≤ toLex b := by
  have htrans : ∀ a b c : Nat × Nat, decide (a.1 ≤ b.1) = true → decide (b.1 ≤ c.1) = true →
      decide (a.1 ≤ c.1) = true := fun a b c hab hbc =>
    decide_eq_true (Nat.le_trans (of_decide_eq_true hab) (of_decide_eq_true hbc))
  have htotal : ∀ a b : Nat × Nat, (decide (a.1 ≤ b.1) || decide (b.1 ≤ a.1)) = true :=
    fun a b => by simpa using Nat.le_total a.1 b.1
  -- stability: breaking ties by the place in the unsorted list changes nothing
  rw [← List.mergeSort_zipIdx, List.pairwise_map]
  refine (List.pairwise_mergeSort (List.zipIdxLE_trans htrans) (List.zipIdxLE_total htotal)
    ranks.zipIdx.zipIdx).imp_of_mem ?_
  have hplace : ∀ {x : (Nat × Nat) × Nat},
      x ∈ ranks.zipIdx.zipIdx.mergeSort (List.zipIdxLE fun a b => a.1 ≤ b.1) → x.1.2 = x.2 := by
    intro x hx
    have hzip := List.mem_zipIdx_iff_getElem?.1 (List.mem_mergeSort.1 hx)
    rw [List.getElem?_zipIdx] at hzip
    obtain ⟨r, -, hr⟩ := Option.map_eq_some_iff.1 hzip
    rw [← hr, Nat.zero_add]
  intro x y hx hy hxy
  rw [Prod.Lex.toLex_le_toLex, hplace hx, hplace hy]
  unfold List.zipIdxLE at hxy
  split at hxy
  · next hle =>
    have hle := of_decide_eq_true hle
    split at hxy
    · exact (Nat.lt_or_eq_of_le hle).imp_right fun heq => ⟨heq, of_decide_eq_true hxy⟩
    · next hge =>
      have hge := of_decide_eq_false (Bool.not_eq_true _ ▸ hge)
      omega
  · cases hxy

/-! ### The display order -/

variable {connectors : List Connector}

theorem mem_displayOrder_of_getElem? {i : Nat} {c : Connector} (hc : connectors[i]? = some c) :
    i ∈ displayOrder connectors := mem_displayOrder.2 (List.getElem?_eq_some_iff.1 hc).1

/-- Positions stand in lexicographic order of class and position. -/
theorem pairwise_displayOrder (connectors : List Connector) :
    (displayOrder connectors).Pairwise fun i j => ∀ c d : Connector, connectors[i]? = some c →
      connectors[j]? = some d → toLex (c.rank, i) < toLex (d.rank, j) := by
  have hnodup := displayOrder_nodup connectors
  rw [displayOrder_eq_mergeSort_rank] at hnodup ⊢
  rw [List.Nodup, List.pairwise_map] at hnodup
  refine List.pairwise_map.2
    (((pairwise_mergeSort_zipIdx (connectors.map Connector.rank)).and hnodup).imp_of_mem ?_)
  have hrank : ∀ {x : Nat × Nat} {c : Connector},
      x ∈ ((connectors.map Connector.rank).zipIdx.mergeSort fun a b => a.1 ≤ b.1) →
      connectors[x.2]? = some c → c.rank = x.1 := by
    intro x c hx hc
    have hzip := List.mem_zipIdx_iff_getElem?.1 (List.mem_mergeSort.1 hx)
    rw [List.getElem?_map, hc] at hzip
    exact Option.some.inj hzip
  rintro x y hx hy ⟨hle, hne⟩ c d hc hd
  rw [hrank hx hc, hrank hy hd]
  exact lt_of_le_of_ne hle fun heq => hne (congrArg Prod.snd (toLex.injective heq))

/-- A list has every position once, and one position stands before another when its class is lower, or
when its class is the same and it comes first. -/
structure OrderedByClass (connectors : List Connector) (order : List Nat) : Prop where
  perm : order.Perm (List.range connectors.length)
  before_iff : ∀ (i j : Nat) (c d : Connector), connectors[i]? = some c → connectors[j]? = some d →
    (order.idxOf i < order.idxOf j ↔ toLex (c.rank, i) < toLex (d.rank, j))

/-- **The display order is ordered by class.** -/
theorem displayOrder_orderedByClass (connectors : List Connector) :
    OrderedByClass connectors (displayOrder connectors) := by
  -- a place further to the front is a smaller pair; the converse follows because all pairs compare
  have hlt : ∀ {i j : Nat} {c d : Connector}, connectors[i]? = some c → connectors[j]? = some d →
      (displayOrder connectors).idxOf i < (displayOrder connectors).idxOf j →
      toLex (c.rank, i) < toLex (d.rank, j) := by
    intro i j c d hc hd hij
    have hi := List.idxOf_lt_length_of_mem (mem_displayOrder_of_getElem? hc)
    have hj := List.idxOf_lt_length_of_mem (mem_displayOrder_of_getElem? hd)
    have hsorted := List.pairwise_iff_getElem.1 (pairwise_displayOrder connectors) _ _ hi hj hij
    rw [List.getElem_idxOf, List.getElem_idxOf] at hsorted
    exact hsorted c d hc hd
  refine ⟨displayOrder_perm connectors, fun i j c d hc hd => ⟨hlt hc hd, fun hlex => ?_⟩⟩
  rcases Nat.lt_trichotomy ((displayOrder connectors).idxOf i) ((displayOrder connectors).idxOf j)
    with hij | hij | hji
  · exact hij
  · obtain rfl := (List.idxOf_inj (mem_displayOrder_of_getElem? hc)).1 hij
    obtain rfl := Option.some.inj (hc.symm.trans hd)
    exact absurd hlex (lt_irrefl _)
  · exact absurd (hlt hd hc hji) (lt_asymm hlex)

/-- The front is a lit built-in panel whenever there is one. -/
theorem exists_lit_at_front
    (h : ∃ c ∈ connectors, c.isInternal = true ∧ c.isConnected = true) :
    ∃ i c, (displayOrder connectors)[0]? = some i ∧ connectors[i]? = some c ∧
      c.isInternal = true ∧ c.isConnected = true := by
  obtain ⟨d, hd, hlit⟩ := h
  obtain ⟨j, hj⟩ := List.mem_iff_getElem?.1 hd
  have hpos : 0 < (displayOrder connectors).length := by
    rw [length_displayOrder]
    exact List.length_pos_of_mem hd
  have hfront : (displayOrder connectors)[0] ∈ displayOrder connectors := List.getElem_mem hpos
  have hi := mem_displayOrder.1 hfront
  refine ⟨_, _, List.getElem?_eq_getElem hpos, List.getElem?_eq_getElem hi, ?_⟩
  have hzero : d.rank = 0 := Connector.rank_eq_zero_iff.2 hlit
  rw [← Connector.rank_eq_zero_iff]
  -- nothing stands before the front, so no class is lower than the one found there
  have hbefore := (displayOrder_orderedByClass connectors).before_iff j _ d _ hj
    (List.getElem?_eq_getElem hi)
  rw [(displayOrder_nodup connectors).idxOf_getElem 0 hpos, Prod.Lex.toLex_lt_toLex] at hbefore
  by_contra hne
  exact absurd (hbefore.2 (.inl (by omega))) (Nat.not_lt_zero _)

end Scanout
