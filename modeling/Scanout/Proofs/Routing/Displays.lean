/-
**The displays of a routing.**

Whatever drives them, the displays of a routing are a block: in display order the first one has the
id that the run started from, each other one follows the one before, and the next free id comes after
the last.  Which connector a display of the block belongs to is said by the display order.

Main definitions:

* `Scanout.Routing.Assignment.grantOf?` — the display of a connector, with what drives it;
* `Scanout.Routing.Assignment.Numbered` — the displays of a routing are counted in display order.

Main results:

* `Scanout.Routing.map_display_inDisplayOrder_grants` — in display order, grants have the ids of a
  block;
* `Scanout.Routing.displays_of_assign` — **the displays of a routing are a block**, one for each
  connector;
* `Scanout.Routing.pipe?_of_assign` — a display of the block drives the connector at its place in the
  display order;
* `Scanout.Routing.grantOf?_ofGrants_grants` — a connector is driven through the link it was given;
* `Scanout.Routing.displays_follow_order` — **displays are numbered in the order of the classes**.
-/

import Scanout.Proofs.Routing.Greedy
import Scanout.Proofs.Routing.Order

set_option relaxedAutoImplicit false
set_option autoImplicit false

namespace Scanout

namespace Routing

variable {connectors : List Connector} {first : DisplayId} {links : List Link}

theorem map_display_inDisplayOrder_grants (hroom : first.HasRoom connectors.length)
    (hlen : links.length = connectors.length) :
    (inDisplayOrder (grants connectors first links)).map (·.1) = first.block connectors.length := by
  have hperm : ((inDisplayOrder (grants connectors first links)).map (·.1)).Perm
      (first.block connectors.length) := by
    refine ((inDisplayOrder_perm _).map _).trans ?_
    rw [map_display_grants, hlen, ← map_plannedDisplay_displayOrder]
    exact ((displayOrder_perm connectors).map _).symm
  -- both lists go up and have the same ids, so they are the same list
  have hsorted : ((inDisplayOrder (grants connectors first links)).map (·.1)).Pairwise (· ≤ ·) :=
    List.pairwise_map.2 (pairwise_inDisplayOrder _)
  have hblock : (first.block connectors.length).Pairwise (· ≤ ·) :=
    (DisplayId.pairwise_block hroom).imp le_of_lt
  exact hperm.eq_of_pairwise (fun _ _ _ _ => le_antisymm) hsorted hblock

/-- **The displays of a routing are a block**, one for each connector, and the next id follows it. -/
theorem displays_of_assign {p : Problem} {a : Assignment} (h : assign p first = .ok a) :
    first.HasRoom p.connectors.length ∧ a.pipes.map (·.1) = first.block p.connectors.length ∧
      a.next = first.advance p.connectors.length := by
  obtain ⟨hroom, links, hgreedy, rfl⟩ := assign_eq_ok_iff.1 h
  have hlen := (Problem.greedy_eq_ok_iff.1 hgreedy).1
  exact ⟨hroom, map_display_inDisplayOrder_grants hroom hlen, rfl⟩

/-! ### Whose display it is -/

variable {p : Problem} {a : Assignment}

/-- A display of the block drives the connector at its place in the display order. -/
theorem pipe?_of_assign (h : assign p first = .ok a) {k i : Nat}
    (hi : (displayOrder p.connectors)[k]? = some i) :
    ∃ pipe, a.pipe? (first.advance k) = some pipe ∧ pipe.connector = i := by
  obtain ⟨links, -, hlen, hexclusive, rfl⟩ := exists_grants_of_assign h
  obtain ⟨hk, rfl⟩ := List.getElem?_eq_some_iff.1 hi
  have hlt : (displayOrder p.connectors)[k] < links.length := by
    rw [hlen]
    exact mem_displayOrder.1 (List.getElem_mem hk)
  have hplace : plannedDisplay p.connectors first (displayOrder p.connectors)[k] =
      first.advance k := by rw [plannedDisplay, (displayOrder_nodup _).idxOf_getElem k hk]
  refine ⟨⟨_, links[(displayOrder p.connectors)[k]].1, links[(displayOrder p.connectors)[k]].2⟩,
    (Assignment.pipe?_ofGrants hexclusive.displays).2 (mem_grants.2 ⟨hplace.symm, ?_⟩), rfl⟩
  exact List.getElem?_eq_getElem hlt

theorem displayOf?_of_pipe? (h : assign p first = .ok a) {d : DisplayId} {pipe : Pipe}
    (hpipe : a.pipe? d = some pipe) : a.displayOf? pipe.connector = some d := by
  obtain ⟨links, -, hlen, hexclusive, rfl⟩ := exists_grants_of_assign h
  exact (Assignment.displayOf?_ofGrants nodup_connector_grants).2
    ⟨pipe, (Assignment.pipe?_ofGrants hexclusive.displays).1 hpipe, rfl⟩

/-- A connector has the display that drives it, and only that one. -/
theorem displayOf?_iff_of_assign (h : assign p first = .ok a) {i : Nat} {d : DisplayId} :
    a.displayOf? i = some d ↔ ∃ pipe, a.pipe? d = some pipe ∧ pipe.connector = i := by
  constructor
  · intro hdisplay
    obtain ⟨links, -, -, hexclusive, rfl⟩ := exists_grants_of_assign h
    obtain ⟨pipe, hmem, hi⟩ := (Assignment.displayOf?_ofGrants nodup_connector_grants).1 hdisplay
    exact ⟨pipe, (Assignment.pipe?_ofGrants hexclusive.displays).2 hmem, hi⟩
  · rintro ⟨pipe, hpipe, rfl⟩
    exact displayOf?_of_pipe? h hpipe

/-- No connector of a routing is left without a display. -/
theorem exists_displayOf?_of_assign (h : assign p first = .ok a) {i : Nat}
    (hi : i < p.connectors.length) : ∃ d, a.displayOf? i = some d := by
  have hplace := List.getElem?_idxOf (mem_displayOrder.2 hi)
  obtain ⟨pipe, hpipe, rfl⟩ := pipe?_of_assign h hplace
  exact ⟨_, displayOf?_of_pipe? h hpipe⟩

/-- The display of the connector at a position, with what drives it. -/
def Assignment.grantOf? (a : Assignment) (i : Nat) : Option Grant := do
  let d ← a.displayOf? i
  let pipe ← a.pipe? d
  return (d, pipe)

/-- A connector has the display that was planned for it, if it was given a link. -/
theorem displayOf?_ofGrants_grants (next : DisplayId) (i : Nat) :
    (Assignment.ofGrants (grants connectors first links) next).displayOf? i =
      links[i]?.map fun _ => plannedDisplay connectors first i := by
  cases hx : links[i]? with
  | some x =>
      exact (Assignment.displayOf?_ofGrants nodup_connector_grants).2
        ⟨⟨i, x.1, x.2⟩, mem_grants.2 ⟨rfl, hx⟩, rfl⟩
  | none =>
      refine Option.eq_none_iff_forall_ne_some.2 fun d hd => ?_
      obtain ⟨pipe, hmem, rfl⟩ := (Assignment.displayOf?_ofGrants nodup_connector_grants).1 hd
      rw [(mem_grants.1 hmem).2] at hx
      cases hx

/-- A connector is driven through the link it was given. -/
theorem grantOf?_ofGrants_grants (hexclusive : Exclusive (grants connectors first links))
    (next : DisplayId) (i : Nat) :
    (Assignment.ofGrants (grants connectors first links) next).grantOf? i =
      links[i]?.map fun x => (plannedDisplay connectors first i, ⟨i, x.1, x.2⟩) := by
  rw [Assignment.grantOf?, displayOf?_ofGrants_grants]
  cases hx : links[i]? with
  | none => rfl
  | some x =>
      have hpipe : (Assignment.ofGrants (grants connectors first links) next).pipe?
          (plannedDisplay connectors first i) = some ⟨i, x.1, x.2⟩ :=
        (Assignment.pipe?_ofGrants hexclusive.displays).2 (mem_grants.2 ⟨rfl, hx⟩)
      simp [hpipe]

/-- The displays of a routing are counted from `first` on, in display order. -/
structure Assignment.Numbered (p : Problem) (first : DisplayId) (a : Assignment) : Prop where
  /-- Read in their order, the displays are consecutive numbers. -/
  displays : a.pipes.map (·.1.val.toNat) = List.range' first.val.toNat p.connectors.length
  size : a.size = p.connectors.length
  next : a.next.val.toNat = first.val.toNat + p.connectors.length
  /-- The connector at place `k` of the display order is driven by the display `first + k`. -/
  driven : ∀ k i : Nat, (displayOrder p.connectors)[k]? = some i → ∃ d pipe,
    d.val.toNat = first.val.toNat + k ∧ a.pipe? d = some pipe ∧ pipe.connector = i ∧
      a.displayOf? i = some d
  /-- The first display is a lit built-in panel whenever there is one. -/
  lit : (∃ c ∈ p.connectors, c.isInternal = true ∧ c.isConnected = true) →
    ∃ pipe c, a.pipe? first = some pipe ∧ p.connectors[pipe.connector]? = some c ∧
      c.isInternal = true ∧ c.isConnected = true

/-- **Displays are numbered in the order of the classes.** -/
theorem displays_follow_order (p : Problem) (first : DisplayId) :
    (∀ c : Connector,
      c.rank = (if c.isConnected then 0 else 2) + (if c.isInternal then 0 else 1)) ∧
    OrderedByClass p.connectors (displayOrder p.connectors) ∧
    ∀ a, assign p first = .ok a → a.Numbered p first := by
  refine ⟨Connector.rank_eq, displayOrder_orderedByClass p.connectors, fun a h => ?_⟩
  obtain ⟨hroom, hdisplays, hnext⟩ := displays_of_assign h
  constructor
  case displays =>
      have hmap := congrArg (List.map fun d : DisplayId => d.val.toNat) hdisplays
      rwa [List.map_map, DisplayId.map_toNat_block hroom] at hmap
  case size =>
      have hlen := congrArg List.length hdisplays
      rwa [List.length_map, DisplayId.length_block] at hlen
  case next => rw [hnext, DisplayId.toNat_advance hroom]
  case driven =>
      intro k i hi
      obtain ⟨pipe, hpipe, rfl⟩ := pipe?_of_assign h hi
      have hk : k ≤ p.connectors.length := by
        have hlt := (List.getElem?_eq_some_iff.1 hi).1
        rw [length_displayOrder] at hlt
        omega
      exact ⟨_, pipe, DisplayId.toNat_advance (hroom.mono hk), hpipe, rfl,
        displayOf?_of_pipe? h hpipe⟩
  case lit =>
      intro hlit
      obtain ⟨i, c, hi, hc, hfront⟩ := exists_lit_at_front hlit
      obtain ⟨pipe, hpipe, rfl⟩ := pipe?_of_assign h hi
      rw [DisplayId.advance_zero] at hpipe
      exact ⟨pipe, c, hpipe, hc, hfront⟩

/-- A lit panel behind an external screen and a dark one. -/
def docked : Problem where
  connectors := [⟨40, 0, .displayPort, 1, .connected, none, [30, 31, 32], 0⟩,
    ⟨41, 1, .dsi, 1, .disconnected, none, [30, 31, 32], 0⟩,
    ⟨42, 2, .embeddedDisplayPort, 1, .connected, none, [30, 31, 32], 0⟩]
  encoders := [⟨30, 0, none, 7⟩, ⟨31, 1, none, 7⟩, ⟨32, 2, none, 7⟩]
  crtcs := [⟨20, 0, none, 0, 0⟩, ⟨21, 1, none, 0, 0⟩, ⟨22, 2, none, 0, 0⟩]

/-- The panel is numbered before the screen that is served first. -/
theorem docked_displays_follow_order :
    (displayOrder docked.connectors).idxOf 2 < (displayOrder docked.connectors).idxOf 0 ∧
    ∃ a, assign docked ⟨7⟩ = .ok a ∧ a.Numbered docked ⟨7⟩ := by
  have hgreedy : docked.greedy = .ok [(0, 0), (1, 1), (2, 2)] := rfl
  have h := assign_eq_ok_iff.2
    ⟨show (⟨7⟩ : DisplayId).HasRoom docked.connectors.length by decide, _, hgreedy, rfl⟩
  obtain ⟨-, horder, hnumbered⟩ := displays_follow_order docked ⟨7⟩
  have hclass : toLex (0, 2) < toLex (1, 0) := Prod.Lex.toLex_lt_toLex.2 (.inl (by decide))
  exact ⟨(horder.before_iff 2 0 _ _ rfl rfl).2 hclass, _, h, hnumbered _ h⟩

end Routing

end Scanout
