/-
**When a routing cannot fail, and when it must.**

Routing never takes back a choice, so a connector may find everything that fits it taken.  Connectors that
were served before it took one encoder and one CRTC each.  Hence a connector that has more encoders to
choose from than connectors before it, each of them with more CRTCs than that, is always served, even
when links that the kernel had set up led earlier connectors to encoders and CRTCs that no list or mask
mentions.  In the other direction no choice helps when objects are outnumbered.

Main definitions:

* `Scanout.Routing.Problem.Ample` — every connector has more to choose from than can be taken before;
* `Scanout.Routing.Problem.Crowded` — there are more connectors than encoders or than CRTCs.

Main results:

* `Scanout.Routing.exists_getElem?_not_mem` — some position with a property is left when fewer positions
  were taken;
* `Scanout.Routing.Problem.exists_isFree_of_ample` — an ample problem has a free link for each connector
  when its turn comes;
* `Scanout.Routing.Problem.length_le_of_greedy` — a walk needs an encoder and a CRTC for each connector;
* `Scanout.Routing.assign_within_capacity` — **a run succeeds on an ample problem and fails on a crowded
  one**.
-/

import Mathlib.Data.List.Perm.Subperm
import Scanout.Proofs.Routing.Stability

set_option relaxedAutoImplicit false
set_option autoImplicit false

namespace Scanout

namespace Routing

/-! ### Positions that are left -/

/-- Some position with a property is left when fewer positions were taken. -/
theorem exists_getElem?_not_mem {α : Type} {l : List α} {q : α → Bool} {taken : List Nat}
    (h : taken.length < l.countP q) : ∃ i a, l[i]? = some a ∧ q a = true ∧ i ∉ taken := by
  by_contra hnone
  have hsub : (l.zipIdx.filter fun x => q x.1).map (·.2) ⊆ taken := by
    intro i hi
    obtain ⟨⟨a, j⟩, hmem, rfl⟩ := List.mem_map.1 hi
    obtain ⟨hzip, hq⟩ := List.mem_filter.1 hmem
    by_contra hj
    exact hnone ⟨j, a, List.mem_zipIdx_iff_getElem?.1 hzip, hq, hj⟩
  have hnodup : ((l.zipIdx.filter fun x => q x.1).map (·.2)).Nodup := by
    refine List.Nodup.sublist (List.filter_sublist.map _) ?_
    rw [List.zipIdx_map_snd]
    exact List.nodup_range'
  have hcount : (l.zipIdx.filter fun x => q x.1).length = l.countP q := by
    rw [← List.countP_eq_length_filter]
    conv_rhs => rw [← List.zipIdx_map_fst 0 l, List.countP_map]
    rfl
  have hlen := (List.subperm_of_subset hnodup hsub).length_le
  rw [List.length_map, hcount] at hlen
  omega

/-! ### Ample and crowded problems -/

namespace Problem

/-- Every connector lists more encoders than there are connectors before it, and each of these has more
CRTCs in its mask.  What connectors and encoders are connected to does not matter. -/
structure Ample (p : Problem) : Prop where
  encoders : ∀ i c, p.connectors[i]? = some c → i + 1 ≤ p.encoders.countP c.supports
  crtcs : ∀ i c, p.connectors[i]? = some c → ∀ e ∈ p.encoders, c.supports e = true →
    i + 1 ≤ p.crtcs.countP e.supports

/-- There are more connectors than encoders or than CRTCs. -/
def Crowded (p : Problem) : Prop :=
  p.encoders.length < p.connectors.length ∨ p.crtcs.length < p.connectors.length

variable {p : Problem}

theorem mem_encoderCandidates {c : Connector} {i : Nat} {e : Encoder}
    (he : p.encoders[i]? = some e) (hlisted : c.supports e = true) :
    i ∈ p.encoderCandidates c := by
  by_cases hcurrent : c.currentEncoder.bind p.encoderAt? = some i
  · simp [encoderCandidates, hcurrent]
  · refine List.mem_append.2 (.inr (List.mem_map.2 ⟨(e, i), ?_, rfl⟩))
    have hother : (some i != c.currentEncoder.bind p.encoderAt?) = true := by
      simpa using fun h => hcurrent h.symm
    exact List.mem_filter.2 ⟨List.mem_zipIdx_iff_getElem?.2 he, by simp [hother, hlisted]⟩

/-- A CRTC with the id that an encoder is connected to is left out of the scan of the mask, but then it is
the current one, as no other CRTC has its id. -/
theorem mem_crtcCandidates (hids : (p.crtcs.map (·.id)).Nodup) {e : Encoder} {j : Nat} {k : Crtc}
    (hk : p.crtcs[j]? = some k) (hmask : e.supports k = true) : j ∈ p.crtcCandidates e := by
  by_cases hcurrent : e.currentCrtc = some k.id
  · have hfirst : p.crtcAt? k.id = some j := findIdx?_key_eq_some hids hk
    simp [crtcCandidates, hcurrent, hfirst]
  · refine List.mem_append.2 (.inr (List.mem_map.2 ⟨(k, j), ?_, rfl⟩))
    have hother : (some k.id != e.currentCrtc) = true := by
      simpa using fun h => hcurrent h.symm
    exact List.mem_filter.2 ⟨List.mem_zipIdx_iff_getElem?.2 hk, by simp [hother, hmask]⟩

/-- An ample problem has a free link for each connector when its turn comes. -/
theorem exists_isFree_of_ample (hids : (p.crtcs.map (·.id)).Nodup) (h : p.Ample)
    {taken : List Link} {c : Connector} (hc : p.connectors[taken.length]? = some c) :
    ∃ x ∈ p.candidates c, isFree taken x = true := by
  have hencoders : (taken.map (·.1)).length < p.encoders.countP c.supports := by
    rw [List.length_map]
    exact h.encoders _ c hc
  obtain ⟨i, e, he, hlisted, hi⟩ := exists_getElem?_not_mem hencoders
  have hcrtcs : (taken.map (·.2)).length < p.crtcs.countP e.supports := by
    rw [List.length_map]
    exact h.crtcs _ c hc e (List.mem_of_getElem? he) hlisted
  obtain ⟨j, k, hk, hmask, hj⟩ := exists_getElem?_not_mem hcrtcs
  refine ⟨(i, j), List.mem_flatMap.2 ⟨i, mem_encoderCandidates he hlisted, ?_⟩, ?_⟩
  · rw [linksThrough, he]
    exact List.mem_map.2 ⟨j, mem_crtcCandidates hids hk hmask, rfl⟩
  · simp only [isFree, Bool.and_eq_true, Bool.not_eq_true', List.contains_eq_mem,
      decide_eq_false_iff_not]
    exact ⟨hi, hj⟩

/-- A walk that finds a free link at every turn reaches the end. -/
theorem exists_walk_eq_ok (hfree : ∀ taken c, p.connectors[taken.length]? = some c →
    ∃ x ∈ p.candidates c, isFree taken x = true) {rest : List Connector} :
    ∀ taken : List Link, p.connectors.drop taken.length = rest →
      ∃ links, p.walk rest taken = .ok links := by
  induction rest with
  | nil => exact fun taken _ => ⟨taken, rfl⟩
  | cons c rest ih =>
      intro taken hrest
      have hc : p.connectors[taken.length]? = some c := by
        rw [← List.head?_drop, hrest]
        rfl
      obtain ⟨x, hx, hxfree⟩ := hfree taken c hc
      have hchoice : (p.choice? taken c).isSome := List.find?_isSome.2 ⟨x, hx, hxfree⟩
      obtain ⟨y, hy⟩ := Option.isSome_iff_exists.1 hchoice
      have hnext : p.connectors.drop (taken ++ [y]).length = rest := by
        rw [List.length_append, List.length_singleton, ← List.tail_drop, hrest, List.tail_cons]
      obtain ⟨links, hlinks⟩ := ih (taken ++ [y]) hnext
      refine ⟨links, ?_⟩
      rw [walk, hy]
      exact hlinks

/-- A walk needs an encoder and a CRTC for each connector. -/
theorem length_le_of_greedy {links : List Link} (h : p.greedy = .ok links) :
    p.connectors.length ≤ p.encoders.length ∧ p.connectors.length ≤ p.crtcs.length := by
  obtain ⟨hlen, -⟩ := greedy_eq_ok_iff.1 h
  have hapart := apart_of_walk apart_nil h
  have hobjects : ∀ x ∈ links, x.1 < p.encoders.length ∧ x.2 < p.crtcs.length := by
    intro x hx
    obtain ⟨i, hi⟩ := List.mem_iff_getElem?.1 hx
    obtain ⟨c, -, hmem⟩ := mem_candidates_of_greedy h hi
    obtain ⟨e, k, he, hk, -⟩ := exists_of_mem_candidates hmem
    exact ⟨(List.getElem?_eq_some_iff.1 he).1, (List.getElem?_eq_some_iff.1 hk).1⟩
  -- different positions below a bound are no more than the bound
  have hbound : ∀ {n : Nat} (f : Link → Nat), (links.map f).Nodup → (∀ x ∈ links, f x < n) →
      p.connectors.length ≤ n := by
    intro n f hnodup hlt
    have hsub : links.map f ⊆ List.range n := by
      intro m hm
      obtain ⟨x, hx, rfl⟩ := List.mem_map.1 hm
      exact List.mem_range.2 (hlt x hx)
    have hle := (List.subperm_of_subset hnodup hsub).length_le
    simpa [hlen] using hle
  exact ⟨hbound _ hapart.encoders fun x hx => (hobjects x hx).1,
    hbound _ hapart.crtcs fun x hx => (hobjects x hx).2⟩

end Problem

/-! ### The law -/

/-- **A run succeeds on an ample problem and fails on a crowded one**, at a connector that is left
without a link. -/
theorem assign_within_capacity (p : Problem) (first : DisplayId)
    (hroom : first.HasRoom p.connectors.length) :
    ((p.crtcs.map (·.id)).Nodup → p.Ample → ∃ a, assign p first = .ok a) ∧
    (p.Crowded → ∃ c ∈ p.connectors, ∃ d, assign p first = .error (.noSuitableEncoder c.id d)) := by
  constructor
  · intro hids hample
    obtain ⟨links, hlinks⟩ :=
      Problem.exists_walk_eq_ok (fun _ _ => Problem.exists_isFree_of_ample hids hample) [] rfl
    exact ⟨_, assign_eq_ok_iff.2 ⟨hroom, links, hlinks, rfl⟩⟩
  · intro hcrowded
    have hassign := assign_eq p first
    rw [if_pos hroom] at hassign
    cases hgreedy : p.greedy with
    | ok links =>
        obtain ⟨hencoders, hcrtcs⟩ := Problem.length_le_of_greedy hgreedy
        unfold Problem.Crowded at hcrowded
        omega
    | error failure =>
        rw [hgreedy] at hassign
        exact ⟨failure.1, List.mem_of_getElem? (Problem.greedy_eq_error hgreedy), _, hassign⟩

/-- Two screens that list the same two encoders.  The first is connected to a third encoder, and that one
to a CRTC outside its mask; the second is connected to the first encoder, which is connected to nothing
that is listed. -/
def misled : Problem where
  connectors := [⟨40, 0, .displayPort, 1, .connected, some 32, [30, 31], 0⟩,
    ⟨41, 1, .displayPort, 2, .connected, some 30, [30, 31], 0⟩]
  encoders := [⟨30, 0, some 29, 3⟩, ⟨31, 1, some 20, 3⟩, ⟨32, 2, some 20, 2⟩]
  crtcs := [⟨20, 0, none, 0, 0⟩, ⟨21, 1, none, 0, 0⟩]

/-- The same with a third screen. -/
def overcrowded : Problem :=
  { misled with connectors := misled.connectors ++ [⟨42, 2, .hdmiA, 1, .connected, none, [32], 0⟩] }

/-- The two screens are served, whatever they are connected to; with the third there are too few
CRTCs. -/
theorem misled_within_capacity :
    (DisplayId.zero.HasRoom misled.connectors.length ∧ (misled.crtcs.map (·.id)).Nodup ∧
      misled.Ample ∧ ∃ a, assign misled .zero = .ok a) ∧
    DisplayId.zero.HasRoom overcrowded.connectors.length ∧ overcrowded.Crowded ∧
      ∃ c ∈ overcrowded.connectors, ∃ d,
        assign overcrowded .zero = .error (.noSuitableEncoder c.id d) := by
  have hroom : DisplayId.zero.HasRoom misled.connectors.length := by decide
  have hids : (misled.crtcs.map (·.id)).Nodup := by decide
  have hample : misled.Ample := by
    constructor
    case encoders =>
        intro i c hc
        match i with
        | 0 => cases hc; decide
        | 1 => cases hc; decide
        | _ + 2 => cases hc
    case crtcs =>
        intro i c hc e he hlisted
        have hmask : ∀ e ∈ misled.encoders.take 2, misled.crtcs.countP e.supports = 2 := by decide
        have hfirst : ∀ c ∈ misled.connectors, ∀ e ∈ misled.encoders, c.supports e = true →
            e ∈ misled.encoders.take 2 := by decide
        have hi : i < 2 := (List.getElem?_eq_some_iff.1 hc).1
        rw [hmask e (hfirst c (List.mem_of_getElem? hc) e he hlisted)]
        omega
  have hroom' : DisplayId.zero.HasRoom overcrowded.connectors.length := by decide
  have hcrowded : overcrowded.Crowded := .inr (by decide)
  exact ⟨⟨hroom, hids, hample, (assign_within_capacity misled .zero hroom).1 hids hample⟩,
    hroom', hcrowded, (assign_within_capacity overcrowded .zero hroom').2 hcrowded⟩

end Routing

end Scanout
