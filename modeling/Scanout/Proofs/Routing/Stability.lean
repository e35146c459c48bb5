/-
**Routing again changes nothing.**

Once a routing has been applied, the kernel reports every connector on the encoder it was given and
every such encoder on its CRTC.  A run on that state prefers exactly these links, and since no two of
them share an object none is ever taken when its turn comes.  What unused encoders are still connected
to makes no difference.

Main definitions:

* `Scanout.Routing.Applied` — a problem is another one after a routing was applied.

Main results:

* `Scanout.Routing.candidates_eq_cons` — a link that is set up is the first candidate;
* `Scanout.Routing.greedy_of_applied` — the walk on an applied state makes the same choices;
* `Scanout.Routing.assign_of_applied` — **routing again gives the same routing**.
-/

import Scanout.Proofs.Routing.Validity

set_option relaxedAutoImplicit false
set_option autoImplicit false

namespace Scanout

namespace Routing

/-- `p'` is what `p` looks like after `a` was applied.  The current CRTCs of encoders that `a` does not
use are left open. -/
structure Applied (p : Problem) (a : Assignment) (p' : Problem) : Prop where
  /-- Connectors differ at most in their current encoders. -/
  connectors : p'.connectors.map (fun c => { c with currentEncoder := none }) =
    p.connectors.map fun c => { c with currentEncoder := none }
  /-- Encoders differ at most in their current CRTCs. -/
  encoders : p'.encoders.map (fun e => { e with currentCrtc := none }) =
    p.encoders.map fun e => { e with currentCrtc := none }
  crtcs : p'.crtcs = p.crtcs
  /-- Each connector is connected to the encoder it was given, and that one to its CRTC. -/
  connected : ∀ d pipe c e k, a.pipe? d = some pipe → p'.resolve? pipe = some (c, e, k) →
    c.currentEncoder = some e.id ∧ e.currentCrtc = some k.id

/-! ### Finding objects by their ids -/

variable {p p' : Problem}

/-- When no two items share a key, the first item with the key of an item is that item. -/
theorem findIdx?_key_eq_some {α : Type} {key : α → ObjectId} {l : List α}
    (hkeys : (l.map key).Nodup) {i : Nat} {a : α} (ha : l[i]? = some a) :
    l.findIdx? (fun b => key b = key a) = some i := by
  obtain ⟨hi, rfl⟩ := List.getElem?_eq_some_iff.1 ha
  refine List.findIdx?_eq_some_iff_getElem.2 ⟨hi, by simp, fun j hji => ?_⟩
  have hne : key l[j] ≠ key l[i] :=
    List.pairwise_iff_getElem.1 (List.pairwise_map.1 hkeys) j i (by omega) hi hji
  simpa using hne

/-- A link that is set up is the first candidate. -/
theorem candidates_eq_cons (hencoders : (p.encoders.map (·.id)).Nodup)
    (hcrtcs : (p.crtcs.map (·.id)).Nodup) {c : Connector} {e : Encoder} {k : Crtc} {x : Link}
    (he : p.encoders[x.1]? = some e) (hk : p.crtcs[x.2]? = some k)
    (hc : c.currentEncoder = some e.id) (hec : e.currentCrtc = some k.id) :
    ∃ others, p.candidates c = x :: others := by
  have hencoder : p.encoderAt? e.id = some x.1 := findIdx?_key_eq_some hencoders he
  have hcrtc : p.crtcAt? k.id = some x.2 := findIdx?_key_eq_some hcrtcs hk
  simp only [Problem.candidates, Problem.encoderCandidates, hc, Option.bind_some, hencoder,
    Option.toList_some, List.cons_append, List.flatMap_cons, Problem.linksThrough, he,
    Problem.crtcCandidates, hec, hcrtc, List.map_cons]
  exact ⟨_, rfl⟩

/-! ### What an applied routing leaves alone -/

namespace Applied

variable {a : Assignment} (h : Applied p a p')

include h

theorem length_connectors : p'.connectors.length = p.connectors.length := by
  have hlen := congrArg List.length h.connectors
  simpa using hlen

theorem map_rank : p'.connectors.map Connector.rank = p.connectors.map Connector.rank := by
  have hrank := congrArg (List.map Connector.rank) h.connectors
  rw [List.map_map, List.map_map] at hrank
  exact hrank

theorem map_encoder_id : p'.encoders.map (·.id) = p.encoders.map (·.id) := by
  have hid := congrArg (List.map fun e : Encoder => e.id) h.encoders
  rw [List.map_map, List.map_map] at hid
  exact hid

/-- Where there was an encoder there still is one. -/
theorem exists_encoder {i : Nat} {e : Encoder} (he : p.encoders[i]? = some e) :
    ∃ e', p'.encoders[i]? = some e' := by
  have hlen := congrArg List.length h.map_encoder_id
  rw [List.length_map, List.length_map] at hlen
  have hlt := (List.getElem?_eq_some_iff.1 he).1
  exact ⟨_, List.getElem?_eq_getElem (hlen ▸ hlt)⟩

end Applied

/-! ### Routing again -/

/-- A walk on the applied state makes the same choices, because each old link is the first candidate
and is free. -/
theorem greedy_of_applied {first : DisplayId} {links : List Link}
    (hencoders : (p.encoders.map (·.id)).Nodup) (hcrtcs : (p.crtcs.map (·.id)).Nodup)
    (hroom : first.HasRoom p.connectors.length) (hgreedy : p.greedy = .ok links)
    (happlied : Applied p (.ofGrants (grants p.connectors first links)
      (first.advance p.connectors.length)) p') : p'.greedy = .ok links := by
  obtain ⟨hlen, -⟩ := Problem.greedy_eq_ok_iff.1 hgreedy
  have hapart : Apart links := Problem.apart_of_walk apart_nil hgreedy
  have hexclusive := exclusive_grants hroom hapart (by omega)
  have hlen' := happlied.length_connectors
  have hencoders' : (p'.encoders.map (·.id)).Nodup := happlied.map_encoder_id ▸ hencoders
  have hcrtcs' : (p'.crtcs.map (·.id)).Nodup := happlied.crtcs ▸ hcrtcs
  refine Problem.greedy_eq_ok_iff.2 ⟨hlen.trans hlen'.symm, ?_⟩
  intro i c hc
  have hi : i < links.length := by
    have hlt := (List.getElem?_eq_some_iff.1 hc).1
    omega
  have hx : links[i]? = some links[i] := List.getElem?_eq_getElem hi
  -- the objects of the old link, as the applied state has them
  obtain ⟨c₀, -, hmem⟩ := Problem.mem_candidates_of_greedy hgreedy hx
  obtain ⟨e₀, k, he₀, hk, -, -⟩ := exists_of_mem_candidates hmem
  obtain ⟨e, he⟩ := happlied.exists_encoder he₀
  rw [← happlied.crtcs] at hk
  have hpipe : (Assignment.ofGrants (grants p.connectors first links)
      (first.advance p.connectors.length)).pipe? (plannedDisplay p.connectors first i) =
        some ⟨i, links[i].1, links[i].2⟩ :=
    (Assignment.pipe?_ofGrants hexclusive.displays).2 (mem_grants.2 ⟨rfl, hx⟩)
  have hresolve : p'.resolve? ⟨i, links[i].1, links[i].2⟩ = some (c, e, k) := by
    simp only [Problem.resolve?, hc, he, hk, Option.bind_eq_bind, Option.bind_some]
    rfl
  obtain ⟨hce, hek⟩ := happlied.connected _ _ _ _ _ hpipe hresolve
  obtain ⟨others, hcandidates⟩ := candidates_eq_cons hencoders' hcrtcs' he hk hce hek
  rw [hx, Problem.choice?, hcandidates, List.find?_cons_of_pos (hapart.isFree_take hx)]

/-- **Routing again gives the same routing.** -/
theorem assign_of_applied {first : DisplayId} {a : Assignment}
    (hencoders : (p.encoders.map (·.id)).Nodup) (hcrtcs : (p.crtcs.map (·.id)).Nodup)
    (h : assign p first = .ok a) (happlied : Applied p a p') : assign p' first = .ok a := by
  obtain ⟨hroom, links, hgreedy, rfl⟩ := assign_eq_ok_iff.1 h
  have hgreedy' := greedy_of_applied hencoders hcrtcs hroom hgreedy happlied
  have hlen := happlied.length_connectors
  refine assign_eq_ok_iff.2 ⟨hlen.symm ▸ hroom, links, hgreedy', ?_⟩
  simp only [grants, plannedDisplay_congr happlied.map_rank first, hlen]

/-- The two contending screens after their routing was applied.  Encoder 31, which is not used, is still
connected to a CRTC that was handed out. -/
def contendedApplied : Problem where
  connectors := [⟨40, 0, .embeddedDisplayPort, 1, .connected, some 30, [30], 0⟩,
    ⟨41, 1, .displayPort, 1, .connected, some 32, [31, 32], 0⟩]
  encoders := [⟨30, 0, some 20, 1⟩, ⟨31, 1, some 20, 1⟩, ⟨32, 2, some 21, 2⟩]
  crtcs := contended.crtcs

/-- The routing of the contending screens is found again. -/
theorem contended_assign_of_applied : ∃ a, (contended.encoders.map (·.id)).Nodup ∧
    (contended.crtcs.map (·.id)).Nodup ∧ assign contended .zero = .ok a ∧
    Applied contended a contendedApplied ∧ assign contendedApplied .zero = .ok a := by
  have hencoders : (contended.encoders.map (·.id)).Nodup := by decide
  have hcrtcs : (contended.crtcs.map (·.id)).Nodup := by decide
  have hroom : DisplayId.zero.HasRoom contended.connectors.length := by decide
  have hgreedy : contended.greedy = .ok [(0, 0), (2, 1)] := rfl
  have h := assign_eq_ok_iff.2 ⟨hroom, _, hgreedy, rfl⟩
  have hexclusive : Exclusive (grants contended.connectors .zero [(0, 0), (2, 1)]) :=
    exclusive_grants hroom (Problem.apart_of_walk apart_nil hgreedy) (by decide)
  have happlied : Applied contended (.ofGrants (grants contended.connectors .zero [(0, 0), (2, 1)])
      (DisplayId.zero.advance contended.connectors.length)) contendedApplied := by
    refine ⟨rfl, rfl, rfl, fun d pipe c e k hpipe hresolve => ?_⟩
    have hmem := (Assignment.pipe?_ofGrants hexclusive.displays).1 hpipe
    simp only [grants, List.zipIdx_cons, List.zipIdx_nil, List.map_cons, List.map_nil,
      List.mem_cons, List.not_mem_nil, or_false, Prod.mk.injEq] at hmem
    rcases hmem with ⟨-, rfl⟩ | ⟨-, rfl⟩
    · cases hresolve
      exact ⟨rfl, rfl⟩
    · cases hresolve
      exact ⟨rfl, rfl⟩
  exact ⟨_, hencoders, hcrtcs, h, happlied, assign_of_applied hencoders hcrtcs h happlied⟩

end Routing

end Scanout
