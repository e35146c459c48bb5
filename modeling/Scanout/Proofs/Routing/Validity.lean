/-
**Routings are valid.**

A routing that a run returns drives every connector exactly once, through an encoder and a CRTC that
nothing else uses.  Each pipe is one that the hardware can drive or that the kernel had set up before,
whatever ids occur twice or lead nowhere.

Main definitions:

* `Scanout.Routing.Assignment.Valid` — a routing is valid for a problem.

Main results:

* `Scanout.Routing.assign_valid` — **what a run returns is valid**.
-/

import Scanout.Proofs.Routing.Greedy

set_option relaxedAutoImplicit false
set_option autoImplicit false

namespace Scanout

namespace Routing

/-- A routing drives every connector of a problem, and never uses an object twice. -/
structure Assignment.Valid (p : Problem) (a : Assignment) : Prop where
  /-- Every connector position is in exactly one pipe, and no other position is in any. -/
  connectors : (a.pipes.map (·.2.connector)).Perm (List.range p.connectors.length)
  /-- No display has two pipes. -/
  displays : (a.pipes.map (·.1)).Nodup
  /-- No encoder is in two pipes. -/
  encoders : (a.pipes.map (·.2.encoder)).Nodup
  /-- No CRTC is in two pipes. -/
  crtcs : (a.pipes.map (·.2.crtc)).Nodup
  /-- The positions of a pipe are those of objects that fit: the connector lists the encoder or is
  connected to it, and the encoder has the CRTC in its mask or is connected to it. -/
  fits : ∀ g ∈ a.pipes, ∃ c e k, p.resolve? g.2 = some (c, e, k) ∧
    (e.id ∈ c.encoders ∨ c.currentEncoder = some e.id) ∧
    (e.supports k = true ∨ e.currentCrtc = some k.id)
  /-- A connector has the display whose pipe leads to it. -/
  displayOf?_eq_some_iff : ∀ (i : Nat) (d : DisplayId),
    a.displayOf? i = some d ↔ ∃ pipe, a.pipe? d = some pipe ∧ pipe.connector = i

variable {p : Problem} {first : DisplayId} {links : List Link}

/-- Each link of a walk is a candidate of the connector it was given to. -/
theorem Problem.mem_candidates_of_greedy (h : p.greedy = .ok links) {i : Nat} {x : Link}
    (hx : links[i]? = some x) : ∃ c, p.connectors[i]? = some c ∧ x ∈ p.candidates c := by
  obtain ⟨hlen, hchoice⟩ := greedy_eq_ok_iff.1 h
  have hi : i < p.connectors.length := hlen ▸ (List.getElem?_eq_some_iff.1 hx).1
  have hc : p.connectors[i]? = some p.connectors[i] := List.getElem?_eq_getElem hi
  rw [hchoice i _ hc] at hx
  exact ⟨_, hc, (choice?_eq_some hx).1⟩

theorem exists_resolve?_of_mem_grants (h : p.greedy = .ok links) {g : Grant}
    (hg : g ∈ grants p.connectors first links) : ∃ c e k, p.resolve? g.2 = some (c, e, k) ∧
      (e.id ∈ c.encoders ∨ c.currentEncoder = some e.id) ∧
      (e.supports k = true ∨ e.currentCrtc = some k.id) := by
  obtain ⟨-, hx⟩ := mem_grants.1 hg
  obtain ⟨c, hc, hmem⟩ := Problem.mem_candidates_of_greedy h hx
  obtain ⟨e, k, he, hk, hfeeds, hdrives⟩ := exists_of_mem_candidates hmem
  refine ⟨c, e, k, ?_, hfeeds, hdrives⟩
  simp only [Problem.resolve?, hc, he, hk, Option.bind_eq_bind, Option.bind_some]
  rfl

/-! ### The positions in the pipes of a run -/

section Positions

variable {a : Assignment} (h : assign p first = .ok a)

include h

/-- Every connector position is in exactly one pipe. -/
theorem map_connector_of_assign :
    (a.pipes.map (·.2.connector)).Perm (List.range p.connectors.length) := by
  obtain ⟨links, -, hlen, -, rfl⟩ := exists_grants_of_assign h
  refine ((inDisplayOrder_perm _).map _).trans (List.Perm.of_eq ?_)
  rw [map_connector_grants, hlen]

theorem nodup_encoder_of_assign : (a.pipes.map (·.2.encoder)).Nodup := by
  obtain ⟨links, -, -, hexclusive, rfl⟩ := exists_grants_of_assign h
  exact ((inDisplayOrder_perm _).map _).nodup_iff.2 hexclusive.encoders

theorem nodup_crtc_of_assign : (a.pipes.map (·.2.crtc)).Nodup := by
  obtain ⟨links, -, -, hexclusive, rfl⟩ := exists_grants_of_assign h
  exact ((inDisplayOrder_perm _).map _).nodup_iff.2 hexclusive.crtcs

/-- The positions of a pipe are those of objects that fit. -/
theorem exists_resolve?_of_assign {g : Grant} (hg : g ∈ a.pipes) :
    ∃ c e k, p.resolve? g.2 = some (c, e, k) ∧
      (e.id ∈ c.encoders ∨ c.currentEncoder = some e.id) ∧
      (e.supports k = true ∨ e.currentCrtc = some k.id) := by
  obtain ⟨links, hgreedy, -, -, rfl⟩ := exists_grants_of_assign h
  exact exists_resolve?_of_mem_grants hgreedy ((inDisplayOrder_perm _).mem_iff.1 hg)

end Positions

/-! ### Validity -/

/-- **What a run returns is valid.** -/
theorem assign_valid {a : Assignment} (h : assign p first = .ok a) : a.Valid p := by
  obtain ⟨hroom, links, hgreedy, rfl⟩ := assign_eq_ok_iff.1 h
  obtain ⟨hlen, -⟩ := Problem.greedy_eq_ok_iff.1 hgreedy
  have hexclusive : Exclusive (grants p.connectors first links) :=
    exclusive_grants hroom (Problem.apart_of_walk apart_nil hgreedy) (by omega)
  have hconnectors : (grants p.connectors first links).map (·.2.connector) =
      List.range p.connectors.length := by rw [map_connector_grants, hlen]
  have hperm := inDisplayOrder_perm (grants p.connectors first links)
  constructor
  case connectors => exact (hperm.map _).trans (List.Perm.of_eq hconnectors)
  case displays => exact (hperm.map _).nodup_iff.2 hexclusive.displays
  case encoders => exact (hperm.map _).nodup_iff.2 hexclusive.encoders
  case crtcs => exact (hperm.map _).nodup_iff.2 hexclusive.crtcs
  case fits =>
      intro g hg
      exact exists_resolve?_of_mem_grants hgreedy (hperm.mem_iff.1 hg)
  case displayOf?_eq_some_iff =>
      intro i d
      have hnodup : ((grants p.connectors first links).map (·.2.connector)).Nodup :=
        hconnectors ▸ List.nodup_range
      rw [Assignment.displayOf?_ofGrants hnodup]
      simp only [Assignment.pipe?_ofGrants hexclusive.displays]

/-- The routing of two screens that contend for a CRTC. -/
theorem contended_valid : ∃ a, assign contended .zero = .ok a ∧ a.Valid contended := by
  have hgreedy : contended.greedy = .ok [(0, 0), (2, 1)] := rfl
  have h := assign_eq_ok_iff.2 ⟨show DisplayId.zero.HasRoom contended.connectors.length by decide,
    _, hgreedy, rfl⟩
  exact ⟨_, h, assign_valid h⟩

end Routing

end Scanout
