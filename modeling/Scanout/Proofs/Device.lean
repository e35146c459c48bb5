/-
**Initialized devices.**

A card becomes a device only when its connectors are routed, and the routing decides which displays
the device has: a block of ids that starts where the caller said.  Each of them leads to objects of
the device, so none is lost where displays are resolved, and every connector has one.

Main definitions:

* `Scanout.Device.NumberedFrom` — the displays of a device are a block of ids;
* `Scanout.Device.Complete` — every display of a device leads to objects of the device.

Main results:

* `Scanout.Device.gives_init_iff` — when a card becomes a device, and which one;
* `Scanout.Device.numberedFrom_of_gives_init` — **initialization numbers displays from the given id
  on**;
* `Scanout.Device.complete_of_gives_init` — **initialization leaves no display unresolved**;
* `Scanout.Device.map_display_pipelines`, `Scanout.Device.pipeline?_eq_some_iff` — the pipelines of a
  complete device are one for each display, and looking one up finds it;
* `Scanout.Device.map_connector_pipelines`, `Scanout.Device.nodup_map_encoder_pipelines`,
  `Scanout.Device.nodup_map_crtc_pipelines` — pipelines have every connector once and share nothing.
-/

import Scanout.Device
import Scanout.Proofs.Action
import Scanout.Proofs.Routing.Displays
import Scanout.Proofs.Routing.Validity

set_option relaxedAutoImplicit false
set_option autoImplicit false

namespace Scanout

namespace Device

variable {κ σ : Type}

/-- The displays of a device are a block of ids that starts at `first`, and the next id follows
them. -/
structure NumberedFrom (d : Device κ) (first : DisplayId) : Prop where
  room : first.HasRoom d.displayCount
  displays : d.displays = first.block d.displayCount
  nextDisplay : d.nextDisplay = first.advance d.displayCount

variable {K : Kernel κ σ} {card : κ} {first : DisplayId} {d : Device κ} {s s' : σ}

theorem state_announce (l : List Pipeline) (s : σ) :
    ((announce l : Action κ σ Unit).run s).state = s := by
  induction l with
  | nil => rfl
  | cons p l ih => exact ih

/-- A card becomes a device when its capabilities are granted, its objects can be listed and its
connectors routed.  The world only sees the first two of these. -/
theorem gives_init_iff : (init K card first).Gives s d s' ↔ d.card = card ∧
    ∃ t, (negotiate K card).Gives s d.capabilities t ∧ (enumerate K card).Gives t d.resources s' ∧
      Routing.assign d.resources.problem first = .ok d.assignment := by
  have hroute : ∀ (p : Routing.Problem) (a : Routing.Assignment) (u v : σ),
      (Routing.route p first : Attempt κ σ _ _).Gives u a v ↔
        Routing.assign p first = .ok a ∧ u = v := by
    intro p a u v
    rw [← mapError_eq_ok_iff (x := Routing.assign p first)]
    exact Iff.rfl
  simp only [init, Attempt.gives_bind_iff, Attempt.gives_pure_iff, Attempt.gives_lift_iff, hroute,
    state_announce]
  constructor
  · rintro ⟨capabilities, t, hnegotiate, resources, u, henumerate, a, _, ⟨hassign, rfl⟩, _, _,
      ⟨-, rfl⟩, rfl, rfl⟩
    exact ⟨rfl, t, hnegotiate, henumerate, hassign⟩
  · rintro ⟨rfl, t, hnegotiate, henumerate, hassign⟩
    exact ⟨_, t, hnegotiate, _, _, henumerate, _, _, ⟨hassign, rfl⟩, (), _, ⟨trivial, rfl⟩, rfl, rfl⟩

/-- An initialized device has the card it was made from and the routing of its objects. -/
theorem assign_of_gives_init (h : (init K card first).Gives s d s') :
    d.card = card ∧ Routing.assign d.resources.problem first = .ok d.assignment := by
  obtain ⟨hcard, t, -, -, hassign⟩ := gives_init_iff.1 h
  exact ⟨hcard, hassign⟩

/-- A routed device has a display for each connector. -/
theorem displayCount_of_assign (h : Routing.assign d.resources.problem first = .ok d.assignment) :
    d.displayCount = d.resources.connectors.length := by
  obtain ⟨-, hdisplays, -⟩ := Routing.displays_of_assign h
  have hlen := congrArg List.length hdisplays
  rwa [List.length_map, DisplayId.length_block] at hlen

/-- **Initialization numbers displays from the given id on**, one for each connector. -/
theorem numberedFrom_of_gives_init (h : (init K card first).Gives s d s') : d.NumberedFrom first := by
  obtain ⟨-, hassign⟩ := assign_of_gives_init h
  obtain ⟨hroom, hdisplays, hnext⟩ := Routing.displays_of_assign hassign
  have hcount : d.displayCount = d.resources.problem.connectors.length :=
    displayCount_of_assign hassign
  rw [← hcount] at hroom hdisplays hnext
  exact ⟨hroom, hdisplays, hnext⟩

/-! ### Displays and their pipelines -/

/-- Every display of the device leads to objects of the device. -/
def Complete (d : Device κ) : Prop :=
  ∀ g ∈ d.assignment.pipes, ∃ p, d.resolve? g.1 g.2 = some p

theorem resolve?_eq_some_iff {n : DisplayId} {pipe : Routing.Pipe} {p : Pipeline} :
    d.resolve? n pipe = some p ↔ p.display = n ∧
      d.resources.connectors[pipe.connector]? = some p.connector ∧
      d.resources.encoders[pipe.encoder]? = some p.encoder ∧
      d.resources.crtcs[pipe.crtc]? = some p.crtc := by
  simp only [resolve?, Routing.Problem.resolve?, Resources.problem, Option.map_eq_some_iff,
    Option.bind_eq_bind, Option.bind_eq_some_iff, Option.pure_def, Option.some.injEq]
  constructor
  · rintro ⟨_, ⟨c, hc, e, he, k, hk, rfl⟩, rfl⟩
    exact ⟨rfl, hc, he, hk⟩
  · rintro ⟨rfl, hc, he, hk⟩
    exact ⟨_, ⟨_, hc, _, he, _, hk, rfl⟩, rfl⟩

/-- Initialization leaves no display unresolved. -/
theorem complete_of_gives_init (h : (init K card first).Gives s d s') : d.Complete := by
  obtain ⟨-, hassign⟩ := assign_of_gives_init h
  intro g hg
  obtain ⟨c, e, k, hresolve, -⟩ := Routing.exists_resolve?_of_assign hassign hg
  exact ⟨⟨g.1, c, e, k⟩, by rw [resolve?, hresolve]; rfl⟩

theorem mem_pipelines {p : Pipeline} :
    p ∈ d.pipelines ↔ ∃ g ∈ d.assignment.pipes, d.resolve? g.1 g.2 = some p := List.mem_filterMap

theorem mem_resources_of_mem_pipelines {p : Pipeline} (hp : p ∈ d.pipelines) :
    p.connector ∈ d.resources.connectors ∧ p.encoder ∈ d.resources.encoders ∧
      p.crtc ∈ d.resources.crtcs := by
  obtain ⟨g, -, hresolve⟩ := mem_pipelines.1 hp
  obtain ⟨-, hconnector, hencoder, hcrtc⟩ := resolve?_eq_some_iff.1 hresolve
  exact ⟨List.mem_of_getElem? hconnector, List.mem_of_getElem? hencoder,
    List.mem_of_getElem? hcrtc⟩

theorem handles_iff {n : DisplayId} : d.handles n = true ↔ n ∈ d.displays := by
  simp [handles, Routing.Assignment.pipe?, displays]

/-- A display has the one pipeline that names it. -/
theorem pipeline?_eq_some_iff (hnodup : d.displays.Nodup) {n : DisplayId} {p : Pipeline} :
    d.pipeline? n = some p ↔ p ∈ d.pipelines ∧ p.display = n := by
  simp only [pipeline?, Routing.Assignment.pipe?, Option.bind_eq_some_iff, Option.map_eq_some_iff,
    mem_pipelines]
  constructor
  · rintro ⟨_, ⟨g, hg, rfl⟩, hresolve⟩
    obtain ⟨hmem, rfl⟩ := (Table.find?_key_eq_some_iff hnodup).1 hg
    exact ⟨⟨g, hmem, hresolve⟩, (resolve?_eq_some_iff.1 hresolve).1⟩
  · rintro ⟨⟨g, hg, hresolve⟩, rfl⟩
    have hdisplay := (resolve?_eq_some_iff.1 hresolve).1
    refine ⟨g.2, ⟨g, (Table.find?_key_eq_some_iff hnodup).2 ⟨hg, hdisplay.symm⟩, rfl⟩, ?_⟩
    rwa [hdisplay]

section Complete

variable (hd : d.Complete)

include hd

/-- Whatever is read off the pipelines of a complete device can be read off its pipes. -/
theorem map_pipelines {β : Type} (f : Pipeline → β) (g : Routing.Grant → Option β)
    (hfg : ∀ x p, d.resolve? x.1 x.2 = some p → g x = some (f p)) :
    d.pipelines.map f = d.assignment.pipes.filterMap g := by
  rw [pipelines, List.map_filterMap]
  refine List.filterMap_congr fun x hx => ?_
  obtain ⟨p, hp⟩ := hd x hx
  change (d.resolve? x.1 x.2).map f = g x
  rw [hp, hfg x p hp, Option.map_some]

theorem map_display_pipelines : d.pipelines.map (·.display) = d.displays := by
  rw [map_pipelines hd _ (fun x => some x.1) fun x p hp => by rw [(resolve?_eq_some_iff.1 hp).1],
    List.filterMap_eq_map']
  rfl

end Complete

/-! ### The objects of an initialized device -/

section Positions

variable {α β : Type} {l : List α}

/-- The items at all positions of a list are its items. -/
theorem filterMap_getElem?_range : (List.range l.length).filterMap (l[·]?) = l := by
  have hitem : ∀ x ∈ l.zipIdx, ((l[·]?) ∘ Prod.snd) x = some x.1 :=
    fun _ hx => List.mem_zipIdx_iff_getElem?.1 hx
  rw [List.range_eq_range', ← List.zipIdx_map_snd 0 l, List.filterMap_map,
    List.filterMap_congr hitem, List.filterMap_eq_map', List.zipIdx_map_fst]

/-- The items at different positions of a list without repeated keys have different keys. -/
theorem nodup_map_filterMap_getElem? {key : α → β} (hkeys : (l.map key).Nodup)
    {positions : List Nat} (hpositions : positions.Nodup) :
    ((positions.filterMap (l[·]?)).map key).Nodup := by
  rw [List.map_filterMap]
  refine hpositions.filterMap fun i j b hi hj => ?_
  rw [← List.getElem?_map] at hi hj
  obtain ⟨hilt, -⟩ := List.getElem?_eq_some_iff.1 hi
  exact (List.getElem?_inj hilt hkeys).1 (hi.trans hj.symm)

end Positions

/-- When pipelines take objects from different positions of a list without repeated keys, no key is in
two of them. -/
theorem nodup_map_pipelines (hd : d.Complete) {α β : Type} {objects : List α} {key : α → β}
    {object : Pipeline → α} {position : Routing.Pipe → Nat} (hkeys : (objects.map key).Nodup)
    (hpositions : (d.assignment.pipes.map fun x => position x.2).Nodup)
    (hobject : ∀ (x : Routing.Grant) p, d.resolve? x.1 x.2 = some p → objects[position x.2]? = some (object p)) :
    (d.pipelines.map (key <| object ·)).Nodup := by
  have hnodup := nodup_map_filterMap_getElem? hkeys hpositions
  rw [List.filterMap_map] at hnodup
  have hmap := map_pipelines hd object (fun x => objects[position x.2]?) hobject
  have hcomp : d.pipelines.map (key <| object ·) = (d.pipelines.map object).map key := by simp
  rw [hcomp, hmap]
  exact hnodup

section Objects

variable (h : (init K card first).Gives s d s')

include h

/-- Every connector of an initialized device is in exactly one pipeline. -/
theorem map_connector_pipelines :
    (d.pipelines.map (·.connector)).Perm d.resources.connectors := by
  obtain ⟨-, hassign⟩ := assign_of_gives_init h
  have hperm := (Routing.map_connector_of_assign hassign).filterMap (d.resources.connectors[·]?)
  rw [List.filterMap_map] at hperm
  rw [map_pipelines (complete_of_gives_init h) _ (fun x => d.resources.connectors[x.2.connector]?)
    fun x p hp => (resolve?_eq_some_iff.1 hp).2.1]
  exact hperm.trans (List.Perm.of_eq filterMap_getElem?_range)

/-- No encoder id is in two pipelines of an initialized device, unless the card repeats it. -/
theorem nodup_map_encoder_pipelines (hids : (d.resources.encoders.map (·.id)).Nodup) :
    (d.pipelines.map (·.encoder.id)).Nodup :=
  nodup_map_pipelines (complete_of_gives_init h) hids
    (Routing.nodup_encoder_of_assign (assign_of_gives_init h).2)
    fun _ _ hp => (resolve?_eq_some_iff.1 hp).2.2.1

/-- No CRTC id is in two pipelines of an initialized device, unless the card repeats it. -/
theorem nodup_map_crtc_pipelines (hids : (d.resources.crtcs.map (·.id)).Nodup) :
    (d.pipelines.map (·.crtc.id)).Nodup :=
  nodup_map_pipelines (complete_of_gives_init h) hids
    (Routing.nodup_crtc_of_assign (assign_of_gives_init h).2)
    fun _ _ hp => (resolve?_eq_some_iff.1 hp).2.2.2

/-- The objects of a pipeline of an initialized device fit each other. -/
theorem fits_of_mem_pipelines {p : Pipeline} (hp : p ∈ d.pipelines) :
    (p.encoder.id ∈ p.connector.encoders ∨ p.connector.currentEncoder = some p.encoder.id) ∧
      (p.encoder.supports p.crtc = true ∨ p.encoder.currentCrtc = some p.crtc.id) := by
  obtain ⟨-, hassign⟩ := assign_of_gives_init h
  obtain ⟨g, hg, hresolve⟩ := mem_pipelines.1 hp
  obtain ⟨c, e, k, hobjects, hfits⟩ := Routing.exists_resolve?_of_assign hassign hg
  rw [resolve?, hobjects] at hresolve
  cases hresolve
  exact hfits

end Objects

end Device

end Scanout
