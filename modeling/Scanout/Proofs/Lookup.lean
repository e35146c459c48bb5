/-
**Looking up displays and connectors.**

A device is asked about its displays by their ids and about its connectors by the ids that the kernel gave
them.  The two kinds of questions take different ways: a display leads to the positions of its objects, and
a kernel id leads to the first position in a list where it stands, and from there to a display.  On an
initialized device they agree.  All questions about a display are answered for the same ids, and the two
ways undo each other, unless two connectors share an id.

Main definitions:

* `Scanout.DisplayId.Among` — an id is one of so many from a first one on;
* `Scanout.Device.LooksUp` — how the lookups of a device answer.

Main results:

* `Scanout.Device.isSome_pipeline?` — a display that is handled leads to a pipeline, and no other does;
* `Scanout.Device.connector?_eq_some_iff`, `Scanout.Device.displayForConnector?_eq_some_iff` — the two ways
  in terms of positions;
* `Scanout.Device.looksUp_of_gives_init` — **the lookups of an initialized device agree**.
-/

import Scanout.Proofs.Degradation
import Scanout.Proofs.Routing.Stability

set_option relaxedAutoImplicit false
set_option autoImplicit false

namespace Scanout

/-- One of the `k` ids from `first` on. -/
def DisplayId.Among (n first : DisplayId) (k : Nat) : Prop :=
  first.val.toNat ≤ n.val.toNat ∧ n.val.toNat < first.val.toNat + k

theorem DisplayId.mem_block_iff_among {n first : DisplayId} {k : Nat} (hroom : first.HasRoom k) :
    n ∈ first.block k ↔ n.Among first k := by
  rw [mem_block hroom, le_iff_toNat, lt_iff_toNat, toNat_advance hroom]
  exact Iff.rfl

namespace Device

variable {κ σ : Type} {K : Kernel κ σ} {card : κ} {first n : DisplayId} {d : Device κ} {s s' : σ}

/-- How the lookups of a device answer that drives the displays from `first` on. -/
structure LooksUp (d : Device κ) (first : DisplayId) : Prop where
  displayCount : d.displayCount = d.resources.connectors.length
  nextDisplay : d.nextDisplay.val.toNat = first.val.toNat + d.displayCount
  /-- The device handles as many displays as it has connectors, and their ids are consecutive. -/
  handles : ∀ n, d.handles n = true ↔ n.Among first d.displayCount
  pipeline : ∀ n, (d.pipeline? n).isSome = d.handles n
  connector : ∀ n, (d.connector? n).isSome = d.handles n
  encoder : ∀ n, (d.encoder? n).isSome = d.handles n
  crtc : ∀ n, (d.crtc? n).isSome = d.handles n
  /-- What drives a display are objects of the device. -/
  objects : ∀ n p, d.pipeline? n = some p → p.display = n ∧
    (d.connector? n = some p.connector ∧ p.connector ∈ d.resources.connectors) ∧
    (d.encoder? n = some p.encoder ∧ p.encoder ∈ d.resources.encoders) ∧
    d.crtc? n = some p.crtc ∧ p.crtc ∈ d.resources.crtcs
  /-- The pipelines are those of the displays `first`, `first + 1` and so on, in this order. -/
  pipelines : d.pipelines.map some = (first.block d.displayCount).map d.pipeline? ∧
    (first.block d.displayCount).map (·.val.toNat) = List.range' first.val.toNat d.displayCount
  displayFor : ∀ id, (d.displayForConnector? id).isSome = true ↔
    ∃ c ∈ d.resources.connectors, c.id = id
  /-- The display for a kernel id is on a connector with this id. -/
  connectorOf : ∀ id n, d.displayForConnector? id = some n → ∃ c, d.connector? n = some c ∧ c.id = id
  /-- When the ids of connectors differ, the display for the id of a connector is that of the
  connector. -/
  displayOf : (d.resources.connectors.map (·.id)).Nodup →
    ∀ n c, d.connector? n = some c → d.displayForConnector? c.id = some n

/-! ### From displays to objects -/

theorem nodup_displays (h : d.NumberedFrom first) : d.displays.Nodup := by
  rw [h.displays]
  exact (DisplayId.pairwise_block h.room).imp ne_of_lt

theorem handles_iff_among (h : d.NumberedFrom first) :
    d.handles n = true ↔ n.Among first d.displayCount := by
  rw [handles_iff, h.displays, DisplayId.mem_block_iff_among h.room]

/-- A display that is handled leads to a pipeline, and no other does. -/
theorem isSome_pipeline? (hcomplete : d.Complete) (n : DisplayId) :
    (d.pipeline? n).isSome = d.handles n := by
  rw [pipeline?, handles]
  cases hpipe : d.assignment.pipe? n with
  | none => rfl
  | some pipe =>
      obtain ⟨g, hg, rfl⟩ := Option.map_eq_some_iff.1 hpipe
      obtain ⟨p, hp⟩ := hcomplete g (List.mem_of_find?_eq_some hg)
      obtain rfl : g.1 = n := by simpa using List.find?_some hg
      rw [Option.bind_some, hp]
      rfl

/-- The pipelines are those of the displays, in their order. -/
theorem map_some_pipelines (hcomplete : d.Complete) (hnodup : d.displays.Nodup) :
    d.pipelines.map some = d.displays.map d.pipeline? := by
  rw [← map_display_pipelines hcomplete, List.map_map]
  refine List.map_congr_left fun p hp => ?_
  exact ((pipeline?_eq_some_iff hnodup).2 ⟨hp, rfl⟩).symm

/-- The connector of a display is at the position that the display leads to. -/
theorem connector?_eq_some_iff (hcomplete : d.Complete) {c : Connector} :
    d.connector? n = some c ↔ ∃ pipe, d.assignment.pipe? n = some pipe ∧
      d.resources.connectors[pipe.connector]? = some c := by
  have hsome := isSome_pipeline? hcomplete n
  rw [handles, pipeline?] at hsome
  rw [connector?, pipeline?]
  cases hpipe : d.assignment.pipe? n with
  | none => simp
  | some pipe =>
      rw [hpipe] at hsome
      obtain ⟨p, hp⟩ := Option.isSome_iff_exists.1 hsome
      have hconnector := (resolve?_eq_some_iff.1 hp).2.1
      rw [Option.bind_some] at hp
      simp [hp, hconnector]

/-! ### From connectors to displays -/

section Connectors

variable (hassign : Routing.assign d.resources.problem first = .ok d.assignment)

include hassign

/-- The display for a kernel id leads to the first connector with this id. -/
theorem displayForConnector?_eq_some_iff {id : ObjectId} :
    d.displayForConnector? id = some n ↔ ∃ pipe, d.assignment.pipe? n = some pipe ∧
      d.resources.connectors.findIdx? (·.id = id) = some pipe.connector := by
  rw [displayForConnector?, Option.bind_eq_some_iff]
  constructor
  · rintro ⟨i, hi, hdisplay⟩
    obtain ⟨pipe, hpipe, rfl⟩ := (Routing.displayOf?_iff_of_assign hassign).1 hdisplay
    exact ⟨pipe, hpipe, hi⟩
  · rintro ⟨pipe, hpipe, hi⟩
    exact ⟨_, hi, Routing.displayOf?_of_pipe? hassign hpipe⟩

/-- There is a display for every kernel id of a connector. -/
theorem isSome_displayForConnector?_iff {id : ObjectId} :
    (d.displayForConnector? id).isSome = true ↔ ∃ c ∈ d.resources.connectors, c.id = id := by
  rw [Option.isSome_iff_exists]
  constructor
  · rintro ⟨n, hn⟩
    obtain ⟨i, hi, -⟩ := Option.bind_eq_some_iff.1 hn
    obtain ⟨hlt, hid, -⟩ := List.findIdx?_eq_some_iff_getElem.1 hi
    exact ⟨_, List.getElem_mem hlt, by simpa using hid⟩
  · rintro ⟨c, hc, rfl⟩
    have hfound : (d.resources.connectors.findIdx? (·.id = c.id)).isSome = true := by
      rw [List.findIdx?_isSome]
      exact List.any_eq_true.2 ⟨c, hc, decide_eq_true rfl⟩
    obtain ⟨i, hi⟩ := Option.isSome_iff_exists.1 hfound
    obtain ⟨hlt, -, -⟩ := List.findIdx?_eq_some_iff_getElem.1 hi
    obtain ⟨n, hn⟩ := Routing.exists_displayOf?_of_assign hassign hlt
    exact ⟨n, Option.bind_eq_some_iff.2 ⟨i, hi, hn⟩⟩

theorem exists_connector?_of_displayForConnector? (hcomplete : d.Complete) {id : ObjectId}
    (h : d.displayForConnector? id = some n) : ∃ c, d.connector? n = some c ∧ c.id = id := by
  obtain ⟨pipe, hpipe, hi⟩ := (displayForConnector?_eq_some_iff hassign).1 h
  obtain ⟨hlt, hid, -⟩ := List.findIdx?_eq_some_iff_getElem.1 hi
  refine ⟨_, (connector?_eq_some_iff hcomplete).2 ⟨pipe, hpipe, List.getElem?_eq_getElem hlt⟩, ?_⟩
  simpa using hid

theorem displayForConnector?_of_connector? (hcomplete : d.Complete)
    (hids : (d.resources.connectors.map (·.id)).Nodup) {c : Connector}
    (h : d.connector? n = some c) : d.displayForConnector? c.id = some n := by
  obtain ⟨pipe, hpipe, hc⟩ := (connector?_eq_some_iff hcomplete).1 h
  exact (displayForConnector?_eq_some_iff hassign).2
    ⟨pipe, hpipe, Routing.findIdx?_key_eq_some hids hc⟩

end Connectors

/-! ### The lookups of an initialized device -/

/-- **The lookups of an initialized device agree.** -/
theorem looksUp_of_gives_init (h : (init K card first).Gives s d s') : d.LooksUp first := by
  obtain ⟨-, hassign⟩ := assign_of_gives_init h
  have hnumbered := numberedFrom_of_gives_init h
  have hcomplete := complete_of_gives_init h
  have hnodup := nodup_displays hnumbered
  have hpipeline := isSome_pipeline? hcomplete
  refine
    { displayCount := displayCount_of_assign hassign
      nextDisplay := ?_
      handles := fun n => handles_iff_among hnumbered
      pipeline := hpipeline
      connector := fun n => Option.isSome_map.trans (hpipeline n)
      encoder := fun n => Option.isSome_map.trans (hpipeline n)
      crtc := fun n => Option.isSome_map.trans (hpipeline n)
      objects := fun n p hp => ?_
      pipelines := ⟨?_, DisplayId.map_toNat_block hnumbered.room⟩
      displayFor := fun id => isSome_displayForConnector?_iff hassign
      connectorOf := fun id n hn => exists_connector?_of_displayForConnector? hassign hcomplete hn
      displayOf := fun hids n c hc => displayForConnector?_of_connector? hassign hcomplete hids hc }
  · rw [hnumbered.nextDisplay, DisplayId.toNat_advance hnumbered.room]
  · obtain ⟨hmem, hdisplay⟩ := (pipeline?_eq_some_iff hnodup).1 hp
    obtain ⟨hconnector, hencoder, hcrtc⟩ := mem_resources_of_mem_pipelines hmem
    refine ⟨hdisplay, ⟨?_, hconnector⟩, ⟨?_, hencoder⟩, ?_, hcrtc⟩
    · rw [connector?, hp, Option.map_some]
    · rw [encoder?, hp, Option.map_some]
    · rw [crtc?, hp, Option.map_some]
  · rw [map_some_pipelines hcomplete hnodup, hnumbered.displays]

/-- The two connectors of the damaged card that can be read, and their displays, are looked up by their
ids. -/
theorem damaged_looksUp : ∃ d s', (init MemoryCard.kernel () .zero).Gives damaged d s' ∧
    d.resources.connectors.map (·.id) = [42, 43] ∧ d.displayCount = 2 ∧ d.LooksUp .zero := by
  obtain ⟨a, hdevice⟩ := damaged.showing.replies.exists_device () .zero rfl rfl (by decide) rfl
  have hvalue := settles_init MemoryCard.kernel damaged.showing.replies () .zero damaged
    (damaged.agreesWith_init .zero)
  have h := looksUp_of_gives_init ⟨hvalue.trans hdevice, rfl⟩
  exact ⟨_, _, ⟨hvalue.trans hdevice, rfl⟩, rfl, h.displayCount, h⟩

end Device

end Scanout
