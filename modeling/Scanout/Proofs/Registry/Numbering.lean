/-
**The numbering of registered devices.**

Each device goes on with the ids where the one before stopped, and a removed device only leaves a gap.
So the displays of all entries, read in order, go up and stay below the next free id.

Main definitions:

* `Scanout.Registry.displays` — the displays of all entries, in order;
* `Scanout.Registry.WellNumbered` — paths are different, and displays go up to the next free id.

Main results:

* `Scanout.Registry.WellNumbered.append`, `Scanout.Registry.WellNumbered.of_sublist` — registering the
  next device and leaving out entries keep the numbering;
* `Scanout.Registry.WellNumbered.effect` — **every effect keeps the numbering**;
* `Scanout.Registry.WellNumbered.disjoint` — no display belongs to two entries.
-/

import Mathlib.Data.List.Flatten
import Mathlib.Data.List.Nodup
import Scanout.Proofs.Device
import Scanout.Proofs.Registry.Run

set_option relaxedAutoImplicit false
set_option autoImplicit false

namespace Scanout

namespace Registry

variable {κ σ : Type} {K : Kernel κ σ} {r r' : Registry κ} {path : Path} {device : Device κ}

/-- The displays of all entries, in order. -/
def displays (r : Registry κ) : List DisplayId := r.entries.flatMap (·.2.displays)

theorem displays_append : (r.append path device).displays = r.displays ++ device.displays := by
  rw [displays, append, List.flatMap_append, List.flatMap_singleton, displays]

/-- A device that goes on with the numbering leaves no gap. -/
theorem displays_append_eq_block (h : r.displays = DisplayId.zero.block r.next.val.toNat)
    (hdevice : device.NumberedFrom r.next) : (r.append path device).displays =
      DisplayId.zero.block (r.append path device).next.val.toNat := by
  obtain ⟨hroom, hdisplays, hnext⟩ := hdevice
  change _ = DisplayId.zero.block device.nextDisplay.val.toNat
  rw [displays_append, h, hdisplays, hnext, DisplayId.toNat_advance hroom, ← DisplayId.block_append,
    DisplayId.zero_advance]

/-- Paths are different, and displays go up to the next free id. -/
structure WellNumbered (r : Registry κ) : Prop where
  /-- No two entries have the same path, however it is spelled. -/
  paths : (r.entries.map (·.1.components)).Nodup
  /-- Read in the order of the entries, the displays go up. -/
  ascending : r.displays.Pairwise (· < ·)
  /-- The displays are below the next free id. -/
  below : ∀ n ∈ r.displays, n < r.next

theorem wellNumbered_empty (scaleWithGpu : Bool) : (empty scaleWithGpu : Registry κ).WellNumbered :=
  ⟨.nil, .nil, fun _ hn => nomatch hn⟩

namespace WellNumbered

theorem disjoint (h : r.WellNumbered) :
    r.entries.Pairwise fun e f => e.2.displays.Disjoint f.2.displays := by
  refine (List.pairwise_flatMap.1 h.ascending).2.imp fun hlt n he hf => ?_
  exact lt_irrefl n (hlt n he n hf)

/-- Leaving out entries keeps the numbering. -/
theorem of_sublist (h : r.WellNumbered) {entries : List (Path × Device κ)}
    (hsub : entries.Sublist r.entries) : { r with entries := entries }.WellNumbered := by
  have hdisplays : (entries.flatMap (·.2.displays)).Sublist r.displays := hsub.flatMap _
  constructor
  case paths => exact h.paths.sublist (hsub.map _)
  case ascending => exact h.ascending.sublist hdisplays
  case below => exact fun n hn => h.below n (hdisplays.subset hn)

theorem append (h : r.WellNumbered) (hnew : r.get? path = none)
    (hdevice : device.NumberedFrom r.next) : (r.append path device).WellNumbered := by
  -- the new ids lie between the old next id and the new one
  have hblock : ∀ n ∈ device.displays, r.next ≤ n ∧ n < device.nextDisplay := by
    intro n hn
    rw [hdevice.displays] at hn
    rw [hdevice.nextDisplay]
    exact (DisplayId.mem_block hdevice.room).1 hn
  constructor
  case paths =>
      rw [Registry.append, List.map_append, List.map_singleton, List.nodup_append_comm]
      refine List.nodup_cons.2 ⟨?_, h.paths⟩
      intro hmem
      obtain ⟨e, he, hcomponents⟩ := List.mem_map.1 hmem
      have hdiffers := get?_eq_none_iff.1 hnew e he
      rw [Path.beq_iff.2 hcomponents] at hdiffers
      cases hdiffers
  case ascending =>
      rw [displays_append]
      refine List.pairwise_append.2 ⟨h.ascending, ?_, ?_⟩
      · rw [hdevice.displays]
        exact DisplayId.pairwise_block hdevice.room
      · intro m hm n hn
        exact lt_of_lt_of_le (h.below m hm) (hblock n hn).1
  case below =>
      rw [displays_append]
      intro n hn
      rcases List.mem_append.1 hn with hold | hown
      · have hle : r.next ≤ device.nextDisplay := by
          rw [hdevice.nextDisplay]
          exact DisplayId.le_advance hdevice.room
        exact lt_of_lt_of_le (h.below n hold) hle
      · exact (hblock n hown).2

/-- **Every effect keeps the numbering.** -/
theorem effect (h : r.WellNumbered) {call : Call κ} {answer : Answer κ}
    (heffect : Effect K r call answer r') : r'.WellNumbered := by
  cases heffect with
  | added device hnew hmade => exact h.append hnew (Device.numberedFrom_of_gives_init hmade)
  | refused => exact h
  | removed l₁ e l₂ hsplit =>
      refine h.of_sublist ?_
      rw [hsplit]
      exact (List.sublist_cons_self e l₂).append_left l₁
  | unknown => exact h

end WellNumbered

end Registry

end Scanout
