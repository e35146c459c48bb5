/-
**The views of a registry agree.**

A display can be looked up in several ways: by the device that drives it, by its pipeline, by its record,
and in the listing of all displays.  Each way searches on its own, and the listing is sorted besides.
They agree because displays go up along the entries of a registry and every display of a device leads
to objects, and both survive every call.

Main definitions:

* `Scanout.Registry.Sound` — displays are well numbered, and devices are complete;
* `Scanout.DisplayRecord.anonymous` — a record without the name of the driver, the only part that the
  kernel is asked for when a record is taken;
* `Scanout.Registry.Coherent` — all views of a registry agree.

Main results:

* `Scanout.Registry.sound_of_perform` — any run from an empty registry leads to a sound one;
* `Scanout.Registry.WellNumbered.filter_handles`, `Scanout.Registry.WellNumbered.get?_eq_some_iff` —
  looking up a display or a path finds the one entry that has it;
* `Scanout.Registry.Sound.value_records` — **sorting the listing moves nothing**;
* `Scanout.Registry.coherent_of_perform` — **all views agree after any run**.
-/

import Mathlib.Algebra.GroupWithZero.Nat
import Scanout.Proofs.Dialogue
import Scanout.Proofs.Registry.Numbering
import Scanout.Registry.Listing

set_option relaxedAutoImplicit false
set_option autoImplicit false

namespace Scanout

variable {κ σ : Type} {K : Kernel κ σ}

/-! ### Lists with one item of a kind -/

theorem filter_eq_singleton {α : Type} {p : α → Bool} {l : List α}
    (h : l.Pairwise fun a b => ¬ (p a = true ∧ p b = true)) {a : α} (ha : a ∈ l)
    (hp : p a = true) : l.filter p = [a] := by
  obtain ⟨l₁, l₂, rfl⟩ := List.append_of_mem ha
  rw [List.pairwise_append, List.pairwise_cons] at h
  obtain ⟨-, ⟨hafter, -⟩, hbefore⟩ := h
  have hnil₁ : l₁.filter p = [] :=
    List.filter_eq_nil_iff.2 fun b hb hpb => hbefore b hb a List.mem_cons_self ⟨hpb, hp⟩
  have hnil₂ : l₂.filter p = [] :=
    List.filter_eq_nil_iff.2 fun b hb hpb => hafter b hb ⟨hp, hpb⟩
  rw [List.filter_append, List.filter_cons_of_pos hp, hnil₁, hnil₂, List.nil_append]

/-! ### Records -/

/-- A record without the name of the driver. -/
def DisplayRecord.anonymous (r : DisplayRecord) : DisplayRecord := { r with driver := "" }

theorem map_anonymous_recordPipelines (path : Path) (device : Device κ) (l : List Pipeline) :
    ∀ s : σ, ((recordPipelines K path device l).run s).value.map (·.anonymous) =
      l.map (.ofPipeline path "") := by
  induction l with
  | nil => exact fun _ => rfl
  | cons p l ih =>
      intro s
      rw [recordPipelines, Action.run_bind, Action.run_bind]
      exact congrArg (_ :: ·) (ih _)

theorem map_anonymous_recordDevices (entries : List (Path × Device κ)) : ∀ s : σ,
    ((recordDevices K entries).run s).value.map (·.anonymous) =
      entries.flatMap fun e => e.2.pipelines.map (.ofPipeline e.1 "") := by
  induction entries with
  | nil => exact fun _ => rfl
  | cons e entries ih =>
      intro s
      rw [recordDevices, Action.run_bind, Action.run_bind, List.flatMap_cons, ← ih,
        ← map_anonymous_recordPipelines]
      exact List.map_append

/-! ### Records when drivers answer alike -/

/-- What a driver is called that answers as `R` says. -/
def Replies.driver (R : Replies κ) (card : κ) : String :=
  match R card .driverName with
  | .ok name => name
  | .error _ => Device.fallbackName

section Drivers

variable {R : Replies κ}

theorem talks_name (device : Device κ) :
    (device.name K).Talks K fun _ q => q = .driverName := by
  refine .bind (.ask rfl) fun reply => ?_
  cases reply with
  | error e => exact .bind (.log _ _) fun _ => .pure _
  | ok name => exact .pure _

theorem settles_name (device : Device κ) :
    (device.name K).Settles K R (· = .driverName) (R.driver device.card) := by
  refine .bind (.ask (P := fun _ _ => True) trivial) (.ask rfl) ?_
  rw [Replies.driver]
  cases R device.card .driverName with
  | error e => exact .bind (.log (P := fun _ _ => True) _ _) (.log _ _) (.pure _)
  | ok name => exact .pure _

theorem talks_recordPipelines (path : Path) (device : Device κ) (l : List Pipeline) :
    (recordPipelines K path device l).Talks K fun _ q => q = .driverName := by
  induction l with
  | nil => exact .pure _
  | cons p l ih => exact .bind (talks_name device) fun _ => .bind ih fun _ => .pure _

theorem settles_recordPipelines (path : Path) (device : Device κ) (l : List Pipeline) :
    (recordPipelines K path device l).Settles K R (· = .driverName)
      (l.map (.ofPipeline path (R.driver device.card))) := by
  induction l with
  | nil => exact .pure _
  | cons p l ih =>
      exact .bind (talks_name device) (settles_name device) <|
        .bind (talks_recordPipelines path device l) ih (.pure _)

theorem talks_recordDevices (entries : List (Path × Device κ)) :
    (recordDevices K entries).Talks K fun _ q => q = .driverName := by
  induction entries with
  | nil => exact .pure _
  | cons e entries ih =>
      exact .bind (talks_recordPipelines e.1 e.2 _) fun _ => .bind ih fun _ => .pure _

theorem settles_recordDevices (entries : List (Path × Device κ)) :
    (recordDevices K entries).Settles K R (· = .driverName)
      (entries.flatMap fun e => e.2.pipelines.map (.ofPipeline e.1 (R.driver e.2.card))) := by
  induction entries with
  | nil => exact .pure _
  | cons e entries ih =>
      exact .bind (talks_recordPipelines e.1 e.2 _) (settles_recordPipelines e.1 e.2 _) <|
        .bind (talks_recordDevices entries) ih (.pure _)

end Drivers

namespace Registry

variable {r r' : Registry κ} {n : DisplayId} {e : Path × Device κ}

/-! ### Sound registries -/

/-- Displays are well numbered, and every display of a device leads to objects of the device. -/
structure Sound (r : Registry κ) : Prop extends r.WellNumbered where
  complete : ∀ e ∈ r.entries, e.2.Complete

theorem Sound.effect (h : r.Sound) {call : Call κ} {answer : Answer κ}
    (heffect : Effect K r call answer r') : r'.Sound := by
  refine ⟨h.toWellNumbered.effect heffect, ?_⟩
  cases heffect with
  | added device _ hmade =>
      intro e he
      rcases List.mem_append.1 he with hold | hnew
      · exact h.complete e hold
      · rw [List.mem_singleton.1 hnew]
        exact Device.complete_of_gives_init hmade
  | refused => exact h.complete
  | removed l₁ e l₂ hsplit =>
      intro e' he'
      refine h.complete e' ?_
      rw [hsplit]
      exact ((List.sublist_cons_self e l₂).append_left l₁).subset he'
  | unknown => exact h.complete

/-- Any run from a sound registry leads to a sound one. -/
theorem Sound.perform (h : r.Sound) {calls : List (Call κ)} {steps : List (Step κ)} {s : σ}
    (hperform : ((r.perform K calls).run s).value = (steps, r')) : r'.Sound :=
  @perform_induction κ σ K (fun _ r => r.Sound) (fun h heffect => h.effect heffect) calls []
    _ _ _ _ h hperform

/-- Any run from an empty registry leads to a sound one. -/
theorem sound_of_perform (K : Kernel κ σ) (scaleWithGpu : Bool) (calls : List (Call κ)) (s : σ) :
    (((empty scaleWithGpu).perform K calls).run s).value.2.Sound := by
  obtain ⟨⟨steps, r⟩, hperform⟩ :
      ∃ x, (((empty scaleWithGpu).perform K calls).run s).value = x := ⟨_, rfl⟩
  have hempty : (empty scaleWithGpu : Registry κ).Sound :=
    ⟨wellNumbered_empty scaleWithGpu, fun _ he => nomatch he⟩
  rw [hperform]
  exact hempty.perform hperform

/-! ### Looking up entries -/

theorem mem_of_deviceFor? (h : r.deviceFor? n = some e) :
    e ∈ r.entries ∧ e.2.handles n = true := by
  rw [deviceFor?] at h
  exact ⟨List.mem_of_find?_eq_some h, by simpa using List.find?_some h⟩

theorem handles_iff : r.handles n = true ↔ n ∈ r.displays := by
  simp only [handles, deviceFor?, List.find?_isSome, Device.handles_iff, displays,
    List.mem_flatMap]

namespace WellNumbered

variable (h : r.WellNumbered)

include h

theorem pairwise_handles : r.entries.Pairwise fun e f =>
    ¬ (e.2.handles n = true ∧ f.2.handles n = true) := by
  refine h.disjoint.imp fun hdisjoint ⟨he, hf⟩ => ?_
  exact hdisjoint (Device.handles_iff.1 he) (Device.handles_iff.1 hf)

/-- The device that drives a display is the only one. -/
theorem filter_handles (he : r.deviceFor? n = some e) :
    r.entries.filter (·.2.handles n) = [e] := by
  obtain ⟨hmem, hhandles⟩ := mem_of_deviceFor? he
  exact filter_eq_singleton h.pairwise_handles hmem hhandles

/-- The device at a path is that of the one entry that has the path. -/
theorem get?_eq_some_iff {path : Path} {device : Device κ} : r.get? path = some device ↔
    ∃ e ∈ r.entries, e.1.components = path.components ∧ e.2 = device := by
  have hfind : r.get? path =
      (r.entries.find? fun e => e.1.components = path.components).map (·.2) := by
    rw [get?]
    congr 2
    funext e
    rw [Bool.eq_iff_iff, Path.beq_iff, decide_eq_true_iff]
  rw [hfind, Option.map_eq_some_iff]
  simp only [Table.find?_key_eq_some_iff h.paths, and_assoc]

theorem nodup_displays (he : e ∈ r.entries) : e.2.displays.Nodup :=
  (List.pairwise_flatMap.1 h.ascending).1 e he |>.imp ne_of_lt

end WellNumbered

/-! ### Looking up displays -/

theorem record?_eq {p : Pipeline} (hfound : r.deviceFor? n = some e)
    (hpipeline : e.2.pipeline? n = some p) : r.record? K n = (do
      let driver ← e.2.name K
      return some (.ofPipeline e.1 driver p)) := by
  rw [record?, hfound]
  dsimp only
  rw [hpipeline]

namespace Sound

variable (h : r.Sound)

include h

/-- Either no view has a display, or one device drives it and has its pipeline. -/
theorem deviceFor?_cases (n : DisplayId) : (n ∉ r.displays ∧ r.deviceFor? n = none) ∨
    (n ∈ r.displays ∧ ∃ e ∈ r.entries, r.deviceFor? n = some e ∧
      ∃ p ∈ e.2.pipelines, e.2.pipeline? n = some p ∧ p.display = n) := by
  cases hfound : r.deviceFor? n with
  | none =>
      refine .inl ⟨fun hn => ?_, rfl⟩
      have hhandles := handles_iff.2 hn
      rw [handles, hfound] at hhandles
      cases hhandles
  | some e =>
      obtain ⟨he, hhandles⟩ := mem_of_deviceFor? hfound
      have hn : n ∈ e.2.displays := Device.handles_iff.1 hhandles
      have hmem : n ∈ e.2.pipelines.map (·.display) := by
        rw [Device.map_display_pipelines (h.complete e he)]
        exact hn
      obtain ⟨p, hp, hdisplay⟩ := List.mem_map.1 hmem
      have hpipeline := (Device.pipeline?_eq_some_iff (h.nodup_displays he)).2 ⟨hp, hdisplay⟩
      exact .inr ⟨List.mem_flatMap.2 ⟨e, he, hn⟩, e, he, rfl, p, hp, hpipeline, hdisplay⟩

/-! ### The listing -/

/-- The displays of the records of all devices are those of the registry. -/
theorem map_display_recordDevices (s : σ) :
    ((recordDevices K r.entries).run s).value.map (·.display) = r.displays := by
  have hanonymous := congrArg (List.map (·.display)) (map_anonymous_recordDevices (K := K) r.entries s)
  rw [List.map_map, List.map_flatMap] at hanonymous
  refine hanonymous.trans (List.flatMap_congr fun e he => ?_)
  rw [List.map_map, ← Device.map_display_pipelines (h.complete e he)]
  rfl

/-- Sorting the listing moves nothing. -/
theorem value_records (s : σ) :
    ((r.records K).run s).value = ((recordDevices K r.entries).run s).value := by
  have hascending := h.ascending
  rw [← h.map_display_recordDevices (K := K) s, List.pairwise_map] at hascending
  rw [records, Action.run_bind]
  exact List.mergeSort_of_pairwise (hascending.imp fun hlt => decide_eq_true (le_of_lt hlt))

theorem map_display_records (s : σ) :
    ((r.records K).run s).value.map (·.display) = r.displays := by
  rw [h.value_records, h.map_display_recordDevices]

theorem pairwise_records (s : σ) :
    ((r.records K).run s).value.Pairwise fun x y => x.display < y.display := by
  rw [← List.pairwise_map (R := (· < ·)), h.map_display_records]
  exact h.ascending

/-- No two records of the listing have the same display. -/
theorem eq_of_display {s : σ} {x y : DisplayRecord} (hx : x ∈ ((r.records K).run s).value)
    (hy : y ∈ ((r.records K).run s).value) (hxy : x.display = y.display) : x = y := by
  have hnodup : (((r.records K).run s).value.map (·.display)).Nodup :=
    (List.pairwise_map.2 (h.pairwise_records s)).imp ne_of_lt
  exact List.inj_on_of_nodup_map hnodup hx hy hxy

/-- A record of the listing is the only one with its display. -/
theorem filter_records {s : σ} {listed : DisplayRecord}
    (hlisted : listed ∈ ((r.records K).run s).value) :
    ((r.records K).run s).value.filter (·.display = listed.display) = [listed] := by
  refine filter_eq_singleton ((h.pairwise_records s).imp fun {x y} hlt hboth => ?_) hlisted
    (decide_eq_true rfl)
  simp only [decide_eq_true_eq] at hboth
  rw [hboth.1, hboth.2] at hlt
  exact lt_irrefl _ hlt

theorem map_anonymous_records (s : σ) : ((r.records K).run s).value.map (·.anonymous) =
    r.entries.flatMap fun e => e.2.pipelines.map (.ofPipeline e.1 "") := by
  rw [h.value_records]
  exact map_anonymous_recordDevices r.entries s

/-- But for the driver, the record of a display is that of its pipeline. -/
theorem anonymous_of_mem_records {s : σ} {listed : DisplayRecord}
    (hlisted : listed ∈ ((r.records K).run s).value) (he : e ∈ r.entries) {p : Pipeline}
    (hp : p ∈ e.2.pipelines) (hdisplay : listed.display = p.display) :
    listed.anonymous = .ofPipeline e.1 "" p := by
  have hmem : DisplayRecord.ofPipeline e.1 "" p ∈
      ((r.records K).run s).value.map (·.anonymous) := by
    rw [h.map_anonymous_records]
    exact List.mem_flatMap.2 ⟨e, he, List.mem_map.2 ⟨p, hp, rfl⟩⟩
  obtain ⟨x, hx, hanonymous⟩ := List.mem_map.1 hmem
  have hx' : x.display = p.display := congrArg DisplayRecord.display hanonymous
  rw [← hanonymous, h.eq_of_display hlisted hx (hdisplay.trans hx'.symm)]

theorem length_records (s : σ) : ((r.records K).run s).value.length = r.displayCount := by
  have hlen := congrArg List.length (h.map_display_records (K := K) s)
  rw [List.length_map, displays, List.length_flatMap] at hlen
  exact hlen.trans (congrArg List.sum (List.map_congr_left fun e _ => List.length_map _))

/-- When drivers answer alike, the listing has the records of all pipelines. -/
theorem value_records_of_agreesWith {R : Replies κ} {s : σ}
    (hR : R.AgreesWith (· = .driverName) ((r.records K).exchanges K s)) :
    ((r.records K).run s).value =
      r.entries.flatMap fun e => e.2.pipelines.map (.ofPipeline e.1 (R.driver e.2.card)) := by
  rw [h.value_records]
  refine settles_recordDevices r.entries s ?_
  rw [records, Action.exchanges_bind (talks_recordDevices r.entries)] at hR
  exact (Replies.agreesWith_append.1 hR).1

theorem eq_of_agreesWith {R : Replies κ} {s : σ}
    (hR : R.AgreesWith (· = .driverName) ((r.records K).exchanges K s)) {listed : DisplayRecord}
    (hlisted : listed ∈ ((r.records K).run s).value) (he : e ∈ r.entries) {p : Pipeline}
    (hp : p ∈ e.2.pipelines) (hdisplay : listed.display = p.display) :
    listed = .ofPipeline e.1 (R.driver e.2.card) p := by
  refine h.eq_of_display hlisted ?_ hdisplay
  rw [h.value_records_of_agreesWith hR]
  exact List.mem_flatMap.2 ⟨e, he, List.mem_map.2 ⟨p, hp, rfl⟩⟩

end Sound

/-! ### All views -/

/-- All views of a registry agree, in whatever states of the world they are taken. -/
structure Coherent (K : Kernel κ σ) (r : Registry κ) : Prop where
  /-- A display is in every view or in none. -/
  present : ∀ (n : DisplayId) (s t : σ),
    (r.handles n = true ↔ n ∈ ((r.records K).run s).value.map (·.display)) ∧
    ((r.deviceFor? n).isSome = true ↔ n ∈ ((r.records K).run s).value.map (·.display)) ∧
    ((r.pipeline? n).isSome = true ↔ n ∈ ((r.records K).run s).value.map (·.display)) ∧
    (((r.record? K n).run t).value.isSome = true ↔
      n ∈ ((r.records K).run s).value.map (·.display))
  /-- One device drives a display. -/
  device : ∀ n e, r.deviceFor? n = some e → r.entries.filter (·.2.handles n) = [e]
  /-- The record of a display is its one record in the listing.  The name of the driver is asked for
  anew each time, so it agrees when drivers answer alike. -/
  record : ∀ (n : DisplayId) (s t : σ) (record : DisplayRecord),
    ((r.record? K n).run t).value = some record → ∃ listed,
      ((r.records K).run s).value.filter (·.display = n) = [listed] ∧
      listed.anonymous = record.anonymous ∧
      ∀ R : Replies κ, R.AgreesWith (· = .driverName)
        ((r.records K).exchanges K s ++ (r.record? K n).exchanges K t) → listed = record
  ascending : ∀ s : σ, (((r.records K).run s).value.map (·.display)).Pairwise (· < ·)
  length : ∀ s : σ, ((r.records K).run s).value.length = r.displayCount ∧
    r.displayCount = (r.entries.map (·.2.displayCount)).sum
  /-- The listing goes through the pipelines of the devices, in the order of the entries. -/
  concatenated : ∀ s : σ, ((r.records K).run s).value.map (·.anonymous) =
    r.entries.flatMap fun e => e.2.pipelines.map (.ofPipeline e.1 "")
  /-- Sorting the listing moves nothing. -/
  unsorted : ∀ s : σ, ((r.records K).run s).value = ((recordDevices K r.entries).run s).value
  /-- The device at a path is that of an entry whose path has the same components. -/
  get?_eq_some_iff : ∀ (path : Path) (device : Device κ), r.get? path = some device ↔
    ∃ e ∈ r.entries, e.1.components = path.components ∧ e.2 = device

theorem Sound.coherent (h : r.Sound) : r.Coherent K := by
  constructor
  case present =>
      intro n s t
      rw [h.map_display_records]
      rcases h.deviceFor?_cases n with ⟨hn, hnone⟩ | ⟨hn, e, -, hfound, p, -, hpipeline, -⟩
      · simp [handles, pipeline?, record?, hnone, hn]
      · have hrecord : ((r.record? K n).run t).value.isSome = true := by
          rw [record?_eq hfound hpipeline]
          rfl
        simp [handles, pipeline?, hrecord, hfound, hpipeline, hn]
  case device => exact fun n e he => h.filter_handles he
  case record =>
      intro n s t record hrecord
      rcases h.deviceFor?_cases n with ⟨-, hnone⟩ | ⟨hn, e, he, hfound, p, hp, hpipeline, rfl⟩
      · rw [record?, hnone] at hrecord
        cases hrecord
      rw [record?_eq hfound hpipeline] at hrecord ⊢
      cases hrecord
      rw [← h.map_display_records (K := K) s] at hn
      obtain ⟨listed, hlisted, hdisplay⟩ := List.mem_map.1 hn
      refine ⟨listed, hdisplay ▸ h.filter_records hlisted,
        h.anonymous_of_mem_records hlisted he hp hdisplay, fun R hR => ?_⟩
      -- both views ask for the name of the same driver
      obtain ⟨hlisting, hquery⟩ := Replies.agreesWith_append.1 hR
      rw [Action.exchanges_bind (talks_name e.2)] at hquery
      have hdriver := settles_name e.2 t (Replies.agreesWith_append.1 hquery).1
      rw [h.eq_of_agreesWith hlisting hlisted he hp hdisplay, ← hdriver]
      rfl
  case ascending => exact fun s => List.pairwise_map.2 (h.pairwise_records s)
  case length => exact fun s => ⟨h.length_records s, rfl⟩
  case concatenated => exact h.map_anonymous_records
  case unsorted => exact h.value_records
  case get?_eq_some_iff => exact fun _ _ => h.toWellNumbered.get?_eq_some_iff

/-- **All views agree after any run** from an empty registry. -/
theorem coherent_of_perform (K : Kernel κ σ) (scaleWithGpu : Bool) (calls : List (Call κ)) (s : σ) :
    (((empty scaleWithGpu).perform K calls).run s).value.2.Coherent K :=
  (sound_of_perform K scaleWithGpu calls s).coherent

end Registry

end Scanout
