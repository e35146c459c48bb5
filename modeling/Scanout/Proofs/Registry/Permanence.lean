/-
**A registered device stays as it is.**

Nothing can be done to a registered device but take it out.  Other devices come behind it and go from all
sides, so its place among the entries moves.  But its path is its own, and so are its displays, and every
lookup goes by one of these.  So the registry answers for its displays as before, for as long as nobody asks
for it to be removed, under whichever spelling of its path.  And when somebody does, nothing else is taken
away.

Main definitions:

* `Scanout.Registry.SameAnswers` — two registries answer alike for a display;
* `Scanout.Registry.Lasts` — a device is still there, and is found as before;
* `Scanout.Registry.Removes` — what the removal of a path leaves behind;
* `Scanout.Registry.Permanent` — every device lasts until it is removed, and a removal takes only its own.

Main results:

* `Scanout.Registry.WellNumbered.deviceFor?_eq_some_iff` — a display leads to the entry that has it;
* `Scanout.Registry.Effect.mem_entries`, `Scanout.Registry.mem_entries_of_perform` — one call, and any run,
  leave the entries whose paths are not removed;
* `Scanout.Registry.Sound.permanent` — in a sound registry devices are permanent;
* `Scanout.Registry.permanent_of_perform` — **registered devices are permanent after any run**.
-/

import Scanout.Proofs.Registry.Addition
import Scanout.Proofs.Registry.Ledger
import Scanout.Proofs.Registry.Views

set_option relaxedAutoImplicit false
set_option autoImplicit false

namespace Scanout

namespace Registry

variable {κ σ : Type} {K : Kernel κ σ} {r r' : Registry κ} {path : Path} {n : DisplayId}
  {e : Path × Device κ}

/-! ### Answers for a display -/

/-- Two registries answer alike for a display.  Its record has the name of the driver, which is asked for
anew each time, so the records are the same if the driver answers alike. -/
structure SameAnswers (K : Kernel κ σ) (r r' : Registry κ) (n : DisplayId) : Prop where
  handles : r'.handles n = r.handles n
  deviceFor : r'.deviceFor? n = r.deviceFor? n
  pipeline : r'.pipeline? n = r.pipeline? n
  record : ∀ (R : Replies κ) (s t : σ),
    R.AgreesWith (· = .driverName) ((r.record? K n).exchanges K s) →
    R.AgreesWith (· = .driverName) ((r'.record? K n).exchanges K t) →
    ((r'.record? K n).run t).value = ((r.record? K n).run s).value

/-- The record of a display depends on the name of the driver only. -/
theorem exists_settles_record (K : Kernel κ σ) (r : Registry κ) (n : DisplayId) (R : Replies κ) :
    ∃ record, (r.record? K n).Settles K R (· = .driverName) record := by
  rw [record?]
  cases r.deviceFor? n with
  | none => exact ⟨none, .pure none⟩
  | some e =>
      dsimp only
      cases e.2.pipeline? n with
      | none => exact ⟨none, .pure none⟩
      | some p => exact ⟨_, .bind (talks_name e.2) (settles_name e.2) (.pure _)⟩

/-- All answers for a display follow from the device that has it. -/
theorem sameAnswers_of_deviceFor (K : Kernel κ σ) (h : r'.deviceFor? n = r.deviceFor? n) :
    SameAnswers K r r' n := by
  constructor
  case handles => rw [handles, handles, h]
  case deviceFor => exact h
  case pipeline => rw [pipeline?, pipeline?, h]
  case record =>
      intro R s t hs ht
      have hsame : r'.record? K n = r.record? K n := by rw [record?, record?, h]
      obtain ⟨record, hrecord⟩ := exists_settles_record K r n R
      rw [hsame] at ht ⊢
      rw [hrecord t ht, hrecord s hs]

/-- A display leads to the entry that has it. -/
theorem WellNumbered.deviceFor?_eq_some_iff (h : r.WellNumbered) :
    r.deviceFor? n = some e ↔ e ∈ r.entries ∧ n ∈ e.2.displays := by
  constructor
  · intro hfound
    obtain ⟨he, hhandles⟩ := mem_of_deviceFor? hfound
    exact ⟨he, Device.handles_iff.1 hhandles⟩
  · rintro ⟨he, hn⟩
    have hhandles : r.handles n = true := handles_iff.2 (List.mem_flatMap.2 ⟨e, he, hn⟩)
    obtain ⟨e', he'⟩ := Option.isSome_iff_exists.1 hhandles
    have hmem : e ∈ r.entries.filter (·.2.handles n) :=
      List.mem_filter.2 ⟨he, Device.handles_iff.2 hn⟩
    rw [h.filter_handles he'] at hmem
    rw [he', List.mem_singleton.1 hmem]

/-! ### Devices that are not removed -/

/-- No call removes a path, however it is spelled. -/
def Spares (calls : List (Call κ)) (path : Path) : Prop :=
  ∀ q, .remove q ∈ calls → q.components ≠ path.components

/-- A call leaves the entries whose paths it does not remove. -/
theorem Effect.mem_entries {call : Call κ} {answer : Answer κ} (h : Effect K r call answer r')
    (he : e ∈ r.entries) (hspares : Spares [call] e.1) : e ∈ r'.entries := by
  cases h with
  | added device => exact List.mem_append_left _ he
  | refused => exact he
  | removed l₁ gone l₂ hsplit hfirst hfound =>
      rw [hsplit] at he
      rcases List.mem_append.1 he with hbefore | he
      · exact List.mem_append_left _ hbefore
      rcases List.mem_cons.1 he with rfl | hafter
      · exact absurd (Path.beq_iff.1 hfound).symm (hspares _ List.mem_cons_self)
      · exact List.mem_append_right _ hafter
  | unknown => exact he

/-- A run leaves the entries whose paths it does not remove. -/
theorem mem_entries_of_perform {calls : List (Call κ)} {steps : List (Step κ)} {s : σ}
    (h : ((r.perform K calls).run s).value = (steps, r')) (he : e ∈ r.entries)
    (hspares : Spares calls e.1) : e ∈ r'.entries := by
  have hcalls : steps.map (·.call) = calls := by
    rw [← map_call_perform K calls r s, h]
  -- the entry is there for as long as the calls so far spared it
  have hstep : ∀ {history : List (Step κ)} {r r' : Registry κ} {call : Call κ} {answer : Answer κ},
      (Spares (history.map (·.call)) e.1 → e ∈ r.entries) → Effect K r call answer r' →
      Spares ((history ++ [(⟨r, call, answer, r'⟩ : Step κ)]).map (·.call)) e.1 → e ∈ r'.entries := by
    intro history r r' call answer ih heffect hspares
    rw [List.map_append] at hspares
    refine heffect.mem_entries (ih fun q hq => ?_) fun q hq => ?_
    · exact hspares q (List.mem_append_left _ hq)
    · exact hspares q (List.mem_append_right _ hq)
  have hkept := @perform_induction κ σ K
    (fun history r => Spares (history.map (·.call)) e.1 → e ∈ r.entries) hstep calls []
    _ _ _ _ (fun _ => he) h
  rw [List.nil_append, hcalls] at hkept
  exact hkept hspares

/-- The device at a path is still there.  Each of its displays leads to it, and all answers for them are as
before. -/
structure Lasts (K : Kernel κ σ) (r r' : Registry κ) (path : Path) (device : Device κ) : Prop where
  get : r'.get? path = some device
  displays : ∀ n ∈ device.displays, ∃ registered : Path, registered.components = path.components ∧
    r'.deviceFor? n = some (registered, device)
  answers : ∀ n ∈ device.displays, SameAnswers K r r' n

theorem lasts_of_mem_entries {device : Device κ} (h : r.WellNumbered) (h' : r'.WellNumbered)
    (hget : r.get? path = some device)
    (hkept : ∀ e ∈ r.entries, e.1.components = path.components → e ∈ r'.entries) :
    Lasts K r r' path device := by
  obtain ⟨e, he, hpath, rfl⟩ := h.get?_eq_some_iff.1 hget
  have he' := hkept e he hpath
  have hfound : ∀ n ∈ e.2.displays, r'.deviceFor? n = some e :=
    fun n hn => h'.deviceFor?_eq_some_iff.2 ⟨he', hn⟩
  constructor
  case get => exact h'.get?_eq_some_iff.2 ⟨e, he', hpath, rfl⟩
  case displays => exact fun n hn => ⟨e.1, hpath, hfound n hn⟩
  case answers =>
      intro n hn
      have hbefore := h.deviceFor?_eq_some_iff.2 ⟨he, hn⟩
      exact sameAnswers_of_deviceFor K ((hfound n hn).trans hbefore.symm)

/-! ### Removing a device -/

/-- What the removal of a path leaves behind. -/
structure Removes (K : Kernel κ σ) (r : Registry κ) (path : Path) (rest : Registry κ) : Prop where
  /-- When there was no device at the path, nothing changes. -/
  absent : r.get? path = none → rest = r
  /-- The other entries stay in their order. -/
  remaining : ∀ device, r.get? path = some device → ∃ l₁ registered l₂,
    r.entries = l₁ ++ (registered, device) :: l₂ ∧ registered.components = path.components ∧
      rest.entries = l₁ ++ l₂
  next : rest.next = r.next
  scaleWithGpu : rest.scaleWithGpu = r.scaleWithGpu
  /-- The displays of the device are not handled any more. -/
  own : ∀ device, r.get? path = some device → ∀ n ∈ device.displays, rest.handles n = false ∧
    rest.deviceFor? n = none ∧ rest.pipeline? n = none ∧ ∀ t, ((rest.record? K n).run t).value = none
  /-- For other displays the registry answers as before. -/
  others : ∀ n, (∀ device, r.get? path = some device → n ∉ device.displays) → SameAnswers K r rest n
  /-- A second removal finds nothing. -/
  again : ∀ t : σ, (rest.remove path : Action κ σ _).dealings t = ((none, rest), t, [])

theorem take?_eq_none_iff : r.take? path = none ↔ r.get? path = none := by
  refine ⟨get?_eq_none_of_take?, fun h => ?_⟩
  have hfind : r.entries.findIdx? (·.1 == path) = none :=
    List.findIdx?_eq_none_iff.2 (get?_eq_none_iff.1 h)
  rw [take?, hfind]
  rfl

/-- A removal asks nothing. -/
theorem dealings_remove (r : Registry κ) (path : Path) (s : σ) :
    (r.remove path : Action κ σ _).dealings s = (match r.take? path with
      | some (device, rest) => (some device, rest)
      | none => (none, r), s, []) := by
  rw [remove, Action.debug, Action.dealings_bind (Action.dealings_log ..)]
  cases r.take? path with
  | none => rfl
  | some found => rfl

theorem dealings_remove_of_absent (h : r.get? path = none) (s : σ) :
    (r.remove path : Action κ σ _).dealings s = ((none, r), s, []) := by
  rw [dealings_remove, take?_eq_none_iff.2 h]

/-- A display that nobody drives is in no view. -/
theorem unhandled_of_not_mem (K : Kernel κ σ) (h : n ∉ r.displays) : r.handles n = false ∧
    r.deviceFor? n = none ∧ r.pipeline? n = none ∧ ∀ t, ((r.record? K n).run t).value = none := by
  have hhandles : r.handles n = false := Bool.eq_false_iff.2 fun hn => h (handles_iff.1 hn)
  have hfound : r.deviceFor? n = none := by
    rw [handles] at hhandles
    simpa using hhandles
  refine ⟨hhandles, hfound, ?_, fun t => ?_⟩
  · rw [pipeline?, hfound, Option.bind_none]
  · rw [record?, hfound]
    rfl

theorem removes_of_absent (K : Kernel κ σ) (h : r.get? path = none) : Removes K r path r := by
  have hnone : ∀ {device}, r.get? path ≠ some device := by
    intro device hsome
    rw [h] at hsome
    cases hsome
  constructor
  case absent => exact fun _ => rfl
  case remaining => exact fun device hsome => absurd hsome hnone
  case next => rfl
  case scaleWithGpu => rfl
  case own => exact fun device hsome => absurd hsome hnone
  case others => exact fun n _ => sameAnswers_of_deviceFor K rfl
  case again => exact dealings_remove_of_absent h

/-- The device at a path is that of an entry that has the path. -/
theorem WellNumbered.get?_of_mem (h : r.WellNumbered) (he : e ∈ r.entries)
    (hfound : (e.1 == path) = true) : r.get? path = some e.2 :=
  h.get?_eq_some_iff.2 ⟨e, he, Path.beq_iff.1 hfound, rfl⟩

theorem removes_of_split (h : r.WellNumbered) {l₁ l₂ : List (Path × Device κ)}
    (hsplit : r.entries = l₁ ++ e :: l₂) (hfirst : ∀ e' ∈ l₁, (e'.1 == path) = false)
    (hfound : (e.1 == path) = true) : Removes K r path { r with entries := l₁ ++ l₂ } := by
  have heffect : Effect K r (.remove path) (.removed e.2) { r with entries := l₁ ++ l₂ } :=
    .removed l₁ e l₂ hsplit hfirst hfound
  have hpath := Path.beq_iff.1 hfound
  have hget : r.get? path = some e.2 := h.get?_of_mem (by simp [hsplit]) hfound
  have hdevice : ∀ {device}, r.get? path = some device → device = e.2 :=
    fun hsome => Option.some.inj (hsome.symm.trans hget)
  constructor
  case absent =>
      intro hnone
      rw [hget] at hnone
      cases hnone
  case remaining =>
      intro device hsome
      obtain rfl := hdevice hsome
      exact ⟨l₁, e.1, l₂, hsplit, hpath, rfl⟩
  case next => rfl
  case scaleWithGpu => rfl
  case own =>
      intro device hsome n hn
      obtain rfl := hdevice hsome
      exact unhandled_of_not_mem K (heffect.of_mem_takenBack h hn).2
  case others =>
      intro n hn
      refine sameAnswers_of_deviceFor K ?_
      have hskip : (e :: l₂).find? (·.2.handles n) = l₂.find? (·.2.handles n) :=
        List.find?_cons_of_neg fun hhandles => hn e.2 hget (Device.handles_iff.1 hhandles)
      rw [deviceFor?, deviceFor?, hsplit, List.find?_append, List.find?_append, hskip]
  case again =>
      refine dealings_remove_of_absent (get?_eq_none_iff.2 fun e' he' => ?_)
      rcases List.mem_append.1 he' with hbefore | hafter
      · exact hfirst e' hbefore
      -- no entry behind the removed one has the path, since paths differ
      refine Bool.eq_false_iff.2 fun hsame => ?_
      have hpaths := h.paths
      rw [hsplit, List.map_append, List.map_cons, List.nodup_append] at hpaths
      refine (List.nodup_cons.1 hpaths.2.1).1 (List.mem_map.2 ⟨e', hafter, ?_⟩)
      exact (Path.beq_iff.1 hsame).trans hpath.symm

/-- A removal gives the device at the path, asks nothing, and takes nothing else away. -/
theorem exists_removes (K : Kernel κ σ) (h : r.WellNumbered) (path : Path) :
    ∃ rest, Removes K r path rest ∧ ∀ s : σ,
      (r.remove path : Action κ σ _).dealings s = ((r.get? path, rest), s, []) := by
  cases htake : r.take? path with
  | none =>
      have hget := take?_eq_none_iff.1 htake
      refine ⟨r, removes_of_absent K hget, fun s => ?_⟩
      rw [dealings_remove_of_absent hget, hget]
  | some found =>
      obtain ⟨device, rest⟩ := found
      obtain ⟨l₁, e, l₂, hsplit, hfirst, hfound, rfl, rfl⟩ := exists_of_take?_eq_some htake
      refine ⟨_, removes_of_split h hsplit hfirst hfound, fun s => ?_⟩
      rw [dealings_remove, htake, h.get?_of_mem (by simp [hsplit]) hfound]

/-! ### Permanence -/

/-- Every device lasts until it is removed, and a removal takes away a device and nothing else. -/
structure Permanent (K : Kernel κ σ) (r : Registry κ) : Prop where
  lasts : ∀ (path : Path) (device : Device κ), r.get? path = some device →
    ∀ (later : List (Call κ)) (s : σ), Spares later path →
      Lasts K r ((r.perform K later).run s).value.2 path device
  /-- There is a device to take out when some entry has the path, however it is spelled. -/
  found : ∀ path, (r.get? path).isSome = true ↔ r.Occupied path
  removes : ∀ path, ∃ rest, Removes K r path rest ∧ ∀ s : σ,
    (r.remove path : Action κ σ _).dealings s = ((r.get? path, rest), s, [])

theorem Sound.permanent (K : Kernel κ σ) (h : r.Sound) : r.Permanent K := by
  constructor
  case lasts =>
      intro path device hget later s hspares
      obtain ⟨⟨steps, r'⟩, hperform⟩ : ∃ x, ((r.perform K later).run s).value = x := ⟨_, rfl⟩
      rw [hperform]
      have hlater := (h.perform hperform).toWellNumbered
      refine lasts_of_mem_entries h.toWellNumbered hlater hget fun e he hpath => ?_
      refine mem_entries_of_perform hperform he fun q hq => ?_
      rw [hpath]
      exact hspares q hq
  case found => exact fun path => isSome_get?_iff
  case removes => exact exists_removes K h.toWellNumbered

/-- **Registered devices are permanent after any run** from an empty registry. -/
theorem permanent_of_perform (K : Kernel κ σ) (scaleWithGpu : Bool) (calls : List (Call κ)) (s : σ) :
    (((empty scaleWithGpu).perform K calls).run s).value.2.Permanent K :=
  (sound_of_perform K scaleWithGpu calls s).permanent K

end Registry

end Scanout
