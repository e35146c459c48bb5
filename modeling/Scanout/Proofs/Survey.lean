/-
**Surveys: what initialization learns from a card.**

Initialization asks a card for capabilities and objects first, and needs nothing from it afterwards: the
routing is a computation.  So the survey decides, together with the first display id, whether a card
becomes a device and which one.  Surveys are scripts; cards that reply alike are therefore surveyed alike,
and become the same device.

Main definitions:

* `Scanout.survey` — negotiating and enumerating.

Main results:

* `Scanout.Device.gives_init_iff_survey` — **a card becomes a device when its survey can be routed**;
* `Scanout.Kernel.Alike.gives_survey` — **cards that reply alike are surveyed alike**;
* `Scanout.Registry.about_add` — adding a card asks this card only.
-/

import Scanout.Proofs.Registry.Addition
import Scanout.Proofs.Wiring

set_option relaxedAutoImplicit false
set_option autoImplicit false

namespace Scanout

variable {κ σ α : Type} {K : Kernel κ σ} {card other : κ} {s t s' : σ}

/-! ### Surveys -/

/-- Negotiates with a card and enumerates it. -/
def survey (K : Kernel κ σ) (card : κ) : Attempt κ σ DeviceError (Capabilities × Resources) := do
  let capabilities ← negotiate K card
  let resources ← enumerate K card
  return (capabilities, resources)

theorem scripted_survey : Scripted (fun _ => True) fun _ _ K card => (survey K card).run :=
  .attemptBind (scripted_negotiate.mono fun _ _ => trivial) fun _ =>
    .attemptBind (scripted_enumerate.mono fun _ _ => trivial) fun _ => .attemptPure _

/-- **A card becomes a device when its survey can be routed.** -/
theorem Device.gives_init_iff_survey {first : DisplayId} {d : Device κ} :
    (Device.init K card first).Gives s d s' ↔ d.card = card ∧
      (survey K card).Gives s (d.capabilities, d.resources) s' ∧
      Routing.assign d.resources.problem first = .ok d.assignment := by
  simp only [Device.gives_init_iff, survey, Attempt.gives_bind_iff, Attempt.gives_pure_iff]
  constructor
  · rintro ⟨hcard, t, hnegotiate, henumerate, hassign⟩
    exact ⟨hcard, ⟨_, t, hnegotiate, _, _, henumerate, rfl, rfl⟩, hassign⟩
  · rintro ⟨hcard, ⟨capabilities, t, hnegotiate, resources, _, henumerate, hsurvey, rfl⟩, hassign⟩
    obtain ⟨rfl, rfl⟩ := Prod.mk.inj hsurvey
    exact ⟨hcard, t, hnegotiate, henumerate, hassign⟩

/-- **Cards that reply alike are surveyed alike.** -/
theorem Kernel.Alike.gives_survey (h : K.Alike card s other t) {found : Capabilities × Resources}
    (hs : (survey K card).Gives s found s') :
    ∃ t', (survey K other).Gives t found t' ∧ K.Alike card s' other t' := by
  obtain ⟨hvalue, hstate⟩ := scripted_survey.alike h
  obtain ⟨hfound, rfl⟩ := hs
  exact ⟨_, ⟨hvalue.symm.trans hfound, rfl⟩, hstate⟩

/-! ### What is about one card -/

theorem about_hasModeSetting : (hasModeSetting K card).About K card := by
  refine .bind (.ask _) fun s => ?_
  cases ((K.ask card .resources).run s).value with
  | error e => exact .bind (.log _ _) fun _ => .pure _
  | ok listed => exact .pure _

namespace Device

theorem about_init (first : DisplayId) : (Device.init K card first).run.About K card :=
  Attempt.about_bind (scripted_negotiate.about K card) fun _ _ _ =>
  Attempt.about_bind (scripted_enumerate.about K card) fun _ _ _ =>
  Attempt.about_bind ((Routing.scripted_route (P := fun _ => True) _ _).about K card) fun _ _ _ =>
  Attempt.about_bind (Attempt.about_lift
    ((scripted_announce (P := fun _ => True) _).about K card)) fun _ _ _ => Attempt.about_pure _

theorem about_name (d : Device κ) : (d.name K).About K d.card := by
  refine .bind (.ask _) fun s => ?_
  cases ((K.ask d.card .driverName).run s).value with
  | error e => exact .bind (.log _ _) fun _ => .pure _
  | ok name => exact .pure _

end Device

namespace Registry

variable {r : Registry κ} {path : Path}

theorem about_add : (r.add K path card).run.About K card := by
  rw [add_eq]
  refine Attempt.about_bind (Attempt.about_lift (.log _ _)) fun _ _ _ => ?_
  split
  · exact Attempt.about_throw _
  refine Attempt.about_bind (Attempt.about_lift about_hasModeSetting) fun _ accepted _ => ?_
  split
  · exact Attempt.about_throw _
  refine Attempt.about_bind (Attempt.about_lift (Device.about_init _)) fun s outcome houtcome => ?_
  -- the name is asked of the card of the device, which is the card that was given
  cases outcome with
  | error e => exact Attempt.about_throw _
  | ok device =>
      have hgives : (Device.init K card r.next).Gives s device _ := ⟨Except.ok.inj houtcome, rfl⟩
      obtain ⟨rfl, -⟩ := Device.assign_of_gives_init hgives
      exact Attempt.about_bind (Attempt.about_lift device.about_name) fun _ _ _ =>
        Attempt.about_bind (Attempt.about_lift (.log _ _)) fun _ _ _ => Attempt.about_pure _

end Registry

end Scanout
