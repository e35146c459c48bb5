/-
**Adding a card.**

A card is registered or refused, and which of the checks decides matters to other programs: a card whose
path is taken is not asked anything, and one without screens is asked for its lists only, so that nobody
loses mastership to a probe.  A card that is refused, for whatever reason and however late, leaves the
registry as it was.

Main definitions:

* `Scanout.ListsScreens` — what a card has to reply for a probe to accept it;
* `Scanout.Registry.Addition` — how adding a card ends, check by check.

Main results:

* `Scanout.dealings_hasModeSetting` — a probe is one request;
* `Scanout.Registry.dealings_add_of_occupied`, `Scanout.Registry.dealings_add_of_unfit`,
  `Scanout.Registry.dealings_add_of_fit` — what adding comes to after each check;
* `Scanout.Registry.addition_of_make` — **how adding any card to any registry ends**.
-/

import Scanout.Proofs.Device
import Scanout.Proofs.Dialogue
import Scanout.Proofs.Registry.Run

set_option relaxedAutoImplicit false
set_option autoImplicit false

namespace Scanout

variable {κ σ : Type} {K : Kernel κ σ}

/-! ### Probing a card -/

/-- The reply lists at least one CRTC, one connector and one encoder. -/
def ListsScreens (reply : Except SystemError ResourceList) : Prop :=
  ∃ listed, reply = .ok listed ∧ listed.crtcs ≠ [] ∧ listed.connectors ≠ [] ∧ listed.encoders ≠ []

/-- A probe is one request. -/
theorem dealings_hasModeSetting (card : κ) (s : σ) :
    ∃ accepted, (accepted = true ↔ ListsScreens (K.answer card .resources s).1) ∧
      (hasModeSetting K card).dealings s =
        (accepted, (K.answer card .resources s).2, [(card, .resources)]) := by
  rw [hasModeSetting, Action.dealings_bind (Action.dealings_ask card .resources s)]
  cases (K.answer card .resources s).1 with
  | error e =>
      refine ⟨false, ?_, rfl⟩
      constructor
      · intro h
        cases h
      · rintro ⟨listed, hlisted, -⟩
        cases hlisted
  | ok listed =>
      refine ⟨!listed.crtcs.isEmpty && !listed.connectors.isEmpty && !listed.encoders.isEmpty, ?_, rfl⟩
      simp [ListsScreens, and_assoc]

namespace Registry

variable {r : Registry κ} {path : Path} {card : κ} {s : σ}

/-- Some entry has the path, however it is spelled. -/
def Occupied (r : Registry κ) (path : Path) : Prop :=
  ∃ e ∈ r.entries, e.1.components = path.components

theorem isSome_get?_iff : (r.get? path).isSome = true ↔ r.Occupied path := by
  rw [get?, Option.isSome_map, List.find?_isSome]
  simp only [Path.beq_iff, Occupied]

/-! ### Adding a card -/

/-- Makes a card a device and registers it without any check. -/
def register (K : Kernel κ σ) (r : Registry κ) (path : Path) (card : κ) :
    Attempt κ σ AddError (Nat × Registry κ) := do
  match ← ExceptT.lift (Device.init K card r.next).run with
  | .error e => throw (.initFailed path e)
  | .ok device =>
    let name ← ExceptT.lift (device.name K)
    ExceptT.lift <| Action.info <|
      s!"{path.quoted}: {device.displayCount} displays starting at {r.next}, driver {name}"
    return (device.displayCount, r.append path device)

theorem add_eq (K : Kernel κ σ) (r : Registry κ) (path : Path) (card : κ) :
    r.add K path card = (do
      ExceptT.lift (Action.log .debug s!"adding device: {path.quoted}")
      if (r.get? path).isSome then throw (.alreadyRegistered path)
      else do
        let accepted ← ExceptT.lift (hasModeSetting K card)
        if !accepted then throw (.notModeSetting path) else r.register K path card) := rfl

section Add

variable {t : σ} {asked : List (κ × Request)}

theorem dealings_register_of_error {cause : DeviceError}
    (h : (Device.init K card r.next).run.dealings s = (.error cause, t, asked)) :
    (r.register K path card).run.dealings s = (.error (.initFailed path cause), t, asked) := by
  have hlift := Attempt.dealings_lift (ε := AddError) h
  exact Action.dealings_bind_pure hlift rfl

theorem dealings_register_of_ok {device : Device κ}
    (h : (Device.init K card r.next).run.dealings s = (.ok device, t, asked)) :
    (r.register K path card).run.dealings s = (.ok (device.displayCount, r.append path device),
      (K.answer device.card .driverName t).2, asked ++ [(device.card, .driverName)]) := by
  obtain ⟨name, hname⟩ : ∃ name, (device.name K).dealings t =
      (name, (K.answer device.card .driverName t).2, [(device.card, .driverName)]) := by
    rw [Device.name, Action.dealings_bind (Action.dealings_ask device.card .driverName t)]
    cases (K.answer device.card .driverName t).1 with
    | error e => exact ⟨_, rfl⟩
    | ok name => exact ⟨name, rfl⟩
  rw [register, Attempt.dealings_lift_bind h, Attempt.dealings_lift_bind hname]
  rfl

theorem dealings_add_of_occupied (h : r.Occupied path) :
    (r.add K path card).run.dealings s = (.error (.alreadyRegistered path), s, []) := by
  rw [add_eq, Attempt.dealings_lift_bind (Action.dealings_log ..), if_pos (isSome_get?_iff.2 h)]
  rfl

section Free

variable (h : ¬ r.Occupied path)

include h

theorem dealings_add_of_unfit (hfound : ¬ ListsScreens (K.answer card .resources s).1) :
    (r.add K path card).run.dealings s =
      (.error (.notModeSetting path), (K.answer card .resources s).2, [(card, .resources)]) := by
  obtain ⟨accepted, haccepted, hprobe⟩ := dealings_hasModeSetting (K := K) card s
  have hrefused : accepted = false := Bool.eq_false_iff.2 fun hok => hfound (haccepted.1 hok)
  rw [add_eq, Attempt.dealings_lift_bind (Action.dealings_log ..),
    if_neg fun hsome => h (isSome_get?_iff.1 hsome), Attempt.dealings_lift_bind hprobe, hrefused]
  rfl

theorem dealings_add_of_fit (hfound : ListsScreens (K.answer card .resources s).1)
    {result : Except AddError (Nat × Registry κ)}
    (hregister : (r.register K path card).run.dealings (K.answer card .resources s).2 =
      (result, t, asked)) :
    (r.add K path card).run.dealings s = (result, t, (card, .resources) :: asked) := by
  obtain ⟨accepted, haccepted, hprobe⟩ := dealings_hasModeSetting (K := K) card s
  rw [add_eq, Attempt.dealings_lift_bind (Action.dealings_log ..),
    if_neg fun hsome => h (isSome_get?_iff.1 hsome), Attempt.dealings_lift_bind hprobe,
    haccepted.2 hfound, if_neg (by decide), hregister]
  rfl

end Free

/-- When a card is registered, and as which device. -/
theorem value_add_eq_ok_iff {count : Nat} {r' : Registry κ} :
    ((r.add K path card).run.run s).value = .ok (count, r') ↔ ¬ r.Occupied path ∧
      ListsScreens (K.answer card .resources s).1 ∧ ∃ device t,
        (Device.init K card r.next).Gives (K.answer card .resources s).2 device t ∧
        count = device.displayCount ∧ r' = r.append path device := by
  change ((r.add K path card).run.dealings s).1 = _ ↔ _
  by_cases hpath : r.Occupied path
  · simp [dealings_add_of_occupied hpath, hpath]
  by_cases hfound : ListsScreens (K.answer card .resources s).1
  · obtain ⟨⟨outcome, t, asked⟩, hinit⟩ :
        ∃ x, (Device.init K card r.next).run.dealings (K.answer card .resources s).2 = x := ⟨_, rfl⟩
    have houtcome : ((Device.init K card r.next).run.run (K.answer card .resources s).2).value =
        outcome := congrArg Prod.fst hinit
    cases outcome with
    | error cause =>
        rw [dealings_add_of_fit hpath hfound (dealings_register_of_error hinit)]
        constructor
        · intro h
          cases h
        · rintro ⟨-, -, device, _, ⟨hvalue, -⟩, -, -⟩
          rw [houtcome] at hvalue
          cases hvalue
    | ok device =>
        rw [dealings_add_of_fit hpath hfound (dealings_register_of_ok hinit)]
        constructor
        · intro h
          cases h
          exact ⟨hpath, hfound, device, _, ⟨houtcome, rfl⟩, rfl, rfl⟩
        · rintro ⟨-, -, device', _, ⟨hvalue, -⟩, rfl, rfl⟩
          rw [houtcome] at hvalue
          cases hvalue
          rfl
  · simp [dealings_add_of_unfit hpath hfound, hfound]

end Add

/-- A call that adds a card answers what came of it. -/
theorem dealings_make (K : Kernel κ σ) (r : Registry κ) (path : Path) (card : κ) (s : σ) :
    (r.make K (.add path card)).dealings s =
      (match ((r.add K path card).run.dealings s).1 with
        | .ok (count, r') => (.added count, r')
        | .error e => (.refused e, r),
      ((r.add K path card).run.dealings s).2) := by
  obtain ⟨⟨result, t, asked⟩, hadd⟩ : ∃ x, (r.add K path card).run.dealings s = x := ⟨_, rfl⟩
  rw [make, hadd]
  cases result with
  | error e => exact Action.dealings_bind_pure hadd rfl
  | ok result => exact Action.dealings_bind_pure hadd rfl

/-- How adding a card from the state `s` ends: the first check that it fails decides. -/
structure Addition (K : Kernel κ σ) (r : Registry κ) (path : Path) (card : κ) (s : σ) : Prop where
  /-- A path that is taken: nothing is asked. -/
  taken : r.Occupied path →
    (r.make K (.add path card)).dealings s = ((.refused (.alreadyRegistered path), r), s, [])
  /-- A card without screens: only its lists are asked for. -/
  unfit : ¬ r.Occupied path → ¬ ListsScreens (K.answer card .resources s).1 →
    (r.make K (.add path card)).dealings s =
      ((.refused (.notModeSetting path), r), (K.answer card .resources s).2, [(card, .resources)])
  /-- A card that does not become a device. -/
  failed : ¬ r.Occupied path → ListsScreens (K.answer card .resources s).1 → ∀ cause t asked,
    (Device.init K card r.next).run.dealings (K.answer card .resources s).2 =
      (.error cause, t, asked) →
    ∃ e : AddError, e.cause? = some cause ∧
      e.chain.toList = s!"error initializing {path.quoted}" :: cause.chain.toList ∧
      (r.make K (.add path card)).dealings s = ((.refused e, r), t, (card, .resources) :: asked)
  /-- A card that becomes a device. -/
  registered : ¬ r.Occupied path → ListsScreens (K.answer card .resources s).1 →
    ∀ device t asked,
    (Device.init K card r.next).run.dealings (K.answer card .resources s).2 =
      (.ok device, t, asked) →
    ∃ r' : Registry κ, r'.entries = r.entries ++ [(path, device)] ∧
      r'.next.val.toNat = r.next.val.toNat + device.displayCount ∧
      (r.make K (.add path card)).dealings s =
        ((.added device.displayCount, r'), (K.answer card .driverName t).2,
          (card, .resources) :: asked ++ [(card, .driverName)])

/-- **How adding any card to any registry ends.** -/
theorem addition_of_make (K : Kernel κ σ) (r : Registry κ) (path : Path) (card : κ) (s : σ) :
    Addition K r path card s := by
  constructor
  case taken =>
      intro hpath
      rw [dealings_make, dealings_add_of_occupied hpath]
  case unfit =>
      intro hpath hfound
      rw [dealings_make, dealings_add_of_unfit hpath hfound]
  case failed =>
      intro hpath hfound cause t asked hinit
      refine ⟨.initFailed path cause, rfl, rfl, ?_⟩
      rw [dealings_make, dealings_add_of_fit hpath hfound (dealings_register_of_error hinit)]
  case registered =>
      intro hpath hfound device t asked hinit
      have hgives : (Device.init K card r.next).Gives (K.answer card .resources s).2 device t := by
        obtain ⟨hvalue, hrest⟩ := Prod.mk.inj hinit
        exact ⟨hvalue, (Prod.mk.inj hrest).1⟩
      obtain ⟨rfl, -⟩ := Device.assign_of_gives_init hgives
      have hdevice := Device.numberedFrom_of_gives_init hgives
      refine ⟨r.append path device, rfl, ?_, ?_⟩
      · exact (congrArg (·.val.toNat) hdevice.nextDisplay).trans (DisplayId.toNat_advance hdevice.room)
      · rw [dealings_make, dealings_add_of_fit hpath hfound (dealings_register_of_ok hinit)]
        rfl

end Registry

end Scanout
