/-
**Enumeration selects.**

An enumeration goes through four lists, and each object takes up to three queries and a search through
properties before it is known whether it is kept.  What is kept can be said list by list: the ids that can
be used, in the order of the list, and none else.  Whether an id can be used is read off the replies about
it, and so is all that its object holds apart from its position, which is the one in the kernel's list.  An
id that is left out shifts nothing, and an id that two types of objects share leads to the properties of the
type that was asked for.

Main definitions:

* `Scanout.Replies.found?` — the first property of an object that is known by a name;
* `Scanout.Replies.hasCrtc`, `Scanout.Replies.hasEncoder`, `Scanout.Replies.hasConnector`,
  `Scanout.Replies.hasPlane` — whether an id can be used;
* `Scanout.Resources.SelectedFrom` — the objects of a card are what can be used of its lists;
* `Scanout.Enumerated` — how an enumeration ends.

Main results:

* `Scanout.Replies.property_eq_ok_iff` — a lookup gives the first property that is known by the name;
* `Scanout.map_filter_readable` — what is read of a list is a filter of it;
* `Scanout.enumerate_selects` — **an enumeration fails for want of a list, or selects from the lists**.
-/

import Scanout.Proofs.Wiring

set_option relaxedAutoImplicit false
set_option autoImplicit false

namespace Scanout

variable {κ σ α β : Type}

/-! ### What can be used -/

namespace Replies

variable (R : Replies κ) (card : κ)

/-- Whether a question is answered. -/
def answers (q : Request) : Bool := (R card q).isOk

/-- Whether a property is known by a name. -/
def isCalled (name : String) (id : ObjectId) : Bool :=
  match R card (.propertyInfo id) with
  | .ok info => info.name = name
  | .error _ => false

/-- The first property of an object that is known by a name, with its value. -/
def found? (object : ObjectId) (kind : ObjectKind) (name : String) : Option (ObjectId × UInt64) :=
  match R card (.objectProperties object kind) with
  | .ok values => values.find? (R.isCalled card name ·.1)
  | .error _ => none

/-- Whether a CRTC can be used. -/
def hasCrtc (id : ObjectId) : Bool :=
  R.answers card (.crtcInfo id) && (R.found? card id .crtc "ACTIVE").isSome &&
    (R.found? card id .crtc "MODE_ID").isSome

/-- Whether an encoder can be used. -/
def hasEncoder (id : ObjectId) : Bool := R.answers card (.encoderInfo id)

/-- Whether a connector can be used, be it for a screen or to write to memory. -/
def hasConnector (id : ObjectId) : Bool :=
  R.answers card (.connectorInfo id) && (R.found? card id .connector "CRTC_ID").isSome

/-- Whether a connector writes to memory. -/
def writesBack (id : ObjectId) : Bool :=
  match R card (.connectorInfo id) with
  | .ok info => info.interface = .writeback
  | .error _ => false

/-- Whether a plane can be used. -/
def hasPlane (id : ObjectId) : Bool :=
  R.answers card (.planeInfo id) && (R.found? card id .plane "type").any ([0, 1, 2].contains ·.2)

end Replies

/-- The objects of a card are what can be used of its lists, and hold what the card replies about them.
Connectors that write to memory are kept apart; each kind keeps its order, and positions count both. -/
structure Resources.SelectedFrom (R : Replies κ) (card : κ) (listed : ResourceList)
    (planeIds : List ObjectId) (r : Resources) : Prop where
  crtcs : r.crtcs.map (fun c => (c.id, c.index)) = listed.crtcs.zipIdx.filter (R.hasCrtc card ·.1)
  encoders : r.encoders.map (fun e => (e.id, e.index)) =
    listed.encoders.zipIdx.filter (R.hasEncoder card ·.1)
  connectors : r.connectors.map (fun c => (c.id, c.index)) =
    listed.connectors.zipIdx.filter fun x => R.hasConnector card x.1 && !R.writesBack card x.1
  writebackConnectors : r.writebackConnectors.map (fun c => (c.id, c.index)) =
    listed.connectors.zipIdx.filter fun x => R.hasConnector card x.1 && R.writesBack card x.1
  planes : r.planes.map (·.id) = planeIds.filter (R.hasPlane card)
  crtc : ∀ c ∈ r.crtcs, ∃ info active modeId, R card (.crtcInfo c.id) = .ok info ∧
    R.found? card c.id .crtc "ACTIVE" = some active ∧
    R.found? card c.id .crtc "MODE_ID" = some modeId ∧
    c.modeSize = info.modeSize ∧ c.active = active.1 ∧ c.modeId = modeId.1
  encoder : ∀ e ∈ r.encoders, ∃ info, R card (.encoderInfo e.id) = .ok info ∧
    e.currentCrtc = info.currentCrtc ∧ e.possibleCrtcs = info.possibleCrtcs
  connector : ∀ c ∈ r.connectors ++ r.writebackConnectors, ∃ info crtcId,
    R card (.connectorInfo c.id) = .ok info ∧
    R.found? card c.id .connector "CRTC_ID" = some crtcId ∧
    c.interface = info.interface ∧ c.interfaceId = info.interfaceId ∧ c.state = info.state ∧
    c.currentEncoder = info.currentEncoder ∧ c.encoders = info.encoders ∧ c.crtcId = crtcId.1
  plane : ∀ p ∈ r.planes, ∃ info type, R card (.planeInfo p.id) = .ok info ∧
    R.found? card p.id .plane "type" = some type ∧
    (type.2, p.kind) ∈ [(0, PlaneKind.overlay), (1, .primary), (2, .cursor)] ∧
    p.currentCrtc = info.currentCrtc ∧ p.possibleCrtcs = info.possibleCrtcs
  bounds : r.bounds = listed.bounds

/-! ### Objects in terms of what is found -/

theorem PlaneKind.ofCode?_eq_some_iff {value : UInt64} {kind : PlaneKind} :
    PlaneKind.ofCode? value = some kind ↔
      (value, kind) ∈ [(0, PlaneKind.overlay), (1, .primary), (2, .cursor)] := by
  by_cases hoverlay : value = 0
  · subst hoverlay
    cases kind <;> decide
  by_cases hprimary : value = 1
  · subst hprimary
    cases kind <;> decide
  by_cases hcursor : value = 2
  · subst hcursor
    cases kind <;> decide
  · have hnone : PlaneKind.ofCode? value = none := by
      simp [PlaneKind.ofCode?, PlaneKind.code, Ne.symm hoverlay, Ne.symm hprimary, Ne.symm hcursor]
    simp [hnone, hoverlay, hprimary, hcursor]

theorem PlaneKind.exists_ofCode?_iff {value : UInt64} :
    (∃ kind, PlaneKind.ofCode? value = some kind) ↔ [0, 1, 2].contains value = true := by
  simp only [PlaneKind.ofCode?_eq_some_iff]
  simp [exists_or]

namespace Replies

variable {R : Replies κ} {card : κ} {object id : ObjectId} {kind : ObjectKind} {name : String}
  {index : Nat}

theorem answers_iff {q : Request} : R.answers card q = true ↔ ∃ reply, R card q = .ok reply := by
  rw [answers]
  cases R card q with
  | error e => simp [Except.isOk, Except.toBool]
  | ok reply => simp [Except.isOk, Except.toBool]

theorem isCalled_iff : R.isCalled card name id = true ↔
    ∃ info, R card (.propertyInfo id) = .ok info ∧ info.name = name := by
  rw [isCalled]
  cases R card (.propertyInfo id) with
  | error e => simp
  | ok info => simp

theorem isSome_called (v : ObjectId × UInt64) :
    (R.called card object name v).isSome = R.isCalled card name v.1 := by
  rw [Bool.eq_iff_iff, isSome_called_iff, isCalled_iff]

/-- The first property of a name is what the first item stands for that is known by the name. -/
theorem named_eq (values : PropertyValues) : R.named card object name values =
    (values.find? (R.isCalled card name ·.1)).bind (R.called card object name) := by
  induction values with
  | nil => rfl
  | cons v values ih =>
      have hv : (R.called card object name v).isSome = R.isCalled card name v.1 := isSome_called v
      rw [named, List.findSome?_cons, List.find?_cons, ← hv]
      cases hcalled : R.called card object name v with
      | none => exact ih
      | some p => exact hcalled.symm

/-- A lookup gives what the first item stands for that is known by the name. -/
theorem property_eq_ok_iff_called {p : Property} : R.property card object kind name = .ok p ↔
    ∃ v, R.found? card object kind name = some v ∧ R.called card object name v = some p := by
  simp only [property, bind_eq_ok_iff, mapError_eq_ok_iff, found?]
  cases R card (.objectProperties object kind) with
  | error e => simp
  | ok values =>
      simp only [Except.ok.injEq, exists_eq_left', ← Option.bind_eq_some_iff, ← named_eq]
      cases R.named card object name values with
      | none => simp [throw, throwThe, MonadExceptOf.throw]
      | some q => simp [pure, Except.pure]

/-- **A lookup gives the first property that is known by the name.** -/
theorem property_eq_ok_iff {p : Property} : R.property card object kind name = .ok p ↔
    ∃ v info, R.found? card object kind name = some v ∧ R card (.propertyInfo v.1) = .ok info ∧
      info.name = name ∧ p = .ofInfo object v.1 info v.2 := by
  simp only [property_eq_ok_iff_called, called_eq_some_iff, exists_and_left]

theorem isCalled_of_found? {v : ObjectId × UInt64} (h : R.found? card object kind name = some v) :
    R.isCalled card name v.1 = true := by
  rw [found?] at h
  cases hvalues : R card (.objectProperties object kind) with
  | error e => simp [hvalues] at h
  | ok values =>
      rw [hvalues] at h
      simpa using List.find?_some h

/-- Something is found exactly when the lookup succeeds. -/
theorem isSome_found?_iff : (R.found? card object kind name).isSome = true ↔
    ∃ p, R.property card object kind name = .ok p := by
  rw [Option.isSome_iff_exists]
  constructor
  · rintro ⟨v, hv⟩
    obtain ⟨info, hinfo, hname⟩ := isCalled_iff.1 (isCalled_of_found? hv)
    exact ⟨_, property_eq_ok_iff.2 ⟨v, info, hv, hinfo, hname, rfl⟩⟩
  · rintro ⟨p, hp⟩
    obtain ⟨v, info, hv, -⟩ := property_eq_ok_iff.1 hp
    exact ⟨v, hv⟩

theorem plane_eq_ok_iff {p : Plane} : R.plane card id = .ok p ↔ ∃ info type kind,
    R card (.planeInfo id) = .ok info ∧ R.property card id .plane "type" = .ok type ∧
    PlaneKind.ofCode? type.value = some kind ∧
    p = ⟨id, kind, info.currentCrtc, info.possibleCrtcs⟩ := by
  simp only [plane, bind_eq_ok_iff, mapError_eq_ok_iff, exists_and_left]
  refine exists_congr fun info => and_congr_right fun _ => exists_congr fun type =>
    and_congr_right fun _ => ?_
  cases PlaneKind.ofCode? type.value with
  | none => simp [throw, throwThe, MonadExceptOf.throw]
  | some kind => simp [pure, Except.pure, @eq_comm _ p]

/-! ### Usable ids are those that can be read -/

theorem hasCrtc_iff (index : Nat) :
    R.hasCrtc card id = true ↔ ∃ c, R.crtc card id index = .ok c := by
  simp only [hasCrtc, Bool.and_eq_true, answers_iff, isSome_found?_iff, crtc_eq_ok_iff]
  constructor
  · rintro ⟨⟨⟨info, hinfo⟩, active, hactive⟩, modeId, hmodeId⟩
    exact ⟨_, info, active, modeId, hinfo, hactive, hmodeId, rfl⟩
  · rintro ⟨_, info, active, modeId, hinfo, hactive, hmodeId, -⟩
    exact ⟨⟨⟨info, hinfo⟩, active, hactive⟩, modeId, hmodeId⟩

theorem hasEncoder_iff (index : Nat) :
    R.hasEncoder card id = true ↔ ∃ e, R.encoder card id index = .ok e := by
  simp only [hasEncoder, answers_iff, encoder_eq_ok_iff]
  constructor
  · rintro ⟨info, hinfo⟩
    exact ⟨_, info, hinfo, rfl⟩
  · rintro ⟨_, info, hinfo, -⟩
    exact ⟨info, hinfo⟩

theorem hasConnector_iff (index : Nat) :
    R.hasConnector card id = true ↔ ∃ c, R.connector card id index = .ok c := by
  simp only [hasConnector, Bool.and_eq_true, answers_iff, isSome_found?_iff, connector_eq_ok_iff]
  constructor
  · rintro ⟨⟨info, hinfo⟩, crtcId, hcrtcId⟩
    exact ⟨_, info, crtcId, hinfo, hcrtcId, rfl⟩
  · rintro ⟨_, info, crtcId, hinfo, hcrtcId, -⟩
    exact ⟨⟨info, hinfo⟩, crtcId, hcrtcId⟩

theorem isWriteback_of_connector {c : Connector} (h : R.connector card id index = .ok c) :
    c.isWriteback = R.writesBack card id := by
  obtain ⟨info, property, hinfo, -, rfl⟩ := connector_eq_ok_iff.1 h
  rw [writesBack, hinfo]
  rfl

/-- Whether a connector is kept can be told from whether it writes to memory. -/
theorem hasConnector_and_iff (keep : Bool → Bool) (index : Nat) :
    (R.hasConnector card id && keep (R.writesBack card id)) = true ↔
      ∃ c, R.connector card id index = .ok c ∧ keep c.isWriteback = true := by
  rw [Bool.and_eq_true, hasConnector_iff index]
  constructor
  · rintro ⟨⟨c, hc⟩, hkeep⟩
    exact ⟨c, hc, isWriteback_of_connector hc ▸ hkeep⟩
  · rintro ⟨c, hc, hkeep⟩
    exact ⟨⟨c, hc⟩, isWriteback_of_connector hc ▸ hkeep⟩

theorem hasPlane_iff : R.hasPlane card id = true ↔ ∃ p, R.plane card id = .ok p := by
  simp only [hasPlane, Bool.and_eq_true, answers_iff, plane_eq_ok_iff, Option.any_eq_true]
  constructor
  · rintro ⟨⟨info, hinfo⟩, v, hv, hvalue⟩
    obtain ⟨property, hproperty, hname⟩ := isCalled_iff.1 (isCalled_of_found? hv)
    obtain ⟨kind, hkind⟩ := PlaneKind.exists_ofCode?_iff.2 hvalue
    exact ⟨_, info, _, kind, hinfo, property_eq_ok_iff.2 ⟨v, property, hv, hproperty, hname, rfl⟩,
      hkind, rfl⟩
  · rintro ⟨_, info, type, kind, hinfo, htype, hkind, -⟩
    obtain ⟨v, property, hv, -, -, rfl⟩ := property_eq_ok_iff.1 htype
    exact ⟨⟨info, hinfo⟩, v, hv, PlaneKind.exists_ofCode?_iff.1 ⟨kind, hkind⟩⟩

end Replies

/-! ### Lists in terms of usable ids -/

/-- What is read of a list and kept is a filter of it. -/
theorem map_filter_readable {read : ObjectId → Nat → Except ObjectError α} (keep : α → Bool)
    {usable : ObjectId × Nat → Bool} {place : α → β} (listing : ObjectId × Nat → β)
    (hplace : ∀ id i a, read id i = .ok a → place a = listing (id, i))
    (husable : ∀ id i, usable (id, i) = true ↔ ∃ a, read id i = .ok a ∧ keep a = true)
    (ids : List ObjectId) : ∀ index, ((Replies.readable read ids index).filter keep).map place =
      ((ids.zipIdx index).filter usable).map listing := by
  induction ids with
  | nil => exact fun _ => rfl
  | cons id ids ih =>
      intro index
      rw [List.zipIdx_cons]
      -- an id is read and kept, or it is missing on both sides; the rest starts one position later anyway
      cases hread : read id index with
      | error e =>
          have hunusable : ¬ usable (id, index) = true := by
            rw [husable id index, hread]
            rintro ⟨a, ha, -⟩
            cases ha
          rw [readable_cons_error hread, List.filter_cons_of_neg hunusable, ih]
      | ok a =>
          have hkeep : usable (id, index) = true ↔ keep a = true := by
            rw [husable id index, hread]
            simp only [Except.ok.injEq, exists_eq_left']
          rw [readable_cons_ok hread]
          by_cases hkept : keep a = true
          · rw [List.filter_cons_of_pos hkept, List.filter_cons_of_pos (hkeep.2 hkept), List.map_cons,
              List.map_cons, hplace id index a hread, ih]
          · rw [List.filter_cons_of_neg hkept, List.filter_cons_of_neg (mt hkeep.1 hkept), ih]

/-- Objects that know their positions are the selected ids with their positions. -/
theorem map_place_filter_readable {read : ObjectId → Nat → Except ObjectError α} (keep : α → Bool)
    {usable : ObjectId × Nat → Bool} {place : α → ObjectId × Nat}
    (hplace : ∀ id i a, read id i = .ok a → place a = (id, i))
    (husable : ∀ id i, usable (id, i) = true ↔ ∃ a, read id i = .ok a ∧ keep a = true)
    (ids : List ObjectId) : ((Replies.readable read ids 0).filter keep).map place =
      ids.zipIdx.filter usable := by
  have h := map_filter_readable keep (fun x => x) hplace husable ids 0
  rwa [List.map_id'] at h

theorem map_place_readable {read : ObjectId → Nat → Except ObjectError α}
    {usable : ObjectId × Nat → Bool} {place : α → ObjectId × Nat}
    (hplace : ∀ id i a, read id i = .ok a → place a = (id, i))
    (husable : ∀ id i, usable (id, i) = true ↔ ∃ a, read id i = .ok a) (ids : List ObjectId) :
    (Replies.readable read ids 0).map place = ids.zipIdx.filter usable := by
  have h := map_place_filter_readable (fun _ => true) hplace (by simpa using husable) ids
  rwa [List.filter_true] at h

/-- Objects that do not know their positions are the selected ids. -/
theorem map_id_readable (read : ObjectId → Except ObjectError α) {usable : ObjectId → Bool}
    {key : α → ObjectId} (hkey : ∀ id a, read id = .ok a → key a = id)
    (husable : ∀ id, usable id = true ↔ ∃ a, read id = .ok a) (ids : List ObjectId) :
    (Replies.readable (fun id _ => read id) ids 0).map key = ids.filter usable := by
  have h : ((Replies.readable (fun id _ => read id) ids 0).filter fun _ => true).map key =
      (ids.zipIdx.filter (usable ·.1)).map (·.1) :=
    map_filter_readable _ _ (fun id _ => hkey id) (by simpa using husable) ids 0
  rw [List.filter_true] at h
  have hfst := List.filter_map (p := usable) (f := Prod.fst) (l := ids.zipIdx)
  rw [List.zipIdx_map_fst] at hfst
  exact h.trans hfst.symm

/-- **The objects that the replies tell of are selected from the lists.** -/
theorem Replies.selectedFrom_resources (R : Replies κ) (card : κ) (listed : ResourceList)
    (planeIds : List ObjectId) :
    (R.resources card listed planeIds).SelectedFrom R card listed planeIds := by
  have hplaced : ∀ (id : ObjectId) (i : Nat) (c : Connector), R.connector card id i = .ok c →
      (c.id, c.index) = (id, i) := by
    intro id i c hc
    obtain ⟨_, _, -, -, rfl⟩ := connector_eq_ok_iff.1 hc
    rfl
  constructor
  case crtcs =>
      refine map_place_readable (fun id i c hc => ?_) (fun _ => hasCrtc_iff) _
      obtain ⟨_, _, _, -, -, -, rfl⟩ := crtc_eq_ok_iff.1 hc
      rfl
  case encoders =>
      refine map_place_readable (fun id i e he => ?_) (fun _ => hasEncoder_iff) _
      obtain ⟨_, -, rfl⟩ := encoder_eq_ok_iff.1 he
      rfl
  case connectors =>
      exact map_place_filter_readable _ hplaced (fun _ => hasConnector_and_iff (!·)) _
  case writebackConnectors =>
      exact map_place_filter_readable _ hplaced (fun _ => hasConnector_and_iff fun b => b) _
  case planes =>
      refine map_id_readable (R.plane card) (fun id p hp => ?_) (fun _ => hasPlane_iff) _
      obtain ⟨_, _, _, -, -, -, rfl⟩ := plane_eq_ok_iff.1 hp
      rfl
  case crtc =>
      intro c hc
      obtain ⟨id, i, -, hread⟩ := mem_readable.1 hc
      obtain ⟨info, active, modeId, hinfo, hactive, hmodeId, rfl⟩ := crtc_eq_ok_iff.1 hread
      obtain ⟨v, _, hv, -, -, rfl⟩ := property_eq_ok_iff.1 hactive
      obtain ⟨w, _, hw, -, -, rfl⟩ := property_eq_ok_iff.1 hmodeId
      exact ⟨info, v, w, hinfo, hv, hw, rfl, rfl, rfl⟩
  case encoder =>
      intro e he
      obtain ⟨id, i, -, hread⟩ := mem_readable.1 he
      obtain ⟨info, hinfo, rfl⟩ := encoder_eq_ok_iff.1 hread
      exact ⟨info, hinfo, rfl, rfl⟩
  case connector =>
      intro c hc
      have hmem : c ∈ readable (R.connector card) listed.connectors 0 := by
        rcases List.mem_append.1 hc with hscreen | hmemory
        · exact List.mem_of_mem_filter hscreen
        · exact List.mem_of_mem_filter hmemory
      obtain ⟨id, i, -, hread⟩ := mem_readable.1 hmem
      obtain ⟨info, crtcId, hinfo, hcrtcId, rfl⟩ := connector_eq_ok_iff.1 hread
      obtain ⟨v, _, hv, -, -, rfl⟩ := property_eq_ok_iff.1 hcrtcId
      exact ⟨info, v, hinfo, hv, rfl, rfl, rfl, rfl, rfl, rfl⟩
  case plane =>
      intro p hp
      have hmem : p ∈ readable (fun id _ => R.plane card id) planeIds 0 := hp
      obtain ⟨id, i, -, hread⟩ := mem_readable.1 hmem
      obtain ⟨info, type, kind, hinfo, htype, hkind, rfl⟩ := plane_eq_ok_iff.1 hread
      obtain ⟨v, _, hv, -, -, rfl⟩ := property_eq_ok_iff.1 htype
      exact ⟨info, v, hinfo, hv, PlaneKind.ofCode?_eq_some_iff.1 hkind, rfl, rfl⟩
  case bounds => rfl

/-! ### How an enumeration ends -/

/-- How an enumeration ends.  It fails for want of one of the two lists, which are asked for in turn, or
it gives what can be used of them, by any fixed replies that agree with what the card said about its
objects. -/
inductive Enumerated (K : Kernel κ σ) (card : κ) (s : σ) : Except DeviceError Resources → Prop
  | unlisted {cause : SystemError} {t : σ} (hlisted : K.answer card .resources s = (.error cause, t)) :
    Enumerated K card s (.error (.noResources "resources" cause))
  | planesUnlisted {listed : ResourceList} {cause : SystemError} {t u : σ}
    (hlisted : K.answer card .resources s = (.ok listed, t))
    (hplanes : K.answer card .planeIds t = (.error cause, u)) :
    Enumerated K card s (.error (.noResources "plane resources" cause))
  | selected {listed : ResourceList} {planeIds : List ObjectId} {t u : σ} {r : Resources}
    (hlisted : K.answer card .resources s = (.ok listed, t))
    (hplanes : K.answer card .planeIds t = (.ok planeIds, u))
    (hselected : ∀ R : Replies κ,
      R.AgreesWith Request.AboutObjects ((enumerate K card).run.exchanges K s) →
        r.SelectedFrom R card listed planeIds) :
    Enumerated K card s (.ok r)

/-- **An enumeration fails for want of a list, or selects from the lists**, whichever objects cannot be
used. -/
theorem enumerate_selects (K : Kernel κ σ) (card : κ) (s : σ) :
    Enumerated K card s ((enumerate K card).run.run s).value := by
  rw [enumerate_eq]
  cases hlisted : K.answer card .resources s with
  | mk reply t =>
      cases reply with
      | error cause =>
          rw [Attempt.value_bind_of_error (Attempt.value_demand hlisted _)]
          exact .unlisted hlisted
      | ok listed =>
          rw [Attempt.value_bind_of_gives (Attempt.gives_demand_iff.2 hlisted)]
          cases hplanes : K.answer card .planeIds t with
          | mk reply u =>
              cases reply with
              | error cause =>
                  rw [Attempt.value_bind_of_error (Attempt.value_demand hplanes _)]
                  exact .planesUnlisted hlisted hplanes
              | ok planeIds =>
                  rw [Attempt.value_bind_of_gives (Attempt.gives_demand_iff.2 hplanes)]
                  refine .selected hlisted hplanes fun R hR => ?_
                  rw [exchanges_enumerate hlisted hplanes] at hR
                  have hobjects := (Replies.agreesWith_append (l := [_, _])).1 hR
                  have hread := settles_readListed R listed planeIds u hobjects.2
                  exact hread ▸ R.selectedFrom_resources card listed planeIds

/-- A card with a CRTC, a connector and a plane that cannot be used.  A connector shares its id with a CRTC. -/
def MemoryCard.worn : MemoryCard := { MemoryCard.build [.bareCrtc 20, .crtc 21, .encoder 30 none 0b10,
  .bareConnector ⟨40, .displayPort, .connected, none, [30]⟩, .connector ⟨41, .writeback, .unknown, none, []⟩,
  .connector ⟨21, .hdmiA, .connected, none, [30]⟩, .rawPlane 50 7 0b10, .plane 51 .cursor 0b10] with
  writeback := true }

/-- CRTC 21 and connector 21 have properties of their own and keep their places. -/
theorem worn_selected : ∃ r, ((enumerate MemoryCard.kernel ()).run.run .worn).value = .ok r ∧
    r.SelectedFrom MemoryCard.worn.replies () ⟨[20, 21], [30], [40, 41, 21], MemoryCard.worn.bounds⟩
      [50, 51] ∧
    r.crtcs = [⟨21, 1, none, 1000, 1001⟩] ∧
    r.connectors = [⟨21, 2, .hdmiA, 1, .connected, none, [30], 1003⟩] ∧
    r.writebackConnectors = [⟨41, 1, .writeback, 1, .unknown, none, [], 1002⟩] ∧
    r.planes = [⟨51, .cursor, none, 0b10⟩] := by
  have h := enumerate_selects MemoryCard.kernel () .worn
  have hvalue : ((enumerate MemoryCard.kernel ()).run.run .worn).value =
      .ok ⟨[_], [_], [_], [_], [_], _⟩ := rfl
  rw [hvalue] at h
  cases h with
  | selected hlisted hplanes hselected =>
      cases hlisted
      cases hplanes
      exact ⟨_, rfl, hselected _ (MemoryCard.agreesWith_exchanges _ _), rfl, rfl, rfl, rfl⟩

end Scanout
