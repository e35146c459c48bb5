/-
**What a card's objects are, in terms of its replies.**

Enumerating a card takes many requests, and each object that is left out shortens the lists.  While
the card answers questions about its objects with fixed replies, none of that matters: an object is what
the replies about it say, or it is missing, and the lists are what is left of the kernel's lists, each
object at the position it has there.

Main definitions:

* `Scanout.Request.AboutObjects` — the questions about single objects and their properties;
* `Scanout.Replies.property`, `Scanout.Replies.crtc`, `Scanout.Replies.encoder`,
  `Scanout.Replies.connector`, `Scanout.Replies.plane` — what the replies say about one object;
* `Scanout.Replies.readable` — the objects of a list of ids that can be read;
* `Scanout.Replies.resources` — everything a card has.

Main results:

* `Scanout.mem_readable` — what is read stands in the kernel's list at the position it keeps;
* `Scanout.scripted_enumerate` — enumerating asks for the two lists and about objects, nothing else;
* `Scanout.enumerate_of_gives` — **enumerating gives what the replies say**.
-/

import Mathlib.Data.List.Nodup
import Scanout.Proofs.Script
import Scanout.Resources

set_option relaxedAutoImplicit false
set_option autoImplicit false

namespace Scanout

variable {κ σ ε α β : Type}

/-- The questions about single objects and their properties. -/
def Request.AboutObjects : Request → Prop
  | .connectorInfo _ | .encoderInfo _ | .crtcInfo _ | .planeInfo _ => True
  | .objectProperties .. | .propertyInfo _ => True
  | .setClientCapability .. | .driverCapability _ | .acquireMaster | .driverName => False
  | .resources | .planeIds | .createBlob _ | .destroyBlob _ => False

/-! ### What replies say -/

namespace Replies

variable (R : Replies κ) (card : κ)

/-- A property with its value, if it can be read and has a name. -/
def called (object : ObjectId) (name : String) (v : ObjectId × UInt64) : Option Property :=
  match R card (.propertyInfo v.1) with
  | .ok info => if info.name = name then some (.ofInfo object v.1 info v.2) else none
  | .error _ => none

/-- The first property of a name in a list. -/
def named (object : ObjectId) (name : String) (values : PropertyValues) : Option Property :=
  values.findSome? (R.called card object name)

/-- The property of an object with a name. -/
def property (object : ObjectId) (kind : ObjectKind) (name : String) :
    Except DeviceError Property := do
  let values ← (R card (.objectProperties object kind)).mapError (.propertyQueryFailed object)
  match R.named card object name values with
  | some property => return property
  | none => throw (.propertyNotFound object name)

/-- A CRTC at a position. -/
def crtc (id : ObjectId) (index : Nat) : Except ObjectError Crtc := do
  let info ← (R card (.crtcInfo id)).mapError (.noInfo "CRTC")
  let active ← (R.property card id .crtc "ACTIVE").mapError .property
  let modeId ← (R.property card id .crtc "MODE_ID").mapError .property
  return ⟨id, index, info.modeSize, active.id, modeId.id⟩

/-- An encoder at a position. -/
def encoder (id : ObjectId) (index : Nat) : Except ObjectError Encoder := do
  let info ← (R card (.encoderInfo id)).mapError (.noInfo "encoder")
  return ⟨id, index, info.currentCrtc, info.possibleCrtcs⟩

/-- A connector at a position. -/
def connector (id : ObjectId) (index : Nat) : Except ObjectError Connector := do
  let info ← (R card (.connectorInfo id)).mapError (.noInfo "connector")
  let crtcId ← (R.property card id .connector "CRTC_ID").mapError .property
  return ⟨id, index, info.interface, info.interfaceId, info.state, info.currentEncoder,
    info.encoders, crtcId.id⟩

/-- A plane. -/
def plane (id : ObjectId) : Except ObjectError Plane := do
  let info ← (R card (.planeInfo id)).mapError (.noInfo "plane")
  let type ← (R.property card id .plane "type").mapError .property
  match PlaneKind.ofCode? type.value with
  | some kind => return ⟨id, kind, info.currentCrtc, info.possibleCrtcs⟩
  | none => throw (.unknownPlaneType type.value)

/-- The objects of a list of ids that can be read, the first id at position `index`. -/
def readable (read : ObjectId → Nat → Except ObjectError α) (ids : List ObjectId) (index : Nat) :
    List α := (ids.zipIdx index).filterMap fun x => (read x.1 x.2).toOption

/-- Everything a card has that lists some objects and planes. -/
def resources (listed : ResourceList) (planeIds : List ObjectId) : Resources where
  connectors := (readable (R.connector card) listed.connectors 0).filter (!·.isWriteback)
  writebackConnectors := (readable (R.connector card) listed.connectors 0).filter (·.isWriteback)
  encoders := readable (R.encoder card) listed.encoders 0
  crtcs := readable (R.crtc card) listed.crtcs 0
  planes := readable (fun id _ => R.plane card id) planeIds 0
  bounds := listed.bounds

end Replies

section Readable

variable {read : ObjectId → Nat → Except ObjectError α} {id : ObjectId} {ids : List ObjectId}
  {index : Nat}

theorem readable_cons_ok {a : α} (h : read id index = .ok a) :
    Replies.readable read (id :: ids) index = a :: Replies.readable read ids (index + 1) := by
  rw [Replies.readable, List.zipIdx_cons, List.filterMap_cons, h]
  rfl

theorem readable_cons_error {e : ObjectError} (h : read id index = .error e) :
    Replies.readable read (id :: ids) index = Replies.readable read ids (index + 1) := by
  rw [Replies.readable, List.zipIdx_cons, List.filterMap_cons, h]
  rfl

/-- What is read stands in the list at the position that it was read at. -/
theorem mem_readable {a : α} :
    a ∈ Replies.readable read ids 0 ↔ ∃ id i, ids[i]? = some id ∧ read id i = .ok a := by
  simp only [Replies.readable, List.mem_filterMap, Prod.exists, List.mem_zipIdx_iff_getElem?]
  refine exists_congr fun id => exists_congr fun i => and_congr_right fun _ => ?_
  cases read id i with
  | error e => simp [Except.toOption]
  | ok b => simp [Except.toOption]

/-- Objects of a list without repeated ids have different ids. -/
theorem nodup_map_readable {key : α → ObjectId} (hkey : ∀ id i a, read id i = .ok a → key a = id)
    (hids : ids.Nodup) : ((Replies.readable read ids 0).map key).Nodup := by
  have hsub : ∀ (l : List ObjectId) (i : Nat),
      ((Replies.readable read l i).map key).Sublist l := by
    intro l
    induction l with
    | nil => exact fun _ => List.Sublist.slnil
    | cons id l ih =>
        intro i
        cases hread : read id i with
        | error e =>
            rw [readable_cons_error hread]
            exact (ih (i + 1)).cons id
        | ok a =>
            rw [readable_cons_ok hread, List.map_cons, hkey id i a hread]
            exact (ih (i + 1)).cons_cons id
  exact hids.sublist (hsub ids 0)

end Readable

/-! ### What reading an object asks -/

section Scripts

theorem scripted_findNamed (object : ObjectId) (kind : ObjectKind) (name : String)
    (values : PropertyValues) :
    Scripted Request.AboutObjects fun _ _ K card => findNamed K card object kind name values := by
  induction values with
  | nil => exact .pure none
  | cons v values ih =>
      obtain ⟨id, value⟩ := v
      refine .bind (.ask (q := .propertyInfo id) trivial) fun reply => ?_
      cases reply with
      | error e => exact .bind (.log _ _) fun _ => ih
      | ok info =>
          dsimp only
          split
          · exact .pure _
          · exact ih

theorem scripted_getProperty (object : ObjectId) (kind : ObjectKind) (name : String) :
    Scripted Request.AboutObjects fun _ _ K card => (getProperty K card object kind name).run := by
  refine .attemptBind (.demand trivial _) fun values => ?_
  refine .attemptBind (.lift (scripted_findNamed object kind name values)) fun found => ?_
  cases found with
  | none => exact .throw _
  | some property => exact .attemptPure _

theorem scripted_requireProperty (object : ObjectId) (kind : ObjectKind) (name : String) :
    Scripted Request.AboutObjects fun _ _ K card =>
      (requireProperty K card object kind name).run := by
  refine .bind (scripted_getProperty object kind name) fun r => ?_
  cases r with
  | error e => exact .pure _
  | ok property => exact .pure _

theorem scripted_readCrtc (id : ObjectId) (index : Nat) :
    Scripted Request.AboutObjects fun _ _ K card => (Crtc.read K card id index).run :=
  .attemptBind (.demand trivial _) fun _ =>
    .attemptBind (scripted_requireProperty id .crtc _) fun _ =>
      .attemptBind (scripted_requireProperty id .crtc _) fun _ => .attemptPure _

theorem scripted_readEncoder (id : ObjectId) (index : Nat) :
    Scripted Request.AboutObjects fun _ _ K card => (Encoder.read K card id index).run :=
  .attemptBind (.demand trivial _) fun _ => .attemptPure _

theorem scripted_readConnector (id : ObjectId) (index : Nat) :
    Scripted Request.AboutObjects fun _ _ K card => (Connector.read K card id index).run :=
  .attemptBind (.demand trivial _) fun _ =>
    .attemptBind (scripted_requireProperty id .connector _) fun _ => .attemptPure _

theorem scripted_readPlane (id : ObjectId) :
    Scripted Request.AboutObjects fun _ _ K card => (Plane.read K card id).run := by
  refine .attemptBind (.demand trivial _) fun info => ?_
  refine .attemptBind (scripted_requireProperty id .plane _) fun type => ?_
  cases PlaneKind.ofCode? type.value with
  | none => exact .throw _
  | some kind => exact .attemptPure _

theorem scripted_readAll {P : Request → Prop} (subject : String)
    {read : ObjectId → Nat → ∀ κ σ : Type, Kernel κ σ → κ → Attempt κ σ ObjectError α}
    (hread : ∀ id i, Scripted P fun κ σ K card => (read id i κ σ K card).run)
    (ids : List ObjectId) : ∀ index, Scripted P fun κ σ K card =>
      readAll subject (fun id i => read id i κ σ K card) ids index := by
  induction ids with
  | nil => exact fun _ => .pure _
  | cons id ids ih =>
      intro index
      refine .bind (hread id index) fun r => ?_
      cases r with
      | ok object => exact .bind (ih (index + 1)) fun _ => .pure _
      | error e => exact .bind (.log _ _) fun _ => ih (index + 1)

end Scripts

/-! ### What reading an object gives -/

section Settles

variable (K : Kernel κ σ) (R : Replies κ) (card : κ)

/-- An attempt that begins with a demand goes on with the reply. -/
theorem settles_demand_bind {kind : Request → Prop} {q : Request} (hq : kind q)
    (wrap : SystemError → ε) {f : q.Reply → Attempt κ σ ε β} {g : q.Reply → Except ε β}
    (hf : ∀ reply, (f reply).run.Settles K R kind (g reply)) :
    (K.demand card q wrap >>= f).run.Settles K R kind ((R card q).mapError wrap >>= g) :=
  Attempt.settles_bind (Attempt.talks_demand (P := onCard card kind) ⟨rfl, hq⟩ wrap)
    (Attempt.settles_demand hq wrap) hf

theorem settles_findNamed (object : ObjectId) (kind : ObjectKind) (name : String)
    (values : PropertyValues) :
    (findNamed K card object kind name values).Settles K R Request.AboutObjects
      (R.named card object name values) := by
  induction values with
  | nil => exact .pure none
  | cons v values ih =>
      obtain ⟨id, value⟩ := v
      refine .bind (.ask (P := onCard card Request.AboutObjects) ⟨rfl, trivial⟩) (.ask trivial) ?_
      rw [Replies.named, List.findSome?_cons, Replies.called]
      cases R card (.propertyInfo id) with
      | error e => exact .bind (.log (P := onCard card Request.AboutObjects) _ _) (.log _ _) ih
      | ok info =>
          dsimp only
          by_cases hname : info.name = name
          · rw [if_pos hname, if_pos hname]
            exact .pure _
          · rw [if_neg hname, if_neg hname]
            exact ih

theorem settles_getProperty (object : ObjectId) (kind : ObjectKind) (name : String) :
    (getProperty K card object kind name).run.Settles K R Request.AboutObjects
      (R.property card object kind name) := by
  refine settles_demand_bind K R card (by trivial) _ fun values => ?_
  have htalks := (scripted_findNamed object kind name values).talks K card
  refine .bind (Attempt.talks_lift htalks)
    (Attempt.settles_lift htalks (settles_findNamed K R card object kind name values)) ?_
  cases R.named card object name values with
  | none => exact .pure _
  | some property => exact .pure _

theorem settles_requireProperty (object : ObjectId) (kind : ObjectKind) (name : String) :
    (requireProperty K card object kind name).run.Settles K R Request.AboutObjects
      ((R.property card object kind name).mapError .property) := by
  refine .bind ((scripted_getProperty object kind name).talks K card)
    (settles_getProperty K R card object kind name) ?_
  cases R.property card object kind name with
  | error e => exact .pure _
  | ok property => exact .pure _

theorem settles_readCrtc (id : ObjectId) (index : Nat) :
    (Crtc.read K card id index).run.Settles K R Request.AboutObjects (R.crtc card id index) :=
  settles_demand_bind K R card (by trivial) _ fun _ =>
  Attempt.settles_bind ((scripted_requireProperty id .crtc _).talks K card)
    (settles_requireProperty K R card id .crtc _) fun _ =>
  Attempt.settles_bind ((scripted_requireProperty id .crtc _).talks K card)
    (settles_requireProperty K R card id .crtc _) fun _ => .pure _

theorem settles_readEncoder (id : ObjectId) (index : Nat) :
    (Encoder.read K card id index).run.Settles K R Request.AboutObjects (R.encoder card id index) :=
  settles_demand_bind K R card (by trivial) _ fun _ => .pure _

theorem settles_readConnector (id : ObjectId) (index : Nat) :
    (Connector.read K card id index).run.Settles K R Request.AboutObjects
      (R.connector card id index) :=
  settles_demand_bind K R card (by trivial) _ fun _ =>
  Attempt.settles_bind ((scripted_requireProperty id .connector _).talks K card)
    (settles_requireProperty K R card id .connector _) fun _ => .pure _

theorem settles_readPlane (id : ObjectId) :
    (Plane.read K card id).run.Settles K R Request.AboutObjects (R.plane card id) := by
  refine settles_demand_bind K R card (by trivial) _ fun info => ?_
  refine Attempt.settles_bind ((scripted_requireProperty id .plane _).talks K card)
    (settles_requireProperty K R card id .plane _) fun type => ?_
  cases PlaneKind.ofCode? type.value with
  | none => exact .pure _
  | some kind => exact .pure _

variable {K R card} {kind P : Request → Prop}

/-- Reading a list leaves the objects that can be read. -/
theorem settles_readAll (subject : String)
    {read : ObjectId → Nat → ∀ κ σ : Type, Kernel κ σ → κ → Attempt κ σ ObjectError α}
    {spec : ObjectId → Nat → Except ObjectError α}
    (hscript : ∀ id i, Scripted P fun κ σ K card => (read id i κ σ K card).run)
    (hread : ∀ id i, (read id i κ σ K card).run.Settles K R kind (spec id i))
    (ids : List ObjectId) : ∀ index,
    (readAll subject (fun id i => read id i κ σ K card) ids index).Settles K R kind
      (Replies.readable spec ids index) := by
  induction ids with
  | nil => exact fun _ => .pure _
  | cons id ids ih =>
      intro index
      refine .bind ((hscript id index).talks K card) (hread id index) ?_
      cases hspec : spec id index with
      | error e =>
          rw [readable_cons_error hspec]
          exact .bind (.log (P := onCard card P) _ _) (.log _ _) (ih (index + 1))
      | ok object =>
          rw [readable_cons_ok hspec]
          have htalks := (scripted_readAll subject hscript ids (index + 1)).talks K card
          exact .bind htalks (ih (index + 1)) (.pure _)

end Settles

/-! ### Enumerating a card -/

/-- The part of an enumeration that follows the two lists. -/
def readListed (K : Kernel κ σ) (card : κ) (listed : ResourceList) (planeIds : List ObjectId) :
    Action κ σ Resources := do
  let crtcs ← readAll "CRTC" (Crtc.read K card) listed.crtcs 0
  let encoders ← readAll "encoder" (Encoder.read K card) listed.encoders 0
  let connectors ← readAll "connector" (Connector.read K card) listed.connectors 0
  let planes ← readAll "plane" (fun id _ => Plane.read K card id) planeIds 0
  let resources : Resources := {
    connectors := connectors.filter (!·.isWriteback)
    writebackConnectors := connectors.filter (·.isWriteback)
    encoders := encoders
    crtcs := crtcs
    planes := planes
    bounds := listed.bounds }
  Action.debug resources.summary
  return resources

theorem enumerate_eq (K : Kernel κ σ) (card : κ) : enumerate K card = (do
    let listed ← K.demand card .resources (.noResources "resources")
    let planeIds ← K.demand card .planeIds (.noResources "plane resources")
    ExceptT.lift (readListed K card listed planeIds)) := rfl

variable {K : Kernel κ σ} {card : κ}

theorem scripted_readListed (listed : ResourceList) (planeIds : List ObjectId) :
    Scripted Request.AboutObjects fun _ _ K card => readListed K card listed planeIds :=
  .bind (scripted_readAll _ scripted_readCrtc _ 0) fun _ =>
  .bind (scripted_readAll _ scripted_readEncoder _ 0) fun _ =>
  .bind (scripted_readAll _ scripted_readConnector _ 0) fun _ =>
  .bind (scripted_readAll _ (fun id _ => scripted_readPlane id) _ 0) fun _ =>
  .bind (.log _ _) fun _ => .pure _

theorem settles_readListed (R : Replies κ) (listed : ResourceList) (planeIds : List ObjectId) :
    (readListed K card listed planeIds).Settles K R Request.AboutObjects
      (R.resources card listed planeIds) :=
  .bind ((scripted_readAll _ scripted_readCrtc _ 0).talks K card)
    (settles_readAll _ scripted_readCrtc (settles_readCrtc K R card) _ 0) <|
  .bind ((scripted_readAll _ scripted_readEncoder _ 0).talks K card)
    (settles_readAll _ scripted_readEncoder (settles_readEncoder K R card) _ 0) <|
  .bind ((scripted_readAll _ scripted_readConnector _ 0).talks K card)
    (settles_readAll _ scripted_readConnector (settles_readConnector K R card) _ 0) <|
  .bind ((scripted_readAll _ (fun id _ => scripted_readPlane id) _ 0).talks K card)
    (settles_readAll _ (fun id _ => scripted_readPlane id)
      (fun id _ => settles_readPlane K R card id) _ 0) <|
  .bind (.log (P := onCard card Request.AboutObjects) _ _) (.log _ _) (.pure _)

/-- The requests of an enumeration. -/
def Request.Enumerates (q : Request) : Prop := q = .resources ∨ q = .planeIds ∨ q.AboutObjects

/-- Enumerating asks for the two lists and about objects, nothing else. -/
theorem scripted_enumerate :
    Scripted Request.Enumerates fun _ _ K card => (enumerate K card).run := by
  refine .attemptBind (.demand (.inl rfl) _) fun listed => ?_
  refine .attemptBind (.demand (.inr (.inl rfl)) _) fun planeIds => ?_
  exact .lift ((scripted_readListed listed planeIds).mono fun q hq => .inr (.inr hq))

/-- What a card is asked when it can name its objects: the two lists, once each, and then about the
objects. -/
theorem exchanges_enumerate {s t u : σ} {listed : ResourceList} {planeIds : List ObjectId}
    (hlisted : K.answer card .resources s = (.ok listed, t))
    (hplanes : K.answer card .planeIds t = (.ok planeIds, u)) :
    (enumerate K card).run.exchanges K s = ⟨card, .resources, .ok listed⟩ ::
      ⟨card, .planeIds, .ok planeIds⟩ :: (readListed K card listed planeIds).exchanges K u := by
  have hdemand : ∀ {q : Request} {wrap : SystemError → DeviceError},
      (K.demand card q wrap).run.Talks K (fun _ _ => True) := Attempt.talks_demand trivial _
  rw [enumerate_eq, Attempt.exchanges_bind hdemand (Attempt.gives_demand_iff.2 hlisted),
    Attempt.exchanges_bind hdemand (Attempt.gives_demand_iff.2 hplanes), Attempt.exchanges_demand,
    Attempt.exchanges_demand, Attempt.exchanges_lift ((scripted_readListed _ _).talks K card), hlisted,
    hplanes]
  rfl

/-- **Enumerating gives what the replies say.**  The two lists are asked for once, before everything
else. -/
theorem enumerate_of_gives {s s' : σ} {r : Resources} (h : (enumerate K card).Gives s r s') :
    ∃ listed planeIds rest, (enumerate K card).run.exchanges K s =
      ⟨card, .resources, .ok listed⟩ :: ⟨card, .planeIds, .ok planeIds⟩ :: rest ∧
      (∀ e ∈ rest, e.card = card ∧ e.request.AboutObjects) ∧
      ∀ R : Replies κ, R.AgreesWith Request.AboutObjects rest →
        r = R.resources card listed planeIds := by
  rw [enumerate_eq] at h
  obtain ⟨listed, t, hlisted, h⟩ := Attempt.gives_bind_iff.1 h
  obtain ⟨planeIds, u, hplanes, h⟩ := Attempt.gives_bind_iff.1 h
  have htalks : (readListed K card listed planeIds).Talks K (onCard card Request.AboutObjects) :=
    (scripted_readListed listed planeIds).talks K card
  refine ⟨listed, planeIds, (readListed K card listed planeIds).exchanges K u,
    exchanges_enumerate (Attempt.gives_demand_iff.1 hlisted) (Attempt.gives_demand_iff.1 hplanes),
    fun e he => htalks.of_mem_exchanges he, fun R hR => ?_⟩
  rw [← (Attempt.gives_lift_iff.1 h).1]
  exact settles_readListed R listed planeIds u hR

end Scanout
