/-
**The protocol of an initialization.**

An initialization talks to a card in a fixed order: it negotiates, it asks for the two lists, and it visits
every listed object, type by type.  What is left out of this depends on failures, and there are failures of
three kinds.  A required call that fails is the last one.  An optional one changes nothing.  An object that
cannot be read ends its own visit, be it at its first question or in a search through its properties.  This
module writes the order down as a grammar of exchanges, with one rule for each way to go on.

Main definitions:

* `Scanout.Protocol.Search`, `Scanout.Protocol.Lookup`, `Scanout.Protocol.Lookups` — looking for a property,
  and for all that an object needs;
* `Scanout.Protocol.Visit`, `Scanout.Protocol.Tour` — visiting one object, and one after the other;
* `Scanout.Protocol.Negotiation`, `Scanout.Protocol.Enumeration`, `Scanout.Protocol.Course` — the parts of an
  initialization and the whole.

Main results:

* `Scanout.obeys_visit` — what is read of an object is a visit;
* `Scanout.obeys_negotiate`, `Scanout.obeys_enumerate`, `Scanout.Device.obeys_init` — **the exchanges of an
  initialization follow the grammar**.
-/

import Scanout.Proofs.Conduct
import Scanout.Proofs.Initialization

set_option relaxedAutoImplicit false
set_option autoImplicit false

namespace Scanout

variable {κ σ α β : Type}

namespace Protocol

/-! ### Looking for properties -/

section Grammar

variable (card : κ)

/-- Asking for the metadata of properties in turn, up to the first one of a name; and whether there is
one. -/
inductive Search (name : String) : PropertyValues → List (Exchange κ) → Bool → Prop
  | exhausted : Search name [] [] false
  | unreadable {id : ObjectId} {value : UInt64} {values : PropertyValues} {l : List (Exchange κ)}
      {found : Bool} (e : SystemError) (rest : Search name values l found) :
      Search name ((id, value) :: values) (⟨card, .propertyInfo id, .error e⟩ :: l) found
  | other {id : ObjectId} {value : UInt64} {values : PropertyValues} {l : List (Exchange κ)}
      {found : Bool} (info : PropertyInfo) (differs : info.name ≠ name)
      (rest : Search name values l found) :
      Search name ((id, value) :: values) (⟨card, .propertyInfo id, .ok info⟩ :: l) found
  | hit {id : ObjectId} {value : UInt64} {values : PropertyValues} (info : PropertyInfo)
      (same : info.name = name) :
      Search name ((id, value) :: values) [⟨card, .propertyInfo id, .ok info⟩] true

/-- Asking for the properties of an object and searching them. -/
inductive Lookup (object : ObjectId) (kind : ObjectKind) (name : String) :
    List (Exchange κ) → Bool → Prop
  | unlisted (e : SystemError) : Lookup object kind name [⟨card, .objectProperties object kind, .error e⟩] false
  | listed {l : List (Exchange κ)} {found : Bool} (values : PropertyValues)
      (search : Search card name values l found) :
      Lookup object kind name (⟨card, .objectProperties object kind, .ok values⟩ :: l) found

/-- Looking up the properties that an object must have, up to the first one that is not found. -/
inductive Lookups (object : ObjectId) : List (ObjectKind × String) → List (Exchange κ) → Prop
  | complete : Lookups object [] []
  | missing {kind : ObjectKind} {name : String} {l : List (Exchange κ)}
      (more : List (ObjectKind × String)) (lookup : Lookup card object kind name l false) :
      Lookups object ((kind, name) :: more) l
  | found {kind : ObjectKind} {name : String} {more : List (ObjectKind × String)}
      {l m : List (Exchange κ)} (lookup : Lookup card object kind name l true)
      (rest : Lookups object more m) : Lookups object ((kind, name) :: more) (l ++ m)

/-! ### Visiting objects -/

/-- The types of objects, in the order in which they are visited. -/
inductive Subject where
  | crtc
  | encoder
  | connector
  | plane

/-- The question about an object with which a visit begins. -/
def Subject.info : Subject → ObjectId → Request
  | .crtc => .crtcInfo
  | .encoder => .encoderInfo
  | .connector => .connectorInfo
  | .plane => .planeInfo

/-- The properties that an object must have. -/
def Subject.required : Subject → List (ObjectKind × String)
  | .crtc => [(.crtc, "ACTIVE"), (.crtc, "MODE_ID")]
  | .encoder => []
  | .connector => [(.connector, "CRTC_ID")]
  | .plane => [(.plane, "type")]

/-- Asking about an object, and for its properties if there was an answer. -/
inductive Visit (subject : Subject) (id : ObjectId) : List (Exchange κ) → Prop
  | unreadable (e : SystemError) : Visit subject id [⟨card, subject.info id, .error e⟩]
  | answered {l : List (Exchange κ)} (info : (subject.info id).Reply)
      (lookups : Lookups card id subject.required l) :
      Visit subject id (⟨card, subject.info id, .ok info⟩ :: l)

/-- Visiting objects one after the other, whatever comes of each visit. -/
inductive Tour : List (Subject × ObjectId) → List (Exchange κ) → Prop
  | nil : Tour [] []
  | cons {subject : Subject} {id : ObjectId} {stops : List (Subject × ObjectId)}
      {l m : List (Exchange κ)} (visit : Visit card subject id l) (rest : Tour stops m) :
      Tour ((subject, id) :: stops) (l ++ m)

/-- All objects of two lists, type by type and each type in kernel order. -/
def stops (listed : ResourceList) (planeIds : List ObjectId) : List (Subject × ObjectId) :=
  listed.crtcs.map (.crtc, ·) ++ (listed.encoders.map (.encoder, ·) ++
    (listed.connectors.map (.connector, ·) ++ planeIds.map (.plane, ·)))

/-! ### The parts of an initialization -/

/-- Asking for what a device needs.  The two optional calls are made together, whatever is replied. -/
inductive Negotiation : List (Exchange κ) → Except DeviceError α → Prop
  | noPlanes (e : SystemError) :
      Negotiation [⟨card, .setClientCapability .universalPlanes true, .error e⟩]
        (.error (.capabilityUnsupported "universal planes" e))
  | noAtomic (e : SystemError) :
      Negotiation [⟨card, .setClientCapability .universalPlanes true, .ok ()⟩,
        ⟨card, .setClientCapability .atomic true, .error e⟩]
        (.error (.capabilityUnsupported "atomic" e))
  | noMaster (writeback : Except SystemError Unit) (modifiers : Except SystemError UInt64)
      (e : SystemError) :
      Negotiation [⟨card, .setClientCapability .universalPlanes true, .ok ()⟩,
        ⟨card, .setClientCapability .atomic true, .ok ()⟩,
        ⟨card, .setClientCapability .writebackConnectors true, writeback⟩,
        ⟨card, .driverCapability .addFb2Modifiers, modifiers⟩,
        ⟨card, .acquireMaster, .error e⟩] (.error (.accessDenied e))
  | granted (writeback : Except SystemError Unit) (modifiers : Except SystemError UInt64) (a : α) :
      Negotiation [⟨card, .setClientCapability .universalPlanes true, .ok ()⟩,
        ⟨card, .setClientCapability .atomic true, .ok ()⟩,
        ⟨card, .setClientCapability .writebackConnectors true, writeback⟩,
        ⟨card, .driverCapability .addFb2Modifiers, modifiers⟩,
        ⟨card, .acquireMaster, .ok ()⟩] (.ok a)

/-- Asking for the two lists and visiting what they list. -/
inductive Enumeration : List (Exchange κ) → Except DeviceError α → Prop
  | noResources (e : SystemError) :
      Enumeration [⟨card, .resources, .error e⟩] (.error (.noResources "resources" e))
  | noPlanes (listed : ResourceList) (e : SystemError) :
      Enumeration [⟨card, .resources, .ok listed⟩, ⟨card, .planeIds, .error e⟩]
        (.error (.noResources "plane resources" e))
  | listed {l : List (Exchange κ)} (listed : ResourceList) (planeIds : List ObjectId) (a : α)
      (tour : Tour card (stops listed planeIds) l) :
      Enumeration (⟨card, .resources, .ok listed⟩ :: ⟨card, .planeIds, .ok planeIds⟩ :: l) (.ok a)

/-- A negotiation, and an enumeration if it succeeds.  Nothing is asked after them; what can fail then is
the routing. -/
inductive Course : List (Exchange κ) → Except DeviceError α → Prop
  | refused {l : List (Exchange κ)} {e : DeviceError}
      (negotiation : Negotiation card l (.error e : Except _ Capabilities)) : Course l (.error e)
  | unlisted {l m : List (Exchange κ)} {capabilities : Capabilities} {e : DeviceError}
      (negotiation : Negotiation card l (.ok capabilities))
      (enumeration : Enumeration card m (.error e : Except _ Resources)) : Course (l ++ m) (.error e)
  | surveyed {l m : List (Exchange κ)} {capabilities : Capabilities} {resources : Resources}
      (negotiation : Negotiation card l (.ok capabilities))
      (enumeration : Enumeration card m (.ok resources)) (result : Except DeviceError α)
      (routed : ∀ e, result = .error e → ∃ cause, e = .routing cause) : Course (l ++ m) result

end Grammar

end Protocol

/-! ### Readers follow the grammar -/

open Protocol

section Obeys

variable {K : Kernel κ σ} {card : κ} {object id : ObjectId} {kind : ObjectKind} {name : String}

theorem obeys_findNamed (values : PropertyValues) :
    (findNamed K card object kind name values).Obeys K card fun l found =>
      Search card name values l found.isSome := by
  induction values with
  | nil => exact .pure .exhausted
  | cons v values ih =>
      obtain ⟨id, value⟩ := v
      refine .askBind fun r => ?_
      cases r with
      | error e => exact .logBind (ih.mono fun _ _ h => .unreadable e h)
      | ok info =>
          dsimp only
          split
          · next hname => exact .pure (.hit info hname)
          · next hname => exact ih.mono fun _ _ h => .other info hname h

theorem obeys_getProperty : (getProperty K card object kind name).run.Obeys K card fun l r =>
    Lookup card object kind name l r.isOk := by
  refine Attempt.obeys_demandBind (fun values => ?_) fun e => .unlisted e
  refine Attempt.obeys_liftBind (obeys_findNamed values) fun l found hsearch => ?_
  rw [← List.append_nil l] at hsearch
  cases found with
  | none => exact .pure (.listed values hsearch)
  | some property => exact .pure (.listed values hsearch)

/-- A property that an object must have is looked up before the others. -/
theorem obeys_requireBind {more : List (ObjectKind × String)} {f : Property → Attempt κ σ ObjectError β}
    (hf : ∀ p, (f p).run.Obeys K card fun m _ => Lookups card object more m) :
    (requireProperty K card object kind name >>= f).run.Obeys K card fun l _ =>
      Lookups card object ((kind, name) :: more) l := by
  have hrequire : (requireProperty K card object kind name).run.Obeys K card fun l r =>
      Lookup card object kind name l r.isOk := by
    refine obeys_getProperty.bind fun l r hl => ?_
    rw [← List.append_nil l] at hl
    cases r with
    | error e => exact .pure hl
    | ok property => exact .pure hl
  refine Attempt.obeys_bind hrequire (fun l p hl => ?_) fun l e hl => .missing more hl
  exact (hf p).mono fun _ _ h => .found hl h

/-- A visit begins with the question about the object. -/
theorem obeys_visit (subject : Subject) {wrap : SystemError → ObjectError}
    {f : (subject.info id).Reply → Attempt κ σ ObjectError β}
    (hf : ∀ info, (f info).run.Obeys K card fun m _ => Lookups card id subject.required m) :
    (K.demand card (subject.info id) wrap >>= f).run.Obeys K card fun l _ =>
      Visit card subject id l :=
  Attempt.obeys_demandBind (fun info => (hf info).mono fun _ _ h => .answered info h)
    fun e => .unreadable e

theorem obeys_readCrtc (index : Nat) :
    (Crtc.read K card id index).run.Obeys K card fun l _ => Visit card .crtc id l :=
  obeys_visit .crtc fun _ => obeys_requireBind fun _ => obeys_requireBind fun _ => .pure .complete

theorem obeys_readEncoder (index : Nat) :
    (Encoder.read K card id index).run.Obeys K card fun l _ => Visit card .encoder id l :=
  obeys_visit .encoder fun _ => .pure .complete

theorem obeys_readConnector (index : Nat) :
    (Connector.read K card id index).run.Obeys K card fun l _ => Visit card .connector id l :=
  obeys_visit .connector fun _ => obeys_requireBind fun _ => .pure .complete

theorem obeys_readPlane :
    (Plane.read K card id).run.Obeys K card fun l _ => Visit card .plane id l := by
  refine obeys_visit .plane fun info => obeys_requireBind fun type => ?_
  -- a type without a meaning fails the plane, but nothing is asked about it
  cases PlaneKind.ofCode? type.value with
  | none => exact .pure .complete
  | some kind => exact .pure .complete

theorem obeys_readAll {subject : Subject} (description : String)
    {read : ObjectId → Nat → Attempt κ σ ObjectError α}
    (hread : ∀ id index, (read id index).run.Obeys K card fun l _ => Visit card subject id l)
    (ids : List ObjectId) : ∀ index, (readAll description read ids index).Obeys K card fun l _ =>
      Tour card (ids.map (subject, ·)) l := by
  induction ids with
  | nil =>
      intro index
      exact .pure .nil
  | cons id ids ih =>
      intro index
      refine (hread id index).bind fun l r hl => ?_
      cases r with
      | error e => exact .logBind ((ih (index + 1)).mono fun _ _ h => .cons hl h)
      | ok object =>
          refine (ih (index + 1)).bind fun m _ hm => .pure ?_
          rw [List.append_nil]
          exact .cons hl hm

theorem obeys_requestWriteback : (requestWriteback K card).Obeys K card fun l _ =>
    ∃ r, l = [⟨card, .setClientCapability .writebackConnectors true, r⟩] := by
  refine .askBind fun r => ?_
  cases r with
  | error e => exact .logBind (.pure ⟨_, rfl⟩)
  | ok _ => exact .pure ⟨_, rfl⟩

theorem obeys_queryModifiers : (queryModifiers K card).Obeys K card fun l _ =>
    ∃ r, l = [⟨card, .driverCapability .addFb2Modifiers, r⟩] := by
  refine .askBind fun r => ?_
  cases r with
  | error e => exact .logBind (.pure ⟨_, rfl⟩)
  | ok _ => exact .pure ⟨_, rfl⟩

/-- A negotiation follows the grammar. -/
theorem obeys_negotiate : (negotiate K card).run.Obeys K card fun l r => Negotiation card l r := by
  refine Attempt.obeys_demandBind (fun _ => ?_) fun e => .noPlanes e
  refine Attempt.obeys_demandBind (fun _ => ?_) fun e => .noAtomic e
  refine Attempt.obeys_liftBind obeys_requestWriteback ?_
  rintro _ granted ⟨writeback, rfl⟩
  refine Attempt.obeys_liftBind obeys_queryModifiers ?_
  rintro _ supported ⟨modifiers, rfl⟩
  refine Attempt.obeys_demandBind (fun _ => ?_) fun e => .noMaster writeback modifiers e
  refine Attempt.obeys_liftBind (P := fun l _ => l = []) ⟨.log _ _, fun _ => rfl⟩ ?_
  rintro _ _ rfl
  exact .pure (.granted writeback modifiers _)

theorem Protocol.Tour.append {stops more : List (Subject × ObjectId)} {l m : List (Exchange κ)}
    (h : Tour card stops l) (h' : Tour card more m) : Tour card (stops ++ more) (l ++ m) := by
  induction h with
  | nil => exact h'
  | cons visit rest ih =>
      rw [List.append_assoc]
      exact .cons visit ih

theorem obeys_readListed (listed : ResourceList) (planeIds : List ObjectId) :
    (readListed K card listed planeIds).Obeys K card fun l _ =>
      Tour card (stops listed planeIds) l := by
  refine (obeys_readAll _ (fun _ index => obeys_readCrtc index) _ 0).bind fun _ _ hcrtcs => ?_
  refine (obeys_readAll _ (fun _ index => obeys_readEncoder index) _ 0).bind fun _ _ hencoders => ?_
  refine (obeys_readAll _ (fun _ index => obeys_readConnector index) _ 0).bind
    fun _ _ hconnectors => ?_
  refine (obeys_readAll _ (fun _ _ => obeys_readPlane) _ 0).bind fun _ _ hplanes => ?_
  refine .logBind (.pure ?_)
  rw [List.append_nil]
  exact hcrtcs.append (hencoders.append (hconnectors.append hplanes))

/-- An enumeration follows the grammar. -/
theorem obeys_enumerate : (enumerate K card).run.Obeys K card fun l r => Enumeration card l r := by
  refine Attempt.obeys_demandBind (fun listed => ?_) fun e => .noResources e
  refine Attempt.obeys_demandBind (fun planeIds => ?_) fun e => .noPlanes listed e
  exact Attempt.obeys_lift ((obeys_readListed listed planeIds).mono fun _ _ h => .listed listed planeIds _ h)

/-- An initialization follows the grammar. -/
theorem Device.obeys_init (first : DisplayId) :
    (init K card first).run.Obeys K card fun l r => Course card l r := by
  refine Attempt.obeys_bind obeys_negotiate (fun l capabilities hnegotiation => ?_)
    fun l e h => .refused h
  refine Attempt.obeys_bind obeys_enumerate (fun m resources henumeration => ?_)
    fun m e h => .unlisted hnegotiation h
  have hroute : (Routing.route resources.problem first : Attempt κ σ _ _).run.Obeys K card fun n r =>
      n = [] ∧ ∀ e, r = .error e → ∃ cause, e = .routing cause := by
    have hscript := Routing.scripted_route (P := fun _ => False) resources.problem first
    refine ⟨hscript.about K card, fun s => ⟨hscript.exchanges_eq_nil K card s, fun e he => ?_⟩⟩
    change (Routing.assign resources.problem first).mapError .routing = .error e at he
    cases hassign : Routing.assign resources.problem first with
    | error cause =>
        rw [hassign] at he
        cases he
        exact ⟨cause, rfl⟩
    | ok a =>
        rw [hassign] at he
        cases he
  have hsurveyed : ∀ result : Except DeviceError (Device κ),
      (∀ e, result = .error e → ∃ cause, e = .routing cause) → Course card (l ++ m) result :=
    .surveyed hnegotiation henumeration
  -- from here on nothing is asked
  refine Attempt.obeys_bind hroute ?_ ?_
  · rintro _ assignment ⟨rfl, -⟩
    refine Attempt.obeys_liftBind (scripted_announce _).obeys_silence ?_
    rintro _ _ rfl
    refine .pure ?_
    simpa using hsurveyed (.ok _) fun e he => by cases he
  · rintro _ e ⟨rfl, hrouted⟩
    rw [List.append_nil]
    exact hsurveyed _ fun e' he => hrouted e' (by cases he; rfl)

end Obeys

end Scanout
