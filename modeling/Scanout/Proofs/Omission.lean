/-
**Objects that cannot be used are as good as absent.**

A connector that cannot be read, or that writes to memory, gets no display, and an encoder that the card
says nothing about carries none.  Leaving such ids out of the kernel's lists changes where the others stand,
but no position of a connector or an encoder is looked at again after it was read: routing goes by the
positions among what can be used.  Only CRTCs are known to the masks of encoders by their places, and planes
are not routed at all.

Main definitions:

* `Scanout.Omits` — a list without some items of no use;
* `Scanout.Connector.placeless`, `Scanout.Encoder.placeless`, `Scanout.Pipeline.placeless` — objects
  without their positions;
* `Scanout.Resources.SameScreens`, `Scanout.Device.SameDisplays` — cards and devices that agree in all but
  positions, planes and connectors that write to memory;
* `Scanout.Replies.OmitsUseless` — one card lists less than another, and is like it otherwise.

Main results:

* `Scanout.map_readable` — what is read apart from positions, id by id;
* `Scanout.Replies.sameScreens_resources` — shorter lists lead to the same screens;
* `Scanout.Resources.SameScreens.assign_eq` — the same screens are routed alike;
* `Scanout.Device.init_ignores_useless` — **initialization does not see that useless ids are left out**.
-/

import Scanout.Proofs.Initialization
import Scanout.Proofs.Routing.Indifference

set_option relaxedAutoImplicit false
set_option autoImplicit false

namespace Scanout

variable {κ κ' σ τ : Type}

/-! ### Lists with omissions -/

/-- `kept` is `ids` without some items, each of them useless. -/
inductive Omits (useless : ObjectId → Prop) : List ObjectId → List ObjectId → Prop
  | nil : Omits useless [] []
  | keep (id : ObjectId) {ids kept : List ObjectId} (h : Omits useless ids kept) :
    Omits useless (id :: ids) (id :: kept)
  | drop {id : ObjectId} (hid : useless id) {ids kept : List ObjectId} (h : Omits useless ids kept) :
    Omits useless (id :: ids) kept

namespace Omits

variable {useless : ObjectId → Prop} {ids kept : List ObjectId}

theorem refl (ids : List ObjectId) : Omits useless ids ids := by
  induction ids with
  | nil => exact .nil
  | cons id ids ih => exact .keep id ih

/-- A filter leaves out what it is told to. -/
theorem of_filter {α : Type} {id : α → ObjectId} {keep : α → Bool} {objects : List α}
    (h : ∀ a ∈ objects, keep a = false → useless (id a)) :
    Omits useless (objects.map id) ((objects.filter keep).map id) := by
  induction objects with
  | nil => exact .nil
  | cons a objects ih =>
      have hrest := ih fun b hb => h b (List.mem_cons_of_mem a hb)
      cases hkeep : keep a with
      | false =>
          rw [List.filter_cons_of_neg (by simp [hkeep])]
          exact .drop (h a List.mem_cons_self hkeep) hrest
      | true =>
          rw [List.filter_cons_of_pos hkeep]
          exact .keep (id a) hrest

/-- What is read of each id cannot tell a list from one with omissions, if nothing is read of useless
ids. -/
theorem filterMap_eq {α : Type} {read : ObjectId → Option α} (h : Omits useless ids kept)
    (hread : ∀ id, useless id → read id = none) : ids.filterMap read = kept.filterMap read := by
  induction h with
  | nil => rfl
  | keep id _ ih => rw [List.filterMap_cons, List.filterMap_cons, ih]
  | drop hid _ ih => rw [List.filterMap_cons_none (hread _ hid), ih]

end Omits

/-! ### Objects without their positions -/

/-- A connector apart from its position. -/
def Connector.placeless (c : Connector) : Connector := { c with index := 0 }

/-- An encoder apart from its position. -/
def Encoder.placeless (e : Encoder) : Encoder := { e with index := 0 }

/-- A pipeline apart from the positions of its connector and its encoder. -/
def Pipeline.placeless (p : Pipeline) : Pipeline :=
  { p with connector := p.connector.placeless, encoder := p.encoder.placeless }

/-- Two cards have the same connectors that lead to screens and the same encoders, apart from positions,
and the same CRTCs. -/
structure Resources.SameScreens (r r' : Resources) : Prop where
  connectors : r.connectors.map Connector.placeless = r'.connectors.map Connector.placeless
  encoders : r.encoders.map Encoder.placeless = r'.encoders.map Encoder.placeless
  crtcs : r.crtcs = r'.crtcs
  bounds : r.bounds = r'.bounds

/-- Two devices drive the same displays through the same objects. -/
structure Device.SameDisplays (d : Device κ) (e : Device κ') : Prop where
  resources : d.resources.SameScreens e.resources
  /-- The displays, the pipes, the display of each connector, and the next display. -/
  assignment : d.assignment = e.assignment
  pipelines : d.pipelines.map Pipeline.placeless = e.pipelines.map Pipeline.placeless

/-! ### What is read apart from positions -/

/-- What is read of a list, apart from positions, is what is read of each id. -/
theorem map_readable {α β : Type} {read : ObjectId → Nat → Except ObjectError α} {place : α → β}
    (hread : ∀ id i, (read id i).map place = (read id 0).map place) (ids : List ObjectId)
    (index : Nat) : (Replies.readable read ids index).map place =
      ids.filterMap fun id => ((read id 0).map place).toOption := by
  have hmap : ∀ x : ObjectId × Nat, (read x.1 x.2).toOption.map place =
      ((read x.1 0).map place).toOption := by
    intro x
    rw [← hread x.1 x.2]
    cases read x.1 x.2 <;> rfl
  rw [Replies.readable, List.map_filterMap, funext hmap]
  have hfst := List.filterMap_map (l := ids.zipIdx index) (f := Prod.fst)
    (g := fun id => ((read id 0).map place).toOption)
  rw [List.zipIdx_map_fst] at hfst
  exact hfst.symm

namespace Replies

variable {R : Replies κ} {card : κ}

theorem map_placeless_connector (id : ObjectId) (i : Nat) :
    (R.connector card id i).map Connector.placeless =
      (R.connector card id 0).map Connector.placeless := by
  rw [connector, connector]
  cases R card (.connectorInfo id) with
  | error e => rfl
  | ok info => cases R.property card id .connector "CRTC_ID" <;> rfl

theorem map_placeless_encoder (id : ObjectId) (i : Nat) :
    (R.encoder card id i).map Encoder.placeless = (R.encoder card id 0).map Encoder.placeless := by
  rw [encoder, encoder]
  cases R card (.encoderInfo id) <;> rfl

end Replies

/-- Whether a connector leads to a screen has nothing to do with its position. -/
theorem map_filter_placeless (l : List Connector) :
    (l.filter (!·.isWriteback)).map Connector.placeless =
      (l.map Connector.placeless).filter (!·.isWriteback) :=
  (List.filter_map (p := (!·.isWriteback)) (f := Connector.placeless)).symm

/-! ### Shorter lists -/

/-- One card's list of objects leaves out ids that are of no use: connectors that cannot be read or write to
memory, and encoders that cannot be read. -/
structure Replies.OmitsUseless (R : Replies κ) (card : κ) (listed kept : ResourceList) : Prop where
  connectors : Omits (fun id => R.hasConnector card id = false ∨ R.writesBack card id = true)
    listed.connectors kept.connectors
  encoders : Omits (fun id => R.hasEncoder card id = false) listed.encoders kept.encoders
  crtcs : listed.crtcs = kept.crtcs
  bounds : listed.bounds = kept.bounds

/-- Shorter lists lead to the same screens. -/
theorem Replies.sameScreens_resources {R : Replies κ} {card : κ} {listed kept : ResourceList}
    (h : R.OmitsUseless card listed kept) (planeIds keptPlanes : List ObjectId) :
    (R.resources card listed planeIds).SameScreens (R.resources card kept keptPlanes) := by
  constructor
  case connectors =>
      simp only [resources, map_filter_placeless, map_readable map_placeless_connector,
        List.filter_filterMap]
      refine h.connectors.filterMap_eq fun id huseless => ?_
      cases hread : R.connector card id 0 with
      | error e => rfl
      | ok c =>
          have hwriteback : c.isWriteback = true := by
            rcases huseless with hunread | hmemory
            · rw [(hasConnector_iff 0).2 ⟨c, hread⟩] at hunread
              cases hunread
            · rwa [isWriteback_of_connector hread]
          have hdropped : (!c.placeless.isWriteback) = false := congrArg (!·) hwriteback
          exact Option.filter_some_neg (by simp [hdropped])
  case encoders =>
      simp only [resources, map_readable map_placeless_encoder]
      refine h.encoders.filterMap_eq fun id huseless => ?_
      cases hread : R.encoder card id 0 with
      | error e => rfl
      | ok e =>
          rw [(hasEncoder_iff 0).2 ⟨e, hread⟩] at huseless
          cases huseless
  case crtcs => simp only [resources, h.crtcs]
  case bounds => exact h.bounds

/-! ### The same screens are driven alike -/

namespace Resources.SameScreens

variable {r r' : Resources} (h : r.SameScreens r')

include h

theorem symm : r'.SameScreens r :=
  ⟨h.connectors.symm, h.encoders.symm, h.crtcs.symm, h.bounds.symm⟩

theorem trans {r'' : Resources} (h' : r'.SameScreens r'') : r.SameScreens r'' :=
  ⟨h.connectors.trans h'.connectors, h.encoders.trans h'.encoders, h.crtcs.trans h'.crtcs,
    h.bounds.trans h'.bounds⟩

theorem sameWiring : Routing.SameWiring r.problem r'.problem := by
  constructor
  case connectors =>
      refine (Routing.forall₂_of_map_eq h.connectors).imp fun c d hcd => ?_
      obtain ⟨hid, -, -, -, -, hcurrent, hlist, -⟩ := Connector.mk.inj hcd
      exact ⟨hid, hcurrent, hlist⟩
  case encoders =>
      refine (Routing.forall₂_of_map_eq h.encoders).imp fun e f hef => ?_
      obtain ⟨hid, -, hcurrent, hmask⟩ := Encoder.mk.inj hef
      exact ⟨hid, hcurrent, hmask⟩
  case crtcs =>
      change List.Forall₂ _ r.crtcs r'.crtcs
      rw [h.crtcs]
      exact List.forall₂_same.2 fun _ _ => ⟨rfl, rfl⟩

/-- The same screens are routed alike. -/
theorem assign_eq (first : DisplayId) :
    Routing.assign r.problem first = Routing.assign r'.problem first := by
  have hranks := congrArg (List.map Connector.rank) h.connectors
  rw [List.map_map, List.map_map] at hranks
  exact Routing.assign_congr h.sameWiring hranks first

end Resources.SameScreens

/-- What drives a display can be looked up among objects without positions. -/
theorem Device.map_placeless_resolve? (d : Device κ) (n : DisplayId) (pipe : Routing.Pipe) :
    (d.resolve? n pipe).map Pipeline.placeless = (do
      let c ← (d.resources.connectors.map Connector.placeless)[pipe.connector]?
      let e ← (d.resources.encoders.map Encoder.placeless)[pipe.encoder]?
      let k ← d.resources.crtcs[pipe.crtc]?
      return ⟨n, c, e, k⟩) := by
  rw [List.getElem?_map, List.getElem?_map, resolve?, Routing.Problem.resolve?, Resources.problem]
  cases d.resources.connectors[pipe.connector]? with
  | none => rfl
  | some c =>
      cases d.resources.encoders[pipe.encoder]? with
      | none => rfl
      | some e => cases d.resources.crtcs[pipe.crtc]? <;> rfl

/-- Devices with the same screens and routings drive the same displays. -/
theorem Device.sameDisplays_of_sameScreens {d : Device κ} {e : Device κ'}
    (h : d.resources.SameScreens e.resources) (hassign : d.assignment = e.assignment) :
    d.SameDisplays e := by
  refine ⟨h, hassign, ?_⟩
  have hresolve : (fun x : Routing.Grant => (d.resolve? x.1 x.2).map Pipeline.placeless) =
      fun x => (e.resolve? x.1 x.2).map Pipeline.placeless :=
    funext fun x => by
      rw [map_placeless_resolve?, map_placeless_resolve?, h.connectors, h.encoders, h.crtcs]
  rw [pipelines, pipelines, List.map_filterMap, List.map_filterMap, hassign]
  exact congrArg (List.filterMap · _) hresolve

/-! ### Two initializations -/

/-- Devices drive the same displays if the cards, as far as they negotiate and can name their objects, have
the same screens. -/
theorem Replies.device_alike {R : Replies κ} {R' : Replies κ'} {a : κ} {b : κ'}
    {P : Capabilities → Capabilities → Prop} {Q : Resources → Resources → Prop}
    (hnegotiation : EndAlike P (R.negotiation a) (R'.negotiation b))
    (henumeration : EndAlike Q (R.enumeration a) (R'.enumeration b))
    (hscreens : ∀ r r', Q r r' → r.SameScreens r') (first : DisplayId) :
    EndAlike (fun d e => P d.capabilities e.capabilities ∧ Q d.resources e.resources ∧
      d.SameDisplays e) (R.device a first) (R'.device b first) := by
  refine hnegotiation.bind fun c c' hc => henumeration.bind fun r r' hr => ?_
  have hsame := hscreens r r' hr
  rw [hsame.assign_eq first]
  cases Routing.assign r'.problem first with
  | error e => exact .failed _
  | ok assignment => exact .done ⟨hc, hr, Device.sameDisplays_of_sameScreens hsame rfl⟩

/-- The card `b` answers every question like `a`, but its list of objects leaves out ids that are of no use
on `a`, and its list of planes any ids. -/
structure Replies.ListsLess (R : Replies κ) (a : κ) (R' : Replies κ') (b : κ') : Prop where
  alike : ∀ q : Request, q ≠ .resources → q ≠ .planeIds → R a q = R' b q
  resources : EndAlike (R.OmitsUseless a) (R a .resources) (R' b .resources)
  planeIds : EndAlike (Omits fun _ => True) (R a .planeIds) (R' b .planeIds)

namespace Replies.ListsLess

variable {R : Replies κ} {R' : Replies κ'} {a : κ} {b : κ'} (h : R.ListsLess a R' b)

include h

theorem reply_eq {q : Request} (hq : q.Negotiates ∨ q.AboutObjects) : R a q = R' b q := by
  refine h.alike q ?_ ?_
  · rintro rfl
    rcases hq with hq | hq <;> cases hq
  · rintro rfl
    rcases hq with hq | hq <;> cases hq

theorem negotiation_eq : R.negotiation a = R'.negotiation b := by
  have halike : ∀ q : Request, q.Negotiates → R a q = R' b q := fun _ hq => h.reply_eq (.inl hq)
  simp only [negotiation, answers, takesModifiers,
    halike (.setClientCapability .universalPlanes true) trivial,
    halike (.setClientCapability .atomic true) trivial,
    halike (.setClientCapability .writebackConnectors true) trivial,
    halike (.driverCapability .addFb2Modifiers) trivial, halike .acquireMaster trivial]

theorem enumeration_alike :
    EndAlike Resources.SameScreens (R.enumeration a) (R'.enumeration b) := by
  refine (h.resources.mapError _).bind fun listed kept hless => ?_
  refine (h.planeIds.mapError _).bind fun planeIds keptPlanes _ => ?_
  rw [← resources_congr fun _ hq => h.reply_eq (.inr hq)]
  exact .done (sameScreens_resources hless planeIds keptPlanes)

end Replies.ListsLess

/-- **Initialization does not see that useless ids are left out**, nor which planes are listed: on both
cards it fails with the same error, or it gives devices with the same displays. -/
theorem Device.init_ignores_useless {K : Kernel κ σ} {L : Kernel κ' τ} {a : κ} {b : κ'} {s : σ} {t : τ}
    {R : Replies κ} {R' : Replies κ'} {first : DisplayId}
    (hR : R.AgreesWith (fun _ => True) ((init K a first).run.exchanges K s))
    (hR' : R'.AgreesWith (fun _ => True) ((init L b first).run.exchanges L t))
    (h : R.ListsLess a R' b) :
    EndAlike (fun d e => d.capabilities = e.capabilities ∧ d.SameDisplays e)
      ((init K a first).run.run s).value ((init L b first).run.run t).value := by
  have hnegotiation : EndAlike Eq (R.negotiation a) (R'.negotiation b) :=
    h.negotiation_eq ▸ .refl (fun _ => rfl) _
  rw [settles_init K R a first s hR, settles_init L R' b first t hR']
  exact (Replies.device_alike hnegotiation h.enumeration_alike (fun _ _ hr => hr) first).imp
    fun d e hde => ⟨hde.1, hde.2.2⟩

/-- The replies of a card whose lists are given. -/
def Replies.listing (R : Replies κ) (listed : ResourceList) (planeIds : List ObjectId) : Replies κ
  | _, .resources => .ok listed
  | _, .planeIds => .ok planeIds
  | card, q => R card q

/-- A card that lists something of each type that is of no use. -/
def cluttered : Replies Unit := Device.damaged.replies.listing
  ⟨[20, 21, 22], [32, 30, 31], [40, 41, 42, 43], Device.damaged.bounds⟩ [50]

/-- The same card without any of it. -/
def tidied : Replies Unit := Device.damaged.replies.listing
  ⟨[20, 21, 22], [30, 31], [42, 43], Device.damaged.bounds⟩ []

theorem cluttered_listsLess : cluttered.ListsLess () tidied () := by
  constructor
  case alike =>
      intro q hresources hplanes
      cases q <;> first | rfl | contradiction
  case resources =>
      refine .done ⟨.drop ?_ (.drop ?_ (.refl _)), .drop ?_ (.refl _), rfl, rfl⟩
      · exact .inl rfl
      · exact .inr rfl
      · exact rfl
  case planeIds => exact .done (.drop trivial .nil)

/-- Connectors 42 and 43 move to the front, and are driven as before. -/
theorem cluttered_ignores_useless : cluttered.ListsLess () tidied () ∧
    ∃ d e, ((Device.init cluttered.kernel () .zero).run.run ()).value = .ok d ∧
      ((Device.init tidied.kernel () .zero).run.run ()).value = .ok e ∧
      d.resources.connectors.map (fun c => (c.id, c.index)) = [(42, 2), (43, 3)] ∧
      e.resources.connectors.map (fun c => (c.id, c.index)) = [(42, 0), (43, 1)] ∧
      d.capabilities = e.capabilities ∧ d.SameDisplays e := by
  have hR := cluttered.agreesWith_kernel (fun _ => True) (Device.init cluttered.kernel () .zero).run
  have hR' := tidied.agreesWith_kernel (fun _ => True) (Device.init tidied.kernel () .zero).run
  obtain ⟨_, hd⟩ := cluttered.exists_device () .zero rfl rfl (by decide) rfl
  obtain ⟨_, he⟩ := tidied.exists_device () .zero rfl rfl (by decide) rfl
  have halike := Device.init_ignores_useless hR hR' cluttered_listsLess
  rw [Device.settles_init _ _ _ _ _ hR, Device.settles_init _ _ _ _ _ hR', hd, he] at halike ⊢
  cases halike with
  | done h => exact ⟨cluttered_listsLess, _, _, rfl, rfl, rfl, rfl, h⟩

end Scanout
