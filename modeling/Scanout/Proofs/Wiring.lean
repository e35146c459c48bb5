/-
**Initialized devices are wired as the kernel says.**

A device drives its displays through objects that it read from the kernel, at positions in lists from
which objects may be missing.  What the kernel can check is told in its own terms: which ids it listed,
what it replied about them, and which bit of a mask belongs to which place in its full list of CRTCs.
This module tells the pipelines of a device in these terms.

Main definitions:

* `Scanout.ResourceList.Distinct` — a card lists no id twice;
* `Scanout.Replies.Drivable` — a connector that can be read and leads to a screen;
* `Scanout.Request.Negotiates` — the requests of a negotiation;
* `Scanout.Device.Wired` — the pipelines of a device agree with lists and replies.

Main results:

* `Scanout.Crtc.inMask_iff` — a mask has the bit at the position of a CRTC, if there is such a bit;
* `Scanout.Replies.mem_map_connectors` — the connectors of a card are those that can be driven;
* `Scanout.Device.exchanges_of_gives_init` — **what a card is asked on the way to a device**;
* `Scanout.Device.wired_of_gives_init` — **an initialized device is wired as the kernel says**.
-/

import Mathlib.Data.Nat.Bitwise
import Scanout.MemoryCard.Builder
import Scanout.Proofs.Device
import Scanout.Proofs.MemoryCard

set_option relaxedAutoImplicit false
set_option autoImplicit false

namespace Scanout

variable {κ σ : Type} {K : Kernel κ σ} {card : κ}

/-! ### Masks -/

/-- A mask has the bit at the position of a CRTC, if there is such a bit.  The position is counted in
words, so it must fit into one. -/
theorem Crtc.inMask_iff {c : Crtc} (hindex : c.index < UInt32.size) {possible : UInt32} :
    c.inMask possible = true ↔ c.index < 32 ∧ possible.toNat.testBit c.index = true := by
  have hword : c.index % 0x100000000 = c.index := Nat.mod_eq_of_lt hindex
  rw [inMask, mask, hword, bne_iff_ne, ne_eq, ← UInt32.toNat_inj, UInt32.toNat_and]
  by_cases hbit : c.index < 32
  · have hmask : ((1 : UInt32) <<< UInt32.ofNat c.index).toNat = 2 ^ c.index := by
      rw [UInt32.toNat_shiftLeft, UInt32.toNat_ofNat', UInt32.toNat_one]
      rw [Nat.mod_eq_of_lt hindex, Nat.mod_eq_of_lt hbit, Nat.one_shiftLeft]
      exact Nat.mod_eq_of_lt (Nat.pow_lt_pow_right (by omega) hbit)
    rw [if_pos hbit, hmask, Nat.and_two_pow]
    cases possible.toNat.testBit c.index <;> simp [hbit]
  · simp [hbit]

/-! ### Objects in terms of replies -/

/-- No id is listed twice, and places in the list of CRTCs are words. -/
structure ResourceList.Distinct (listed : ResourceList) : Prop where
  connectors : listed.connectors.Nodup
  encoders : listed.encoders.Nodup
  crtcs : listed.crtcs.Nodup
  places : listed.crtcs.length < 2 ^ 32

namespace Replies

variable {R : Replies κ}

theorem called_eq_some_iff {object : ObjectId} {name : String} {v : ObjectId × UInt64} {p : Property} :
    R.called card object name v = some p ↔ ∃ info, R card (.propertyInfo v.1) = .ok info ∧
      info.name = name ∧ p = .ofInfo object v.1 info v.2 := by
  rw [called]
  cases R card (.propertyInfo v.1) with
  | error e => simp
  | ok info =>
      by_cases hname : info.name = name
      · simp [hname, @eq_comm _ p]
      · simp [hname]

theorem isSome_called_iff {object : ObjectId} {name : String} {v : ObjectId × UInt64} :
    (R.called card object name v).isSome = true ↔
      ∃ info, R card (.propertyInfo v.1) = .ok info ∧ info.name = name := by
  rw [Option.isSome_iff_exists]
  simp only [called_eq_some_iff]
  constructor
  · rintro ⟨p, info, hinfo, hname, -⟩
    exact ⟨info, hinfo, hname⟩
  · rintro ⟨info, hinfo, hname⟩
    exact ⟨_, info, hinfo, hname, rfl⟩

/-- A property can be found when one in the list of the object has its name. -/
theorem exists_property_iff {object : ObjectId} {kind : ObjectKind} {name : String} :
    (∃ p, R.property card object kind name = .ok p) ↔
      ∃ values, R card (.objectProperties object kind) = .ok values ∧
        ∃ v ∈ values, ∃ info, R card (.propertyInfo v.1) = .ok info ∧ info.name = name := by
  have hcalled : ∀ v : ObjectId × UInt64, (R.called card object name v).isSome = true ↔ _ :=
    fun _ => isSome_called_iff
  simp only [property, bind_eq_ok_iff, mapError_eq_ok_iff]
  rw [exists_comm]
  refine exists_congr fun values => ?_
  simp only [exists_and_left, ← hcalled, ← List.findSome?_isSome_iff]
  refine and_congr_right fun _ => ?_
  rw [named]
  cases values.findSome? (R.called card object name) with
  | none =>
      constructor
      · rintro ⟨p, hp⟩
        cases hp
      · intro h
        cases h
  | some p => exact ⟨fun _ => rfl, fun _ => ⟨p, rfl⟩⟩

/-- A connector can be read and leads to a screen. -/
def Drivable (R : Replies κ) (card : κ) (id : ObjectId) : Prop :=
  ∃ info values, R card (.connectorInfo id) = .ok info ∧ info.interface ≠ .writeback ∧
    R card (.objectProperties id .connector) = .ok values ∧
    ∃ v ∈ values, ∃ property, R card (.propertyInfo v.1) = .ok property ∧ property.name = "CRTC_ID"

theorem connector_eq_ok_iff {id : ObjectId} {index : Nat} {c : Connector} :
    R.connector card id index = .ok c ↔ ∃ info property,
      R card (.connectorInfo id) = .ok info ∧ R.property card id .connector "CRTC_ID" = .ok property ∧
      c = ⟨id, index, info.interface, info.interfaceId, info.state, info.currentEncoder,
        info.encoders, property.id⟩ := by
  simp only [connector, bind_eq_ok_iff, mapError_eq_ok_iff, pure, Except.pure, Except.ok.injEq,
    exists_and_left, @eq_comm _ c]

theorem encoder_eq_ok_iff {id : ObjectId} {index : Nat} {e : Encoder} :
    R.encoder card id index = .ok e ↔ ∃ info, R card (.encoderInfo id) = .ok info ∧
      e = ⟨id, index, info.currentCrtc, info.possibleCrtcs⟩ := by
  simp only [encoder, bind_eq_ok_iff, mapError_eq_ok_iff, pure, Except.pure, Except.ok.injEq,
    @eq_comm _ e]

theorem crtc_eq_ok_iff {id : ObjectId} {index : Nat} {c : Crtc} :
    R.crtc card id index = .ok c ↔ ∃ info active modeId,
      R card (.crtcInfo id) = .ok info ∧ R.property card id .crtc "ACTIVE" = .ok active ∧
      R.property card id .crtc "MODE_ID" = .ok modeId ∧
      c = ⟨id, index, info.modeSize, active.id, modeId.id⟩ := by
  simp only [crtc, bind_eq_ok_iff, mapError_eq_ok_iff, pure, Except.pure, Except.ok.injEq,
    exists_and_left, @eq_comm _ c]

theorem crtc_eq_ok {id : ObjectId} {index : Nat} {c : Crtc} (h : R.crtc card id index = .ok c) :
    c.id = id ∧ c.index = index := by
  obtain ⟨_, _, _, -, -, -, rfl⟩ := crtc_eq_ok_iff.1 h
  exact ⟨rfl, rfl⟩

section Resources

variable {listed : ResourceList} {planeIds : List ObjectId}

theorem mem_connectors {c : Connector} : c ∈ (R.resources card listed planeIds).connectors ↔
    ∃ id i, listed.connectors[i]? = some id ∧ R.connector card id i = .ok c ∧
      c.interface ≠ .writeback := by
  simp only [resources, List.mem_filter, mem_readable, Connector.isWriteback, Bool.not_eq_true',
    decide_eq_false_iff_not, ← exists_and_right, and_assoc, ne_eq]

/-- The connectors of a card are those that are listed and can be driven. -/
theorem mem_map_connectors {id : ObjectId} :
    id ∈ (R.resources card listed planeIds).connectors.map (·.id) ↔
      id ∈ listed.connectors ∧ R.Drivable card id := by
  rw [List.mem_map]
  constructor
  · rintro ⟨c, hc, rfl⟩
    obtain ⟨id, i, hid, hread, hscreen⟩ := mem_connectors.1 hc
    obtain ⟨info, property, hinfo, hproperty, rfl⟩ := connector_eq_ok_iff.1 hread
    obtain ⟨values, hvalues, hnamed⟩ := exists_property_iff.1 ⟨property, hproperty⟩
    exact ⟨List.mem_of_getElem? hid, info, values, hinfo, hscreen, hvalues, hnamed⟩
  · rintro ⟨hid, info, values, hinfo, hscreen, hvalues, hnamed⟩
    obtain ⟨i, hi⟩ := List.mem_iff_getElem?.1 hid
    obtain ⟨property, hproperty⟩ := exists_property_iff.2 ⟨values, hvalues, hnamed⟩
    obtain ⟨c, hread, hc, hinterface⟩ : ∃ c, R.connector card id i = .ok c ∧ c.id = id ∧
        c.interface = info.interface :=
      ⟨_, connector_eq_ok_iff.2 ⟨info, property, hinfo, hproperty, rfl⟩, rfl, rfl⟩
    rw [← hinterface] at hscreen
    exact ⟨c, mem_connectors.2 ⟨id, i, hi, hread, hscreen⟩, hc⟩

theorem nodup_map_connectors (h : listed.connectors.Nodup) :
    ((R.resources card listed planeIds).connectors.map (·.id)).Nodup := by
  refine (nodup_map_readable (fun id i c hread => ?_) h).sublist (List.filter_sublist.map _)
  obtain ⟨_, _, -, -, rfl⟩ := connector_eq_ok_iff.1 hread
  rfl

theorem nodup_map_encoders (h : listed.encoders.Nodup) :
    ((R.resources card listed planeIds).encoders.map (·.id)).Nodup := by
  refine nodup_map_readable (fun id i e hread => ?_) h
  obtain ⟨_, -, rfl⟩ := encoder_eq_ok_iff.1 hread
  rfl

theorem nodup_map_crtcs (h : listed.crtcs.Nodup) :
    ((R.resources card listed planeIds).crtcs.map (·.id)).Nodup :=
  nodup_map_readable (fun _ _ _ hread => (crtc_eq_ok hread).1) h

end Resources

end Replies

/-! ### The dialogue of an initialization -/

/-- The requests of a negotiation. -/
def Request.Negotiates : Request → Prop
  | .setClientCapability .. | .driverCapability _ | .acquireMaster => True
  | _ => False

theorem scripted_requestWriteback :
    Scripted Request.Negotiates fun _ _ K card => requestWriteback K card := by
  refine .bind (.ask (q := .setClientCapability .writebackConnectors true) trivial) fun reply => ?_
  cases reply with
  | error e => exact .bind (.log _ _) fun _ => .pure _
  | ok _ => exact .pure _

theorem scripted_queryModifiers :
    Scripted Request.Negotiates fun _ _ K card => queryModifiers K card := by
  refine .bind (.ask (q := .driverCapability .addFb2Modifiers) trivial) fun reply => ?_
  cases reply with
  | error e => exact .bind (.log _ _) fun _ => .pure _
  | ok _ => exact .pure _

theorem scripted_negotiate :
    Scripted Request.Negotiates fun _ _ K card => (negotiate K card).run :=
  .attemptBind (.demand trivial _) fun _ =>
  .attemptBind (.demand trivial _) fun _ =>
  .attemptBind (.lift scripted_requestWriteback) fun _ =>
  .attemptBind (.lift scripted_queryModifiers) fun _ =>
  .attemptBind (.demand trivial _) fun _ =>
  .attemptBind (.lift (.log _ _)) fun _ => .attemptPure _

/-- Routing asks for nothing. -/
theorem Routing.scripted_route {P : Request → Prop} (p : Problem) (first : DisplayId) :
    Scripted P fun κ σ _ _ => (Routing.route p first : Attempt κ σ DeviceError Assignment).run :=
  .logs _ _

namespace Device

/-- Announcing asks for nothing. -/
theorem scripted_announce {P : Request → Prop} (l : List Pipeline) :
    Scripted P fun κ σ _ _ => (announce l : Action κ σ Unit) := by
  induction l with
  | nil => exact .pure _
  | cons p l ih => exact .bind (.log _ _) fun _ => ih

variable {first : DisplayId} {d : Device κ} {s s' : σ}

/-- What a card is asked on the way to a device: to grant what a device needs, then for the two lists,
once each, then about objects. -/
theorem exchanges_of_gives_init (h : (init K card first).Gives s d s') :
    ∃ asked listed planeIds rest, (init K card first).run.exchanges K s =
      asked ++ ⟨card, .resources, .ok listed⟩ :: ⟨card, .planeIds, .ok planeIds⟩ :: rest ∧
      (∀ e ∈ asked, e.request.Negotiates) ∧ (∀ e ∈ rest, e.request.AboutObjects) ∧
      ∀ R : Replies κ, R.AgreesWith Request.AboutObjects rest →
        d.resources = R.resources card listed planeIds := by
  rw [init] at h ⊢
  obtain ⟨capabilities, t, hnegotiate, h⟩ := Attempt.gives_bind_iff.1 h
  obtain ⟨resources, u, henumerate, h⟩ := Attempt.gives_bind_iff.1 h
  obtain ⟨assignment, v, hroute, h⟩ := Attempt.gives_bind_iff.1 h
  obtain ⟨_, w, hannounce, h⟩ := Attempt.gives_bind_iff.1 h
  obtain ⟨rfl, rfl⟩ := Attempt.gives_pure_iff.1 h
  obtain ⟨listed, planeIds, rest, hexchanges, hrest, hresources⟩ := enumerate_of_gives henumerate
  have hasked := scripted_negotiate.talks K card
  have hlists := scripted_enumerate.talks K card
  have hsilent : ∀ {α : Type} {x : CardAction α}, Scripted (fun _ => False) x →
      (x κ σ K card).Talks K (onCard card fun _ => False) := fun hx => hx.talks K card
  refine ⟨(negotiate K card).run.exchanges K s, listed, planeIds, rest, ?_,
    fun e he => (hasked.of_mem_exchanges he).2, fun e he => (hrest e he).2, hresources⟩
  -- nothing is asked after the enumeration
  rw [Attempt.exchanges_bind hasked hnegotiate, Attempt.exchanges_bind hlists henumerate, hexchanges,
    Attempt.exchanges_bind (hsilent (Routing.scripted_route _ _)) hroute,
    Attempt.exchanges_bind (hsilent (.lift (scripted_announce _))) hannounce,
    Attempt.exchanges_pure, (Routing.scripted_route _ _).exchanges_eq_nil K card,
    (Scripted.lift (scripted_announce _)).exchanges_eq_nil K card]
  simp

/-! ### Pipelines in terms of lists and replies -/

/-- The pipelines of a device agree with the lists of a card and its replies. -/
structure Wired (R : Replies κ) (listed : ResourceList) (d : Device κ) : Prop where
  /-- No connector is in two pipelines. -/
  connectors_nodup : (d.pipelines.map (·.connector.id)).Nodup
  /-- The connectors in pipelines are those that are listed and can be driven. -/
  mem_connectors : ∀ id, id ∈ d.pipelines.map (·.connector.id) ↔
    id ∈ listed.connectors ∧ R.Drivable d.card id
  /-- No encoder is in two pipelines. -/
  encoders_nodup : (d.pipelines.map (·.encoder.id)).Nodup
  /-- No CRTC is in two pipelines. -/
  crtcs_nodup : (d.pipelines.map (·.crtc.id)).Nodup
  /-- A connector is fed by an encoder that it reports. -/
  feeds : ∀ p ∈ d.pipelines, ∃ info, R d.card (.connectorInfo p.connector.id) = .ok info ∧
    (p.encoder.id ∈ info.encoders ∨ info.currentEncoder = some p.encoder.id)
  /-- An encoder is driven by a CRTC whose place in the full list has its bit in the mask, or by the
  one that it reports. -/
  drives : ∀ p ∈ d.pipelines, ∃ info j, R d.card (.encoderInfo p.encoder.id) = .ok info ∧
    listed.crtcs[j]? = some p.crtc.id ∧
    (j < 32 ∧ info.possibleCrtcs.toNat.testBit j = true ∨ info.currentCrtc = some p.crtc.id)

theorem wired_of_resources (h : (init K card first).Gives s d s') {R : Replies κ}
    {listed : ResourceList} {planeIds : List ObjectId} (hlisted : listed.Distinct)
    (hresources : d.resources = R.resources d.card listed planeIds) : d.Wired R listed := by
  have hperm := (map_connector_pipelines h).map (·.id)
  rw [List.map_map, hresources] at hperm
  constructor
  case connectors_nodup =>
      exact hperm.nodup_iff.2 (Replies.nodup_map_connectors hlisted.connectors)
  case mem_connectors => exact fun id => hperm.mem_iff.trans Replies.mem_map_connectors
  case encoders_nodup =>
      refine nodup_map_encoder_pipelines h ?_
      rw [hresources]
      exact Replies.nodup_map_encoders hlisted.encoders
  case crtcs_nodup =>
      refine nodup_map_crtc_pipelines h ?_
      rw [hresources]
      exact Replies.nodup_map_crtcs hlisted.crtcs
  case feeds =>
      intro p hp
      have hmem := (mem_resources_of_mem_pipelines hp).1
      rw [hresources] at hmem
      obtain ⟨id, i, -, hread, -⟩ := Replies.mem_connectors.1 hmem
      obtain ⟨info, property, hinfo, -, hc⟩ := Replies.connector_eq_ok_iff.1 hread
      have hfits := (fits_of_mem_pipelines h hp).1
      rw [hc] at hfits ⊢
      exact ⟨info, hinfo, hfits⟩
  case drives =>
      intro p hp
      obtain ⟨-, hencoder, hcrtc⟩ := mem_resources_of_mem_pipelines hp
      rw [hresources] at hencoder hcrtc
      obtain ⟨id, i, -, hread⟩ := mem_readable.1 hencoder
      obtain ⟨info, hinfo, he⟩ := Replies.encoder_eq_ok_iff.1 hread
      obtain ⟨id', j, hj, hread'⟩ := mem_readable.1 hcrtc
      obtain ⟨rfl, rfl⟩ := Replies.crtc_eq_ok hread'
      -- the place in the full list is the one that the mask counts
      have hword : p.crtc.index < UInt32.size :=
        (List.getElem?_eq_some_iff.1 hj).1.trans hlisted.places
      have hfits := (fits_of_mem_pipelines h hp).2
      rw [Encoder.supports, Crtc.inMask_iff hword] at hfits
      rw [he] at hfits ⊢
      exact ⟨info, p.crtc.index, hinfo, hj, hfits⟩

/-- **An initialized device is wired as the kernel says**, whichever objects could not be read, if the
kernel does not change what it says about them. -/
theorem wired_of_gives_init (h : (init K card first).Gives s d s') (R : Replies κ)
    (hR : R.AgreesWith Request.AboutObjects ((init K card first).run.exchanges K s)) :
    ∃ listed, (∀ reply, ⟨card, .resources, reply⟩ ∈ (init K card first).run.exchanges K s ↔
        reply = .ok listed) ∧
      (listed.Distinct → d.card = card ∧ d.Wired R listed) := by
  obtain ⟨asked, listed, planeIds, rest, hexchanges, hasked, hrest, hresources⟩ :=
    exchanges_of_gives_init h
  obtain ⟨rfl, -⟩ := assign_of_gives_init h
  rw [hexchanges] at hR ⊢
  refine ⟨listed, fun reply => ?_, fun hlisted => ⟨rfl, ?_⟩⟩
  · constructor
    · intro hmem
      rcases List.mem_append.1 hmem with hnegotiated | hmem
      · cases hasked _ hnegotiated
      rcases List.mem_cons.1 hmem with heq | hmem
      · cases heq
        rfl
      rcases List.mem_cons.1 hmem with heq | habout
      · cases heq
      · cases hrest _ habout
    · rintro rfl
      simp
  · refine wired_of_resources h hlisted (hresources R fun e he => hR e ?_)
    simp [he]

/-- A card whose first CRTC and first connector cannot be read.  Its panel is lit through an encoder
with an empty mask. -/
def damaged : MemoryCard := .build [.bareCrtc 20, .crtc 21, .crtc 22, .encoder 30 none 0b10,
  .encoder 31 (some 22) 0, .bareConnector ⟨40, .displayPort, .connected, none, [30]⟩,
  .connector ⟨41, .writeback, .unknown, none, []⟩, .connector ⟨42, .hdmiA, .connected, none, [30]⟩,
  .connector ⟨43, .embeddedDisplayPort, .connected, some 31, []⟩]

/-- What can be read of the card. -/
def damagedProblem : Routing.Problem where
  connectors := [⟨42, 2, .hdmiA, 1, .connected, none, [30], 1005⟩,
    ⟨43, 3, .embeddedDisplayPort, 1, .connected, some 31, [], 1006⟩]
  encoders := [⟨30, 0, none, 0b10⟩, ⟨31, 1, some 22, 0⟩]
  crtcs := [⟨21, 1, none, 1000, 1001⟩, ⟨22, 2, none, 1002, 1003⟩]

/-- CRTC 21 keeps its place 1, so the mask of encoder 30 has it. -/
theorem damaged_wired : ∃ d s', (init MemoryCard.kernel () .zero).Gives damaged d s' ∧
    d.resources.problem = damagedProblem ∧
    ∃ listed, listed.crtcs = [20, 21, 22] ∧ d.Wired damaged.replies listed := by
  have hgreedy : damagedProblem.greedy = .ok [(0, 0), (1, 1)] := rfl
  have hassign := Routing.assign_eq_ok_iff.2
    ⟨show DisplayId.zero.HasRoom damagedProblem.connectors.length by decide, _, hgreedy, rfl⟩
  obtain ⟨d, s', h, hproblem⟩ : ∃ d s', (init MemoryCard.kernel () .zero).Gives damaged d s' ∧
      d.resources.problem = damagedProblem :=
    ⟨⟨(), _, ⟨_, _, _, _, _, _⟩, _⟩, _,
      gives_init_iff.2 ⟨rfl, _, ⟨rfl, rfl⟩, ⟨rfl, rfl⟩, hassign⟩, rfl⟩
  have hR := MemoryCard.agreesWith_exchanges (init MemoryCard.kernel () .zero).run damaged
  obtain ⟨listed, hlisted, hwired⟩ := wired_of_gives_init h damaged.replies hR
  have hasked : ⟨(), .resources, .ok ⟨[20, 21, 22], [30, 31], [40, 41, 42, 43], _⟩⟩ ∈
      (init MemoryCard.kernel () .zero).run.exchanges MemoryCard.kernel damaged :=
    List.mem_of_getElem? (i := 5) rfl
  cases (hlisted _).1 hasked
  exact ⟨d, s', h, hproblem, _, rfl, (hwired ⟨by decide, by decide, by decide, by decide⟩).2⟩

end Device

end Scanout
