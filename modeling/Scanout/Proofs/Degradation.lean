/-
**Optional capabilities only degrade.**

A card in memory hides its connectors that write to memory until it is told to show them, so what is granted
at the beginning of an initialization decides which lists are read afterwards, and where in them the screens
stand.  But the hidden connectors are of no use to a routing, and shorter lists lead to the same screens.  So
whether writeback connectors and modifiers are granted shows in what a device says of its capabilities, and
nowhere in its displays.

Main definitions:

* `Scanout.MemoryCard.showing` — a card after it was asked to show connectors that write to memory;
* `Scanout.MemoryCard.SameButOptions` — two cards differ in what they reply about optional capabilities;
* `Scanout.MemoryCard.Equips` — a device has the options that its card granted.

Main results:

* `Scanout.MemoryCard.agreesWith_init` — an initialization sees the card that shows its connectors;
* `Scanout.MemoryCard.omitsUseless_hidden` — hidden connectors are of no use;
* `Scanout.MemoryCard.init_only_degrades` — **optional capabilities only degrade**.
-/

import Scanout.Proofs.Omission

set_option relaxedAutoImplicit false
set_option autoImplicit false

namespace Scanout

/-! ### What an initialization sees of a card -/

/-- The requests that change nothing on a card in memory. -/
def Request.ChangesNothing : Request → Prop
  | .setClientCapability .writebackConnectors _ | .acquireMaster => False
  | .createBlob _ | .destroyBlob _ => False
  | _ => True

/-- The requests whose replies do not depend on what a card offers or was granted. -/
def Request.Plain : Request → Prop
  | .setClientCapability .writebackConnectors _ | .driverCapability .addFb2Modifiers => False
  | .resources | .createBlob _ | .destroyBlob _ => False
  | _ => True

theorem Request.AboutObjects.plain {q : Request} (h : q.AboutObjects) : q.Plain := by
  cases q <;> trivial

theorem Request.Plain.steady {q : Request} (h : q.Plain) : q.Steady := by
  cases q <;> trivial

theorem Request.Plain.operation_ne {q : Request} (h : q.Plain) :
    q.operation ≠ .writeback ∧ q.operation ≠ .addFb2 := by
  cases q with
  | setClientCapability capability enable =>
      cases capability <;> first | exact False.elim h | exact ⟨nofun, nofun⟩
  | driverCapability capability => cases capability <;> first | exact False.elim h | exact ⟨nofun, nofun⟩
  | _ => exact ⟨nofun, nofun⟩

theorem Request.Negotiates.steady {q : Request} (h : q.Negotiates) : q.Steady := by
  cases q <;> trivial

theorem Request.Enumerates.changesNothing {q : Request} (h : q.Enumerates) : q.ChangesNothing := by
  rcases h with rfl | rfl | habout
  · trivial
  · trivial
  · cases q <;> trivial

namespace MemoryCard

variable {α : Type} {m : MemoryCard}

theorem state_answer {q : Request} (h : q.ChangesNothing) : (m.answer q).2 = m := by
  rw [answer]
  cases m.refusals.find? q.operation with
  | some e => cases q <;> first | rfl | cases h
  | none =>
      cases q with
      | setClientCapability capability enable => cases capability <;> first | rfl | cases h
      | driverCapability capability => cases capability <;> rfl
      | acquireMaster | createBlob | destroyBlob => cases h
      | _ => rfl

/-- The card after it was asked to show connectors that write to memory. -/
def showing (m : MemoryCard) : MemoryCard :=
  (m.answer (.setClientCapability .writebackConnectors true)).2

/-- How often mastership was granted does not show in an enumeration. -/
theorem replies_mastered {mastered : Nat} {q : Request} (h : q.Enumerates) :
    replies { m with mastered := mastered } () q = m.replies () q := by
  rcases h with rfl | rfl | habout
  · rw [replies, replies, answer, answer]
    cases m.refusals.find? Request.resources.operation <;> rfl
  · exact replies_of_steady trivial
  · exact replies_of_steady habout.steady

theorem replies_showing {q : Request} (h : q.Steady) : m.showing.replies () q = m.replies () q := by
  obtain ⟨writeback, mastered, blobs, hstate⟩ :=
    m.exists_answer_eq (.setClientCapability .writebackConnectors true)
  rw [showing, hstate, replies_of_steady h]

/-- When nothing is changed, all exchanges agree with the card. -/
theorem agreesWith_of_changesNothing {x : Action Unit MemoryCard α}
    (h : x.Talks kernel (onCard () Request.ChangesNothing)) (m : MemoryCard) :
    m.replies.AgreesWith (fun _ => True) (x.exchanges kernel m) := by
  refine Replies.agreesWith_dialogue (I := (· = m)) (fun _ q u _ hu _ => ?_) (fun _ q u hq hu => ?_)
    (h.asks m) rfl
  · exact hu ▸ rfl
  · exact (state_answer hq.2).trans hu

theorem exists_state_acquireMaster (m : MemoryCard) :
    ∃ mastered, (m.answer .acquireMaster).2 = { m with mastered := mastered } := by
  cases hrefusal : m.refusals.find? Request.acquireMaster.operation with
  | some e => exact ⟨m.mastered, congrArg Prod.snd (answer_of_refused hrefusal)⟩
  | none => exact ⟨_, congrArg Prod.snd (answer_of_granted hrefusal)⟩

/-- A negotiation leaves a card as it is after the request for writeback connectors, apart from
mastership. -/
theorem exists_after_negotiation (m : MemoryCard) :
    ∃ mastered, kernel.after () Request.negotiation m = { m.showing with mastered := mastered } := by
  have hstate : ∀ (u : MemoryCard) (q : Request), q.ChangesNothing → (kernel.answer () q u).2 = u :=
    fun _ _ => state_answer
  rw [Request.negotiation, Kernel.after, List.foldl_cons, List.foldl_cons, List.foldl_cons,
    List.foldl_cons, hstate m (.setClientCapability .universalPlanes true) trivial,
    hstate m (.setClientCapability .atomic true) trivial,
    hstate _ (.driverCapability .addFb2Modifiers) trivial]
  exact m.showing.exists_state_acquireMaster

/-- **An initialization sees the card that shows its connectors**, if it can. -/
theorem agreesWith_init (m : MemoryCard) (first : DisplayId) :
    m.showing.replies.AgreesWith (fun _ => True)
      ((Device.init kernel () first).run.exchanges kernel m) := by
  have hnegotiates := scripted_negotiate.talks kernel ()
  have hasked : m.showing.replies.AgreesWith (fun _ => True)
      ((negotiate kernel ()).run.exchanges kernel m) := by
    intro e he _
    have hsteady := (hnegotiates.of_mem_exchanges he).2.steady
    rw [replies_showing hsteady]
    exact agreesWith_steady _ m e he hsteady
  have hrest : ∀ c, (do
      let resources ← enumerate kernel ()
      let assignment ← Routing.route resources.problem first
      let device : Device Unit := ⟨(), c, resources, assignment⟩
      ExceptT.lift (Device.announce device.pipelines)
      return device : Attempt Unit MemoryCard DeviceError (Device Unit)).run.Talks kernel
        (onCard () Request.Enumerates) := fun c =>
    Attempt.talks_bind (scripted_enumerate.talks kernel ()) fun _ =>
    Attempt.talks_bind ((Routing.scripted_route _ _).talks kernel ()) fun _ =>
    Attempt.talks_bind (Attempt.talks_lift ((Device.scripted_announce _).talks kernel ())) fun _ =>
    .pure _
  -- connectors are shown or not from the negotiation on, and nothing changes after it
  rw [Device.init]
  cases hvalue : ((negotiate kernel ()).run.run m).value with
  | error e => rwa [Attempt.exchanges_bind_of_error hnegotiates hvalue]
  | ok c =>
      obtain ⟨mastered, hafter⟩ := m.exists_after_negotiation
      rw [Attempt.exchanges_bind hnegotiates ⟨hvalue, rfl⟩, Replies.agreesWith_append,
        state_of_gives_negotiate ⟨hvalue, rfl⟩, hafter]
      refine ⟨hasked, fun e he _ => ?_⟩
      have hkind := ((hrest c).of_mem_exchanges he).2
      rw [← replies_mastered hkind]
      refine agreesWith_of_changesNothing ((hrest c).mono fun _ _ hq => ?_) _ e he trivial
      exact ⟨hq.1, hq.2.changesNothing⟩

/-! ### Hidden connectors are of no use -/

theorem showing_of_refused {e : SystemError} (h : m.refusals.find? .writeback = some e) :
    m.showing = m := by
  rw [showing, answer_of_refused h]
  rfl

theorem showing_of_granted (h : m.refusals.find? .writeback = none) :
    m.showing = { m with writeback := true } := by
  rw [showing, answer_of_granted h]
  rfl

theorem exists_showing (m : MemoryCard) : ∃ shown, m.showing = { m with writeback := shown } := by
  cases h : m.refusals.find? .writeback with
  | some e => exact ⟨m.writeback, showing_of_refused h⟩
  | none => exact ⟨true, showing_of_granted h⟩

theorem replies_resources (m : MemoryCard) (shown : Bool) :
    replies { m with writeback := shown } () .resources =
      match m.refusals.find? .resources with
      | some e => .error e
      | none => .ok (resourceList { m with writeback := shown }) := by
  rw [replies, answer]
  change (match m.refusals.find? .resources with | some e => _ | none => _ : Except _ _ × _).1 = _
  cases m.refusals.find? .resources <;> rfl

theorem eq_of_replies_resources {listed : ResourceList} (h : m.replies () .resources = .ok listed) :
    listed = m.resourceList := by
  have hreply := m.replies_resources m.writeback
  cases hrefusal : m.refusals.find? .resources with
  | some e =>
      rw [hrefusal] at hreply
      cases h.symm.trans hreply
  | none =>
      rw [hrefusal] at hreply
      exact Except.ok.inj (h.symm.trans hreply)

section Hidden

variable (hids : (m.connectors.map (·.id)).Nodup)

include hids

/-- A card whose connectors have different ids says of each what it holds. -/
theorem info_of_connectorInfo {c : Listed ConnectorInfo} (hc : c ∈ m.connectors) {info : ConnectorInfo}
    (h : m.replies () (.connectorInfo c.id) = .ok info) : info = c.info := by
  have hfind : m.connectors.find? (·.id = c.id) = some c :=
    (Table.find?_key_eq_some_iff hids).2 ⟨hc, rfl⟩
  rw [replies] at h
  cases hrefusal : m.refusals.find? (Request.connectorInfo c.id).operation with
  | some e =>
      rw [answer_of_refused hrefusal] at h
      cases h
  | none =>
      rw [answer_of_granted hrefusal] at h
      change m.lookUp m.connectors c.id = .ok info at h
      cases hanswer : c.refusal with
      | some e => simp [lookUp, hfind, hanswer] at h
      | none => simpa [lookUp, hfind, hanswer] using h.symm

theorem writesBack_eq {c : Listed ConnectorInfo} (hc : c ∈ m.connectors) :
    m.replies.writesBack () c.id =
      (m.replies.answers () (.connectorInfo c.id) && decide (c.info.interface = .writeback)) := by
  rw [Replies.writesBack, Replies.answers]
  cases h : m.replies () (.connectorInfo c.id) with
  | error e => rfl
  | ok info =>
      rw [info_of_connectorInfo hids hc h]
      rfl

/-- Hidden connectors are of no use. -/
theorem omitsUseless_hidden : m.replies.OmitsUseless ()
    (resourceList { m with writeback := true }) (resourceList { m with writeback := false }) := by
  refine ⟨?_, .refl _, rfl, rfl⟩
  have hall : shownConnectors { m with writeback := true } = m.connectors := by
    simp [shownConnectors]
  rw [resourceList, resourceList, hall]
  refine Omits.of_filter fun c hc hhidden => ?_
  have hwriteback : c.info.interface = .writeback := by simpa using hhidden
  have hwrites := writesBack_eq hids hc
  rw [decide_eq_true hwriteback, Bool.and_true] at hwrites
  cases hanswers : m.replies.answers () (.connectorInfo c.id) with
  | true => exact .inr (hwrites.trans hanswers)
  | false => exact .inl (by rw [Replies.hasConnector, hanswers]; rfl)

/-- Whether connectors that write to memory are shown does not matter to the screens. -/
theorem sameScreens_shown (shown shown' : Bool) (planeIds : List ObjectId) :
    (m.replies.resources () (resourceList { m with writeback := shown }) planeIds).SameScreens
      (m.replies.resources () (resourceList { m with writeback := shown' }) planeIds) := by
  -- both are compared with the card that hides its connectors
  have hhidden : ∀ shown : Bool,
      (m.replies.resources () (resourceList { m with writeback := shown }) planeIds).SameScreens
        (m.replies.resources () (resourceList { m with writeback := false }) planeIds) := by
    intro shown
    cases shown with
    | false => exact ⟨rfl, rfl, rfl, rfl⟩
    | true => exact Replies.sameScreens_resources (omitsUseless_hidden hids) _ _
  exact (hhidden shown).trans (hhidden shown').symm

/-- As long as connectors that write to memory are hidden, none is found. -/
theorem writebackConnectors_hidden (hhidden : m.writeback = false) (planeIds : List ObjectId) :
    (m.replies.resources () m.resourceList planeIds).writebackConnectors = [] := by
  have hselected := (m.replies.selectedFrom_resources () m.resourceList planeIds).writebackConnectors
  rw [List.filter_eq_nil_iff.2 ?_] at hselected
  · exact List.map_eq_nil_iff.1 hselected
  intro x hx
  obtain ⟨c, hc, hid⟩ := List.mem_map.1 (List.fst_mem_of_mem_zipIdx hx)
  obtain ⟨hmem, hshown⟩ := List.mem_filter.1 hc
  have hwrites := writesBack_eq hids hmem
  rw [hhidden, Bool.false_or, decide_eq_true_iff] at hshown
  rw [decide_eq_false hshown, Bool.and_false] at hwrites
  simp [← hid, hwrites]

end Hidden

/-! ### Cards that differ in their options -/

/-- Two cards differ at most in what they reply to the request for writeback connectors and to the question
about modifiers. -/
structure SameButOptions (m m' : MemoryCard) : Prop where
  card : { m with addFb2 := m'.addFb2, refusals := m'.refusals } = m'
  refusals : ∀ op : Operation, op ≠ .writeback → op ≠ .addFb2 →
    m.refusals.find? op = m'.refusals.find? op

namespace SameButOptions

variable {m' : MemoryCard} (h : m.SameButOptions m')

include h

theorem replies_eq {q : Request} (hplain : q.Plain) : m.replies () q = m'.replies () q := by
  obtain ⟨hwriteback, hmodifiers⟩ := hplain.operation_ne
  rw [replies, replies, answer, answer, ← h.refusals _ hwriteback hmodifiers, ← h.card]
  cases m.refusals.find? q.operation with
  | some e => rfl
  | none =>
      cases q with
      | setClientCapability capability enable => cases capability <;> rfl
      | driverCapability capability => cases capability <;> first | rfl | cases hplain
      | resources | createBlob | destroyBlob => cases hplain
      | _ => rfl

theorem replies_showing_eq {q : Request} (hplain : q.Plain) :
    m.showing.replies () q = m'.showing.replies () q := by
  rw [replies_showing hplain.steady, replies_showing hplain.steady, h.replies_eq hplain]

/-- What is demanded of the driver is granted on both cards, or refused alike. -/
theorem negotiation_alike : EndAlike (fun _ _ => True) (m.showing.replies.negotiation ())
    (m'.showing.replies.negotiation ()) := by
  have hdemand : ∀ (q : Request) (wrap : SystemError → DeviceError), q.Plain →
      EndAlike (fun _ _ => True) ((m.showing.replies () q).mapError wrap)
        ((m'.showing.replies () q).mapError wrap) := by
    intro q wrap hplain
    rw [h.replies_showing_eq hplain]
    exact .refl (fun _ => trivial) _
  refine (hdemand (.setClientCapability .universalPlanes true) _ trivial).bind fun _ _ _ => ?_
  refine (hdemand (.setClientCapability .atomic true) _ trivial).bind fun _ _ _ => ?_
  refine (hdemand .acquireMaster _ trivial).bind fun _ _ _ => ?_
  exact .done trivial

/-- Both cards name their objects, or refuse to alike.  The lists differ in hidden connectors. -/
theorem resources_alike : ∃ shown shown', EndAlike
    (fun listed listed' => listed = resourceList { m with writeback := shown } ∧
      listed' = resourceList { m with writeback := shown' })
    (m.showing.replies () .resources) (m'.showing.replies () .resources) := by
  obtain ⟨shown, hshowing⟩ := m.exists_showing
  obtain ⟨shown', hshowing'⟩ := m'.exists_showing
  refine ⟨shown, shown', ?_⟩
  rw [hshowing, hshowing', replies_resources, replies_resources,
    ← h.refusals .resources nofun nofun, ← h.card]
  cases m.refusals.find? .resources with
  | some e => exact .failed e
  | none => exact .done ⟨rfl, rfl⟩

/-- Both cards have the same objects, apart from hidden connectors. -/
theorem enumeration_alike (hids : (m.connectors.map (·.id)).Nodup) :
    EndAlike (fun r r' => r.SameScreens r' ∧ r.encoders = r'.encoders ∧ r.planes = r'.planes)
      (m.showing.replies.enumeration ()) (m'.showing.replies.enumeration ()) := by
  have hobjects : m.showing.replies.resources () = m'.showing.replies.resources () :=
    Replies.resources_congr fun _ hq => h.replies_showing_eq hq.plain
  have hshowing : m.showing.replies.resources () = m.replies.resources () :=
    Replies.resources_congr fun _ hq => replies_showing hq.steady
  have hplanes : m.showing.replies () .planeIds = m'.showing.replies () .planeIds :=
    h.replies_showing_eq trivial
  obtain ⟨shown, shown', hresources⟩ := h.resources_alike
  rw [Replies.enumeration, Replies.enumeration, ← hplanes, ← hobjects, hshowing]
  refine (hresources.mapError _).bind fun listed listed' hlisted => ?_
  obtain ⟨rfl, rfl⟩ := hlisted
  cases m.showing.replies () .planeIds with
  | error e => exact .failed _
  | ok planeIds => exact .done ⟨sameScreens_shown hids shown shown' planeIds, rfl, rfl⟩

end SameButOptions

/-! ### What comes of options -/

/-- A device has the options that its card grants, and no writeback connectors if that is refused. -/
structure Equips (m : MemoryCard) (d : Device Unit) : Prop where
  writeback : d.capabilities.writeback = true ↔
    (m.answer (.setClientCapability .writebackConnectors true)).1 = .ok ()
  modifiers : d.capabilities.modifiers = true ↔
    ∃ value, (m.answer (.driverCapability .addFb2Modifiers)).1 = .ok value ∧ value ≠ 0
  hidden : ∀ e, (m.answer (.setClientCapability .writebackConnectors true)).1 = .error e →
    d.resources.writebackConnectors = []

theorem equips_of_device {first : DisplayId} {d : Device Unit}
    (hids : (m.connectors.map (·.id)).Nodup) (hhidden : m.writeback = false)
    (h : m.showing.replies.device () first = .ok d) : m.Equips d := by
  obtain ⟨-, hnegotiation, henumeration, -⟩ := Replies.device_eq_ok_iff.1 h
  have hcapabilities := Replies.eq_of_negotiation hnegotiation
  constructor
  case writeback =>
      have hreply := replies_showing (m := m)
        (q := .setClientCapability .writebackConnectors true) trivial
      rw [hcapabilities, Replies.answers_iff, hreply]
      exact ⟨fun ⟨_, hgranted⟩ => hgranted, fun hgranted => ⟨_, hgranted⟩⟩
  case modifiers =>
      have hreply := replies_showing (m := m) (q := .driverCapability .addFb2Modifiers) trivial
      rw [hcapabilities, Replies.takesModifiers_iff, hreply]
      rfl
  case hidden =>
      intro e hrefused
      have hshowing : m.showing = m := by
        cases hrefusal : m.refusals.find? .writeback with
        | some e => exact showing_of_refused hrefusal
        | none =>
            rw [answer_of_granted hrefusal] at hrefused
            cases hrefused
      rw [hshowing] at henumeration
      obtain ⟨listed, planeIds, hlisted, -, hresources⟩ :=
        Replies.enumeration_eq_ok_iff.1 henumeration
      rw [hresources, eq_of_replies_resources hlisted]
      exact writebackConnectors_hidden hids hhidden planeIds

/-- **Optional capabilities only degrade.**  Whether writeback connectors and modifiers are granted or
not, two cards that are alike otherwise fail with the same error, or they become devices with the same
displays and objects, which record what was granted. -/
theorem init_only_degrades {m' : MemoryCard} (h : m.SameButOptions m')
    (hids : (m.connectors.map (·.id)).Nodup) (hhidden : m.writeback = false) (first : DisplayId) :
    EndAlike (fun d e => d.SameDisplays e ∧ d.resources.encoders = e.resources.encoders ∧
        d.resources.planes = e.resources.planes ∧ m.Equips d ∧ m'.Equips e)
      ((Device.init kernel () first).run.run m).value
      ((Device.init kernel () first).run.run m').value := by
  have hids' : (m'.connectors.map (·.id)).Nodup := by rwa [← h.card]
  have hhidden' : m'.writeback = false := by rwa [← h.card]
  rw [Device.settles_init kernel m.showing.replies () first m (m.agreesWith_init first),
    Device.settles_init kernel m'.showing.replies () first m' (m'.agreesWith_init first)]
  have halike := Replies.device_alike h.negotiation_alike (h.enumeration_alike hids)
    (fun _ _ hr => hr.1) first
  generalize hd : m.showing.replies.device () first = x at halike
  generalize he : m'.showing.replies.device () first = y at halike
  cases halike with
  | failed e => exact .failed e
  | done hde =>
      obtain ⟨-, ⟨-, hencoders, hplanes⟩, hdisplays⟩ := hde
      exact .done ⟨hdisplays, hencoders, hplanes, equips_of_device hids hhidden hd,
        equips_of_device hids' hhidden' he⟩

/-- The damaged card with modifiers and without writeback connectors. -/
def stripped : MemoryCard := { Device.damaged with
  addFb2 := 5, refusals := Device.damaged.refusals.insert .writeback (.os 22) }

/-- The damaged card shows connector 41 before its screens, and its screens are driven as without it. -/
theorem damaged_only_degrades : Device.damaged.SameButOptions stripped ∧
    (Device.damaged.connectors.map (·.id)).Nodup ∧ Device.damaged.writeback = false ∧
    ∃ d e, ((Device.init kernel () .zero).run.run Device.damaged).value = .ok d ∧
      ((Device.init kernel () .zero).run.run stripped).value = .ok e ∧
      d.capabilities = ⟨true, false⟩ ∧ e.capabilities = ⟨false, true⟩ ∧
      d.resources.connectors.map (fun c => (c.id, c.index)) = [(42, 2), (43, 3)] ∧
      e.resources.connectors.map (fun c => (c.id, c.index)) = [(42, 1), (43, 2)] ∧
      d.resources.writebackConnectors.map (·.id) = [41] ∧
      e.resources.writebackConnectors = [] ∧ d.SameDisplays e := by
  have hsame : Device.damaged.SameButOptions stripped := by
    refine ⟨rfl, fun op hwriteback hmodifiers => ?_⟩
    cases op <;> first | rfl | contradiction
  have hids : (Device.damaged.connectors.map (·.id)).Nodup := by decide
  have halike := init_only_degrades hsame hids rfl .zero
  rw [Device.settles_init kernel Device.damaged.showing.replies () _ _ (agreesWith_init _ _),
    Device.settles_init kernel stripped.showing.replies () _ _ (agreesWith_init _ _)] at halike ⊢
  obtain ⟨_, hd⟩ := Device.damaged.showing.replies.exists_device () .zero rfl rfl (by decide) rfl
  obtain ⟨_, he⟩ := stripped.showing.replies.exists_device () .zero rfl rfl (by decide) rfl
  rw [hd, he] at halike ⊢
  cases halike with
  | done h => exact ⟨hsame, hids, rfl, _, _, rfl, rfl, rfl, rfl, rfl, rfl, rfl, rfl, h.1⟩

end MemoryCard

end Scanout
