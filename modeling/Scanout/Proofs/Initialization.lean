/-
**What initialization depends on.**

An initialization takes many requests, but what comes of it is a computation on the replies.  The driver
must grant what is demanded of it, the two lists must be there, and the connectors that can be read must be
routed.  So two initializations are compared by their replies alone, whatever kernels gave them.

Main definitions:

* `Scanout.Replies.negotiation`, `Scanout.Replies.enumeration`, `Scanout.Replies.device` — what the replies
  of a card make of a negotiation, an enumeration and an initialization;
* `Scanout.EndAlike` — two results are the same error, or values that are related;
* `Scanout.Request.negotiation` — the requests of a negotiation that succeeds;
* `Scanout.Replies.kernel` — the kernel that always gives the same replies.

Main results:

* `Scanout.settles_negotiate`, `Scanout.settles_enumerate` — the two parts end as the replies say;
* `Scanout.Device.settles_init` — **an initialization ends as the replies say**;
* `Scanout.state_of_gives_negotiate` — the world after a negotiation that succeeds.
-/

import Scanout.Proofs.Selection

set_option relaxedAutoImplicit false
set_option autoImplicit false

namespace Scanout

variable {κ σ : Type}

/-! ### Results that are alike -/

section EndAlike

variable {ε ε' α β : Type} {P : α → β → Prop}

/-- Two results are the same error, or values that are related by `P`. -/
inductive EndAlike (P : α → β → Prop) : Except ε α → Except ε β → Prop
  | failed (e : ε) : EndAlike P (.error e) (.error e)
  | done {a : α} {b : β} (h : P a b) : EndAlike P (.ok a) (.ok b)

namespace EndAlike

theorem refl {P : α → α → Prop} (hP : ∀ a, P a a) (x : Except ε α) : EndAlike P x x := by
  cases x with
  | error e => exact .failed e
  | ok a => exact .done (hP a)

theorem imp {Q : α → β → Prop} {x : Except ε α} {y : Except ε β} (h : EndAlike P x y)
    (hPQ : ∀ a b, P a b → Q a b) : EndAlike Q x y := by
  cases h with
  | failed e => exact .failed e
  | done h => exact .done (hPQ _ _ h)

theorem mapError {x : Except ε α} {y : Except ε β} (h : EndAlike P x y) (wrap : ε → ε') :
    EndAlike P (x.mapError wrap) (y.mapError wrap) := by
  cases h with
  | failed e => exact .failed (wrap e)
  | done h => exact .done h

/-- Sequences end alike when their parts do. -/
theorem bind {α' β' : Type} {Q : α' → β' → Prop} {x : Except ε α} {y : Except ε β}
    {f : α → Except ε α'} {g : β → Except ε β'} (h : EndAlike P x y)
    (hfg : ∀ a b, P a b → EndAlike Q (f a) (g b)) : EndAlike Q (x >>= f) (y >>= g) := by
  cases h with
  | failed e => exact .failed e
  | done h => exact hfg _ _ h

end EndAlike

end EndAlike

/-! ### What replies make of an initialization -/

namespace Replies

variable (R : Replies κ) (card : κ)

/-- Whether the driver says that it takes format modifiers. -/
def takesModifiers : Bool :=
  match R card (.driverCapability .addFb2Modifiers) with
  | .ok value => value != 0
  | .error _ => false

/-- The capabilities of a card that grants what is demanded of it. -/
def negotiation : Except DeviceError Capabilities := do
  let _ ← (R card (.setClientCapability .universalPlanes true)).mapError
    (.capabilityUnsupported "universal planes")
  let _ ← (R card (.setClientCapability .atomic true)).mapError (.capabilityUnsupported "atomic")
  let _ ← (R card .acquireMaster).mapError .accessDenied
  -- these are asked for before mastership, but no reply to them is a failure
  return ⟨R.answers card (.setClientCapability .writebackConnectors true), R.takesModifiers card⟩

/-- Everything a card has that can name its objects. -/
def enumeration : Except DeviceError Resources := do
  let listed ← (R card .resources).mapError (.noResources "resources")
  let planeIds ← (R card .planeIds).mapError (.noResources "plane resources")
  return R.resources card listed planeIds

/-- The device that a card becomes. -/
def device (first : DisplayId) : Except DeviceError (Device κ) := do
  let capabilities ← R.negotiation card
  let resources ← R.enumeration card
  let assignment ← (Routing.assign resources.problem first).mapError .routing
  return ⟨card, capabilities, resources, assignment⟩

theorem takesModifiers_iff {R : Replies κ} {card : κ} : R.takesModifiers card = true ↔
    ∃ value, R card (.driverCapability .addFb2Modifiers) = .ok value ∧ value ≠ 0 := by
  rw [takesModifiers]
  cases R card (.driverCapability .addFb2Modifiers) with
  | error e => simp
  | ok value => simp

/-- A negotiation that succeeds gives the options as they are. -/
theorem eq_of_negotiation {R : Replies κ} {card : κ} {c : Capabilities}
    (h : R.negotiation card = .ok c) :
    c = ⟨R.answers card (.setClientCapability .writebackConnectors true), R.takesModifiers card⟩ := by
  simp only [negotiation, bind_eq_ok_iff] at h
  obtain ⟨_, -, _, -, _, -, h⟩ := h
  cases h
  rfl

/-- An enumeration that succeeds gives what can be used of the two lists. -/
theorem enumeration_eq_ok_iff {R : Replies κ} {card : κ} {r : Resources} :
    R.enumeration card = .ok r ↔ ∃ listed planeIds, R card .resources = .ok listed ∧
      R card .planeIds = .ok planeIds ∧ r = R.resources card listed planeIds := by
  simp only [enumeration, bind_eq_ok_iff, mapError_eq_ok_iff, pure, Except.pure, Except.ok.injEq,
    exists_and_left, @eq_comm _ r]

/-- When a card becomes a device, and which one. -/
theorem device_eq_ok_iff {R : Replies κ} {card : κ} {first : DisplayId} {d : Device κ} :
    R.device card first = .ok d ↔ d.card = card ∧ R.negotiation card = .ok d.capabilities ∧
      R.enumeration card = .ok d.resources ∧
      Routing.assign d.resources.problem first = .ok d.assignment := by
  simp only [device, bind_eq_ok_iff, mapError_eq_ok_iff]
  constructor
  · rintro ⟨capabilities, hnegotiation, resources, henumeration, assignment, hassign, hd⟩
    cases hd
    exact ⟨rfl, hnegotiation, henumeration, hassign⟩
  · rintro ⟨rfl, hnegotiation, henumeration, hassign⟩
    exact ⟨_, hnegotiation, _, henumeration, _, hassign, rfl⟩

/-- A card becomes a device if what is demanded of it is granted, its objects can be named and a walk serves
all of its connectors. -/
theorem exists_device {c : Capabilities} {r : Resources} {links : List Routing.Link}
    (first : DisplayId) (hnegotiation : R.negotiation card = .ok c)
    (henumeration : R.enumeration card = .ok r)
    (hroom : first.HasRoom r.problem.connectors.length) (hgreedy : r.problem.greedy = .ok links) :
    ∃ a, R.device card first = .ok ⟨card, c, r, a⟩ := by
  have hassign := Routing.assign_eq_ok_iff.2 ⟨hroom, _, hgreedy, rfl⟩
  exact ⟨_, device_eq_ok_iff.2 ⟨rfl, hnegotiation, henumeration, hassign⟩⟩

end Replies

section Congr

variable {κ' : Type} {R : Replies κ} {R' : Replies κ'} {a : κ} {b : κ'}
  (h : ∀ q : Request, q.AboutObjects → R a q = R' b q)

include h

theorem Replies.property_congr (object : ObjectId) (kind : ObjectKind) (name : String) :
    R.property a object kind name = R'.property b object kind name := by
  have hcalled : R.called a object name = R'.called b object name :=
    funext fun v => by rw [called, called, h (.propertyInfo v.1) trivial]
  rw [property, property, h (.objectProperties object kind) trivial]
  simp only [named, hcalled]

/-- Cards that say the same of objects have the same objects in the same lists. -/
theorem Replies.resources_congr : R.resources a = R'.resources b := by
  have hproperty := Replies.property_congr h
  have hcrtc : R.crtc a = R'.crtc b := by
    funext id index
    simp only [crtc, h (.crtcInfo id) trivial, hproperty]
  have hencoder : R.encoder a = R'.encoder b := by
    funext id index
    simp only [encoder, h (.encoderInfo id) trivial]
  have hconnector : R.connector a = R'.connector b := by
    funext id index
    simp only [connector, h (.connectorInfo id) trivial, hproperty]
  have hplane : R.plane a = R'.plane b := by
    funext id
    simp only [plane, h (.planeInfo id) trivial, hproperty]
  funext listed planeIds
  simp only [resources, hcrtc, hencoder, hconnector, hplane]

end Congr

/-! ### Initializations end as the replies say -/

section Settles

variable (K : Kernel κ σ) (R : Replies κ) (card : κ)

theorem settles_requestWriteback :
    (requestWriteback K card).Settles K R Request.Negotiates
      (R.answers card (.setClientCapability .writebackConnectors true)) := by
  refine .bind (.ask (P := onCard card Request.Negotiates) ⟨rfl, trivial⟩) (.ask trivial) ?_
  rw [Replies.answers]
  cases R card (.setClientCapability .writebackConnectors true) with
  | error e => exact .bind (.log (P := onCard card Request.Negotiates) _ _) (.log _ _) (.pure _)
  | ok _ => exact .pure _

theorem settles_queryModifiers :
    (queryModifiers K card).Settles K R Request.Negotiates (R.takesModifiers card) := by
  refine .bind (.ask (P := onCard card Request.Negotiates) ⟨rfl, trivial⟩) (.ask trivial) ?_
  rw [Replies.takesModifiers]
  cases R card (.driverCapability .addFb2Modifiers) with
  | error e => exact .bind (.log (P := onCard card Request.Negotiates) _ _) (.log _ _) (.pure _)
  | ok value => exact .pure _

/-- A negotiation ends as the replies say. -/
theorem settles_negotiate :
    (negotiate K card).run.Settles K R Request.Negotiates (R.negotiation card) := by
  have hwriteback := scripted_requestWriteback.talks K card
  have hmodifiers := scripted_queryModifiers.talks K card
  have hlog : ∀ line, (Action.log .debug line : Action κ σ Unit).Talks K
      (onCard card Request.Negotiates) := fun line => .log _ line
  refine settles_demand_bind K R card (by trivial) _ fun _ => ?_
  refine settles_demand_bind K R card (by trivial) _ fun _ => ?_
  refine .bind (Attempt.talks_lift hwriteback)
    (Attempt.settles_lift hwriteback (settles_requestWriteback K R card)) ?_
  refine .bind (Attempt.talks_lift hmodifiers)
    (Attempt.settles_lift hmodifiers (settles_queryModifiers K R card)) ?_
  refine settles_demand_bind K R card (by trivial) _ fun _ => ?_
  exact .bind (Attempt.talks_lift (hlog _)) (Attempt.settles_lift (hlog _) (.log _ _)) (.pure _)

/-- An enumeration ends as the replies say. -/
theorem settles_enumerate :
    (enumerate K card).run.Settles K R Request.Enumerates (R.enumeration card) :=
  settles_demand_bind K R card (.inl rfl) _ fun listed =>
  settles_demand_bind K R card (.inr (.inl rfl)) _ fun planeIds =>
  Attempt.settles_lift ((scripted_readListed listed planeIds).talks K card)
    ((settles_readListed R listed planeIds).mono fun _ hq => .inr (.inr hq))

/-- **An initialization ends as the replies say.** -/
theorem Device.settles_init (first : DisplayId) :
    (init K card first).run.Settles K R (fun _ => True) (R.device card first) := by
  have hroute : ∀ p, (Routing.route p first : Attempt κ σ _ _).run.Settles K R (fun _ => True)
      ((Routing.assign p first).mapError .routing) := fun _ _ _ => rfl
  have hannounce : ∀ l, (announce l : Action κ σ Unit).Settles K R (fun _ => True) () :=
    fun _ _ _ => rfl
  have hsilent : ∀ {α : Type} {x : CardAction α}, Scripted (fun _ => True) x →
      (x κ σ K card).Talks K (onCard card fun _ => True) := fun hx => hx.talks K card
  refine Attempt.settles_bind (scripted_negotiate.talks K card)
    ((settles_negotiate K R card).mono fun _ _ => trivial) fun capabilities => ?_
  refine Attempt.settles_bind (scripted_enumerate.talks K card)
    ((settles_enumerate K R card).mono fun _ _ => trivial) fun resources => ?_
  refine Attempt.settles_bind (hsilent (Routing.scripted_route _ _)) (hroute _) fun assignment => ?_
  exact .bind (hsilent (.lift (scripted_announce _)))
    (Attempt.settles_lift (hsilent (scripted_announce _)) (hannounce _)) (.pure _)

end Settles

/-! ### What a negotiation asks -/

section Negotiation

variable {K : Kernel κ σ} {card : κ} {s t : σ}

/-- The requests of a negotiation that succeeds, in their order. -/
def Request.negotiation : List Request :=
  [.setClientCapability .universalPlanes true, .setClientCapability .atomic true,
    .setClientCapability .writebackConnectors true, .driverCapability .addFb2Modifiers, .acquireMaster]

theorem state_requestWriteback : ((requestWriteback K card).run s).state =
    (K.answer card (.setClientCapability .writebackConnectors true) s).2 := by
  rw [requestWriteback, Action.run_bind, Kernel.run_ask]
  cases (K.answer card (.setClientCapability .writebackConnectors true) s).1 <;> rfl

theorem state_queryModifiers : ((queryModifiers K card).run s).state =
    (K.answer card (.driverCapability .addFb2Modifiers) s).2 := by
  rw [queryModifiers, Action.run_bind, Kernel.run_ask]
  cases (K.answer card (.driverCapability .addFb2Modifiers) s).1 <;> rfl

/-- A negotiation that succeeds makes its five requests, whatever is replied to the optional ones. -/
theorem state_of_gives_negotiate {c : Capabilities} (h : (negotiate K card).Gives s c t) :
    t = K.after card Request.negotiation s := by
  have hdemand : ∀ {q : Request} {wrap : SystemError → DeviceError} {u v : σ} {r : q.Reply},
      (K.demand card q wrap).Gives u r v → (K.answer card q u).2 = v :=
    fun h => congrArg Prod.snd (Attempt.gives_demand_iff.1 h)
  obtain ⟨_, u₁, huniversal, h⟩ := Attempt.gives_bind_iff.1 h
  obtain ⟨_, u₂, hatomic, h⟩ := Attempt.gives_bind_iff.1 h
  obtain ⟨_, u₃, hwriteback, h⟩ := Attempt.gives_bind_iff.1 h
  obtain ⟨_, u₄, hmodifiers, h⟩ := Attempt.gives_bind_iff.1 h
  obtain ⟨_, u₅, hmaster, h⟩ := Attempt.gives_bind_iff.1 h
  obtain ⟨_, u₆, hlog, h⟩ := Attempt.gives_bind_iff.1 h
  obtain ⟨-, rfl⟩ := Attempt.gives_pure_iff.1 h
  have hmodifiers' := state_queryModifiers.symm.trans (Attempt.gives_lift_iff.1 hmodifiers).2
  have hwriteback' := state_requestWriteback.symm.trans (Attempt.gives_lift_iff.1 hwriteback).2
  rw [← (Attempt.gives_lift_iff.1 hlog).2, Action.debug, Action.run_log, ← hdemand hmaster,
    ← hmodifiers', ← hwriteback', ← hdemand hatomic, ← hdemand huniversal]
  rfl

end Negotiation

/-! ### Kernels that never change their replies -/

namespace Replies

/-- The kernel that always gives the same replies. -/
def kernel (R : Replies κ) : Kernel κ Unit where
  answer card q s := (R card q, s)

theorem agreesWith_kernel {α : Type} (R : Replies κ) (kind : Request → Prop) (x : Action κ Unit α) :
    R.AgreesWith kind (x.exchanges R.kernel ()) :=
  agreesWith_dialogue (P := fun _ _ => True) (I := fun _ => True) (fun _ _ _ _ _ _ => rfl)
    (fun _ _ _ _ _ => trivial) (fun _ _ _ => trivial) trivial

end Replies

end Scanout
