/-
**What the protocol of an initialization excludes.**

The grammar of an initialization says what is asked, and in which order.  This module reads off it what is
never asked, and what is asked once.  Of the objects, each listed one is visited once and no other.  Master
is acquired at most once, when both demanded capabilities are granted.  And when a call fails that the
initialization cannot do without, it is the last call.

Main definitions:

* `Scanout.Protocol.infos` — the questions with which visits begin;
* `Scanout.Exchange.failure?` — the error with which an exchange ends an initialization, and
  `Scanout.Protocol.EndsAtFailure`, which says that nothing comes after it;
* `Scanout.Protocol.Kept` — what the exchanges of an initialization satisfy.

Main results:

* `Scanout.Protocol.Tour.infos_eq` — **every listed object is visited once, in order**;
* `Scanout.Protocol.Course.master_once`, `Scanout.Protocol.Course.master_after` — when mastership is asked
  for;
* `Scanout.Protocol.Course.endsAtFailure` — **nothing is asked after a required call failed**;
* `Scanout.Device.init_keeps_protocol` — **every initialization of every card keeps the protocol**.
-/

import Scanout.Proofs.Protocol.Grammar

set_option relaxedAutoImplicit false
set_option autoImplicit false

namespace Scanout

variable {κ α : Type}

open Protocol

/-! ### Kinds of requests -/

/-- The questions about the properties of objects. -/
def Request.AboutProperties : Request → Prop
  | .objectProperties .. | .propertyInfo _ => True
  | _ => False

/-- Whether a request is one with which a visit begins. -/
def Request.isInfo : Request → Bool
  | .crtcInfo _ | .encoderInfo _ | .connectorInfo _ | .planeInfo _ => true
  | _ => false

theorem Request.AboutProperties.aboutObjects {q : Request} (h : q.AboutProperties) :
    q.AboutObjects := by
  cases q <;> trivial

theorem Request.AboutProperties.isInfo_eq {q : Request} (h : q.AboutProperties) :
    q.isInfo = false := by
  cases q <;> first | rfl | cases h

/-- The requests of a negotiation and those of an enumeration. -/
def Request.Initializes (q : Request) : Prop := q ∈ Request.negotiation ∨ q.Enumerates

namespace Protocol

section Objects

variable {card : κ}

/-- The questions with which visits begin, in their order. -/
def infos (l : List (Exchange κ)) : List Request := (l.map (·.request)).filter Request.isInfo

theorem infos_append (l m : List (Exchange κ)) : infos (l ++ m) = infos l ++ infos m := by
  rw [infos, List.map_append, List.filter_append]
  rfl

theorem infos_eq_nil {l : List (Exchange κ)} (h : ∀ e ∈ l, e.request.isInfo = false) :
    infos l = [] := by
  refine List.filter_eq_nil_iff.2 fun q hq => ?_
  obtain ⟨e, he, rfl⟩ := List.mem_map.1 hq
  rw [h e he]
  exact Bool.false_ne_true

theorem Search.about {name : String} {values : PropertyValues} {l : List (Exchange κ)} {found : Bool}
    (h : Search card name values l found) : ∀ e ∈ l, e.card = card ∧ e.request.AboutProperties := by
  induction h with
  | exhausted => exact fun e he => nomatch he
  | unreadable e rest ih => exact List.forall_mem_cons.2 ⟨⟨rfl, trivial⟩, ih⟩
  | other info differs rest ih => exact List.forall_mem_cons.2 ⟨⟨rfl, trivial⟩, ih⟩
  | hit info same => exact List.forall_mem_singleton.2 ⟨rfl, trivial⟩

theorem Lookup.about {object : ObjectId} {kind : ObjectKind} {name : String} {l : List (Exchange κ)}
    {found : Bool} (h : Lookup card object kind name l found) :
    ∀ e ∈ l, e.card = card ∧ e.request.AboutProperties := by
  cases h with
  | unlisted e => exact List.forall_mem_singleton.2 ⟨rfl, trivial⟩
  | listed values search => exact List.forall_mem_cons.2 ⟨⟨rfl, trivial⟩, search.about⟩

theorem Lookups.about {object : ObjectId} {required : List (ObjectKind × String)}
    {l : List (Exchange κ)} (h : Lookups card object required l) :
    ∀ e ∈ l, e.card = card ∧ e.request.AboutProperties := by
  induction h with
  | complete => exact fun e he => nomatch he
  | missing more lookup => exact lookup.about
  | found lookup rest ih => exact List.forall_mem_append.2 ⟨lookup.about, ih⟩

theorem Subject.aboutObjects_info (subject : Subject) (id : ObjectId) :
    (subject.info id).AboutObjects := by
  cases subject <;> trivial

theorem Subject.isInfo_info (subject : Subject) (id : ObjectId) :
    (subject.info id).isInfo = true := by
  cases subject <;> rfl

theorem Visit.about {subject : Subject} {id : ObjectId} {l : List (Exchange κ)}
    (h : Visit card subject id l) : ∀ e ∈ l, e.card = card ∧ e.request.AboutObjects := by
  have hinfo := subject.aboutObjects_info id
  cases h with
  | unreadable e => exact List.forall_mem_singleton.2 ⟨rfl, hinfo⟩
  | answered info lookups =>
      refine List.forall_mem_cons.2 ⟨⟨rfl, hinfo⟩, fun e he => ?_⟩
      exact (lookups.about e he).imp_right Request.AboutProperties.aboutObjects

/-- Of all objects, a visit asks about its own, and once. -/
theorem Visit.infos_eq {subject : Subject} {id : ObjectId} {l : List (Exchange κ)}
    (h : Visit card subject id l) : infos l = [subject.info id] := by
  have hinfo := subject.isInfo_info id
  cases h with
  | unreadable e => exact List.filter_cons_of_pos hinfo
  | answered info lookups =>
      have hlookups : infos _ = [] := infos_eq_nil fun e he => (lookups.about e he).2.isInfo_eq
      refine (List.filter_cons_of_pos hinfo).trans ?_
      exact congrArg (_ :: ·) hlookups

theorem Tour.about {stops : List (Subject × ObjectId)} {l : List (Exchange κ)}
    (h : Tour card stops l) : ∀ e ∈ l, e.card = card ∧ e.request.AboutObjects := by
  induction h with
  | nil => exact fun e he => nomatch he
  | cons visit rest ih => exact List.forall_mem_append.2 ⟨visit.about, ih⟩

/-- **Every listed object is visited once, in order.** -/
theorem Tour.infos_eq {stops : List (Subject × ObjectId)} {l : List (Exchange κ)}
    (h : Tour card stops l) : infos l = stops.map fun (subject, id) => subject.info id := by
  induction h with
  | nil => rfl
  | cons visit rest ih =>
      rw [infos_append, visit.infos_eq, ih]
      rfl

end Objects

/-! ### Questions about the card -/

section Card

variable {card : κ} {l : List (Exchange κ)} {result : Except DeviceError α}

/-- A negotiation makes its requests in their order, and perhaps not all of them. -/
theorem Negotiation.requests (h : Negotiation card l result) :
    l.map (·.request) <+: Request.negotiation := by
  cases h with
  | noPlanes e => exact ⟨_, rfl⟩
  | noAtomic e => exact ⟨_, rfl⟩
  | noMaster writeback modifiers e => exact ⟨_, rfl⟩
  | granted writeback modifiers a => exact ⟨_, rfl⟩

theorem Negotiation.about (h : Negotiation card l result) :
    ∀ e ∈ l, e.card = card ∧ e.request ∈ Request.negotiation := by
  have hcard : ∀ e ∈ l, e.card = card := by cases h <;> simp
  intro e he
  exact ⟨hcard e he, h.requests.subset (List.mem_map_of_mem he)⟩

theorem Enumeration.about (h : Enumeration card l result) :
    ∀ e ∈ l, e.card = card ∧ e.request.Enumerates := by
  cases h with
  | noResources e => exact List.forall_mem_singleton.2 ⟨rfl, .inl rfl⟩
  | noPlanes listed e =>
      exact List.forall_mem_cons.2 ⟨⟨rfl, .inl rfl⟩,
        List.forall_mem_singleton.2 ⟨rfl, .inr (.inl rfl)⟩⟩
  | listed listed planeIds a tour =>
      refine List.forall_mem_cons.2 ⟨⟨rfl, .inl rfl⟩,
        List.forall_mem_cons.2 ⟨⟨rfl, .inr (.inl rfl)⟩, fun e he => ?_⟩⟩
      exact (tour.about e he).imp_right fun hq => .inr (.inr hq)

/-- A course is a negotiation, and perhaps an enumeration after it. -/
theorem Course.parts (h : Course card l result) :
    ∃ (m n : List (Exchange κ)) (r : Except DeviceError Capabilities), l = m ++ n ∧
      Negotiation card m r ∧ (n = [] ∨ ∃ r : Except DeviceError Resources, Enumeration card n r) := by
  cases h with
  | refused negotiation => exact ⟨_, [], _, (List.append_nil _).symm, negotiation, .inl rfl⟩
  | unlisted negotiation enumeration => exact ⟨_, _, _, rfl, negotiation, .inr ⟨_, enumeration⟩⟩
  | surveyed negotiation enumeration result routed =>
      exact ⟨_, _, _, rfl, negotiation, .inr ⟨_, enumeration⟩⟩

theorem Course.about (h : Course card l result) :
    ∀ e ∈ l, e.card = card ∧ e.request.Initializes := by
  obtain ⟨m, n, r, rfl, hm, hn⟩ := h.parts
  intro e he
  rcases List.mem_append.1 he with he | he
  · exact (hm.about e he).imp_right .inl
  · rcases hn with rfl | ⟨r', hn⟩
    · cases he
    · exact (hn.about e he).imp_right .inr

/-! ### Visits -/

theorem Negotiation.infos_eq (h : Negotiation card l result) : infos l = [] := by
  refine infos_eq_nil fun e he => ?_
  have hnone : ∀ q ∈ Request.negotiation, q.isInfo = false := by decide
  exact hnone _ (h.about e he).2

theorem Negotiation.not_mem (h : Negotiation card l result) {q : Request}
    {reply : Except SystemError q.Reply} (hq : q ∉ Request.negotiation) : ⟨card, q, reply⟩ ∉ l :=
  fun hmem => hq (h.about _ hmem).2

section

variable {listed : ResourceList} {planeIds : List ObjectId}

theorem Enumeration.infos_eq (h : Enumeration card l result)
    (hlisted : ⟨card, .resources, .ok listed⟩ ∈ l) (hplanes : ⟨card, .planeIds, .ok planeIds⟩ ∈ l) :
    infos l = (stops listed planeIds).map fun (subject, id) => subject.info id := by
  cases h with
  | noResources e => cases List.mem_singleton.1 hlisted
  | noPlanes listed' e =>
      rcases List.mem_cons.1 hplanes with hplanes | hplanes
      · cases hplanes
      · cases List.mem_singleton.1 hplanes
  | @listed m listed' planeIds' a tour =>
      -- on the tour nobody asks for a list again
      have hresources : ⟨card, .resources, .ok listed⟩ ∉ m := fun hmem => (tour.about _ hmem).2
      have hplaneIds : ⟨card, .planeIds, .ok planeIds⟩ ∉ m := fun hmem => (tour.about _ hmem).2
      obtain rfl : listed = listed' := by simpa [hresources] using hlisted
      obtain rfl : planeIds = planeIds' := by simpa [hplaneIds] using hplanes
      exact tour.infos_eq

theorem Course.infos_eq (h : Course card l result)
    (hlisted : ⟨card, .resources, .ok listed⟩ ∈ l) (hplanes : ⟨card, .planeIds, .ok planeIds⟩ ∈ l) :
    infos l = (stops listed planeIds).map fun (subject, id) => subject.info id := by
  obtain ⟨m, n, r, rfl, hm, hn⟩ := h.parts
  -- a negotiation asks for no list
  have hlisted := (List.mem_append.1 hlisted).resolve_left (hm.not_mem (by decide))
  have hplanes := (List.mem_append.1 hplanes).resolve_left (hm.not_mem (by decide))
  rcases hn with rfl | ⟨r', hn⟩
  · cases hlisted
  · rw [infos_append, hm.infos_eq, List.nil_append]
    exact hn.infos_eq hlisted hplanes

end

/-! ### Mastership -/

theorem Negotiation.master_once (h : Negotiation card l result) :
    (l.map (·.request)).count .acquireMaster ≤ 1 :=
  (h.requests.sublist.count_le _).trans (by decide)

/-- Mastership is asked for when both demanded capabilities were granted. -/
theorem Negotiation.granted_of_master (h : Negotiation card l result) {e : Exchange κ} (he : e ∈ l)
    (hmaster : e.request = .acquireMaster) :
    ∃ rest, l = ⟨card, .setClientCapability .universalPlanes true, .ok ()⟩ ::
      ⟨card, .setClientCapability .atomic true, .ok ()⟩ :: rest := by
  cases h with
  | noPlanes e' =>
      obtain rfl := List.mem_singleton.1 he
      cases hmaster
  | noAtomic e' =>
      rcases List.mem_cons.1 he with rfl | he
      · cases hmaster
      · obtain rfl := List.mem_singleton.1 he
        cases hmaster
  | noMaster writeback modifiers e' => exact ⟨_, rfl⟩
  | granted writeback modifiers a => exact ⟨_, rfl⟩

theorem Enumeration.ne_master (h : Enumeration card l result) :
    ∀ e ∈ l, e.request ≠ .acquireMaster := by
  intro e he hmaster
  have hkind := (h.about e he).2
  rw [hmaster] at hkind
  rcases hkind with hkind | hkind | hkind
  · cases hkind
  · cases hkind
  · exact hkind

/-- Mastership is only asked for in the negotiation. -/
theorem Course.exists_negotiation (h : Course card l result) :
    ∃ (m n : List (Exchange κ)) (r : Except DeviceError Capabilities), l = m ++ n ∧
      Negotiation card m r ∧ ∀ e ∈ n, e.request ≠ .acquireMaster := by
  obtain ⟨m, n, r, rfl, hm, rfl | ⟨r', hn⟩⟩ := h.parts
  · exact ⟨m, [], r, rfl, hm, fun e he => nomatch he⟩
  · exact ⟨m, n, r, rfl, hm, hn.ne_master⟩

theorem Course.master_once (h : Course card l result) :
    (l.map (·.request)).count .acquireMaster ≤ 1 := by
  obtain ⟨m, n, r, rfl, hm, hn⟩ := h.exists_negotiation
  have hnone : (n.map (·.request)).count .acquireMaster = 0 := by
    refine List.count_eq_zero.2 fun hmem => ?_
    obtain ⟨e, he, hmaster⟩ := List.mem_map.1 hmem
    exact hn e he hmaster
  rw [List.map_append, List.count_append, hnone]
  exact hm.master_once

/-- Before mastership is asked for, both demanded capabilities were granted. -/
theorem Course.master_after (h : Course card l result) {before after : List (Exchange κ)}
    {e : Exchange κ} (hl : l = before ++ e :: after) (hmaster : e.request = .acquireMaster) :
    ⟨card, .setClientCapability .universalPlanes true, .ok ()⟩ ∈ before ∧
      ⟨card, .setClientCapability .atomic true, .ok ()⟩ ∈ before := by
  obtain ⟨m, n, r, rfl, hm, hn⟩ := h.exists_negotiation
  have he : e ∈ m := by
    have hmem : e ∈ m ++ n := by
      rw [hl]
      exact List.mem_append_right _ List.mem_cons_self
    exact (List.mem_append.1 hmem).resolve_right fun h => hn e h hmaster
  obtain ⟨rest, rfl⟩ := hm.granted_of_master he hmaster
  -- neither of the first two exchanges is the one in question
  cases before with
  | nil =>
      obtain ⟨rfl, -⟩ := List.cons.inj hl
      cases hmaster
  | cons x before =>
      obtain ⟨rfl, htail⟩ := List.cons.inj hl
      cases before with
      | nil =>
          obtain ⟨rfl, -⟩ := List.cons.inj htail
          cases hmaster
      | cons y before =>
          obtain ⟨rfl, -⟩ := List.cons.inj htail
          exact ⟨List.mem_cons_self, List.mem_cons_of_mem _ List.mem_cons_self⟩

end Card

end Protocol

/-! ### Failures -/

/-- What an initialization makes of the error of a request that it cannot do without. -/
def Request.required? : Request → Option (SystemError → DeviceError)
  | .setClientCapability .universalPlanes _ => some (.capabilityUnsupported "universal planes")
  | .setClientCapability .atomic _ => some (.capabilityUnsupported "atomic")
  | .acquireMaster => some .accessDenied
  | .resources => some (.noResources "resources")
  | .planeIds => some (.noResources "plane resources")
  | _ => none

/-- The error with which an exchange ends an initialization. -/
def Exchange.failure? (e : Exchange κ) : Option DeviceError :=
  match e.reply with
  | .ok _ => none
  | .error cause => e.request.required?.map (· cause)

theorem Exchange.failure?_eq_none {e : Exchange κ} (h : e.request.required? = none) :
    e.failure? = none := by
  rw [failure?, h]
  cases e.reply <;> rfl

theorem Request.AboutObjects.required?_eq {q : Request} (h : q.AboutObjects) :
    q.required? = none := by
  cases q <;> first | rfl | cases h

namespace Protocol

section Failures

variable {card : κ} {l m : List (Exchange κ)} {result : Except DeviceError α}

/-- An exchange that ends an initialization is the last one, and the initialization ends with its error. -/
def EndsAtFailure (l : List (Exchange κ)) (result : Except DeviceError α) : Prop :=
  ∀ before e after error, l = before ++ e :: after → e.failure? = some error →
    after = [] ∧ result = .error error

theorem EndsAtFailure.append (hl : ∀ e ∈ l, e.failure? = none) (hm : EndsAtFailure m result) :
    EndsAtFailure (l ++ m) result := by
  intro before e after error hsplit hfailure
  rcases List.append_eq_append_iff.1 hsplit with ⟨middle, -, hmiddle⟩ | ⟨middle, hmiddle, hrest⟩
  · exact hm middle e after error hmiddle hfailure
  · cases middle with
    | nil => exact hm [] e after error hrest.symm hfailure
    | cons x middle =>
        obtain ⟨rfl, -⟩ := List.cons.inj hrest
        have hnone := hl e (hmiddle ▸ List.mem_append_right _ List.mem_cons_self)
        rw [hnone] at hfailure
        cases hfailure

theorem EndsAtFailure.last {e : Exchange κ} {error : DeviceError} (h : e.failure? = some error) :
    EndsAtFailure [e] (.error error : Except DeviceError α) := by
  intro before e' after error' hsplit hfailure
  cases before with
  | nil =>
      obtain ⟨rfl, hafter⟩ := List.cons.inj hsplit
      rw [h] at hfailure
      cases hfailure
      exact ⟨hafter.symm, rfl⟩
  | cons x before =>
      have hnil := (List.cons.inj hsplit).2
      exact absurd hnil.symm (by simp)

theorem EndsAtFailure.of_harmless (h : ∀ e ∈ l, e.failure? = none) : EndsAtFailure l result := by
  intro before e after error hsplit hfailure
  rw [h e (hsplit ▸ List.mem_append_right _ List.mem_cons_self)] at hfailure
  cases hfailure

theorem Negotiation.failure?_eq_none {a : α} (h : Negotiation card l (.ok a)) :
    ∀ e ∈ l, e.failure? = none := by
  cases h with
  | granted writeback modifiers a =>
      refine List.forall_mem_cons.2 ⟨rfl, List.forall_mem_cons.2 ⟨rfl, ?_⟩⟩
      refine List.forall_mem_cons.2 ⟨Exchange.failure?_eq_none rfl, ?_⟩
      refine List.forall_mem_cons.2 ⟨Exchange.failure?_eq_none rfl, ?_⟩
      exact List.forall_mem_singleton.2 rfl

theorem Negotiation.endsAtFailure (h : Negotiation card l result) : EndsAtFailure l result := by
  cases h with
  | noPlanes e => exact .last rfl
  | noAtomic e =>
      exact .append (l := [_]) (List.forall_mem_singleton.2 rfl) (.last rfl)
  | noMaster writeback modifiers e =>
      refine .append (l := [_, _, _, _]) ?_ (.last rfl)
      refine List.forall_mem_cons.2 ⟨rfl, List.forall_mem_cons.2 ⟨rfl, ?_⟩⟩
      refine List.forall_mem_cons.2 ⟨Exchange.failure?_eq_none rfl, ?_⟩
      exact List.forall_mem_singleton.2 (Exchange.failure?_eq_none rfl)
  | granted writeback modifiers a =>
      exact .of_harmless (Negotiation.granted writeback modifiers a).failure?_eq_none

theorem Enumeration.endsAtFailure (h : Enumeration card l result) : EndsAtFailure l result := by
  cases h with
  | noResources e => exact .last rfl
  | noPlanes listed e => exact .append (l := [_]) (List.forall_mem_singleton.2 rfl) (.last rfl)
  | listed listed planeIds a tour =>
      refine .of_harmless (List.forall_mem_cons.2 ⟨rfl, List.forall_mem_cons.2 ⟨rfl, fun e he => ?_⟩⟩)
      exact Exchange.failure?_eq_none (tour.about e he).2.required?_eq

/-- **Nothing is asked after a required call failed.** -/
theorem Course.endsAtFailure (h : Course card l result) : EndsAtFailure l result := by
  cases h with
  | refused negotiation =>
      intro before e after error hsplit hfailure
      obtain ⟨hafter, hresult⟩ := negotiation.endsAtFailure before e after error hsplit hfailure
      cases hresult
      exact ⟨hafter, rfl⟩
  | unlisted negotiation enumeration =>
      refine .append negotiation.failure?_eq_none ?_
      intro before e after error hsplit hfailure
      obtain ⟨hafter, hresult⟩ := enumeration.endsAtFailure before e after error hsplit hfailure
      cases hresult
      exact ⟨hafter, rfl⟩
  | surveyed negotiation enumeration result routed =>
      refine .append negotiation.failure?_eq_none ?_
      intro before e after error hsplit hfailure
      cases (enumeration.endsAtFailure before e after error hsplit hfailure).2

end Failures

/-! ### The protocol -/

/-- What exchanges must satisfy that are made to initialize a card and end with `result`. -/
structure Kept (card : κ) (l : List (Exchange κ)) (result : Except DeviceError α) : Prop where
  /-- They are a negotiation and an enumeration, as far as these go. -/
  course : Course card l result
  /-- Only this card is asked, and only what a negotiation or an enumeration asks. -/
  about : ∀ e ∈ l, e.card = card ∧ e.request.Initializes
  /-- The driver is not asked for its name, and no blob is made or destroyed. -/
  quiet : ∀ e ∈ l, e.request ≠ .driverName ∧ (∀ data, e.request ≠ .createBlob data) ∧
    ∀ id, e.request ≠ .destroyBlob id
  /-- Once the two lists are there, every listed object is visited once, in order. -/
  visits : ∀ listed planeIds, ⟨card, .resources, .ok listed⟩ ∈ l →
    ⟨card, .planeIds, .ok planeIds⟩ ∈ l →
    infos l = (stops listed planeIds).map fun (subject, id) => subject.info id
  masterOnce : (l.map (·.request)).count .acquireMaster ≤ 1
  masterAfter : ∀ before e after, l = before ++ e :: after → e.request = .acquireMaster →
    ⟨card, .setClientCapability .universalPlanes true, .ok ()⟩ ∈ before ∧
      ⟨card, .setClientCapability .atomic true, .ok ()⟩ ∈ before
  failure : EndsAtFailure l result

theorem Course.kept {card : κ} {l : List (Exchange κ)} {result : Except DeviceError α}
    (h : Course card l result) : Kept card l result where
  course := h
  about := h.about
  quiet := by
    intro e he
    have hkind := (h.about e he).2
    refine ⟨fun hq => ?_, fun data hq => ?_, fun id hq => ?_⟩ <;>
      rw [hq] at hkind <;>
      simp [Request.Initializes, Request.negotiation, Request.Enumerates, Request.AboutObjects] at hkind
  visits _ _ hlisted hplanes := h.infos_eq hlisted hplanes
  masterOnce := h.master_once
  masterAfter _ _ _ hl hmaster := h.master_after hl hmaster
  failure := h.endsAtFailure

end Protocol

/-- **Every initialization of every card keeps the protocol.**  The calls are those of the exchanges, the
world changes by them only, and the replies to them decide how it goes on. -/
theorem Device.init_keeps_protocol {σ : Type} (K : Kernel κ σ) (card : κ) (first : DisplayId) (s : σ) :
    let run := (init K card first).run.run s
    let exchanges := K.dialogue run.events s
    run.events.filterMap Event.request? = exchanges.map (fun e => (e.card, e.request)) ∧
      run.state = K.replay run.events s ∧ Protocol.Kept card exchanges run.value := by
  have hinit : (init K card first).run.Obeys K card (Course card) := obeys_init first
  exact ⟨(Kernel.map_dialogue _ s).symm, hinit.about.talks.state s, (hinit.rule s).kept⟩

end Scanout
