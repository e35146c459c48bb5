/-
**Looking up a property is exact.**

The kernel lists the properties of an object by id, and the name of each has to be asked for.  A lookup comes
to the first one in kernel order that is replied to have the name, whatever was replied about those before
it, and it fails only when there is no list or no such property in it.  What is passed over on the way might
as well not be there: properties whose metadata cannot be read, and those with other names, can be put in and
taken out anywhere.

A card may change its mind between two questions, so the replies are not taken to be fixed: each property
comes with the reply to the question that is asked about it when its turn comes.

Main definitions:

* `Scanout.Kernel.described` — the properties of a list, each with the reply about it;
* `Scanout.Bears` — a reply tells a name;
* `Scanout.Padded` — a list with some items put in and some taken out;
* `Scanout.ExactLookup` — how a lookup ends, in these terms.

Main results:

* `Scanout.value_findNamed` — what a search finds can be read off the replies;
* `Scanout.Padded.findSome?_eq` — a search does not see what it passes over;
* `Scanout.getProperty_exact` — **every lookup is exact**.
-/

import Scanout.MemoryCard.Builder
import Scanout.Proofs.Dialogue
import Scanout.Property

set_option relaxedAutoImplicit false
set_option autoImplicit false

namespace Scanout

variable {κ σ α β : Type}

/-! ### What is replied about properties -/

/-- The properties of a list, each with the reply about it when the card is asked about one after the
other. -/
def Kernel.described (K : Kernel κ σ) (card : κ) :
    PropertyValues → σ → List ((ObjectId × UInt64) × Except SystemError PropertyInfo)
  | [], _ => []
  | v :: values, s =>
    (v, (K.answer card (.propertyInfo v.1) s).1) ::
      K.described card values (K.answer card (.propertyInfo v.1) s).2

/-- A reply tells that a property has a name. -/
def Bears (name : String) (reply : Except SystemError PropertyInfo) : Prop :=
  ∃ info, reply = .ok info ∧ info.name = name

/-- The property that a reply tells of, if it has the name. -/
def Property.ofReply? (object : ObjectId) (name : String)
    (x : (ObjectId × UInt64) × Except SystemError PropertyInfo) : Option Property :=
  match x.2 with
  | .ok info => if info.name = name then some (.ofInfo object x.1.1 info x.1.2) else none
  | .error _ => none

section Replies

variable {object : ObjectId} {name : String} {l : List ((ObjectId × UInt64) × Except SystemError PropertyInfo)}

theorem ofReply?_eq_some_iff {x : (ObjectId × UInt64) × Except SystemError PropertyInfo} {p : Property} :
    Property.ofReply? object name x = some p ↔
      ∃ info, x.2 = .ok info ∧ info.name = name ∧ p = .ofInfo object x.1.1 info x.1.2 := by
  obtain ⟨v, reply⟩ := x
  cases reply with
  | error e => simp [Property.ofReply?]
  | ok info =>
      by_cases hname : info.name = name
      · simp [Property.ofReply?, hname, @eq_comm _ p]
      · simp [Property.ofReply?, hname]

theorem ofReply?_eq_none_iff {x : (ObjectId × UInt64) × Except SystemError PropertyInfo} :
    Property.ofReply? object name x = none ↔ ¬ Bears name x.2 := by
  obtain ⟨v, reply⟩ := x
  cases reply with
  | error e => simp [Property.ofReply?, Bears]
  | ok info => simp [Property.ofReply?, Bears]

/-- A search finds the first property that is replied to have the name. -/
theorem findSome?_ofReply?_eq_some_iff {p : Property} :
    l.findSome? (Property.ofReply? object name) = some p ↔ ∃ before id value info after,
      l = before ++ ((id, value), .ok info) :: after ∧ (∀ x ∈ before, ¬ Bears name x.2) ∧
      info.name = name ∧
      p = ⟨object, id, info.name, info.kind, info.immutable, info.atomic, value⟩ := by
  simp only [List.findSome?_eq_some_iff, ofReply?_eq_some_iff, ofReply?_eq_none_iff]
  constructor
  · rintro ⟨before, ⟨⟨id, value⟩, reply⟩, after, hl, ⟨info, rfl, hname, hp⟩, hbefore⟩
    exact ⟨before, id, value, info, after, hl, hbefore, hname, hp⟩
  · rintro ⟨before, id, value, info, after, hl, hbefore, hname, hp⟩
    exact ⟨before, _, after, hl, ⟨info, rfl, hname, hp⟩, hbefore⟩

theorem findSome?_ofReply?_eq_none_iff :
    l.findSome? (Property.ofReply? object name) = none ↔ ∀ x ∈ l, ¬ Bears name x.2 := by
  simp only [List.findSome?_eq_none_iff, ofReply?_eq_none_iff]

end Replies

/-- Each property of the list has its reply. -/
theorem map_fst_described (K : Kernel κ σ) (card : κ) (values : PropertyValues) : ∀ s : σ,
    (K.described card values s).map (·.1) = values := by
  induction values with
  | nil => exact fun _ => rfl
  | cons v values ih => exact fun s => congrArg (v :: ·) (ih _)

/-! ### Searching a list -/

/-- What a search finds can be read off the replies. -/
theorem value_findNamed (K : Kernel κ σ) (card : κ) (object : ObjectId) (kind : ObjectKind)
    (name : String) (values : PropertyValues) : ∀ s : σ,
    ((findNamed K card object kind name values).run s).value =
      (K.described card values s).findSome? (Property.ofReply? object name) := by
  induction values with
  | nil => exact fun _ => rfl
  | cons v values ih =>
      intro s
      obtain ⟨id, value⟩ := v
      obtain ⟨⟨reply, t⟩, hanswer⟩ : ∃ x, K.answer card (.propertyInfo id) s = x := ⟨_, rfl⟩
      rw [findNamed, Action.run_bind, Kernel.run_ask, Kernel.described, hanswer, List.findSome?_cons]
      cases reply with
      | error e => exact ih t
      | ok info =>
          by_cases hname : info.name = name
          · simp [Property.ofReply?, hname]
          · simpa [Property.ofReply?, hname] using ih t

section Lookup

variable {K : Kernel κ σ} {card : κ} {object : ObjectId} {kind : ObjectKind} {name : String} {s t : σ}

theorem value_getProperty_of_error {cause : SystemError}
    (h : K.answer card (.objectProperties object kind) s = (.error cause, t)) :
    ((getProperty K card object kind name).run.run s).value =
      .error (.propertyQueryFailed object cause) :=
  Attempt.value_bind_of_error (Attempt.value_demand h _) _

theorem value_getProperty_of_ok {values : PropertyValues}
    (h : K.answer card (.objectProperties object kind) s = (.ok values, t)) :
    ((getProperty K card object kind name).run.run s).value =
      match (K.described card values t).findSome? (Property.ofReply? object name) with
      | some property => .ok property
      | none => .error (.propertyNotFound object name) := by
  have hfound : Attempt.Gives (ExceptT.lift (findNamed K card object kind name values) :
      Attempt κ σ DeviceError (Option Property)) t _ _ := Attempt.gives_lift_iff.2 ⟨rfl, rfl⟩
  rw [getProperty, Attempt.value_bind_of_gives (Attempt.gives_demand_iff.2 h)]
  refine (Attempt.value_bind_of_gives hfound _).trans ?_
  rw [value_findNamed]
  cases (K.described card values t).findSome? (Property.ofReply? object name) with
  | none => rfl
  | some property => rfl

end Lookup

/-! ### Lists with items put in and taken out -/

/-- Two lists differ only by useless items, put in or taken out anywhere. -/
inductive Padded (useless : α → Prop) : List α → List α → Prop
  | nil : Padded useless [] []
  | keep (a : α) {l m : List α} (h : Padded useless l m) : Padded useless (a :: l) (a :: m)
  | putIn {a : α} (ha : useless a) {l m : List α} (h : Padded useless l m) : Padded useless l (a :: m)
  | takeOut {a : α} (ha : useless a) {l m : List α} (h : Padded useless l m) :
    Padded useless (a :: l) m

/-- A search does not see what it passes over. -/
theorem Padded.findSome?_eq {useless : α → Prop} {l m : List α} (h : Padded useless l m)
    {f : α → Option β} (hf : ∀ a, useless a → f a = none) : l.findSome? f = m.findSome? f := by
  induction h with
  | nil => rfl
  | keep a _ ih => rw [List.findSome?_cons, List.findSome?_cons, ih]
  | putIn ha _ ih => rw [List.findSome?_cons, hf _ ha, ih]
  | takeOut ha _ ih => rw [List.findSome?_cons, hf _ ha, ih]

/-! ### Every lookup is exact -/

/-- How looking up a property ends that begins in the state `s`. -/
structure ExactLookup (K : Kernel κ σ) (card : κ) (object : ObjectId) (kind : ObjectKind)
    (name : String) (s : σ) : Prop where
  /-- Properties are asked about in kernel order. -/
  kernelOrder : ∀ values t, (K.described card values t).map (·.1) = values
  /-- The query fails, and for this object, exactly when the list cannot be read. -/
  queryFailed_iff : ∀ about cause, ((getProperty K card object kind name).run.run s).value =
      .error (.propertyQueryFailed about cause) ↔
    about = object ∧ (K.answer card (.objectProperties object kind) s).1 = .error cause
  /-- Otherwise it comes to the first property of the list that is replied to have the name. -/
  found_iff : ∀ values t, K.answer card (.objectProperties object kind) s = (.ok values, t) →
    ∀ p, ((getProperty K card object kind name).run.run s).value = .ok p ↔
      ∃ before id value info after,
        K.described card values t = before ++ ((id, value), .ok info) :: after ∧
        (∀ x ∈ before, ¬ Bears name x.2) ∧ info.name = name ∧
        p = ⟨object, id, info.name, info.kind, info.immutable, info.atomic, value⟩
  /-- There is no property, for this object and name, exactly when none of the list is. -/
  notFound_iff : ∀ values t, K.answer card (.objectProperties object kind) s = (.ok values, t) →
    ∀ about missing, ((getProperty K card object kind name).run.run s).value =
        .error (.propertyNotFound about missing) ↔
      about = object ∧ missing = name ∧ ∀ x ∈ K.described card values t, ¬ Bears name x.2
  /-- Properties that are not replied to have the name may be put in and taken out, be it on another
  card. -/
  padded : ∀ values t, K.answer card (.objectProperties object kind) s = (.ok values, t) →
    ∀ (κ' σ' : Type) (K' : Kernel κ' σ') (card' : κ') (s' t' : σ') (values' : PropertyValues),
      K'.answer card' (.objectProperties object kind) s' = (.ok values', t') →
      Padded (fun x => ¬ Bears name x.2) (K.described card values t)
        (K'.described card' values' t') →
      ((getProperty K' card' object kind name).run.run s').value =
        ((getProperty K card object kind name).run.run s).value

/-- **Every lookup is exact.** -/
theorem getProperty_exact (K : Kernel κ σ) (card : κ) (object : ObjectId) (kind : ObjectKind)
    (name : String) (s : σ) : ExactLookup K card object kind name s := by
  constructor
  case kernelOrder => exact map_fst_described K card
  case queryFailed_iff =>
      intro about cause
      obtain ⟨⟨reply, t⟩, hanswer⟩ :
          ∃ x, K.answer card (.objectProperties object kind) s = x := ⟨_, rfl⟩
      rw [hanswer]
      cases reply with
      | error e =>
          rw [value_getProperty_of_error hanswer]
          simp only [Except.error.injEq, DeviceError.propertyQueryFailed.injEq, eq_comm]
      | ok values =>
          rw [value_getProperty_of_ok hanswer]
          cases (K.described card values t).findSome? (Property.ofReply? object name) with
          | none => simp
          | some property => simp
  case found_iff =>
      intro values t hanswer p
      rw [value_getProperty_of_ok hanswer, ← findSome?_ofReply?_eq_some_iff]
      cases (K.described card values t).findSome? (Property.ofReply? object name) with
      | none => simp
      | some q => simp
  case notFound_iff =>
      intro values t hanswer about missing
      have hnone : (K.described card values t).findSome? (Property.ofReply? object name) = none ↔ _ :=
        findSome?_ofReply?_eq_none_iff
      rw [value_getProperty_of_ok hanswer, ← hnone]
      cases (K.described card values t).findSome? (Property.ofReply? object name) with
      | none => simp [eq_comm]
      | some q => simp
  case padded =>
      intro values t hanswer κ' σ' K' card' s' t' values' hanswer' hpadded
      rw [value_getProperty_of_ok hanswer, value_getProperty_of_ok hanswer']
      rw [hpadded.findSome?_eq fun x hx => ofReply?_eq_none_iff.2 hx]

/-- A connector with two properties. -/
def MemoryCard.tidy : MemoryCard :=
  .build [.connector ⟨40, .hdmiA, .connected, none, []⟩, .property 40 .connector "DPMS" 3]

/-- The same connector, which lists a property that cannot be read and no longer the first of the two. -/
def MemoryCard.untidy : MemoryCard :=
  { MemoryCard.tidy with properties := .insert .empty (.connector, 40) [(7, 9), (1001, 3)] }

/-- The lookup does not notice. -/
theorem untidy_exact :
    ((getProperty MemoryCard.kernel () 40 .connector "DPMS").run.run .tidy).value =
      .ok ⟨40, 1001, "DPMS", .range, false, true, 3⟩ ∧
    ((getProperty MemoryCard.kernel () 40 .connector "DPMS").run.run .untidy).value =
      ((getProperty MemoryCard.kernel () 40 .connector "DPMS").run.run .tidy).value := by
  have hexact := getProperty_exact MemoryCard.kernel () 40 .connector "DPMS" .tidy
  have hother : ¬ Bears "DPMS" (.ok ⟨"CRTC_ID", .range, false, true⟩) := by simp [Bears]
  have hunreadable : ¬ Bears "DPMS" (.error .notFound) := by simp [Bears]
  have hpadded : Padded (fun x => ¬ Bears "DPMS" x.2)
      (MemoryCard.kernel.described () [(1000, 0), (1001, 3)] .tidy)
      (MemoryCard.kernel.described () [(7, 9), (1001, 3)] .untidy) := by
    refine .takeOut ?_ (.putIn ?_ (.keep _ .nil))
    · exact hother
    · exact hunreadable
  exact ⟨rfl, hexact.padded _ _ rfl _ _ _ _ _ _ _ rfl hpadded⟩

end Scanout
