/-
**Built cards keep properties apart.**

A card is built by steps of several kinds, and some of them add properties to one object, some to another.
All properties of a card are in one table, and each gets the size of the table as its number.  Nothing is
ever taken out of the table, so no number is given twice while there are numbers left, and the list of an
object leads to what was added to this very object.  What a built card says about a property is therefore
told by the record of what its steps added: the first property of the name on the object, with the place
that it has among all properties.

Main definitions:

* `Scanout.Addition` — a property that is added to an object;
* `Scanout.BuildStep.additions`, `Scanout.BuildStep.lists?` — what a step adds, and the object that has a
  list of properties from then on;
* `Scanout.BuildStep.Continues` — a step that goes on with the card as it is;
* `Scanout.MemoryCard.Records` — a card holds what was added, and no more;
* `Scanout.KeepsApart` — what a built card says about a property.

Main results:

* `Scanout.MemoryCard.Records.apply` — **a step adds to the record**;
* `Scanout.MemoryCard.records_build` — a built card holds what its steps added;
* `Scanout.MemoryCard.Records.value_getProperty` — what is said about a property is read off the record;
* `Scanout.MemoryCard.keepsApart_build` — **built cards keep properties apart**.
-/

import Mathlib.Data.List.Induction
import Scanout.Proofs.MemoryCard
import Scanout.Proofs.Property
import Scanout.Proofs.Table

set_option relaxedAutoImplicit false
set_option autoImplicit false

namespace Scanout

/-! ### What steps add -/

/-- A property that is added to an object. -/
structure Addition where
  object : ObjectId
  kind : ObjectKind
  name : String
  value : UInt64
  deriving DecidableEq, Repr

namespace Addition

/-- What the kernel says about the property. -/
def info (a : Addition) : PropertyInfo :=
  ⟨a.name, if a.name = "type" then .enumeration else .range, false, true⟩

/-- The type and id of the object. -/
def key (a : Addition) : ObjectKind × ObjectId := (a.kind, a.object)

/-- Whether the property is one of this name on this object. -/
def isOn (a : Addition) (kind : ObjectKind) (object : ObjectId) (name : String) : Bool :=
  a.key = (kind, object) && a.name = name

theorem isOn_iff {a : Addition} {kind : ObjectKind} {object : ObjectId} {name : String} :
    a.isOn kind object name = true ↔ a.key = (kind, object) ∧ a.name = name := by
  rw [isOn, Bool.and_eq_true, decide_eq_true_eq, decide_eq_true_eq]

end Addition

namespace BuildStep

/-- The properties that a step adds, in order. -/
def additions : BuildStep → List Addition
  | .crtc id => [⟨id, .crtc, "ACTIVE", 0⟩, ⟨id, .crtc, "MODE_ID", 0⟩]
  | .connector plan => [⟨plan.id, .connector, "CRTC_ID", 0⟩]
  | .plane id kind _ => [⟨id, .plane, "type", kind.code⟩]
  | .rawPlane id type _ => [⟨id, .plane, "type", type⟩]
  | .property object kind name value => [⟨object, kind, name, value⟩]
  | .laptop | .refuse _ | .modifiers _ | .bareCrtc _ | .encoder .. | .bareConnector _ => []

/-- The type and id of the object that has a list of properties from this step on. -/
def lists? : BuildStep → Option (ObjectKind × ObjectId)
  | .crtc id | .bareCrtc id => some (.crtc, id)
  | .connector plan | .bareConnector plan => some (.connector, plan.id)
  | .plane id .. | .rawPlane id .. => some (.plane, id)
  | .property object kind .. => some (kind, object)
  | .laptop | .refuse _ | .modifiers _ | .encoder .. => none

/-- The step goes on with the card as it is: it does not start anew, and the card still answers what it is
asked about properties. -/
def Continues : BuildStep → Prop
  | .laptop => False
  | .refuse op => op ≠ .objectProperties ∧ op ≠ .propertyInfo
  | _ => True

/-- What a step adds belongs to the object that it gives a list. -/
theorem lists?_of_mem_additions {step : BuildStep} {a : Addition} (h : a ∈ step.additions) :
    step.lists? = some a.key := by
  cases step with
  | crtc id =>
      simp only [additions, List.mem_cons, List.not_mem_nil, or_false] at h
      rcases h with rfl | rfl
      · rfl
      · rfl
  | connector plan | plane id kind mask | rawPlane id type mask | property object kind name value =>
      obtain rfl := List.mem_singleton.1 h
      rfl
  | laptop | refuse | modifiers | bareCrtc | encoder | bareConnector => cases h

end BuildStep

namespace MemoryCard

/-! ### Cards that hold a record -/

/-- The number of the property at a place of the record. -/
def propertyId (i : Nat) : ObjectId := UInt32.ofNat (firstProperty + i)

/-- The properties of an object, as they are listed. -/
def valuesOf (log : List Addition) (key : ObjectKind × ObjectId) : PropertyValues :=
  (log.zipIdx.filter (·.1.key = key)).map fun x => (propertyId x.2, x.1.value)

/-- A card holds the properties that were added, in order, and lists of properties for some objects. -/
structure Records (m : MemoryCard) (log : List Addition) (listed : List (ObjectKind × ObjectId)) :
    Prop where
  infos : m.propertyInfos =
    .ofList (fun x => propertyId x.2) (fun x => .ok x.1.info) log.zipIdx
  lists : ∀ key, m.properties.find? key = if key ∈ listed then some (valuesOf log key) else none
  covered : ∀ a ∈ log, a.key ∈ listed
  /-- The card answers what it is asked about properties. -/
  open_lists : m.refusals.find? .objectProperties = none
  open_infos : m.refusals.find? .propertyInfo = none
  unknown : m.unknown = .notFound

theorem toNat_propertyId {i : Nat} (h : i < UInt32.size - 1000) : (propertyId i).toNat = 1000 + i := by
  rw [propertyId, UInt32.toNat_ofNat_of_lt']
  · rfl
  · change 1000 + i < UInt32.size
    omega

theorem propertyId_inj {i j : Nat} (hi : i < UInt32.size - 1000) (hj : j < UInt32.size - 1000)
    (h : propertyId i = propertyId j) : i = j := by
  have hnat := congrArg UInt32.toNat h
  rw [toNat_propertyId hi, toNat_propertyId hj] at hnat
  omega

/-- The properties of a record are numbered without gaps. -/
theorem map_propertyId_zipIdx (log : List Addition) :
    (log.zipIdx.map fun x => propertyId x.2) = (List.range log.length).map propertyId := by
  rw [List.range_eq_range', ← List.zipIdx_map_snd 0 log, List.map_map]
  rfl

theorem propertyId_not_mem {log : List Addition} (h : log.length < UInt32.size - 1000) :
    propertyId log.length ∉ log.zipIdx.map fun x => propertyId x.2 := by
  rw [map_propertyId_zipIdx]
  intro hmem
  obtain ⟨i, hi, hid⟩ := List.mem_map.1 hmem
  have hlt := List.mem_range.1 hi
  exact Nat.ne_of_lt hlt (propertyId_inj (Nat.lt_trans hlt h) h hid)

theorem nodup_propertyId {log : List Addition} (h : log.length < UInt32.size - 1000) :
    (log.zipIdx.map fun x => propertyId x.2).Nodup := by
  rw [map_propertyId_zipIdx]
  refine List.Nodup.map_on (fun i hi j hj hid => ?_) List.nodup_range
  have hplace : ∀ k ∈ List.range log.length, k < UInt32.size - 1000 :=
    fun k hk => Nat.lt_trans (List.mem_range.1 hk) h
  exact propertyId_inj (hplace i hi) (hplace j hj) hid

theorem zipIdx_concat (log : List Addition) (a : Addition) :
    (log ++ [a]).zipIdx = log.zipIdx ++ [(a, log.length)] := by
  rw [List.zipIdx_append, Nat.zero_add, List.zipIdx_singleton]

theorem valuesOf_concat (log : List Addition) (a : Addition) (key : ObjectKind × ObjectId) :
    valuesOf (log ++ [a]) key =
      valuesOf log key ++ if a.key = key then [(propertyId log.length, a.value)] else [] := by
  rw [valuesOf, zipIdx_concat, List.filter_append, List.map_append, valuesOf]
  by_cases hkey : a.key = key
  · simp [hkey]
  · simp [hkey]

namespace Records

variable {m m' : MemoryCard} {log : List Addition} {listed listed' : List (ObjectKind × ObjectId)}

/-- Only what is said about properties matters. -/
theorem of_same (h : m.Records log listed) (hinfos : m'.propertyInfos = m.propertyInfos)
    (hlists : m'.properties = m.properties) (hrefusals : m'.refusals = m.refusals)
    (hunknown : m'.unknown = m.unknown) : m'.Records log listed :=
  ⟨hinfos ▸ h.infos, hlists ▸ h.lists, h.covered, hrefusals ▸ h.open_lists,
    hrefusals ▸ h.open_infos, hunknown ▸ h.unknown⟩

theorem congr (h : m.Records log listed) (hlisted : ∀ key, key ∈ listed ↔ key ∈ listed') :
    m.Records log listed' := by
  refine ⟨h.infos, fun key => ?_, fun a ha => (hlisted _).1 (h.covered a ha), h.open_lists,
    h.open_infos, h.unknown⟩
  rw [h.lists, if_congr (hlisted key) rfl rfl]

theorem valuesOf_eq_nil (h : m.Records log listed) {key : ObjectKind × ObjectId} (hkey : key ∉ listed) :
    valuesOf log key = [] := by
  refine List.map_eq_nil_iff.2 (List.filter_eq_nil_iff.2 fun x hx hxkey => hkey ?_)
  obtain rfl : x.1.key = key := of_decide_eq_true hxkey
  exact h.covered _ (List.fst_mem_of_mem_zipIdx hx)

/-- The list of an object, which is empty as long as it has none. -/
theorem getD_find? (h : m.Records log listed) (key : ObjectKind × ObjectId) :
    (m.properties.find? key).getD [] = valuesOf log key := by
  rw [h.lists]
  by_cases hkey : key ∈ listed
  · rw [if_pos hkey, Option.getD_some]
  · rw [if_neg hkey, Option.getD_none, h.valuesOf_eq_nil hkey]

theorem touch (h : m.Records log listed) (kind : ObjectKind) (id : ObjectId) :
    (m.touch kind id).Records log (listed ++ [(kind, id)]) := by
  refine ⟨h.infos, fun key => ?_, fun a ha => List.mem_append_left _ (h.covered a ha), h.open_lists,
    h.open_infos, h.unknown⟩
  change (m.properties.modify (kind, id) (·.getD [])).find? key = _
  rw [Table.modify, Table.find?_insert, h.getD_find?, h.lists]
  by_cases hkey : key = (kind, id)
  · simp [hkey]
  · simp [hkey]

theorem addProperty (h : m.Records log listed) (a : Addition) (hfew : log.length < UInt32.size - 1000) :
    (m.addProperty a.object a.kind a.name a.value).Records (log ++ [a]) (listed ++ [a.key]) := by
  have hid : UInt32.ofNat (firstProperty + m.propertyInfos.size) = propertyId log.length := by
    rw [h.infos, Table.size, Table.ofList, List.length_map, List.length_zipIdx]
    rfl
  constructor
  case infos =>
      change m.propertyInfos.insert _ (.ok a.info) = _
      rw [hid, h.infos, zipIdx_concat]
      exact Table.insert_ofList (a := (a, log.length)) (propertyId_not_mem hfew)
  case lists =>
      intro key
      change (m.properties.modify a.key _).find? key = _
      rw [Table.modify, Table.find?_insert, h.getD_find?, hid, h.lists, valuesOf_concat]
      by_cases hkey : key = a.key
      · simp [hkey]
      · simp [hkey, Ne.symm hkey]
  case covered =>
      intro b hb
      rcases List.mem_append.1 hb with hold | hnew
      · exact List.mem_append_left _ (h.covered b hold)
      · obtain rfl := List.mem_singleton.1 hnew
        exact List.mem_append_right _ List.mem_cons_self
  case open_lists => exact h.open_lists
  case open_infos => exact h.open_infos
  case unknown => exact h.unknown

theorem addBareCrtc (h : m.Records log listed) (id : ObjectId) :
    (m.addBareCrtc id).Records log (listed ++ [(.crtc, id)]) := by
  have hadded : Records { m with crtcs := m.crtcs ++ [⟨id, ⟨none⟩, none⟩] } log listed :=
    h.of_same rfl rfl rfl rfl
  exact hadded.touch .crtc id

theorem addBareConnector (h : m.Records log listed) (plan : ConnectorPlan) :
    (m.addBareConnector plan).Records log (listed ++ [(.connector, plan.id)]) := by
  rw [MemoryCard.addBareConnector]
  refine touch ?_ .connector plan.id
  exact h.of_same rfl rfl rfl rfl

theorem addPlane (h : m.Records log listed) (id : ObjectId) (type : UInt64) (possibleCrtcs : UInt32)
    (hfew : log.length < UInt32.size - 1000) : (m.addPlane id type possibleCrtcs).Records
      (log ++ [⟨id, .plane, "type", type⟩]) (listed ++ [(.plane, id)]) := by
  have hadded : Records { m with planes := m.planes ++ [⟨id, ⟨none, possibleCrtcs⟩, none⟩] } log
      listed := h.of_same rfl rfl rfl rfl
  exact hadded.addProperty ⟨id, .plane, "type", type⟩ hfew

/-- **A step adds to the record.** -/
theorem apply (h : m.Records log listed) {step : BuildStep} (hstep : step.Continues)
    (hfew : (log ++ step.additions).length < UInt32.size - 1000) :
    (m.apply step).Records (log ++ step.additions) (listed ++ step.lists?.toList) := by
  rw [List.length_append] at hfew
  -- steps with several parts name their object each time
  have hagain : ∀ {key : ObjectKind × ObjectId} {parts : List (ObjectKind × ObjectId)},
      (∀ part ∈ parts, part = key) →
        ∀ other, other ∈ listed ++ [key] ++ parts ↔ other ∈ listed ++ [key] := by
    intro key parts hparts other
    simp only [List.mem_append, List.mem_singleton]
    exact ⟨fun hmem => hmem.elim id fun hpart => .inr (hparts other hpart), .inl⟩
  cases step with
  | laptop => cases hstep
  | refuse op =>
      obtain ⟨hlists, hinfos⟩ := hstep
      rw [BuildStep.additions, BuildStep.lists?, Option.toList_none, List.append_nil, List.append_nil]
      refine ⟨h.infos, h.lists, h.covered, ?_, ?_, h.unknown⟩
      · exact (Table.find?_insert_of_ne _ hlists.symm _).trans h.open_lists
      · exact (Table.find?_insert_of_ne _ hinfos.symm _).trans h.open_infos
  | modifiers supported =>
      rw [BuildStep.additions, BuildStep.lists?, Option.toList_none, List.append_nil, List.append_nil]
      exact h.of_same rfl rfl rfl rfl
  | encoder id currentCrtc possibleCrtcs =>
      rw [BuildStep.additions, BuildStep.lists?, Option.toList_none, List.append_nil, List.append_nil]
      exact h.of_same rfl rfl rfl rfl
  | bareCrtc id =>
      rw [BuildStep.additions, List.append_nil]
      exact h.addBareCrtc id
  | bareConnector plan =>
      rw [BuildStep.additions, List.append_nil]
      exact h.addBareConnector plan
  | crtc id =>
      have hactive := (h.addBareCrtc id).addProperty ⟨id, .crtc, "ACTIVE", 0⟩ (by omega)
      have hmodeId := hactive.addProperty ⟨id, .crtc, "MODE_ID", 0⟩
        (by simp [BuildStep.additions] at hfew ⊢; omega)
      rw [List.append_assoc log, List.append_assoc (listed ++ _)] at hmodeId
      exact hmodeId.congr (hagain (by simp [Addition.key]))
  | connector plan =>
      have hadded := (h.addBareConnector plan).addProperty ⟨plan.id, .connector, "CRTC_ID", 0⟩ (by omega)
      exact hadded.congr (hagain (by simp [Addition.key]))
  | plane id kind possibleCrtcs => exact h.addPlane id kind.code possibleCrtcs (by omega)
  | rawPlane id type possibleCrtcs => exact h.addPlane id type possibleCrtcs (by omega)
  | property object kind name value => exact h.addProperty ⟨object, kind, name, value⟩ (by omega)

end Records

/-- A built card holds what its steps added. -/
theorem records_build {steps : List BuildStep} (hsteps : ∀ step ∈ steps, step.Continues)
    (hfew : (steps.flatMap BuildStep.additions).length < UInt32.size - 1000) :
    (build steps).Records (steps.flatMap BuildStep.additions) (steps.filterMap BuildStep.lists?) := by
  -- the last step comes to the card that all steps before it have built
  induction steps using List.reverseRecOn with
  | nil => exact ⟨rfl, fun _ => rfl, fun _ ha => absurd ha List.not_mem_nil, rfl, rfl, rfl⟩
  | append_singleton steps step ih =>
      have hadditions : (steps ++ [step]).flatMap BuildStep.additions =
          steps.flatMap BuildStep.additions ++ step.additions := by
        rw [List.flatMap_append, List.flatMap_singleton]
      have hlists : (steps ++ [step]).filterMap BuildStep.lists? =
          steps.filterMap BuildStep.lists? ++ step.lists?.toList := by
        rw [List.filterMap_append]
        cases hlists : step.lists? with
        | none => rw [List.filterMap_cons_none hlists, List.filterMap_nil, Option.toList_none]
        | some key => rw [List.filterMap_cons_some hlists, List.filterMap_nil, Option.toList_some]
      rw [hadditions] at hfew ⊢
      have hbefore := ih (fun other hother => hsteps other (List.mem_append_left _ hother))
        (by rw [List.length_append] at hfew; omega)
      rw [build, List.foldl_append, hlists]
      exact hbefore.apply (hsteps step (List.mem_append_right _ List.mem_cons_self)) hfew

/-! ### What a card says that holds a record -/

/-- The property that was added at a place of the record. -/
def recorded (x : Addition × Nat) : Property where
  object := x.1.object
  id := propertyId x.2
  name := x.1.name
  kind := x.1.info.kind
  immutable := false
  atomic := true
  value := x.1.value

/-- The first property of a name that was added to an object, and its place in the record. -/
def firstOn? (log : List Addition) (kind : ObjectKind) (object : ObjectId) (name : String) :
    Option (Addition × Nat) :=
  log.zipIdx.find? fun x => x.1.isOn kind object name

section FirstOn

variable {log : List Addition} {kind : ObjectKind} {object : ObjectId} {name : String}

theorem forall_mem_zipIdx_fst {P : Addition → Prop} :
    (∀ x ∈ log.zipIdx, P x.1) ↔ ∀ a ∈ log, P a := by
  rw [← List.forall_mem_map, List.zipIdx_map_fst]

theorem firstOn?_eq_some_iff {x : Addition × Nat} :
    firstOn? log kind object name = some x ↔ ∃ before after, log = before ++ x.1 :: after ∧
      x.2 = before.length ∧ x.1.isOn kind object name ∧ ∀ b ∈ before, ¬ b.isOn kind object name := by
  rw [firstOn?, List.find?_eq_some_iff_append]
  simp only [Bool.not_eq_true', ← Bool.not_eq_true]
  constructor
  · rintro ⟨hon, l, l', hlog, hbefore⟩
    obtain ⟨before, rest, rfl, rfl, hrest⟩ := List.zipIdx_eq_append_iff.1 hlog
    obtain ⟨a, after, rfl, rfl, -⟩ := List.zipIdx_eq_cons_iff.1 hrest.symm
    exact ⟨before, after, rfl, Nat.zero_add _, hon, forall_mem_zipIdx_fst.1 hbefore⟩
  · obtain ⟨a, i⟩ := x
    rintro ⟨before, after, rfl, rfl, hon, hbefore⟩
    refine ⟨hon, before.zipIdx, after.zipIdx (before.length + 1), ?_, forall_mem_zipIdx_fst.2 hbefore⟩
    rw [List.zipIdx_append, List.zipIdx_cons, Nat.zero_add]

theorem firstOn?_eq_none_iff :
    firstOn? log kind object name = none ↔ ∀ a ∈ log, ¬ a.isOn kind object name := by
  rw [firstOn?, List.find?_eq_none]
  exact forall_mem_zipIdx_fst (P := fun a => ¬ a.isOn kind object name)

/-- What comes later does not matter once there is such a property. -/
theorem firstOn?_append_of_eq_some {more : List Addition} {x : Addition × Nat}
    (h : firstOn? log kind object name = some x) : firstOn? (log ++ more) kind object name = some x := by
  rw [firstOn?] at h ⊢
  rw [List.zipIdx_append, List.find?_append, h, Option.some_or]

/-- What is added to other objects does not matter. -/
theorem firstOn?_append_of_forall {more : List Addition} (h : ∀ a ∈ more, a.key ≠ (kind, object)) :
    firstOn? (log ++ more) kind object name = firstOn? log kind object name := by
  have hnone : (more.zipIdx (0 + log.length)).find? (fun x => x.1.isOn kind object name) = none := by
    refine List.find?_eq_none.2 fun x hx hon => ?_
    exact h x.1 (List.fst_mem_of_mem_zipIdx hx) (Addition.isOn_iff.1 hon).1
  rw [firstOn?, List.zipIdx_append, List.find?_append, hnone, Option.or_none, firstOn?]

theorem recorded_of_isOn {x : Addition × Nat} (h : x.1.isOn kind object name) :
    recorded x = ⟨object, propertyId x.2, name, if name = "type" then .enumeration else .range, false,
      true, x.1.value⟩ := by
  obtain ⟨⟨o, k, n, v⟩, i⟩ := x
  obtain ⟨hkey, rfl⟩ := Addition.isOn_iff.1 h
  obtain ⟨rfl, rfl⟩ := Prod.mk.inj hkey
  rfl

/-- A recorded property is known by its place. -/
theorem recorded_eq_iff {x : Addition × Nat} (hon : x.1.isOn kind object name)
    (hplace : x.2 < UInt32.size - 1000) {p : Property} : recorded x = p ↔ ∃ id : ObjectId,
      id.toNat = 1000 + x.2 ∧ p = ⟨object, id, name, if name = "type" then .enumeration else .range, false,
        true, x.1.value⟩ := by
  rw [recorded_of_isOn hon]
  constructor
  · rintro rfl
    exact ⟨_, toNat_propertyId hplace, rfl⟩
  · rintro ⟨id, hid, rfl⟩
    rw [← toNat_propertyId hplace] at hid
    rw [UInt32.toNat_inj.1 hid]

end FirstOn

/-- Questions about properties change nothing. -/
theorem described_kernel {m : MemoryCard} (h : m.refusals.find? .propertyInfo = none)
    (values : PropertyValues) :
    kernel.described () values m = values.map fun v => (v, m.infoOf v.1) := by
  induction values with
  | nil => rfl
  | cons v values ih =>
      have hanswer : kernel.answer () (.propertyInfo v.1) m = (m.infoOf v.1, m) :=
        answer_of_granted (q := .propertyInfo v.1) h
      rw [Kernel.described, hanswer, ih, List.map_cons]

namespace Records

variable {m : MemoryCard} {log : List Addition} {listed : List (ObjectKind × ObjectId)}

/-- The card says of each property what was added. -/
theorem infoOf (h : m.Records log listed) (hfew : log.length < UInt32.size - 1000) {x : Addition × Nat}
    (hx : x ∈ log.zipIdx) : m.infoOf (propertyId x.2) = .ok x.1.info := by
  have hfound : m.propertyInfos.find? (propertyId x.2) = some (.ok x.1.info) := by
    rw [h.infos]
    exact (Table.find?_ofList_eq_some_iff (nodup_propertyId hfew)).2 ⟨x, hx, rfl, rfl⟩
  rw [MemoryCard.infoOf, hfound, Option.getD_some]

/-- The first property of a name in the list of an object is the first that was added to it. -/
theorem findSome?_described (h : m.Records log listed) (hfew : log.length < UInt32.size - 1000)
    (kind : ObjectKind) (object : ObjectId) (name : String) :
    (kernel.described () (valuesOf log (kind, object)) m).findSome? (Property.ofReply? object name) =
      (firstOn? log kind object name).map recorded := by
  have hreplies : kernel.described () (valuesOf log (kind, object)) m =
      (log.zipIdx.filter (·.1.key = (kind, object))).map
        fun x => ((propertyId x.2, x.1.value), .ok x.1.info) := by
    rw [described_kernel h.open_infos, valuesOf, List.map_map]
    refine List.map_congr_left fun x hx => ?_
    exact congrArg (Prod.mk _) (h.infoOf hfew (List.mem_of_mem_filter hx))
  rw [hreplies, firstOn?]
  induction log.zipIdx with
  | nil => rfl
  | cons x l ih =>
      by_cases hkey : x.1.key = (kind, object)
      · obtain ⟨rfl, rfl⟩ := Prod.mk.inj hkey
        by_cases hname : x.1.name = name
        · simp [hkey, hname, Addition.isOn, Addition.info, Property.ofReply?, Property.ofInfo, recorded]
        · simpa [hkey, hname, Addition.isOn, Addition.info, Property.ofReply?] using ih
      · simpa [hkey, Addition.isOn] using ih

theorem value_getProperty (h : m.Records log listed) (hfew : log.length < UInt32.size - 1000)
    (kind : ObjectKind) (object : ObjectId) (name : String) :
    ((getProperty kernel () object kind name).run.run m).value =
      if (kind, object) ∈ listed then
        match firstOn? log kind object name with
        | some x => .ok (recorded x)
        | none => .error (.propertyNotFound object name)
      else .error (.propertyQueryFailed object .notFound) := by
  have hanswer : kernel.answer () (.objectProperties object kind) m = (m.propertiesOf object kind, m) :=
    answer_of_granted (q := .objectProperties object kind) h.open_lists
  rw [propertiesOf, h.lists] at hanswer
  by_cases hlisted : (kind, object) ∈ listed
  · rw [if_pos hlisted] at hanswer ⊢
    rw [value_getProperty_of_ok hanswer, h.findSome?_described hfew]
    cases firstOn? log kind object name with
    | none => rfl
    | some x => rfl
  · rw [if_neg hlisted] at hanswer ⊢
    rw [value_getProperty_of_error hanswer, h.unknown]

end Records

end MemoryCard

/-! ### Built cards keep properties apart -/

/-- What the card that the steps build says about a property. -/
def MemoryCard.propertyAfter (steps : List BuildStep) (kind : ObjectKind) (object : ObjectId)
    (name : String) : Except DeviceError Property :=
  ((getProperty kernel () object kind name).run.run (build steps)).value

/-- What a built card says about a property. -/
structure KeepsApart (steps : List BuildStep) (kind : ObjectKind) (object : ObjectId) (name : String) :
    Prop where
  /-- The query fails exactly when no step gave this very object a list. -/
  queryFailed_iff : ∀ about cause,
    MemoryCard.propertyAfter steps kind object name = .error (.propertyQueryFailed about cause) ↔
      about = object ∧ cause = .notFound ∧ ∀ step ∈ steps, step.lists? ≠ some (kind, object)
  /-- The first property of the name that was added to this very object is the one found.  It is numbered
  by its place among all that was added to the card. -/
  found_iff : ∀ p, MemoryCard.propertyAfter steps kind object name = .ok p ↔
    ∃ before a after id, steps.flatMap BuildStep.additions = before ++ a :: after ∧
      a.isOn kind object name ∧ (∀ b ∈ before, ¬ b.isOn kind object name) ∧
      id.toNat = 1000 + before.length ∧
      p = ⟨object, id, name, if name = "type" then .enumeration else .range, false, true, a.value⟩
  /-- There is no property exactly when the object has a list and none of the name was added to it. -/
  notFound_iff : ∀ about missing,
    MemoryCard.propertyAfter steps kind object name = .error (.propertyNotFound about missing) ↔
      about = object ∧ missing = name ∧ (∃ step ∈ steps, step.lists? = some (kind, object)) ∧
      ∀ a ∈ steps.flatMap BuildStep.additions, ¬ a.isOn kind object name
  /-- What was found stays as it is, whatever else is added and to which object. -/
  lasting : ∀ more : List BuildStep, (∀ step ∈ more, step.Continues) →
    ((steps ++ more).flatMap BuildStep.additions).length < UInt32.size - 1000 →
    ∀ p, MemoryCard.propertyAfter steps kind object name = .ok p →
      MemoryCard.propertyAfter (steps ++ more) kind object name = .ok p
  /-- Steps about other objects change no answer at all. -/
  elsewhere : ∀ more : List BuildStep, (∀ step ∈ more, step.Continues) →
    ((steps ++ more).flatMap BuildStep.additions).length < UInt32.size - 1000 →
    (∀ step ∈ more, step.lists? ≠ some (kind, object)) →
      MemoryCard.propertyAfter (steps ++ more) kind object name =
        MemoryCard.propertyAfter steps kind object name

section Built

variable {steps : List BuildStep} {kind : ObjectKind} {object : ObjectId} {name : String}
  (hsteps : ∀ step ∈ steps, step.Continues)
  (hfew : (steps.flatMap BuildStep.additions).length < UInt32.size - 1000)

include hsteps hfew

theorem propertyAfter_eq : MemoryCard.propertyAfter steps kind object name =
    if (kind, object) ∈ steps.filterMap BuildStep.lists? then
      match MemoryCard.firstOn? (steps.flatMap BuildStep.additions) kind object name with
      | some x => .ok (MemoryCard.recorded x)
      | none => .error (.propertyNotFound object name)
    else .error (.propertyQueryFailed object .notFound) :=
  (MemoryCard.records_build hsteps hfew).value_getProperty hfew kind object name

theorem propertyAfter_eq_queryFailed_iff {about : ObjectId} {cause : SystemError} :
    MemoryCard.propertyAfter steps kind object name = .error (.propertyQueryFailed about cause) ↔
      about = object ∧ cause = .notFound ∧ (kind, object) ∉ steps.filterMap BuildStep.lists? := by
  rw [propertyAfter_eq hsteps hfew]
  by_cases h : (kind, object) ∈ steps.filterMap BuildStep.lists?
  · rw [if_pos h]
    cases MemoryCard.firstOn? (steps.flatMap BuildStep.additions) kind object name with
    | none => simp [h]
    | some x => simp [h]
  · simp [h, eq_comm]

theorem propertyAfter_eq_notFound_iff {about : ObjectId} {missing : String} :
    MemoryCard.propertyAfter steps kind object name = .error (.propertyNotFound about missing) ↔
      about = object ∧ missing = name ∧ (kind, object) ∈ steps.filterMap BuildStep.lists? ∧
      MemoryCard.firstOn? (steps.flatMap BuildStep.additions) kind object name = none := by
  rw [propertyAfter_eq hsteps hfew]
  by_cases h : (kind, object) ∈ steps.filterMap BuildStep.lists?
  · rw [if_pos h]
    cases MemoryCard.firstOn? (steps.flatMap BuildStep.additions) kind object name with
    | none => simp [h, eq_comm]
    | some x => simp
  · simp [h]

/-- What was added to an object has given it a list. -/
theorem mem_lists_of_firstOn? {x : Addition × Nat}
    (hx : MemoryCard.firstOn? (steps.flatMap BuildStep.additions) kind object name = some x) :
    (kind, object) ∈ steps.filterMap BuildStep.lists? := by
  obtain ⟨before, after, hlog, -, hon, -⟩ := MemoryCard.firstOn?_eq_some_iff.1 hx
  rw [← (Addition.isOn_iff.1 hon).1]
  refine (MemoryCard.records_build hsteps hfew).covered x.1 ?_
  exact hlog ▸ List.mem_append_right _ List.mem_cons_self

/-- A property is found exactly when one of the name was added to the object. -/
theorem propertyAfter_eq_ok_iff {p : Property} :
    MemoryCard.propertyAfter steps kind object name = .ok p ↔
      ∃ x, MemoryCard.firstOn? (steps.flatMap BuildStep.additions) kind object name = some x ∧
        MemoryCard.recorded x = p := by
  rw [propertyAfter_eq hsteps hfew]
  cases hfirst : MemoryCard.firstOn? (steps.flatMap BuildStep.additions) kind object name with
  | none => split <;> simp
  | some x => simp [mem_lists_of_firstOn? hsteps hfew hfirst]

/-- **Built cards keep properties apart.** -/
theorem keepsApart_build : KeepsApart steps kind object name := by
  constructor
  case queryFailed_iff =>
      intro about cause
      rw [propertyAfter_eq_queryFailed_iff hsteps hfew, List.mem_filterMap]
      simp only [not_exists, not_and, ne_eq]
  case found_iff =>
      intro p
      have hplace : ∀ {before after : List Addition} {a : Addition},
          steps.flatMap BuildStep.additions = before ++ a :: after →
          before.length < UInt32.size - 1000 := by
        intro before after a hlog
        rw [hlog, List.length_append] at hfew
        omega
      rw [propertyAfter_eq_ok_iff hsteps hfew]
      constructor
      · rintro ⟨⟨a, i⟩, hx, hp⟩
        obtain ⟨before, after, hlog, rfl, hon, hbefore⟩ := MemoryCard.firstOn?_eq_some_iff.1 hx
        obtain ⟨id, hid, hp⟩ := (MemoryCard.recorded_eq_iff hon (hplace hlog)).1 hp
        exact ⟨before, a, after, id, hlog, hon, hbefore, hid, hp⟩
      · rintro ⟨before, a, after, id, hlog, hon, hbefore, hid, hp⟩
        refine ⟨(a, before.length), ?_, ?_⟩
        · exact MemoryCard.firstOn?_eq_some_iff.2 ⟨before, after, hlog, rfl, hon, hbefore⟩
        · exact (MemoryCard.recorded_eq_iff hon (hplace hlog)).2 ⟨id, hid, hp⟩
  case notFound_iff =>
      intro about missing
      rw [propertyAfter_eq_notFound_iff hsteps hfew, List.mem_filterMap, MemoryCard.firstOn?_eq_none_iff]
  case lasting =>
      intro more hmore hfew' p hp
      obtain ⟨x, hx, rfl⟩ := (propertyAfter_eq_ok_iff hsteps hfew).1 hp
      have hall := List.forall_mem_append.2 ⟨hsteps, hmore⟩
      refine (propertyAfter_eq_ok_iff hall hfew').2 ⟨x, ?_, rfl⟩
      rw [List.flatMap_append]
      exact MemoryCard.firstOn?_append_of_eq_some hx
  case elsewhere =>
      intro more hmore hfew' hother
      have hall := List.forall_mem_append.2 ⟨hsteps, hmore⟩
      have hunlisted : (kind, object) ∉ more.filterMap BuildStep.lists? := by
        intro hmem
        obtain ⟨step, hstep, hlists⟩ := List.mem_filterMap.1 hmem
        exact hother step hstep hlists
      have hadditions : ∀ a ∈ more.flatMap BuildStep.additions, a.key ≠ (kind, object) := by
        intro a ha hkey
        obtain ⟨step, hstep, hadded⟩ := List.mem_flatMap.1 ha
        exact hother step hstep (hkey ▸ BuildStep.lists?_of_mem_additions hadded)
      rw [propertyAfter_eq hall hfew', propertyAfter_eq hsteps hfew, List.flatMap_append,
        MemoryCard.firstOn?_append_of_forall hadditions]
      refine if_congr ?_ rfl rfl
      rw [List.filterMap_append, List.mem_append, or_iff_left hunlisted]

end Built

/-- A CRTC and a plane with one id, on which several properties share a name. -/
def BuildStep.sharedId : List BuildStep :=
  [.crtc 20, .property 20 .plane "ACTIVE" 7, .property 20 .crtc "ACTIVE" 5, .plane 20 .cursor 1]

/-- The plane keeps its own property, and the first of the name, when more are added. -/
theorem sharedId_keepsApart :
    KeepsApart BuildStep.sharedId .plane 20 "ACTIVE" ∧
    MemoryCard.propertyAfter (BuildStep.sharedId ++ [.property 20 .plane "ACTIVE" 9, .crtc 20]) .plane 20
      "ACTIVE" = .ok ⟨20, 1002, "ACTIVE", .range, false, true, 7⟩ := by
  have hsteps : ∀ step ∈ BuildStep.sharedId, step.Continues := by
    simp [BuildStep.sharedId, BuildStep.Continues]
  have hmore : ∀ step ∈ [BuildStep.property 20 .plane "ACTIVE" 9, .crtc 20], step.Continues := by
    simp [BuildStep.Continues]
  have happart := @keepsApart_build BuildStep.sharedId .plane 20 "ACTIVE" hsteps (by decide)
  exact ⟨happart, happart.lasting _ hmore (by decide) _ rfl⟩

end Scanout
