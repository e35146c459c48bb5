/-
**Bindings as lists of grants.**

A run grants each display a pipe, one connector after the other.  When no two grants share a display,
an encoder or a CRTC, the four tables of the bindings are four views of the list of grants: each new
grant adds one entry to each table, and finishing finds the whole of each grant again.

Main definitions:

* `Scanout.Routing.Grant` — a display with its pipe;
* `Scanout.Routing.Exclusive` — no display, encoder or CRTC occurs twice in some grants;
* `Scanout.Routing.Bindings.ofGrants` — the bindings that grants lead to;
* `Scanout.Routing.Assignment.ofGrants` — the routing that grants stand for.

Main results:

* `Scanout.Routing.Bindings.bind_ofGrants` — binding a new grant puts it at the end of the list;
* `Scanout.Routing.finish_ofGrants` — finishing never loses an object and gives back the grants, in
  display order;
* `Scanout.Routing.Assignment.pipe?_ofGrants`, `Scanout.Routing.Assignment.displayOf?_ofGrants` —
  what a routing answers about displays and connectors.
-/

import Scanout.Proofs.DisplayId
import Scanout.Proofs.Table
import Scanout.Routing.Basic

set_option relaxedAutoImplicit false
set_option autoImplicit false

namespace Scanout

namespace Routing

/-- A display with what is to drive it. -/
abbrev Grant := DisplayId × Pipe

/-- No display, encoder or CRTC occurs twice in some grants. -/
structure Exclusive (l : List Grant) : Prop where
  displays : (l.map (·.1)).Nodup
  encoders : (l.map (·.2.encoder)).Nodup
  crtcs : (l.map (·.2.crtc)).Nodup

/-! ### Bindings -/

namespace Bindings

/-- The bindings that grants lead to. -/
def ofGrants (l : List Grant) : Bindings where
  displayConnectors := .ofList (·.1) (·.2.connector) l
  displayCrtcs := .ofList (·.1) (·.2.crtc) l
  crtcEncoders := .ofList (·.2.crtc) (·.2.encoder) l
  encoderDisplays := .ofList (·.2.encoder) (·.1) l

variable {l : List Grant}

/-- Binding a grant that shares nothing with the others puts it at the end. -/
theorem bind_ofGrants {g : Grant} (h : Exclusive (l ++ [g])) :
    (ofGrants l).bind g.1 g.2 = ofGrants (l ++ [g]) := by
  have hnew : ∀ {β : Type} (f : Grant → β), ((l ++ [g]).map f).Nodup → f g ∉ l.map f := by
    intro β f hnodup hmem
    rw [List.map_append, List.nodup_append] at hnodup
    exact hnodup.2.2 _ hmem _ (by simp) rfl
  simp only [bind, ofGrants]
  rw [Table.insert_ofList (hnew (·.1) h.displays), Table.insert_ofList (hnew (·.1) h.displays),
    Table.insert_ofList (hnew (·.2.crtc) h.crtcs),
    Table.insert_ofList (hnew (·.2.encoder) h.encoders)]

theorem hasCrtc_ofGrants {crtc : Nat} :
    (ofGrants l).hasCrtc crtc = true ↔ crtc ∈ l.map (·.2.crtc) := Table.contains_ofList crtc

theorem hasEncoder_ofGrants {encoder : Nat} :
    (ofGrants l).hasEncoder encoder = true ↔ encoder ∈ l.map (·.2.encoder) :=
  Table.contains_ofList encoder

/-- From a display the tables lead to the whole of its pipe. -/
theorem pipe?_ofGrants (h : Exclusive l) {g : Grant} (hg : g ∈ l) :
    (ofGrants l).pipe? g.1 g.2.connector = some g.2 := by
  have hcrtc : (ofGrants l).displayCrtcs.find? g.1 = some g.2.crtc :=
    (Table.find?_ofList_eq_some_iff h.displays).2 ⟨g, hg, rfl, rfl⟩
  have hencoder : (ofGrants l).crtcEncoders.find? g.2.crtc = some g.2.encoder :=
    (Table.find?_ofList_eq_some_iff h.crtcs).2 ⟨g, hg, rfl, rfl⟩
  rw [pipe?, hcrtc, Option.bind_eq_bind, Option.bind_some, hencoder]
  rfl

end Bindings

/-! ### Finishing -/

/-- Grants in display order. -/
def inDisplayOrder (l : List Grant) : List Grant := l.mergeSort fun x y => x.1 ≤ y.1

theorem inDisplayOrder_perm (l : List Grant) : (inDisplayOrder l).Perm l :=
  List.mergeSort_perm l _

theorem pairwise_inDisplayOrder (l : List Grant) :
    (inDisplayOrder l).Pairwise fun x y => x.1 ≤ y.1 := by
  have htrans : ∀ x y z : Grant, decide (x.1 ≤ y.1) = true → decide (y.1 ≤ z.1) = true →
      decide (x.1 ≤ z.1) = true := fun x y z hxy hyz =>
    decide_eq_true (le_trans (of_decide_eq_true hxy) (of_decide_eq_true hyz))
  have htotal : ∀ x y : Grant, (decide (x.1 ≤ y.1) || decide (y.1 ≤ x.1)) = true := fun x y => by
    simpa using le_total x.1 y.1
  exact (List.pairwise_mergeSort htrans htotal l).imp of_decide_eq_true

/-- The routing that grants stand for. -/
def Assignment.ofGrants (l : List Grant) (next : DisplayId) : Assignment where
  pipes := inDisplayOrder l
  displays := .ofList (·.2.connector) (·.1) (inDisplayOrder l)
  next := next

theorem pipesOf_ofGrants {l : List Grant} (h : Exclusive l) :
    ∀ {part : List Grant}, (∀ g ∈ part, g ∈ l) →
      pipesOf (.ofGrants l) (part.map fun g => (g.1, g.2.connector)) = .ok part := by
  intro part
  induction part with
  | nil => exact fun _ => rfl
  | cons g part ih =>
      intro hpart
      rw [List.map_cons, pipesOf, Bindings.pipe?_ofGrants h (hpart g (by simp)),
        ih fun g' hg' => hpart g' (List.mem_cons_of_mem g hg')]
      rfl

/-- Finishing never loses an object and gives back the grants. -/
theorem finish_ofGrants {l : List Grant} (h : Exclusive l) (next : DisplayId) :
    finish (.ofGrants l) next = .ok (.ofGrants l next) := by
  have hsort : ((Bindings.ofGrants l).displayConnectors.entries.mergeSort fun x y => x.1 ≤ y.1) =
      (inDisplayOrder l).map fun g => (g.1, g.2.connector) :=
    (List.map_mergeSort (f := fun g : Grant => (g.1, g.2.connector)) fun _ _ _ _ => rfl).symm
  rw [finish, hsort, pipesOf_ofGrants h fun g hg => (inDisplayOrder_perm l).mem_iff.1 hg]
  refine congrArg Except.ok ?_
  rw [Assignment.ofGrants, Table.ofList, List.map_map]
  rfl

/-! ### Answers of a routing -/

namespace Assignment

variable {l : List Grant} {next : DisplayId}

theorem pipe?_ofGrants (h : (l.map (·.1)).Nodup) {d : DisplayId} {pipe : Pipe} :
    (ofGrants l next).pipe? d = some pipe ↔ (d, pipe) ∈ l := by
  have hkeys : ((inDisplayOrder l).map (·.1)).Nodup :=
    ((inDisplayOrder_perm l).map _).nodup_iff.2 h
  have htable : (ofGrants l next).pipe? d =
      (Table.ofList (·.1) (·.2) (inDisplayOrder l)).find? d := (Table.find?_ofList d).symm
  rw [htable, Table.find?_ofList_eq_some_iff hkeys]
  simp only [(inDisplayOrder_perm l).mem_iff, Prod.exists]
  constructor
  · rintro ⟨_, _, hmem, rfl, rfl⟩
    exact hmem
  · intro hmem
    exact ⟨d, pipe, hmem, rfl, rfl⟩

theorem displayOf?_ofGrants (h : (l.map (·.2.connector)).Nodup) {i : Nat} {d : DisplayId} :
    (ofGrants l next).displayOf? i = some d ↔ ∃ pipe, (d, pipe) ∈ l ∧ pipe.connector = i := by
  have hkeys : ((inDisplayOrder l).map (·.2.connector)).Nodup :=
    ((inDisplayOrder_perm l).map _).nodup_iff.2 h
  rw [displayOf?, ofGrants, Table.find?_ofList_eq_some_iff hkeys]
  simp only [(inDisplayOrder_perm l).mem_iff, Prod.exists]
  constructor
  · rintro ⟨_, pipe, hmem, hi, rfl⟩
    exact ⟨pipe, hmem, hi⟩
  · rintro ⟨pipe, hmem, hi⟩
    exact ⟨d, pipe, hmem, hi, rfl⟩

end Assignment

end Routing

end Scanout
