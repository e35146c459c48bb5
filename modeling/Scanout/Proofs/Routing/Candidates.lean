/-
**What could serve a connector.**

To serve a connector is to give it a link: an encoder that can feed it and a CRTC that can drive the
encoder.  The links that come into question, the preferred ones first, depend only on the problem;
what is taken already only decides which of them are passed over.  This module writes the list down
and shows that the search for a pipe finds its first free link.

Main definitions:

* `Scanout.Routing.Link` — an encoder with a CRTC;
* `Scanout.Routing.Problem.encoderCandidates`, `Scanout.Routing.Problem.crtcCandidates` — the
  encoders for a connector and the CRTCs for an encoder, the preferred one first;
* `Scanout.Routing.Problem.candidates` — the links for a connector, by encoder and then by CRTC.

Main results:

* `Scanout.Routing.tryEncoder_eq` — trying an encoder finds its first free CRTC;
* `Scanout.Routing.findPipe_eq` — serving a connector finds its first free link, or fails for want
  of one.
-/

import Mathlib.Data.List.Find
import Scanout.Routing.Basic

set_option relaxedAutoImplicit false
set_option autoImplicit false

namespace Scanout

namespace Routing

/-- An encoder position with the position of a CRTC to drive it. -/
abbrev Link := Nat × Nat

/-! ### Candidates -/

namespace Problem

/-- The encoders for a connector: the first one with the id it is connected to, whether or not the
connector lists it, then all others it lists, in their order. -/
def encoderCandidates (p : Problem) (c : Connector) : List Nat :=
  let current := c.currentEncoder.bind p.encoderAt?
  current.toList ++
    (p.encoders.zipIdx.filter fun (e, i) => some i != current && c.supports e).map (·.2)

/-- The CRTCs for an encoder: the first one with the id it is connected to, whether or not its mask
has it, then those in its mask that have another id, in their order. -/
def crtcCandidates (p : Problem) (e : Encoder) : List Nat :=
  (e.currentCrtc.bind p.crtcAt?).toList ++
    (p.crtcs.zipIdx.filter fun (c, _) => e.supports c && some c.id != e.currentCrtc).map (·.2)

/-- The links through the encoder at a position. -/
def linksThrough (p : Problem) (i : Nat) : List Link :=
  match p.encoders[i]? with
  | none => []
  | some e => (p.crtcCandidates e).map (i, ·)

/-- The links for a connector, by encoder and then by CRTC. -/
def candidates (p : Problem) (c : Connector) : List Link :=
  (p.encoderCandidates c).flatMap p.linksThrough

end Problem

variable {p : Problem} {b : Bindings}

theorem encoderAt?_eq_some {id : ObjectId} {i : Nat} (h : p.encoderAt? id = some i) :
    ∃ e, p.encoders[i]? = some e ∧ e.id = id := by
  obtain ⟨hi, hid, -⟩ := List.findIdx?_eq_some_iff_getElem.1 h
  exact ⟨_, List.getElem?_eq_getElem hi, by simpa using hid⟩

theorem crtcAt?_eq_some {id : ObjectId} {i : Nat} (h : p.crtcAt? id = some i) :
    ∃ c, p.crtcs[i]? = some c ∧ c.id = id := by
  obtain ⟨hi, hid, -⟩ := List.findIdx?_eq_some_iff_getElem.1 h
  exact ⟨_, List.getElem?_eq_getElem hi, by simpa using hid⟩

theorem exists_of_mem_encoderCandidates {c : Connector} {i : Nat}
    (h : i ∈ p.encoderCandidates c) :
    ∃ e, p.encoders[i]? = some e ∧ (e.id ∈ c.encoders ∨ c.currentEncoder = some e.id) := by
  rcases List.mem_append.1 h with hcurrent | hother
  · obtain ⟨id, hid, hi⟩ := Option.bind_eq_some_iff.1 (Option.mem_toList.1 hcurrent)
    obtain ⟨e, he, rfl⟩ := encoderAt?_eq_some hi
    exact ⟨e, he, Or.inr hid⟩
  · obtain ⟨⟨e, j⟩, hmem, rfl⟩ := List.mem_map.1 hother
    obtain ⟨hzip, hcond⟩ := List.mem_filter.1 hmem
    have hlisted : c.supports e = true := (Bool.and_eq_true_iff.1 hcond).2
    exact ⟨e, List.mem_zipIdx_iff_getElem?.1 hzip,
      Or.inl (List.contains_iff_mem.1 hlisted)⟩

theorem exists_of_mem_crtcCandidates {e : Encoder} {k : Nat} (h : k ∈ p.crtcCandidates e) :
    ∃ c, p.crtcs[k]? = some c ∧ (e.supports c = true ∨ e.currentCrtc = some c.id) := by
  rcases List.mem_append.1 h with hcurrent | hother
  · obtain ⟨id, hid, hk⟩ := Option.bind_eq_some_iff.1 (Option.mem_toList.1 hcurrent)
    obtain ⟨c, hc, rfl⟩ := crtcAt?_eq_some hk
    exact ⟨c, hc, Or.inr hid⟩
  · obtain ⟨⟨c, j⟩, hmem, rfl⟩ := List.mem_map.1 hother
    obtain ⟨hzip, hcond⟩ := List.mem_filter.1 hmem
    exact ⟨c, List.mem_zipIdx_iff_getElem?.1 hzip, Or.inl (Bool.and_eq_true_iff.1 hcond).1⟩

/-- The members of a candidate fit each other and the connector. -/
theorem exists_of_mem_candidates {c : Connector} {x : Link} (h : x ∈ p.candidates c) :
    ∃ e k, p.encoders[x.1]? = some e ∧ p.crtcs[x.2]? = some k ∧
      (e.id ∈ c.encoders ∨ c.currentEncoder = some e.id) ∧
      (e.supports k = true ∨ e.currentCrtc = some k.id) := by
  obtain ⟨i, hi, hx⟩ := List.mem_flatMap.1 h
  obtain ⟨e, he, hfeeds⟩ := exists_of_mem_encoderCandidates hi
  rw [Problem.linksThrough, he] at hx
  obtain ⟨k, hk, rfl⟩ := List.mem_map.1 hx
  obtain ⟨crtc, hcrtc, hdrives⟩ := exists_of_mem_crtcCandidates hk
  exact ⟨e, crtc, he, hcrtc, hfeeds, hdrives⟩

/-! ### Trying an encoder -/

/-- The current CRTC or else another one is the first free candidate. -/
theorem or_otherCrtc? (e : Encoder) :
    (currentCrtc? p b e).or (otherCrtc? p b e) =
      (p.crtcCandidates e).find? (!b.hasCrtc ·) := by
  have hcurrent : currentCrtc? p b e =
      (e.currentCrtc.bind p.crtcAt?).toList.find? (!b.hasCrtc ·) := by
    rw [currentCrtc?]
    cases e.currentCrtc.bind p.crtcAt? with
    | none => rfl
    | some k => cases h : b.hasCrtc k <;> simp [h]
  have hother : otherCrtc? p b e =
      ((p.crtcs.zipIdx.filter fun (c, _) =>
        e.supports c && some c.id != e.currentCrtc).map (·.2)).find? (!b.hasCrtc ·) := by
    rw [otherCrtc?, List.find?_map, List.find?_filter]
    congr 2
    funext x
    rw [Bool.eq_iff_iff, decide_eq_true_iff, Bool.and_eq_true]
    rfl
  rw [Problem.crtcCandidates, List.find?_append, ← hcurrent, ← hother]

theorem tryEncoder_eq {d : DisplayId} (hd : b.displayCrtcs.contains d = false) {i : Nat}
    {e : Encoder} (he : p.encoders[i]? = some e) :
    tryEncoder p b d i =
      match (p.crtcCandidates e).find? (!b.hasCrtc ·) with
      | some k => .bound k
      | none => .noneFree := by
  cases hfree : (p.crtcCandidates e).find? (!b.hasCrtc ·) with
  | none => simp only [tryEncoder, hd, he, or_otherCrtc?, hfree, Bool.false_eq_true, ↓reduceIte]
  | some k => simp only [tryEncoder, hd, he, or_otherCrtc?, hfree, Bool.false_eq_true, ↓reduceIte]

/-! ### Trying encoders in turn -/

/-- The first encoder with a free CRTC gives the first link with one. -/
theorem firstFit_eq {d : DisplayId} (hd : b.displayCrtcs.contains d = false)
    {failure : RoutingError} :
    ∀ {l : List Nat}, (∀ i ∈ l, i < p.encoders.length) →
      firstFit p b d failure l =
        match (l.flatMap p.linksThrough).find? (!b.hasCrtc ·.2) with
        | some x => .ok x
        | none => .error failure := by
  intro l
  induction l with
  | nil => exact fun _ => rfl
  | cons i l ih =>
      intro hl
      have hi : i < p.encoders.length := hl i List.mem_cons_self
      have he : p.encoders[i]? = some p.encoders[i] := List.getElem?_eq_getElem hi
      have hthrough : (p.linksThrough i).find? (!b.hasCrtc ·.2) =
          ((p.crtcCandidates p.encoders[i]).find? (!b.hasCrtc ·)).map (i, ·) := by
        rw [Problem.linksThrough, he, List.find?_map]
        rfl
      rw [firstFit, tryEncoder_eq hd he, List.flatMap_cons, List.find?_append, hthrough]
      cases (p.crtcCandidates p.encoders[i]).find? (!b.hasCrtc ·) with
      | some k => rfl
      | none => exact ih fun j hj => hl j (List.mem_cons_of_mem i hj)

/-- The encoders that are tried are the free candidates. -/
theorem toList_append_otherEncoders (c : Connector) :
    (currentEncoder? p b c).toList ++ otherEncoders p b c =
      (p.encoderCandidates c).filter (!b.hasEncoder ·) := by
  rw [Problem.encoderCandidates, List.filter_append, ← Option.toList_filter, List.filter_map,
    List.filter_filter, otherEncoders]
  refine congrArg (_ ++ List.map Prod.snd ·) (List.filter_congr ?_)
  rintro ⟨e, i⟩ -
  simp only [currentEncoder?, Function.comp_apply]
  cases hfree : b.hasEncoder i with
  | true => simp
  | false =>
      -- a current encoder that was filtered out is taken, so it is not this free one
      cases c.currentEncoder.bind p.encoderAt? with
      | none => simp
      | some j =>
          by_cases hj : i = j
          · subst hj
            simp [Option.filter, hfree]
          · have hother : (some i != some j) = true := by simpa using hj
            have hnone : (some i != none) = true := rfl
            cases htaken : b.hasEncoder j <;> simp [Option.filter, htaken, hother, hnone]

/-- To pass over the links of taken encoders is to leave out taken encoders. -/
theorem find?_candidates (c : Connector) :
    (p.candidates c).find? (fun x => !b.hasEncoder x.1 && !b.hasCrtc x.2) =
      (((p.encoderCandidates c).filter (!b.hasEncoder ·)).flatMap p.linksThrough).find?
        (!b.hasCrtc ·.2) := by
  rw [Problem.candidates]
  induction p.encoderCandidates c with
  | nil => rfl
  | cons i l ih =>
      have hfst : ∀ x ∈ p.linksThrough i, x.1 = i := by
        intro x hx
        unfold Problem.linksThrough at hx
        split at hx
        · cases hx
        · obtain ⟨k, -, rfl⟩ := List.mem_map.1 hx
          rfl
      rw [List.flatMap_cons, List.find?_append, ih]
      cases htaken : b.hasEncoder i with
      | true =>
          have hnone : (p.linksThrough i).find?
              (fun x => !b.hasEncoder x.1 && !b.hasCrtc x.2) = none :=
            List.find?_eq_none.2 fun x hx => by simp [hfst x hx, htaken]
          rw [hnone, Option.none_or, List.filter_cons_of_neg (by simp [htaken])]
      | false =>
          have hsame : (p.linksThrough i).find?
              (fun x => !b.hasEncoder x.1 && !b.hasCrtc x.2) =
              (p.linksThrough i).find? (!b.hasCrtc ·.2) := by
            refine List.find?_congr fun x hx => ?_
            simp [hfst x hx, htaken]
          rw [hsame, List.filter_cons_of_pos (by simp [htaken]), List.flatMap_cons,
            List.find?_append]

/-- Serving a connector finds its first free link, or fails for want of one. -/
theorem findPipe_eq {planned : Table Nat DisplayId} {i : Nat} {c : Connector} {d : DisplayId}
    (hc : p.connectors[i]? = some c) (hplan : planned.find? i = some d)
    (hd : b.displayCrtcs.contains d = false) :
    findPipe p planned b i =
      match (p.candidates c).find? (fun x => !b.hasEncoder x.1 && !b.hasCrtc x.2) with
      | some x => .ok (d, ⟨i, x.1, x.2⟩)
      | none => .error (.noSuitableEncoder c.id d) := by
  have hrange : ∀ j ∈ (p.encoderCandidates c).filter (!b.hasEncoder ·),
      j < p.encoders.length := by
    intro j hj
    obtain ⟨e, he, -⟩ := exists_of_mem_encoderCandidates (List.mem_filter.1 hj).1
    exact (List.getElem?_eq_some_iff.1 he).1
  simp only [findPipe, hc, hplan]
  rw [toList_append_otherEncoders, firstFit_eq hd hrange, find?_candidates]
  cases (((p.encoderCandidates c).filter (!b.hasEncoder ·)).flatMap p.linksThrough).find?
    (!b.hasCrtc ·.2) <;> rfl

end Routing

end Scanout
