/-
**Problems that grow at the end.**

Connectors are served in kernel order and no choice is taken back, so connectors that come later cannot
change what earlier ones are given.  They can take away their display ids, as a new built-in panel is
numbered first, but among the earlier ones the order stays.  Encoders that come later are candidates after
all others, and a run that succeeds without them never gets that far.  Only a connector that is already
connected to a new encoder would prefer it.

Main definitions:

* `Scanout.Routing.Problem.addConnectors`, `Scanout.Routing.Problem.addEncoders` — a problem with more
  objects at the end;
* `Scanout.Routing.Assignment.AgreeBelow` — two routings drive the first connectors in the same way.

Main results:

* `Scanout.Routing.Problem.walk_append` — a walk goes on from the links of its first part;
* `Scanout.Routing.greedy_addConnectors` — a walk through more connectors ends early where the shorter one
  does;
* `Scanout.Routing.assign_keeps_earlier` — **later connectors never influence earlier ones**;
* `Scanout.Routing.Problem.candidates_addEncoders` — new encoders are candidates after all others;
* `Scanout.Routing.assign_ignores_spare_encoders` — **new encoders never disturb a routing**.
-/

import Scanout.Proofs.Routing.Indifference

set_option relaxedAutoImplicit false
set_option autoImplicit false

namespace Scanout

namespace Routing

/-- The problem with more connectors at the end. -/
def Problem.addConnectors (p : Problem) (later : List Connector) : Problem :=
  { p with connectors := p.connectors ++ later }

/-- The problem with more encoders at the end. -/
def Problem.addEncoders (p : Problem) (spare : List Encoder) : Problem :=
  { p with encoders := p.encoders ++ spare }

/-! ### Walks in two parts -/

/-- A walk goes on from the links of its first part. -/
theorem Problem.walk_append (p : Problem) (xs ys : List Connector) : ∀ taken : List Link,
    p.walk (xs ++ ys) taken = p.walk xs taken >>= p.walk ys := by
  induction xs with
  | nil => exact fun _ => rfl
  | cons c xs ih =>
      intro taken
      rw [List.cons_append, walk, walk]
      cases p.choice? taken c with
      | none => rfl
      | some x => exact ih (taken ++ [x])

/-- Either the first connectors are served, and the walk goes on from their links, or it ends at one of
them. -/
theorem greedy_addConnectors (p : Problem) (later : List Connector) :
    (∃ links, p.greedy = .ok links ∧
      (p.addConnectors later).greedy = (p.addConnectors later).walk later links) ∨
    (∃ c d i, c.id = d.id ∧ p.greedy = .error (c, i) ∧
      (p.addConnectors later).greedy = .error (d, i)) := by
  have hwalk : (p.addConnectors later).greedy =
      (p.addConnectors later).walk p.connectors [] >>= (p.addConnectors later).walk later :=
    Problem.walk_append _ p.connectors later []
  -- the candidates of a connector do not depend on what other connectors there are
  have hcandidates : List.Forall₂ (fun c d => c.id = d.id ∧
      p.candidates c = (p.addConnectors later).candidates d) p.connectors p.connectors :=
    List.forall₂_same.2 fun _ _ => ⟨rfl, rfl⟩
  have hend : SameEnd p.greedy ((p.addConnectors later).walk p.connectors []) :=
    Problem.walk_congr hcandidates []
  rw [hwalk]
  generalize p.greedy = before, (p.addConnectors later).walk p.connectors [] = first at hend
  cases hend with
  | done links => exact .inl ⟨links, rfl, rfl⟩
  | stuck hid i => exact .inr ⟨_, _, i, hid, rfl, rfl⟩

/-! ### Later connectors -/

/-- Two routings drive the first `n` connectors in the same way and display them in the same order. -/
structure Assignment.AgreeBelow (n : Nat) (a b : Assignment) : Prop where
  /-- Each connector is driven through the same encoder and CRTC. -/
  pipes : ∀ i < n, ∃ d e pipe, a.grantOf? i = some (d, pipe) ∧ b.grantOf? i = some (e, pipe)
  order : ∀ i < n, ∀ j < n, ∀ d d' e e', a.displayOf? i = some d → a.displayOf? j = some d' →
    b.displayOf? i = some e → b.displayOf? j = some e' → (d < d' ↔ e < e')

section Later

variable {xs ys : List Connector} {first : DisplayId} {links new : List Link}

/-- Display ids compare as the pairs of class and position do. -/
theorem plannedDisplay_lt_iff (hroom : first.HasRoom xs.length) {i j : Nat} {c d : Connector}
    (hc : xs[i]? = some c) (hd : xs[j]? = some d) :
    plannedDisplay xs first i < plannedDisplay xs first j ↔ toLex (c.rank, i) < toLex (d.rank, j) := by
  rw [← (displayOrder_orderedByClass xs).before_iff i j c d hc hd, DisplayId.lt_iff_toNat,
    toNat_plannedDisplay hroom, toNat_plannedDisplay hroom]
  omega

/-- More connectors at the end leave the order of the first ones. -/
theorem plannedDisplay_append_lt_iff (hroom : first.HasRoom (xs ++ ys).length) {i j : Nat}
    (hi : i < xs.length) (hj : j < xs.length) :
    plannedDisplay (xs ++ ys) first i < plannedDisplay (xs ++ ys) first j ↔
      plannedDisplay xs first i < plannedDisplay xs first j := by
  have hc : xs[i]? = some xs[i] := List.getElem?_eq_getElem hi
  have hd : xs[j]? = some xs[j] := List.getElem?_eq_getElem hj
  have hc' : (xs ++ ys)[i]? = some xs[i] := (List.getElem?_append_left hi).trans hc
  have hd' : (xs ++ ys)[j]? = some xs[j] := (List.getElem?_append_left hj).trans hd
  rw [plannedDisplay_lt_iff hroom hc' hd', plannedDisplay_lt_iff (hroom.mono (by simp)) hc hd]

theorem agreeBelow_ofGrants (hroom : first.HasRoom (xs ++ ys).length)
    (hxs : Exclusive (grants xs first links)) (hys : Exclusive (grants (xs ++ ys) first (links ++ new)))
    (hlen : links.length = xs.length) (next next' : DisplayId) :
    (Assignment.ofGrants (grants xs first links) next).AgreeBelow xs.length
      (.ofGrants (grants (xs ++ ys) first (links ++ new)) next') := by
  have hold : ∀ i < xs.length, ∃ x, links[i]? = some x ∧ (links ++ new)[i]? = some x := by
    intro i hi
    have hlt : i < links.length := hlen ▸ hi
    exact ⟨links[i], List.getElem?_eq_getElem hlt,
      (List.getElem?_append_left hlt).trans (List.getElem?_eq_getElem hlt)⟩
  constructor
  case pipes =>
      intro i hi
      obtain ⟨x, hx, hx'⟩ := hold i hi
      refine ⟨plannedDisplay xs first i, plannedDisplay (xs ++ ys) first i, ⟨i, x.1, x.2⟩, ?_, ?_⟩
      · rw [grantOf?_ofGrants_grants hxs, hx, Option.map_some]
      · rw [grantOf?_ofGrants_grants hys, hx', Option.map_some]
  case order =>
      intro i hi j hj d d' e e' hd hd' he he'
      obtain ⟨x, hx, hx'⟩ := hold i hi
      obtain ⟨y, hy, hy'⟩ := hold j hj
      simp only [displayOf?_ofGrants_grants, hx, hx', hy, hy', Option.map_some,
        Option.some.injEq] at hd hd' he he'
      subst hd hd' he he'
      exact (plannedDisplay_append_lt_iff hroom hi hj).symm

end Later

/-- **Later connectors never influence earlier ones.**  When all connectors are served, the first ones
alone are served in the same way; when the first ones alone cannot be served, neither can all. -/
theorem assign_keeps_earlier (p : Problem) (later : List Connector) {first : DisplayId}
    (hroom : first.HasRoom (p.connectors.length + later.length)) :
    (∀ a, assign (p.addConnectors later) first = .ok a →
      ∃ b, assign p first = .ok b ∧ b.AgreeBelow p.connectors.length a) ∧
    ∀ id d, assign p first = .error (.noSuitableEncoder id d) →
      ∃ e, assign (p.addConnectors later) first = .error (.noSuitableEncoder id e) := by
  have hall : first.HasRoom (p.addConnectors later).connectors.length := by
    rwa [Problem.addConnectors, List.length_append]
  have hfew : first.HasRoom p.connectors.length := hroom.mono (Nat.le_add_right _ _)
  rcases greedy_addConnectors p later with ⟨links, hp, hwhole⟩ | ⟨c, d, i, hid, hp, hwhole⟩
  · constructor
    · intro a ha
      obtain ⟨-, links', hgreedy, rfl⟩ := assign_eq_ok_iff.1 ha
      refine ⟨_, assign_eq_ok_iff.2 ⟨hfew, links, hp, rfl⟩, ?_⟩
      obtain ⟨hlen, -⟩ := Problem.greedy_eq_ok_iff.1 hp
      obtain ⟨hlen', -⟩ := Problem.greedy_eq_ok_iff.1 hgreedy
      have hapart' := Problem.apart_of_walk apart_nil hgreedy
      rw [hwhole] at hgreedy
      obtain ⟨new, rfl, -⟩ := Problem.walk_eq_ok_iff.1 hgreedy
      exact agreeBelow_ofGrants hall
        (exclusive_grants hfew (Problem.apart_of_walk apart_nil hp) hlen.le)
        (exclusive_grants hall hapart' hlen'.le) hlen _ _
    · intro id d hfail
      rw [assign_eq, if_pos hfew, hp] at hfail
      cases hfail
  · constructor
    · intro a ha
      obtain ⟨-, links, hgreedy, -⟩ := assign_eq_ok_iff.1 ha
      rw [hwhole] at hgreedy
      cases hgreedy
    · intro id e hfail
      rw [assign_of_stuck hfew hp] at hfail
      cases hfail
      rw [assign_of_stuck hall hwhole, hid]
      exact ⟨_, rfl⟩

/-- The docked screens before the lid is opened: there is no lit panel yet. -/
def closed : Problem := { docked with connectors := docked.connectors.take 2 }

/-- The panel that comes last. -/
def lid : List Connector := docked.connectors.drop 2

/-- The same screens with a single CRTC. -/
def starved : Problem := { closed with crtcs := docked.crtcs.take 1 }

/-- The panel is numbered first, and the other screens are driven as before.  With a single CRTC the second
screen gets none, whether there is a panel or not. -/
theorem lid_keeps_earlier : closed.addConnectors lid = docked ∧
    (⟨7⟩ : DisplayId).HasRoom (closed.connectors.length + lid.length) ∧
    (∃ a b, assign docked ⟨7⟩ = .ok a ∧ assign closed ⟨7⟩ = .ok b ∧ b.AgreeBelow 2 a) ∧
    ∃ d e, assign starved ⟨7⟩ = .error (.noSuitableEncoder 41 d) ∧
      assign (starved.addConnectors lid) ⟨7⟩ = .error (.noSuitableEncoder 41 e) := by
  have hroom : (⟨7⟩ : DisplayId).HasRoom (closed.connectors.length + lid.length) := by decide
  have hgreedy : docked.greedy = .ok [(0, 0), (1, 1), (2, 2)] := rfl
  have hdocked := assign_eq_ok_iff.2 ⟨hroom, _, hgreedy, rfl⟩
  have hstuck : starved.greedy = .error (docked.connectors[1], 1) := rfl
  have hstarved := assign_of_stuck (hroom.mono (by decide)) hstuck
  obtain ⟨b, hclosed, hagree⟩ := (assign_keeps_earlier closed lid hroom).1 _ hdocked
  obtain ⟨e, hall⟩ := (assign_keeps_earlier starved lid hroom).2 _ _ hstarved
  exact ⟨rfl, hroom, ⟨_, b, hdocked, hclosed, hagree⟩, _, e, hstarved, hall⟩

/-! ### Spare encoders -/

namespace Problem

variable {p : Problem} {spare : List Encoder} {c : Connector}

theorem linksThrough_addEncoders {i : Nat} (hi : i < p.encoders.length) :
    (p.addEncoders spare).linksThrough i = p.linksThrough i := by
  have he : (p.addEncoders spare).encoders[i]? = p.encoders[i]? := List.getElem?_append_left hi
  rw [linksThrough, linksThrough, he]
  rfl

variable (hlinks : ∀ e ∈ spare, c.currentEncoder = some e.id → ∃ e' ∈ p.encoders, e'.id = e.id)

include hlinks

/-- The encoder a connector is connected to is still the first one with its id. -/
theorem bind_encoderAt?_addEncoders :
    c.currentEncoder.bind (p.addEncoders spare).encoderAt? = c.currentEncoder.bind p.encoderAt? := by
  cases hc : c.currentEncoder with
  | none => rfl
  | some id =>
      have hsplit : (p.addEncoders spare).encoderAt? id = (p.encoderAt? id).or
          ((spare.findIdx? (·.id = id)).map (· + p.encoders.length)) := List.findIdx?_append
      rw [Option.bind_some, Option.bind_some, hsplit]
      cases hold : p.encoderAt? id with
      | some i => rfl
      | none =>
          -- no old encoder has the id, so no new one may have it either
          have hnone : spare.findIdx? (·.id = id) = none := by
            refine List.findIdx?_eq_none_iff.2 fun e he => decide_eq_false fun hid => ?_
            obtain ⟨e', he', hid'⟩ := hlinks e he (hc.trans (congrArg some hid.symm))
            have hother := List.findIdx?_eq_none_iff.1 hold e' he'
            exact of_decide_eq_false hother (hid'.trans hid)
          rw [hnone]
          rfl

theorem encoderCandidates_addEncoders :
    ∃ more, (p.addEncoders spare).encoderCandidates c = p.encoderCandidates c ++ more := by
  simp only [encoderCandidates, bind_encoderAt?_addEncoders hlinks]
  simp only [addEncoders, List.zipIdx_append, List.filter_append, List.map_append,
    ← List.append_assoc]
  exact ⟨_, rfl⟩

/-- New encoders are candidates after all others. -/
theorem candidates_addEncoders :
    ∃ more, (p.addEncoders spare).candidates c = p.candidates c ++ more := by
  obtain ⟨more, hmore⟩ := encoderCandidates_addEncoders hlinks
  have hsame : (p.encoderCandidates c).flatMap (p.addEncoders spare).linksThrough =
      p.candidates c := by
    refine List.flatMap_congr fun i hi => linksThrough_addEncoders ?_
    obtain ⟨e, he, -⟩ := exists_of_mem_encoderCandidates hi
    exact (List.getElem?_eq_some_iff.1 he).1
  exact ⟨_, by rw [candidates, hmore, List.flatMap_append, hsame]⟩

/-- A connector that had a choice keeps it. -/
theorem choice?_addEncoders {taken : List Link} {x : Link} (h : p.choice? taken c = some x) :
    (p.addEncoders spare).choice? taken c = some x := by
  obtain ⟨more, hmore⟩ := candidates_addEncoders hlinks
  rw [choice?] at h
  rw [choice?, hmore, List.find?_append, h, Option.some_or]

end Problem

/-- **New encoders never disturb a routing**, unless a connector is already connected to one of them. -/
theorem assign_ignores_spare_encoders {p : Problem} {spare : List Encoder} {first : DisplayId}
    {a : Assignment}
    (hlinks : ∀ c ∈ p.connectors, ∀ e ∈ spare, c.currentEncoder = some e.id →
      ∃ e' ∈ p.encoders, e'.id = e.id)
    (h : assign p first = .ok a) : assign (p.addEncoders spare) first = .ok a := by
  obtain ⟨hroom, links, hgreedy, rfl⟩ := assign_eq_ok_iff.1 h
  obtain ⟨hlen, hchoice⟩ := Problem.greedy_eq_ok_iff.1 hgreedy
  refine assign_eq_ok_iff.2 ⟨hroom, links, Problem.greedy_eq_ok_iff.2 ⟨hlen, ?_⟩, rfl⟩
  intro i c hc
  have hi : i < links.length := hlen ▸ (List.getElem?_eq_some_iff.1 hc).1
  have hx : links[i]? = some links[i] := List.getElem?_eq_getElem hi
  rw [hx, Problem.choice?_addEncoders (hlinks c (List.mem_of_getElem? hc))
    ((hchoice i c hc).symm.trans hx)]

/-- One screen is already lit through the first encoder, and both can use the one with id `33`. -/
def halfLit : Problem where
  connectors := [⟨40, 0, .hdmiA, 1, .connected, some 30, [33, 30], 0⟩,
    ⟨41, 1, .hdmiA, 2, .connected, none, [33, 31], 0⟩]
  encoders := [⟨30, 0, some 20, 1⟩, ⟨31, 1, none, 2⟩]
  crtcs := [⟨20, 0, none, 0, 0⟩, ⟨21, 1, none, 0, 0⟩]

/-- An encoder that both screens list and that is tied to a CRTC one of them needs, and one with an id that
there is already. -/
def boughtIn : List Encoder := [⟨33, 2, some 21, 3⟩, ⟨30, 3, some 21, 3⟩]

theorem halfLit_ignores_spare_encoders :
    (∀ c ∈ halfLit.connectors, ∀ e ∈ boughtIn, c.currentEncoder = some e.id →
      ∃ e' ∈ halfLit.encoders, e'.id = e.id) ∧
    ∃ a, assign halfLit ⟨7⟩ = .ok a ∧ assign (halfLit.addEncoders boughtIn) ⟨7⟩ = .ok a := by
  have hlinks : ∀ c ∈ halfLit.connectors, ∀ e ∈ boughtIn, c.currentEncoder = some e.id →
      ∃ e' ∈ halfLit.encoders, e'.id = e.id := by decide
  have hgreedy : halfLit.greedy = .ok [(0, 0), (1, 1)] := rfl
  have h := assign_eq_ok_iff.2
    ⟨show (⟨7⟩ : DisplayId).HasRoom halfLit.connectors.length by decide, _, hgreedy, rfl⟩
  exact ⟨hlinks, _, h, assign_ignores_spare_encoders hlinks h⟩

end Routing

end Scanout
