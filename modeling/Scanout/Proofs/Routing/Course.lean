/-
**The course of a run.**

Once ids are planned, a run goes from connector to connector and keeps bindings.  It looks up the connector
and its id, tries encoders by their positions, and in the end follows the tables from each display to its
encoder; every one of these lookups has a branch for what cannot be found, and trying an encoder has one for
a display that was bound before.  None of these branches is ever taken.  The reason is the same at every
point: the bindings are those of grants that share nothing, one for each connector that was served.  This
holds at the start, serving a connector adds the grant of a new display, and where the bindings are of this
form whatever comes next is found.

Main definitions:

* `Scanout.Routing.Reached` — the bindings of a run that has served some connectors;
* `Scanout.Routing.Bindings.Traceable` — the tables lead from every bound display to an encoder;
* `Scanout.Routing.Ready` — whatever is looked up for the next connector is there.

Main results:

* `Scanout.Routing.exists_grants_of_reached` — bindings that are reached are those of grants;
* `Scanout.Routing.ready_of_reached`, `Scanout.Routing.traceable_of_reached` — where a run has got to,
  whatever comes next is found;
* `Scanout.Routing.reached_of_serve` — serving passes through bindings that are reached, and stops where
  nothing is found for a connector;
* `Scanout.Routing.assign_misses_nothing` — **no lookup of a run misses**, and a run fails only for want of
  ids or of a link.
-/

import Scanout.Proofs.Routing.Greedy

set_option relaxedAutoImplicit false
set_option autoImplicit false

namespace Scanout

namespace Routing

/-- The bindings of a run that has served the first `m` connectors, one after the other. -/
inductive Reached (p : Problem) (planned : Table Nat DisplayId) : Nat → Bindings → Prop
  | start : Reached p planned 0 .none
  | served {m : Nat} {b : Bindings} {d : DisplayId} {pipe : Pipe} (before : Reached p planned m b)
      (found : findPipe p planned b m = .ok (d, pipe)) : Reached p planned (m + 1) (b.bind d pipe)

/-- From every bound display the tables lead to a CRTC and on to an encoder. -/
def Bindings.Traceable (b : Bindings) : Prop :=
  ∀ x ∈ b.displayConnectors.entries, ∃ crtc encoder,
    b.displayCrtcs.find? x.1 = some crtc ∧ b.crtcEncoders.find? crtc = some encoder

/-- Whatever is looked up for the connector `c` at position `m`, whose display is to be `d`, is there. -/
structure Ready (p : Problem) (planned : Table Nat DisplayId) (b : Bindings) (m : Nat) (c : Connector)
    (d : DisplayId) : Prop where
  connector : p.connectors[m]? = some c
  display : planned.find? m = some d
  /-- The display was not bound before. -/
  unbound : b.displayCrtcs.contains d = false
  /-- The encoders to be tried are there. -/
  encoders : ∀ i ∈ (currentEncoder? p b c).toList ++ otherEncoders p b c,
    ∃ e, p.encoders[i]? = some e
  /-- None of them fails the run. -/
  trials : ∀ i ∈ (currentEncoder? p b c).toList ++ otherEncoders p b c,
    ∀ failure, tryEncoder p b d i ≠ .failed failure
  /-- A CRTC that an encoder is to be driven by is there. -/
  crtcs : ∀ i k, tryEncoder p b d i = .bound k → ∃ crtc, p.crtcs[k]? = some crtc
  /-- What is bound next is the display of the connector, with objects that are there. -/
  bound : ∀ g, findPipe p planned b m = .ok g →
    g.1 = d ∧ g.2.connector = m ∧ ∃ objects, p.resolve? g.2 = some objects
  /-- The search fails for want of a link only. -/
  stuck : ∀ failure, findPipe p planned b m = .error failure → failure = .noSuitableEncoder c.id d

variable {p : Problem} {planned : Table Nat DisplayId} {first : DisplayId} {m : Nat} {b : Bindings}

/-! ### Where a run gets to -/

theorem exists_connector_of_findPipe {g : Grant} (h : findPipe p planned b m = .ok g) :
    ∃ c, p.connectors[m]? = some c := by
  cases hc : p.connectors[m]? with
  | some c => exact ⟨c, rfl⟩
  | none =>
      simp only [findPipe, hc] at h
      cases h

/-- **Bindings that are reached are those of grants**, one for each connector that was served. -/
theorem exists_grants_of_reached (hroom : first.HasRoom p.connectors.length)
    (h : Reached p (plannedIds p.connectors first) m b) : ∃ links : List Link, links.length = m ∧
      m ≤ p.connectors.length ∧ Exclusive (grants p.connectors first links) ∧ Apart links ∧
      b = .ofGrants (grants p.connectors first links) := by
  induction h with
  | start => exact ⟨[], rfl, Nat.zero_le _, exclusive_grants hroom apart_nil (Nat.zero_le _), apart_nil, rfl⟩
  | @served m b d pipe _ found ih =>
      obtain ⟨links, rfl, -, -, hapart, rfl⟩ := ih
      obtain ⟨c, hc⟩ := exists_connector_of_findPipe found
      have hlen : links.length < p.connectors.length := (List.getElem?_eq_some_iff.1 hc).1
      rw [findPipe_ofGrants hroom hc] at found
      cases hx : p.choice? links c with
      | none =>
          rw [hx] at found
          cases found
      | some x =>
          rw [hx] at found
          cases found
          have hapart' : Apart (links ++ [x]) := hapart.concat (Problem.choice?_eq_some hx).2
          have hlen' : (links ++ [x]).length = links.length + 1 := by simp
          have hexclusive := exclusive_grants hroom hapart' (by omega)
          refine ⟨links ++ [x], hlen', hlen, hexclusive, hapart', ?_⟩
          rw [grants_concat] at hexclusive ⊢
          exact Bindings.bind_ofGrants hexclusive

/-! ### What is found there -/

theorem traceable_of_reached (hroom : first.HasRoom p.connectors.length)
    (h : Reached p (plannedIds p.connectors first) m b) : b.Traceable := by
  obtain ⟨links, -, -, hexclusive, -, rfl⟩ := exists_grants_of_reached hroom h
  intro x hx
  obtain ⟨g, hg, rfl⟩ := List.mem_map.1 hx
  have hpipe := Bindings.pipe?_ofGrants hexclusive hg
  simp only [Bindings.pipe?, Option.bind_eq_bind, Option.bind_eq_some_iff] at hpipe
  obtain ⟨crtc, hcrtc, encoder, hencoder, -⟩ := hpipe
  exact ⟨crtc, encoder, hcrtc, hencoder⟩

/-- The encoders that are tried are among the candidates. -/
theorem exists_encoder_of_mem {c : Connector} {i : Nat}
    (hi : i ∈ (currentEncoder? p b c).toList ++ otherEncoders p b c) :
    ∃ e, p.encoders[i]? = some e := by
  rw [toList_append_otherEncoders] at hi
  obtain ⟨e, he, -⟩ := exists_of_mem_encoderCandidates (List.mem_filter.1 hi).1
  exact ⟨e, he⟩

/-- For a new display an encoder that is there ends up with a CRTC that is there, or with none. -/
theorem tryEncoder_cases {d : DisplayId} (hd : b.displayCrtcs.contains d = false) {i : Nat} {e : Encoder}
    (he : p.encoders[i]? = some e) : tryEncoder p b d i = .noneFree ∨
      ∃ k crtc, tryEncoder p b d i = .bound k ∧ p.crtcs[k]? = some crtc := by
  rw [tryEncoder_eq hd he]
  cases hfree : (p.crtcCandidates e).find? (!b.hasCrtc ·) with
  | none => exact .inl rfl
  | some k =>
      obtain ⟨crtc, hcrtc, -⟩ := exists_of_mem_crtcCandidates (List.mem_of_find?_eq_some hfree)
      exact .inr ⟨k, crtc, rfl, hcrtc⟩

/-- An encoder that is not there fails the run, so a trial that ends well is one of an encoder. -/
theorem exists_encoder_of_tryEncoder {d : DisplayId} {i k : Nat} (h : tryEncoder p b d i = .bound k) :
    ∃ e, p.encoders[i]? = some e := by
  cases he : p.encoders[i]? with
  | some e => exact ⟨e, rfl⟩
  | none =>
      simp only [tryEncoder, he] at h
      split at h <;> cases h

/-- **Where a run has got to, whatever comes next is found.** -/
theorem ready_of_reached (hroom : first.HasRoom p.connectors.length)
    (h : Reached p (plannedIds p.connectors first) m b) {c : Connector} (hc : p.connectors[m]? = some c) :
    Ready p (plannedIds p.connectors first) b m c (plannedDisplay p.connectors first m) := by
  obtain ⟨links, rfl, -, -, hapart, rfl⟩ := exists_grants_of_reached hroom h
  have hlen : links.length < p.connectors.length := (List.getElem?_eq_some_iff.1 hc).1
  have hd := not_contains_plannedDisplay hroom hlen
  have hnext := findPipe_ofGrants hroom hc
  constructor
  case connector => exact hc
  case display => exact find?_plannedIds hlen
  case unbound => exact hd
  case encoders => exact fun i hi => exists_encoder_of_mem hi
  case trials =>
      intro i hi failure hfailed
      obtain ⟨e, he⟩ := exists_encoder_of_mem hi
      rcases tryEncoder_cases hd he with hnone | ⟨k, -, hbound, -⟩
      · cases hnone.symm.trans hfailed
      · cases hbound.symm.trans hfailed
  case crtcs =>
      intro i k hbound
      obtain ⟨e, he⟩ := exists_encoder_of_tryEncoder hbound
      rcases tryEncoder_cases hd he with hnone | ⟨k', crtc, hbound', hcrtc⟩
      · cases hnone.symm.trans hbound
      · cases hbound'.symm.trans hbound
        exact ⟨crtc, hcrtc⟩
  case bound =>
      intro g hg
      rw [hnext] at hg
      cases hx : p.choice? links c with
      | none =>
          rw [hx] at hg
          cases hg
      | some x =>
          rw [hx] at hg
          cases hg
          obtain ⟨e, k, he, hk, -⟩ := exists_of_mem_candidates (Problem.choice?_eq_some hx).1
          refine ⟨rfl, rfl, (c, e, k), ?_⟩
          simp only [Problem.resolve?, hc, he, hk, Option.bind_eq_bind, Option.bind_some]
          rfl
  case stuck =>
      intro failure hfailure
      rw [hnext] at hfailure
      cases hx : p.choice? links c with
      | none =>
          rw [hx] at hfailure
          cases hfailure
          rfl
      | some x =>
          rw [hx] at hfailure
          cases hfailure

/-! ### Whole runs -/

/-- Serving passes through bindings that are reached, and stops where the search for a pipe fails. -/
theorem reached_of_serve {n : Nat} : ∀ {m : Nat} {b : Bindings}, Reached p planned m b →
    match serve p planned (List.range' m n) b with
    | .ok b' => Reached p planned (m + n) b'
    | .error failure => ∃ m' b', m' < m + n ∧ Reached p planned m' b' ∧
        findPipe p planned b' m' = .error failure := by
  induction n with
  | zero => exact fun h => h
  | succ n ih =>
      intro m b h
      rw [List.range'_succ, serve]
      cases hfound : findPipe p planned b m with
      | error failure => exact ⟨m, b, by omega, h, hfound⟩
      | ok g =>
          have hrest := ih (h.served hfound)
          rw [Nat.add_right_comm] at hrest
          exact hrest

/-- At the end of a run finishing succeeds. -/
theorem exists_finish_of_reached (hroom : first.HasRoom p.connectors.length)
    (h : Reached p (plannedIds p.connectors first) m b) (next : DisplayId) :
    ∃ a, finish b next = .ok a := by
  obtain ⟨links, -, -, hexclusive, -, rfl⟩ := exists_grants_of_reached hroom h
  exact ⟨_, finish_ofGrants hexclusive next⟩

/-- **No lookup of a run misses.**  A run that can plan its ids goes through bindings where whatever comes
next is found, and ends at the last of them with a routing, or at an earlier one for want of a link. -/
theorem assign_misses_nothing (p : Problem) (first : DisplayId) :
    match plan p first with
    | .error failure => (∃ last, failure = .displayIdsExhausted last) ∧ assign p first = .error failure
    | .ok (planned, next) =>
      (∀ m b, Reached p planned m b → m ≤ p.connectors.length ∧ b.Traceable ∧
        ∀ c, p.connectors[m]? = some c → ∃ d, Ready p planned b m c d) ∧
      match assign p first with
      | .ok a => ∃ b, Reached p planned p.connectors.length b ∧ finish b next = .ok a
      | .error failure => ∃ m b c d, Reached p planned m b ∧ p.connectors[m]? = some c ∧
          findPipe p planned b m = .error failure ∧ failure = .noSuitableEncoder c.id d := by
  by_cases hroom : first.HasRoom p.connectors.length
  · have hplan := plan_eq p first
    rw [if_pos hroom] at hplan
    rw [hplan]
    refine ⟨fun m b h => ?_, ?_⟩
    · obtain ⟨links, -, hm, -⟩ := exists_grants_of_reached hroom h
      exact ⟨hm, traceable_of_reached hroom h, fun c hc => ⟨_, ready_of_reached hroom h hc⟩⟩
    · have hstart : Reached p (plannedIds p.connectors first) 0 .none := .start
      have hserve := reached_of_serve (n := p.connectors.length) hstart
      rw [← List.range_eq_range', Nat.zero_add] at hserve
      have hassign : assign p first =
          serve p (plannedIds p.connectors first) (List.range p.connectors.length) .none >>= fun b =>
            finish b (first.advance p.connectors.length) := by
        rw [assign, hplan]
        rfl
      cases hserved : serve p (plannedIds p.connectors first) (List.range p.connectors.length) .none with
      | ok b =>
          rw [hserved] at hserve hassign
          obtain ⟨a, ha⟩ := exists_finish_of_reached hroom hserve (first.advance p.connectors.length)
          rw [hassign.trans ha]
          exact ⟨b, hserve, ha⟩
      | error failure =>
          rw [hserved] at hserve hassign
          obtain ⟨m, b, hm, hreached, hfailure⟩ := hserve
          have hc : p.connectors[m]? = some p.connectors[m] := List.getElem?_eq_getElem hm
          rw [hassign]
          exact ⟨m, b, _, _, hreached, hc, hfailure,
            (ready_of_reached hroom hreached hc).stuck failure hfailure⟩
  · rw [assign, plan_eq, if_neg hroom]
    exact ⟨⟨_, rfl⟩, rfl⟩

/-- A run on two screens reaches the second one with the first one bound, and all is there to serve it. -/
theorem contended_misses_nothing : ∃ planned next b c d, plan contended .zero = .ok (planned, next) ∧
    Reached contended planned 1 b ∧ b.displayConnectors.size = 1 ∧ b.Traceable ∧
    contended.connectors[1]? = some c ∧ Ready contended planned b 1 c d := by
  have hroom : DisplayId.zero.HasRoom contended.connectors.length := by decide
  have hplan := plan_eq contended .zero
  rw [if_pos hroom] at hplan
  have hfirst : findPipe contended (plannedIds contended.connectors .zero) .none 0 =
      .ok (plannedDisplay contended.connectors .zero 0, ⟨0, 0, 0⟩) :=
    @findPipe_ofGrants _ _ hroom [] _ rfl
  have hreached := Reached.start.served hfirst
  have h := assign_misses_nothing contended .zero
  rw [hplan] at h
  obtain ⟨-, htraceable, hready⟩ := h.1 1 _ hreached
  obtain ⟨d, hd⟩ := hready _ rfl
  exact ⟨_, _, _, _, d, hplan, hreached, rfl, htraceable, rfl, hd⟩

end Routing

end Scanout
