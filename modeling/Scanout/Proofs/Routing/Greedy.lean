/-
**Routing is greedy.**

A run keeps four tables, tries the current encoder on a path of its own and skips candidates for
several reasons.  What comes out can be said without any of that: walk through the connectors in
kernel order and give each the first of its candidates neither member of which was given before.
Display ids play no part in the choice; they only have to fit into the id space.

Main definitions:

* `Scanout.Routing.Problem.choice?` — the first free candidate of a connector;
* `Scanout.Routing.Problem.walk`, `Scanout.Routing.Problem.greedy` — the walk through connectors;
* `Scanout.Routing.grants` — the grants of a walk.

Main results:

* `Scanout.Routing.Problem.greedy_eq_ok_iff` — what a successful walk gives, connector by connector;
* `Scanout.Routing.Problem.apart_of_walk` — no encoder and no CRTC is given twice;
* `Scanout.Routing.serve_eq_walk` — serving connectors is walking through them;
* `Scanout.Routing.assign_eq` — **a run is a greedy walk**, with its display ids;
* `Scanout.Routing.assign_serves_greedily` — the pipes of a run and the connector it fails at.
-/

import Scanout.Proofs.Routing.Bindings
import Scanout.Proofs.Routing.Candidates
import Scanout.Proofs.Routing.Numbering

set_option relaxedAutoImplicit false
set_option autoImplicit false

namespace Scanout

namespace Routing

/-! ### The walk -/

/-- No taken link has the encoder or the CRTC of a link. -/
def isFree (taken : List Link) (x : Link) : Bool :=
  !(taken.map (·.1)).contains x.1 && !(taken.map (·.2)).contains x.2

/-- No encoder and no CRTC occurs twice in some links. -/
structure Apart (links : List Link) : Prop where
  encoders : (links.map (·.1)).Nodup
  crtcs : (links.map (·.2)).Nodup

theorem apart_nil : Apart [] := ⟨.nil, .nil⟩

theorem Apart.concat {links : List Link} {x : Link} (h : Apart links)
    (hx : isFree links x = true) : Apart (links ++ [x]) := by
  simp only [isFree, Bool.and_eq_true, Bool.not_eq_true', List.contains_eq_mem,
    decide_eq_false_iff_not] at hx
  constructor
  · rw [List.map_append, List.map_singleton, List.nodup_append_comm]
    exact List.nodup_cons.2 ⟨hx.1, h.encoders⟩
  · rw [List.map_append, List.map_singleton, List.nodup_append_comm]
    exact List.nodup_cons.2 ⟨hx.2, h.crtcs⟩

/-- A link that is apart from those before it is free. -/
theorem Apart.isFree_take {links : List Link} (h : Apart links) {i : Nat} {x : Link}
    (hx : links[i]? = some x) : isFree (links.take i) x = true := by
  obtain ⟨hi, rfl⟩ := List.getElem?_eq_some_iff.1 hx
  have hnew : ∀ (f : Link → Nat), (links.map f).Nodup → f links[i] ∉ (links.take i).map f := by
    intro f hnodup hmem
    rw [← List.take_append_drop i links, List.drop_eq_getElem_cons hi, List.map_append,
      List.map_cons, List.nodup_append] at hnodup
    exact hnodup.2.2 _ hmem _ List.mem_cons_self rfl
  simp only [isFree, Bool.and_eq_true, Bool.not_eq_true', List.contains_eq_mem,
    decide_eq_false_iff_not]
  exact ⟨hnew _ h.encoders, hnew _ h.crtcs⟩

namespace Problem

/-- The first candidate of a connector that is free. -/
def choice? (p : Problem) (taken : List Link) (c : Connector) : Option Link :=
  (p.candidates c).find? (isFree taken)

/-- Gives each of some connectors its choice; stops at the first that has none and tells its position,
which is the number of links given so far. -/
def walk (p : Problem) : List Connector → List Link → Except (Connector × Nat) (List Link)
  | [], taken => .ok taken
  | c :: rest, taken =>
    match p.choice? taken c with
    | none => .error (c, taken.length)
    | some x => p.walk rest (taken ++ [x])

/-- Gives each connector its choice. -/
def greedy (p : Problem) : Except (Connector × Nat) (List Link) := p.walk p.connectors []

variable {p : Problem}

theorem choice?_eq_some {taken : List Link} {c : Connector} {x : Link}
    (h : p.choice? taken c = some x) : x ∈ p.candidates c ∧ isFree taken x = true :=
  ⟨List.mem_of_find?_eq_some h, List.find?_some h⟩

/-- What a walk gives, connector by connector. -/
theorem walk_eq_ok_iff {rest : List Connector} : ∀ {taken links : List Link},
    p.walk rest taken = .ok links ↔ ∃ new, links = taken ++ new ∧ new.length = rest.length ∧
      ∀ (i : Nat) (c : Connector), rest[i]? = some c →
        new[i]? = p.choice? (taken ++ new.take i) c := by
  induction rest with
  | nil =>
      intro taken links
      simp only [walk, Except.ok.injEq]
      constructor
      · rintro rfl
        exact ⟨[], by simp, rfl, by simp⟩
      · rintro ⟨new, rfl, hlen, -⟩
        rw [List.length_eq_zero_iff.1 hlen, List.append_nil]
  | cons c rest ih =>
      intro taken links
      rw [walk]
      cases hx : p.choice? taken c with
      | none =>
          -- no list of new links could answer for the first connector
          simp only [reduceCtorEq, false_iff, not_exists, not_and]
          intro new _ hlen hnew
          have hhead := hnew 0 c rfl
          rw [List.take_zero, List.append_nil, hx, List.getElem?_eq_none_iff, hlen] at hhead
          exact absurd hhead (by simp)
      | some x =>
          simp only [ih]
          constructor
          · rintro ⟨new, rfl, hlen, hnew⟩
            refine ⟨x :: new, by simp, by simp [hlen], fun i c' hc' => ?_⟩
            cases i with
            | zero =>
                cases hc'
                simp [hx]
            | succ i => simpa using hnew i c' hc'
          · rintro ⟨new, rfl, hlen, hnew⟩
            cases new with
            | nil => simp at hlen
            | cons y new =>
                have hy : y = x := by simpa [hx] using hnew 0 c rfl
                subst hy
                refine ⟨new, by simp, by simpa using hlen, fun i c' hc' => ?_⟩
                simpa using hnew (i + 1) c' hc'

theorem greedy_eq_ok_iff {links : List Link} :
    p.greedy = .ok links ↔ links.length = p.connectors.length ∧
      ∀ (i : Nat) (c : Connector), p.connectors[i]? = some c →
        links[i]? = p.choice? (links.take i) c := by
  rw [greedy, walk_eq_ok_iff]
  constructor
  · rintro ⟨new, rfl, h⟩
    simpa using h
  · intro h
    exact ⟨links, rfl, by simpa using h⟩

/-- A walk never gives an encoder or a CRTC twice. -/
theorem apart_of_walk {rest : List Connector} : ∀ {taken links : List Link}, Apart taken →
    p.walk rest taken = .ok links → Apart links := by
  induction rest with
  | nil =>
      rintro taken links htaken h
      cases h
      exact htaken
  | cons c rest ih =>
      intro taken links htaken h
      rw [walk] at h
      cases hx : p.choice? taken c with
      | none => simp [hx] at h
      | some x =>
          simp only [hx] at h
          exact ih (htaken.concat (choice?_eq_some hx).2) h

/-- A walk fails at a connector, and tells its position. -/
theorem walk_eq_error {rest : List Connector} : ∀ {taken : List Link} {c : Connector} {i : Nat},
    p.connectors.drop taken.length = rest → p.walk rest taken = .error (c, i) →
      p.connectors[i]? = some c := by
  induction rest with
  | nil =>
      intro taken c i _ h
      cases h
  | cons c' rest ih =>
      intro taken c i hrest h
      rw [walk] at h
      cases hx : p.choice? taken c' with
      | none =>
          simp only [hx, Except.error.injEq, Prod.mk.injEq] at h
          rw [← h.1, ← h.2, ← List.head?_drop, hrest]
          rfl
      | some x =>
          simp only [hx] at h
          refine ih ?_ h
          rw [List.length_append, List.length_singleton, ← List.tail_drop, hrest, List.tail_cons]

theorem greedy_eq_error {c : Connector} {i : Nat} (h : p.greedy = .error (c, i)) :
    p.connectors[i]? = some c := by
  have hrest : p.connectors.drop ([] : List Link).length = p.connectors := rfl
  exact walk_eq_error hrest h

end Problem

/-! ### Grants -/

/-- What displays get when the connectors, in kernel order, are given some links. -/
def grants (connectors : List Connector) (first : DisplayId) (links : List Link) : List Grant :=
  links.zipIdx.map fun (x, i) => (plannedDisplay connectors first i, ⟨i, x.1, x.2⟩)

section Grants

variable {connectors : List Connector} {first : DisplayId} {links : List Link}

theorem mem_grants {d : DisplayId} {pipe : Pipe} :
    (d, pipe) ∈ grants connectors first links ↔
      d = plannedDisplay connectors first pipe.connector ∧
        links[pipe.connector]? = some (pipe.encoder, pipe.crtc) := by
  simp only [grants, List.mem_map, List.mem_zipIdx_iff_getElem?, Prod.exists, Prod.mk.injEq]
  constructor
  · rintro ⟨e, k, i, hx, rfl, rfl⟩
    exact ⟨rfl, hx⟩
  · rintro ⟨rfl, hx⟩
    exact ⟨_, _, _, hx, rfl, rfl⟩

theorem map_display_grants : (grants connectors first links).map (·.1) =
    (List.range links.length).map (plannedDisplay connectors first) := by
  rw [List.range_eq_range', ← List.zipIdx_map_snd 0 links, grants, List.map_map, List.map_map]
  rfl

theorem map_connector_grants :
    (grants connectors first links).map (·.2.connector) = List.range links.length := by
  rw [List.range_eq_range', ← List.zipIdx_map_snd 0 links, grants, List.map_map]
  rfl

theorem nodup_connector_grants : ((grants connectors first links).map (·.2.connector)).Nodup := by
  rw [map_connector_grants]
  exact List.nodup_range

theorem map_encoder_grants :
    (grants connectors first links).map (·.2.encoder) = links.map (·.1) := by
  conv_rhs => rw [← List.zipIdx_map_fst 0 links]
  rw [grants, List.map_map, List.map_map]
  rfl

theorem map_crtc_grants : (grants connectors first links).map (·.2.crtc) = links.map (·.2) := by
  conv_rhs => rw [← List.zipIdx_map_fst 0 links]
  rw [grants, List.map_map, List.map_map]
  rfl

theorem grants_concat (x : Link) : grants connectors first (links ++ [x]) =
    grants connectors first links ++
      [(plannedDisplay connectors first links.length, ⟨links.length, x.1, x.2⟩)] := by
  simp [grants, List.zipIdx_append]

theorem exclusive_grants (hroom : first.HasRoom connectors.length) (h : Apart links)
    (hlen : links.length ≤ connectors.length) : Exclusive (grants connectors first links) where
  displays := by
    rw [map_display_grants]
    refine List.nodup_range.map_on fun i hi j _ hij => ?_
    rw [List.mem_range] at hi
    exact plannedDisplay_inj hroom (by omega) hij
  encoders := by
    rw [map_encoder_grants]
    exact h.encoders
  crtcs := by
    rw [map_crtc_grants]
    exact h.crtcs

end Grants

/-! ### Serving is walking -/

variable {p : Problem} {first : DisplayId}

/-- With the bindings of a walk, what is not taken is what is free. -/
theorem not_hasEncoder_and_not_hasCrtc {connectors : List Connector} {links : List Link}
    (x : Link) :
    (!(Bindings.ofGrants (grants connectors first links)).hasEncoder x.1 &&
      !(Bindings.ofGrants (grants connectors first links)).hasCrtc x.2) = isFree links x := by
  have hencoder : (Bindings.ofGrants (grants connectors first links)).hasEncoder x.1 =
      (links.map (·.1)).contains x.1 := by
    rw [Bool.eq_iff_iff, Bindings.hasEncoder_ofGrants, map_encoder_grants, List.contains_iff_mem]
  have hcrtc : (Bindings.ofGrants (grants connectors first links)).hasCrtc x.2 =
      (links.map (·.2)).contains x.2 := by
    rw [Bool.eq_iff_iff, Bindings.hasCrtc_ofGrants, map_crtc_grants, List.contains_iff_mem]
  rw [hencoder, hcrtc, isFree]

/-- The display of the next connector is new, because its position is past those of all grants. -/
theorem not_contains_plannedDisplay (hroom : first.HasRoom p.connectors.length) {links : List Link}
    (hlen : links.length < p.connectors.length) :
    (Bindings.ofGrants (grants p.connectors first links)).displayCrtcs.contains
      (plannedDisplay p.connectors first links.length) = false := by
  rw [Bool.eq_false_iff, Bindings.ofGrants, ne_eq, Table.contains_ofList, map_display_grants]
  intro hmem
  obtain ⟨i, hi, hdisplay⟩ := List.mem_map.1 hmem
  rw [List.mem_range] at hi
  have := plannedDisplay_inj hroom (by omega) hdisplay
  omega

/-- The next connector of a walk gets its choice. -/
theorem findPipe_ofGrants (hroom : first.HasRoom p.connectors.length) {links : List Link}
    {c : Connector} (hc : p.connectors[links.length]? = some c) :
    findPipe p (plannedIds p.connectors first) (.ofGrants (grants p.connectors first links))
        links.length =
      match p.choice? links c with
      | some x => .ok (plannedDisplay p.connectors first links.length, ⟨links.length, x.1, x.2⟩)
      | none => .error (.noSuitableEncoder c.id
          (plannedDisplay p.connectors first links.length)) := by
  have hlen : links.length < p.connectors.length := (List.getElem?_eq_some_iff.1 hc).1
  rw [findPipe_eq hc (find?_plannedIds hlen) (not_contains_plannedDisplay hroom hlen)]
  simp only [not_hasEncoder_and_not_hasCrtc]
  rfl

/-- **Serving connectors is walking through them.** -/
theorem serve_eq_walk (hroom : first.HasRoom p.connectors.length) {rest : List Connector} :
    ∀ (links : List Link), p.connectors.drop links.length = rest → Apart links →
      serve p (plannedIds p.connectors first) (List.range' links.length rest.length)
          (.ofGrants (grants p.connectors first links)) =
        match p.walk rest links with
        | .ok links' => .ok (.ofGrants (grants p.connectors first links'))
        | .error (c, i) =>
          .error (.noSuitableEncoder c.id (plannedDisplay p.connectors first i)) := by
  induction rest with
  | nil => exact fun _ _ _ => rfl
  | cons c rest ih =>
      intro links hrest hapart
      have hc : p.connectors[links.length]? = some c := by
        rw [← List.head?_drop, hrest]
        rfl
      have hlen : links.length < p.connectors.length := (List.getElem?_eq_some_iff.1 hc).1
      rw [List.length_cons, List.range'_succ, serve, findPipe_ofGrants hroom hc, Problem.walk]
      cases hx : p.choice? links c with
      | none => rfl
      | some x =>
          have hapart' : Apart (links ++ [x]) := hapart.concat (Problem.choice?_eq_some hx).2
          have hlen' : (links ++ [x]).length ≤ p.connectors.length := by
            rw [List.length_append, List.length_singleton]
            exact hlen
          have hexclusive := exclusive_grants hroom hapart' hlen'
          rw [grants_concat] at hexclusive
          have hrest' : p.connectors.drop (links ++ [x]).length = rest := by
            rw [List.length_append, List.length_singleton, ← List.tail_drop, hrest, List.tail_cons]
          have hnext := ih (links ++ [x]) hrest' hapart'
          rw [List.length_append, List.length_singleton, grants_concat,
            ← Bindings.bind_ofGrants hexclusive] at hnext
          exact hnext

/-- **A run is a greedy walk**, with its display ids. -/
theorem assign_eq (p : Problem) (first : DisplayId) :
    assign p first =
      if first.HasRoom p.connectors.length then
        match p.greedy with
        | .ok links => .ok (.ofGrants (grants p.connectors first links)
            (first.advance p.connectors.length))
        | .error (c, i) =>
          .error (.noSuitableEncoder c.id (plannedDisplay p.connectors first i))
      else .error (.displayIdsExhausted .last) := by
  rw [assign, plan_eq]
  split
  · next hroom =>
    have hserve := serve_eq_walk hroom [] rfl apart_nil
    rw [List.length_nil, List.drop_zero, ← List.range_eq_range'] at hserve
    change (serve p (plannedIds p.connectors first) (List.range p.connectors.length)
      (.ofGrants (grants p.connectors first [])) >>= fun b => finish b _) = _
    rw [hserve, Problem.greedy]
    cases hwalk : p.walk p.connectors [] with
    | error failure => rfl
    | ok links =>
        obtain ⟨hlen, -⟩ := Problem.greedy_eq_ok_iff.1 hwalk
        exact finish_ofGrants
          (exclusive_grants hroom (Problem.apart_of_walk apart_nil hwalk) (by omega)) _
  · rfl

/-- A run succeeds when its ids fit and the walk succeeds, and then stands for the grants of the
walk. -/
theorem assign_eq_ok_iff {a : Assignment} :
    assign p first = .ok a ↔ first.HasRoom p.connectors.length ∧ ∃ links, p.greedy = .ok links ∧
      a = .ofGrants (grants p.connectors first links) (first.advance p.connectors.length) := by
  rw [assign_eq]
  by_cases hroom : first.HasRoom p.connectors.length
  · rw [if_pos hroom]
    cases p.greedy with
    | error failure => simp
    | ok links =>
        simp only [Except.ok.injEq, hroom, true_and, exists_eq_left']
        exact eq_comm
  · simp [hroom]

/-- A run whose walk ends at a connector fails with the id of that connector and its display. -/
theorem assign_of_stuck (hroom : first.HasRoom p.connectors.length) {c : Connector} {i : Nat}
    (h : p.greedy = .error (c, i)) :
    assign p first = .error (.noSuitableEncoder c.id (plannedDisplay p.connectors first i)) := by
  rw [assign_eq, if_pos hroom, h]

/-- A successful run stands for grants that share nothing, one for each connector. -/
theorem exists_grants_of_assign {a : Assignment} (h : assign p first = .ok a) :
    ∃ links, p.greedy = .ok links ∧ links.length = p.connectors.length ∧
      Exclusive (grants p.connectors first links) ∧
      a = .ofGrants (grants p.connectors first links) (first.advance p.connectors.length) := by
  obtain ⟨hroom, links, hgreedy, rfl⟩ := assign_eq_ok_iff.1 h
  obtain ⟨hlen, -⟩ := Problem.greedy_eq_ok_iff.1 hgreedy
  have hapart := Problem.apart_of_walk apart_nil hgreedy
  exact ⟨links, hgreedy, hlen, exclusive_grants hroom hapart (by omega), rfl⟩

/-- **A run gives every connector its greedy choice**, or fails at the first connector, in kernel
order, that is left without one. -/
theorem assign_serves_greedily (p : Problem) (first : DisplayId)
    (hroom : first.HasRoom p.connectors.length) :
    match p.greedy with
    | .ok links => links.length = p.connectors.length ∧ ∃ a, assign p first = .ok a ∧
        (a.pipes.map (·.2)).Perm (links.zipIdx.map fun (x, i) => ⟨i, x.1, x.2⟩)
    | .error (c, i) => p.connectors[i]? = some c ∧
        assign p first = .error (.noSuitableEncoder c.id (plannedDisplay p.connectors first i)) := by
  have hassign := assign_eq p first
  rw [if_pos hroom] at hassign
  cases hgreedy : p.greedy with
  | error failure =>
      simp only [hgreedy] at hassign
      exact ⟨Problem.greedy_eq_error hgreedy, hassign⟩
  | ok links =>
      simp only [hgreedy] at hassign
      refine ⟨(Problem.greedy_eq_ok_iff.1 hgreedy).1, _, hassign, ?_⟩
      refine ((inDisplayOrder_perm _).map Prod.snd).trans (List.Perm.of_eq ?_)
      rw [grants, List.map_map]
      rfl

/-- Two screens: the first is lit through encoder 30, the second is connected to encoder 31, which has
no CRTC left. -/
def contended : Problem where
  connectors := [⟨40, 0, .embeddedDisplayPort, 1, .connected, some 30, [30], 0⟩,
    ⟨41, 1, .displayPort, 1, .connected, some 31, [31, 32], 0⟩]
  encoders := [⟨30, 0, none, 1⟩, ⟨31, 1, none, 1⟩, ⟨32, 2, none, 2⟩]
  crtcs := [⟨20, 0, none, 0, 0⟩, ⟨21, 1, none, 0, 0⟩]

/-- The second screen falls back to encoder 32. -/
theorem contended_serves_greedily : DisplayId.zero.HasRoom contended.connectors.length ∧
    contended.greedy = .ok [(0, 0), (2, 1)] ∧ ∃ a, assign contended .zero = .ok a ∧
      (a.pipes.map (·.2)).Perm [⟨0, 0, 0⟩, ⟨1, 2, 1⟩] := by
  have hgreedy : contended.greedy = .ok [(0, 0), (2, 1)] := rfl
  have h := assign_serves_greedily contended .zero (by decide)
  rw [hgreedy] at h
  exact ⟨by decide, hgreedy, h.2⟩

end Routing

end Scanout
