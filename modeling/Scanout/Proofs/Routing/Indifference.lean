/-
**What routing does not look at.**

Interfaces and connection states decide which display ids connectors get, and with them the keys of the
tables that a run keeps.  They play no part in which encoder and CRTC a connector is given, and neither do
positions of connectors and encoders in the kernel's lists, modes and properties.  The candidates of a
connector are read off ids, links, lists of encoders and masks; a walk reads candidates only, and of a
connector that gets nothing it tells the id.  So two runs on problems that agree in these end alike,
whatever ids they hand out.

Main definitions:

* `Scanout.Routing.SameWiring` — two problems agree in all that candidates are read off;
* `Scanout.Routing.SameEnd` — two walks end alike;
* `Scanout.Routing.AlikeUpTo` — two runs end alike, up to display ids;
* `Scanout.Routing.Shifted` — ids of two runs differ by the distance of the first ones.

Main results:

* `Scanout.Routing.SameWiring.candidates_eq` — connectors that are wired alike have the same candidates;
* `Scanout.Routing.Problem.walk_congr` — walks through connectors with the same candidates end alike;
* `Scanout.Routing.assign_congr` — from one first id, problems that are wired alike are routed alike if
  their connectors have the same classes;
* `Scanout.Routing.plannedDisplay_sub` — among equal classes, ids differ by the distance of the first ones;
* `Scanout.Routing.assign_ignores_numbering` — **routing depends on the wiring alone**.
-/

import Mathlib.Data.List.Forall2
import Scanout.Proofs.Routing.Displays

set_option relaxedAutoImplicit false
set_option autoImplicit false

namespace Scanout

namespace Routing

/-! ### Lists that agree position by position -/

section Lists

variable {α β : Type} {R : α → β → Prop} {xs : List α} {ys : List β}

theorem forall₂_of_map_eq {γ : Type} {f : α → γ} {g : β → γ} (h : xs.map f = ys.map g) :
    List.Forall₂ (fun x y => f x = g y) xs ys := by
  rw [← List.forall₂_eq_eq_eq, List.forall₂_map_left_iff, List.forall₂_map_right_iff] at h
  exact h

theorem getElem?_of_forall₂ (h : List.Forall₂ R xs ys) : ∀ i : Nat,
    (xs[i]? = none ∧ ys[i]? = none) ∨ ∃ a b, xs[i]? = some a ∧ ys[i]? = some b ∧ R a b := by
  induction h with
  | nil => exact fun i => .inl ⟨rfl, rfl⟩
  | cons hab _ ih =>
      intro i
      cases i with
      | zero => exact .inr ⟨_, _, rfl, rfl, hab⟩
      | succ i => simpa using ih i

theorem findIdx?_of_forall₂ (h : List.Forall₂ R xs ys) {f : α → Bool} {g : β → Bool}
    (hfg : ∀ a b, R a b → f a = g b) : xs.findIdx? f = ys.findIdx? g := by
  induction h with
  | nil => rfl
  | cons hab _ ih => simp only [List.findIdx?_cons, hfg _ _ hab, ih]

/-- What is picked by a property that agrees stands at the same positions. -/
theorem positions_of_forall₂ (h : List.Forall₂ R xs ys) {f : α × Nat → Bool} {g : β × Nat → Bool}
    (hfg : ∀ a b i, R a b → f (a, i) = g (b, i)) : ∀ n : Nat,
    ((xs.zipIdx n).filter f).map (·.2) = ((ys.zipIdx n).filter g).map (·.2) := by
  induction h with
  | nil => exact fun _ => rfl
  | @cons a b _ _ hab _ ih =>
      intro n
      rw [List.zipIdx_cons, List.zipIdx_cons, List.filter_cons, List.filter_cons, hfg a b n hab]
      split
      · rw [List.map_cons, List.map_cons, ih]
      · exact ih (n + 1)

end Lists

/-! ### Problems that are wired alike -/

/-- Two problems agree, position by position, in ids, links, lists of encoders, masks and the bits of
CRTCs.  All else may differ. -/
structure SameWiring (p q : Problem) : Prop where
  connectors : List.Forall₂ (fun c d : Connector =>
    c.id = d.id ∧ c.currentEncoder = d.currentEncoder ∧ c.encoders = d.encoders)
    p.connectors q.connectors
  encoders : List.Forall₂ (fun e f : Encoder =>
    e.id = f.id ∧ e.currentCrtc = f.currentCrtc ∧ e.possibleCrtcs = f.possibleCrtcs)
    p.encoders q.encoders
  crtcs : List.Forall₂ (fun k l : Crtc => k.id = l.id ∧ k.index = l.index) p.crtcs q.crtcs

namespace SameWiring

variable {p q : Problem} (h : SameWiring p q)

include h

theorem encoderAt?_eq (id : ObjectId) : p.encoderAt? id = q.encoderAt? id :=
  findIdx?_of_forall₂ h.encoders fun _ _ hef => by rw [hef.1]

theorem crtcAt?_eq (id : ObjectId) : p.crtcAt? id = q.crtcAt? id :=
  findIdx?_of_forall₂ h.crtcs fun _ _ hkl => by rw [hkl.1]

theorem crtcCandidates_eq {e f : Encoder} (hcurrent : e.currentCrtc = f.currentCrtc)
    (hmask : e.possibleCrtcs = f.possibleCrtcs) : p.crtcCandidates e = q.crtcCandidates f := by
  have hfind : p.crtcAt? = q.crtcAt? := funext h.crtcAt?_eq
  rw [Problem.crtcCandidates, Problem.crtcCandidates, hcurrent, hfind]
  refine congrArg _ (positions_of_forall₂ h.crtcs (fun k l i hkl => ?_) 0)
  -- the bit of a CRTC is that of its index
  simp only [Encoder.supports, Crtc.inMask, Crtc.mask, hkl.1, hkl.2, hmask]

theorem linksThrough_eq (i : Nat) : p.linksThrough i = q.linksThrough i := by
  rcases getElem?_of_forall₂ h.encoders i with ⟨hp, hq⟩ | ⟨e, f, hp, hq, -, hcurrent, hmask⟩
  · simp only [Problem.linksThrough, hp, hq]
  · simp only [Problem.linksThrough, hp, hq, h.crtcCandidates_eq hcurrent hmask]

theorem encoderCandidates_eq {c d : Connector} (hcurrent : c.currentEncoder = d.currentEncoder)
    (hlist : c.encoders = d.encoders) : p.encoderCandidates c = q.encoderCandidates d := by
  have hfind : p.encoderAt? = q.encoderAt? := funext h.encoderAt?_eq
  simp only [Problem.encoderCandidates, hcurrent, hfind]
  refine congrArg _ (positions_of_forall₂ h.encoders (fun e f i hef => ?_) 0)
  simp only [Connector.supports, hef.1, hlist]

/-- Connectors that are wired alike have the same candidates. -/
theorem candidates_eq {c d : Connector} (hcurrent : c.currentEncoder = d.currentEncoder)
    (hlist : c.encoders = d.encoders) : p.candidates c = q.candidates d := by
  have hthrough : p.linksThrough = q.linksThrough := funext h.linksThrough_eq
  rw [Problem.candidates, Problem.candidates, h.encoderCandidates_eq hcurrent hlist, hthrough]

end SameWiring

/-! ### Walks that end alike -/

/-- Two walks end with the same links, or at the same place at connectors with one id. -/
inductive SameEnd : Except (Connector × Nat) (List Link) → Except (Connector × Nat) (List Link) → Prop
  | done (links : List Link) : SameEnd (.ok links) (.ok links)
  | stuck {c d : Connector} (hid : c.id = d.id) (i : Nat) : SameEnd (.error (c, i)) (.error (d, i))

/-- Walks through connectors with the same ids and candidates end alike. -/
theorem Problem.walk_congr {p q : Problem} {rest rest' : List Connector}
    (h : List.Forall₂ (fun c d => c.id = d.id ∧ p.candidates c = q.candidates d) rest rest') :
    ∀ taken : List Link, SameEnd (p.walk rest taken) (q.walk rest' taken) := by
  induction h with
  | nil => exact fun taken => .done taken
  | @cons c d _ _ hcd _ ih =>
      intro taken
      have hchoice : p.choice? taken c = q.choice? taken d := by
        rw [Problem.choice?, Problem.choice?, hcd.2]
      rw [Problem.walk, Problem.walk, hchoice]
      cases q.choice? taken d with
      | none => exact .stuck hcd.1 _
      | some x => exact ih (taken ++ [x])

theorem SameWiring.greedy {p q : Problem} (h : SameWiring p q) : SameEnd p.greedy q.greedy :=
  Problem.walk_congr (h.connectors.imp fun _ _ hcd => ⟨hcd.1, h.candidates_eq hcd.2.1 hcd.2.2⟩) []

/-- Routing looks at nothing but the wiring and the classes of connectors. -/
theorem assign_congr {p q : Problem} (h : SameWiring p q)
    (hranks : p.connectors.map Connector.rank = q.connectors.map Connector.rank) (first : DisplayId) :
    assign p first = assign q first := by
  have hlen := h.connectors.length_eq
  have hend := h.greedy
  have hplanned := plannedDisplay_congr hranks first
  rw [assign_eq, assign_eq, hlen]
  refine if_congr Iff.rfl ?_ rfl
  generalize p.greedy = before, q.greedy = after at hend
  cases hend with
  | stuck hid i => simp only [hid, hplanned]
  | done links => simp only [grants, hplanned]

/-! ### Runs that end alike -/

/-- Two runs on `n` connectors end alike, up to display ids, which are related by `R`: both with a
routing that has the same pipes, the same one for each connector, or both at the same connector. -/
inductive AlikeUpTo (R : DisplayId → DisplayId → Prop) (n : Nat) :
    Except RoutingError Assignment → Except RoutingError Assignment → Prop
  | routed {a b : Assignment} (pipes : (a.pipes.map (·.2)).Perm (b.pipes.map (·.2)))
      (grants : ∀ i < n, ∃ d e pipe, a.grantOf? i = some (d, pipe) ∧
        b.grantOf? i = some (e, pipe) ∧ R d e)
      (beyond : ∀ i, n ≤ i → a.displayOf? i = none ∧ b.displayOf? i = none)
      (next : R a.next b.next) : AlikeUpTo R n (.ok a) (.ok b)
  | stuck (id : ObjectId) {d e : DisplayId} (display : R d e) :
      AlikeUpTo R n (.error (.noSuitableEncoder id d)) (.error (.noSuitableEncoder id e))

section Runs

variable {xs ys : List Connector} {old new : DisplayId}

/-- Among connectors of the same classes, ids differ by the distance of the first ones. -/
theorem plannedDisplay_sub (hranks : xs.map Connector.rank = ys.map Connector.rank)
    (hold : old.HasRoom xs.length) (hnew : new.HasRoom ys.length) (i : Nat) :
    ((plannedDisplay ys new i).val.toNat : Int) - (plannedDisplay xs old i).val.toNat =
      new.val.toNat - old.val.toNat := by
  rw [toNat_plannedDisplay hold, toNat_plannedDisplay hnew, displayOrder_congr hranks]
  omega

/-- Display ids apart, the grants of a walk are told by its links. -/
theorem map_pipe_grants (connectors : List Connector) (first : DisplayId) (links : List Link) :
    (grants connectors first links).map (·.2) = links.zipIdx.map fun (x, i) => ⟨i, x.1, x.2⟩ := by
  rw [grants, List.map_map]
  rfl

/-- Routings from the same links are alike. -/
theorem alikeUpTo_ofGrants {R : DisplayId → DisplayId → Prop} {links : List Link} {next next' : DisplayId}
    (hxs : Exclusive (grants xs old links)) (hys : Exclusive (grants ys new links))
    (hids : ∀ i, R (plannedDisplay xs old i) (plannedDisplay ys new i)) (hnext : R next next') :
    AlikeUpTo R links.length (.ok (.ofGrants (grants xs old links) next))
      (.ok (.ofGrants (grants ys new links) next')) := by
  refine .routed ?_ (fun i hi => ?_) (fun i hi => ?_) hnext
  · have hpipes : (grants xs old links).map (·.2) = (grants ys new links).map (·.2) := by
      rw [map_pipe_grants, map_pipe_grants]
    exact ((inDisplayOrder_perm _).map _).trans
      ((List.Perm.of_eq hpipes).trans ((inDisplayOrder_perm _).map _).symm)
  · have hx : links[i]? = some links[i] := List.getElem?_eq_getElem hi
    refine ⟨_, _, ⟨i, links[i].1, links[i].2⟩, ?_, ?_, hids i⟩
    · rw [grantOf?_ofGrants_grants hxs, hx]
      rfl
    · rw [grantOf?_ofGrants_grants hys, hx]
      rfl
  · have hx : links[i]? = none := List.getElem?_eq_none hi
    rw [displayOf?_ofGrants_grants, displayOf?_ofGrants_grants, hx]
    exact ⟨rfl, rfl⟩

end Runs

/-- The ids of a run from `old` on `p` and of one from `new` on `q` differ by the distance of the first
ones, provided that the connectors have the same classes. -/
def Shifted (p q : Problem) (old new d e : DisplayId) : Prop :=
  p.connectors.map Connector.rank = q.connectors.map Connector.rank →
    (e.val.toNat : Int) - d.val.toNat = new.val.toNat - old.val.toNat

/-- **Routing depends on the wiring alone.**  The ids differ, and if the connectors have the same classes
they differ by the distance of the first ones. -/
theorem assign_ignores_numbering {p q : Problem} {old new : DisplayId} (h : SameWiring p q)
    (hold : old.HasRoom p.connectors.length) (hnew : new.HasRoom q.connectors.length) :
    AlikeUpTo (Shifted p q old new) p.connectors.length (assign p old) (assign q new) := by
  have hlen := h.connectors.length_eq
  have hend := h.greedy
  have hids : ∀ i, Shifted p q old new (plannedDisplay p.connectors old i)
      (plannedDisplay q.connectors new i) :=
    fun i hranks => plannedDisplay_sub hranks hold hnew i
  rw [assign_eq, assign_eq, if_pos hold, if_pos hnew]
  generalize hp : p.greedy = before, q.greedy = after at hend
  cases hend with
  | stuck hid i =>
      simp only [hid]
      exact .stuck _ (hids i)
  | done links =>
      obtain ⟨hlinks, -⟩ := Problem.greedy_eq_ok_iff.1 hp
      have hapart := Problem.apart_of_walk apart_nil hp
      have hnext : Shifted p q old new (old.advance p.connectors.length)
          (new.advance q.connectors.length) := by
        intro _
        rw [DisplayId.toNat_advance hold, DisplayId.toNat_advance hnew]
        omega
      have halike := alikeUpTo_ofGrants (exclusive_grants hold hapart (by omega))
        (exclusive_grants hnew hapart (by omega)) hids hnext
      rwa [hlinks] at halike

/-- The docked screens after everything was changed that routing does not look at. -/
def refitted : Problem where
  connectors := [⟨40, 5, .embeddedDisplayPort, 2, .disconnected, none, [30, 31, 32], 9⟩,
    ⟨41, 0, .hdmiA, 1, .connected, none, [30, 31, 32], 9⟩,
    ⟨42, 1, .displayPort, 1, .unknown, none, [30, 31, 32], 9⟩]
  encoders := [⟨30, 4, none, 7⟩, ⟨31, 2, none, 7⟩, ⟨32, 0, none, 7⟩]
  crtcs := [⟨20, 0, some (1920, 1080), 5, 6⟩, ⟨21, 1, none, 7, 8⟩, ⟨22, 2, none, 9, 10⟩]

/-- Another screen is numbered first, and all are driven as before. -/
theorem refitted_ignores_numbering : SameWiring docked refitted ∧
    (⟨7⟩ : DisplayId).HasRoom docked.connectors.length ∧
    (⟨20⟩ : DisplayId).HasRoom refitted.connectors.length ∧
    (displayOrder docked.connectors).idxOf 2 < (displayOrder docked.connectors).idxOf 0 ∧
    (displayOrder refitted.connectors).idxOf 1 < (displayOrder refitted.connectors).idxOf 0 ∧
    (∃ a, assign docked ⟨7⟩ = .ok a) ∧
    AlikeUpTo (Shifted docked refitted ⟨7⟩ ⟨20⟩) 3 (assign docked ⟨7⟩) (assign refitted ⟨20⟩) := by
  have hwiring : SameWiring docked refitted := by
    constructor
    case connectors =>
        exact .cons ⟨rfl, rfl, rfl⟩ (.cons ⟨rfl, rfl, rfl⟩ (.cons ⟨rfl, rfl, rfl⟩ .nil))
    case encoders =>
        exact .cons ⟨rfl, rfl, rfl⟩ (.cons ⟨rfl, rfl, rfl⟩ (.cons ⟨rfl, rfl, rfl⟩ .nil))
    case crtcs => exact .cons ⟨rfl, rfl⟩ (.cons ⟨rfl, rfl⟩ (.cons ⟨rfl, rfl⟩ .nil))
  have hold : (⟨7⟩ : DisplayId).HasRoom docked.connectors.length := by decide
  have hnew : (⟨20⟩ : DisplayId).HasRoom refitted.connectors.length := by decide
  have hgreedy : docked.greedy = .ok [(0, 0), (1, 1), (2, 2)] := rfl
  have hpanel : toLex (0, 2) < toLex (1, 0) := Prod.Lex.toLex_lt_toLex.2 (.inl (by decide))
  have hscreen : toLex (1, 1) < toLex (2, 0) := Prod.Lex.toLex_lt_toLex.2 (.inl (by decide))
  exact ⟨hwiring, hold, hnew,
    ((displayOrder_orderedByClass docked.connectors).before_iff 2 0 _ _ rfl rfl).2 hpanel,
    ((displayOrder_orderedByClass refitted.connectors).before_iff 1 0 _ _ rfl rfl).2 hscreen,
    ⟨_, assign_eq_ok_iff.2 ⟨hold, _, hgreedy, rfl⟩⟩, assign_ignores_numbering hwiring hold hnew⟩

end Routing

end Scanout
