/-
**The order of additions.**

Cards that share no state can be added in any order.  Adding a card asks this card only, so every other
card meets its own addition in the world as it was at the start.  What it replies there decides whether it
is registered, and with how many displays; where the numbering stands only decides which ids they get.  So
two orders register the same cards and end with the same next id, and a device differs between them by a
distance between ids.

Main definitions:

* `Scanout.prospect`, `Scanout.prospectiveDisplays` — what a card would be registered as, and with how many
  displays; `Scanout.screens`, how many display connectors are found on it;
* `Scanout.Device.SameUpTo` — two devices differ by a distance between display ids;
* `Scanout.Registry.Batch` — cards that can be added in any order;
* `Scanout.Registry.Additions` — what comes of adding cards one after the other;
* `Scanout.Registry.Reordered` — what two orders of additions have in common.

Main results:

* `Scanout.Device.sameUpTo_of_assign` — a card numbered from elsewhere becomes the same device up to a
  distance;
* `Scanout.Registry.additions_of_make`, `Scanout.Registry.additions_of_perform` — **every card is added as
  if it were the first**;
* `Scanout.Registry.reordered_of_perform` — **the order of additions changes only the numbering**.
-/

import Mathlib.Data.List.Perm.Basic
import Scanout.Proofs.MemoryCard
import Scanout.Proofs.Routing.Shift
import Scanout.Proofs.Survey

set_option relaxedAutoImplicit false
set_option autoImplicit false

namespace Scanout

variable {κ σ : Type} {K : Kernel κ σ} {card other : κ} {s t : σ}

/-! ### What a card would become -/

/-- What a survey finds on a card that was probed before. -/
def finding (K : Kernel κ σ) (s : σ) (card : κ) : Option (Capabilities × Resources) :=
  ((survey K card).run.run (K.answer card .resources s).2).value.toOption

/-- What a card would be registered as: what is found on it, if it lists screens and can be routed. -/
def prospect (K : Kernel κ σ) (s : σ) (card : κ) : Option (Capabilities × Resources) :=
  (finding K s card).filter fun found =>
    ((hasModeSetting K card).run s).value && found.2.problem.greedy.isOk

/-- The number of display connectors that are found on a card. -/
def screens (K : Kernel κ σ) (s : σ) (card : κ) : Nat :=
  ((finding K s card).map (·.2.connectors.length)).getD 0

/-- The number of displays that a card would be registered with. -/
def prospectiveDisplays (K : Kernel κ σ) (s : σ) (card : κ) : Option Nat :=
  (prospect K s card).map (·.2.connectors.length)

theorem finding_eq_some_iff {found : Capabilities × Resources} : finding K s card = some found ↔
    ∃ t, (survey K card).Gives (K.answer card .resources s).2 found t := by
  rw [finding]
  constructor
  · intro h
    refine ⟨_, ?_, rfl⟩
    cases hvalue : ((survey K card).run.run (K.answer card .resources s).2).value with
    | error e =>
        rw [hvalue] at h
        cases h
    | ok a =>
        rw [hvalue] at h
        cases h
        rfl
  · rintro ⟨t, hvalue, -⟩
    rw [hvalue]
    rfl

theorem prospect_eq_some_iff {found : Capabilities × Resources} : prospect K s card = some found ↔
    ListsScreens (K.answer card .resources s).1 ∧
      (∃ t, (survey K card).Gives (K.answer card .resources s).2 found t) ∧
      ∃ links, found.2.problem.greedy = .ok links := by
  obtain ⟨accepted, haccepted, hprobe⟩ := dealings_hasModeSetting (K := K) card s
  have hvalue : ((hasModeSetting K card).run s).value = accepted := congrArg Prod.fst hprobe
  rw [prospect, Option.filter_eq_some_iff, finding_eq_some_iff, hvalue, Bool.and_eq_true, haccepted]
  have hgreedy : found.2.problem.greedy.isOk = true ↔ ∃ links, found.2.problem.greedy = .ok links := by
    cases found.2.problem.greedy with
    | error e => simp [Except.isOk, Except.toBool]
    | ok links => simp [Except.isOk, Except.toBool]
  rw [hgreedy]
  exact and_left_comm

theorem finding_congr (h : K.Alike card s other t) : finding K s card = finding K t other :=
  congrArg Except.toOption (scripted_survey.alike (h.answer .resources)).1

theorem screens_congr (h : K.Alike card s other t) : screens K s card = screens K t other := by
  rw [screens, screens, finding_congr h]

theorem prospect_congr (h : K.Alike card s other t) : prospect K s card = prospect K t other := by
  have himp : ∀ {card other : κ} {s t : σ}, K.Alike card s other t → ∀ found,
      prospect K s card = some found → prospect K t other = some found := by
    intro card other s t h found hfound
    obtain ⟨hlists, ⟨u, hsurvey⟩, hgreedy⟩ := prospect_eq_some_iff.1 hfound
    obtain ⟨u', hsurvey', -⟩ := (h.answer .resources).gives_survey hsurvey
    exact prospect_eq_some_iff.2 ⟨h.reply .resources ▸ hlists, ⟨u', hsurvey'⟩, hgreedy⟩
  exact Option.ext fun found => ⟨himp h found, himp h.symm found⟩

theorem prospectiveDisplays_le (K : Kernel κ σ) (s : σ) (card : κ) :
    (prospectiveDisplays K s card).getD 0 ≤ screens K s card := by
  rw [prospectiveDisplays, prospect, screens]
  cases finding K s card with
  | none => exact Nat.le_refl 0
  | some found =>
      rw [Option.filter_some]
      split
      · exact Nat.le_refl _
      · exact Nat.zero_le _

/-! ### Devices up to a distance between ids -/

namespace Device

/-- Two devices are the same except that a distance is added to all display ids. -/
structure SameUpTo (offset : Int) (d d' : Device κ) : Prop where
  card : d'.card = d.card
  capabilities : d'.capabilities = d.capabilities
  resources : d'.resources = d.resources
  displays : List.Forall₂ (fun n n' => (n'.val.toNat : Int) = n.val.toNat + offset)
    d.displays d'.displays
  pipelines : List.Forall₂ (fun p p' => (p'.display.val.toNat : Int) = p.display.val.toNat + offset ∧
    p'.connector = p.connector ∧ p'.encoder = p.encoder ∧ p'.crtc = p.crtc) d.pipelines d'.pipelines

variable {d d' : Device κ} {old new : DisplayId}

/-- A card numbered from elsewhere becomes the same device up to a distance. -/
theorem sameUpTo_of_assign (hcard : d'.card = d.card) (hcapabilities : d'.capabilities = d.capabilities)
    (hresources : d'.resources = d.resources)
    (hd : Routing.assign d.resources.problem old = .ok d.assignment)
    (hd' : Routing.assign d'.resources.problem new = .ok d'.assignment) :
    d.SameUpTo (new.val.toNat - old.val.toNat) d' := by
  rw [hresources] at hd'
  have hpipes := Routing.forall₂_pipes_of_assign hd hd'
  constructor
  case card => exact hcard
  case capabilities => exact hcapabilities
  case resources => exact hresources
  case displays =>
      rw [displays, displays, List.forall₂_map_left_iff, List.forall₂_map_right_iff]
      exact hpipes.imp fun _ _ h => h.1
  case pipelines =>
      refine List.rel_filterMap ?_ hpipes
      rintro ⟨n, _⟩ ⟨n', pipe⟩ ⟨hn, rfl⟩
      -- the same positions of the same lists hold the same objects
      simp only [resolve?, hresources]
      cases d.resources.problem.resolve? pipe with
      | none => exact .none
      | some objects => exact .some ⟨hn, rfl, rfl, rfl⟩

end Device

namespace Registry

variable {r mid last : Registry κ} {l l₁ l₂ : List (Path × κ)} {steps : List (Step κ)}

/-! ### Batches of cards -/

/-- From the state `s`, some cards can be added to a registry in any order: their paths are different and
free, they share no state, and there is room for all their screens. -/
structure Batch (K : Kernel κ σ) (s : σ) (r : Registry κ) (l : List (Path × κ)) : Prop where
  paths : l.Pairwise fun x y => x.1.components ≠ y.1.components
  free : ∀ x ∈ l, ¬ r.Occupied x.1
  independent : l.Pairwise fun x y => K.Independent x.2 y.2
  room : r.next.HasRoom (l.map fun x => screens K s x.2).sum

/-- A batch in another order is a batch. -/
theorem Batch.perm (h : Batch K s r l₁) (hperm : l₂.Perm l₁) : Batch K s r l₂ where
  paths := (hperm.pairwise_iff fun hne => hne.symm).2 h.paths
  free := fun x hx => h.free x (hperm.mem_iff.1 hx)
  independent := (hperm.pairwise_iff fun hind => hind.symm).2 h.independent
  room := by
    rw [(hperm.map _).sum_nat]
    exact h.room

/-! ### Adding one after the other -/

/-- The number of displays of the card that a call registered. -/
def Answer.count? : Answer κ → Option Nat
  | .added count => some count
  | .refused _ | .removed _ | .unknown => none

/-- From the state `s`, a card is registered as this entry. -/
structure Becomes (K : Kernel κ σ) (s : σ) (x : Path × κ) (e : Path × Device κ) : Prop where
  path : e.1 = x.1
  card : e.2.card = x.2
  prospect : prospect K s x.2 = some (e.2.capabilities, e.2.resources)
  routed : ∃ first, Routing.assign e.2.resources.problem first = .ok e.2.assignment

/-- What comes of adding cards one after the other, when each of them is as it was in the state `s`. -/
structure Additions (K : Kernel κ σ) (s : σ) (r : Registry κ) (l : List (Path × κ))
    (steps : List (Step κ)) (last : Registry κ) (new : List (Path × Device κ)) : Prop where
  /-- Each card with a prospect is registered, and each other card is refused. -/
  answers : steps.map (fun step => (step.call, step.answer.count?)) =
    l.map fun x => (.add x.1 x.2, prospectiveDisplays K s x.2)
  entries : last.entries = r.entries ++ new
  /-- The new entries are those of the cards with a prospect, in the order of the calls. -/
  becomes : List.Forall₂ (Becomes K s) (l.filter fun x => (prospect K s x.2).isSome) new
  /-- Only cards that are registered take up display ids. -/
  next : last.next = r.next.advance (l.map fun x => (prospectiveDisplays K s x.2).getD 0).sum

/-- The cards that are registered are those with a prospect. -/
theorem Additions.paths {new : List (Path × Device κ)} (h : Additions K s r l steps last new) :
    new.map (·.1) = (l.filter fun x => (prospect K s x.2).isSome).map (·.1) := by
  have hpaths : List.Forall₂ (· = ·) ((l.filter fun x => (prospect K s x.2).isSome).map (·.1))
      (new.map (·.1)) := by
    rw [List.forall₂_map_left_iff, List.forall₂_map_right_iff]
    exact h.becomes.imp fun _ _ hx => hx.path.symm
  rw [List.forall₂_eq_eq_eq] at hpaths
  exact hpaths.symm

theorem Additions.append {steps₁ steps₂ : List (Step κ)} {new₁ new₂ : List (Path × Device κ)}
    (h₁ : Additions K s r l₁ steps₁ mid new₁) (h₂ : Additions K s mid l₂ steps₂ last new₂) :
    Additions K s r (l₁ ++ l₂) (steps₁ ++ steps₂) last (new₁ ++ new₂) where
  answers := by rw [List.map_append, List.map_append, h₁.answers, h₂.answers]
  entries := by rw [h₂.entries, h₁.entries, List.append_assoc]
  becomes := by
    rw [List.filter_append]
    exact List.rel_append h₁.becomes h₂.becomes
  next := by rw [h₂.next, h₁.next, DisplayId.advance_advance, List.map_append, List.sum_append]

theorem about_make {path : Path} : (r.make K (.add path card)).About K card := by
  refine .bind about_add fun s => ?_
  cases ((r.add K path card).run.run s).value with
  | error e => exact .pure _
  | ok result => exact .pure _

theorem value_make_add (K : Kernel κ σ) (r : Registry κ) (path : Path) (card : κ) (s : σ) :
    ((r.make K (.add path card)).run s).value =
      match ((r.add K path card).run.run s).value with
      | .ok (count, r') => (.added count, r')
      | .error e => (.refused e, r) :=
  congrArg Prod.fst (dealings_make K r path card s)

/-- What is left of a batch when one of its cards was added is a batch. -/
theorem Batch.rest {x : Path × κ} {new : List (Path × Device κ)} (h : Batch K s r (x :: l))
    (hfirst : Additions K s r [x] steps mid new) : Batch K s mid l := by
  obtain ⟨hpath, hpaths⟩ := List.pairwise_cons.1 h.paths
  constructor
  case paths => exact hpaths
  case independent => exact (List.pairwise_cons.1 h.independent).2
  case free =>
      rintro y hy ⟨e, he, hsame⟩
      rw [hfirst.entries] at he
      rcases List.mem_append.1 he with hold | hnew
      · exact h.free y (List.mem_cons_of_mem x hy) ⟨e, hold, hsame⟩
      · have hmem := List.mem_map_of_mem (f := fun e : Path × Device κ => e.1) hnew
        rw [hfirst.paths] at hmem
        obtain ⟨z, hz, hzpath⟩ := List.mem_map.1 hmem
        obtain rfl := List.mem_singleton.1 (List.mem_of_mem_filter hz)
        exact hpath y hy (hzpath ▸ hsame)
  case room =>
      have hle := prospectiveDisplays_le K s x.2
      have hroom := h.room
      rw [List.map_cons, List.sum_cons] at hroom
      rw [hfirst.next, List.map_singleton, List.sum_singleton, DisplayId.hasRoom_advance]
      · exact hroom.mono (by omega)
      · exact hroom.mono (by omega)

/-- A card with a prospect is registered when there is room for it. -/
theorem exists_value_add_of_prospect {path : Path} (hfree : ¬ r.Occupied path)
    (hroom : r.next.HasRoom (screens K s card)) {found : Capabilities × Resources}
    (h : prospect K s card = some found) :
    ∃ result, ((r.add K path card).run.run s).value = .ok result := by
  obtain ⟨hlists, ⟨u, hsurvey⟩, links, hgreedy⟩ := prospect_eq_some_iff.1 h
  have hle := prospectiveDisplays_le K s card
  rw [prospectiveDisplays, h] at hle
  have hassign : Routing.assign found.2.problem r.next = .ok _ :=
    Routing.assign_eq_ok_iff.2 ⟨hroom.mono hle, links, hgreedy, rfl⟩
  have hgives := Device.gives_init_iff_survey.2
    ⟨show (Device.mk card found.1 found.2 _).card = card from rfl, hsurvey, hassign⟩
  exact ⟨_, value_add_eq_ok_iff.2 ⟨hfree, hlists, _, u, hgives, rfl, rfl⟩⟩

theorem additions_of_added {x : Path × κ} {device : Device κ} (hcard : device.card = x.2)
    (hfound : prospect K s x.2 = some (device.capabilities, device.resources))
    (hassign : Routing.assign device.resources.problem r.next = .ok device.assignment) :
    Additions K s r [x]
      [⟨r, .add x.1 x.2, .added device.displayCount, r.append x.1 device⟩] (r.append x.1 device)
      [(x.1, device)] := by
  have hcount := Device.displayCount_of_assign hassign
  have hdisplays : prospectiveDisplays K s x.2 = some device.displayCount := by
    rw [prospectiveDisplays, hfound, hcount]
    rfl
  constructor
  case answers => simp [Answer.count?, hdisplays]
  case entries => rfl
  case becomes =>
      simp only [List.filter_singleton, hfound, Option.isSome_some]
      exact .cons ⟨rfl, hcard, hfound, _, hassign⟩ .nil
  case next =>
      obtain ⟨-, -, hnext⟩ := Routing.displays_of_assign hassign
      simp only [List.map_singleton, List.sum_singleton, hdisplays, Option.getD_some, hcount]
      exact hnext

theorem additions_of_refused {x : Path × κ} (hnone : prospect K s x.2 = none) (e : AddError) :
    Additions K s r [x] [⟨r, .add x.1 x.2, .refused e, r⟩] r [] := by
  have hdisplays : prospectiveDisplays K s x.2 = none := by
    rw [prospectiveDisplays, hnone]
    rfl
  constructor
  case answers => simp [Answer.count?, hdisplays]
  case entries => exact (List.append_nil _).symm
  case becomes =>
      simp only [List.filter_singleton, hnone, Option.isSome_none]
      exact .nil
  case next => simp [hdisplays]

/-- A card that replies as in the state `s` is added as if it were the first. -/
theorem additions_of_make {x : Path × κ} (hfree : ¬ r.Occupied x.1)
    (hroom : r.next.HasRoom (screens K s x.2)) (halike : K.Alike x.2 s x.2 t) :
    ∃ answer r' new, ((r.make K (.add x.1 x.2)).run t).value = (answer, r') ∧
      Additions K s r [x] [⟨r, .add x.1 x.2, answer, r'⟩] r' new := by
  have hsame : prospect K s x.2 = prospect K t x.2 := prospect_congr halike
  have hmake := value_make_add K r x.1 x.2 t
  cases hadd : ((r.add K x.1 x.2).run.run t).value with
  | ok result =>
      obtain ⟨count, r'⟩ := result
      obtain ⟨-, hlists, device, u, hgives, rfl, rfl⟩ := value_add_eq_ok_iff.1 hadd
      obtain ⟨hcard, hsurvey, hassign⟩ := Device.gives_init_iff_survey.1 hgives
      obtain ⟨-, links, hgreedy, -⟩ := Routing.assign_eq_ok_iff.1 hassign
      have hfound := prospect_eq_some_iff.2 ⟨hlists, ⟨u, hsurvey⟩, links, hgreedy⟩
      rw [hadd] at hmake
      exact ⟨_, _, _, hmake, additions_of_added hcard (hsame.trans hfound) hassign⟩
  | error e =>
      have hnone : prospect K s x.2 = none := by
        refine Option.eq_none_iff_forall_ne_some.2 fun found hfound => ?_
        obtain ⟨result, hresult⟩ := exists_value_add_of_prospect hfree
          (screens_congr halike ▸ hroom) (hsame ▸ hfound)
        rw [hadd] at hresult
        cases hresult
      rw [hadd] at hmake
      exact ⟨_, _, _, hmake, additions_of_refused hnone e⟩

/-- **Every card is added as if it were the first.** -/
theorem additions_of_perform (l : List (Path × κ)) : ∀ {r : Registry κ} {t : σ}, Batch K s r l →
    (∀ x ∈ l, K.Alike x.2 s x.2 t) → ∀ {steps : List (Step κ)} {last : Registry κ},
    ((r.perform K (l.map fun x => .add x.1 x.2)).run t).value = (steps, last) →
      ∃ new, Additions K s r l steps last new := by
  induction l with
  | nil =>
      intro r t hbatch halike steps last h
      cases h
      exact ⟨[], rfl, (List.append_nil _).symm, .nil, (DisplayId.advance_zero _).symm⟩
  | cons x l ih =>
      intro r t hbatch halike steps last h
      have hroom : r.next.HasRoom (screens K s x.2) := by
        refine hbatch.room.mono ?_
        rw [List.map_cons, List.sum_cons]
        exact Nat.le_add_right _ _
      obtain ⟨answer, mid, new, hmake, hfirst⟩ := additions_of_make
        (hbatch.free x List.mem_cons_self) hroom (halike x List.mem_cons_self)
      -- the other cards do not notice
      have hrest : ∀ y ∈ l, K.Alike y.2 s y.2 ((r.make K (.add x.1 x.2)).run t).state := by
        intro y hy
        have hindependent := (List.pairwise_cons.1 hbatch.independent).1 y hy
        exact (halike y (List.mem_cons_of_mem x hy)).trans (about_make.alike hindependent t)
      obtain ⟨⟨later, last'⟩, hlater⟩ : ∃ v, ((mid.perform K (l.map fun x => .add x.1 x.2)).run
        ((r.make K (.add x.1 x.2)).run t).state).value = v := ⟨_, rfl⟩
      rw [List.map_cons, perform, Action.run_bind, hmake, Action.run_bind, hlater] at h
      cases h
      obtain ⟨others, hothers⟩ := ih (hbatch.rest hfirst) hrest hlater
      exact ⟨new ++ others, hfirst.append hothers⟩

/-! ### Two orders -/

/-- What two runs have in common that registered some entries. -/
structure Reordered (steps : List (Step κ)) (last : Registry κ) (new : List (Path × Device κ))
    (steps' : List (Step κ)) (last' : Registry κ) (new' : List (Path × Device κ)) : Prop where
  /-- The same calls register a card, with the same number of displays. -/
  answers : (steps'.map fun step => (step.call, step.answer.count?)).Perm
    (steps.map fun step => (step.call, step.answer.count?))
  next : last'.next = last.next
  /-- Each entry of one run is in the other, up to a distance between display ids. -/
  entries : ∃ matched, matched.Perm new' ∧
    List.Forall₂ (fun e e' => e'.1 = e.1 ∧ ∃ offset, e.2.SameUpTo offset e'.2) new matched

theorem Becomes.sameUpTo {x : Path × κ} {e e' : Path × Device κ} (h : Becomes K s x e)
    (h' : Becomes K s x e') : e'.1 = e.1 ∧ ∃ offset, e.2.SameUpTo offset e'.2 := by
  obtain ⟨old, hold⟩ := h.routed
  obtain ⟨new, hnew⟩ := h'.routed
  obtain ⟨hcapabilities, hresources⟩ :=
    Prod.mk.inj (Option.some.inj (h'.prospect.symm.trans h.prospect))
  have hcard : e'.2.card = e.2.card := h'.card.trans h.card.symm
  exact ⟨h'.path.trans h.path.symm, _,
    Device.sameUpTo_of_assign hcard hcapabilities hresources hold hnew⟩

theorem forall₂_becomes {xs : List (Path × κ)} : ∀ {new new' : List (Path × Device κ)},
    List.Forall₂ (Becomes K s) xs new → List.Forall₂ (Becomes K s) xs new' →
      List.Forall₂ (fun e e' => e'.1 = e.1 ∧ ∃ offset, e.2.SameUpTo offset e'.2) new new' := by
  induction xs with
  | nil =>
      intro new new' h h'
      cases h
      cases h'
      exact .nil
  | cons x xs ih =>
      intro new new' h h'
      cases h with
      | cons hx hrest =>
          cases h' with
          | cons hx' hrest' => exact .cons (hx.sameUpTo hx') (ih hrest hrest')

/-- **The order of additions changes only the numbering.** -/
theorem reordered_of_perform (hbatch : Batch K s r l) {l' : List (Path × κ)} (hperm : l'.Perm l) :
    let (steps, last) := ((r.perform K (l.map fun x => .add x.1 x.2)).run s).value
    let (steps', last') := ((r.perform K (l'.map fun x => .add x.1 x.2)).run s).value
    ∃ new new', Additions K s r l steps last new ∧ Additions K s r l' steps' last' new' ∧
      Reordered steps last new steps' last' new' := by
  obtain ⟨⟨steps, last⟩, hrun⟩ :
      ∃ v, ((r.perform K (l.map fun x => .add x.1 x.2)).run s).value = v := ⟨_, rfl⟩
  obtain ⟨⟨steps', last'⟩, hrun'⟩ :
      ∃ v, ((r.perform K (l'.map fun x => .add x.1 x.2)).run s).value = v := ⟨_, rfl⟩
  obtain ⟨new, h⟩ := additions_of_perform l hbatch (fun x _ => .refl K x.2 s) hrun
  obtain ⟨new', h'⟩ := additions_of_perform l' (hbatch.perm hperm) (fun x _ => .refl K x.2 s) hrun'
  -- put the new entries of the second run into the order of the first
  obtain ⟨matched, hmatched, hmatching⟩ := List.perm_comp_forall₂ (hperm.filter _).symm h'.becomes
  rw [hrun, hrun']
  refine ⟨new, new', h, h', ?_⟩
  constructor
  case answers =>
      rw [h.answers, h'.answers]
      exact hperm.map _
  case next => rw [h.next, h'.next, (hperm.map _).sum_nat]
  case entries => exact ⟨matched, hmatching, forall₂_becomes h.becomes hmatched⟩

/-- Two cards with screens and one without. -/
def delivered : List MemoryCard := [.laptop, .blank, .laptop]

/-- The nodes of the cards. -/
def arrivals : List (Path × Nat) :=
  [(.ofString "/dev/dri/card0", 0), (.ofString "/dev/dri/card1", 1), (.ofString "/dev/dri/card2", 2)]

theorem arrivals_reordered :
    Batch MemoryCard.bank delivered (empty true) arrivals ∧ arrivals.reverse.Perm arrivals ∧
    let (steps, last) := (((empty true).perform MemoryCard.bank
      (arrivals.map fun x => .add x.1 x.2)).run delivered).value
    let (steps', last') := (((empty true).perform MemoryCard.bank
      (arrivals.reverse.map fun x => .add x.1 x.2)).run delivered).value
    ∃ new new', Additions MemoryCard.bank delivered (empty true) arrivals steps last new ∧
      Additions MemoryCard.bank delivered (empty true) arrivals.reverse steps' last' new' ∧
      Reordered steps last new steps' last' new' := by
  have hbatch : Batch MemoryCard.bank delivered (empty true) arrivals := by
    constructor
    case paths => decide +kernel
    case free =>
        rintro x - ⟨e, he, -⟩
        cases he
    case independent =>
        have hne : arrivals.Pairwise fun x y => x.2 ≠ y.2 := by decide
        exact hne.imp MemoryCard.independent_bank
    case room => decide +kernel
  have hperm : arrivals.reverse.Perm arrivals := List.reverse_perm arrivals
  exact ⟨hbatch, hperm, reordered_of_perform hbatch hperm⟩

end Registry

end Scanout
