/-
**Which nodes a probe registers.**

A probe opens the nodes of a list one after the other and registers what it can.  Four kinds of nodes are
passed over: those that are ignored, those that cannot be opened, those that are there already or have no
screens, and those that do not become devices.  None of them leaves a trace in the registry.  So, as long
as opening a node leads to the same thing whenever it happens, the fate of a node depends only on the nodes
that were registered before it, and a probe of the list without some of the others has the same outcome.

Main definitions:

* `Scanout.Host.Fresh` — opening a node leads to the same thing in every world;
* `Scanout.Host.Yields` — the device that a node leads to;
* `Scanout.Chosen` — the nodes that are probed;
* `Scanout.Registry.Trail` — what becomes of each node of a list;
* `Scanout.Registry.Probed` — what the trail of a probe says about its registry.

Main results:

* `Scanout.Registry.probeNode_cases` — a node is registered when it is admitted, and otherwise nothing
  happens;
* `Scanout.Registry.trail_of_probeAll` — every probe leaves a trail;
* `Scanout.Registry.Trail.anonymous_probeAll` — **nodes that are passed over do not matter**;
* `Scanout.Registry.probed_of_probe` — **how any probe of a fresh host ends**.
-/

import Scanout.Proofs.Registry.Numbering
import Scanout.Proofs.Survey
import Scanout.Registry.Probe

set_option relaxedAutoImplicit false
set_option autoImplicit false

namespace Scanout

variable {κ σ : Type} {H : Host κ σ} {c : Config} {path : Path} {first : DisplayId} {s u : σ}

/-! ### Devices without their cards -/

/-- What is known of a device, without the handle of its card. -/
def Device.anonymous (d : Device κ) : Device Unit :=
  ⟨(), d.capabilities, d.resources, d.assignment⟩

/-- What is known of a registry, without the handles of cards. -/
def Registry.anonymous (r : Registry κ) : Registry Unit :=
  ⟨r.entries.map fun e => (e.1, e.2.anonymous), r.next, r.scaleWithGpu⟩

/-! ### Where a node leads -/

namespace Host

/-- Opening a node leads to the same thing in every world: it fails in all of them or in none, and the
cards reply alike. -/
def Fresh (H : Host κ σ) : Prop :=
  ∀ path s t card s', H.openNode path s = (.ok card, s') →
    ∃ other t', H.openNode path t = (.ok other, t') ∧ H.kernel.Alike card s' other t'

/-- Opened in the world `u`, the node at a path gives a card that lists screens and becomes this device
when displays are numbered from `first`. -/
def Yields (H : Host κ σ) (u : σ) (path : Path) (first : DisplayId) (device : Device κ) : Prop :=
  ∃ card s t, H.openNode path u = (.ok card, s) ∧
    ListsScreens (H.kernel.answer card .resources s).1 ∧
    (Device.init H.kernel card first).Gives (H.kernel.answer card .resources s).2 device t

theorem Yields.unique {d e : Device κ} (hd : H.Yields u path first d) (he : H.Yields u path first e) :
    d = e := by
  obtain ⟨card, s, t, hopen, -, hvalue, -⟩ := hd
  obtain ⟨card', s', t', hopen', -, hvalue', -⟩ := he
  rw [hopen] at hopen'
  cases hopen'
  rw [hvalue] at hvalue'
  exact Except.ok.inj hvalue'

theorem Yields.numberedFrom {device : Device κ} (h : H.Yields u path first device) :
    device.NumberedFrom first := by
  obtain ⟨card, s, t, -, -, hgives⟩ := h
  exact Device.numberedFrom_of_gives_init hgives

/-- What a node of a fresh host leads to in one world, it leads to in any other. -/
theorem Fresh.yields (h : H.Fresh) {device : Device κ} (hs : H.Yields s path first device) (u : σ) :
    ∃ d, H.Yields u path first d ∧ d.anonymous = device.anonymous := by
  obtain ⟨card, s', t, hopen, hlists, hgives⟩ := hs
  obtain ⟨other, u', hopen', halike⟩ := h path s u card s' hopen
  obtain ⟨-, hsurvey, hassign⟩ := Device.gives_init_iff_survey.1 hgives
  obtain ⟨v, hsurvey', -⟩ := (halike.answer .resources).gives_survey hsurvey
  refine ⟨⟨other, device.capabilities, device.resources, device.assignment⟩, ?_, rfl⟩
  refine ⟨other, u', v, hopen', ?_, Device.gives_init_iff_survey.2 ⟨rfl, hsurvey', hassign⟩⟩
  rwa [← halike.reply .resources]

end Host

namespace Registry

variable {r q : Registry κ}

/-! ### One node -/

/-- In the world `u`, the node at a path is to be registered as this device: it is not ignored, no entry
has its path, and it leads to the device. -/
structure Admits (H : Host κ σ) (c : Config) (r : Registry κ) (path : Path) (device : Device Unit)
    (u : σ) : Prop where
  heeded : c.ignores path = false
  free : ¬ r.Occupied path
  yields : ∃ d, H.Yields u path r.next d ∧ d.anonymous = device

theorem Admits.unique {d e : Device Unit} (hd : Admits H c r path d u) (he : Admits H c r path e u) :
    d = e := by
  obtain ⟨device, hdevice, rfl⟩ := hd.yields
  obtain ⟨device', hdevice', rfl⟩ := he.yields
  rw [hdevice.unique hdevice']

theorem Admits.numberedFrom {d : Device κ} (h : Admits H c r path d.anonymous u) :
    d.NumberedFrom r.next := by
  obtain ⟨device, hdevice, hsame⟩ := h.yields
  have hassign : d.assignment = device.assignment := (congrArg (·.assignment) hsame).symm
  obtain ⟨hroom, hdisplays, hnext⟩ := hdevice.numberedFrom
  have hcount : d.displayCount = device.displayCount := congrArg Routing.Assignment.size hassign
  refine ⟨hcount ▸ hroom, ?_, ?_⟩
  · rw [hcount, ← hdisplays, Device.displays, hassign]
    rfl
  · rw [hcount, ← hnext, Device.nextDisplay, hassign]
    rfl

theorem map_fst_anonymous (r : Registry κ) : r.anonymous.entries.map (·.1) = r.entries.map (·.1) := by
  rw [anonymous, List.map_map]
  rfl

theorem occupied_congr (h : r.anonymous = q.anonymous) : r.Occupied path ↔ q.Occupied path := by
  have hpaths : r.entries.map (·.1) = q.entries.map (·.1) := by
    rw [← map_fst_anonymous, h, map_fst_anonymous]
  have hiff : ∀ p : Registry κ, p.Occupied path ↔
      ∃ x ∈ p.entries.map (·.1), x.components = path.components := by
    intro p
    simp only [Occupied, List.mem_map, exists_exists_and_eq_and]
  rw [hiff, hiff, hpaths]

theorem Admits.congr (h : r.anonymous = q.anonymous) {d : Device Unit} (hd : Admits H c r path d u) :
    Admits H c q path d u := by
  have hnext : r.next = q.next := congrArg (·.next) h
  exact ⟨hd.heeded, (occupied_congr h).not.1 hd.free, hnext ▸ hd.yields⟩

theorem anonymous_append (h : r.anonymous = q.anonymous) {d e : Device κ}
    (hd : d.anonymous = e.anonymous) : (r.append path d).anonymous = (q.append path e).anonymous := by
  have hentries : r.anonymous.entries = q.anonymous.entries := congrArg (·.entries) h
  have hscale : r.scaleWithGpu = q.scaleWithGpu := congrArg (·.scaleWithGpu) h
  have hnext : d.nextDisplay = e.nextDisplay := congrArg (·.assignment.next) hd
  simp only [anonymous, append, List.map_append, List.map_singleton, Registry.mk.injEq] at hentries ⊢
  rw [hentries, hd]
  exact ⟨rfl, hnext, hscale⟩

/-- Registers an opened card, if it can be. -/
def tryCard (K : Kernel κ σ) (r : Registry κ) (path : Path) (card : κ) :
    Action κ σ (Registry κ) := do
  match ← (r.add K path card).run with
  | .error e =>
    Action.warn e.chain.report
    return r
  | .ok (_, r') => return r'

section Node

variable {K : Kernel κ σ} {card : κ} {t : σ}

theorem about_tryCard : (tryCard K r path card).About K card := by
  refine .bind about_add fun s => ?_
  cases ((r.add K path card).run.run s).value with
  | error e => exact .bind (.log _ _) fun _ => .pure _
  | ok result => exact .pure _

theorem value_tryCard : ((tryCard K r path card).run s).value =
    match ((r.add K path card).run.run s).value with
    | .ok (_, r') => r'
    | .error _ => r := by
  rw [tryCard, Action.run_bind]
  cases ((r.add K path card).run.run s).value with
  | error e => rfl
  | ok result => rfl

theorem run_probeNode_of_ignored (h : c.ignores path = true) :
    ∃ line, (r.probeNode H c path).run s = ⟨r, s, [.logged .debug line]⟩ := by
  rw [probeNode, if_pos h]
  exact ⟨_, rfl⟩

theorem run_openCard : (H.openCard path).run.run s =
    ⟨(H.openNode path s).1.mapError (.noDevice path), (H.openNode path s).2, [.opened path]⟩ := rfl

theorem run_probeNode_of_error (h : c.ignores path = false) {e : SystemError}
    (hopen : H.openNode path s = (.error e, t)) :
    ∃ line, (r.probeNode H c path).run s = ⟨r, t, [.opened path, .logged .warn line]⟩ := by
  rw [probeNode, if_neg (Bool.eq_false_iff.1 h), Action.run_bind, run_openCard, hopen]
  exact ⟨_, rfl⟩

theorem run_probeNode_of_ok (h : c.ignores path = false)
    (hopen : H.openNode path s = (.ok card, t)) : (r.probeNode H c path).run s =
      ⟨((tryCard H.kernel r path card).run t).value, ((tryCard H.kernel r path card).run t).state,
        .opened path :: ((tryCard H.kernel r path card).run t).events⟩ := by
  rw [probeNode, if_neg (Bool.eq_false_iff.1 h), Action.run_bind, run_openCard, hopen]
  rfl

/-- Every node that is not ignored is opened, once. -/
theorem opened_probeNode : ((r.probeNode H c path).run s).events.filterMap Event.path? =
    if c.ignores path then [] else [path] := by
  cases hignored : c.ignores path with
  | true =>
      obtain ⟨line, hrun⟩ := run_probeNode_of_ignored (r := r) (H := H) (s := s) hignored
      rw [hrun]
      rfl
  | false =>
      obtain ⟨⟨reply, t⟩, hopen⟩ : ∃ x, H.openNode path s = x := ⟨_, rfl⟩
      cases reply with
      | error e =>
          obtain ⟨line, hrun⟩ := run_probeNode_of_error (r := r) hignored hopen
          rw [hrun]
          rfl
      | ok card =>
          rw [run_probeNode_of_ok hignored hopen]
          have habout : (tryCard H.kernel r path card).About H.kernel card := about_tryCard
          have hnone := List.filterMap_eq_nil_iff.2 (habout.indoors t)
          exact congrArg (path :: ·) hnone

theorem value_probeNode_of_yields (hheeded : c.ignores path = false) (hfree : ¬ r.Occupied path)
    {device : Device κ} (h : H.Yields s path r.next device) :
    ((r.probeNode H c path).run s).value = r.append path device := by
  obtain ⟨card, t, t', hopen, hlists, hgives⟩ := h
  have hadd := value_add_eq_ok_iff.2 ⟨hfree, hlists, device, t', hgives, rfl, rfl⟩
  rw [run_probeNode_of_ok hheeded hopen]
  exact value_tryCard.trans (by rw [hadd])

theorem value_probeNode_of_not (h : ∀ device, c.ignores path = false → ¬ r.Occupied path →
    ¬ H.Yields s path r.next device) : ((r.probeNode H c path).run s).value = r := by
  cases hignored : c.ignores path with
  | true =>
      obtain ⟨line, hrun⟩ := run_probeNode_of_ignored (r := r) (H := H) (s := s) hignored
      rw [hrun]
  | false =>
      obtain ⟨⟨reply, t⟩, hopen⟩ : ∃ x, H.openNode path s = x := ⟨_, rfl⟩
      cases reply with
      | error e =>
          obtain ⟨line, hrun⟩ := run_probeNode_of_error (r := r) hignored hopen
          rw [hrun]
      | ok card =>
          rw [run_probeNode_of_ok hignored hopen]
          refine value_tryCard.trans ?_
          cases hadd : ((r.add H.kernel path card).run.run t).value with
          | error e => rfl
          | ok result =>
              obtain ⟨hfree, hlists, device, t', hgives, -, -⟩ := value_add_eq_ok_iff.1 hadd
              exact absurd ⟨card, t, t', hopen, hlists, hgives⟩ (h device hignored hfree)

end Node

/-- **A node is registered when it is admitted, and otherwise nothing happens.** -/
theorem probeNode_cases (hfresh : H.Fresh) (c : Config) (r : Registry κ) (path : Path) (s : σ) :
    (∃ device, ((r.probeNode H c path).run s).value = r.append path device ∧
      ∀ u, Admits H c r path device.anonymous u) ∨
    ((r.probeNode H c path).run s).value = r ∧ ∀ d u, ¬ Admits H c r path d u := by
  by_cases h : ∃ d, Admits H c r path d s
  · obtain ⟨d, hheeded, hfree, device, hdevice, -⟩ := h
    refine .inl ⟨device, value_probeNode_of_yields hheeded hfree hdevice, fun u => ?_⟩
    exact ⟨hheeded, hfree, hfresh.yields hdevice u⟩
  · refine .inr ⟨value_probeNode_of_not fun device hheeded hfree hdevice => ?_, fun d u hd => ?_⟩
    · exact h ⟨_, hheeded, hfree, device, hdevice, rfl⟩
    · obtain ⟨device, hdevice, -⟩ := hd.yields
      exact h ⟨_, hd.heeded, hd.free, hfresh.yields hdevice s⟩

/-! ### Trails -/

/-- What becomes of each node of a list when they are probed in order: the device that is registered for
it, if there is one. -/
inductive Trail (H : Host κ σ) (c : Config) :
    Registry κ → List (Path × Option (Device κ)) → Registry κ → Prop where
  | done (r : Registry κ) : Trail H c r [] r
  | registered {r last : Registry κ} {path : Path} {device : Device κ}
      {rest : List (Path × Option (Device κ))} (admitted : ∀ u, Admits H c r path device.anonymous u)
      (later : Trail H c (r.append path device) rest last) :
      Trail H c r ((path, some device) :: rest) last
  | skipped {r last : Registry κ} {path : Path} {rest : List (Path × Option (Device κ))}
      (barred : ∀ d u, ¬ Admits H c r path d u) (later : Trail H c r rest last) :
      Trail H c r ((path, none) :: rest) last

/-- The entries that a trail leads to. -/
def entriesOf (trail : List (Path × Option (Device κ))) : List (Path × Device κ) :=
  trail.filterMap fun x => x.2.map (x.1, ·)

/-- Every probe leaves a trail. -/
theorem trail_of_probeAll (hfresh : H.Fresh) (c : Config) (paths : List Path) :
    ∀ (r : Registry κ) (s : σ), ∃ trail, trail.map (·.1) = paths ∧
      Trail H c r trail ((r.probeAll H c paths).run s).value := by
  induction paths with
  | nil => exact fun r s => ⟨[], rfl, .done r⟩
  | cons path paths ih =>
      intro r s
      rw [probeAll, Action.run_bind]
      rcases probeNode_cases hfresh c r path s with ⟨device, hvalue, hadmitted⟩ | ⟨hvalue, hbarred⟩
      · rw [hvalue]
        obtain ⟨trail, rfl, htrail⟩ := ih (r.append path device) ((r.probeNode H c path).run s).state
        exact ⟨(path, some device) :: trail, rfl, .registered hadmitted htrail⟩
      · rw [hvalue]
        obtain ⟨trail, rfl, htrail⟩ := ih r ((r.probeNode H c path).run s).state
        exact ⟨(path, none) :: trail, rfl, .skipped hbarred htrail⟩

theorem opened_probeAll (H : Host κ σ) (c : Config) (paths : List Path) :
    ∀ (r : Registry κ) (s : σ), ((r.probeAll H c paths).run s).events.filterMap Event.path? =
      paths.filter (!c.ignores ·) := by
  induction paths with
  | nil => exact fun _ _ => rfl
  | cons path paths ih =>
      intro r s
      rw [probeAll, Action.run_bind, List.filterMap_append, opened_probeNode, ih, List.filter_cons]
      cases c.ignores path with
      | true => rfl
      | false => rfl

namespace Trail

variable {last : Registry κ} {trail l₁ l₂ : List (Path × Option (Device κ))}

theorem entries_eq (h : Trail H c r trail last) : last.entries = r.entries ++ entriesOf trail := by
  induction h with
  | done r => exact (List.append_nil _).symm
  | registered admitted later ih =>
      rw [ih, append, List.append_assoc]
      rfl
  | skipped barred later ih => exact ih

theorem split (h : Trail H c r (l₁ ++ l₂) last) :
    ∃ mid, Trail H c r l₁ mid ∧ Trail H c mid l₂ last := by
  induction l₁ generalizing r with
  | nil => exact ⟨r, .done r, h⟩
  | cons x l₁ ih =>
      cases h with
      | registered admitted later =>
          obtain ⟨mid, hfirst, hsecond⟩ := ih later
          exact ⟨mid, .registered admitted hfirst, hsecond⟩
      | skipped barred later =>
          obtain ⟨mid, hfirst, hsecond⟩ := ih later
          exact ⟨mid, .skipped barred hfirst, hsecond⟩

/-- The first node of a trail is registered when it is admitted. -/
theorem isSome_iff {found : Option (Device κ)} (h : Trail H c r ((path, found) :: trail) last)
    (u : σ) : found.isSome = true ↔ ∃ d, Admits H c r path d u := by
  cases h with
  | registered admitted later => exact ⟨fun _ => ⟨_, admitted u⟩, fun _ => rfl⟩
  | skipped barred later =>
      constructor
      · intro h
        cases h
      · rintro ⟨d, hd⟩
        exact absurd hd (barred d u)

theorem admits {device : Device κ} (h : Trail H c r ((path, some device) :: trail) last) (u : σ) :
    Admits H c r path device.anonymous u := by
  cases h with
  | registered admitted later => exact admitted u

theorem scaleWithGpu_eq (h : Trail H c r trail last) : last.scaleWithGpu = r.scaleWithGpu := by
  induction h with
  | done r => rfl
  | registered admitted later ih => exact ih
  | skipped barred later ih => exact ih

/-- **Nodes that are passed over do not matter**: a probe without some of them has the same outcome. -/
theorem anonymous_probeAll (hfresh : H.Fresh) (h : Trail H c r trail last) :
    ∀ {kept : List (Path × Option (Device κ))} {q : Registry κ} (u : σ), kept.Sublist trail →
      entriesOf kept = entriesOf trail → q.anonymous = r.anonymous →
      ((q.probeAll H c (kept.map (·.1))).run u).value.anonymous = last.anonymous := by
  induction h with
  | done r =>
      intro kept q u hkept _ hq
      obtain rfl := List.sublist_nil.1 hkept
      exact hq
  | @registered r last path device rest admitted later ih =>
      intro kept q u hkept hsame hq
      cases hkept with
      | cons _ hkept =>
          -- a registered node cannot be left out: there would be too few entries
          have hle := (hkept.filterMap fun x => x.2.map (x.1, ·)).length_le
          change (entriesOf kept).length ≤ (entriesOf rest).length at hle
          rw [hsame] at hle
          exact absurd hle (Nat.not_succ_le_self _)
      | cons_cons _ hkept =>
          rw [List.map_cons, probeAll, Action.run_bind]
          rcases probeNode_cases hfresh c q path u with ⟨device', hvalue, hadmits⟩ | ⟨-, hbarred⟩
          · rw [hvalue]
            refine ih _ hkept (List.cons.inj hsame).2 (anonymous_append hq ?_)
            exact ((hadmits u).congr hq).unique (admitted u)
          · exact absurd ((admitted u).congr hq.symm) (hbarred _ _)
  | @skipped r last path rest barred later ih =>
      intro kept q u hkept hsame hq
      cases hkept with
      | cons _ hkept => exact ih u hkept hsame hq
      | cons_cons _ hkept =>
          rw [List.map_cons, probeAll, Action.run_bind]
          rcases probeNode_cases hfresh c q path u with ⟨device', -, hadmits⟩ | ⟨hvalue, -⟩
          · exact absurd ((hadmits u).congr hq) (barred _ _)
          · rw [hvalue]
            exact ih _ hkept hsame hq

/-- Displays are numbered without a gap along the way. -/
theorem displays_eq (h : Trail H c r trail last) (hr : r.displays = DisplayId.zero.block r.next.val.toNat)
    (u : σ) : last.displays = DisplayId.zero.block last.next.val.toNat := by
  induction h with
  | done r => exact hr
  | registered admitted later ih => exact ih (displays_append_eq_block hr (admitted u).numberedFrom)
  | skipped barred later ih => exact ih hr

end Trail

/-! ### The nodes that are probed -/

end Registry

/-- The nodes that are probed: the configured ones, or else the GPUs of the seat. -/
inductive Chosen (gpus : GpuAnswers) (c : Config) : List Path → Prop where
  /-- Nodes are configured. -/
  | configured (some : c.devices ≠ []) : Chosen gpus c c.devices
  /-- The primary GPU is listed; it goes to the front and the others keep their order. -/
  | primaryFirst {before after : List Path} {node primary : Path} (none : c.devices = [])
      (listed : gpus.nodes c.seatName = .ok (before ++ node :: after))
      (known : gpus.primary c.seatName = .ok (.some primary))
      (found : node.components = primary.components)
      (first : ∀ p ∈ before, p.components ≠ primary.components) :
      Chosen gpus c (node :: (before ++ after))
  /-- No primary GPU is listed; the list stays as it is. -/
  | asListed {paths : List Path} (none : c.devices = [])
      (listed : gpus.nodes c.seatName = .ok paths)
      (absent : ∀ primary, gpus.primary c.seatName = .ok (.some primary) →
        ∀ p ∈ paths, p.components ≠ primary.components) : Chosen gpus c paths

theorem chosen_moveToFront {gpus : GpuAnswers} {paths : List Path} {primary : Path}
    (hnone : c.devices = []) (hlisted : gpus.nodes c.seatName = .ok paths)
    (hknown : gpus.primary c.seatName = .ok (some primary)) :
    Chosen gpus c (moveToFront primary paths) := by
  unfold moveToFront
  cases hi : paths.findIdx? (· == primary) with
  | none =>
      refine .asListed hnone hlisted fun other hother p hp => ?_
      rw [hknown] at hother
      cases hother
      exact fun hsame => absurd (Path.beq_iff.2 hsame)
        (Bool.eq_false_iff.1 (List.findIdx?_eq_none_iff.1 hi p hp))
  | some i =>
      obtain ⟨hlt, hfound, hfirst⟩ := List.findIdx?_eq_some_iff_getElem.1 hi
      have hsplit : paths = paths.take i ++ paths[i] :: paths.drop (i + 1) := by
        rw [List.getElem_cons_drop, List.take_append_drop]
      simp only [List.getElem?_eq_getElem hlt, Option.toList_some, List.eraseIdx_eq_take_drop_succ,
        List.singleton_append]
      refine .primaryFirst hnone (hsplit ▸ hlisted) hknown (Path.beq_iff.1 hfound) fun p hp => ?_
      obtain ⟨j, hj, rfl⟩ := List.mem_take_iff_getElem.1 hp
      exact fun hsame => hfirst j (by omega) (Path.beq_iff.2 hsame)

theorem run_arrange {gpus : GpuAnswers} {paths : List Path} (hnone : c.devices = [])
    (hlisted : gpus.nodes c.seatName = .ok paths) (s : σ) : ∃ chosen level line, Chosen gpus c chosen ∧
      (arrange gpus c.seatName paths : Action κ σ _).run s = ⟨chosen, s, [.logged level line]⟩ := by
  unfold arrange
  cases hprimary : gpus.primary c.seatName with
  | error e => exact ⟨paths, _, _, .asListed hnone hlisted (by simp [hprimary]), rfl⟩
  | ok primary =>
      cases primary with
      | none => exact ⟨paths, _, _, .asListed hnone hlisted (by simp [hprimary]), rfl⟩
      | some primary => exact ⟨_, _, _, chosen_moveToFront hnone hlisted hprimary, rfl⟩

/-- Choosing nodes fails only when none are configured and none can be listed; it opens none. -/
theorem candidates_cases (gpus : GpuAnswers) (c : Config) (s : σ) :
    (∃ e, c.devices = [] ∧ gpus.nodes c.seatName = .error e ∧
      (candidates gpus c : Attempt κ σ _ _).run.run s = ⟨.error (.enumeration e), s, []⟩) ∨
    ∃ paths lines, Chosen gpus c paths ∧ (∀ e ∈ lines, e.path? = none) ∧
      (candidates gpus c : Attempt κ σ _ _).run.run s = ⟨.ok paths, s, lines⟩ := by
  unfold candidates
  cases hdevices : c.devices with
  | cons path paths =>
      have hchosen : Chosen gpus c c.devices := .configured (by simp [hdevices])
      exact .inr ⟨_, [], hdevices ▸ hchosen, List.forall_mem_nil _, rfl⟩
  | nil =>
      cases hlisted : gpus.nodes c.seatName with
      | error e => exact .inl ⟨e, rfl, rfl, rfl⟩
      | ok paths =>
          obtain ⟨chosen, level, line, hchosen, hrun⟩ := run_arrange (κ := κ) hdevices hlisted s
          refine .inr ⟨chosen, [.logged level line], hchosen, List.forall_mem_singleton.2 rfl, ?_⟩
          change (ExceptT.lift (arrange gpus c.seatName paths) : Attempt κ σ ProbeError _).run.run s = _
          rw [ExceptT.run_lift, map_eq_pure_bind, Action.run_bind, hrun]
          rfl

/-! ### A shelf of cards in memory -/

namespace MemoryCard

/-- A host on which opening a node takes a copy of a card in memory off a shelf. -/
def shelf (nodes : Path → Except SystemError MemoryCard) : Host Nat (List MemoryCard) where
  kernel := bank
  openNode path cards :=
    match nodes path with
    | .error e => (.error e, cards)
    | .ok m => (.ok cards.length, cards ++ [m])

section Shelf

variable {nodes : Path → Except SystemError MemoryCard}

theorem openNode_shelf_of_error {e : SystemError} (h : nodes path = .error e) (cards : List MemoryCard) :
    (shelf nodes).openNode path cards = (.error e, cards) := by
  simp only [shelf, h]

theorem openNode_shelf_of_ok {m : MemoryCard} (h : nodes path = .ok m) (cards : List MemoryCard) :
    (shelf nodes).openNode path cards = (.ok cards.length, cards ++ [m]) := by
  simp only [shelf, h]

theorem shelf_fresh (nodes : Path → Except SystemError MemoryCard) : (shelf nodes).Fresh := by
  intro path s t card s' hopen
  cases hnode : nodes path with
  | error e =>
      rw [openNode_shelf_of_error hnode] at hopen
      cases hopen
  | ok m =>
      rw [openNode_shelf_of_ok hnode] at hopen
      cases hopen
      exact ⟨_, _, openNode_shelf_of_ok hnode t, alike_bank (by simp)⟩

end Shelf

end MemoryCard

namespace Registry

/-! ### How a probe ends -/

/-- What the trail of a probe says about its registry. -/
structure Probed (H : Host κ σ) (c : Config) (trail : List (Path × Option (Device κ)))
    (r : Registry κ) : Prop where
  /-- The entries are those of the registered nodes, in order. -/
  entries_eq : r.entries = entriesOf trail
  /-- A node is registered when it is not ignored, no node registered before has its path, and it leads
  to a device that goes on with the numbering, whatever the world it is opened in. -/
  registered_iff : ∀ l₁ path found l₂, trail = l₁ ++ (path, found) :: l₂ → ∀ u : σ,
    (found.isSome = true ↔ (∀ p ∈ c.ignored, p.components ≠ path.components) ∧
      (∀ e ∈ entriesOf l₁, e.1.components ≠ path.components) ∧
      ∃ d, H.Yields u path
        (DisplayId.zero.advance ((entriesOf l₁).flatMap (·.2.displays)).length) d)
  /-- It is registered as this device. -/
  device_eq : ∀ l₁ path device l₂, trail = l₁ ++ (path, some device) :: l₂ → ∀ u : σ,
    ∃ d, H.Yields u path
      (DisplayId.zero.advance ((entriesOf l₁).flatMap (·.2.displays)).length) d ∧
      d.anonymous = device.anonymous
  /-- Displays are numbered from 0 without a gap, in the order of the entries. -/
  displays_eq : r.displays.map (·.val.toNat) = List.range r.displays.length
  next_eq : r.next.val.toNat = r.displays.length
  scaleWithGpu_eq : r.scaleWithGpu = c.scaleWithGpu
  /-- A probe without some of the nodes that were not registered has the same outcome. -/
  robust : ∀ kept : List (Path × Option (Device κ)), kept.Sublist trail →
    entriesOf kept = entriesOf trail → ∀ u : σ,
    (((empty c.scaleWithGpu).probeAll H c (kept.map (·.1))).run u).value.anonymous = r.anonymous

/-- A node that is ignored, has the path of a node registered before or leads nowhere is passed over. -/
theorem Probed.found_eq_none {trail : List (Path × Option (Device κ))} {r : Registry κ}
    (h : Probed H c trail r) (l₁ l₂ : List (Path × Option (Device κ))) {found : Option (Device κ)}
    (htrail : trail = l₁ ++ (path, found) :: l₂) (u : σ)
    (hbarred : (∃ p ∈ c.ignored, p.components = path.components) ∨
      (∃ e ∈ entriesOf l₁, e.1.components = path.components) ∨ ∀ first d, ¬ H.Yields u path first d) :
    found = none := by
  refine Option.not_isSome_iff_eq_none.1 fun hsome => ?_
  obtain ⟨hheeded, hfree, d, hd⟩ := (h.registered_iff l₁ path found l₂ htrail u).1 hsome
  rcases hbarred with ⟨p, hp, hsame⟩ | ⟨e, he, hsame⟩ | hnowhere
  · exact hheeded p hp hsame
  · exact hfree e he hsame
  · exact hnowhere _ d hd

theorem ignores_eq_false_iff :
    c.ignores path = false ↔ ∀ p ∈ c.ignored, p.components ≠ path.components := by
  rw [Config.ignores, List.any_eq_false]
  simp only [Path.beq_iff, ne_eq]

namespace Trail

variable {r : Registry κ} {trail l₁ l₂ : List (Path × Option (Device κ))} {found : Option (Device κ)}

/-- Before each node the registry holds what was registered so far, and the numbering goes on from
there. -/
theorem before (h : Trail H c (empty c.scaleWithGpu) (l₁ ++ (path, found) :: l₂) r) (u : σ) :
    ∃ mid, Trail H c mid ((path, found) :: l₂) r ∧ mid.entries = entriesOf l₁ ∧
      mid.next = DisplayId.zero.advance ((entriesOf l₁).flatMap (·.2.displays)).length := by
  obtain ⟨mid, hfirst, hsecond⟩ := h.split
  have hentries : mid.entries = entriesOf l₁ := hfirst.entries_eq
  have hdisplays := hfirst.displays_eq rfl u
  rw [displays, hentries] at hdisplays
  refine ⟨mid, hsecond, hentries, ?_⟩
  rw [hdisplays, DisplayId.length_block, DisplayId.zero_advance]

theorem probed (hfresh : H.Fresh) (h : Trail H c (empty c.scaleWithGpu) trail r) (s : σ) :
    Probed H c trail r := by
  have hdisplays := h.displays_eq rfl s
  have hlen : r.displays.length = r.next.val.toNat := by rw [hdisplays, DisplayId.length_block]
  constructor
  case entries_eq => exact h.entries_eq
  case registered_iff =>
      rintro l₁ path found l₂ rfl u
      obtain ⟨mid, hnode, hentries, hnext⟩ := h.before u
      rw [hnode.isSome_iff u, ← ignores_eq_false_iff, ← hnext]
      constructor
      · rintro ⟨_, hheeded, hfree, d, hd, -⟩
        refine ⟨hheeded, fun e he hsame => hfree ⟨e, ?_, hsame⟩, d, hd⟩
        rwa [hentries]
      · rintro ⟨hheeded, hfree, d, hd⟩
        refine ⟨_, hheeded, ?_, d, hd, rfl⟩
        rintro ⟨e, he, hsame⟩
        rw [hentries] at he
        exact hfree e he hsame
  case device_eq =>
      rintro l₁ path device l₂ rfl u
      obtain ⟨mid, hnode, -, hnext⟩ := h.before u
      rw [← hnext]
      exact (hnode.admits u).yields
  case displays_eq =>
      rw [hlen, hdisplays, DisplayId.map_toNat_block r.next.hasRoom_zero_toNat]
      exact List.range_eq_range'.symm
  case next_eq => exact hlen.symm
  case scaleWithGpu_eq => exact h.scaleWithGpu_eq
  case robust => exact fun kept hkept hsame u => h.anonymous_probeAll hfresh u hkept hsame rfl

end Trail

/-- **How any probe of a fresh host ends.** -/
theorem probed_of_probe (hfresh : H.Fresh) (gpus : GpuAnswers) (c : Config) (s : σ) :
    match ((probe H gpus c).run.run s).value with
    | .error e => c.devices = [] ∧ ∃ cause, gpus.nodes c.seatName = .error cause ∧
        e = .enumeration cause
    | .ok r => ∃ paths trail, Chosen gpus c paths ∧ trail.map (·.1) = paths ∧ Probed H c trail r ∧
        ((probe H gpus c).run.run s).events.filterMap Event.path? = paths.filter (!c.ignores ·) ∧
        ∀ path ∈ ((probe H gpus c).run.run s).events.filterMap Event.path?,
          ∀ p ∈ c.ignored, p.components ≠ path.components := by
  rcases candidates_cases (κ := κ) gpus c s with
    ⟨e, hnone, hnodes, hrun⟩ | ⟨paths, lines, hchosen, hlines, hrun⟩
  · have hprobe : (probe H gpus c).run.run s = ⟨.error (.enumeration e), s, []⟩ := by
      rw [probe, ExceptT.run_bind, Action.run_bind, hrun]
      rfl
    rw [hprobe]
    exact ⟨hnone, e, hnodes, rfl⟩
  · obtain ⟨trail, hpaths, htrail⟩ := trail_of_probeAll hfresh c paths (empty c.scaleWithGpu) s
    have hopened := opened_probeAll H c paths (empty c.scaleWithGpu) s
    have hprobe : (probe H gpus c).run.run s =
        ⟨.ok (((empty c.scaleWithGpu).probeAll H c paths).run s).value,
          (((empty c.scaleWithGpu).probeAll H c paths).run s).state,
          lines ++ (((empty c.scaleWithGpu).probeAll H c paths).run s).events⟩ := by
      rw [probe, ExceptT.run_bind, Action.run_bind, hrun]
      simp only [ExceptT.run_lift, map_eq_pure_bind, Action.run_bind, Action.run_pure,
        List.append_nil]
    have hevents : ((probe H gpus c).run.run s).events.filterMap Event.path? =
        paths.filter (!c.ignores ·) := by
      rw [hprobe, List.filterMap_append, List.filterMap_eq_nil_iff.2 hlines, hopened]
      rfl
    rw [hevents, hprobe]
    refine ⟨paths, trail, hchosen, hpaths, htrail.probed hfresh s, rfl, fun path hpath => ?_⟩
    exact ignores_eq_false_iff.1 (Bool.not_eq_true' _ ▸ (List.mem_filter.1 hpath).2)

/-! ### The shelf with a laptop -/

/-- A shelf with a card that has screens and one that has none; nothing else can be opened. -/
def stocked : Path → Except SystemError MemoryCard := fun path =>
  if path == .ofString "/dev/dri/card0" then .ok .laptop
  else if path == .ofString "/dev/dri/card1" then .ok .blank
  else .error (.os 13)

/-- The pipeline of the panel of the card `laptop`. -/
def panel : Pipeline where
  display := .zero
  connector := ⟨40, 0, .embeddedDisplayPort, 1, .connected, some 30, [30], 1004⟩
  encoder := ⟨30, 0, some 20, 0b01⟩
  crtc := ⟨20, 0, none, 1000, 1001⟩

/-- The pipeline of its monitor. -/
def monitor : Pipeline where
  display := ⟨1⟩
  connector := ⟨41, 1, .hdmiA, 1, .connected, none, [30, 31], 1005⟩
  encoder := ⟨31, 1, none, 0b10⟩
  crtc := ⟨21, 1, none, 1002, 1003⟩

/-- What can be read of the card. -/
def laptopProblem : Routing.Problem :=
  ⟨[panel.connector, monitor.connector], [panel.encoder, monitor.encoder], [panel.crtc, monitor.crtc]⟩

theorem exists_assign_laptopProblem : ∃ a, Routing.assign laptopProblem .zero = .ok a ∧
    a.pipes = [(.zero, ⟨0, 0, 0⟩), (⟨1⟩, ⟨1, 1, 1⟩)] := by
  have hgreedy : laptopProblem.greedy = .ok [(0, 0), (1, 1)] := rfl
  have horder : displayOrder laptopProblem.connectors = [0, 1] := by
    rw [displayOrder, List.mergeSort_of_pairwise (by decide)]
    rfl
  refine ⟨_, Routing.assign_eq_ok_iff.2
    ⟨show DisplayId.zero.HasRoom laptopProblem.connectors.length by decide, _, hgreedy, rfl⟩, ?_⟩
  simp only [Routing.Assignment.ofGrants, Routing.grants, Routing.plannedDisplay, horder]
  rw [Routing.inDisplayOrder, List.mergeSort_of_pairwise (by decide)]
  rfl

theorem exists_yields_stocked : ∃ device,
    (MemoryCard.shelf stocked).Yields [] (.ofString "/dev/dri/card0") .zero device ∧
    device.pipelines = [panel, monitor] := by
  have hlaptop : stocked (.ofString "/dev/dri/card0") = .ok .laptop := if_pos (by decide +kernel)
  obtain ⟨a, hassign, hpipes⟩ := exists_assign_laptopProblem
  refine ⟨⟨0, _, ⟨_, _, _, _, _, _⟩, a⟩, ⟨0, _, _, MemoryCard.openNode_shelf_of_ok hlaptop [],
    ⟨_, rfl, List.cons_ne_nil _ _, List.cons_ne_nil _ _, List.cons_ne_nil _ _⟩,
    Device.gives_init_iff.2 ⟨rfl, _, ⟨rfl, rfl⟩, ⟨rfl, rfl⟩, hassign⟩⟩, ?_⟩
  rw [Device.pipelines, hpipes]
  rfl

theorem not_yields_of_error {nodes : Path → Except SystemError MemoryCard} {e : SystemError}
    (h : nodes path = .error e) {u : List MemoryCard} {device : Device Nat} :
    ¬ (MemoryCard.shelf nodes).Yields u path first device := by
  rintro ⟨card, s, t, hopen, -, -⟩
  rw [MemoryCard.openNode_shelf_of_error h] at hopen
  cases hopen

theorem not_yields_of_blank {nodes : Path → Except SystemError MemoryCard} (h : nodes path = .ok .blank)
    {u : List MemoryCard} {device : Device Nat} :
    ¬ (MemoryCard.shelf nodes).Yields u path first device := by
  rintro ⟨card, s, t, hopen, ⟨listed, hlisted, hcrtcs, -⟩, -⟩
  rw [MemoryCard.openNode_shelf_of_ok h] at hopen
  cases hopen
  have hheld : (u ++ [MemoryCard.blank])[u.length]? = some .blank := by simp
  have hreply := congrArg Prod.fst (MemoryCard.answer_bank hheld .resources)
  cases hreply.symm.trans hlisted
  exact hcrtcs rfl

/-- GPUs of which the second is the primary one, spelled in another way, and there twice. -/
def sundry : GpuAnswers where
  nodes _ := .ok (["/dev/dri/card1", "/dev/dri/card0", "/dev//dri/card0", "/dev/dri/card7",
    "/dev/dri/card9"].map .ofString)
  primary _ := .ok (some (.ofString "/dev/dri/./card0"))

/-- A configuration that takes the GPUs of the seat but for one. -/
def choosy : Config := ⟨[], [.ofString "/dev/dri//card9"], none, true⟩

theorem eq_of_chosen_sundry {paths : List Path} (h : Chosen sundry choosy paths) :
    paths = ["/dev/dri/card0", "/dev/dri/card1", "/dev//dri/card0", "/dev/dri/card7",
      "/dev/dri/card9"].map .ofString := by
  have hprimary : (Path.ofString "/dev/dri/card0").components =
      (Path.ofString "/dev/dri/./card0").components := by decide +kernel
  cases h with
  | configured some => exact absurd rfl some
  | asListed none listed absent =>
      cases listed
      exact absurd hprimary (absent _ rfl _ (by simp))
  | @primaryFirst before after node primary none listed known found first =>
      cases known
      have hlisted := Except.ok.inj listed
      rcases before with _ | ⟨one, _ | ⟨two, before⟩⟩
      · obtain ⟨rfl, -⟩ := List.cons.inj hlisted
        exact absurd found (by decide +kernel)
      · obtain ⟨rfl, hrest⟩ := List.cons.inj hlisted
        obtain ⟨rfl, rfl⟩ := List.cons.inj hrest
        rfl
      · obtain ⟨rfl, hrest⟩ := List.cons.inj hlisted
        obtain ⟨rfl, -⟩ := List.cons.inj hrest
        exact absurd hprimary (first _ (by simp))

/-- What becomes of each GPU: the first one is the laptop, and of the others one has no screens, one is there
already, one cannot be opened and one is ignored. -/
theorem trail_of_sundry {r : Registry Nat} {trail : List (Path × Option (Device Nat))}
    (h : Probed (MemoryCard.shelf stocked) choosy trail r)
    (hpaths : trail.map (·.1) = ["/dev/dri/card0", "/dev/dri/card1", "/dev//dri/card0", "/dev/dri/card7",
      "/dev/dri/card9"].map .ofString) :
    ∃ device, device.pipelines = [panel, monitor] ∧ trail = [(.ofString "/dev/dri/card0", some device),
      (.ofString "/dev/dri/card1", none), (.ofString "/dev//dri/card0", none),
      (.ofString "/dev/dri/card7", none), (.ofString "/dev/dri/card9", none)] := by
  obtain ⟨⟨_, found⟩, _, rfl, rfl, h₁⟩ := List.map_eq_cons_iff.1 hpaths
  obtain ⟨⟨_, blank⟩, _, rfl, rfl, h₂⟩ := List.map_eq_cons_iff.1 h₁
  obtain ⟨⟨_, again⟩, _, rfl, rfl, h₃⟩ := List.map_eq_cons_iff.1 h₂
  obtain ⟨⟨_, absent⟩, _, rfl, rfl, h₄⟩ := List.map_eq_cons_iff.1 h₃
  obtain ⟨⟨_, ignored⟩, _, rfl, rfl, h₅⟩ := List.map_eq_cons_iff.1 h₄
  obtain rfl := List.map_eq_nil_iff.1 h₅
  obtain ⟨device, hdevice, hpipelines⟩ := exists_yields_stocked
  have hfound : found.isSome = true := (h.registered_iff [] _ found _ rfl []).2
    ⟨by decide +kernel, List.forall_mem_nil _, device, hdevice⟩
  obtain ⟨registered, rfl⟩ := Option.isSome_iff_exists.1 hfound
  obtain ⟨d, hd, hsame⟩ := h.device_eq [] _ registered _ rfl []
  obtain rfl := hd.unique hdevice
  have hblank : stocked (.ofString "/dev/dri/card1") = .ok .blank :=
    (if_neg (by decide +kernel)).trans (if_pos (by decide +kernel))
  have habsent : stocked (.ofString "/dev/dri/card7") = .error (.os 13) :=
    (if_neg (by decide +kernel)).trans (if_neg (by decide +kernel))
  have hspelled : (Path.ofString "/dev/dri/card0").components =
      (Path.ofString "/dev//dri/card0").components := by decide +kernel
  obtain rfl : blank = none :=
    h.found_eq_none [_] _ rfl [] (.inr (.inr fun _ _ => not_yields_of_blank hblank))
  obtain rfl : again = none :=
    h.found_eq_none [_, _] _ rfl [] (.inr (.inl ⟨_, List.mem_cons_self, hspelled⟩))
  obtain rfl : absent = none :=
    h.found_eq_none [_, _, _] _ rfl [] (.inr (.inr fun _ _ => not_yields_of_error habsent))
  obtain rfl : ignored = none :=
    h.found_eq_none [_, _, _, _] _ rfl [] (.inl ⟨_, List.mem_cons_self, by decide +kernel⟩)
  have hpipes : registered.anonymous.pipelines = d.anonymous.pipelines := by rw [hsame]
  exact ⟨registered, hpipes.trans hpipelines, rfl⟩

/-- The probe succeeds, and only the laptop is registered. -/
theorem stocked_probed : ∃ r trail device,
    ((probe (MemoryCard.shelf stocked) sundry choosy).run.run []).value = .ok r ∧
    r.entries = [(.ofString "/dev/dri/card0", device)] ∧ device.pipelines = [panel, monitor] ∧
    trail.map (·.1) = ["/dev/dri/card0", "/dev/dri/card1", "/dev//dri/card0", "/dev/dri/card7",
      "/dev/dri/card9"].map .ofString ∧
    Probed (MemoryCard.shelf stocked) choosy trail r := by
  have h := probed_of_probe (MemoryCard.shelf_fresh stocked) sundry choosy []
  cases hvalue : ((probe (MemoryCard.shelf stocked) sundry choosy).run.run []).value with
  | error e =>
      rw [hvalue] at h
      obtain ⟨-, cause, hcause, -⟩ := h
      cases hcause
  | ok r =>
      rw [hvalue] at h
      obtain ⟨paths, trail, hchosen, hpaths, hprobed, -⟩ := h
      obtain rfl := eq_of_chosen_sundry hchosen
      obtain ⟨device, hpipelines, rfl⟩ := trail_of_sundry hprobed hpaths
      exact ⟨r, _, device, rfl, hprobed.entries_eq, hpipelines, hpaths, hprobed⟩

end Registry

end Scanout
