/-
**Conduct: what an action asks, together with what it makes of the replies.**

Which request comes next depends on the replies so far, so what an action asks can only be described
together with what it was replied, and with the value that it went on with.  A rule relates the two: the
exchanges of a run and the value at its end.  An action that is made of parts obeys a rule when the parts
do, the exchanges of the second part following those of the first, and it fails with the part that fails.

Main definitions:

* `Scanout.Action.Obeys` — every run of an action on one card obeys a rule.

Main results:

* `Scanout.Action.Obeys.bind`, `Scanout.Attempt.obeys_bind` — **a sequence obeys what its parts obey, one
  after the other**;
* `Scanout.Action.Obeys.askBind`, `Scanout.Attempt.obeys_demandBind` — a request is one exchange;
* `Scanout.Action.Obeys.talks` — what a rule says of all exchanges holds of all requests;
* `Scanout.Scripted.obeys_silence` — a script without requests leaves no exchanges.
-/

import Scanout.Proofs.Script

set_option relaxedAutoImplicit false
set_option autoImplicit false

namespace Scanout

variable {κ σ ε α β : Type} {K : Kernel κ σ} {card : κ}

/-- An action is about one card, and the exchanges of a run and the value at its end are related by `Q`,
whatever the card replies. -/
structure Action.Obeys (K : Kernel κ σ) (card : κ) (Q : List (Exchange κ) → α → Prop)
    (x : Action κ σ α) : Prop where
  about : x.About K card
  rule : ∀ s, Q (x.exchanges K s) (x.run s).value

/-! ### Actions -/

namespace Action.Obeys

theorem mono {P Q : List (Exchange κ) → α → Prop} {x : Action κ σ α} (h : x.Obeys K card P)
    (hPQ : ∀ l a, P l a → Q l a) : x.Obeys K card Q :=
  ⟨h.about, fun s => hPQ _ _ (h.rule s)⟩

/-- What the rule says of all exchanges holds of all requests. -/
theorem talks {P : κ → Request → Prop} {Q : List (Exchange κ) → α → Prop} {x : Action κ σ α}
    (h : x.Obeys K card Q) (hQ : ∀ l a, Q l a → ∀ e ∈ l, P e.card e.request) : x.Talks K P := by
  refine ⟨h.about.talks.state, fun s c q hasked => ?_⟩
  have hmem : (c, q) ∈ (x.exchanges K s).map (fun e => (e.card, e.request)) := by
    rw [exchanges, Kernel.map_dialogue]
    exact List.mem_filterMap.2 ⟨_, hasked, rfl⟩
  obtain ⟨e, he, heq⟩ := List.mem_map.1 hmem
  obtain ⟨rfl, rfl⟩ := Prod.mk.inj heq
  exact hQ _ _ (h.rule s) e he

theorem pure {Q : List (Exchange κ) → α → Prop} {a : α} (h : Q [] a) :
    (Pure.pure a : Action κ σ α).Obeys K card Q := ⟨.pure a, fun _ => h⟩

/-- The exchanges of the second part follow those of the first. -/
theorem bind {P : List (Exchange κ) → α → Prop} {Q : List (Exchange κ) → β → Prop}
    {x : Action κ σ α} {f : α → Action κ σ β} (hx : x.Obeys K card P)
    (hf : ∀ l a, P l a → (f a).Obeys K card fun m b => Q (l ++ m) b) :
    (x >>= f).Obeys K card Q := by
  have hnext := fun s => hf _ _ (hx.rule s)
  refine ⟨hx.about.bind fun s => (hnext s).about, fun s => ?_⟩
  rw [exchanges_bind hx.about.talks, run_bind]
  exact (hnext s).rule _

theorem askBind {Q : List (Exchange κ) → β → Prop} {q : Request}
    {f : Except SystemError q.Reply → Action κ σ β}
    (hf : ∀ r, (f r).Obeys K card fun m b => Q (⟨card, q, r⟩ :: m) b) :
    (K.ask card q >>= f).Obeys K card Q := by
  have hask : (K.ask card q).Obeys K card fun l r => l = [⟨card, q, r⟩] := ⟨.ask q, fun _ => rfl⟩
  refine hask.bind ?_
  rintro l r rfl
  exact hf r

theorem logBind {Q : List (Exchange κ) → β → Prop} {level : Level} {line : String}
    {f : Unit → Action κ σ β} (hf : (f ()).Obeys K card Q) :
    (Action.log level line >>= f).Obeys K card Q := by
  have hlog : (Action.log level line : Action κ σ Unit).Obeys K card fun l _ => l = [] :=
    ⟨.log level line, fun _ => rfl⟩
  refine hlog.bind ?_
  rintro l ⟨⟩ rfl
  exact hf

end Action.Obeys

/-- A script without requests leaves no exchanges. -/
theorem Scripted.obeys_silence {x : CardAction α} (h : Scripted (fun _ => False) x) :
    (x κ σ K card).Obeys K card fun l _ => l = [] :=
  ⟨h.about K card, h.exchanges_eq_nil K card⟩

/-! ### Attempts -/

namespace Attempt

/-- When the first part fails, its exchanges are all there are. -/
theorem obeys_bind {P : List (Exchange κ) → Except ε α → Prop}
    {Q : List (Exchange κ) → Except ε β → Prop} {x : Attempt κ σ ε α} {f : α → Attempt κ σ ε β}
    (hx : x.run.Obeys K card P)
    (hok : ∀ l a, P l (.ok a) → (f a).run.Obeys K card fun m b => Q (l ++ m) b)
    (herror : ∀ l e, P l (.error e) → Q l (.error e)) : (x >>= f).run.Obeys K card Q := by
  refine Action.Obeys.bind (f := fun r => match r with
    | .ok a => (f a).run
    | .error e => pure (.error e)) hx fun l r hl => ?_
  cases r with
  | ok a => exact hok l a hl
  | error e =>
      refine .pure ?_
      rw [List.append_nil]
      exact herror l e hl

theorem obeys_lift {Q : List (Exchange κ) → Except ε α → Prop} {x : Action κ σ α}
    (hx : x.Obeys K card fun l a => Q l (.ok a)) :
    (ExceptT.lift x : Attempt κ σ ε α).run.Obeys K card Q := by
  refine hx.bind fun l a hl => .pure ?_
  rwa [List.append_nil]

/-- The first part cannot fail. -/
theorem obeys_liftBind {P : List (Exchange κ) → α → Prop} {Q : List (Exchange κ) → Except ε β → Prop}
    {x : Action κ σ α} {f : α → Attempt κ σ ε β} (hx : x.Obeys K card P)
    (hf : ∀ l a, P l a → (f a).run.Obeys K card fun m b => Q (l ++ m) b) :
    (ExceptT.lift x >>= f).run.Obeys K card Q := by
  have hlift : (ExceptT.lift x : Attempt κ σ ε α).run.Obeys K card fun l r =>
      ∃ a, r = .ok a ∧ P l a := obeys_lift (hx.mono fun _ a h => ⟨a, rfl, h⟩)
  refine obeys_bind hlift ?_ ?_
  · rintro l a ⟨_, ⟨⟩, h⟩
    exact hf l a h
  · rintro l e ⟨_, ⟨⟩, -⟩

theorem obeys_demandBind {Q : List (Exchange κ) → Except ε β → Prop} {q : Request}
    {wrap : SystemError → ε} {f : q.Reply → Attempt κ σ ε β}
    (hok : ∀ reply, (f reply).run.Obeys K card fun m b => Q (⟨card, q, .ok reply⟩ :: m) b)
    (herror : ∀ e, Q [⟨card, q, .error e⟩] (.error (wrap e))) :
    (K.demand card q wrap >>= f).run.Obeys K card Q := by
  have hdemand : (K.demand card q wrap).run.Obeys K card fun l v =>
      ∃ r, l = [⟨card, q, r⟩] ∧ v = r.mapError wrap := by
    refine ⟨(Scripted.demand (P := fun _ => True) trivial wrap).about K card, fun s => ?_⟩
    rw [exchanges_demand, run_run_demand]
    exact ⟨_, rfl, rfl⟩
  refine obeys_bind hdemand ?_ ?_
  · rintro l reply ⟨r, rfl, hr⟩
    rw [mapError_eq_ok_iff.1 hr.symm]
    exact hok reply
  · rintro l e ⟨r, rfl, hr⟩
    cases r with
    | ok reply => cases hr
    | error cause =>
        cases hr
        exact herror cause

end Attempt

end Scanout
