/-
**What an action and a kernel say to each other.**

The events of an action name its requests but not the replies.  They are enough all the same: an action
that changes the world by its requests only can be played again from its events, and on the way the
kernel says again what it replied.  So the dialogue of a run can be read off its outcome, and what a run
depends on can be said in terms of the replies it got.

Main definitions:

* `Scanout.Exchange` — a request on a card with its reply;
* `Scanout.Kernel.replay`, `Scanout.Kernel.dialogue` — the world after the requests of some events, and
  the exchanges on the way;
* `Scanout.Action.Talks` — an action changes the world by requests of some kind only;
* `Scanout.Action.exchanges` — the exchanges of a run;
* `Scanout.Action.dealings` — how a run ends, and the requests it makes;
* `Scanout.Replies` — fixed replies, and `Scanout.Replies.AgreesWith`, which says that exchanges got them;
* `Scanout.Action.Settles` — what an action ends with when its requests get fixed replies.

Main results:

* `Scanout.Action.Talks.bind`, `Scanout.Action.exchanges_bind` — **the dialogue of a sequence is that of
  its parts**;
* `Scanout.Action.Talks.invariant` — **what every request keeps, an action keeps**;
* `Scanout.Action.dealings_bind` — how a sequence ends, step by step;
* `Scanout.Replies.agreesWith_dialogue` — exchanges agree with fixed replies if all worlds on the way give
  them;
* `Scanout.Action.Settles.bind` — **a sequence settles as its parts do**.
-/

import Scanout.Proofs.Action

set_option relaxedAutoImplicit false
set_option autoImplicit false

namespace Scanout

variable {κ σ ε α β : Type}

/-! ### Playing events again -/

/-- A request on a card with the reply it got. -/
structure Exchange (κ : Type) where
  card : κ
  request : Request
  reply : Except SystemError request.Reply

namespace Kernel

/-- The world after the requests of some events were made from `s`. -/
def replay (K : Kernel κ σ) : List (Event κ) → σ → σ
  | [], s => s
  | .asked card q :: rest, s => K.replay rest (K.answer card q s).2
  | .opened _ :: rest, s | .logged .. :: rest, s => K.replay rest s

/-- The exchanges when the requests of some events are made from `s`. -/
def dialogue (K : Kernel κ σ) : List (Event κ) → σ → List (Exchange κ)
  | [], _ => []
  | .asked card q :: rest, s =>
    ⟨card, q, (K.answer card q s).1⟩ :: K.dialogue rest (K.answer card q s).2
  | .opened _ :: rest, s | .logged .. :: rest, s => K.dialogue rest s

variable {K : Kernel κ σ}

theorem replay_append (l m : List (Event κ)) : ∀ s : σ,
    K.replay (l ++ m) s = K.replay m (K.replay l s) := by
  induction l with
  | nil => exact fun _ => rfl
  | cons e l ih =>
      intro s
      cases e with
      | asked card q => exact ih _
      | opened path => exact ih s
      | logged level line => exact ih s

theorem dialogue_append (l m : List (Event κ)) : ∀ s : σ,
    K.dialogue (l ++ m) s = K.dialogue l s ++ K.dialogue m (K.replay l s) := by
  induction l with
  | nil => exact fun _ => rfl
  | cons e l ih =>
      intro s
      cases e with
      | asked card q => exact congrArg (_ :: ·) (ih _)
      | opened path => exact ih s
      | logged level line => exact ih s

/-- The exchanges are the requests of the events, in their order. -/
theorem map_dialogue (l : List (Event κ)) : ∀ s : σ,
    (K.dialogue l s).map (fun e => (e.card, e.request)) = l.filterMap Event.request? := by
  induction l with
  | nil => exact fun _ => rfl
  | cons e l ih =>
      intro s
      cases e with
      | asked card q => exact congrArg ((card, q) :: ·) (ih _)
      | opened path => exact ih s
      | logged level line => exact ih s

theorem asked_mem_of_mem_dialogue {l : List (Event κ)} {x : Exchange κ} : ∀ {s : σ},
    x ∈ K.dialogue l s → .asked x.card x.request ∈ l := by
  induction l with
  | nil => exact fun h => nomatch h
  | cons e l ih =>
      intro s h
      cases e with
      | asked card q =>
          rcases List.mem_cons.1 h with rfl | h
          · exact List.mem_cons_self
          · exact List.mem_cons_of_mem _ (ih h)
      | opened path => exact List.mem_cons_of_mem _ (ih (s := s) h)
      | logged level line => exact List.mem_cons_of_mem _ (ih (s := s) h)

/-- What every request keeps, their replay keeps. -/
theorem replay_invariant {P : κ → Request → Prop} {I : σ → Prop}
    (hstep : ∀ card q s, P card q → I s → I (K.answer card q s).2) {l : List (Event κ)} :
    (∀ card q, .asked card q ∈ l → P card q) → ∀ s, I s → I (K.replay l s) := by
  induction l with
  | nil => exact fun _ _ hs => hs
  | cons e l ih =>
      intro hl s hs
      have hrest := ih fun card q hq => hl card q (List.mem_cons_of_mem e hq)
      cases e with
      | asked card q => exact hrest _ (hstep card q s (hl card q List.mem_cons_self) hs)
      | opened path => exact hrest s hs
      | logged level line => exact hrest s hs

theorem dialogue_of_silent {l : List (Event κ)} (hl : ∀ e ∈ l, e.request? = none) (s : σ) :
    K.dialogue l s = [] := by
  refine List.eq_nil_iff_forall_not_mem.2 fun x hx => ?_
  cases hl _ (asked_mem_of_mem_dialogue hx)

end Kernel

/-! ### Actions that only talk -/

namespace Action

/-- An action changes the world by requests only, and `P` holds of every request it makes. -/
structure Talks (K : Kernel κ σ) (P : κ → Request → Prop) (x : Action κ σ α) : Prop where
  state : ∀ s, (x.run s).state = K.replay (x.run s).events s
  asks : ∀ s card q, .asked card q ∈ (x.run s).events → P card q

/-- The exchanges of a run from `s`. -/
def exchanges (K : Kernel κ σ) (x : Action κ σ α) (s : σ) : List (Exchange κ) :=
  K.dialogue (x.run s).events s

variable {K : Kernel κ σ} {P Q : κ → Request → Prop}

namespace Talks

theorem mono {x : Action κ σ α} (h : x.Talks K P) (hPQ : ∀ card q, P card q → Q card q) :
    x.Talks K Q := ⟨h.state, fun s card q hq => hPQ card q (h.asks s card q hq)⟩

theorem pure (a : α) : (Pure.pure a : Action κ σ α).Talks K P :=
  ⟨fun _ => rfl, fun _ _ _ h => nomatch h⟩

theorem log (level : Level) (line : String) : (Action.log level line : Action κ σ Unit).Talks K P :=
  ⟨fun _ => rfl, fun _ _ _ h => nomatch List.mem_singleton.1 h⟩

theorem ask {card : κ} {q : Request} (h : P card q) : (K.ask card q).Talks K P := by
  refine ⟨fun _ => rfl, fun s card' q' hasked => ?_⟩
  obtain ⟨rfl, rfl⟩ := Event.asked.inj (List.mem_singleton.1 hasked)
  exact h

theorem bind {x : Action κ σ α} {f : α → Action κ σ β} (hx : x.Talks K P)
    (hf : ∀ a, (f a).Talks K P) : (x >>= f).Talks K P := by
  constructor
  · intro s
    rw [run_bind, Kernel.replay_append, ← hx.state]
    exact (hf _).state _
  · intro s card q hasked
    rw [run_bind] at hasked
    rcases List.mem_append.1 hasked with hfirst | hsecond
    · exact hx.asks s card q hfirst
    · exact (hf _).asks _ card q hsecond

theorem of_mem_exchanges {x : Action κ σ α} (h : x.Talks K P) {s : σ} {e : Exchange κ}
    (he : e ∈ x.exchanges K s) : P e.card e.request :=
  h.asks s _ _ (Kernel.asked_mem_of_mem_dialogue he)

/-- What every request keeps, an action keeps. -/
theorem invariant {x : Action κ σ α} (h : x.Talks K P) {I : σ → Prop}
    (hstep : ∀ card q s, P card q → I s → I (K.answer card q s).2) {s : σ} (hs : I s) :
    I (x.run s).state := by
  rw [h.state]
  exact Kernel.replay_invariant hstep (h.asks s) s hs

/-- An action that makes no request has no exchanges. -/
theorem exchanges_eq_nil {x : Action κ σ α} (h : x.Talks K fun _ _ => False) (s : σ) :
    x.exchanges K s = [] :=
  List.eq_nil_iff_forall_not_mem.2 fun _ he => h.of_mem_exchanges he

end Talks

/-- The dialogue of a sequence is that of its parts. -/
theorem exchanges_bind {x : Action κ σ α} (hx : x.Talks K P) (f : α → Action κ σ β) (s : σ) :
    (x >>= f).exchanges K s =
      x.exchanges K s ++ (f (x.run s).value).exchanges K (x.run s).state := by
  rw [exchanges, run_bind, Kernel.dialogue_append, ← hx.state]
  rfl

end Action

/-! ### Attempts that only talk -/

namespace Attempt

variable {K : Kernel κ σ} {P : κ → Request → Prop}

theorem talks_lift {x : Action κ σ α} (hx : x.Talks K P) :
    (ExceptT.lift x : Attempt κ σ ε α).run.Talks K P := hx.bind fun _ => .pure _

theorem talks_bind {x : Attempt κ σ ε α} {f : α → Attempt κ σ ε β} (hx : x.run.Talks K P)
    (hf : ∀ a, (f a).run.Talks K P) : (x >>= f).run.Talks K P := by
  refine hx.bind fun r => ?_
  cases r with
  | error e => exact .pure _
  | ok a => exact hf a

/-- A demand is a request whose reply is wrapped. -/
theorem run_demand (card : κ) (q : Request) (wrap : SystemError → ε) :
    (K.demand card q wrap).run = (fun r => r.mapError wrap) <$> K.ask card q := by
  refine (bind_congr fun r => ?_).trans (bind_pure_comp _ _)
  cases r <;> rfl

theorem run_run_demand (card : κ) (q : Request) (wrap : SystemError → ε) (s : σ) :
    (K.demand card q wrap).run.run s =
      ⟨(K.answer card q s).1.mapError wrap, (K.answer card q s).2, [.asked card q]⟩ := by
  rw [run_demand]
  rfl

theorem value_demand {card : κ} {q : Request} {s t : σ} {r : Except SystemError q.Reply}
    (h : K.answer card q s = (r, t)) (wrap : SystemError → ε) :
    ((K.demand card q wrap).run.run s).value = r.mapError wrap := by
  rw [run_run_demand, h]

theorem talks_demand {card : κ} {q : Request} (h : P card q) (wrap : SystemError → ε) :
    (K.demand card q wrap).run.Talks K P := by
  rw [run_demand]
  exact (Action.Talks.ask h).bind fun _ => .pure _

/-- When the first part succeeds, the second one goes on with the dialogue. -/
theorem exchanges_bind {x : Attempt κ σ ε α} {f : α → Attempt κ σ ε β} {s t : σ} {a : α}
    (hx : x.run.Talks K P) (h : Gives x s a t) :
    (x >>= f).run.exchanges K s = x.run.exchanges K s ++ (f a).run.exchanges K t := by
  have hrun : (x >>= f).run = x.run >>= fun r => match r with
      | .ok a => (f a).run
      | .error e => pure (.error e) := rfl
  rw [hrun, Action.exchanges_bind hx, h.1, h.2]

/-- When the first part fails, nothing is said after it. -/
theorem exchanges_bind_of_error {x : Attempt κ σ ε α} {s : σ} {e : ε} (hx : x.run.Talks K P)
    (h : (x.run.run s).value = .error e) (f : α → Attempt κ σ ε β) :
    (x >>= f).run.exchanges K s = x.run.exchanges K s := by
  have hrun : (x >>= f).run = x.run >>= fun r => match r with
      | .ok a => (f a).run
      | .error e => pure (.error e) := rfl
  rw [hrun, Action.exchanges_bind hx, h]
  exact List.append_nil _

@[simp] theorem exchanges_pure (a : α) (s : σ) :
    (pure a : Attempt κ σ ε α).run.exchanges K s = [] := rfl

theorem exchanges_lift {x : Action κ σ α} (hx : x.Talks K P) (s : σ) :
    (ExceptT.lift x : Attempt κ σ ε α).run.exchanges K s = x.exchanges K s :=
  (Action.exchanges_bind hx (fun a => pure (Except.ok a)) s).trans (List.append_nil _)

theorem gives_demand_iff {card : κ} {q : Request} {wrap : SystemError → ε} {s s' : σ} {r : q.Reply} :
    Gives (K.demand card q wrap) s r s' ↔ K.answer card q s = (.ok r, s') := by
  rw [Gives, run_demand]
  change (K.answer card q s).1.mapError wrap = .ok r ∧ (K.answer card q s).2 = s' ↔ _
  rw [mapError_eq_ok_iff, Prod.ext_iff]

theorem exchanges_demand (card : κ) (q : Request) (wrap : SystemError → ε) (s : σ) :
    (K.demand card q wrap).run.exchanges K s = [⟨card, q, (K.answer card q s).1⟩] := by
  rw [run_demand]
  rfl

end Attempt

/-! ### Dealings -/

section Dealings

variable {K : Kernel κ σ}

namespace Action

/-- How a run from `s` ends, and the requests it makes on the way. -/
def dealings (x : Action κ σ α) (s : σ) : α × σ × List (κ × Request) :=
  ((x.run s).value, (x.run s).state, (x.run s).events.filterMap Event.request?)

theorem dealings_log (level : Level) (line : String) (s : σ) :
    (log level line : Action κ σ Unit).dealings s = ((), s, []) := rfl

theorem dealings_ask (card : κ) (q : Request) (s : σ) : (K.ask card q).dealings s =
    ((K.answer card q s).1, (K.answer card q s).2, [(card, q)]) := rfl

theorem dealings_bind {x : Action κ σ α} {s t : σ} {a : α} {asked : List (κ × Request)}
    (h : x.dealings s = (a, t, asked)) (f : α → Action κ σ β) :
    (x >>= f).dealings s =
      (((f a).dealings t).1, ((f a).dealings t).2.1, asked ++ ((f a).dealings t).2.2) := by
  obtain ⟨hvalue, hrest⟩ := Prod.mk.inj h
  obtain ⟨hstate, hasked⟩ := Prod.mk.inj hrest
  rw [dealings, run_bind, hvalue, hstate, List.filterMap_append, hasked]
  rfl

/-- When nothing is left to be done, the first part is all there is. -/
theorem dealings_bind_pure {x : Action κ σ α} {s t : σ} {a : α} {asked : List (κ × Request)}
    (h : x.dealings s = (a, t, asked)) {f : α → Action κ σ β} {b : β} (hf : f a = pure b) :
    (x >>= f).dealings s = (b, t, asked) := by
  rw [dealings_bind h, hf]
  exact congrArg (fun l => (b, t, l)) (List.append_nil asked)

end Action

namespace Attempt

variable {s t : σ} {asked : List (κ × Request)}

theorem dealings_bind_ok {x : Attempt κ σ ε α} {a : α} (h : x.run.dealings s = (.ok a, t, asked))
    (f : α → Attempt κ σ ε β) :
    (x >>= f).run.dealings s = (((f a).run.dealings t).1, ((f a).run.dealings t).2.1,
      asked ++ ((f a).run.dealings t).2.2) := Action.dealings_bind h _

theorem dealings_lift {x : Action κ σ α} {a : α} (h : x.dealings s = (a, t, asked)) :
    (ExceptT.lift x : Attempt κ σ ε α).run.dealings s = (.ok a, t, asked) :=
  Action.dealings_bind_pure h rfl

theorem dealings_lift_bind {x : Action κ σ α} {a : α} (h : x.dealings s = (a, t, asked))
    (f : α → Attempt κ σ ε β) :
    (ExceptT.lift x >>= f).run.dealings s = (((f a).run.dealings t).1,
      ((f a).run.dealings t).2.1, asked ++ ((f a).run.dealings t).2.2) :=
  dealings_bind_ok (dealings_lift h) f

end Attempt

end Dealings

/-! ### Fixed replies -/

/-- One reply for each request on each card. -/
abbrev Replies (κ : Type) : Type := κ → (q : Request) → Except SystemError q.Reply

/-- Every request of a kind that occurs in some exchanges got the reply that `R` has for it. -/
def Replies.AgreesWith (R : Replies κ) (kind : Request → Prop) (l : List (Exchange κ)) : Prop :=
  ∀ e ∈ l, kind e.request → e.reply = R e.card e.request

theorem Replies.agreesWith_append {R : Replies κ} {kind : Request → Prop} {l m : List (Exchange κ)} :
    R.AgreesWith kind (l ++ m) ↔ R.AgreesWith kind l ∧ R.AgreesWith kind m := List.forall_mem_append

/-- Exchanges agree with fixed replies when every request gets them in all worlds that can be reached,
which `I` tells apart. -/
theorem Replies.agreesWith_dialogue {K : Kernel κ σ} {R : Replies κ} {kind : Request → Prop}
    {P : κ → Request → Prop} {I : σ → Prop}
    (hreply : ∀ card q s, P card q → I s → kind q → (K.answer card q s).1 = R card q)
    (hkeep : ∀ card q s, P card q → I s → I (K.answer card q s).2) {l : List (Event κ)}
    (hl : ∀ card q, .asked card q ∈ l → P card q) :
    ∀ {s : σ}, I s → R.AgreesWith kind (K.dialogue l s) := by
  induction l with
  | nil =>
      intro s _ e he
      cases he
  | cons event l ih =>
      intro s hs
      have hrest := fun {t : σ} => @ih (fun card q hq => hl card q (List.mem_cons_of_mem _ hq)) t
      cases event with
      | asked card q =>
          have hasked := hl card q List.mem_cons_self
          intro e he hkind
          rcases List.mem_cons.1 he with rfl | he
          · exact hreply card q s hasked hs hkind
          · exact hrest (hkeep card q s hasked hs) e he hkind
      | opened path => exact hrest hs
      | logged level line => exact hrest hs

namespace Action

/-- Whenever its requests of a kind get the replies of `R`, the action ends with `a`. -/
def Settles (K : Kernel κ σ) (R : Replies κ) (kind : Request → Prop) (x : Action κ σ α) (a : α) :
    Prop := ∀ s, R.AgreesWith kind (x.exchanges K s) → (x.run s).value = a

variable {K : Kernel κ σ} {R : Replies κ} {kind : Request → Prop} {P : κ → Request → Prop}

namespace Settles

theorem mono {x : Action κ σ α} {a : α} {kind' : Request → Prop} (h : x.Settles K R kind a)
    (hkind : ∀ q, kind q → kind' q) : x.Settles K R kind' a :=
  fun s hs => h s fun e he hq => hs e he (hkind _ hq)

theorem pure (a : α) : (Pure.pure a : Action κ σ α).Settles K R kind a := fun _ _ => rfl

theorem log (level : Level) (line : String) :
    (Action.log level line : Action κ σ Unit).Settles K R kind () := fun _ _ => rfl

theorem ask {card : κ} {q : Request} (h : kind q) : (K.ask card q).Settles K R kind (R card q) :=
  fun _ hs => hs _ List.mem_cons_self h

theorem bind {x : Action κ σ α} {f : α → Action κ σ β} {a : α} {b : β} (ht : x.Talks K P)
    (hx : x.Settles K R kind a) (hf : (f a).Settles K R kind b) : (x >>= f).Settles K R kind b := by
  intro s hs
  rw [exchanges_bind ht, Replies.agreesWith_append] at hs
  have ha := hx s hs.1
  rw [ha] at hs
  rw [run_bind, ha]
  exact hf _ hs.2

end Settles

end Action

/-- A demand settles on the reply that `R` has for it. -/
theorem Attempt.settles_demand {K : Kernel κ σ} {R : Replies κ} {kind : Request → Prop} {card : κ}
    {q : Request} (h : kind q) (wrap : SystemError → ε) :
    (K.demand card q wrap).run.Settles K R kind ((R card q).mapError wrap) := by
  rw [Attempt.run_demand]
  exact .bind (.ask (P := fun _ _ => True) trivial) (.ask h) (.pure _)

theorem Attempt.settles_lift {K : Kernel κ σ} {R : Replies κ} {kind : Request → Prop}
    {P : κ → Request → Prop} {x : Action κ σ α} {a : α} (ht : x.Talks K P)
    (hx : x.Settles K R kind a) :
    (ExceptT.lift x : Attempt κ σ ε α).run.Settles K R kind (.ok a) := .bind ht hx (.pure _)

/-- A sequence settles as its parts do, and fails with the part that fails. -/
theorem Attempt.settles_bind {K : Kernel κ σ} {R : Replies κ} {kind : Request → Prop}
    {P : κ → Request → Prop} {x : Attempt κ σ ε α} {f : α → Attempt κ σ ε β} {r : Except ε α}
    {g : α → Except ε β} (ht : x.run.Talks K P) (hx : x.run.Settles K R kind r)
    (hf : ∀ a, (f a).run.Settles K R kind (g a)) : (x >>= f).run.Settles K R kind (r >>= g) := by
  refine .bind ht hx ?_
  cases r with
  | error e => exact .pure _
  | ok a => exact hf a

end Scanout
