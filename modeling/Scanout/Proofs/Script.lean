/-
**Scripts: what is done with one card.**

Most of what a program does with a card is the same for every card and every kernel: a fixed tree of
requests and log lines, in which only the replies choose the branch.  This has three consequences, each of
them an induction over the tree.  The card is all that is asked, and the world changes by its answers
only; no node is opened; and two cards that reply alike cannot be told apart, neither by how things end
nor by what they reply afterwards.

Main definitions:

* `Scanout.Script` — trees of requests and log lines, and `Scanout.Script.play`, their meaning;
* `Scanout.Scripted` — what is done with a card follows a script with requests of some kind;
* `Scanout.Action.About` — an action asks one card only and opens no node;
* `Scanout.Kernel.Alike` — a card in one world replies to all requests as a card in another does;
* `Scanout.Kernel.Independent` — two cards share no state.

Main results:

* `Scanout.Scripted.bind`, `Scanout.Scripted.attemptBind` — **sequences of scripts are scripts**;
* `Scanout.Scripted.talks`, `Scanout.Scripted.about` — a script is about its card only;
* `Scanout.Scripted.alike` — **a script ends alike on cards that reply alike**;
* `Scanout.Action.About.alike` — what is about one card leaves the others alone.
-/

import Mathlib.Tactic.Choose
import Scanout.Proofs.Dialogue

set_option relaxedAutoImplicit false
set_option autoImplicit false

namespace Scanout

variable {κ σ ε α β : Type}

/-! ### Scripts -/

/-- Requests on one card and log lines; what comes next depends on the replies so far. -/
inductive Script (α : Type) where
  | done (a : α)
  | log (level : Level) (line : String) (rest : Script α)
  | ask (q : Request) (next : Except SystemError q.Reply → Script α)

namespace Script

/-- Plays a script on a card. -/
def play (K : Kernel κ σ) (card : κ) : Script α → Action κ σ α
  | .done a => pure a
  | .log level line rest => Action.log level line >>= fun _ => rest.play K card
  | .ask q next => K.ask card q >>= fun r => (next r).play K card

/-- Every request is of a kind. -/
def Asks (P : Request → Prop) : Script α → Prop
  | .done _ => True
  | .log _ _ rest => rest.Asks P
  | .ask q next => P q ∧ ∀ r, (next r).Asks P

/-- A script that goes on with another one. -/
def bind (f : α → Script β) : Script α → Script β
  | .done a => f a
  | .log level line rest => .log level line (rest.bind f)
  | .ask q next => .ask q fun r => (next r).bind f

variable {P : Request → Prop}

theorem asks_bind {f : α → Script β} {t : Script α} (ht : t.Asks P) (hf : ∀ a, (f a).Asks P) :
    (t.bind f).Asks P := by
  induction t with
  | done a => exact hf a
  | log level line rest ih => exact ih ht
  | ask q next ih => exact ⟨ht.1, fun r => ih r (ht.2 r)⟩

theorem play_bind (K : Kernel κ σ) (card : κ) (f : α → Script β) (t : Script α) :
    (t.bind f).play K card = (t.play K card >>= fun a => (f a).play K card) := by
  induction t with
  | done a => rfl
  | log level line rest ih =>
      rw [bind, play, play, bind_assoc]
      exact bind_congr fun _ => ih
  | ask q next ih =>
      rw [bind, play, play, bind_assoc]
      exact bind_congr fun r => ih r

end Script

/-! ### Following a script -/

/-- What can be done with a card, whatever the kernel. -/
abbrev CardAction (α : Type) : Type 1 := ∀ κ σ : Type, Kernel κ σ → κ → Action κ σ α

/-- Something that can be done with a card follows a script, and `P` holds of every request in it. -/
def Scripted (P : Request → Prop) (x : CardAction α) : Prop :=
  ∃ t : Script α, t.Asks P ∧ ∀ κ σ K card, x κ σ K card = t.play K card

namespace Scripted

variable {P Q : Request → Prop}

theorem mono {x : CardAction α} (h : Scripted P x) (hPQ : ∀ q, P q → Q q) : Scripted Q x := by
  obtain ⟨t, ht, hplay⟩ := h
  refine ⟨t, ?_, hplay⟩
  clear hplay
  induction t with
  | done a => trivial
  | log level line rest ih => exact ih ht
  | ask q next ih => exact ⟨hPQ q ht.1, fun r => ih r (ht.2 r)⟩

theorem pure (a : α) : Scripted P fun _ _ _ _ => Pure.pure a :=
  ⟨.done a, trivial, fun _ _ _ _ => rfl⟩

theorem log (level : Level) (line : String) : Scripted P fun _ _ _ _ => Action.log level line :=
  ⟨.log level line (.done ()), trivial, fun _ _ _ _ => rfl⟩

theorem ask {q : Request} (h : P q) : Scripted P fun _ _ K card => K.ask card q :=
  ⟨.ask q .done, ⟨h, fun _ => trivial⟩, fun _ _ _ _ => rfl⟩

theorem logs (lines : List (Level × String)) (a : α) : Scripted P fun κ σ _ _ =>
    (fun s => ⟨a, s, lines.map fun (level, line) => .logged level line⟩ : Action κ σ α) := by
  refine ⟨lines.foldr (fun l t => .log l.1 l.2 t) (.done a), ?_, fun κ σ K card => ?_⟩
  · induction lines with
    | nil => trivial
    | cons l lines ih => exact ih
  · induction lines with
    | nil => rfl
    | cons l lines ih =>
        rw [List.foldr_cons, Script.play, ← ih]
        rfl

/-- **Sequences of scripts are scripts.** -/
theorem bind {x : CardAction α} {f : α → CardAction β} (hx : Scripted P x)
    (hf : ∀ a, Scripted P (f a)) :
    Scripted P fun κ σ K card => x κ σ K card >>= fun a => f a κ σ K card := by
  obtain ⟨t, ht, hplay⟩ := hx
  choose u hu hplayf using hf
  refine ⟨t.bind u, Script.asks_bind ht hu, fun κ σ K card => ?_⟩
  rw [Script.play_bind, ← hplay]
  exact bind_congr fun a => hplayf a κ σ K card

/-! ### Attempts -/

theorem attemptBind {x : ∀ κ σ : Type, Kernel κ σ → κ → Attempt κ σ ε α}
    {f : α → ∀ κ σ : Type, Kernel κ σ → κ → Attempt κ σ ε β}
    (hx : Scripted P fun κ σ K card => (x κ σ K card).run)
    (hf : ∀ a, Scripted P fun κ σ K card => (f a κ σ K card).run) :
    Scripted P fun κ σ K card => (x κ σ K card >>= fun a => f a κ σ K card).run := by
  refine bind (f := fun r κ σ K card => match r with
    | .ok a => (f a κ σ K card).run
    | .error e => Pure.pure (.error e)) hx fun r => ?_
  cases r with
  | error e => exact .pure _
  | ok a => exact hf a

theorem attemptPure (a : α) : Scripted P fun κ σ _ _ => (Pure.pure a : Attempt κ σ ε α).run :=
  .pure _

theorem throw (e : ε) :
    Scripted P fun κ σ _ _ => (MonadExcept.throw e : Attempt κ σ ε α).run := .pure _

theorem lift {x : CardAction α} (hx : Scripted P x) :
    Scripted P fun κ σ K card => (ExceptT.lift (x κ σ K card) : Attempt κ σ ε α).run :=
  hx.bind fun _ => .pure _

theorem demand {q : Request} (h : P q) (wrap : SystemError → ε) :
    Scripted P fun _ _ K card => (K.demand card q wrap).run := by
  refine (ask h).bind fun r => ?_
  cases r with
  | error e => exact .pure _
  | ok reply => exact .pure _

end Scripted

/-! ### What is asked -/

/-- The requests of a kind on one card. -/
def onCard (card : κ) (kind : Request → Prop) (c : κ) (q : Request) : Prop := c = card ∧ kind q

variable {P : Request → Prop}

theorem Script.talks_play (K : Kernel κ σ) (card : κ) {t : Script α} (ht : t.Asks P) :
    (t.play K card).Talks K (onCard card P) := by
  induction t with
  | done a => exact .pure a
  | log level line rest ih => exact .bind (.log level line) fun _ => ih ht
  | ask q next ih => exact .bind (.ask ⟨rfl, ht.1⟩) fun r => ih r (ht.2 r)

theorem Scripted.talks {x : CardAction α} (h : Scripted P x) (K : Kernel κ σ) (card : κ) :
    (x κ σ K card).Talks K (onCard card P) := by
  obtain ⟨t, ht, hplay⟩ := h
  rw [hplay]
  exact t.talks_play K card ht

/-- A script without requests has no exchanges. -/
theorem Scripted.exchanges_eq_nil {x : CardAction α} (h : Scripted (fun _ => False) x)
    (K : Kernel κ σ) (card : κ) (s : σ) : (x κ σ K card).exchanges K s = [] :=
  ((h.talks K card).mono fun _ _ hq => hq.2).exchanges_eq_nil s

theorem Script.path?_eq_none (K : Kernel κ σ) (card : κ) (t : Script α) :
    ∀ s, ∀ e ∈ ((t.play K card).run s).events, e.path? = none := by
  induction t with
  | done a => exact fun _ _ he => nomatch he
  | log level line rest ih =>
      intro s e he
      rcases List.mem_cons.1 he with rfl | he
      · rfl
      · exact ih s e he
  | ask q next ih =>
      intro s e he
      rcases List.mem_cons.1 he with rfl | he
      · rfl
      · exact ih _ _ e he

/-! ### Being about one card -/

/-- An action asks one card only, changes the world by the answers only, and opens no node. -/
structure Action.About (K : Kernel κ σ) (card : κ) (x : Action κ σ α) : Prop where
  talks : x.Talks K (onCard card fun _ => True)
  indoors : ∀ s, ∀ e ∈ (x.run s).events, e.path? = none

theorem Scripted.about {x : CardAction α} (h : Scripted P x) (K : Kernel κ σ) (card : κ) :
    (x κ σ K card).About K card := by
  obtain ⟨t, -, hplay⟩ := h.mono fun _ _ => trivial
  refine ⟨(h.talks K card).mono fun _ _ hq => ⟨hq.1, trivial⟩, ?_⟩
  rw [hplay]
  exact t.path?_eq_none K card

section About

variable {K : Kernel κ σ} {card : κ}

namespace Action.About

theorem pure (a : α) : (Pure.pure a : Action κ σ α).About K card :=
  ⟨.pure a, fun _ _ he => nomatch he⟩

theorem log (level : Level) (line : String) :
    (Action.log level line : Action κ σ Unit).About K card := by
  refine ⟨.log level line, fun s e he => ?_⟩
  obtain rfl := List.mem_singleton.1 he
  rfl

theorem ask (q : Request) : (K.ask card q).About K card :=
  (Scripted.ask (P := fun _ => True) trivial).about K card

/-- Only the values that the first part can end with matter. -/
theorem bind {x : Action κ σ α} {f : α → Action κ σ β} (hx : x.About K card)
    (hf : ∀ s, (f (x.run s).value).About K card) : (x >>= f).About K card := by
  refine ⟨⟨fun s => ?_, fun s other q hasked => ?_⟩, fun s e he => ?_⟩
  · rw [run_bind, Kernel.replay_append, ← hx.talks.state]
    exact (hf s).talks.state _
  · rw [run_bind] at hasked
    rcases List.mem_append.1 hasked with hfirst | hsecond
    · exact hx.talks.asks s other q hfirst
    · exact (hf s).talks.asks _ other q hsecond
  · rw [run_bind] at he
    rcases List.mem_append.1 he with hfirst | hsecond
    · exact hx.indoors s e hfirst
    · exact (hf s).indoors _ e hsecond

end Action.About

theorem Attempt.about_bind {x : Attempt κ σ ε α} {f : α → Attempt κ σ ε β}
    (hx : x.run.About K card)
    (hf : ∀ s a, (x.run.run s).value = .ok a → (f a).run.About K card) :
    (x >>= f).run.About K card := by
  refine Action.About.bind (f := fun r => match r with
    | .ok a => (f a).run
    | .error e => pure (.error e)) hx fun s => ?_
  cases h : (x.run.run s).value with
  | error e => exact .pure _
  | ok a => exact hf s a h

theorem Attempt.about_pure (a : α) : (pure a : Attempt κ σ ε α).run.About K card := .pure _

theorem Attempt.about_throw (e : ε) : (throw e : Attempt κ σ ε α).run.About K card := .pure _

theorem Attempt.about_lift {x : Action κ σ α} (hx : x.About K card) :
    (ExceptT.lift x : Attempt κ σ ε α).run.About K card := hx.bind fun _ => .pure _

end About

/-! ### Cards that reply alike -/

namespace Kernel

/-- The world after requests were made on a card. -/
def after (K : Kernel κ σ) (card : κ) (asked : List Request) (s : σ) : σ :=
  asked.foldl (fun s q => (K.answer card q s).2) s

/-- A card in the world `s` replies to all requests, one after the other, as a card in the world `t`
does. -/
def Alike (K : Kernel κ σ) (card : κ) (s : σ) (other : κ) (t : σ) : Prop :=
  ∀ (asked : List Request) (q : Request),
    (K.answer card q (K.after card asked s)).1 = (K.answer other q (K.after other asked t)).1

variable {K : Kernel κ σ} {card other third : κ} {s t u : σ}

namespace Alike

theorem refl (K : Kernel κ σ) (card : κ) (s : σ) : K.Alike card s card s := fun _ _ => rfl

theorem symm (h : K.Alike card s other t) : K.Alike other t card s :=
  fun asked q => (h asked q).symm

theorem trans (h : K.Alike card s other t) (h' : K.Alike other t third u) :
    K.Alike card s third u := fun asked q => (h asked q).trans (h' asked q)

/-- The next reply is the same. -/
theorem reply (h : K.Alike card s other t) (q : Request) :
    (K.answer card q s).1 = (K.answer other q t).1 := h [] q

/-- After the same request, the cards still reply alike. -/
theorem answer (h : K.Alike card s other t) (q : Request) :
    K.Alike card (K.answer card q s).2 other (K.answer other q t).2 :=
  fun asked q' => h (q :: asked) q'

end Alike

end Kernel

theorem Script.alike_play {K : Kernel κ σ} {card other : κ} (script : Script α) : ∀ {s t : σ},
    K.Alike card s other t →
    ((script.play K card).run s).value = ((script.play K other).run t).value ∧
      K.Alike card ((script.play K card).run s).state other ((script.play K other).run t).state := by
  induction script with
  | done a => exact fun h => ⟨rfl, h⟩
  | log level line rest ih => exact fun h => ih h
  | ask q next ih =>
      intro s t h
      rw [play, play, Action.run_bind, Action.run_bind, Kernel.run_ask, Kernel.run_ask, h.reply q]
      exact ih _ (h.answer q)

/-- **A script ends alike on cards that reply alike**, and they reply alike afterwards. -/
theorem Scripted.alike {x : CardAction α} (hx : Scripted P x) {K : Kernel κ σ} {card other : κ}
    {s t : σ} (h : K.Alike card s other t) :
    ((x κ σ K card).run s).value = ((x κ σ K other).run t).value ∧
      K.Alike card ((x κ σ K card).run s).state other ((x κ σ K other).run t).state := by
  obtain ⟨script, -, hplay⟩ := hx
  rw [hplay, hplay]
  exact script.alike_play h

/-! ### Cards that share no state -/

section Independent

variable {K : Kernel κ σ} {card other : κ}

/-- Two cards share no state: no request on one of them changes what the other replies. -/
structure Kernel.Independent (K : Kernel κ σ) (card other : κ) : Prop where
  left : ∀ q s, K.Alike other s other (K.answer card q s).2
  right : ∀ q s, K.Alike card s card (K.answer other q s).2

theorem Kernel.Independent.symm (h : K.Independent card other) : K.Independent other card :=
  ⟨h.right, h.left⟩

/-- What is about one card leaves the others alone. -/
theorem Action.About.alike {x : Action κ σ α} (hx : x.About K card) (h : K.Independent card other)
    (s : σ) : K.Alike other s other (x.run s).state := by
  refine hx.talks.invariant (I := K.Alike other s other) (fun c q t hc ht => ?_) (.refl K other s)
  obtain ⟨rfl, -⟩ := hc
  exact ht.trans (h.left q t)

end Independent

end Scanout
