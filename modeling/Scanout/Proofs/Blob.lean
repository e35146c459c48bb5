/-
**The lifetimes of blobs.**

Whoever owns blobs creates and drops them in any order, on any number of cards, while the cards start and
stop refusing requests.  Each turn adds to what was created, what was dropped and what was destroyed, and
it changes the records of a card by just that.  What the cards have recorded after a run, and what is
still held, therefore follows from the turns: a destroy call for each dropped handle and no other.

Main definitions:

* `Scanout.Custody` — cards and the blobs that are held on them;
* `Scanout.Custody.Move`, `Scanout.Custody.Turn`, `Scanout.Custody.play` — runs;
* `Scanout.Custody.created`, `Scanout.Custody.dropped`, `Scanout.Custody.destroyed` — the blobs that came
  and went in a run;
* `Scanout.Custody.Lifetimes` — what the turns of a run say about the cards and the handles.

Main results:

* `Scanout.Custody.effect_of_turn` — what a turn can do;
* `Scanout.Custody.Effect.changed` — **a turn changes the records of a card by what it creates, drops and
  destroys**;
* `Scanout.Custody.Lifetimes.concat` — one more turn keeps the lifetimes;
* `Scanout.Custody.lifetimes_of_play` — **the lifetimes after any run on cards without blobs**.
-/

import Mathlib.Data.List.Nodup
import Scanout.Blob
import Scanout.MemoryCard.Builder
import Scanout.Proofs.MemoryCard

set_option relaxedAutoImplicit false
set_option autoImplicit false

namespace Scanout

open Text (Bytes)

/-! ### Destroy calls -/

namespace Exchange

variable {κ : Type}

/-- The blob that a destroy call is about. -/
def doomed? (e : Exchange κ) : Option (Blob κ) :=
  match e.request with
  | .destroyBlob id => some ⟨e.card, id⟩
  | _ => none

/-- The request was granted. -/
def granted (e : Exchange κ) : Bool :=
  match e.reply with
  | .ok _ => true
  | .error _ => false

end Exchange

/-! ### Creating and releasing -/

namespace Blob

variable {κ σ : Type} {K : Kernel κ σ} {card : κ} {data : Bytes} {s t : σ}

theorem run_create_of_ok {id : ObjectId} (h : K.answer card (.createBlob data) s = (.ok id, t)) :
    (Blob.create K card data).run.run s = ⟨.ok ⟨card, id⟩, t, [.asked card (.createBlob data),
      .logged .trace s!"created property blob {id.toNat} ({data.length} bytes)"]⟩ := by
  rw [create, ExceptT.run_bind, Action.run_bind, Attempt.run_run_demand, h]
  rfl

theorem run_create_of_error {e : SystemError}
    (h : K.answer card (.createBlob data) s = (.error e, t)) :
    (Blob.create K card data).run.run s =
      ⟨.error (.blobCreateFailed e), t, [.asked card (.createBlob data)]⟩ := by
  rw [create, ExceptT.run_bind, Action.run_bind, Attempt.run_run_demand, h]
  rfl

theorem run_release (b : Blob κ) (s : σ) : ∃ lines : List (Event κ),
    (∀ e ∈ lines, e.request? = none) ∧ (b.release K).run s =
      ⟨(), (K.answer b.card (.destroyBlob b.id) s).2,
        .asked b.card (.destroyBlob b.id) :: lines⟩ := by
  rw [release, Action.run_bind, Kernel.run_ask]
  cases (K.answer b.card (.destroyBlob b.id) s).1 with
  | ok _ => exact ⟨[], List.forall_mem_nil _, rfl⟩
  | error e => exact ⟨[.logged .warn _], List.forall_mem_singleton.2 rfl, rfl⟩

end Blob

/-! ### Runs -/

/-- The cards of a machine and the blobs that somebody holds on them. -/
structure Custody where
  cards : List MemoryCard
  held : List (Blob Nat)

namespace Custody

/-- What a program does next: it takes a blob, lets one go, or is refused something. -/
inductive Move where
  /-- Create a blob on the card at a position. -/
  | create (card : Nat) (data : Bytes)
  /-- Create a blob on the card of a device. -/
  | createOn (device : Device Nat) (data : Bytes)
  /-- Drop the handle at a position. -/
  | drop (position : Nat)
  /-- A card refuses an operation from now on, or does not any more. -/
  | refuse (card : Nat) (op : Operation) (e : Option SystemError)

/-- The card on which a move creates a blob. -/
def Move.target? : Move → Option Nat
  | .create card _ => some card
  | .createOn device _ => some device.card
  | .drop _ | .refuse .. => none

/-- What a move comes to for the one who makes it: a new handle, a failure, a handle gone, or nothing. -/
inductive Result where
  | created (b : Blob Nat)
  | failed (e : DeviceError)
  | dropped (b : Blob Nat)
  | nothing

/-- A move with its result, the exchanges with the cards, and what there was before and is after it. -/
structure Turn where
  before : Custody
  move : Move
  result : Result
  exchanges : List (Exchange Nat)
  after : Custody

/-- What comes of an attempt to create a blob. -/
def receive (held : List (Blob Nat)) : Except DeviceError (Blob Nat) → Result × List (Blob Nat)
  | .ok b => (.created b, held ++ [b])
  | .error e => (.failed e, held)

/-- Makes a move; gives its result and the handles after it. -/
def act (held : List (Blob Nat)) : Move → Action Nat (List MemoryCard) (Result × List (Blob Nat))
  | .create card data => receive held <$> (Blob.create MemoryCard.bank card data).run
  | .createOn device data => receive held <$> (device.createBlob MemoryCard.bank data).run
  | .drop position =>
    match held[position]? with
    | none => return (.nothing, held)
    | some b => do
      b.release MemoryCard.bank
      return (.dropped b, held.eraseIdx position)
  | .refuse card op e => fun cards => ⟨(.nothing, held), cards.modify card (·.setRefusal op e), []⟩

/-- The turn in which a move is made. -/
def turn (c : Custody) (move : Move) : Turn :=
  let outcome := (act c.held move).run c.cards
  ⟨c, move, outcome.value.1, MemoryCard.bank.dialogue outcome.events c.cards,
    ⟨outcome.state, outcome.value.2⟩⟩

/-- Makes moves one after the other; gives the turns and what there is after them. -/
def play : Custody → List Move → List Turn × Custody
  | c, [] => ([], c)
  | c, move :: rest =>
    let t := c.turn move
    let (turns, last) := t.after.play rest
    (t :: turns, last)

/-! ### Blobs that come and go -/

/-- The blobs that a turn handed out. -/
def Turn.created (t : Turn) : List (Blob Nat) :=
  match t.result with
  | .created b => [b]
  | .failed _ | .dropped _ | .nothing => []

/-- The blobs whose handles a turn dropped. -/
def Turn.dropped (t : Turn) : List (Blob Nat) :=
  match t.result with
  | .dropped b => [b]
  | .created _ | .failed _ | .nothing => []

/-- The blobs that a turn asked to destroy. -/
def Turn.doomed (t : Turn) : List (Blob Nat) := t.exchanges.filterMap Exchange.doomed?

/-- The blobs that a turn destroyed. -/
def Turn.destroyed (t : Turn) : List (Blob Nat) :=
  (t.exchanges.filter Exchange.granted).filterMap Exchange.doomed?

/-- The blobs that a run handed out. -/
def created (history : List Turn) : List (Blob Nat) := history.flatMap (·.created)

/-- The blobs whose handles a run dropped. -/
def dropped (history : List Turn) : List (Blob Nat) := history.flatMap (·.dropped)

/-- The blobs that a run asked to destroy. -/
def doomed (history : List Turn) : List (Blob Nat) := history.flatMap (·.doomed)

/-- The blobs that a run destroyed. -/
def destroyed (history : List Turn) : List (Blob Nat) := history.flatMap (·.destroyed)

/-- The ids of the blobs that are on one card. -/
def idsOn (i : Nat) (l : List (Blob Nat)) : List ObjectId := (l.filter (·.card = i)).map (·.id)

variable {i : Nat} {l m : List (Blob Nat)}

theorem idsOn_append : idsOn i (l ++ m) = idsOn i l ++ idsOn i m := by
  rw [idsOn, List.filter_append, List.map_append]
  rfl

theorem mem_idsOn {id : ObjectId} : id ∈ idsOn i l ↔ ⟨i, id⟩ ∈ l := by
  constructor
  · intro h
    obtain ⟨⟨card, id⟩, hfiltered, rfl⟩ := List.mem_map.1 h
    obtain ⟨hmem, hcard⟩ := List.mem_filter.1 hfiltered
    rwa [show card = i from of_decide_eq_true hcard] at hmem
  · intro h
    exact List.mem_map.2 ⟨_, List.mem_filter.2 ⟨h, decide_eq_true rfl⟩, rfl⟩

theorem idsOn_singleton (b : Blob Nat) : idsOn b.card [b] = [b.id] := by simp [idsOn]

theorem idsOn_eq_nil {j : Nat} (hl : ∀ b ∈ l, b.card = j) (hj : j ≠ i) : idsOn i l = [] := by
  refine List.map_eq_nil_iff.2 (List.filter_eq_nil_iff.2 fun b hb hcard => ?_)
  exact hj ((hl b hb).symm.trans (of_decide_eq_true hcard))

theorem nodup_idsOn (h : l.Nodup) : (idsOn i l).Nodup := by
  refine (List.nodup_map_iff_inj_on (h.filter _)).2 ?_
  rintro ⟨card, id⟩ hb ⟨card', id'⟩ hb' rfl
  have hcard : card = i := of_decide_eq_true (List.mem_filter.1 hb).2
  have hcard' : card' = i := of_decide_eq_true (List.mem_filter.1 hb').2
  rw [hcard, hcard']

theorem nodup_of_nodup_idsOn (h : ∀ i, (idsOn i l).Nodup) : l.Nodup := by
  refine List.nodup_iff_sublist.2 fun b hb => ?_
  -- a handle that occurs twice puts its id twice on its card
  have htwice := (hb.filter (·.card = b.card)).map (·.id)
  rw [show [b, b] = [b] ++ [b] from rfl] at htwice
  change (idsOn b.card ([b] ++ [b])).Sublist (idsOn b.card l) at htwice
  rw [idsOn_append, idsOn_singleton] at htwice
  exact List.nodup_iff_sublist.1 (h b.card) b.id htwice

/-! ### What a turn can do -/

/-- What a turn can come to. -/
inductive Effect (c : Custody) : Turn → Prop where
  /-- A card made a blob. -/
  | created {move : Move} {m : MemoryCard} (i : Nat) (data : Bytes) (target : move.target? = some i)
      (found : c.cards[i]? = some m) :
      Effect c ⟨c, move, .created ⟨i, (m.createBlob data).1⟩,
        [⟨i, .createBlob data, .ok (m.createBlob data).1⟩],
        ⟨c.cards.set i (m.createBlob data).2, c.held ++ [⟨i, (m.createBlob data).1⟩]⟩⟩
  /-- No blob was made, and nothing changed. -/
  | failed (move : Move) (i : Nat) (data : Bytes) (e : SystemError) :
      Effect c ⟨c, move, .failed (.blobCreateFailed e), [⟨i, .createBlob data, .error e⟩], c⟩
  /-- A card was asked to destroy the blob of a dropped handle. -/
  | dropped {position : Nat} {b : Blob Nat} (found : c.held[position]? = some b) :
      Effect c ⟨c, .drop position, .dropped b,
        [⟨b.card, .destroyBlob b.id, (MemoryCard.bank.answer b.card (.destroyBlob b.id) c.cards).1⟩],
        ⟨(MemoryCard.bank.answer b.card (.destroyBlob b.id) c.cards).2, c.held.eraseIdx position⟩⟩
  /-- No blob is concerned. -/
  | nothing {move : Move} {cards : List MemoryCard}
      (same : cards.map (·.blobs) = c.cards.map (·.blobs)) :
      Effect c ⟨c, move, .nothing, [], ⟨cards, c.held⟩⟩

/-- A card makes a blob, or it is as if it had not been asked. -/
theorem answer_createBlob (cards : List MemoryCard) (i : Nat) (data : Bytes) :
    (∃ m, cards[i]? = some m ∧ MemoryCard.bank.answer i (.createBlob data) cards =
      (.ok (m.createBlob data).1, cards.set i (m.createBlob data).2)) ∨
    ∃ e, MemoryCard.bank.answer i (.createBlob data) cards = (.error e, cards) := by
  cases hfound : cards[i]? with
  | none => exact .inr ⟨_, MemoryCard.answer_bank_of_none hfound _⟩
  | some m =>
      rw [MemoryCard.answer_bank hfound]
      cases hrefusal : m.refusals.find? (Request.createBlob data).operation with
      | none =>
          rw [MemoryCard.answer_of_granted hrefusal]
          exact .inl ⟨m, rfl, rfl⟩
      | some e =>
          obtain ⟨hlt, rfl⟩ := List.getElem?_eq_some_iff.1 hfound
          rw [MemoryCard.answer_of_refused hrefusal]
          exact .inr ⟨e, congrArg _ (List.set_getElem_self hlt)⟩

theorem effect_of_create (c : Custody) {move : Move} {i : Nat} {data : Bytes}
    (target : move.target? = some i)
    (hact : act c.held move = receive c.held <$> (Blob.create MemoryCard.bank i data).run) :
    Effect c (c.turn move) := by
  rcases answer_createBlob c.cards i data with ⟨m, hfound, hanswer⟩ | ⟨e, hanswer⟩
  · have hturn : c.turn move = ⟨c, move, .created ⟨i, (m.createBlob data).1⟩,
        [⟨i, .createBlob data, .ok (m.createBlob data).1⟩],
        ⟨c.cards.set i (m.createBlob data).2, c.held ++ [⟨i, (m.createBlob data).1⟩]⟩⟩ := by
      rw [turn, hact, map_eq_pure_bind, Action.run_bind, Blob.run_create_of_ok hanswer]
      simp only [Kernel.dialogue, receive, Action.run_pure, List.cons_append, List.nil_append, hanswer]
    rw [hturn]
    exact .created i data target hfound
  · have hturn : c.turn move =
        ⟨c, move, .failed (.blobCreateFailed e), [⟨i, .createBlob data, .error e⟩], c⟩ := by
      rw [turn, hact, map_eq_pure_bind, Action.run_bind, Blob.run_create_of_error hanswer]
      simp only [Kernel.dialogue, receive, Action.run_pure, List.cons_append, List.nil_append, hanswer]
    rw [hturn]
    exact .failed move i data e

/-- What a turn can come to. -/
theorem effect_of_turn (c : Custody) (move : Move) : Effect c (c.turn move) := by
  cases move with
  | create i data => exact effect_of_create c rfl rfl
  | createOn device data => exact effect_of_create c rfl rfl
  | drop position =>
      cases hfound : c.held[position]? with
      | none =>
          have hturn : c.turn (.drop position) = ⟨c, .drop position, .nothing, [], c⟩ := by
            simp only [turn, act, hfound]
            rfl
          rw [hturn]
          exact .nothing rfl
      | some b =>
          obtain ⟨lines, hlines, hrun⟩ := b.run_release (K := MemoryCard.bank) c.cards
          have hturn : c.turn (.drop position) = ⟨c, .drop position, .dropped b,
              [⟨b.card, .destroyBlob b.id,
                (MemoryCard.bank.answer b.card (.destroyBlob b.id) c.cards).1⟩],
              ⟨(MemoryCard.bank.answer b.card (.destroyBlob b.id) c.cards).2,
                c.held.eraseIdx position⟩⟩ := by
            simp only [turn, act, hfound, Action.run_bind, hrun, Action.run_pure, List.append_nil,
              Kernel.dialogue, Kernel.dialogue_of_silent hlines]
          rw [hturn]
          exact .dropped hfound
  | refuse card op e =>
      refine .nothing (List.ext_getElem? fun i => ?_)
      simp only [act, Action.run, List.getElem?_map, List.getElem?_modify]
      by_cases h : card = i
      · cases c.cards[i]? <;> simp [h, MemoryCard.setRefusal]
      · cases c.cards[i]? <;> simp [h]

/-! ### What a turn changes -/

/-- How the records of a card go from `b` to `b'` when blobs with these ids are created, dropped and
destroyed. -/
structure Changed (b b' : Blobs) (created dropped destroyed : List ObjectId) : Prop where
  made : b'.made.length = b.made.length + created.length
  numbered : created = (List.range' (b.made.length + 1) created.length).map UInt32.ofNat
  recorded : b'.destroyed = b.destroyed ++ dropped
  live : b'.live = (b.live ++ created).diff destroyed

theorem changed_refl (b : Blobs) : Changed b b [] [] [] where
  made := rfl
  numbered := rfl
  recorded := (List.append_nil _).symm
  live := (List.append_nil _).symm

theorem changed_createBlob (m : MemoryCard) (data : Bytes) :
    Changed m.blobs (m.createBlob data).2.blobs [(m.createBlob data).1] [] [] where
  made := List.length_append
  numbered := rfl
  recorded := (List.append_nil _).symm
  live := rfl

/-- The call is recorded in any case; a blob stops being live when the call is granted. -/
theorem answer_destroyBlob (m : MemoryCard) (id : ObjectId) :
    (∃ m', m.answer (.destroyBlob id) = (.ok (), m') ∧ Changed m.blobs m'.blobs [] [id] [id]) ∨
    ∃ e m', m.answer (.destroyBlob id) = (.error e, m') ∧ Changed m.blobs m'.blobs [] [id] [] := by
  have hrecorded : Changed m.blobs (m.recordDestroy id).blobs [] [id] [] :=
    ⟨rfl, rfl, rfl, (List.append_nil _).symm⟩
  cases hrefusal : m.refusals.find? (Request.destroyBlob id).operation with
  | some e => exact .inr ⟨e, _, MemoryCard.answer_of_refused hrefusal, hrecorded⟩
  | none =>
      rw [MemoryCard.answer_of_granted hrefusal]
      by_cases hlive : (m.recordDestroy id).blobs.live.contains id = true
      · refine .inl ⟨_, if_pos hlive, rfl, rfl, rfl, ?_⟩
        rw [List.append_nil, List.diff_cons, List.diff_nil]
        rfl
      · exact .inr ⟨_, _, if_neg hlive, hrecorded⟩

/-- When one card changes by what is on it, every card does. -/
theorem changed_set (new gone freed : List (Blob Nat)) {cards : List MemoryCard} {i j : Nat}
    {m m₁ m' : MemoryCard} (hon : ∀ b ∈ new ++ gone ++ freed, b.card = j)
    (hm : cards[j]? = some m)
    (hchanged : Changed m.blobs m₁.blobs (idsOn j new) (idsOn j gone) (idsOn j freed))
    (hafter : (cards.set j m₁)[i]? = some m') : ∃ m₀, cards[i]? = some m₀ ∧
      Changed m₀.blobs m'.blobs (idsOn i new) (idsOn i gone) (idsOn i freed) := by
  by_cases hj : j = i
  · subst hj
    obtain ⟨hlt, hset⟩ := List.getElem?_eq_some_iff.1 hafter
    rw [List.getElem_set_self] at hset
    rw [← hset]
    exact ⟨m, hm, hchanged⟩
  · rw [List.getElem?_set_ne hj] at hafter
    simp only [List.forall_mem_append] at hon
    rw [idsOn_eq_nil hon.1.1 hj, idsOn_eq_nil hon.1.2 hj, idsOn_eq_nil hon.2 hj]
    exact ⟨m', hafter, changed_refl _⟩

namespace Effect

variable {c : Custody} {t : Turn}

/-- Destroy calls are made for dropped handles only. -/
theorem doomed_eq (h : Effect c t) : t.doomed = t.dropped := by
  cases h with
  | created => rfl
  | failed => rfl
  | dropped => rfl
  | nothing => rfl

theorem length_created_le (h : Effect c t) (i : Nat) :
    (idsOn i t.created).length ≤ if t.move.target? = some i then 1 else 0 := by
  cases h with
  | created j data target found =>
      by_cases hj : j = i
      · rw [if_pos (hj ▸ target)]
        rw [idsOn, List.length_map]
        exact List.length_filter_le _ [_]
      · simp [Turn.created, idsOn, hj]
  | failed => exact Nat.zero_le _
  | dropped => exact Nat.zero_le _
  | nothing => exact Nat.zero_le _

/-- **A turn changes the records of a card by what it creates, drops and destroys.** -/
theorem changed (h : Effect c t) {i : Nat} {m' : MemoryCard} (hafter : t.after.cards[i]? = some m') :
    ∃ m, c.cards[i]? = some m ∧
      Changed m.blobs m'.blobs (idsOn i t.created) (idsOn i t.dropped) (idsOn i t.destroyed) := by
  cases h with
  | @created move m j data target found =>
      refine changed_set [⟨j, (m.createBlob data).1⟩] [] [] ?_ found ?_ hafter
      · simp
      · have hid := idsOn_singleton ⟨j, (m.createBlob data).1⟩
        exact hid ▸ changed_createBlob m data
  | failed => exact ⟨m', hafter, changed_refl _⟩
  | @dropped position b found =>
      cases hcard : c.cards[b.card]? with
      | none =>
          simp only [MemoryCard.answer_bank_of_none hcard] at hafter ⊢
          have hb : b.card ≠ i := by
            rintro rfl
            rw [hcard] at hafter
            cases hafter
          have hgone : idsOn i [b] = [] := idsOn_eq_nil (List.forall_mem_singleton.2 rfl) hb
          exact ⟨m', hafter, hgone ▸ changed_refl _⟩
      | some m =>
          simp only [MemoryCard.answer_bank hcard] at hafter ⊢
          have hid := idsOn_singleton b
          rcases answer_destroyBlob m b.id with ⟨m₁, hanswer, hchanged⟩ | ⟨e, m₁, hanswer, hchanged⟩
          · rw [hanswer] at hafter ⊢
            refine changed_set [] [b] [b] ?_ hcard ?_ hafter
            · simp
            · exact hid ▸ hchanged
          · rw [hanswer] at hafter ⊢
            refine changed_set [] [b] [] ?_ hcard ?_ hafter
            · simp
            · exact hid ▸ hchanged
  | @nothing move cards same =>
      have hblobs := congrArg (·[i]?) same
      simp only [List.getElem?_map, hafter] at hblobs
      obtain ⟨m, hm, hsame⟩ := Option.map_eq_some_iff.1 hblobs.symm
      refine ⟨m, hm, ?_⟩
      rw [hsame]
      exact changed_refl _

theorem length_cards (h : Effect c t) : t.after.cards.length = c.cards.length := by
  cases h with
  | created => exact List.length_set
  | failed => rfl
  | @dropped position b found =>
      cases hcard : c.cards[b.card]? with
      | none => simp only [MemoryCard.answer_bank_of_none hcard]
      | some m => simp only [MemoryCard.answer_bank hcard, List.length_set]
  | nothing same => simpa using congrArg List.length same

theorem card_lt_of_mem_created (h : Effect c t) {b : Blob Nat} (hb : b ∈ t.created) :
    b.card < c.cards.length := by
  cases h with
  | created i data target found =>
      obtain rfl := List.mem_singleton.1 hb
      exact (List.getElem?_eq_some_iff.1 found).1
  | failed => cases hb
  | dropped => cases hb
  | nothing => cases hb

/-- Only a held handle can be dropped. -/
theorem dropped_subset (h : Effect c t) : t.dropped ⊆ c.held := by
  cases h with
  | created => exact List.nil_subset _
  | failed => exact List.nil_subset _
  | dropped found =>
      intro b hb
      obtain rfl := List.mem_singleton.1 hb
      exact List.mem_of_getElem? found
  | nothing => exact List.nil_subset _

theorem nodup_dropped (h : Effect c t) : t.dropped.Nodup := by
  cases h with
  | created => exact List.nodup_nil
  | failed => exact List.nodup_nil
  | dropped => exact List.nodup_singleton _
  | nothing => exact List.nodup_nil

theorem held_eq (h : Effect c t) (hnodup : c.held.Nodup) :
    t.after.held = (c.held ++ t.created).diff t.dropped := by
  cases h with
  | created => rfl
  | failed => exact (List.append_nil _).symm
  | @dropped position b found =>
      change c.held.eraseIdx position = (c.held ++ []).diff [b]
      obtain ⟨hlt, rfl⟩ := List.getElem?_eq_some_iff.1 found
      rw [List.append_nil, List.diff_cons, List.diff_nil]
      exact (hnodup.erase_getElem position hlt).symm
  | nothing => exact (List.append_nil _).symm

/-- A creation that failed changed nothing. -/
theorem of_failed (h : Effect c t) {e : DeviceError} (hfailed : t.result = .failed e) :
    t.after = t.before ∧ t.doomed = [] := by
  cases h with
  | created => cases hfailed
  | failed => exact ⟨rfl, rfl⟩
  | dropped => cases hfailed
  | nothing => cases hfailed

theorem destroyed_subset (h : Effect c t) : t.destroyed ⊆ t.dropped := by
  rw [← h.doomed_eq]
  exact (List.filter_sublist.filterMap _).subset

end Effect

/-! ### Lifetimes -/

/-- What the turns of a run say about what there is after it. -/
structure Lifetimes (history : List Turn) (now : Custody) : Prop where
  /-- Cards are asked to destroy the blobs of the dropped handles, in that order, and no others. -/
  doomed_eq : doomed history = dropped history
  /-- A card recorded the destroy calls for the dropped handles on it. -/
  recorded : ∀ i m, now.cards[i]? = some m → m.blobs.destroyed = idsOn i (dropped history)
  /-- No blob of a card is dropped twice. -/
  nodup_dropped : ∀ i, (idsOn i (dropped history)).Nodup
  /-- A creation that failed changed nothing and made no destroy call. -/
  failed : ∀ t ∈ history, ∀ e, t.result = .failed e → t.after = t.before ∧ t.doomed = []
  /-- The blobs of a card are numbered from 1. -/
  numbered : ∀ i m, now.cards[i]? = some m →
    idsOn i (created history) = (List.range' 1 m.blobs.made.length).map UInt32.ofNat
  /-- A card made at most one blob for each move that wanted one. -/
  made_le : ∀ i m, now.cards[i]? = some m →
    m.blobs.made.length ≤ history.countP (·.move.target? = some i)
  /-- No two blobs of a card have the same id. -/
  nodup_created : ∀ i, (idsOn i (created history)).Nodup
  /-- Blobs are created on cards that exist. -/
  card_lt : ∀ b ∈ created history, b.card < now.cards.length
  /-- Only handles that were handed out are dropped. -/
  dropped_subset : dropped history ⊆ created history
  /-- Only blobs whose handles were dropped are destroyed. -/
  destroyed_subset : destroyed history ⊆ dropped history
  /-- The blobs that were created and not dropped are held. -/
  held_eq : now.held = (created history).filter (· ∉ dropped history)
  /-- The blobs that were created and not destroyed are live. -/
  live_eq : ∀ i m, now.cards[i]? = some m →
    m.blobs.live = (idsOn i (created history)).filter (· ∉ idsOn i (destroyed history))

/-- What is left of some things after new ones came and some went. -/
theorem diff_filter_not_mem {α : Type} [DecidableEq α] {l new d gone : List α}
    (hnodup : (l ++ new).Nodup) (hd : ∀ a ∈ new, a ∉ d) :
    (l.filter (· ∉ d) ++ new).diff gone = (l ++ new).filter (· ∉ d ++ gone) := by
  have hnew : new.filter (· ∉ d) = new := List.filter_eq_self.2 fun a ha => decide_eq_true (hd a ha)
  have hold : l.filter (· ∉ d) ++ new = (l ++ new).filter (· ∉ d) := by
    rw [List.filter_append, hnew]
  rw [hold, (hnodup.filter _).sdiff_eq_filter, List.filter_filter]
  refine List.filter_congr fun a _ => ?_
  simp [not_or, Bool.and_comm]

theorem nodup_ids {n : Nat} (h : n < UInt32.size) : ((List.range' 1 n).map UInt32.ofNat).Nodup := by
  refine (List.nodup_map_iff_inj_on List.nodup_range').2 fun a ha b hb hab => ?_
  simp only [List.mem_range'_1] at ha hb
  have hnat := congrArg UInt32.toNat hab
  have hlt : ∀ k, k < 1 + n → k < UInt32.size := by
    intro k hk
    omega
  rwa [UInt32.toNat_ofNat_of_lt' (hlt a ha.2), UInt32.toNat_ofNat_of_lt' (hlt b hb.2)] at hnat

section Concat

variable (history : List Turn) (t : Turn)

theorem created_concat : created (history ++ [t]) = created history ++ t.created := by
  simp [created]

theorem dropped_concat : dropped (history ++ [t]) = dropped history ++ t.dropped := by
  simp [dropped]

theorem doomed_concat : doomed (history ++ [t]) = doomed history ++ t.doomed := by
  simp [doomed]

theorem destroyed_concat : destroyed (history ++ [t]) = destroyed history ++ t.destroyed := by
  simp [destroyed]

end Concat

namespace Lifetimes

variable {history : List Turn} {c : Custody} {t : Turn}

theorem nodup_held (h : Lifetimes history c) : c.held.Nodup := by
  rw [h.held_eq]
  exact (nodup_of_nodup_idsOn h.nodup_created).filter _

theorem mem_held_iff (h : Lifetimes history c) {b : Blob Nat} :
    b ∈ c.held ↔ b ∈ created history ∧ b ∉ dropped history := by
  rw [h.held_eq, List.mem_filter, decide_eq_true_iff]

section Turn

variable (h : Lifetimes history c) (ht : Effect c t)

include h ht

theorem made_le_concat {i : Nat} {m' : MemoryCard} (hm' : t.after.cards[i]? = some m') :
    m'.blobs.made.length ≤ (history ++ [t]).countP (·.move.target? = some i) := by
  obtain ⟨m, hm, hchanged⟩ := ht.changed hm'
  have hone : (idsOn i t.created).length ≤ [t].countP (·.move.target? = some i) := by
    rw [List.countP_singleton]
    simpa using ht.length_created_le i
  rw [hchanged.made, List.countP_append]
  exact Nat.add_le_add (h.made_le i m hm) hone

theorem numbered_concat {i : Nat} {m' : MemoryCard} (hm' : t.after.cards[i]? = some m') :
    idsOn i (created (history ++ [t])) = (List.range' 1 m'.blobs.made.length).map UInt32.ofNat := by
  obtain ⟨m, hm, hchanged⟩ := ht.changed hm'
  rw [created_concat, idsOn_append, h.numbered i m hm, hchanged.numbered, hchanged.made,
    ← List.map_append, Nat.add_comm m.blobs.made.length 1, List.range'_append_1]

theorem card_lt_concat {b : Blob Nat} (hb : b ∈ created (history ++ [t])) :
    b.card < t.after.cards.length := by
  rw [created_concat, List.mem_append] at hb
  rw [ht.length_cards]
  rcases hb with hold | hnew
  · exact h.card_lt b hold
  · exact ht.card_lt_of_mem_created hnew

/-- No id is given out twice, as long as the ids of each card suffice. -/
theorem nodup_created_concat
    (hfew : ∀ i, (history ++ [t]).countP (·.move.target? = some i) < UInt32.size) (i : Nat) :
    (idsOn i (created (history ++ [t]))).Nodup := by
  cases hm : t.after.cards[i]? with
  | none =>
      have hlen : t.after.cards.length ≤ i := List.getElem?_eq_none_iff.1 hm
      have hnone : idsOn i (created (history ++ [t])) = [] := by
        refine List.eq_nil_iff_forall_not_mem.2 fun id hid => ?_
        exact absurd (h.card_lt_concat ht (mem_idsOn.1 hid)) (Nat.not_lt.2 hlen)
      rw [hnone]
      exact List.nodup_nil
  | some m =>
      rw [h.numbered_concat ht hm]
      exact nodup_ids (Nat.lt_of_le_of_lt (h.made_le_concat ht hm) (hfew i))

end Turn

end Lifetimes

/-- One more turn keeps the lifetimes, as long as the ids of each card suffice. -/
theorem Lifetimes.concat {history : List Turn} {c : Custody} {t : Turn} (h : Lifetimes history c)
    (ht : Effect c t)
    (hfew : ∀ i, (history ++ [t]).countP (·.move.target? = some i) < UInt32.size) :
    Lifetimes (history ++ [t]) t.after := by
  have hcreated := h.nodup_created_concat ht hfew
  -- a new blob has an id that no blob had before, so it was not dropped and not destroyed
  have hnodup : (created history ++ t.created).Nodup := by
    rw [← created_concat]
    exact nodup_of_nodup_idsOn hcreated
  have hfresh : ∀ b ∈ t.created, b ∉ dropped history := fun b hnew hb =>
    (List.nodup_append.1 hnodup).2.2 b (h.dropped_subset hb) b hnew rfl
  have hheld : ∀ b ∈ t.dropped, b ∈ created history ∧ b ∉ dropped history := fun b hb =>
    h.mem_held_iff.1 (ht.dropped_subset hb)
  constructor
  case doomed_eq => rw [doomed_concat, dropped_concat, h.doomed_eq, ht.doomed_eq]
  case recorded =>
      intro i m' hm'
      obtain ⟨m, hm, hchanged⟩ := ht.changed hm'
      rw [hchanged.recorded, h.recorded i m hm, dropped_concat, idsOn_append]
  case nodup_dropped =>
      intro i
      rw [dropped_concat]
      refine nodup_idsOn (List.nodup_append.2 ⟨?_, ht.nodup_dropped, ?_⟩)
      · exact nodup_of_nodup_idsOn h.nodup_dropped
      · rintro b hold _ hnew rfl
        exact (hheld b hnew).2 hold
  case failed =>
      intro t' ht' e he
      rcases List.mem_append.1 ht' with hold | hlast
      · exact h.failed t' hold e he
      · obtain rfl := List.mem_singleton.1 hlast
        exact ht.of_failed he
  case numbered => exact fun i m hm => h.numbered_concat ht hm
  case made_le => exact fun i m hm => h.made_le_concat ht hm
  case nodup_created => exact hcreated
  case card_lt => exact fun b hb => h.card_lt_concat ht hb
  case dropped_subset =>
      rw [dropped_concat, created_concat]
      intro b hb
      rcases List.mem_append.1 hb with hold | hnew
      · exact List.mem_append_left _ (h.dropped_subset hold)
      · exact List.mem_append_left _ (hheld b hnew).1
  case destroyed_subset =>
      rw [destroyed_concat, dropped_concat]
      intro b hb
      rcases List.mem_append.1 hb with hold | hnew
      · exact List.mem_append_left _ (h.destroyed_subset hold)
      · exact List.mem_append_right _ (ht.destroyed_subset hnew)
  case held_eq =>
      rw [ht.held_eq h.nodup_held, h.held_eq, created_concat, dropped_concat]
      exact diff_filter_not_mem hnodup hfresh
  case live_eq =>
      intro i m' hm'
      obtain ⟨m, hm, hchanged⟩ := ht.changed hm'
      rw [hchanged.live, h.live_eq i m hm, created_concat, destroyed_concat, idsOn_append, idsOn_append]
      refine diff_filter_not_mem ?_ fun id hnew hid => ?_
      · rw [← idsOn_append]
        exact nodup_idsOn hnodup
      · exact hfresh _ (mem_idsOn.1 hnew) (h.destroyed_subset (mem_idsOn.1 hid))

theorem lifetimes_start {cards : List MemoryCard} (hcards : ∀ m ∈ cards, m.blobs = .none) :
    Lifetimes [] ⟨cards, []⟩ := by
  have hblobs : ∀ {i : Nat} {m : MemoryCard}, cards[i]? = some m → m.blobs = .none :=
    fun hm => hcards _ (List.mem_of_getElem? hm)
  constructor
  case doomed_eq => rfl
  case recorded =>
      intro i m hm
      rw [hblobs hm]
      rfl
  case nodup_dropped => exact fun _ => List.nodup_nil
  case failed => exact fun _ ht => nomatch ht
  case numbered =>
      intro i m hm
      rw [hblobs hm]
      rfl
  case made_le =>
      intro i m hm
      rw [hblobs hm]
      exact Nat.zero_le _
  case nodup_created => exact fun _ => List.nodup_nil
  case card_lt => exact fun _ hb => nomatch hb
  case dropped_subset => exact List.nil_subset _
  case destroyed_subset => exact List.nil_subset _
  case held_eq => rfl
  case live_eq =>
      intro i m hm
      rw [hblobs hm]
      rfl

theorem map_move_play (moves : List Move) : ∀ c : Custody, (c.play moves).1.map (·.move) = moves := by
  induction moves with
  | nil => exact fun _ => rfl
  | cons move rest ih => exact fun c => congrArg (move :: ·) (ih _)

theorem Lifetimes.play {moves : List Move} : ∀ {history : List Turn} {c : Custody},
    Lifetimes history c →
    (∀ i, (history ++ (c.play moves).1).countP (·.move.target? = some i) < UInt32.size) →
    Lifetimes (history ++ (c.play moves).1) (c.play moves).2 := by
  induction moves with
  | nil =>
      intro history c h _
      rwa [Custody.play, List.append_nil]
  | cons move rest ih =>
      intro history c h hfew
      change ∀ i, (history ++ c.turn move :: ((c.turn move).after.play rest).1).countP _ < _ at hfew
      change Lifetimes (history ++ c.turn move :: ((c.turn move).after.play rest).1)
        ((c.turn move).after.play rest).2
      rw [List.append_cons] at hfew ⊢
      -- the first turn joins the history before the rest is played
      refine ih (h.concat (effect_of_turn c move) fun i => ?_) hfew
      have hcount := hfew i
      rw [List.countP_append] at hcount
      omega

namespace Lifetimes

variable {history : List Turn} {now : Custody}

/-- A blob whose handle is held is live and was not destroyed. -/
theorem live_of_held (h : Lifetimes history now) {b : Blob Nat} (hb : b ∈ now.held) :
    ∃ m, now.cards[b.card]? = some m ∧ b.id ∈ m.blobs.live ∧ b.id ∉ m.blobs.destroyed := by
  obtain ⟨hcreated, hdropped⟩ := h.mem_held_iff.1 hb
  refine ⟨_, List.getElem?_eq_getElem (h.card_lt b hcreated), ?_, ?_⟩
  · rw [h.live_eq _ _ (List.getElem?_eq_getElem (h.card_lt b hcreated)), List.mem_filter,
      decide_eq_true_iff, mem_idsOn, mem_idsOn]
    exact ⟨hcreated, fun hdestroyed => hdropped (h.destroyed_subset hdestroyed)⟩
  · rw [h.recorded _ _ (List.getElem?_eq_getElem (h.card_lt b hcreated)), mem_idsOn]
    exact hdropped

/-- When nothing is held and every destroy call was granted, nothing is live. -/
theorem live_eq_nil (h : Lifetimes history now) (hheld : now.held = [])
    (hgranted : ∀ t ∈ history, ∀ e ∈ t.exchanges, e.doomed?.isSome → e.granted = true)
    {m : MemoryCard} (hm : m ∈ now.cards) : m.blobs.live = [] := by
  have hall : destroyed history = dropped history := by
    rw [← h.doomed_eq]
    refine List.flatMap_congr fun t ht => ?_
    rw [Turn.destroyed, List.filterMap_filter]
    refine List.filterMap_congr fun e he => ?_
    cases hdoomed : e.doomed? with
    | none => exact ite_self _
    | some b => exact if_pos (hgranted t ht e he (by simp [hdoomed]))
  obtain ⟨i, hi⟩ := List.mem_iff_getElem?.1 hm
  rw [h.live_eq i m hi, List.filter_eq_nil_iff]
  intro id hid hlive
  rw [decide_eq_true_iff, mem_idsOn, hall] at hlive
  have hmem := h.mem_held_iff.2 ⟨mem_idsOn.1 hid, hlive⟩
  rw [hheld] at hmem
  cases hmem

end Lifetimes

/-- **The lifetimes after any run on cards without blobs.**  Every point of a run is the end of a shorter
one, so what is said about the end holds at every point. -/
theorem lifetimes_of_play {cards : List MemoryCard} (hcards : ∀ m ∈ cards, m.blobs = .none)
    {moves : List Move} (hfew : ∀ i, moves.countP (·.target? = some i) < UInt32.size) :
    let (history, now) := (⟨cards, []⟩ : Custody).play moves
    history.map (·.move) = moves ∧ Lifetimes history now ∧
      (∀ b ∈ now.held, ∃ m, now.cards[b.card]? = some m ∧ b.id ∈ m.blobs.live ∧
        b.id ∉ m.blobs.destroyed) ∧
      (now.held = [] →
        (∀ t ∈ history, ∀ e ∈ t.exchanges, e.doomed?.isSome → e.granted = true) →
        ∀ m ∈ now.cards, m.blobs.live = []) := by
  have hmoves := map_move_play moves ⟨cards, []⟩
  have hlifetimes : Lifetimes ([] ++ ((⟨cards, []⟩ : Custody).play moves).1)
      ((⟨cards, []⟩ : Custody).play moves).2 := by
    refine (lifetimes_start hcards).play fun i => ?_
    rw [List.nil_append]
    have hcount := hfew i
    rwa [← hmoves, List.countP_map] at hcount
  exact ⟨hmoves, hlifetimes, fun b hb => hlifetimes.live_of_held hb,
    fun hheld hgranted m hm => hlifetimes.live_eq_nil hheld hgranted hm⟩

/-- A run on two cards with a refused creation and a refused destruction. -/
def errands : List Move :=
  [.create 0 [1, 2], .create 1 [], .refuse 0 .blobCreate (some (.os 22)), .create 0 [3],
    .refuse 0 .blobDestroy (some (.os 5)), .drop 0, .refuse 0 .blobDestroy none,
    .refuse 0 .blobCreate none, .create 0 [4], .drop 1]

theorem errands_lifetimes :
    let (history, now) := (⟨[.laptop, .blank], []⟩ : Custody).play errands
    history.map (·.move) = errands ∧ Lifetimes history now ∧
      (∀ b ∈ now.held, ∃ m, now.cards[b.card]? = some m ∧ b.id ∈ m.blobs.live ∧
        b.id ∉ m.blobs.destroyed) ∧
      (now.held = [] →
        (∀ t ∈ history, ∀ e ∈ t.exchanges, e.doomed?.isSome → e.granted = true) →
        ∀ m ∈ now.cards, m.blobs.live = []) := by
  have hcards : ∀ m ∈ [MemoryCard.laptop, .blank], m.blobs = .none := by
    intro m hm
    rcases List.mem_pair.1 hm with rfl | rfl
    · rfl
    · rfl
  have hfew : ∀ i, errands.countP (·.target? = some i) < UInt32.size := fun i =>
    Nat.lt_of_le_of_lt List.countP_le_length (by decide)
  exact lifetimes_of_play hcards hfew

end Custody

end Scanout
