/-
**Cards in memory have fixed objects.**

No request changes what a card in memory says about its objects: mastership, the writeback connectors
and the blobs are all that a request can touch.  So whoever talks to such a card, and for however long,
gets the same answer to the same question about an object.

Main definitions:

* `Scanout.MemoryCard.replies` — what a card answers as it is now;
* `Scanout.Request.Steady` — the requests to which it always says the same.

Main results:

* `Scanout.MemoryCard.exists_answer_eq` — what a request can change;
* `Scanout.MemoryCard.agreesWith_steady` — steady replies are those of the card at the start;
* `Scanout.MemoryCard.agreesWith_exchanges` — **all exchanges about objects agree with the card at the
  start**.
-/

import Scanout.MemoryCard.Basic
import Scanout.Proofs.Enumeration

set_option relaxedAutoImplicit false
set_option autoImplicit false

namespace Scanout

/-- The requests whose replies a card does not change: all but those for the list of objects, which may
show writeback connectors or not, and for blobs. -/
def Request.Steady : Request → Prop
  | .resources | .createBlob _ | .destroyBlob _ => False
  | _ => True

theorem Request.AboutObjects.steady {q : Request} (h : q.AboutObjects) : q.Steady := by
  cases q <;> trivial

namespace MemoryCard

variable {α : Type}

/-- What a card answers as it is now. -/
def replies (m : MemoryCard) : Replies Unit := fun _ q => (m.answer q).1

theorem answer_of_refused {m : MemoryCard} {q : Request} {e : SystemError}
    (h : m.refusals.find? q.operation = some e) : m.answer q = (.error e, m.note q) := by
  rw [answer, h]

theorem answer_of_granted {m : MemoryCard} {q : Request}
    (h : m.refusals.find? q.operation = none) : m.answer q = (m.note q).grant q := by
  rw [answer, h]

theorem exists_note_eq (m : MemoryCard) (q : Request) :
    ∃ blobs, m.note q = { m with blobs := blobs } := by
  cases q with
  | destroyBlob id => exact ⟨_, rfl⟩
  | _ => exact ⟨m.blobs, rfl⟩

theorem exists_grant_eq (m : MemoryCard) (q : Request) : ∃ writeback mastered blobs,
    (m.grant q).2 = { m with writeback := writeback, mastered := mastered, blobs := blobs } := by
  cases q with
  | setClientCapability capability enable => cases capability <;> exact ⟨_, _, _, rfl⟩
  | driverCapability capability => cases capability <;> exact ⟨_, _, _, rfl⟩
  | destroyBlob id =>
      rw [grant, destroyBlob]
      split
      · exact ⟨_, _, _, rfl⟩
      · exact ⟨_, _, _, rfl⟩
  | _ => exact ⟨_, _, _, rfl⟩

/-- What a request can change. -/
theorem exists_answer_eq (m : MemoryCard) (q : Request) : ∃ writeback mastered blobs,
    (m.answer q).2 = { m with writeback := writeback, mastered := mastered, blobs := blobs } := by
  obtain ⟨noted, hnoted⟩ := m.exists_note_eq q
  cases hrefusal : m.refusals.find? q.operation with
  | some e =>
      rw [answer_of_refused hrefusal, hnoted]
      exact ⟨_, _, _, rfl⟩
  | none =>
      rw [answer_of_granted hrefusal, hnoted]
      obtain ⟨writeback, mastered, blobs, hgranted⟩ := exists_grant_eq { m with blobs := noted } q
      exact ⟨writeback, mastered, blobs, hgranted⟩

/-- What the card says in reply does not depend on mastership, writeback connectors and blobs. -/
theorem replies_of_steady {m : MemoryCard} {writeback : Bool} {mastered : Nat} {blobs : Blobs}
    {q : Request} (h : q.Steady) :
    replies { m with writeback := writeback, mastered := mastered, blobs := blobs } () q =
      m.replies () q := by
  rw [replies, replies, answer, answer]
  cases m.refusals.find? q.operation with
  | some e => rfl
  | none =>
      cases q with
      | setClientCapability capability enable => cases capability <;> rfl
      | driverCapability capability => cases capability <;> rfl
      | resources | createBlob | destroyBlob => cases h
      | _ => rfl

/-- Steady replies are those of the card at the start. -/
theorem agreesWith_steady (x : Action Unit MemoryCard α) (m : MemoryCard) :
    m.replies.AgreesWith Request.Steady (x.exchanges kernel m) := by
  refine Replies.agreesWith_dialogue (P := fun _ _ => True)
    (I := fun u => ∃ writeback mastered blobs,
      u = { m with writeback := writeback, mastered := mastered, blobs := blobs })
    (fun card q u _ hu hsteady => ?_) (fun card q u _ hu => ?_) (fun _ _ _ => trivial) ⟨_, _, _, rfl⟩
  · obtain ⟨writeback, mastered, blobs, rfl⟩ := hu
    exact replies_of_steady hsteady
  · obtain ⟨writeback, mastered, blobs, rfl⟩ := hu
    exact exists_answer_eq _ q

/-- All exchanges about objects agree with the card at the start. -/
theorem agreesWith_exchanges (x : Action Unit MemoryCard α) (m : MemoryCard) :
    m.replies.AgreesWith Request.AboutObjects (x.exchanges kernel m) :=
  fun e he habout => agreesWith_steady x m e he habout.steady

/-! ### Rows of cards -/

section Bank

variable {cards : List MemoryCard} {i : Nat}

theorem answer_bank {m : MemoryCard} (h : cards[i]? = some m) (q : Request) :
    bank.answer i q cards = ((m.answer q).1, cards.set i (m.answer q).2) := by
  simp only [bank, h]

theorem answer_bank_of_none (h : cards[i]? = none) (q : Request) :
    bank.answer i q cards = (.error .notFound, cards) := by
  simp only [bank, h]

/-- Copies of one card reply alike, wherever they stand. -/
theorem alike_bank {other : List MemoryCard} {j : Nat} (h : cards[i]? = other[j]?) :
    bank.Alike i cards j other := by
  intro asked
  induction asked generalizing cards other with
  | nil =>
      intro q
      change (bank.answer i q cards).1 = (bank.answer j q other).1
      cases hcard : cards[i]? with
      | none => rw [answer_bank_of_none hcard, answer_bank_of_none (h ▸ hcard)]
      | some m => rw [answer_bank hcard, answer_bank (h ▸ hcard)]
  | cons q asked ih =>
      refine ih ?_
      change (bank.answer i q cards).2[i]? = (bank.answer j q other).2[j]?
      cases hcard : cards[i]? with
      | none =>
          rw [answer_bank_of_none hcard, answer_bank_of_none (h ▸ hcard)]
          exact h
      | some m =>
          have hother : other[j]? = some m := h ▸ hcard
          rw [answer_bank hcard, answer_bank hother]
          rw [List.getElem?_set_self (List.getElem?_eq_some_iff.1 hcard).1,
            List.getElem?_set_self (List.getElem?_eq_some_iff.1 hother).1]

/-- Cards in different places share no state. -/
theorem independent_bank {i j : Nat} (hne : i ≠ j) : bank.Independent i j := by
  have hkept : ∀ {i j : Nat}, i ≠ j → ∀ q cards,
      bank.Alike j cards j (bank.answer i q cards).2 := by
    intro i j hne q cards
    refine alike_bank ?_
    cases hcard : cards[i]? with
    | none => rw [answer_bank_of_none hcard]
    | some m => rw [answer_bank hcard, List.getElem?_set_ne hne]
  exact ⟨hkept hne, hkept hne.symm⟩

end Bank

end MemoryCard

end Scanout
