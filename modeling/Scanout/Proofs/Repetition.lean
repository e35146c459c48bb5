/-
**Initializing a card again.**

An initialization leaves traces on its card: connectors that write to memory may be shown afterwards, and
mastership was granted once more.  Other users of the card leave others.  All the same, a card in memory can
be initialized again at any time and becomes the same device, or fails as it did, because nothing that can be
done with it matters to an initialization.  What it shows is asked for again, and mastership and blobs are
not looked at.

Main definitions:

* `Scanout.Use` — what is done with a card, and `Scanout.Use.makeAll`, one use after the other;
* `Scanout.MemoryCard.Later` — what a card can become by being used;
* `Scanout.MemoryCard.Undisturbed` — what it can become by being initialized.

Main results:

* `Scanout.MemoryCard.later_answer`, `Scanout.Use.later_makeAll` — one request, and any uses, lead to a later
  card;
* `Scanout.MemoryCard.Later.replies_showing_eq` — what an initialization sees of a card does not change;
* `Scanout.MemoryCard.init_repeatable` — **an initialization can be repeated, and disturbs nothing**.
-/

import Scanout.Blob
import Scanout.Proofs.Degradation
import Scanout.Proofs.Protocol.Laws

set_option relaxedAutoImplicit false
set_option autoImplicit false

namespace Scanout

open Text (Bytes)

/-! ### Using a card -/

section Use

variable {κ σ : Type}

/-- Something that is done with a card. -/
inductive Use where
  | probe
  | negotiate
  | enumerate
  | lookUp (object : ObjectId) (kind : ObjectKind) (name : String)
  | init (first : DisplayId)
  | createBlob (data : Bytes)
  | releaseBlob (id : ObjectId)

namespace Use

/-- Makes use of a card, whatever comes of it. -/
def make (K : Kernel κ σ) (card : κ) : Use → Action κ σ Unit
  | .probe => discard (hasModeSetting K card)
  | .negotiate => discard (Scanout.negotiate K card).run
  | .enumerate => discard (Scanout.enumerate K card).run
  | .lookUp object kind name => discard (getProperty K card object kind name).run
  | .init first => discard (Device.init K card first).run
  | .createBlob data => discard (Blob.create K card data).run
  | .releaseBlob id => Blob.release K ⟨card, id⟩

/-- Makes one use of a card after the other. -/
def makeAll (K : Kernel κ σ) (card : κ) : List Use → Action κ σ Unit
  | [] => pure ()
  | use :: rest => do
    use.make K card
    makeAll K card rest

end Use

/-- The requests that do not hide connectors that write to memory. -/
def Request.Shows (q : Request) : Prop := q ≠ .setClientCapability .writebackConnectors false

theorem Request.negotiates_of_mem {q : Request} (h : q ∈ Request.negotiation) : q.Negotiates := by
  simp only [Request.negotiation, List.mem_cons, List.not_mem_nil, or_false] at h
  rcases h with rfl | rfl | rfl | rfl | rfl <;> trivial

theorem Request.Initializes.shows {q : Request} (h : q.Initializes) : q.Shows := by
  rintro rfl
  rcases h with h | h | h | h
  · exact absurd h (by decide)
  · cases h
  · cases h
  · exact h

/-- Whatever is done with a card, its connectors are not hidden. -/
theorem Use.talks_make (K : Kernel κ σ) (card : κ) (use : Use) :
    (use.make K card).Talks K fun _ q => q.Shows := by
  have hdiscard : ∀ {α : Type} {x : Action κ σ α}, x.Talks K (fun _ q => q.Shows) →
      (discard x).Talks K fun _ q => q.Shows := by
    intro α x hx
    exact hx.bind fun _ => .pure ()
  cases use with
  | probe =>
      refine hdiscard (.bind (.ask nofun) fun r => ?_)
      cases r with
      | error e => exact .bind (.log _ _) fun _ => .pure _
      | ok listed => exact .pure _
  | negotiate =>
      refine hdiscard (obeys_negotiate.talks fun l r h e he => ?_)
      exact Request.Initializes.shows (.inl (h.about e he).2)
  | enumerate =>
      refine hdiscard (obeys_enumerate.talks fun l r h e he => ?_)
      exact Request.Initializes.shows (.inr (h.about e he).2)
  | lookUp object kind name =>
      refine hdiscard (obeys_getProperty.talks fun l r h e he => ?_)
      have habout := (h.about e he).2.aboutObjects
      exact Request.Initializes.shows (.inr (.inr (.inr habout)))
  | init first =>
      refine hdiscard ((Device.obeys_init first).talks fun l r h e he => ?_)
      exact (h.about e he).2.shows
  | createBlob data =>
      refine hdiscard (Attempt.talks_bind (Attempt.talks_demand nofun _) fun id => ?_)
      exact Attempt.talks_bind (Attempt.talks_lift (.log _ _)) fun _ => .pure _
  | releaseBlob id =>
      refine .bind (.ask nofun) fun r => ?_
      cases r with
      | error e => exact .log _ _
      | ok _ => exact .pure _

end Use

/-! ### What a card can become -/

namespace MemoryCard

variable {m u v : MemoryCard}

/-- A card as it may be after it was used.  It has the same objects and refuses the same, its mastership was
not taken back, and connectors that write to memory are shown if they were, or if that is granted. -/
structure Later (m u : MemoryCard) : Prop where
  card : u = { m with writeback := u.writeback, mastered := u.mastered, blobs := u.blobs }
  shown : m.writeback = true → u.writeback = true
  granted : u.writeback = true → m.writeback = true ∨ m.refusals.find? .writeback = none
  mastered : m.mastered ≤ u.mastered

namespace Later

theorem refl (m : MemoryCard) : m.Later m := ⟨rfl, id, .inl, le_rfl⟩

theorem trans (h : m.Later u) (h' : u.Later v) : m.Later v where
  card := by
    rw [h'.card, h.card]
  shown hm := h'.shown (h.shown hm)
  granted hv := by
    rcases h'.granted hv with hu | hrefusal
    · exact h.granted hu
    · rw [h.card] at hrefusal
      exact .inr hrefusal
  mastered := h.mastered.trans h'.mastered

end Later

theorem later_blobs (m : MemoryCard) (blobs : Blobs) : m.Later { m with blobs := blobs } :=
  ⟨rfl, id, .inl, le_rfl⟩

theorem later_showing (m : MemoryCard) : m.Later m.showing := by
  cases hrefusal : m.refusals.find? .writeback with
  | some e =>
      rw [showing_of_refused hrefusal]
      exact .refl m
  | none =>
      rw [showing_of_granted hrefusal]
      exact ⟨rfl, fun _ => rfl, fun _ => .inr hrefusal, le_rfl⟩

theorem later_acquireMaster (m : MemoryCard) : m.Later (m.answer .acquireMaster).2 := by
  cases hrefusal : m.refusals.find? Request.acquireMaster.operation with
  | some e =>
      rw [answer_of_refused hrefusal]
      exact .refl m
  | none =>
      rw [answer_of_granted hrefusal]
      exact ⟨rfl, id, .inl, Nat.le_succ _⟩

/-- A request leads to a later card, unless it hides connectors. -/
theorem later_answer {q : Request} (hq : q.Shows) (m : MemoryCard) : m.Later (m.answer q).2 := by
  have hidle : q.ChangesNothing → m.Later (m.answer q).2 := by
    intro hnothing
    rw [state_answer hnothing]
    exact .refl m
  have hblobs : (∃ blobs, (m.answer q).2 = { m with blobs := blobs }) → m.Later (m.answer q).2 := by
    rintro ⟨blobs, hstate⟩
    rw [hstate]
    exact m.later_blobs blobs
  cases q with
  | setClientCapability capability enable =>
      cases capability with
      | writebackConnectors =>
          cases enable with
          | false => exact absurd rfl hq
          | true => exact m.later_showing
      | stereo3d | universalPlanes | atomic | aspectRatio => exact hidle trivial
  | acquireMaster => exact m.later_acquireMaster
  | createBlob data =>
      refine hblobs ?_
      cases hrefusal : m.refusals.find? (Request.createBlob data).operation with
      | some e => exact ⟨_, congrArg Prod.snd (answer_of_refused hrefusal)⟩
      | none => exact ⟨_, congrArg Prod.snd (answer_of_granted hrefusal)⟩
  | destroyBlob id =>
      refine hblobs ?_
      cases hrefusal : m.refusals.find? (Request.destroyBlob id).operation with
      | some e => exact ⟨_, congrArg Prod.snd (answer_of_refused hrefusal)⟩
      | none =>
          rw [answer_of_granted hrefusal, grant, destroyBlob]
          split
          · exact ⟨_, rfl⟩
          · exact ⟨_, rfl⟩
  | _ => exact hidle trivial

end MemoryCard

open MemoryCard (kernel)

/-- What talks to a card and hides no connectors leads to a later card. -/
theorem Action.Talks.later {α : Type} {x : Action Unit MemoryCard α}
    (h : x.Talks kernel fun _ q => q.Shows) (m : MemoryCard) : m.Later (x.run m).state :=
  h.invariant (I := m.Later) (fun _ _ u hq hu => hu.trans (u.later_answer hq)) (.refl m)

/-- Any uses lead to a later card. -/
theorem Use.later_makeAll (uses : List Use) (m : MemoryCard) :
    m.Later ((makeAll kernel () uses).run m).state := by
  induction uses generalizing m with
  | nil => exact .refl m
  | cons use uses ih => exact ((use.talks_make kernel ()).later m).trans (ih _)

/-! ### What an initialization sees -/

namespace MemoryCard

variable {m u : MemoryCard}

theorem Later.replies_resources_eq (h : m.Later u) (shown : Bool) :
    replies { u with writeback := shown } () .resources =
      replies { m with writeback := shown } () .resources := by
  rw [h.card]
  exact (replies_resources _ shown).trans (replies_resources m shown).symm

/-- What an initialization sees of a card does not change. -/
theorem Later.replies_showing_eq (h : m.Later u) {q : Request} (hq : q.Initializes) :
    u.showing.replies () q = m.showing.replies () q := by
  by_cases hsteady : q.Steady
  · rw [replies_showing hsteady, replies_showing hsteady, h.card, replies_of_steady hsteady]
  -- of its requests only the one for the list of objects is not steady
  obtain rfl : q = .resources := by
    rcases hq with hq | rfl | rfl | hq
    · exact absurd (Request.negotiates_of_mem hq).steady hsteady
    · rfl
    · exact absurd trivial hsteady
    · exact absurd hq.steady hsteady
  cases hrefusal : m.refusals.find? .writeback with
  | none =>
      have hlater : u.refusals.find? .writeback = none := by rwa [h.card]
      rw [showing_of_granted hrefusal, showing_of_granted hlater]
      exact h.replies_resources_eq true
  | some e =>
      have hlater : u.refusals.find? .writeback = some e := by rwa [h.card]
      -- nobody was granted to show more than was shown
      have hshown : u.writeback = m.writeback := by
        rw [Bool.eq_iff_iff]
        refine ⟨fun hu => (h.granted hu).resolve_right fun hnone => ?_, h.shown⟩
        rw [hrefusal] at hnone
        cases hnone
      rw [showing_of_refused hrefusal, showing_of_refused hlater]
      have hresources : u.replies () .resources =
          replies { m with writeback := u.writeback } () .resources :=
        h.replies_resources_eq u.writeback
      rw [hresources, hshown]

/-- An initialization of a later card ends as one of the card does. -/
theorem Later.value_init (h : m.Later u) (first : DisplayId) :
    ((Device.init kernel () first).run.run u).value =
      ((Device.init kernel () first).run.run m).value := by
  have hseen : m.showing.replies.AgreesWith (fun _ => True)
      ((Device.init kernel () first).run.exchanges kernel u) := by
    intro e he _
    have hkind := (((Device.obeys_init first).rule u).about e he).2
    rw [← h.replies_showing_eq hkind]
    exact u.agreesWith_init first e he trivial
  rw [Device.settles_init kernel m.showing.replies () first u hseen,
    Device.settles_init kernel m.showing.replies () first m (m.agreesWith_init first)]

/-! ### What an initialization leaves behind -/

/-- A card as it may be after it was initialized: connectors may be shown that were hidden, if that is
granted, and mastership may have been granted again.  Nothing else has changed. -/
structure Undisturbed (m u : MemoryCard) : Prop where
  card : u = { m with writeback := u.writeback, mastered := u.mastered }
  shown : m.writeback = true → u.writeback = true
  granted : u.writeback = true → m.writeback = true ∨ m.refusals.find? .writeback = none
  mastered : m.mastered ≤ u.mastered
  blobs : u.blobs = m.blobs
  objects : ∀ q : Request, q.AboutObjects → u.replies () q = m.replies () q

theorem Later.undisturbed (h : m.Later u) (hblobs : u.blobs = m.blobs) : m.Undisturbed u where
  card := by
    have hcard := h.card
    rwa [hblobs] at hcard
  shown := h.shown
  granted := h.granted
  mastered := h.mastered
  blobs := hblobs
  objects q hq := by
    rw [h.card]
    exact replies_of_steady hq.steady

/-- No request of an initialization touches the blobs. -/
theorem blobs_answer {q : Request} (hq : q.Initializes) (m : MemoryCard) :
    (m.answer q).2.blobs = m.blobs := by
  have hidle : q.ChangesNothing → (m.answer q).2.blobs = m.blobs := by
    intro hnothing
    rw [state_answer hnothing]
  rcases hq with hq | hq
  · simp only [Request.negotiation, List.mem_cons, List.not_mem_nil, or_false] at hq
    rcases hq with rfl | rfl | rfl | rfl | rfl
    · exact hidle trivial
    · exact hidle trivial
    · obtain ⟨shown, hstate⟩ := m.exists_showing
      change m.showing.blobs = m.blobs
      rw [hstate]
    · exact hidle trivial
    · obtain ⟨mastered, hstate⟩ := m.exists_state_acquireMaster
      rw [hstate]
  · exact hidle hq.changesNothing

theorem undisturbed_init (m : MemoryCard) (first : DisplayId) :
    m.Undisturbed ((Device.init kernel () first).run.run m).state := by
  have htalks : (Device.init kernel () first).run.Talks kernel fun _ q => q.Initializes :=
    (Device.obeys_init first).talks fun l r h e he => (h.about e he).2
  refine ((htalks.mono fun _ _ hq => hq.shows).later m).undisturbed ?_
  exact htalks.invariant (I := fun u => u.blobs = m.blobs)
    (fun _ _ u hq hu => (u.blobs_answer hq).trans hu) rfl

/-- **An initialization can be repeated, and disturbs nothing.**  Whatever was done with a card in between,
it becomes the same device again or fails with the same error; and each time it is left as it was, but for
the writeback connectors and mastership. -/
theorem init_repeatable (m : MemoryCard) (first : DisplayId) (uses : List Use) :
    let before := (Device.init kernel () first).run.run m
    let between := (Use.makeAll kernel () uses).run before.state
    let after := (Device.init kernel () first).run.run between.state
    after.value = before.value ∧ m.Undisturbed before.state ∧
      between.state.Undisturbed after.state := by
  intro before between after
  have hinit : m.Later before.state := ((Use.init first).talks_make kernel ()).later m
  have huses : before.state.Later between.state := Use.later_makeAll uses before.state
  exact ⟨(hinit.trans huses).value_init first, m.undisturbed_init first,
    between.state.undisturbed_init first⟩

end MemoryCard

end Scanout
