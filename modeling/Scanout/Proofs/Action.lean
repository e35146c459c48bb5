/-
**How attempts succeed.**

An attempt that is made of parts succeeds when each part does, in the state that the part before it
left.  Taken apart in this way, a successful attempt says what its parts gave without a look at the
events.

Main definitions:

* `Scanout.Attempt.Gives` — an attempt succeeds with a value and leaves a state.

Main results:

* `Scanout.bind_eq_ok_iff` — the same for results without a world;
* `Scanout.Attempt.gives_bind_iff` — **a sequence succeeds as its parts do**.
-/

import Scanout.Action

set_option relaxedAutoImplicit false
set_option autoImplicit false

namespace Scanout

/-! ### Results -/

section Results

variable {ε ε' α β : Type} {x : Except ε α}

theorem bind_eq_ok_iff {f : α → Except ε β} {b : β} :
    x >>= f = .ok b ↔ ∃ a, x = .ok a ∧ f a = .ok b := by
  cases x with
  | error e =>
      constructor
      · intro h
        cases h
      · rintro ⟨a, ha, -⟩
        cases ha
  | ok a =>
      constructor
      · intro h
        exact ⟨a, rfl, h⟩
      · rintro ⟨a', ha, h⟩
        cases ha
        exact h

theorem mapError_eq_ok_iff {f : ε → ε'} {a : α} : x.mapError f = .ok a ↔ x = .ok a := by
  constructor
  · intro h
    cases x with
    | error e => cases h
    | ok a' =>
        cases h
        rfl
  · rintro rfl
    rfl

end Results

/-! ### Attempts -/

namespace Attempt

variable {κ σ ε α β : Type}

/-- From the state `s`, an attempt succeeds with `a` and leaves `s'`. -/
def Gives (x : Attempt κ σ ε α) (s : σ) (a : α) (s' : σ) : Prop :=
  (x.run.run s).value = .ok a ∧ (x.run.run s).state = s'

variable {s s' : σ} {a : α} {b : β}

/-- **A sequence succeeds as its parts do.** -/
theorem gives_bind_iff {x : Attempt κ σ ε α} {f : α → Attempt κ σ ε β} :
    Gives (x >>= f) s b s' ↔ ∃ a t, Gives x s a t ∧ Gives (f a) t b s' := by
  have hrun : (x >>= f).run = x.run >>= fun r => match r with
      | .ok a => (f a).run
      | .error e => pure (.error e) := rfl
  simp only [Gives]
  rw [hrun, Action.run_bind]
  cases hx : (x.run.run s).value with
  | error e => simp
  | ok a =>
      constructor
      · intro h
        exact ⟨a, _, ⟨rfl, rfl⟩, h⟩
      · rintro ⟨a', _, ⟨hvalue, rfl⟩, h⟩
        cases hvalue
        exact h

/-- When the first part succeeds, a sequence ends as the second one does. -/
theorem value_bind_of_gives {x : Attempt κ σ ε α} {t : σ} (h : Gives x s a t)
    (f : α → Attempt κ σ ε β) : ((x >>= f).run.run s).value = ((f a).run.run t).value := by
  obtain ⟨hvalue, rfl⟩ := h
  rw [ExceptT.run_bind, Action.run_bind, hvalue]

/-- When the first part fails, a sequence fails as it does. -/
theorem value_bind_of_error {x : Attempt κ σ ε α} {e : ε} (h : (x.run.run s).value = .error e)
    (f : α → Attempt κ σ ε β) : ((x >>= f).run.run s).value = .error e := by
  rw [ExceptT.run_bind, Action.run_bind, h]
  rfl

theorem gives_pure_iff {a' : α} :
    Gives (pure a' : Attempt κ σ ε α) s a s' ↔ a' = a ∧ s = s' := by
  change Except.ok a' = Except.ok a ∧ s = s' ↔ _
  rw [Except.ok.injEq]

/-- An action that cannot fail gives what it ends with. -/
theorem gives_lift_iff {x : Action κ σ α} :
    Gives (ExceptT.lift x : Attempt κ σ ε α) s a s' ↔
      (x.run s).value = a ∧ (x.run s).state = s' := by
  change Except.ok (x.run s).value = Except.ok a ∧ (x.run s).state = s' ↔ _
  rw [Except.ok.injEq]

theorem not_gives_throw {e : ε} : ¬ Gives (throw e : Attempt κ σ ε α) s a s' :=
  fun h => nomatch h.1

/-- An attempt that fails under a condition succeeds only without it. -/
theorem gives_guard_iff {c : Prop} [Decidable c] {e : ε} {f : β → Attempt κ σ ε α}
    {x : Attempt κ σ ε α} :
    Gives (if c then throw e >>= f else x) s a s' ↔ ¬ c ∧ Gives x s a s' := by
  by_cases hc : c
  · rw [if_pos hc, gives_bind_iff]
    constructor
    · rintro ⟨_, _, hthrow, -⟩
      exact absurd hthrow not_gives_throw
    · intro h
      exact absurd hc h.1
  · rw [if_neg hc]
    exact (and_iff_right hc).symm

end Attempt

end Scanout
