/-
**Runs of a registry.**

A registry changes only by calls that add a card or remove a device, and each of them has one of four
effects.  What holds at the start and survives every effect therefore holds after any run, whatever
the kernel answers and whichever calls fail.

Main definitions:

* `Scanout.Registry.Call`, `Scanout.Registry.Answer` — calls and their answers;
* `Scanout.Registry.Step` — a call with its answer and the registries around it;
* `Scanout.Registry.make`, `Scanout.Registry.perform` — one call, and one call after the other;
* `Scanout.Registry.Effect` — what a call can do.

Main results:

* `Scanout.Registry.effect_of_make` — **a call has one of the four effects**;
* `Scanout.Registry.map_call_perform` — a run makes every call;
* `Scanout.Registry.perform_induction` — **what survives every effect holds after every run**.
-/

import Scanout.Proofs.Action
import Scanout.Registry.Basic

set_option relaxedAutoImplicit false
set_option autoImplicit false

namespace Scanout

namespace Registry

variable {κ σ : Type}

/-! ### Calls -/

/-- A call on a registry. -/
inductive Call (κ : Type) where
  /-- Register a card under a path. -/
  | add (path : Path) (card : κ)
  /-- Take out the device at a path. -/
  | remove (path : Path)
  deriving Repr

/-- An answer to a call. -/
inductive Answer (κ : Type) where
  /-- The card became a device with so many displays. -/
  | added (count : Nat)
  /-- The card was not registered. -/
  | refused (e : AddError)
  /-- This device was taken out. -/
  | removed (device : Device κ)
  /-- There was no device to take out. -/
  | unknown
  deriving Repr

/-- The number of displays that an answer announces. -/
def Answer.count : Answer κ → Nat
  | .added count => count
  | .refused _ | .removed _ | .unknown => 0

/-- A call with its answer and the registries around it. -/
structure Step (κ : Type) where
  before : Registry κ
  call : Call κ
  answer : Answer κ
  after : Registry κ
  deriving Repr

/-- Makes a call; gives its answer and the registry after it.  A card that is refused leaves the
registry as it was. -/
def make (K : Kernel κ σ) (r : Registry κ) : Call κ → Action κ σ (Answer κ × Registry κ)
  | .add path card => do
    match ← (r.add K path card).run with
    | .ok (count, r') => return (.added count, r')
    | .error e => return (.refused e, r)
  | .remove path => do
    match ← r.remove path with
    | (some device, r') => return (.removed device, r')
    | (none, r') => return (.unknown, r')

/-- Makes calls one after the other; gives the steps and the registry after them. -/
def perform (K : Kernel κ σ) :
    Registry κ → List (Call κ) → Action κ σ (List (Step κ) × Registry κ)
  | r, [] => return ([], r)
  | r, call :: rest => do
    let (answer, r') ← r.make K call
    let (steps, last) ← r'.perform K rest
    return (⟨r, call, answer, r'⟩ :: steps, last)

/-! ### Effects -/

/-- What a call can do to a registry. -/
inductive Effect (K : Kernel κ σ) (r : Registry κ) :
    Call κ → Answer κ → Registry κ → Prop where
  /-- A card at a new path became a device that goes on with the next display id. -/
  | added {path : Path} {card : κ} {s s' : σ} (device : Device κ) (new : r.get? path = none)
      (made : (Device.init K card r.next).Gives s device s') :
      Effect K r (.add path card) (.added device.displayCount) (r.append path device)
  /-- A card was not registered, and nothing changed. -/
  | refused (path : Path) (card : κ) (e : AddError) : Effect K r (.add path card) (.refused e) r
  /-- The first entry at a path was taken out. -/
  | removed {path : Path} (l₁ : List (Path × Device κ)) (e : Path × Device κ)
      (l₂ : List (Path × Device κ)) (split : r.entries = l₁ ++ e :: l₂)
      (first : ∀ e' ∈ l₁, (e'.1 == path) = false) (found : (e.1 == path) = true) :
      Effect K r (.remove path) (.removed e.2) { r with entries := l₁ ++ l₂ }
  /-- There was no entry at the path, and nothing changed. -/
  | unknown {path : Path} (absent : r.get? path = none) : Effect K r (.remove path) .unknown r

variable {K : Kernel κ σ} {r r' : Registry κ} {path : Path} {card : κ} {s s' : σ}

theorem get?_eq_none_iff : r.get? path = none ↔ ∀ e ∈ r.entries, (e.1 == path) = false := by
  rw [get?, Option.map_eq_none_iff, List.find?_eq_none]
  simp only [Bool.not_eq_true]

/-- A card that is registered became a device, and its path was free. -/
theorem exists_of_gives_add {count : Nat} (h : (r.add K path card).Gives s (count, r') s') :
    r.get? path = none ∧ ∃ device t t', (Device.init K card r.next).Gives t device t' ∧
      count = device.displayCount ∧ r' = r.append path device := by
  rw [add, Attempt.gives_bind_iff] at h
  obtain ⟨_, _, -, h⟩ := h
  obtain ⟨hfree, h⟩ := Attempt.gives_guard_iff.1 h
  rw [Attempt.gives_bind_iff] at h
  obtain ⟨_, _, -, h⟩ := h
  obtain ⟨-, h⟩ := Attempt.gives_guard_iff.1 h
  rw [Attempt.gives_bind_iff] at h
  obtain ⟨outcome, t, hinit, h⟩ := h
  rw [Attempt.gives_lift_iff] at hinit
  -- past the two guards only the outcome of the initialization decides
  refine ⟨by simpa using hfree, ?_⟩
  cases outcome with
  | error e => exact absurd h Attempt.not_gives_throw
  | ok device =>
      simp only [Attempt.gives_bind_iff, Attempt.gives_pure_iff, Prod.mk.injEq] at h
      obtain ⟨_, _, -, _, _, -, ⟨hcount, hr'⟩, -⟩ := h
      exact ⟨device, _, t, hinit, hcount.symm, hr'.symm⟩

/-- Taking out the device at a path splits the entries at the first one that has the path. -/
theorem exists_of_take?_eq_some {device : Device κ} (h : r.take? path = some (device, r')) :
    ∃ l₁ e l₂, r.entries = l₁ ++ e :: l₂ ∧ (∀ e' ∈ l₁, (e'.1 == path) = false) ∧
      (e.1 == path) = true ∧ device = e.2 ∧ r' = { r with entries := l₁ ++ l₂ } := by
  simp only [take?, Option.bind_eq_bind, Option.bind_eq_some_iff] at h
  obtain ⟨i, hi, e, he, h⟩ := h
  cases h
  obtain ⟨hlt, hfound, hfirst⟩ := List.findIdx?_eq_some_iff_getElem.1 hi
  obtain ⟨hlt', rfl⟩ := List.getElem?_eq_some_iff.1 he
  refine ⟨r.entries.take i, r.entries[i], r.entries.drop (i + 1), ?_, ?_, hfound, rfl, ?_⟩
  · rw [List.getElem_cons_drop, List.take_append_drop]
  · intro e' he'
    obtain ⟨j, hj, rfl⟩ := List.mem_take_iff_getElem.1 he'
    exact Bool.eq_false_iff.2 (hfirst j (by omega))
  · rw [List.eraseIdx_eq_take_drop_succ]

theorem get?_eq_none_of_take? (h : r.take? path = none) : r.get? path = none := by
  refine get?_eq_none_iff.2 (List.findIdx?_eq_none_iff.1 ?_)
  cases hi : r.entries.findIdx? (·.1 == path) with
  | none => rfl
  | some i =>
      have hlt := (List.findIdx?_eq_some_iff_getElem.1 hi).1
      simp only [take?, hi, Option.bind_eq_bind, Option.bind_some,
        List.getElem?_eq_getElem hlt] at h
      cases h

theorem value_remove (r : Registry κ) (path : Path) (s : σ) :
    ((r.remove path : Action κ σ _).run s).value =
      match r.take? path with
      | some (device, rest) => (some device, rest)
      | none => (none, r) := by
  rw [remove, Action.run_bind]
  cases r.take? path with
  | none => rfl
  | some found => rfl

/-- **A call has one of the four effects.** -/
theorem effect_of_make {call : Call κ} {answer : Answer κ}
    (h : ((r.make K call).run s).value = (answer, r')) : Effect K r call answer r' := by
  cases call with
  | add path card =>
      rw [make, Action.run_bind] at h
      cases hadd : ((r.add K path card).run.run s).value with
      | error e =>
          rw [hadd] at h
          cases h
          exact .refused path card e
      | ok result =>
          obtain ⟨count, r''⟩ := result
          rw [hadd] at h
          cases h
          obtain ⟨hnew, device, t, t', hmade, rfl, rfl⟩ := exists_of_gives_add ⟨hadd, rfl⟩
          exact .added device hnew hmade
  | remove path =>
      rw [make, Action.run_bind, value_remove] at h
      cases htake : r.take? path with
      | none =>
          rw [htake] at h
          cases h
          exact .unknown (get?_eq_none_of_take? htake)
      | some found =>
          obtain ⟨device, rest⟩ := found
          rw [htake] at h
          cases h
          obtain ⟨l₁, e, l₂, hsplit, hfirst, hfound, rfl, rfl⟩ := exists_of_take?_eq_some htake
          exact .removed l₁ e l₂ hsplit hfirst hfound

/-- A run makes every call, in order. -/
theorem map_call_perform (K : Kernel κ σ) (calls : List (Call κ)) : ∀ (r : Registry κ) (s : σ),
    ((r.perform K calls).run s).value.1.map (·.call) = calls := by
  induction calls with
  | nil => exact fun _ _ => rfl
  | cons call rest ih =>
      intro r s
      rw [perform, Action.run_bind, Action.run_bind]
      exact congrArg (call :: ·) (ih _ _)

/-- **What survives every effect holds after every run.** -/
theorem perform_induction {P : List (Step κ) → Registry κ → Prop}
    (preserved : ∀ {history : List (Step κ)} {r : Registry κ} {call : Call κ}
      {answer : Answer κ} {r' : Registry κ}, P history r → Effect K r call answer r' →
      P (history ++ [⟨r, call, answer, r'⟩]) r')
    {calls : List (Call κ)} : ∀ {history : List (Step κ)} {r r' : Registry κ} {steps : List (Step κ)}
      {s : σ}, P history r → ((r.perform K calls).run s).value = (steps, r') →
      P (history ++ steps) r' := by
  induction calls with
  | nil =>
      intro history r r' steps s hstart h
      cases h
      rwa [List.append_nil]
  | cons call rest ih =>
      intro history r r' steps s hstart h
      rw [perform, Action.run_bind] at h
      -- the first step joins the history before the rest runs
      obtain ⟨⟨answer, mid⟩, hmake⟩ : ∃ x, ((r.make K call).run s).value = x := ⟨_, rfl⟩
      rw [hmake] at h
      obtain ⟨⟨later, last⟩, hrest⟩ :
          ∃ x, ((mid.perform K rest).run ((r.make K call).run s).state).value = x := ⟨_, rfl⟩
      rw [Action.run_bind, hrest] at h
      cases h
      have hnext := ih (preserved hstart (effect_of_make hmake)) hrest
      rwa [List.append_assoc] at hnext

end Registry

end Scanout
