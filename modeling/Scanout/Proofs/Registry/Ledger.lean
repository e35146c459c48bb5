/-
**The ledger of display ids.**

The steps of a run are the ledger of its display ids.  Each step hands out a block that starts at the
next free id and is as long as the count it answers, for most calls an empty one.  The blocks join
into everything below the next free id, so every id has exactly one origin, and what a removed device
took away never comes back.

Main definitions:

* `Scanout.Registry.Step.handedOut`, `Scanout.Registry.Step.takenBack` — the displays that came and
  went with a step;
* `Scanout.Registry.Ledger` — what the steps of a run say about the registry they lead to.

Main results:

* `Scanout.Registry.Effect.next_eq`, `Scanout.Registry.Effect.handedOut_eq` — **every step hands out
  the next ids**, as many as it answers;
* `Scanout.Registry.Ledger.concat` — one more step keeps the ledger;
* `Scanout.Registry.Ledger.existsUnique_handedOut` — every id below the next one has one origin;
* `Scanout.Registry.ledger_of_perform` — **the ledger of any run from an empty registry**.
-/

import Mathlib.Algebra.GroupWithZero.Nat
import Scanout.Proofs.Registry.Numbering

set_option relaxedAutoImplicit false
set_option autoImplicit false

namespace Scanout

namespace Registry

variable {κ σ : Type} {K : Kernel κ σ} {r r' : Registry κ} {call : Call κ} {answer : Answer κ}

/-! ### Displays that come and go -/

/-- The displays of the devices that a step put behind the entries before it. -/
def Step.handedOut (step : Step κ) : List DisplayId :=
  (step.after.entries.drop step.before.entries.length).flatMap (·.2.displays)

theorem Step.handedOut_append {path : Path} {device : Device κ} :
    Step.handedOut ⟨r, call, answer, r.append path device⟩ = device.displays := by
  rw [handedOut, append, List.drop_left, List.flatMap_singleton]

/-- The displays of the device that a step took out. -/
def Step.takenBack (step : Step κ) : List DisplayId :=
  match step.answer with
  | .removed device => device.displays
  | .added _ | .refused _ | .unknown => []

namespace Effect

theorem next_eq (h : Effect K r call answer r') :
    r.next.HasRoom answer.count ∧ r'.next = r.next.advance answer.count := by
  cases h with
  | added device _ hmade =>
      have hdevice := Device.numberedFrom_of_gives_init hmade
      exact ⟨hdevice.room, hdevice.nextDisplay⟩
  | refused => exact ⟨r.next.hasRoom_zero, r.next.advance_zero.symm⟩
  | removed => exact ⟨r.next.hasRoom_zero, r.next.advance_zero.symm⟩
  | unknown => exact ⟨r.next.hasRoom_zero, r.next.advance_zero.symm⟩

theorem next_le (h : Effect K r call answer r') : r.next ≤ r'.next := by
  obtain ⟨hroom, hnext⟩ := h.next_eq
  rw [hnext]
  exact DisplayId.le_advance hroom

/-- A step hands out the next ids, as many as it answers. -/
theorem handedOut_eq (h : Effect K r call answer r') :
    Step.handedOut ⟨r, call, answer, r'⟩ = r.next.block answer.count := by
  cases h with
  | added device _ hmade =>
      rw [Step.handedOut_append]
      exact (Device.numberedFrom_of_gives_init hmade).displays
  | refused => simp [Step.handedOut, Answer.count]
  | removed l₁ e l₂ hsplit =>
      have hlen : (l₁ ++ l₂).length ≤ r.entries.length := by simp [hsplit]
      rw [Step.handedOut, List.drop_eq_nil_of_le hlen]
      rfl
  | unknown => simp [Step.handedOut, Answer.count]

theorem next_le_of_mem_handedOut (h : Effect K r call answer r') {n : DisplayId}
    (hn : n ∈ Step.handedOut ⟨r, call, answer, r'⟩) : r.next ≤ n := by
  rw [h.handedOut_eq] at hn
  exact ((DisplayId.mem_block h.next_eq.1).1 hn).1

/-- A display is there after a step only if it was there before or is handed out. -/
theorem mem_displays (h : Effect K r call answer r') {n : DisplayId} (hn : n ∈ r'.displays) :
    n ∈ r.displays ∨ n ∈ Step.handedOut ⟨r, call, answer, r'⟩ := by
  cases h with
  | added device =>
      rw [Step.handedOut_append]
      rw [displays_append] at hn
      exact List.mem_append.1 hn
  | refused => exact .inl hn
  | removed l₁ e l₂ hsplit =>
      refine .inl ?_
      obtain ⟨e', he', hn⟩ := List.mem_flatMap.1 hn
      refine List.mem_flatMap.2 ⟨e', ?_, hn⟩
      rw [hsplit]
      exact ((List.sublist_cons_self e l₂).append_left l₁).subset he'
  | unknown => exact .inl hn

/-- What a step takes back was there before and is not there any more. -/
theorem of_mem_takenBack (h : Effect K r call answer r') (hr : r.WellNumbered) {n : DisplayId}
    (hn : n ∈ Step.takenBack ⟨r, call, answer, r'⟩) : n ∈ r.displays ∧ n ∉ r'.displays := by
  cases h with
  | added => cases hn
  | refused => cases hn
  | removed l₁ e l₂ hsplit =>
      have hdisjoint := hr.disjoint
      rw [hsplit, List.pairwise_middle List.disjoint_symm, List.pairwise_cons] at hdisjoint
      constructor
      · exact List.mem_flatMap.2 ⟨e, by simp [hsplit], hn⟩
      · intro hmem
        obtain ⟨e', he', hn'⟩ := List.mem_flatMap.1 hmem
        exact hdisjoint.1 e' he' hn hn'
  | unknown => cases hn

end Effect

/-! ### The ledger -/

/-- What the steps of a run say about the registry they lead to. -/
structure Ledger (history : List (Step κ)) (r : Registry κ) : Prop extends r.WellNumbered where
  /-- Each step handed out the next free ids, as many as it answered. -/
  handedOut_eq : ∀ step ∈ history, step.handedOut = step.before.next.block step.answer.count
  /-- Together the steps handed out everything below the next free id, in order. -/
  handedOut_all : history.flatMap (·.handedOut) = DisplayId.zero.block r.next.val.toNat
  /-- The next free id is the sum of the counts answered so far. -/
  next_eq_sum : r.next.val.toNat = (history.map (·.answer.count)).sum
  /-- The next free id never went down. -/
  next_monotone : (history.map (·.before.next) ++ [r.next]).Pairwise (· ≤ ·)
  /-- What was taken back is below the next free id, and no registered device has it. -/
  takenBack_gone : ∀ step ∈ history, ∀ n ∈ step.takenBack, n < r.next ∧ n ∉ r.displays
  /-- What was taken back was not handed out by a later step. -/
  takenBack_disjoint : history.Pairwise fun x y => x.takenBack.Disjoint y.handedOut

theorem ledger_empty (scaleWithGpu : Bool) : Ledger [] (empty scaleWithGpu : Registry κ) where
  toWellNumbered := wellNumbered_empty scaleWithGpu
  handedOut_eq := by simp
  handedOut_all := rfl
  next_eq_sum := rfl
  next_monotone := List.pairwise_singleton _ _
  takenBack_gone := by simp
  takenBack_disjoint := .nil

namespace Ledger

variable {history : List (Step κ)}

/-- **One more step keeps the ledger.** -/
theorem concat (h : Ledger history r) (heffect : Effect K r call answer r') :
    Ledger (history ++ [⟨r, call, answer, r'⟩]) r' := by
  obtain ⟨hroom, hnext⟩ := heffect.next_eq
  have hnew := heffect.handedOut_eq
  constructor
  case toWellNumbered => exact h.toWellNumbered.effect heffect
  case handedOut_eq =>
      intro step hstep
      rcases List.mem_append.1 hstep with hold | hlast
      · exact h.handedOut_eq step hold
      · rw [List.mem_singleton.1 hlast]
        exact hnew
  case handedOut_all =>
      -- the new block starts where the blocks so far end
      rw [List.flatMap_append, List.flatMap_singleton, h.handedOut_all, hnew, hnext,
        DisplayId.toNat_advance hroom, ← DisplayId.block_append, DisplayId.zero_advance]
  case next_eq_sum =>
      rw [List.map_append, List.sum_append, ← h.next_eq_sum, hnext, DisplayId.toNat_advance hroom]
      simp
  case next_monotone =>
      rw [List.map_append, List.map_singleton]
      refine List.pairwise_append.2 ⟨h.next_monotone, List.pairwise_singleton _ _, ?_⟩
      intro m hm n hn
      rw [List.mem_singleton.1 hn]
      rcases List.mem_append.1 hm with hold | hlast
      · have hle := (List.pairwise_append.1 h.next_monotone).2.2 m hold r.next (by simp)
        exact le_trans hle heffect.next_le
      · rw [List.mem_singleton.1 hlast]
        exact heffect.next_le
  case takenBack_gone =>
      intro step hstep n hn
      rcases List.mem_append.1 hstep with hold | hlast
      · -- what is handed out now is not below the next free id, so nothing that was gone comes back
        obtain ⟨hlt, hgone⟩ := h.takenBack_gone step hold n hn
        refine ⟨lt_of_lt_of_le hlt heffect.next_le, ?_⟩
        intro hmem
        rcases heffect.mem_displays hmem with hbefore | hout
        · exact hgone hbefore
        · exact not_le_of_gt hlt (heffect.next_le_of_mem_handedOut hout)
      · rw [List.mem_singleton.1 hlast] at hn
        obtain ⟨hbefore, hgone⟩ := heffect.of_mem_takenBack h.toWellNumbered hn
        exact ⟨lt_of_lt_of_le (h.below n hbefore) heffect.next_le, hgone⟩
  case takenBack_disjoint =>
      refine List.pairwise_append.2 ⟨h.takenBack_disjoint, List.pairwise_singleton _ _, ?_⟩
      intro step hstep y hy n hn hout
      rw [List.mem_singleton.1 hy] at hout
      have hlt := (h.takenBack_gone step hstep n hn).1
      exact not_le_of_gt hlt (heffect.next_le_of_mem_handedOut hout)

/-- A step that hands something out is a successful addition. -/
theorem exists_answer_eq_added (h : Ledger history r) {step : Step κ} (hstep : step ∈ history)
    {n : DisplayId} (hn : n ∈ step.handedOut) : ∃ count, step.answer = .added count := by
  rw [h.handedOut_eq step hstep] at hn
  cases hanswer : step.answer with
  | added count => exact ⟨count, rfl⟩
  | refused e =>
      rw [hanswer] at hn
      cases hn
  | removed device =>
      rw [hanswer] at hn
      cases hn
  | unknown =>
      rw [hanswer] at hn
      cases hn

theorem pairwise_handedOut (h : Ledger history r) :
    history.Pairwise fun x y => x.handedOut.Disjoint y.handedOut := by
  have hnodup : (history.flatMap (·.handedOut)).Nodup := by
    rw [h.handedOut_all]
    exact (DisplayId.pairwise_block r.next.hasRoom_zero_toNat).imp ne_of_lt
  exact (List.nodup_flatMap.1 hnodup).2

theorem lt_next_iff (h : Ledger history r) {n : DisplayId} :
    n < r.next ↔ ∃ step ∈ history, n ∈ step.handedOut := by
  rw [← List.mem_flatMap, h.handedOut_all, DisplayId.mem_block r.next.hasRoom_zero_toNat,
    DisplayId.zero_advance]
  exact (and_iff_right (DisplayId.zero_le n)).symm

/-- **Every id below the next free one has one origin**, a successful addition. -/
theorem existsUnique_handedOut (h : Ledger history r) {n : DisplayId} (hn : n < r.next) :
    ∃! i : Nat, ∃ step : Step κ, history[i]? = some step ∧ (∃ count, step.answer = .added count) ∧
      n ∈ step.handedOut := by
  obtain ⟨step, hstep, hout⟩ := h.lt_next_iff.1 hn
  obtain ⟨i, hi⟩ := List.mem_iff_getElem?.1 hstep
  refine ⟨i, ⟨step, hi, h.exists_answer_eq_added hstep hout, hout⟩, ?_⟩
  rintro j ⟨step', hj, -, hout'⟩
  obtain ⟨hilt, rfl⟩ := List.getElem?_eq_some_iff.1 hi
  obtain ⟨hjlt, rfl⟩ := List.getElem?_eq_some_iff.1 hj
  -- two steps share no id, whichever of them came first
  have hdisjoint := List.pairwise_iff_getElem.1 h.pairwise_handedOut
  rcases lt_trichotomy j i with hlt | heq | hgt
  · exact absurd hout (hdisjoint j i hjlt hilt hlt hout')
  · exact heq
  · exact absurd hout' (hdisjoint i j hilt hjlt hgt hout)

end Ledger

/-- **The ledger of any run from an empty registry.**  Whatever the calls, the cards and the answers of
the kernel, no two devices share a display, and every display id below the next free one was handed
out by exactly one step, a successful addition. -/
theorem ledger_of_perform (K : Kernel κ σ) (scaleWithGpu : Bool) (calls : List (Call κ)) (s : σ) :
    let (steps, r) := (((empty scaleWithGpu).perform K calls).run s).value
    steps.map (·.call) = calls ∧ Ledger steps r ∧
      (r.entries.Pairwise fun e f => e.2.displays.Disjoint f.2.displays) ∧
      ∀ n < r.next, ∃! i : Nat, ∃ step : Step κ, steps[i]? = some step ∧
        (∃ count, step.answer = .added count) ∧ n ∈ step.handedOut := by
  obtain ⟨⟨steps, r⟩, hperform⟩ :
      ∃ x, (((empty scaleWithGpu).perform K calls).run s).value = x := ⟨_, rfl⟩
  have hledger : Ledger ([] ++ steps) r :=
    perform_induction Ledger.concat (ledger_empty scaleWithGpu) hperform
  have hcalls := map_call_perform K calls (empty scaleWithGpu) s
  rw [hperform] at hcalls ⊢
  exact ⟨hcalls, hledger, hledger.disjoint, fun n hn => hledger.existsUnique_handedOut hn⟩

end Registry

end Scanout
