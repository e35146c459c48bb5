/-
**Similarity of texts.**

Two texts are similar when many characters of one occur in the other at nearly the same place.
The measure is that of Jaro: the mean of the matched share of either text and of the matched
characters that stand in the same order in both.

Main definitions:

* `Scanout.Text.matching` — the characters of one text that are matched in the other;
* `Scanout.Text.similarity` — the measure, from zero to one;
* `Scanout.Text.mostSimilar` — the best of some candidates, if one is similar enough.
-/

set_option relaxedAutoImplicit false
set_option autoImplicit false

namespace Scanout

namespace Text

/-! ### Matching -/

/-- The first position of `c` among the characters numbered from `i` that is neither taken nor
outside the bounds. -/
def freePosition (c : Char) (low high : Nat) (taken : List Nat) : Nat → List Char → Option Nat
  | _, [] => none
  | i, d :: rest =>
    if low ≤ i ∧ i < high ∧ c = d ∧ i ∉ taken then some i
    else freePosition c low high taken (i + 1) rest

/-- The characters numbered from `i` that are matched in `other`, each with the position of its
match: the first free one at a distance of at most `reach`. -/
def matchesFrom (other : List Char) (reach : Nat) (taken : List Nat) :
    Nat → List Char → List (Char × Nat)
  | _, [] => []
  | i, c :: rest =>
    match freePosition c (i - reach) (i + reach + 1) taken 0 other with
    | some j => (c, j) :: matchesFrom other reach (j :: taken) (i + 1) rest
    | none => matchesFrom other reach taken (i + 1) rest

/-- The characters of `s` that are matched in `t`, each with the position of its match. -/
def matching (s t : List Char) : List (Char × Nat) :=
  matchesFrom t (max s.length t.length / 2 - 1) [] 0 s

/-- How many matched characters stand at a place where the matched characters of the other text,
taken in its own order, have another one. -/
def displaced (t : List Char) (pairs : List (Char × Nat)) : Nat :=
  let inOrder := t.zipIdx.filterMap fun (c, j) => if pairs.any (·.2 = j) then some c else none
  ((pairs.map (·.1)).zip inOrder).countP fun (a, b) => a ≠ b

/-! ### The measure -/

/-- How similar two texts are; two empty texts are equal. -/
def similarity (a b : String) : Float :=
  let s := a.toList
  let t := b.toList
  if s.isEmpty && t.isEmpty then 1
  else
    let pairs := matching s t
    if pairs.isEmpty then 0
    else
      let m := pairs.length.toFloat
      let inPlace := (pairs.length - displaced t pairs / 2).toFloat
      (m / s.length.toFloat + m / t.length.toFloat + inPlace / m) / 3

/-- The better of the best candidate so far and another one; the later of equals is better. -/
def better (text : String) (best : Option (Float × String)) (candidate : String) :
    Option (Float × String) :=
  let measure := similarity text candidate
  if measure > 0.7 then
    match best with
    | some (m, c) => if m > measure then some (m, c) else some (measure, candidate)
    | none => some (measure, candidate)
  else best

/-- The candidate that is most similar to a text, if it is similar enough. -/
def mostSimilar (text : String) (candidates : List String) : Option String :=
  (candidates.foldl (better text) none).map (·.2)

end Text

end Scanout
