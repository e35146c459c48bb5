/-
**Reading JSON back.**

What the printer of JSON writes is read by a grammar that knows nothing of it: blanks may stand around every
token, a string may escape any character, and a comma stands between items and nowhere else.  A reader takes
a text as a value when it leaves exactly what follows the text; numbers need a rest that does not go on with
a digit.  Taking is shown for digits, for the characters of a string, for items between brackets, and then
for values, by induction on how deep brackets may stand in each other.

Main definitions:

* `Scanout.Text.Json.value` — how a value is read;
* `Scanout.Text.Json.read?` — the value that a text stands for;
* `Scanout.Text.Json.Takes` — a reader takes a text as a value, whatever follows it.

Main results:

* `Scanout.Text.Json.character_escapeChar` — an escaped character is read as itself;
* `Scanout.Text.Json.bracketed_block` — lines between brackets are read item by item;
* `Scanout.Text.Json.takes_render` — a value is read from its text, whatever follows it;
* `Scanout.Text.Json.read?_pretty` — **what is written of a value stands for it**.
-/

import Mathlib.Tactic.IntervalCases
import Scanout.Text.Json
import Scanout.Text.Reader

set_option relaxedAutoImplicit false
set_option autoImplicit false

namespace Scanout

namespace Text

namespace Json

variable {α : Type}

/-! ### The grammar -/

/-- Whether a character may stand between tokens. -/
def isBlank (c : Char) : Bool := c = ' ' || c = '\n' || c = '\r' || c = '\t'

/-- Takes blanks and then what a reader takes. -/
def token (r : Reader α) : Reader α := do
  let _ ← Reader.run isBlank
  r

/-- Takes blanks and a character. -/
def mark (c : Char) : Reader Char := token (Reader.next (· = c))

/-- Takes a number without a sign, a point or an exponent; only 0 begins with the digit 0. -/
def numeral : Reader Nat := do
  let digits ← Reader.run (·.isDigit)
  if digits = [] ∨ digits.head? = some '0' ∧ digits ≠ ['0'] then failure
  else return Nat.ofDigitChars 10 digits 0

/-- What a character stands for after a backslash. -/
def shortEscapes : List (Char × Char) :=
  [('"', '"'), ('\\', '\\'), ('/', '/'), ('b', '\x08'), ('f', '\x0c'), ('n', '\n'), ('r', '\r'),
    ('t', '\t')]

/-- The value of a hexadecimal digit. -/
def digitValue? (c : Char) : Option Nat :=
  "0123456789abcdef".toList.findIdx? (· = c.toLower)

/-- The character whose number has these hexadecimal digits. -/
def numbered? (digits : List Char) : Option Char := do
  let values ← digits.mapM digitValue?
  let n := values.foldl (16 * · + ·) 0
  if n.isValidChar then some (Char.ofNat n) else none

/-- Takes a character of a string, as it is or escaped. -/
def character : Reader Char
  | '\\' :: 'u' :: a :: b :: c :: d :: rest => (numbered? [a, b, c, d]).map (·, rest)
  | '\\' :: c :: rest => (shortEscapes.lookup c).map (·, rest)
  | c :: rest => if c.toNat < 0x20 ∨ c = '"' ∨ c = '\\' then none else some (c, rest)
  | [] => none

/-- Takes a string. -/
def quoted : Reader String := do
  let _ ← Reader.next (· = '"')
  let cs ← Reader.many character
  let _ ← Reader.next (· = '"')
  return String.ofList cs

/-- Takes a comma and then an item. -/
def nextItem (item : Reader α) : Reader α := do
  let _ ← mark ','
  item

/-- Takes items between brackets, with commas between them. -/
def bracketed (opening closing : Char) (item : Reader α) : Reader (List α) := do
  let _ ← Reader.next (· = opening)
  (do
    let first ← item
    let others ← Reader.many (nextItem item)
    let _ ← mark closing
    return first :: others) <|> (do
    let _ ← mark closing
    return [])

/-- Takes a key and what stands for it. -/
def member (item : Reader α) : Reader (String × α) := do
  let key ← token quoted
  let _ ← mark ':'
  return (key, ← item)

/-- Takes a value; `depth` bounds how many brackets may stand in each other. -/
def value : Nat → Reader Json
  | 0 => failure
  | depth + 1 => token <|
    (number <$> numeral) <|> (string <$> quoted) <|>
    (array <$> bracketed '[' ']' (value depth)) <|>
    (object <$> bracketed '\x7b' '\x7d' (member (value depth))) <|>
    (do Reader.exactly "null"; return null) <|>
    (do Reader.exactly "true"; return bool true) <|>
    (do Reader.exactly "false"; return bool false)

/-- The value that a text stands for, if it is JSON.  Every bracket is a character, so there cannot be more
of them in each other than characters. -/
def read? (text : String) : Option Json :=
  match value (text.toList.length + 1) text.toList with
  | some (v, rest) => if rest.all isBlank then some v else none
  | none => none

/-! ### Steps of readers -/

section Steps

variable {β : Type} {r : Reader α} {s t : List Char} {a : α}

theorem bind_of_some {f : α → Reader β} (h : r s = some (a, t)) : (r >>= f) s = f a t := by
  change (r s).bind (fun x => f x.1 x.2) = f a t
  rw [h, Option.bind_some]

theorem bind_of_none {f : α → Reader β} (h : r s = none) : (r >>= f) s = none := by
  change (r s).bind (fun x => f x.1 x.2) = none
  rw [h, Option.bind_none]

theorem map_of_some {f : α → β} (h : r s = some (a, t)) : (f <$> r) s = some (f a, t) :=
  bind_of_some (f := fun a => pure (f a)) h

theorem map_of_none {f : α → β} (h : r s = none) : (f <$> r) s = none :=
  bind_of_none (f := fun a => pure (f a)) h

theorem orElse_of_some {q : Reader α} (h : r s = some (a, t)) : (r <|> q) s = some (a, t) := by
  change (r s).orElse (fun _ => q s) = some (a, t)
  rw [h, Option.orElse_some]

theorem orElse_of_none {q : Reader α} (h : r s = none) : (r <|> q) s = q s := by
  change (r s).orElse (fun _ => q s) = q s
  rw [h, Option.orElse_none]

/-- A repeated reader takes texts one after the other, as long as it does not take what follows them. -/
theorem repeated_flatMap (write : α → List Char) (ends : List Char → Prop) (hnone : r s = none)
    (hs : ends s) (l : List α) (hl : ∀ a ∈ l, write a ≠ [] ∧ ∀ t, ends t →
      ends (write a ++ t) ∧ r (write a ++ t) = some (a, t)) :
    ends (l.flatMap write ++ s) ∧ Reader.repeated r (l.flatMap write ++ s) = (l, s) := by
  induction l with
  | nil =>
      rw [List.flatMap_nil, List.nil_append, Reader.repeated, hnone]
      exact ⟨hs, rfl⟩
  | cons a l ih =>
      obtain ⟨⟨hwrite, ha⟩, hl⟩ := List.forall_mem_cons.1 hl
      obtain ⟨hrest, hrepeated⟩ := ih hl
      obtain ⟨hends, htaken⟩ := ha _ hrest
      rw [List.flatMap_cons, List.append_assoc]
      refine ⟨hends, ?_⟩
      have hshorter : (l.flatMap write ++ s).length < (write a ++ (l.flatMap write ++ s)).length := by
        have hpositive := List.length_pos_iff.2 hwrite
        simp only [List.length_append]
        omega
      rw [Reader.repeated, htaken]
      dsimp only
      rw [if_pos hshorter, hrepeated]

end Steps

/-! ### Blanks -/

/-- A text that ends a number. -/
def Stops (rest : List Char) : Prop := ∀ c ∈ rest.head?, c.isDigit = false

/-- A reader takes a text as `a`, whatever blanks stand before it and whatever follows it. -/
def Takes (r : Reader α) (text : String) (a : α) : Prop :=
  ∀ blanks rest : List Char, (∀ c ∈ blanks, isBlank c = true) → Stops rest →
    r (blanks ++ (text.toList ++ rest)) = some (a, rest)

theorem token_append (r : Reader α) {blanks : List Char} (h : ∀ c ∈ blanks, isBlank c = true)
    (s : List Char) : token r (blanks ++ s) = token r s := by
  change r ((blanks ++ s).dropWhile isBlank) = r (s.dropWhile isBlank)
  rw [List.dropWhile_append_of_pos h]

theorem token_cons (r : Reader α) {c : Char} (h : isBlank c = false) (s : List Char) :
    token r (c :: s) = r (c :: s) := by
  change r ((c :: s).dropWhile isBlank) = r (c :: s)
  rw [List.dropWhile_cons_of_neg (by simp [h])]

theorem next_cons (c : Char) (s : List Char) : Reader.next (· = c) (c :: s) = some (c, s) := by
  simp [Reader.next]

theorem mark_cons {c : Char} (hc : isBlank c = false) (s : List Char) : mark c (c :: s) = some (c, s) := by
  rw [mark, token_cons _ hc, next_cons]

theorem mark_append {c : Char} (hc : isBlank c = false) {blanks : List Char}
    (h : ∀ c ∈ blanks, isBlank c = true) (s : List Char) : mark c (blanks ++ c :: s) = some (c, s) := by
  rw [mark, token_append _ h]
  exact mark_cons hc s

theorem takes_token {r : Reader α} {text : String} {a : α} {c : Char} {more : List Char}
    (htext : text.toList = c :: more) (hc : isBlank c = false)
    (h : ∀ rest, Stops rest → r (text.toList ++ rest) = some (a, rest)) : Takes (token r) text a := by
  intro blanks rest hblanks hrest
  rw [token_append _ hblanks, ← h rest hrest, htext]
  exact token_cons r hc _

/-! ### Numbers -/

/-- Only the number 0 is written with the digit 0 in front. -/
theorem eq_nil_of_toDigits {n : Nat} :
    ∀ {more : List Char}, Nat.toDigits 10 n = '0' :: more → more = [] := by
  induction n using Nat.strong_induction_on with
  | _ n ih =>
      intro more h
      rw [Nat.toDigits_eq_if (by decide)] at h
      split at h
      · exact (List.cons.inj h).2.symm
      · next hn =>
          cases hfront : Nat.toDigits 10 (n / 10) with
          | nil => exact absurd hfront Nat.toDigits_ne_nil
          | cons d others =>
              rw [hfront] at h
              obtain ⟨rfl, -⟩ := List.cons.inj h
              obtain rfl := ih (n / 10) (by omega) hfront
              have hzero := Nat.ofDigitChars_toDigits (b := 10) (n := n / 10) (by decide) (by decide)
              rw [hfront] at hzero
              change 0 = n / 10 at hzero
              omega

theorem numeral_append (n : Nat) {rest : List Char} (h : Stops rest) :
    numeral (Nat.toDigits 10 n ++ rest) = some (n, rest) := by
  have hdigits : ∀ c ∈ Nat.toDigits 10 n, c.isDigit = true := fun c hc =>
    Nat.isDigit_of_mem_toDigits (by decide) (by decide) hc
  have hrest : rest.takeWhile (·.isDigit) = [] ∧ rest.dropWhile (·.isDigit) = rest := by
    cases rest with
    | nil => exact ⟨rfl, rfl⟩
    | cons c rest => simp [h c rfl]
  have hrun : Reader.run (·.isDigit) (Nat.toDigits 10 n ++ rest) = some (Nat.toDigits 10 n, rest) := by
    rw [Reader.run, List.takeWhile_append_of_pos hdigits, List.dropWhile_append_of_pos hdigits, hrest.1,
      hrest.2, List.append_nil]
  have hproper : ¬ (Nat.toDigits 10 n = [] ∨
      (Nat.toDigits 10 n).head? = some '0' ∧ Nat.toDigits 10 n ≠ ['0']) := by
    rintro (hnil | ⟨hzero, hmore⟩)
    · exact Nat.toDigits_ne_nil hnil
    · obtain ⟨more, hcons⟩ := List.head?_eq_some_iff.1 hzero
      exact hmore (hcons.trans (by rw [eq_nil_of_toDigits hcons]))
  rw [numeral, bind_of_some hrun, if_neg hproper, Nat.ofDigitChars_toDigits (by decide) (by decide)]
  rfl

/-! ### Strings -/

/-- A character that has to be escaped inside a string. -/
def IsSpecial (c : Char) : Prop := c.toNat < 0x20 ∨ c = '"' ∨ c = '\\'

instance (c : Char) : Decidable (IsSpecial c) := inferInstanceAs (Decidable (_ ∨ _ ∨ _))

theorem escapeChar_of_plain {c : Char} (hc : ¬ IsSpecial c) : escapeChar c = c.toString := by
  unfold escapeChar
  split
  iterate 7 exact absurd (by decide) hc
  have hprinted : ¬ c.toNat < 0x20 := fun h => hc (.inl h)
  rw [if_neg fun h => hprinted (by omega), if_neg hprinted]

theorem character_of_plain {c : Char} (hc : ¬ IsSpecial c) (s : List Char) :
    character (c :: s) = some (c, s) := by
  unfold character
  split
  · next heq => exact absurd (.inr (.inr (List.cons.inj heq).1)) hc
  · next heq => exact absurd (.inr (.inr (List.cons.inj heq).1)) hc
  · next heq =>
      obtain ⟨rfl, rfl⟩ := List.cons.inj heq
      exact if_neg hc
  · next heq => cases heq

theorem character_of_control {n : Nat} (hn : n < 0x20) (s : List Char) :
    character ((escapeChar (Char.ofNat n)).toList ++ s) = some (Char.ofNat n, s) := by
  interval_cases n <;> rfl

/-- An escaped character is read as itself. -/
theorem character_escapeChar (c : Char) (s : List Char) :
    character ((escapeChar c).toList ++ s) = some (c, s) := by
  by_cases hc : IsSpecial c
  · rcases hc with hcontrol | rfl | rfl
    · rw [← Char.ofNat_toNat c]
      exact character_of_control hcontrol s
    · rfl
    · rfl
  · rw [escapeChar_of_plain hc, Char.toString_eq_singleton, String.toList_singleton]
    exact character_of_plain hc s

theorem toList_escapeChar_ne_nil (c : Char) : (escapeChar c).toList ≠ [] := by
  intro hnil
  have h := character_escapeChar c []
  rw [hnil] at h
  cases h

theorem toList_quoteString (s : String) : (quoteString s).toList =
    '"' :: (s.toList.flatMap (fun c => (escapeChar c).toList) ++ ['"']) := by
  simp [quoteString, List.flatMap_map]

theorem quoted_quoteString (s : String) (rest : List Char) :
    quoted ((quoteString s).toList ++ rest) = some (s, rest) := by
  have hcharacters : Reader.many character
      (s.toList.flatMap (fun c => (escapeChar c).toList) ++ '"' :: rest) =
      some (s.toList, '"' :: rest) :=
    congrArg some (repeated_flatMap _ (fun _ => True) rfl trivial s.toList fun c _ =>
      ⟨toList_escapeChar_ne_nil c, fun t _ => ⟨trivial, character_escapeChar c t⟩⟩).2
  rw [toList_quoteString, List.cons_append, List.append_assoc, List.singleton_append, quoted,
    bind_of_some (next_cons _ _), bind_of_some hcharacters, bind_of_some (next_cons _ _),
    String.ofList_toList]
  rfl

/-! ### Items between brackets -/

/-- A character that closes brackets. -/
def Closes (c : Char) : Prop := c = ']' ∨ c = '\x7d'

/-- The beginning of a line between brackets. -/
def margin (level : Nat) : List Char := '\n' :: (indent level).toList

theorem isBlank_margin (level : Nat) : ∀ c ∈ margin level, isBlank c = true := by
  intro c hc
  rw [margin, indent, String.toList_ofList] at hc
  rcases List.mem_cons.1 hc with rfl | hspace
  · rfl
  · rw [List.eq_of_mem_replicate hspace]
    rfl

theorem toList_intercalate_cons (separator first : String) (others : List String) :
    (separator.intercalate (first :: others)).toList =
      first.toList ++ others.flatMap fun x => separator.toList ++ x.toList := by
  induction others generalizing first with
  | nil => simp
  | cons second others ih =>
      rw [String.intercalate_cons_cons, String.toList_append, ih, List.flatMap_cons, String.toList_append]
      simp only [List.append_assoc]

theorem toList_block_cons (opening closing : Char) (level : Nat) (first : String) (others : List String) :
    (block (.singleton opening) (.singleton closing) level (first :: others)).toList =
      opening :: (margin (level + 1) ++ (first.toList ++
        (others.flatMap (fun x => ',' :: (margin (level + 1) ++ x.toList)) ++
          (margin level ++ [closing])))) := by
  have hcomma : ",\n".toList = [',', '\n'] := rfl
  simp only [block, List.map_cons, String.toList_append, toList_intercalate_cons, List.flatMap_map, hcomma]
  simp [margin]

theorem exists_toList_block_eq (opening closing : Char) (level : Nat) (lines : List String) :
    ∃ more, (block (.singleton opening) (.singleton closing) level lines).toList = opening :: more := by
  cases lines with
  | nil => exact ⟨[closing], by simp [block]⟩
  | cons first others => exact ⟨_, toList_block_cons opening closing level first others⟩

theorem stops_margin (level : Nat) (s : List Char) : Stops (margin level ++ s) := by
  intro c hc
  obtain rfl := Option.some.inj hc
  rfl

theorem stops_comma (s : List Char) : Stops (',' :: s) := by
  intro c hc
  obtain rfl := Option.some.inj hc
  rfl

theorem stops_colon (s : List Char) : Stops (':' :: s) := by
  intro c hc
  obtain rfl := Option.some.inj hc
  rfl

theorem mark_comma_of_closes {closing : Char} (hclosing : Closes closing) (level : Nat) (s : List Char) :
    mark ',' (margin level ++ closing :: s) = none := by
  rw [mark, token_append _ (isBlank_margin level)]
  rcases hclosing with rfl | rfl
  · rfl
  · rfl

theorem Takes.nextItem {item : Reader α} {text : String} {a : α} (h : Takes item text a) (level : Nat)
    {t : List Char} (ht : Stops t) :
    nextItem item (',' :: (margin level ++ text.toList) ++ t) = some (a, t) := by
  rw [List.cons_append, Json.nextItem, bind_of_some (mark_cons rfl _), List.append_assoc]
  exact h _ t (isBlank_margin level) ht

/-- Lines between brackets are read item by item. -/
theorem bracketed_block {item : Reader α} {write : α → String} (opening : Char) {closing : Char}
    (level : Nat) {items : List α} (hitems : ∀ a ∈ items, Takes item (write a) a)
    (hclosing : Closes closing) (hnone : ∀ s, item (closing :: s) = none) (rest : List Char) :
    bracketed opening closing item
      ((block (.singleton opening) (.singleton closing) level (items.map write)).toList ++ rest) =
      some (items, rest) := by
  have hblank : isBlank closing = false := by
    rcases hclosing with rfl | rfl
    · rfl
    · rfl
  cases items with
  | nil =>
      have htext : (block (.singleton opening) (.singleton closing) level ([].map write)).toList ++ rest =
          opening :: closing :: rest := by
        simp [block]
      rw [htext, bracketed, bind_of_some (next_cons _ _), orElse_of_none (bind_of_none (hnone rest)),
        bind_of_some (mark_cons hblank rest)]
      rfl
  | cons first others =>
      obtain ⟨hfirst, hothers⟩ := List.forall_mem_cons.1 hitems
      obtain ⟨hstops, hrepeated⟩ := repeated_flatMap (r := nextItem item)
        (fun a => ',' :: (margin (level + 1) ++ (write a).toList)) Stops
        (bind_of_none (mark_comma_of_closes hclosing level rest)) (stops_margin level _) others
        fun a ha => ⟨List.cons_ne_nil _ _, fun t ht => ⟨stops_comma _, (hothers a ha).nextItem _ ht⟩⟩
      rw [List.map_cons, toList_block_cons, bracketed]
      simp only [List.cons_append, List.append_assoc, List.nil_append, List.flatMap_map]
      rw [bind_of_some (next_cons _ _)]
      refine orElse_of_some ?_
      rw [bind_of_some (hfirst _ _ (isBlank_margin _) hstops), bind_of_some (congrArg some hrepeated),
        bind_of_some (mark_append hblank (isBlank_margin level) rest)]
      rfl

theorem Takes.member {item : Reader α} {text : String} {a : α} (h : Takes item text a) (key : String) :
    Takes (member item) (quoteString key ++ ": " ++ text) (key, a) := by
  intro blanks rest hblanks hrest
  have htext : (quoteString key ++ ": " ++ text).toList ++ rest =
      (quoteString key).toList ++ ':' :: ([' '] ++ (text.toList ++ rest)) := by
    simp
  have hkey : Takes (token quoted) (quoteString key) key :=
    takes_token (toList_quoteString key) rfl fun rest _ => quoted_quoteString key rest
  rw [htext, Json.member, bind_of_some (hkey blanks _ hblanks (stops_colon _)),
    bind_of_some (mark_cons rfl _), bind_of_some (h [' '] rest (List.forall_mem_singleton.2 rfl) hrest)]
  rfl

/-! ### Values -/

theorem renderItems_eq_map (level : Nat) (items : List Json) :
    renderItems level items = items.map (render level) := by
  induction items with
  | nil => rfl
  | cons item items ih => rw [renderItems, ih, List.map_cons]

theorem renderMembers_eq_map (level : Nat) (members : List (String × Json)) :
    renderMembers level members = members.map fun x => quoteString x.1 ++ ": " ++ render level x.2 := by
  induction members with
  | nil => rfl
  | cons entry members ih => rw [renderMembers, ih, List.map_cons]

theorem render_array (level : Nat) (items : List Json) : render level (array items) =
    block (.singleton '[') (.singleton ']') level (items.map (render (level + 1))) := by
  rw [render, renderItems_eq_map]
  rfl

theorem render_object (level : Nat) (members : List (String × Json)) : render level (object members) =
    block (.singleton '\x7b') (.singleton '\x7d') level
      (members.map fun x => quoteString x.1 ++ ": " ++ render (level + 1) x.2) := by
  rw [render, renderMembers_eq_map]
  rfl

/-- A line between brackets is shorter than the block. -/
theorem length_lt_of_mem_block (opening closing : Char) (level : Nat) {line : String} {lines : List String}
    (h : line ∈ lines) : line.toList.length <
      (block (.singleton opening) (.singleton closing) level lines).toList.length := by
  cases lines with
  | nil => cases h
  | cons first others =>
      rw [toList_block_cons]
      rcases List.mem_cons.1 h with rfl | hothers
      · simp only [List.length_cons, List.length_append]
        omega
      · have hsublist := List.sublist_flatten_of_mem (List.mem_map_of_mem
          (f := fun x : String => ',' :: (margin (level + 1) ++ x.toList)) hothers)
        have := hsublist.length_le
        rw [← List.flatMap_def] at this
        simp only [List.length_cons, List.length_append] at this ⊢
        omega

theorem numeral_of_not_digit {c : Char} (hc : c.isDigit = false) (s : List Char) :
    numeral (c :: s) = none := by
  have hrun : Reader.run (·.isDigit) (c :: s) = some ([], c :: s) := by
    simp [Reader.run, hc]
  rw [numeral, bind_of_some hrun, if_pos (.inl rfl)]
  rfl

theorem quoted_of_ne {c : Char} (hc : c ≠ '"') (s : List Char) : quoted (c :: s) = none :=
  bind_of_none (if_neg (by simpa using hc))

theorem bracketed_of_ne {opening closing c : Char} (hc : c ≠ opening) (item : Reader α) (s : List Char) :
    bracketed opening closing item (c :: s) = none :=
  bind_of_none (if_neg (by simpa using hc))

theorem value_of_closes {c : Char} (hc : Closes c) (depth : Nat) (s : List Char) :
    value depth (c :: s) = none := by
  cases depth with
  | zero => rfl
  | succ depth =>
      rcases hc with rfl | rfl
      · rfl
      · rfl

theorem isBlank_of_isDigit {c : Char} (hc : c.isDigit = true) : isBlank c = false := by
  rw [← Bool.not_eq_true, isBlank]
  simp only [Bool.or_eq_true, decide_eq_true_eq]
  rintro (((rfl | rfl) | rfl) | rfl)
  all_goals exact absurd hc (by decide)

section Kinds

variable {depth level : Nat}

theorem takes_number (depth level n : Nat) :
    Takes (value (depth + 1)) (render level (number n)) (number n) := by
  have htext : (toString n).toList = Nat.toDigits 10 n := Nat.toList_repr
  obtain ⟨c, more, hcons⟩ := List.exists_cons_of_ne_nil (Nat.toDigits_ne_nil (n := n) (b := 10))
  have hc : c.isDigit = true :=
    Nat.isDigit_of_mem_toDigits (b := 10) (n := n) (by decide) (by decide) (by simp [hcons])
  rw [render]
  refine takes_token (htext.trans hcons) (isBlank_of_isDigit hc) fun rest hrest => ?_
  rw [htext]
  exact orElse_of_some (map_of_some (numeral_append n hrest))

theorem takes_string (depth level : Nat) (s : String) :
    Takes (value (depth + 1)) (render level (string s)) (string s) := by
  rw [render]
  refine takes_token (toList_quoteString s) rfl fun rest _ => ?_
  rw [orElse_of_none (map_of_none ?_)]
  · exact orElse_of_some (map_of_some (quoted_quoteString s rest))
  · rw [toList_quoteString]
    exact numeral_of_not_digit rfl _

theorem takes_array {items : List Json}
    (h : ∀ item ∈ items, Takes (value depth) (render (level + 1) item) item) :
    Takes (value (depth + 1)) (render level (array items)) (array items) := by
  obtain ⟨more, htext⟩ := exists_toList_block_eq '[' ']' level (items.map (render (level + 1)))
  rw [render_array]
  refine takes_token htext rfl fun rest _ => ?_
  have hread := bracketed_block '[' level h (.inl rfl) (value_of_closes (.inl rfl) depth) rest
  rw [htext, List.cons_append] at hread ⊢
  rw [orElse_of_none (map_of_none (numeral_of_not_digit rfl _)),
    orElse_of_none (map_of_none (quoted_of_ne (by decide) _))]
  exact orElse_of_some (map_of_some hread)

theorem takes_object {members : List (String × Json)}
    (h : ∀ x ∈ members, Takes (value depth) (render (level + 1) x.2) x.2) :
    Takes (value (depth + 1)) (render level (object members)) (object members) := by
  obtain ⟨more, htext⟩ := exists_toList_block_eq '\x7b' '\x7d' level (members.map fun x =>
    quoteString x.1 ++ ": " ++ render (level + 1) x.2)
  rw [render_object]
  refine takes_token htext rfl fun rest _ => ?_
  have hread := bracketed_block '\x7b' level (fun x hx => (h x hx).member x.1) (.inr rfl)
    (fun s => bind_of_none rfl) rest
  rw [htext, List.cons_append] at hread ⊢
  rw [orElse_of_none (map_of_none (numeral_of_not_digit rfl _)),
    orElse_of_none (map_of_none (quoted_of_ne (by decide) _)),
    orElse_of_none (map_of_none (bracketed_of_ne (by decide) _ _))]
  exact orElse_of_some (map_of_some hread)

end Kinds

/-- A value is read from its text, whatever follows it. -/
theorem takes_render (depth : Nat) : ∀ (level : Nat) (v : Json), (render level v).toList.length < depth →
    Takes (value depth) (render level v) v := by
  induction depth with
  | zero => exact fun _ _ h => absurd h (Nat.not_lt_zero _)
  | succ depth ih =>
      intro level v hdepth
      cases v with
      | null =>
          rw [render]
          exact takes_token rfl rfl fun rest _ => rfl
      | bool b =>
          rw [render]
          cases b with
          | false => exact takes_token rfl rfl fun rest _ => rfl
          | true => exact takes_token rfl rfl fun rest _ => rfl
      | number n => exact takes_number depth level n
      | string s => exact takes_string depth level s
      | array items =>
          refine takes_array fun item hitem => ih _ _ ?_
          rw [render_array] at hdepth
          have hshorter := length_lt_of_mem_block '[' ']' level
            (List.mem_map_of_mem (f := render (level + 1)) hitem)
          omega
      | object members =>
          refine takes_object fun x hx => ih _ _ ?_
          rw [render_object] at hdepth
          have hshorter := length_lt_of_mem_block '\x7b' '\x7d' level
            (List.mem_map_of_mem (f := fun x => quoteString x.1 ++ ": " ++ render (level + 1) x.2) hx)
          simp only [String.toList_append, List.length_append] at hshorter
          omega

/-- **What is written of a value stands for it**, and blanks after it do not matter. -/
theorem read?_pretty (v : Json) {after : String} (hafter : ∀ c ∈ after.toList, isBlank c = true) :
    read? (v.pretty ++ after) = some v := by
  have hstops : Stops after.toList := by
    intro c hc
    by_contra hdigit
    rw [Bool.not_eq_false] at hdigit
    exact absurd (hafter c (List.mem_of_mem_head? hc)) (by simp [isBlank_of_isDigit hdigit])
  have htaken := takes_render ((v.pretty ++ after).toList.length + 1) 0 v
    (by rw [String.toList_append, List.length_append, pretty]; omega) [] after.toList
    (List.forall_mem_nil _) hstops
  rw [List.nil_append, ← String.toList_append] at htaken
  rw [read?]
  change (match value _ (render 0 v ++ after).toList with
    | some (v, rest) => if rest.all isBlank then some v else none
    | none => none) = some v
  rw [htaken]
  exact if_pos (List.all_eq_true.2 hafter)

end Json

end Text

end Scanout
