import Mathlib.Data.List.Basic
import Mathlib.Tactic.SplitIfs
import NoteDesk.Proofs.WidthTable

/-!
# What is known of the ruler by tables

The ruler by tables measures a text from its end, and what it has measured divides into pieces at
every step. What may still become part of a larger piece stands at the beginning of the text:
`Width.Holds` says for each `Width.Following` what that is.

* `Width.Joinable` and `Width.Letters` are texts that begin with what a picture can be joined to,
  and with letters that may go on joining.
* `Width.Holds.divides`: whatever follows, what was measured divides into pieces.
* `Width.Holds.special` and `Width.holds_asFollowing` are the two kinds of steps, and
  `Width.holds_measure` is the run.
* `Width.documented` is the main result: what is known of a ruler holds of this one.
-/

namespace NoteDesk.Text.Width

/-! ## What was measured -/

section

variable {c : Char} {p s : List Char} {n : Nat}

/-- The text begins with what a picture can be joined to. Two of its columns are that picture's. -/
def Joinable (s : List Char) (n : Nat) : Prop :=
  ∃ rest t k, s = rest ++ t ∧ Divides t k ∧ n = k + 2

/-- The text begins with letters that may go on joining. They take at least `least` columns. -/
def Letters (least : Nat) (s : List Char) (n : Nat) : Prop :=
  ∃ h t m k, s = h ++ t ∧ (∃ c ∈ h, 0x80 ≤ c.toNat) ∧ least ≤ m ∧ m ≤ ownWidth h ∧
    Divides t k ∧ n = m + k

theorem divides_alone {m : Nat} (h : Ruler.char c = some m) (rest : Divides s n) :
    Divides (c :: s) (m + n) :=
  .cons (.alone h) rest

/-- A mark makes a text no wider. -/
theorem divides_mark (h : Ruler.char c = some 0) (rest : Divides s n) : Divides (c :: s) n :=
  n.zero_add ▸ divides_alone h rest

/-- In a plain step, the character is a piece by itself. -/
theorem divides_plain (c : Char) (rest : Divides s n) : Divides (c :: s) (plainWidth c + n) := by
  cases control : isControl c with
  | false => exact divides_alone (char_eq control) rest
  | true =>
    have one : plainWidth c = 1 := by
      refine if_pos (Nat.le_of_not_lt fun above => ?_)
      rw [not_isControl_of_le (Nat.le_of_lt above)] at control
      cases control
    rw [one]
    exact .cons (.control (if_pos control)) rest

namespace Joinable

theorem of_divides (p : List Char) (h : Divides s n) : Joinable (p ++ s) (n + 2) :=
  ⟨p, s, n, rfl, h, rfl⟩

theorem append (h : Joinable s n) (p : List Char) : Joinable (p ++ s) n := by
  obtain ⟨rest, t, k, rfl, divides, rfl⟩ := h
  exact ⟨p ++ rest, t, k, (List.append_assoc ..).symm, divides, rfl⟩

theorem cons (h : Joinable s n) (c : Char) : Joinable (c :: s) n :=
  h.append [c]

/-- What a picture begins with makes one of it. -/
theorem divides (h : Joinable s n) (opens : Opening p) : Divides (p ++ s) n := by
  obtain ⟨rest, t, k, rfl, divides, rfl⟩ := h
  rw [← List.append_assoc, Nat.add_comm]
  exact .cons (.picture opens) divides

end Joinable

namespace Letters

variable {least : Nat}

theorem divides (h : Letters least s n) : Divides s n := by
  obtain ⟨h, t, m, k, rfl, beyond, -, narrow, divides, rfl⟩ := h
  exact .cons (.joined beyond narrow) divides

/-- Another character joins, and adds no more than its own width. -/
theorem join (h : Letters least s n) {w : Int} (low : 0 ≤ least + w) (high : w ≤ charWidth c) :
    ∃ n' : Nat, (n' : Int) = n + w ∧ Letters (least + w).toNat (c :: s) n' := by
  obtain ⟨h, t, m, k, rfl, ⟨d, mem, beyond⟩, enough, narrow, divides, rfl⟩ := h
  refine ⟨(m + w).toNat + k, by omega, c :: h, t, (m + w).toNat, k, rfl,
    ⟨d, List.mem_cons_of_mem c mem, beyond⟩, by omega, ?_, divides, rfl⟩
  rw [ownWidth]
  omega

theorem mono {less : Nat} (h : Letters least s n) (le : less ≤ least) : Letters less s n := by
  obtain ⟨h, t, m, k, whole, beyond, enough, rest⟩ := h
  exact ⟨h, t, m, k, whole, beyond, Nat.le_trans le enough, rest⟩

/-- A character between letters makes them no wider. -/
theorem cons (h : Letters least s n) (c : Char) : Letters least (c :: s) n := by
  obtain ⟨n', same, letters⟩ := h.join (c := c) (w := 0) (by omega) (by omega)
  obtain rfl : n' = n := by omega
  exact letters.mono (by omega)

end Letters

/-- What letters before this one are sure to take with it. -/
def Letter.least : Letter → Nat
  | .joinedTifinagh => 2
  | _ => 1

/-- The character of a selector. -/
def Selector.char : Selector → Char
  | .emoji => '\uFE0F'
  | .text => '\uFE0E'

/-- A selector makes a text no wider. -/
theorem divides_selector (x : Selector) (rest : Divides s n) : Divides (x.char :: s) n := by
  cases x <;> exact divides_mark (char_of_toNat rfl rfl) rest

/-- How a text divides that begins with something special: the pieces can still be put together with
what comes before. -/
def Holds : Following → List Char → Nat → Prop
  | .other, s, n => Divides s n
  | .lineFeed, s, n => ∃ t k, s = '\n' :: t ∧ Divides t k ∧ n = k + 1
  | .selector x, s, n => ∃ t, s = x.char :: t ∧ Divides t n
  | .picture, s, n | .joinedPicture, s, n | .joinedKeycap, s, n | .joinedTags _, s, n =>
    Divides s n ∧ Joinable s n
  | .joinedSelector, s, n | .joinedKeycapSelector, s, n =>
    Divides s n ∧ ∃ t, s = '\uFE0F' :: t ∧ Joinable t n
  | .skinTone, s, n => Divides s n ∧ ∃ c t, s = c :: t ∧ isSkinTone c = true ∧ Joinable t n
  | .flagHalf, s, n => ∃ c t k, s = c :: t ∧ isFlagHalf c = true ∧ Divides t k ∧ n = k + 1
  | .flags, s, n => ∃ a b t k, s = a :: b :: t ∧ isFlagHalf a = true ∧ isFlagHalf b = true ∧
      Divides t k ∧ n = k + 2
  | .joinedHalf, s, n => ∃ c t k, s = c :: t ∧ isFlagHalf c = true ∧ Divides t k ∧ Joinable t k ∧
      n = k + 1
  | .joinedHalves even, s, n => ∃ halves t k, s = halves ++ t ∧
      (∀ c ∈ halves, isFlagHalf c = true) ∧ Divides t k ∧ Joinable t k ∧ 2 ≤ halves.length ∧
      if even then halves.length % 2 = 0 ∧ n + 2 = halves.length + k
      else halves.length % 2 = 1 ∧ n = halves.length + k
  | .letter l _ none, s, n => Letters l.least s n
  | .letter l _ (some x), s, n => ∃ t, s = x.char :: t ∧ Letters l.least t n

/-! ## Halves of flags -/

theorem divides_halves {halves t : List Char} {k : Nat} (all : ∀ c ∈ halves, isFlagHalf c = true)
    (rest : Divides t k) : Divides (halves ++ t) (halves.length + k) := by
  induction halves with
  | nil => simpa using rest
  | cons c halves ih =>
    rw [List.forall_mem_cons] at all
    have := divides_alone (char_of_isFlagHalf all.1) (ih all.2)
    rwa [List.length_cons, Nat.add_comm halves.length 1, Nat.add_assoc]

/-- Of an even number of halves, the last two may be joined to a picture. -/
theorem divides_even {halves t : List Char} {k n : Nat} (all : ∀ c ∈ halves, isFlagHalf c = true)
    (joinable : Joinable t k) (some : 2 ≤ halves.length) (even : halves.length % 2 = 0)
    (sum : n + 2 = halves.length + k) : Divides (halves ++ t) n := by
  obtain ⟨front, last, rfl, two⟩ : ∃ front last, halves = front ++ last ∧ last.length = 2 :=
    ⟨halves.take (halves.length - 2), halves.drop (halves.length - 2),
      (List.take_append_drop ..).symm, by rw [List.length_drop]; omega⟩
  obtain ⟨a, b, rfl⟩ := List.length_eq_two.1 two
  rw [List.forall_mem_append] at all
  have ha := all.2 a List.mem_cons_self
  have hb := all.2 b (List.mem_cons_of_mem a List.mem_cons_self)
  have joined : Divides ([a, b] ++ t) k :=
    joinable.divides (.flag ha (char_of_isFlagHalf ha) hb (char_of_isFlagHalf hb))
  have whole := divides_halves all.1 joined
  rw [List.length_append, List.length_cons, List.length_singleton] at sum
  obtain rfl : n = front.length + k := by omega
  rwa [List.append_assoc]

/-- Any number of halves before a joiner and a picture are flags that a picture can be joined to. -/
theorem joinable_halves {even : Bool} (h : Holds (.joinedHalves even) s n) : Joinable s n := by
  obtain ⟨halves, t, k, rfl, all, rest, joinable, two, sum⟩ := h
  match halves, two with
  | a :: b :: halves, _ =>
    rw [List.forall_mem_cons, List.forall_mem_cons] at all
    simp only [List.length_cons] at sum
    have two_and {m : Nat} (divides : Divides (halves ++ t) m) :
        Joinable ([a, b] ++ (halves ++ t)) (m + 2) := .of_divides _ divides
    cases even with
    | false =>
      obtain ⟨-, rfl⟩ := (show _ ∧ _ from sum)
      have := two_and (divides_halves all.2.2 rest)
      rwa [show halves.length + k + 2 = halves.length + 1 + 1 + k by omega] at this
    | true =>
      obtain ⟨even, sum⟩ := (show _ ∧ _ from sum)
      cases halves with
      | nil =>
        rw [List.length_nil] at sum
        obtain rfl : n = k := by omega
        exact joinable.append [a, b]
      | cons c halves =>
        have enough : 2 ≤ (c :: halves).length := by
          rw [List.length_cons] at even ⊢
          omega
        obtain ⟨m, rfl⟩ : ∃ m, n = m + 2 := ⟨n - 2, by rw [List.length_cons] at sum enough; omega⟩
        exact two_and (divides_even all.2.2 joinable enough (by omega) (by omega))

theorem Holds.divides {f : Following} (h : Holds f s n) : Divides s n := by
  cases f with
  | other => exact h
  | lineFeed =>
    obtain ⟨t, k, rfl, divides, rfl⟩ := h
    rw [Nat.add_comm]
    exact .cons (.control (by decide)) divides
  | selector x =>
    obtain ⟨t, rfl, divides⟩ := h
    exact divides_selector x divides
  | picture | joinedPicture | joinedKeycap | joinedTags | joinedSelector | joinedKeycapSelector
  | skinTone => exact h.1
  | flagHalf =>
    obtain ⟨c, t, k, rfl, half, divides, rfl⟩ := h
    rw [Nat.add_comm]
    exact divides_alone (char_of_isFlagHalf half) divides
  | flags =>
    obtain ⟨a, b, t, k, rfl, ha, hb, divides, rfl⟩ := h
    have all : ∀ c ∈ [a, b], isFlagHalf c = true := by simp [ha, hb]
    rw [Nat.add_comm]
    exact divides_halves all divides
  | joinedHalf =>
    obtain ⟨c, t, k, rfl, half, divides, -, rfl⟩ := h
    rw [Nat.add_comm]
    exact divides_alone (char_of_isFlagHalf half) divides
  | joinedHalves even =>
    obtain ⟨halves, t, k, rfl, all, divides, joinable, two, sum⟩ := h
    cases even with
    | false =>
      obtain ⟨-, rfl⟩ := (show _ ∧ _ from sum)
      exact divides_halves all divides
    | true =>
      obtain ⟨even, sum⟩ := (show _ ∧ _ from sum)
      exact divides_even all joinable two even sum
  | letter l joined selector =>
    cases selector with
    | none => exact Letters.divides h
    | some x =>
      obtain ⟨t, rfl, letters⟩ := h
      exact divides_selector x letters.divides

/-! ## Special steps -/

theorem join?_bounds {l : Letter} {joined : Bool} {w : Int} {l' : Option Letter}
    (h : l.join? joined c = some (w, l')) :
    0 ≤ l.least + w ∧ w ≤ charWidth c ∧ ∀ x ∈ l', (x.least : Int) ≤ l.least + w := by
  have atLeast : 0 ≤ (charWidth c : Int) := Int.natCast_nonneg _
  cases l with
  | tifinagh =>
    simp only [Letter.join?] at h
    split_ifs at h with joiner letter <;> cases h
    · obtain rfl := eq_of_toNat joiner
      exact ⟨by decide, by rw [charWidth_of_char char_tifinaghJoiner]; decide, by decide⟩
    · exact ⟨by decide, atLeast, by simp⟩
  | _ =>
    simp only [Letter.join?] at h
    split_ifs at h <;> cases h <;>
      exact ⟨by decide, by omega, by simp [Letter.least]⟩

/-- What was measured so far divides into pieces, and takes what they take. -/
def Measured (f : Following) (s : List Char) (sum : Int) : Prop :=
  ∃ n : Nat, (n : Int) = sum ∧ Holds f s n

theorem Holds.same {f : Following} (h : Holds f s n) : Measured f s (n + 0) :=
  ⟨n, (Int.add_zero _).symm, h⟩

variable {f : Following} {w : Int}

theorem measured_selected {x : Selector} (rest : Divides s n) (h : selected? x c = some (w, f)) :
    Measured f (c :: x.char :: s) (n + w) := by
  cases x with
  | emoji =>
    simp only [selected?] at h
    split_ifs at h with may
    cases h
    obtain ⟨m, visible⟩ := char_of_mayBePicture may
    have joinable : Joinable s (n + 2) := .of_divides [] rest
    exact ⟨n + 2, rfl, joinable.divides (.selected visible), joinable.append [c, '\uFE0F']⟩
  | text =>
    simp only [selected?] at h
    split_ifs at h with textual
    cases h
    have wide : Ruler.char c = some 2 := char_of_textBySelector textual
    have narrow : 1 ≤ ownWidth [c, '\uFE0E'] := by
      rw [ownWidth, charWidth_of_char wide]
      omega
    have piece : Piece [c, '\uFE0E'] 1 := .joined ⟨'\uFE0E', by simp, by decide⟩ narrow
    exact ⟨1 + n, Int.add_comm 1 n, .cons piece rest⟩

theorem measured_beforeLetter {l : Letter} {joined : Bool} (letters : Letters l.least s n)
    (h : beforeLetter? l joined c = some (w, f)) : Measured f (c :: s) (n + w) := by
  rw [beforeLetter?] at h
  split at h
  next w' l' found =>
    cases h
    obtain ⟨low, high, least⟩ := join?_bounds found
    obtain ⟨n', sum, joined⟩ := letters.join low high
    have := least l' rfl
    exact ⟨n', sum, joined.mono (by omega)⟩
  next w' found =>
    cases h
    obtain ⟨low, high, -⟩ := join?_bounds found
    obtain ⟨n', sum, joined⟩ := letters.join low high
    exact ⟨n', sum, joined.divides⟩
  next =>
    split_ifs at h with emoji text <;> cases h
    · exact Holds.same ⟨s, by rw [eq_of_toNat emoji]; rfl, letters⟩
    · exact Holds.same ⟨s, by rw [eq_of_toNat text]; rfl, letters⟩
    · exact Holds.same (letters.cons c)
    · exact Holds.same (letters.cons c)

theorem measured_joinedPicture (h : Holds .joinedPicture s n)
    (found : special? c .joinedPicture = some (w, f)) : Measured f (c :: s) (n + w) := by
  obtain ⟨divides, joinable⟩ := h
  simp only [special?] at found
  split_ifs at found with selector tone half keycap tags picture <;> cases found
  · have mark := char_of_toNat selector rfl
    exact Holds.same ⟨divides_mark mark divides, s, by rw [eq_of_toNat selector], joinable⟩
  · exact Holds.same
      ⟨joinable.divides (.wide (char_of_isSkinTone tone)), c, s, rfl, tone, joinable⟩
  · exact ⟨n + 1, rfl, c, s, n, rfl, half, divides, joinable, rfl⟩
  · exact Holds.same ⟨divides_mark (char_of_toNat keycap rfl) divides, joinable.cons c⟩
  · exact Holds.same ⟨divides_mark (char_of_toNat tags rfl) divides, joinable.cons c⟩
  · exact Holds.same ⟨joinable.divides (.wide (char_of_emoji picture)), joinable.cons c⟩

/-- Another half of a flag, before some that stand before a joiner and a picture. -/
theorem measured_half {even : Bool} (h : Holds (.joinedHalves even) s n)
    (half : isFlagHalf c = true) :
    Measured (.joinedHalves !even) (c :: s) (n + if even = true then 3 else -1) := by
  obtain ⟨halves, t, k, rfl, all, rest, joinable, two, sum⟩ := h
  have all : ∀ d ∈ c :: halves, isFlagHalf d = true := List.forall_mem_cons.2 ⟨half, all⟩
  have two' : 2 ≤ (c :: halves).length := Nat.le_succ_of_le two
  cases even with
  | true =>
    obtain ⟨even, sum⟩ := (show _ ∧ _ from sum)
    have odd : (c :: halves).length % 2 = 1 ∧ n + 3 = (c :: halves).length + k := by
      rw [List.length_cons]
      omega
    exact ⟨n + 3, rfl, c :: halves, t, k, rfl, all, rest, joinable, two', odd⟩
  | false =>
    obtain ⟨odd, rfl⟩ := (show _ ∧ _ from sum)
    have even : (c :: halves).length % 2 = 0 ∧
        halves.length + k - 1 + 2 = (c :: halves).length + k := by
      rw [List.length_cons]
      omega
    refine ⟨halves.length + k - 1, ?_, c :: halves, t, k, rfl, all, rest, joinable, two', even⟩
    rw [if_neg Bool.false_ne_true]
    omega

/-- **What was measured divides into pieces after a special step too**, and is wider by what the
step adds. -/
theorem Holds.special (h : Holds f s n) {f' : Following} (found : special? c f = some (w, f')) :
    Measured f' (c :: s) (n + w) := by
  have divides := h.divides
  have joiner_divides (joiner : isJoiner c = true) : Divides (c :: s) n :=
    divides_mark (char_of_isJoiner joiner) divides
  cases f with
  | other => cases found
  | lineFeed =>
    simp only [special?] at found
    split_ifs at found with isReturn
    cases found
    obtain ⟨t, k, rfl, rest, rfl⟩ := h
    rw [isReturn, Nat.add_comm]
    exact Holds.same (f := .other) (.cons .lineEnd rest)
  | selector x =>
    obtain ⟨t, rfl, rest⟩ := h
    exact measured_selected rest found
  | picture =>
    simp only [special?] at found
    split_ifs at found with joiner
    cases found
    exact Holds.same ⟨joiner_divides joiner, h.2.cons c⟩
  | joinedPicture => exact measured_joinedPicture h found
  | joinedSelector =>
    simp only [special?] at found
    split_ifs at found with may
    cases found
    obtain ⟨-, t, rfl, joinable⟩ := h
    obtain ⟨m, visible⟩ := char_of_mayBePicture may
    exact Holds.same ⟨joinable.divides (.selected visible), joinable.append [c, '\uFE0F']⟩
  | skinTone =>
    obtain ⟨-, tone, t, rfl, isTone, joinable⟩ := h
    simp only [special?] at found
    split_ifs at found with person joiner <;> cases found
    · exact Holds.same
        ⟨joinable.divides (.toned (char_of_isSkinTone isTone)), joinable.append [c, tone]⟩
    · exact Holds.same ⟨joiner_divides joiner, joinable.append [c, tone]⟩
  | flagHalf =>
    simp only [special?] at found
    split_ifs at found with half
    cases found
    obtain ⟨b, t, k, rfl, hb, rest, rfl⟩ := h
    exact ⟨k + 2, rfl, c, b, t, k, rfl, half, hb, rest, rfl⟩
  | flags =>
    obtain ⟨a, b, t, k, rfl, ha, hb, rest, rfl⟩ := h
    simp only [special?] at found
    split_ifs at found with half joiner <;> cases found
    · have later : Divides (b :: t) (k + 1) :=
        Nat.add_comm 1 k ▸ divides_alone (char_of_isFlagHalf hb) rest
      exact ⟨k + 1 + 2, rfl, c, a, b :: t, k + 1, rfl, half, ha, later, rfl⟩
    · exact Holds.same ⟨joiner_divides joiner, .of_divides [c, a, b] rest⟩
  | joinedHalf =>
    simp only [special?] at found
    split_ifs at found with half
    cases found
    obtain ⟨b, t, k, rfl, hb, rest, joinable, rfl⟩ := h
    have all : ∀ d ∈ [c, b], isFlagHalf d = true := by simp [half, hb]
    have even : [c, b].length % 2 = 0 ∧ k + 2 = [c, b].length + k := ⟨by simp, Nat.add_comm k 2⟩
    exact ⟨k, by omega, [c, b], t, k, rfl, all, rest, joinable, Nat.le_refl 2, even⟩
  | joinedHalves even =>
    simp only [special?] at found
    by_cases half : isFlagHalf c = true
    · rw [if_pos half] at found
      cases found
      exact measured_half h half
    · rw [if_neg half] at found
      split_ifs at found with joiner
      cases found
      exact Holds.same ⟨joiner_divides joiner, (joinable_halves h).cons c⟩
  | joinedKeycap =>
    simp only [special?] at found
    split_ifs at found with selector
    cases found
    have mark := char_of_toNat selector rfl
    exact Holds.same ⟨divides_mark mark divides, s, by rw [eq_of_toNat selector], h.2⟩
  | joinedKeycapSelector =>
    simp only [special?] at found
    split_ifs at found with key
    cases found
    obtain ⟨-, t, rfl, joinable⟩ := h
    have printable : Printable c := by
      simp only [Bool.or_eq_true, decide_eq_true_eq] at key
      rcases key with (digit | rfl) | rfl
      · exact printable_of_isDigit digit
      · exact ⟨by decide, by decide⟩
      · exact ⟨by decide, by decide⟩
    exact Holds.same
      ⟨joinable.divides (.selected (char_of_printable printable)), joinable.append [c, '\uFE0F']⟩
  | joinedTags count =>
    simp only [special?] at found
    split_ifs at found with tag flag <;> cases found
    · exact Holds.same ⟨divides_mark (char_of_isTag tag.1) divides, h.2.cons c⟩
    · have double : Ruler.char c = some 2 := char_of_doubles (by rw [Ranges.has, flag.1]; rfl)
      exact Holds.same ⟨h.2.divides (.wide double), h.2.cons c⟩
  | letter l joined selector =>
    simp only [special?] at found
    cases selector with
    | none => exact measured_beforeLetter h found
    | some x =>
      obtain ⟨t, rfl, letters⟩ := h
      rcases Option.or_eq_some_iff.1 found with selected | ⟨-, before⟩
      · exact measured_selected letters.divides selected
      · exact measured_beforeLetter (letters.cons _) before

/-! ## Plain steps -/

/-- A letter that a plain step begins with. -/
theorem holds_letter {l : Letter} (least : l.least = 1) (letter : letters.has c = true)
    (rest : Divides s n) : Holds (.letter l false none) (c :: s) (plainWidth c + n) := by
  have above : 0xA0 < c.toNat := lt_of_letters letter
  have own : charWidth c = plainWidth c :=
    charWidth_of_char (char_eq (not_isControl_of_le (Nat.le_of_lt above)))
  refine ⟨[c], s, plainWidth c, n, rfl, ⟨c, by simp, by omega⟩, ?_, ?_, rest, rfl⟩
  · rw [least]
    exact one_le_plainWidth (zero_has_of_letters letter)
  · rw [ownWidth, own]
    omega

theorem Holds.ite {p : Prop} [Decidable p] {f g : Following} (yes : p → Holds f s n)
    (no : ¬p → Holds g s n) : Holds (if p then f else g) s n := by
  by_cases h : p
  · rw [if_pos h]
    exact yes h
  · rw [if_neg h]
    exact no h

-- The alternatives of `asFollowing` are taken one after the other.
/-- **What was measured divides into pieces after a plain step too**, and the character is one. -/
theorem holds_asFollowing (rest : Divides s n) :
    Holds (asFollowing c) (c :: s) (plainWidth c + n) := by
  have divides := divides_plain c rest
  have letter {l : Letter} {code : Nat} (least : l.least = 1) (h : c.toNat = code)
      (among : letters.hasNumber code = true) :
      Holds (.letter l false none) (c :: s) (plainWidth c + n) :=
    holds_letter least (by rw [Ranges.has, h, among]) rest
  refine .ite (fun low => .ite (fun feed => ?_) fun _ => divides) fun _ => ?_
  · subst feed
    exact ⟨s, n, rfl, rest, Nat.add_comm 1 n⟩
  have mark {code : Nat} (h : c.toNat = code) (among : marks.hasNumber code = true) :
      plainWidth c + n = n := by
    rw [plainWidth_of_char (char_of_toNat h among), Nat.zero_add]
  refine .ite (fun emoji => ?_) fun _ => .ite (fun text => ?_) fun _ => ?_
  · exact ⟨s, by rw [eq_of_toNat emoji]; rfl, by rwa [mark emoji rfl]⟩
  · exact ⟨s, by rw [eq_of_toNat text]; rfl, by rwa [mark text rfl]⟩
  refine .ite (fun tone => ?_) fun _ => .ite (fun half => ?_) fun _ => ?_
  · refine ⟨divides, c, s, rfl, tone, ?_⟩
    rw [plainWidth_of_char (char_of_isSkinTone tone), Nat.add_comm]
    exact .of_divides [] rest
  · have one : plainWidth c = 1 := plainWidth_of_char (char_of_isFlagHalf half)
    exact ⟨c, s, n, rfl, half, rest, by rw [one, Nat.add_comm]⟩
  refine .ite (fun alef => holds_letter rfl (letters_has_of_isAlef alef) rest) fun _ => ?_
  refine .ite (fun lamed => letter rfl lamed rfl) fun _ => ?_
  refine .ite (fun khmer => holds_letter rfl (letters_has_of_isKhmerLetter khmer) rest) fun _ => ?_
  refine .ite (fun ya => letter rfl ya rfl) fun _ => ?_
  refine .ite (fun tifinagh => holds_letter rfl (letters_has_of_isTifinagh tifinagh) rest)
    fun _ => ?_
  refine .ite (fun tone => ?_) fun _ => ?_
  · rcases tone with tone | tone
    · exact letter rfl tone rfl
    · exact letter rfl tone rfl
  refine .ite (fun orkhon => letter rfl orkhon rfl) fun _ => ?_
  refine .ite (fun e => letter rfl e rfl) fun _ => ?_
  refine .ite (fun ai => letter rfl ai rfl) fun _ => ?_
  refine .ite (fun picture => ⟨divides, ?_⟩) fun _ => divides
  rw [plainWidth_of_char (char_of_emoji picture), Nat.add_comm]
  exact .of_divides [c] rest

/-! ## Runs -/

theorem Holds.step (h : Holds f s n) (c : Char) :
    Measured (step c f).2 (c :: s) (n + (step c f).1) := by
  rw [Width.step]
  cases found : special? c f with
  | some r => exact h.special found
  | none => exact ⟨plainWidth c + n, by simp [Int.add_comm], holds_asFollowing h.divides⟩

theorem measure_cons (c : Char) (s : List Char) :
    measure (c :: s) = ((measure s).1 + (step c (measure s).2).1, (step c (measure s).2).2) :=
  rfl

/-- **What was measured divides into pieces, and takes what they take.** -/
theorem holds_measure (s : List Char) : Measured (measure s).2 s (measure s).1 := by
  induction s with
  | nil => exact ⟨0, rfl, .nil⟩
  | cons c s ih =>
    obtain ⟨n, sum, holds⟩ := ih
    rw [measure_cons, ← sum]
    exact holds.step c

theorem measure_eq_text (s : List Char) : (measure s).1 = Ruler.text s := by
  obtain ⟨n, sum, -⟩ := holds_measure s
  exact (Int.toNat_of_nonneg (sum ▸ Int.natCast_nonneg n)).symm

theorem measure_append {t : List Char} (h : (measure t).2 = .other) :
    measure (s ++ t) = ((measure s).1 + (measure t).1, (measure s).2) := by
  induction s with
  | nil => rw [List.nil_append, measure, Int.zero_add, ← h]
  | cons c s ih =>
    rw [List.cons_append, measure_cons, measure_cons, ih]
    dsimp only
    rw [Int.add_right_comm]

/-- **What is known of a ruler holds of the ruler by tables.** -/
theorem documented : Ruler.Documented where
  control c := by
    cases control : isControl c with
    | false => simp [char_eq control]
    | true => exact iff_of_true (if_pos control) rfl
  printable := char_of_printable
  apart {c} h s t := by
    have after : measure (c :: t) = ((measure t).1 + 1, .other) := by
      rw [measure_cons, step_apart h]
    have sum := congrArg Prod.fst (measure_append (s := s) (congrArg Prod.snd after))
    rw [after] at sum
    simp only [measure_eq_text] at sum
    omega
  divides s := by
    obtain ⟨n, sum, holds⟩ := holds_measure s
    rw [measure_eq_text] at sum
    exact Int.ofNat.inj sum ▸ holds.divides

end

end NoteDesk.Text.Width
