import Mathlib.Data.List.Basic
import Mathlib.Tactic.SplitIfs
import NoteDesk.Proofs.Ruler
import NoteDesk.Text.Width

/-!
# What the tables of widths say

That one table lies inside another, or that two have nothing in common, is told by one walk through
both (`Text.Ranges.within`, `Text.Ranges.apart`). What the ruler by tables needs to know of a table
is computed that way, and then holds of every character in it.

* `Width.requirements` is what the rules take for granted of the tables, and
  `Width.of_mem_requirements` computes that it is so.
* `Width.char_of_wide` and `Width.char_of_mark` are what the tables say of characters that take two
  columns or none. The characters that the rules name follow, each with its width.
* `Width.step_apart`: a space and an ellipsis join with nothing.
-/

namespace NoteDesk.Text

/-! ## Tables -/

namespace Ranges

/-- No number lies in both, by one walk through the ranges. -/
def apart : Ranges → Ranges → Bool
  | [], _ => true
  | p :: r, r' =>
    let rest := r'.dropWhile fun q => q.2 < p.1
    (rest.head?.all fun q => p.2 < q.1) && apart r rest

/-- Each range of the first lies inside one of the second, by one walk through them. -/
def within : Ranges → Ranges → Bool
  | [], _ => true
  | p :: r, r' =>
    let rest := r'.dropWhile fun q => q.1 ≤ p.1 && q.2 < p.1
    (rest.head?.any fun q => q.1 ≤ p.1 && p.2 ≤ q.2) && within r rest

theorem hasNumber_cons {p : Nat × Nat} {r : Ranges} {n : Nat} :
    hasNumber (p :: r) n = true ↔ p.1 ≤ n ∧ (n ≤ p.2 ∨ hasNumber r n = true) := by
  rw [hasNumber]
  split_ifs with below
  · exact iff_of_false (by simp) fun inside => absurd inside.1 (Nat.not_le.2 below)
  · simp [Nat.not_lt.1 below]

theorem hasNumber_dropWhile {r : Ranges} {n low : Nat} (h : hasNumber r n = true)
    (above : low ≤ n) : hasNumber (r.dropWhile fun q => q.2 < low) n = true := by
  induction r with
  | nil => exact h
  | cons q r ih =>
    rw [List.dropWhile_cons]
    split_ifs with passed
    · obtain ⟨-, inside | later⟩ := hasNumber_cons.1 h
      · have := of_decide_eq_true passed
        omega
      · exact ih later
    · exact h

theorem hasNumber_of_apart {r r' : Ranges} (h : apart r r' = true) {n : Nat}
    (hn : hasNumber r n = true) : hasNumber r' n = false := by
  induction r generalizing r' with
  | nil => cases hn
  | cons p r ih =>
    rw [apart, Bool.and_eq_true_iff] at h
    obtain ⟨low, here⟩ := hasNumber_cons.1 hn
    refine Bool.eq_false_iff.2 fun both => ?_
    have reached := hasNumber_dropWhile both low
    rcases here with inside | later
    · cases ahead : r'.dropWhile fun q => decide (q.2 < p.1) with
      | nil => simp [ahead, hasNumber] at reached
      | cons q rest =>
        rw [ahead] at h reached
        have beyond : p.2 < q.1 := of_decide_eq_true h.1
        have := (hasNumber_cons.1 reached).1
        omega
    · simp [ih h.2 later] at reached

theorem hasNumber_of_dropWhile {r : Ranges} {n low : Nat} (above : low ≤ n)
    (h : hasNumber (r.dropWhile fun q => q.1 ≤ low && q.2 < low) n = true) :
    hasNumber r n = true := by
  induction r with
  | nil => exact h
  | cons q r ih =>
    rw [List.dropWhile_cons] at h
    split_ifs at h with passed
    · rw [Bool.and_eq_true_iff, decide_eq_true_eq] at passed
      exact hasNumber_cons.2 ⟨Nat.le_trans passed.1 above, .inr (ih h)⟩
    · exact h

theorem hasNumber_of_within {r r' : Ranges} (h : within r r' = true) {n : Nat}
    (hn : hasNumber r n = true) : hasNumber r' n = true := by
  induction r generalizing r' with
  | nil => cases hn
  | cons p r ih =>
    rw [within, Bool.and_eq_true_iff, Option.any_eq_true] at h
    obtain ⟨⟨q, first, inside⟩, later⟩ := h
    rw [Bool.and_eq_true_iff, decide_eq_true_eq, decide_eq_true_eq] at inside
    obtain ⟨low, here⟩ := hasNumber_cons.1 hn
    refine hasNumber_of_dropWhile low ?_
    rcases here with here | there
    · obtain ⟨rest, ahead⟩ := List.head?_eq_some_iff.1 first
      rw [ahead]
      exact hasNumber_cons.2 ⟨Nat.le_trans inside.1 low, .inl (Nat.le_trans here inside.2)⟩
    · exact ih later there

end Ranges

namespace Width

/-! ## What is computed of the tables -/

/-- All of the characters take two columns. -/
def double (r : Ranges) : Bool :=
  r.within wide && r.apart zero && !r.hasNumber 0x17D8 && r.apart [(0, 0xA0)]

/-- All of the characters take no column. -/
def undrawn (r : Ranges) : Bool :=
  r.within zero && !r.hasNumber 0x17D8 && r.apart [(0, 0xA0)]

/-- A black flag, and the skin tones. -/
def doubles : Ranges :=
  [(0x1F3F4, 0x1F3F4), (0x1F3FB, 0x1F3FF)]

/-- The joiner, the mark of keycaps, the selectors, and the tags with their end. -/
def marks : Ranges :=
  [(0x200D, 0x200D), (0x20E3, 0x20E3), (0xFE0E, 0xFE0F), (0xE0030, 0xE0039), (0xE0061, 0xE007A),
    (0xE007F, 0xE007F)]

/-- The halves of flags. -/
def flagHalves : Ranges :=
  [(0x1F1E6, 0x1F1FF)]

/-- The letters that may join with one before them. -/
def letters : Ranges :=
  [(0x5DC, 0x5DC), (0x622, 0x623), (0x625, 0x625), (0x627, 0x627), (0x671, 0x673), (0x675, 0x675),
    (0x773, 0x774), (0x870, 0x882), (0x1780, 0x17AF), (0x1A10, 0x1A10), (0x2D31, 0x2D6F),
    (0xA4FC, 0xA4FD), (0x10C03, 0x10C03), (0x16D67, 0x16D68)]

/-- What the rules take for granted of the tables, one after the other: these take two columns,
these take none, these are no marks, these are not wide, and these are no control characters; and
the Tifinagh joining mark, a space and an ellipsis take a column. -/
def requirements : List Bool :=
  [double emoji, double textBySelector, double doubles, undrawn marks, letters.apart zero,
    flagHalves.apart zero, emojiBySelector.apart zero, flagHalves.apart wide,
    emojiBySelector.apart [(0, 0x1F), (0x7F, 0x9F)], inTable (Char.ofNat 0x2D7F) == 1,
    inTable ' ' == 1, inTable '…' == 1]

/-- All of it holds. This is the one place where the tables are gone through. -/
theorem of_mem_requirements : ∀ r ∈ requirements, r = true := by decide +kernel

section

variable {c : Char}

/-! ## Widths of single characters -/

theorem char_eq (h : isControl c = false) : Ruler.char c = some (plainWidth c) :=
  if_neg (by rw [h]; exact Bool.false_ne_true)

theorem not_isControl_of_le (h : 0xA0 ≤ c.toNat) : isControl c = false := by
  simp only [isControl, between, Bool.or_eq_false_iff, Bool.and_eq_false_iff,
    decide_eq_false_iff_not]
  omega

theorem plainWidth_of_char {n : Nat} (h : Ruler.char c = some n) : plainWidth c = n := by
  cases control : isControl c with
  | false => exact Option.some.inj ((char_eq control).symm.trans h)
  | true =>
    rw [show Ruler.char c = none from if_pos control] at h
    cases h

theorem eq_of_toNat {n : Nat} (h : c.toNat = n) : c = Char.ofNat n := by
  rw [← h, Char.ofNat_toNat]

theorem ne_of_has {r : Ranges} {n : Nat} (without : r.hasNumber n = false) (h : r.has c = true) :
    c.toNat ≠ n := by
  rintro rfl
  rw [Ranges.has, without] at h
  cases h

theorem lt_of_has {r : Ranges} (beyond : r.apart [(0, 0xA0)] = true) (h : r.has c = true) :
    0xA0 < c.toNat := by
  refine Nat.lt_of_not_le fun low => ?_
  have := Ranges.hasNumber_of_apart beyond h
  simp [Ranges.hasNumber, low] at this

/-- Beyond the control characters, a character takes what the tables say. -/
theorem char_of_inTable {n : Nat} (above : 0xA0 < c.toNat) (h : inTable c = n) :
    Ruler.char c = some n := by
  rw [char_eq (not_isControl_of_le (Nat.le_of_lt above)), plainWidth,
    if_neg (Nat.not_le.2 above), h]

theorem one_le_inTable (h : zero.has c = false) : 1 ≤ inTable c := by
  rw [inTable, h]
  split_ifs <;> simp_all

/-- A character that is no mark takes a column at least, unless it is a control character. -/
theorem one_le_plainWidth (h : zero.has c = false) : 1 ≤ plainWidth c := by
  rw [plainWidth]
  split_ifs
  · exact Nat.le_refl 1
  · exact one_le_inTable h

theorem char_of_wide {r : Ranges} (h : r.has c = true) (among : double r = true) :
    Ruler.char c = some 2 := by
  simp only [double, Bool.and_eq_true, Bool.not_eq_true'] at among
  obtain ⟨⟨⟨isWide, notZero⟩, without⟩, beyond⟩ := among
  have double : wide.has c = true := Ranges.hasNumber_of_within isWide h
  have noMark : zero.has c = false := Ranges.hasNumber_of_apart notZero h
  refine char_of_inTable (lt_of_has beyond h) ?_
  rw [inTable, if_neg (ne_of_has without h), noMark, double]
  rfl

theorem char_of_mark {r : Ranges} (h : r.has c = true) (among : undrawn r = true) :
    Ruler.char c = some 0 := by
  simp only [undrawn, Bool.and_eq_true, Bool.not_eq_true'] at among
  obtain ⟨⟨isZero, without⟩, beyond⟩ := among
  have mark : zero.has c = true := Ranges.hasNumber_of_within isZero h
  refine char_of_inTable (lt_of_has beyond h) ?_
  rw [inTable, if_neg (ne_of_has without h), if_pos mark]

theorem char_of_printable (h : Printable c) : Ruler.char c = some 1 := by
  rw [char_eq (not_isControl_of_printable h), plainWidth,
    if_pos (Nat.le_trans (Nat.le_of_lt h.2) (by decide))]

/-! ## Characters that the rules name -/

theorem char_of_emoji (h : emoji.has c = true) : Ruler.char c = some 2 :=
  char_of_wide h (of_mem_requirements _ (by simp [requirements]))

theorem char_of_textBySelector (h : textBySelector.has c = true) : Ruler.char c = some 2 :=
  char_of_wide h (of_mem_requirements _ (by simp [requirements]))

theorem char_of_doubles (h : doubles.has c = true) : Ruler.char c = some 2 :=
  char_of_wide h (of_mem_requirements _ (by simp [requirements]))

theorem char_of_isSkinTone (h : isSkinTone c = true) : Ruler.char c = some 2 := by
  refine char_of_doubles (Ranges.hasNumber_cons.2 ?_)
  simp only [isSkinTone, between, Bool.and_eq_true, decide_eq_true_eq] at h
  simp only [Ranges.hasNumber_cons]
  omega

theorem char_of_marks (h : marks.has c = true) : Ruler.char c = some 0 :=
  char_of_mark h (of_mem_requirements _ (by simp [requirements]))

/-- One of them, by its number. -/
theorem char_of_toNat {n : Nat} (h : c.toNat = n) (among : marks.hasNumber n = true) :
    Ruler.char c = some 0 :=
  char_of_marks (by rw [Ranges.has, h, among])

theorem char_of_isJoiner (h : isJoiner c = true) : Ruler.char c = some 0 :=
  char_of_toNat (beq_iff_eq.1 h) rfl

theorem char_of_isTag (h : isTag c = true) : Ruler.char c = some 0 := by
  refine char_of_marks ?_
  simp only [isTag, between, Bool.or_eq_true, Bool.and_eq_true, decide_eq_true_eq] at h
  simp only [marks, Ranges.has, Ranges.hasNumber_cons]
  omega

theorem char_of_isFlagHalf (h : isFlagHalf c = true) : Ruler.char c = some 1 := by
  have half : flagHalves.has c = true := by
    rw [isFlagHalf, between, Bool.and_eq_true_iff, decide_eq_true_eq, decide_eq_true_eq] at h
    exact Ranges.hasNumber_cons.2 (h.imp_right .inl)
  have visible : zero.has c = false :=
    Ranges.hasNumber_of_apart (of_mem_requirements _ (by simp [requirements])) half
  have narrow : wide.has c = false :=
    Ranges.hasNumber_of_apart (of_mem_requirements _ (by simp [requirements])) half
  refine char_of_inTable (lt_of_has rfl half) ?_
  rw [inTable, if_neg (ne_of_has rfl half), visible, narrow]
  rfl

/-- A character that may be a picture takes a column at least. -/
theorem char_of_mayBePicture (h : mayBePicture c = true) : ∃ n, Ruler.char c = some (n + 1) := by
  rcases Bool.or_eq_true_iff.1 h with selected | picture
  · have drawn : isControl c = false := by
      have apart : Ranges.hasNumber [(0, 0x1F), (0x7F, 0x9F)] c.toNat = false :=
        Ranges.hasNumber_of_apart (of_mem_requirements _ (by simp [requirements])) selected
      simp [Ranges.hasNumber] at apart
      simp [isControl, between]
      omega
    have visible : zero.has c = false :=
      Ranges.hasNumber_of_apart (of_mem_requirements _ (by simp [requirements])) selected
    have := one_le_plainWidth visible
    exact ⟨plainWidth c - 1, by rw [char_eq drawn, Nat.sub_add_cancel this]⟩
  · exact ⟨1, char_of_emoji picture⟩

theorem char_tifinaghJoiner : Ruler.char (Char.ofNat 0x2D7F) = some 1 :=
  char_of_inTable (by decide) (beq_iff_eq.1 (of_mem_requirements _ (by simp [requirements])))

/-! ## Letters -/

theorem zero_has_of_letters (h : letters.has c = true) : zero.has c = false :=
  Ranges.hasNumber_of_apart (of_mem_requirements _ (by simp [requirements])) h

theorem lt_of_letters (h : letters.has c = true) : 0xA0 < c.toNat :=
  lt_of_has rfl h

theorem letters_has_of_isAlef (h : isAlef c = true) : letters.has c = true := by
  simp only [isAlef, between, Bool.or_eq_true, Bool.and_eq_true, decide_eq_true_eq, beq_iff_eq] at h
  simp only [letters, Ranges.has, Ranges.hasNumber_cons]
  omega

theorem letters_has_of_isKhmerLetter (h : isKhmerLetter c = true) : letters.has c = true := by
  simp only [isKhmerLetter, between, Bool.or_eq_true, Bool.and_eq_true, decide_eq_true_eq,
    beq_iff_eq] at h
  simp only [letters, Ranges.has, Ranges.hasNumber_cons]
  omega

theorem letters_has_of_isTifinagh (h : isTifinagh c = true) : letters.has c = true := by
  simp only [isTifinagh, between, Bool.or_eq_true, Bool.and_eq_true, decide_eq_true_eq,
    beq_iff_eq] at h
  simp only [letters, Ranges.has, Ranges.hasNumber_cons]
  omega

/-! ## Characters that join with nothing -/

theorem inTable_apart (h : c = ' ' ∨ c = '…') : inTable c = 1 := by
  rcases h with rfl | rfl <;>
    exact beq_iff_eq.1 (of_mem_requirements _ (by simp [requirements]))

theorem zero_has_apart (h : c = ' ' ∨ c = '…') : zero.has c = false := by
  refine Bool.eq_false_iff.2 fun mark => ?_
  have one := inTable_apart h
  rw [inTable, if_pos mark] at one
  split_ifs at one
  cases one

theorem special?_apart (h : c = ' ' ∨ c = '…') (f : Following) : special? c f = none := by
  have before (l : Letter) (joined : Bool) : beforeLetter? l joined c = none := by
    cases l with
    | alef =>
      have drawn : isTransparent c = false := by rw [isTransparent, zero_has_apart h]; rfl
      have noMark : isUndrawnMark c = false := by rcases h with rfl | rfl <;> rfl
      have noLam : isLam c = false := by rcases h with rfl | rfl <;> rfl
      rcases h with rfl | rfl <;> simp [beforeLetter?, Letter.join?, noLam, noMark, drawn]
    | _ => rcases h with rfl | rfl <;> cases joined <;> rfl
  have apart (x : Selector) : selected? x c = none := by
    rcases h with rfl | rfl <;> cases x <;> rfl
  cases f with
  | selector x => exact apart x
  | letter l joined selector =>
    cases selector with
    | none => exact before l joined
    | some x => simp [special?, before, apart]
  | joinedTags count =>
    have noTag : isTag c = false := by rcases h with rfl | rfl <;> rfl
    rcases h with rfl | rfl <;> simp [special?, noTag]
  | _ => rcases h with rfl | rfl <;> rfl

theorem step_apart (h : c = ' ' ∨ c = '…') (f : Following) : Width.step c f = (1, .other) := by
  have single : plainWidth c = 1 := by rw [plainWidth, inTable_apart h, ite_self]
  have other : asFollowing c = .other := by rcases h with rfl | rfl <;> rfl
  rw [Width.step, special?_apart h, Option.getD_none, single, other]
  rfl

end

end Width
end NoteDesk.Text
