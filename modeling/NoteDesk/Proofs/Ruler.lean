import NoteDesk.Text.Ruler

/-!
# What is known of a ruler

A text is measured in pieces. Most of them are single characters, which take what they take on their
own; a control character takes a column. Then there are pictures, which take two columns whatever
belongs to them, and letters that join, which are no wider than they are one by one.

* `Text.Piece` are the pieces, and `Text.Divides` divides a text into them.
* `Text.Ruler.Documented` is what is known of a ruler: every text divides into pieces, spaces and
  ellipses are pieces by themselves, and ASCII characters take a column.
* `Text.Piece.le`: a piece is wider than its characters together by at most the number of those that
  widen (`Text.widens`). `Text.Ruler.Documented.width_le` says the same of a text.
* `Text.Ruler.Documented.width_of_printable`, `Text.Ruler.Documented.width_append_spaces` and the
  like: widths that are known exactly.
-/

namespace NoteDesk.Text

/-! ## Characters -/

/-- The character counts for more in a text than on its own: a control character, or the selector
for pictures. -/
def widens (c : Char) : Bool :=
  isControl c || c.toNat == 0xFE0F

/-- A character of ASCII that is no control character. -/
def Printable (c : Char) : Prop :=
  0x20 ≤ c.toNat ∧ c.toNat < 0x7F

theorem not_isControl_of_printable {c : Char} (h : Printable c) : isControl c = false := by
  rw [Printable] at h
  simp only [isControl, between, Bool.or_eq_false_iff, Bool.and_eq_false_iff,
    decide_eq_false_iff_not]
  omega

theorem printable_of_isDigit {c : Char} (h : c.isDigit = true) : Printable c := by
  have := Char.isDigit_iff_toNat.1 h
  have : '0'.toNat = 0x30 ∧ '9'.toNat = 0x39 := ⟨rfl, rfl⟩
  rw [Printable]
  omega

theorem printable_of_mem_spaces {count : Nat} {c : Char} (h : c ∈ List.replicate count ' ') :
    Printable c := by
  rw [List.eq_of_mem_replicate h]
  exact ⟨by decide, by decide⟩

section

variable [Ruler]

theorem charWidth_of_char {c : Char} {n : Nat} (h : Ruler.char c = some n) : charWidth c = n := by
  rw [charWidth, h, Option.getD_some]

/-- The widths of the characters of a text together. -/
def ownWidth : List Char → Nat
  | [] => 0
  | c :: s => charWidth c + ownWidth s

theorem ownWidth_append (s t : List Char) : ownWidth (s ++ t) = ownWidth s + ownWidth t := by
  induction s with
  | nil => exact (Nat.zero_add _).symm
  | cons c s ih => rw [List.cons_append, ownWidth, ownWidth, ih, Nat.add_assoc]

/-! ## Pieces -/

/-- What a picture begins with. -/
inductive Opening : List Char → Prop
  /-- A character that takes two columns. -/
  | wide {c : Char} (h : Ruler.char c = some 2) : Opening [c]
  /-- A character with the selector for pictures. -/
  | selected {c : Char} {n : Nat} (h : Ruler.char c = some (n + 1)) : Opening [c, '\uFE0F']
  /-- A character with a skin tone. -/
  | toned {c tone : Char} (h : Ruler.char tone = some 2) : Opening [c, tone]
  /-- The halves of a flag. -/
  | flag {a b : Char} (first : isFlagHalf a = true) (ha : Ruler.char a = some 1)
      (second : isFlagHalf b = true) (hb : Ruler.char b = some 1) : Opening [a, b]

/-- A piece of a text, and the columns that it takes there. -/
inductive Piece : List Char → Nat → Prop
  /-- A character takes what it takes on its own. -/
  | alone {c : Char} {n : Nat} (h : Ruler.char c = some n) : Piece [c] n
  /-- A control character takes a column. -/
  | control {c : Char} (h : Ruler.char c = none) : Piece [c] 1
  /-- So does the end of a line, though it is two characters. -/
  | lineEnd : Piece ['\r', '\n'] 1
  /-- A picture takes two columns. What belongs to it after its beginning does not matter: other
  pictures joined to it, marks and tags. -/
  | picture {p s : List Char} (opens : Opening p) : Piece (p ++ s) 2
  /-- Characters that join, letters of some scripts or a character and the selector for text, are no
  wider than they are one by one. There are none in ASCII that do. -/
  | joined {s : List Char} {n : Nat} (beyond : ∃ c ∈ s, 0x80 ≤ c.toNat)
      (narrow : n ≤ ownWidth s) : Piece s n

/-- Divides a text into pieces, and says what they take together. -/
inductive Divides : List Char → Nat → Prop
  | nil : Divides [] 0
  | cons {p s : List Char} {n k : Nat} (piece : Piece p n) (rest : Divides s k) :
      Divides (p ++ s) (n + k)

/-- What is known of a ruler. -/
structure Ruler.Documented : Prop where
  /-- Control characters, and no others, have no width on their own. -/
  control (c : Char) : Ruler.char c = none ↔ isControl c = true
  /-- All other characters of ASCII take a column. -/
  printable {c : Char} (h : Printable c) : Ruler.char c = some 1
  /-- A space and an ellipsis take a column, and belong to no larger piece. -/
  apart {c : Char} (h : c = ' ' ∨ c = '…') (s t : List Char) :
    Ruler.text (s ++ c :: t) = Ruler.text s + 1 + Ruler.text t
  /-- A text takes what the pieces take that it divides into. -/
  divides (s : List Char) : Divides s (Ruler.text s)

theorem Opening.le {p : List Char} (h : Opening p) : 2 ≤ ownWidth p + p.countP widens := by
  cases h with
  | wide h =>
    rw [ownWidth, charWidth_of_char h]
    omega
  | @selected c n h =>
    have counts : widens '\uFE0F' = true := by decide
    rw [ownWidth, charWidth_of_char h, List.countP_cons, List.countP_cons, counts, if_pos rfl]
    omega
  | toned h =>
    rw [ownWidth, ownWidth, charWidth_of_char h]
    omega
  | flag _ ha _ hb =>
    rw [ownWidth, ownWidth, charWidth_of_char ha, charWidth_of_char hb]
    omega

end

/-! ## Texts -/

namespace Ruler.Documented

variable [Ruler] (known : Documented) {p s : List Char} {n : Nat}
include known

theorem not_printable {c : Char} (wide : Ruler.char c = some 2) : ¬Printable c := by
  intro printable
  rw [known.printable printable] at wide
  cases wide

/-- **A piece is wider than its characters together by at most one column for each that widens.** -/
theorem piece_le (h : Piece p n) : n ≤ ownWidth p + p.countP widens := by
  cases h with
  | alone h =>
    rw [ownWidth, charWidth_of_char h]
    omega
  | @control c h =>
    have counts : widens c = true := by rw [widens, (known.control c).1 h, Bool.true_or]
    rw [List.countP_cons, counts, if_pos rfl]
    omega
  | lineEnd =>
    have counts : widens '\r' = true := by decide
    rw [List.countP_cons, counts, if_pos rfl]
    omega
  | picture opens =>
    have := opens.le
    rw [ownWidth_append, List.countP_append]
    omega
  | joined beyond narrow => omega

theorem divides_le (h : Divides s n) : n ≤ ownWidth s + s.countP widens := by
  induction h with
  | nil => exact Nat.zero_le _
  | cons piece rest ih =>
    have := known.piece_le piece
    rw [ownWidth_append, List.countP_append]
    omega

/-- **A text is wider than its characters together by at most one column for each that widens.** -/
theorem width_le (s : List Char) : width s ≤ ownWidth s + s.countP widens :=
  known.divides_le (known.divides s)

/-- Printable characters are pieces by themselves. -/
theorem piece_of_printable (h : Piece p n) (printable : ∀ c ∈ p, Printable c) : n = p.length := by
  cases h with
  | @alone c _ h =>
    rw [known.printable (printable c List.mem_cons_self)] at h
    exact (Option.some.inj h).symm
  | @control c h =>
    rw [known.printable (printable c List.mem_cons_self)] at h
    cases h
  | lineEnd => exact absurd (printable '\r' List.mem_cons_self) (by unfold Printable; decide)
  | @picture p s opens =>
    have printable (c : Char) (mem : c ∈ p) : Printable c :=
      printable c (List.mem_append_left s mem)
    cases opens with
    | wide h =>
      exact absurd (printable _ List.mem_cons_self) (known.not_printable h)
    | selected h =>
      exact absurd (printable '\uFE0F' (List.mem_cons_of_mem _ List.mem_cons_self))
        (by unfold Printable; decide)
    | toned h =>
      exact absurd (printable _ (List.mem_cons_of_mem _ List.mem_cons_self))
        (known.not_printable h)
    | @flag a b first =>
      have low := (printable a List.mem_cons_self).2
      rw [isFlagHalf, between, Bool.and_eq_true_iff, decide_eq_true_eq] at first
      omega
  | joined beyond =>
    obtain ⟨c, mem, high⟩ := beyond
    have := (printable c mem).2
    omega

theorem divides_of_printable (h : Divides s n) (printable : ∀ c ∈ s, Printable c) :
    n = s.length := by
  induction h with
  | nil => rfl
  | cons piece rest ih =>
    rw [List.forall_mem_append] at printable
    rw [known.piece_of_printable piece printable.1, ih printable.2, List.length_append]

/-- **A printable text is as wide as it is long.** -/
theorem width_of_printable (printable : ∀ c ∈ s, Printable c) : width s = s.length :=
  known.divides_of_printable (known.divides s) printable

theorem width_nil : width [] = 0 :=
  known.width_of_printable (s := []) (by simp)

theorem width_append_space (s t : List Char) : width (s ++ ' ' :: t) = width s + 1 + width t :=
  known.apart (.inl rfl) s t

theorem width_concat_ellipsis (s : List Char) : width (s ++ ['…']) = width s + 1 := by
  rw [width, known.apart (.inr rfl)]
  exact congrArg (width s + 1 + ·) known.width_nil

/-- **Spaces after a text add up.** -/
theorem width_append_spaces (s : List Char) (count : Nat) :
    width (s ++ List.replicate count ' ') = width s + count := by
  cases count with
  | zero => rw [List.replicate_zero, List.append_nil, Nat.add_zero]
  | succ count =>
    rw [List.replicate_succ, known.width_append_space,
      known.width_of_printable fun _ => printable_of_mem_spaces, List.length_replicate,
      Nat.add_assoc, Nat.add_comm 1]

end Ruler.Documented
end NoteDesk.Text
