import Mathlib.Data.List.Basic
import Mathlib.Data.List.Induction
import Mathlib.Tactic.SplitIfs
import NoteDesk.Text.Line

/-!
# Bytes and lines of a text

What is written as bytes is read back, as a whole and line by line.

* `Utf8.decode?_encode`: the bytes of a text decode to it.
* `Utf8.splitOn_encode`: a character of one byte has its byte in no other character, so bytes are
  cut where the text is.
* `Line.ofBytes_encode`: the lines of a text are those of its bytes.
-/

namespace NoteDesk

namespace Utf8

theorem toNat_ofNat {n : Nat} (h : n < 0x100) : (UInt8.ofNat n).toNat = n :=
  UInt8.toNat_ofNat_of_lt' h

/-! ## The forms of a character -/

theorem scalar?_toNat {least : Nat} (c : Char) (h : least ≤ c.toNat) :
    scalar? least c.toNat = some c := by
  have hv : c.toNat.isValidChar := c.valid
  have ofNat_eq : Char.ofNatAux c.toNat hv = Char.ofNat c.toNat := by rw [Char.ofNat, dif_pos hv]
  rw [scalar?, dif_pos ⟨h, hv⟩, ofNat_eq, Char.ofNat_toNat]

theorem payload?_ofNat {n : Nat} (h : n < 0x40) : payload? (UInt8.ofNat (n + 0x80)) = some n := by
  have e := toNat_ofNat (n := n + 0x80) (by omega)
  have inRange : 0x80 ≤ UInt8.ofNat (n + 0x80) ∧ UInt8.ofNat (n + 0x80) < 0xC0 := by
    rw [UInt8.le_iff_toNat_le, UInt8.lt_iff_toNat_lt, e]
    exact ⟨Nat.le_add_left _ _, Nat.add_lt_add_right h _⟩
  rw [payload?, if_pos inRange, e, Nat.add_sub_cancel]

section Forms

variable {a b c d : UInt8} {s : Bytes}

theorem decode?_one (h : a.toNat < 0x80) :
    decode? (a :: s) = (scalar? 0 a.toNat).bind fun x => (decode? s).map (x :: ·) := by
  have h' : a < 0x80 := h
  rw [decode?.eq_def]
  simp only [if_pos h']
  cases scalar? 0 a.toNat <;> cases decode? s <;> rfl

theorem decode?_two (h : 0xC0 ≤ a.toNat) (h' : a.toNat < 0xE0) :
    decode? (a :: b :: s) = (two? a b).bind fun x => (decode? s).map (x :: ·) := by
  have not_lt {k : UInt8} (hk : k.toNat ≤ 0xC0) : ¬ a < k := fun l =>
    absurd (UInt8.lt_iff_toNat_lt.1 l) (by omega)
  have lt : a < 0xE0 := h'
  rw [decode?.eq_def]
  simp only [if_neg (not_lt (k := 0x80) (by decide)), if_neg (not_lt (k := 0xC0) (by decide)),
    if_pos lt]
  cases two? a b <;> cases decode? s <;> rfl

theorem decode?_three (h : 0xE0 ≤ a.toNat) (h' : a.toNat < 0xF0) :
    decode? (a :: b :: c :: s) = (three? a b c).bind fun x => (decode? s).map (x :: ·) := by
  have not_lt {k : UInt8} (hk : k.toNat ≤ 0xE0) : ¬ a < k := fun l =>
    absurd (UInt8.lt_iff_toNat_lt.1 l) (by omega)
  have lt : a < 0xF0 := h'
  rw [decode?.eq_def]
  simp only [if_neg (not_lt (k := 0x80) (by decide)), if_neg (not_lt (k := 0xC0) (by decide)),
    if_neg (not_lt (k := 0xE0) (by decide)), if_pos lt]
  cases three? a b c <;> cases decode? s <;> rfl

theorem decode?_four (h : 0xF0 ≤ a.toNat) :
    decode? (a :: b :: c :: d :: s) = (four? a b c d).bind fun x => (decode? s).map (x :: ·) := by
  have not_lt {k : UInt8} (hk : k.toNat ≤ 0xF0) : ¬ a < k := fun l =>
    absurd (UInt8.lt_iff_toNat_lt.1 l) (by omega)
  rw [decode?.eq_def]
  simp only [if_neg (not_lt (k := 0x80) (by decide)), if_neg (not_lt (k := 0xC0) (by decide)),
    if_neg (not_lt (k := 0xE0) (by decide)), if_neg (not_lt (k := 0xF0) (by decide))]
  cases four? a b c d <;> cases decode? s <;> rfl

end Forms

section Encoded

variable {n : Nat}

theorem two?_encoded (h : n < 0x800) :
    two? (.ofNat (n / 64 % 0x20 + 0xC0)) (.ofNat (n % 0x40 + 0x80)) = scalar? 0x80 n := by
  rw [two?, toNat_ofNat (by omega), payload?_ofNat (by omega)]
  exact congrArg (scalar? 0x80) (by omega)

theorem three?_encoded (h : n < 0x10000) :
    three? (.ofNat (n / 4096 % 0x10 + 0xE0)) (.ofNat (n / 64 % 0x40 + 0x80))
      (.ofNat (n % 0x40 + 0x80)) = scalar? 0x800 n := by
  rw [three?, toNat_ofNat (by omega), payload?_ofNat (by omega), payload?_ofNat (by omega)]
  exact congrArg (scalar? 0x800) (by omega)

theorem four?_encoded (h : n < 0x110000) :
    four? (.ofNat (n / 262144 % 0x08 + 0xF0)) (.ofNat (n / 4096 % 0x40 + 0x80))
      (.ofNat (n / 64 % 0x40 + 0x80)) (.ofNat (n % 0x40 + 0x80)) = scalar? 0x10000 n := by
  rw [four?, toNat_ofNat (by omega), payload?_ofNat (by omega), payload?_ofNat (by omega),
    payload?_ofNat (by omega)]
  exact congrArg (scalar? 0x10000) (by omega)

end Encoded

theorem toNat_lt (x : Char) : x.toNat < 0x110000 := by
  have h := x.valid
  simp only [UInt32.isValidChar, Nat.isValidChar, Char.toNat_val] at h
  omega

/-! ## Reading back -/

theorem encode_cons (x : Char) (s : List Char) :
    encode (x :: s) = String.utf8EncodeChar x ++ encode s :=
  List.flatMap_cons

theorem encode_singleton (x : Char) : encode [x] = String.utf8EncodeChar x :=
  List.flatMap_singleton _ _

theorem encode_eq_nil_iff {s : List Char} : encode s = [] ↔ s = [] := by
  cases s with
  | nil => simp [encode]
  | cons x s => simp [encode_cons, String.utf8EncodeChar_ne_nil]

theorem decode?_encodeChar_append (x : Char) (s : Bytes) :
    decode? (String.utf8EncodeChar x ++ s) = (decode? s).map (x :: ·) := by
  have bound := toNat_lt x
  simp only [String.utf8EncodeChar, Char.toNat_val]
  split_ifs with h1 h2 h3
  · have e := toNat_ofNat (n := x.toNat) (by omega)
    rw [List.singleton_append, decode?_one (by omega), e, scalar?_toNat x (by omega),
      Option.bind_some]
  · have e := toNat_ofNat (n := x.toNat / 64 % 0x20 + 0xC0) (by omega)
    simp only [List.cons_append, List.nil_append]
    rw [decode?_two (by omega) (by omega), two?_encoded (by omega), scalar?_toNat x (by omega),
      Option.bind_some]
  · have e := toNat_ofNat (n := x.toNat / 4096 % 0x10 + 0xE0) (by omega)
    simp only [List.cons_append, List.nil_append]
    rw [decode?_three (by omega) (by omega), three?_encoded (by omega),
      scalar?_toNat x (by omega), Option.bind_some]
  · have e := toNat_ofNat (n := x.toNat / 262144 % 0x08 + 0xF0) (by omega)
    simp only [List.cons_append, List.nil_append]
    rw [decode?_four (by omega), four?_encoded bound, scalar?_toNat x (by omega),
      Option.bind_some]

/-- **The bytes of a text decode to it.** -/
theorem decode?_encode (s : List Char) : decode? (encode s) = some s := by
  induction s with
  | nil => rfl
  | cons x s ih => rw [encode_cons, decode?_encodeChar_append, ih, Option.map_some]

theorem encode_inj {s t : List Char} : encode s = encode t ↔ s = t := by
  refine ⟨fun h => ?_, congrArg encode⟩
  have decoded := decode?_encode s
  rw [h, decode?_encode] at decoded
  exact (Option.some.inj decoded).symm

/-! ## Characters of one byte -/

/-- A character is one byte below `0x80`, or bytes from there on. -/
theorem encodeChar_cases (x : Char) :
    (x.toNat < 0x80 ∧ String.utf8EncodeChar x = [.ofNat x.toNat]) ∨
      (0x80 ≤ x.toNat ∧ ∀ b ∈ String.utf8EncodeChar x, 0x80 ≤ b.toNat) := by
  have bound := toNat_lt x
  have high {n : Nat} (h : 0x80 ≤ n) (h' : n < 0x100) : 0x80 ≤ (UInt8.ofNat n).toNat := by
    rwa [toNat_ofNat h']
  simp only [String.utf8EncodeChar, Char.toNat_val]
  split_ifs with h1 h2 h3
  · exact .inl ⟨by omega, rfl⟩
  all_goals
    refine .inr ⟨by omega, ?_⟩
    simp only [List.forall_mem_cons, List.not_mem_nil, false_implies, implies_true, and_true]
  · exact ⟨high (by omega) (by omega), high (by omega) (by omega)⟩
  · exact ⟨high (by omega) (by omega), high (by omega) (by omega), high (by omega) (by omega)⟩
  · exact ⟨high (by omega) (by omega), high (by omega) (by omega), high (by omega) (by omega),
      high (by omega) (by omega)⟩

variable {y : Char} (low : y.toNat < 0x80)
include low

theorem encodeChar_of_lt : String.utf8EncodeChar y = [.ofNat y.toNat] := by
  rcases encodeChar_cases y with ⟨-, h⟩ | ⟨high, -⟩
  · exact h
  · omega

theorem ofNat_notMem_encodeChar {x : Char} (h : x ≠ y) :
    UInt8.ofNat y.toNat ∉ String.utf8EncodeChar x := by
  have e := toNat_ofNat (n := y.toNat) (by omega)
  intro hy
  rcases encodeChar_cases x with ⟨lx, hx⟩ | ⟨-, hx⟩
  · have ex := toNat_ofNat (n := x.toNat) (by omega)
    rw [hx, List.mem_singleton, ← UInt8.toNat_inj, e, ex, Char.toNat_inj] at hy
    exact h hy.symm
  · have := hx _ hy
    omega

omit low in
theorem splitOn_append_of_notMem {α : Type} [BEq α] [LawfulBEq α] {a : α} {l : List α}
    (h : a ∉ l) (r : List α) : (l ++ r).splitOn a = (r.splitOn a).modifyHead (l ++ ·) := by
  induction l with
  | nil =>
    rw [List.nil_append]
    cases r.splitOn a <;> rfl
  | cons x l ih =>
    have hx : (x == a) = false := beq_false_of_ne fun e => h (e ▸ List.mem_cons_self)
    rw [List.cons_append, List.splitOn_cons_eq_if_modifyHead, hx,
      ih fun m => h (List.mem_cons_of_mem _ m)]
    cases r.splitOn a <;> rfl

theorem splitOn_encode (s : List Char) :
    (encode s).splitOn (.ofNat y.toNat) = (s.splitOn y).map encode := by
  induction s with
  | nil => rfl
  | cons x s ih =>
    rw [encode_cons, List.splitOn_cons_eq_if_modifyHead]
    by_cases hx : x = y
    · subst hx
      rw [encodeChar_of_lt low, List.singleton_append, List.splitOn_cons_eq_if_modifyHead, ih]
      simp [encode]
    · rw [splitOn_append_of_notMem (ofNat_notMem_encodeChar low hx), ih, beq_false_of_ne hx]
      cases s.splitOn y <;> rfl

end Utf8

/-! ## Lines -/

namespace Line

open Utf8

section Ends

variable {α : Type} [BEq α] [LawfulBEq α]

theorem dropOneEnd_concat_self (x : α) (s : List α) : dropOneEnd x (s ++ [x]) = s := by
  simp [dropOneEnd]

theorem dropOneEnd_of_getLast?_ne {x : α} {s : List α} (h : s.getLast? ≠ some x) :
    dropOneEnd x s = s := by
  simp [dropOneEnd, h]

theorem dropOneEnd_append_of_notMem {x : α} {s t : List α} (ht : t ≠ []) (h : x ∉ t) :
    dropOneEnd x (s ++ t) = s ++ t := by
  apply dropOneEnd_of_getLast?_ne
  rw [List.getLast?_append_of_ne_nil _ ht]
  exact fun e => h (List.mem_of_getLast? e)

end Ends

variable {y : Char} (low : y.toNat < 0x80)
include low

theorem dropOneEnd_encode (s : List Char) :
    dropOneEnd (.ofNat y.toNat) (encode s) = encode (dropOneEnd y s) := by
  induction s using List.reverseRecOn with
  | nil => rfl
  | append_singleton s x =>
    rw [encode_append, encode_singleton]
    by_cases hx : x = y
    · subst hx
      rw [encodeChar_of_lt low, dropOneEnd_concat_self, dropOneEnd_concat_self]
    · rw [dropOneEnd_append_of_notMem String.utf8EncodeChar_ne_nil
          (ofNat_notMem_encodeChar low hx),
        dropOneEnd_append_of_notMem (List.cons_ne_nil _ _) (by simpa using Ne.symm hx),
        encode_append, encode_singleton]

theorem ended_encode (pieces : List (List Char)) :
    ended (.ofNat y.toNat) (pieces.map encode) = (ended y pieces).map encode := by
  induction pieces with
  | nil => rfl
  | cons piece rest ih =>
    cases rest with
    | nil => by_cases h : piece = [] <;> simp [ended, h, encode_eq_nil_iff]
    | cons next rest =>
      simp only [List.map_cons, ended] at ih ⊢
      rw [ih, dropOneEnd_encode low]

omit low in
/-- **The lines of a text are those of its bytes.** -/
theorem ofBytes_encode (s : List Char) : ofBytes (encode s) = ofText s := by
  have pieces := splitOn_encode (y := '\n') (by decide) s
  have lines := ended_encode (y := '\r') (by decide) (s.splitOn '\n')
  rw [ofBytes, cut]
  change List.map _ (ended (.ofNat '\r'.toNat) ((encode s).splitOn (.ofNat '\n'.toNat))) = _
  rw [pieces, lines, List.map_map, ofText, cut]
  exact List.map_congr_left fun line _ => decode?_encode line

end Line
end NoteDesk
