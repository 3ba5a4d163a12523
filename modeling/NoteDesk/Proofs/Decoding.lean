import NoteDesk.Proofs.Document

/-!
# What can be decoded

Bytes are decoded line by line. The bytes of a document are UTF-8 as a whole exactly if each of its
lines is.

* `Utf8.Valid` are the bytes that are UTF-8, by the library's own account of it.
  `Utf8.isSome_decode?_iff`: just these are decoded.
* `Line.induct` takes a list apart at the ends of its lines, and `Line.cut_append_cons` and
  `Line.cut_append` are its lines.
* `Line.SpoiltAt` says where a document has its first line that is not UTF-8, and
  `Line.exists_spoiltAt` that every document which is not UTF-8 has one.
-/

namespace NoteDesk

/-! ## Lines of a list -/

/-- Induction on the lines of a list: the last, which no `feed` ends, and a line before others. -/
@[elab_as_elim]
theorem Line.induct {α : Type} (feed : α) {motive : List α → Prop}
    (last : ∀ line, feed ∉ line → motive line)
    (more : ∀ line rest, feed ∉ line → motive rest → motive (line ++ feed :: rest))
    (s : List α) : motive s := by
  by_cases mem : feed ∈ s
  · obtain ⟨line, rest, parts, absent⟩ := List.eq_append_cons_of_mem mem
    have shorter : rest.length < s.length := by
      rw [parts, List.length_append, List.length_cons]
      omega
    exact parts ▸ more line rest absent (Line.induct feed last more rest)
  · exact last s mem
termination_by s.length

namespace Utf8

/-! ## Forms of a character -/

variable {a b c d : UInt8} {x : Char}

theorem ofNat_eq {n : Nat} (h : n = b.toNat) : UInt8.ofNat n = b := by
  rw [h, UInt8.ofNat_toNat]

theorem scalar?_eq_some {least n : Nat} (h : scalar? least n = some x) :
    x.toNat = n ∧ least ≤ n := by
  obtain ⟨valid, hx⟩ := Option.dite_none_right_eq_some.1 h
  obtain rfl := Option.some.inj hx
  exact ⟨rfl, valid.1⟩

theorem payload?_eq_some {n : Nat} (h : payload? b = some n) :
    n < 0x40 ∧ b.toNat = n + 0x80 := by
  rw [payload?] at h
  split_ifs at h with range
  obtain rfl := Option.some.inj h
  have low : 0x80 ≤ b.toNat := UInt8.le_iff_toNat_le.1 range.1
  have high : b.toNat < 0xC0 := UInt8.lt_iff_toNat_lt.1 range.2
  omega

theorem encodeChar_of_one (h : scalar? 0 a.toNat = some x) (low : a.toNat < 0x80) :
    String.utf8EncodeChar x = [a] := by
  obtain ⟨number, -⟩ := scalar?_eq_some h
  rw [encodeChar_of_lt (by omega), ofNat_eq number]

theorem encodeChar_of_two (h : two? a b = some x) (low : 0xC0 ≤ a.toNat) (high : a.toNat < 0xE0) :
    String.utf8EncodeChar x = [a, b] := by
  obtain ⟨p, hp, hx⟩ := Option.bind_eq_some_iff.1 h
  obtain ⟨hp, hb⟩ := payload?_eq_some hp
  obtain ⟨number, least⟩ := scalar?_eq_some hx
  simp only [String.utf8EncodeChar, Char.toNat_val]
  rw [if_neg (by omega), if_pos (by omega), ofNat_eq (b := a) (by omega),
    ofNat_eq (b := b) (by omega)]

theorem encodeChar_of_three (h : three? a b c = some x) (low : 0xE0 ≤ a.toNat)
    (high : a.toNat < 0xF0) : String.utf8EncodeChar x = [a, b, c] := by
  obtain ⟨p, hp, h⟩ := Option.bind_eq_some_iff.1 h
  obtain ⟨q, hq, hx⟩ := Option.bind_eq_some_iff.1 h
  obtain ⟨hp, hb⟩ := payload?_eq_some hp
  obtain ⟨hq, hc⟩ := payload?_eq_some hq
  obtain ⟨number, least⟩ := scalar?_eq_some hx
  simp only [String.utf8EncodeChar, Char.toNat_val]
  rw [if_neg (by omega), if_neg (by omega), if_pos (by omega), ofNat_eq (b := a) (by omega),
    ofNat_eq (b := b) (by omega), ofNat_eq (b := c) (by omega)]

theorem encodeChar_of_four (h : four? a b c d = some x) (low : 0xF0 ≤ a.toNat) :
    String.utf8EncodeChar x = [a, b, c, d] := by
  obtain ⟨p, hp, h⟩ := Option.bind_eq_some_iff.1 h
  obtain ⟨q, hq, h⟩ := Option.bind_eq_some_iff.1 h
  obtain ⟨r, hr, hx⟩ := Option.bind_eq_some_iff.1 h
  obtain ⟨hp, hb⟩ := payload?_eq_some hp
  obtain ⟨hq, hc⟩ := payload?_eq_some hq
  obtain ⟨hr, hd⟩ := payload?_eq_some hr
  obtain ⟨number, least⟩ := scalar?_eq_some hx
  have bound := toNat_lt x
  simp only [String.utf8EncodeChar, Char.toNat_val]
  rw [if_neg (by omega), if_neg (by omega), if_neg (by omega), ofNat_eq (b := a) (by omega),
    ofNat_eq (b := b) (by omega), ofNat_eq (b := c) (by omega), ofNat_eq (b := d) (by omega)]

/-! ## Whole texts -/

/-- A character read first, and the text read from the bytes after it. -/
theorem encode_of_bind {form : Option Char} {bytes rest : Bytes} {s : List Char}
    (h : (form.bind fun x => (decode? rest).map (x :: ·)) = some s)
    (char : ∀ x, form = some x → String.utf8EncodeChar x = bytes)
    (ih : ∀ s, decode? rest = some s → encode s = rest) : encode s = bytes ++ rest := by
  obtain ⟨x, hx, h⟩ := Option.bind_eq_some_iff.1 h
  obtain ⟨t, ht, rfl⟩ := Option.map_eq_some_iff.1 h
  rw [encode_cons, char x hx, ih t ht]

/-- What is decoded is what was encoded. -/
theorem encode_of_decode? {b : Bytes} {s : List Char} (h : decode? b = some s) : encode s = b := by
  induction b using decode?.induct generalizing s with
  | case1 =>
    obtain rfl := Option.some.inj h
    rfl
  | case2 a rest one ih =>
    rw [decode?_one one] at h
    exact encode_of_bind h (fun x hx => encodeChar_of_one hx one) fun s => ih
  | case4 a one stray two b rest ih =>
    have low : 0xC0 ≤ a.toNat := UInt8.not_lt.1 stray
    rw [decode?_two low two] at h
    exact encode_of_bind h (fun x hx => encodeChar_of_two hx low two) fun s => ih
  | case6 a one stray two three b c rest ih =>
    have low : 0xE0 ≤ a.toNat := UInt8.not_lt.1 two
    rw [decode?_three low three] at h
    exact encode_of_bind h (fun x hx => encodeChar_of_three hx low three) fun s => ih
  | case8 a one stray two three b c d rest ih =>
    have low : 0xF0 ≤ a.toNat := UInt8.not_lt.1 three
    rw [decode?_four low] at h
    exact encode_of_bind h (fun x hx => encodeChar_of_four hx low) fun s => ih
  -- A continuation byte where a character begins, and bytes that end inside a character.
  | case3 a rest one stray =>
    rw [decode?.eq_def] at h
    simp only [if_neg one, if_pos stray, reduceCtorEq] at h
  | case5 a rest one stray two short =>
    rw [decode?.eq_def] at h
    simp only [if_neg one, if_neg stray, if_pos two, reduceCtorEq] at h
  | case7 a rest one stray two three short =>
    rw [decode?.eq_def] at h
    simp only [if_neg one, if_neg stray, if_neg two, if_pos three, reduceCtorEq] at h
  | case9 a rest one stray two three short =>
    rw [decode?.eq_def] at h
    simp only [if_neg one, if_neg stray, if_neg two, if_neg three, reduceCtorEq] at h

/-- The bytes are UTF-8. -/
def Valid (b : Bytes) : Prop :=
  b.toByteArray.IsValidUTF8

theorem valid_iff {b : Bytes} : Valid b ↔ ∃ s, b = encode s := by
  constructor
  · rintro ⟨s, h⟩
    exact ⟨s, List.toByteArray_inj.1 h⟩
  · rintro ⟨s, rfl⟩
    exact ⟨s, rfl⟩

theorem valid_encode (s : List Char) : Valid (encode s) :=
  valid_iff.2 ⟨s, rfl⟩

/-- **Just what is UTF-8 is decoded.** -/
theorem isSome_decode?_iff {b : Bytes} : (decode? b).isSome ↔ Valid b := by
  rw [valid_iff, Option.isSome_iff_exists]
  constructor
  · rintro ⟨s, h⟩
    exact ⟨s, (encode_of_decode? h).symm⟩
  · rintro ⟨s, rfl⟩
    exact ⟨s, decode?_encode s⟩

theorem Valid.append {b c : Bytes} (hb : Valid b) (hc : Valid c) : Valid (b ++ c) := by
  obtain ⟨s, rfl⟩ := valid_iff.1 hb
  obtain ⟨t, rfl⟩ := valid_iff.1 hc
  rw [← encode_append]
  exact valid_encode _

/-! ## Characters of one byte -/

section Low

variable {y : Char} (low : y.toNat < 0x80)
include low

theorem ofNat_mem_encode_iff {s : List Char} : UInt8.ofNat y.toNat ∈ encode s ↔ y ∈ s := by
  rw [encode, List.mem_flatMap]
  constructor
  · rintro ⟨x, hx, mem⟩
    by_contra absent
    exact ofNat_notMem_encodeChar low (fun e => absent (e ▸ hx)) mem
  · intro hy
    exact ⟨y, hy, by rw [encodeChar_of_lt low]; exact List.mem_singleton_self _⟩

/-- Bytes around a character of one byte that is the first of its kind. -/
theorem valid_append_cons_of_notMem {b c : Bytes} (first : UInt8.ofNat y.toNat ∉ b) :
    Valid (b ++ UInt8.ofNat y.toNat :: c) ↔ Valid b ∧ Valid c := by
  constructor
  · intro valid
    obtain ⟨s, hs⟩ := valid_iff.1 valid
    have mem : y ∈ s := by
      rw [← ofNat_mem_encode_iff low, ← hs]
      simp
    obtain ⟨p, q, rfl, hp⟩ := List.eq_append_cons_of_mem mem
    have parts : b ++ UInt8.ofNat y.toNat :: c = encode p ++ UInt8.ofNat y.toNat :: encode q := by
      rw [hs, encode_append, encode_cons, encodeChar_of_lt low, List.singleton_append]
    have pieces := congrArg (List.splitOn (UInt8.ofNat y.toNat)) parts
    rw [List.splitOn_append_cons_self_of_not_mem first,
      List.splitOn_append_cons_self_of_not_mem ((ofNat_mem_encode_iff low).not.2 hp)] at pieces
    obtain rfl := (List.cons.inj pieces).1
    obtain rfl := (List.cons.inj (List.append_cancel_left parts)).2
    exact ⟨valid_encode p, valid_encode q⟩
  · rintro ⟨hb, hc⟩
    have one : Valid [UInt8.ofNat y.toNat] := by
      rw [← encodeChar_of_lt low, ← encode_singleton]
      exact valid_encode [y]
    exact hb.append (one.append hc)

/-- **Bytes around a character of one byte.** -/
theorem valid_append_cons_iff (b c : Bytes) :
    Valid (b ++ UInt8.ofNat y.toNat :: c) ↔ Valid b ∧ Valid c := by
  induction b using Line.induct (UInt8.ofNat y.toNat) with
  | last b first => exact valid_append_cons_of_notMem low first
  | more b b' first ih =>
    rw [List.append_assoc, List.cons_append, valid_append_cons_of_notMem low first, ih,
      valid_append_cons_of_notMem low first, and_assoc]

theorem valid_dropOneEnd_iff (b : Bytes) :
    Valid (Line.dropOneEnd (UInt8.ofNat y.toNat) b) ↔ Valid b := by
  rw [Line.dropOneEnd]
  split_ifs with ends
  · obtain ⟨b, rfl⟩ := List.getLast?_eq_some_iff.1 (beq_iff_eq.1 ends)
    rw [List.dropLast_concat, valid_append_cons_iff low]
    exact (and_iff_left (valid_encode [])).symm
  · rfl

end Low

end Utf8

/-! ## Lines -/

namespace Line

open Utf8

section Cutting

variable {α : Type} [BEq α] [LawfulBEq α] {feed ret : α}

theorem cut_append_cons {line : List α} (h : feed ∉ line) (rest : List α) :
    cut feed ret (line ++ feed :: rest) = dropOneEnd ret line :: cut feed ret rest := by
  rw [cut, List.splitOn_append_cons_self_of_not_mem h, ended_cons (List.splitOn_ne_nil _ _), cut]

theorem cut_of_notMem {line : List α} (h : feed ∉ line) (ne : line ≠ []) :
    cut feed ret line = [line] := by
  rw [cut, List.splitOn_eq_singleton h, ended, if_neg (by simpa using ne)]

/-- The last line of a list ends, if there is one. -/
def Whole (feed : α) (s : List α) : Prop :=
  ∀ x ∈ s.getLast?, x = feed

omit [BEq α] [LawfulBEq α] in
theorem whole_append_cons_iff {line s : List α} :
    Whole feed (line ++ feed :: s) ↔ Whole feed s := by
  rw [Whole, Whole, List.getLast?_append_of_ne_nil _ (List.cons_ne_nil _ _), List.getLast?_cons]
  cases s.getLast? <;> simp

/-- Whole lines, and what follows them. -/
theorem cut_append {s : List α} (whole : Whole feed s) (t : List α) :
    cut feed ret (s ++ t) = cut feed ret s ++ cut feed ret t := by
  induction s using Line.induct feed with
  | last s absent =>
    obtain rfl : s = [] := by
      by_contra some
      obtain ⟨s, x, rfl⟩ := (List.eq_nil_or_concat' s).resolve_left some
      obtain rfl := whole x (List.getLast?_concat)
      simp at absent
    rfl
  | more line s absent ih =>
    rw [List.append_assoc, List.cons_append, cut_append_cons absent, cut_append_cons absent,
      ih (whole_append_cons_iff.1 whole), List.cons_append]

end Cutting

/-- Where a document has its first line that is not UTF-8: after whole lines that are, and up to a
line feed or the end. -/
structure SpoiltAt (document before line after : Bytes) : Prop where
  parts : document = before ++ line ++ after
  whole : Whole 10 before
  valid : Valid before
  feed : 10 ∉ line
  ends : ∀ b ∈ after.head?, b = 10
  spoilt : ¬ Valid line

/-- **A document that is not UTF-8 has a first line that is not.** -/
theorem exists_spoiltAt {document : Bytes} (h : ¬ Valid document) :
    ∃ before line after, SpoiltAt document before line after := by
  induction document using Line.induct (10 : UInt8) with
  | last line feed =>
    exact ⟨[], line, [], by simp, by simp [Whole], valid_encode [], feed, by simp, h⟩
  | more line rest feed ih =>
    have around := valid_append_cons_iff (y := '\n') (by decide) line
    by_cases valid : Valid line
    · obtain ⟨before, bad, after, at_⟩ := ih fun hrest => h ((around rest).2 ⟨valid, hrest⟩)
      exact ⟨line ++ 10 :: before, bad, after, by simp [at_.parts],
        whole_append_cons_iff.2 at_.whole, (around before).2 ⟨valid, at_.valid⟩, at_.feed,
        at_.ends, at_.spoilt⟩
    · exact ⟨[], line, 10 :: rest, by simp, by simp [Whole], valid_encode [], feed, by simp, valid⟩

/-- The lines of a document that is UTF-8. -/
theorem ofBytes_of_valid {b : Bytes} (h : Valid b) :
    ∃ raw : List (List Char), ofBytes b = raw.map some := by
  obtain ⟨s, rfl⟩ := valid_iff.1 h
  exact ⟨cut '\n' '\r' s, ofBytes_encode s⟩

/-- **The lines of a document that is not UTF-8**: those before the first that is not, and that. -/
theorem SpoiltAt.ofBytes {document before line after : Bytes}
    (h : SpoiltAt document before line after) :
    ∃ (raw : List (List Char)) (rest : List Line),
      Line.ofBytes before = raw.map some ∧
        Line.ofBytes document = raw.map some ++ none :: rest := by
  obtain ⟨raw, hraw⟩ := ofBytes_of_valid h.valid
  have undecoded (bytes : Bytes) (bad : ¬ Valid bytes) : decode? bytes = none := by
    rwa [← Option.not_isSome_iff_eq_none, isSome_decode?_iff]
  have returned : ¬ Valid (dropOneEnd 13 line) :=
    (valid_dropOneEnd_iff (y := '\r') (by decide) line).not.2 h.spoilt
  have nonempty : line ≠ [] := fun none => h.spoilt (none ▸ valid_encode [])
  have cutAt : Line.ofBytes document = Line.ofBytes before ++ Line.ofBytes (line ++ after) := by
    rw [h.parts, List.append_assoc, Line.ofBytes, cut_append h.whole, List.map_append]
    rfl
  cases after with
  | nil =>
    refine ⟨raw, [], hraw, ?_⟩
    rw [cutAt, hraw, List.append_nil, Line.ofBytes, cut_of_notMem h.feed nonempty,
      List.map_singleton, undecoded _ h.spoilt]
  | cons b rest =>
    obtain rfl := h.ends b rfl
    refine ⟨raw, Line.ofBytes rest, hraw, ?_⟩
    rw [cutAt, hraw, Line.ofBytes, cut_append_cons h.feed, List.map_cons, undecoded _ returned]
    rfl

end Line
end NoteDesk
