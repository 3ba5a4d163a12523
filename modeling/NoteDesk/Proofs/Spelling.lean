import NoteDesk.Proofs.Digits
import NoteDesk.Proofs.Tidy
import NoteDesk.Proofs.Utf8

/-!
# Spelling

Markup leaves it open how a character is written: as it is, by its number, or by its name if it has
one.

* `Entity.Refers` are the references to a character, `Entity.Writes` all ways to write it.
  `Entity.Writes.spells`: each of them is read as that character.
* `Markup.toMarkdown_written`: however the characters of a text are written, the text comes out, with
  no more than its blank lines and the blanks at its ends tidied.
-/

namespace NoteDesk

namespace Entity

variable {c x : Char} {s digits written : List Char} {b n : Nat}

/-- The characters that have a name. -/
def names : List (Char × String) :=
  [('&', "amp"), ('<', "lt"), ('>', "gt"), ('"', "quot"), ('\'', "apos")]

/-- A reference to a character, without its `&` and its semicolon. Numbers have no zeros before
them, and hexadecimal digits may be capitals. -/
inductive Refers (c : Char) : List Char → Prop where
  | decimal : Refers c ('#' :: Nat.toDigits 10 c.toNat)
  | hexadecimal {mark : Char} {digits : List Char} (hmark : mark = 'x' ∨ mark = 'X')
    (hdigits : digits.map Char.toLower = Nat.toDigits 16 c.toNat) : Refers c ('#' :: mark :: digits)
  | name {name : String} (hname : (c, name) ∈ names) : Refers c name.toList

/-- The ways to write a character in markup. -/
inductive Writes (c : Char) : List Char → Prop where
  | plain (noReference : c ≠ '&') (noTag : c ≠ '<') : Writes c [c]
  | reference {s : List Char} (h : Refers c s) : Writes c ('&' :: (s ++ [';']))

/-! ## Numbers -/

theorem scalar?_toNat (c : Char) : scalar? c.toNat = some c := by
  have valid : c.toNat.isValidChar := c.valid
  rw [scalar?, dif_pos valid]
  rfl

/-- What is no digit is not among those that write a number. -/
theorem notMem_of_digits? (hx : digit? b x = none) (h : digits? b 0 digits = some n) :
    x ∉ digits := by
  intro mem
  have digit := isSome_digit?_of_mem h mem
  rw [hx] at digit
  cases digit

theorem number?_of_digits? (h : digits? b 0 digits = some n) (ne : digits ≠ []) :
    number? b digits = some n := by
  have unsigned : digits.head? ≠ some '+' := fun plus =>
    notMem_of_digits? (x := '+') rfl h (List.mem_of_mem_head? plus)
  rw [number?, if_neg unsigned, if_neg (by simpa using ne), h]

theorem decode?_decimal (h : digits? 10 0 digits = some c.toNat) (ne : digits ≠ []) :
    decode? ('#' :: digits) = some c := by
  have number := number?_of_digits? h ne
  -- the digits are not taken for hexadecimal ones after their mark
  have small : 'x' ∉ digits := notMem_of_digits? rfl h
  have capital : 'X' ∉ digits := notMem_of_digits? rfl h
  cases digits with
  | nil => exact absurd rfl ne
  | cons d rest =>
    rw [List.mem_cons, not_or] at small capital
    simp [decode?, Ne.symm small.1, Ne.symm capital.1, number, scalar?_toNat]

theorem decode?_hexadecimal {mark : Char} (hmark : mark = 'x' ∨ mark = 'X')
    (h : digits? 16 0 digits = some c.toNat) (ne : digits ≠ []) :
    decode? ('#' :: mark :: digits) = some c := by
  have number := number?_of_digits? h ne
  rcases hmark with rfl | rfl
  · simp [decode?, number, scalar?_toNat]
  · simp [decode?, number, scalar?_toNat]

theorem length_toDigits_le (hb : 10 ≤ b) (c : Char) : (Nat.toDigits b c.toNat).length ≤ 7 := by
  refine (Nat.length_toDigits_le_iff (by omega) (by decide)).2 ?_
  calc c.toNat < 0x110000 := Utf8.toNat_lt c
    _ ≤ 10 ^ 7 := by decide
    _ ≤ b ^ 7 := Nat.pow_le_pow_left hb 7

/-! ## References -/

theorem names_known : ∀ e ∈ names, decode? e.2.toList = some e.1 ∧ e.2.toList.length ≤ maxName ∧
    ';' ∉ e.2.toList ∧ '<' ∉ e.2.toList := by
  decide

/-- **The decoder knows every reference**, and none of them ends a reference or begins a tag. -/
theorem Refers.known (h : Refers c s) :
    decode? s = some c ∧ s.length ≤ maxName ∧ ';' ∉ s ∧ '<' ∉ s := by
  cases h with
  | decimal =>
    have read := digits?_toDigits (b := 10) (by decide) (by decide) c.toNat
    have few := length_toDigits_le (b := 10) (by decide) c
    have semicolon : ';' ∉ Nat.toDigits 10 c.toNat := notMem_of_digits? rfl read
    have bracket : '<' ∉ Nat.toDigits 10 c.toNat := notMem_of_digits? rfl read
    refine ⟨decode?_decimal read Nat.toDigits_ne_nil, ?_, ?_, ?_⟩
    · simp only [List.length_cons, maxName]
      omega
    · simpa using semicolon
    · simpa using bracket
  | @hexadecimal mark digits hmark hdigits =>
    have read : digits? 16 0 digits = some c.toNat := by
      rw [← digits?_map_toLower, hdigits, digits?_toDigits (by decide) (by decide)]
    have ne : digits ≠ [] := by
      rintro rfl
      exact Nat.toDigits_ne_nil hdigits.symm
    have few := length_toDigits_le (b := 16) (by decide) c
    rw [← hdigits, List.length_map] at few
    have semicolon : ';' ∉ digits := notMem_of_digits? rfl read
    have bracket : '<' ∉ digits := notMem_of_digits? rfl read
    have apart : ';' ≠ mark ∧ '<' ≠ mark := by rcases hmark with rfl | rfl <;> decide
    refine ⟨decode?_hexadecimal hmark read ne, ?_, ?_, ?_⟩
    · simp only [List.length_cons, maxName]
      omega
    · simpa [apart.1] using semicolon
    · simpa [apart.2] using bracket
  | name hname => exact names_known _ hname

namespace Writes

theorem spells (h : Writes c written) : Spells c written := by
  cases h with
  | plain noReference noTag => exact .plain noReference noTag
  | reference h =>
    obtain ⟨known, short, closed, -⟩ := h.known
    exact .reference known short closed

theorem notMem (h : Writes c written) : '<' ∉ written := by
  cases h with
  | plain _ noTag => simpa using noTag.symm
  | reference h => simpa using h.known.2.2.2

/-- What is written in blanks is written as it is. -/
theorem eq_of_allBlank (h : Writes c written) (blank : Text.allBlank written) : written = [c] := by
  cases h with
  | plain _ _ => rfl
  | reference _ => cases blank

end Writes

section Text

variable {parts : List (List Char)} (h : List.Forall₂ Writes s parts)
include h

/-- **However the characters of a text are written, the text is read**, and what follows it is
decoded on its own. -/
theorem decodeAll_written (rest : List Char) :
    decodeAll (parts.flatten ++ rest) = s ++ decodeAll rest := by
  induction h with
  | nil => rfl
  | cons first _ ih =>
    rw [List.flatten_cons, List.append_assoc, first.spells.decodeAll, ih]
    rfl

theorem notMem_written : '<' ∉ parts.flatten := by
  induction h with
  | nil => exact List.not_mem_nil
  | cons first _ ih =>
    rw [List.flatten_cons, List.mem_append, not_or]
    exact ⟨first.notMem, ih⟩

theorem written_of_allBlank (blank : Text.allBlank parts.flatten) : parts.flatten = s := by
  induction h with
  | nil => rfl
  | cons first _ ih =>
    rw [List.flatten_cons, Text.allBlank, List.all_append, Bool.and_eq_true] at blank
    rw [List.flatten_cons, first.eq_of_allBlank blank.1, ih blank.2]
    rfl

end Text

end Entity

namespace Markdown

/-- A character in escaped text is written as it is or by its name. -/
theorem writes_escapeText (c : Char) : Entity.Writes c (escapeText [c]) := by
  rw [escapeText, List.flatMap_singleton]
  split_ifs with ampersand less greater
  · exact .reference (@Entity.Refers.name c "amp" (by subst ampersand; decide))
  · exact .reference (@Entity.Refers.name c "lt" (by subst less; decide))
  · exact .reference (@Entity.Refers.name c "gt" (by subst greater; decide))
  · exact .plain ampersand less

theorem writes_escapeAttribute (c : Char) : Entity.Writes c (escapeAttribute [c]) := by
  rw [escapeAttribute, List.flatMap_singleton]
  split_ifs with quote
  · exact .reference (@Entity.Refers.name c "quot" (by subst quote; decide))
  · exact writes_escapeText c

theorem escapeText_eq (s : List Char) : escapeText s = s.flatMap fun c => escapeText [c] := by
  simp only [escapeText, List.flatMap_singleton]

theorem escapeAttribute_eq (s : List Char) :
    escapeAttribute s = s.flatMap fun c => escapeAttribute [c] := by
  simp only [escapeAttribute, List.flatMap_singleton]

end Markdown

namespace Markup

theorem tidy_out_text {s : List Char} {parts : List (List Char)}
    (h : List.Forall₂ Entity.Writes s parts) : tidy (({} : Draft).text parts.flatten).out = tidy s := by
  by_cases layout : isLayout parts.flatten
  · have blank := layout
    rw [isLayout, Bool.and_eq_true] at blank
    rw [Draft.text_of_isLayout layout, ← Entity.written_of_allBlank h blank.1]
    simpa using (tidy_append_of_allBlank blank.1 []).symm
  · have read := Entity.decodeAll_written h []
    rw [List.append_nil, show Entity.decodeAll [] = [] from rfl, List.append_nil] at read
    rw [Draft.text_of_not_isLayout (by simpa using layout), read]
    rfl

theorem toMarkdown_flatten {s : List Char} {parts : List (List Char)}
    (h : List.Forall₂ Entity.Writes s parts) :
    toMarkdown (String.ofList parts.flatten) = .ok (String.ofList (tidy s)) := by
  rw [toMarkdown_of_readOn fun total => Draft.readOn_text (Entity.notMem_written h),
    tidy_out_text h]

/-- **However the characters of a text are written, the text comes out** with its blank lines
tidied. So escaping is undone, and what was decoded is not decoded again, whatever follows it. -/
theorem toMarkdown_written :
    (∀ {s : List Char} {parts : List (List Char)}, List.Forall₂ Entity.Writes s parts →
      toMarkdown (String.ofList parts.flatten) = .ok (String.ofList (tidy s))) ∧
    (∀ s, toMarkdown (String.ofList (Markdown.escapeText s)) = .ok (String.ofList (tidy s))) ∧
    (∀ s, toMarkdown (String.ofList (Markdown.escapeAttribute s)) = .ok (String.ofList (tidy s))) ∧
    ∀ {c : Char} {written : List Char}, Entity.Writes c written → ∀ rest : List Char,
      Entity.decodeAll (written ++ rest) = c :: Entity.decodeAll rest := by
  have undone {escape : Char → List Char} (h : ∀ c, Entity.Writes c (escape c)) (s : List Char) :
      toMarkdown (String.ofList (s.flatMap escape)) = .ok (String.ofList (tidy s)) := by
    refine toMarkdown_flatten (List.forall₂_map_right_iff.2 (List.forall₂_same.2 ?_))
    exact fun c _ => h c
  refine ⟨toMarkdown_flatten, fun s => ?_, fun s => ?_, fun h => h.spells.decodeAll⟩
  · rw [Markdown.escapeText_eq, undone Markdown.writes_escapeText]
  · rw [Markdown.escapeAttribute_eq, undone Markdown.writes_escapeAttribute]

/-- Pieces of a text that is itself a reference, with blank lines and characters of which some are
written by their numbers. -/
def spelt : List (List Char) :=
  ["&amp;".toList, "l".toList, "&#116;".toList, ";".toList, "\n".toList, "&#10;".toList,
    "\n".toList, "&#XC9;".toList, "&#x1f600;".toList]

theorem toMarkdown_written_spelt :
    List.Forall₂ Entity.Writes "&lt;\n\n\nÉ😀".toList spelt ∧
      toMarkdown (String.ofList spelt.flatten) = .ok "&lt;\n\nÉ😀" := by
  have written : List.Forall₂ Entity.Writes "&lt;\n\n\nÉ😀".toList spelt := by
    have plain (c : Char) (h : c ≠ '&' ∧ c ≠ '<') : Entity.Writes c [c] := .plain h.1 h.2
    have decimal (c : Char) := Entity.Writes.reference (@Entity.Refers.decimal c)
    have hexadecimal (c : Char) (mark : Char) (digits : List Char)
        (h : (mark = 'x' ∨ mark = 'X') ∧ digits.map Char.toLower = Nat.toDigits 16 c.toNat) :=
      Entity.Writes.reference (Entity.Refers.hexadecimal h.1 h.2)
    have ampersand := Entity.Writes.reference (@Entity.Refers.name '&' "amp" (by decide))
    exact .cons ampersand <| .cons (plain 'l' (by decide)) <| .cons (decimal 't') <|
      .cons (plain ';' (by decide)) <| .cons (plain '\n' (by decide)) <| .cons (decimal '\n') <|
      .cons (plain '\n' (by decide)) <| .cons (hexadecimal 'É' 'X' "C9".toList (by decide)) <|
      .cons (hexadecimal '😀' 'x' "1f600".toList (by decide)) .nil
  exact ⟨written, (toMarkdown_written.1 written).trans (by decide)⟩

end Markup
end NoteDesk
