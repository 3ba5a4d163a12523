import NoteDesk.Markdown.Html
import NoteDesk.Proofs.Wire

/-!
# Escaped text

`Markdown.escapeAttribute` writes `&`, `<`, `>` and `"` as references, and every other character as
it is.

* `Entity.Spells` are the ways in which a character can be written. `Entity.Spells.decodeAll`: each
  of them is read as that character, whatever follows.
* `Entity.decodeAll_escape`: what was escaped is read back. Escaped text ends neither text nor tags
  nor attributes (`Markdown.notMem_escape`), and is layout exactly if the text is
  (`Markdown.allBlank_escape`, `Markdown.feed_mem_escape_iff`).
-/

namespace NoteDesk

/-! ## References -/

namespace Entity

/-- The ways in which a character is written: as it is, if it begins neither a reference nor a tag,
or as a reference to it. -/
inductive Spells (c : Char) : List Char → Prop where
  | plain (noReference : c ≠ '&') (noTag : c ≠ '<') : Spells c [c]
  | reference {s : List Char} (known : decode? s = some c) (short : s.length ≤ maxName)
    (closed : ';' ∉ s) : Spells c ('&' :: (s ++ [';']))

theorem decodeFrom_append (used rest : List Char) :
    decodeFrom used.length (used ++ rest) = decodeAll rest := by
  induction used with
  | nil => rfl
  | cons c used ih => exact ih

/-- **However a character is written, it is read as itself**, and what follows it is decoded on its
own. -/
theorem Spells.decodeAll {c : Char} {written : List Char} (h : Spells c written)
    (rest : List Char) : decodeAll (written ++ rest) = c :: decodeAll rest := by
  cases h with
  | plain noReference =>
    rw [List.singleton_append, Entity.decodeAll, decodeFrom, if_neg noReference]
    rfl
  | @reference name known short closed =>
    have found : at? (name ++ ';' :: rest) = some (c, name.length) := by
      rw [at?, Text.breakAtChar_append closed]
      simp [short, known]
    rw [List.cons_append, List.append_assoc, List.singleton_append, Entity.decodeAll, decodeFrom,
      if_pos rfl, found]
    have read := decodeFrom_append (name ++ [';']) rest
    rw [List.length_append, List.append_assoc] at read
    exact congrArg (c :: ·) read

end Entity

/-! ## Escaping -/

namespace Markdown

theorem escape_append (s t : List Char) :
    escapeAttribute (s ++ t) = escapeAttribute s ++ escapeAttribute t :=
  List.flatMap_append

theorem escape_cons (c : Char) (s : List Char) :
    escapeAttribute (c :: s) = escapeAttribute [c] ++ escapeAttribute s :=
  escape_append [c] s

theorem escape_char (c : Char) :
    escapeAttribute [c] =
      if c = '"' then "&quot;".toList
      else if c = '&' then "&amp;".toList
      else if c = '<' then "&lt;".toList
      else if c = '>' then "&gt;".toList
      else [c] := by
  rw [escapeAttribute, List.flatMap_singleton, escapeText, List.flatMap_singleton]

theorem spells_escape (c : Char) : Entity.Spells c (escapeAttribute [c]) := by
  rw [escape_char]
  split_ifs with quote ampersand less greater
  · subst quote
    exact .reference (s := "quot".toList) rfl (by decide) (by decide)
  · subst ampersand
    exact .reference (s := "amp".toList) rfl (by decide) (by decide)
  · subst less
    exact .reference (s := "lt".toList) rfl (by decide) (by decide)
  · subst greater
    exact .reference (s := "gt".toList) rfl (by decide) (by decide)
  · exact .plain ampersand less

/-- Escaped text has none of the characters at which text, a tag or an attribute ends. -/
theorem notMem_escape {x : Char} (hx : x ∈ ['<', '>', '"']) (s : List Char) :
    x ∉ escapeAttribute s := by
  obtain ⟨inQuote, inAmpersand, inLess, inGreater⟩ : x ∉ "&quot;".toList ∧
      x ∉ "&amp;".toList ∧ x ∉ "&lt;".toList ∧ x ∉ "&gt;".toList := by
    have cases : x = '<' ∨ x = '>' ∨ x = '"' := by simpa using hx
    obtain rfl | rfl | rfl := cases <;> decide
  induction s with
  | nil => exact List.not_mem_nil
  | cons c s ih =>
    rw [escape_cons, List.mem_append, not_or]
    refine ⟨?_, ih⟩
    rw [escape_char]
    split_ifs with quote ampersand less greater
    · exact inQuote
    · exact inAmpersand
    · exact inLess
    · exact inGreater
    · rintro mem
      obtain rfl := List.mem_singleton.1 mem
      simp [quote, less, greater] at hx

theorem feed_mem_escape_iff (s : List Char) : '\n' ∈ escapeAttribute s ↔ '\n' ∈ s := by
  induction s with
  | nil => rfl
  | cons c s ih =>
    have first : '\n' ∈ escapeAttribute [c] ↔ '\n' = c := by
      rw [escape_char]
      split_ifs with quote ampersand less greater
      · rw [quote]; decide
      · rw [ampersand]; decide
      · rw [less]; decide
      · rw [greater]; decide
      · exact List.mem_singleton
    rw [escape_cons, List.mem_append, List.mem_cons, first, ih]

theorem allBlank_escape (s : List Char) : Text.allBlank (escapeAttribute s) = Text.allBlank s := by
  induction s with
  | nil => rfl
  | cons c s ih =>
    have first : (escapeAttribute [c]).all Text.isBlank = Text.isBlank c := by
      rw [escape_char]
      split_ifs with quote ampersand less greater
      · rw [quote]; rfl
      · rw [ampersand]; rfl
      · rw [less]; rfl
      · rw [greater]; rfl
      · exact Bool.and_true _
    rw [Text.allBlank, escape_cons, List.all_append, first, ← Text.allBlank, ih]
    rfl

end Markdown

/-- **What was escaped is read back**, and what follows it is decoded on its own. -/
theorem Entity.decodeAll_escape (s rest : List Char) :
    decodeAll (Markdown.escapeAttribute s ++ rest) = s ++ decodeAll rest := by
  induction s with
  | nil => rfl
  | cons c s ih =>
    rw [Markdown.escape_cons, List.append_assoc, (Markdown.spells_escape c).decodeAll, ih]
    rfl

theorem Entity.decodeAll_escape_self (s : List Char) :
    decodeAll (Markdown.escapeAttribute s) = s := by
  have read := decodeAll_escape s []
  rwa [List.append_nil, show decodeAll [] = [] from rfl, List.append_nil] at read

end NoteDesk
