import Mathlib.Data.List.DropRight
import Mathlib.Data.List.Infix
import Mathlib.Data.List.TakeWhile
import NoteDesk.Envelope
import NoteDesk.Markup
import NoteDesk.Proofs.Document

/-!
# What comes back from the wire

* `Text.breakAt_of_unfound` and `Text.breakAtLast_of_unfound`: where a text is found first, and where
  last.
* `Envelope.unwrapText_enclosed`: the markup in a root element is what stands there, whatever it
  looks like. `Envelope.unwrap_wrap`: so is what was put into an envelope.
* `Markup.Unclosed` is markup with a tag that never ends. `Markup.pieces_cases`: this is all that
  keeps markup from being cut into pieces, and so from being turned into markdown
  (`Markup.toMarkdown_cases`). The failure tells the first of these tags (`Markup.FirstUnclosed`),
  which is the first that is opened after the last one that ends (`Markup.LastOpened`).
* `Markup.toMarkdown_eq_error_iff` is the main result.
-/

namespace NoteDesk

/-! ## Parts of a text -/

theorem Utf8.size_append (s t : List Char) : size (s ++ t) = size s + size t := by
  induction s with
  | nil => simp [size]
  | cons c s ih =>
    rw [List.cons_append, size, size, ih]
    omega

theorem Utf8.utf8ByteSize_ofList (s : List Char) : (String.ofList s).utf8ByteSize = size s := by
  induction s with
  | nil => rfl
  | cons c s ih =>
    rw [String.ofList_cons, String.utf8ByteSize_append, ih, size]
    simp

namespace Text

variable {c : Char} {s before after : List Char}

theorem breakAtChar_eq_none (h : breakAtChar c s = none) : c ∉ s := by
  intro mem
  rw [breakAtChar] at h
  split at h
  next found =>
    have apart := List.dropWhile_eq_nil_iff.1 found c mem
    simp at apart
  next => cases h

theorem breakAtChar_eq_some (h : breakAtChar c s = some (before, after)) :
    s = before ++ c :: after ∧ c ∉ before := by
  rw [breakAtChar] at h
  split at h
  next => cases h
  next d rest found =>
    obtain ⟨rfl, rfl⟩ := Prod.mk.inj (Option.some.inj h)
    have same : d = c := by
      have stops := List.head_dropWhile_not (p := (· != c)) (l := s) (by simp [found])
      simpa [found] using stops
    constructor
    · rw [same] at found
      rw [← found, List.takeWhile_append_dropWhile]
    · intro mem
      have apart := List.mem_takeWhile_imp mem
      simp at apart

theorem breakAtChar_of_notMem (h : c ∉ s) : breakAtChar c s = none := by
  rw [breakAtChar, List.dropWhile_eq_nil_iff.2]
  intro d hd
  simpa using fun same : d = c => h (same ▸ hd)

theorem breakAtChar_append (h : c ∉ before) (after : List Char) :
    breakAtChar c (before ++ c :: after) = some (before, after) := by
  have apart : ∀ d ∈ before, (d != c) = true := by
    intro d hd
    simpa using fun same : d = c => h (same ▸ hd)
  rw [breakAtChar, List.dropWhile_append_of_pos apart, List.takeWhile_append_of_pos apart]
  simp

/-- A text is found where another begins with it. -/
theorem breakAt_append (needle s : List Char) : breakAt needle (needle ++ s) = some ([], s) := by
  cases needle with
  | nil =>
    cases s with
    | nil => rfl
    | cons c s => rfl
  | cons c needle =>
    have starts := Header.isPrefixOf?_append (c :: needle) s
    rw [List.cons_append] at starts ⊢
    rw [breakAt, starts]

/-- A text whose first character does not come again in it begins inside another one only if it is
all there. -/
theorem prefix_of_prefix_append {needle rest : List Char} (once : c ∉ needle) (inside : before ≠ [])
    (starts : c :: needle <+: before ++ c :: rest) : c :: needle <+: before := by
  rcases List.prefix_or_prefix_of_prefix starts (List.prefix_append before _) with all | part
  · exact all
  · obtain ⟨d, before, rfl⟩ := List.exists_cons_of_ne_nil inside
    obtain ⟨rfl, tail, rfl⟩ := List.cons_prefix_cons.1 part
    rw [List.cons_append, List.cons_prefix_cons, List.prefix_append_right_inj] at starts
    cases tail with
    | nil => rw [List.append_nil]
    | cons e tail =>
      -- The rest of the needle begins with the `c` after `before`.
      obtain ⟨rfl, -⟩ := List.cons_prefix_cons.1 starts.2
      simp at once

/-- **Where a text is found first**, if it is not inside what comes before and its first character
does not come again in it. -/
theorem breakAt_of_unfound {needle : List Char} (once : c ∉ needle)
    (unfound : ¬c :: needle <:+: before) (after : List Char) :
    breakAt (c :: needle) (before ++ (c :: needle ++ after)) = some (before, after) := by
  induction before with
  | nil => exact breakAt_append (c :: needle) after
  | cons d before ih =>
    have later : ¬c :: needle <:+: before := fun found => unfound (List.infix_cons found)
    have apart : (c :: needle).isPrefixOf? (d :: before ++ (c :: needle ++ after)) = none := by
      rw [Option.eq_none_iff_forall_ne_some]
      intro rest starts
      have starts : c :: needle <+: d :: before ++ c :: (needle ++ after) :=
        ⟨rest, List.isPrefixOf?_eq_some_iff_append_eq.1 starts⟩
      exact unfound (prefix_of_prefix_append once (List.cons_ne_nil d before) starts).isInfix
    rw [List.cons_append] at apart ⊢
    rw [breakAt, apart]
    dsimp only
    rw [ih later]
    rfl

/-- **Where a text is found last**, if it is not inside what comes after and its last character does
not come before in it. -/
theorem breakAtLast_of_unfound {needle : List Char} (once : c ∉ needle)
    (unfound : ¬needle ++ [c] <:+: after) (before : List Char) :
    breakAtLast (needle ++ [c]) (before ++ (needle ++ [c] ++ after)) = some (before, after) := by
  have once' : c ∉ needle.reverse := by rwa [List.mem_reverse]
  have unfound' : ¬c :: needle.reverse <:+: after.reverse := by
    rwa [← List.reverse_concat', List.reverse_infix]
  have backwards : (before ++ (needle ++ [c] ++ after)).reverse =
      after.reverse ++ (c :: needle.reverse ++ before.reverse) := by
    simp
  rw [breakAtLast, List.reverse_concat', backwards, breakAt_of_unfound once' unfound']
  simp

end Text

/-! ## The envelope -/

namespace Envelope

theorem wrap_ne_empty (inner : String) : wrap inner ≠ "" := by
  simp [wrap, prologue]

/-- **The markup in a root element is what stands there**: all between the first opening of one and
the last close of one, whatever it looks like. -/
theorem unwrapText_enclosed {before attributes after : List Char}
    (first : ¬"<en-note".toList <:+: before) (open' : '>' ∉ attributes)
    (notEmpty : attributes.getLast? ≠ some '/') (last : ¬"</en-note>".toList <:+: after)
    (inner : List Char) :
    unwrapText (before ++ ("<en-note".toList ++
      (attributes ++ '>' :: (inner ++ ("</en-note>".toList ++ after))))) = inner := by
  have start : "<en-note".toList = '<' :: "en-note".toList := rfl
  have stop : "</en-note>".toList = "</en-note".toList ++ ['>'] := rfl
  rw [start] at first
  rw [stop] at last
  rw [unwrapText, start, Text.breakAt_of_unfound (by decide) first]
  dsimp only
  rw [Text.breakAtChar_append open']
  dsimp only
  rw [if_neg notEmpty, stop, Text.breakAtLast_of_unfound (by decide) last]

/-- **The markup in an envelope is what was put there**, envelopes and ends of envelopes
included. -/
theorem unwrap_wrap (inner : String) : unwrap (wrap inner) = inner := by
  have text : (wrap inner).toList = prologue.toList ++ ("<en-note".toList ++
      ([] ++ '>' :: (inner.toList ++ ("</en-note>".toList ++ [])))) := by
    simp [wrap]
  rw [unwrap, text, unwrapText_enclosed (by decide +kernel) (by decide) (by decide) (by decide),
    String.ofList_toList]

end Envelope

/-! ## Markup -/

namespace Markup

/-- A tag is opened and never closed. -/
def Unclosed (s : List Char) : Prop :=
  ∃ inner, '<' :: inner <:+ s ∧ '>' ∉ inner

/-- The two parts of markup around the first `<` that no `>` follows. -/
structure FirstUnclosed (s before inner : List Char) : Prop where
  whole : s = before ++ '<' :: inner
  unclosed : '>' ∉ inner
  first : ∀ later, '<' :: later <:+ before → '>' ∈ later

theorem FirstUnclosed.some {s before inner : List Char} (h : FirstUnclosed s before inner) :
    Unclosed s :=
  ⟨inner, h.whole ▸ List.suffix_append _ _, h.unclosed⟩

/-- A tag that is opened before another ends ends as well, or it is opened after it. -/
theorem closed_or_suffix {inner front rest : List Char}
    (h : '<' :: inner <:+ front ++ '>' :: rest) : '>' ∈ inner ∨ '<' :: inner <:+ rest := by
  have whole : '>' :: rest <:+ front ++ '>' :: rest := List.suffix_append _ _
  rcases List.suffix_or_suffix_of_suffix h whole with late | early
  · rcases List.suffix_cons_iff.1 late with same | later
    · cases same
    · exact .inr later
  · have mem : '>' ∈ '<' :: inner := early.subset List.mem_cons_self
    exact .inl (by simpa using mem)

theorem not_unclosed_of_notMem {s : List Char} (h : '<' ∉ s) : ¬Unclosed s := by
  rintro ⟨inner, suffix, -⟩
  exact h (suffix.subset List.mem_cons_self)

/-- What stands before the end of a tag does not matter to what is unclosed. -/
theorem not_unclosed_append {front rest : List Char} (h : ¬Unclosed rest) :
    ¬Unclosed (front ++ '>' :: rest) := by
  rintro ⟨inner, suffix, unclosed⟩
  rcases closed_or_suffix suffix with closed | later
  · exact unclosed closed
  · exact h ⟨inner, later, unclosed⟩

theorem FirstUnclosed.append {rest before inner : List Char} (h : FirstUnclosed rest before inner)
    (front : List Char) :
    FirstUnclosed (front ++ '>' :: rest) (front ++ '>' :: before) inner where
  whole := by rw [h.whole, List.append_assoc, List.cons_append]
  unclosed := h.unclosed
  first later suffix := by
    rcases closed_or_suffix suffix with closed | later
    · exact closed
    · exact h.first _ later

/-- **Markup is cut into pieces unless one of its tags never ends.** Then the first of these tags is
told, by how many bytes come before it. -/
theorem piecesOf_cases (total : Nat) (s : List Char) :
    (¬Unclosed s ∧ ∃ ps, piecesOf total s = .ok ps) ∨
      ∃ before inner, FirstUnclosed s before inner ∧
        piecesOf total s = .error (.unterminatedTag (total - Utf8.size ('<' :: inner))) := by
  fun_induction piecesOf total s with
  | case1 s noTag => exact .inl ⟨not_unclosed_of_notMem (Text.breakAtChar_eq_none noTag), _, rfl⟩
  | case2 s before inner opened unended =>
    obtain ⟨whole, clear⟩ := Text.breakAtChar_eq_some opened
    refine .inr ⟨before, inner, ⟨whole, Text.breakAtChar_eq_none unended, ?_⟩, rfl⟩
    intro later suffix
    exact absurd (suffix.subset List.mem_cons_self) clear
  | case3 s before inner opened tag rest ended tags ih =>
    -- What is read so far ends in the `>` of a tag, so only the rest can hold a tag without one.
    have whole : s = (before ++ '<' :: tag) ++ '>' :: rest := by
      rw [(Text.breakAtChar_eq_some opened).1, (Text.breakAtChar_eq_some ended).1]
      simp
    rw [whole]
    rcases ih with ⟨closed, ps, hps⟩ | ⟨before', inner', first, failed⟩
    · exact .inl ⟨not_unclosed_append closed, _, by rw [hps]; rfl⟩
    · exact .inr ⟨_, inner', first.append _, by rw [failed]; rfl⟩

theorem pieces_cases (s : List Char) :
    (¬Unclosed s ∧ ∃ ps, pieces s = .ok ps) ∨
      ∃ before inner, FirstUnclosed s before inner ∧
        pieces s = .error (.unterminatedTag (Utf8.size before)) := by
  rcases piecesOf_cases (Utf8.size s) s with closed | ⟨before, inner, first, failed⟩
  · exact .inl closed
  · refine .inr ⟨before, inner, first, ?_⟩
    have size : Utf8.size s - Utf8.size ('<' :: inner) = Utf8.size before := by
      rw [first.whole, Utf8.size_append]
      omega
    rw [pieces, failed, size]

/-- **Markup is turned into markdown unless one of its tags never ends.** -/
theorem toMarkdown_cases (markup : String) :
    (¬Unclosed markup.toList ∧ ∃ md, toMarkdown markup = .ok md) ∨
      ∃ before inner, FirstUnclosed markup.toList before inner ∧
        toMarkdown markup = .error (.unterminatedTag (Utf8.size before)) := by
  rcases pieces_cases markup.toList with ⟨closed, ps, hps⟩ | ⟨before, inner, first, failed⟩
  · exact .inl ⟨closed, _, by rw [toMarkdown, toMarkdownText, hps]; rfl⟩
  · exact .inr ⟨before, inner, first, by rw [toMarkdown, toMarkdownText, failed]; rfl⟩

/-! ## Which tag is told -/

variable {s before inner : List Char}

theorem FirstUnclosed.inner_eq {before' inner' : List Char} (h : FirstUnclosed s before inner)
    (h' : FirstUnclosed s before' inner') (shorter : '<' :: inner <:+ '<' :: inner') :
    inner = inner' := by
  rcases List.suffix_cons_iff.1 shorter with same | ⟨between, rfl⟩
  · exact (List.cons.inj same).2
  · -- A `<` before the first one that is unclosed ends, so the other one would end as well.
    have whole : before ++ '<' :: inner = before' ++ '<' :: between ++ '<' :: inner := by
      rw [← h.whole, h'.whole, List.append_assoc, List.cons_append]
    have earlier : '<' :: between <:+ before :=
      List.append_cancel_right whole ▸ List.suffix_append _ _
    exact absurd (List.mem_append_left _ (h.first between earlier)) h'.unclosed

/-- There is only one first tag that is unclosed. -/
theorem FirstUnclosed.unique {before' inner' : List Char} (h : FirstUnclosed s before inner)
    (h' : FirstUnclosed s before' inner') : before = before' := by
  have suffix : '<' :: inner <:+ s := h.whole ▸ List.suffix_append _ _
  have suffix' : '<' :: inner' <:+ s := h'.whole ▸ List.suffix_append _ _
  have same : inner = inner' := by
    rcases List.suffix_or_suffix_of_suffix suffix suffix' with shorter | longer
    · exact h.inner_eq h' shorter
    · exact (h'.inner_eq h longer).symm
  subst same
  exact List.append_cancel_right (h.whole.symm.trans h'.whole)

/-- The parts of markup around the first `<` after the last `>`: all up to that `>`, which is nothing
if there is none, the text from there to the `<`, and what follows the `<`. -/
structure LastOpened (s closed text inner : List Char) : Prop where
  whole : s = closed ++ text ++ '<' :: inner
  last : closed = [] ∨ ['>'] <:+ closed
  first : '<' ∉ text
  unended : '>' ∉ text ∧ '>' ∉ inner

/-- The first `<` that no `>` follows is the first one after the last `>`. -/
theorem firstUnclosed_iff :
    FirstUnclosed s before inner ↔
      ∃ closed text, before = closed ++ text ∧ LastOpened s closed text inner := by
  constructor
  · intro h
    have parts := List.rdropWhile_append_rtakeWhile (p := (· != '>')) (l := before)
    have unended : '>' ∉ before.rtakeWhile (· != '>') := by
      intro mem
      simpa using List.mem_rtakeWhile_imp mem
    refine ⟨before.rdropWhile (· != '>'), before.rtakeWhile (· != '>'), parts.symm, ?_⟩
    refine ⟨by rw [parts, h.whole], ?_, ?_, unended, h.unclosed⟩
    · by_cases empty : before.rdropWhile (· != '>') = []
      · exact .inl empty
      · have ends : (before.rdropWhile (· != '>')).getLast empty = '>' := by
          simpa using List.rdropWhile_last_not _ _ empty
        exact .inr ⟨_, ends ▸ List.dropLast_append_getLast empty⟩
    · intro opened
      obtain ⟨front, rest, cut⟩ := List.append_of_mem opened
      have later : '<' :: rest <:+ before.rtakeWhile (· != '>') := cut ▸ List.suffix_append _ _
      have ended := h.first rest (later.trans (List.rtakeWhile_suffix _ _))
      exact unended (later.subset (List.mem_cons_of_mem _ ended))
  · rintro ⟨closed, text, rfl, h⟩
    refine ⟨h.whole, h.unended.2, fun later suffix => ?_⟩
    rcases h.last with rfl | ⟨front, rfl⟩
    · exact absurd (suffix.subset List.mem_cons_self) h.first
    · rw [List.append_assoc, List.singleton_append] at suffix
      rcases closed_or_suffix suffix with ended | inText
      · exact ended
      · exact absurd (inText.subset List.mem_cons_self) h.first

/-- **Markup is refused just if it has a `<` that no `>` follows.** The failure tells how many bytes
come before the first `<` after the last `>`, or before the first `<` of all if there is no `>`. All
other markup is turned into markdown, whatever its tags are. -/
theorem toMarkdown_eq_error_iff (markup : String) :
    ((∃ cause, toMarkdown markup = .error cause) ↔ Unclosed markup.toList) ∧
      ((∃ md, toMarkdown markup = .ok md) ↔ ¬Unclosed markup.toList) ∧
      ∀ cause, toMarkdown markup = .error cause ↔
        ∃ closed text inner, LastOpened markup.toList closed text inner ∧
          cause = .unterminatedTag (String.ofList (closed ++ text)).utf8ByteSize ∧
          cause.message = "Conversion error: unterminated tag at byte " ++
            toString (String.ofList (closed ++ text)).utf8ByteSize := by
  rcases toMarkdown_cases markup with ⟨ended, md, converted⟩ | ⟨before, inner, first, failed⟩
  · rw [converted]
    refine ⟨iff_of_false (by simp) ended, iff_of_true ⟨md, rfl⟩ ended, fun cause => ?_⟩
    refine iff_of_false (by simp) ?_
    rintro ⟨closed, text, inner, opened, -⟩
    exact ended (firstUnclosed_iff.2 ⟨closed, text, rfl, opened⟩).some
  · rw [failed]
    refine ⟨iff_of_true ⟨_, rfl⟩ first.some, iff_of_false (by simp) (not_not.2 first.some), ?_⟩
    intro cause
    constructor
    · rintro ⟨⟩
      obtain ⟨closed, text, rfl, opened⟩ := firstUnclosed_iff.1 first
      rw [← Utf8.utf8ByteSize_ofList]
      exact ⟨closed, text, inner, opened, rfl, rfl⟩
    · rintro ⟨closed, text, inner', opened, rfl, -⟩
      have same := first.unique (firstUnclosed_iff.2 ⟨closed, text, rfl, opened⟩)
      rw [same, Utf8.utf8ByteSize_ofList]

/-- A `>` in text ends no tag, and bytes are counted, not characters. -/
example : toMarkdown "ß > é <b" = .error (.unterminatedTag 8) := by
  decide +kernel

end Markup
end NoteDesk
