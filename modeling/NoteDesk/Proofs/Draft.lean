import NoteDesk.Proofs.Escape

/-!
# How markup is written onto a draft

Markup is read from the left. `Draft.readOn` is the draft after the rest of some markup, and the
lemmas here say what becomes of it when text, a tag or a line feed between blocks stands first.

* `Draft.readOn_tag` and `Draft.readOn_element`: text up to a tag, and an element.
* `Draft.readOn_escape`: escaped text without a line feed is written as it is, and what follows it
  is read on its own, if it does not begin with text that holds a line feed.
* `Draft.readOn_content`: escaped text before a tag is written unless it is layout, as a line feed
  is (`Draft.readOn_feed`).
* `Draft.AtLine` and `Draft.AtBlock`: where a line or a block is begun without a break.
-/

namespace NoteDesk.Markup

variable {total : Nat} {s before tag rest : List Char}

/-! ## Cutting -/

theorem piecesOf_of_notMem (h : '<' ∉ s) : piecesOf total s = .ok [.text s] := by
  rw [piecesOf]
  split
  next => rfl
  next found =>
    rw [Text.breakAtChar_of_notMem h] at found
    cases found

theorem piecesOf_unended (h : '<' ∉ before) (h' : '>' ∉ rest) :
    piecesOf total (before ++ '<' :: rest) =
      .error (.unterminatedTag (total - Utf8.size ('<' :: rest))) := by
  have opened := Text.breakAtChar_append h rest
  rw [piecesOf]
  split
  next none =>
    rw [opened] at none
    cases none
  next found =>
    obtain ⟨rfl, rfl⟩ := Prod.mk.inj (Option.some.inj (opened.symm.trans found))
    split
    next => rfl
    next ended =>
      rw [Text.breakAtChar_of_notMem h'] at ended
      cases ended

theorem piecesOf_tag (h : '<' ∉ before) (h' : '>' ∉ tag) :
    piecesOf total (before ++ '<' :: (tag ++ '>' :: rest)) =
      (piecesOf total rest).map fun ps =>
        .text before :: (if isDeclaration tag then [] else [.tag (Tag.ofText tag)]) ++ ps := by
  have opened := Text.breakAtChar_append h (tag ++ '>' :: rest)
  have closed := Text.breakAtChar_append h' rest
  rw [piecesOf]
  split
  next none =>
    rw [opened] at none
    cases none
  next found =>
    obtain ⟨rfl, rfl⟩ := Prod.mk.inj (Option.some.inj (opened.symm.trans found))
    split
    next unended =>
      rw [closed] at unended
      cases unended
    next ended =>
      obtain ⟨rfl, rfl⟩ := Prod.mk.inj (Option.some.inj (closed.symm.trans ended))
      cases piecesOf total rest <;> rfl

/-- The text that markup begins with. -/
def leading (s : List Char) : List Char :=
  s.takeWhile (· != '<')

/-- What stands between two brackets, as a tag. -/
def bracket (s : List Char) : List Char :=
  '<' :: (s ++ ['>'])

/-- A closing tag. -/
def close (tag : List Char) : List Char :=
  bracket ('/' :: tag)

/-- Text without line feeds. -/
structure OneLine where
  chars : List Char
  noFeed : '\n' ∉ chars

/-! ## Layout -/

/-- Blanks with a line feed among them. -/
def isLayout (s : List Char) : Bool :=
  Text.allBlank s && s.contains '\n'

/-- What is written of a text between two tags. -/
def content (s : List Char) : List Char :=
  if isLayout s then [] else s

theorem not_isLayout_of_notMem (h : '\n' ∉ s) : isLayout s = false := by
  simp [isLayout, h]

theorem isLayout_escape (s : List Char) :
    isLayout (Markdown.escapeAttribute s) = isLayout s := by
  have feed : (Markdown.escapeAttribute s).contains '\n' = s.contains '\n' := by
    rw [Bool.eq_iff_iff, List.contains_iff_mem, List.contains_iff_mem,
      Markdown.feed_mem_escape_iff]
  rw [isLayout, Markdown.allBlank_escape, feed, isLayout]

namespace Draft

variable {d d' : Draft}

/-! ## Writing -/

theorem write_nil (d : Draft) : d.write [] = d := by
  rw [write, List.append_nil]

theorem write_write (d : Draft) (s t : List Char) : (d.write s).write t = d.write (s ++ t) := by
  rw [write, write, write, List.append_assoc]

theorem text_of_isLayout (h : isLayout s = true) : d.text s = d :=
  if_pos h

theorem text_of_not_isLayout (h : isLayout s = false) :
    d.text s = d.write (Entity.decodeAll s) := by
  rw [isLayout] at h
  rw [text, h, if_neg Bool.false_ne_true]

theorem text_nil (d : Draft) : d.text [] = d :=
  write_nil d

/-- Escaped text is written as it was, unless it is layout. -/
theorem text_escape (d : Draft) (s : List Char) :
    d.text (Markdown.escapeAttribute s) = d.write (content s) := by
  rw [content]
  split_ifs with layout
  · rw [text_of_isLayout ((isLayout_escape s).trans layout), write_nil]
  · rw [text_of_not_isLayout ((isLayout_escape s).trans (by simpa using layout)),
      Entity.decodeAll_escape_self]

/-! ## Reading on -/

/-- The draft after the rest of some markup, which is of `total` bytes, is written onto it. -/
def readOn (d : Draft) (total : Nat) (s : List Char) : Except Failure Draft :=
  (piecesOf total s).map (·.foldl piece d)

theorem readOn_text (h : '<' ∉ s) : d.readOn total s = .ok (d.text s) := by
  rw [readOn, piecesOf_of_notMem h]
  rfl

theorem readOn_nil (d : Draft) (total : Nat) : d.readOn total [] = .ok d := by
  rw [readOn_text List.not_mem_nil, text_nil]

theorem readOn_unended (h : '<' ∉ before) (h' : '>' ∉ rest) :
    d.readOn total (before ++ '<' :: rest) =
      .error (.unterminatedTag (total - Utf8.size ('<' :: rest))) := by
  rw [readOn, piecesOf_unended h h']
  rfl

/-- The draft after a tag, which leaves it as it is if it is a declaration. -/
def took (d : Draft) (tag : List Char) : Draft :=
  if isDeclaration tag then d else d.tag (Tag.ofText tag)

theorem readOn_tag (h : '<' ∉ before) (h' : '>' ∉ tag) :
    d.readOn total (before ++ '<' :: (tag ++ '>' :: rest)) =
      ((d.text before).took tag).readOn total rest := by
  rw [readOn, piecesOf_tag h h', readOn]
  cases piecesOf total rest with
  | error cause => rfl
  | ok ps =>
    rw [took]
    cases isDeclaration tag <;> rfl

theorem readOn_bracket (h : '>' ∉ tag) (rest : List Char) :
    d.readOn total (bracket tag ++ rest) = (d.took tag).readOn total rest := by
  have cut : bracket tag ++ rest = [] ++ '<' :: (tag ++ '>' :: rest) := by simp [bracket]
  rw [cut, readOn_tag List.not_mem_nil h, text_nil]

/-- An element is read as its two tags and what stands between them. -/
theorem readOn_element {opening inside : List Char} {f : Draft → Draft} (h : '>' ∉ opening)
    (h' : '>' ∉ tag)
    (read : ∀ d : Draft, d.readOn total (inside ++ (close tag ++ rest)) =
      (f d).readOn total (close tag ++ rest)) :
    d.readOn total (bracket opening ++ (inside ++ (close tag ++ rest))) =
      ((f (d.took opening)).took ('/' :: tag)).readOn total rest := by
  have closing : '>' ∉ '/' :: tag := by simp [h']
  rw [readOn_bracket h, read, close, readOn_bracket closing]

/-- Reading on does not depend on how the text before the next tag came about. -/
theorem readOn_append (h : '<' ∉ before) (rest : List Char)
    (same : d.text (before ++ leading rest) = d'.text (leading rest)) :
    d.readOn total (before ++ rest) = d'.readOn total rest := by
  by_cases opens : '<' ∈ rest
  · obtain ⟨text, inner, rfl, clear⟩ := List.eq_append_cons_of_mem opens
    have start : leading (text ++ '<' :: inner) = text := by
      rw [leading, List.takeWhile_append_of_pos]
      · simp
      · intro c hc
        simpa using fun same : c = '<' => clear (same ▸ hc)
    rw [start] at same
    have clear' : '<' ∉ before ++ text := by simp [h, clear]
    rw [← List.append_assoc]
    by_cases closes : '>' ∈ inner
    · obtain ⟨tag, rest, rfl, closed⟩ := List.eq_append_cons_of_mem closes
      rw [readOn_tag clear' closed, readOn_tag clear closed, same]
    · rw [readOn_unended clear' closes, readOn_unended clear closes]
  · have start : leading rest = rest := by
      rw [leading, List.takeWhile_eq_self_iff]
      intro c hc
      simpa using fun same : c = '<' => opens (same ▸ hc)
    rw [start] at same
    rw [readOn_text (by simp [h, opens]), readOn_text opens, same]

/-- **Escaped text on one line is written as it is**, and what follows it is read on its own, unless
a line feed comes before the next tag. -/
theorem readOn_escape (h : '\n' ∉ s) (h' : '\n' ∉ leading rest) :
    d.readOn total (Markdown.escapeAttribute s ++ rest) = (d.write s).readOn total rest := by
  apply readOn_append (Markdown.notMem_escape (by decide) s)
  have together : '\n' ∉ Markdown.escapeAttribute s ++ leading rest := by
    rw [List.mem_append, Markdown.feed_mem_escape_iff, not_or]
    exact ⟨h, h'⟩
  rw [text_of_not_isLayout (not_isLayout_of_notMem together),
    text_of_not_isLayout (not_isLayout_of_notMem h'), Entity.decodeAll_escape, write_write]

/-- Escaped text before a tag or at the end is written unless it is layout. -/
theorem readOn_content (d : Draft) (s : List Char) (h : leading rest = []) :
    d.readOn total (Markdown.escapeAttribute s ++ rest) =
      (d.write (content s)).readOn total rest := by
  apply readOn_append (Markdown.notMem_escape (by decide) s)
  rw [h, List.append_nil, text_escape, text_nil]

/-- A line feed before a tag or at the end is layout. -/
theorem readOn_feed (h : leading rest = []) :
    d.readOn total ('\n' :: rest) = d.readOn total rest := by
  have read := @readOn_content total rest d ['\n'] h
  have layout : content ['\n'] = [] := rfl
  rw [layout, write_nil] at read
  exact read

/-! ## Breaks -/

/-- Nothing was written on the last line. -/
def AtLine (d : Draft) : Prop :=
  d.out = [] ∨ ['\n'] <:+ d.out

/-- Nothing was written since the last blank line. -/
def AtBlock (d : Draft) : Prop :=
  d.out = [] ∨ ['\n', '\n'] <:+ d.out

theorem AtBlock.atLine (h : d.AtBlock) : d.AtLine :=
  h.imp_right (List.suffix_cons '\n' ['\n']).trans

theorem AtLine.lineBreak (h : d.AtLine) : d.lineBreak = d := by
  rw [Draft.lineBreak, if_pos]
  simpa [endsWith, AtLine] using h

theorem AtBlock.blockBreak (h : d.AtBlock) : d.blockBreak = d := by
  rw [Draft.blockBreak, if_pos]
  simpa [endsWith, AtBlock] using h

theorem lineBreak_of_not_atLine (h : ¬d.AtLine) : d.lineBreak = d.write ['\n'] := by
  rw [lineBreak, if_neg]
  simpa [endsWith, AtLine] using h

/-- Something was written on the last line. -/
theorem not_atLine_write (d : Draft) {s : List Char} (filled : s ≠ [])
    (unended : s.getLast? ≠ some '\n') : ¬(d.write s).AtLine := by
  rintro (empty | ⟨front, whole⟩)
  · exact filled (List.append_eq_nil_iff.1 empty).2
  · have whole : front ++ ['\n'] = d.out ++ s := whole
    have last : (d.out ++ s).getLast? = some '\n' := by rw [← whole, List.getLast?_concat]
    rw [List.getLast?_append_of_ne_nil _ filled] at last
    exact unended last

theorem atLine_write_feed (d : Draft) (s : List Char) : (d.write (s ++ ['\n'])).AtLine :=
  .inr ⟨d.out ++ s, by rw [write, List.append_assoc]⟩

theorem atBlock_blockBreak (d : Draft) : d.blockBreak.AtBlock := by
  rw [blockBreak]
  split_ifs with settled ended
  · simpa [endsWith, AtBlock] using settled
  · obtain ⟨front, whole⟩ : ['\n'] <:+ d.out := List.isSuffixOf_iff_suffix.1 ended
    exact .inr ⟨front, by rw [write, ← whole, List.append_assoc]; rfl⟩
  · exact .inr ⟨d.out, rfl⟩

end Draft

/-- What markup is turned into is the draft after all of it, tidied. -/
theorem toMarkdown_of_readOn {d : Draft}
    (h : ∀ total, Draft.readOn {} total s = .ok d) :
    toMarkdown (String.ofList s) = .ok (String.ofList (tidy d.out)) := by
  have read := h (Utf8.size s)
  rw [Draft.readOn] at read
  rw [toMarkdown, String.toList_ofList, toMarkdownText, pieces]
  cases cut : piecesOf (Utf8.size s) s with
  | error cause =>
    rw [cut] at read
    cases read
  | ok ps =>
    rw [cut] at read
    obtain rfl := Except.ok.inj read
    rfl

end NoteDesk.Markup
