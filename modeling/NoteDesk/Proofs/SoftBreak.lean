import NoteDesk.Proofs.Block

/-!
# Line breaks in paragraphs

The lines of a paragraph have a line feed between them, and it stands in the text between two tags
like any other character. `cut` cuts the lines into these texts and the spans around them.

* `Draft.readOn_parts`: a text that is layout is lost, and nothing else is.
* `Parts.tidy_kept_eq_iff`: before the first span and after the last one that makes no difference.
* `toMarkdown_paragraph` is the main result: the lines stay apart unless there are only blanks, and
  the line feed, between one span and the next. `glued_paragraph` is a paragraph that loses one.
-/

namespace NoteDesk.Markup

/-- A span that is not text. -/
structure Tagged where
  span : Span
  notText : span.isText = false

/-- The parts of a text in lines: what comes before the first tag, and all that is between tags,
each with the text up to the next tag. -/
structure Parts where
  start : List Char
  rest : List (Tagged × List Char)

namespace Parts

/-- The parts of no text at all. -/
def none : Parts :=
  ⟨[], []⟩

/-- The parts of a text with a span before it. -/
def after (x : Span) (p : Parts) : Parts :=
  if h : x.isText = false then ⟨[], (⟨x, h⟩, p.start) :: p.rest⟩
  else ⟨x.markdown ++ p.start, p.rest⟩

/-- The parts of a text with a line feed before it. -/
def afterFeed (p : Parts) : Parts :=
  ⟨'\n' :: p.start, p.rest⟩

/-- Parts put together again, with spans and text written in some way. -/
def spell (span : Span → List Char) (text : List Char → List Char) (p : Parts) : List Char :=
  text p.start ++ p.rest.flatMap fun (x, t) => span x.span ++ text t

theorem spell_cons (span : Span → List Char) (text : List Char → List Char) (start t : List Char)
    (x : Tagged) (rest : List (Tagged × List Char)) :
    spell span text ⟨start, (x, t) :: rest⟩ =
      text start ++ (span x.span ++ spell span text ⟨t, rest⟩) := by
  simp [spell]

def html : Parts → List Char :=
  spell Span.html Markdown.escapeAttribute

def markdown : Parts → List Char :=
  spell Span.markdown id

/-- What is left if all text that is layout is taken out. -/
def kept : Parts → List Char :=
  spell Span.markdown content

/-- The texts from one tag to the next. -/
def between (p : Parts) : List (List Char) :=
  (p.rest.map Prod.snd).dropLast

end Parts

/-- Lines as parts. -/
def cut : List (List Span) → Parts
  | [] => .none
  | [line] => line.foldr .after .none
  | line :: next :: lines => line.foldr .after (cut (next :: lines)).afterFeed

/-! ## Cutting -/

section spelling

variable {span : Span → List Char} {text : List Char → List Char}

/-- Cutting only takes apart. -/
theorem Parts.spell_foldr_after (append : ∀ s t, text (s ++ t) = text s ++ text t)
    (same : ∀ t, span (.text t) = text t.chars) (line : List Span) (p : Parts) :
    (line.foldr after p).spell span text = line.flatMap span ++ p.spell span text := by
  have empty : text [] = [] := by simpa using append [] []
  induction line with
  | nil => rfl
  | cons x line ih =>
    rw [List.foldr_cons, List.flatMap_cons, List.append_assoc, ← ih]
    cases x with
    | text t => simp [after, Span.isText, Span.markdown, spell, append, same]
    | marked m inside => simp [after, Span.isText, spell, empty]
    | link target inside => simp [after, Span.isText, spell, empty]

theorem spell_cut (append : ∀ s t, text (s ++ t) = text s ++ text t)
    (same : ∀ t, span (.text t) = text t.chars) (lines : List (List Span)) :
    (cut lines).spell span text = (text ['\n']).intercalate (lines.map (·.flatMap span)) := by
  have empty : text [] = [] := by simpa using append [] []
  induction lines with
  | nil => simp [cut, Parts.none, Parts.spell, empty]
  | cons line lines ih =>
    cases lines with
    | nil =>
      rw [cut, Parts.spell_foldr_after append same]
      simp [Parts.none, Parts.spell, empty]
    | cons next lines =>
      have feed : (cut (next :: lines)).afterFeed.spell span text =
          text ['\n'] ++ (cut (next :: lines)).spell span text := by
        rw [Parts.spell, Parts.afterFeed, ← List.singleton_append, append, List.append_assoc]
        rfl
      rw [cut, Parts.spell_foldr_after append same, feed, ih, List.map_cons, List.map_cons,
        List.map_cons, List.intercalate_cons_cons, List.append_assoc]

end spelling

theorem Span.htmlAll_eq_flatMap (spans : List Span) : htmlAll spans = spans.flatMap html := by
  induction spans with
  | nil => rfl
  | cons x spans ih => rw [htmlAll, ih, List.flatMap_cons]

theorem Span.markdownAll_eq_flatMap (spans : List Span) :
    markdownAll spans = spans.flatMap markdown := by
  induction spans with
  | nil => rfl
  | cons x spans ih => rw [markdownAll, ih, List.flatMap_cons]

theorem html_cut (lines : List (List Span)) :
    (cut lines).html = ['\n'].intercalate (lines.map Span.htmlAll) := by
  rw [Parts.html, spell_cut Markdown.escape_append (fun _ => rfl), funext Span.htmlAll_eq_flatMap]
  rfl

theorem markdown_cut (lines : List (List Span)) :
    (cut lines).markdown = ['\n'].intercalate (lines.map Span.markdownAll) := by
  rw [Parts.markdown, spell_cut (fun _ _ => rfl) (fun _ => rfl), funext Span.markdownAll_eq_flatMap]
  rfl

/-! ## The draft -/

namespace Draft

variable {total : Nat} {rest : List Char}

/-- **Parts are written without the text that is layout.** -/
theorem readOn_parts (d : Draft) (p : Parts) (h : leading rest = []) :
    d.readOn total (p.html ++ rest) = (d.write p.kept).readOn total rest := by
  obtain ⟨start, parts⟩ := p
  induction parts generalizing d start with
  | nil =>
    simpa [Parts.html, Parts.kept, Parts.spell] using readOn_content d start h
  | cons part parts ih =>
    obtain ⟨x, t⟩ := part
    have opens (more : List Char) : leading (x.span.html ++ more) = [] := by
      obtain ⟨x, notText⟩ := x
      cases x with
      | text => cases notText
      | marked => rfl
      | link => rfl
    have free {more : List Char} : x.span.isText = true → '\n' ∉ leading more := by
      simp [x.notText]
    rw [Parts.html, Parts.kept, Parts.spell_cons, Parts.spell_cons, List.append_assoc,
      List.append_assoc, readOn_content d start (opens _), readOn_span _ x.span free, ← Parts.html,
      ih, write_write, write_write, Parts.kept]

end Draft

/-! ## Tidying -/

theorem Mark.solid_sign (m : Mark) : Solid m.sign := by
  cases m with
  | strong => exact ⟨⟨'*', ['*'], rfl, rfl⟩, ⟨['*'], '*', rfl, rfl⟩⟩
  | emphasis => exact ⟨⟨'*', [], rfl, rfl⟩, ⟨[], '*', rfl, rfl⟩⟩
  | strike => exact ⟨⟨'~', ['~'], rfl, rfl⟩, ⟨['~'], '~', rfl, rfl⟩⟩
  | code => exact ⟨⟨'`', [], rfl, rfl⟩, ⟨[], '`', rfl, rfl⟩⟩

theorem Tagged.solid_markdown (x : Tagged) : Solid x.span.markdown := by
  obtain ⟨x, notText⟩ := x
  cases x with
  | text => cases notText
  | marked m inside =>
    rw [Span.markdown]
    exact m.solid_sign.append_append m.solid_sign _
  | link target inside =>
    have opens : Solid "[".toList := ⟨⟨'[', [], rfl, rfl⟩, ⟨[], '[', rfl, rfl⟩⟩
    have closes : Solid ")".toList := ⟨⟨')', [], rfl, rfl⟩, ⟨[], ')', rfl, rfl⟩⟩
    have around := opens.append_append closes (Span.markdownAll inside ++ ("](".toList ++ target))
    rwa [List.append_assoc, List.append_assoc] at around

namespace Parts

theorem kept_cons (start t : List Char) (x : Tagged) (rest : List (Tagged × List Char)) :
    kept ⟨start, (x, t) :: rest⟩ = content start ++ (x.span.markdown ++ kept ⟨t, rest⟩) :=
  spell_cons ..

theorem markdown_cons (start t : List Char) (x : Tagged) (rest : List (Tagged × List Char)) :
    markdown ⟨start, (x, t) :: rest⟩ = start ++ (x.span.markdown ++ markdown ⟨t, rest⟩) :=
  spell_cons ..

/-- The dropping of layout brings nothing new. -/
theorem ending_kept_sublist (p : Parts) : (ending p.kept).Sublist (ending p.markdown) := by
  obtain ⟨start, rest⟩ := p
  induction rest generalizing start with
  | nil =>
    have last : ending (content start) = ending start := ending_content start
    simpa [kept, markdown, spell] using last ▸ List.Sublist.refl _
  | cons part rest ih =>
    obtain ⟨x, t⟩ := part
    have first : (limitFeeds 0 (content start)).Sublist (limitFeeds 0 start) := by
      rw [content]
      split_ifs
      · exact List.nil_sublist _
      · exact .refl _
    rw [kept_cons, markdown_cons, x.solid_markdown.ending_append, x.solid_markdown.ending_append]
    exact first.append ((List.Sublist.refl _).append (ih t))

/-- After a tag, all texts count but the last. -/
theorem ending_kept_eq_iff (p : Parts) :
    ending p.kept = ending p.markdown ↔
      ∀ t ∈ (p.start :: p.rest.map Prod.snd).dropLast, isLayout t = false := by
  obtain ⟨start, rest⟩ := p
  induction rest generalizing start with
  | nil => simp [kept, markdown, spell, ending_content]
  | cons part rest ih =>
    obtain ⟨x, t⟩ := part
    rw [kept_cons, markdown_cons, x.solid_markdown.ending_append, x.solid_markdown.ending_append]
    cases layout : isLayout start with
    | false =>
      rw [content, layout, if_neg Bool.false_ne_true, List.append_cancel_left_eq,
        List.append_cancel_left_eq, ih]
      simp [layout]
    | true =>
      -- At least one line feed of the text would be left, and it is missed whatever follows.
      refine iff_of_false (fun same => ?_) (fun all => ?_)
      · have lengths := congrArg List.length same
        have shorter := (ending_kept_sublist ⟨t, rest⟩).length_le
        have filled : start ≠ [] := by rintro rfl; cases layout
        have lost := List.length_pos_iff.2 (limitFeeds_ne_nil filled)
        rw [content, layout, if_pos rfl, limitFeeds, List.nil_append] at lengths
        simp only [List.length_append] at lengths
        omega
      · have first := all start (by simp)
        rw [layout] at first
        cases first

/-- **Only a text from one tag to the next is missed.** -/
theorem tidy_kept_eq_iff (p : Parts) :
    tidy p.kept = tidy p.markdown ↔ ∀ t ∈ p.between, isLayout t = false := by
  obtain ⟨start, rest⟩ := p
  cases rest with
  | nil =>
    have whole := tidy_content_append start []
    simpa [kept, markdown, spell, between] using whole
  | cons part rest =>
    obtain ⟨x, t⟩ := part
    rw [kept_cons, markdown_cons, tidy_content_append, x.solid_markdown.tidy_append,
      x.solid_markdown.tidy_append, List.append_cancel_left_eq, List.append_cancel_left_eq,
      ending_kept_eq_iff]
    rfl

end Parts

/-! ## Paragraphs -/

/-- The markup of a paragraph in lines, and of the end of the last one. -/
def paragraphHtml (lines : List (List Span)) : List Char :=
  bracket "p".toList ++
    (['\n'].intercalate (lines.map Span.htmlAll) ++ (close "p".toList ++ ['\n']))

theorem Draft.readOn_paragraph (total : Nat) (lines : List (List Span)) :
    readOn {} total (paragraphHtml lines) = .ok (write {} (cut lines).kept).blockBreak := by
  have apart : '>' ∉ "p".toList := by decide
  have start : blockBreak {} = {} := AtBlock.blockBreak (.inl rfl)
  rw [paragraphHtml, ← html_cut, readOn_element apart apart fun d => readOn_parts d _ rfl,
    took_paragraph, start, took_close_paragraph, readOn_feed rfl, readOn_nil]

/-- **Which line breaks of a paragraph are kept.** Of the texts between tags, those that are layout
are lost. So a paragraph is turned into its markdown, line by line, unless one of the texts from one
tag to the next is layout: a line break that has nothing but blanks around it. -/
theorem toMarkdown_paragraph (lines : List (List Span)) :
    toMarkdown (String.ofList (paragraphHtml lines)) =
        .ok (String.ofList (tidy (cut lines).kept)) ∧
      (toMarkdown (String.ofList (paragraphHtml lines)) =
          .ok (String.ofList (tidy (['\n'].intercalate (lines.map Span.markdownAll)))) ↔
        ∀ t ∈ (cut lines).between, isLayout t = false) := by
  have written : toMarkdown (String.ofList (paragraphHtml lines)) =
      .ok (String.ofList (tidy (cut lines).kept)) := by
    rw [toMarkdown_of_readOn fun total => Draft.readOn_paragraph total lines, tidy_out_blockBreak]
    rfl
  refine ⟨written, ?_⟩
  rw [written, Except.ok.injEq, String.ofList_inj, ← markdown_cut, Parts.tidy_kept_eq_iff]

/-- A line with a strong word in it, and one with a stressed word. -/
def twoWords : List (List Span) :=
  [[.marked .strong [.text ⟨"milk".toList, by decide⟩]],
    [.marked .emphasis [.text ⟨"eggs".toList, by decide⟩]]]

/-- The words of two lines run into one, and their marks with them. -/
theorem glued_paragraph :
    String.ofList (paragraphHtml twoWords) =
        "<p><strong>milk</strong>\n<em>eggs</em></p>\n" ∧
      String.ofList (tidy (['\n'].intercalate (twoWords.map Span.markdownAll))) =
        "**milk**\n*eggs*" ∧
      toMarkdown "<p><strong>milk</strong>\n<em>eggs</em></p>\n" = .ok "**milk***eggs*" ∧
      toMarkdown "<p><strong>milk</strong>\n<em>eggs</em></p>\n" ≠ .ok "**milk**\n*eggs*" := by
  decide +kernel

end NoteDesk.Markup
