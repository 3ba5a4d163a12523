import NoteDesk.Proofs.Tidy

/-!
# Code blocks

The markup of a code block has a tag for the block and one for the code in it, and both are written:
the first as a fence, the second as the mark of code in a line. So no block comes back as it was.

* `Draft.readOn_codeHtml`: what is written for a code block.
* `toMarkdown_codeBlock`: what stands between the fences instead of the code, and when all lines of
  the code are among it. `ticked_code` is a block of one line.
-/

namespace NoteDesk.Markup

/-- The markup of a code block, and of the end of its last line. -/
def codeHtml (code : List Char) : List Char :=
  bracket "pre".toList ++
    (bracket "code".toList ++
      (Markdown.escapeAttribute code ++
        ('\n' :: (close "code".toList ++ (close "pre".toList ++ ['\n'])))))

/-- Text between fences. -/
def fenced (s : List Char) : List Char :=
  "```\n".toList ++ (s ++ "\n```".toList)

/-- Text between the marks of code in a line. -/
def ticked (s : List Char) : List Char :=
  '`' :: (s ++ ['`'])

/-- What is left of the lines of a code block: at most one blank line in a row, and nothing of blank
code, for the line feed after it makes it layout. -/
def codeLines (code : List Char) : List Char :=
  if Text.allBlank code then [] else limitFeeds 0 code ++ ['\n']

theorem isLayout_concat_feed (s : List Char) : isLayout (s ++ ['\n']) = Text.allBlank s := by
  have feed : Text.isBlank '\n' = true := rfl
  simp [isLayout, Text.allBlank, feed]

theorem limitFeeds_content {code : List Char} (h : code.getLast? ≠ some '\n') :
    limitFeeds 0 (content (code ++ ['\n'])) = codeLines code := by
  rw [content, isLayout_concat_feed, codeLines]
  split_ifs with blank
  · rfl
  · obtain rfl | ⟨front, c, rfl⟩ := List.eq_nil_or_concat' code
    · exact absurd rfl blank
    · have hc : c ≠ '\n' := by simpa using h
      rw [List.append_assoc, List.singleton_append, limitFeeds_append_cons hc,
        limitFeeds_append_cons hc, List.append_assoc]
      rfl

/-! ## The draft -/

namespace Draft

theorem took_fence (d : Draft) : d.took "pre".toList = d.blockBreak.write "```\n".toList :=
  rfl

theorem took_close_fence (d : Draft) :
    d.took ('/' :: "pre".toList) = (d.lineBreak.write "```".toList).blockBreak :=
  rfl

theorem took_tick (d : Draft) : d.took "code".toList = d.write ['`'] :=
  rfl

theorem took_close_tick (d : Draft) : d.took ('/' :: "code".toList) = d.write ['`'] :=
  rfl

/-- The draft after a code block. -/
def codeBlock (code : List Char) : Draft :=
  (write {} (fenced (ticked (content (code ++ ['\n']))))).blockBreak

theorem readOn_codeHtml (total : Nat) (code : List Char) :
    readOn {} total (codeHtml code) = .ok (codeBlock code) := by
  have fence : '>' ∉ "pre".toList := by decide
  have tick : '>' ∉ "code".toList := by decide
  -- The line feed that ends the last line stands in one text with the code.
  have elements : codeHtml code = bracket "pre".toList ++
      ((bracket "code".toList ++ (Markdown.escapeAttribute (code ++ ['\n']) ++
        close "code".toList)) ++ (close "pre".toList ++ ['\n'])) := by
    rw [codeHtml, Markdown.escape_append]
    simp only [List.append_assoc]
    rfl
  have inside (d : Draft) :
      d.readOn total ((bracket "code".toList ++ (Markdown.escapeAttribute (code ++ ['\n']) ++
          close "code".toList)) ++ (close "pre".toList ++ ['\n'])) =
        (d.write (ticked (content (code ++ ['\n'])))).readOn total
          (close "pre".toList ++ ['\n']) := by
    rw [List.append_assoc, List.append_assoc,
      readOn_element tick tick fun d => readOn_content d _ rfl, took_tick, took_close_tick,
      write_write, write_write]
    rfl
  have start : blockBreak {} = {} := AtBlock.blockBreak (.inl rfl)
  have unended (s : List Char) : ¬(write {} ("```\n".toList ++ ticked s)).AtLine := by
    apply not_atLine_write
    · exact List.append_ne_nil_of_left_ne_nil (by decide) _
    · rw [ticked, ← List.cons_append, ← List.append_assoc, List.getLast?_concat]
      decide
  rw [elements, readOn_element fence fence inside, took_fence, start, took_close_fence,
    readOn_feed rfl, readOn_nil, write_write, lineBreak_of_not_atLine (unended _), write_write,
    write_write, codeBlock, fenced]
  simp only [List.append_assoc]
  rfl

/-- The fences stay, and line feeds are counted between them. -/
theorem tidy_codeBlock {code : List Char} (h : code.getLast? ≠ some '\n') :
    tidy (codeBlock code).out = fenced (ticked (codeLines code)) := by
  have solid (s : List Char) : Solid (fenced (ticked s)) :=
    ⟨⟨'`', _, rfl, rfl⟩,
      ⟨"```\n`".toList ++ (s ++ "`\n``".toList), '`', by simp [fenced, ticked], rfl⟩⟩
  have tick : '`' ≠ '\n' := by decide
  rw [codeBlock, tidy_out_blockBreak, write, List.nil_append, (solid _).tidy_eq,
    ← limitFeeds_content h, fenced, ticked, List.cons_append, List.append_assoc, limitFeeds_append_cons tick, List.singleton_append,
    limitFeeds_append_cons tick]
  have lines (s : List Char) : fenced (ticked s) =
      "```\n".toList ++ '`' :: (s ++ '`' :: "\n```".toList) := by
    rw [fenced, ticked, List.cons_append, List.append_assoc]
    rfl
  rw [lines]
  rfl

end Draft

/-! ## The markdown -/

theorem fenced_inj {s t : List Char} : fenced s = fenced t ↔ s = t := by
  rw [fenced, fenced, List.append_cancel_left_eq, List.append_cancel_right_eq]

/-- Code without fences in it does not look like code between ticks. -/
theorem ticked_codeLines_ne {code : List Char} (h : ¬"```".toList <:+: code) :
    ticked (codeLines code) ≠ code := by
  intro same
  rw [ticked, codeLines] at same
  split_ifs at same with blank
  · rw [← same] at blank
    cases blank
  -- Every tick that the code begins with brings another one after it.
  · have tick : '`' ≠ '\n' := by decide
    obtain ⟨rest, hrest⟩ : ∃ rest, code = '`' :: rest := ⟨_, same.symm⟩
    have once : limitFeeds 0 code = '`' :: limitFeeds 0 rest := by
      rw [hrest, limitFeeds_cons_of_ne tick]
    rw [once, hrest] at same
    obtain ⟨rest', rfl⟩ : ∃ rest', rest = '`' :: rest' := ⟨_, (List.cons.inj same).2.symm⟩
    rw [limitFeeds_cons_of_ne tick] at same
    obtain ⟨rest'', rfl⟩ : ∃ rest'', rest' = '`' :: rest'' :=
      ⟨_, (List.cons.inj (List.cons.inj same).2).2.symm⟩
    exact h ⟨[], rest'', hrest.symm⟩

/-- All lines of a code block are left unless two of them in a row are empty or all are blank. -/
theorem codeLines_eq_iff (code : List Char) :
    codeLines code = code ++ ['\n'] ↔ Text.allBlank code = false ∧ ¬threeFeeds <:+: code := by
  rw [codeLines]
  split_ifs with blank
  · simp [blank]
  · rw [List.append_cancel_right_eq, limitFeeds_eq_self_iff]
    simp [blank]

/-- **No code block comes back as it was.** The markup of a block that holds code without fences,
and without a line feed at its end, is turned into a block which holds a tick, what is left of the
lines of the code, and another tick. All of these lines are left if no two in a row are empty and not
all are blank. -/
theorem toMarkdown_codeBlock {code : List Char} (unfenced : ¬"```".toList <:+: code)
    (unended : code.getLast? ≠ some '\n') :
    toMarkdown (String.ofList (codeHtml code)) =
        .ok (String.ofList (fenced (ticked (codeLines code)))) ∧
      toMarkdown (String.ofList (codeHtml code)) ≠ .ok (String.ofList (fenced code)) ∧
      (codeLines code = code ++ ['\n'] ↔
        Text.allBlank code = false ∧ ¬threeFeeds <:+: code) := by
  have written : toMarkdown (String.ofList (codeHtml code)) =
      .ok (String.ofList (fenced (ticked (codeLines code)))) := by
    rw [toMarkdown_of_readOn fun total => Draft.readOn_codeHtml total code,
      Draft.tidy_codeBlock unended]
  refine ⟨written, ?_, codeLines_eq_iff code⟩
  rw [written]
  intro same
  have inside := fenced_inj.1 (String.ofList_injective (Except.ok.inj same))
  exact ticked_codeLines_ne unfenced inside

/-- Code with an indented line after two blank ones. -/
def indented : List Char :=
  "if a < b:\n\n\n  \"c\"".toList

/-- One of the two blank lines is lost, and ticks come before the first line and after the last. -/
theorem toMarkdown_codeBlock_indented :
    ¬"```".toList <:+: indented ∧ indented.getLast? ≠ some '\n' ∧
      toMarkdown "<pre><code>if a &lt; b:\n\n\n  &quot;c&quot;\n</code></pre>\n" =
        .ok "```\n`if a < b:\n\n  \"c\"\n`\n```" ∧
      codeLines indented ≠ indented ++ ['\n'] := by
  have unfenced : ¬"```".toList <:+: indented := by decide +kernel
  have unended : indented.getLast? ≠ some '\n' := by decide
  have markup : codeHtml indented =
      "<pre><code>if a &lt; b:\n\n\n  &quot;c&quot;\n</code></pre>\n".toList := by decide
  have lines : codeLines indented = "if a < b:\n\n  \"c\"\n".toList := by decide
  have blanks : threeFeeds <:+: indented := ⟨"if a < b:".toList, "  \"c\"".toList, rfl⟩
  have block : fenced (ticked (codeLines indented)) =
      "```\n`if a < b:\n\n  \"c\"\n`\n```".toList := by
    rw [lines]
    decide
  obtain ⟨written, -, left⟩ := toMarkdown_codeBlock unfenced unended
  rw [markup, block, String.ofList_toList, String.ofList_toList] at written
  exact ⟨unfenced, unended, written, fun same => (left.1 same).2 blanks⟩

/-- A block of one line is not fenced as it stands, but with a tick before it and another on a line
of its own after it. -/
theorem ticked_code :
    String.ofList (codeHtml "print".toList) = "<pre><code>print\n</code></pre>\n" ∧
      String.ofList (fenced "print".toList) = "```\nprint\n```" ∧
      toMarkdown "<pre><code>print\n</code></pre>\n" = .ok "```\n`print\n`\n```" ∧
      toMarkdown "<pre><code>print\n</code></pre>\n" ≠ .ok "```\nprint\n```" := by
  decide +kernel

end NoteDesk.Markup
