import NoteDesk.Proofs.Tidy

/-!
# Lines of a checklist

The service keeps every line of a note in an element of its own: a blank line, or text with or
without a box to be checked before it. Each of them is turned into one line of markdown.

* `Draft.readOn_entry`: a line is written where one is begun, and is ended. `Draft.readOn_entries`
  is a run over lines.
* `toMarkdown_entries` is the main result.
-/

namespace NoteDesk.Markup

/-- A blank line, or a line with a box, which may be checked, or text, or both. -/
inductive Entry where
  | blank
  | line (box : Option Bool) (text : OneLine) (filled : box.isSome ∨ text.chars ≠ [])

namespace Entry

def boxTag : Bool → List Char
  | true => "en-todo checked=\"true\"/".toList
  | false => "en-todo/".toList

def boxSign : Bool → List Char
  | true => "[x] ".toList
  | false => "[ ] ".toList

/-- The markup of a box, if there is one. -/
def boxHtml : Option Bool → List Char
  | none => []
  | some checked => bracket (boxTag checked)

def boxMarkdown : Option Bool → List Char
  | none => []
  | some checked => boxSign checked

def html : Entry → List Char
  | blank => bracket "div".toList ++ (bracket "br/".toList ++ close "div".toList)
  | line box text _ =>
    bracket "div".toList ++
      (boxHtml box ++ (Markdown.escapeAttribute text.chars ++ close "div".toList))

def markdown : Entry → List Char
  | blank => []
  | line box text _ => boxMarkdown box ++ text.chars

theorem feed_notMem_markdown (e : Entry) : '\n' ∉ e.markdown := by
  cases e with
  | blank => exact List.not_mem_nil
  | line box text =>
    rw [markdown, List.mem_append, not_or]
    refine ⟨?_, text.noFeed⟩
    rcases box with _ | checked
    · exact List.not_mem_nil
    · cases checked <;> decide

theorem markdown_ne_nil {box : Option Bool} {text : OneLine}
    (filled : box.isSome ∨ text.chars ≠ []) : (line box text filled).markdown ≠ [] := by
  rw [markdown]
  rcases box with _ | checked
  · exact filled.resolve_left Bool.false_ne_true
  · cases checked <;> exact List.cons_ne_nil _ _

end Entry

namespace Draft

variable {d : Draft} {total : Nat} {rest : List Char}

theorem took_line (d : Draft) : d.took "div".toList = d.lineBreak :=
  rfl

theorem took_close_line (d : Draft) : d.took ('/' :: "div".toList) = d.lineBreak :=
  rfl

theorem took_feed (d : Draft) : d.took "br/".toList = d.write ['\n'] :=
  rfl

theorem took_box (d : Draft) (checked : Bool) :
    d.took (Entry.boxTag checked) = d.write (Entry.boxSign checked) := by
  cases checked <;> rfl

theorem readOn_box (d : Draft) (box : Option Bool) :
    d.readOn total (Entry.boxHtml box ++ rest) =
      (d.write (Entry.boxMarkdown box)).readOn total rest := by
  cases box with
  | none => rw [Entry.boxMarkdown, write_nil, Entry.boxHtml, List.nil_append]
  | some checked =>
    have apart : '>' ∉ Entry.boxTag checked := by cases checked <;> decide
    rw [Entry.boxHtml, readOn_bracket apart, took_box, Entry.boxMarkdown]

/-- **A line is written as its markdown, and is ended**, if the one before it was. -/
theorem AtLine.readOn_entry (h : d.AtLine) (e : Entry) :
    d.readOn total (e.html ++ rest) = (d.write (e.markdown ++ ['\n'])).readOn total rest := by
  have apart : '>' ∉ "div".toList := by decide
  cases e with
  | blank =>
    have feed : '>' ∉ "br/".toList := by decide
    have ended : (d.write ['\n']).AtLine := atLine_write_feed d []
    rw [Entry.html, List.append_assoc, List.append_assoc,
      readOn_element apart apart fun _ => readOn_bracket feed _, took_line, h.lineBreak, took_feed,
      took_close_line, ended.lineBreak, Entry.markdown, List.nil_append]
  | line box text filled =>
    have noFeed : '\n' ∉ leading (close "div".toList ++ rest) := List.not_mem_nil
    have unended : ¬(d.write (Entry.boxMarkdown box ++ text.chars)).AtLine :=
      not_atLine_write d (Entry.markdown_ne_nil filled) fun feed =>
        (Entry.line box text filled).feed_notMem_markdown (List.mem_of_getLast? feed)
    have inside (d : Draft) :
        d.readOn total (Entry.boxHtml box ++ Markdown.escapeAttribute text.chars ++
            (close "div".toList ++ rest)) =
          (d.write (Entry.boxMarkdown box ++ text.chars)).readOn total
            (close "div".toList ++ rest) := by
      rw [List.append_assoc, readOn_box, readOn_escape text.noFeed noFeed, write_write]
    rw [Entry.html, List.append_assoc, ← List.append_assoc (Entry.boxHtml box), List.append_assoc,
      readOn_element apart apart inside, took_line, h.lineBreak, took_close_line,
      lineBreak_of_not_atLine unended, write_write, Entry.markdown]

/-- A run over lines. -/
theorem AtLine.readOn_entries (h : d.AtLine) (entries : List Entry) :
    d.readOn total (entries.flatMap Entry.html) =
      .ok (d.write ((entries.map Entry.markdown).flatMap (· ++ ['\n']))) := by
  induction entries generalizing d with
  | nil => rw [List.flatMap_nil, readOn_nil, List.map_nil, List.flatMap_nil, write_nil]
  | cons e entries ih =>
    rw [List.flatMap_cons, h.readOn_entry, ih (atLine_write_feed d e.markdown), write_write,
      List.map_cons, List.flatMap_cons]

end Draft

/-- **Every line is turned into one line of markdown.** The lines of a note in the service's format
are converted, to their markdown line by line. Of several blank lines in a row one is left, and no
other line is lost, merged or split. -/
theorem toMarkdown_entries (entries : List Entry) :
    toMarkdown (String.ofList (entries.flatMap Entry.html)) =
        .ok (String.ofList (tidy (['\n'].intercalate (entries.map Entry.markdown)))) ∧
      tidy (['\n'].intercalate (entries.map Entry.markdown)) =
        Text.trim (['\n'].intercalate (oneBlank (entries.map Entry.markdown))) := by
  have start : Draft.AtLine {} := .inl rfl
  constructor
  · rw [toMarkdown_of_readOn fun total => start.readOn_entries entries, Draft.write,
      List.nil_append, tidy_flatMap_append rfl]
  · apply tidy_lines
    intro line hline
    obtain ⟨e, -, rfl⟩ := List.mem_map.1 hline
    exact e.feed_notMem_markdown

example :
    String.ofList ([Entry.line (some true) ⟨"milk & eggs".toList, by decide⟩ (.inl rfl),
        .blank].flatMap Entry.html) =
      "<div><en-todo checked=\"true\"/>milk &amp; eggs</div><div><br/></div>" := by
  decide +kernel

end NoteDesk.Markup
