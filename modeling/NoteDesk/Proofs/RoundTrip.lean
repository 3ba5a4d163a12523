import NoteDesk.Proofs.Document

/-!
# The round trip of a note

The document of a note, read into any note, field by field.

* `Document.held` are the lines of a text that hold something. `Document.held_normal`: a content
  comes back with just these lines, in their order, whatever they look like.
* `Document.TakesOver` is what the note that was read into takes over from the note written.
* `Document.parse_render_takesOver` is the main result.
-/

namespace NoteDesk

/-! ## Lines that hold something -/

namespace Line

theorem notMem_of_mem_splitOn {α : Type} [BEq α] [LawfulBEq α] {a : α} {s line : List α}
    (h : line ∈ s.splitOn a) : a ∉ line := by
  induction s generalizing line with
  | nil =>
    rw [List.splitOn_nil, List.mem_singleton] at h
    simp [h]
  | cons x s ih =>
    rw [List.splitOn_cons_eq_if_modifyHead] at h
    split_ifs at h with hx
    · rcases List.mem_cons.1 h with rfl | later
      · simp
      · exact ih later
    · obtain ⟨first, rest, pieces⟩ := List.exists_cons_of_ne_nil (List.splitOn_ne_nil a s)
      rw [pieces] at ih h
      rcases List.mem_cons.1 h with rfl | later
      · have other : x ≠ a := by simpa using hx
        simpa [other.symm] using ih List.mem_cons_self
      · exact ih (List.mem_cons_of_mem _ later)

theorem mem_of_mem_trimReturn {s : List Char} {c : Char} (h : c ∈ trimReturn s) : c ∈ s := by
  rw [trimReturn, dropOneEnd] at h
  split_ifs at h
  · exact (List.dropLast_sublist s).subset h
  · exact h

end Line

namespace Document

/-- A line without up to two carriage returns at its end. -/
def trimReturns (line : List Char) : List Char :=
  Line.trimReturn (Line.trimReturn line)

/-- The lines of a text that hold something. -/
def held (s : List Char) : List (List Char) :=
  (s.splitOn '\n').filter (!·.isEmpty)

theorem held_feed_cons (s : List Char) : held ('\n' :: s) = held s := by
  simp [held, List.splitOn_cons_eq_if_modifyHead]

theorem held_concat_feed (s : List Char) : held (s ++ ['\n']) = held s := by
  simp [held, List.splitOn_append_cons_self]

theorem held_dropWhile (s : List Char) : held (s.dropWhile (· == '\n')) = held s := by
  induction s with
  | nil => rfl
  | cons c s ih =>
    by_cases hc : c = '\n'
    · subst hc
      rw [List.dropWhile_cons_of_pos rfl, ih, held_feed_cons]
    · rw [List.dropWhile_cons_of_neg (by simpa using hc)]

theorem held_dropEndWhile (s : List Char) : held (Text.dropEndWhile (· == '\n') s) = held s := by
  induction s using List.reverseRecOn with
  | nil => rfl
  | append_singleton s c ih =>
    by_cases hc : c = '\n'
    · subst hc
      rw [Text.dropEndWhile_concat rfl, ih, held_concat_feed]
    · rw [Text.dropEndWhile, List.reverse_concat, List.dropWhile_cons_of_neg (by simpa using hc),
        ← List.reverse_concat, List.reverse_reverse]

theorem held_trimFeeds (s : List Char) : held (trimFeeds s) = held s := by
  rw [trimFeeds, Text.strip, held_dropEndWhile, held_dropWhile]

/-- Lines joined hold what each of them holds. -/
theorem held_intercalate {lines : List (List Char)} (h : ∀ line ∈ lines, '\n' ∉ line) :
    held (trimFeeds (['\n'].intercalate lines)) = lines.filter (!·.isEmpty) := by
  rw [held_trimFeeds]
  by_cases none : lines = []
  · subst none
    rfl
  · rw [held, List.splitOn_intercalate '\n' h none]

/-- **Every line of a content comes back**, but for carriage returns at its end, if that leaves
something of it. -/
theorem held_normal (s : List Char) :
    held (normal s) = ((s.splitOn '\n').map trimReturns).filter (!·.isEmpty) := by
  apply held_intercalate
  intro line hline feed
  obtain ⟨piece, hpiece, rfl⟩ := List.mem_map.1 hline
  apply Line.notMem_of_mem_splitOn hpiece
  exact Line.mem_of_mem_trimReturn (Line.mem_of_mem_trimReturn feed)

/-! ## A content and its last line feed -/

/-- The text with a line feed at its end. -/
def withLastFeed (s : List Char) : List Char :=
  if s.getLast? = some '\n' then s else s ++ ['\n']

theorem render_eq (n : Note) (m : EditMode) :
    render n m = Header.render n ++ withLastFeed (n.content m.raw).toList := by
  rw [render, withLastFeed]
  split_ifs <;> simp

theorem normal_withLastFeed (s : List Char) : normal (withLastFeed s) = normal s := by
  rw [withLastFeed]
  split_ifs
  · rfl
  · exact normal_concat s

/-! ## Fields -/

end Document

theorem Header.rename_eq (n : Note) (name : List Char) :
    rename n name = { n with
      notebook := if name.isEmpty ∨ name = n.notebookName.toList then n.notebook
        else some (.named (String.ofList name)) } := by
  rw [rename]
  split_ifs <;> rfl

/-- A trimmed name, as text and as string. -/
theorem Text.trim_isEmpty_or_iff (s other : String) :
    ((trim s.toList).isEmpty ∨ trim s.toList = other.toList) ↔
      (trimmed s = "" ∨ trimmed s = other) := by
  rw [trimmed, ← String.toList_inj, ← String.toList_inj, String.toList_ofList, List.isEmpty_iff,
    String.toList_empty]

namespace Document

/-- What `after` takes over from `n`, whose document was read into `t`: the title, the name of its
notebook if that is another one, and the content that the mode works on. -/
structure TakesOver (n t after : Note) (m : EditMode) : Prop where
  title : after.title = Text.trimmed n.title
  notebook : after.notebook =
    if Text.trimmed n.notebookName = "" ∨ Text.trimmed n.notebookName = t.notebookName
      then t.notebook else some (.named (Text.trimmed n.notebookName))
  content : after.content m.raw =
    String.ofList (normal (withLastFeed (n.content m.raw).toList))
  lines : held (after.content m.raw).toList =
    (((n.content m.raw).toList.splitOn '\n').map trimReturns).filter (!·.isEmpty)
  otherContent : after.content (!m.raw) = t.content (!m.raw)
  guid : after.guid = t.guid
  created : after.created = t.created
  updated : after.updated = t.updated
  deleted : after.deleted = t.deleted

variable {n : Note} (ht : '\n' ∉ n.title.toList) (hn : '\n' ∉ n.notebookName.toList)
include ht hn

/-- **The round trip of a note.** The document of a note whose title and notebook name are single
lines is read to its end, into any note, which takes over the title and the name without the blanks
around them and the content in normal form, and otherwise stays what it was. -/
theorem parse_render_takesOver (t : Note) (m : EditMode) :
    ∃ after, parse (Utf8.encode (render n m)) t m = ⟨after, .ok ()⟩ ∧ TakesOver n t after m := by
  refine ⟨_, parse_render ht hn t m, ?_⟩
  have name := Text.trim_isEmpty_or_iff n.notebookName t.notebookName
  have other := Note.content_not_withContent (Header.rename
    { t with title := Text.trimmed n.title } (Text.trim n.notebookName.toList)) m.raw
  rw [Header.rename_eq] at other ⊢
  refine
    { title := by rw [Note.title_withContent]
      notebook := ?_
      content := by rw [Note.content_withContent, normal_withLastFeed]
      lines := by rw [Note.content_withContent, String.toList_ofList, held_normal]
      otherContent := ?_
      guid := ?_
      created := ?_
      updated := ?_
      deleted := ?_ }
  · rw [Note.notebook_withContent]
    simp only [← name]
    rfl
  · rw [other]
    cases m.raw <;> rfl
  all_goals cases m.raw <;> rfl

omit ht hn

/-- A note with blanks around its title and the name of its notebook, and lines in its content that
look like the header's. -/
def fenced : Note where
  title := " Groceries\r"
  md := "\n---\r\r\ntitle: milk\n\nnotebook: eggs\n"
  notebook := some (.named "\tHome ")

theorem parse_render_takesOver_fenced :
    '\n' ∉ fenced.title.toList ∧ '\n' ∉ fenced.notebookName.toList ∧
      ∃ after, parse (Utf8.encode (render fenced {})) { guid := "n", body := "bread" } {} =
          ⟨after, .ok ()⟩ ∧
        after.title = "Groceries" ∧ after.notebook = some (.named "Home") ∧
        after.md = "---\ntitle: milk\n\nnotebook: eggs" ∧ after.body = "bread" := by
  have title : '\n' ∉ fenced.title.toList := by decide
  have name : '\n' ∉ fenced.notebookName.toList := by decide
  obtain ⟨after, parsed, takesOver⟩ :=
    parse_render_takesOver title name { guid := "n", body := "bread" } {}
  refine ⟨title, name, after, parsed, ?_, ?_, ?_, takesOver.otherContent⟩
  · rw [takesOver.title]
    decide
  · rw [takesOver.notebook]
    decide
  · exact takesOver.content.trans (by decide +kernel)

end Document
end NoteDesk
