import NoteDesk.Proofs.Grammar

/-!
# Headers that leak

The reader of a document takes the first line that reads as the delimiter for the end of the
header. A title or the name of a notebook may hold such a line, and the header then ends there: the
lines after it, the delimiter that was meant included, become content.

* `Header.fieldLines` are the lines between the delimiters that the writer of a header sets, and
  `Header.leaked` those that the reader takes for content.
* `Header.Sealed`: title and notebook name have no line, after their first, that reads as the
  delimiter. `Header.leaked_eq_nil_iff`: then nothing leaks, and only then.
* `Document.contentLines_render` are the content lines of the document of any note.
* `Document.roundTrip_content` is the main result, for notes whose title and notebook name are any
  strings; `Document.leaky` is a note whose content does not come back.
-/

namespace NoteDesk

/-! ## Lines of a text in two parts -/

namespace Document

theorem lines_append_cons (s t : List Char) :
    lines (s ++ '\n' :: t) = (s.splitOn '\n').map trimReturns ++ lines t := by
  have pieces := List.splitOn_ne_nil '\n' t
  rw [lines, List.splitOn_append_cons_self, List.dropLast_append_of_ne_nil pieces,
    List.getLast?_append_of_ne_nil _ pieces, List.map_append, List.append_assoc, lines]

theorem afterDelimiter_append (ls ls' : List (List Char)) :
    afterDelimiter (ls ++ ls') =
      if Header.delimiter ∈ ls then afterDelimiter ls ++ ls' else afterDelimiter ls' := by
  induction ls with
  | nil => rfl
  | cons line ls ih =>
    rw [List.cons_append, afterDelimiter_cons, afterDelimiter_cons]
    by_cases delimits : line = Header.delimiter
    · simp [delimits]
    · simp [delimits, ih, Ne.symm delimits]

theorem exists_withLastFeed_eq (s : List Char) : ∃ body, withLastFeed s = body ++ ['\n'] := by
  rw [withLastFeed]
  split_ifs with ends
  · exact List.getLast?_eq_some_iff.1 ends
  · exact ⟨s, rfl⟩

theorem lines_concat (s : List Char) :
    lines (s ++ ['\n']) = (s.splitOn '\n').map trimReturns := by
  rw [lines_append_cons, show lines [] = [] from rfl, List.append_nil]

/-- A content as it reads back, from the lines that a document has of it. -/
theorem normal_eq (s : List Char) :
    normal (withLastFeed s) = trimFeeds (['\n'].intercalate (lines (withLastFeed s))) := by
  obtain ⟨body, ended⟩ := exists_withLastFeed_eq s
  rw [ended, normal_concat, lines_concat]
  rfl

end Document

/-! ## The lines of a header -/

namespace Header

open Document

/-- The lines between the delimiters, as a reader trims them. -/
def fieldLines (n : Note) : List (List Char) :=
  let notebook := n.notebookName.toList
  ((titleField ++ ' ' :: n.title.toList).splitOn '\n').map trimReturns ++
    if notebook.isEmpty then []
    else ((notebookField ++ ' ' :: notebook).splitOn '\n').map trimReturns

theorem lines_render_append (n : Note) (rest : List Char) :
    lines (render n ++ rest) = delimiter :: fieldLines n ++ delimiter :: lines rest := by
  have delimits (s : List Char) : lines (delimiter ++ '\n' :: s) = delimiter :: lines s :=
    lines_append_cons delimiter s
  cases hnb : n.notebookName.toList with
  | nil =>
    have shape : render n ++ rest = delimiter ++ '\n' ::
        ((titleField ++ ' ' :: n.title.toList) ++ '\n' :: (delimiter ++ '\n' :: rest)) := by
      simp [render, hnb]
    rw [shape, delimits, lines_append_cons, delimits]
    simp [fieldLines, hnb]
  | cons c s =>
    have shape : render n ++ rest = delimiter ++ '\n' ::
        ((titleField ++ ' ' :: n.title.toList) ++ '\n' ::
          ((notebookField ++ ' ' :: (c :: s)) ++ '\n' :: (delimiter ++ '\n' :: rest))) := by
      simp [render, hnb]
    rw [shape, delimits, lines_append_cons, lines_append_cons, delimits]
    simp [fieldLines, hnb]

/-- What the reader takes for content of the header: the lines after the first that reads as the
delimiter, and the delimiter that closes the header. -/
def leaked (n : Note) : List (List Char) :=
  if delimiter ∈ fieldLines n then afterDelimiter (fieldLines n) ++ [delimiter] else []

/-- No line of the title or of the notebook name reads as the delimiter. The first lines do not
count: they stand after the names of their fields. -/
def Sealed (n : Note) : Prop :=
  ∀ line ∈ (n.title.toList.splitOn '\n').tail ++ (n.notebookName.toList.splitOn '\n').tail,
    trimReturns line ≠ delimiter

instance (n : Note) : Decidable (Sealed n) :=
  inferInstanceAs (Decidable (∀ line ∈ _, _))

/-- Where a delimiter stands among the lines of a field. -/
theorem delimiter_mem_lines_iff {name : List Char} (hname : IsName name) (value : List Char) :
    delimiter ∈ ((name ++ ' ' :: value).splitOn '\n').map trimReturns ↔
      ∃ line ∈ (value.splitOn '\n').tail, trimReturns line = delimiter := by
  have noFeed : '\n' ∉ name ++ [' '] := by simp [hname.feed]
  have noReturn : '\r' ∉ name ++ [' '] := by simp [hname.ret]
  obtain ⟨first, rest, pieces⟩ := List.exists_cons_of_ne_nil (List.splitOn_ne_nil '\n' value)
  have cut : (name ++ ' ' :: value).splitOn '\n' = (name ++ [' '] ++ first) :: rest := by
    rw [List.append_cons, Utf8.splitOn_append_of_notMem noFeed, pieces, List.modifyHead_cons]
  have other : trimReturns (name ++ [' '] ++ first) ≠ delimiter := by
    rw [trimReturns, trimReturn_append noReturn, trimReturn_append noReturn, List.append_assoc]
    exact hname.other _
  rw [cut, pieces, List.map_cons, List.mem_cons, or_iff_right other.symm, List.mem_map,
    List.tail_cons]

theorem delimiter_mem_fieldLines_iff (n : Note) : delimiter ∈ fieldLines n ↔ ¬ Sealed n := by
  have notebook : delimiter ∈ (if n.notebookName.toList.isEmpty then []
        else ((notebookField ++ ' ' :: n.notebookName.toList).splitOn '\n').map trimReturns) ↔
      ∃ line ∈ (n.notebookName.toList.splitOn '\n').tail, trimReturns line = delimiter := by
    split_ifs with empty
    · rw [List.isEmpty_iff.1 empty]
      simp
    · exact delimiter_mem_lines_iff isName_notebook _
  rw [fieldLines, List.mem_append, delimiter_mem_lines_iff isName_title, notebook, Sealed]
  simp only [List.mem_append, or_imp, forall_and, not_and_or, not_forall, not_not, exists_prop]

/-- **A header leaks unless it is sealed.** -/
theorem leaked_eq_nil_iff (n : Note) : leaked n = [] ↔ Sealed n := by
  rw [leaked]
  split_ifs with early
  · simpa using (delimiter_mem_fieldLines_iff n).1 early
  · simpa [delimiter_mem_fieldLines_iff] using early

/-- What leaks holds something: the delimiter that closes the header is part of it. -/
theorem filter_leaked_eq_nil_iff {n : Note} :
    (leaked n).filter (!·.isEmpty) = [] ↔ leaked n = [] := by
  rw [leaked]
  split_ifs
  · simp [delimiter]
  · rfl

end Header

/-! ## Documents -/

namespace Document

open Header

/-- **The content lines of the document of a note**, whatever its title and notebook name are. All
lines of the content are among them. -/
theorem contentLines_render (n : Note) (m : EditMode) :
    contentLines (lines (render n m)) =
      leaked n ++ lines (withLastFeed (n.content m.raw).toList) := by
  rw [render_eq, lines_render_append, contentLines, List.cons_append, afterDelimiter_cons,
    if_pos rfl, afterDelimiter_append, leaked]
  split_ifs
  · simp
  · rw [afterDelimiter_cons, if_pos rfl, List.nil_append]

theorem notMem_of_mem_lines {s line : List Char} (h : line ∈ lines s) : '\n' ∉ line := by
  intro feed
  rcases List.mem_append.1 h with full | last
  · obtain ⟨piece, mem, rfl⟩ := List.mem_map.1 full
    apply Line.notMem_of_mem_splitOn (List.dropLast_subset _ mem)
    exact Line.mem_of_mem_trimReturn (Line.mem_of_mem_trimReturn feed)
  · obtain ⟨piece, mem, rfl⟩ := Option.map_eq_some_iff.1 (Option.mem_toList.1 last)
    apply Line.notMem_of_mem_splitOn (List.mem_of_getLast? (Option.filter_eq_some_iff.1 mem).1)
    exact Line.mem_of_mem_trimReturn feed

theorem afterDelimiter_subset (ls : List (List Char)) : afterDelimiter ls ⊆ ls :=
  ((List.tail_sublist _).trans (List.dropWhile_sublist _)).subset

/-- A content holds just the lines of the text that are content and hold something. -/
theorem held_contentText (s : List Char) :
    held (contentText (lines s)).toList = (contentLines (lines s)).filter (!·.isEmpty) := by
  rw [contentText, String.toList_ofList]
  apply held_intercalate
  intro line mem
  exact notMem_of_mem_lines (afterDelimiter_subset _ (afterDelimiter_subset _ mem))

/-- **The content of any note in a round trip**, whatever strings its title and the name of its
notebook are. The round trip succeeds, and the content keeps all its lines; above them stands what
leaks of the header. So the content comes back in normal form if the header is sealed, and only
then. -/
theorem roundTrip_content (n : Note) (m : EditMode) :
    ∃ after, roundTrip n m = .ok after ∧
      after.content m.raw = String.ofList (trimFeeds (['\n'].intercalate
        (leaked n ++ lines (withLastFeed (n.content m.raw).toList)))) ∧
      held (after.content m.raw).toList =
        (leaked n ++ lines (withLastFeed (n.content m.raw).toList)).filter (!·.isEmpty) ∧
      (after.content m.raw = String.ofList (normal (withLastFeed (n.content m.raw).toList)) ↔
        Sealed n) := by
  obtain ⟨after, done, content⟩ := exists_roundTrip n m
  have whole := held_contentText (render n m)
  rw [← content, contentLines_render] at whole
  rw [contentText, contentLines_render] at content
  refine ⟨after, done, content, whole, ?_⟩
  rw [← leaked_eq_nil_iff]
  constructor
  · intro normalized
    have bare : held (after.content m.raw).toList =
        (lines (withLastFeed (n.content m.raw).toList)).filter (!·.isEmpty) := by
      rw [normalized, String.toList_ofList, normal_eq]
      exact held_intercalate fun _ => notMem_of_mem_lines
    rw [bare, List.filter_append] at whole
    exact filter_leaked_eq_nil_iff.1 (List.append_left_eq_self.1 whole.symm)
  · intro sealed
    rw [content, sealed, List.nil_append, normal_eq]

/-- A note whose title has a line that reads as the delimiter. -/
def leaky : Note where
  title := "to buy\n---\nsoon"
  md := "milk"

/-- A line of the title becomes content. -/
theorem leaky_roundTrip :
    ∃ after, roundTrip leaky {} = .ok after ∧
      after.content false = "soon\n---\nmilk" ∧
      String.ofList (normal (withLastFeed (leaky.content false).toList)) = "milk" := by
  obtain ⟨after, done, content⟩ := exists_roundTrip leaky {}
  refine ⟨after, done, content.trans ?_, ?_⟩
  · decide +kernel
  · decide +kernel

end Document
end NoteDesk
