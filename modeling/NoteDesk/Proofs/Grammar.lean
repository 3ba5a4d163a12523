import Mathlib.Data.List.TakeWhile
import NoteDesk.Proofs.Header
import NoteDesk.Proofs.RoundTrip

/-!
# The grammar of documents

What a document says, told without reading it line by line: the lines between its first delimiter
and the next one give fields, and the lines after that are the content. All other lines say nothing.

* `Document.lines`, `Document.block` and `Document.contentLines` cut a text into its parts,
  `Document.values` are the values that the block gives a field.
* `Header.read_map_some` takes the reader through the parts, `Header.title_foldl_field` and
  `Header.notebook_foldl_field` are what the lines of the block leave.
* `Document.parse_encode`: what a document makes of a note, and `Document.parse_grammar` the same
  field by field.
-/

namespace NoteDesk

namespace Document

/-! ## The parts of a document -/

/-- The lines of a text, without up to two carriage returns at the end of each. The last piece,
which no line feed ended, is a line if it holds something, and only one carriage return is dropped
at its end. -/
def lines (s : List Char) : List (List Char) :=
  (s.splitOn '\n').dropLast.map trimReturns ++
    (((s.splitOn '\n').getLast?.filter (!·.isEmpty)).map Line.trimReturn).toList

/-- The lines after the first delimiter. -/
def afterDelimiter (lines : List (List Char)) : List (List Char) :=
  (lines.dropWhile (· != Header.delimiter)).tail

/-- The lines between the first delimiter and the next, if there is a next, and otherwise all lines
after the first. -/
def block (lines : List (List Char)) : List (List Char) :=
  (afterDelimiter lines).takeWhile (· != Header.delimiter)

/-- The lines after the first two delimiters. -/
def contentLines (lines : List (List Char)) : List (List Char) :=
  afterDelimiter (afterDelimiter lines)

/-- What follows the name of a field on the lines that begin with it, without the blanks around. -/
def values (name : List Char) (lines : List (List Char)) : List String :=
  (lines.filterMap fun line => name.isPrefixOf? line).map fun value =>
    String.ofList (Text.trim value)

/-- The titles that the block of a document gives. -/
def titles (lines : List (List Char)) : List String :=
  values Header.titleField (block lines)

/-- The names of notebooks that the block of a document gives. A blank one is none. -/
def notebooks (lines : List (List Char)) : List String :=
  (values Header.notebookField (block lines)).filter (· != "")

/-- The text of the content of a document. -/
def contentText (lines : List (List Char)) : String :=
  String.ofList (trimFeeds (['\n'].intercalate (contentLines lines)))

theorem afterDelimiter_cons (line : List Char) (rest : List (List Char)) :
    afterDelimiter (line :: rest) =
      if line = Header.delimiter then rest else afterDelimiter rest := by
  by_cases h : line = Header.delimiter <;> simp [afterDelimiter, h]

/-- Where there are fewer than two delimiters, there is no content. -/
theorem contentLines_eq_nil {lines : List (List Char)} (h : lines.count Header.delimiter < 2) :
    contentLines lines = [] := by
  have after (lines : List (List Char)) :
      (afterDelimiter lines).count Header.delimiter = lines.count Header.delimiter - 1 := by
    induction lines with
    | nil => rfl
    | cons line rest ih =>
      rw [afterDelimiter_cons]
      split_ifs with delimits
      · rw [delimits, List.count_cons_self, Nat.add_sub_cancel]
      · rw [ih, List.count_cons_of_ne delimits]
  have none : Header.delimiter ∉ afterDelimiter lines := by
    rw [← List.count_eq_zero, after]
    omega
  have all : (afterDelimiter lines).dropWhile (· != Header.delimiter) = [] := by
    rw [List.dropWhile_eq_nil_iff]
    intro line hline
    rw [bne_iff_ne]
    rintro rfl
    exact none hline
  rw [contentLines, afterDelimiter, all, List.tail_nil]

theorem map_trimReturn_ended {pieces : List (List Char)} (h : pieces ≠ []) :
    (Line.ended '\r' pieces).map Line.trimReturn = pieces.dropLast.map trimReturns ++
      ((pieces.getLast?.filter (!·.isEmpty)).map Line.trimReturn).toList := by
  induction pieces with
  | nil => exact absurd rfl h
  | cons piece rest ih =>
    cases rest with
    | nil => by_cases empty : piece = [] <;> simp [Line.ended, Option.filter, empty]
    | cons next rest =>
      rw [Line.ended_cons (List.cons_ne_nil _ _), List.map_cons, ih (List.cons_ne_nil _ _)]
      rfl

/-- The lines of a text, as every reader of a document trims them. -/
theorem lines_eq (s : List Char) : lines s = (Line.cut '\n' '\r' s).map Line.trimReturn :=
  (map_trimReturn_ended (List.splitOn_ne_nil _ _)).symm

end Document

/-! ## Reading the parts -/

namespace Header

open Document

theorem readFields_map_some (n : Note) (raw : List (List Char)) :
    ∃ rest : List (List Char), readFields n (raw.map some) =
        ⟨((raw.map Line.trimReturn).takeWhile (· != delimiter)).foldl field n,
          rest.map some, false⟩ ∧
      rest.map Line.trimReturn = afterDelimiter (raw.map Line.trimReturn) := by
  induction raw generalizing n with
  | nil => exact ⟨[], rfl, rfl⟩
  | cons line raw ih =>
    rw [List.map_cons, List.map_cons, readFields, afterDelimiter_cons]
    by_cases h : Line.trimReturn line = delimiter
    · exact ⟨raw, by simp [h], by simp [h]⟩
    · obtain ⟨rest, fields, after⟩ := ih (field n (Line.trimReturn line))
      refine ⟨rest, ?_, by rw [if_neg h, after]⟩
      rw [if_neg h, fields, List.takeWhile_cons_of_pos (by simpa using h), List.foldl_cons]

/-- **The reader passes the parts of a document**, the lines of the block one after the other. -/
theorem read_map_some (n : Note) (raw : List (List Char)) :
    ∃ rest : List (List Char), read n (raw.map some) =
        ⟨(block (raw.map Line.trimReturn)).foldl field n, rest.map some, false⟩ ∧
      rest.map Line.trimReturn = contentLines (raw.map Line.trimReturn) := by
  induction raw with
  | nil => exact ⟨[], rfl, rfl⟩
  | cons line raw ih =>
    rw [List.map_cons, List.map_cons, read, block, contentLines, afterDelimiter_cons]
    split_ifs
    · exact readFields_map_some n raw
    · exact ih

/-! ## What the lines of a block leave -/

theorem title_field (n : Note) (line : List Char) :
    (field n line).title = (values titleField [line]).getLast?.getD n.title := by
  rw [field]
  cases h : titleField.isPrefixOf? line with
  | some value => simp [values, h]
  | none =>
    have none : (values titleField [line]).getLast? = none := by simp [values, h]
    rw [none, Option.getD_none]
    dsimp only
    split
    · exact title_rename n _
    · rfl

theorem values_append (name : List Char) (lines lines' : List (List Char)) :
    values name (lines ++ lines') = values name lines ++ values name lines' := by
  simp [values]

/-- **The last title stays**, or the one before if there is none. -/
theorem title_foldl_field (n : Note) (lines : List (List Char)) :
    (lines.foldl field n).title = (values titleField lines).getLast?.getD n.title := by
  induction lines using List.reverseRecOn with
  | nil => rfl
  | append_singleton lines line ih =>
    rw [List.foldl_concat, title_field, ih, values_append, List.getLast?_append]
    cases (values titleField [line]).getLast? <;> rfl

theorem toList_fieldName? (line : List Char) :
    (fieldName? line).toList = (values notebookField [line]).filter (· != "") := by
  rw [fieldName?, values]
  cases h : notebookField.isPrefixOf? line with
  | none => simp [h]
  | some value =>
    have blank : Text.trim value = [] ↔ String.ofList (Text.trim value) = "" := by
      rw [← String.toList_inj, String.toList_ofList, String.toList_empty]
    by_cases empty : String.ofList (Text.trim value) = ""
    · simp [h, blank, empty]
    · simp [h, blank, empty]

/-- What becomes of the notebook if names were read: it stays if all of them are its own, and is
the last of them otherwise. -/
def notebookAfter (n : Note) (names : List String) : Option NotebookRef :=
  if ∀ name ∈ names, name = n.notebookName then n.notebook else names.getLast?.map .named

theorem Renamed.notebook_eq {n after : Note} {names : List String} (h : Renamed n names after) :
    after.notebook = notebookAfter n names := by
  rw [notebookAfter]
  cases h with
  | kept own same => rw [if_pos own, same]
  | named other final _ only =>
    obtain ⟨name, mem, differs⟩ := other
    rw [if_neg fun own => differs (own name mem), final, only, Option.map_some]

theorem notebook_foldl_field (n : Note) (lines : List (List Char)) :
    (lines.foldl field n).notebook =
      notebookAfter n ((values notebookField lines).filter (· != "")) := by
  have renamed : Renamed n ((values notebookField lines).filter (· != ""))
      (lines.foldl field n) := by
    induction lines using List.reverseRecOn with
    | nil => exact .kept (by simp [values]) rfl
    | append_singleton lines line ih =>
      rw [List.foldl_concat, values_append, List.filter_append, ← toList_fieldName?]
      exact ih.field line
  exact renamed.notebook_eq

/-- The name of the notebook is the last that was read, or the one before if there is none. -/
theorem name_notebookAfter (n : Note) (names : List String) :
    ((notebookAfter n names).map NotebookRef.name).getD "" =
      names.getLast?.getD n.notebookName := by
  rw [notebookAfter]
  split_ifs with own
  · cases final : names.getLast? with
    | none => rfl
    | some last => exact (own last (List.mem_of_getLast? final)).symm
  · cases final : names.getLast? with
    | none =>
      obtain rfl := List.getLast?_eq_none_iff.1 final
      simp at own
    | some last => rfl

theorem field_eq (n : Note) (line : List Char) :
    field n line =
      { n with title := (field n line).title, notebook := (field n line).notebook } := by
  rw [field]
  split
  · rfl
  · split
    · rw [rename_eq]
    · rfl

/-- Lines of a block change nothing but title and notebook. -/
theorem foldl_field (n : Note) (lines : List (List Char)) :
    lines.foldl field n = { n with
      title := (values titleField lines).getLast?.getD n.title
      notebook := notebookAfter n ((values notebookField lines).filter (· != "")) } := by
  rw [← title_foldl_field, ← notebook_foldl_field]
  induction lines using List.reverseRecOn with
  | nil => rfl
  | append_singleton lines line ih =>
    rw [List.foldl_concat, field_eq, ih]

end Header

/-! ## Documents -/

namespace Document

open Header

theorem content?_map_some_trimReturn (raw : List (List Char)) :
    ∃ text, content? (raw.map some) = some text ∧
      trimFeeds text = trimFeeds (['\n'].intercalate (raw.map Line.trimReturn)) := by
  cases raw with
  | nil => exact ⟨[], rfl, rfl⟩
  | cons line raw =>
    refine ⟨_, content?_map_some (List.cons_ne_nil _ _), ?_⟩
    rw [trimFeeds, Text.strip_concat rfl, trimFeeds]

/-- **What a text makes of a note**, whatever its lines look like. -/
theorem parse_encode (s : List Char) (n : Note) (m : EditMode) :
    parse (Utf8.encode s) n m =
      ⟨({ n with
          title := (titles (lines s)).getLast?.getD n.title
          notebook := notebookAfter n (notebooks (lines s)) } : Note).withContent m.raw
        (contentText (lines s)), .ok ()⟩ := by
  obtain ⟨rest, header, after⟩ := read_map_some n (Line.cut '\n' '\r' s)
  obtain ⟨text, content, trimmed⟩ := content?_map_some_trimReturn rest
  rw [← lines_eq] at header after
  rw [parse, Line.ofBytes_encode, Line.ofText, parseLines, header]
  simp only [Bool.false_eq_true, if_false, content, trimmed, after, foldl_field]
  rfl

/-- Every note comes back from its own document. -/
theorem exists_roundTrip (n : Note) (m : EditMode) :
    ∃ after, roundTrip n m = .ok after ∧
      after.content m.raw = contentText (lines (render n m)) := by
  rw [roundTrip, parse_encode]
  exact ⟨_, rfl, Note.content_withContent ..⟩

/-- What a text leaves of a note `n` that it is read into, field by field. -/
structure Yields (s : List Char) (n after : Note) (m : EditMode) : Prop where
  title : after.title = (titles (lines s)).getLast?.getD n.title
  notebookName : after.notebookName = (notebooks (lines s)).getLast?.getD n.notebookName
  notebook : after.notebook = notebookAfter n (notebooks (lines s))
  content : after.content m.raw = contentText (lines s)
  noContent : (lines s).count delimiter < 2 → after.content m.raw = ""
  otherContent : after.content (!m.raw) = n.content (!m.raw)
  guid : after.guid = n.guid
  created : after.created = n.created
  updated : after.updated = n.updated
  deleted : after.deleted = n.deleted

theorem yields_withContent (s : List Char) (n : Note) (m : EditMode) :
    Yields s n (({ n with
      title := (titles (lines s)).getLast?.getD n.title
      notebook := notebookAfter n (notebooks (lines s)) } : Note).withContent m.raw
        (contentText (lines s))) m where
  title := Note.title_withContent ..
  notebookName := (Note.notebookName_withContent ..).trans (name_notebookAfter n _)
  notebook := Note.notebook_withContent ..
  content := Note.content_withContent ..
  noContent few := by
    rw [Note.content_withContent, contentText, contentLines_eq_nil few]
    rfl
  otherContent := by
    rw [Note.content_not_withContent]
    cases m.raw <;> rfl
  guid := by cases m.raw <;> rfl
  created := by cases m.raw <;> rfl
  updated := by cases m.raw <;> rfl
  deleted := by cases m.raw <;> rfl

/-- **The grammar of documents.** Every text is read to its end, into any note: the title is the
last that its block gives, the name of the notebook is the last one there that is not blank, and the
content is what follows the block, without the line feeds around it. Texts that agree in these make
the same of every note, whatever else stands above or in their blocks. -/
theorem parse_grammar (text : String) (n : Note) (m : EditMode) :
    (∃ after, parse (Utf8.ofString text) n m = ⟨after, .ok ()⟩ ∧ Yields text.toList n after m) ∧
      ∀ other : String,
        (titles (lines other.toList)).getLast? = (titles (lines text.toList)).getLast? →
        notebooks (lines other.toList) = notebooks (lines text.toList) →
        contentLines (lines other.toList) = contentLines (lines text.toList) →
        parse (Utf8.ofString other) n m = parse (Utf8.ofString text) n m := by
  constructor
  · exact ⟨_, parse_encode text.toList n m, yields_withContent text.toList n m⟩
  · intro other title notebook content
    have same : contentText (lines other.toList) = contentText (lines text.toList) := by
      rw [contentText, content, contentText]
    rw [Utf8.ofString, Utf8.ofString, parse_encode, parse_encode, title, notebook, same]

/-- Text above the block, an earlier title and a line without meaning change nothing. -/
theorem parse_grammar_scribbled :
    parse (Utf8.ofString "list\n---\ntitle: List\nTitle: list\ntitle: Groceries\n---\nmilk") {} {} =
      parse (Utf8.ofString "---\ntitle:Groceries\n---\nmilk") {} {} := by
  obtain ⟨-, scribbled⟩ := parse_grammar "---\ntitle:Groceries\n---\nmilk" {} {}
  exact scribbled "list\n---\ntitle: List\nTitle: list\ntitle: Groceries\n---\nmilk"
    (by decide +kernel) (by decide +kernel) (by decide +kernel)

end Document
end NoteDesk
