import NoteDesk.Document
import NoteDesk.Proofs.Utf8

/-!
# What comes back from a document

A note's own document reads back as the note, its title trimmed and its content normalized.

* `Document.normal` is a content as it reads back.
* `Document.parse_render`: the document of a note whose title and notebook name are single lines,
  read into any note.
* `Document.roundTrip_eq`: the note as it reads back from its own document.
-/

namespace NoteDesk

/-! ## Trimming -/

namespace Text

section Strip

variable {α : Type} {p : α → Bool}

theorem strip_cons {x : α} (hx : p x) (s : List α) : strip p (x :: s) = strip p s := by
  rw [strip, List.dropWhile_cons_of_pos hx, strip]

theorem dropEndWhile_concat {x : α} (hx : p x) (s : List α) :
    dropEndWhile p (s ++ [x]) = dropEndWhile p s := by
  rw [dropEndWhile, List.reverse_concat, List.dropWhile_cons_of_pos hx, dropEndWhile]

theorem strip_concat {x : α} (hx : p x) (s : List α) : strip p (s ++ [x]) = strip p s := by
  rw [strip, List.dropWhile_append]
  split_ifs with h
  · rw [List.dropWhile_cons_of_pos hx, strip, List.isEmpty_iff.1 h]
    rfl
  · rw [dropEndWhile_concat hx, strip]

theorem strip_dropOneEnd [BEq α] [LawfulBEq α] {x : α} (hx : p x) (s : List α) :
    strip p (Line.dropOneEnd x s) = strip p s := by
  induction s using List.reverseRecOn with
  | nil => rfl
  | append_singleton s y =>
    by_cases hy : y = x
    · subst hy
      rw [Line.dropOneEnd_concat_self, strip_concat hx]
    · rw [Line.dropOneEnd_append_of_notMem (List.cons_ne_nil _ _) (by simpa using Ne.symm hy)]

end Strip

theorem trim_trimReturn (s : List Char) : trim (Line.trimReturn s) = trim s :=
  strip_dropOneEnd rfl s

theorem trim_space_cons (s : List Char) : trim (' ' :: s) = trim s :=
  strip_cons rfl s

end Text

/-! ## Lines of a text that begins with a line -/

namespace Line

theorem ended_cons {α : Type} [BEq α] {x : α} {pieces : List (List α)} (h : pieces ≠ [])
    (piece : List α) : ended x (piece :: pieces) = dropOneEnd x piece :: ended x pieces := by
  cases pieces with
  | nil => exact absurd rfl h
  | cons next rest => rfl

theorem ofText_append_cons {line : List Char} (h : '\n' ∉ line) (rest : List Char) :
    ofText (line ++ '\n' :: rest) = some (trimReturn line) :: ofText rest := by
  rw [ofText, cut, List.splitOn_append_cons_self_of_not_mem h,
    ended_cons (List.splitOn_ne_nil _ _), List.map_cons]
  rfl

end Line

/-! ## Headers -/

namespace Header

theorem isPrefixOf?_append (s t : List Char) : s.isPrefixOf? (s ++ t) = some t := by
  induction s with
  | nil => cases t <;> rfl
  | cons c s ih => simp [List.isPrefixOf?, ih]

theorem field_title (n : Note) (value : List Char) :
    field n (titleField ++ value) = { n with title := String.ofList (Text.trim value) } := by
  rw [field, isPrefixOf?_append]

theorem field_notebook (n : Note) (value : List Char) :
    field n (notebookField ++ value) = rename n (Text.trim value) := by
  have noTitle : titleField.isPrefixOf? (notebookField ++ value) = none := rfl
  rw [field, noTitle, isPrefixOf?_append]

theorem rename_nil (n : Note) : rename n [] = n := by
  simp [rename]

theorem trimReturn_append {s : List Char} (hs : '\r' ∉ s) (t : List Char) :
    Line.trimReturn (s ++ t) = s ++ Line.trimReturn t := by
  induction t using List.reverseRecOn with
  | nil =>
    have := Line.dropOneEnd_of_getLast?_ne fun e => hs (List.mem_of_getLast? e)
    simpa [Line.trimReturn, Line.dropOneEnd] using this
  | append_singleton t x =>
    by_cases hx : x = '\r'
    · subst hx
      rw [← List.append_assoc, Line.trimReturn, Line.dropOneEnd_concat_self, Line.trimReturn,
        Line.dropOneEnd_concat_self]
    · have last : ∀ l : List Char, Line.trimReturn (l ++ [x]) = l ++ [x] := fun l =>
        Line.dropOneEnd_append_of_notMem (List.cons_ne_nil _ _) (by simpa using Ne.symm hx)
      rw [← List.append_assoc, last, last, List.append_assoc]

/-- A line that begins with the name of a field is no delimiter, whatever follows. -/
structure IsName (name : List Char) : Prop where
  feed : '\n' ∉ name
  ret : '\r' ∉ name
  other : ∀ s, name ++ s ≠ delimiter

theorem isName_title : IsName titleField :=
  ⟨by decide, by decide, fun s h =>
    absurd (show some 't' = some '-' from congrArg List.head? h) (by decide)⟩

theorem isName_notebook : IsName notebookField :=
  ⟨by decide, by decide, fun s h =>
    absurd (show some 'n' = some '-' from congrArg List.head? h) (by decide)⟩

theorem trimReturn_delimiter : Line.trimReturn delimiter = delimiter := by
  decide

theorem read_delimiter (n : Note) (rest : List Line) :
    read n (some delimiter :: rest) = readFields n rest := by
  rw [read, trimReturn_delimiter, if_pos rfl]

theorem readFields_delimiter (n : Note) (rest : List Line) :
    readFields n (some delimiter :: rest) = ⟨n, rest, false⟩ := by
  rw [readFields, trimReturn_delimiter, if_pos rfl]

theorem readFields_field {name value : List Char} (hname : IsName name) (hv : '\n' ∉ value)
    (n : Note) (rest : List Char) :
    readFields n (Line.ofText (name ++ ' ' :: value ++ '\n' :: rest)) =
      readFields (field n (name ++ ' ' :: Line.trimReturn (Line.trimReturn value)))
        (Line.ofText rest) := by
  have noFeed : '\n' ∉ name ++ ' ' :: value := by simp [hname.feed, hv]
  have noReturn : '\r' ∉ name ++ [' '] := by simp [hname.ret]
  have trimmed (s : List Char) :
      Line.trimReturn (name ++ ' ' :: s) = name ++ ' ' :: Line.trimReturn s := by
    simpa using trimReturn_append noReturn s
  rw [Line.ofText_append_cons noFeed, readFields, trimmed, trimmed, if_neg (hname.other _)]

/-- **The header of a note is read back**, up to blanks around title and notebook name. -/
theorem read_render {n : Note} (ht : '\n' ∉ n.title.toList) (hn : '\n' ∉ n.notebookName.toList)
    (t : Note) (rest : List Char) :
    read t (Line.ofText (render n ++ rest)) =
      ⟨rename { t with title := Text.trimmed n.title } (Text.trim n.notebookName.toList),
        Line.ofText rest, false⟩ := by
  have opening (s : List Char) : Line.ofText (delimiter ++ '\n' :: s) =
      some delimiter :: Line.ofText s := by
    rw [Line.ofText_append_cons (by decide), trimReturn_delimiter]
  have titleRead : field t (titleField ++ ' ' :: Line.trimReturn (Line.trimReturn n.title.toList)) =
      { t with title := Text.trimmed n.title } := by
    rw [field_title, Text.trim_space_cons, Text.trim_trimReturn, Text.trim_trimReturn, Text.trimmed]
  have closed (u : Note) : readFields u (Line.ofText (delimiter ++ '\n' :: rest)) =
      ⟨u, Line.ofText rest, false⟩ := by
    rw [opening, readFields_delimiter]
  cases hnb : n.notebookName.toList with
  | nil =>
    have shape : render n ++ rest = delimiter ++ '\n' ::
        (titleField ++ ' ' :: n.title.toList ++ '\n' :: (delimiter ++ '\n' :: rest)) := by
      simp [render, hnb]
    rw [shape, opening, read_delimiter, readFields_field isName_title ht, titleRead, closed]
    exact congrArg (Reading.mk · _ _) (rename_nil _).symm
  | cons c s =>
    have shape : render n ++ rest = delimiter ++ '\n' ::
        (titleField ++ ' ' :: n.title.toList ++ '\n' ::
          (notebookField ++ ' ' :: (c :: s) ++ '\n' :: (delimiter ++ '\n' :: rest))) := by
      simp [render, hnb]
    rw [shape, opening, read_delimiter, readFields_field isName_title ht, titleRead,
      readFields_field isName_notebook (hnb ▸ hn), field_notebook, Text.trim_space_cons,
      Text.trim_trimReturn, Text.trim_trimReturn, closed]

end Header

/-! ## What a document leaves of a note -/

@[simp] theorem Note.content_withContent (n : Note) (raw : Bool) (text : String) :
    (n.withContent raw text).content raw = text := by
  cases raw <;> rfl

@[simp] theorem Note.content_not_withContent (n : Note) (raw : Bool) (text : String) :
    (n.withContent raw text).content (!raw) = n.content (!raw) := by
  cases raw <;> rfl

@[simp] theorem Note.title_withContent (n : Note) (raw : Bool) (text : String) :
    (n.withContent raw text).title = n.title := by
  cases raw <;> rfl

@[simp] theorem Note.notebook_withContent (n : Note) (raw : Bool) (text : String) :
    (n.withContent raw text).notebook = n.notebook := by
  cases raw <;> rfl

@[simp] theorem Note.notebookName_withContent (n : Note) (raw : Bool) (text : String) :
    (n.withContent raw text).notebookName = n.notebookName := by
  cases raw <;> rfl

@[simp] theorem Header.title_rename (n : Note) (name : List Char) :
    (Header.rename n name).title = n.title := by
  unfold Header.rename
  split_ifs <;> rfl

theorem Header.rename_notebookName (n : Note) : Header.rename n n.notebookName.toList = n := by
  rw [Header.rename, if_pos (.inr rfl)]

/-! ## Contents -/

namespace Document

/-- The lines without up to two carriage returns at the end of each, and no line feeds around
them: a content as it reads back from a document. -/
def normal (s : List Char) : List Char :=
  trimFeeds (['\n'].intercalate ((s.splitOn '\n').map fun line =>
    Line.trimReturn (Line.trimReturn line)))

theorem intercalate_concat_nil {α : Type} (x : α) {pieces : List (List α)} (h : pieces ≠ []) :
    [x].intercalate (pieces ++ [[]]) = [x].intercalate pieces ++ [x] := by
  induction pieces with
  | nil => exact absurd rfl h
  | cons piece rest ih =>
    cases rest with
    | nil => simp
    | cons next rest =>
      rw [List.cons_append, List.intercalate_cons_of_ne_nil (by simp),
        List.intercalate_cons_of_ne_nil (List.cons_ne_nil _ _), ih (List.cons_ne_nil _ _)]
      simp

theorem ended_concat_nil {α : Type} [BEq α] (x : α) (pieces : List (List α)) :
    Line.ended x (pieces ++ [[]]) = pieces.map (Line.dropOneEnd x) := by
  induction pieces with
  | nil => rfl
  | cons piece rest ih => rw [List.cons_append, Line.ended_cons (by simp), ih, List.map_cons]

theorem content?_map_some {lines : List (List Char)} (h : lines ≠ []) :
    content? (lines.map some) =
      some (['\n'].intercalate (lines.map Line.trimReturn) ++ ['\n']) := by
  induction lines with
  | nil => exact absurd rfl h
  | cons line rest ih =>
    cases rest with
    | nil => simp [content?]
    | cons next rest =>
      rw [List.map_cons, content?, ih (List.cons_ne_nil _ _)]
      simp only [Option.map_some, List.map_cons, List.intercalate_cons_cons, List.append_assoc,
        List.cons_append, List.nil_append]

/-- Every text can be read as the content of a document. -/
theorem exists_content?_ofText (s : List Char) : ∃ text, content? (Line.ofText s) = some text := by
  rw [Line.ofText]
  cases Line.cut '\n' '\r' s with
  | nil => exact ⟨[], rfl⟩
  | cons line rest => exact ⟨_, content?_map_some (List.cons_ne_nil _ _)⟩

/-- The lines of a text that ends in a line feed, read as the content of a document. -/
theorem content?_ofText_concat (s : List Char) :
    ∃ text, content? (Line.ofText (s ++ ['\n'])) = some text ∧ trimFeeds text = normal s := by
  have lines : Line.ofText (s ++ ['\n']) =
      ((s.splitOn '\n').map (Line.dropOneEnd '\r')).map some := by
    rw [Line.ofText, Line.cut, List.splitOn_append_cons_self, List.splitOn_nil, ended_concat_nil]
  refine ⟨_, lines ▸ content?_map_some (by simp [List.splitOn_ne_nil]), ?_⟩
  rw [trimFeeds, Text.strip_concat rfl, List.map_map]
  rfl

theorem normal_concat (s : List Char) : normal (s ++ ['\n']) = normal s := by
  rw [normal, List.splitOn_append_cons_self, List.splitOn_nil, List.map_append]
  change trimFeeds (['\n'].intercalate (_ ++ [[]])) = _
  rw [intercalate_concat_nil _ (by simp [List.splitOn_ne_nil]), trimFeeds,
    Text.strip_concat rfl]
  rfl

/-- A content and the line feed that a document ends in. -/
theorem content?_ended (s : List Char) :
    ∃ text, content? (Line.ofText (s ++ if s.getLast? = some '\n' then [] else ['\n'])) =
      some text ∧ trimFeeds text = normal s := by
  split_ifs with h
  · obtain ⟨s, rfl⟩ := List.getLast?_eq_some_iff.1 h
    rw [List.append_nil, normal_concat]
    exact content?_ofText_concat s
  · exact content?_ofText_concat s

/-! ## Documents -/

variable {n : Note} (ht : '\n' ∉ n.title.toList) (hn : '\n' ∉ n.notebookName.toList)
include ht hn

/-- A document that begins with the header of a note, read into any note. -/
theorem parse_header (t : Note) (m : EditMode) {rest text : List Char}
    (content : content? (Line.ofText rest) = some text) :
    parse (Utf8.encode (Header.render n ++ rest)) t m =
      ⟨(Header.rename { t with title := Text.trimmed n.title }
          (Text.trim n.notebookName.toList)).withContent m.raw
          (String.ofList (trimFeeds text)), .ok ()⟩ := by
  have header := Header.read_render ht hn t rest
  rw [parse, Line.ofBytes_encode, parseLines, header]
  simp only [Bool.false_eq_true, if_false, content]

/-- **A note's own document, read into any note.** -/
theorem parse_render (t : Note) (m : EditMode) :
    parse (Utf8.encode (render n m)) t m =
      ⟨(Header.rename { t with title := Text.trimmed n.title }
          (Text.trim n.notebookName.toList)).withContent m.raw
          (String.ofList (normal (n.content m.raw).toList)), .ok ()⟩ := by
  obtain ⟨text, htext, hnormal⟩ := content?_ended (n.content m.raw).toList
  rw [render, List.append_assoc, parse_header ht hn t m htext, hnormal]

theorem roundTrip_eq (m : EditMode) :
    roundTrip n m = .ok
      ((Header.rename { n with title := Text.trimmed n.title }
          (Text.trim n.notebookName.toList)).withContent m.raw
          (String.ofList (normal (n.content m.raw).toList))) := by
  rw [roundTrip, parse_render ht hn]
  rfl

end Document
end NoteDesk
