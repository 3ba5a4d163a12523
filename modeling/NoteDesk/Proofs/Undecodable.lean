import NoteDesk.Proofs.Decoding
import NoteDesk.Proofs.Grammar

/-!
# Documents that are not UTF-8

A document is read line by line, and the first line that is not UTF-8 ends the reading: in the
header, before it, or in the content. Wherever that is, the content of the note stays what it was,
and its title and notebook are those that the lines before give.

* `Header.Reading.Stuck` is a header behind which such a line waits. `Header.read_stuck`: the header
  stands as it does without that line and what follows.
* `Document.parse_spoiltAt` is what such a document leaves of a note, and
  `Document.parse_undecodable` the main result.
-/

namespace NoteDesk

/-! ## Headers -/

namespace Header

/-- A line that is no text ended the reading, or will. -/
def Reading.Stuck (r : Reading) : Prop :=
  r.spoilt = true ∨ none ∈ r.rest

theorem readFields_stuck (n : Note) (raw : List (List Char)) (rest : List Line) :
    (readFields n (raw.map some ++ none :: rest)).note = (readFields n (raw.map some)).note ∧
      (readFields n (raw.map some ++ none :: rest)).Stuck := by
  induction raw generalizing n with
  | nil => exact ⟨rfl, .inl rfl⟩
  | cons line raw ih =>
    rw [List.map_cons, List.cons_append, readFields, readFields]
    split_ifs
    · exact ⟨rfl, .inr (by simp)⟩
    · exact ih _

/-- **Lines that are text, and one that is not**: the header is what the lines before say. -/
theorem read_stuck (n : Note) (raw : List (List Char)) (rest : List Line) :
    (read n (raw.map some ++ none :: rest)).note = (read n (raw.map some)).note ∧
      (read n (raw.map some ++ none :: rest)).Stuck := by
  induction raw with
  | nil => exact ⟨rfl, .inl rfl⟩
  | cons line raw ih =>
    rw [List.map_cons, List.cons_append, read, read]
    split_ifs
    · exact readFields_stuck n raw rest
    · exact ih

/-- Reading a header changes nothing but title and notebook. -/
theorem read_map_some_note (n : Note) (raw : List (List Char)) :
    (read n (raw.map some)).note = { n with
      title := (read n (raw.map some)).note.title
      notebook := (read n (raw.map some)).note.notebook } := by
  obtain ⟨_, header, -⟩ := read_map_some n raw
  rw [header, foldl_field]

end Header

/-! ## Documents -/

namespace Document

open Header

theorem content?_of_none_mem {lines : List Line} (h : none ∈ lines) : content? lines = none := by
  induction lines with
  | nil => simp at h
  | cons line rest ih =>
    cases line with
    | none => rfl
    | some line => rw [content?, ih (by simpa using h), Option.map_none]

theorem parseLines_of_stuck {lines : List Line} {n : Note} (h : (read n lines).Stuck)
    (m : EditMode) :
    parseLines lines n m = ⟨(read n lines).note, .error (.io .undecodable)⟩ := by
  rw [parseLines]
  split_ifs with spoilt
  · rfl
  · rw [content?_of_none_mem (h.resolve_left spoilt)]

theorem parseLines_map_some (raw : List (List Char)) (n : Note) (m : EditMode) :
    ∃ text, parseLines (raw.map some) n m =
      ⟨(read n (raw.map some)).note.withContent m.raw text, .ok ()⟩ := by
  obtain ⟨rest, header, -⟩ := read_map_some n raw
  obtain ⟨text, content, -⟩ := content?_map_some_trimReturn rest
  refine ⟨String.ofList (trimFeeds text), ?_⟩
  rw [parseLines, header]
  simp only [Bool.false_eq_true, if_false, content]

/-- **What a document that is not UTF-8 leaves of a note.** -/
theorem parse_spoiltAt {document before line after : Bytes}
    (h : Line.SpoiltAt document before line after) (n : Note) (m : EditMode) :
    parse document n m = ⟨{ n with
      title := (parse before n m).note.title
      notebook := (parse before n m).note.notebook }, .error (.io .undecodable)⟩ := by
  obtain ⟨raw, rest, linesBefore, lines⟩ := h.ofBytes
  obtain ⟨same, stuck⟩ := read_stuck n raw rest
  obtain ⟨text, parsed⟩ := parseLines_map_some raw n m
  rw [parse, parse, linesBefore, lines, parseLines_of_stuck stuck, same, parsed,
    Note.title_withContent, Note.notebook_withContent, ← read_map_some_note]

theorem parse_of_valid {document : Bytes} (h : Utf8.Valid document) (n : Note) (m : EditMode) :
    (parse document n m).result = .ok () := by
  obtain ⟨s, rfl⟩ := Utf8.valid_iff.1 h
  rw [parse_encode]

/-- **Documents that cannot be decoded.** Reading fails exactly if the document as a whole is not
UTF-8. Then there is a first line that is not, and whichever line that is, only title and notebook
of the note are taken from the lines before it. -/
theorem parse_undecodable (document : Bytes) (n : Note) (m : EditMode) :
    ((parse document n m).result ≠ .ok () ↔ ¬ Utf8.Valid document) ∧
      (¬ Utf8.Valid document → ∃ before line after, Line.SpoiltAt document before line after) ∧
      ∀ before line after, Line.SpoiltAt document before line after →
        parse document n m = ⟨{ n with
          title := (parse before n m).note.title
          notebook := (parse before n m).note.notebook }, .error (.io .undecodable)⟩ := by
  refine ⟨⟨fun fails valid => fails (parse_of_valid valid n m), fun invalid => ?_⟩,
    Line.exists_spoiltAt, fun before line after h => parse_spoiltAt h n m⟩
  obtain ⟨before, line, after, h⟩ := Line.exists_spoiltAt invalid
  rw [parse_spoiltAt h]
  exact nofun

/-- A document with a byte in its header that no character has. -/
def torn : Bytes :=
  Utf8.ofString "---\ntitle: List\nnotebook: Work\n" ++ [0xFF] ++
    Utf8.ofString "\ntitle: Bread\n---\nmilk\n"

theorem parse_undecodable_torn :
    ¬ Utf8.Valid torn ∧
      Line.SpoiltAt torn (Utf8.ofString "---\ntitle: List\nnotebook: Work\n") [0xFF]
        (Utf8.ofString "\ntitle: Bread\n---\nmilk\n") ∧
      parse torn { guid := "n", title := "Groceries", md := "eggs" } {} =
        ⟨{ guid := "n", title := "List", md := "eggs", notebook := some (.named "Work") },
          .error (.io .undecodable)⟩ := by
  have at_ : Line.SpoiltAt torn (Utf8.ofString "---\ntitle: List\nnotebook: Work\n") [0xFF]
      (Utf8.ofString "\ntitle: Bread\n---\nmilk\n") :=
    { parts := rfl
      whole := by rw [Line.Whole]; decide +kernel
      valid := Utf8.valid_encode _
      feed := by decide
      ends := by decide +kernel
      spoilt := by rw [← Utf8.isSome_decode?_iff]; decide }
  have invalid : ¬ Utf8.Valid torn := by
    rw [← Utf8.isSome_decode?_iff]
    decide +kernel
  obtain ⟨-, -, reads⟩ :=
    parse_undecodable torn { guid := "n", title := "Groceries", md := "eggs" } {}
  refine ⟨invalid, at_, (reads _ _ _ at_).trans (congrArg (Parsed.mk · _) ?_)⟩
  decide +kernel

end Document
end NoteDesk
