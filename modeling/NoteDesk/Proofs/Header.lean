import NoteDesk.Proofs.Document

/-!
# The notebook that a document names

A header may name a notebook any number of times, and each name is compared with the one before.

* `Header.names` are the names that the header of a document gives.
* `Header.Renamed` is what becomes of the notebook of a note: it stays if all of them are its own
  name, and else the last of them is all that is known of it. `Header.Renamed.field` is one line,
  `Document.parse_renamed` the whole document.
* `Header.ReturnsTo` are the names for which a note that did not stay looks as if it had.
-/

namespace NoteDesk

namespace Header

/-- The notebook name that a line of a header gives. A blank one is none. -/
def fieldName? (line : List Char) : Option String :=
  match notebookField.isPrefixOf? line with
  | none => none
  | some value => if Text.trim value = [] then none else some (String.ofList (Text.trim value))

/-- The notebook names that lines give up to the closing delimiter of a header. -/
def fieldNames : List Line → List String
  | [] => []
  | none :: _ => []
  | some line :: rest =>
    let line := Line.trimReturn line
    if line = delimiter then [] else (fieldName? line).toList ++ fieldNames rest

/-- The notebook names that the header of a document gives, in order. -/
def names : List Line → List String
  | [] => []
  | none :: _ => []
  | some line :: rest => if Line.trimReturn line = delimiter then fieldNames rest else names rest

/-- What becomes of the notebook of a note for which names were read. -/
inductive Renamed (n : Note) (names : List String) (after : Note) : Prop where
  | kept (own : ∀ name ∈ names, name = n.notebookName) (same : after.notebook = n.notebook)
  | named {last : String} (other : ∃ name ∈ names, name ≠ n.notebookName)
      (final : names.getLast? = some last) (nonempty : last ≠ "")
      (only : after.notebook = some (.named last))

/-- The last of the names is the given one, after another one was read. -/
def ReturnsTo (name : String) (names : List String) : Prop :=
  names.getLast? = some name ∧ ∃ other ∈ names, other ≠ name

instance (name : String) (names : List String) : Decidable (ReturnsTo name names) :=
  inferInstanceAs (Decidable (_ ∧ _))

/-! ## Lines -/

variable {n after : Note} {names : List String}

theorem notebook_field_of_none {line : List Char} (h : fieldName? line = none) :
    (field n line).notebook = n.notebook := by
  rw [fieldName?] at h
  rw [field]
  split
  · rfl
  · split
    next value hvalue =>
      rw [hvalue] at h
      have blank : Text.trim value = [] := by
        by_contra some
        simp [some] at h
      rw [blank, rename_nil]
    · rfl

theorem field_of_some {line : List Char} {name : String} (h : fieldName? line = some name) :
    field n line = rename n name.toList ∧ name ≠ "" := by
  rw [fieldName?] at h
  split at h
  · cases h
  next value hvalue =>
    obtain rfl := (List.isPrefixOf?_eq_some_iff_append_eq.1 hvalue)
    rw [field_notebook]
    split_ifs at h with blank
    obtain rfl := Option.some.inj h
    rw [String.toList_ofList]
    refine ⟨rfl, fun empty => blank ?_⟩
    rw [← String.toList_inj, String.toList_ofList] at empty
    exact empty

/-- A name that is not the one before takes the place of the notebook. -/
theorem notebook_rename {name : String} (nonempty : name ≠ "") :
    (rename n name.toList).notebook =
      if name = n.notebookName then n.notebook else some (.named name) := by
  rw [rename]
  by_cases same : name = n.notebookName
  · rw [if_pos (.inr (congrArg String.toList same)), if_pos same]
  · have other : ¬(name.toList.isEmpty ∨ name.toList = n.notebookName.toList) := by
      rw [String.toList_inj]
      simp [nonempty, same]
    rw [if_neg other, if_neg same, String.ofList_toList]

/-- Only the notebook before matters. -/
theorem Renamed.congr {n' : Note} (h : Renamed n names after) (same : n.notebook = n'.notebook) :
    Renamed n' names after := by
  have name : n.notebookName = n'.notebookName := by
    rw [Note.notebookName, Note.notebookName, same]
  cases h with
  | kept own kept => exact .kept (name ▸ own) (kept.trans same)
  | named other final nonempty only => exact .named (name ▸ other) final nonempty only

/-- **One line of a header.** -/
theorem Renamed.field (h : Renamed n names after) (line : List Char) :
    Renamed n (names ++ (fieldName? line).toList) (field after line) := by
  cases hname : fieldName? line with
  | none =>
    have same := notebook_field_of_none (n := after) hname
    rw [Option.toList_none, List.append_nil]
    cases h with
    | kept own kept => exact .kept own (same.trans kept)
    | named other final nonempty only => exact .named other final nonempty (same.trans only)
  | some name =>
    obtain ⟨renamed, nonempty⟩ := field_of_some (n := after) hname
    rw [renamed, Option.toList_some]
    have notebook := notebook_rename (n := after) nonempty
    have final : (names ++ [name]).getLast? = some name := List.getLast?_concat
    cases h with
    | kept own kept =>
      have before : after.notebookName = n.notebookName := by
        rw [Note.notebookName, Note.notebookName, kept]
      rw [before] at notebook
      split_ifs at notebook with same
      · refine .kept (fun other hother => ?_) (notebook.trans kept)
        rcases List.mem_append.1 hother with old | new
        · exact own other old
        · exact (List.mem_singleton.1 new).trans same
      · exact .named ⟨name, by simp, same⟩ final nonempty notebook
    | @named last other _ _ only =>
      obtain ⟨old, hold, differs⟩ := other
      refine .named ⟨old, List.mem_append_left _ hold, differs⟩ final nonempty ?_
      rw [notebook]
      -- What was only a name stays one, even if the name is read again.
      split_ifs with same
      · have before : after.notebookName = last := by
          rw [Note.notebookName, only]
          rfl
        rw [only, same, before]
      · rfl

/-! ## Documents -/

theorem Renamed.readFields (h : Renamed n names after) (lines : List Line) :
    Renamed n (names ++ fieldNames lines) (readFields after lines).note := by
  induction lines generalizing names after with
  | nil => simpa [fieldNames, Header.readFields] using h
  | cons line rest ih =>
    cases line with
    | none => simpa [fieldNames, Header.readFields] using h
    | some line =>
      rw [fieldNames, Header.readFields]
      split_ifs
      · simpa using h
      · rw [← List.append_assoc]
        exact ih (h.field _)

theorem read_renamed (n : Note) (lines : List Line) :
    Renamed n (Header.names lines) (read n lines).note := by
  induction lines with
  | nil => exact .kept (by simp [Header.names]) rfl
  | cons line rest ih =>
    cases line with
    | none => exact .kept (by simp [Header.names]) rfl
    | some line =>
      rw [Header.names, read]
      split_ifs
      · have start : Renamed n [] n := .kept (by simp) rfl
        exact start.readFields rest
      · exact ih

end Header

open Header

/-- **What a document makes of the notebook of a note.** -/
theorem Document.parse_renamed {content : Bytes} {n reread : Note} {m : EditMode}
    (h : parse content n m = ⟨reread, .ok ()⟩) :
    Renamed n (names (Line.ofBytes content)) reread := by
  have header := read_renamed n (Line.ofBytes content)
  rw [parse, parseLines] at h
  split at h
  · cases h
  · split at h
    · cases h
    next text =>
      rw [← (Parsed.mk.inj h).1]
      cases header with
      | kept own kept => exact .kept own ((Note.notebook_withContent ..).trans kept)
      | named other final nonempty only =>
        exact .named other final nonempty ((Note.notebook_withContent ..).trans only)

end NoteDesk
