import Mathlib.Data.List.Basic
import NoteDesk.Cache

/-!
# What stands in the cache

Everything that is done to the cache, told by what stands under each name afterwards
(`Cache.find?`). That a file has one name only is what keeps the other documents as they were.

* `Cache.find?_create`, `Cache.find?_replace` and `Cache.find?_discard`: the document is the one
  entry that changes.
* `Cache.Document.AtStart` is a document open for writing in which nothing was written yet.
  `Cache.write_atStart`: what is written to it then replaces it, and `Cache.replace_replace`: what
  replaces it last is all that counts.
-/

namespace NoteDesk.Cache

variable {c c' : Cache} {name : String} {file : Nat}

theorem find?_eq_file (h : c.directory.find? name = some (.file file)) :
    c.find? name = some (.file (c.contentOf file)) := by
  rw [find?, h]
  rfl

/-! ## Contents -/

theorem contentOf_modify (h : file < c.contents.length) (f : Bytes → Bytes) (other : Nat) :
    (c.modify file f).contentOf other = if other = file then f (c.contentOf file)
      else c.contentOf other := by
  simp only [modify, contentOf, List.getD_eq_getElem?_getD, List.getElem?_modify]
  by_cases ho : other = file
  · subst ho
    simp [h]
  · simp [ho, Ne.symm ho]

theorem find?_modify (h : c.directory.find? name = some (.file file)) (f : Bytes → Bytes)
    (other : String) :
    (c.modify file f).find? other = if other = name then some (.file (f (c.contentOf file)))
      else c.find? other := by
  change (c.directory.find? other).map (c.modify file f).entryOf = _
  split_ifs with ho
  · rw [ho, h, Option.map_some, entryOf, contentOf_modify (c.numbers.lt h), if_pos rfl]
  · unfold find?
    refine Option.map_congr fun entry found => ?_
    cases entry with
    | folder => rfl
    | file number =>
      have apart : number ≠ file := fun same => ho (c.numbers.unique found (same ▸ h))
      rw [entryOf, contentOf_modify (c.numbers.lt h), if_neg apart, entryOf]

theorem find?_newFile {content : Bytes} (h : c.newFile name content = .ok c') :
    c'.directory.find? name = some (.file c.contents.length) ∧
      ∀ other, c'.find? other = if other = name then some (.file content) else c.find? other := by
  rw [newFile] at h
  split at h
  · cases h
  next directory hput =>
    obtain rfl := Except.ok.inj h
    have found := Directory.find?_put hput
    refine ⟨by simp [found], fun other => ?_⟩
    rw [find?, found]
    split_ifs with ho
    · simp [entryOf, contentOf]
    · unfold find?
      refine Option.map_congr fun entry hentry => ?_
      cases entry with
      | folder => rfl
      | file number =>
        have old : number < c.contents.length := c.numbers.lt hentry
        simp only [entryOf, contentOf, List.getD_eq_getElem?_getD, List.getElem?_append_left old]

/-- A file written is there with its content, and nothing else changed. -/
theorem find?_writeFile {content : Bytes} (h : c.writeFile name content = .ok (file, c')) :
    c'.directory.find? name = some (.file file) ∧
      ∀ other, c'.find? other = if other = name then some (.file content) else c.find? other := by
  rw [writeFile] at h
  split at h
  · cases h
  next number found =>
    obtain ⟨rfl, rfl⟩ := Prod.mk.inj (Except.ok.inj h)
    exact ⟨found, find?_modify found _⟩
  next =>
    cases made : c.newFile name content with
    | error flaw =>
      rw [made] at h
      cases h
    | ok c₁ =>
      rw [made] at h
      obtain ⟨rfl, rfl⟩ := Prod.mk.inj (Except.ok.inj h)
      exact find?_newFile made

/-! ## Documents -/

/-- The document is open for writing and nothing was written yet. -/
def Document.AtStart (document : Document) (c : Cache) : Prop :=
  ∃ file, document.handle = some ⟨.file file, .writing, 0⟩ ∧
    c.directory.find? document.name = some (.file file) ∧ c.contentOf file = []

theorem find?_create {document : Document} (h : c.create name = .ok (document, c')) :
    document.name = name ∧ document.AtStart c' ∧
      ∀ other, c'.find? other = if other = name then some (.file []) else c.find? other := by
  rw [create] at h
  split_ifs at h
  split at h
  · cases h
  · split at h
    · cases h
    next file c₁ written =>
      obtain ⟨rfl, rfl⟩ := Prod.mk.inj (Except.ok.inj h)
      obtain ⟨found, view⟩ := find?_writeFile written
      refine ⟨rfl, ⟨file, rfl, found, ?_⟩, view⟩
      have empty := view name
      rw [find?_eq_file found, if_pos rfl] at empty
      simpa using empty

theorem Document.AtStart.find?_eq {document : Document} (h : document.AtStart c) :
    c.find? document.name = some (.file []) := by
  obtain ⟨file, -, found, empty⟩ := h
  rw [find?_eq_file found, empty]

theorem splice_nil_zero (data : Bytes) : splice [] 0 data = data := by
  simp [splice]

theorem modify_congr {f g : Bytes → Bytes} (h : f (c.contentOf file) = g (c.contentOf file)) :
    c.modify file f = c.modify file g := by
  have same : c.contents.modify file f = c.contents.modify file g := by
    apply List.ext_getElem?
    intro i
    rw [List.getElem?_modify, List.getElem?_modify]
    split_ifs with here
    · subst here
      cases found : c.contents[file]? with
      | none => rfl
      | some content =>
        have old : c.contentOf file = content := by
          rw [contentOf, List.getD_eq_getElem?_getD, found, Option.getD_some]
        rw [old] at h
        exact congrArg some h
    · rfl
  simp only [modify, same]

theorem modify_id (c : Cache) (file : Nat) : c.modify file id = c := by
  simp only [modify, List.modify_id]

theorem modify_modify (c : Cache) (file : Nat) (f g : Bytes → Bytes) :
    (c.modify file f).modify file g = c.modify file fun old => g (f old) := by
  simp only [modify, List.modify_modify_eq, Function.comp_def]

/-- A file put in the place of a document gives its file another content. -/
theorem replace_file (h : c.directory.find? name = some (.file file)) (content : Bytes) :
    c.replace name (some (.file content)) = c.modify file fun _ => content := by
  have written : c.writeFile name content = .ok (file, c.modify file fun _ => content) := by
    rw [writeFile, h]
  rw [replace, overwrite, written]
  rfl

/-- **Everything can be written to a new document**, which then is as if it had been replaced. -/
theorem write_atStart {document : Document} (h : document.AtStart c) (data : Bytes) :
    ∃ document', document'.name = document.name ∧ document.write data c =
      .ok (document', c.replace document.name (some (.file data))) := by
  obtain ⟨file, handle, found, empty⟩ := h
  rw [replace_file found]
  unfold Document.write
  split_ifs with nothing
  · obtain rfl := List.isEmpty_iff.1 nothing
    refine ⟨document, rfl, ?_⟩
    rw [modify_congr (g := id) empty.symm, modify_id]
  · have spliced : splice (c.contentOf file) 0 data = data := by rw [empty, splice_nil_zero]
    have whole : (c.modify file fun old => splice old 0 data) = c.modify file fun _ => data :=
      modify_congr spliced
    rw [handle]
    refine ⟨{ document with handle := some ⟨.file file, .writing, 0 + data.length⟩ }, rfl, ?_⟩
    rw [← whole]

/-- What is put in the place of a document twice is there as if it had been put there once. -/
theorem replace_replace {document : Document} (h : document.AtStart c) (content data : Bytes) :
    (c.replace document.name (some (.file content))).replace document.name (some (.file data)) =
      c.replace document.name (some (.file data)) := by
  obtain ⟨file, -, found, -⟩ := h
  have again : (c.modify file fun _ => content).directory.find? document.name = some (.file file) :=
    found
  rw [replace_file found, replace_file found, replace_file again, modify_modify]

theorem read_reopen {document : Document} {content : Bytes}
    (h : c.find? document.name = some (.file content)) :
    ∃ opened read, document.reopen c = .ok opened ∧ opened.read c = .ok (content, read) := by
  obtain ⟨entry, found, hentry⟩ := Option.map_eq_some_iff.1 h
  cases entry with
  | folder => cases hentry
  | file file =>
    have same : c.contentOf file = content := by simpa [entryOf] using hentry
    rw [Document.reopen, found]
    refine ⟨_, ⟨document.name, some ⟨.file file, .reading, max 0 content.length⟩⟩, rfl, ?_⟩
    simp only [Document.read, same, List.drop_zero]

/-- What was read from a document stood under its name. -/
theorem find?_of_read {document opened read : Document} {content : Bytes}
    (hopened : document.reopen c = .ok opened) (hread : opened.read c = .ok (content, read)) :
    c.find? document.name = some (.file content) := by
  rw [Document.reopen] at hopened
  split at hopened
  · cases hopened
  next target found =>
    obtain rfl := Except.ok.inj hopened
    cases target with
    | folder => cases hread
    | file file =>
      obtain ⟨same, -⟩ := Prod.mk.inj (Except.ok.inj hread)
      rw [find?_eq_file found, ← same, List.drop_zero]

/-! ## Other programs -/

/-- A file put in the place of a document is the one entry that changes. -/
theorem find?_replace_file {old : Bytes} (h : c.find? name = some (.file old)) (content : Bytes)
    (other : String) :
    (c.replace name (some (.file content))).find? other =
      if other = name then some (.file content) else c.find? other := by
  obtain ⟨entry, found, hentry⟩ := Option.map_eq_some_iff.1 h
  cases entry with
  | folder => cases hentry
  | file file => rw [replace_file found, find?_modify found]

/-- What cannot be taken away is not there, or is no file. -/
theorem find?_of_delete_error {flaw : IoError} (h : c.delete name = .error flaw) :
    c.find? name = none ∨ c.find? name = some .folder := by
  rw [delete] at h
  split at h
  next refused =>
    cases found : c.directory.find? name with
    | none =>
      rw [find?, found]
      exact .inl rfl
    | some entry =>
      cases entry with
      | folder =>
        rw [find?, found]
        exact .inr rfl
      | file file =>
        rw [Directory.remove_of_file found] at refused
        cases refused
  · cases h

theorem find?_delete (h : c.delete name = .ok c') (other : String) :
    c'.find? other = if other = name then none else c.find? other := by
  rw [delete] at h
  split at h
  · cases h
  next directory removed =>
    obtain rfl := Except.ok.inj h
    rw [find?, Directory.find?_remove removed]
    split_ifs
    · rfl
    · rfl

/-- A document that is discarded is gone, and nothing else is. -/
theorem find?_discard (h : c.find? name ≠ some .folder) (other : String) :
    (c.discard name).find? other = if other = name then none else c.find? other := by
  rw [discard]
  split
  next deleted => exact find?_delete deleted other
  next failed =>
    split_ifs with here
    · rw [here]
      exact (find?_of_delete_error failed).resolve_right h
    · rfl

/-- Whatever is put in the place of a document is there, and nothing else changed. -/
theorem find?_replace {old : Bytes} (h : c.find? name = some (.file old))
    (x : Option (Directory.Entry Bytes)) (other : String) :
    (c.replace name x).find? other = if other = name then x else c.find? other := by
  cases x with
  | none => exact find?_discard (by simp [h]) other
  | some entry =>
    cases entry with
    | file content => exact find?_replace_file h content other
    | folder =>
      obtain ⟨target, found, -⟩ := Option.map_eq_some_iff.1 h
      rw [replace]
      split
      next directory put =>
        rw [find?, Directory.find?_put put, Directory.find?_erase]
        split_ifs
        · rfl
        · rfl
      next flaw refused =>
        obtain ⟨directory, put⟩ := Directory.put_erase found .folder
        rw [put] at refused
        cases refused

end NoteDesk.Cache
