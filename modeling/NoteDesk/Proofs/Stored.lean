import NoteDesk.Proofs.Json
import NoteDesk.Stored

/-!
# Notes and notebooks come back from their files

What `Note.toJson` and `Notebook.toJson` write is what `Note.ofJson` and `Notebook.ofJson` read, all
texts as they were. Of a note's times only those of 64 bits can be read back (`Note.TimesFit`), and
there are no others.

* `Notebook.ofJson_toJson`, `NotebookRef.ofJson_toJson` and `Note.ofJson_toJson`: the values.
* `Note.decode_render`, `Note.decode_render_list` and `Notebook.decode_render_list`: the text of a
  note, that of notes and that of notebooks.
-/

namespace NoteDesk

namespace Json

variable {α β : Type} {shape : Shape α β} {read read' : β} {name : String} {j : Json}

@[simp] theorem asText_ofString (s : String) : (ofString s).asText = .ok s := by
  rw [ofString, asText, String.ofList_toList]

/-- A field that is known and was not given yet is decoded. -/
theorem readFields_field (known : shape.names.any (·.1 == name))
    (fresh : shape.given name read = false) (set : shape.set name j read = .ok read')
    (rest : List (Json × Json)) :
    readFields shape read (field name j :: rest) = readFields shape read' rest := by
  rw [field, readFields, String.ofList_toList, if_pos known, fresh, if_neg Bool.false_ne_true, set]
  rfl

/-- How a field is decoded whose value is decoded by itself. -/
theorem set_ok {value : Except Flaw α} {x : α} (h : value = .ok x) (f : α → β) :
    (do return f (← value)) = Except.ok (f x) := by
  rw [h]
  rfl

theorem plainItems_map {f : α → Json} {xs : List α} (h : ∀ x ∈ xs, (f x).Plain) :
    PlainItems (xs.map f) := by
  induction xs with
  | nil => trivial
  | cons x xs ih =>
    rw [List.forall_mem_cons] at h
    exact ⟨h.1, ih h.2⟩

/-- A list is decoded if each of its items is. -/
theorem asList_map {d : Decoder α} {f : α → Json} {xs : List α} (h : ∀ x ∈ xs, d (f x) = .ok x) :
    asList d (list (xs.map f) none) = .ok xs := by
  have items : (xs.map f).mapM d = .ok xs := by
    induction xs with
    | nil => rfl
    | cons x xs ih =>
      rw [List.forall_mem_cons] at h
      rw [List.map_cons, List.mapM_cons, h.1, ih h.2]
      rfl
  rw [asList, items]
  rfl

end Json

namespace Notebook

theorem plain_toJson (nb : Notebook) : nb.toJson.Plain := by
  simp [toJson, Json.field, Json.ofString, Json.Plain, Json.PlainFields]

theorem ofJson_toJson (nb : Notebook) : ofJson nb.toJson = .ok nb := by
  have text (s : String) := Json.asText_ofString s
  have bool (b : Bool) : (Json.bool b).asBool = .ok b := rfl
  rw [ofJson, toJson, Json.asRecord,
    Json.readFields_field rfl rfl (Json.set_ok (text nb.guid) _),
    Json.readFields_field rfl rfl (Json.set_ok (text nb.name) _),
    Json.readFields_field rfl rfl (Json.set_ok (text nb.stack) _),
    Json.readFields_field rfl rfl (Json.set_ok (bool nb.isDefault) _)]
  rfl

/-- **Notebooks come back from their file.** -/
theorem decode_render_list (nbs : List Notebook) :
    Json.decode (Json.asList ofJson) (Json.list (nbs.map toJson) none).render = .ok nbs := by
  have plain : (Json.list (nbs.map toJson) none).Plain :=
    ⟨Json.plainItems_map fun nb _ => nb.plain_toJson, rfl⟩
  rw [Json.decode_render plain, Json.asList_map fun nb _ => nb.ofJson_toJson]

end Notebook

namespace NotebookRef

theorem plain_toJson (r : NotebookRef) : r.toJson.Plain := by
  cases r with
  | named name => simp [toJson, Json.field, Json.ofString, Json.Plain, Json.PlainFields]
  | resolved nb => simp [toJson, Json.field, Json.Plain, Json.PlainFields, nb.plain_toJson]

theorem ofJson_toJson (r : NotebookRef) : ofJson r.toJson = .ok r := by
  cases r with
  | named name =>
    simp [toJson, Json.field, ofJson, ofField, Json.asText, Json.ofString, Json.closed, bind,
      Except.bind, pure, Except.pure]
  | resolved nb =>
    simp [toJson, Json.field, ofJson, ofField, Json.asText, nb.ofJson_toJson, Json.closed, bind,
      Except.bind, pure, Except.pure]

theorem asOption_toJson (r : Option NotebookRef) :
    ((r.map toJson).getD .null).asOption ofJson = .ok r := by
  cases r with
  | none => rfl
  | some r =>
    have read := r.ofJson_toJson
    cases r with
    | named name => exact congrArg (Except.map some) read
    | resolved nb => exact congrArg (Except.map some) read

end NotebookRef

namespace Note

/-- The times of the note are of 64 bits. -/
structure TimesFit (n : Note) : Prop where
  created : Json.minTime ≤ n.created ∧ n.created ≤ Json.maxTime
  updated : Json.minTime ≤ n.updated ∧ n.updated ≤ Json.maxTime

variable {n : Note}

theorem plain_toJson (h : n.TimesFit) : n.toJson.Plain := by
  have notebook : ((n.notebook.map NotebookRef.toJson).getD .null).Plain := by
    cases n.notebook with
    | none => trivial
    | some r => exact r.plain_toJson
  have fits {t : Int} (ht : Json.minTime ≤ t ∧ t ≤ Json.maxTime) : (Json.integer t).Plain := by
    obtain ⟨least, greatest⟩ := ht
    rw [Json.maxTime] at greatest
    exact ⟨least, by omega⟩
  exact ⟨⟨trivial, trivial, trivial, trivial, trivial, trivial, trivial, trivial, trivial, trivial,
    trivial, notebook, trivial, fits h.created, trivial, fits h.updated, trivial⟩, rfl⟩

theorem ofJson_toJson (h : n.TimesFit) : ofJson n.toJson = .ok n := by
  have time {t : Int} (ht : Json.minTime ≤ t ∧ t ≤ Json.maxTime) :
      (Json.integer t).asInteger Json.minTime Json.maxTime = .ok t := if_pos ht
  have text (s : String) := Json.asText_ofString s
  have bool (b : Bool) : (Json.bool b).asBool = .ok b := rfl
  rw [ofJson, toJson, Json.asRecord,
    Json.readFields_field rfl rfl (Json.set_ok (text n.guid) _),
    Json.readFields_field rfl rfl (Json.set_ok (text n.title) _),
    Json.readFields_field rfl rfl (Json.set_ok (text n.body) _),
    Json.readFields_field rfl rfl (Json.set_ok (text n.md) _),
    Json.readFields_field rfl rfl (Json.set_ok (bool n.deleted) _),
    Json.readFields_field rfl rfl (Json.set_ok (NotebookRef.asOption_toJson n.notebook) _),
    Json.readFields_field rfl rfl (Json.set_ok (time h.created) _),
    Json.readFields_field rfl rfl (Json.set_ok (time h.updated) _)]
  rfl

/-- **A note comes back from its file**, with every text as it was. -/
theorem decode_render (h : n.TimesFit) : Json.decode ofJson n.toJson.render = .ok n := by
  rw [Json.decode_render (plain_toJson h), ofJson_toJson h]

/-- **Notes come back from their file.** -/
theorem decode_render_list {notes : List Note} (h : ∀ n ∈ notes, n.TimesFit) :
    Json.decode (Json.asList ofJson) (Json.list (notes.map toJson) none).render = .ok notes := by
  have plain : (Json.list (notes.map toJson) none).Plain :=
    ⟨Json.plainItems_map fun n hn => plain_toJson (h n hn), rfl⟩
  rw [Json.decode_render plain, Json.asList_map fun n hn => ofJson_toJson (h n hn)]

end Note
end NoteDesk
