import NoteDesk.LocalStore
import NoteDesk.Proofs.Stored
import NoteDesk.Proofs.Utf8

/-!
# What the local store keeps apart

The last listing, the recovery point and the notebooks are kept apart: writing one leaves the others
as they were, in memory and in files.

Nor does a write that fails spoil the others.

* `Directory.readText?_write`: a text written is read back, and other files are as they were.
* `LocalStore.recovery_saveSearch` and its like: reading one part after another was written.
* `LocalStore.search_saveSearch`, `LocalStore.recovery_saveRecovery` and
  `LocalStore.notebooks_saveNotebooks`: reading what was written.
-/

namespace NoteDesk

namespace Directory

section

variable [Disk] {d d' : Directory Bytes} {name other : String}

theorem readText?_write_ne {x : Bytes} (h : d.write name x = .ok d') (apart : other ≠ name) :
    d'.readText? other = d.readText? other := by
  rw [readText?, find?_write h, if_neg apart, readText?]

theorem readText?_write {s : List Char} (h : d.write name (Utf8.encode s) = .ok d') :
    d'.readText? name = .ok (some s) := by
  rw [readText?, find?_write h, if_pos rfl]
  simp only [Utf8.decode?_encode]

theorem readText?_spoiled_ne {x : Bytes} (apart : other ≠ name) :
    (d.spoiled name x).readText? other = d.readText? other := by
  rw [readText?, find?_spoiled_ne apart, readText?]

end

/-- A file that was put somewhere does not stand in the way of another one. -/
theorem putFile_putFile {α : Type} {d d' : Directory α} {name other : String} {x : α}
    (h : d.putFile name x = .ok d') (apart : other ≠ name) (y : α) :
    (d'.putFile other y).map (fun _ => ()) = (d.putFile other y).map (fun _ => ()) := by
  have same : d'.find? other = d.find? other := by rw [find?_putFile h, if_neg apart]
  rw [putFile, putFile, same]
  split
  · rfl
  · rw [putFile] at h
    split at h
    · cases h
    · cases d with
      | plainFile => cases h
      | missing =>
        obtain rfl := Except.ok.inj h
        rfl
      | holding entries =>
        obtain rfl := Except.ok.inj h
        rfl

end Directory

namespace LocalStore

variable {α : Type} {name other : String} {j : Json} {data : Directory Bytes} {st st' : LocalStore}

section

variable [Disk]

theorem write_of_keepIn (h : keepIn name j data = .ok st') :
    ∃ data', data.write name (Utf8.encode j.render) = .ok data' ∧ st' = files data' := by
  rw [keepIn, keep] at h
  cases hw : data.write name (Utf8.encode j.render) with
  | error cause => simp [hw, Except.mapError, Except.map] at h
  | ok data' =>
    rw [hw] at h
    exact ⟨data', rfl, (Except.ok.inj h).symm⟩

theorem load_of_keepIn_ne (decoder : Json.Decoder α) (h : keepIn name j data = .ok st')
    (apart : other ≠ name) : ∃ data', st' = files data' ∧
      load decoder other data' = load decoder other data := by
  obtain ⟨data', hw, rfl⟩ := write_of_keepIn h
  exact ⟨data', rfl, by rw [load, load, Directory.readText?_write_ne hw apart]⟩

theorem load_of_keepIn (decoder : Json.Decoder α) (h : keepIn name j data = .ok st') :
    ∃ data', st' = files data' ∧ load decoder name data' =
      ((Json.decode decoder j.render).mapError Failure.stored).map some := by
  obtain ⟨data', hw, rfl⟩ := write_of_keepIn h
  refine ⟨data', rfl, ?_⟩
  rw [load, Directory.readText?_write hw]
  rfl

/-! ## The notebooks are written -/

theorem search_saveNotebooks {notebooks : List Notebook}
    (h : saveNotebooks notebooks st = .ok st') : st'.search = st.search := by
  cases st with
  | memory m =>
    obtain rfl := Except.ok.inj h
    rfl
  | files data =>
    have apart : searchFile ≠ notebooksFile := by decide
    obtain ⟨data', rfl, same⟩ := load_of_keepIn_ne (Json.asList Note.ofJson) h apart
    rw [search, search, same]

theorem recovery_saveNotebooks {notebooks : List Notebook}
    (h : saveNotebooks notebooks st = .ok st') : st'.recovery = st.recovery := by
  cases st with
  | memory m =>
    obtain rfl := Except.ok.inj h
    rfl
  | files data =>
    have apart : recoveryFile ≠ notebooksFile := by decide
    obtain ⟨data', rfl, same⟩ := load_of_keepIn_ne Note.ofJson h apart
    rw [recovery, recovery, same]

/-- **Notebooks that were written are read back**, in memory and in files. -/
theorem notebooks_saveNotebooks {notebooks : List Notebook}
    (h : saveNotebooks notebooks st = .ok st') : st'.notebooks = .ok notebooks := by
  cases st with
  | memory m =>
    obtain rfl := Except.ok.inj h
    rfl
  | files data =>
    obtain ⟨data', rfl, loaded⟩ := load_of_keepIn (Json.asList Notebook.ofJson) h
    rw [LocalStore.notebooks, loaded, notebooksJson, Notebook.decode_render_list]
    rfl

/-! ## The last listing is written -/

theorem recovery_saveSearch {notes : List Note} (h : saveSearch notes st = .ok st') :
    st'.recovery = st.recovery := by
  cases st with
  | memory m =>
    obtain rfl := Except.ok.inj h
    rfl
  | files data =>
    have apart : recoveryFile ≠ searchFile := by decide
    obtain ⟨data', rfl, same⟩ := load_of_keepIn_ne Note.ofJson h apart
    rw [recovery, recovery, same]

theorem notebooks_saveSearch {notes : List Note} (h : saveSearch notes st = .ok st') :
    st'.notebooks = st.notebooks := by
  cases st with
  | memory m =>
    obtain rfl := Except.ok.inj h
    rfl
  | files data =>
    have apart : notebooksFile ≠ searchFile := by decide
    obtain ⟨data', rfl, same⟩ := load_of_keepIn_ne (Json.asList Notebook.ofJson) h apart
    rw [notebooks, notebooks, same]

/-- **A listing that was written is read back**, in memory and in files. -/
theorem search_saveSearch {notes : List Note} (fits : ∀ n ∈ notes, n.TimesFit)
    (h : saveSearch notes st = .ok st') : st'.search = .ok notes := by
  cases st with
  | memory m =>
    obtain rfl := Except.ok.inj h
    rfl
  | files data =>
    obtain ⟨data', rfl, loaded⟩ := load_of_keepIn (Json.asList Note.ofJson) h
    rw [search, loaded, searchJson, Note.decode_render_list fits]
    rfl

/-! ## A recovery point is written -/

theorem search_saveRecovery {n : Note} (h : saveRecovery n st = .ok st') :
    st'.search = st.search := by
  cases st with
  | memory m =>
    rw [saveRecovery] at h
    split at h
    · cases h
    · obtain rfl := Except.ok.inj h
      rfl
  | files data =>
    have apart : searchFile ≠ recoveryFile := by decide
    obtain ⟨data', rfl, same⟩ := load_of_keepIn_ne (Json.asList Note.ofJson) h apart
    rw [search, search, same]

theorem notebooks_saveRecovery {n : Note} (h : saveRecovery n st = .ok st') :
    st'.notebooks = st.notebooks := by
  cases st with
  | memory m =>
    rw [saveRecovery] at h
    split at h
    · cases h
    · obtain rfl := Except.ok.inj h
      rfl
  | files data =>
    have apart : notebooksFile ≠ recoveryFile := by decide
    obtain ⟨data', rfl, same⟩ := load_of_keepIn_ne (Json.asList Notebook.ofJson) h apart
    rw [notebooks, notebooks, same]

/-- **A recovery point that was written is read back**, in memory and in files. -/
theorem recovery_saveRecovery {n : Note} (fits : n.TimesFit) (h : saveRecovery n st = .ok st') :
    st'.recovery = .ok (some n) := by
  cases st with
  | memory m =>
    rw [saveRecovery] at h
    split at h
    · cases h
    · obtain rfl := Except.ok.inj h
      rfl
  | files data =>
    obtain ⟨data', rfl, loaded⟩ := load_of_keepIn Note.ofJson h
    rw [recovery, loaded, Note.decode_render fits]
    rfl

/-! ## A write fails -/

/-- What stands in a file of the store's directory. -/
def find? (name : String) : LocalStore → Option (Directory.Entry Bytes)
  | memory _ => none
  | files data => data.find? name

/-- The keeping of a value is cut short: only so many bytes of it are brought to its file. -/
def CutShort (name : String) (j : Json) (count : Nat) : LocalStore → Prop
  | memory _ => False
  | files data => data.CutShort name (Utf8.encode j.render) count

theorem search_spoil (apart : searchFile ≠ name) : (spoil name j st).search = st.search := by
  cases st with
  | memory m => rfl
  | files data => rw [spoil, search, search, load, load, Directory.readText?_spoiled_ne apart]

theorem recovery_spoil (apart : recoveryFile ≠ name) :
    (spoil name j st).recovery = st.recovery := by
  cases st with
  | memory m => rfl
  | files data => rw [spoil, recovery, recovery, load, load, Directory.readText?_spoiled_ne apart]

theorem load_spoiled (decoder : Json.Decoder α)
    (whole : ∀ count, ¬data.CutShort name (Utf8.encode j.render) count) (other : String) :
    load decoder other (data.spoiled name (Utf8.encode j.render)) = load decoder other data := by
  rw [load, load, Directory.readText?, Directory.find?_spoiled whole, Directory.readText?]

/-- **A listing that cannot be kept leaves the last one as it was**, unless it is cut short. -/
theorem search_spoilSearch {notes : List Note}
    (whole : ∀ count, ¬st.CutShort searchFile (searchJson notes) count) :
    (spoilSearch notes st).search = st.search := by
  cases st with
  | memory m => rfl
  | files data => rw [spoilSearch, spoil, search, search, load_spoiled _ whole]

/-- What is cut short is not kept. -/
theorem saveSearch_of_cutShort {notes : List Note} {count : Nat}
    (cut : st.CutShort searchFile (searchJson notes) count) :
    ∃ flaw, saveSearch notes st = .error flaw := by
  cases st with
  | memory m => exact cut.elim
  | files data =>
    obtain ⟨cause, -, fault, -⟩ := cut
    exact ⟨.io cause, by rw [saveSearch, keepIn, keep, Directory.write, fault]; rfl⟩

/-- What is cut short is all that its file holds. -/
theorem find?_spoil_of_cutShort {count : Nat} (cut : st.CutShort name j count) :
    (spoil name j st).find? name = some (.file ((Utf8.encode j.render).take count)) := by
  cases st with
  | memory m => exact cut.elim
  | files data => exact (Directory.find?_spoiled_of_cutShort cut name).trans (if_pos rfl)

end

/-! ## A disk on which no write fails -/

theorem not_cutShort_sound {count : Nat} : ¬st.CutShort name j count := by
  cases st with
  | memory m => exact id
  | files data =>
    rintro ⟨cause, d', fault, -⟩
    cases fault

@[simp] theorem spoil_sound (name : String) (j : Json) (st : LocalStore) :
    spoil name j st = st := by
  cases st <;> rfl

@[simp] theorem spoilSearch_sound (notes : List Note) (st : LocalStore) :
    spoilSearch notes st = st :=
  spoil_sound _ _ st

@[simp] theorem spoilRecovery_sound (n : Note) (st : LocalStore) : spoilRecovery n st = st :=
  spoil_sound _ _ st

@[simp] theorem spoilNotebooks_sound (notebooks : List Notebook) (st : LocalStore) :
    spoilNotebooks notebooks st = st :=
  spoil_sound _ _ st

/-- Whether a value can be kept is whether its file can be written. -/
theorem map_keepIn (name : String) (j : Json) (data : Directory Bytes) :
    (keepIn name j data).map (fun _ => ()) =
      ((data.putFile name (Utf8.encode j.render)).map fun _ => ()).mapError .io := by
  rw [keepIn, keep, Directory.write_eq_putFile]
  cases data.putFile name (Utf8.encode j.render) <;> rfl

/-- A listing that was written does not stand in the way of notebooks. -/
theorem saveNotebooks_saveSearch {notes : List Note} (h : saveSearch notes st = .ok st')
    (notebooks : List Notebook) :
    (saveNotebooks notebooks st').map (fun _ => ()) =
      (saveNotebooks notebooks st).map (fun _ => ()) := by
  cases st with
  | memory m =>
    obtain rfl := Except.ok.inj h
    rfl
  | files data =>
    obtain ⟨data', written, rfl⟩ := write_of_keepIn h
    rw [saveNotebooks, saveNotebooks, map_keepIn, map_keepIn,
      Directory.putFile_putFile (Directory.putFile_of_write written) (by decide)]

end LocalStore
end NoteDesk
