import NoteDesk.Proofs.LocalStore

/-!
# What a local store holds

A local store takes what it is given unless something stands in its way, and then gives it back. So
what it holds can be told as the contents of a store in memory, wherever it is kept.

* `LocalStore.beside` is what stands beside the files of a store, which nothing written to the store
  changes.
* `LocalStore.Takes`: nothing stands in the way of writing.
* `LocalStore.Holds`: the store takes what it is given, and reads as a store in memory would.
  `LocalStore.Holds.saveSearch` and its like are what it holds after something was written.
* `LocalStore.Alike`: two stores hold the same. `LocalStore.Alike.changed`: they still do after the
  same was written to both.
-/

namespace NoteDesk

/-- Where nothing stands in the way, a file can be written, and nothing stands in the way then. -/
theorem Directory.write_ok {data : Directory Bytes} {name : String} (apart : data ≠ .plainFile)
    (free : data.find? name ≠ some .folder) (x : Bytes) :
    ∃ data', data.write name x = .ok data' ∧ data' ≠ .plainFile := by
  have put : ∃ data', data.put name (.file x) = .ok data' ∧ data' ≠ .plainFile := by
    cases data with
    | missing => exact ⟨_, rfl, by simp⟩
    | plainFile => exact absurd rfl apart
    | holding entries => exact ⟨_, rfl, by simp⟩
  rw [write_eq_putFile, putFile]
  split
  next folder => exact absurd folder free
  next => exact put

namespace LocalStore

/-! ## Stores that take what they are given -/

/-- The files of a store. -/
def fileNames : List String :=
  [searchFile, recoveryFile, notebooksFile]

/-- What the directory of a store holds beside the files of the store. A store in memory has no
directory. -/
def beside : LocalStore → Option (String → Option (Directory.Entry Bytes))
  | memory _ => none
  | files data => some fun name => if name ∈ fileNames then none else data.find? name

section

variable {st st' : LocalStore}

theorem beside_keepIn {data : Directory Bytes} {name : String} {j : Json} (known : name ∈ fileNames)
    (h : keepIn name j data = .ok st') : st'.beside = (files data).beside := by
  obtain ⟨data', written, rfl⟩ := write_of_keepIn h
  refine congrArg some (funext fun other => ?_)
  split_ifs with mem
  · rfl
  · have apart : other ≠ name := by
      rintro rfl
      exact mem known
    rw [Directory.find?_write written, if_neg apart]

theorem beside_saveSearch {notes : List Note} (h : saveSearch notes st = .ok st') :
    st'.beside = st.beside := by
  cases st with
  | memory m =>
    obtain rfl := Except.ok.inj h
    rfl
  | files data => exact beside_keepIn (by decide) h

theorem beside_saveRecovery {n : Note} (h : saveRecovery n st = .ok st') :
    st'.beside = st.beside := by
  cases st with
  | memory m =>
    rw [saveRecovery] at h
    split at h
    · cases h
    · obtain rfl := Except.ok.inj h
      rfl
  | files data => exact beside_keepIn (by decide) h

theorem beside_saveNotebooks {notebooks : List Notebook} (h : saveNotebooks notebooks st = .ok st') :
    st'.beside = st.beside := by
  cases st with
  | memory m =>
    obtain rfl := Except.ok.inj h
    rfl
  | files data => exact beside_keepIn (by decide) h

end

/-- Nothing stands in the way of writing: the store refuses nothing, and there is neither a file in
the place of its directory nor a folder in the place of one of its files. -/
def Takes : LocalStore → Prop
  | memory m => m.refusal = none
  | files data => data ≠ .plainFile ∧ ∀ name ∈ fileNames, data.find? name ≠ some .folder

namespace Takes

variable {st : LocalStore}

theorem keepIn {data : Directory Bytes} (h : (files data).Takes) {name : String}
    (known : name ∈ fileNames) (j : Json) :
    ∃ st', LocalStore.keepIn name j data = .ok st' ∧ st'.Takes := by
  obtain ⟨apart, free⟩ := h
  obtain ⟨data', written, apart'⟩ :=
    Directory.write_ok apart (free name known) (Utf8.encode j.render)
  refine ⟨files data', by rw [LocalStore.keepIn, keep, written]; rfl, apart', fun other mem => ?_⟩
  rw [Directory.find?_write written]
  split_ifs
  · simp
  · exact free other mem

theorem saveSearch (h : st.Takes) (notes : List Note) :
    ∃ st', LocalStore.saveSearch notes st = .ok st' ∧ st'.Takes := by
  cases st with
  | memory m => exact ⟨_, rfl, h⟩
  | files data => exact h.keepIn (by decide) _

theorem saveRecovery (h : st.Takes) (n : Note) :
    ∃ st', LocalStore.saveRecovery n st = .ok st' ∧ st'.Takes := by
  cases st with
  | memory m =>
    have open' : m.refusal = none := h
    exact ⟨memory { m with recovery := some n }, by simp only [LocalStore.saveRecovery, open'], h⟩
  | files data => exact h.keepIn (by decide) _

theorem saveNotebooks (h : st.Takes) (notebooks : List Notebook) :
    ∃ st', LocalStore.saveNotebooks notebooks st = .ok st' ∧ st'.Takes := by
  cases st with
  | memory m => exact ⟨_, rfl, h⟩
  | files data => exact h.keepIn (by decide) _

end Takes

/-! ## What a store holds -/

/-- All times of the notes are of 64 bits. -/
structure Memory.TimesFit (m : Memory) : Prop where
  search : ∀ n ∈ m.search, n.TimesFit
  recovery : ∀ n ∈ m.recovery, n.TimesFit

/-- The store takes what it is given, and reads as one in memory with these contents would. -/
structure Holds (st : LocalStore) (m : Memory) : Prop where
  takes : st.Takes
  search : st.search = .ok m.search
  recovery : st.recovery = .ok m.recovery
  notebooks : st.notebooks = .ok m.notebooks

theorem holds_memory {m : Memory} (h : m.refusal = none) : (memory m).Holds m :=
  ⟨h, rfl, rfl, rfl⟩

theorem holds_missing : (files .missing).Holds {} :=
  ⟨⟨by simp, fun _ _ => by simp [Directory.find?, Directory.entries]⟩, rfl, rfl, rfl⟩

namespace Holds

variable {st : LocalStore} {m : Memory}

theorem saveSearch (h : st.Holds m) {notes : List Note} (fits : ∀ n ∈ notes, n.TimesFit) :
    ∃ st', LocalStore.saveSearch notes st = .ok st' ∧ st'.Holds { m with search := notes } := by
  obtain ⟨st', saved, takes⟩ := h.takes.saveSearch notes
  exact ⟨st', saved, takes, search_saveSearch fits saved,
    (recovery_saveSearch saved).trans h.recovery, (notebooks_saveSearch saved).trans h.notebooks⟩

theorem saveRecovery (h : st.Holds m) {n : Note} (fits : n.TimesFit) :
    ∃ st', LocalStore.saveRecovery n st = .ok st' ∧ st'.Holds { m with recovery := some n } := by
  obtain ⟨st', saved, takes⟩ := h.takes.saveRecovery n
  exact ⟨st', saved, takes, (search_saveRecovery saved).trans h.search,
    recovery_saveRecovery fits saved, (notebooks_saveRecovery saved).trans h.notebooks⟩

theorem saveNotebooks (h : st.Holds m) (notebooks : List Notebook) :
    ∃ st', LocalStore.saveNotebooks notebooks st = .ok st' ∧ st'.Holds { m with notebooks } := by
  obtain ⟨st', saved, takes⟩ := h.takes.saveNotebooks notebooks
  exact ⟨st', saved, takes, (search_saveNotebooks saved).trans h.search,
    (recovery_saveNotebooks saved).trans h.recovery, notebooks_saveNotebooks saved⟩

end Holds

/-! ## Stores that hold the same -/

/-- The stores hold the same, and nothing whose time is beyond 64 bits. -/
def Alike (st st' : LocalStore) : Prop :=
  ∃ m : Memory, m.TimesFit ∧ st.Holds m ∧ st'.Holds m

namespace Alike

variable {st st' : LocalStore}

theorem search (h : st.Alike st') :
    ∃ notes, (∀ n ∈ notes, n.TimesFit) ∧ st.search = .ok notes ∧ st'.search = .ok notes := by
  obtain ⟨m, fits, holds, holds'⟩ := h
  exact ⟨m.search, fits.search, holds.search, holds'.search⟩

theorem recovery (h : st.Alike st') :
    ∃ kept, (∀ n ∈ kept, n.TimesFit) ∧ st.recovery = .ok kept ∧ st'.recovery = .ok kept := by
  obtain ⟨m, fits, holds, holds'⟩ := h
  exact ⟨m.recovery, fits.recovery, holds.recovery, holds'.recovery⟩

theorem notebooks (h : st.Alike st') :
    ∃ notebooks, st.notebooks = .ok notebooks ∧ st'.notebooks = .ok notebooks := by
  obtain ⟨m, -, holds, holds'⟩ := h
  exact ⟨m.notebooks, holds.notebooks, holds'.notebooks⟩

/-- A change of which is known what every store holds after it keeps stores alike. -/
theorem changed (h : st.Alike st') {change : LocalStore → Except Failure LocalStore}
    {f : Memory → Memory}
    (after : ∀ {st m}, st.Holds m → ∃ st', change st = .ok st' ∧ st'.Holds (f m))
    (fits : ∀ m : Memory, m.TimesFit → (f m).TimesFit) :
    ∃ st₁ st₁', change st = .ok st₁ ∧ change st' = .ok st₁' ∧ st₁.Alike st₁' := by
  obtain ⟨m, fit, holds, holds'⟩ := h
  obtain ⟨st₁, changed, holds₁⟩ := after holds
  obtain ⟨st₁', changed', holds₁'⟩ := after holds'
  exact ⟨st₁, st₁', changed, changed', f m, fits m fit, holds₁, holds₁'⟩

theorem saveSearch (h : st.Alike st') {notes : List Note} (fits : ∀ n ∈ notes, n.TimesFit) :
    ∃ st₁ st₁', LocalStore.saveSearch notes st = .ok st₁ ∧
      LocalStore.saveSearch notes st' = .ok st₁' ∧ st₁.Alike st₁' :=
  h.changed (fun holds => holds.saveSearch fits) fun _ fit => ⟨fits, fit.recovery⟩

theorem saveRecovery (h : st.Alike st') {n : Note} (fits : n.TimesFit) :
    ∃ st₁ st₁', LocalStore.saveRecovery n st = .ok st₁ ∧
      LocalStore.saveRecovery n st' = .ok st₁' ∧ st₁.Alike st₁' := by
  refine h.changed (fun holds => holds.saveRecovery fits) fun _ fit => ⟨fit.search, ?_⟩
  rintro _ ⟨⟩
  exact fits

theorem saveNotebooks (h : st.Alike st') (notebooks : List Notebook) :
    ∃ st₁ st₁', LocalStore.saveNotebooks notebooks st = .ok st₁ ∧
      LocalStore.saveNotebooks notebooks st' = .ok st₁' ∧ st₁.Alike st₁' :=
  h.changed (fun holds => holds.saveNotebooks notebooks) fun _ fit => ⟨fit.search, fit.recovery⟩

end Alike

/-- An empty store in memory, and one whose directory is still to be made. -/
theorem alike_empty : (memory {}).Alike (files .missing) :=
  ⟨{}, ⟨by simp, by simp⟩, holds_memory rfl, holds_missing⟩

end LocalStore
end NoteDesk
