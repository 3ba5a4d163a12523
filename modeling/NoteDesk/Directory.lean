import NoteDesk.Error
import NoteDesk.Text.Utf8

/-!
# Directories

A directory holds files and folders under names. What a folder holds does not matter here. The
directory itself may be missing, and a plain file may stand in its place.

* `Directory.find?` is what stands under a name, and the view through which the operations are
  described (`find?_put`, `find?_erase`).
* `Directory.putFile`, `Directory.remove` and `Directory.makeFolder` change it; putting a file there
  makes a missing directory.
* `Directory.readText?` is the text of a file.
-/

namespace NoteDesk

/-- What stands under a name: a file that holds an `α`, or a folder. -/
inductive Directory.Entry (α : Type) where
  | file (x : α)
  | folder
  deriving DecidableEq, Repr

/-- A directory of files that hold an `α` each. -/
inductive Directory (α : Type) where
  | missing
  /-- A file stands where the directory should be. -/
  | plainFile
  | holding (entries : List (String × Directory.Entry α))
  deriving DecidableEq, Repr

namespace Directory

variable {α : Type}

/-! ## Entries -/

/-- The list with `x` under `name`: in the place of what was there, or at the end. -/
def setEntry {β : Type} (name : String) (x : β) : List (String × β) → List (String × β)
  | [] => [(name, x)]
  | (key, y) :: rest => if key = name then (name, x) :: rest else (key, y) :: setEntry name x rest

/-- The list without what is under `name`. -/
def eraseEntry {β : Type} (name : String) (entries : List (String × β)) : List (String × β) :=
  entries.filter fun e => e.1 != name

theorem lookup_cons_eq {β : Type} (name key : String) (x : β) (rest : List (String × β)) :
    ((key, x) :: rest).lookup name = if name = key then some x else rest.lookup name := by
  by_cases h : name = key
  · simp [h]
  · simp [List.lookup_cons, h, beq_false_of_ne h]

theorem lookup_setEntry {β : Type} (name other : String) (x : β) (entries : List (String × β)) :
    (setEntry name x entries).lookup other =
      if other = name then some x else entries.lookup other := by
  induction entries with
  | nil => simp [setEntry, lookup_cons_eq]
  | cons e rest ih =>
    obtain ⟨key, y⟩ := e
    by_cases hk : key = name
    · by_cases ho : other = name <;> simp [setEntry, lookup_cons_eq, hk, ho]
    · by_cases ho : other = key <;> simp_all [setEntry, lookup_cons_eq]

theorem lookup_eraseEntry {β : Type} (name other : String) (entries : List (String × β)) :
    (eraseEntry name entries).lookup other =
      if other = name then none else entries.lookup other := by
  induction entries with
  | nil => simp [eraseEntry]
  | cons e rest ih =>
    obtain ⟨key, y⟩ := e
    have cons : eraseEntry name ((key, y) :: rest) =
        if key = name then eraseEntry name rest else (key, y) :: eraseEntry name rest := by
      by_cases hk : key = name <;> simp [eraseEntry, hk]
    rw [cons]
    by_cases hk : key = name
    · rw [if_pos hk, ih, lookup_cons_eq]
      by_cases ho : other = name <;> simp [ho, hk]
    · rw [if_neg hk, lookup_cons_eq, lookup_cons_eq, ih]
      by_cases ho : other = key <;> simp [ho, hk]

/-! ## Directories -/

/-- All that the directory holds. -/
def entries : Directory α → List (String × Entry α)
  | holding entries => entries
  | _ => []

/-- What stands under a name. -/
def find? (d : Directory α) (name : String) : Option (Entry α) :=
  d.entries.lookup name

/-- Puts something under a name, in the place of what was there. -/
def put (d : Directory α) (name : String) (x : Entry α) : Except IoError (Directory α) :=
  match d with
  | missing => .ok (holding [(name, x)])
  | plainFile => .error .notADirectory
  | holding entries => .ok (holding (setEntry name x entries))

/-- Puts a file under a name, unless a folder stands there. -/
def putFile (d : Directory α) (name : String) (x : α) : Except IoError (Directory α) :=
  match d.find? name with
  | some .folder => .error .isADirectory
  | _ => d.put name (.file x)

/-- Makes a folder, unless something stands there already. -/
def makeFolder (d : Directory α) (name : String) : Except IoError (Directory α) :=
  match d.find? name with
  | some _ => .ok d
  | none => d.put name .folder

/-- Whatever stood under the name is gone. -/
def erase (d : Directory α) (name : String) : Directory α :=
  match d with
  | holding entries => holding (eraseEntry name entries)
  | d => d

/-- Removes a file. -/
def remove (d : Directory α) (name : String) : Except IoError (Directory α) :=
  match d, d.find? name with
  | plainFile, _ => .error .notADirectory
  | _, none => .error .notFound
  | _, some .folder => .error .isADirectory
  | d, some (.file _) => .ok (d.erase name)

theorem find?_put {d d' : Directory α} {name : String} {x : Entry α} (h : d.put name x = .ok d')
    (other : String) : d'.find? other = if other = name then some x else d.find? other := by
  cases d with
  | missing =>
    obtain rfl := Except.ok.inj h
    simp [find?, entries, lookup_cons_eq]
  | plainFile => cases h
  | holding es =>
    obtain rfl := Except.ok.inj h
    exact lookup_setEntry name other x es

theorem find?_putFile {d d' : Directory α} {name : String} {x : α} (h : d.putFile name x = .ok d')
    (other : String) : d'.find? other = if other = name then some (.file x) else d.find? other := by
  rw [putFile] at h
  split at h
  · cases h
  · exact find?_put h other

theorem find?_erase (d : Directory α) (name other : String) :
    (d.erase name).find? other = if other = name then none else d.find? other := by
  cases d with
  | missing => simp [erase, find?, entries]
  | plainFile => simp [erase, find?, entries]
  | holding es => exact lookup_eraseEntry name other es

theorem find?_remove {d d' : Directory α} {name : String} (h : d.remove name = .ok d')
    (other : String) : d'.find? other = if other = name then none else d.find? other := by
  have erased : d' = d.erase name := by
    unfold remove at h
    split at h
    · cases h
    · cases h
    · cases h
    · exact (Except.ok.inj h).symm
  rw [erased, find?_erase]

theorem remove_of_file {d : Directory α} {name : String} {x : α}
    (h : d.find? name = some (.file x)) : d.remove name = .ok (d.erase name) := by
  cases d with
  | missing => cases h
  | plainFile => cases h
  | holding es => simp only [remove, h]

/-- Where something stands, something else can be put in its place. -/
theorem put_erase {d : Directory α} {name : String} {x : Entry α} (h : d.find? name = some x)
    (y : Entry α) : ∃ d', (d.erase name).put name y = .ok d' := by
  cases d with
  | missing => cases h
  | plainFile => cases h
  | holding es => exact ⟨_, rfl⟩

/-- The text of a file, if there is one of that name. -/
def readText? (d : Directory Bytes) (name : String) : Except IoError (Option (List Char)) :=
  match d.find? name with
  | none => .ok none
  | some .folder => .error .isADirectory
  | some (.file content) =>
    match Utf8.decode? content with
    | none => .error .undecodable
    | some s => .ok (some s)

end Directory
end NoteDesk
