import NoteDesk.Directory
import NoteDesk.Text.Quoted

/-!
# The cache

While a note is edited it lives in a document of the cache directory.

* `Cache` is the directory. A file goes on under its number when its name is taken away, so a
  document that is still open can be written to. The numbers are those that were given
  (`Directory.Numbers`), whatever is done to the cache.
* `Cache.Document` is a document the program works with. It is created for writing
  (`Cache.create`), closed, and reopened for reading from the start.
* `Cache.overwrite`, `Cache.delete` and `Cache.replace` are what another program does to a file.
* `Cache.files` is what the directory holds.

What can go wrong is a name that no file can have, a file that stands in the place of the directory,
a folder in the place of a file, a file that is gone, or a document used in the wrong way. The disk
under the cache takes whatever it is given; the one that may fail is that of the data directory
(`Disk`).
-/

namespace NoteDesk

/-- The files of a directory are told apart by numbers below `count`. -/
structure Directory.Numbers (d : Directory Nat) (count : Nat) : Prop where
  lt : ∀ {name file}, d.find? name = some (.file file) → file < count
  unique : ∀ {name other file},
    d.find? name = some (.file file) → d.find? other = some (.file file) → name = other

namespace Directory.Numbers

variable {d d' : Directory Nat} {count : Nat} {name : String}

theorem of_entries_eq_nil (h : d.entries = []) : d.Numbers count where
  lt := by simp [find?, h]
  unique := by simp [find?, h]

theorem put_file (h : d.Numbers count) (hd : d.put name (.file count) = .ok d') :
    d'.Numbers (count + 1) where
  lt := by
    intro other file found
    rw [find?_put hd] at found
    split at found
    · simp_all
    · exact Nat.lt_succ_of_lt (h.lt found)
  unique := by
    intro a b file ha hb
    rw [find?_put hd] at ha hb
    split at ha <;> split at hb
    · simp_all
    -- the new number is the file's only on one side
    · obtain rfl : count = file := by simpa using ha
      exact absurd (h.lt hb) (Nat.lt_irrefl _)
    · obtain rfl : count = file := by simpa using hb
      exact absurd (h.lt ha) (Nat.lt_irrefl _)
    · exact h.unique ha hb

theorem put_folder (h : d.Numbers count) (hd : d.put name .folder = .ok d') : d'.Numbers count where
  lt := by
    intro other file found
    rw [find?_put hd] at found
    split at found
    · cases found
    · exact h.lt found
  unique := by
    intro a b file ha hb
    rw [find?_put hd] at ha hb
    split at ha <;> split at hb
    · cases ha
    · cases ha
    · cases hb
    · exact h.unique ha hb

theorem erase (h : d.Numbers count) (name : String) : (d.erase name).Numbers count where
  lt := by
    intro other file found
    rw [find?_erase] at found
    split at found
    · cases found
    · exact h.lt found
  unique := by
    intro a b file ha hb
    rw [find?_erase] at ha hb
    split at ha <;> split at hb
    · cases ha
    · cases ha
    · cases hb
    · exact h.unique ha hb

theorem remove (h : d.Numbers count) (hd : d.remove name = .ok d') : d'.Numbers count := by
  have same : ∀ other, d'.find? other = (d.erase name).find? other := by
    intro other
    rw [find?_remove hd, find?_erase]
  have erased := h.erase name
  constructor
  · intro other file found
    exact erased.lt (same other ▸ found)
  · intro a b file ha hb
    exact erased.unique (same a ▸ ha) (same b ▸ hb)

end Directory.Numbers

/-- The cache directory and the content of every file that ever was in it. -/
structure Cache where
  directory : Directory Nat := .missing
  contents : List Bytes := []
  numbers : directory.Numbers contents.length := by
    exact .of_entries_eq_nil (by first | rfl | grind [Directory.entries])
  deriving DecidableEq

namespace Cache

/-- The cache of a system on which nothing was edited yet. -/
def empty : Cache := {}

/-- A cache that nothing is known of is the empty one. -/
instance : Inhabited Cache := ⟨empty⟩

/-! ## What the directory holds -/

/-- The content of the file with a number. -/
def contentOf (c : Cache) (file : Nat) : Bytes :=
  c.contents.getD file []

/-- What stands in the directory, a file by its content. -/
def entryOf (c : Cache) : Directory.Entry Nat → Directory.Entry Bytes
  | .file file => .file (c.contentOf file)
  | .folder => .folder

/-- What stands under a name, a file by its content. -/
def find? (c : Cache) (name : String) : Option (Directory.Entry Bytes) :=
  (c.directory.find? name).map c.entryOf

/-- The content of the file under a name, if there is one. -/
def content? (c : Cache) (name : String) : Option Bytes :=
  match c.find? name with
  | some (.file content) => some content
  | _ => none

/-- All that stands in the directory, under its names. -/
def files (c : Cache) : List (String × Directory.Entry Bytes) :=
  c.directory.entries.map fun (name, entry) => (name, c.entryOf entry)

/-! ## Documents -/

/-- A document is open either for writing or for reading. -/
inductive Mode where
  | writing
  | reading
  deriving DecidableEq, Repr

/-- An open document. A folder may have taken the place of the file. -/
structure Handle where
  target : Directory.Entry Nat
  mode : Mode
  position : Nat := 0
  deriving DecidableEq, Repr

/-- A document that the program works with. It keeps its name when its file is closed. -/
structure Document where
  name : String
  handle : Option Handle
  deriving DecidableEq, Repr

/-- A name that leads out of the directory, or nowhere, is no name of a document. -/
def isName (name : List Char) : Bool :=
  !name.isEmpty && !name.contains '/' && !name.contains '\\'

/-- The longest name a file may have, in bytes. -/
def longestName : Nat := 255

/-- Why no file can be made under a name, whatever the directory holds. -/
def nameFlaw? (directory : Directory Nat) (name : String) : Option IoError :=
  if name.toList.contains '\x00' then some .nulInName
  else if directory = .plainFile then some .notADirectory
  else if longestName < Utf8.size name.toList then some .nameTooLong
  else if name = "." ∨ name = ".." then some .isADirectory
  else none

/-- Changes the content of the file with a number. -/
def modify (c : Cache) (file : Nat) (f : Bytes → Bytes) : Cache where
  directory := c.directory
  contents := c.contents.modify file f
  numbers := by simpa using c.numbers

/-- Makes a file under a name, in the place of what was there. -/
def newFile (c : Cache) (name : String) (content : Bytes) : Except IoError Cache :=
  match h : c.directory.put name (.file c.contents.length) with
  | .error flaw => .error flaw
  | .ok directory =>
    .ok ⟨directory, c.contents ++ [content], by simpa using c.numbers.put_file h⟩

/-- Gives the file under a name new content, or makes a file there. Also says which file it is. -/
def writeFile (c : Cache) (name : String) (content : Bytes) : Except IoError (Nat × Cache) :=
  match c.directory.find? name with
  | some .folder => .error .isADirectory
  | some (.file file) => .ok (file, c.modify file fun _ => content)
  | none => (c.newFile name content).map fun made => (c.contents.length, made)

/-- Creates an empty document, open for writing. A file of that name is emptied. -/
def create (c : Cache) (name : String) : Except Failure (Document × Cache) :=
  if isName name.toList then
    match nameFlaw? c.directory name with
    | some flaw => .error (.io flaw)
    | none =>
      match c.writeFile name [] with
      | .error flaw => .error (.io flaw)
      | .ok (file, c) => .ok (⟨name, some ⟨.file file, .writing, 0⟩⟩, c)
  else .error (.store (.invalidName (String.ofList (Text.quoted name.toList))))

/-- The content with `data` written at a position. -/
def splice (content : Bytes) (position : Nat) (data : Bytes) : Bytes :=
  content.take position ++ List.replicate (position - content.length) 0 ++ data ++
    content.drop (position + data.length)

namespace Document

/-- There is a handle of the file, for writing or for reading. -/
def isOpen (d : Document) : Bool :=
  d.handle.isSome

/-- Writes all of `data`, which the disk takes. Writing nothing is always possible. -/
def write (d : Document) (data : Bytes) (c : Cache) : Except IoError (Document × Cache) :=
  if data.isEmpty then .ok (d, c)
  else
    match d.handle with
    | none => .error .closed
    | some ⟨.file file, .writing, position⟩ =>
      .ok
        ({ d with handle := some ⟨.file file, .writing, position + data.length⟩ },
          c.modify file fun old => splice old position data)
    | some _ => .error .badDescriptor

/-- Brings what was written to the file; there is nothing left to bring. -/
def flush (d : Document) : Except IoError Unit :=
  if d.isOpen then .ok () else .error .closed

/-- Reads to the end. -/
def read (d : Document) (c : Cache) : Except IoError (Bytes × Document) :=
  match d.handle with
  | none => .error .closed
  | some ⟨_, .writing, _⟩ => .error .badDescriptor
  | some ⟨.folder, .reading, _⟩ => .error .isADirectory
  | some ⟨.file file, .reading, position⟩ =>
    let content := c.contentOf file
    .ok
      (content.drop position,
        { d with handle := some ⟨.file file, .reading, max position content.length⟩ })

/-- Lets go of the file. What was written is on the disk already, so nothing is left that could
fail. -/
def close (d : Document) : Document :=
  { d with handle := none }

/-- Opens what stands under the document's name now, for reading from the start. -/
def reopen (d : Document) (c : Cache) : Except IoError Document :=
  match c.directory.find? d.name with
  | none => .error .notFound
  | some target => .ok { d with handle := some ⟨target, .reading, 0⟩ }

end Document

/-! ## What other programs do -/

/-- Takes a file's name away. -/
def delete (c : Cache) (name : String) : Except IoError Cache :=
  match h : c.directory.remove name with
  | .error flaw => .error flaw
  | .ok directory => .ok { c with directory, numbers := c.numbers.remove h }

/-- Takes a file's name away if it is there. -/
def discard (c : Cache) (name : String) : Cache :=
  match c.delete name with
  | .ok c => c
  | .error _ => c

/-- Writes a file. -/
def overwrite (c : Cache) (name : String) (content : Bytes) : Except IoError Cache :=
  (c.writeFile name content).map (·.2)

/-- Puts something in the place of a document, or nothing. -/
def replace (c : Cache) (name : String) : Option (Directory.Entry Bytes) → Cache
  | none => c.discard name
  | some (.file content) => (c.overwrite name content).toOption.getD c
  | some .folder =>
    match h : (c.directory.erase name).put name .folder with
    | .ok directory => { c with directory, numbers := (c.numbers.erase name).put_folder h }
    | .error _ => c

end Cache
end NoteDesk
