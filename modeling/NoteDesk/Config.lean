import NoteDesk.Disk
import NoteDesk.Stored

/-!
# Configuration

A configuration is kept in a file of the data directory, and every part of it may be missing there.

* `Config.load` reads it; without a file everything has its default. A search that asks for no
  notes is refused.
* `Config.save` writes it.
-/

namespace NoteDesk

/-- What the user may set. -/
structure Config where
  /-- Command that starts the editor; goes before the environment. -/
  editor : Option String := none
  /-- How many notes a search asks for. -/
  searchCount : UInt64 := 20
  /-- Where documents are kept while they are edited. -/
  cacheDir : Option String := none
  deriving DecidableEq, Repr, Inhabited

namespace Config

/-- Name of the file. -/
def fileName : String := "config.json"

/-- The greatest number of notes that a search can ask for, of 64 bits. -/
def maxCount : Int := 0xFFFFFFFFFFFFFFFF

/-- A text that need not be there. -/
def optional (s : Option String) : Json :=
  (s.map Json.ofString).getD .null

/-- The configuration as it is kept in its file. -/
def toJson (c : Config) : Json :=
  .object
    [Json.field "editor" (optional c.editor),
      Json.field "search_count" (.integer c.searchCount.toNat),
      Json.field "cache_dir" (optional c.cacheDir)]
    none

/-- The fields of a configuration read so far. -/
structure Part where
  editor : Option (Option String) := none
  searchCount : Option UInt64 := none
  cacheDir : Option (Option String) := none
  deriving DecidableEq, Repr

namespace Part

/-- The field was read already. -/
def given (field : String) (p : Part) : Bool :=
  match field with
  | "editor" => p.editor.isSome
  | "search_count" => p.searchCount.isSome
  | "cache_dir" => p.cacheDir.isSome
  | _ => false

/-- Takes a field over. One that is unknown changes nothing. -/
def set (field : String) (j : Json) (p : Part) : Except Json.Flaw Part :=
  match field with
  | "editor" => return { p with editor := some (← j.asOption Json.asText) }
  | "search_count" => do
    let count ← j.asInteger 0 maxCount
    return { p with searchCount := some (.ofNat count.toNat) }
  | "cache_dir" => return { p with cacheDir := some (← j.asOption Json.asText) }
  | _ => .ok p

/-- The configuration of the fields that were read; the others have their defaults. -/
def finish (p : Part) : Except Json.Flaw Config :=
  .ok
    { editor := p.editor.getD none
      searchCount := p.searchCount.getD 20
      cacheDir := p.cacheDir.getD none }

end Part

/-- The fields, in the order of a list of them. Each of them may be missing. -/
def shape : Json.Shape Config Part where
  names := [("editor", true), ("search_count", true), ("cache_dir", true)]
  none := {}
  given := Part.given
  set := Part.set
  finish := Part.finish

/-- Reads a configuration. -/
def ofJson : Json.Decoder Config :=
  Json.asRecord shape

/-- The configuration, unless it cannot be worked with. -/
def checked (c : Config) : Except Failure Config :=
  if c.searchCount = 0 then .error (.config .zeroSearchCount) else .ok c

/-- Reads the configuration kept in the data directory. -/
def load (data : Directory Bytes) : Except Failure Config := do
  match ← (data.readText? fileName).mapError .io with
  | none => return {}
  | some s => checked (← (Json.decode ofJson s).mapError .stored)

/-- Keeps the configuration in the data directory. -/
def save [Disk] (c : Config) (data : Directory Bytes) : Except Failure (Directory Bytes) :=
  (data.write fileName (Utf8.encode c.toJson.render)).mapError .io

end Config
end NoteDesk
