import NoteDesk.Json

/-!
# What can go wrong

* `IoError`, `StoreError`, `RemoteError`, `EditorError`, `ConfigError` and `Json.Flaw` are the
  causes met in each place.
* `Failure` is what an operation reports, and `Failure.message` its wording.
-/

namespace NoteDesk

/-- Why a file could not be used. -/
inductive IoError where
  | notFound
  | badDescriptor
  | notADirectory
  | isADirectory
  | nameTooLong
  | nulInName
  | undecodable
  | closed
  /-- Any other error of the operating system, in its wording. -/
  | system (wording : String)
  deriving DecidableEq, Repr

/-- The wording of the system, or of the program where the system is not asked. -/
def IoError.message : IoError → String
  | notFound => "No such file or directory (os error 2)"
  | badDescriptor => "Bad file descriptor (os error 9)"
  | notADirectory => "Not a directory (os error 20)"
  | isADirectory => "Is a directory (os error 21)"
  | nameTooLong => "File name too long (os error 36)"
  | nulInName => "file name contained an unexpected NUL byte"
  | undecodable => "stream did not contain valid UTF-8"
  | closed => "cache file is closed"
  | system wording => wording

/-- Why the local store refused. -/
inductive StoreError where
  /-- The name cannot be one of a cache document; given in its quoted form. -/
  | invalidName (quoted : String)
  | refused (reason : String)
  deriving DecidableEq, Repr

/-- The wording of what the local store refused. -/
def StoreError.message : StoreError → String
  | invalidName quoted => "Invalid cache file name: " ++ quoted
  | refused reason => reason

/-- Why the service refused. -/
inductive RemoteError where
  | unknownNote (guid : String)
  | unknownNotebook (guid : String)
  | refused (reason : String)
  deriving DecidableEq, Repr

/-- The wording of what the service refused. -/
def RemoteError.message : RemoteError → String
  | unknownNote guid => "Note not found: " ++ guid
  | unknownNotebook guid => "Notebook not found: " ++ guid
  | refused reason => reason

/-- Why editing failed. -/
inductive EditorError where
  | noneFound
  | emptyCommand
  | notLaunched (command : String) (cause : IoError)
  | failedExit (command : String)
  | gaveUp (reason : String)
  deriving DecidableEq, Repr

/-- The wording of what kept the editor from editing. -/
def EditorError.message : EditorError → String
  | noneFound => "No editor found. Set $EDITOR environment variable."
  | emptyCommand => "Editor command is empty"
  | notLaunched command cause =>
    "Failed to launch editor '" ++ command ++ "': " ++ cause.message
  | failedExit command => "Editor '" ++ command ++ "' exited with non-zero status"
  | gaveUp reason => reason

/-- Why a configuration was refused. -/
inductive ConfigError where
  | zeroSearchCount
  | noHome
  deriving DecidableEq, Repr

/-- The wording of what is wrong with the configuration. -/
def ConfigError.message : ConfigError → String
  | zeroSearchCount => "search_count must be at least 1"
  | noHome => "Could not determine home directory"

/-- What an operation reports when it does not succeed. -/
inductive Failure where
  | noteNotFound
  | notebookNotFound (name : String)
  | io (cause : IoError)
  | stored (flaw : Json.Flaw)
  | remote (cause : RemoteError)
  | store (cause : StoreError)
  | editor (cause : EditorError)
  /-- A markup tag is opened at the given byte and never closed. -/
  | unterminatedTag (byte : Nat)
  | config (cause : ConfigError)
  /-- Saving failed, and the note could not be kept locally either. -/
  | recoveryPointFailed (save recovery : Failure)
  deriving DecidableEq, Repr

/-- The wording of a failure: the place where it happened and its cause. -/
def Failure.message : Failure → String
  | noteNotFound => "no note found"
  | notebookNotFound name => "Notebook not found: " ++ name
  | io cause => "IO error: " ++ cause.message
  | stored flaw => "Serialization error: " ++ flaw.message
  | remote cause => "Remote error: " ++ cause.message
  | store cause => "Store error: " ++ cause.message
  | editor cause => "Editor error: " ++ cause.message
  | unterminatedTag byte => "Conversion error: unterminated tag at byte " ++ toString byte
  | config cause => "Config error: " ++ cause.message
  | recoveryPointFailed save recovery =>
    "Error when saving note: " ++ save.message ++ "\nFailed to create recovery point: " ++
      recovery.message

end NoteDesk
