import NoteDesk.Note

/-!
# Reports

A command ends with a `Report`: what there is to say, the notes written to the service, and what a
listing found.
-/

namespace NoteDesk

/-- Something to tell the user. -/
inductive Message where
  | unchanged (title : String)
  | saved (title : String)
  | created (title : String)
  | renamed (old new : String)
  | moved (title notebook : String)
  | alreadyIn (title notebook : String)
  | deleted (title : String)
  deriving DecidableEq, Repr

namespace Message

/-- How a message is shown. -/
inductive Level where
  | info
  | success
  | warning
  deriving DecidableEq, Repr

/-- Only what changed nothing is no success. -/
def level : Message → Level
  | unchanged _ => .info
  | alreadyIn .. => .warning
  | _ => .success

/-- The wording of the message. -/
def text : Message → String
  | unchanged title => "No changes to note: " ++ title
  | saved title => "Note saved: " ++ title
  | created title => "Note created: " ++ title
  | renamed old new => "Note renamed: " ++ old ++ " -> " ++ new
  | moved title notebook => "Note moved: " ++ title ++ " -> " ++ notebook
  | alreadyIn title notebook => "Note " ++ title ++ " is already in " ++ notebook
  | deleted title => "Note deleted: " ++ title

end Message

/-- What a command tells when it ends. -/
structure Report where
  messages : List Message := []
  /-- Notes written to the service. -/
  affected : List Note := []
  listed : List Note := []
  notebooks : List Notebook := []
  deriving DecidableEq, Repr, Inhabited

end NoteDesk
