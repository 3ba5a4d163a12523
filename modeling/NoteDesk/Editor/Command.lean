import NoteDesk.Editor.Program
import NoteDesk.Places
import NoteDesk.Text.Blank

/-!
# The user's editor

* `Editor.command` is the command that starts the user's editor: the configured one, or one the
  environment names, or the first of some common editors that there is.
* `Editor.launch` runs a command on a document. The command may have arguments of its own.
-/

namespace NoteDesk.Editor

/-- The command, unless it is blank. -/
def nonBlank (command : String) : Option String :=
  if Text.allBlank command.toList then none else some command

/-- Editors to look for when none is named. -/
def common : List String := ["vim", "vi", "nano"]

/-- The command that the environment gives. -/
def commandOf (env : Environment) : Except EditorError String :=
  match [env.editor, env.visual].findSome? (·.bind nonBlank) with
  | some command => .ok command
  | none =>
    match common.find? (env.programs.contains ·) with
    | some name => .ok name
    | none => .error .noneFound

/-- The command that starts the editor, where one may be given that goes before the
environment. -/
def command (env : Environment) (given : Option String) : Except EditorError String :=
  match given.bind nonBlank with
  | some command => .ok command
  | none => commandOf env

/-- Runs a command on a document. -/
def launch (programs : String → Option Program) (command : String) : Editor :=
  fun document =>
    match (Text.words command.toList).map String.ofList with
    | [] => .untouched document (.error .emptyCommand)
    | name :: arguments =>
      match programs name with
      | none => .untouched document (.error (.notLaunched command .notFound))
      | some program =>
        let run := program arguments document
        ⟨run.document, if run.succeeded then .ok () else .error (.failedExit command)⟩

/-- The user's editor. -/
def system (programs : String → Option Program) (env : Environment) (given : Option String) :
    Editor :=
  fun document =>
    match command env given with
    | .error cause => .untouched document (.error cause)
    | .ok command => launch programs command document

end NoteDesk.Editor
