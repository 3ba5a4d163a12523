import NoteDesk.Editor
import NoteDesk.Text.Search

/-!
# Programs that edit

A `Program` is called with arguments and the name of a document. `Program.standard` has the programs
that every system has, as far as they can serve as editors without anyone at the keyboard.
-/

namespace NoteDesk

/-- What a program leaves where the document was, and whether it reports success. -/
structure Program.Run where
  document : Option (Directory.Entry Bytes)
  succeeded : Bool
  deriving DecidableEq, Repr

/-- From the arguments before the document's name, and its content. -/
abbrev Program := List String → Bytes → Program.Run

namespace Program

/-- The program leaves the document alone. -/
def quits (succeeded : Bool) (document : Bytes) : Run :=
  ⟨some (.file document), succeeded⟩

/-! ## Substitution in lines -/

/-- Replace a text by another, in every line once or everywhere. -/
structure Substitution where
  pattern : List Char
  replacement : List Char
  everywhere : Bool
  deriving DecidableEq, Repr

namespace Substitution

/-- Reads `s/pattern/replacement/`, which may end in `g`. Any character may divide the parts. -/
def ofCommand? : List Char → Option Substitution
  | 's' :: divider :: parts => do
    let (pattern, rest) ← Text.breakAtChar divider parts
    let (replacement, flags) ← Text.breakAtChar divider rest
    if pattern.isEmpty then none
    else if flags.isEmpty then some ⟨pattern, replacement, false⟩
    else if flags = ['g'] then some ⟨pattern, replacement, true⟩
    else none
  | _ => none

/-- A line after the substitution, at the first place where the pattern stands or at all of them. -/
def inLine (s : Substitution) (line : List Char) : List Char :=
  if s.everywhere then Text.replaceAll s.pattern s.replacement line
  else
    match Text.breakAt s.pattern line with
    | none => line
    | some (before, after) => before ++ s.replacement ++ after

/-- A text after the substitution in each of its lines. -/
def inText (s : Substitution) (text : List Char) : List Char :=
  ['\n'].intercalate ((text.splitOn '\n').map s.inLine)

end Substitution

/-! ## The programs -/

/-- Applies substitutions given as arguments, in place. -/
def substitute : Program
  | ["-i", command], document =>
    match Substitution.ofCommand? command.toList, Utf8.decode? document with
    | some s, some text => ⟨some (.file (Utf8.encode (s.inText text))), true⟩
    | _, _ => quits false document
  | [command], document => quits (Substitution.ofCommand? command.toList).isSome document
  | _, document => quits false document

/-- Deletes the document. -/
def delete : Program :=
  fun arguments document =>
    if arguments.all (["-f", "-r", "-rf", "-fr", "--"].contains ·) then ⟨none, true⟩
    else quits false document

/-- Runs a command of one word. -/
def shell : Program
  | ["-c", command], document => quits (["true", ":", "exit"].contains command) document
  | _, document => quits false document

/-- Directories that programs are in. -/
def directories : List String := ["/usr/bin/", "/bin/"]

/-- The name of a program that may be given by its path. -/
def nameOf (path : String) : String :=
  match directories.findSome? fun d => d.toList.isPrefixOf? path.toList with
  | some name => String.ofList name
  | none => path

/-- The programs of every system, by name or path. -/
def standard (path : String) : Option Program :=
  match nameOf path with
  | "true" => some fun _ => quits true
  | "false" => some fun _ => quits false
  | "sed" => some substitute
  | "rm" => some delete
  | "sh" => some shell
  | _ => none

end Program
end NoteDesk
