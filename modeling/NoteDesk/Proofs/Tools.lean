import NoteDesk.Proofs.Command

/-!
# Work that the tools do not matter to

Only the handing over of documents depends on the editor and on the input stream. All other work
goes the same way whatever they are.

* `Desk.Tools` are the editor, the input stream and the list of documents handed to the editor, and
  `Desk.equip` gives a desk other ones.
* `Work.IgnoresTools` is work that commutes with that. So it is of every lookup, and of saving.
-/

namespace NoteDesk

namespace Desk

/-- What a session works with. -/
structure Tools where
  editor : Editor
  input : Bytes
  handed : List (String × Bytes)

def equip (d : Desk) (tools : Tools) : Desk :=
  { d with editor := tools.editor, input := tools.input, handed := tools.handed }

end Desk

namespace Work

variable {α β : Type}

/-- The work neither looks at the tools nor changes them. -/
def IgnoresTools (w : Work α) : Prop :=
  ∀ tools, Commutes (·.equip tools) w

namespace IgnoresTools

theorem pure (a : α) : IgnoresTools (pure a : Work α) := fun _ => .pure a

theorem throw (cause : Failure) : IgnoresTools (throw cause : Work α) := fun _ => .throw cause

theorem liftM (x : Except Failure α) : IgnoresTools (liftM x : Work α) := fun _ => .liftM x

theorem bind {w : Work α} {f : α → Work β} (hw : IgnoresTools w) (hf : ∀ a, IgnoresTools (f a)) :
    IgnoresTools (w >>= f) :=
  fun tools => .bind (hw tools) fun a => hf a tools

theorem map {w : Work α} (f : α → β) (hw : IgnoresTools w) : IgnoresTools (f <$> w) :=
  fun tools => .map f (hw tools)

/-! ## Steps -/

theorem askStore (question : LocalStore → Except Failure α) : IgnoresTools (askStore question) :=
  fun _ _ => rfl

theorem changeStore (change : LocalStore → Except Failure LocalStore)
    (spoil : LocalStore → LocalStore) : IgnoresTools (changeStore change spoil) := by
  intro tools d
  have same : (d.equip tools).store = d.store := rfl
  rw [Work.changeStore, perform_mk, perform_mk, same]
  cases change d.store with
  | error cause => rfl
  | ok store => rfl

theorem askService (question : Service → Except RemoteError α) :
    IgnoresTools (askService question) :=
  fun _ _ => rfl

theorem changeService (change : Service → Except RemoteError α × Service) :
    IgnoresTools (changeService change) :=
  fun _ _ => rfl

theorem toWire (markdown : String) : IgnoresTools (toWire markdown) := fun _ _ => rfl

theorem toMarkdown (markup : String) : IgnoresTools (toMarkdown markup) := fun _ _ => rfl

/-! ## Notebooks -/

theorem findNotebook (name : String) : IgnoresTools (findNotebook name) := by
  refine .bind (.askStore _) fun known => ?_
  split
  · exact .pure _
  · refine .bind (.askService _) fun notebooks => .bind (.changeStore _ _) fun _ => ?_
    split
    · exact .pure _
    · exact .throw _

theorem resolve (r : NotebookRef) : IgnoresTools (resolve r) := by
  unfold Work.resolve
  split
  · exact .map _ (.askService _)
  · exact .map _ (.findNotebook _)

theorem notebookGuid? (notebook : Option String) : IgnoresTools (notebookGuid? notebook) := by
  unfold Work.notebookGuid?
  split
  · exact .pure _
  · exact .map _ (.findNotebook _)

theorem withNotebook (n : Note) : IgnoresTools (withNotebook n) := by
  unfold Work.withNotebook
  split
  · exact .pure _
  · exact .map _ (.resolve _)

theorem refreshNotebook (n : Note) (before : String) : IgnoresTools (refreshNotebook n before) := by
  unfold Work.refreshNotebook
  split
  · exact .pure _
  · exact .map _ (.findNotebook _)

/-! ## Notes -/

theorem numberedNote? (title : String) : IgnoresTools (numberedNote? title) := by
  unfold Work.numberedNote?
  split
  · exact .pure _
  · exact .pure _
  · exact .map _ (.askStore _)

theorem titledNote (title : String) (notebook : Option String) :
    IgnoresTools (titledNote title notebook) := by
  refine .bind (.notebookGuid? notebook) fun guid tools => ?_
  refine .get (fun _ => rfl) fun d => ?_
  refine .bind (fun _ => rfl) fun found => ?_
  split
  · exact .pure _
  · exact .throw _

theorem findNote (title : String) (notebook : Option String) :
    IgnoresTools (findNote title notebook) := by
  refine .bind (.numberedNote? title) fun numbered => ?_
  split
  · exact .pure _
  · exact .titledNote title notebook

theorem openNote (title : String) (notebook : Option String) :
    IgnoresTools (openNote title notebook) := by
  refine .bind (.findNote title notebook) fun n => .bind (.askService _) fun content => ?_
  exact .map _ (.toMarkdown _)

theorem noteToEdit (title : String) (notebook : Option String) (m : EditMode) :
    IgnoresTools (noteToEdit title notebook m) := by
  unfold Work.noteToEdit
  split
  · refine .bind (.askStore _) fun kept => ?_
    split
    · split
      · exact .throw _
      · exact .pure _
    · exact .throw _
  · exact .openNote title notebook

theorem newNote (title notebook : Option String) : IgnoresTools (newNote title notebook) := by
  unfold Work.newNote
  split
  · exact .pure _
  · exact .map _ (.findNotebook _)

theorem documentName (n : Note) (m : EditMode) : IgnoresTools (documentName n m) := by
  intro tools d
  rw [Work.documentName, perform_mk, perform_mk]
  split
  · rfl
  · rfl

/-! ## Saving -/

theorem keepForRecovery (n : Note) (cause : Failure) : IgnoresTools (keepForRecovery n cause) :=
  fun tools => .keepForRecovery (f := (·.equip tools)) (fun _ => rfl) (fun _ _ => rfl) n cause

theorem saveChanges (n : Note) (m : EditMode) : IgnoresTools (saveChanges n m) :=
  fun tools => .saveChanges (fun markdown => toWire markdown tools)
    (fun change => changeService change tools) (fun n cause => keepForRecovery n cause tools) n m

theorem settle (s : Session) (m : EditMode) : IgnoresTools (settle s m) := by
  unfold Work.settle
  split
  · exact .pure _
  · exact .map _ (.saveChanges s.edited m)

theorem saveNew (n : Note) (raw : Bool) : IgnoresTools (saveNew n raw) :=
  fun tools => .saveNew (fun markdown => toWire markdown tools)
    (fun change => changeService change tools) n raw

end IgnoresTools
end Work
end NoteDesk
