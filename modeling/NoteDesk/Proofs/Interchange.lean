import NoteDesk.Proofs.Left
import NoteDesk.Proofs.Reread
import NoteDesk.Proofs.Run
import NoteDesk.Proofs.Twin

/-!
# The input stream and the editor are interchangeable

A session that takes its content from the input stream fills both contents of its note before it
writes the document. A session whose editor puts the same content into the document leaves the note
as it is until the document is read. Nothing of that shows in the end.

* `Editor.Overwrites` is an editor that puts a text into a document in the place of the content.
* `Work.Beside` relates outcomes at desks that are the same but for the tools, with alike results.
* `Work.editDocument_interchange`: both documents are read back as twins.
* `Opening` is what starts a session, in either mode, and `Opening.outcomes_twin` the main result.
-/

namespace NoteDesk

/-- The editor overwrites the document of the note with the document that it has when its content
is the text. -/
def Editor.Overwrites (e : Editor) (n : Note) (m : EditMode) (text : String) : Prop :=
  e (Work.written n m) = ⟨some (.file (Work.written (n.withContent m.raw text) m)), .ok ()⟩

/-! ## What does not depend on where the content comes from -/

namespace Document

variable (n : Note) (m : EditMode) (stdin : Bool)

theorem parse_stdin (document : Bytes) : parse document n { m with stdin } = parse document n m :=
  rfl

theorem render_stdin : render n { m with stdin } = render n m :=
  rfl

theorem roundTrip_stdin : roundTrip n { m with stdin } = roundTrip n m := by
  rw [roundTrip, roundTrip, parse_stdin, render_stdin]

end Document

namespace Work

open Desk (LooksUp Tools)

variable {α β : Type} {raw : Bool} {R : α → α → Prop} {S : β → β → Prop} {d d' : Desk}
  {tools : Tools}

/-! ## Desks with other tools -/

/-- The outcomes are alike, and the desks are the same but for the tools. -/
structure Beside (R : α → α → Prop) (p q : Except Failure α × Desk) : Prop where
  result : Alike R p.1 q.1
  desk : ∃ tools, q.2 = p.2.equip tools

theorem Beside.of_eq {p q : Except Failure α × Desk} (result : Alike R p.1 q.1)
    (desk : q.2 = p.2) : Beside R p q :=
  ⟨result, ⟨p.2.editor, p.2.input, p.2.handed⟩, desk⟩

section

variable {w w' : Work α} {f g : α → Work β} (h : Beside R (w.perform d) (w'.perform d'))
include h

/-- What comes of the second parts is related if both first parts failed, and if they gave related
things. -/
theorem Beside.related {Q : Except Failure β × Desk → Except Failure β × Desk → Prop}
    (failed : ∀ cause d tools, Q (.error cause, d) (.error cause, d.equip tools))
    (done : ∀ a b d tools, R a b → Q ((f a).perform d) ((g b).perform (d.equip tools))) :
    Q ((w >>= f).perform d) ((w' >>= g).perform d') := by
  rw [perform_bind, perform_bind]
  rcases first : w.perform d with ⟨r, d₁⟩
  rcases second : w'.perform d' with ⟨r', d₂⟩
  rw [first, second] at h
  obtain ⟨result, tools, rfl⟩ := h
  cases result with
  | failed cause => exact failed cause d₁ tools
  | done related => exact done _ _ d₁ tools related

variable (hg : ∀ b, IgnoresTools (g b))
include hg

/-- What is done with related things at the same desk, by work that the tools do not matter to, can
be done at desks with other tools. -/
theorem Beside.bind (hfg : ∀ a b d, R a b → Beside S ((f a).perform d) ((g b).perform d)) :
    Beside S ((w >>= f).perform d) ((w' >>= g).perform d') := by
  refine h.related (fun cause d tools => ⟨.failed cause, tools, rfl⟩) fun a b d tools twin => ?_
  obtain ⟨result, tools', desk⟩ := hfg a b d twin
  rw [hg b tools]
  exact ⟨result, tools, by rw [desk]; rfl⟩

theorem Beside.outcomes
    (hfg : ∀ a b d, R a b → Outcomes raw S ((f a).perform d) ((g b).perform d)) :
    Outcomes raw S ((w >>= f).perform d) ((w' >>= g).perform d') := by
  refine h.related (fun cause d tools => ⟨.failed cause, (Desk.Twin.refl raw d).equip tools⟩)
    fun a b d tools twin => ?_
  rw [hg b tools]
  exact (hfg a b d twin).equip tools

end

/-- Work that the tools do not matter to comes first at both desks. -/
theorem IgnoresTools.outcomes {w : Work α} (hw : IgnoresTools w) {f g : α → Work β}
    (hfg : ∀ a d₁, w.perform d = (.ok a, d₁) →
      Outcomes raw S ((f a).perform d₁) ((g a).perform (d₁.equip tools))) :
    Outcomes raw S ((w >>= f).perform d) ((w >>= g).perform (d.equip tools)) := by
  rw [perform_bind, perform_bind, hw tools d]
  rcases first : w.perform d with ⟨r, d₁⟩
  cases r with
  | ok a => exact hfg a d₁ first
  | error cause => exact ⟨.failed cause, (Desk.Twin.refl raw d₁).equip tools⟩

/-! ## Documents -/

variable {n : Note} {m : EditMode} {text : String}

theorem written_filled (n : Note) (m : EditMode) (text : String) (stdin : Bool) :
    written (n.withContent m.raw text) { m with stdin } = written (n.filled text) m := by
  have content : (n.withContent m.raw text).content m.raw = (n.filled text).content m.raw := by
    rw [Note.content_withContent, Note.filled, Note.content]
    split <;> rfl
  have name : (n.withContent m.raw text).notebookName = (n.filled text).notebookName :=
    Note.notebookName_withContent ..
  have title : (n.withContent m.raw text).title = (n.filled text).title :=
    Note.title_withContent ..
  rw [written, written, Document.render, Document.render, Header.render, Header.render, content,
    name, title]

theorem refreshNotebook_beside {a b : Note} (h : a.Twin raw b) (before : String) (d : Desk) :
    Beside (Note.Twin raw) ((refreshNotebook a before).perform d)
      ((refreshNotebook b before).perform d) :=
  have ⟨result, desk⟩ := refreshNotebook_twin h before d
  .of_eq result desk

section

variable (hm : m.stdin = true) (input : Utf8.toString? d.input = some text)
  (overwrites : tools.editor.Overwrites n { m with stdin := false } text)
include hm input overwrites

theorem editIn_interchange {document : Cache.Document} (start : document.AtStart d.cache) :
    Beside (Note.Twin m.raw) ((editIn n m document).perform d)
      ((editIn n { m with stdin := false } document).perform (d.equip tools)) := by
  have left : ((d.equip tools).editor (written n { m with stdin := false })).document =
      some (.file (written (n.filled text) m)) := by
    rw [← written_filled n m text false]
    exact congrArg Edited.document overwrites
  have accepted : ((d.equip tools).editor (written n { m with stdin := false })).result =
      .ok () := congrArg Edited.result overwrites
  rw [perform_editIn_filled hm start input, perform_editIn_left rfl left start, accepted,
    Document.parse_stdin]
  refine ⟨?_, ⟨tools.editor, tools.input, _⟩, rfl⟩
  generalize written (n.filled text) m = content
  exact Document.parse_twin n text text content m

/-- **Content from the input and content from an editor are read back as twins**, and the desks are
the same but for the tools. -/
theorem editDocument_interchange :
    Beside (Note.Twin m.raw) ((editDocument n m).perform d)
      ((editDocument n { m with stdin := false }).perform (d.equip tools)) := by
  obtain ⟨name, d₁, hname, same⟩ := perform_documentName n m d
  have hname' : (documentName n { m with stdin := false }).perform (d.equip tools) =
      (.ok name, d₁.equip tools) := (IgnoresTools.documentName n m tools).of_eq hname
  have input : Utf8.toString? d₁.input = some text := by
    rw [same]
    exact input
  rw [editDocument, editDocument, perform_bind_of_ok hname, perform_bind_of_ok hname']
  cases hcreate : d₁.cache.create name with
  | error cause =>
    rw [perform_withDocument_of_error hcreate,
      perform_withDocument_of_error (d := d₁.equip tools) hcreate]
    exact ⟨.failed cause, tools, rfl⟩
  | ok created =>
    obtain ⟨document, cache⟩ := created
    obtain ⟨-, start, -⟩ := Cache.find?_create hcreate
    have edited := editIn_interchange (d := { d₁ with cache }) hm input overwrites start
    obtain ⟨result, tools', desk⟩ := edited.bind (fun b => .refreshNotebook b n.notebookName)
      fun a b d twin => refreshNotebook_beside twin n.notebookName d
    rw [perform_withDocument_of_ok hcreate,
      perform_withDocument_of_ok (d := d₁.equip tools) hcreate]
    refine ⟨result, tools', ?_⟩
    exact congrArg (fun d : Desk => { d with cache := d.cache.discard name }) desk

/-! ## Sessions -/

theorem editNew_interchange :
    Outcomes m.raw (Report.Twin m.raw) ((editNew n m).perform d)
      ((editNew n { m with stdin := false }).perform (d.equip tools)) := by
  rw [editNew_eq, editNew_eq]
  refine (editDocument_interchange hm input overwrites).outcomes ?_ fun a b d twin => ?_
  · exact fun b => .bind (.saveNew b m.raw) fun _ => .pure _
  · simp only [bind_pure_comp]
    refine .map ?_ (saveNew_twin twin d)
    rintro created _ rfl
    exact .refl m.raw _

end

theorem editNote_interchange {title : String} {notebook : Option String} (hm : m.stdin = true)
    (input : Utf8.toString? d.input = some text)
    (overwrites : ∀ n d', (noteToEdit title notebook m >>= withNotebook).perform d = (.ok n, d') →
      tools.editor.Overwrites n { m with stdin := false } text) :
    Outcomes m.raw (Report.Twin m.raw) ((editNote title notebook m).perform d)
      ((editNote title notebook { m with stdin := false }).perform (d.equip tools)) := by
  rw [editNote_parts, editNote_parts]
  simp only [Document.roundTrip_stdin]
  refine (IgnoresTools.noteToEdit title notebook m).outcomes fun fetched d₁ found => ?_
  refine (IgnoresTools.liftM (Document.roundTrip fetched m)).outcomes fun echoed d₁' echo => ?_
  rw [perform_liftM] at echo
  obtain ⟨-, rfl⟩ := Prod.mk.inj echo
  refine (IgnoresTools.withNotebook fetched).outcomes fun n d₂ resolved => ?_
  have looked : LooksUp d d₂ :=
    ((noteToEdit_looksUp title notebook m).of_eq found).trans
      ((withNotebook_looksUp fetched).of_eq resolved)
  have edited : Beside (Note.Twin m.raw) ((editDocument n m).perform d₂)
      ((editDocument n { m with stdin := false }).perform (d₂.equip tools)) :=
    editDocument_interchange hm (by rw [looked.input, input])
      (overwrites n d₂ (by rw [perform_bind_of_ok found, resolved]))
  exact edited.outcomes (fun b => .settle ⟨echoed, n, b⟩ m)
    fun a b d twin => settle_twin twin echoed n d

end Work

/-! ## Requests -/

/-- What starts a session, wherever its content comes from. -/
inductive Opening where
  | edit (title : String) (notebook : Option String)
  | recovery
  | create (title notebook : Option String) (edited : Bool)
  deriving DecidableEq, Repr

namespace Opening

/-- The request for a session in a mode. Without content from the input, a note that is created is
to be edited. -/
def request (m : EditMode) : Opening → Request
  | edit title notebook => .edit title notebook m
  | recovery => .editRecovery m
  | create title notebook edited => .create title notebook (edited || !m.stdin) m

/-- The note whose document is written first. -/
def note (m : EditMode) : Opening → Work Note
  | edit title notebook => Work.noteToEdit title notebook m >>= Work.withNotebook
  | recovery => Work.noteToEdit "" none { m with recovery := true } >>= Work.withNotebook
  | create title notebook _ => Work.newNote title notebook

theorem note_ignoresTools (m : EditMode) (o : Opening) : Work.IgnoresTools (o.note m) := by
  cases o with
  | edit title notebook => exact .bind (.noteToEdit title notebook m) .withNotebook
  | recovery => exact .bind (.noteToEdit "" none _) .withNotebook
  | create title notebook edited => exact .newNote title notebook

end Opening

/-- The answers say the same of twins. -/
inductive Answer.Twin (raw : Bool) : Answer → Answer → Prop
  | report {r r' : Report} (h : r.Twin raw r') : Twin raw (.report r) (.report r')
  | note {n n' : Note} (h : n.Twin raw n') : Twin raw (.note n) (.note n')

namespace Opening

open Work Desk

theorem request_interchange (o : Opening) (tools : Tools) {m : EditMode} {d : Desk} {text : String}
    (hm : m.stdin = true) (input : Utf8.toString? d.input = some text)
    (overwrites : ∀ n d', (o.note m).perform d = (.ok n, d') →
      tools.editor.Overwrites n { m with stdin := false } text) :
    Outcomes m.raw (Answer.Twin m.raw) ((o.request m).work.perform d)
      ((o.request { m with stdin := false }).work.perform (d.equip tools)) := by
  cases o with
  | edit title notebook =>
    exact .map (fun _ _ => .report) (editNote_interchange hm input overwrites)
  | recovery =>
    exact .map (fun _ _ => .report)
      (editNote_interchange (m := { m with recovery := true }) hm input overwrites)
  | create title notebook edited =>
    refine .map (fun _ _ => .report) ?_
    rw [createNote_eq, createNote_eq]
    simp only [hm, Bool.or_true, Bool.not_false, Bool.true_or, if_true]
    refine (IgnoresTools.newNote title notebook).outcomes fun n d' found => ?_
    have looked : LooksUp d d' := (newNote_looksUp title notebook).of_eq found
    exact editNew_interchange hm (by rw [looked.input, input]) (overwrites n d' found)

/-- **The input stream and the editor are interchangeable.** From any desk, a session that takes a
text from the input, and the session whose editor overwrites the document with that of the note with
the text for its content, end with the same failure or the same messages, and leave the same records
at the service and the same cache. The notes they report, send and keep for recovery agree in all
but the content that the mode does not work on. -/
theorem outcomes_twin (o : Opening) (m : EditMode) (d : Desk) (editor : Editor) (text : String)
    (overwrites : ∀ n d', (o.note m).perform d = (.ok n, d') →
      editor.Overwrites n { m with stdin := false } text) :
    Outcomes m.raw (Answer.Twin m.raw)
      ((o.request { m with stdin := true }).work.perform { d with input := Utf8.ofString text })
      ((o.request { m with stdin := false }).work.perform { d with editor }) := by
  have input : Utf8.toString? (Utf8.ofString text) = some text := by
    rw [Utf8.ofString, Utf8.toString?, Utf8.decode?_encode, Option.map_some, String.ofList_toList]
  have whole := o.request_interchange ⟨editor, d.input, d.handed⟩ (m := { m with stdin := true })
    (d := { d with input := Utf8.ofString text }) rfl input
  refine whole fun n d' found => ?_
  -- the note is found in the same way whatever the input is
  have found : (o.note m).perform d = (.ok n, d'.equip ⟨d.editor, d.input, d.handed⟩) :=
    (o.note_ignoresTools m ⟨d.editor, d.input, d.handed⟩).of_eq
      (d := { d with input := Utf8.ofString text }) found
  exact overwrites n _ found

/-- A note that could not be saved. -/
def keptNote : Note where
  guid := "n"
  title := "Groceries"
  body := "milk"
  md := "milk"

/-- A desk where it still cannot be saved. -/
def keptDesk : Desk where
  service :=
    { records := [⟨{ guid := "n", title := "Groceries" }, Envelope.wrap "milk"⟩]
      updateRefusal := some "offline" }
  store := .memory { recovery := some keptNote }

/-- An editor that adds eggs. -/
def shopper : Editor :=
  fun _ => ⟨some (.file (written (keptNote.withContent false "milk\neggs") {})), .ok ()⟩

theorem outcomes_twin_keptDesk :
    (∀ n d', (recovery.note {}).perform keptDesk = (.ok n, d') →
      shopper.Overwrites n {} "milk\neggs") ∧
    Outcomes false (Answer.Twin false)
      ((recovery.request { stdin := true }).work.perform
        { keptDesk with input := Utf8.ofString "milk\neggs" })
      ((recovery.request {}).work.perform { keptDesk with editor := shopper }) ∧
    ((recovery.request {}).work.perform { keptDesk with editor := shopper }).1 =
      .error (.remote (.refused "offline")) := by
  have opened : (recovery.note {}).perform keptDesk = (.ok keptNote, keptDesk) := rfl
  have overwrites : ∀ n d', (recovery.note {}).perform keptDesk = (.ok n, d') →
      shopper.Overwrites n {} "milk\neggs" := by
    intro n d' found
    rw [opened] at found
    obtain rfl := Except.ok.inj (Prod.mk.inj found).1
    rfl
  have outcomes := outcomes_twin recovery {} keptDesk shopper "milk\neggs" overwrites
  refine ⟨overwrites, outcomes, ?_⟩
  have refused : ((recovery.request { stdin := true }).work.perform
      { keptDesk with input := Utf8.ofString "milk\neggs" }).1 =
        .error (.remote (.refused "offline")) := by
    decide +kernel
  have result := outcomes.result
  dsimp only at result
  rw [refused] at result
  generalize ((recovery.request {}).work.perform { keptDesk with editor := shopper }).1 = r at result
  cases result
  rfl

end Opening
end NoteDesk
