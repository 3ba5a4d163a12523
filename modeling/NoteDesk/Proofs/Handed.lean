import NoteDesk.Proofs.Session

/-!
# What an editor is handed

A session that reaches the editor hands it one document, written from the note with its notebook
looked up.

* `Work.handed_editDocument`: the document of a note.
* `Work.handed_editNote`: the document of a session, and the note that it was written from.
-/

namespace NoteDesk.Work

open Desk

variable {n : Note} {m : EditMode} {d : Desk}

theorem changeCache_handed {α : Type} (change : Cache → Except IoError (α × Cache)) :
    Leads (Same Desk.handed) (changeCache change) :=
  .changeCache fun _ _ => rfl

theorem readBack_handed (n : Note) (m : EditMode) (name : String) :
    Leads (Same Desk.handed) (readBack n m name) :=
  .bind (changeCache_handed _) fun _ => .bind (.liftM _) fun _ => .pure _

/-- Content from the input stream goes to no editor. -/
theorem editIn_handed (hm : m.stdin = true) (document : Cache.Document) :
    Leads (Same Desk.handed) (editIn n m document) := by
  rw [editIn_eq]
  refine .bind ?_ fun n => .bind (changeCache_handed _) fun _ => ?_
  · rw [prepared, if_pos hm]
    refine .map _ fun d => ?_
    rw [takeInput, perform_mk]
    split <;> rfl
  · rw [if_pos hm]
    exact readBack_handed n m _

variable [Disk] [Connection]

theorem refreshNotebook_handed (n : Note) (before : String) :
    Leads (Same Desk.handed) (refreshNotebook n before) :=
  (lookups_consults.refreshNotebook n before).mono Consults.handed

theorem editDocument_handed (hm : m.stdin = true) (n : Note) :
    Leads (Same Desk.handed) (editDocument n m) := by
  intro d
  obtain ⟨name, d₁, hname, same⟩ := perform_documentName n m d
  have handed : d₁.handed = d.handed := by rw [same]
  rw [editDocument, perform_bind_of_ok hname, Same, ← handed]
  cases hcreate : d₁.cache.create name with
  | error cause => rw [perform_withDocument_of_error hcreate]
  | ok created =>
    obtain ⟨document, cache⟩ := created
    have kept : Leads (Same Desk.handed) (do
        refreshNotebook (← editIn n m document) n.notebookName : Work Note) :=
      .bind (editIn_handed hm document) fun edited => refreshNotebook_handed edited _
    rw [perform_withDocument_of_ok hcreate]
    exact kept { d₁ with cache }

/-- An editor that is handed anything is handed the document of the note. -/
theorem handed_editDocument (reached : ((editDocument n m).perform d).2.handed ≠ d.handed) :
    ∃ name, ((editDocument n m).perform d).2.handed = d.handed ++ [(name, written n m)] := by
  have hm : m.stdin = false := by
    by_contra filled
    exact reached (editDocument_handed (by simpa using filled) n d)
  obtain ⟨name, d₁, hname, same⟩ := perform_documentName n m d
  have handed : d₁.handed = d.handed := by rw [same]
  rw [editDocument, perform_bind_of_ok hname] at reached ⊢
  rw [← handed] at reached ⊢
  cases hcreate : d₁.cache.create name with
  | error cause =>
    rw [perform_withDocument_of_error hcreate] at reached
    exact absurd rfl reached
  | ok created =>
    obtain ⟨document, cache⟩ := created
    obtain ⟨-, start, -⟩ := Cache.find?_create hcreate
    have hedit := perform_editIn (d := { d₁ with cache }) (n := n) start hm
    refine ⟨document.name, ?_⟩
    have after : Leads (Same Desk.handed) (do
        refreshNotebook (← readBack n m document.name) n.notebookName : Work Note) :=
      .bind (readBack_handed n m _) fun edited => refreshNotebook_handed edited _
    rw [perform_withDocument_of_ok hcreate]
    dsimp only
    rw [perform_bind, hedit, ← perform_bind, bind_assoc]
    rw [part_bind fun _ => after, perform_edit_replaced start]
    rfl

/-- **A session that reaches the editor** found a note, looked its notebook up and handed the editor
the document of that note. -/
theorem handed_editNote {title : String} {notebook : Option String}
    (reached : ((editNote title notebook m).perform d).2.handed ≠ d.handed) :
    ∃ fetched d₁ n d₂ name, (noteToEdit title notebook m).perform d = (.ok fetched, d₁) ∧
      (withNotebook fetched).perform d₁ = (.ok n, d₂) ∧
      ((editNote title notebook m).perform d).2.handed = d.handed ++ [(name, written n m)] := by
  have reached : Alters Desk.handed (editNote title notebook m) d := reached
  rw [editNote_parts] at reached
  have lookup : Leads (Same Desk.handed) (noteToEdit title notebook m) :=
    (lookups_consults.noteToEdit title notebook m).mono Consults.handed
  obtain ⟨fetched, d₁, found, same₁, reached⟩ := reached.right lookup
  obtain ⟨echoed, _, lifted, -, reached⟩ := reached.right (.liftM _)
  rw [perform_liftM] at lifted
  obtain ⟨echo, rfl⟩ := Prod.mk.inj lifted
  have lookup : Leads (Same Desk.handed) (withNotebook fetched) :=
    (lookups_consults.withNotebook fetched).mono Consults.handed
  obtain ⟨n, d₂, resolved, same₂, reached⟩ := reached.right lookup
  obtain ⟨name, handed⟩ :=
    handed_editDocument (reached.left fun edited => settle_handed ⟨echoed, n, edited⟩ m)
  refine ⟨fetched, d₁, n, d₂, name, found, resolved, ?_⟩
  rw [handed_editNote_eq found echo resolved, handed, same₂, same₁]

theorem stdin_of_handed {title : String} {notebook : Option String}
    (reached : ((editNote title notebook m).perform d).2.handed ≠ d.handed) : m.stdin = false := by
  by_contra filled
  have kept : Leads (Same Desk.handed) (editNote title notebook m) := by
    rw [editNote_parts]
    refine .bind ((lookups_consults.noteToEdit title notebook m).mono Consults.handed)
      fun fetched => ?_
    refine .bind (.liftM _) fun echoed => ?_
    refine .bind ((lookups_consults.withNotebook fetched).mono Consults.handed) fun n => ?_
    exact .bind (editDocument_handed (by simpa using filled) n) fun edited =>
      settle_handed ⟨echoed, n, edited⟩ m
  exact reached (kept d)

end NoteDesk.Work
