import NoteDesk.Proofs.Command
import NoteDesk.Proofs.Run

/-!
# What requests are made of

A request looks things up, works on a document, and then asks the service for one change. Only an
edit that is not taken is kept in the local store besides, and only a listing is remembered there.

* `Work.Parts` is a relation that all these steps lead to.
* `Work.Parts.leads`: then every request leads to it, whatever comes of it.
-/

namespace NoteDesk

/-- The request edits a note that the service has. -/
def Request.revises : Request → Bool
  | edit .. | editRecovery _ => true
  | _ => false

/-- The request makes a listing. -/
def Request.lists : Request → Bool
  | list .. => true
  | _ => false

namespace Work

open Desk

variable [Disk] [Connection]

/-- The steps that all requests are made of lead to desks in a relation. -/
structure Parts (R : Desk → Desk → Prop) : Prop extends Lookups R where
  aside : ∀ {d d'}, Aside d d' → R d d'
  create (n : Note) : Leads R (changeService (·.create n))
  update (n : Note) : Leads R (changeService (·.update n))
  delete (guid : Guid) : Leads R (changeService (·.delete guid))

/-- Changes of the service do not matter to a part of the desk that lookups leave as it was. -/
theorem Parts.same {γ : Type} {part : Desk → γ} (steps : Lookups (Same part))
    (aside : ∀ {d d'}, Aside d d' → Same part d d')
    (apart : ∀ (d : Desk) (service : Service), part { d with service } = part d) :
    Parts (Same part) where
  toLookups := steps
  aside := aside
  create n := .changeService (·.create n) apart
  update n := .changeService (·.update n) apart
  delete guid := .changeService (·.delete guid) apart

theorem Parts.drafted {R : Desk → Desk → Prop} (parts : Parts R) {d d' : Desk}
    (h : Drafted d d') : R d d' :=
  parts.aside h.aside

namespace Parts

variable {R : Desk → Desk → Prop} [IsPreorder Desk R] (parts : Parts R)
include parts

theorem saveNew (n : Note) (raw : Bool) : Leads R (saveNew n raw) :=
  .bind (.newContent fun _ _ => parts.aside ⟨rfl, rfl, rfl, rfl, rfl⟩) fun _ => parts.create _

theorem saveChanges (keep : ∀ n cause, Leads R (keepForRecovery n cause)) (n : Note)
    (m : EditMode) : Leads R (saveChanges n m) :=
  .bind (.wireContent fun _ _ => parts.aside ⟨rfl, rfl, rfl, rfl, rfl⟩) fun _ =>
    .tryCatch (parts.update _) (keep n)

theorem editNote (keep : ∀ n cause, Leads R (keepForRecovery n cause)) (title : String)
    (notebook : Option String) (m : EditMode) : Leads R (editNote title notebook m) := by
  rw [editNote_eq]
  refine .bind (session_leads parts.drafted parts.toLookups title notebook m) fun s => ?_
  unfold settle
  split
  · exact .pure _
  · exact .map _ (parts.saveChanges keep s.edited m)

theorem editNew (n : Note) (m : EditMode) : Leads R (editNew n m) := by
  rw [editNew_eq]
  exact .bind (editDocument_leads parts.drafted parts.toLookups n m) fun edited =>
    .map _ (parts.saveNew edited m.raw)

theorem createNote (title notebook : Option String) (edited : Bool) (m : EditMode) :
    Leads R (createNote title notebook edited m) := by
  rw [createNote_eq]
  refine .bind (parts.newNote title notebook) fun n => ?_
  split
  · exact parts.editNew n m
  · exact .map _ (parts.saveNew n m.raw)

theorem listNotes (listing : ∀ q count, Leads R (listing q count)) (words notebook : Option String)
    (count : Option Nat) : Leads R (listNotes words notebook count) := by
  rw [listNotes_eq]
  refine .bind (parts.notebookGuid? notebook) fun guid => ?_
  refine .bind .get fun d => ?_
  refine .bind (listing _ _) fun listed => ?_
  exact .map _ parts.knownNotebooks

theorem renameNote (old new : String) : Leads R (renameNote old new) :=
  .bind (parts.findNote old none) fun _ => .map _ (parts.update _)

theorem moveNote (title notebook : String) : Leads R (moveNote title notebook) := by
  refine .bind (parts.findNote title none) fun n => ?_
  refine .bind (parts.findNotebook notebook) fun nb => ?_
  split
  · exact .pure _
  · exact .map _ (parts.update _)

theorem deleteNote (title : String) (notebook : Option String) :
    Leads R (deleteNote title notebook) :=
  .bind (parts.findNote title notebook) fun n => .map _ (parts.delete n.guid)

/-- **What all steps of a request lead to, the request leads to**, however it ends. -/
theorem leads (r : Request)
    (keep : r.revises → ∀ n cause, Leads R (keepForRecovery n cause))
    (listing : r.lists → ∀ q count, Leads R (Work.listing q count)) : Leads R r.work := by
  cases r with
  | edit title notebook m => exact .map _ (parts.editNote (keep rfl) title notebook m)
  | editRecovery m => exact .map _ (parts.editNote (keep rfl) _ _ _)
  | create title notebook edited m => exact .map _ (parts.createNote title notebook edited m)
  | list words notebook count => exact .map _ (parts.listNotes (listing rfl) words notebook count)
  | rename old new => exact .map _ (parts.renameNote old new)
  | move title notebook => exact .map _ (parts.moveNote title notebook)
  | delete title notebook => exact .map _ (parts.deleteNote title notebook)
  | get title notebook => exact .map _ (parts.findNote title notebook)
  | getContent title notebook => exact .map _ (parts.openNote title notebook)

end Parts
end Work
end NoteDesk
