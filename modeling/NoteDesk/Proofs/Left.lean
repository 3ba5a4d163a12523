import NoteDesk.Proofs.Session

/-!
# What an editor leaves

An editor may leave any document in the place of the one that it was handed, and report a failure
or not.

* `Work.perform_editIn_left`: what comes of a new document then.
* `Work.perform_editDocument_left`: the document cannot be made, or it goes to the editor and what
  is left is read back.
-/

namespace NoteDesk.Work

open Desk

variable {α : Type} {n reread : Note} {m : EditMode} {d : Desk} {content : Bytes}

theorem refreshNotebook_of_eq {before : String} (h : n.notebookName = before) :
    refreshNotebook n before = pure n := by
  rw [refreshNotebook, if_pos (.inr h)]

variable (hm : m.stdin = false)
  (left : (d.editor (written n m)).document = some (.file content))
include hm left

/-- What an editor leaves of a new document is read back, unless the editor reports a failure. -/
theorem perform_editIn_left {document : Cache.Document} (start : document.AtStart d.cache) :
    (editIn n m document).perform d =
      ((do
        (d.editor (written n m)).result.mapError .editor
        (Document.parse content n m).value),
      ({ d with handed := d.handed ++ [(document.name, written n m)] } : Desk).replaced
        document.name content) := by
  have edited : (edit document.name).perform
      (d.replaced document.name (written n m)) =
        ((d.editor (written n m)).result.mapError .editor,
          ({ d with handed := d.handed ++ [(document.name, written n m)] } : Desk).replaced
            document.name content) := by
    rw [perform_edit_replaced start, Desk.afterEdit]
    dsimp only [Desk.replaced]
    rw [left, Cache.replace_replace start]
  have there := find?_replaced
    (d := { d with handed := d.handed ++ [(document.name, written n m)] }) start content
  rw [perform_editIn start hm, perform_bind, edited]
  cases (d.editor (written n m)).result with
  | error cause => rfl
  | ok _ =>
    dsimp only [Except.mapError]
    rw [perform_readBack there]
    rfl

variable (parsed : Document.parse content n m = ⟨reread, .ok ()⟩)
include parsed

/-- **What comes of a document.** If none can be made, that is all. Otherwise it goes to the editor,
and the note is read from what is left and has its notebook looked up again. -/
theorem perform_editDocument_left :
    (∃ name cause d₁, Aside d d₁ ∧ d₁.handed = d.handed ∧ d₁.cache.create name = .error cause ∧
        (editDocument n m).perform d = (.error cause, d₁)) ∨
      ∃ name d₁ result d₂, Aside d d₁ ∧ d₁.handed = d.handed ++ [(name, written n m)] ∧
        (do
          liftM ((d.editor (written n m)).result.mapError Failure.editor)
          refreshNotebook reread n.notebookName : Work Note).perform d₁ = (result, d₂) ∧
        (editDocument n m).perform d = (result, { d₂ with cache := d₂.cache.discard name }) := by
  obtain ⟨name, d₁, hname, same⟩ := perform_documentName n m d
  have named : Aside d d₁ := ((documentName_drafted n m).of_eq hname).aside
  have handed : d₁.handed = d.handed := by rw [same]
  rw [editDocument, perform_bind_of_ok hname]
  rw [← named.editor] at left ⊢
  cases hcreate : d₁.cache.create name with
  | error cause =>
    exact .inl ⟨name, cause, d₁, named, handed, hcreate, perform_withDocument_of_error hcreate _⟩
  | ok created =>
    obtain ⟨document, cache⟩ := created
    obtain ⟨rfl, start, -⟩ := Cache.find?_create hcreate
    have read : (editIn n m document).perform { d₁ with cache } =
        ((do
          (d₁.editor (written n m)).result.mapError .editor
          return reread),
        ({ d₁ with cache, handed := d₁.handed ++ [(document.name, written n m)] } : Desk).replaced
          document.name content) := by
      rw [perform_editIn_left (d := { d₁ with cache }) hm left start, parsed]
      rfl
    refine .inr ⟨document.name,
      ({ d₁ with cache, handed := d₁.handed ++ [(document.name, written n m)] } : Desk).replaced
        document.name content, _, _,
      ⟨named.service, named.store, named.editor, named.converter, named.config⟩,
      congrArg (· ++ [(document.name, written n m)]) handed, (Prod.eta _).symm, ?_⟩
    rw [perform_withDocument_of_ok hcreate, perform_bind, read, perform_bind, perform_liftM]
    cases (d₁.editor (written n m)).result with
    | ok _ => rfl
    | error cause => rfl

end NoteDesk.Work
