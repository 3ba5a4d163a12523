import NoteDesk.Desk.Command
import NoteDesk.Proofs.Session

/-!
# Commands in parts

* `Work.createNote_eq`: a note to be created is put together (`Work.newNote`), then it is edited or
  created as it is.
* `Work.listNotes_eq`: notes are found and become the last listing (`Work.listing`,
  `Work.perform_listing`), and `Work.knownNotebooks_looksUp` is what is done apart from that.
-/

namespace NoteDesk.Work

open Desk

section

variable [Disk] [Connection]

/-- A note that the service does not have yet. -/
def newNote (title notebook : Option String) : Work Note :=
  let title := (title.filter fun t => !Text.allBlank t.toList).getD defaultTitle
  match nonEmpty notebook with
  | none => pure { title }
  | some name => return { title, notebook := some (.resolved (← findNotebook name)) }

theorem createNote_eq (title notebook : Option String) (edited : Bool) (m : EditMode) :
    createNote title notebook edited m = (do
      let n ← newNote title notebook
      if edited || m.stdin then editNew n m
      else
        let created ← saveNew n m.raw
        return { messages := [.created created.title], affected := [created] }) := by
  rw [createNote, newNote]
  cases nonEmpty notebook with
  | none => rfl
  | some name =>
    dsimp only
    simp only [bind_assoc, pure_bind]

/-- The title of a note to be created: the one that was given, unless it says nothing. -/
def givenTitle (title : Option String) : String :=
  (title.filter fun t => !Text.allBlank t.toList).getD defaultTitle

/-- A note put together has the title, the notebook of the name if there is one, and nothing
else. -/
theorem perform_newNote_ok {title notebook : Option String} {n : Note} {d d' : Desk}
    (h : (newNote title notebook).perform d = (.ok n, d')) :
    (nonEmpty notebook = none ∧ n = { title := givenTitle title }) ∨
      ∃ name nb, nonEmpty notebook = some name ∧ (findNotebook name).perform d = (.ok nb, d') ∧
        n = { title := givenTitle title, notebook := some (.resolved nb) } := by
  rw [newNote] at h
  split at h
  next none =>
    obtain ⟨same, -⟩ := Prod.mk.inj h
    obtain rfl := Except.ok.inj same
    exact .inl ⟨none, rfl⟩
  next name given =>
    obtain ⟨nb, found, rfl⟩ := perform_map_ok.1 h
    exact .inr ⟨name, nb, given, found, rfl⟩

theorem Lookups.newNote {R : Desk → Desk → Prop} [IsPreorder Desk R] (steps : Lookups R)
    (title notebook : Option String) : Leads R (newNote title notebook) := by
  unfold Work.newNote
  split
  · exact .pure _
  · exact .map _ (steps.findNotebook _)

theorem knownNotebooks_eq :
    knownNotebooks = (do
      let known ← askStore LocalStore.notebooks
      if known.isEmpty then seenNotebooks else return known) :=
  rfl

theorem Lookups.knownNotebooks {R : Desk → Desk → Prop} [IsPreorder Desk R] (steps : Lookups R) :
    Leads R knownNotebooks := by
  rw [knownNotebooks_eq]
  refine .bind (.askStore _) fun known => ?_
  split
  · exact steps.seenNotebooks
  · exact .pure known

/-- The first notes that a query finds, which are the last listing then. -/
def listing (q : Service.Query) (count : Nat) : Work (List Note) := do
  let listed ← search q count
  changeStore (LocalStore.saveSearch listed) (LocalStore.spoilSearch listed)
  return listed

theorem perform_listing_cases (q : Service.Query) (count : Nat) (d : Desk) :
    (listing q count).perform d =
      match Connection.outage d.service (.notes q) with
      | some cause => (.error (.remote cause), d)
      | none =>
        match d.store.saveSearch (d.service.find q 0 count).1 with
        | .error cause =>
          (.error cause,
            { d with
              service := (d.service.find q 0 count).2
              store := d.store.spoilSearch (d.service.find q 0 count).1 })
        | .ok store =>
          (.ok (d.service.find q 0 count).1,
            { d with service := (d.service.find q 0 count).2, store }) := by
  rw [listing, perform_bind, perform_search]
  cases Connection.outage d.service (.notes q) with
  | some cause => rfl
  | none =>
    dsimp only
    rw [perform_bind, changeStore, perform_mk]
    cases LocalStore.saveSearch (d.service.find q 0 count).1 d.store <;> rfl

theorem listNotes_eq (words notebook : Option String) (count : Option Nat) :
    listNotes words notebook count = (do
      let guid ← notebookGuid? notebook
      let count := count.getD (← get).config.searchCount.toNat
      let listed ← listing { notebook := guid, words := nonEmpty words } count
      return { listed, notebooks := ← knownNotebooks }) := by
  simp only [listNotes, listing, bind_assoc, pure_bind]

end

/-! ## Where no write fails and every answer comes -/

theorem newNote_looksUp (title notebook : Option String) :
    Leads LooksUp (newNote title notebook) :=
  lookups_looksUp.newNote title notebook

theorem knownNotebooks_looksUp : Leads LooksUp knownNotebooks :=
  lookups_looksUp.knownNotebooks

theorem perform_listing (q : Service.Query) (count : Nat) (d : Desk) :
    (listing q count).perform d =
      match d.store.saveSearch (d.service.find q 0 count).1 with
      | .error cause => (.error cause, { d with service := (d.service.find q 0 count).2 })
      | .ok store =>
        (.ok (d.service.find q 0 count).1,
          { d with service := (d.service.find q 0 count).2, store }) := by
  have comes : Connection.outage d.service (.notes q) = none := rfl
  rw [perform_listing_cases, comes]
  dsimp only
  cases LocalStore.saveSearch (d.service.find q 0 count).1 d.store with
  | ok store => rfl
  | error cause => simp only [LocalStore.spoilSearch_sound]

end NoteDesk.Work
