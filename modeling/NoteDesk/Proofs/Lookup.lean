import NoteDesk.Desk.Edit
import NoteDesk.Proofs.LocalStore
import NoteDesk.Proofs.Work

/-!
# What looking things up leaves

Looking up notes and notebooks may count a search and may remember the notebooks of the service;
nothing else changes, whether something is found or not. A disk on which a write fails can spoil
what is remembered of the notebooks, and nothing else either.

* `Desk.Consults` relates a desk to the desk before when only things were looked up, on any disk and
  over any connection, and `Desk.LooksUp` where no write fails and every answer comes.
* `Work.Lookups` is a relation that the steps lead to which lookups are made of, and
  `Work.Lookups.findNotebook` and its like say the same of all lookups.
* `Work.lookups_consults`, and `Work.findNotebook_looksUp` and its like: all lookups do only that.
-/

namespace NoteDesk

/-- Things were looked up: the service counted searches, and what is remembered of the notebooks may
be something else. -/
structure Desk.Consults (d d' : Desk) : Prop where
  service : ∃ finds, d'.service = { d.service with finds }
  search : d'.store.search = d.store.search
  recovery : d'.store.recovery = d.store.recovery
  cache : d'.cache = d.cache
  editor : d'.editor = d.editor
  converter : d'.converter = d.converter
  input : d'.input = d.input
  config : d'.config = d.config
  handed : d'.handed = d.handed
  drafts : d'.drafts = d.drafts

namespace Desk.Consults

theorem refl (d : Desk) : Consults d d :=
  ⟨⟨_, rfl⟩, rfl, rfl, rfl, rfl, rfl, rfl, rfl, rfl, rfl⟩

theorem trans {d₁ d₂ d₃ : Desk} (h : Consults d₁ d₂) (h' : Consults d₂ d₃) : Consults d₁ d₃ where
  service := by
    obtain ⟨k, hk⟩ := h.service
    obtain ⟨k', hk'⟩ := h'.service
    exact ⟨k', by rw [hk', hk]⟩
  search := h'.search.trans h.search
  recovery := h'.recovery.trans h.recovery
  cache := h'.cache.trans h.cache
  editor := h'.editor.trans h.editor
  converter := h'.converter.trans h.converter
  input := h'.input.trans h.input
  config := h'.config.trans h.config
  handed := h'.handed.trans h.handed
  drafts := h'.drafts.trans h.drafts

instance : IsPreorder Desk Consults where
  refl := refl
  trans _ _ _ := trans

end Desk.Consults

/-- Things were looked up: the service counted searches, and the notebooks last seen may be those
of the service now. -/
structure Desk.LooksUp (d d' : Desk) : Prop extends Consults d d' where
  notebooks : d'.store.notebooks = d.store.notebooks ∨
    d'.store.notebooks = .ok d.service.notebooks

namespace Desk.LooksUp

theorem refl (d : Desk) : LooksUp d d :=
  ⟨.refl d, .inl rfl⟩

theorem trans {d₁ d₂ d₃ : Desk} (h : LooksUp d₁ d₂) (h' : LooksUp d₂ d₃) : LooksUp d₁ d₃ where
  toConsults := h.toConsults.trans h'.toConsults
  notebooks := by
    obtain ⟨k, hk⟩ := h.service
    rcases h'.notebooks with same | seen
    · rw [same]
      exact h.notebooks
    · exact .inr (by rw [seen, hk])

instance : IsPreorder Desk LooksUp where
  refl := refl
  trans _ _ _ := trans

end Desk.LooksUp

namespace Work

open Desk

section

variable [Disk] [Connection]

/-! ## The steps of lookups -/

/-- The notebooks of the service, which are the last seen then. -/
def seenNotebooks : Work (List Notebook) := do
  let notebooks ← askNotebooks
  changeStore (LocalStore.saveNotebooks notebooks) (LocalStore.spoilNotebooks notebooks)
  return notebooks

omit [Disk] in
/-- A search finds what the service has, unless its answer does not come. -/
theorem perform_search (q : Service.Query) (count : Nat) (d : Desk) :
    (search q count).perform d =
      match Connection.outage d.service (.notes q) with
      | some cause => (.error (.remote cause), d)
      | none =>
        (.ok (d.service.find q 0 count).1, { d with service := (d.service.find q 0 count).2 }) := by
  rw [search, changeService, perform_mk]
  cases Connection.outage d.service (.notes q) <;> rfl

omit [Disk] in
theorem perform_askNotebooks (d : Desk) :
    askNotebooks.perform d =
      match Connection.outage d.service .notebooks with
      | some cause => (.error (.remote cause), d)
      | none => (.ok d.service.notebooks, d) := by
  rw [askNotebooks, askService, perform_mk]
  cases Connection.outage d.service .notebooks <;> rfl

theorem perform_seenNotebooks_cases (d : Desk) :
    seenNotebooks.perform d =
      match Connection.outage d.service .notebooks with
      | some cause => (.error (.remote cause), d)
      | none =>
        match LocalStore.saveNotebooks d.service.notebooks d.store with
        | .error cause =>
          (.error cause, { d with store := d.store.spoilNotebooks d.service.notebooks })
        | .ok store => (.ok d.service.notebooks, { d with store }) := by
  rw [seenNotebooks, perform_bind, perform_askNotebooks]
  cases Connection.outage d.service .notebooks with
  | some cause => rfl
  | none =>
    dsimp only
    rw [perform_bind, changeStore, perform_mk]
    cases LocalStore.saveNotebooks d.service.notebooks d.store <;> rfl

theorem saved_of_perform_seenNotebooks {d d' : Desk} {seen : List Notebook}
    (h : seenNotebooks.perform d = (.ok seen, d')) :
    ∃ store, d.store.saveNotebooks seen = .ok store ∧ d' = { d with store } := by
  rw [perform_seenNotebooks_cases] at h
  cases told : Connection.outage d.service .notebooks with
  | some outage =>
    rw [told] at h
    cases h
  | none =>
    rw [told] at h
    dsimp only at h
    cases saved : LocalStore.saveNotebooks d.service.notebooks d.store with
    | error flaw =>
      rw [saved] at h
      cases h
    | ok store =>
      rw [saved] at h
      obtain ⟨same, rfl⟩ := Prod.mk.inj h
      obtain rfl := Except.ok.inj same
      exact ⟨store, saved, rfl⟩

theorem seenNotebooks_bind {α : Type} (f : List Notebook → Work α) :
    seenNotebooks >>= f = (do
      let notebooks ← askNotebooks
      changeStore (LocalStore.saveNotebooks notebooks) (LocalStore.spoilNotebooks notebooks)
      f notebooks) := by
  simp only [seenNotebooks, bind_assoc, pure_bind]

theorem findNotebook_eq (name : String) :
    findNotebook name = (do
      match named name (← askStore LocalStore.notebooks) with
      | some nb => return nb
      | none =>
        match named name (← seenNotebooks) with
        | some nb => return nb
        | none => throw (.notebookNotFound name)) := by
  rw [findNotebook]
  refine bind_congr fun known => ?_
  cases named name known with
  | some nb => rfl
  | none => exact (seenNotebooks_bind _).symm

/-! ## All lookups -/

/-- The steps that lookups are made of lead to desks in a relation. -/
structure Lookups (R : Desk → Desk → Prop) : Prop where
  search (q : Service.Query) (count : Nat) : Leads R (Work.search q count)
  toMarkdown (markup : String) : Leads R (Work.toMarkdown markup)
  seenNotebooks : Leads R Work.seenNotebooks

namespace Lookups

variable {R : Desk → Desk → Prop} [IsPreorder Desk R] (steps : Lookups R)
include steps

theorem findNotebook (name : String) : Leads R (findNotebook name) := by
  rw [findNotebook_eq]
  refine .bind (.askStore _) fun known => ?_
  cases named name known with
  | some nb => exact .pure nb
  | none =>
    refine .bind steps.seenNotebooks fun notebooks => ?_
    cases named name notebooks with
    | some nb => exact .pure nb
    | none => exact .throw _

theorem resolve (r : NotebookRef) : Leads R (resolve r) := by
  unfold Work.resolve
  cases r.guid? with
  | some guid => exact .map _ (.askService _)
  | none => exact .map _ (steps.findNotebook _)

theorem notebookGuid? (notebook : Option String) : Leads R (notebookGuid? notebook) := by
  unfold Work.notebookGuid?
  cases nonEmpty notebook with
  | none => exact .pure none
  | some name => exact .map _ (steps.findNotebook name)

theorem withNotebook (n : Note) : Leads R (withNotebook n) := by
  unfold Work.withNotebook
  cases n.notebook with
  | none => exact .pure n
  | some r => exact .map _ (steps.resolve r)

theorem refreshNotebook (n : Note) (before : String) : Leads R (refreshNotebook n before) := by
  unfold Work.refreshNotebook
  split
  · exact .pure n
  · exact .map _ (steps.findNotebook _)

omit [Disk] [Connection] steps in
theorem numberedNote? (title : String) : Leads R (numberedNote? title) := by
  unfold Work.numberedNote?
  split
  · exact .pure none
  · exact .pure none
  · exact .map _ (.askStore _)

theorem titledNote (title : String) (notebook : Option String) :
    Leads R (titledNote title notebook) := by
  refine .bind (steps.notebookGuid? notebook) fun guid => ?_
  refine .bind .get fun d => ?_
  refine .bind (steps.search _ _) fun found => ?_
  split
  · exact .pure _
  · exact .throw _

theorem findNote (title : String) (notebook : Option String) :
    Leads R (findNote title notebook) := by
  refine .bind (numberedNote? title) fun numbered => ?_
  cases numbered with
  | some n => exact .pure n
  | none => exact steps.titledNote title notebook

theorem openNote (title : String) (notebook : Option String) :
    Leads R (openNote title notebook) := by
  refine .bind (steps.findNote title notebook) fun n => ?_
  refine .bind (.askService _) fun content => ?_
  exact .map _ (steps.toMarkdown _)

omit [Disk] [Connection] steps in
theorem recoveryNote : Leads R recoveryNote := by
  refine .bind (.askStore _) fun kept => ?_
  cases kept with
  | none => exact .throw _
  | some n =>
    dsimp only
    split
    · exact .throw _
    · exact .pure n

theorem noteToEdit (title : String) (notebook : Option String) (m : EditMode) :
    Leads R (noteToEdit title notebook m) := by
  unfold Work.noteToEdit
  split
  · exact recoveryNote
  · exact steps.openNote title notebook

end Lookups

/-! ## Lookups only look things up -/

omit [Disk] in
theorem search_consults (q : Service.Query) (count : Nat) : Leads Consults (search q count) := by
  intro d
  rw [perform_search]
  cases Connection.outage d.service (.notes q) with
  | some cause => exact .refl d
  | none => exact ⟨⟨_, rfl⟩, rfl, rfl, rfl, rfl, rfl, rfl, rfl, rfl, rfl⟩

theorem seenNotebooks_consults : Leads Consults seenNotebooks := by
  intro d
  rw [perform_seenNotebooks_cases]
  cases Connection.outage d.service .notebooks with
  | some cause => exact .refl d
  | none =>
    dsimp only
    cases h : LocalStore.saveNotebooks d.service.notebooks d.store with
    | error cause =>
      exact ⟨⟨_, rfl⟩, LocalStore.search_spoil (by decide), LocalStore.recovery_spoil (by decide),
        rfl, rfl, rfl, rfl, rfl, rfl, rfl⟩
    | ok store =>
      exact ⟨⟨_, rfl⟩, LocalStore.search_saveNotebooks h, LocalStore.recovery_saveNotebooks h,
        rfl, rfl, rfl, rfl, rfl, rfl, rfl⟩

theorem lookups_consults : Lookups Consults where
  search := search_consults
  toMarkdown _ _ := ⟨⟨_, rfl⟩, rfl, rfl, rfl, rfl, rfl, rfl, rfl, rfl, rfl⟩
  seenNotebooks := seenNotebooks_consults

theorem Lookups.ofConsults {R : Desk → Desk → Prop} (h : ∀ {d d'}, Consults d d' → R d d') :
    Lookups R where
  search q count := (lookups_consults.search q count).mono h
  toMarkdown markup := (lookups_consults.toMarkdown markup).mono h
  seenNotebooks := seenNotebooks_consults.mono h

end

/-! ## Where no write fails and every answer comes -/

theorem perform_seenNotebooks (d : Desk) :
    seenNotebooks.perform d =
      match LocalStore.saveNotebooks d.service.notebooks d.store with
      | .error cause => (.error cause, d)
      | .ok store => (.ok d.service.notebooks, { d with store }) := by
  have comes : Connection.outage d.service .notebooks = none := rfl
  rw [perform_seenNotebooks_cases, comes]
  dsimp only
  cases LocalStore.saveNotebooks d.service.notebooks d.store with
  | ok store => rfl
  | error cause => simp only [LocalStore.spoilNotebooks_sound]

theorem seenNotebooks_looksUp : Leads LooksUp seenNotebooks := by
  intro d
  refine ⟨seenNotebooks_consults d, ?_⟩
  rw [perform_seenNotebooks]
  cases h : LocalStore.saveNotebooks d.service.notebooks d.store with
  | error cause => exact .inl rfl
  | ok store => exact .inr (LocalStore.notebooks_saveNotebooks h)

theorem lookups_looksUp : Lookups LooksUp where
  search q count d := ⟨lookups_consults.search q count d, .inl rfl⟩
  toMarkdown markup d := ⟨lookups_consults.toMarkdown markup d, .inl rfl⟩
  seenNotebooks := seenNotebooks_looksUp

theorem Lookups.ofLooksUp {R : Desk → Desk → Prop} (h : ∀ {d d'}, LooksUp d d' → R d d') :
    Lookups R where
  search q count := (lookups_looksUp.search q count).mono h
  toMarkdown markup := (lookups_looksUp.toMarkdown markup).mono h
  seenNotebooks := seenNotebooks_looksUp.mono h

theorem search_looksUp (q : Service.Query) (count : Nat) : Leads LooksUp (search q count) :=
  lookups_looksUp.search q count

theorem findNotebook_looksUp (name : String) : Leads LooksUp (findNotebook name) :=
  lookups_looksUp.findNotebook name

theorem notebookGuid?_looksUp (notebook : Option String) :
    Leads LooksUp (notebookGuid? notebook) :=
  lookups_looksUp.notebookGuid? notebook

theorem withNotebook_looksUp (n : Note) : Leads LooksUp (withNotebook n) :=
  lookups_looksUp.withNotebook n

theorem refreshNotebook_looksUp (n : Note) (before : String) :
    Leads LooksUp (refreshNotebook n before) :=
  lookups_looksUp.refreshNotebook n before

theorem findNote_looksUp (title : String) (notebook : Option String) :
    Leads LooksUp (findNote title notebook) :=
  lookups_looksUp.findNote title notebook

theorem openNote_looksUp (title : String) (notebook : Option String) :
    Leads LooksUp (openNote title notebook) :=
  lookups_looksUp.openNote title notebook

theorem noteToEdit_looksUp (title : String) (notebook : Option String) (m : EditMode) :
    Leads LooksUp (noteToEdit title notebook m) :=
  lookups_looksUp.noteToEdit title notebook m

/-! ## What comes of lookups -/

section

variable [Disk] [Connection]

/-- Without a name, nothing is looked up. -/
theorem perform_notebookGuid?_anywhere {notebook : Option String}
    (anywhere : nonEmpty notebook = none) (d : Desk) :
    (notebookGuid? notebook).perform d = (.ok none, d) := by
  rw [notebookGuid?, anywhere]
  rfl

theorem perform_withNotebook_cases {n n' : Note} {d d' : Desk}
    (h : (withNotebook n).perform d = (.ok n', d')) :
    (n.notebook = none ∧ n' = n) ∨ ∃ r r', n.notebook = some r ∧
      (resolve r).perform d = (.ok r', d') ∧ n' = { n with notebook := some r' } := by
  rw [withNotebook] at h
  cases hr : n.notebook with
  | none =>
    rw [hr] at h
    exact .inl ⟨rfl, (Except.ok.inj (Prod.mk.inj h).1).symm⟩
  | some r =>
    rw [hr] at h
    obtain ⟨r', d₁, resolved, h⟩ := perform_bind_ok.1 h
    obtain ⟨same, rfl⟩ := Prod.mk.inj h
    exact .inr ⟨r, r', rfl, resolved, (Except.ok.inj same).symm⟩

theorem perform_withNotebook_ok {n n' : Note} {d d' : Desk}
    (h : (withNotebook n).perform d = (.ok n', d')) : ∃ r, n' = { n with notebook := r } := by
  rcases perform_withNotebook_cases h with ⟨-, rfl⟩ | ⟨r, r', -, -, rfl⟩
  · exact ⟨n'.notebook, rfl⟩
  · exact ⟨some r', rfl⟩

/-- A note that is found and whose content is fetched is opened if its markup can be turned into
markdown. -/
theorem perform_openNote {d d₁ : Desk} {title content : String} {notebook : Option String}
    {found : Note} (lookup : (findNote title notebook).perform d = (.ok found, d₁))
    (fetched : d₁.service.content found.guid = .ok content) :
    ((openNote title notebook).perform d).1 =
      (d₁.converter.toMarkdown (Envelope.unwrap content)).map fun md =>
        { found with body := Envelope.unwrap content, md } := by
  have asked : (askService (·.content found.guid)).perform d₁ = (.ok content, d₁) := by
    rw [askService, perform_mk, fetched]
    rfl
  rw [openNote, perform_bind_of_ok lookup, perform_bind_of_ok asked, perform_bind, toMarkdown,
    perform_mk]
  cases d₁.converter.toMarkdown (Envelope.unwrap content) with
  | ok md => rfl
  | error cause => rfl

end

end Work
end NoteDesk
