import NoteDesk.Proofs.Bound
import NoteDesk.Proofs.Metadata

/-!
# The effect of creating a note

A creation that is done added one record to the service, of a note that is put together, edited if
there is a session, and sent once.

* `Service.Added` is what the service did then, `Service.Numbered.added` that it does it with every
  creation that it takes.
* `Work.composedNote` is the part of the work that comes before the note is sent
  (`Work.createNote_parts`), and `Work.perform_composedNote_ok` says how the note came about.
* `Note.Within`: the notebook of a note means itself at the service, so its name stays
  (`Service.name_resolve`).
* `Desk.ReachableAfresh.createNote_effect` is the main result.
-/

namespace NoteDesk

/-- The notebook of the note is only a name, or one that the service has. -/
def Note.Within (n : Note) (s : Service) : Prop :=
  ∀ nb, n.notebook = some (.resolved nb) → nb ∈ s.notebooks

theorem Note.Within.congr {n n' : Note} {s : Service} (h : n.Within s)
    (same : n'.notebook = n.notebook) : n'.Within s :=
  fun nb held => h nb (same ▸ held)

/-! ## Creations -/

namespace Service

variable {s s' : Service} {r : Record}

/-- One note was created. It has a record under an identifier that no other note has, nothing else
was written, and all other records are as they were. -/
structure Added (s s' : Service) (r : Record) : Prop where
  records : s'.records = s.records ++ [r]
  new : ∀ old ∈ s.records, old.note.guid ≠ r.note.guid
  live : r.note.deleted = false
  sent : ∃ n, s'.created = s.created ++ [n]
  updated : s'.updated = s.updated
  deleted : s'.deleted = s.deleted
  notebooks : s'.notebooks = s.notebooks

theorem Numbered.added (h : Numbered s.records) {n created : Note} (live : n.deleted = false)
    (done : s.create n = (.ok created, s')) : s.Added s' ⟨created, n.body⟩ := by
  obtain ⟨rfl, rfl⟩ := create_ok done
  exact
    { records := rfl
      new := h.nextGuid_new
      live := live
      sent := ⟨n, rfl⟩
      updated := rfl
      deleted := rfl
      notebooks := rfl }

/-- Searches that were made before do not matter. -/
theorem Added.of_finds {finds : Nat} (h : ({ s with finds } : Service).Added s' r) : s.Added s' r :=
  { h with }

/-- A note goes by the name of its notebook at the service. -/
theorem name_resolve (distinct : (s.notebooks.map (·.guid)).Nodup) {n : Note}
    (within : n.Within s) : (s.resolve n.notebook).map (·.name) = n.notebook.map (·.name) := by
  cases held : n.notebook with
  | none => rfl
  | some ref =>
    cases ref with
    | named name => rfl
    | resolved nb => rw [resolve_of_mem distinct (within nb held)]

end Service

namespace Work

open Desk

variable {d d' : Desk} {n edited final : Note} {m : EditMode}

/-! ## Notebooks of new notes -/

theorem perform_newNote_within (remembers : d.Remembers) {title notebook : Option String}
    (h : (newNote title notebook).perform d = (.ok n, d')) :
    n = { title := givenTitle title, notebook := n.notebook } ∧
      n.notebook.map (·.name) = nonEmpty notebook ∧ n.Within d.service := by
  rcases perform_newNote_ok h with ⟨none, rfl⟩ | ⟨name, nb, given, found, rfl⟩
  · exact ⟨rfl, none.symm, nofun⟩
  · obtain ⟨mem, rfl⟩ := perform_findNotebook_ok remembers found
    refine ⟨rfl, given.symm, ?_⟩
    rintro _ ⟨⟩
    exact mem

/-- A document puts at most a name in the place of the notebook. -/
theorem within_of_rereads {s : Service} (within : n.Within s) (rereads : d.Rereads n m edited) :
    edited.Within s := by
  obtain ⟨base, content, final, parsed⟩ := rereads
  have renamed := (Document.parse_renamed parsed).congr (notebook_of_finalDocument? final)
  cases renamed with
  | kept own same => exact within.congr same
  | named other final nonempty only =>
    intro nb held
    rw [only] at held
    cases held

/-- A notebook that is looked up again has the name that it was looked up by. -/
theorem perform_refreshNotebook_within (remembers : d.Remembers) (within : n.Within d.service)
    {before : String} (h : (refreshNotebook n before).perform d = (.ok edited, d')) :
    edited = { n with notebook := edited.notebook } ∧
      edited.notebook.map (·.name) = n.notebook.map (·.name) ∧ edited.Within d.service := by
  rcases perform_refreshNotebook_ok h with ⟨-, rfl⟩ | ⟨renamed, nb, found, rfl⟩
  · exact ⟨rfl, rfl, within⟩
  · obtain ⟨mem, same⟩ := perform_findNotebook_ok remembers found
    refine ⟨rfl, ?_, ?_⟩
    · have named : n.notebookName ≠ "" := fun empty => renamed (.inl empty)
      rw [Note.notebookName] at named same
      cases held : n.notebook with
      | none =>
        rw [held] at named
        exact absurd rfl named
      | some ref =>
        rw [held] at same
        exact congrArg some same
    · rintro _ ⟨⟩
      exact mem

/-! ## Composing a note -/

/-- A new note, after it was edited if there is a session. -/
def composedNote (title notebook : Option String) (edited : Bool) (m : EditMode) : Work Note := do
  let n ← newNote title notebook
  if edited || m.stdin then editDocument n m else return n

/-- **A note is composed, and then it is created.** -/
theorem createNote_parts (title notebook : Option String) (edited : Bool) (m : EditMode) :
    createNote title notebook edited m = (do
      let n ← composedNote title notebook edited m
      let created ← saveNew n m.raw
      return { messages := [.created created.title], affected := [created] }) := by
  rw [createNote_eq, composedNote, bind_assoc]
  refine bind_congr fun n => ?_
  split
  · exact editNew_eq n m
  · exact (pure_bind _ _).symm

/-- Composing a note leads to what looking things up and working on a document lead to. -/
theorem composedNote_leads {R : Desk → Desk → Prop} [IsPreorder Desk R]
    (drafted : ∀ {d d'}, Drafted d d' → R d d') (steps : Lookups R) (title notebook : Option String)
    (edited : Bool) (m : EditMode) : Leads R (composedNote title notebook edited m) := by
  refine .bind (steps.newNote title notebook) fun n => ?_
  split
  · exact editDocument_leads drafted steps n m
  · exact .pure n

theorem composedNote_unsaved (title notebook : Option String) (edited : Bool) (m : EditMode) :
    Leads Unsaved (composedNote title notebook edited m) :=
  composedNote_leads Drafted.unsaved (.ofLooksUp Unsaved.ofLooksUp) title notebook edited m

/-- The converter is not asked for wire markup before there is a note. -/
theorem composedNote_wireConversions (title notebook : Option String) (edited : Bool)
    (m : EditMode) : Leads (Same Desk.wireConversions) (composedNote title notebook edited m) := by
  have seen : Leads (Same Desk.wireConversions) seenNotebooks := by
    intro d
    rw [perform_seenNotebooks]
    cases LocalStore.saveNotebooks d.service.notebooks d.store with
    | error cause => rfl
    | ok store => rfl
  refine composedNote_leads ?_ ⟨fun _ _ _ => rfl, fun _ _ => rfl, seen⟩ title notebook edited m
  rintro d _ ⟨_, _, _, _, rfl⟩
  rfl

/-- **How a note came about**: it was put together, and read back if there was a session, and its
notebook kept its name since. -/
theorem perform_composedNote_ok (remembers : d.Remembers) {title notebook : Option String}
    {edited : Bool} (h : (composedNote title notebook edited m).perform d = (.ok final, d')) :
    ∃ opened reread,
      opened = { title := givenTitle title, notebook := opened.notebook } ∧
      opened.notebook.map (·.name) = nonEmpty notebook ∧
      (if edited || m.stdin then d.Rereads opened m reread else reread = opened) ∧
      final = { reread with notebook := final.notebook } ∧
      final.notebook.map (·.name) = reread.notebook.map (·.name) ∧
      final.Within d.service ∧ final.deleted = false := by
  obtain ⟨opened, d₁, hopened, h⟩ := perform_bind_ok.1 h
  obtain ⟨plain, named, within⟩ := perform_newNote_within remembers hopened
  have live : opened.deleted = false := congrArg Note.deleted plain
  split at h
  next session =>
    have looked : LooksUp d d₁ := (newNote_looksUp title notebook).of_eq hopened
    obtain ⟨reread, d₂, d₃, rereads, aside, refreshed⟩ := perform_editDocument_ok h
    obtain ⟨finds, service⟩ := looked.service
    have same : d₂.service.notebooks = d.service.notebooks := by rw [aside.service, service]
    have within' : reread.Within d₂.service := by
      rw [Note.Within, same]
      exact within_of_rereads within rereads
    obtain ⟨kept, name, within'⟩ :=
      perform_refreshNotebook_within ((remembers.lookedUp looked).aside aside) within' refreshed
    rw [Note.Within, same] at within'
    obtain ⟨_, _, _, _, changed⟩ := (editDocument_editedTo opened m).of_eq h
    refine ⟨opened, reread, plain, named, ?_, kept, name, within', ?_⟩
    · rw [if_pos session]
      exact rereads.congr looked.editor looked.input
    · rw [changed]
      exact live
  next plainly =>
    obtain rfl := Except.ok.inj (Prod.mk.inj h).1
    exact ⟨opened, opened, plain, named, by rw [if_neg plainly], rfl, rfl, within, live⟩

end Work

open Work

namespace Desk

variable {d d' : Desk}

/-- **The effect of creating a note.** At every desk that a run leads to, where notebooks differ by
their identifiers, whatever the mode, the editor, the input and the converter are: a creation that
is done sent one note to the service and wrote nothing else there, and the last listing and the
recovery point are as they were. The record of the note has the title that was given, or the one
that was read back if there was a session, a notebook of the same name, and the same content, in its
envelope. The converter is asked for markup once, and not at all for markdown that is empty. -/
theorem ReachableAfresh.createNote_effect (h : d.ReachableAfresh)
    (distinct : (d.service.notebooks.map (·.guid)).Nodup) {title notebook : Option String}
    {edited : Bool} {m : EditMode} {a : Answer}
    (done : (Request.create title notebook edited m).work.perform d = (.ok a, d')) :
    ∃ opened reread r,
      opened = { title := givenTitle title, notebook := opened.notebook } ∧
      opened.notebook.map (·.name) = nonEmpty notebook ∧
      (if edited || m.stdin then d.Rereads opened m reread else reread = opened) ∧
      a = .report { messages := [.created reread.title], affected := [r.note] } ∧
      d.service.Added d'.service r ∧
      r.note.title = reread.title ∧
      r.note.notebook.map (·.name) = reread.notebook.map (·.name) ∧
      r.content =
        (if m.raw then Envelope.wrap reread.body
        else if reread.md = "" then Envelope.empty
        else Envelope.wrap (d.converter.toWire reread.md)) ∧
      d'.wireConversions =
        d.wireConversions + (if m.raw = true ∨ reread.md = "" then 0 else 1) ∧
      d'.store.search = d.store.search ∧ d'.store.recovery = d.store.recovery := by
  obtain ⟨report, ended, rfl⟩ := perform_map_ok.1 done
  rw [createNote_parts] at ended
  obtain ⟨final, d₁, composed, ended⟩ := perform_bind_ok.1 ended
  obtain ⟨created, d₂, saved, ended⟩ := perform_bind_ok.1 ended
  obtain ⟨told, rfl⟩ := Prod.mk.inj ended
  obtain rfl := Except.ok.inj told
  obtain ⟨service, taken, rfl⟩ := perform_saveNew_ok saved
  obtain ⟨opened, reread, plain, named, read, same, name, within, live⟩ :=
    perform_composedNote_ok h.remembers composed
  have unsaved : Unsaved d d₁ := (composedNote_unsaved title notebook edited m).of_eq composed
  obtain ⟨finds, hservice⟩ := unsaved.service
  have counted : d₁.wireConversions = d.wireConversions :=
    (composedNote_wireConversions title notebook edited m).of_eq composed
  have body : newBody d₁ final m.raw = newBody d reread m.raw := by
    rw [newBody, newBody, same, unsaved.converter]
  have conversions : newConversions final m.raw = newConversions reread m.raw := by
    rw [newConversions, newConversions, same]
  rw [hservice, body] at taken
  have numbered : Service.Numbered ({ d.service with finds } : Service).records :=
    h.reachable.numbered
  have sentLive : ({ final with body := newBody d reread m.raw } : Note).deleted = false := live
  have added := (numbered.added sentLive taken).of_finds
  obtain ⟨rfl, -⟩ := Service.create_ok taken
  have titled : final.title = reread.title := by rw [same]
  refine ⟨opened, reread, _, plain, named, read, by rw [← titled], added, titled, ?_, rfl, ?_,
    unsaved.search, unsaved.recovery⟩
  · exact (Service.name_resolve (s := { d.service with finds }) distinct within).trans name
  · dsimp only
    rw [counted, conversions, newConversions]

/-- A desk with one notebook, whose editor gives a note another title and a content. -/
def draftingDesk : Desk where
  service := ({} : Service).addNotebook { guid := "b", name := "Home" }
  editor := fun _ =>
    ⟨some (.file (Utf8.encode "---\ntitle: Shopping\nnotebook: Home\n---\nmilk\n".toList)), .ok ()⟩

theorem reachableAfresh_draftingDesk : draftingDesk.ReachableAfresh := by
  have added : Run (fun _ _ => True) {}
      { service := ({} : Service).addNotebook { guid := "b", name := "Home" } } :=
    .single (.service (.addNotebook _))
  exact ⟨{}, rfl, rfl, added.tail (.surroundings rfl rfl)⟩

theorem ReachableAfresh.createNote_effect_draftingDesk :
    draftingDesk.ReachableAfresh ∧ (draftingDesk.service.notebooks.map (·.guid)).Nodup ∧
      ∃ r,
        draftingDesk.service.Added
          ((Request.create (some "Groceries") (some "Home") true {}).work.perform
            draftingDesk).2.service r ∧
        r.note.title = "Shopping" ∧ r.note.notebook.map (·.name) = some "Home" := by
  have distinct : (draftingDesk.service.notebooks.map (·.guid)).Nodup := by decide
  have result : ((Request.create (some "Groceries") (some "Home") true {}).work.perform
      draftingDesk).1 = .ok (.report
        { messages := [.created "Shopping"]
          affected := [{ guid := Guid.ofNumber 1, title := "Shopping", created := 1000
                         updated := 1000
                         notebook := some (.resolved { guid := "b", name := "Home" }) }] }) := by
    decide +kernel
  obtain ⟨opened, reread, r, -, -, -, told, added, titled, named, -⟩ :=
    reachableAfresh_draftingDesk.createNote_effect distinct (perform_of_result result)
  refine ⟨reachableAfresh_draftingDesk, distinct, r, added, ?_⟩
  have affected := congrArg Report.affected (Answer.report.inj told)
  rw [← List.singleton_inj.1 affected]
  exact ⟨rfl, rfl⟩

end Desk
end NoteDesk
