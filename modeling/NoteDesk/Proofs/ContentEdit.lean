import NoteDesk.Proofs.Bound
import NoteDesk.Proofs.Grammar
import NoteDesk.Proofs.Handed
import NoteDesk.Proofs.Left
import NoteDesk.Proofs.Metadata
import NoteDesk.Proofs.RoundTrip

/-!
# Edits of the content alone

An editor that keeps the header of its document should leave the note in its notebook. The name of
the notebook is read back without the blanks around it, though, and a name that had some is then
another name, which is looked up.

* `Editor.KeepsHeader` is an editor that replaces only what stands below the header.
* `Desk.Shelved` is a note that is found by its title in a notebook of the service, and
  `Service.Houses` says in which notebook the record of a note is.
* `Document.parse_keepsHeader`: what such an editor leaves of a note.
* `Work.editNote_shelved` is the main result, `Work.pantry_padded` a note that cannot be edited
  because of the blanks.
-/

namespace NoteDesk

/-- What the editor leaves of the document of a note begins with the header that it had, and any
text follows. -/
def Editor.KeepsHeader (editor : Editor) (n : Note) (m : EditMode) : Prop :=
  ∃ text, (editor (Work.written n m)).document =
    some (.file (Utf8.encode (Header.render n ++ text)))

/-- The name of the notebook is not another one without the blanks around it. -/
def Notebook.Unpadded (nb : Notebook) : Prop :=
  Text.trimmed nb.name = "" ∨ Text.trimmed nb.name = nb.name

/-! ## What is left of the note -/

/-- The note that is read back has its notebook if there are no blanks around its name, and
otherwise just the name without them. -/
theorem Document.parse_keepsHeader {n : Note} {nb : Notebook} (ht : '\n' ∉ n.title.toList)
    (hn : '\n' ∉ nb.name.toList) (within : n.notebook = some (.resolved nb)) (m : EditMode)
    (text : List Char) :
    ∃ reread, parse (Utf8.encode (Header.render n ++ text)) n m = ⟨reread, .ok ()⟩ ∧
      reread.guid = n.guid ∧ (nb.Unpadded → reread.notebook = some (.resolved nb)) ∧
      (¬nb.Unpadded → reread.notebook = some (.named (Text.trimmed nb.name))) := by
  have named : n.notebookName = nb.name := by
    rw [Note.notebookName, within]
    rfl
  obtain ⟨content, hcontent⟩ := exists_content?_ofText text
  have read := parse_header ht (named ▸ hn) n m hcontent
  have titled : ({ n with title := Text.trimmed n.title } : Note).notebookName = nb.name := named
  have unpadded := Text.trim_isEmpty_or_iff nb.name nb.name
  rw [named, Header.rename_eq, titled] at read
  refine ⟨_, read, by cases m.raw <;> rfl, ?_, ?_⟩
  · intro h
    rw [Note.notebook_withContent, ← within]
    exact if_pos (unpadded.2 h)
  · intro h
    rw [Note.notebook_withContent]
    exact if_neg fun same => h (unpadded.1 same)

/-! ## Notebooks of records -/

namespace Service

variable {s : Service} {n : Note} {nb : Notebook}

/-- The record of a note is in a notebook. -/
def Houses (s : Service) (guid notebook : Guid) : Prop :=
  ∃ r, s.record? guid = some r ∧ r.note.notebookGuid? = some notebook

theorem Houses.congr {s' : Service} {guid notebook : Guid} (h : s.Houses guid notebook)
    (records : s'.records = s.records) : s'.Houses guid notebook := by
  obtain ⟨r, hr, within⟩ := h
  exact ⟨r, (record?_congr records guid).trans hr, within⟩

/-- An update that the service takes puts the record into the notebook that was sent. -/
theorem houses_of_update_ok {s' : Service} {x : Unit} (identified : s.Identified)
    (distinct : (s.notebooks.map (·.guid)).Nodup) (mem : nb ∈ s.notebooks)
    (sent : n.notebook = some (.resolved nb)) (taken : s.update n = (.ok x, s')) :
    s'.Houses n.guid nb.guid := by
  obtain ⟨old, replaced⟩ := update_replaced taken
  refine ⟨_, replaced.now, ?_⟩
  rw [Note.notebookGuid?, Record.updated, sent, resolve_of_mem distinct mem]
  exact notebookGuid?_resolved identified mem

/-- An update that gives the notebook that the record has leaves it there, whether it is taken or
not. -/
theorem Houses.update (h : s.Houses n.guid nb.guid) (identified : s.Identified)
    (distinct : (s.notebooks.map (·.guid)).Nodup) (mem : nb ∈ s.notebooks)
    (sent : n.notebook = some (.resolved nb)) : (s.update n).2.Houses n.guid nb.guid := by
  rcases taken : s.update n with ⟨result, s'⟩
  cases result with
  | error cause => exact h.congr (update_error taken)
  | ok x => exact houses_of_update_ok identified distinct mem sent taken

end Service

/-! ## Failures that are not for want of a notebook -/

theorem Cache.create_ne_notebookNotFound {c : Cache} {name wanted : String} :
    c.create name ≠ .error (.notebookNotFound wanted) := by
  rw [create]
  split
  · split
    · simp
    · split <;> simp
  · simp

namespace Work

open Desk

variable {d d₁ : Desk} {n : Note} {m : EditMode} {title wanted : String} {notebook : Option String}

theorem perform_settle_ne_notebookNotFound (s : Session) (m : EditMode) (d : Desk) :
    ((settle s m).perform d).1 ≠ .error (.notebookNotFound wanted) := by
  rw [settle]
  split
  · rintro ⟨⟩
  · obtain ⟨wireConversions, saved⟩ := perform_saveChanges s.edited m d
    rw [bind_pure_comp, perform_map, saved]
    split
    · rintro ⟨⟩
    next cause service _ =>
      rw [keepForRecovery, perform_mk]
      split <;> rintro ⟨⟩

theorem service_settle (s : Session) (m : EditMode) (d : Desk) :
    ((settle s m).perform d).2.service = d.service ∨
      ((settle s m).perform d).2.service = (d.service.update (outgoing d s.edited m.raw)).2 := by
  rw [settle]
  split
  · exact .inl rfl
  · rw [bind_pure_comp, perform_map]
    exact .inr (service_saveChanges s.edited m d)

/-- Once a note is found, it is opened, or its content cannot be had as markup or as markdown. -/
theorem perform_openNote_of_found (found : (findNote title notebook).perform d = (.ok n, d₁)) :
    (∃ cause, ((openNote title notebook).perform d).1 = .error cause ∧
        ((∃ flaw, cause = .remote flaw) ∨
          ∃ markup, d₁.converter.toMarkdown markup = .error cause)) ∨
      ∃ body md d₂, (openNote title notebook).perform d = (.ok { n with body, md }, d₂) := by
  cases hcontent : d₁.service.content n.guid with
  | error flaw =>
    have asked : (askService (·.content n.guid)).perform d₁ = (.error (.remote flaw), d₁) := by
      rw [askService, perform_mk, hcontent]
      rfl
    rw [openNote, perform_bind_of_ok found, perform_bind_of_error asked]
    exact .inl ⟨_, rfl, .inl ⟨flaw, rfl⟩⟩
  | ok content =>
    have opened := perform_openNote found hcontent
    cases converted : d₁.converter.toMarkdown (Envelope.unwrap content) with
    | error cause =>
      rw [converted] at opened
      exact .inl ⟨cause, opened, .inr ⟨_, converted⟩⟩
    | ok md =>
      rw [converted] at opened
      exact .inr ⟨_, md, _, perform_of_result opened⟩

/-- A notebook that the service does not have is not found: that is what is reported, unless the
local store fails. -/
theorem perform_findNotebook_unknown (remembers : d.Remembers) (wanted : String)
    (unknown : ∀ other ∈ d.service.notebooks, other.name ≠ wanted) :
    ∃ cause, ((findNotebook wanted).perform d).1 = .error cause ∧
      (cause = .notebookNotFound wanted ∨ d.store.notebooks = .error cause ∨
        LocalStore.saveNotebooks d.service.notebooks d.store = .error cause) := by
  have unnamed {known : List Notebook} (seen : known ⊆ d.service.notebooks) :
      named wanted known = none := by
    rw [named, List.find?_eq_none]
    intro other mem
    simpa using unknown other (seen mem)
  rw [findNotebook_eq, perform_bind, askStore, perform_mk]
  cases hknown : d.store.notebooks with
  | error cause => exact ⟨cause, rfl, .inr (.inl rfl)⟩
  | ok known =>
    dsimp only
    rw [unnamed (remembers known hknown).subset]
    dsimp only
    rw [perform_bind, perform_seenNotebooks]
    cases LocalStore.saveNotebooks d.service.notebooks d.store with
    | error cause => exact ⟨cause, rfl, .inr (.inr rfl)⟩
    | ok store =>
      dsimp only
      rw [unnamed (List.Subset.refl _)]
      exact ⟨_, rfl, .inl rfl⟩

section

variable {edited : Note} {before : String} {d' : Desk} (remembers : d.Remembers)
  (renamed : ¬(n.notebookName = "" ∨ n.notebookName = before))
include remembers renamed

/-- A note read back with another name for its notebook is put into a notebook of that name. -/
theorem perform_refreshNotebook_renamed
    (h : (refreshNotebook n before).perform d = (.ok edited, d')) :
    ∃ other ∈ d.service.notebooks, other.name = n.notebookName ∧
      edited = { n with notebook := some (.resolved other) } := by
  rcases perform_refreshNotebook_ok h with ⟨same, -⟩ | ⟨-, other, found, rfl⟩
  · exact absurd same renamed
  · obtain ⟨mem, name⟩ := perform_findNotebook_ok remembers found
    exact ⟨other, mem, name, rfl⟩

theorem perform_refreshNotebook_unknown
    (unknown : ∀ other ∈ d.service.notebooks, other.name ≠ n.notebookName) :
    ∃ cause, ((refreshNotebook n before).perform d).1 = .error cause ∧
      (cause = .notebookNotFound n.notebookName ∨ d.store.notebooks = .error cause ∨
        LocalStore.saveNotebooks d.service.notebooks d.store = .error cause) := by
  obtain ⟨cause, failed, reason⟩ := perform_findNotebook_unknown remembers n.notebookName unknown
  refine ⟨cause, ?_, reason⟩
  rw [refreshNotebook, if_neg renamed, bind_pure_comp, perform_map, failed]
  rfl

end

end Work

/-! ## Notes in a notebook -/

open Desk Work

/-- A note is found by its title, and it is in a notebook of the service. Title and name are single
lines. -/
structure Desk.Shelved (d : Desk) (title : String) (notebook : Option String) (n : Note)
    (nb : Notebook) : Prop where
  records : (d.service.records.map (·.note.guid)).Nodup
  notebooks : (d.service.notebooks.map (·.guid)).Nodup
  identified : d.service.Identified
  unnumbered : (numberedNote? title).perform d = (.ok none, d)
  found : ∃ d₁, (findNote title notebook).perform d = (.ok n, d₁)
  mem : nb ∈ d.service.notebooks
  within : n.notebookGuid? = some nb.guid
  title : '\n' ∉ n.title.toList
  name : '\n' ∉ nb.name.toList

namespace Desk.Shelved

variable {d d₁ : Desk} {title : String} {notebook : Option String} {n opened : Note} {nb : Notebook}
  {m : EditMode}

theorem houses (h : d.Shelved title notebook n nb) : d.service.Houses n.guid nb.guid := by
  obtain ⟨d₁, found⟩ := h.found
  obtain ⟨r, mem, rfl⟩ := perform_findNote_title found h.unnumbered
  refine ⟨r, ?_, h.within⟩
  cases same : d.service.record? r.note.guid with
  | none =>
    have none := List.find?_eq_none.1 same r mem
    simp at none
  | some r' =>
    rw [List.inj_on_of_nodup_map h.records (List.mem_of_find?_eq_some same) mem
      (Service.guid_of_record? same)]

/-- The service is asked for the notebook, and has it. -/
theorem perform_withNotebook (h : d.Shelved title notebook n nb) (looked : LooksUp d d₁)
    (body md : String) :
    (withNotebook { n with body, md }).perform d₁ =
      (.ok { n with body, md, notebook := some (.resolved nb) }, d₁) := by
  obtain ⟨r, href, guid⟩ := Option.bind_eq_some_iff.1 h.within
  obtain ⟨finds, service⟩ := looked.service
  have asked : (askService (·.notebook nb.guid)).perform d₁ = (.ok nb, d₁) := by
    have had : d₁.service.notebook? nb.guid = some nb := by
      rw [service]
      exact Service.notebook?_of_mem h.notebooks h.mem
    rw [askService, perform_mk, Service.notebook, had]
    rfl
  have resolved : (resolve r).perform d₁ = (.ok (.resolved nb), d₁) := by
    rw [resolve, guid]
    exact perform_bind_of_ok asked _
  rw [withNotebook, href]
  exact perform_bind_of_ok resolved _

/-- **The note is opened in its notebook**, or the session ends because its content cannot be had. -/
theorem perform_editNote (h : d.Shelved title notebook n nb) (hm : m.recovery = false) :
    (∃ cause, ((editNote title notebook m).perform d).1 = .error cause ∧
        ((∃ flaw, cause = .remote flaw) ∨ ∃ markup, d.converter.toMarkdown markup = .error cause) ∧
        LooksUp d ((editNote title notebook m).perform d).2) ∨
      ∃ opened d₁ echoed, Opens title notebook m d opened ∧ LooksUp d d₁ ∧
        opened.guid = n.guid ∧ opened.title = n.title ∧ opened.notebook = some (.resolved nb) ∧
        (editNote title notebook m).perform d =
          (editDocument opened m >>= fun edited => settle ⟨echoed, opened, edited⟩ m).perform
            d₁ := by
  have same : noteToEdit title notebook m = openNote title notebook := by
    rw [noteToEdit, hm]
    rfl
  obtain ⟨d₁, found⟩ := h.found
  have converter := ((findNote_looksUp title notebook).of_eq found).converter
  rcases perform_openNote_of_found found with ⟨cause, failed, reason⟩ | ⟨body, md, d₂, fetched⟩
  · rw [← same] at failed
    have ended := perform_bind_of_error (perform_of_result failed) (β := Report)
    rw [converter] at reason
    refine .inl ⟨cause, ?_, reason, ?_⟩
    · rw [editNote_parts, ended]
    · rw [editNote_parts, ended]
      exact noteToEdit_looksUp title notebook m d
  · rw [← same] at fetched
    have looked := (noteToEdit_looksUp title notebook m).of_eq fetched
    have resolved := h.perform_withNotebook looked body md
    obtain ⟨echoed, echo, -⟩ := Document.exists_roundTrip { n with body, md } m
    exact .inr ⟨_, d₂, echoed, ⟨_, d₂, d₂, fetched, resolved⟩, looked, rfl, rfl, rfl,
      Work.perform_editNote fetched echo resolved⟩

end Desk.Shelved

namespace Work

variable {d d₁ : Desk} {title : String} {notebook : Option String} {n opened echoed reread : Note}
  {nb : Notebook} {m : EditMode}

/-! ## Sessions -/

/-- A session that gives a note with the notebook that its record has leaves the record there. -/
theorem settle_houses {s : Session} (houses : d.service.Houses s.edited.guid nb.guid)
    (identified : d.service.Identified) (distinct : (d.service.notebooks.map (·.guid)).Nodup)
    (mem : nb ∈ d.service.notebooks) (kept : s.edited.notebook = some (.resolved nb)) :
    ((settle s m).perform d).2.service.Houses s.edited.guid nb.guid := by
  rcases service_settle s m d with same | updated
  · rw [same]
    exact houses
  · rw [updated]
    exact Service.Houses.update (n := outgoing d s.edited m.raw) houses identified distinct mem kept

/-- A session that gives a note with a notebook of another name moves its record there, if it is
done. -/
theorem settle_moves {s : Session} {report : Report} {d' : Desk}
    (identified : d.service.Identified) (distinct : (d.service.notebooks.map (·.guid)).Nodup)
    (mem : nb ∈ d.service.notebooks) (moved : s.edited.notebook = some (.resolved nb))
    (differs : nb.name ≠ s.opened.notebookName)
    (done : (settle s m).perform d = (.ok report, d')) :
    d'.service.Houses s.edited.guid nb.guid := by
  have named : s.edited.notebookName = nb.name := by
    rw [Note.notebookName, moved]
    rfl
  have changed : ¬s.unchanged m.raw := by
    simp [Session.unchanged, named, differs]
  rw [settle, if_neg changed] at done
  obtain ⟨x, d₂, saved, ended⟩ := perform_bind_ok.1 done
  obtain ⟨-, rfl⟩ := Prod.mk.inj ended
  obtain ⟨service, wireConversions, taken, rfl⟩ := perform_saveChanges_ok saved
  exact Service.houses_of_update_ok (n := outgoing d s.edited m.raw) identified distinct mem moved
    taken

/-- How far work gets with a document that goes to an editor: it stops before there is a note to be
used, or the notebook of the note is not found, or the note is used. -/
inductive Fares (d : Desk) (opened reread : Note) (m : EditMode) (use : Note → Work Report) : Prop
  | stops {cause : Failure} {d' : Desk}
      (ended : (editDocument opened m >>= use).perform d = (.error cause, d'))
      (unsaved : Unsaved d d') (other : ∀ name, cause ≠ .notebookNotFound name)
      (early : d'.handed = d.handed ∨ ∃ flaw, (d.editor (written opened m)).result = .error flaw)
  | misses {cause : Failure} {d₁ d' : Desk}
      (ended : (editDocument opened m >>= use).perform d = (.error cause, d'))
      (unsaved : Unsaved d d') (before : Aside d d₁)
      (missed : ((refreshNotebook reread opened.notebookName).perform d₁).1 = .error cause)
  | uses {edited : Note} {d₁ d₂ d₃ : Desk} (before : Aside d d₁)
      (refreshed : (refreshNotebook reread opened.notebookName).perform d₁ = (.ok edited, d₂))
      (unsaved : Unsaved d d₃)
      (used : (editDocument opened m >>= use).perform d = (use edited).perform d₃)

theorem perform_editDocument_fares (hm : m.stdin = false) {content : Bytes}
    (left : (d.editor (written opened m)).document = some (.file content))
    (parsed : Document.parse content opened m = ⟨reread, .ok ()⟩) (use : Note → Work Report) :
    Fares d opened reread m use := by
  rcases perform_editDocument_left hm left parsed with
    ⟨name, cause, d₁, aside, same, refused, ended⟩ | ⟨name, d₁, result, d₂, aside, handed, after, ended⟩
  · refine .stops (perform_bind_of_error ended _) aside.unsaved ?_ (.inl same)
    rintro wanted rfl
    exact Cache.create_ne_notebookNotFound refused
  · have unsaved := (editDocument_unsaved opened m).of_eq ended
    rw [perform_bind, perform_liftM] at after
    cases hresult : (d.editor (written opened m)).result with
    | error flaw =>
      rw [hresult] at after
      obtain ⟨rfl, rfl⟩ := Prod.mk.inj after
      refine .stops (perform_bind_of_error ended _) unsaved ?_ (.inr ⟨flaw, hresult⟩)
      rintro wanted ⟨⟩
    | ok _ =>
      rw [hresult] at after
      have refreshed : (refreshNotebook reread opened.notebookName).perform d₁ = (result, d₂) :=
        after
      cases result with
      | error cause =>
        exact .misses (perform_bind_of_error ended _) unsaved aside (by rw [refreshed])
      | ok edited => exact .uses aside refreshed unsaved (perform_bind_of_ok ended _)

/-- The work did not fail for want of a notebook, and the record of the note is in its own. -/
structure StaysShelved (n : Note) (nb : Notebook) (outcome : Except Failure Report × Desk) :
    Prop where
  notMissed : ∀ name, outcome.1 ≠ .error (.notebookNotFound name)
  houses : outcome.2.service.Houses n.guid nb.guid

/-- The work looked another notebook up. If there is none, it failed for want of it, or because the
local store did, and nothing was saved; if it is done, the record of the note is there. -/
structure LooksElsewhere (d : Desk) (name : String) (n : Note) (nb : Notebook)
    (outcome : Except Failure Report × Desk) : Prop where
  missed : (∀ other ∈ d.service.notebooks, other.name ≠ name) →
    Unsaved d outcome.2 ∧ ∃ cause, outcome.1 = .error cause ∧
      (cause = .notebookNotFound name ∨ ∃ d₁, Unsaved d d₁ ∧
        (d₁.store.notebooks = .error cause ∨
          LocalStore.saveNotebooks d.service.notebooks d₁.store = .error cause))
  moved : ∀ report, outcome.1 = .ok report →
    ∃ other ∈ d.service.notebooks, other.name = name ∧ other.guid ≠ nb.guid ∧
      outcome.2.service.Houses n.guid other.guid

section

variable (h : d.Shelved title notebook n nb) (hm : m.stdin = false) (hr : m.recovery = false)
  (keeps : ∀ opened, Opens title notebook m d opened → d.editor.KeepsHeader opened m)
include h hm hr keeps

/-- What the session of a note that is found comes to: it ends because the content cannot be had, or
it fares as its document does. -/
theorem editNote_fares :
    (∃ cause d', (editNote title notebook m).perform d = (.error cause, d') ∧ LooksUp d d' ∧
        ((∃ flaw, cause = .remote flaw) ∨
          ∃ markup, d.converter.toMarkdown markup = .error cause)) ∨
      ∃ opened d₁ echoed reread, Opens title notebook m d opened ∧ LooksUp d d₁ ∧
        opened.notebook = some (.resolved nb) ∧ reread.guid = n.guid ∧
        (nb.Unpadded → reread.notebook = some (.resolved nb)) ∧
        (¬nb.Unpadded → reread.notebook = some (.named (Text.trimmed nb.name))) ∧
        (editNote title notebook m).perform d =
          (editDocument opened m >>= fun edited => settle ⟨echoed, opened, edited⟩ m).perform d₁ ∧
        Fares d₁ opened reread m (fun edited => settle ⟨echoed, opened, edited⟩ m) := by
  rcases h.perform_editNote hr with ⟨cause, failed, reason, looked⟩ |
    ⟨opened, d₁, echoed, opens, looked, guid, titled, within, whole⟩
  · exact .inl ⟨cause, _, perform_of_result failed, looked, reason⟩
  · obtain ⟨text, left⟩ := keeps opened opens
    obtain ⟨reread, parsed, same, unpadded, padded⟩ :=
      Document.parse_keepsHeader (titled ▸ h.title) h.name within m text
    rw [← looked.editor] at left
    exact .inr ⟨opened, d₁, echoed, reread, opens, looked, within, same.trans guid, unpadded, padded,
      whole, perform_editDocument_fares hm left parsed _⟩

theorem editNote_unpadded (unpadded : nb.Unpadded)
    (converts : ∀ markup name, d.converter.toMarkdown markup ≠ .error (.notebookNotFound name)) :
    StaysShelved n nb ((editNote title notebook m).perform d) := by
  have still {d' : Desk} (unsaved : Unsaved d d') : d'.service.Houses n.guid nb.guid := by
    obtain ⟨finds, service⟩ := unsaved.service
    rw [service]
    exact h.houses.congr rfl
  rcases editNote_fares h hm hr keeps with ⟨cause, d', ended, looked, reason⟩ |
    ⟨opened, d₁, echoed, reread, opens, looked, within, guid, kept, -, whole, fares⟩
  · rw [ended]
    refine ⟨?_, still (.ofLooksUp looked)⟩
    rintro name ⟨⟩
    rcases reason with ⟨flaw, ⟨⟩⟩ | ⟨markup, converted⟩
    exact converts markup name converted
  · have within' := kept unpadded
    have same : reread.notebookName = opened.notebookName := by
      rw [Note.notebookName, Note.notebookName, within', within]
    have looked : Unsaved d d₁ := .ofLooksUp looked
    rw [whole]
    cases fares with
    | stops ended unsaved other =>
      rw [ended]
      exact ⟨fun name missed => other name (Except.error.inj missed), still (looked.trans unsaved)⟩
    | misses ended unsaved before missed =>
      rw [refreshNotebook_of_eq same] at missed
      cases missed
    | @uses edited d₂ d₃ d₄ before refreshed unsaved used =>
      rw [refreshNotebook_of_eq same] at refreshed
      obtain ⟨rfl⟩ := Except.ok.inj (Prod.mk.inj refreshed).1
      obtain ⟨finds, service⟩ := (looked.trans unsaved).service
      rw [used]
      refine ⟨fun name => perform_settle_ne_notebookNotFound _ _ _, ?_⟩
      rw [← guid]
      have houses := still (looked.trans unsaved)
      rw [← guid] at houses
      exact settle_houses (s := ⟨echoed, opened, reread⟩) houses (by rw [service]; exact h.identified)
        (by rw [service]; exact h.notebooks) (by rw [service]; exact h.mem) within'

theorem editNote_padded (padded : ¬nb.Unpadded) (remembers : d.Remembers)
    (reached : ((editNote title notebook m).perform d).2.handed ≠ d.handed)
    (succeeds : ∀ opened, Opens title notebook m d opened →
      (d.editor (written opened m)).result = .ok ()) :
    LooksElsewhere d (Text.trimmed nb.name) n nb ((editNote title notebook m).perform d) := by
  obtain ⟨cause, d', ended, looked, -⟩ | ⟨opened, d₁, echoed, reread, opens, looked, within, guid,
    -, named, whole, fares⟩ := editNote_fares h hm hr keeps
  · rw [ended] at reached
    exact absurd looked.handed reached
  · have sought : reread.notebookName = Text.trimmed nb.name := by
      rw [Note.notebookName, named padded]
      rfl
    have before : opened.notebookName = nb.name := by
      rw [Note.notebookName, within]
      rfl
    have different : ¬(reread.notebookName = "" ∨ reread.notebookName = opened.notebookName) := by
      rwa [sought, before]
    have lookedUp : Unsaved d d₁ := .ofLooksUp looked
    obtain ⟨finds, service⟩ := looked.service
    rw [whole] at reached ⊢
    cases fares with
    | stops ended unsaved other early =>
      rcases early with same | ⟨flaw, failed⟩
      · rw [ended] at reached
        exact absurd (same.trans looked.handed) reached
      · rw [looked.editor, succeeds opened opens] at failed
        cases failed
    | @misses cause d₂ d' ended unsaved aside missed =>
      have remembers := (remembers.lookedUp looked).aside aside
      rw [ended]
      refine ⟨fun unknown => ⟨lookedUp.trans unsaved, cause, rfl, ?_⟩, fun report done => ?_⟩
      · obtain ⟨cause', failed, reason⟩ := perform_refreshNotebook_unknown remembers different
          (by rwa [aside.service, service, sought])
        rw [failed] at missed
        obtain rfl := Except.error.inj missed
        rw [aside.service, service, sought] at reason
        exact reason.imp_right fun flaw => ⟨d₂, lookedUp.trans aside.unsaved, flaw⟩
      · cases done
    | @uses edited d₂ d₃ d₄ aside refreshed unsaved used =>
      obtain ⟨other, mem, name, rfl⟩ := perform_refreshNotebook_renamed
        ((remembers.lookedUp looked).aside aside) different refreshed
      rw [aside.service, service] at mem
      rw [sought] at name
      have apart : other.name ≠ nb.name := fun same => padded (.inr (name.symm.trans same))
      obtain ⟨finds, service⟩ := (lookedUp.trans unsaved).service
      rw [used]
      refine ⟨fun unknown => absurd name (unknown other mem), fun report done => ?_⟩
      refine ⟨other, mem, name, ?_, ?_⟩
      · intro same
        exact apart (congrArg Notebook.name (List.inj_on_of_nodup_map h.notebooks mem h.mem same))
      · rw [← guid]
        exact settle_moves
          (s := ⟨echoed, opened, { reread with notebook := some (.resolved other) }⟩)
          (by rw [service]; exact h.identified) (by rw [service]; exact h.notebooks)
          (by rw [service]; exact mem) rfl (before ▸ apart) (perform_of_result done)

end

/-- **Edits of the content alone, and the notebook.** A note is looked up by its title, in a
notebook of the service, and the editor replaces only what stands below the header. If there are no
blanks around the name of the notebook, or nothing else is in it, then the session does not fail for
want of a notebook, and the record of the note stays where it is. Otherwise, once the editor is done,
the name without the blanks is looked up: if the service has no notebook of that name, the session
fails for want of it and saves nothing, and if the session is done, the note is in another notebook
than before. -/
theorem editNote_shelved (h : d.Shelved title notebook n nb) (hm : m.stdin = false)
    (hr : m.recovery = false)
    (keeps : ∀ opened, Opens title notebook m d opened → d.editor.KeepsHeader opened m)
    (converts : ∀ markup name, d.converter.toMarkdown markup ≠ .error (.notebookNotFound name)) :
    (nb.Unpadded → StaysShelved n nb ((editNote title notebook m).perform d)) ∧
    (¬nb.Unpadded → d.Remembers →
      ((editNote title notebook m).perform d).2.handed ≠ d.handed →
      (∀ opened, Opens title notebook m d opened →
        (d.editor (written opened m)).result = .ok ()) →
      LooksElsewhere d (Text.trimmed nb.name) n nb ((editNote title notebook m).perform d)) :=
  ⟨fun unpadded => editNote_unpadded h hm hr keeps unpadded converts,
    fun padded remembers reached succeeds =>
      editNote_padded h hm hr keeps padded remembers reached succeeds⟩

end Work

/-! ### A pantry -/

/-- An editor that adds a text to every document. -/
def Editor.appending (text : List Char) : Editor :=
  fun document => ⟨some (.file (document ++ Utf8.encode text)), .ok ()⟩

theorem Editor.appending_keepsHeader (text : List Char) (n : Note) (m : EditMode) :
    (appending text).KeepsHeader n m := by
  refine ⟨Document.withLastFeed (n.content m.raw).toList ++ text, ?_⟩
  rw [appending, Work.written, Document.render_eq, ← Utf8.encode_append, List.append_assoc]

theorem Converter.markdown_ne_notebookNotFound (markup name : String) :
    Converter.markdown.toMarkdown markup ≠ .error (.notebookNotFound name) := by
  rw [Converter.markdown]
  rcases Markup.toMarkdown_cases markup with ⟨-, md, done⟩ | ⟨before, inner, -, failed⟩
  · simp [done]
  · simp [failed]

/-- A desk with a note in the first of two notebooks, whose name is given. -/
def pantry (name : String) : Desk where
  service :=
    (((({} : Service).addNotebook { guid := "a", name }).addNotebook
      { guid := "b", name := "Larder" }).add "Groceries" (some "a") "milk").2
  editor := Editor.appending "eggs\n".toList

/-- The note of the pantry, as its record has it. -/
def pantryNote (name : String) : Note where
  guid := Guid.ofNumber 1
  title := "Groceries"
  notebook := some (.resolved { guid := "a", name })
  created := 1000
  updated := 1000

theorem pantry_shelved (name : String) (single : '\n' ∉ name.toList)
    (found : ((findNote "Groceries" none).perform (pantry name)).1 = .ok (pantryNote name)) :
    (pantry name).Shelved "Groceries" none (pantryNote name) { guid := "a", name } where
  records := by simp [pantry, Service.add, Service.addRecord, Service.addNotebook]
  notebooks := by simp [pantry, Service.add, Service.addRecord, Service.addNotebook]
  identified := by
    simp [pantry, Service.add, Service.addRecord, Service.addNotebook, Service.Identified]
  unnumbered := rfl
  found := ⟨_, perform_of_result found⟩
  mem := by simp [pantry, Service.add, Service.addRecord, Service.addNotebook]
  within := rfl
  title := by simp [pantryNote]
  name := single

namespace Work

theorem editNote_shelved_pantry :
    StaysShelved (pantryNote "Home") { guid := "a", name := "Home" }
        ((editNote "Groceries" none {}).perform (pantry "Home")) ∧
      LooksElsewhere (pantry "Larder ") "Larder" (pantryNote "Larder ")
        { guid := "a", name := "Larder " }
        ((editNote "Groceries" none {}).perform (pantry "Larder ")) := by
  have home := pantry_shelved "Home" (by decide) (by decide +kernel)
  have larder := pantry_shelved "Larder " (by decide) (by decide +kernel)
  obtain ⟨stays, -⟩ := editNote_shelved home rfl rfl
    (fun _ _ => Editor.appending_keepsHeader _ _ {}) Converter.markdown_ne_notebookNotFound
  obtain ⟨-, looks⟩ := editNote_shelved larder rfl rfl
    (fun _ _ => Editor.appending_keepsHeader _ _ {}) Converter.markdown_ne_notebookNotFound
  refine ⟨stays (.inr (by decide +kernel)), ?_⟩
  refine looks (by unfold Notebook.Unpadded; decide +kernel) ?_ (by decide +kernel) fun _ _ => rfl
  rintro known ⟨⟩
  exact List.nil_prefix

/-- **A note that cannot be edited where it is**: for the blank at the end of the name of its
notebook, the session finds no notebook, or moves the note to another one. -/
theorem pantry_padded :
    (pantry "Home ").Shelved "Groceries" none (pantryNote "Home ")
        { guid := "a", name := "Home " } ∧
      (∀ n m, (pantry "Home ").editor.KeepsHeader n m) ∧
      ((editNote "Groceries" none {}).perform (pantry "Home ")).1 =
        .error (.notebookNotFound "Home") ∧
      (((editNote "Groceries" none {}).perform (pantry "Larder ")).2.service.record?
        (Guid.ofNumber 1)).map (·.note.notebookGuid?) = some (some "b") :=
  ⟨pantry_shelved "Home " (by decide) (by decide +kernel), Editor.appending_keepsHeader _,
    by decide +kernel, by decide +kernel⟩

end Work
end NoteDesk
