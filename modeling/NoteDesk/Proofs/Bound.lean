import NoteDesk.Proofs.Effect
import NoteDesk.Proofs.Header

/-!
# Which notebook a note is sent with

A note that is opened has a notebook with an identifier, or none. The document may put a mere name
in its place, which is looked up only if it differs from the name of the notebook that the note was
opened with.

* `Note.Bound`: no name is left to be looked up.
* `Work.Opens.bound`: it is so of every note that a session opens. `Work.bound_refreshNotebook_iff`:
  what a document leaves of it.
* `Request.Passes` is the note that a session passes to the service, `Service.noted` what the
  service noted down.
* `Desk.ReachableAfresh.passed_bound_iff` is the main result. `Desk.passed_unbound` is a note that
  is sent with a name in the place of its notebook.
-/

namespace NoteDesk

/-- The note is in no notebook, or in one with an identifier. -/
def Note.Bound (n : Note) : Prop :=
  ∀ r, n.notebook = some r → r.guid?.isSome

/-- Every notebook has an identifier. -/
def Service.Identified (s : Service) : Prop :=
  ∀ nb ∈ s.notebooks, nb.guid ≠ ""

theorem Service.notebookGuid?_resolved {s : Service} (identified : s.Identified) {nb : Notebook}
    (mem : nb ∈ s.notebooks) : (NotebookRef.resolved nb).guid? = some nb.guid := by
  rw [NotebookRef.guid?, if_neg (identified nb mem)]

namespace Note

variable {n : Note}

theorem Bound.of_none (h : n.notebook = none) : n.Bound := by
  intro r hr
  rw [h] at hr
  cases hr

theorem Bound.of_resolved {s : Service} (identified : s.Identified) {nb : Notebook}
    (mem : nb ∈ s.notebooks) (h : n.notebook = some (.resolved nb)) : n.Bound := by
  intro r hr
  obtain rfl : .resolved nb = r := Option.some.inj (h.symm.trans hr)
  rw [Service.notebookGuid?_resolved identified mem]
  rfl

theorem Bound.congr {n' : Note} (h : n.Bound) (same : n'.notebook = n.notebook) : n'.Bound :=
  fun r hr => h r (same ▸ hr)

theorem not_bound_of_named {name : String} (h : n.notebook = some (.named name)) : ¬n.Bound :=
  fun bound => Bool.false_ne_true (bound _ h)

end Note

namespace Desk

variable {d d' : Desk}

theorem Remembers.aside (h : d.Remembers) (aside : Aside d d') : d'.Remembers := by
  rw [Remembers, aside.service, aside.store]
  exact h

/-- Every notebook that can be found has an identifier. -/
structure Identifies (d : Desk) : Prop where
  remembers : d.Remembers
  identified : d.service.Identified

theorem Identifies.lookedUp (h : d.Identifies) (looked : LooksUp d d') : d'.Identifies where
  remembers := h.remembers.lookedUp looked
  identified := by
    obtain ⟨finds, service⟩ := looked.service
    rw [service]
    exact h.identified

theorem Identifies.aside (h : d.Identifies) (aside : Aside d d') : d'.Identifies where
  remembers := h.remembers.aside aside
  identified := aside.service ▸ h.identified

end Desk

namespace Work

open Desk Header

variable {d d' : Desk} {n opened edited : Note} {m : EditMode}

/-! ## Notes that are opened -/

/-- A note with a notebook that was found by name is bound. -/
theorem bound_of_found (h : d.Identifies) {name : String} {nb : Notebook}
    (found : (findNotebook name).perform d = (.ok nb, d'))
    (given : n.notebook = some (.resolved nb)) : n.Bound :=
  .of_resolved h.identified (perform_findNotebook_ok h.remembers found).1 given

theorem perform_resolve_ok {r r' : NotebookRef} (remembers : d.Remembers)
    (h : (resolve r).perform d = (.ok r', d')) :
    ∃ nb ∈ d.service.notebooks, r' = .resolved nb := by
  rw [resolve] at h
  cases hguid : r.guid? with
  | some guid =>
    rw [hguid] at h
    obtain ⟨nb, d₁, asked, same⟩ := perform_bind_ok.1 h
    refine ⟨nb, ?_, (Except.ok.inj (Prod.mk.inj same).1).symm⟩
    have answer : (d.service.notebook guid).mapError Failure.remote = .ok nb :=
      (Prod.mk.inj asked).1
    rw [Service.notebook] at answer
    split at answer
    · cases answer
    next found =>
      rw [← Except.ok.inj answer]
      exact List.mem_of_find?_eq_some found
  | none =>
    rw [hguid] at h
    obtain ⟨nb, d₁, found, same⟩ := perform_bind_ok.1 h
    exact ⟨nb, (perform_findNotebook_ok remembers found).1,
      (Except.ok.inj (Prod.mk.inj same).1).symm⟩

theorem perform_withNotebook_bound (identifies : d.Identifies)
    (h : (withNotebook n).perform d = (.ok opened, d')) : opened.Bound := by
  rcases perform_withNotebook_cases h with ⟨none, rfl⟩ | ⟨r, r', -, resolved, rfl⟩
  · exact .of_none none
  · obtain ⟨nb, mem, rfl⟩ := perform_resolve_ok identifies.remembers resolved
    exact .of_resolved identifies.identified mem rfl

/-- **A note that a session opens is bound.** -/
theorem Opens.bound {title : String} {notebook : Option String} (identifies : d.Identifies)
    (h : Opens title notebook m d opened) : opened.Bound := by
  obtain ⟨fetched, d₁, d₂, found, resolved⟩ := h
  have looked := (noteToEdit_looksUp title notebook m).of_eq found
  exact perform_withNotebook_bound (identifies.lookedUp looked) resolved

theorem perform_newNote_bound {title notebook : Option String} (identifies : d.Identifies)
    (h : (newNote title notebook).perform d = (.ok opened, d')) : opened.Bound := by
  rcases perform_newNote_ok h with ⟨-, plain⟩ | ⟨name, nb, -, found, housed⟩
  · exact .of_none (congrArg Note.notebook plain)
  · exact bound_of_found identifies found (congrArg Note.notebook housed)

/-! ## Notes that are read back -/

/-- **What a document leaves of the notebook**: a name is left if it is that of the notebook before,
after another one was read. -/
theorem bound_refreshNotebook_iff {base reread : Note} {names : List String}
    (identifies : d.Identifies) (bound : base.Bound) (renamed : Renamed base names reread)
    (h : (refreshNotebook reread base.notebookName).perform d = (.ok edited, d')) :
    edited.Bound ↔ ¬ReturnsTo base.notebookName names := by
  cases renamed with
  | kept own same =>
    have name : reread.notebookName = base.notebookName := by
      rw [Note.notebookName, Note.notebookName, same]
    have stays : ¬ReturnsTo base.notebookName names := by
      rintro ⟨-, other, mem, differs⟩
      exact differs (own other mem)
    rcases perform_refreshNotebook_ok h with ⟨-, rfl⟩ | ⟨other, -⟩
    · exact iff_of_true (bound.congr same) stays
    · exact absurd (.inr name) other
  | @named last other final nonempty only =>
    have name : reread.notebookName = last := by
      rw [Note.notebookName, only]
      rfl
    rcases perform_refreshNotebook_ok h with ⟨kept, rfl⟩ | ⟨lookedUp, nb, found, rfl⟩
    -- The last name passes for the one before, so it is not looked up.
    · refine iff_of_false (Note.not_bound_of_named only) (not_not_intro ?_)
      rcases kept with empty | own
      · exact absurd (name.symm.trans empty) nonempty
      · obtain rfl : last = base.notebookName := name.symm.trans own
        exact ⟨final, other⟩
    · refine iff_of_true (bound_of_found identifies found rfl) ?_
      rintro ⟨last', -⟩
      obtain rfl := Option.some.inj (final.symm.trans last')
      exact lookedUp (.inr name)

theorem bound_of_rereads {reread : Note} (identifies : d'.Identifies) (bound : n.Bound)
    (rereads : d.Rereads n m reread) {d'' : Desk}
    (h : (refreshNotebook reread n.notebookName).perform d' = (.ok edited, d'')) :
    ∃ base content, d.finalDocument? n m = some (base, content) ∧
      (edited.Bound ↔ ¬ReturnsTo n.notebookName (names (Line.ofBytes content))) := by
  obtain ⟨base, content, final, parsed⟩ := rereads
  have renamed := (Document.parse_renamed parsed).congr (notebook_of_finalDocument? final)
  exact ⟨base, content, final, bound_refreshNotebook_iff identifies bound renamed h⟩

end Work

/-! ## Notes that are passed on -/

namespace Service

/-- The notes that the service noted down since, to be created or to be updated. -/
def noted (s s' : Service) : List Note :=
  s'.created.drop s.created.length ++ s'.updated.drop s.updated.length

variable {s s' : Service} {n : Note}

theorem noted_of_same (created : s'.created = s.created) (updated : s'.updated = s.updated) :
    s.noted s' = [] := by
  simp [noted, created, updated]

theorem noted_update (s : Service) (n : Note) : ∀ sent ∈ s.noted (s.update n).2, sent = n := by
  rw [update]
  split
  · simp [noted]
  · dsimp only
    split
    · simp [noted]
    · simp [noted, change]

theorem noted_create (s : Service) (n : Note) : ∀ sent ∈ s.noted (s.create n).2, sent = n := by
  rw [create]
  split
  · simp [noted]
  · simp [noted, addRecord]

end Service

open Desk Work Header

namespace Request

/-- The request has a session. -/
def hasSession : Request → Bool
  | edit .. => true
  | editRecovery _ => true
  | create _ _ edited m => edited || m.stdin
  | _ => false

/-- The note from which the session of a request has its document written, in a mode. -/
inductive Opens (d : Desk) : Request → EditMode → Note → Prop where
  | old {r : Request} {title : String} {notebook : Option String} {m : EditMode} {opened : Note}
      (edits : r.Edits title notebook m) (opens : Work.Opens title notebook m d opened) :
      Opens d r m opened
  | new {title notebook : Option String} {edited : Bool} {m : EditMode} {opened : Note}
      {d' : Desk} (opens : (newNote title notebook).perform d = (.ok opened, d')) :
      Opens d (.create title notebook edited m) m opened

/-- The note that the session of a request passes to the service, whether the service takes it or
not. -/
inductive Passes (d : Desk) : Request → Note → Prop where
  | update {r : Request} {title : String} {notebook : Option String} {m : EditMode} {s : Session}
      {d' : Desk} (edits : r.Edits title notebook m)
      (edited : (session title notebook m).perform d = (.ok s, d'))
      (changed : s.unchanged m.raw = false) : Passes d r (outgoing d' s.edited m.raw)
  | create {title notebook : Option String} {edited : Bool} {m : EditMode} {opened n : Note}
      {d₁ d₂ : Desk} (opens : (newNote title notebook).perform d = (.ok opened, d₁))
      (done : (editDocument opened m).perform d₁ = (.ok n, d₂)) (body : String) :
      Passes d (.create title notebook edited m) { n with body }

variable {d d' : Desk} {r : Request} {n : Note}

/-- Nothing is noted down before something is saved. -/
theorem noted_of_unsaved (h : Unsaved d d') :
    d.service.noted d'.service = [] ∧ ∀ s, d.service.noted s = d'.service.noted s := by
  obtain ⟨finds, service⟩ := h.service
  rw [service]
  exact ⟨Service.noted_of_same rfl rfl, fun _ => rfl⟩

theorem Edits.passes {title : String} {notebook : Option String} {m : EditMode}
    (edits : r.Edits title notebook m)
    (h : n ∈ d.service.noted (r.work.perform d).2.service) : r.Passes d n := by
  rw [edits.work, perform_map, editNote_eq] at h
  rcases hsession : (session title notebook m).perform d with ⟨result, d₁⟩
  obtain ⟨nothing, after⟩ :=
    noted_of_unsaved ((session_unsaved title notebook m).of_eq hsession)
  cases result with
  | error cause =>
    rw [perform_bind_of_error hsession, nothing] at h
    cases h
  | ok s =>
    rw [perform_bind_of_ok hsession, settle] at h
    split at h
    · change n ∈ d.service.noted d₁.service at h
      rw [nothing] at h
      cases h
    next changed =>
      rw [bind_pure_comp, perform_map, after, service_saveChanges] at h
      obtain rfl := Service.noted_update _ _ n h
      exact .update edits hsession (by simpa using changed)

theorem create_passes {title notebook : Option String} {edited : Bool} {m : EditMode}
    (session : edited || m.stdin)
    (h : n ∈ d.service.noted ((create title notebook edited m).work.perform d).2.service) :
    (create title notebook edited m).Passes d n := by
  rw [work, perform_map, createNote_eq] at h
  rcases hnew : (newNote title notebook).perform d with ⟨result, d₁⟩
  have looked : Unsaved d d₁ := .ofLooksUp ((newNote_looksUp title notebook).of_eq hnew)
  cases result with
  | error cause =>
    rw [perform_bind_of_error hnew, (noted_of_unsaved looked).1] at h
    cases h
  | ok opened =>
    rw [perform_bind_of_ok hnew, if_pos session, editNew_eq] at h
    rcases hedit : (editDocument opened m).perform d₁ with ⟨result, d₂⟩
    obtain ⟨nothing, after⟩ :=
      noted_of_unsaved (looked.trans ((editDocument_unsaved opened m).of_eq hedit))
    cases result with
    | error cause =>
      rw [perform_bind_of_error hedit, nothing] at h
      cases h
    | ok reread =>
      rw [perform_bind_of_ok hedit, bind_pure_comp, perform_map, after, perform_saveNew] at h
      obtain rfl := Service.noted_create _ _ n h
      exact .create hnew hedit _

/-- **What the service notes down was passed to it** by the session. -/
theorem passes_of_noted (r : Request) (session : r.hasSession)
    (h : n ∈ d.service.noted (r.work.perform d).2.service) : r.Passes d n := by
  cases r with
  | edit title notebook m => exact Edits.passes (.edit title notebook m) h
  | editRecovery m => exact Edits.passes (.editRecovery m) h
  | create title notebook edited m => exact create_passes session h
  | _ => cases session

end Request

namespace Desk

variable {d : Desk}

/-- **Which notebook a note is sent with.** At a desk that a run leads to, where every notebook has
an identifier, whatever request has a session and whatever document comes of it: the note that is
passed to the service, for an update or a creation, is bound unless the names in the header of the
final document return to the name of the notebook that the note was opened with. -/
theorem ReachableAfresh.passed_bound_iff (h : d.ReachableAfresh)
    (identified : d.service.Identified) {r : Request} (session : r.hasSession) :
    (∀ n ∈ d.service.noted (r.work.perform d).2.service, r.Passes d n) ∧
      ∀ n, r.Passes d n → ∃ m opened base content, r.Opens d m opened ∧
        d.finalDocument? opened m = some (base, content) ∧
        (n.Bound ↔ ¬ReturnsTo opened.notebookName (names (Line.ofBytes content))) := by
  have identifies : d.Identifies := ⟨h.remembers, identified⟩
  refine ⟨fun n => r.passes_of_noted session, fun n passes => ?_⟩
  rcases passes with ⟨edits, edited, changed⟩ | ⟨opens, edited, body⟩
  · obtain ⟨opens, reread, d₁, d₂, d₃, rereads, looked, aside, refreshed⟩ :=
      perform_session_ok lookups_looksUp edited
    obtain ⟨base, content, final, bound⟩ := bound_of_rereads
      ((identifies.lookedUp looked).aside aside) (opens.bound identifies) rereads refreshed
    exact ⟨_, _, base, content, .old edits opens, final, bound⟩
  · obtain ⟨reread, d₁, d₂, rereads, aside, refreshed⟩ := perform_editDocument_ok edited
    have looked := (newNote_looksUp _ _).of_eq opens
    obtain ⟨base, content, final, bound⟩ := bound_of_rereads
      ((identifies.lookedUp looked).aside aside) (perform_newNote_bound identifies opens)
      (rereads.congr looked.editor looked.input) refreshed
    exact ⟨_, _, base, content, .new opens, final, bound⟩

/-- A desk with one note in the only notebook, whose editor names another notebook and then that
one again. -/
def returningDesk : Desk where
  service := ((({} : Service).addNotebook { guid := "b", name := "Home" }).add "Groceries"
    (some "b") "milk").2
  editor := fun _ =>
    ⟨some (.file (Utf8.encode
      "---\ntitle: Shopping\nnotebook: Work\nnotebook: Home\n---\nmilk\n".toList)), .ok ()⟩

theorem reachableAfresh_returningDesk : returningDesk.ReachableAfresh := by
  have added : Run (fun _ _ => True) {}
      { service := ({} : Service).addNotebook { guid := "b", name := "Home" } } :=
    .single (.service (.addNotebook _))
  have stocked := added.tail (.service (.add "Groceries" (some "b") "milk"))
  exact ⟨{}, rfl, rfl, stocked.tail (.surroundings rfl rfl)⟩

theorem identified_returningDesk : returningDesk.service.Identified := by
  intro nb mem
  obtain rfl := List.mem_singleton.1 mem
  decide

theorem noted_returningDesk :
    ∃ n ∈ returningDesk.service.noted
        ((Request.edit "Groceries" none {}).work.perform returningDesk).2.service,
      n.notebook = some (.named "Home") := by
  decide +kernel

theorem ReachableAfresh.passed_bound_iff_returningDesk :
    returningDesk.ReachableAfresh ∧ returningDesk.service.Identified ∧ ∃ m opened base content,
      (Request.edit "Groceries" none {}).Opens returningDesk m opened ∧
        returningDesk.finalDocument? opened m = some (base, content) ∧
        ReturnsTo opened.notebookName (names (Line.ofBytes content)) := by
  refine ⟨reachableAfresh_returningDesk, identified_returningDesk, ?_⟩
  obtain ⟨passed, bound⟩ := reachableAfresh_returningDesk.passed_bound_iff
    identified_returningDesk (r := .edit "Groceries" none {}) rfl
  obtain ⟨n, noted, only⟩ := noted_returningDesk
  obtain ⟨m, opened, base, content, opens, final, iff⟩ := bound n (passed n noted)
  refine ⟨m, opened, base, content, opens, final, ?_⟩
  by_contra stays
  exact Note.not_bound_of_named only (iff.2 stays)

/-- **A note that is sent with a name in the place of its notebook**, though the service has the
notebook of that name. -/
theorem passed_unbound :
    returningDesk.ReachableAfresh ∧
      returningDesk.service.notebooks = [{ guid := "b", name := "Home" }] ∧
      ∃ n ∈ returningDesk.service.noted
          ((Request.edit "Groceries" none {}).work.perform returningDesk).2.service,
        n.notebook = some (.named "Home") ∧ ¬n.Bound := by
  obtain ⟨n, noted, only⟩ := noted_returningDesk
  exact ⟨reachableAfresh_returningDesk, rfl, n, noted, only, Note.not_bound_of_named only⟩

end Desk
end NoteDesk
