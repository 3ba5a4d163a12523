import NoteDesk.Proofs.Editing
import NoteDesk.Proofs.Saving

/-!
# The two halves of an edit session

An edit session first gets a note edited, which saves nothing, and then settles what comes of it,
for which the cache does not matter.

* `Work.Session` is what the first half (`Work.session`) leaves to the second (`Work.settle`), and
  `Work.editNote_eq` says that the two make up `Work.editNote`. `Work.editNew_eq` does the same for
  notes that are new.
* `Desk.Unsaved` relates a desk to the desk before when nothing was saved, and
  `Work.session_unsaved` is the first half; `Work.session_leads` says of any relation that it is
  enough to look things up and to work on a document (`Desk.Drafted`), which is aside from service
  and store (`Desk.Aside`).
  `Desk.Saved` and `Work.settle_saved` are the counterparts for the second half.
-/

namespace NoteDesk

/-- Nothing was saved: neither at the service, which only counted searches, nor a listing or a
recovery point. -/
structure Desk.Unsaved (d d' : Desk) : Prop where
  service : ∃ finds, d'.service = { d.service with finds }
  search : d'.store.search = d.store.search
  recovery : d'.store.recovery = d.store.recovery
  editor : d'.editor = d.editor
  converter : d'.converter = d.converter
  config : d'.config = d.config

namespace Desk.Unsaved

theorem refl (d : Desk) : Unsaved d d :=
  ⟨⟨_, rfl⟩, rfl, rfl, rfl, rfl, rfl⟩

theorem trans {d₁ d₂ d₃ : Desk} (h : Unsaved d₁ d₂) (h' : Unsaved d₂ d₃) : Unsaved d₁ d₃ where
  service := by
    obtain ⟨k, hk⟩ := h.service
    obtain ⟨k', hk'⟩ := h'.service
    exact ⟨k', by rw [hk', hk]⟩
  search := h'.search.trans h.search
  recovery := h'.recovery.trans h.recovery
  editor := h'.editor.trans h.editor
  converter := h'.converter.trans h.converter
  config := h'.config.trans h.config

instance : IsPreorder Desk Unsaved where
  refl := refl
  trans _ _ _ := trans

theorem ofConsults {d d' : Desk} (h : Consults d d') : Unsaved d d' :=
  ⟨h.service, h.search, h.recovery, h.editor, h.converter, h.config⟩

theorem ofLooksUp {d d' : Desk} (h : LooksUp d d') : Unsaved d d' :=
  .ofConsults h.toConsults

end Desk.Unsaved

/-- Nothing was done with the service or the local store, not even looked up. -/
structure Desk.Aside (d d' : Desk) : Prop where
  service : d'.service = d.service
  store : d'.store = d.store
  editor : d'.editor = d.editor
  converter : d'.converter = d.converter
  config : d'.config = d.config

namespace Desk.Aside

theorem refl (d : Desk) : Aside d d :=
  ⟨rfl, rfl, rfl, rfl, rfl⟩

instance : IsPreorder Desk Aside where
  refl := refl
  trans _ _ _ h h' :=
    ⟨h'.service.trans h.service, h'.store.trans h.store, h'.editor.trans h.editor,
      h'.converter.trans h.converter, h'.config.trans h.config⟩

theorem unsaved {d d' : Desk} (h : Aside d d') : Unsaved d d' :=
  ⟨⟨_, h.service⟩, by rw [h.store], by rw [h.store], h.editor, h.converter, h.config⟩

end Desk.Aside

/-- Only the cache and the input are others, documents were handed to the editor, and names were
given to them. -/
def Desk.Drafted (d d' : Desk) : Prop :=
  ∃ cache input handed drafts, d' = { d with cache, input, handed, drafts }

namespace Desk.Drafted

variable {d d' : Desk}

theorem refl (d : Desk) : Drafted d d :=
  ⟨_, _, _, _, rfl⟩

instance : IsPreorder Desk Drafted where
  refl := refl
  trans _ _ _ := by
    rintro ⟨_, _, _, _, rfl⟩ ⟨cache, input, handed, drafts, rfl⟩
    exact ⟨cache, input, handed, drafts, rfl⟩

theorem aside (h : Drafted d d') : Aside d d' := by
  obtain ⟨_, _, _, _, rfl⟩ := h
  exact ⟨rfl, rfl, rfl, rfl, rfl⟩

theorem unsaved (h : Drafted d d') : Unsaved d d' :=
  h.aside.unsaved

end Desk.Drafted

/-- Something may have been saved, and nothing else happened. -/
structure Desk.Saved (d d' : Desk) : Prop where
  cache : d'.cache = d.cache
  editor : d'.editor = d.editor
  converter : d'.converter = d.converter
  input : d'.input = d.input
  config : d'.config = d.config
  handed : d'.handed = d.handed
  drafts : d'.drafts = d.drafts

namespace Desk.Saved

theorem refl (d : Desk) : Saved d d :=
  ⟨rfl, rfl, rfl, rfl, rfl, rfl, rfl⟩

instance : IsPreorder Desk Saved where
  refl := refl
  trans _ _ _ h h' :=
    ⟨h'.cache.trans h.cache, h'.editor.trans h.editor, h'.converter.trans h.converter,
      h'.input.trans h.input, h'.config.trans h.config, h'.handed.trans h.handed,
      h'.drafts.trans h.drafts⟩

end Desk.Saved

namespace Work

open Desk

variable {α β : Type}

/-! ## Work that the cache does not matter to -/

/-- The work neither looks at the cache nor changes it. -/
def IgnoresCache (w : Work α) : Prop :=
  ∀ d cache, w.perform { d with cache } = ((w.perform d).1, { (w.perform d).2 with cache })

namespace IgnoresCache

theorem cache_eq {w : Work α} (h : IgnoresCache w) (d : Desk) :
    (w.perform d).2.cache = d.cache := by
  have same := h d d.cache
  exact congrArg (fun r : Except Failure α × Desk => r.2.cache) same

theorem pure (a : α) : IgnoresCache (pure a : Work α) := fun _ _ => rfl

theorem bind {w : Work α} {f : α → Work β} (hw : IgnoresCache w) (hf : ∀ a, IgnoresCache (f a)) :
    IgnoresCache (w >>= f) :=
  fun d cache => Commutes.bind (fun d => hw d cache) (fun a d => hf a d cache) d

theorem map {w : Work α} (f : α → β) (hw : IgnoresCache w) : IgnoresCache (f <$> w) :=
  fun d cache => Commutes.map f (fun d => hw d cache) d

theorem changeService (change : Service → Except RemoteError α × Service) :
    IgnoresCache (changeService change) := fun _ _ => rfl

theorem toWire (markdown : String) : IgnoresCache (toWire markdown) := fun _ _ => rfl

theorem keepForRecovery [Disk] (n : Note) (cause : Failure) : IgnoresCache (keepForRecovery n cause) :=
  fun d cache =>
    Commutes.keepForRecovery (f := fun d => { d with cache }) (fun _ => rfl) (fun _ _ => rfl)
      n cause d

theorem saveChanges [Disk] (n : Note) (m : EditMode) : IgnoresCache (saveChanges n m) :=
  fun d cache =>
    Commutes.saveChanges (fun markdown d => toWire markdown d cache)
      (fun change d => changeService change d cache)
      (fun n cause d => keepForRecovery n cause d cache) n m d

theorem saveNew (n : Note) (raw : Bool) : IgnoresCache (saveNew n raw) :=
  fun d cache =>
    Commutes.saveNew (fun markdown d => toWire markdown d cache)
      (fun change d => changeService change d cache) n raw d

end IgnoresCache

/-- What the cache does not matter to can as well be done after the document is discarded. -/
theorem withDocument_bind {f : α → Work β} (hf : ∀ a, IgnoresCache (f a)) (name : String)
    (use : Cache.Document → Work α) :
    (withDocument name fun document => use document >>= f) = withDocument name use >>= f := by
  refine perform_ext fun d => ?_
  rw [perform_bind, withDocument, withDocument, perform_mk, perform_mk]
  cases d.cache.create name with
  | error cause => rfl
  | ok created =>
    simp only [perform_bind]
    rcases (use created.1).perform { d with cache := created.2 } with ⟨r, d₁⟩
    cases r with
    | error cause => rfl
    | ok a =>
      have late := hf a d₁ (d₁.cache.discard name)
      simp only [(hf a).cache_eq]
      exact late.symm

/-! ## The halves -/

section

variable [Disk] [Connection]

/-- What comes of a note once its document was edited. -/
def editDocument (n : Note) (m : EditMode) : Work Note := do
  let name ← documentName n m
  withDocument name fun document => do
    refreshNotebook (← editIn n m document) n.notebookName

/-- An edit session before it is settled. -/
structure Session where
  /-- The note as its own document reads back, before its notebook was looked up. -/
  echoed : Note
  /-- The note that the document was written from. -/
  opened : Note
  /-- The note that was read from the document afterwards. -/
  edited : Note
  deriving DecidableEq, Repr

/-- There is nothing to save. -/
def Session.unchanged (s : Session) (raw : Bool) : Bool :=
  !(Fingerprint.of s.echoed raw).changed (Fingerprint.of s.edited raw) &&
    s.edited.notebookName == s.opened.notebookName

/-- Gets a note edited. -/
def session (title : String) (notebook : Option String) (m : EditMode) : Work Session := do
  let fetched ← noteToEdit title notebook m
  let echoed ← Document.roundTrip fetched m
  let opened ← withNotebook fetched
  return { echoed, opened, edited := ← editDocument opened m }

/-- Saves what came of a session, if there is something to save. -/
def settle (s : Session) (m : EditMode) : Work Report := do
  if s.unchanged m.raw then return { messages := [.unchanged s.edited.title] }
  else
    saveChanges s.edited m
    return { messages := [.saved s.edited.title], affected := [s.edited] }

omit [Connection] in
theorem settle_ignoresCache (s : Session) (m : EditMode) : IgnoresCache (settle s m) := by
  unfold settle
  split
  · exact .pure _
  · exact .map _ (.saveChanges s.edited m)

/-- **An edit session is its two halves.** -/
theorem editNote_eq (title : String) (notebook : Option String) (m : EditMode) :
    editNote title notebook m = session title notebook m >>= fun s => settle s m := by
  simp only [editNote, session, bind_assoc, pure_bind]
  refine bind_congr fun fetched => bind_congr fun echoed => bind_congr fun n => ?_
  simp only [editDocument, bind_assoc]
  refine bind_congr fun name => ?_
  rw [← withDocument_bind fun edited => settle_ignoresCache ⟨echoed, n, edited⟩ m]
  simp only [bind_assoc]
  rfl

theorem editNote_parts (title : String) (notebook : Option String) (m : EditMode) :
    editNote title notebook m = (do
      let fetched ← noteToEdit title notebook m
      let echoed ← Document.roundTrip fetched m
      let n ← withNotebook fetched
      let edited ← editDocument n m
      settle ⟨echoed, n, edited⟩ m) := by
  rw [editNote_eq, session]
  simp only [bind_assoc, pure_bind]

/-- What comes of a session whose note was found and given its notebook is what comes of its
document, settled. -/
theorem perform_editNote {title : String} {notebook : Option String} {m : EditMode}
    {fetched echoed n : Note} {d d₁ d₂ : Desk}
    (found : (noteToEdit title notebook m).perform d = (.ok fetched, d₁))
    (echo : Document.roundTrip fetched m = .ok echoed)
    (resolved : (withNotebook fetched).perform d₁ = (.ok n, d₂)) :
    (editNote title notebook m).perform d =
      (editDocument n m >>= fun edited => settle ⟨echoed, n, edited⟩ m).perform d₂ := by
  have echo : (liftM (Document.roundTrip fetched m) : Work Note).perform d₁ = (.ok echoed, d₁) := by
    rw [perform_liftM, echo]
  rw [editNote_parts, perform_bind_of_ok found, perform_bind_of_ok echo]
  rw [perform_bind_of_ok resolved]

theorem editNew_eq (n : Note) (m : EditMode) :
    editNew n m = editDocument n m >>= fun edited => do
      let created ← saveNew edited m.raw
      return { messages := [.created created.title], affected := [created] } := by
  simp only [editNew, editDocument, bind_assoc]
  refine bind_congr fun name => ?_
  rw [← withDocument_bind fun edited =>
    .bind (IgnoresCache.saveNew edited m.raw) fun _ => .pure _]
  simp only [bind_assoc]

end

/-! ## The first half saves nothing -/

theorem changeCache_drafted (change : Cache → Except IoError (α × Cache)) :
    Leads Drafted (changeCache change) :=
  .changeCache fun _ _ => ⟨_, _, _, _, rfl⟩

theorem edit_drafted (name : String) : Leads Drafted (edit name) :=
  fun _ => ⟨_, _, _, _, rfl⟩

theorem takeInput_drafted : Leads Drafted takeInput := by
  intro d
  rw [takeInput, perform_mk]
  split
  · exact .refl d
  · exact ⟨_, _, _, _, rfl⟩

theorem prepared_drafted (n : Note) (m : EditMode) : Leads Drafted (prepared n m) := by
  unfold prepared
  split
  · exact .map _ takeInput_drafted
  · exact .pure n

theorem documentName_drafted (n : Note) (m : EditMode) : Leads Drafted (documentName n m) := by
  intro d
  rw [documentName, perform_mk]
  split
  · exact ⟨_, _, _, _, rfl⟩
  · exact .refl d

theorem readBack_drafted (n : Note) (m : EditMode) (name : String) :
    Leads Drafted (readBack n m name) :=
  .bind (changeCache_drafted _) fun _ => .bind (.liftM _) fun _ => .pure _

theorem editIn_drafted (n : Note) (m : EditMode) (document : Cache.Document) :
    Leads Drafted (editIn n m document) := by
  rw [editIn_eq]
  refine .bind (prepared_drafted n m) fun n => ?_
  refine .bind (changeCache_drafted _) fun written => ?_
  split
  · exact readBack_drafted n m _
  · exact .bind (edit_drafted _) fun _ => readBack_drafted n m _

section

variable {R : Desk → Desk → Prop} [IsPreorder Desk R]

theorem Leads.withDocument (drafted : ∀ {d d'}, Drafted d d' → R d d') (name : String)
    {use : Cache.Document → Work α} (hu : ∀ document, Leads R (use document)) :
    Leads R (withDocument name use) := by
  intro d
  cases hcreate : d.cache.create name with
  | error cause =>
    rw [perform_withDocument_of_error hcreate]
    exact refl_of R d
  | ok created =>
    obtain ⟨document, cache⟩ := created
    rw [perform_withDocument_of_ok hcreate]
    have opened : R d { d with cache } := drafted ⟨_, _, _, _, rfl⟩
    refine trans_of R (trans_of R opened (hu document _)) ?_
    exact drafted ⟨_, _, _, _, rfl⟩

variable [Disk] [Connection] (drafted : ∀ {d d'}, Drafted d d' → R d d') (steps : Lookups R)
include drafted steps

theorem editDocument_leads (n : Note) (m : EditMode) : Leads R (editDocument n m) := by
  refine .bind ((documentName_drafted n m).mono drafted) fun name => .withDocument drafted name ?_
  intro document
  refine .bind ((editIn_drafted n m document).mono drafted) fun edited => ?_
  exact steps.refreshNotebook edited _

/-- Getting a note edited only looks things up, and works on a document. -/
theorem session_leads (title : String) (notebook : Option String) (m : EditMode) :
    Leads R (session title notebook m) := by
  refine .bind (steps.noteToEdit title notebook m) fun fetched => ?_
  refine .bind (.liftM _) fun echoed => ?_
  refine .bind (steps.withNotebook fetched) fun n => ?_
  exact .map _ (editDocument_leads drafted steps n m)

end

section

variable [Disk] [Connection]

theorem editDocument_unsaved (n : Note) (m : EditMode) : Leads Unsaved (editDocument n m) :=
  editDocument_leads Drafted.unsaved (.ofConsults Unsaved.ofConsults) n m

/-- **Getting a note edited saves nothing**, however it ends. -/
theorem session_unsaved (title : String) (notebook : Option String) (m : EditMode) :
    Leads Unsaved (session title notebook m) :=
  session_leads Drafted.unsaved (.ofConsults Unsaved.ofConsults) title notebook m

end

/-! ## The second half only saves -/

theorem changeService_saved (change : Service → Except RemoteError α × Service) :
    Leads Saved (changeService change) :=
  fun _ => ⟨rfl, rfl, rfl, rfl, rfl, rfl, rfl⟩

section

variable [Disk]

theorem saveChanges_saved (n : Note) (m : EditMode) : Leads Saved (saveChanges n m) := by
  have wire : Leads Saved (wireContent n m.raw) :=
    .wireContent fun _ _ => ⟨rfl, rfl, rfl, rfl, rfl, rfl, rfl⟩
  have kept (cause : Failure) : Leads Saved (keepForRecovery n cause) :=
    .keepForRecovery (fun _ _ _ => ⟨rfl, rfl, rfl, rfl, rfl, rfl, rfl⟩)
      fun _ => ⟨rfl, rfl, rfl, rfl, rfl, rfl, rfl⟩
  exact .bind wire fun _ => .tryCatch (changeService_saved _) kept

/-- **Settling a session only saves.** -/
theorem settle_saved (s : Session) (m : EditMode) : Leads Saved (settle s m) := by
  unfold settle
  split
  · exact .pure _
  · exact .map _ (saveChanges_saved s.edited m)

theorem settle_handed (s : Session) (m : EditMode) : Leads (Same Desk.handed) (settle s m) :=
  (settle_saved s m).mono Saved.handed

/-- A session hands the editor what the document of its note does. -/
theorem handed_editNote_eq [Connection] {title : String} {notebook : Option String} {m : EditMode}
    {fetched echoed n : Note} {d d₁ d₂ : Desk}
    (found : (noteToEdit title notebook m).perform d = (.ok fetched, d₁))
    (echo : Document.roundTrip fetched m = .ok echoed)
    (resolved : (withNotebook fetched).perform d₁ = (.ok n, d₂)) :
    ((editNote title notebook m).perform d).2.handed =
      ((editDocument n m).perform d₂).2.handed := by
  rw [perform_editNote found echo resolved]
  exact part_bind (fun edited => settle_handed ⟨echoed, n, edited⟩ m) (editDocument n m) d₂

end

end Work
end NoteDesk
