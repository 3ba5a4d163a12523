import NoteDesk.Proofs.Atomic
import NoteDesk.Proofs.Edits
import NoteDesk.Proofs.Events
import NoteDesk.Proofs.Holding

/-!
# Work that does not tell stores apart

Where the local store is kept makes no difference to work, as long as nothing stands in its way and
all times are of 64 bits, which a file has room for.

* `Work.Agrees` is work that comes out the same, and leaves the same, over stores that hold the
  same. It also says what is known of the result, since only notes whose times fit may be written.
* `Work.IgnoresStore` is work that has nothing to do with the store at all.
* `Request.work_agrees`: all requests agree.
-/

namespace NoteDesk

/-- All times of the records are of 64 bits. -/
def Service.TimesFit (s : Service) : Prop :=
  ∀ r ∈ s.records, r.note.TimesFit

namespace Work

open Desk

variable {α β : Type} {P : α → Prop} {Q : β → Prop}

/-- With another store that holds the same, the same comes of the work, with a given property, and
the desks afterwards are the same apart from their stores, which hold the same again. -/
def Agrees (P : α → Prop) (w : Work α) : Prop :=
  ∀ (d : Desk) (st : LocalStore), d.service.TimesFit → d.store.Alike st →
    ∃ st', w.perform { d with store := st } =
        ((w.perform d).1, { (w.perform d).2 with store := st' }) ∧
      (w.perform d).2.store.Alike st' ∧ ∀ a, (w.perform d).1 = .ok a → P a

/-! ## Work that the store does not matter to -/

/-- The work neither looks at the local store nor changes it. -/
def IgnoresStore (w : Work α) : Prop :=
  ∀ d store, w.perform { d with store } = ((w.perform d).1, { (w.perform d).2 with store })

namespace IgnoresStore

theorem pure (a : α) : IgnoresStore (pure a : Work α) := fun _ _ => rfl

theorem liftM (x : Except Failure α) : IgnoresStore (liftM x : Work α) :=
  fun d store => Commutes.liftM (f := fun d => { d with store }) x d

theorem bind {w : Work α} {f : α → Work β} (hw : IgnoresStore w) (hf : ∀ a, IgnoresStore (f a)) :
    IgnoresStore (w >>= f) :=
  fun d store => Commutes.bind (fun d => hw d store) (fun a d => hf a d store) d

theorem map {w : Work α} (f : α → β) (hw : IgnoresStore w) : IgnoresStore (f <$> w) :=
  fun d store => Commutes.map f (fun d => hw d store) d

theorem changeService (change : Service → Except RemoteError α × Service) :
    IgnoresStore (changeService change) := fun _ _ => rfl

theorem changeCache (change : Cache → Except IoError (α × Cache)) :
    IgnoresStore (changeCache change) := by
  intro d store
  rw [Work.changeCache, perform_mk, perform_mk]
  cases change d.cache with
  | ok changed => rfl
  | error flaw => rfl

theorem takeInput : IgnoresStore takeInput := by
  intro d store
  rw [Work.takeInput, perform_mk, perform_mk]
  cases Utf8.toString? d.input with
  | some text => rfl
  | none => rfl

theorem documentName (n : Note) (m : EditMode) : IgnoresStore (documentName n m) := by
  intro d store
  rw [Work.documentName, perform_mk, perform_mk]
  split
  · rfl
  · rfl

theorem readBack (n : Note) (m : EditMode) (name : String) : IgnoresStore (readBack n m name) :=
  .bind (.changeCache _) fun _ => .bind (.liftM _) fun _ => .pure _

theorem editIn (n : Note) (m : EditMode) (document : Cache.Document) :
    IgnoresStore (editIn n m document) := by
  have prepared : IgnoresStore (prepared n m) := by
    unfold Work.prepared
    split
    · exact .map _ takeInput
    · exact .pure n
  rw [editIn_eq]
  refine .bind prepared fun n => .bind (.changeCache _) fun document => ?_
  split
  · exact .readBack n m _
  · exact .bind (fun _ _ => rfl) fun _ => .readBack n m _

theorem wireContent (n : Note) (raw : Bool) : IgnoresStore (wireContent n raw) :=
  fun d store =>
    Commutes.wireContent (f := fun d => { d with store }) (fun _ _ => rfl) n raw d

theorem saveNew (n : Note) (raw : Bool) : IgnoresStore (saveNew n raw) :=
  fun d store =>
    Commutes.saveNew (f := fun d => { d with store }) (fun _ _ => rfl)
      (fun change d => changeService change d store) n raw d

theorem agrees {w : Work α} (h : IgnoresStore w) : Agrees (fun _ => True) w := by
  intro d st _ alike
  have kept : (w.perform d).2.store = d.store :=
    congrArg (fun r : Except Failure α × Desk => r.2.store) (h d d.store)
  refine ⟨st, h d st, ?_, fun _ _ => trivial⟩
  rwa [kept]

end IgnoresStore

/-! ## Work in parts -/

namespace Agrees

theorem gives {P' : α → Prop} {w : Work α} (hw : Agrees P w) (h : Gives P' w) : Agrees P' w := by
  intro d st fits alike
  obtain ⟨st', same, alike', -⟩ := hw d st fits alike
  exact ⟨st', same, alike', fun a ha => h d _ a (perform_of_result ha)⟩

theorem pure {a : α} (h : P a) : Agrees P (pure a : Work α) := by
  intro d st _ alike
  refine ⟨st, rfl, alike, ?_⟩
  rintro _ ⟨⟩
  exact h

theorem throw (cause : Failure) : Agrees P (throw cause : Work α) :=
  fun _ st _ alike => ⟨st, rfl, alike, fun _ => nofun⟩

/-- Work in two parts, the first of which leaves the records as they were. -/
theorem bind {w : Work α} {f : α → Work β} (hw : Agrees P w)
    (still : Leads (Same Desk.records) w) (hf : ∀ a, P a → Agrees Q (f a)) :
    Agrees Q (w >>= f) := by
  intro d st fits alike
  obtain ⟨st₁, same, alike₁, hP⟩ := hw d st fits alike
  have records : (w.perform d).2.service.records = d.service.records := still d
  have fits₁ : (w.perform d).2.service.TimesFit := by
    intro r hr
    rw [records] at hr
    exact fits r hr
  rw [perform_bind, perform_bind, same]
  rcases h : w.perform d with ⟨r, d₁⟩
  rw [h] at alike₁ fits₁ hP
  cases r with
  | ok a => exact hf a (hP a rfl) d₁ st₁ fits₁ alike₁
  | error cause => exact ⟨st₁, rfl, alike₁, fun _ => nofun⟩

theorem bind_of_looksUp {w : Work α} {f : α → Work β} (hw : Agrees P w)
    (looksUp : Leads LooksUp w) (hf : ∀ a, P a → Agrees Q (f a)) : Agrees Q (w >>= f) :=
  hw.bind (looksUp.mono records_of_looksUp) hf

theorem map {w : Work α} {f : α → β} (hw : Agrees P w) (h : ∀ a, P a → Q (f a)) :
    Agrees Q (f <$> w) := by
  intro d st fits alike
  obtain ⟨st', same, alike', hP⟩ := hw d st fits alike
  rw [perform_map, perform_map, same]
  refine ⟨st', rfl, alike', ?_⟩
  intro b hb
  dsimp only at hb
  cases ha : (w.perform d).1 with
  | error cause =>
    rw [ha] at hb
    cases hb
  | ok a =>
    rw [ha] at hb
    obtain rfl := Except.ok.inj hb
    exact h a (hP a ha)

theorem get {f : Desk → Work β} (same : ∀ d store, f { d with store } = f d)
    (hf : ∀ d, Agrees Q (f d)) : Agrees Q (get >>= f) := by
  intro d st fits alike
  have whole (d : Desk) : (MonadState.get >>= f : Work β).perform d = (f d).perform d := rfl
  rw [whole, whole, same]
  exact hf d d st fits alike

/-! ## The store -/

theorem askStore {question : LocalStore → Except Failure α}
    (reads : ∀ {st st' : LocalStore}, st.Alike st' →
      ∃ a, P a ∧ question st = .ok a ∧ question st' = .ok a) :
    Agrees P (askStore question) := by
  intro d st _ alike
  obtain ⟨a, ha, read, read'⟩ := reads alike
  have asked : (Work.askStore question).perform d = (.ok a, d) := by
    rw [Work.askStore, perform_mk, read]
  have asked' : (Work.askStore question).perform { d with store := st } =
      (.ok a, { d with store := st }) := by
    rw [Work.askStore, perform_mk, read']
  rw [asked, asked']
  refine ⟨st, rfl, alike, ?_⟩
  rintro _ ⟨⟩
  exact ha

theorem changeStore {change : LocalStore → Except Failure LocalStore}
    {spoil : LocalStore → LocalStore}
    (changed : ∀ {st st' : LocalStore}, st.Alike st' →
      ∃ st₁ st₁', change st = .ok st₁ ∧ change st' = .ok st₁' ∧ st₁.Alike st₁') :
    Agrees (fun _ => True) (changeStore change spoil) := by
  intro d st _ alike
  obtain ⟨st₁, st₁', done, done', alike₁⟩ := changed alike
  have left : (Work.changeStore change spoil).perform d = (.ok (), { d with store := st₁ }) := by
    rw [Work.changeStore, perform_mk, done]
  have left' : (Work.changeStore change spoil).perform { d with store := st } =
      (.ok (), { d with store := st₁' }) := by
    rw [Work.changeStore, perform_mk, done']
  rw [left, left']
  exact ⟨st₁', rfl, alike₁, fun _ _ => trivial⟩

/-! ## Documents -/

theorem withDocument (name : String) {use : Cache.Document → Work α}
    (hu : ∀ document, Agrees P (use document)) : Agrees P (withDocument name use) := by
  intro d st fits alike
  cases hcreate : d.cache.create name with
  | error cause =>
    rw [perform_withDocument_of_error hcreate,
      perform_withDocument_of_error (d := { d with store := st }) hcreate]
    exact ⟨st, rfl, alike, fun _ => nofun⟩
  | ok created =>
    obtain ⟨document, cache⟩ := created
    obtain ⟨st', same, alike', hP⟩ := hu document { d with cache } st fits alike
    have whole (d : Desk) (h : d.cache.create name = .ok (document, cache)) :=
      perform_withDocument_of_ok h use
    rw [whole d hcreate, whole { d with store := st } hcreate, same]
    exact ⟨st', rfl, alike', hP⟩

end Agrees

/-! ## Lookups -/

theorem search_agrees (q : Service.Query) (count : Nat) :
    Agrees (fun found => ∀ n ∈ found, n.TimesFit) (search q count) := by
  intro d st fits alike
  refine ⟨st, rfl, alike, ?_⟩
  rintro _ ⟨⟩ n hn
  obtain ⟨r, hr, rfl⟩ := Service.mem_find hn
  exact fits r hr

theorem knownToStore_agrees : Agrees (fun _ => True) (askStore LocalStore.notebooks) := by
  apply Agrees.askStore
  intro st st' alike
  obtain ⟨notebooks, read, read'⟩ := alike.notebooks
  exact ⟨notebooks, trivial, read, read'⟩

theorem seenNotebooks_agrees : Agrees (fun _ => True) seenNotebooks := by
  intro d st _ alike
  obtain ⟨st₁, st₁', saved, saved', alike₁⟩ := alike.saveNotebooks d.service.notebooks
  rw [perform_seenNotebooks, perform_seenNotebooks]
  dsimp only
  rw [saved, saved']
  exact ⟨st₁', rfl, alike₁, fun _ _ => trivial⟩

theorem findNotebook_agrees (name : String) : Agrees (fun _ => True) (findNotebook name) := by
  rw [findNotebook_eq]
  refine .bind knownToStore_agrees (.askStore _) fun known _ => ?_
  cases named name known with
  | some nb => exact .pure trivial
  | none =>
    refine .bind_of_looksUp seenNotebooks_agrees seenNotebooks_looksUp ?_
    intro notebooks _
    cases named name notebooks with
    | some nb => exact .pure trivial
    | none => exact .throw _

theorem resolve_agrees (r : NotebookRef) : Agrees (fun _ => True) (resolve r) := by
  unfold resolve
  cases r.guid? with
  | some guid => exact .map (IgnoresStore.agrees fun _ _ => rfl) fun _ _ => trivial
  | none => exact .map (findNotebook_agrees _) fun _ _ => trivial

theorem notebookGuid?_agrees (notebook : Option String) :
    Agrees (fun _ => True) (notebookGuid? notebook) := by
  unfold notebookGuid?
  cases nonEmpty notebook with
  | none => exact .pure trivial
  | some name => exact .map (findNotebook_agrees name) fun _ _ => trivial

theorem withNotebook_agrees {n : Note} (fits : n.TimesFit) :
    Agrees Note.TimesFit (withNotebook n) := by
  unfold withNotebook
  cases n.notebook with
  | none => exact .pure fits
  | some r => exact .map (resolve_agrees r) fun _ _ => ⟨fits.created, fits.updated⟩

theorem refreshNotebook_agrees (n : Note) (before : String) :
    Agrees (fun _ => True) (refreshNotebook n before) := by
  unfold refreshNotebook
  split
  · exact .pure trivial
  · exact .map (findNotebook_agrees _) fun _ _ => trivial

theorem numberedNote?_agrees (title : String) :
    Agrees (fun numbered => ∀ n ∈ numbered, n.TimesFit) (numberedNote? title) := by
  unfold numberedNote?
  split
  · exact .pure (by simp)
  · exact .pure (by simp)
  · refine .map (.askStore LocalStore.Alike.search) ?_
    intro notes fits n hn
    exact fits n (List.mem_of_getElem? hn)

theorem titledNote_agrees (title : String) (notebook : Option String) :
    Agrees Note.TimesFit (titledNote title notebook) := by
  refine .bind_of_looksUp (notebookGuid?_agrees notebook) (notebookGuid?_looksUp notebook) ?_
  intro guid _
  refine .get (fun _ _ => rfl) fun d => ?_
  refine .bind_of_looksUp (search_agrees _ _) (search_looksUp _ _) ?_
  intro found fits
  split
  next n hn => exact .pure (fits n (List.mem_of_find?_eq_some hn))
  next => exact .throw _

theorem findNote_agrees (title : String) (notebook : Option String) :
    Agrees Note.TimesFit (findNote title notebook) := by
  refine .bind_of_looksUp (numberedNote?_agrees title) (Lookups.numberedNote? title) ?_
  intro numbered fits
  cases numbered with
  | some n => exact .pure (fits n rfl)
  | none => exact titledNote_agrees title notebook

theorem openNote_agrees (title : String) (notebook : Option String) :
    Agrees Note.TimesFit (openNote title notebook) := by
  refine .bind_of_looksUp (findNote_agrees title notebook) (findNote_looksUp title notebook) ?_
  intro n fits
  have content : IgnoresStore (askService (·.content n.guid)) := fun _ _ => rfl
  refine .bind content.agrees (.askService _) fun content _ => ?_
  have converted : IgnoresStore (toMarkdown (Envelope.unwrap content)) := fun _ _ => rfl
  exact .map converted.agrees fun _ _ => ⟨fits.created, fits.updated⟩

theorem recoveryNote_agrees : Agrees Note.TimesFit recoveryNote := by
  refine .bind (.askStore LocalStore.Alike.recovery) (.askStore _) ?_
  intro kept fits
  cases kept with
  | none => exact .throw _
  | some n =>
    dsimp only
    split
    · exact .throw _
    · exact .pure (fits n rfl)

theorem noteToEdit_agrees (title : String) (notebook : Option String) (m : EditMode) :
    Agrees Note.TimesFit (noteToEdit title notebook m) := by
  unfold noteToEdit
  split
  · exact recoveryNote_agrees
  · exact openNote_agrees title notebook

/-! ## Edit sessions -/

theorem editDocument_agrees (n : Note) (m : EditMode) :
    Agrees n.EditedTo (editDocument n m) := by
  refine .gives (P := fun _ => True) ?_ (editDocument_editedTo n m)
  refine .bind (IgnoresStore.documentName n m).agrees
    ((documentName_drafted n m).mono fun h => records_of_unsaved h.unsaved) fun name _ => ?_
  refine .withDocument name fun document => ?_
  refine .bind (IgnoresStore.editIn n m document).agrees
    ((editIn_drafted n m document).mono fun h => records_of_unsaved h.unsaved) fun edited _ => ?_
  exact refreshNotebook_agrees edited _

theorem session_agrees (title : String) (notebook : Option String) (m : EditMode) :
    Agrees (fun s => s.edited.TimesFit) (session title notebook m) := by
  refine .bind_of_looksUp (noteToEdit_agrees title notebook m)
    (noteToEdit_looksUp title notebook m) ?_
  intro fetched fits
  refine .bind (IgnoresStore.liftM _).agrees (.liftM _) fun echoed _ => ?_
  refine .bind_of_looksUp (withNotebook_agrees fits) (withNotebook_looksUp fetched) ?_
  intro opened fits
  exact .map (editDocument_agrees opened m) fun edited h => h.timesFit fits

/-- An edit that the service does not take becomes the recovery point of either store. -/
theorem updateOrKeep_agrees {n : Note} (fits : n.TimesFit) (sent : Note) :
    Agrees (fun _ => True) (tryCatch (changeService (·.update sent)) (keepForRecovery n)) := by
  intro d st _ alike
  rcases hupdate : d.service.update sent with ⟨r, service⟩
  have asked : (changeService (·.update sent)).perform d =
      (r.mapError .remote, { d with service }) := perform_changeService hupdate
  have asked' : (changeService (·.update sent)).perform { d with store := st } =
      (r.mapError .remote, { d with store := st, service }) := perform_changeService hupdate
  rw [perform_tryCatch, perform_tryCatch, asked, asked']
  cases r with
  | ok _ => exact ⟨st, rfl, alike, fun _ _ => trivial⟩
  | error cause =>
    obtain ⟨st₁, st₁', kept, kept', alike₁⟩ := alike.saveRecovery fits
    have left : (keepForRecovery n (.remote cause)).perform { d with service } =
        (.error (.remote cause), { d with service, store := st₁ }) :=
      perform_keepForRecovery_of_ok (d := { d with service }) kept _
    have left' : (keepForRecovery n (.remote cause)).perform { d with store := st, service } =
        (.error (.remote cause), { d with service, store := st₁' }) :=
      perform_keepForRecovery_of_ok (d := { d with store := st, service }) kept' _
    simp only [Except.mapError, left, left']
    exact ⟨st₁', rfl, alike₁, fun _ => nofun⟩

theorem saveChanges_agrees {n : Note} (fits : n.TimesFit) (m : EditMode) :
    Agrees (fun _ => True) (saveChanges n m) := by
  refine .bind (IgnoresStore.wireContent n m.raw).agrees (.wireContent fun _ _ => rfl) ?_
  intro body _
  exact updateOrKeep_agrees fits _

theorem settle_agrees {s : Session} (fits : s.edited.TimesFit) (m : EditMode) :
    Agrees (fun _ => True) (settle s m) := by
  unfold settle
  split
  · exact .pure trivial
  · exact .map (saveChanges_agrees fits m) fun _ _ => trivial

theorem editNote_agrees (title : String) (notebook : Option String) (m : EditMode) :
    Agrees (fun _ => True) (editNote title notebook m) := by
  rw [editNote_eq]
  refine .bind (session_agrees title notebook m)
    ((session_unsaved title notebook m).mono records_of_unsaved) fun s fits => ?_
  exact settle_agrees fits m

/-! ## Other commands -/

theorem newNote_agrees (title notebook : Option String) :
    Agrees (fun _ => True) (newNote title notebook) := by
  unfold newNote
  split
  · exact .pure trivial
  · exact .map (findNotebook_agrees _) fun _ _ => trivial

theorem createNote_agrees (title notebook : Option String) (edited : Bool) (m : EditMode) :
    Agrees (fun _ => True) (createNote title notebook edited m) := by
  rw [createNote_eq]
  refine .bind_of_looksUp (newNote_agrees title notebook) (newNote_looksUp title notebook) ?_
  intro n _
  split
  · rw [editNew_eq]
    refine .bind (editDocument_agrees n m)
      ((editDocument_unsaved n m).mono records_of_unsaved) fun edited _ => ?_
    exact .map (IgnoresStore.saveNew edited m.raw).agrees fun _ _ => trivial
  · exact .map (IgnoresStore.saveNew n m.raw).agrees fun _ _ => trivial

theorem listing_agrees (q : Service.Query) (count : Nat) :
    Agrees (fun _ => True) (listing q count) := by
  refine .bind_of_looksUp (search_agrees q count) (search_looksUp q count) ?_
  intro listed fits
  exact .map (.changeStore fun alike => alike.saveSearch fits) fun _ _ => trivial

theorem listing_records (q : Service.Query) (count : Nat) :
    Leads (Same Desk.records) (listing q count) := by
  refine .bind ((search_looksUp q count).mono records_of_looksUp) fun listed => ?_
  exact .map _ (.changeStore (fun _ _ _ => rfl) fun _ => rfl)

theorem knownNotebooks_agrees : Agrees (fun _ => True) knownNotebooks := by
  rw [knownNotebooks_eq]
  refine .bind knownToStore_agrees (.askStore _) fun known _ => ?_
  split
  · exact seenNotebooks_agrees
  · exact .pure trivial

theorem listNotes_agrees (words notebook : Option String) (count : Option Nat) :
    Agrees (fun _ => True) (listNotes words notebook count) := by
  rw [listNotes_eq]
  refine .bind_of_looksUp (notebookGuid?_agrees notebook) (notebookGuid?_looksUp notebook) ?_
  intro guid _
  refine .get (fun _ _ => rfl) fun d => ?_
  refine .bind (listing_agrees _ _) (listing_records _ _) fun listed _ => ?_
  exact .map knownNotebooks_agrees fun _ _ => trivial

theorem saveMetadata_agrees (n : Note) : Agrees (fun _ => True) (saveMetadata n) :=
  (IgnoresStore.changeService _).agrees

theorem renameNote_agrees (old new : String) :
    Agrees (fun _ => True) (renameNote old new) := by
  refine .bind_of_looksUp (findNote_agrees old none) (findNote_looksUp old none) fun n _ => ?_
  exact .map (saveMetadata_agrees _) fun _ _ => trivial

theorem moveNote_agrees (title notebook : String) :
    Agrees (fun _ => True) (moveNote title notebook) := by
  refine .bind_of_looksUp (findNote_agrees title none) (findNote_looksUp title none) fun n _ => ?_
  refine .bind_of_looksUp (findNotebook_agrees notebook) (findNotebook_looksUp notebook) ?_
  intro nb _
  split
  · exact .pure trivial
  · exact .map (saveMetadata_agrees _) fun _ _ => trivial

theorem deleteNote_agrees (title : String) (notebook : Option String) :
    Agrees (fun _ => True) (deleteNote title notebook) := by
  refine .bind_of_looksUp (findNote_agrees title notebook) (findNote_looksUp title notebook) ?_
  intro n _
  exact .map (IgnoresStore.changeService _).agrees fun _ _ => trivial

end Work

open Work in
/-- **No request tells stores apart** that hold the same. -/
theorem Request.work_agrees (r : Request) : Agrees (fun _ => True) r.work := by
  cases r with
  | edit title notebook m => exact .map (editNote_agrees title notebook m) fun _ _ => trivial
  | editRecovery m =>
    exact .map (editNote_agrees "" none { m with recovery := true }) fun _ _ => trivial
  | create title notebook edited m =>
    exact .map (createNote_agrees title notebook edited m) fun _ _ => trivial
  | list words notebook count =>
    exact .map (listNotes_agrees words notebook count) fun _ _ => trivial
  | rename old new => exact .map (renameNote_agrees old new) fun _ _ => trivial
  | move title notebook => exact .map (moveNote_agrees title notebook) fun _ _ => trivial
  | delete title notebook => exact .map (deleteNote_agrees title notebook) fun _ _ => trivial
  | get title notebook => exact .map (findNote_agrees title notebook) fun _ _ => trivial
  | getContent title notebook => exact .map (openNote_agrees title notebook) fun _ _ => trivial

end NoteDesk
