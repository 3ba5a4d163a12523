import NoteDesk.Proofs.Bound
import NoteDesk.Proofs.Grammar
import NoteDesk.Proofs.Holding
import NoteDesk.Proofs.Parts

/-!
# What sessions leave behind

However a session ends, its document is gone from the cache, and all else is there as it was.

* `Desk.documentName` is the name of a session's document, and `Cache.Without` the cache without it.
* `Work.editIn_onlyDocument`: nothing but the document changes while it is worked with.
  `Work.editDocument_without`: then it is discarded.
* `Request.work_beside`: requests write no other files than those of the local store.
* `Request.session_discards` is the main result.
-/

namespace NoteDesk

/-- The name of the next document, were it that of a note. -/
def Desk.documentName (d : Desk) (n : Note) (m : EditMode) : String :=
  if n.isNew then Work.draftName ++ Guid.ofNumber (d.drafts + 1) ++ m.extension
  else n.guid ++ m.extension

/-- The editor leaves no folder in the place of a document. -/
def Editor.LeavesNoFolder (e : Editor) : Prop :=
  ∀ content, (e content).document ≠ some .folder

/-! ## Documents that come and go -/

namespace Cache

variable {c c' c'' : Cache} {name : String}

/-- One entry is gone, and all others are as they were. -/
def Without (name : String) (c c' : Cache) : Prop :=
  ∀ other, c'.find? other = if other = name then none else c.find? other

/-- One entry may be another, though no folder, and all others are as they were. -/
structure OnlyDocument (name : String) (c c' : Cache) : Prop where
  others : ∀ other, other ≠ name → c'.find? other = c.find? other
  noFolder : c'.find? name ≠ some .folder

theorem OnlyDocument.trans (h : OnlyDocument name c c') (h' : OnlyDocument name c' c'') :
    OnlyDocument name c c'' where
  others other apart := (h'.others other apart).trans (h.others other apart)
  noFolder := h'.noFolder

theorem OnlyDocument.replace {old : Bytes} (h : c.find? name = some (.file old))
    {x : Option (Directory.Entry Bytes)} (hx : x ≠ some .folder) :
    OnlyDocument name c (c.replace name x) where
  others other apart := by rw [find?_replace h, if_neg apart]
  noFolder := by rwa [find?_replace h, if_pos rfl]

/-- A document that was created, worked with and discarded is gone. -/
theorem OnlyDocument.discard (h : OnlyDocument name c c') : Without name c (c'.discard name) := by
  intro other
  rw [find?_discard h.noFolder]
  split_ifs with here
  · rfl
  · exact h.others other here

theorem create_onlyDocument {document : Document} (h : c.create name = .ok (document, c')) :
    OnlyDocument name c c' := by
  obtain ⟨-, -, view⟩ := find?_create h
  exact ⟨fun other apart => by rw [view, if_neg apart], by simp [view]⟩

/-- A separator makes a name lead out of the cache. -/
theorem create_of_separator (h : '/' ∈ name.toList ∨ '\\' ∈ name.toList) :
    c.create name = .error (.store (.invalidName (String.ofList (Text.quoted name.toList)))) := by
  have separated : isName name.toList = false := by
    rcases h with h | h <;> simp [isName, h]
  rw [create, if_neg (by simp [separated])]

end Cache

namespace Work

open Desk

variable {d : Desk} {n : Note} {m : EditMode}

theorem perform_documentName_eq (n : Note) (m : EditMode) (d : Desk) :
    ∃ drafts, (documentName n m).perform d = (.ok (d.documentName n m), { d with drafts }) := by
  rw [documentName, perform_mk, Desk.documentName]
  split
  · exact ⟨_, rfl⟩
  · exact ⟨d.drafts, rfl⟩

/-! ## Work with a document -/

theorem prepared_cache (n : Note) (m : EditMode) : Leads (Same Desk.cache) (prepared n m) := by
  have taken : Leads (Same Desk.cache) takeInput := by
    intro d
    rw [takeInput, perform_mk]
    split <;> rfl
  unfold prepared
  split
  · exact .map _ taken
  · exact .pure n

theorem reread_cache (document : Cache.Document) : Leads (Same Desk.cache) (reread document) := by
  intro d
  rw [reread, changeCache, perform_mk]
  cases document.reopen d.cache with
  | error flaw => rfl
  | ok opened =>
    cases hread : opened.read d.cache with
    | error flaw => simp only [hread, bind, Except.bind, Same]
    | ok result => simp only [hread, bind, Except.bind, pure, Except.pure, Same]

theorem readBack_cache (n : Note) (m : EditMode) (name : String) :
    Leads (Same Desk.cache) (readBack n m name) :=
  .bind (reread_cache _) fun _ => .bind (.liftM _) fun _ => .pure _

/-- Nothing but the document changes while it is worked with. -/
theorem editIn_onlyDocument (tidy : d.editor.LeavesNoFolder) {document : Cache.Document}
    (start : document.AtStart d.cache) :
    Cache.OnlyDocument document.name d.cache ((editIn n m document).perform d).2.cache := by
  rw [editIn_eq]
  rcases hprepared : (prepared n m).perform d with ⟨r, d₁⟩
  have cache : d₁.cache = d.cache := (prepared_cache n m).of_eq hprepared
  have editor : d₁.editor = d.editor := ((prepared_drafted n m).of_eq hprepared).aside.editor
  rw [← cache] at start ⊢
  cases r with
  | error cause =>
    rw [perform_bind_of_error hprepared]
    exact ⟨fun _ _ => rfl, by simp [start.find?_eq]⟩
  | ok p =>
    obtain ⟨document', hname, wrote⟩ := perform_write start (written p m)
    have filled : Cache.OnlyDocument document.name d₁.cache
        (d₁.replaced document.name (written p m)).cache :=
      .replace (x := some (.file (written p m))) start.find?_eq (by simp)
    rw [perform_bind_of_ok hprepared, perform_bind_of_ok wrote, hname]
    split
    · rw [readBack_cache p m document.name]
      exact filled
    · rw [part_bind (fun _ => readBack_cache p m document.name), perform_edit_replaced start]
      refine filled.trans (.replace (find?_replaced start _) ?_)
      change (d₁.editor (written p m)).document ≠ some .folder
      rw [editor]
      exact tidy _

/-- **A document is created and discarded**, whatever comes of it in between. -/
theorem editDocument_without (tidy : d.editor.LeavesNoFolder) {document : Cache.Document}
    {cache : Cache} (h : d.cache.create (d.documentName n m) = .ok (document, cache)) :
    d.cache.Without (d.documentName n m) ((editDocument n m).perform d).2.cache := by
  obtain ⟨drafts, named⟩ := perform_documentName_eq n m d
  obtain ⟨hname, start, -⟩ := Cache.find?_create h
  have refreshed (edited : Note) :
      Leads (Same Desk.cache) (refreshNotebook edited n.notebookName) :=
    (refreshNotebook_looksUp edited _).mono fun looked => looked.cache
  rw [editDocument, perform_bind_of_ok named, perform_withDocument_of_ok (d := { d with drafts }) h,
    part_bind refreshed]
  refine Cache.OnlyDocument.discard ((Cache.create_onlyDocument h).trans ?_)
  rw [← hname]
  exact editIn_onlyDocument (d := { d with drafts, cache }) tidy start

/-- Where no document can be created, none is, and that is what comes of it. -/
theorem perform_editDocument_uncreated {cause : Failure}
    (h : d.cache.create (d.documentName n m) = .error cause) :
    ∃ drafts, (editDocument n m).perform d = (.error cause, { d with drafts }) := by
  obtain ⟨drafts, named⟩ := perform_documentName_eq n m d
  refine ⟨drafts, ?_⟩
  rw [editDocument, perform_bind_of_ok named,
    perform_withDocument_of_error (d := { d with drafts }) h]

end Work

/-! ## Files beside those of the store -/

/-- What stands beside the files of the local store. -/
def Desk.beside (d : Desk) : Option (String → Option (Directory.Entry Bytes)) :=
  d.store.beside

namespace Work

theorem lookups_beside : Lookups (Same Desk.beside) where
  search _ _ _ := rfl
  toMarkdown _ _ := rfl
  seenNotebooks := by
    intro d
    rw [perform_seenNotebooks]
    split
    · rfl
    next saved => exact LocalStore.beside_saveNotebooks saved

theorem parts_beside : Parts (Same Desk.beside) :=
  .same lookups_beside (fun aside => congrArg LocalStore.beside aside.store) fun _ _ => rfl

theorem listing_beside (q : Service.Query) (count : Nat) :
    Leads (Same Desk.beside) (listing q count) := by
  refine .bind (lookups_beside.search q count) fun listed => ?_
  refine .bind (.changeStore (fun _ _ saved => LocalStore.beside_saveSearch saved) fun d => ?_)
    fun _ => .pure _
  rw [LocalStore.spoilSearch_sound]
  rfl

end Work

open Desk Work

namespace Request

variable {d : Desk} {r : Request} {m : EditMode} {opened : Note}

/-- **Requests write no other files than those of the local store.** -/
theorem work_beside (r : Request) : Leads (Same Desk.beside) r.work :=
  parts_beside.leads r
    (fun _ _ _ => .keepForRecovery (fun _ _ saved => LocalStore.beside_saveRecovery saved)
      fun _ => by rw [LocalStore.spoilRecovery_sound]; rfl)
    (fun _ => listing_beside)

/-! ## Sessions -/

/-- A session whose note was opened is work on the document of that note, and what comes after it
has nothing to do with the cache. -/
theorem Opens.perform (opens : r.Opens d m opened) (session : r.hasSession) :
    ∃ d₁ rest, LooksUp d d₁ ∧ (∀ n, IgnoresCache (rest n)) ∧
      r.work.perform d = (editDocument opened m >>= rest).perform d₁ := by
  cases opens with
  | old edits opens =>
    obtain ⟨fetched, d₁, d₂, found, resolved⟩ := opens
    obtain ⟨echoed, echo, -⟩ := Document.exists_roundTrip fetched m
    refine ⟨d₂, fun edited => .report <$> settle ⟨echoed, opened, edited⟩ m,
      ((noteToEdit_looksUp _ _ m).of_eq found).trans
        ((withNotebook_looksUp fetched).of_eq resolved),
      fun edited => .map _ (settle_ignoresCache _ m), ?_⟩
    rw [edits.work, perform_map, perform_editNote found echo resolved, ← perform_map, map_bind]
  | @new title notebook edited m _ d₁ opens =>
    refine ⟨d₁, fun edited => .report <$> (do
        let created ← saveNew edited m.raw
        return { messages := [.created created.title], affected := [created] }),
      (newNote_looksUp title notebook).of_eq opens,
      fun edited => .map _ (.bind (.saveNew edited m.raw) fun _ => .pure _), ?_⟩
    have edits : (edited || m.stdin) = true := session
    rw [work, perform_map, createNote_eq, perform_bind_of_ok opens, if_pos edits, editNew_eq,
      ← perform_map, map_bind]

theorem Edits.looksUp_of_not_opens {title : String} {notebook : Option String}
    (edits : r.Edits title notebook m) (unopened : ∀ opened, ¬r.Opens d m opened) :
    LooksUp d (r.work.perform d).2 := by
  rw [edits.work, perform_map, editNote_parts]
  rcases found : (noteToEdit title notebook m).perform d with ⟨_ | fetched, d₁⟩
  · rw [perform_bind_of_error found]
    exact (noteToEdit_looksUp title notebook m).of_eq found
  obtain ⟨echoed, echo, -⟩ := Document.exists_roundTrip fetched m
  have echo : (liftM (Document.roundTrip fetched m) : Work Note).perform d₁ = (.ok echoed, d₁) := by
    rw [perform_liftM, echo]
  rw [perform_bind_of_ok found, perform_bind_of_ok echo]
  rcases resolved : (withNotebook fetched).perform d₁ with ⟨_ | opened, d₂⟩
  · rw [perform_bind_of_error resolved]
    exact ((noteToEdit_looksUp title notebook m).of_eq found).trans
      ((withNotebook_looksUp fetched).of_eq resolved)
  · exact absurd (.old edits ⟨fetched, d₁, d₂, found, resolved⟩) (unopened opened)

/-- A session whose note cannot be opened only looks things up. -/
theorem looksUp_of_not_opens (session : r.hasSession) (unopened : ∀ m opened, ¬r.Opens d m opened) :
    LooksUp d (r.work.perform d).2 := by
  cases r with
  | edit title notebook m => exact Edits.looksUp_of_not_opens (.edit title notebook m) (unopened _)
  | editRecovery m => exact Edits.looksUp_of_not_opens (.editRecovery m) (unopened _)
  | create title notebook edited m =>
    rw [work, perform_map, createNote_eq]
    rcases opens : (newNote title notebook).perform d with ⟨_ | opened, d₁⟩
    · rw [perform_bind_of_error opens]
      exact (newNote_looksUp title notebook).of_eq opens
    · exact absurd (.new opens) (unopened m opened)
  | _ => cases session

/-- **Sessions clean up.** Whatever request has a session, whatever comes of it and whatever the
mode is, if the editor leaves no folder in the place of the document: where the note cannot be
opened, or its document cannot be created, the cache is what it was, and where the document was
created, it is gone from the cache, in which all else is as it was. A note whose identifier leads
out of the cache has no document. Beside the files of the local store nothing is written. -/
theorem session_discards (session : r.hasSession) (tidy : d.editor.LeavesNoFolder) :
    (∀ m opened, r.Opens d m opened →
      (∀ cause, d.cache.create (d.documentName opened m) = .error cause →
        (r.work.perform d).1 = .error cause ∧ (r.work.perform d).2.cache = d.cache) ∧
      (∀ created, d.cache.create (d.documentName opened m) = .ok created →
        d.cache.Without (d.documentName opened m) (r.work.perform d).2.cache) ∧
      ('/' ∈ opened.guid.toList ∨ '\\' ∈ opened.guid.toList →
        ∃ name, (r.work.perform d).1 = .error (.store (.invalidName name)) ∧
          (r.work.perform d).2.cache = d.cache)) ∧
    ((∀ m opened, ¬r.Opens d m opened) → (r.work.perform d).2.cache = d.cache) ∧
    (r.work.perform d).2.store.beside = d.store.beside := by
  refine ⟨fun m opened opens => ?_, fun unopened => (looksUp_of_not_opens session unopened).cache,
    r.work_beside d⟩
  obtain ⟨d₁, rest, looked, ignores, performed⟩ := opens.perform session
  have name : d₁.documentName opened m = d.documentName opened m := by
    rw [Desk.documentName, Desk.documentName, looked.drafts]
  have uncreated (cause : Failure) (h : d.cache.create (d.documentName opened m) = .error cause) :
      (r.work.perform d).1 = .error cause ∧ (r.work.perform d).2.cache = d.cache := by
    rw [← looked.cache, ← name] at h
    obtain ⟨drafts, failed⟩ := perform_editDocument_uncreated h
    rw [performed, perform_bind_of_error failed]
    exact ⟨rfl, looked.cache⟩
  refine ⟨uncreated, fun ⟨document, cache⟩ h => ?_, fun separated => ?_⟩
  · rw [← looked.cache, ← name] at h ⊢
    rw [performed, part_bind fun n => (ignores n).cache_eq]
    exact editDocument_without (looked.editor ▸ tidy) h
  · have named : ¬opened.isNew := by
      intro new
      rw [beq_iff_eq.1 new] at separated
      simp at separated
    have separated : '/' ∈ (d.documentName opened m).toList ∨
        '\\' ∈ (d.documentName opened m).toList := by
      rw [Desk.documentName, if_neg named, String.toList_append]
      exact separated.imp (List.mem_append_left _) (List.mem_append_left _)
    exact ⟨_, uncreated _ (Cache.create_of_separator separated)⟩

/-- A desk with a file in the cache that has the name of a note's document, and another one, whose
editor empties the document and fails. -/
def crashingDesk : Desk where
  service := { records := [⟨{ guid := "n", title := "Groceries" }, "milk"⟩] }
  store := .files (.holding [("config.json", .file [])])
  cache := (Cache.empty.replace "n.md" (some (.file [1]))).replace "m.md" (some (.file [2]))
  editor := fun _ => ⟨some (.file []), .error (.failedExit "vi")⟩

theorem session_discards_crashingDesk :
    crashingDesk.editor.LeavesNoFolder ∧
      ((Request.edit "Groceries" none {}).work.perform crashingDesk).1 =
        .error (.editor (.failedExit "vi")) ∧
      crashingDesk.cache.Without "n.md"
        ((Request.edit "Groceries" none {}).work.perform crashingDesk).2.cache := by
  have tidy : crashingDesk.editor.LeavesNoFolder := by
    rintro content ⟨⟩
  let opened : Note := { guid := "n", title := "Groceries", body := "milk", md := "milk" }
  have found : ((noteToEdit "Groceries" none {}).perform crashingDesk).1 = .ok opened := by
    decide +kernel
  have opens : (Request.edit "Groceries" none {}).Opens crashingDesk {} opened :=
    .old (.edit "Groceries" none {}) ⟨opened, _, _, perform_of_result found, rfl⟩
  have created : (crashingDesk.cache.create "n.md").isOk = true := by decide +kernel
  refine ⟨tidy, by decide +kernel, ?_⟩
  cases h : crashingDesk.cache.create "n.md" with
  | error cause =>
    rw [h] at created
    cases created
  | ok made =>
    obtain ⟨discards, -⟩ := session_discards (r := .edit "Groceries" none {}) rfl tidy
    exact (discards {} opened opens).2.1 made h

end Request
end NoteDesk
