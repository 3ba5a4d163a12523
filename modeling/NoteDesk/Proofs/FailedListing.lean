import NoteDesk.Proofs.Holding
import NoteDesk.Proofs.Numbers

/-!
# Listings that fail

A listing that fails leaves the last one as it was, and what its numbers mean, with two exceptions.

* The notes that were found are remembered before the notebooks are known that they are shown with.
  If these cannot be read, if the service does not tell them, or if they cannot be remembered, the
  numbers are those of a listing that was never shown (`Desk.Unshown`,
  `Work.perform_listNotes_unshown`).
* The remembering itself is cut short. Then the beginning of the listing stands in the place of the
  last one (`Desk.Torn`, `Work.perform_listNotes_torn`).

Where notes of one notebook are listed, that was found among notebooks that are remembered
(`Work.perform_notebookGuid?_seen`), so only the second exception is left.

* `Desk.Unseen` says why the notebooks are not known, exactly (`Work.perform_knownNotebooks_unseen`
  and `Work.unseen_of_perform_knownNotebooks`).
* `Work.perform_listNotes_error`: there are no other exceptions.
* `Work.listNotes_error_numbers` is the main result. `Desk.renumbered` is a listing that fails and
  renumbers.
-/

namespace NoteDesk

namespace Desk

/-! ## Listings that are not shown -/

/-- What a listing asks the service for. -/
def listQuery (guid : Option Guid) (words : Option String) : Service.Query :=
  { notebook := guid, words := Work.nonEmpty words }

/-- How many notes a listing has at most. -/
def listCount (d : Desk) (count : Option Nat) : Nat :=
  count.getD d.config.searchCount.toNat

/-- The notes that the search for a listing finds. -/
def page (d : Desk) (guid : Option Guid) (words : Option String) (count : Option Nat) : List Note :=
  (d.service.find (listQuery guid words) 0 (d.listCount count)).1

/-- The service after the search. -/
def searched (d : Desk) (guid : Option Guid) (words : Option String) (count : Option Nat) :
    Service :=
  (d.service.find (listQuery guid words) 0 (d.listCount count)).2

section

variable [Disk] [Connection]

/-- Why the notebooks of a listing are not known, and what is left of the store then. -/
inductive Unseen (service : Service) (store : LocalStore) : Failure → LocalStore → Prop
  /-- Those last seen cannot be read. -/
  | unread {flaw : Failure} (unread : store.notebooks = .error flaw) :
      Unseen service store flaw store
  /-- None were seen, and the service does not tell those that there are. -/
  | untold {flaw : RemoteError} (none : store.notebooks = .ok [])
      (untold : Connection.outage service .notebooks = some flaw) :
      Unseen service store (.remote flaw) store
  /-- None were seen, and those that there are cannot be remembered. -/
  | unkept {flaw : Failure} (none : store.notebooks = .ok [])
      (told : Connection.outage service .notebooks = Option.none)
      (unkept : store.saveNotebooks service.notebooks = .error flaw) :
      Unseen service store flaw (store.spoilNotebooks service.notebooks)

theorem Unseen.search {service : Service} {store store' : LocalStore} {flaw : Failure}
    (h : Unseen service store flaw store') : store'.search = store.search := by
  cases h with
  | unread => rfl
  | untold => rfl
  | unkept => exact LocalStore.search_spoil (by decide)

/-- Notes of all notebooks are to be listed. They are found and remembered, but the notebooks that
they are shown with are not known. -/
structure Unshown (d : Desk) (words notebook : Option String) (count : Option Nat) (flaw : Failure)
    (store : LocalStore) : Prop where
  anywhere : Work.nonEmpty notebook = none
  answered : Connection.outage d.service (.notes (listQuery none words)) = none
  unseen : ∃ kept, d.store.saveSearch (d.page none words count) = .ok kept ∧
    Unseen (d.searched none words count) kept flaw store

/-- These notes are found for a listing, but the remembering is cut short after so many bytes. -/
def Torn (d : Desk) (words notebook : Option String) (count : Option Nat) (notes : List Note)
    (length : Nat) : Prop :=
  ∃ guid d₁, (Work.notebookGuid? notebook).perform d = (.ok guid, d₁) ∧
    Connection.outage d₁.service (.notes (listQuery guid words)) = none ∧
    d₁.page guid words count = notes ∧
    d₁.store.CutShort LocalStore.searchFile (LocalStore.searchJson notes) length

/-- The numbers of a listing mean the notes that are listed under them. -/
def Numbers (d : Desk) (notes : List Note) : Prop :=
  ∀ (title : String) (within : Option String) (i : Nat) (n : Note), Listing.Denotes title (i + 1) →
    notes[i]? = some n → (Work.findNote title within).perform d = (.ok n, d)

end

end Desk

namespace Work

open Desk

variable [Disk] [Connection] {d d' : Desk} {words notebook : Option String} {count : Option Nat}
  {cause flaw : Failure} {store : LocalStore}

/-! ## The notebooks of a listing -/

/-- Where a notebook was found by its name, the notebooks last seen can be read, and there are
some. -/
theorem perform_notebookGuid?_seen {guid : Option Guid} (within : nonEmpty notebook ≠ none)
    (h : (notebookGuid? notebook).perform d = (.ok guid, d')) :
    ∃ known, d'.store.notebooks = .ok known ∧ known.isEmpty = false := by
  obtain ⟨name, given⟩ := Option.ne_none_iff_exists'.1 within
  have some_of_named {known : List Notebook} {nb : Notebook} (found : named name known = some nb) :
      known.isEmpty = false := by
    cases known with
    | nil => cases found
    | cons nb' known => rfl
  rw [notebookGuid?, given] at h
  obtain ⟨nb, found, -⟩ := perform_map_ok.1 h
  rw [findNotebook_eq] at found
  obtain ⟨known, d₁, asked, found⟩ := perform_bind_ok.1 found
  obtain ⟨read, rfl⟩ := Prod.mk.inj asked
  cases among : named name known with
  | some nb' =>
    rw [among] at found
    obtain ⟨-, rfl⟩ := Prod.mk.inj found
    exact ⟨known, read, some_of_named among⟩
  | none =>
    rw [among] at found
    obtain ⟨seen, d₂, asked, found⟩ := perform_bind_ok.1 found
    obtain ⟨store, saved, rfl⟩ := saved_of_perform_seenNotebooks asked
    cases among' : named name seen with
    | none =>
      rw [among'] at found
      cases found
    | some nb' =>
      rw [among'] at found
      obtain ⟨-, rfl⟩ := Prod.mk.inj found
      exact ⟨seen, LocalStore.notebooks_saveNotebooks saved, some_of_named among'⟩

theorem perform_knownNotebooks (d : Desk) :
    knownNotebooks.perform d =
      match d.store.notebooks with
      | .error flaw => (.error flaw, d)
      | .ok known => if known.isEmpty then seenNotebooks.perform d else (.ok known, d) := by
  have asked : (askStore LocalStore.notebooks).perform d = (d.store.notebooks, d) := rfl
  rw [knownNotebooks_eq, perform_bind, asked]
  cases d.store.notebooks with
  | error flaw => rfl
  | ok known =>
    dsimp only
    split <;> rfl

theorem perform_knownNotebooks_unseen (h : Unseen d.service d.store flaw store) :
    knownNotebooks.perform d = (.error flaw, { d with store }) := by
  rw [perform_knownNotebooks]
  cases h with
  | unread unread => rw [unread]
  | untold none untold =>
    rw [none]
    dsimp only [List.isEmpty_nil]
    rw [if_pos rfl, perform_seenNotebooks_cases, untold]
  | unkept none told unkept =>
    rw [none]
    dsimp only [List.isEmpty_nil]
    rw [if_pos rfl, perform_seenNotebooks_cases, told]
    dsimp only
    rw [unkept]

theorem unseen_of_perform_knownNotebooks (h : knownNotebooks.perform d = (.error flaw, d')) :
    Unseen d.service d.store flaw d'.store := by
  rw [perform_knownNotebooks] at h
  cases read : d.store.notebooks with
  | error cause =>
    rw [read] at h
    obtain ⟨same, rfl⟩ := Prod.mk.inj h
    obtain rfl := Except.error.inj same
    exact .unread read
  | ok known =>
    rw [read] at h
    dsimp only at h
    cases known with
    | cons nb known => cases h
    | nil =>
      rw [if_pos List.isEmpty_nil, perform_seenNotebooks_cases] at h
      cases told : Connection.outage d.service .notebooks with
      | some outage =>
        rw [told] at h
        obtain ⟨same, rfl⟩ := Prod.mk.inj h
        obtain rfl := Except.error.inj same
        exact .untold read told
      | none =>
        rw [told] at h
        dsimp only at h
        cases saved : LocalStore.saveNotebooks d.service.notebooks d.store with
        | ok store =>
          rw [saved] at h
          cases h
        | error cause =>
          rw [saved] at h
          obtain ⟨same, rfl⟩ := Prod.mk.inj h
          obtain rfl := Except.error.inj same
          exact .unkept read told saved

/-- After a listing was remembered, the notebooks are unknown only if notes of all of them were to
be listed. -/
theorem anywhere_of_unseen {guid : Option Guid} {d₁ : Desk} {notes : List Note} {kept : LocalStore}
    {service : Service} (looked : (notebookGuid? notebook).perform d = (.ok guid, d₁))
    (saved : d₁.store.saveSearch notes = .ok kept) (unseen : Unseen service kept flaw store) :
    nonEmpty notebook = none := by
  refine Decidable.byContradiction fun within => ?_
  obtain ⟨known, read, some⟩ := perform_notebookGuid?_seen within looked
  rw [← LocalStore.notebooks_saveSearch saved] at read
  cases unseen with
  | unread unread =>
    rw [unread] at read
    cases read
  | untold none | unkept none =>
    obtain rfl := Except.ok.inj (none.symm.trans read)
    cases some

/-! ## Failures -/

theorem perform_listNotes {guid : Option Guid} {d₁ : Desk}
    (h : (notebookGuid? notebook).perform d = (.ok guid, d₁)) :
    (listNotes words notebook count).perform d =
      (listing (listQuery guid words) (d₁.listCount count) >>= fun listed => do
        return ({ listed, notebooks := ← knownNotebooks } : Report)).perform d₁ := by
  rw [listNotes_eq, perform_bind_of_ok h]
  rfl

/-- A listing is remembered, and then it fails. -/
theorem perform_listNotes_unshown (h : d.Unshown words notebook count flaw store) :
    (listNotes words notebook count).perform d =
      (.error flaw, { d with service := d.searched none words count, store }) := by
  obtain ⟨kept, saved, unseen⟩ := h.unseen
  rw [page] at saved
  have failed := perform_knownNotebooks_unseen
    (d := { d with service := d.searched none words count, store := kept }) unseen
  rw [perform_listNotes (perform_notebookGuid?_anywhere h.anywhere d), perform_bind,
    perform_listing_cases, h.answered]
  dsimp only
  rw [saved]
  exact perform_bind_of_error failed _

/-- The remembering of a listing is cut short. -/
theorem perform_listNotes_torn {notes : List Note} {length : Nat}
    (h : d.Torn words notebook count notes length)
    (failed : (listNotes words notebook count).perform d = (.error cause, d')) :
    d'.store.find? LocalStore.searchFile =
      some (.file ((Utf8.encode (LocalStore.searchJson notes).render).take length)) := by
  obtain ⟨guid, d₁, looked, answered, rfl, cut⟩ := h
  rw [perform_listNotes looked, perform_bind, perform_listing_cases, answered] at failed
  dsimp only at failed
  have unsaved := LocalStore.saveSearch_of_cutShort cut
  rw [page] at unsaved
  obtain ⟨flaw, unsaved⟩ := unsaved
  rw [unsaved] at failed
  obtain ⟨-, rfl⟩ := Prod.mk.inj failed
  exact LocalStore.find?_spoil_of_cutShort cut

/-- **A listing that fails leaves the last one as it was**, unless it was remembered and not shown,
or the remembering was cut short. -/
theorem perform_listNotes_error
    (failed : (listNotes words notebook count).perform d = (.error cause, d'))
    (whole : ∀ notes length, ¬d.Torn words notebook count notes length) :
    d'.lastListing = d.lastListing ∨ d.Unshown words notebook count cause d'.store := by
  rcases looked : (notebookGuid? notebook).perform d with ⟨_ | guid, d₁⟩
  · rw [listNotes_eq, perform_bind_of_error looked] at failed
    obtain ⟨-, rfl⟩ := Prod.mk.inj failed
    exact .inl ((lookups_consults.notebookGuid? notebook).of_eq looked).search
  have consults : Consults d d₁ := (lookups_consults.notebookGuid? notebook).of_eq looked
  rw [perform_listNotes looked, perform_bind, perform_listing_cases] at failed
  cases answered : Connection.outage d₁.service (.notes (listQuery guid words)) with
  | some outage =>
    rw [answered] at failed
    obtain ⟨-, rfl⟩ := Prod.mk.inj failed
    exact .inl consults.search
  | none =>
  rw [answered] at failed
  dsimp only at failed
  cases saved : d₁.store.saveSearch (d₁.page guid words count) with
  | error flaw =>
    rw [page] at saved
    rw [saved] at failed
    obtain ⟨-, rfl⟩ := Prod.mk.inj failed
    have spoilt := LocalStore.search_spoilSearch fun length cut =>
      whole _ length ⟨guid, d₁, looked, answered, rfl, cut⟩
    exact .inl (spoilt.trans consults.search)
  | ok kept =>
    rw [page] at saved
    rw [saved] at failed
    dsimp only at failed
    rw [perform_bind] at failed
    rcases known : knownNotebooks.perform _ with ⟨flaw | notebooks, d₂⟩
    · rw [known] at failed
      obtain ⟨same, rfl⟩ := Prod.mk.inj failed
      obtain rfl := Except.error.inj same
      have unseen := unseen_of_perform_knownNotebooks known
      have anywhere := anywhere_of_unseen looked saved unseen
      obtain ⟨same, rfl⟩ :=
        Prod.mk.inj ((perform_notebookGuid?_anywhere anywhere d).symm.trans looked)
      obtain rfl := Except.ok.inj same
      exact .inr ⟨anywhere, answered, kept, saved, unseen⟩
    · rw [known] at failed
      cases failed

theorem numbers_of_lastListing {notes : List Note} (last : d.lastListing = .ok notes) :
    d.Numbers notes :=
  fun _ within _ _ number found => perform_findNote_number last number found within

/-- **A listing that fails does not renumber, or it was remembered already.** What is remembered is
the last listing, whatever it was, and its numbers mean the notes that were listed under them, with
two exceptions. If the notes found were remembered, and then the notebooks were not known that they
are shown with, the numbers mean the notes found; this happens only if notes of all notebooks were
to be listed. If the remembering was cut short, its beginning is what is remembered. (Times beyond
64 bits could not be read back from a file.) -/
theorem listNotes_error_numbers
    (failed : (listNotes words notebook count).perform d = (.error cause, d')) :
    ((∀ flaw store, ¬d.Unshown words notebook count flaw store) →
      (∀ notes length, ¬d.Torn words notebook count notes length) →
        d'.lastListing = d.lastListing ∧
          ∀ notes, d.lastListing = .ok notes → d'.Numbers notes) ∧
    (∀ flaw store, d.Unshown words notebook count flaw store →
      flaw = cause ∧ d'.store = store ∧
        ((∀ n ∈ d.page none words count, n.TimesFit) →
          d'.lastListing = .ok (d.page none words count) ∧
            d'.Numbers (d.page none words count))) ∧
    ∀ notes length, d.Torn words notebook count notes length →
      d'.store.find? LocalStore.searchFile =
        some (.file ((Utf8.encode (LocalStore.searchJson notes).render).take length)) := by
  refine ⟨fun shown whole => ?_, fun flaw store unshown => ?_,
    fun notes length torn => perform_listNotes_torn torn failed⟩
  · have same : d'.lastListing = d.lastListing :=
      (perform_listNotes_error failed whole).resolve_right (shown cause d'.store)
    exact ⟨same, fun notes last => numbers_of_lastListing (same.trans last)⟩
  · obtain ⟨result, rfl⟩ := Prod.mk.inj ((perform_listNotes_unshown unshown).symm.trans failed)
    refine ⟨Except.error.inj result, rfl, fun fits => ?_⟩
    obtain ⟨kept, saved, unseen⟩ := unshown.unseen
    have last : store.search = .ok (d.page none words count) :=
      unseen.search.trans (LocalStore.search_saveSearch fits saved)
    exact ⟨last, numbers_of_lastListing last⟩

end Work

namespace Desk

open Work

/-- A desk that keeps its files in a directory still to be made, with one note, which was listed. -/
def toldDesk : Desk :=
  ((listNotes none none none).perform
    { service := (({} : Service).add "Groceries" none "milk").2, store := .files .missing }).2

/-- The note of that desk. -/
def groceries : Note :=
  { guid := Guid.ofNumber 1, title := "Groceries", created := 1000, updated := 1000 }

/-- The desk after another note was added, and the file of the notebooks last seen was damaged. -/
def damagedDesk : Desk :=
  { toldDesk with
    service := (toldDesk.service.add "Taxes" none "forms").2
    store :=
      match toldDesk.store with
      | .memory m => .memory m
      | .files data =>
        .files ((data.write LocalStore.notebooksFile
          (Utf8.ofString "not json")).toOption.getD data) }

/-- The note that was added there. -/
def taxes : Note :=
  { guid := Guid.ofNumber 2, title := "Taxes", created := 2000, updated := 2000 }

/-- A disk that has no room for a listing: its file is opened, and nothing is brought to it. -/
@[reducible] def fullDisk : Disk where
  fault _ name _ :=
    if name = LocalStore.searchFile then
      some ⟨.cut 0, .system "No space left on device (os error 28)"⟩
    else none

theorem listNotes_error_numbers_toldDesk :
    ((listNotes none (some "Work") none).perform toldDesk).1 = .error (.notebookNotFound "Work") ∧
      ((findNote "1" none).perform
        ((listNotes none (some "Work") none).perform toldDesk).2).1 = .ok groceries ∧
      ((findNote "1" none).perform
        ((listNotes (some "taxes") none none).perform damagedDesk).2).1 = .ok taxes ∧
      ((@listNotes fullDisk .sound (some "taxes") none none).perform damagedDesk).2.store.find?
        LocalStore.searchFile = some (.file []) := by
  have number : Listing.Denotes "1" 1 := Listing.number?_eq_some_iff.1 (by decide)
  have unnamed : ((listNotes none (some "Work") none).perform toldDesk).1 =
      .error (.notebookNotFound "Work") := by
    decide +kernel
  have last : toldDesk.lastListing = .ok [groceries] := by decide +kernel
  have stays := (listNotes_error_numbers (perform_of_result unnamed)).1
    (fun flaw store unshown => absurd unshown.anywhere (by decide))
    (fun notes length ⟨_, _, _, _, _, cut⟩ => LocalStore.not_cutShort_sound cut)
  have unread : ((listNotes (some "taxes") none none).perform damagedDesk).1 =
      .error (.stored .malformed) := by
    decide +kernel
  have page : damagedDesk.page none (some "taxes") none = [taxes] := by decide +kernel
  have unshown : damagedDesk.Unshown (some "taxes") none none (.stored .malformed)
      ((listNotes (some "taxes") none none).perform damagedDesk).2.store :=
    ⟨by decide, rfl, ((listNotes (some "taxes") none none).perform damagedDesk).2.store,
      by decide +kernel, .unread (by decide +kernel)⟩
  obtain ⟨-, -, taken⟩ := (listNotes_error_numbers (perform_of_result unread)).2.1 _ _ unshown
  have numbers := (taken (by rw [page]; exact List.forall_mem_singleton.2 ⟨by decide, by decide⟩)).2
  rw [page] at numbers
  have unwritten : ((@listNotes fullDisk .sound (some "taxes") none none).perform damagedDesk).1 =
      .error (.io (.system "No space left on device (os error 28)")) := by
    decide +kernel
  have torn : @Torn fullDisk .sound damagedDesk (some "taxes") none none [taxes] 0 :=
    ⟨none, damagedDesk, rfl, rfl, page, .system "No space left on device (os error 28)", _,
      if_pos rfl, rfl⟩
  have beginning := (@listNotes_error_numbers fullDisk .sound _ _ _ _ _ _
    (perform_of_result unwritten)).2.2 _ _ torn
  exact ⟨unnamed, congrArg Prod.fst (stays.2 _ last "1" none 0 groceries number rfl),
    congrArg Prod.fst (numbers "1" none 0 taxes number rfl), beginning⟩

/-- **A listing that was never shown takes over the numbers.** One note was listed, and then a
listing of another one fails, but the number of the first is that of the other then. -/
theorem renumbered :
    damagedDesk.lastListing = .ok [groceries] ∧
      ((findNote "1" none).perform damagedDesk).1 = .ok groceries ∧
      ((listNotes (some "taxes") none none).perform damagedDesk).1 = .error (.stored .malformed) ∧
      ((listNotes (some "taxes") none none).perform damagedDesk).2.lastListing =
        .ok [{ guid := Guid.ofNumber 2, title := "Taxes", created := 2000, updated := 2000 }] ∧
      ((findNote "1" none).perform
        ((listNotes (some "taxes") none none).perform damagedDesk).2).1 =
          .ok { guid := Guid.ofNumber 2, title := "Taxes", created := 2000, updated := 2000 } := by
  decide +kernel

end Desk
end NoteDesk
