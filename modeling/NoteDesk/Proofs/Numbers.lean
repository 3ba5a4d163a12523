import Mathlib.Data.Nat.Digits.Defs
import NoteDesk.Proofs.Metadata
import NoteDesk.Proofs.Parts
import NoteDesk.Proofs.Twin

/-!
# Numbers of listed notes

A number in the last listing goes on to mean the note that was listed under it, whatever is done
until notes are listed again. All other texts are titles.

* `Listing.Denotes` is what a text is as a number, and `Listing.number?_eq_some_iff` says that it is
  read so.
* `Service.titled` is the search for a title. `Work.perform_findNote_number` and
  `Work.perform_findNote_unnumbered`: the two ways in which a note is found.
* `Request.work_lastListing` is the step: requests other than for a listing leave the last one as it
  was. `Desk.UnlistedRun.lastListing` is the run.
* `Desk.UnlistedRun.numbers_stay` is the main result.
-/

namespace NoteDesk

/-! ## Numbers -/

namespace Listing

/-- The text is a number of at most 64 bits in decimal digits, which may follow a plus sign. -/
def Denotes (s : String) (i : Nat) : Prop :=
  ∃ digits, (s.toList = digits ∨ s.toList = '+' :: digits) ∧ digits ≠ [] ∧
    (∀ c ∈ digits, c.isDigit) ∧ Nat.ofDigits 10 (digits.reverse.map (·.toNat - 48)) = i ∧
    i < 2 ^ 64

theorem digits?_eq_some_iff {n i : Nat} {s : List Char} :
    digits? n s = some i ↔ (∀ c ∈ s, c.isDigit) ∧
      s.foldl (fun n c => 10 * n + (c.toNat - 48)) n = i := by
  induction s generalizing n with
  | nil => simp [digits?]
  | cons c s ih =>
    rw [digits?, List.forall_mem_cons, List.foldl_cons]
    split_ifs with digit
    · rw [ih]
      simp [digit]
    · simp [digit]

theorem ofDigits_reverse (s : List Char) :
    Nat.ofDigits 10 (s.reverse.map (·.toNat - 48)) =
      s.foldl (fun n c => 10 * n + (c.toNat - 48)) 0 := by
  rw [Nat.ofDigits_eq_foldr, List.foldr_map, List.foldr_reverse]
  simp only [Nat.cast_id, Nat.add_comm]

/-- **Numbers are read as what they denote**, and nothing else is read as a number. -/
theorem number?_eq_some_iff {s : String} {i : Nat} : number? s.toList = some i ↔ Denotes s i := by
  have reads (digits : List Char) :
      (if digits.isEmpty then none
        else (digits? 0 digits).filter (· < 0x10000000000000000)) = some i ↔
      digits ≠ [] ∧ (∀ c ∈ digits, c.isDigit) ∧
        Nat.ofDigits 10 (digits.reverse.map (·.toNat - 48)) = i ∧ i < 2 ^ 64 := by
    cases digits with
    | nil => simp
    | cons c digits =>
      rw [if_neg (by simp), Option.filter_eq_some_iff, digits?_eq_some_iff, ofDigits_reverse]
      simp [and_assoc]
  unfold number?
  generalize htext : s.toList = text
  split
  next rest =>
    rw [reads]
    constructor
    · exact fun number => ⟨rest, .inr htext, number⟩
    · rintro ⟨digits, same | same, nonempty, all, number⟩
      · rw [htext] at same
        subst same
        exact absurd (all '+' List.mem_cons_self) (by decide)
      · rw [htext] at same
        obtain rfl := (List.cons.inj same).2
        exact ⟨nonempty, all, number⟩
  next unsigned =>
    rw [reads]
    constructor
    · exact fun number => ⟨text, .inl htext, number⟩
    · rintro ⟨digits, same | same, number⟩
      · rwa [htext.symm.trans same]
      · exact absurd (htext.symm.trans same) (unsigned digits)

end Listing

/-! ## Titles -/

/-- The note of exactly this title among the first that a search for it finds. -/
def Service.titled (s : Service) (notebook : Option Guid) (title : String) (count : Nat) :
    Except Failure Note :=
  match (s.find { notebook, words := some title } 0 count).1.find? (·.title == title) with
  | some n => .ok n
  | none => .error .noteNotFound

/-- What was last listed. -/
def Desk.lastListing (d : Desk) : Except Failure (List Note) :=
  d.store.search

namespace Work

open Desk

variable {d d' : Desk} {title : String} {n : Note} {notes : List Note}

theorem perform_titledNote (title : String) (notebook : Option String) (d : Desk) :
    ((titledNote title notebook).perform d).1 =
      ((notebookGuid? notebook).perform d).1.bind fun guid =>
        d.service.titled guid title d.config.searchCount.toNat := by
  rcases h : (notebookGuid? notebook).perform d with ⟨_ | guid, d₁⟩
  · rw [titledNote, perform_bind_of_error h]
    rfl
  · have looked := (notebookGuid?_looksUp notebook).of_eq h
    obtain ⟨finds, service⟩ := looked.service
    have found : d₁.service.titled guid title d₁.config.searchCount.toNat =
        d.service.titled guid title d.config.searchCount.toNat := by
      rw [looked.config, service]
      rfl
    change _ = d.service.titled guid title d.config.searchCount.toNat
    rw [titledNote, perform_bind_of_ok h, ← found, Service.titled]
    change (perform (match (d₁.service.find _ 0 _).1.find? (·.title == title) with
      | some n => (pure n : Work Note)
      | none => throw .noteNotFound) _).1 = _
    split
    · rfl
    · rfl

/-- A number in the last listing means the note that was listed under it. Nothing is asked of the
service. -/
theorem perform_findNote_number [Disk] [Connection] {i : Nat} (last : d.lastListing = .ok notes)
    (number : Listing.Denotes title (i + 1)) (found : notes[i]? = some n)
    (notebook : Option String) : (findNote title notebook).perform d = (.ok n, d) := by
  have asked : (askStore LocalStore.search).perform d = (.ok notes, d) := congrArg (·, d) last
  have numbered : (numberedNote? title).perform d = (.ok (some n), d) := by
    rw [numberedNote?, Listing.number?_eq_some_iff.2 number, perform_bind_of_ok asked, found]
    rfl
  rw [findNote, perform_bind_of_ok numbered]
  rfl

/-- All other texts are titles. -/
theorem perform_findNote_unnumbered
    (beyond : ∀ i, Listing.Denotes title (i + 1) →
      ∃ notes, d.lastListing = .ok notes ∧ notes.length ≤ i)
    (notebook : Option String) :
    (findNote title notebook).perform d = (titledNote title notebook).perform d := by
  have unnumbered : (numberedNote? title).perform d = (.ok none, d) := by
    rw [numberedNote?]
    split
    · rfl
    · rfl
    next i number =>
      obtain ⟨notes, last, few⟩ := beyond i (Listing.number?_eq_some_iff.1 number)
      have asked : (askStore LocalStore.search).perform d = (.ok notes, d) := congrArg (·, d) last
      rw [perform_bind_of_ok asked, List.getElem?_eq_none few]
      rfl
  rw [findNote, perform_bind_of_ok unnumbered]

/-! ## Another listing -/

section

variable {others : List Note} {store : LocalStore}
  (saved : d.store.saveSearch others = .ok store)
include saved

theorem perform_seenNotebooks_saveSearch :
    (seenNotebooks.perform { d with store }).1 = (seenNotebooks.perform d).1 := by
  have same := LocalStore.saveNotebooks_saveSearch saved d.service.notebooks
  rw [perform_seenNotebooks, perform_seenNotebooks]
  dsimp only
  cases hold : LocalStore.saveNotebooks d.service.notebooks d.store with
  | error cause =>
    cases hnew : LocalStore.saveNotebooks d.service.notebooks store with
    | error cause' =>
      rw [hold, hnew] at same
      exact congrArg Except.error (Except.error.inj same)
    | ok store' =>
      rw [hold, hnew] at same
      cases same
  | ok store' =>
    cases hnew : LocalStore.saveNotebooks d.service.notebooks store with
    | error cause' =>
      rw [hold, hnew] at same
      cases same
    | ok store'' => rfl

/-- Which notebook has a name does not depend on the last listing. -/
theorem perform_findNotebook_saveSearch (name : String) :
    ((findNotebook name).perform { d with store }).1 = ((findNotebook name).perform d).1 := by
  have asked (d : Desk) : (askStore LocalStore.notebooks).perform d = (d.store.notebooks, d) := rfl
  rw [findNotebook_eq, perform_bind, perform_bind, asked, asked]
  dsimp only
  rw [LocalStore.notebooks_saveSearch saved]
  cases d.store.notebooks with
  | error cause => rfl
  | ok known =>
    dsimp only
    cases named name known with
    | some nb => rfl
    | none =>
      have same := perform_seenNotebooks_saveSearch saved
      dsimp only
      rw [perform_bind, perform_bind]
      rcases hnew : seenNotebooks.perform { d with store } with ⟨r, d₁⟩
      rcases hold : seenNotebooks.perform d with ⟨r', d₂⟩
      rw [hnew, hold] at same
      obtain rfl : r = r' := same
      cases r with
      | error cause => rfl
      | ok notebooks =>
        dsimp only
        cases named name notebooks <;> rfl

theorem perform_notebookGuid?_saveSearch (notebook : Option String) :
    ((notebookGuid? notebook).perform { d with store }).1 =
      ((notebookGuid? notebook).perform d).1 := by
  unfold notebookGuid?
  cases nonEmpty notebook with
  | none => rfl
  | some name =>
    dsimp only
    rw [bind_pure_comp, perform_map, perform_map, perform_findNotebook_saveSearch saved]

end

/-! ## Runs -/

theorem parts_lastListing : Parts (Same Desk.lastListing) :=
  .same (.ofConsults Consults.search) (fun aside => congrArg LocalStore.search aside.store)
    fun _ _ => rfl

theorem perform_listing_ok {q : Service.Query} {count : Nat} {listed : List Note}
    (h : (listing q count).perform d = (.ok listed, d')) (fits : ∀ n ∈ listed, n.TimesFit) :
    d'.lastListing = .ok listed := by
  rw [perform_listing] at h
  split at h
  · cases h
  next store saved =>
    obtain ⟨same, rfl⟩ := Prod.mk.inj h
    obtain rfl := Except.ok.inj same
    exact LocalStore.search_saveSearch fits saved

/-- Notes that are listed are the last listing then. -/
theorem perform_listNotes_ok {words notebook : Option String} {count : Option Nat} {report : Report}
    (h : (listNotes words notebook count).perform d = (.ok report, d'))
    (fits : ∀ n ∈ report.listed, n.TimesFit) : d'.lastListing = .ok report.listed := by
  rw [listNotes_eq] at h
  obtain ⟨guid, d₁, -, h⟩ := perform_bind_ok.1 h
  obtain ⟨_, _, ⟨⟩, h⟩ := perform_bind_ok.1 h
  obtain ⟨listed, d₂, hlisted, h⟩ := perform_bind_ok.1 h
  obtain ⟨notebooks, d₃, known, h⟩ := perform_bind_ok.1 h
  obtain ⟨same, rfl⟩ := Prod.mk.inj h
  obtain rfl := Except.ok.inj same
  have stays : d₃.lastListing = d₂.lastListing :=
    (knownNotebooks_looksUp.of_eq known).search
  exact stays.trans (perform_listing_ok hlisted fits)

end Work

open Desk Work

/-- **Requests other than for a listing leave the last one as it was.** -/
theorem Request.work_lastListing {r : Request} (unlisted : r.lists = false) :
    Leads (Same Desk.lastListing) r.work :=
  parts_lastListing.leads r
    (fun _ _ _ => .keepForRecovery (fun _ _ saved => LocalStore.search_saveRecovery saved)
      fun _ => LocalStore.search_spoil (by decide))
    (fun lists => absurd lists (by simp [unlisted]))

namespace Desk

/-- A run in which no notes are listed. -/
abbrev UnlistedRun : Desk → Desk → Prop :=
  Run fun r _ => r.lists = false

variable {d d₁ d' : Desk}

theorem Step.lastListing (h : Step (fun r _ => r.lists = false) d d') :
    d'.lastListing = d.lastListing := by
  cases h with
  | request r unlisted => exact Request.work_lastListing unlisted d
  | service _ => rfl
  | refusal h refusal =>
    rw [Desk.lastListing, Desk.lastListing, h]
    rfl
  | surroundings service store => rw [Desk.lastListing, Desk.lastListing, store]

theorem UnlistedRun.lastListing (run : UnlistedRun d d') : d'.lastListing = d.lastListing :=
  Run.induct (P := fun d' => d'.lastListing = d.lastListing)
    (fun step same => step.lastListing.trans same) run rfl

/-- **The numbers of a listing stay valid** until notes are listed again, whatever is done at the
desk and with the service: each means the very note that was listed under it, in whatever notebook
it is looked for, and nothing changes at the desk when it is looked up. Any other text is a title:
what comes of it is what the service finds, and no other listing would make a difference. (Times
beyond 64 bits could not be read back from a file.) -/
theorem UnlistedRun.numbers_stay {words notebook : Option String} {count : Option Nat}
    {report : Report} (listed : (listNotes words notebook count).perform d = (.ok report, d₁))
    (fits : ∀ n ∈ report.listed, n.TimesFit) (run : UnlistedRun d₁ d') (title : String)
    (within : Option String) :
    (∀ i n, Listing.Denotes title (i + 1) → report.listed[i]? = some n →
      (findNote title within).perform d' = (.ok n, d')) ∧
    ((∀ i, Listing.Denotes title (i + 1) → report.listed.length ≤ i) →
      ((findNote title within).perform d').1 =
        (((notebookGuid? within).perform d').1.bind fun guid =>
          d'.service.titled guid title d'.config.searchCount.toNat) ∧
      ∀ others store, (∀ n ∈ others, n.TimesFit) → d'.store.saveSearch others = .ok store →
        (∀ i, Listing.Denotes title (i + 1) → others.length ≤ i) →
        ((findNote title within).perform { d' with store }).1 =
          ((findNote title within).perform d').1) := by
  have last : d'.lastListing = .ok report.listed :=
    run.lastListing.trans (perform_listNotes_ok listed fits)
  refine ⟨fun i n number found => perform_findNote_number last number found within, ?_⟩
  intro beyond
  rw [perform_findNote_unnumbered (fun i number => ⟨_, last, beyond i number⟩)]
  refine ⟨perform_titledNote title within d', fun others store fits saved apart => ?_⟩
  have other : ({ d' with store } : Desk).lastListing = .ok others :=
    LocalStore.search_saveSearch fits saved
  rw [perform_findNote_unnumbered (fun i number => ⟨_, other, apart i number⟩), perform_titledNote,
    perform_titledNote, perform_notebookGuid?_saveSearch saved]

theorem UnlistedRun.numbers_stay_staleDesk :
    Listing.Denotes "+01" 1 ∧ (findNote "+01" (some "Work")).perform staleDesk =
      (.ok { guid := Guid.ofNumber 1, title := "Groceries", created := 1000, updated := 1000
             notebook := some (.resolved homeNotebook) }, staleDesk) := by
  have number : Listing.Denotes "+01" 1 := Listing.number?_eq_some_iff.1 (by decide)
  have result : ((listNotes none none none).perform sortedDesk).1 =
      .ok { listed := [{ guid := Guid.ofNumber 1, title := "Groceries", created := 1000
                         updated := 1000, notebook := some (.resolved homeNotebook) }]
            notebooks := [homeNotebook, workNotebook] } := by
    decide +kernel
  have moved : UnlistedRun ((listNotes none none none).perform sortedDesk).2 staleDesk := by
    rw [staleDesk, Request.work, perform_map]
    exact .single (.request (.move "Groceries" "Work") rfl)
  have stay := numbers_stay (perform_of_result result) (by
    intro n mem
    obtain rfl := List.mem_singleton.1 mem
    exact ⟨by decide, by decide⟩) moved "+01" (some "Work")
  exact ⟨number, stay.1 0 _ number rfl⟩

end Desk
end NoteDesk
