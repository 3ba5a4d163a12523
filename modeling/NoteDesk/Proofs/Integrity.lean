import NoteDesk.Proofs.Calls
import NoteDesk.Proofs.Metadata
import NoteDesk.Proofs.Refinement

/-!
# Only notes that the service has

What the local store remembers are notes of the service, so no update and no deletion asks for a
note that the service does not have, and no creation for one that it has.

* `Service.Knows`: the service has a record of a note, whose times can be kept in a file.
  `Service.Step.knows`: it goes on to have it, whatever is done.
* `Desk.Coherent` is the invariant: all that is remembered is known. `Desk.Listed.event` and
  `Desk.Coherent.step` are the steps.
* `Service.Call.Proper` is a call that the service can answer, `Request.Calls.proper` says that
  coherent desks ask for no others.
* `Desk.Run.integrity` is the main result.
-/

namespace NoteDesk

namespace Service

variable {s s' : Service} {n : Note} {guid : Guid}

/-! ## Notes that the service knows -/

/-- The service has a record of the note, and the times of the note are of 64 bits. -/
structure Knows (s : Service) (n : Note) : Prop where
  held : (s.record? n.guid).isSome
  fits : n.TimesFit

theorem isSome_record?_iff : (s.record? guid).isSome ↔ guid ∈ s.records.map (·.note.guid) := by
  simp [record?, List.find?_isSome]

/-- The identifiers that were given are not empty. -/
theorem Numbered.guid_ne_empty (h : Numbered s.records) (held : (s.record? guid).isSome) :
    guid ≠ "" := by
  rw [isSome_record?_iff, List.mem_map] at held
  obtain ⟨r, mem, rfl⟩ := held
  obtain ⟨i, hi, rfl⟩ := List.getElem_of_mem mem
  have number := h i _ (List.getElem?_eq_getElem hi)
  exact number ▸ Guid.ofNumber_ne_empty _

theorem Step.knows (step : s.Step s') (h : s.Knows n) : s'.Knows n where
  held := by
    have held := h.held
    rw [isSome_record?_iff] at held ⊢
    exact step.guids_prefix.subset held
  fits := h.fits

/-- A record is of a note that the service knows, as long as the clock is within 64 bits. -/
theorem knows_of_mem (numbered : Numbered s.records) (inTime : s.InTime)
    (ends : s.clock ≤ Json.maxTime) {r : Record} (mem : r ∈ s.records) : s.Knows r.note where
  held := by
    rw [numbered.record? mem]
    rfl
  fits := inTime.notes ends r mem

theorem Knows.congr (h : s.Knows n) (records : s'.records = s.records) : s'.Knows n where
  held := record?_congr records n.guid ▸ h.held
  fits := h.fits

theorem Knows.editedTo {n' : Note} (h : s.Knows n) (edited : n.EditedTo n') : s.Knows n' where
  held := edited.guid ▸ h.held
  fits := edited.timesFit h.fits

end Service

/-! ## What is remembered -/

namespace Desk

open Service

variable {d d' : Desk} {n : Note}

theorem Events.knows (events : Events d d') (h : d.service.Knows n) : d'.service.Knows n :=
  events.service (fun step h => step.knows h) (fun _ h => ⟨h.held, h.fits⟩) h

theorem Events.le_clock (events : Events d d') : d.service.clock ≤ d'.service.clock :=
  events.service (P := fun s => d.service.clock ≤ s.clock)
    (fun step h => Int.le_trans h step.le_clock) (fun _ h => h) (Int.le_refl _)

/-- The last listing can be read and has only notes known to the service, whose records are in
order. -/
structure Listed (d : Desk) : Prop where
  numbered : Numbered d.service.records
  inTime : d.service.InTime
  known : d.service.clock ≤ Json.maxTime →
    ∃ notes, d.store.search = .ok notes ∧ ∀ n ∈ notes, d.service.Knows n

theorem Listed.congr (h : d.Listed) (records : d'.service.records = d.service.records)
    (clock : d'.service.clock = d.service.clock) (search : d'.store.search = d.store.search) :
    d'.Listed where
  numbered := records ▸ h.numbered
  inTime := h.inTime.congr records (Int.le_of_eq clock.symm)
  known := by
    rw [clock, search]
    intro ends
    obtain ⟨notes, last, known⟩ := h.known ends
    exact ⟨notes, last, fun n mem => (known n mem).congr records⟩

theorem Listed.of_empty (empty : d.service.records = []) (begins : Json.minTime ≤ d.service.clock)
    (search : d.store.search = .ok []) : d.Listed where
  numbered := by
    rw [empty]
    exact nofun
  inTime := by
    refine ⟨begins, fun _ r mem => ?_⟩
    rw [empty] at mem
    cases mem
  known _ := ⟨[], search, nofun⟩

theorem Listed.event (event : Event d d') (h : d.Listed) : d'.Listed := by
  cases event with
  | lookedUp looked =>
    obtain ⟨finds, service⟩ := looked.service
    exact h.congr (by rw [service]) (by rw [service]) looked.search
  | aside service store => exact h.congr (by rw [service]) (by rw [service]) (by rw [store])
  | served step =>
    refine ⟨h.numbered.step step, h.inTime.step step, fun ends => ?_⟩
    obtain ⟨notes, last, known⟩ := h.known (Int.le_trans step.le_clock ends)
    exact ⟨notes, last, fun n mem => step.knows (known n mem)⟩
  | @listed store q count saved =>
    refine ⟨h.numbered, h.inTime, fun ends => ?_⟩
    have found : ∀ n ∈ (d.service.find q 0 count).1, d.service.Knows n := by
      intro n mem
      obtain ⟨r, held, rfl⟩ := mem_find mem
      exact knows_of_mem h.numbered h.inTime ends held
    have last : store.search = .ok (d.service.find q 0 count).1 :=
      LocalStore.search_saveSearch (fun n mem => (found n mem).fits) saved
    exact ⟨_, last, found⟩
  | kept n saved => exact h.congr rfl rfl (LocalStore.search_saveRecovery saved)
  | refusal memory _ =>
    refine h.congr rfl rfl ?_
    rw [memory]
    rfl

/-- All that is remembered can be read, and the notes, listed or kept for recovery, are known to the
service. -/
structure Coherent (d : Desk) : Prop extends Listed d where
  kept : d.service.clock ≤ Json.maxTime →
    ∃ kept, d.store.recovery = .ok kept ∧ ∀ n ∈ kept, d.service.Knows n

end Desk

/-! ## Notes that are looked up -/

namespace Work

open Desk Service

variable {d d' : Desk} {n : Note} {title : String} {notebook : Option String} {m : EditMode}

theorem perform_numberedNote?_some (h : (numberedNote? title).perform d = (.ok (some n), d')) :
    ∃ notes, d.store.search = .ok notes ∧ n ∈ notes := by
  rw [numberedNote?] at h
  split at h
  · cases h
  · cases h
  next i _ =>
    obtain ⟨notes, d₁, asked, h⟩ := perform_bind_ok.1 h
    have found : notes[i]? = some n := Except.ok.inj (Prod.mk.inj h).1
    exact ⟨notes, (Prod.mk.inj asked).1, List.mem_of_getElem? found⟩

section

variable (coherent : d.Coherent) (ends : d.service.clock ≤ Json.maxTime)
include coherent ends

theorem perform_findNote_knows (h : (findNote title notebook).perform d = (.ok n, d')) :
    d.service.Knows n := by
  obtain ⟨numbered, d₁, hnumbered, h⟩ := perform_bind_ok.1 h
  cases numbered with
  | some n' =>
    obtain rfl : n' = n := Except.ok.inj (Prod.mk.inj h).1
    obtain ⟨notes, last, mem⟩ := perform_numberedNote?_some hnumbered
    obtain ⟨listed, last', known⟩ := coherent.known ends
    obtain rfl := Except.ok.inj (last.symm.trans last')
    exact known n' mem
  | none =>
    obtain ⟨r, mem, rfl⟩ := perform_titledNote_ok h
    have looked : LooksUp d d₁ := Leads.of_eq (Lookups.numberedNote? title) hnumbered
    obtain ⟨finds, service⟩ := looked.service
    rw [service] at mem
    exact knows_of_mem coherent.numbered coherent.inTime ends mem

theorem perform_openNote_knows (h : (openNote title notebook).perform d = (.ok n, d')) :
    d.service.Knows n := by
  obtain ⟨found, d₁, hfound, h⟩ := perform_bind_ok.1 h
  obtain ⟨content, d₂, -, h⟩ := perform_bind_ok.1 h
  obtain ⟨md, d₃, -, h⟩ := perform_bind_ok.1 h
  rw [← Except.ok.inj (Prod.mk.inj h).1]
  exact (perform_findNote_knows coherent ends hfound).editedTo ⟨_, _, _, _, rfl⟩

/-- **A note that a session opens is known to the service.** -/
theorem Opens.knows (h : Opens title notebook m d n) : d.service.Knows n := by
  obtain ⟨fetched, d₁, d₂, found, resolved⟩ := h
  have known : d.service.Knows fetched := by
    rw [noteToEdit] at found
    split at found
    · obtain ⟨kept, recovery, known⟩ := coherent.kept ends
      obtain rfl := Except.ok.inj (recovery.symm.trans (perform_recoveryNote_ok found).1)
      exact known fetched rfl
    · exact perform_openNote_knows coherent ends found
  obtain ⟨notebook, rfl⟩ := perform_withNotebook_ok resolved
  exact known.editedTo (.withNotebook fetched notebook)

/-- What comes of a session is an edit of a note that the service knows. -/
theorem perform_session_knows {s : Session}
    (h : (session title notebook m).perform d = (.ok s, d')) : d.service.Knows s.edited :=
  (Opens.knows coherent ends (perform_session_ok lookups_consults h).1).editedTo
    ((session_editedTo title notebook m).of_eq h)

end

/-- A session whose save fails leaves a note that is known to the service. -/
theorem SaveFails.kept (coherent : d.Coherent) (ends : d.service.clock ≤ Json.maxTime) {s : Session}
    {d₁ : Desk} {cause : RemoteError} (fails : SaveFails title notebook m d s d₁ cause) :
    ∃ kept, ((editNote title notebook m).perform d).2.store.recovery = .ok kept ∧
      ∀ n ∈ kept, d.service.Knows n := by
  have known := perform_session_knows coherent ends fails.edited
  cases saved : d₁.store.saveRecovery s.edited with
  | ok store =>
    obtain ⟨d', done, hstore⟩ := perform_editNote_kept fails saved
    rw [done, hstore]
    refine ⟨_, LocalStore.recovery_saveRecovery known.fits saved, ?_⟩
    rintro _ ⟨⟩
    exact known
  | error flaw =>
    obtain ⟨d', done, hstore⟩ := perform_editNote_lost fails saved
    have unsaved : Unsaved d d₁ := (session_unsaved title notebook m).of_eq fails.edited
    rw [done, hstore, LocalStore.spoilRecovery_sound, unsaved.recovery]
    exact coherent.kept ends

end Work

open Work

/-- A request leaves only notes for recovery that are known to the service. -/
theorem Request.work_recovery {r : Request} {d : Desk} (coherent : d.Coherent)
    (ends : d.service.clock ≤ Json.maxTime) :
    ∃ kept, (r.work.perform d).2.store.recovery = .ok kept ∧ ∀ n ∈ kept, d.service.Knows n := by
  -- Only a save that fails makes another recovery point.
  by_cases fails : r.SaveFails d
  · cases r with
    | edit title notebook m =>
      obtain ⟨s, d₁, cause, fails⟩ := fails
      rw [work, perform_map]
      exact fails.kept coherent ends
    | editRecovery m =>
      obtain ⟨s, d₁, cause, fails⟩ := fails
      rw [work, perform_map]
      exact fails.kept coherent ends
    | _ => exact fails.elim
  · have stays : (r.work.perform d).2.store.recovery = d.store.recovery := r.work_keeps fails
    rw [stays]
    exact coherent.kept ends

namespace Desk

variable {d d' : Desk}

/-- **Desks stay coherent**, whatever happens. -/
theorem Coherent.step {allowed : Request → Desk → Prop} (step : Step allowed d d')
    (h : d.Coherent) : d'.Coherent where
  toListed := step.events.induct Listed.event h.toListed
  kept := by
    intro ends
    have began : d.service.clock ≤ Json.maxTime := Int.le_trans step.events.le_clock ends
    -- What is kept then was known to the service before already.
    have remains : ∃ kept, d'.store.recovery = .ok kept ∧ ∀ n ∈ kept, d.service.Knows n := by
      cases step with
      | request r _ => exact Request.work_recovery h began
      | service _ => exact h.kept began
      | refusal memory _ =>
        obtain ⟨kept, recovery, known⟩ := h.kept began
        rw [memory] at recovery
        exact ⟨kept, recovery, known⟩
      | surroundings _ store => exact store ▸ h.kept began
    obtain ⟨kept, recovery, known⟩ := remains
    exact ⟨kept, recovery, fun n mem => step.events.knows (known n mem)⟩

/-- Nothing is remembered yet, and the service has no notes. -/
structure Blank (d : Desk) : Prop where
  records : d.service.records = []
  clock : Json.minTime ≤ d.service.clock
  search : d.store.search = .ok []
  recovery : d.store.recovery = .ok none

theorem Blank.coherent (h : d.Blank) : d.Coherent where
  toListed := .of_empty h.records h.clock h.search
  kept _ := ⟨none, h.recovery, nofun⟩

end Desk

/-! ## Calls that can be answered -/

namespace Service

variable {s : Service} {n : Note} {guid : Guid}

/-- A creation is of a note without an identifier, and all else is of a note with the identifier of
one that the service has. -/
def Call.Proper (s : Service) : Call → Prop
  | create n => n.guid = ""
  | update n => n.guid ≠ "" ∧ (s.record? n.guid).isSome
  | delete guid => guid ≠ "" ∧ (s.record? guid).isSome

theorem create_ne_unknownNote : (s.create n).1 ≠ .error (.unknownNote guid) := by
  intro unknown
  rw [create] at unknown
  split at unknown
  · cases unknown
  · cases unknown

theorem record?_of_update_unknownNote (h : (s.update n).1 = .error (.unknownNote guid)) :
    s.record? n.guid = none := by
  rw [update] at h
  split at h
  · cases h
  · dsimp only at h
    split at h
    next unknown => exact unknown
    · cases h

theorem record?_of_delete_unknownNote {g : Guid}
    (h : (s.delete g).1 = .error (.unknownNote guid)) : s.record? g = none := by
  rw [delete] at h
  split at h
  next unknown => exact unknown
  · cases h

theorem Call.Proper.searched {c : Call} {finds : Nat} (h : c.Proper s) :
    c.Proper { s with finds } := by
  cases c with
  | create n => exact h
  | update n => exact h
  | delete g => exact h

/-- The note of a proper call is never unknown. -/
theorem Call.Proper.known {c : Call} (h : c.Proper s) (guid : Guid) :
    (c.make s).1 ≠ .error (.unknownNote guid) := by
  have failed {α : Type} {f : α → Guid} {x : Except RemoteError α}
      (error : x.map f = .error (.unknownNote guid)) : x = .error (.unknownNote guid) := by
    cases x with
    | ok a => cases error
    | error cause => exact congrArg _ (Except.error.inj error)
  intro unknown
  cases c with
  | create n => exact create_ne_unknownNote (failed unknown)
  | update n => simpa [record?_of_update_unknownNote (failed unknown)] using h.2
  | delete g => simpa [record?_of_delete_unknownNote (failed unknown)] using h.2

end Service

namespace Work

open Desk

variable {d d' : Desk} {n : Note}

theorem perform_newNote_guid {title notebook : Option String}
    (h : (newNote title notebook).perform d = (.ok n, d')) : n.guid = "" := by
  rcases perform_newNote_ok h with ⟨-, plain⟩ | ⟨name, nb, -, found, housed⟩
  · exact congrArg Note.guid plain
  · exact congrArg Note.guid housed

end Work

namespace Request

open Desk Service

variable {d : Desk} {r : Request}

/-- **Coherent desks ask for proper changes only.** -/
theorem Calls.proper {c : Call} (coherent : d.Coherent) (ends : d.service.clock ≤ Json.maxTime)
    (h : r.Calls d c) : c.Proper d.service := by
  have answered {n : Note} {guid : Guid} (known : d.service.Knows n) (same : n.guid = guid) :
      guid ≠ "" ∧ (d.service.record? guid).isSome :=
    same ▸ ⟨coherent.numbered.guid_ne_empty known.held, known.held⟩
  cases h with
  | update revises passes =>
    cases passes with
    | update edits edited changed => exact answered (perform_session_knows coherent ends edited) rfl
    | create opens done body => cases revises
  | create passes =>
    cases passes with
    | update edits edited changed => cases edits
    | create opens done body =>
      exact ((editDocument_editedTo _ _).of_eq done).guid.trans (perform_newNote_guid opens)
  | createAsIs made body =>
    have none := perform_newNote_guid made
    exact none
  | rename found => exact answered (perform_findNote_knows coherent ends found) rfl
  | move found named => exact answered (perform_findNote_knows coherent ends found) rfl
  | delete found => exact answered (perform_findNote_knows coherent ends found) rfl

end Request

namespace Desk

variable {d₀ d : Desk}

/-- **Nothing is remembered or asked for that the service does not have**, at every desk that a run
leads to from one without notes, as long as the clock of the service is within 64 bits: the notes of
the last listing and the one kept for recovery are notes of the service, and a request asks for the
creation of a note without an identifier, or for an update or a deletion of a note of the service,
so no call fails because its note is unknown. -/
theorem Run.integrity (blank : d₀.Blank) (run : Run (fun _ _ => True) d₀ d)
    (ends : d.service.clock ≤ Json.maxTime) :
    (∃ notes, d.store.search = .ok notes ∧ ∀ n ∈ notes, (d.service.record? n.guid).isSome) ∧
    (∃ kept, d.store.recovery = .ok kept ∧ ∀ n ∈ kept, (d.service.record? n.guid).isSome) ∧
    ∀ r : Request, Asks (r.Calls d) Answer.affected r.work d ∧
      ∀ c, r.Calls d c → c.Proper d.service ∧
        ∀ finds guid, (c.make { d.service with finds }).1 ≠ .error (.unknownNote guid) := by
  have coherent : d.Coherent := run.induct Coherent.step blank.coherent
  obtain ⟨notes, last, listed⟩ := coherent.known ends
  obtain ⟨kept, recovery, keeps⟩ := coherent.kept ends
  refine ⟨⟨notes, last, fun n mem => (listed n mem).held⟩,
    ⟨kept, recovery, fun n mem => (keeps n mem).held⟩, fun r => ⟨r.work_asks d, fun c call => ?_⟩⟩
  have proper : c.Proper d.service := call.proper coherent ends
  exact ⟨proper, fun finds guid => proper.searched.known guid⟩

/-- A desk that keeps its files in a directory still to be made, whose editor adds to a note. -/
def addingDesk : Desk where
  store := .files .missing
  editor := fun _ =>
    ⟨some (.file (Utf8.encode "---\ntitle: Shopping\n---\nmilk\neggs\n".toList)), .ok ()⟩

/-- The desk with one note, which was listed. -/
def countedDesk : Desk :=
  ((Request.list none none none).work.perform
    { addingDesk with service := (addingDesk.service.add "Groceries" none "milk").2 }).2

/-- The desk after the service ceased to take updates and the note was edited by its number. -/
def strandedDesk : Desk :=
  ((Request.edit "1" none {}).work.perform
    { countedDesk with
      service :=
        { countedDesk.service with createRefusal := none, updateRefusal := some "offline" } }).2

theorem run_strandedDesk : Run (fun _ _ => True) addingDesk strandedDesk := by
  have added : Run (fun _ _ => True) addingDesk
      { addingDesk with service := (addingDesk.service.add "Groceries" none "milk").2 } :=
    .single (.service (.add "Groceries" none "milk"))
  have counted : Run (fun _ _ => True) addingDesk countedDesk :=
    added.tail (.request (.list none none none) trivial)
  have refused := counted.tail (.service (.refuse none (some "offline")))
  exact refused.tail (.request (.edit "1" none {}) trivial)

theorem Run.integrity_strandedDesk :
    addingDesk.Blank ∧ strandedDesk.service.clock ≤ Json.maxTime ∧
      (∃ n, strandedDesk.store.search = .ok [n] ∧ n.title = "Groceries" ∧
        (strandedDesk.service.record? n.guid).isSome) ∧
      ∃ n, strandedDesk.store.recovery = .ok (some n) ∧ n.title = "Shopping" ∧
        (strandedDesk.service.record? n.guid).isSome := by
  have blank : addingDesk.Blank := ⟨rfl, by decide, rfl, rfl⟩
  have ends : strandedDesk.service.clock ≤ Json.maxTime := by decide +kernel
  obtain ⟨⟨notes, last, listed⟩, ⟨kept, recovery, keeps⟩, -⟩ :=
    Run.integrity blank run_strandedDesk ends
  have one : strandedDesk.store.search = .ok
      [{ guid := Guid.ofNumber 1, title := "Groceries", created := 1000, updated := 1000 }] := by
    decide +kernel
  have other : strandedDesk.store.recovery = .ok (some
      { guid := Guid.ofNumber 1, title := "Shopping", body := "milk", md := "milk\neggs"
        created := 1000, updated := 1000 }) := by
    decide +kernel
  obtain rfl := Except.ok.inj (one.symm.trans last)
  obtain rfl := Except.ok.inj (other.symm.trans recovery)
  exact ⟨blank, ends, ⟨_, one, rfl, listed _ List.mem_cons_self⟩, _, other, rfl, keeps _ rfl⟩

end Desk
end NoteDesk
