import NoteDesk.Proofs.Command
import NoteDesk.Proofs.Digits
import NoteDesk.Proofs.Run
import NoteDesk.Proofs.Service

/-!
# Requests are atomic at the service

A request that fails leaves every record of the service as it was. One that is done adds or changes
at most one record, that of the only note it tells of.

* `Service.Numbered` is the invariant behind it: the records are of notes with the identifiers that
  were given in turn, so no two are of the same note. `Desk.Reachable.numbered` has it of every desk
  that a run leads to.
* `Service.Wrote` is what became of the records; the changes of the service come first, and
  `Work.Atomic` puts work together from them.
* `Work.request_atomic` is the main result.
-/

namespace NoteDesk

namespace Service

variable {s s' : Service} {records records' : List Record}

/-! ## The records of a service -/

/-- Every record is of the note whose number is its place. -/
def Numbered (records : List Record) : Prop :=
  ∀ i r, records[i]? = some r → r.note.guid = Guid.ofNumber (i + 1)

/-- At most one record was added or changed, and it is that of the only note written. -/
inductive OneWritten (written : List Note) (records : List Record) : List Record → Prop where
  | none : OneWritten written records records
  | added {n : Note} {r : Record} (only : written = [n]) (same : r.note.guid = n.guid)
      (next : n.guid = Guid.ofNumber (records.length + 1))
      (new : ∀ old ∈ records, old.note.guid ≠ n.guid) :
      OneWritten written records (records ++ [r])
  | changed {n : Note} {i : Nat} {old r : Record} (only : written = [n])
      (found : records[i]? = some old) (was : old.note.guid = n.guid)
      (same : r.note.guid = n.guid) :
      OneWritten written records (records.set i r)

/-- What became of the records: what failed wrote nothing. -/
def Wrote {ε α : Type} (written : α → List Note) (records : List Record) :
    Except ε α → List Record → Prop
  | .ok a, records' => OneWritten (written a) records records'
  | .error _, records' => records' = records

theorem Numbered.append (h : Numbered records) {r : Record}
    (next : r.note.guid = Guid.ofNumber (records.length + 1)) : Numbered (records ++ [r]) := by
  intro i old hold
  rw [List.getElem?_append] at hold
  split at hold
  · exact h i old hold
  next after =>
    rw [List.getElem?_singleton] at hold
    split at hold
    next last =>
      obtain rfl := Option.some.inj hold
      have : i = records.length := by omega
      rw [next, this]
    · cases hold

/-- Two records of the same note are one record. -/
theorem Numbered.unique (h : Numbered records) {i j : Nat} {r r' : Record}
    (hi : records[i]? = some r) (hj : records[j]? = some r') (same : r.note.guid = r'.note.guid) :
    i = j := by
  have numbers : Guid.ofNumber (i + 1) = Guid.ofNumber (j + 1) := by
    rw [← h i r hi, ← h j r' hj, same]
  have := Guid.ofNumber_inj numbers
  omega

theorem OneWritten.numbered {written : List Note} (h : Numbered records)
    (w : OneWritten written records records') : Numbered records' := by
  cases w with
  | none => exact h
  | added _ same next _ => exact h.append (same.trans next)
  | changed _ found was same =>
    intro j r hr
    rw [List.getElem?_set] at hr
    split at hr
    next hij =>
      subst hij
      split at hr
      · obtain rfl := Option.some.inj hr
        rw [same, ← was]
        exact h _ _ found
      · cases hr
    · exact h j r hr

theorem Wrote.numbered {ε α : Type} {written : α → List Note} {r : Except ε α}
    (h : Numbered records) (w : Wrote written records r records') : Numbered records' := by
  cases r with
  | ok a => exact OneWritten.numbered h w
  | error cause => exact Eq.symm w ▸ h

/-! ## The changes of a service -/

/-- The identifier of the next note is that of no record. -/
theorem Numbered.nextGuid_new (h : Numbered s.records) :
    ∀ old ∈ s.records, old.note.guid ≠ s.nextGuid := by
  intro old hold same
  obtain ⟨i, hi, rfl⟩ := List.getElem_of_mem hold
  have number := h i _ (List.getElem?_eq_getElem hi)
  have := Guid.ofNumber_inj (number.symm.trans same)
  omega

/-- Changing the record of a note changes one record. -/
theorem Numbered.change (h : Numbered s.records) {guid : Guid} (found : (s.record? guid).isSome) :
    ∃ (i : Nat) (old : Record), s.records[i]? = some old ∧ old.note.guid = guid ∧
      ∀ f, (s.change guid f).records = s.records.set i (f old) := by
  obtain ⟨old, hold⟩ := Option.isSome_iff_exists.1 found
  obtain ⟨i, hi, rfl⟩ := List.getElem_of_mem (List.mem_of_find?_eq_some hold)
  have was : (s.records[i]).note.guid = guid := by simpa using List.find?_some hold
  refine ⟨i, s.records[i], List.getElem?_eq_getElem hi, was, fun f => ?_⟩
  apply List.ext_getElem?
  intro j
  rw [Service.change, List.getElem?_map, List.getElem?_set]
  by_cases hij : i = j
  · subst hij
    rw [if_pos rfl, if_pos hi, List.getElem?_eq_getElem hi, Option.map_some, if_pos was]
  · rw [if_neg hij]
    cases hr : s.records[j]? with
    | none => rfl
    | some r =>
      have other : r.note.guid ≠ guid := by
        intro same
        exact hij (h.unique (List.getElem?_eq_getElem hi) hr (was.trans same.symm))
      rw [Option.map_some, if_neg other]

theorem update_wrote (h : Numbered s.records) {n sent : Note} (copy : sent.guid = n.guid) :
    Wrote (fun _ => [n]) s.records (s.update sent).1 (s.update sent).2.records := by
  rcases hupdate : s.update sent with ⟨r, s'⟩
  cases r with
  | error cause => exact update_error hupdate
  | ok _ =>
    obtain ⟨found, rfl⟩ := update_ok hupdate
    obtain ⟨i, old, hold, was, changed⟩ := Numbered.change
      (s := { s with updated := s.updated ++ [sent], clock := s.nextTime }) h found
    dsimp only
    rw [changed]
    exact .changed rfl hold (was.trans copy) (was.trans copy)

theorem delete_wrote (h : Numbered s.records) (n : Note) :
    Wrote (fun _ => [n]) s.records (s.delete n.guid).1 (s.delete n.guid).2.records := by
  rcases hdelete : s.delete n.guid with ⟨r, s'⟩
  cases r with
  | error cause => exact congrArg records (delete_error hdelete)
  | ok _ =>
    obtain ⟨found, rfl⟩ := delete_ok hdelete
    obtain ⟨i, old, hold, was, changed⟩ := h.change found
    dsimp only
    rw [changed]
    exact .changed rfl hold was was

theorem create_wrote (h : Numbered s.records) (n : Note) :
    Wrote (fun created => [created]) s.records (s.create n).1 (s.create n).2.records := by
  rcases hcreate : s.create n with ⟨r, s'⟩
  cases r with
  | error cause => exact congrArg records (create_error hcreate)
  | ok created =>
    obtain ⟨rfl, rfl⟩ := create_ok hcreate
    exact .added rfl rfl rfl h.nextGuid_new

/-- Whatever is done with the service, its records stay numbered. -/
theorem Numbered.step (h : Numbered s.records) (step : s.Step s') : Numbered s'.records := by
  cases step with
  | addNotebook nb => exact h
  | add title notebook content => exact h.append rfl
  | create n => exact (create_wrote h n).numbered h
  | update n => exact (update_wrote h (n := n) rfl).numbered h
  | delete guid => exact (delete_wrote h { guid }).numbered h
  | find q offset count => exact h
  | refuse createRefusal updateRefusal => exact h

end Service

/-- The records of the service. -/
def Desk.records (d : Desk) : List Record :=
  d.service.records

namespace Work

open Desk Service

variable {α β : Type} {written : α → List Note}

/-! ## Work that writes one note at most -/

/-- Work that fails wrote nothing, and work that is done wrote at most the note that it says it
wrote. -/
def Atomic (written : α → List Note) (w : Work α) : Prop :=
  ∀ d, Numbered d.records → Wrote written d.records (w.perform d).1 (w.perform d).2.records

namespace Atomic

/-- Work that leaves the records as they were. -/
theorem of_same {w : Work α} (hw : Leads (Same Desk.records) w) : Atomic written w := by
  intro d _
  have same : (w.perform d).2.records = d.records := hw d
  rw [same]
  cases (w.perform d).1 with
  | ok a => exact .none
  | error cause => rfl

theorem pure (a : α) : Atomic written (pure a : Work α) :=
  of_same (.pure a)

theorem bind {written : β → List Note} {w : Work α} {f : α → Work β}
    (hw : Leads (Same Desk.records) w) (hf : ∀ a, Atomic written (f a)) :
    Atomic written (w >>= f) := by
  intro d hd
  rcases h : w.perform d with ⟨r, d₁⟩
  have same : d₁.records = d.records := hw.of_eq h
  cases r with
  | error cause =>
    rw [perform_bind_of_error h]
    exact same
  | ok a =>
    rw [perform_bind_of_ok h, ← same]
    exact hf a d₁ (same ▸ hd)

theorem map {written : β → List Note} {w : Work α} (f : α → β)
    (hw : Atomic (fun a => written (f a)) w) : Atomic written (f <$> w) := by
  intro d hd
  have wrote := hw d hd
  rw [perform_map]
  cases h : (w.perform d).1 with
  | ok a => rwa [h] at wrote
  | error cause => rwa [h] at wrote

theorem tryCatch {w : Work α} {f : Failure → Work α} (hw : Atomic written w)
    (hf : ∀ cause, Leads (Same Desk.records) (f cause)) :
    Atomic written (tryCatch w f) := by
  intro d hd
  have wrote := hw d hd
  rw [perform_tryCatch]
  rcases h : w.perform d with ⟨r, d₁⟩
  rw [h] at wrote
  cases r with
  | ok a => exact wrote
  | error cause =>
    have same : d₁.records = d.records := wrote
    dsimp only
    rw [← same]
    exact of_same (hf cause) d₁ (same ▸ hd)

theorem changeService {change : Service → Except RemoteError α × Service}
    (h : ∀ s : Service, Numbered s.records →
      Wrote written s.records (change s).1 (change s).2.records) :
    Atomic written (changeService change) := by
  intro d hd
  have wrote := h d.service hd
  rcases hchange : change d.service with ⟨r, service⟩
  rw [perform_changeService hchange]
  rw [hchange] at wrote
  cases r with
  | ok a => exact wrote
  | error cause => exact wrote

end Atomic

/-! ## Work that leaves the records -/

theorem records_of_unsaved {d d' : Desk} (h : Unsaved d d') : Same Desk.records d d' := by
  obtain ⟨finds, hfinds⟩ := h.service
  rw [Same, Desk.records, hfinds, Desk.records]

theorem records_of_looksUp {d d' : Desk} (h : LooksUp d d') : Same Desk.records d d' :=
  records_of_unsaved (.ofLooksUp h)

/-! ## The writes -/

theorem saveChanges_atomic (n : Note) (m : EditMode) :
    Atomic (fun _ => [n]) (saveChanges n m) := by
  refine .bind (.wireContent fun _ _ => rfl) fun body => ?_
  refine .tryCatch (.changeService fun s h => update_wrote h rfl) fun cause => ?_
  exact .keepForRecovery (fun _ _ _ => rfl) fun _ => rfl

theorem saveMetadata_atomic (n : Note) : Atomic (fun _ => [n]) (saveMetadata n) :=
  .changeService fun _ h => update_wrote h rfl

theorem saveNew_atomic (n : Note) (raw : Bool) :
    Atomic (fun created => [created]) (saveNew n raw) :=
  .bind (.newContent fun _ _ => rfl) fun _ => .changeService fun _ h => create_wrote h _

/-! ## Requests -/

theorem editNote_atomic (title : String) (notebook : Option String) (m : EditMode) :
    Atomic Report.affected (editNote title notebook m) := by
  rw [editNote_eq]
  refine .bind ((session_unsaved title notebook m).mono records_of_unsaved) fun s => ?_
  unfold settle
  split
  · exact .pure _
  · exact .map _ (saveChanges_atomic s.edited m)

theorem editNew_atomic (n : Note) (m : EditMode) : Atomic Report.affected (editNew n m) := by
  rw [editNew_eq]
  exact .bind ((editDocument_unsaved n m).mono records_of_unsaved) fun edited =>
    .map _ (saveNew_atomic edited m.raw)

theorem createNote_atomic (title notebook : Option String) (edited : Bool) (m : EditMode) :
    Atomic Report.affected (createNote title notebook edited m) := by
  rw [createNote_eq]
  refine .bind ((newNote_looksUp title notebook).mono records_of_looksUp) fun n => ?_
  split
  · exact editNew_atomic n m
  · exact .map _ (saveNew_atomic n m.raw)

theorem listNotes_records (words notebook : Option String) (count : Option Nat) :
    Leads (Same Desk.records) (listNotes words notebook count) := by
  refine .bind ((notebookGuid?_looksUp notebook).mono records_of_looksUp) fun guid => ?_
  refine .bind .get fun d => ?_
  refine .bind ((search_looksUp _ _).mono records_of_looksUp) fun listed => ?_
  refine .bind (.changeStore (fun _ _ _ => rfl) fun _ => rfl) fun _ => ?_
  exact .map _ (knownNotebooks_looksUp.mono records_of_looksUp)

theorem renameNote_atomic (old new : String) : Atomic Report.affected (renameNote old new) := by
  refine .bind ((findNote_looksUp old none).mono records_of_looksUp) fun n => ?_
  exact .map _ (saveMetadata_atomic { n with title := new })

theorem moveNote_atomic (title notebook : String) :
    Atomic Report.affected (moveNote title notebook) := by
  refine .bind ((findNote_looksUp title none).mono records_of_looksUp) fun n => ?_
  refine .bind ((findNotebook_looksUp notebook).mono records_of_looksUp) fun nb => ?_
  split
  · exact .pure _
  · exact .map _ (saveMetadata_atomic _)

theorem deleteNote_atomic (title : String) (notebook : Option String) :
    Atomic Report.affected (deleteNote title notebook) := by
  refine .bind ((findNote_looksUp title notebook).mono records_of_looksUp) fun n => ?_
  exact .map _ (.changeService fun _ h => delete_wrote h n)

end Work

open Work

/-- **Requests are atomic** where the records are numbered. -/
theorem Request.work_atomic (r : Request) : Atomic Answer.affected r.work := by
  cases r with
  | edit title notebook m => exact .map _ (editNote_atomic title notebook m)
  | editRecovery m => exact .map _ (editNote_atomic "" none { m with recovery := true })
  | create title notebook edited m => exact .map _ (createNote_atomic title notebook edited m)
  | list words notebook count => exact .of_same (.map _ (listNotes_records words notebook count))
  | rename old new => exact .map _ (renameNote_atomic old new)
  | move title notebook => exact .map _ (moveNote_atomic title notebook)
  | delete title notebook => exact .map _ (deleteNote_atomic title notebook)
  | get title notebook =>
    exact .of_same (.map _ ((findNote_looksUp title notebook).mono records_of_looksUp))
  | getContent title notebook =>
    exact .of_same (.map _ ((openNote_looksUp title notebook).mono records_of_looksUp))

/-! ## Runs -/

namespace Desk

variable {d d' : Desk}

theorem Step.numbered {allowed : Request → Desk → Prop} (step : Step allowed d d')
    (h : Service.Numbered d.records) : Service.Numbered d'.records := by
  cases step with
  | request r _ => exact (r.work_atomic d h).numbered h
  | service served => exact Service.Numbered.step h served
  | refusal _ _ => exact h
  | surroundings service _ => rwa [Desk.records, service]

/-- **The records are numbered** at every desk that a run leads to. -/
theorem Reachable.numbered (h : d.Reachable) : Service.Numbered d.records := by
  obtain ⟨d₀, empty, run⟩ := h
  refine run.induct Step.numbered fun i r hr => ?_
  rw [Desk.records, empty] at hr
  cases hr

end Desk

/-- **Requests are atomic at the service.** At every desk that a run leads to, whatever the editor,
the converter, the input, the cache and the local store do and whatever the service refuses: a
request that fails leaves all records as they were, and one that is done adds or changes at most
one, that of the only note it tells of. -/
theorem Desk.Reachable.request_atomic {d : Desk} (h : d.Reachable) (r : Request) :
    match r.work.perform d with
    | (.error _, d') => d'.service.records = d.service.records
    | (.ok a, d') => Service.OneWritten a.affected d.service.records d'.service.records := by
  have wrote := r.work_atomic d h.numbered
  rcases hperform : r.work.perform d with ⟨result, d'⟩
  rw [hperform] at wrote
  cases result with
  | ok a => exact wrote
  | error cause => exact wrote

namespace Desk

/-- The desk at which an empty note was created as the first. -/
def stockedDesk : Desk :=
  ((Request.create (some "Groceries") none false {}).work.perform {}).2

/-- The note of that desk, with another title. -/
def shopping : Note :=
  { guid := Guid.ofNumber 1, title := "Shopping", created := 1000, updated := 1000 }

theorem Reachable.request_atomic_stockedDesk :
    stockedDesk.Reachable ∧ Service.OneWritten [shopping] stockedDesk.service.records
      ((Request.rename "Groceries" "Shopping").work.perform stockedDesk).2.service.records := by
  have reachable : stockedDesk.Reachable := ⟨{}, rfl, .single (.request _ trivial)⟩
  have result : ((Request.rename "Groceries" "Shopping").work.perform stockedDesk).1 =
      .ok (.report { messages := [.renamed "Groceries" "Shopping"], affected := [shopping] }) := by
    decide +kernel
  have performed := Prod.ext (y := (_, _)) result rfl
  have atomic := reachable.request_atomic (.rename "Groceries" "Shopping")
  rw [performed] at atomic
  exact ⟨reachable, atomic⟩

end Desk
end NoteDesk
