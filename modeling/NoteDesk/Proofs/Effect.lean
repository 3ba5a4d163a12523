import NoteDesk.Proofs.Atomic
import NoteDesk.Proofs.Edits
import NoteDesk.Proofs.Reached
import NoteDesk.Proofs.Reread
import NoteDesk.Proofs.Wire

/-!
# The effect of an edit session

A session that is done wrote nothing to the service, or it wrote one update, and the record of the
note that it opened has the title and the content that were read back.

* `Service.TookUpdate` is what the service did then, `Service.Timely.tookUpdate` that it does it
  with every update that it takes.
* `Work.perform_settle_ok` and `Work.perform_refreshNotebook_ok`: what the last steps of a session
  came to.
* `Desk.Reachable.session_effect` is the main result.
-/

namespace NoteDesk

/-! ## Updates with content -/

namespace Service

variable {s s' : Service} {guid : Guid} {title content : String}

/-- One update was taken, of the note with an identifier: its record has another title and another
content, and perhaps another notebook, from then on. It is newer than any record was, and nothing
else was written. -/
structure TookUpdate (s s' : Service) (guid : Guid) (title content : String) : Prop where
  sent : ∃ n : Note, n.guid = guid ∧ s'.updated = s.updated ++ [n]
  record : ∃ old notebook, s.Replaced s' guid old
    ⟨{ old.note with title, notebook, updated := s'.clock }, content⟩
  newest : ∀ r ∈ s.records, r.note.updated < s'.clock
  created : s'.created = s.created
  deleted : s'.deleted = s.deleted

theorem Timely.tookUpdate (h : s.Timely) {n : Note} (content : n.body ≠ "") {x : Unit}
    (taken : s.update n = (.ok x, s')) : s.TookUpdate s' n.guid n.title n.body := by
  obtain ⟨old, replaced⟩ := update_replaced taken
  obtain ⟨-, rfl⟩ := update_ok taken
  rw [Record.updated, if_neg content] at replaced
  exact
    { sent := ⟨n, rfl, rfl⟩
      record := ⟨old, _, replaced⟩
      newest := fun r hr => Int.lt_of_le_of_lt (h r hr) s.lt_nextTime
      created := rfl
      deleted := rfl }

/-- Searches that were made before do not matter. -/
theorem TookUpdate.of_finds {finds : Nat}
    (h : ({ s with finds } : Service).TookUpdate s' guid title content) :
    s.TookUpdate s' guid title content :=
  { sent := h.sent
    record := by
      obtain ⟨old, notebook, replaced⟩ := h.record
      exact ⟨old, notebook, replaced.of_finds⟩
    newest := h.newest
    created := h.created
    deleted := h.deleted }

end Service

/-! ## The last steps of a session -/

namespace Work

variable {d d' : Desk} {n edited : Note} {m : EditMode}

theorem perform_refreshNotebook_ok {before : String}
    (h : (refreshNotebook n before).perform d = (.ok edited, d')) :
    (n.notebookName = "" ∨ n.notebookName = before) ∧ edited = n ∨
      ¬(n.notebookName = "" ∨ n.notebookName = before) ∧ ∃ nb,
        (findNotebook n.notebookName).perform d = (.ok nb, d') ∧
        edited = { n with notebook := some (.resolved nb) } := by
  rw [refreshNotebook] at h
  split at h
  next kept => exact .inl ⟨kept, (Except.ok.inj (Prod.mk.inj h).1).symm⟩
  next renamed =>
    obtain ⟨nb, d₁, found, h⟩ := perform_bind_ok.1 h
    obtain ⟨same, rfl⟩ := Prod.mk.inj h
    exact .inr ⟨renamed, nb, found, (Except.ok.inj same).symm⟩

/-- Only the notebook of a note is looked up again. -/
theorem refreshNotebook_gives (n : Note) (before : String) :
    Gives (fun edited => ∃ notebook, edited = { n with notebook }) (refreshNotebook n before) := by
  intro d d' edited h
  rcases perform_refreshNotebook_ok h with ⟨-, rfl⟩ | ⟨-, nb, -, rfl⟩
  · exact ⟨edited.notebook, rfl⟩
  · exact ⟨some (.resolved nb), rfl⟩

theorem perform_settle_ok {s : Session} {report : Report}
    (h : (settle s m).perform d = (.ok report, d')) :
    (report = { messages := [.unchanged s.edited.title] } ∧ d' = d) ∨
      report = { messages := [.saved s.edited.title], affected := [s.edited] } ∧
        (saveChanges s.edited m).perform d = (.ok (), d') := by
  rw [settle] at h
  split at h
  · obtain ⟨same, rfl⟩ := Prod.mk.inj h
    exact .inl ⟨(Except.ok.inj same).symm, rfl⟩
  · obtain ⟨_, d₁, saved, h⟩ := perform_bind_ok.1 h
    obtain ⟨same, rfl⟩ := Prod.mk.inj h
    exact .inr ⟨(Except.ok.inj same).symm, saved⟩

end Work

/-! ## Sessions -/

/-- The request has a session on a note that the service has. -/
inductive Request.Edits : Request → String → Option String → EditMode → Prop where
  | edit (title : String) (notebook : Option String) (m : EditMode) :
      Edits (.edit title notebook m) title notebook m
  | editRecovery (m : EditMode) : Edits (.editRecovery m) "" none { m with recovery := true }

open Desk Work

theorem Request.Edits.work {r : Request} {title : String} {notebook : Option String} {m : EditMode}
    (h : r.Edits title notebook m) : r.work = .report <$> editNote title notebook m := by
  cases h with
  | edit title notebook m => rfl
  | editRecovery m => rfl

namespace Desk

variable {d d' : Desk}

/-- **The effect of an edit session.** At every desk that a run leads to, whatever the mode, the
editor, the input and the converter are: if the session is done, its final document was read to its
end. Then nothing was written to the service, or just one update was, and the record of the note
that was opened has the title and the content that were read; it was created when it was, is deleted
if it was, and is newer than any other. The saved listing and the recovery point are as they were
in both cases. -/
theorem Reachable.session_effect (h : d.Reachable) {r : Request} {title : String}
    {notebook : Option String} {m : EditMode} (edits : r.Edits title notebook m) {a : Answer}
    (done : r.work.perform d = (.ok a, d')) :
    ∃ opened reread, Opens title notebook m d opened ∧ d.Rereads opened m reread ∧
      (a = .report { messages := [.unchanged reread.title] } ∧
          (∃ finds, d'.service = { d.service with finds }) ∨
        (∃ edited, a = .report { messages := [.saved reread.title], affected := [edited] }) ∧
          d.service.TookUpdate d'.service opened.guid reread.title
            (Envelope.wrap (if m.raw then reread.body else d.converter.toWire reread.md))) ∧
      d'.store.search = d.store.search ∧ d'.store.recovery = d.store.recovery := by
  rw [edits.work] at done
  obtain ⟨report, ended, rfl⟩ := perform_map_ok.1 done
  rw [editNote_eq] at ended
  obtain ⟨s, d₁, hsession, hsettle⟩ := perform_bind_ok.1 ended
  obtain ⟨opens, reread, _, d₃, d₄, rereads, -, -, refreshed⟩ :=
    perform_session_ok lookups_consults hsession
  obtain ⟨edited, hedited⟩ := (refreshNotebook_gives _ _).of_eq refreshed
  have unsaved : Unsaved d d₁ := (session_unsaved title notebook m).of_eq hsession
  refine ⟨s.opened, reread, opens, rereads, ?_⟩
  have titled : s.edited.title = reread.title := by rw [hedited]
  rcases perform_settle_ok hsettle with ⟨rfl, rfl⟩ | ⟨rfl, saved⟩
  · rw [titled]
    exact ⟨.inl ⟨rfl, unsaved.service⟩, unsaved.search, unsaved.recovery⟩
  · obtain ⟨service, wireConversions, taken, rfl⟩ := perform_saveChanges_ok saved
    refine ⟨.inr ⟨⟨s.edited, by rw [titled]⟩, ?_⟩, unsaved.search, unsaved.recovery⟩
    obtain ⟨finds, hservice⟩ := unsaved.service
    have timely : d₁.service.Timely := by
      rw [hservice]
      exact h.timely
    have took := timely.tookUpdate (Envelope.wrap_ne_empty _) taken
    have opened : (outgoing d₁ s.edited m.raw).guid = s.opened.guid :=
      ((session_editedTo title notebook m).of_eq hsession).guid
    have content : (outgoing d₁ s.edited m.raw).body =
        Envelope.wrap (if m.raw then reread.body else d.converter.toWire reread.md) := by
      rw [outgoing, hedited, unsaved.converter]
    have titled : (outgoing d₁ s.edited m.raw).title = reread.title := titled
    rw [opened, titled, content, hservice] at took
    exact took.of_finds

/-- A desk with one note, which its editor gives another title and a content. -/
def rewritingDesk : Desk :=
  { stockedDesk with
    editor := fun _ =>
      ⟨some (.file (Utf8.encode "---\ntitle: Shopping\n---\nmilk\n".toList)), .ok ()⟩ }

theorem Reachable.session_effect_rewritingDesk :
    rewritingDesk.Reachable ∧ ∃ opened reread,
      Opens "Groceries" none {} rewritingDesk opened ∧ rewritingDesk.Rereads opened {} reread ∧
        rewritingDesk.service.TookUpdate
          ((Request.edit "Groceries" none {}).work.perform rewritingDesk).2.service opened.guid
          "Shopping" (Envelope.wrap (rewritingDesk.converter.toWire reread.md)) := by
  have stocked : Run (fun _ _ => True) {} stockedDesk := .single (.request _ trivial)
  have reachable : rewritingDesk.Reachable := ⟨{}, rfl, stocked.tail (.surroundings rfl rfl)⟩
  have result : ((Request.edit "Groceries" none {}).work.perform rewritingDesk).1 =
      .ok (.report
        { messages := [.saved "Shopping"], affected := [{ shopping with md := "milk" }] }) := by
    decide +kernel
  obtain ⟨opened, reread, opens, rereads, effect, -⟩ :=
    reachable.session_effect (.edit "Groceries" none {}) (perform_of_result result)
  refine ⟨reachable, opened, reread, opens, rereads, ?_⟩
  rcases effect with ⟨unchanged, -⟩ | ⟨⟨edited, saved⟩, took⟩
  · cases unchanged
  · have titled : reread.title = "Shopping" := by
      have messages := congrArg Report.messages (Answer.report.inj saved)
      simpa using messages.symm
    rwa [titled] at took

end Desk
end NoteDesk
