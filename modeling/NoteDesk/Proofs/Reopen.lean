import NoteDesk.Proofs.Bound
import NoteDesk.Proofs.Effect

/-!
# Opening a note again

What a session in raw mode saved is what the service hands out afterwards, in its envelope. Opening
the note takes it out of the envelope and turns it into markdown as well, so a body in which a tag
never ends can be saved as it is and not be opened again.

* `Request.Edits.saved` and `Request.create_saved`: the content that the service has after a session
  that saved a note. `Request.raw_saved` is both of them.
* `Desk.Reachable.raw_session_reopens`: when the body that was saved can be opened again.
  `Desk.raw_session_locked` is a body that can not.
-/

namespace NoteDesk

/-- A note that is created has the content that it was sent with. -/
theorem Service.Numbered.content_create {s s' : Service} {n created : Note}
    (h : Numbered s.records) (done : s.create n = (.ok created, s')) :
    s'.content created.guid = .ok n.body := by
  obtain ⟨rfl, rfl⟩ := create_ok done
  have fresh : s.records.find? (·.note.guid == s.nextGuid) = none := by
    rw [List.find?_eq_none]
    intro old hold
    simpa using h.nextGuid_new old hold
  rw [Service.content, Service.record?, List.find?_append, fresh]
  simp

namespace Request

open Desk Work

variable {d d' : Desk} {r : Request} {a : Answer} {kept : Note}

/-- The request has a session in raw mode. -/
def hasRawSession : Request → Bool
  | edit _ _ m => m.raw
  | editRecovery m => m.raw
  | create _ _ edited m => (edited || m.stdin) && m.raw
  | _ => false

/-- An edit that was saved was read from its final document, and the service has its content
then. -/
theorem Edits.saved {title : String} {notebook : Option String} {m : EditMode}
    (edits : r.Edits title notebook m) (done : r.work.perform d = (.ok a, d'))
    (saved : kept ∈ a.affected) :
    ∃ opened reread, r.Opens d m opened ∧ d.Rereads opened m reread ∧
      d'.service.content kept.guid =
        .ok (Envelope.wrap (if m.raw then reread.body else d.converter.toWire reread.md)) := by
  rw [edits.work] at done
  obtain ⟨report, ended, rfl⟩ := perform_map_ok.1 done
  rw [editNote_eq] at ended
  obtain ⟨s, d₁, hsession, hsettle⟩ := perform_bind_ok.1 ended
  obtain ⟨opens, reread, _, _, _, rereads, -, -, refreshed⟩ := perform_session_ok lookups_consults hsession
  obtain ⟨_, hedited⟩ := (refreshNotebook_gives _ _).of_eq refreshed
  have unsaved : Unsaved d d₁ := (session_unsaved title notebook m).of_eq hsession
  refine ⟨s.opened, reread, .old edits opens, rereads, ?_⟩
  rcases perform_settle_ok hsettle with ⟨rfl, -⟩ | ⟨rfl, sent⟩
  · cases saved
  · obtain rfl : kept = s.edited := List.mem_singleton.1 saved
    obtain ⟨service, wireConversions, taken, rfl⟩ := perform_saveChanges_ok sent
    have content : (outgoing d₁ s.edited m.raw).body =
        Envelope.wrap (if m.raw then reread.body else d.converter.toWire reread.md) := by
      rw [outgoing, hedited, unsaved.converter]
    rw [← content]
    exact Service.content_update taken (Envelope.wrap_ne_empty _)

/-- A new note that was edited in raw mode and created was read from its final document, and the
service has its body then. -/
theorem create_saved (numbered : Service.Numbered d.records) {title notebook : Option String}
    {edited : Bool} {m : EditMode} (session : edited || m.stdin) (raw : m.raw = true)
    (done : (create title notebook edited m).work.perform d = (.ok a, d'))
    (saved : kept ∈ a.affected) :
    ∃ opened reread, (create title notebook edited m).Opens d m opened ∧
      d.Rereads opened m reread ∧
      d'.service.content kept.guid = .ok (Envelope.wrap reread.body) := by
  obtain ⟨report, ended, rfl⟩ := perform_map_ok.1 done
  rw [createNote_eq] at ended
  obtain ⟨opened, d₁, opens, ended⟩ := perform_bind_ok.1 ended
  rw [if_pos session, editNew_eq] at ended
  obtain ⟨n, d₂, hedit, ended⟩ := perform_bind_ok.1 ended
  obtain ⟨created, d₃, hsave, ended⟩ := perform_bind_ok.1 ended
  obtain ⟨same, rfl⟩ := Prod.mk.inj ended
  obtain rfl := Except.ok.inj same
  obtain rfl : kept = created := List.mem_singleton.1 saved
  have looked : LooksUp d d₁ := (newNote_looksUp title notebook).of_eq opens
  obtain ⟨reread, _, _, rereads, -, refreshed⟩ := perform_editDocument_ok hedit
  obtain ⟨_, hedited⟩ := (refreshNotebook_gives _ _).of_eq refreshed
  have body : n.body = reread.body := by rw [hedited]
  refine ⟨opened, reread, .new opens, rereads.congr looked.editor looked.input, ?_⟩
  have unsaved : Unsaved d d₂ :=
    (Unsaved.ofLooksUp looked).trans ((editDocument_unsaved opened m).of_eq hedit)
  have still : Service.Numbered d₂.service.records := by
    obtain ⟨finds, service⟩ := unsaved.service
    rw [service]
    exact numbered
  obtain ⟨service, taken, rfl⟩ := perform_saveNew_ok hsave
  have sent : newBody d₂ n m.raw = Envelope.wrap reread.body := by rw [newBody, if_pos raw, body]
  rw [← sent]
  exact still.content_create taken

/-- **What a session in raw mode saves is what the service has then**, as it was read from the final
document. -/
theorem raw_saved (numbered : Service.Numbered d.records) (raw : r.hasRawSession)
    (done : r.work.perform d = (.ok a, d')) (saved : kept ∈ a.affected) :
    ∃ m opened reread, r.Opens d m opened ∧ d.Rereads opened m reread ∧
      d'.service.content kept.guid = .ok (Envelope.wrap reread.body) := by
  cases r with
  | edit title notebook m =>
    have raw : m.raw = true := raw
    obtain ⟨opened, reread, opens, rereads, content⟩ :=
      (Edits.edit title notebook m).saved done saved
    rw [raw, if_pos rfl] at content
    exact ⟨m, opened, reread, opens, rereads, content⟩
  | editRecovery m =>
    have raw : m.raw = true := raw
    obtain ⟨opened, reread, opens, rereads, content⟩ := (Edits.editRecovery m).saved done saved
    rw [raw, if_pos rfl] at content
    exact ⟨_, opened, reread, opens, rereads, content⟩
  | create title notebook edited m =>
    obtain ⟨session, raw⟩ := Bool.and_eq_true_iff.1 raw
    exact ⟨m, create_saved numbered session raw done saved⟩
  | _ => cases raw

end Request

namespace Work

open Desk

/-- A note that cannot be opened cannot be edited. -/
theorem editNote_of_openNote_error {d : Desk} {title : String} {notebook : Option String}
    {m : EditMode} {cause : Failure} (fresh : m.recovery = false)
    (failed : ((openNote title notebook).perform d).1 = .error cause) :
    ((editNote title notebook m).perform d).1 = .error cause := by
  have first : (noteToEdit title notebook m).perform d =
      (.error cause, ((openNote title notebook).perform d).2) := by
    rw [noteToEdit, fresh, if_neg Bool.false_ne_true]
    exact perform_of_result failed
  rw [editNote, perform_bind_of_error first]

end Work

namespace Desk

open Work

variable {d d' : Desk}

/-- **What raw mode saved opens again unless one of its tags never ends.** At every desk that a run
leads to, after any session in raw mode that saved a note, whatever its editor left or its input
held: the service has the body that was read from the final document. Looking the note up with the
markdown converter then gives exactly this body, if all its tags end. If one of them never does, the
first of these is told instead, and the note cannot be edited as the service has it, in raw mode or
not. -/
theorem Reachable.raw_session_reopens (h : d.Reachable) {r : Request} (raw : r.hasRawSession)
    {a : Answer} (done : r.work.perform d = (.ok a, d')) {kept : Note}
    (saved : kept ∈ a.affected) :
    ∃ m opened reread, r.Opens d m opened ∧ d.Rereads opened m reread ∧
      d'.service.content kept.guid = .ok (Envelope.wrap reread.body) ∧
      ∀ (title : String) (notebook : Option String) (found : Note) (d₁ : Desk),
        (findNote title notebook).perform { d' with converter := .markdown } = (.ok found, d₁) →
        found.guid = kept.guid →
        (¬Markup.Unclosed reread.body.toList →
          ∃ md, ((openNote title notebook).perform { d' with converter := .markdown }).1 =
            .ok { found with body := reread.body, md }) ∧
        (Markup.Unclosed reread.body.toList →
          ∃ before inner, Markup.FirstUnclosed reread.body.toList before inner ∧
            ((openNote title notebook).perform { d' with converter := .markdown }).1 =
              .error (.unterminatedTag (Utf8.size before)) ∧
            ∀ m' : EditMode, m'.recovery = false →
              ((editNote title notebook m').perform { d' with converter := .markdown }).1 =
                .error (.unterminatedTag (Utf8.size before))) := by
  obtain ⟨m, opened, reread, opens, rereads, content⟩ :=
    Request.raw_saved h.numbered raw done saved
  refine ⟨m, opened, reread, opens, rereads, content, ?_⟩
  intro title notebook found d₁ lookup same
  have looked : LooksUp { d' with converter := .markdown } d₁ :=
    (findNote_looksUp title notebook).of_eq lookup
  have fetched : d₁.service.content found.guid = .ok (Envelope.wrap reread.body) := by
    obtain ⟨finds, service⟩ := looked.service
    rw [service, same]
    exact content
  have opening : ((openNote title notebook).perform { d' with converter := .markdown }).1 =
      (Markup.toMarkdown reread.body).map fun md => { found with body := reread.body, md } := by
    have converter : d₁.converter = .markdown := looked.converter
    rw [perform_openNote lookup fetched, Envelope.unwrap_wrap, converter, Converter.markdown]
  rcases Markup.toMarkdown_cases reread.body with
    ⟨closed, md, hmd⟩ | ⟨before, inner, first, failed⟩
  · refine ⟨fun _ => ⟨md, ?_⟩, fun unclosed => absurd unclosed closed⟩
    rw [opening, hmd]
    rfl
  · rw [failed] at opening
    refine ⟨fun closed => absurd first.some closed, fun _ => ⟨before, inner, first, opening, ?_⟩⟩
    intro m' fresh
    exact editNote_of_openNote_error fresh opening

/-- A desk with one note, whose editor leaves a body for it. -/
def bodyDesk (body : String) : Desk :=
  { stockedDesk with
    editor := fun _ =>
      ⟨some (.file (Utf8.encode ("---\ntitle: Groceries\n---\n" ++ body).toList)), .ok ()⟩ }

theorem reachable_bodyDesk (body : String) : (bodyDesk body).Reachable := by
  have stocked : Run (fun _ _ => True) {} stockedDesk := .single (.request _ trivial)
  exact ⟨{}, rfl, stocked.tail (.surroundings rfl rfl)⟩

/-- The edit of that note in raw mode. -/
def rawEdit : Request := .edit "Groceries" none { raw := true }

/-- The note of that desk, as the service has it after it was saved. -/
def savedNote : Note :=
  { shopping with title := "Groceries", updated := 2000 }

theorem Reachable.raw_session_reopens_bold :
    ∃ md, ((openNote "Groceries" none).perform
      { (rawEdit.work.perform (bodyDesk "<b>bread</b>")).2 with converter := .markdown }).1 =
        .ok { savedNote with body := "<b>bread</b>", md } := by
  obtain ⟨result, kept, lookup⟩ :
      (rawEdit.work.perform (bodyDesk "<b>bread</b>")).1 =
          .ok (.report
            { messages := [.saved "Groceries"]
              affected := [{ shopping with title := "Groceries", body := "<b>bread</b>" }] }) ∧
        (rawEdit.work.perform (bodyDesk "<b>bread</b>")).2.service.content savedNote.guid =
          .ok (Envelope.wrap "<b>bread</b>") ∧
        ((findNote "Groceries" none).perform
          { (rawEdit.work.perform (bodyDesk "<b>bread</b>")).2 with converter := .markdown }).1 =
            .ok savedNote := by
    decide +kernel
  obtain ⟨_, _, reread, _, _, content, reopens⟩ :=
    (reachable_bodyDesk _).raw_session_reopens (r := rawEdit) rfl (perform_of_result result)
      (List.mem_singleton_self _)
  have body : reread.body = "<b>bread</b>" := by
    have same := Except.ok.inj (content.symm.trans kept)
    rw [← Envelope.unwrap_wrap reread.body, same, Envelope.unwrap_wrap]
  have closed : ¬Markup.Unclosed ("<b>bread</b".toList ++ '>' :: []) :=
    Markup.not_unclosed_append (Markup.not_unclosed_of_notMem (by decide))
  have reopened := (reopens "Groceries" none savedNote _ (perform_of_result lookup) rfl).1
  rw [body] at reopened
  exact reopened closed

/-- **A comparison locks its note.** It is saved as it is, and then the note can neither be opened
nor be edited in raw mode, for its `<` is taken for a tag. -/
theorem raw_session_locked :
    (bodyDesk "a < b").Reachable ∧
      (rawEdit.work.perform (bodyDesk "a < b")).1 =
        .ok (.report
          { messages := [.saved "Groceries"]
            affected := [{ shopping with title := "Groceries", body := "a < b" }] }) ∧
      ((openNote "Groceries" none).perform
        { (rawEdit.work.perform (bodyDesk "a < b")).2 with converter := .markdown }).1 =
          .error (.unterminatedTag 2) ∧
      (rawEdit.work.perform (rawEdit.work.perform (bodyDesk "a < b")).2).1 =
        .error (.unterminatedTag 2) := by
  refine ⟨reachable_bodyDesk _, ?_⟩
  decide +kernel

end Desk
end NoteDesk
