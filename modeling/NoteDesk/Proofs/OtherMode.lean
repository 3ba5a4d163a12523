import NoteDesk.Proofs.Recovery
import NoteDesk.Proofs.Reopen
import NoteDesk.Proofs.RoundTrip

/-!
# Recovery in the other mode

A session edits one of the two contents of a note, and leaves the other one as it was. When the edit
is refused by the service and kept for recovery, so is the other content, and a recovery in the other
mode works on that.

* `Desk.carriedOver` is the content that a session does not edit.
* `Converter.Expresses`: what the edit is in the other form.
* `Work.refused_edit_other_mode` is the main result, `Work.stale_recovery` an edit that is undone by
  its own recovery.
-/

namespace NoteDesk

/-- The content of the other form that a session leaves its note with: the one that the note was
opened with, or the text that filled both. -/
def Desk.carriedOver (d : Desk) (s : Work.Session) (m : EditMode) : Option String :=
  if m.stdin then Utf8.toString? d.input else some (s.opened.content (!m.raw))

/-- The text is a note's content of the other form than given, converted to the form given: to wire
markup if `raw`, and to markdown otherwise. -/
def Converter.Expresses (c : Converter) (n : Note) (raw : Bool) (text : String) : Prop :=
  if raw then c.toWire n.md = text else c.toMarkdown n.body = .ok text

/-! ## Documents of another content -/

namespace Document

theorem header_withContent (n : Note) (raw : Bool) (text : String) :
    Header.render (n.withContent raw text) = Header.render n := by
  cases raw <;> rfl

/-- Documents with the same header differ as their contents do, up to a last line feed. -/
theorem render_withContent_iff (n : Note) (m : EditMode) (text : String) :
    render n m = render (n.withContent m.raw text) m ↔
      withLastFeed (n.content m.raw).toList = withLastFeed text.toList := by
  rw [render_eq, render_eq, header_withContent, Note.content_withContent, List.append_cancel_left_eq]

end Document

namespace Work

open Desk

variable {title : String} {notebook : Option String} {m m' : EditMode} {d d₁ d' : Desk} {s : Session}

/-- A session leaves the other content as it was. -/
theorem session_carriedOver (h : (session title notebook m).perform d = (.ok s, d₁)) :
    d.carriedOver s m = some (s.edited.content (!m.raw)) := by
  obtain ⟨-, reread, _, _, _, ⟨base, content, final, parsed⟩, -, -, refreshed⟩ :=
    perform_session_ok lookups_consults h
  obtain ⟨_, hedited⟩ := (refreshNotebook_gives _ _).of_eq refreshed
  have other : s.edited.content (!m.raw) = base.content (!m.raw) := by
    have same := Document.otherContent_parse content base m
    rw [parsed] at same
    rw [hedited, ← same]
    rfl
  rw [other, carriedOver]
  rw [finalDocument?] at final
  split_ifs at final ⊢
  · obtain ⟨text, input, filled⟩ := Option.map_eq_some_iff.1 final
    obtain ⟨rfl, -⟩ := Prod.mk.inj filled
    rw [input, Note.filled, Note.content]
    split_ifs <;> rfl
  · split at final
    · obtain ⟨rfl, -⟩ := Prod.mk.inj (Option.some.inj final)
      rfl
    · cases final

/-- What a session opens to recover a note is that note, with its notebook looked up. -/
theorem opens_editRecovery {n opened : Note} (kept : d.kept = .ok (some n))
    (h : (Request.editRecovery m).Opens d { m with recovery := true } opened) :
    ∃ d₂, (withNotebook n).perform d = (.ok opened, d₂) := by
  cases h with
  | old edits opens =>
    cases edits
    obtain ⟨fetched, d₁, d₂, found, resolved⟩ := opens
    obtain ⟨found, rfl⟩ := perform_recoveryNote_ok found
    obtain rfl := Option.some.inj (Except.ok.inj (kept.symm.trans found))
    exact ⟨d₂, resolved⟩

/-- **Recovery in the other mode.** After an edit that the service refused was kept, a recovery in
the other mode hands the editor the content that the session had carried over, which it had not
edited: so it hands out the edit in the other form only if the two are the same, up to a last line
feed. If the editor leaves this content as it is and the recovery is saved, then the service has it
again. -/
theorem refused_edit_other_mode {cause : RemoteError} (h : SaveFails title notebook m d s d₁ cause)
    (fits : s.opened.TimesFit) {store : LocalStore} (hstore : d₁.store.saveRecovery s.edited = .ok store)
    (run : SavingRun ((editNote title notebook m).perform d).2 d') (other : m'.raw = !m.raw)
    (reached : ((editRecovery m').perform d').2.handed ≠ d'.handed) :
    ∃ opened d₂ name, (withNotebook s.edited).perform d' = (.ok opened, d₂) ∧
      ((editRecovery m').perform d').2.handed = d'.handed ++ [(name, written opened m')] ∧
      d.carriedOver s m = some (opened.content m'.raw) ∧
      ((∃ text, d'.converter.Expresses s.edited m'.raw text ∧
          written opened m' = written (opened.withContent m'.raw text) m') ↔
        ∃ text, d'.converter.Expresses s.edited m'.raw text ∧
          Document.withLastFeed (opened.content m'.raw).toList =
            Document.withLastFeed text.toList) ∧
      ∀ a d₃ saved u, (Request.editRecovery m').work.perform d' = (.ok a, d₃) →
        saved ∈ a.affected →
        (d'.editor (written opened m')).document = some (.file (written u m')) →
        u.content m'.raw = opened.content m'.raw →
        '\n' ∉ u.title.toList → '\n' ∉ u.notebookName.toList →
        d₃.service.content saved.guid = .ok (Envelope.wrap
          (if m'.raw then String.ofList (Document.normal (opened.content m'.raw).toList)
            else d'.converter.toWire
              (String.ofList (Document.normal (opened.content m'.raw).toList)))) := by
  obtain ⟨d₂, failed, hd₂⟩ := perform_editNote_kept h hstore
  have same := (session_editedTo title notebook m).of_eq h.edited
  have kept : d₂.kept = .ok (some s.edited) := by
    rw [Desk.kept, hd₂]
    exact LocalStore.recovery_saveRecovery (same.timesFit fits) hstore
  rw [failed] at run
  have still : d'.kept = .ok (some s.edited) := run.kept.trans kept
  obtain ⟨opened, d₃, name, resolved, handed⟩ := handed_editRecovery still reached
  obtain ⟨nb, hopened⟩ := perform_withNotebook_ok resolved
  have content : opened.content m'.raw = s.edited.content (!m.raw) := by
    rw [hopened, ← other]
    rfl
  refine ⟨opened, d₃, name, resolved, handed, content ▸ session_carriedOver h.edited, ?_, ?_⟩
  · simp only [written, Utf8.encode_inj, Document.render_withContent_iff]
  · intro a d₄ saved u done mem left kept ht hn
    obtain ⟨opened', reread, opens, rereads, stored⟩ :=
      (Request.Edits.editRecovery m').saved done mem
    obtain ⟨d₅, again⟩ := opens_editRecovery still opens
    obtain rfl : opened = opened' := Except.ok.inj (Prod.mk.inj (resolved.symm.trans again)).1
    have hm := stdin_of_handed (m := { m' with recovery := true }) reached
    obtain ⟨base, document, final, parsed⟩ := rereads
    rw [finalDocument?_of_left hm left] at final
    obtain ⟨rfl, rfl⟩ := Prod.mk.inj (Option.some.inj final)
    have mode : written u m' = written u { m' with recovery := true } := rfl
    rw [mode, written, Document.parse_render ht hn] at parsed
    have text : reread.content m'.raw =
        String.ofList (Document.normal (opened.content m'.raw).toList) := by
      rw [← (Document.Parsed.mk.inj parsed).1, Note.content_withContent, kept]
    rw [stored, ← text, Note.content]
    cases m'.raw <;> rfl

/-! ### An edit that its recovery undoes -/

/-- A desk whose service takes no updates and whose editor adds a line to the markdown of the
note. -/
def strandedDesk : Desk := { offlineDesk with store := .memory {} }

/-- The desk after that edit, once the service takes updates again. The editor gives the note another
title, and leaves its body as it is handed out. -/
def rejoinedDesk : Desk :=
  { ((editNote "Groceries" none {}).perform strandedDesk).2 with
    service :=
      { ((editNote "Groceries" none {}).perform strandedDesk).2.service with
        createRefusal := none, updateRefusal := none }
    editor := fun _ => ⟨some (.file (written { title := "To buy", body := "milk" } { raw := true })),
      .ok ()⟩ }

theorem saveFails_strandedDesk :
    SaveFails "Groceries" none {} strandedDesk offlineSession
      ((session "Groceries" none {}).perform strandedDesk).2 (.refused "offline") :=
  ⟨Prod.ext (by decide +kernel) rfl, by decide +kernel, by decide +kernel⟩

theorem savingRun_rejoinedDesk :
    SavingRun ((editNote "Groceries" none {}).perform strandedDesk).2 rejoinedDesk := by
  have served : SavingRun ((editNote "Groceries" none {}).perform strandedDesk).2
      { ((editNote "Groceries" none {}).perform strandedDesk).2 with
        service :=
          { ((editNote "Groceries" none {}).perform strandedDesk).2.service with
            createRefusal := none, updateRefusal := none } } :=
    .single ⟨.sound, .sound, .service (.refuse none none)⟩
  exact served.tail ⟨.sound, .sound, .surroundings rfl rfl⟩

/-- What is saved from the recovery: a new title, and the body from before the edit. -/
def undoneNote : Note where
  guid := "n"
  title := "To buy"
  body := "milk"
  md := "milk\neggs"

theorem refused_edit_other_mode_rejoinedDesk :
    ((editRecovery { raw := true }).perform rejoinedDesk).2.service.content "n" =
      .ok (Envelope.wrap "milk") := by
  have store : ((session "Groceries" none {}).perform strandedDesk).2.store = .memory {} := by
    decide +kernel
  have done : ((Request.editRecovery { raw := true }).work.perform rejoinedDesk).1 =
      .ok (.report { messages := [.saved "To buy"], affected := [undoneNote] }) := by
    decide +kernel
  have reached : ((editRecovery { raw := true }).perform rejoinedDesk).2.handed ≠
      rejoinedDesk.handed := by
    decide +kernel
  obtain ⟨opened, d₂, name, -, -, carried, -, saved⟩ :=
    refused_edit_other_mode saveFails_strandedDesk ⟨by decide, by decide⟩ (by rw [store]; rfl)
      savingRun_rejoinedDesk rfl reached
  have body : opened.body = "milk" := (Option.some.inj carried).symm
  have stored := saved _ _ undoneNote { title := "To buy", body := "milk" } (perform_of_result done)
    (List.mem_singleton.2 rfl) rfl body.symm (by decide) (by decide)
  rw [Note.content, if_pos rfl, if_pos rfl, body] at stored
  have normal : String.ofList (Document.normal "milk".toList) = "milk" := by decide +kernel
  rw [normal, Request.work, perform_map] at stored
  exact stored

/-- **An edit that its own recovery undoes.** The edit of the markdown is refused and kept, but the
recovery of its markup hands out the body from before it, and that is what the service has once the
recovery is saved. -/
theorem stale_recovery :
    ((editNote "Groceries" none {}).perform strandedDesk).1 =
        .error (.remote (.refused "offline")) ∧
      rejoinedDesk.kept = .ok (some offlineSession.edited) ∧
      offlineSession.edited.md = "milk\neggs" ∧
      ((editRecovery { raw := true }).perform rejoinedDesk).2.handed =
        rejoinedDesk.handed ++
          [("n.xml", written { title := "Shopping", body := "milk" } { raw := true })] ∧
      ((editRecovery { raw := true }).perform rejoinedDesk).2.service.content "n" =
        .ok (Envelope.wrap "milk") ∧
      rejoinedDesk.converter.toWire "milk\neggs" ≠ "milk" := by
  refine ⟨by decide +kernel, by decide +kernel, rfl, by decide +kernel, by decide +kernel, ?_⟩
  decide +kernel

end Work
end NoteDesk
