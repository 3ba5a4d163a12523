import NoteDesk.Proofs.Session

/-!
# What a session reads back

A session reads its note back from the document that the editor leaves, or that the input was
written to.

* `Desk.finalDocument?` is that document, and the note that it is read into. `Desk.Rereads` gives
  the note read.
* `Work.perform_editDocument_ok`: the note that comes of a document was read from the final
  document, and its notebook was looked up if it was given another name.
* `Work.perform_session_ok`: how a session came about that is to be settled. `Work.Opens` gives the
  note that it opened.
-/

namespace NoteDesk

/-- The note with a text for its content, in either form. -/
def Note.filled (n : Note) (text : String) : Note :=
  { n with md := text, body := text }

/-- The document of a note as it is read back, and the note that it is read into: the one that the
document was first written from. -/
def Desk.finalDocument? (d : Desk) (n : Note) (m : EditMode) : Option (Note × Bytes) :=
  if m.stdin then
    (Utf8.toString? d.input).map fun text => (n.filled text, Work.written (n.filled text) m)
  else
    match (d.editor (Work.written n m)).document with
    | some (.file content) => some (n, content)
    | _ => none

/-- The final document of a note is read to its end, and this is the note then. -/
def Desk.Rereads (d : Desk) (n : Note) (m : EditMode) (reread : Note) : Prop :=
  ∃ base content, d.finalDocument? n m = some (base, content) ∧
    Document.parse content base m = ⟨reread, .ok ()⟩

theorem Desk.finalDocument?_of_left {d : Desk} {n : Note} {m : EditMode} {content : Bytes}
    (hm : m.stdin = false)
    (left : (d.editor (Work.written n m)).document = some (.file content)) :
    d.finalDocument? n m = some (n, content) := by
  rw [finalDocument?, if_neg (by simp [hm]), left]

theorem Desk.finalDocument?_congr {d d' : Desk} (editor : d'.editor = d.editor)
    (input : d'.input = d.input) (n : Note) (m : EditMode) :
    d'.finalDocument? n m = d.finalDocument? n m := by
  rw [finalDocument?, finalDocument?, editor, input]

/-- A note is filled with text before its document is written, if at all; its notebook stays. -/
theorem Desk.notebook_of_finalDocument? {d : Desk} {n base : Note} {m : EditMode} {content : Bytes}
    (h : d.finalDocument? n m = some (base, content)) : base.notebook = n.notebook := by
  rw [finalDocument?] at h
  split at h
  · obtain ⟨text, -, same⟩ := Option.map_eq_some_iff.1 h
    rw [← (Prod.mk.inj same).1]
    rfl
  · split at h
    · rw [← (Prod.mk.inj (Option.some.inj h)).1]
    · cases h

theorem Desk.Rereads.congr {d d' : Desk} {n reread : Note} {m : EditMode}
    (h : d'.Rereads n m reread) (editor : d'.editor = d.editor) (input : d'.input = d.input) :
    d.Rereads n m reread := by
  rwa [Rereads, finalDocument?_congr editor input] at h

namespace Work

open Desk

variable {d d' : Desk} {n edited : Note} {m : EditMode}

/-! ## Reading -/

theorem perform_reread_ok {document : Cache.Document} {content : Bytes}
    (h : (reread document).perform d = (.ok content, d')) :
    d.cache.find? document.name = some (.file content) := by
  rw [reread, changeCache, perform_mk] at h
  cases hopened : document.reopen d.cache with
  | error flaw => simp [hopened, bind, Except.bind] at h
  | ok opened =>
    cases hread : opened.read d.cache with
    | error flaw => simp [hopened, hread, bind, Except.bind] at h
    | ok result =>
      simp only [hopened, hread, bind, Except.bind, pure, Except.pure] at h
      rw [← Except.ok.inj (Prod.mk.inj h).1]
      exact Cache.find?_of_read hopened hread

theorem perform_readBack_ok {name : String} (h : (readBack n m name).perform d = (.ok edited, d')) :
    ∃ content, d.cache.find? name = some (.file content) ∧
      Document.parse content n m = ⟨edited, .ok ()⟩ := by
  obtain ⟨content, d₁, again, h⟩ := perform_bind_ok.1 h
  obtain ⟨_, d₂, result, h⟩ := perform_bind_ok.1 h
  rw [perform_liftM] at result
  refine ⟨content, perform_reread_ok again, ?_⟩
  rw [← Except.ok.inj (Prod.mk.inj h).1, ← (Prod.mk.inj result).1]

theorem perform_takeInput_ok {text : String} (h : takeInput.perform d = (.ok text, d')) :
    Utf8.toString? d.input = some text := by
  rw [takeInput, perform_mk] at h
  split at h
  · cases h
  next text' htext => rw [htext, Except.ok.inj (Prod.mk.inj h).1]

/-! ## Documents -/

/-- What an editor leaves of a new document is what is read back. -/
theorem perform_editIn_edited_ok (hm : m.stdin = false) {document : Cache.Document}
    (start : document.AtStart d.cache) (h : (editIn n m document).perform d = (.ok edited, d')) :
    ∃ content, (d.editor (written n m)).document = some (.file content) ∧
      Document.parse content n m = ⟨edited, .ok ()⟩ := by
  rw [perform_editIn start hm] at h
  obtain ⟨_, d₁, hedit, h⟩ := perform_bind_ok.1 h
  rw [perform_edit_replaced start] at hedit
  obtain rfl := (Prod.mk.inj hedit).2
  obtain ⟨content, found, parsed⟩ := perform_readBack_ok h
  refine ⟨content, ?_, parsed⟩
  rw [← found]
  exact ((Cache.find?_replace (find?_replaced start _) _ _).trans (if_pos rfl)).symm

/-- What was written to a new document from the input is what is read back. -/
theorem perform_editIn_filled (hm : m.stdin = true) {document : Cache.Document}
    (start : document.AtStart d.cache) {text : String}
    (input : Utf8.toString? d.input = some text) :
    (editIn n m document).perform d =
      ((Document.parse (written (n.filled text) m) (n.filled text) m).value,
        ({ d with input := [] } : Desk).replaced document.name (written (n.filled text) m)) := by
  have filled : (prepared n m).perform d = (.ok (n.filled text), { d with input := [] }) := by
    have taken : takeInput.perform d = (.ok text, { d with input := [] }) := by
      rw [takeInput, perform_mk, input]
    rw [prepared, if_pos hm, perform_bind_of_ok taken]
    rfl
  obtain ⟨document', hname, wrote⟩ :=
    perform_write (d := { d with input := [] }) start (written (n.filled text) m)
  have there := find?_replaced (d := { d with input := [] }) start (written (n.filled text) m)
  rw [editIn_eq, perform_bind_of_ok filled, perform_bind_of_ok wrote, hname, if_pos hm,
    perform_readBack there]

theorem perform_editIn_filled_ok (hm : m.stdin = true) {document : Cache.Document}
    (start : document.AtStart d.cache) (h : (editIn n m document).perform d = (.ok edited, d')) :
    ∃ text, Utf8.toString? d.input = some text ∧
      Document.parse (written (n.filled text) m) (n.filled text) m = ⟨edited, .ok ()⟩ := by
  have whole := h
  rw [editIn_eq] at whole
  obtain ⟨base, d₁, filled, -⟩ := perform_bind_ok.1 whole
  rw [prepared, if_pos hm] at filled
  obtain ⟨text, d₂, taken, -⟩ := perform_bind_ok.1 filled
  have input : Utf8.toString? d.input = some text := perform_takeInput_ok taken
  refine ⟨text, input, ?_⟩
  rw [perform_editIn_filled hm start input] at h
  exact Document.Parsed.eq_of_value (Prod.mk.inj h).1

/-- **What a new document holds in the end is what is read back.** -/
theorem perform_editIn_ok {document : Cache.Document} (start : document.AtStart d.cache)
    (h : (editIn n m document).perform d = (.ok edited, d')) : d.Rereads n m edited := by
  rw [Rereads, finalDocument?]
  cases hm : m.stdin with
  | false =>
    obtain ⟨content, left, parsed⟩ := perform_editIn_edited_ok hm start h
    exact ⟨n, content, by rw [left]; rfl, parsed⟩
  | true =>
    obtain ⟨text, input, parsed⟩ := perform_editIn_filled_ok hm start h
    exact ⟨n.filled text, _, by rw [input]; rfl, parsed⟩

section

variable [Disk] [Connection]

/-- **How a note came of its document.** -/
theorem perform_editDocument_ok (h : (editDocument n m).perform d = (.ok edited, d')) :
    ∃ reread d₁ d₂, d.Rereads n m reread ∧ Aside d d₁ ∧
      (refreshNotebook reread n.notebookName).perform d₁ = (.ok edited, d₂) := by
  obtain ⟨name, d₁, hname, h⟩ := perform_bind_ok.1 h
  have named : Aside d d₁ := ((documentName_drafted n m).of_eq hname).aside
  have input : d₁.input = d.input := by
    obtain ⟨_, d₁', hname', same⟩ := perform_documentName n m d
    obtain rfl := (Prod.mk.inj (hname.symm.trans hname')).2
    rw [same]
  cases hcreate : d₁.cache.create name with
  | error cause =>
    rw [perform_withDocument_of_error hcreate] at h
    cases h
  | ok created =>
    obtain ⟨document, cache⟩ := created
    obtain ⟨-, start, -⟩ := Cache.find?_create hcreate
    rw [perform_withDocument_of_ok hcreate] at h
    have whole : ((do refreshNotebook (← editIn n m document) n.notebookName : Work Note).perform
        { d₁ with cache }).1 = .ok edited := (Prod.mk.inj h).1
    obtain ⟨reread, d₂, hedit, hrefresh⟩ := perform_bind_ok.1 (Prod.ext (y := (_, _)) whole rfl)
    have rereads : d.Rereads n m reread :=
      (perform_editIn_ok (d := { d₁ with cache }) start hedit).congr named.editor input
    have created : Aside d₁ { d₁ with cache } := ⟨rfl, rfl, rfl, rfl, rfl⟩
    have opened : Aside d { d₁ with cache } := trans_of Aside named created
    exact ⟨reread, d₂, _, rereads,
      trans_of Aside opened ((editIn_drafted n m document).of_eq hedit).aside, hrefresh⟩

/-! ## Sessions -/

/-- The note that a session opens: the one that was asked for, with its notebook looked up. -/
def Opens (title : String) (notebook : Option String) (m : EditMode) (d : Desk)
    (opened : Note) : Prop :=
  ∃ fetched d₁ d₂, (noteToEdit title notebook m).perform d = (.ok fetched, d₁) ∧
    (withNotebook fetched).perform d₁ = (.ok opened, d₂)

/-- **How a session came about.** -/
theorem perform_session_ok {R : Desk → Desk → Prop} [IsPreorder Desk R] (steps : Lookups R)
    {title : String} {notebook : Option String} {s : Session}
    (h : (session title notebook m).perform d = (.ok s, d')) :
    Opens title notebook m d s.opened ∧ ∃ reread d₁ d₂ d₃, d.Rereads s.opened m reread ∧
      R d d₁ ∧ Aside d₁ d₂ ∧
      (refreshNotebook reread s.opened.notebookName).perform d₂ = (.ok s.edited, d₃) := by
  obtain ⟨fetched, d₁, found, h⟩ := perform_bind_ok.1 h
  obtain ⟨echoed, d₁', echo, h⟩ := perform_bind_ok.1 h
  rw [perform_liftM] at echo
  obtain ⟨-, rfl⟩ := Prod.mk.inj echo
  obtain ⟨opened, d₂, resolved, h⟩ := perform_bind_ok.1 h
  obtain ⟨edited, d₃, hedit, h⟩ := perform_bind_ok.1 h
  obtain ⟨hs, rfl⟩ := Prod.mk.inj h
  obtain rfl := Except.ok.inj hs
  have looked : R d d₂ := trans_of R ((steps.noteToEdit title notebook m).of_eq found)
    ((steps.withNotebook fetched).of_eq resolved)
  have consults : Consults d d₂ :=
    ((lookups_consults.noteToEdit title notebook m).of_eq found).trans
      ((lookups_consults.withNotebook fetched).of_eq resolved)
  obtain ⟨reread, d₄, d₅, rereads, aside, refreshed⟩ := perform_editDocument_ok hedit
  exact ⟨⟨fetched, d₁, d₂, found, resolved⟩, reread, d₂, d₄, d₅,
    rereads.congr consults.editor consults.input, looked, aside, refreshed⟩

end

end Work
end NoteDesk
