import Mathlib.Data.List.Forall2
import NoteDesk.Proofs.Edits
import NoteDesk.Proofs.RoundTrip
import NoteDesk.Proofs.Service
import NoteDesk.Proofs.Tools

/-!
# Notes that a mode cannot tell apart

A note has two contents, and a mode works on one of them. Notes that agree in all but the other one
(`Note.Twin`) are read, told from what they were, and saved in the same way: only the notes that the
service was sent and the recovery point are twins themselves.

* `Document.parse_twin`: whatever stands in a document, notes that differ in their contents become
  twins once it is read into them.
* `LocalStore.Twin` relates stores in which twins were kept for recovery; `LocalStore.Twin.recovery`
  says what is read from them.
* `Desk.Twin` relates two desks that keep twins in the same places, and `Work.Outcomes` two outcomes
  that leave such desks.
* `Work.settle_twin` and `Work.saveNew_twin`: what comes of saving twins.
-/

namespace NoteDesk

/-- The notes agree in all but the content that the mode does not work on. -/
def Note.Twin (raw : Bool) (a b : Note) : Prop :=
  ∃ text, b = a.withContent (!raw) text

namespace Note.Twin

variable {raw : Bool} {a b : Note}

theorem refl (raw : Bool) (a : Note) : Twin raw a a := by
  cases raw with
  | true => exact ⟨a.md, rfl⟩
  | false => exact ⟨a.body, rfl⟩

theorem title (h : Twin raw a b) : b.title = a.title := by
  obtain ⟨text, rfl⟩ := h
  exact Note.title_withContent ..

theorem notebook (h : Twin raw a b) : b.notebook = a.notebook := by
  obtain ⟨text, rfl⟩ := h
  exact Note.notebook_withContent ..

theorem notebookName (h : Twin raw a b) : b.notebookName = a.notebookName := by
  obtain ⟨text, rfl⟩ := h
  exact Note.notebookName_withContent ..

theorem content (h : Twin raw a b) : b.content raw = a.content raw := by
  obtain ⟨text, rfl⟩ := h
  cases raw <;> rfl

theorem editedTo (h : Twin raw a b) : a.EditedTo b := by
  obtain ⟨text, rfl⟩ := h
  exact .withContent a (!raw) text

theorem deleted (h : Twin raw a b) : b.deleted = a.deleted := by
  obtain ⟨_, _, _, _, rfl⟩ := h.editedTo
  rfl

theorem withNotebook (h : Twin raw a b) (notebook : Option NotebookRef) :
    Twin raw { a with notebook } { b with notebook } := by
  obtain ⟨text, rfl⟩ := h
  refine ⟨text, ?_⟩
  cases raw <;> rfl

/-- The copies that are sent to the service. -/
theorem withBody (h : Twin raw a b) (body : String) :
    Twin raw { a with body } { b with body } := by
  obtain ⟨text, rfl⟩ := h
  cases raw with
  | true => exact ⟨text, rfl⟩
  | false => exact ⟨body, rfl⟩

theorem fingerprint (h : Twin raw a b) : Fingerprint.of b raw = Fingerprint.of a raw := by
  rw [Fingerprint.of, Fingerprint.of, h.title, h.content]

end Note.Twin

/-- Both ended with the same failure, or neither did and they gave related things. -/
inductive Alike {α : Type} (R : α → α → Prop) : Except Failure α → Except Failure α → Prop
  | done {a b : α} (h : R a b) : Alike R (.ok a) (.ok b)
  | failed (cause : Failure) : Alike R (.error cause) (.error cause)

namespace Alike

variable {α β : Type} {R : α → α → Prop} {S : β → β → Prop} {r r' : Except Failure α}

theorem of_eq (refl : ∀ a, R a a) (r : Except Failure α) : Alike R r r := by
  cases r with
  | ok a => exact .done (refl a)
  | error cause => exact .failed cause

theorem map {f g : α → β} (hf : ∀ a b, R a b → S (f a) (g b)) (h : Alike R r r') :
    Alike S (r.map f) (r'.map g) := by
  cases h with
  | done h => exact .done (hf _ _ h)
  | failed cause => exact .failed cause

end Alike

/-- The reports say the same of twins. -/
structure Report.Twin (raw : Bool) (r r' : Report) : Prop where
  messages : r'.messages = r.messages
  affected : List.Forall₂ (Note.Twin raw) r.affected r'.affected
  listed : r'.listed = r.listed
  notebooks : r'.notebooks = r.notebooks

theorem forall₂_twin_refl (raw : Bool) (notes : List Note) :
    List.Forall₂ (Note.Twin raw) notes notes :=
  List.forall₂_same.2 fun n _ => .refl raw n

theorem Report.Twin.refl (raw : Bool) (r : Report) : r.Twin raw r :=
  ⟨rfl, forall₂_twin_refl raw _, rfl, rfl⟩

/-! ## Documents -/

section

variable (n : Note) (body md : String)

namespace Header

theorem rename_contents (name : List Char) :
    rename { n with body, md } name = { rename n name with body, md } := by
  rw [rename_eq, rename_eq]
  rfl

theorem field_contents (line : List Char) :
    field { n with body, md } line = { field n line with body, md } := by
  unfold field
  split
  · rfl
  · split
    · exact rename_contents n body md _
    · rfl

theorem readFields_contents (lines : List Line) :
    readFields { n with body, md } lines =
      { readFields n lines with note := { (readFields n lines).note with body, md } } := by
  induction lines generalizing n with
  | nil => rfl
  | cons line rest ih =>
    cases line with
    | none => rfl
    | some line =>
      simp only [readFields]
      split
      · rfl
      · rw [field_contents, ih]

/-- The contents of a note do not matter to what is read of a header. -/
theorem read_contents (lines : List Line) :
    read { n with body, md } lines =
      { read n lines with note := { (read n lines).note with body, md } } := by
  induction lines with
  | nil => rfl
  | cons line rest ih =>
    cases line with
    | none => rfl
    | some line =>
      simp only [read]
      split
      · exact readFields_contents n body md rest
      · exact ih

end Header

/-- **Whatever stands in a document**, notes that differ in their contents become twins once it is
read into them, or it is refused both times. -/
theorem Document.parse_twin (document : Bytes) (m : EditMode) :
    Alike (Note.Twin m.raw) (parse document { n with body, md } m).value
      (parse document n m).value := by
  rw [parse, parse, parseLines, parseLines, Header.read_contents]
  dsimp only
  split
  · exact .failed _
  · split
    · exact .failed _
    next text _ =>
      refine .done ?_
      cases m.raw with
      | true => exact ⟨_, rfl⟩
      | false => exact ⟨_, rfl⟩

end

/-! ## The local store -/

/-- The stores are the same, or twins were kept for recovery in the same store. -/
inductive LocalStore.Twin (raw : Bool) : LocalStore → LocalStore → Prop
  | same (st : LocalStore) : Twin raw st st
  | kept {st st₁ st₂ : LocalStore} {a b : Note} (twin : a.Twin raw b)
      (first : st.saveRecovery a = .ok st₁) (second : st.saveRecovery b = .ok st₂) :
      Twin raw st₁ st₂

theorem Directory.putFile_error {α : Type} {data : Directory α} {name : String} {x : α}
    {flaw : IoError} (h : data.putFile name x = .error flaw) (y : α) :
    data.putFile name y = .error flaw := by
  rw [putFile] at h ⊢
  split at h
  · exact h
  · cases data with
    | plainFile => exact h
    | missing => cases h
    | holding entries => cases h

namespace LocalStore

variable {raw : Bool} {st st₁ st₂ : LocalStore}

/-- It is never for the note that a recovery point is refused. -/
theorem saveRecovery_error {n : Note} {flaw : Failure} (h : st.saveRecovery n = .error flaw)
    (other : Note) : st.saveRecovery other = .error flaw := by
  cases st with
  | memory m =>
    rw [saveRecovery] at h ⊢
    split at h
    · exact h
    · cases h
  | files data =>
    rw [saveRecovery, keepIn, keep, Directory.write_eq_putFile] at h ⊢
    cases put : data.putFile recoveryFile (Utf8.encode n.toJson.render) with
    | ok data' =>
      rw [put] at h
      cases h
    | error flaw' =>
      rw [put] at h
      rw [Directory.putFile_error put]
      exact h

theorem Twin.search (h : Twin raw st₁ st₂) : st₂.search = st₁.search := by
  cases h with
  | same => rfl
  | kept twin first second => rw [search_saveRecovery first, search_saveRecovery second]

theorem Twin.notebooks (h : Twin raw st₁ st₂) : st₂.notebooks = st₁.notebooks := by
  cases h with
  | same => rfl
  | kept twin first second => rw [notebooks_saveRecovery first, notebooks_saveRecovery second]

/-- The recovery points are the same, or they are the twins that were kept. -/
theorem Twin.recovery (h : Twin raw st₁ st₂) :
    st₂.recovery = st₁.recovery ∨ ∃ a b, a.Twin raw b ∧
      (a.TimesFit → st₁.recovery = .ok (some a) ∧ st₂.recovery = .ok (some b)) := by
  cases h with
  | same => exact .inl rfl
  | kept twin first second =>
    exact .inr ⟨_, _, twin, fun fits =>
      ⟨recovery_saveRecovery fits first,
        recovery_saveRecovery (twin.editedTo.timesFit fits) second⟩⟩

end LocalStore

/-! ## The service -/

/-- The services have the same records, and were sent twins. -/
structure Service.Twin (raw : Bool) (s s' : Service) : Prop where
  records : s'.records = s.records
  notebooks : s'.notebooks = s.notebooks
  clock : s'.clock = s.clock
  finds : s'.finds = s.finds
  created : List.Forall₂ (Note.Twin raw) s.created s'.created
  updated : List.Forall₂ (Note.Twin raw) s.updated s'.updated
  deleted : s'.deleted = s.deleted
  createRefusal : s'.createRefusal = s.createRefusal
  updateRefusal : s'.updateRefusal = s.updateRefusal

namespace Service

variable {raw : Bool} {a b : Note}

theorem forall₂_concat (notes : List Note) (h : a.Twin raw b) :
    List.Forall₂ (Note.Twin raw) (notes ++ [a]) (notes ++ [b]) :=
  List.rel_append (forall₂_twin_refl raw notes) (.cons h .nil)

theorem Twin.refl (raw : Bool) (s : Service) : s.Twin raw s :=
  ⟨rfl, rfl, rfl, rfl, forall₂_twin_refl raw _, forall₂_twin_refl raw _, rfl, rfl, rfl⟩

variable (h : a.Twin raw b) (body : b.body = a.body)
include h body

/-- The service does not look at markdown. -/
theorem update_twin (s : Service) :
    (s.update b).1 = (s.update a).1 ∧ (s.update a).2.Twin raw (s.update b).2 := by
  have updated (r : Record) (notebook : Option NotebookRef) (time : Int) :
      Record.updated r b notebook time = Record.updated r a notebook time := by
    rw [Record.updated, Record.updated, h.title, body]
  rw [update, update]
  cases s.updateRefusal with
  | some reason => exact ⟨rfl, .refl raw s⟩
  | none =>
    dsimp only
    rw [h.editedTo.guid, h.notebook]
    simp only [updated]
    cases s.record? a.guid with
    | none =>
      exact ⟨rfl, rfl, rfl, rfl, rfl, forall₂_twin_refl raw _, forall₂_concat _ h, rfl, rfl, rfl⟩
    | some r =>
      exact ⟨rfl, rfl, rfl, rfl, rfl, forall₂_twin_refl raw _, forall₂_concat _ h, rfl, rfl, rfl⟩

theorem create_twin (s : Service) :
    (s.create b).1 = (s.create a).1 ∧ (s.create a).2.Twin raw (s.create b).2 := by
  rw [create, create]
  cases s.createRefusal with
  | some reason => exact ⟨rfl, .refl raw s⟩
  | none =>
    dsimp only
    rw [h.title, h.notebook, h.deleted, body]
    exact ⟨rfl, rfl, rfl, rfl, rfl, forall₂_concat _ h, forall₂_twin_refl raw _, rfl, rfl, rfl⟩

end Service

/-! ## Desks -/

/-- The desks keep the same things in the same places, except that some notes are twins. The tools
are those of each desk. -/
structure Desk.Twin (raw : Bool) (d d' : Desk) : Prop where
  service : d.service.Twin raw d'.service
  store : d.store.Twin raw d'.store
  cache : d'.cache = d.cache
  converter : d'.converter = d.converter
  config : d'.config = d.config
  wireConversions : d'.wireConversions = d.wireConversions
  markdownConversions : d'.markdownConversions = d.markdownConversions
  drafts : d'.drafts = d.drafts

namespace Desk.Twin

theorem refl (raw : Bool) (d : Desk) : d.Twin raw d :=
  ⟨.refl raw _, .same _, rfl, rfl, rfl, rfl, rfl, rfl⟩

theorem equip {raw : Bool} {d d' : Desk} (h : d.Twin raw d') (tools : Tools) :
    d.Twin raw (d'.equip tools) :=
  ⟨h.service, h.store, h.cache, h.converter, h.config, h.wireConversions, h.markdownConversions,
    h.drafts⟩

end Desk.Twin

namespace Work

open Desk (Tools)

variable {α β : Type} {raw : Bool}

/-- The outcomes are alike: the same failure or related results, and twin desks. -/
structure Outcomes (raw : Bool) (R : α → α → Prop) (p q : Except Failure α × Desk) : Prop where
  result : Alike R p.1 q.1
  desk : p.2.Twin raw q.2

namespace Outcomes

variable {R : α → α → Prop} {S : β → β → Prop} {p q : Except Failure α × Desk}

theorem refl (hR : ∀ a, R a a) (p : Except Failure α × Desk) : Outcomes raw R p p :=
  ⟨.of_eq hR p.1, .refl raw p.2⟩

theorem equip (h : Outcomes raw R p q) (tools : Tools) :
    Outcomes raw R p (q.1, q.2.equip tools) :=
  ⟨h.result, h.desk.equip tools⟩

theorem map {f g : α → β} {w w' : Work α} {d d' : Desk} (hf : ∀ a b, R a b → S (f a) (g b))
    (h : Outcomes raw R (w.perform d) (w'.perform d')) :
    Outcomes raw S ((f <$> w).perform d) ((g <$> w').perform d') := by
  rw [perform_map, perform_map]
  exact ⟨h.result.map hf, h.desk⟩

end Outcomes

/-! ## Saving -/

variable {a b : Note} (h : a.Twin raw b)
include h

theorem wireContent_twin : wireContent b raw = wireContent a raw := by
  have content := h.content
  cases raw with
  | true => exact congrArg (fun body => (pure (Envelope.wrap body) : Work String)) content
  | false => exact congrArg (fun md => (do return Envelope.wrap (← toWire md) : Work String)) content

theorem newContent_twin : newContent b raw = newContent a raw := by
  have wire := wireContent_twin h
  have content := h.content
  rw [newContent, newContent, wire]
  cases raw with
  | true => rfl
  | false =>
    have md : b.md = a.md := content
    rw [md]

theorem keepForRecovery_twin (cause : Failure) {d d' : Desk} (twin : d.Twin raw d')
    (store : d'.store = d.store) :
    Outcomes raw Eq ((keepForRecovery a cause).perform d)
      ((keepForRecovery b cause).perform d') := by
  cases first : d.store.saveRecovery a with
  | error flaw =>
    have second : d'.store.saveRecovery b = .error flaw := by
      rw [store, LocalStore.saveRecovery_error first]
    rw [perform_keepForRecovery_of_error first, perform_keepForRecovery_of_error second,
      LocalStore.spoilRecovery_sound, LocalStore.spoilRecovery_sound]
    exact ⟨.failed _, twin⟩
  | ok st₁ =>
    cases second : d.store.saveRecovery b with
    | error flaw =>
      rw [LocalStore.saveRecovery_error second] at first
      cases first
    | ok st₂ =>
      rw [perform_keepForRecovery_of_ok first,
        perform_keepForRecovery_of_ok (d := d') (by rw [store, second])]
      exact ⟨.failed _, { twin with store := .kept h first second }⟩

omit h

theorem saveChanges_twin {m : EditMode} (h : a.Twin m.raw b) (d : Desk) :
    Outcomes m.raw Eq ((saveChanges a m).perform d) ((saveChanges b m).perform d) := by
  obtain ⟨wireConversions, wire⟩ := perform_wireContent a m.raw d
  obtain ⟨result, twin⟩ := Service.update_twin (h.withBody (outgoing d a m.raw).body) rfl d.service
  rw [saveChanges, saveChanges, wireContent_twin h, perform_bind_of_ok wire,
    perform_bind_of_ok wire, perform_tryCatch, perform_tryCatch]
  have sent (n : Note) : (changeService (·.update n)).perform { d with wireConversions } =
      ((d.service.update n).1.mapError .remote,
        { d with service := (d.service.update n).2, wireConversions }) := rfl
  have desks : Desk.Twin m.raw
      { d with
        service := (d.service.update { a with body := (outgoing d a m.raw).body }).2
        wireConversions }
      { d with
        service := (d.service.update { b with body := (outgoing d a m.raw).body }).2
        wireConversions } :=
    { Desk.Twin.refl m.raw { d with wireConversions } with service := twin }
  rw [sent, sent, result]
  cases (d.service.update { a with body := (outgoing d a m.raw).body }).1 with
  | ok x => exact ⟨.done rfl, desks⟩
  | error cause => exact keepForRecovery_twin h (.remote cause) desks rfl

/-- **Twins are settled in the same way.** -/
theorem settle_twin {m : EditMode} (h : a.Twin m.raw b) (echoed n : Note) (d : Desk) :
    Outcomes m.raw (Report.Twin m.raw) ((settle ⟨echoed, n, a⟩ m).perform d)
      ((settle ⟨echoed, n, b⟩ m).perform d) := by
  have same : Session.unchanged ⟨echoed, n, b⟩ m.raw = Session.unchanged ⟨echoed, n, a⟩ m.raw := by
    rw [Session.unchanged, Session.unchanged]
    dsimp only
    rw [h.fingerprint, h.notebookName]
  rw [settle, settle, same]
  dsimp only
  rw [h.title]
  split
  · exact .refl (Report.Twin.refl m.raw) _
  · simp only [bind_pure_comp]
    exact .map (fun _ _ _ => ⟨rfl, .cons h .nil, rfl, rfl⟩) (saveChanges_twin h d)

/-- **Twins are created in the same way**, and what the service has then is the same. -/
theorem saveNew_twin (h : a.Twin raw b) (d : Desk) :
    Outcomes raw Eq ((saveNew a raw).perform d) ((saveNew b raw).perform d) := by
  obtain ⟨body, wireConversions, wire⟩ : ∃ body wireConversions,
      (newContent a raw).perform d = (.ok body, { d with wireConversions }) :=
    ⟨_, _, perform_newContent a raw d⟩
  obtain ⟨result, twin⟩ := Service.create_twin (h.withBody body) rfl d.service
  have sent (n : Note) : (changeService (·.create n)).perform { d with wireConversions } =
      ((d.service.create n).1.mapError .remote,
        { d with service := (d.service.create n).2, wireConversions }) := rfl
  rw [saveNew, saveNew, newContent_twin h, perform_bind_of_ok wire, perform_bind_of_ok wire,
    sent, sent, result]
  exact ⟨.of_eq (fun _ => rfl) _,
    { Desk.Twin.refl raw { d with wireConversions } with service := twin }⟩

/-! ## The notebook -/

theorem refreshNotebook_twin (h : a.Twin raw b) (before : String) (d : Desk) :
    Alike (Note.Twin raw) ((refreshNotebook a before).perform d).1
        ((refreshNotebook b before).perform d).1 ∧
      ((refreshNotebook b before).perform d).2 = ((refreshNotebook a before).perform d).2 := by
  rw [refreshNotebook, refreshNotebook, h.notebookName]
  split
  · exact ⟨.done h, rfl⟩
  · simp only [bind_pure_comp, perform_map, and_true]
    refine .map (R := Eq) ?_ (.of_eq (fun _ => rfl) _)
    rintro nb _ rfl
    exact h.withNotebook _

end Work
end NoteDesk
