import NoteDesk.Proofs.Calls
import NoteDesk.Proofs.Metadata

/-!
# What lasts

A note that was deleted stays deleted, whatever is written to it afterwards, so it is found neither
in a listing nor by its title. The content of a note lasts until the note is edited: all other
requests write without content, or a note of their own.

* `Service.Has` says something of the record of a note. `Service.Has.update` and its like: what it
  takes for it to hold after a change. `Service.Deleted.step` and `Service.Has.content_make` are the
  two steps.
* `Desk.Shows` are the notes of a listing and those found by title, `Desk.Deletes` the ways to
  delete a note.
* `Desk.Reachable.deleted_unseen` is the main result.
-/

namespace NoteDesk

namespace Service

variable {s s' : Service} {guid : Guid} {P : Record → Prop}

/-! ## Records -/

/-- There is a record of the note, and something holds of it. -/
def Has (s : Service) (guid : Guid) (P : Record → Prop) : Prop :=
  ∃ r, s.record? guid = some r ∧ P r

namespace Has

theorem congr (h : s.Has guid P) (records : s'.records = s.records) : s'.Has guid P := by
  obtain ⟨r, found, holds⟩ := h
  exact ⟨r, (record?_congr records guid).trans found, holds⟩

theorem append (h : s.Has guid P) {new : List Record} (records : s'.records = s.records ++ new) :
    s'.Has guid P := by
  obtain ⟨r, found, holds⟩ := h
  rw [record?] at found
  exact ⟨r, by rw [record?, records, List.find?_append, found, Option.some_or], holds⟩

theorem change (h : s.Has guid P) {other : Guid} {f : Record → Record}
    (keeps : ∀ r, (f r).note.guid = r.note.guid) (holds : ∀ r, P r → P (f r))
    (records : s'.records = (s.change other f).records) : s'.Has guid P := by
  obtain ⟨r, found, before⟩ := h
  rw [Has, record?_congr records, record?_change keeps]
  split_ifs with same
  · rw [← same, found]
    exact ⟨f r, rfl, holds r before⟩
  · exact ⟨r, found, before⟩

theorem create (h : s.Has guid P) (n : Note) : (s.create n).2.Has guid P := by
  rcases hcreate : s.create n with ⟨result, s'⟩
  cases result with
  | error cause => exact create_error hcreate ▸ h
  | ok created =>
    obtain ⟨-, rfl⟩ := create_ok hcreate
    exact h.append rfl

theorem update (h : s.Has guid P) (n : Note)
    (holds : ∀ r notebook time, P r → P (Record.updated r n notebook time)) :
    (s.update n).2.Has guid P := by
  rcases hupdate : s.update n with ⟨result, s'⟩
  cases result with
  | error cause => exact h.congr (update_error hupdate)
  | ok _ =>
    obtain ⟨-, rfl⟩ := update_ok hupdate
    exact h.change (f := (Record.updated · n (s.resolve n.notebook) s.nextTime)) (fun _ => rfl)
      (fun r before => holds r _ _ before) rfl

theorem delete (h : s.Has guid P) (other : Guid)
    (holds : ∀ r, P r → P { r with note := { r.note with deleted := true } }) :
    (s.delete other).2.Has guid P := by
  rcases hdelete : s.delete other with ⟨result, s'⟩
  cases result with
  | error cause => exact delete_error hdelete ▸ h
  | ok _ =>
    obtain ⟨-, rfl⟩ := delete_ok hdelete
    exact h.change (f := fun r => { r with note := { r.note with deleted := true } })
      (fun _ => rfl) holds rfl

end Has

/-! ## Deleted notes -/

/-- The note is marked as deleted. -/
def Deleted (s : Service) (guid : Guid) : Prop :=
  s.Has guid fun r => r.note.deleted

theorem deleted_of_delete {x : Unit} (done : s.delete guid = (.ok x, s')) : s'.Deleted guid := by
  obtain ⟨old, replaced⟩ := delete_replaced done
  exact ⟨_, replaced.now, rfl⟩

/-- **A deleted note stays deleted**, whatever is done with the service. -/
theorem Deleted.step (step : s.Step s') (h : s.Deleted guid) : s'.Deleted guid := by
  cases step with
  | addNotebook nb => exact h.congr rfl
  | add title notebook content => exact h.append rfl
  | create n => exact h.create n
  | update n => exact h.update n fun _ _ _ deleted => deleted
  | delete other => exact h.delete other fun _ _ => rfl
  | find q offset count => exact h.congr rfl
  | refuse createRefusal updateRefusal => exact h.congr rfl

/-- No query asks for a deleted note. -/
theorem Deleted.guid_ne (h : s.Deleted guid) (numbered : Numbered s.records) {q : Query} {n : Note}
    (found : n ∈ s.matching q) : n.guid ≠ guid := by
  rintro rfl
  obtain ⟨r, held, deleted⟩ := h
  obtain ⟨r', mem, wanted, rfl⟩ := mem_matching.1 found
  obtain rfl := Option.some.inj ((numbered.record? mem).symm.trans held)
  rw [wanted.live] at deleted
  cases deleted

/-! ## Contents -/

theorem content_eq_ok_iff {text : String} :
    s.content guid = .ok text ↔ s.Has guid fun r => r.content = text := by
  rw [content, Has]
  cases s.record? guid with
  | none => simp
  | some r => simp

/-- The call writes no content to a note that there is. -/
def Call.Bare : Call → Prop
  | create _ => True
  | update n => n.body = ""
  | delete _ => True

/-- A call without content leaves all contents as they were. -/
theorem Has.content_make {text : String} (h : s.Has guid fun r => r.content = text) {c : Call}
    (bare : c.Bare) : (c.make s).2.Has guid fun r => r.content = text := by
  cases c with
  | create n => exact h.create n
  | update n =>
    refine h.update n fun r notebook time same => ?_
    have empty : n.body = "" := bare
    rw [Record.updated, if_pos empty]
    exact same
  | delete other => exact h.delete other fun _ same => same

end Service

open Service (Call)

/-! ## Requests that do not edit -/

/-- **Only edits write content.** -/
theorem Request.Calls.bare {r : Request} {d : Desk} {c : Call} (h : r.Calls d c)
    (unrevised : r.revises = false) : c.Bare := by
  cases h with
  | update revises passes => rw [unrevised] at revises; cases revises
  | create passes => trivial
  | createAsIs made body => trivial
  | rename found => exact rfl
  | move found named => exact rfl
  | delete found => trivial

/-- A request that is no edit leaves all contents as they were, however it ends. -/
theorem Request.work_content {r : Request} (unrevised : r.revises = false) {d : Desk} {guid : Guid}
    {text : String} (h : d.service.Has guid fun record => record.content = text) :
    (r.work.perform d).2.service.Has guid fun record => record.content = text := by
  have searched (finds : Nat) :
      ({ d.service with finds } : Service).Has guid fun record => record.content = text :=
    h.congr rfl
  rcases r.work_asks d with ⟨finds, service, -⟩ | ⟨c, call, finds, service, -⟩
  · rw [service]
    exact searched finds
  · rw [service]
    exact (searched finds).content_make (call.bare unrevised)

namespace Desk

variable {d d₁ d' : Desk} {guid : Guid} {n : Note}

/-- The desk after the requests were worked on in turn. -/
def after (d : Desk) (rs : List Request) : Desk :=
  rs.foldl (fun d r => (r.work.perform d).2) d

theorem after_content {rs : List Request} (unrevised : ∀ r ∈ rs, r.revises = false) {text : String}
    (h : d.service.Has guid fun record => record.content = text) :
    (d.after rs).service.Has guid fun record => record.content = text := by
  induction rs generalizing d with
  | nil => exact h
  | cons r rs ih =>
    rw [List.forall_mem_cons] at unrevised
    exact ih unrevised.2 (Request.work_content unrevised.1 h)

/-! ## Notes that are shown -/

/-- The note is shown: in a listing, or because it was found by its title at the service. -/
inductive Shows (d : Desk) (n : Note) : Prop where
  | listed {words notebook : Option String} {count : Option Nat} {report : Report} {d' : Desk}
      (done : (Request.list words notebook count).work.perform d = (.ok (.report report), d'))
      (mem : n ∈ report.listed)
  | found {title : String} {notebook : Option String} {d' : Desk}
      (unnumbered : (Work.numberedNote? title).perform d = (.ok none, d))
      (done : (Request.get title notebook).work.perform d = (.ok (.note n), d'))

end Desk

namespace Work

open Desk

variable {d d' : Desk} {n : Note}

theorem perform_listNotes_matching {words notebook : Option String} {count : Option Nat}
    {report : Report} (h : (listNotes words notebook count).perform d = (.ok report, d'))
    (mem : n ∈ report.listed) : ∃ q, n ∈ d.service.matching q := by
  obtain ⟨guid, d₁, hguid, h⟩ := perform_bind_ok.1 h
  obtain ⟨finds, service⟩ := ((notebookGuid?_looksUp notebook).of_eq hguid).service
  obtain ⟨_, d₂, ⟨⟩, h⟩ := perform_bind_ok.1 h
  obtain ⟨listed, d₃, ⟨⟩, h⟩ := perform_bind_ok.1 h
  obtain ⟨_, d₄, -, h⟩ := perform_bind_ok.1 h
  obtain ⟨notebooks, d₅, -, h⟩ := perform_bind_ok.1 h
  rw [← Except.ok.inj (Prod.mk.inj h).1] at mem
  have found := Service.mem_matching_of_mem_find mem
  rw [service] at found
  exact ⟨_, found⟩

end Work

open Work

namespace Desk

variable {d d₁ d' : Desk} {guid : Guid} {n : Note}

/-- What is shown is what the service has for a query. -/
theorem Shows.matching (h : d.Shows n) : ∃ q, n ∈ d.service.matching q := by
  cases h with
  | listed done mem =>
    obtain ⟨report, listed, same⟩ := perform_map_ok.1 done
    exact perform_listNotes_matching listed (Answer.report.inj same ▸ mem)
  | found unnumbered done =>
    obtain ⟨n', found, same⟩ := perform_map_ok.1 done
    rw [findNote, perform_bind_of_ok unnumbered] at found
    exact perform_titledNote_matching (Answer.note.inj same ▸ found)

/-- The note with an identifier is deleted, by a request or at the service. -/
inductive Deletes (guid : Guid) (d : Desk) : Desk → Prop where
  | request {title : String} {notebook : Option String} {a : Answer} {n : Note} {d' : Desk}
      (done : (Request.delete title notebook).work.perform d = (.ok a, d'))
      (affected : n ∈ a.affected) (same : n.guid = guid) : Deletes guid d d'
  | service {x : Unit} {service : Service} (done : d.service.delete guid = (.ok x, service)) :
      Deletes guid d { d with service }

theorem Deletes.deleted (h : Deletes guid d d') : d'.service.Deleted guid := by
  cases h with
  | request done affected same =>
    obtain ⟨report, deleted, rfl⟩ := perform_map_ok.1 done
    obtain ⟨n, d₁, found, h⟩ := perform_bind_ok.1 deleted
    obtain ⟨_, d₂, changed, h⟩ := perform_bind_ok.1 h
    obtain ⟨told, rfl⟩ := Prod.mk.inj h
    obtain rfl := Except.ok.inj told
    obtain rfl := List.mem_singleton.1 affected
    obtain ⟨service, taken, rfl⟩ := perform_changeService_ok changed
    exact same ▸ Service.deleted_of_delete taken
  | service done => exact Service.deleted_of_delete done

theorem Deletes.step (h : Deletes guid d d') : Step (fun _ _ => True) d d' := by
  cases h with
  | @request title notebook a n d' done affected same =>
    have step : Step (fun _ _ => True) d _ := .request (.delete title notebook) trivial
    rwa [done] at step
  | @service x service done =>
    have step : d.service.Step _ := .delete guid
    rw [done] at step
    exact .service step

/-! ## Runs -/

theorem Run.deleted {allowed : Request → Desk → Prop} (run : Run allowed d d')
    (h : d.service.Deleted guid) : d'.service.Deleted guid :=
  run.events.service (P := fun s => s.Deleted guid) Service.Deleted.step
    (fun _ deleted => deleted) h

/-- **Deleted notes stay out of sight, and only edits change contents.** At every desk that a run
leads to: once a note is deleted, it is never shown again, whatever is written to it by its number,
from the recovery point or at the service. And the content of a note stays as it is through any
number of requests that are no edits, whether they are done or fail. -/
theorem Reachable.deleted_unseen (h : d.Reachable) :
    (∀ guid d₁ d', Deletes guid d d₁ → Run (fun _ _ => True) d₁ d' →
      ∀ n, d'.Shows n → n.guid ≠ guid) ∧
    ∀ rs : List Request, (∀ r ∈ rs, r.revises = false) → ∀ guid text,
      d.service.content guid = .ok text → (d.after rs).service.content guid = .ok text := by
  constructor
  · intro guid d₁ d' deletes run n shown
    have reachable : d'.Reachable := by
      obtain ⟨d₀, empty, before⟩ := h
      exact ⟨d₀, empty, (before.tail deletes.step).trans run⟩
    obtain ⟨q, found⟩ := shown.matching
    exact (run.deleted deletes.deleted).guid_ne reachable.numbered found
  · intro rs unrevised guid text content
    rw [Service.content_eq_ok_iff] at content ⊢
    exact after_content unrevised content

/-- The desk with one note, which was listed. -/
def listedDesk : Desk :=
  ((Request.list none none none).work.perform sortedDesk).2

/-- The desk after the note was deleted, and then given another title by its number. -/
def trashedDesk : Desk :=
  listedDesk.after [.delete "Groceries" none, .rename "1" "Shopping"]

theorem Reachable.deleted_unseen_trashedDesk :
    listedDesk.Reachable ∧
      (trashedDesk.service.record? (Guid.ofNumber 1)).map (·.note.title) = some "Shopping" ∧
      (∀ n, trashedDesk.Shows n → n.guid ≠ Guid.ofNumber 1) ∧
      trashedDesk.service.content (Guid.ofNumber 1) = .ok "milk" := by
  have reachable : listedDesk.Reachable :=
    ⟨{}, rfl, run_sortedDesk.tail (.request (.list none none none) trivial)⟩
  have result : ((Request.delete "Groceries" none).work.perform listedDesk).1 =
      .ok (.report
        { messages := [.deleted "Groceries"]
          affected := [{ guid := Guid.ofNumber 1, title := "Groceries", created := 1000,
                         updated := 1000, notebook := some (.resolved homeNotebook) }] }) := by
    decide +kernel
  have deletes : Deletes (Guid.ofNumber 1) listedDesk
      ((Request.delete "Groceries" none).work.perform listedDesk).2 :=
    .request (perform_of_result result) (List.mem_singleton_self _) rfl
  obtain ⟨unseen, contents⟩ := reachable.deleted_unseen
  have content : listedDesk.service.content (Guid.ofNumber 1) = .ok "milk" := by
    decide +kernel
  refine ⟨reachable, by decide +kernel, ?_, ?_⟩
  · exact unseen _ _ trashedDesk deletes (.single (.request (.rename "1" "Shopping") trivial))
  · exact contents _ (by decide) _ _ content

end Desk
end NoteDesk
