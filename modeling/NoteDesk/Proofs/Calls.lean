import NoteDesk.Proofs.Bound
import NoteDesk.Proofs.Parts

/-!
# What is asked of the service

A request asks the service for one change at most, and does nothing else to it but search. What is
asked for depends on what was looked up and edited before, not on what the service makes of it.

* `Service.Call` is a change that can be asked for, `Service.Call.make` what comes of it.
* `Request.Calls` gives the change that a request asks for.
* `Work.Asks` is work that does no more to the service than to search and to make a call.
  `Request.work_asks` has it of every request: the call is one that the request asks for, and the
  note that the request tells of is the note of the call.
-/

namespace NoteDesk

/-! ## Calls -/

namespace Service

/-- A change that can be asked for. -/
inductive Call where
  | create (n : Note)
  | update (n : Note)
  | delete (guid : Guid)
  deriving DecidableEq, Repr

namespace Call

/-- Makes the change. Gives the identifier of the note that was written. -/
def make : Call → Service → Except RemoteError Guid × Service
  | create n, s => ((s.create n).1.map (·.guid), (s.create n).2)
  | update n, s => ((s.update n).1.map fun _ => n.guid, (s.update n).2)
  | delete guid, s => ((s.delete guid).1.map fun _ => guid, (s.delete guid).2)

/-- A call was taken if the change was. -/
theorem of_map_ok {α : Type} {f : α → Guid} {x : Except RemoteError α × Service} {guid : Guid}
    {s : Service} (h : (x.1.map f, x.2) = (.ok guid, s)) : ∃ a, x = (.ok a, s) ∧ f a = guid := by
  obtain ⟨result, service⟩ := x
  obtain ⟨same, rfl⟩ := Prod.mk.inj h
  cases result with
  | ok a => exact ⟨a, rfl, Except.ok.inj same⟩
  | error cause => cases same

/-- The title that the note has then. A deletion gives it none. -/
def title? : Call → Option String
  | create n => some n.title
  | update n => some n.title
  | delete _ => none

end Call
end Service

open Service (Call)

/-- What a request asks the service for: the note of a session, however it is taken, or a note as
it was put together or found. -/
inductive Request.Calls (d : Desk) : Request → Call → Prop where
  | update {r : Request} {n : Note} (revises : r.revises) (passes : r.Passes d n) :
      Calls d r (.update n)
  | create {title notebook : Option String} {edited : Bool} {m : EditMode} {n : Note}
      (passes : (create title notebook edited m).Passes d n) :
      Calls d (.create title notebook edited m) (.create n)
  | createAsIs {title notebook : Option String} {edited : Bool} {m : EditMode} {n : Note}
      {d' : Desk} (made : (Work.newNote title notebook).perform d = (.ok n, d')) (body : String) :
      Calls d (.create title notebook edited m) (.create { n with body })
  | rename {old new : String} {n : Note} {d' : Desk}
      (found : (Work.findNote old none).perform d = (.ok n, d')) :
      Calls d (.rename old new) (.update { n with title := new, body := "" })
  | move {title notebook : String} {n : Note} {nb : Notebook} {d₁ d₂ : Desk}
      (found : (Work.findNote title none).perform d = (.ok n, d₁))
      (named : (Work.findNotebook notebook).perform d₁ = (.ok nb, d₂)) :
      Calls d (.move title notebook)
        (.update { n with notebook := some (.resolved nb), body := "" })
  | delete {title : String} {notebook : Option String} {n : Note} {d' : Desk}
      (found : (Work.findNote title notebook).perform d = (.ok n, d')) :
      Calls d (.delete title notebook) (.delete n.guid)

/-! ## Work that asks for a change -/

/-- The service only counted searches. -/
def Desk.Searched (d d' : Desk) : Prop :=
  ∃ finds, d'.service = { d.service with finds }

instance : IsPreorder Desk Desk.Searched where
  refl _ := ⟨_, rfl⟩
  trans _ _ _ := by
    rintro ⟨k, hk⟩ ⟨k', hk'⟩
    exact ⟨k', by rw [hk', hk]⟩

namespace Work

open Desk

variable {α β : Type} {calls : Call → Prop} {tells : α → List Note} {d : Desk}

/-- All that the work does to the service is to search and then to make a call, if any. If it is
done, it tells of the note that was written, and of no other. -/
inductive Asks (calls : Call → Prop) (tells : α → List Note) (w : Work α) (d : Desk) : Prop where
  | nothing (finds : Nat) (service : (w.perform d).2.service = { d.service with finds })
      (told : ∀ a, (w.perform d).1 = .ok a → tells a = [])
  | one (c : Call) (call : calls c) (finds : Nat)
      (service : (w.perform d).2.service = (c.make { d.service with finds }).2)
      (told : ∀ a, (w.perform d).1 = .ok a → ∃ n, tells a = [n] ∧
        (c.make { d.service with finds }).1 = .ok n.guid ∧ ∀ title ∈ c.title?, n.title = title)

namespace Asks

theorem of_searched {w : Work α} (searched : Leads Searched w) (told : ∀ a, tells a = []) :
    Asks calls tells w d := by
  obtain ⟨finds, service⟩ := searched d
  exact .nothing finds service fun a _ => told a

theorem pure {a : α} (told : tells a = []) : Asks calls tells (pure a : Work α) d := by
  refine .nothing d.service.finds rfl ?_
  rintro _ ⟨⟩
  exact told

/-- What comes before a call only searches. -/
theorem bind {tells : β → List Note} {w : Work α} {f : α → Work β} (searched : Leads Searched w)
    (rest : ∀ a d₁, w.perform d = (.ok a, d₁) → Asks calls tells (f a) d₁) :
    Asks calls tells (w >>= f) d := by
  rcases h : w.perform d with ⟨_ | a, d₁⟩
  · obtain ⟨finds, service⟩ := searched.of_eq h
    have failed := perform_bind_of_error h f
    refine .nothing finds (by rw [failed, service]) fun b done => ?_
    rw [failed] at done
    cases done
  · obtain ⟨before, hbefore⟩ := searched.of_eq h
    have whole := perform_bind_of_ok h f
    cases rest a d₁ h with
    | nothing finds service told =>
      rw [hbefore] at service
      exact .nothing finds (by rw [whole, service]) (by rwa [whole])
    | one c call finds service told =>
      rw [hbefore] at service told
      exact .one c call finds (by rw [whole, service]) (by rwa [whole])

theorem map {tells : β → List Note} {f : α → β} {w : Work α}
    (h : Asks calls (fun a => tells (f a)) w d) : Asks calls tells (f <$> w) d := by
  have whole := perform_map f w d
  have done {b : β} (hb : ((f <$> w).perform d).1 = .ok b) :
      ∃ a, (w.perform d).1 = .ok a ∧ f a = b := by
    rw [whole] at hb
    cases ha : (w.perform d).1 with
    | ok a =>
      rw [ha] at hb
      exact ⟨a, rfl, Except.ok.inj hb⟩
    | error cause =>
      rw [ha] at hb
      cases hb
  cases h with
  | nothing finds service told =>
    refine .nothing finds (by rw [whole, service]) fun b hb => ?_
    obtain ⟨a, ha, rfl⟩ := done hb
    exact told a ha
  | one c call finds service told =>
    refine .one c call finds (by rw [whole, service]) fun b hb => ?_
    obtain ⟨a, ha, rfl⟩ := done hb
    exact told a ha

end Asks

/-! ## The calls -/

theorem update_asks {n written : Note} (call : calls (.update n)) (guid : written.guid = n.guid)
    (title : written.title = n.title) :
    Asks calls (fun _ => [written]) (changeService (·.update n)) d := by
  refine .one (.update n) call d.service.finds rfl fun _ done => ⟨written, rfl, ?_, ?_⟩
  · obtain ⟨service, updated, -⟩ := perform_changeService_ok (perform_of_result done)
    change (d.service.update n).1.map _ = _
    rw [updated, guid]
    rfl
  · rintro _ ⟨⟩
    exact title

theorem delete_asks {n : Note} (call : calls (.delete n.guid)) :
    Asks calls (fun _ => [n]) (changeService (·.delete n.guid)) d := by
  refine .one (.delete n.guid) call d.service.finds rfl fun _ done => ⟨n, rfl, ?_, nofun⟩
  obtain ⟨service, deleted, -⟩ := perform_changeService_ok (perform_of_result done)
  change (d.service.delete n.guid).1.map _ = _
  rw [deleted]
  rfl

theorem saveChanges_asks {n : Note} {m : EditMode} (call : calls (.update (outgoing d n m.raw))) :
    Asks calls (fun _ => [n]) (saveChanges n m) d := by
  refine .one _ call d.service.finds (service_saveChanges n m d) fun _ done => ⟨n, rfl, ?_, ?_⟩
  · obtain ⟨service, wireConversions, updated, -⟩ := perform_saveChanges_ok (perform_of_result done)
    change (d.service.update _).1.map _ = _
    rw [updated]
    rfl
  · rintro _ ⟨⟩
    rfl

theorem saveNew_asks {n : Note} {raw : Bool} (call : ∀ body, calls (.create { n with body })) :
    Asks calls (fun created => [created]) (saveNew n raw) d := by
  refine .one _ (call (newBody d n raw)) d.service.finds (by rw [perform_saveNew]; rfl)
    fun created done => ⟨created, rfl, ?_, ?_⟩
  · obtain ⟨service, hcreate, -⟩ := perform_saveNew_ok (perform_of_result done)
    change (d.service.create _).1.map _ = _
    rw [hcreate]
    rfl
  · obtain ⟨service, hcreate, -⟩ := perform_saveNew_ok (perform_of_result done)
    rintro _ ⟨⟩
    rw [(Service.create_ok hcreate).1]

/-! ## Requests -/

theorem listing_searched (q : Service.Query) (count : Nat) : Leads Searched (listing q count) := by
  refine .bind (fun _ => ⟨_, rfl⟩) fun listed => ?_
  exact .bind (.changeStore (fun _ _ _ => ⟨_, rfl⟩) fun _ => ⟨_, rfl⟩) fun _ => .pure _

theorem editNote_asks {title : String} {notebook : Option String} {m : EditMode}
    (call : ∀ s d', (session title notebook m).perform d = (.ok s, d') →
      s.unchanged m.raw = false → calls (.update (outgoing d' s.edited m.raw))) :
    Asks calls Report.affected (editNote title notebook m) d := by
  rw [editNote_eq]
  refine .bind ((session_unsaved title notebook m).mono Unsaved.service) fun s d₁ edited => ?_
  unfold settle
  split
  · exact .pure rfl
  next changed => exact .map (saveChanges_asks (call s d₁ edited (by simpa using changed)))

theorem editNew_asks {n : Note} {m : EditMode}
    (call : ∀ edited d', (editDocument n m).perform d = (.ok edited, d') →
      ∀ body, calls (.create { edited with body })) :
    Asks calls Report.affected (editNew n m) d := by
  rw [editNew_eq]
  exact .bind ((editDocument_unsaved n m).mono Unsaved.service) fun edited d₁ done =>
    .map (saveNew_asks (call edited d₁ done))

end Work

open Desk Work

/-- **A request asks the service for one change at most**, one that it calls for, and tells of the
note that was written. -/
theorem Request.work_asks (r : Request) (d : Desk) : Asks (r.Calls d) Answer.affected r.work d := by
  have lookups : Lookups Searched := .ofConsults Consults.service
  cases r with
  | edit title notebook m =>
    exact .map (editNote_asks fun s d' edited changed =>
      .update rfl (.update (.edit title notebook m) edited changed))
  | editRecovery m =>
    exact .map (editNote_asks fun s d' edited changed =>
      .update rfl (.update (.editRecovery m) edited changed))
  | create title notebook edited m =>
    refine .map ?_
    rw [createNote_eq]
    refine .bind (lookups.newNote title notebook) fun n d₁ made => ?_
    split
    · exact editNew_asks fun edited d₂ done body => .create (.create made done body)
    · exact .map (saveNew_asks fun body => .createAsIs made body)
  | list words notebook count =>
    refine .map ?_
    rw [listNotes_eq]
    refine .bind (lookups.notebookGuid? notebook) fun guid _ _ => ?_
    refine .bind .get fun _ _ _ => ?_
    refine .bind (listing_searched _ _) fun listed _ _ => ?_
    exact .bind lookups.knownNotebooks fun _ _ _ => .pure rfl
  | rename old new =>
    refine .map (.bind (lookups.findNote old none) fun n d₁ found => ?_)
    exact .map (update_asks (.rename (n := n) found) rfl rfl)
  | move title notebook =>
    refine .map (.bind (lookups.findNote title none) fun n d₁ found => ?_)
    refine .bind (lookups.findNotebook notebook) fun nb d₂ named => ?_
    split
    · exact .pure rfl
    · exact .map (update_asks (.move (n := n) found named) rfl rfl)
  | delete title notebook =>
    refine .map (.bind (lookups.findNote title notebook) fun n d₁ found => ?_)
    exact .map (delete_asks (.delete found))
  | get title notebook => exact .map (.of_searched (lookups.findNote title notebook) fun _ => rfl)
  | getContent title notebook =>
    exact .map (.of_searched (lookups.openNote title notebook) fun _ => rfl)

end NoteDesk
