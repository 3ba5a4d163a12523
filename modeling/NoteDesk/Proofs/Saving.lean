import NoteDesk.Desk.Save
import NoteDesk.Proofs.Work

/-!
# Saving, step by step

* `Work.outgoing` is the copy of a note that an edit session sends to the service.
* `Work.perform_saveChanges`: the copy is sent once, and the note itself is kept for recovery if the
  service does not take it.
* `Work.perform_saveNew`: a note is created from its wire content (`Work.newBody`), once.
* `Work.Leads.wireContent` and its like: what the steps of saving leave.
* `Work.Commutes.saveChanges` and `Work.Commutes.saveNew`: what does not matter to its steps does not
  matter to saving.
-/

namespace NoteDesk.Work

/-- The copy of a note that is sent to the service, with its wire content. -/
def outgoing (d : Desk) (n : Note) (raw : Bool) : Note :=
  { n with body := Envelope.wrap (if raw then n.body else d.converter.toWire n.md) }

theorem perform_wireContent (n : Note) (raw : Bool) (d : Desk) :
    ∃ wireConversions, (wireContent n raw).perform d =
      (.ok (outgoing d n raw).body, { d with wireConversions }) := by
  unfold wireContent
  cases raw with
  | true => exact ⟨d.wireConversions, rfl⟩
  | false => exact ⟨d.wireConversions + 1, rfl⟩

/-- The wire content of a note that is created. -/
def newBody (d : Desk) (n : Note) (raw : Bool) : String :=
  if raw then Envelope.wrap n.body
  else if n.md = "" then Envelope.empty
  else Envelope.wrap (d.converter.toWire n.md)

/-- How often the converter is asked for it. -/
def newConversions (n : Note) (raw : Bool) : Nat :=
  if raw = true ∨ n.md = "" then 0 else 1

theorem perform_newContent (n : Note) (raw : Bool) (d : Desk) :
    (newContent n raw).perform d =
      (.ok (newBody d n raw),
        { d with wireConversions := d.wireConversions + newConversions n raw }) := by
  cases raw with
  | true => rfl
  | false =>
    rw [newBody, newConversions, if_neg Bool.false_ne_true]
    by_cases blank : n.md = ""
    · have nothing : newContent n false = pure Envelope.empty := by simp [newContent, blank]
      rw [nothing, if_pos blank, if_pos (.inr blank)]
      rfl
    · have whole : newContent n false = wireContent n false := by simp [newContent, blank]
      rw [whole, if_neg blank, if_neg (by simp [blank])]
      rfl

section

variable [Disk]

/-- **An edit is sent to the service once**; what the service does not take is kept for recovery. -/
theorem perform_saveChanges (n : Note) (m : EditMode) (d : Desk) :
    ∃ wireConversions, (saveChanges n m).perform d =
      match d.service.update (outgoing d n m.raw) with
      | (.ok _, service) => (.ok (), { d with service, wireConversions })
      | (.error cause, service) =>
        (keepForRecovery n (.remote cause)).perform { d with service, wireConversions } := by
  obtain ⟨wireConversions, wire⟩ := perform_wireContent n m.raw d
  refine ⟨wireConversions, ?_⟩
  rcases hupdate : d.service.update (outgoing d n m.raw) with ⟨r, service⟩
  have sent : (changeService (·.update (outgoing d n m.raw))).perform { d with wireConversions } =
      (r.mapError .remote, { d with service, wireConversions }) := perform_changeService hupdate
  have copy : { n with body := (outgoing d n m.raw).body } = outgoing d n m.raw := rfl
  rw [saveChanges, perform_bind_of_ok wire, copy, perform_tryCatch, sent]
  cases r <;> rfl

theorem perform_keepForRecovery_of_ok {n : Note} {d : Desk} {store : LocalStore}
    (h : d.store.saveRecovery n = .ok store) (cause : Failure) :
    (keepForRecovery n cause).perform d = (.error cause, { d with store }) := by
  rw [keepForRecovery, perform_mk, h]

theorem perform_keepForRecovery_of_error {n : Note} {d : Desk} {flaw : Failure}
    (h : d.store.saveRecovery n = .error flaw) (cause : Failure) :
    (keepForRecovery n cause).perform d =
      (.error (.recoveryPointFailed cause flaw), { d with store := d.store.spoilRecovery n }) := by
  rw [keepForRecovery, perform_mk, h]

theorem perform_keepForRecovery_ne_ok (n : Note) (cause : Failure) (d : Desk) :
    ∃ flaw, ((keepForRecovery n cause).perform d).1 = .error flaw := by
  cases h : d.store.saveRecovery n with
  | ok store => exact ⟨_, by rw [perform_keepForRecovery_of_ok h]⟩
  | error flaw => exact ⟨_, by rw [perform_keepForRecovery_of_error h]⟩

theorem perform_saveChanges_ok {n : Note} {m : EditMode} {d d' : Desk} {x : Unit}
    (h : (saveChanges n m).perform d = (.ok x, d')) :
    ∃ service wireConversions, d.service.update (outgoing d n m.raw) = (.ok x, service) ∧
      d' = { d with service, wireConversions } := by
  obtain ⟨wireConversions, saved⟩ := perform_saveChanges n m d
  rw [saved] at h
  split at h
  next service hupdate =>
    exact ⟨service, wireConversions, hupdate, (Prod.mk.inj h).2.symm⟩
  next cause service _ =>
    obtain ⟨flaw, failed⟩ := perform_keepForRecovery_ne_ok n (.remote cause)
      { d with service, wireConversions }
    rw [h] at failed
    cases failed

end

/-- A creation is sent to the service once. -/
theorem perform_saveNew (n : Note) (raw : Bool) (d : Desk) :
    (saveNew n raw).perform d =
      ((d.service.create { n with body := newBody d n raw }).1.mapError .remote,
        { d with
          service := (d.service.create { n with body := newBody d n raw }).2
          wireConversions := d.wireConversions + newConversions n raw }) := by
  rw [saveNew, perform_bind_of_ok (perform_newContent n raw d)]
  rfl

theorem perform_saveNew_ok {n created : Note} {raw : Bool} {d d' : Desk}
    (h : (saveNew n raw).perform d = (.ok created, d')) :
    ∃ service, d.service.create { n with body := newBody d n raw } = (.ok created, service) ∧
      d' = { d with service, wireConversions := d.wireConversions + newConversions n raw } := by
  rw [perform_saveNew] at h
  obtain ⟨result, rfl⟩ := Prod.mk.inj h
  rcases hcreate : d.service.create { n with body := newBody d n raw } with ⟨_ | created', service⟩
  · rw [hcreate] at result
    cases result
  · rw [hcreate] at result
    obtain rfl := Except.ok.inj result
    exact ⟨service, rfl, rfl⟩

/-! ## What saving leaves -/

namespace Leads

variable {R : Desk → Desk → Prop} {n : Note}

theorem wireContent (h : ∀ (d : Desk) (wireConversions : Nat), R d { d with wireConversions })
    {raw : Bool} : Leads R (wireContent n raw) := by
  intro d
  obtain ⟨wireConversions, wire⟩ := perform_wireContent n raw d
  rw [wire]
  exact h d wireConversions

theorem newContent (h : ∀ (d : Desk) (wireConversions : Nat), R d { d with wireConversions })
    {raw : Bool} : Leads R (newContent n raw) := by
  intro d
  rw [perform_newContent]
  exact h d _

theorem keepForRecovery [Disk] {cause : Failure}
    (h : ∀ (d : Desk) (store : LocalStore), d.store.saveRecovery n = .ok store →
      R d { d with store })
    (failed : ∀ d : Desk, R d { d with store := d.store.spoilRecovery n }) :
    Leads R (keepForRecovery n cause) := by
  intro d
  cases hsave : d.store.saveRecovery n with
  | ok store =>
    rw [perform_keepForRecovery_of_ok hsave]
    exact h d store hsave
  | error flaw =>
    rw [perform_keepForRecovery_of_error hsave]
    exact failed d

end Leads

/-! ## What does not matter to saving -/

namespace Commutes

variable {f : Desk → Desk}

theorem keepForRecovery [Disk] (ask : ∀ d, (f d).store = d.store)
    (change : ∀ (d : Desk) (store : LocalStore), f { d with store } = { f d with store })
    (n : Note) (cause : Failure) : Commutes f (keepForRecovery n cause) := by
  intro d
  rw [Work.keepForRecovery, perform_mk, perform_mk, ask]
  cases d.store.saveRecovery n with
  | ok store => exact congrArg (Prod.mk _) (change d store).symm
  | error flaw => exact congrArg (Prod.mk _) (change d _).symm

variable (toWire : ∀ markdown, Commutes f (toWire markdown))
include toWire

theorem wireContent (n : Note) (raw : Bool) : Commutes f (wireContent n raw) := by
  unfold Work.wireContent
  split
  · exact .pure _
  · exact .map _ (toWire _)

theorem newContent (n : Note) (raw : Bool) : Commutes f (newContent n raw) := by
  unfold Work.newContent
  split
  · exact .wireContent toWire n raw
  · exact .pure _

variable (changeService : ∀ {α : Type} (change : Service → Except RemoteError α × Service),
  Commutes f (changeService change))
include changeService

theorem saveNew (n : Note) (raw : Bool) : Commutes f (saveNew n raw) :=
  .bind (.newContent toWire n raw) fun _ => changeService _

theorem saveChanges [Disk] (keep : ∀ n cause, Commutes f (Work.keepForRecovery n cause)) (n : Note)
    (m : EditMode) : Commutes f (saveChanges n m) :=
  .bind (.wireContent toWire n m.raw) fun _ => .tryCatch (changeService _) (keep n)

end Commutes

theorem service_saveChanges [Disk] (n : Note) (m : EditMode) (d : Desk) :
    ((saveChanges n m).perform d).2.service = (d.service.update (outgoing d n m.raw)).2 := by
  obtain ⟨wireConversions, saved⟩ := perform_saveChanges n m d
  rw [saved]
  split
  next hupdate => rw [hupdate]
  next cause service hupdate =>
    have kept : Leads (Same Desk.service) (keepForRecovery n (.remote cause)) :=
      .keepForRecovery (fun _ _ _ => rfl) fun _ => rfl
    rw [hupdate]
    exact kept _

end NoteDesk.Work
