import NoteDesk.Proofs.Events
import NoteDesk.Proofs.Step

/-!
# What holds at every desk reached

What is kept of notebooks and times, whatever happens.

* `Service.Settled`: the notebook of a record is one that the service has now, or one that it does
  not look up at all. `Service.Timely`: no record is newer than the clock.
* `Desk.Remembers`: the notebooks last seen are the first of those that the service has now.
* `Desk.Reachable.settled`, `Desk.Reachable.timely`, `Desk.ReachableAfresh.remembers`: they hold at
  every desk that a run leads to.
* `Work.perform_findNotebook_ok`: the notebooks that are found by name are the service's.
-/

namespace NoteDesk

namespace Service

variable {s s' : Service}

/-! ## Notebooks -/

/-- Looking up the notebook of a record again gives that notebook. -/
def Settled (s : Service) : Prop :=
  ∀ r ∈ s.records, s.resolve r.note.notebook = r.note.notebook

/-- **The notebooks of the records stay settled**, whatever is done with the service. -/
theorem Settled.step (h : s.Settled) (step : s.Step s') : s'.Settled := by
  intro r hr
  refine resolve_of_prefix step.notebooks_prefix ?_
  cases step.origin hr with
  | stays was => exact h r was
  | adds settled clock => exact settled
  | updates old n was clock =>
    have again := resolve_resolve s n.notebook
    rw [Record.updated]
    cases sent : s.resolve n.notebook with
    | none => exact h old was
    | some nb => rwa [sent] at again
  | deletes old was => exact h old was

/-! ## Times -/

/-- No record was changed after the time of the last change. -/
def Timely (s : Service) : Prop :=
  ∀ r ∈ s.records, r.note.updated ≤ s.clock

theorem Timely.step (h : s.Timely) (step : s.Step s') : s'.Timely := by
  intro r hr
  cases step.origin hr with
  | stays was => exact Int.le_trans (h r was) step.le_clock
  | adds settled clock => exact Int.le_of_eq clock.symm
  | updates old n was clock => exact Int.le_of_eq clock.symm
  | deletes old was => exact Int.le_trans (h old was) step.le_clock

end Service

/-! ## Notebooks last seen -/

namespace Desk

variable {d d' : Desk}

/-- The notebooks last seen, if they can be read, are the first of those that the service has. -/
def Remembers (d : Desk) : Prop :=
  ∀ known, d.store.notebooks = .ok known → known <+: d.service.notebooks

theorem Remembers.lookedUp (h : d.Remembers) (looked : LooksUp d d') : d'.Remembers := by
  intro known hknown
  obtain ⟨finds, service⟩ := looked.service
  rw [service]
  rcases looked.notebooks with same | seen
  · exact h known (same ▸ hknown)
  · rw [seen] at hknown
    exact Except.ok.inj hknown ▸ List.prefix_rfl

/-- **The notebooks last seen are those of the service**, of which there may be more by now. -/
theorem Remembers.event (event : Event d d') (h : d.Remembers) : d'.Remembers := by
  cases event with
  | lookedUp looked => exact h.lookedUp looked
  | aside service store =>
    rw [Remembers, service, store]
    exact h
  | served step => exact fun known hknown => (h known hknown).trans step.notebooks_prefix
  | listed q count saved =>
    intro known hknown
    exact h known (LocalStore.notebooks_saveSearch saved ▸ hknown)
  | kept n saved =>
    intro known hknown
    exact h known (LocalStore.notebooks_saveRecovery saved ▸ hknown)
  | refusal memory _ =>
    intro known hknown
    exact h known (memory ▸ hknown)

/-! ## Desks reached -/

theorem Reachable.settled (h : d.Reachable) : d.service.Settled := by
  obtain ⟨d₀, empty, run⟩ := h
  refine run.events.service (fun step settled => settled.step step) (fun finds h => h) ?_
  intro r hr
  rw [empty] at hr
  cases hr

theorem Reachable.timely (h : d.Reachable) : d.service.Timely := by
  obtain ⟨d₀, empty, run⟩ := h
  refine run.events.service (fun step timely => timely.step step) (fun finds h => h) ?_
  intro r hr
  rw [empty] at hr
  cases hr

/-- The desks that a run leads to from a service without notes and a store that remembers no
notebooks. -/
def ReachableAfresh (d : Desk) : Prop :=
  ∃ d₀ : Desk, d₀.service.records = [] ∧ d₀.store.notebooks = .ok [] ∧ Run (fun _ _ => True) d₀ d

theorem ReachableAfresh.reachable (h : d.ReachableAfresh) : d.Reachable := by
  obtain ⟨d₀, empty, -, run⟩ := h
  exact ⟨d₀, empty, run⟩

theorem ReachableAfresh.remembers (h : d.ReachableAfresh) : d.Remembers := by
  obtain ⟨d₀, -, none, run⟩ := h
  refine run.events.induct Remembers.event fun known hknown => ?_
  rw [none] at hknown
  obtain rfl := Except.ok.inj hknown
  exact List.nil_prefix

end Desk

/-! ## Notebooks found -/

namespace Work

open Desk

variable {d d' : Desk} {name : String} {nb : Notebook}

theorem mem_of_named {notebooks : List Notebook} (h : named name notebooks = some nb) :
    nb ∈ notebooks ∧ nb.name = name :=
  ⟨List.mem_of_find?_eq_some h, by simpa using List.find?_some h⟩

/-- **A notebook found by name is one that the service has**, under that name. -/
theorem perform_findNotebook_ok (remembers : d.Remembers)
    (h : (findNotebook name).perform d = (.ok nb, d')) :
    nb ∈ d.service.notebooks ∧ nb.name = name := by
  rw [findNotebook_eq] at h
  obtain ⟨known, d₁, asked, h⟩ := perform_bind_ok.1 h
  obtain ⟨hknown, rfl⟩ : d.store.notebooks = .ok known ∧ d = d₁ := Prod.mk.inj asked
  cases first : named name known with
  | some nb' =>
    rw [first] at h
    obtain rfl : nb' = nb := Except.ok.inj (Prod.mk.inj h).1
    obtain ⟨mem, same⟩ := mem_of_named first
    exact ⟨(remembers known hknown).subset mem, same⟩
  | none =>
    rw [first] at h
    obtain ⟨seen, d₂, hseen, found⟩ := perform_bind_ok.1 h
    have all : seen = d.service.notebooks := by
      rw [perform_seenNotebooks] at hseen
      split at hseen
      · cases hseen
      · exact (Except.ok.inj (Prod.mk.inj hseen).1).symm
    cases second : named name seen with
    | none =>
      rw [second] at found
      cases found
    | some nb' =>
      rw [second] at found
      obtain rfl : nb' = nb := Except.ok.inj (Prod.mk.inj found).1
      exact all ▸ mem_of_named second

end Work
end NoteDesk
