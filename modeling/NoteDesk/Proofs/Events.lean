import NoteDesk.Proofs.Parts

/-!
# What happens at a desk

All that requests and others do to the service and to the local store is made of a few kinds of
events, so what every event keeps is kept by every request and by every run.

* `Desk.Event` is one event, `Desk.Events` any number of them.
* `Request.work_events`: a request is made of events, however it ends. `Desk.Run.events`: so is a
  run.
* `Desk.Events.service`: what is kept by whatever is done with the service, at any desk.
-/

namespace NoteDesk

namespace Desk

/-- Something that happens to the service or the local store. -/
inductive Event (d : Desk) : Desk → Prop where
  | lookedUp {d' : Desk} (h : LooksUp d d') : Event d d'
  | aside {d' : Desk} (service : d'.service = d.service) (store : d'.store = d.store) : Event d d'
  | served {service : Service} (h : d.service.Step service) : Event d { d with service }
  /-- The notes that a query finds were remembered as the last listing. -/
  | listed {store : LocalStore} (q : Service.Query) (count : Nat)
      (h : d.store.saveSearch (d.service.find q 0 count).1 = .ok store) : Event d { d with store }
  /-- A note became the recovery point. -/
  | kept {store : LocalStore} (n : Note) (h : d.store.saveRecovery n = .ok store) :
      Event d { d with store }
  /-- A store in memory began or ceased to refuse recovery points. -/
  | refusal {m : LocalStore.Memory} (h : d.store = .memory m) (refusal : Option String) :
      Event d { d with store := .memory { m with refusal } }

def Events : Desk → Desk → Prop :=
  Relation.ReflTransGen Event

namespace Events

instance : IsPreorder Desk Events where
  refl _ := .refl
  trans _ _ _ := .trans

theorem ofAside {d d' : Desk} (h : Aside d d') : Events d d' :=
  .single (.aside h.service h.store)

theorem ofLooksUp {d d' : Desk} (h : LooksUp d d') : Events d d' :=
  .single (.lookedUp h)

/-- What every event keeps, any number of them keep. -/
theorem induct {P : Desk → Prop} (event : ∀ {d d'}, Event d d' → P d → P d') {d d' : Desk}
    (h : Events d d') (hd : P d) : P d' := by
  induction h with
  | refl => exact hd
  | tail _ last ih => exact event last ih

/-- What is kept by whatever is done with the service, and does not depend on how many searches
were made, is kept. -/
theorem service {P : Service → Prop} (step : ∀ {s s' : Service}, s.Step s' → P s → P s')
    (counted : ∀ {s : Service} (finds : Nat), P s → P { s with finds }) {d d' : Desk}
    (h : Events d d') (hd : P d.service) : P d'.service := by
  refine h.induct (P := fun d => P d.service) (fun event hd => ?_) hd
  cases event with
  | lookedUp h =>
    obtain ⟨finds, same⟩ := h.service
    rw [same]
    exact counted finds hd
  | aside same _ => rwa [same]
  | served h => exact step h hd
  | listed _ _ _ => exact hd
  | kept _ _ => exact hd
  | refusal _ _ => exact hd

end Events
end Desk

namespace Work

open Desk

/-! ## Writing -/

theorem changeService_events {α : Type} {change : Service → Except RemoteError α × Service}
    (h : ∀ s : Service, s.Step (change s).2) : Leads Events (changeService change) :=
  fun d => .single (.served (h d.service))

theorem keepForRecovery_events (n : Note) (cause : Failure) :
    Leads Events (keepForRecovery n cause) :=
  .keepForRecovery (fun _ _ saved => .single (.kept n saved)) fun d => by
    rw [LocalStore.spoilRecovery_sound]
    exact refl_of Events d

/-! ## Listing -/

theorem listing_events (q : Service.Query) (count : Nat) : Leads Events (listing q count) := by
  intro d
  have found : Events d { d with service := (d.service.find q 0 count).2 } :=
    .single (.served (.find q 0 count))
  rw [perform_listing]
  cases hsave : LocalStore.saveSearch (d.service.find q 0 count).1 d.store with
  | error cause => exact found
  | ok store => exact found.tail (.listed q count hsave)

end Work

open Desk Work

theorem Work.parts_events : Parts Events where
  toLookups := .ofLooksUp Events.ofLooksUp
  aside := Events.ofAside
  create n := changeService_events fun _ => .create n
  update n := changeService_events fun _ => .update n
  delete guid := changeService_events fun _ => .delete guid

/-- **A request is made of events**, however it ends. -/
theorem Request.work_events (r : Request) : Leads Events r.work :=
  parts_events.leads r (fun _ => keepForRecovery_events) (fun _ => listing_events)

/-! ## Runs -/

namespace Desk

variable {allowed : Request → Desk → Prop} {d d' : Desk}

theorem Step.events (step : Step allowed d d') : Events d d' := by
  cases step with
  | request r _ => exact r.work_events d
  | service served => exact .single (.served served)
  | refusal h refusal => exact .single (.refusal h refusal)
  | surroundings service store => exact .single (.aside service store)

/-- **A run is made of events.** -/
theorem Run.events (run : Run allowed d d') : Events d d' :=
  Run.induct (P := Events d) (fun step before => before.trans step.events) run .refl

end Desk
end NoteDesk
