import NoteDesk.Proofs.Holding
import NoteDesk.Proofs.Reached

/-!
# Notebooks last seen

A notebook is found among those last seen before the service is asked. The service only ever adds
notebooks at the end of its list, so those last seen are the first of those that it has, and what
is found is the same as if the service had been asked at once.

* `LocalStore.Open` are the stores that notebooks can be written to, `LocalStore.Empty` those in
  which nothing was kept yet.
* `Desk.Sees` is the invariant, `Desk.GoesOn` the step: what was last seen is seen from then on, and
  perhaps more. `Request.work_goesOn` and `Desk.Step.goesOn`: it is kept by all that happens.
* `Desk.Run.findNotebook_direct` is the main result.
-/

namespace NoteDesk

/-! ## Stores that can be written to -/

namespace LocalStore

variable {st st' : LocalStore}

/-- Nothing stands in the way of writing, except for recovery points. -/
def Open : LocalStore → Prop
  | memory _ => True
  | files data => (files data).Takes

/-- Nothing was kept in the store yet. A store in files may have a directory without them, or a
directory that is still to be made. -/
def Empty : LocalStore → Prop
  | memory m => m.search = [] ∧ m.recovery = none ∧ m.notebooks = []
  | files data => data ≠ .plainFile ∧ ∀ name ∈ fileNames, data.find? name = none

theorem Takes.open (h : st.Takes) : st.Open := by
  cases st with
  | memory m => trivial
  | files data => exact h

theorem Empty.open (h : st.Empty) : st.Open := by
  cases st with
  | memory m => trivial
  | files data =>
    obtain ⟨apart, none⟩ := h
    refine ⟨apart, fun name mem => ?_⟩
    rw [none name mem]
    exact nofun

theorem Empty.load {data : Directory Bytes} (h : (files data).Empty) {name : String}
    (known : name ∈ fileNames) {α : Type} (decoder : Json.Decoder α) :
    LocalStore.load decoder name data = .ok none := by
  have absent : data.readText? name = .ok none := by
    rw [Directory.readText?, h.2 name known]
  rw [LocalStore.load, absent]
  rfl

theorem Empty.search (h : st.Empty) : st.search = .ok [] := by
  cases st with
  | memory m => exact congrArg Except.ok h.1
  | files data =>
    rw [LocalStore.search, h.load (by decide)]
    rfl

theorem Empty.notebooks (h : st.Empty) : st.notebooks = .ok [] := by
  cases st with
  | memory m => exact congrArg Except.ok h.2.2
  | files data =>
    rw [LocalStore.notebooks, h.load (by decide)]
    rfl

namespace Open

theorem keepIn {data : Directory Bytes} (h : (files data).Open) {name : String}
    (known : name ∈ fileNames) {j : Json} (kept : LocalStore.keepIn name j data = .ok st') :
    st'.Open := by
  obtain ⟨st'', kept', takes⟩ := Takes.keepIn h known j
  rw [kept] at kept'
  exact Except.ok.inj kept' ▸ takes.open

theorem saveSearch (h : st.Open) {notes : List Note}
    (saved : LocalStore.saveSearch notes st = .ok st') : st'.Open := by
  cases st with
  | memory m =>
    obtain rfl := Except.ok.inj saved
    trivial
  | files data => exact h.keepIn (by decide) saved

theorem saveRecovery (h : st.Open) {n : Note} (saved : LocalStore.saveRecovery n st = .ok st') :
    st'.Open := by
  cases st with
  | memory m =>
    rw [LocalStore.saveRecovery] at saved
    split at saved
    · cases saved
    · obtain rfl := Except.ok.inj saved
      trivial
  | files data => exact h.keepIn (by decide) saved

theorem saveNotebooks (h : st.Open) (notebooks : List Notebook) :
    ∃ st', LocalStore.saveNotebooks notebooks st = .ok st' ∧ st'.Open := by
  cases st with
  | memory m => exact ⟨_, rfl, trivial⟩
  | files data =>
    have takes : (files data).Takes := h
    obtain ⟨st', saved, takes⟩ := takes.saveNotebooks notebooks
    exact ⟨st', saved, takes.open⟩

end Open
end LocalStore

/-! ## What is seen -/

/-- The notebook of a name, among all that the service has. -/
def Service.notebookNamed (s : Service) (name : String) : Except Failure Notebook :=
  match Work.named name s.notebooks with
  | some nb => .ok nb
  | none => .error (.notebookNotFound name)

namespace Desk

variable {d d' : Desk} {known : List Notebook}

/-- The notebooks last seen are the first of those that the service has, and others can be seen. -/
structure Sees (d : Desk) (known : List Notebook) : Prop where
  opens : d.store.Open
  last : d.store.notebooks = .ok known
  first : known <+: d.service.notebooks

/-- All notebooks last seen are seen from then on, and perhaps there are more. -/
def GoesOn (d d' : Desk) : Prop :=
  ∀ known, d.Sees known → ∃ known', known <+: known' ∧ d'.Sees known'

instance : IsPreorder Desk GoesOn where
  refl _ known sees := ⟨known, List.prefix_rfl, sees⟩
  trans _ _ _ h h' known sees := by
    obtain ⟨known', more, sees'⟩ := h known sees
    obtain ⟨known'', more', sees''⟩ := h' known' sees'
    exact ⟨known'', more.trans more', sees''⟩

/-- Where the notebooks last seen stay, they go on being seen. -/
theorem GoesOn.of_same (opens : d.store.Open → d'.store.Open)
    (seen : d'.store.notebooks = d.store.notebooks)
    (added : d.service.notebooks <+: d'.service.notebooks) : GoesOn d d' :=
  fun known sees => ⟨known, List.prefix_rfl, opens sees.opens, seen.trans sees.last,
    sees.first.trans added⟩

/-- What is found among the notebooks last seen is what the service has. -/
theorem Sees.named (h : d.Sees known) {name : String} {nb : Notebook}
    (found : Work.named name known = some nb) :
    Work.named name d.service.notebooks = some nb := by
  obtain ⟨rest, whole⟩ := h.first
  rw [Work.named, ← whole, List.find?_append]
  rw [Work.named] at found
  rw [found, Option.some_or]

end Desk

namespace Work

open Desk

variable {d : Desk} {known : List Notebook}

/-- All notebooks of the service are seen, where they can be. -/
theorem perform_seenNotebooks_ok (h : d.Sees known) :
    ∃ d', seenNotebooks.perform d = (.ok d.service.notebooks, d') ∧
      d'.Sees d.service.notebooks := by
  obtain ⟨store, saved, opens⟩ := h.opens.saveNotebooks d.service.notebooks
  rw [perform_seenNotebooks, saved]
  exact ⟨_, rfl, opens, LocalStore.notebooks_saveNotebooks saved, List.prefix_rfl⟩

/-- **Looking among the notebooks last seen makes no difference** to what is found. -/
theorem perform_findNotebook (h : d.Sees known) (name : String) :
    ((findNotebook name).perform d).1 = d.service.notebookNamed name := by
  have asked : (askStore LocalStore.notebooks).perform d = (.ok known, d) :=
    congrArg (·, d) h.last
  rw [findNotebook_eq, perform_bind_of_ok asked, Service.notebookNamed]
  cases found : named name known with
  | some nb =>
    rw [h.named found]
    rfl
  | none =>
    obtain ⟨d', seen, -⟩ := perform_seenNotebooks_ok h
    dsimp only
    rw [perform_bind_of_ok seen]
    cases named name d.service.notebooks with
    | some nb => rfl
    | none => rfl

/-! ## Requests -/

theorem seenNotebooks_goesOn : Leads GoesOn seenNotebooks := by
  intro d known sees
  obtain ⟨d', seen, sees'⟩ := perform_seenNotebooks_ok sees
  rw [seen]
  exact ⟨d.service.notebooks, sees.first, sees'⟩

theorem changeService_goesOn {α : Type} {change : Service → Except RemoteError α × Service}
    (h : ∀ s : Service, s.notebooks <+: (change s).2.notebooks) :
    Leads GoesOn (changeService change) :=
  fun d => .of_same id rfl (h d.service)

theorem lookups_goesOn : Lookups GoesOn where
  search _ _ := changeService_goesOn fun _ => List.prefix_rfl
  toMarkdown _ _ := .of_same id rfl List.prefix_rfl
  seenNotebooks := seenNotebooks_goesOn

theorem parts_goesOn : Parts GoesOn where
  toLookups := lookups_goesOn
  aside h := .of_same (h.store ▸ id) (by rw [h.store])
    (h.service ▸ List.prefix_rfl)
  create n := changeService_goesOn fun _ => Service.Step.notebooks_prefix (.create n)
  update n := changeService_goesOn fun _ => Service.Step.notebooks_prefix (.update n)
  delete guid := changeService_goesOn fun _ => Service.Step.notebooks_prefix (.delete guid)

theorem keepForRecovery_goesOn (n : Note) (cause : Failure) :
    Leads GoesOn (keepForRecovery n cause) :=
  .keepForRecovery
    (fun _ _ saved => .of_same (fun opens => opens.saveRecovery saved)
      (LocalStore.notebooks_saveRecovery saved) List.prefix_rfl)
    fun d => by
      rw [LocalStore.spoilRecovery_sound]
      exact refl_of GoesOn d

theorem listing_goesOn (q : Service.Query) (count : Nat) : Leads GoesOn (listing q count) := by
  refine .bind (lookups_goesOn.search q count) fun listed => ?_
  refine .bind (.changeStore (fun d store saved => ?_) fun d => ?_) fun _ => .pure listed
  · exact .of_same (fun opens => opens.saveSearch saved) (LocalStore.notebooks_saveSearch saved)
      List.prefix_rfl
  · rw [LocalStore.spoilSearch_sound]
    exact refl_of GoesOn d

end Work

open Work

/-- What was last seen is seen after a request, however it ends. -/
theorem Request.work_goesOn (r : Request) : Leads Desk.GoesOn r.work :=
  parts_goesOn.leads r (fun _ => keepForRecovery_goesOn) (fun _ => listing_goesOn)

namespace Desk

variable {allowed : Request → Desk → Prop} {d₀ d d' : Desk}

/-! ## Runs -/

theorem Step.goesOn (step : Step allowed d d') : GoesOn d d' := by
  cases step with
  | request r _ => exact r.work_goesOn d
  | service served => exact .of_same id rfl served.notebooks_prefix
  | refusal memory _ =>
    refine .of_same (fun _ => trivial) ?_ List.prefix_rfl
    rw [memory]
    rfl
  | surroundings service store =>
    exact .of_same (store ▸ id) (by rw [store]) (service ▸ List.prefix_rfl)

theorem Run.goesOn (run : Run allowed d d') : GoesOn d d' :=
  run.induct (P := GoesOn d) (fun step before => trans_of GoesOn before step.goesOn)
    (refl_of GoesOn d)

/-- **The notebooks last seen never make a difference.** At every desk that a run leads to from one
with an empty store, whatever notebooks are added in between and whatever their names and
identifiers are: the notebooks last seen are the first of those that the service has, none of them
is ever forgotten, and a notebook that is looked up by name is the one that all of the service's
notebooks would give, or none. -/
theorem Run.findNotebook_direct (empty : d₀.store.Empty) (run : Run (fun _ _ => True) d₀ d) :
    ∃ known, d.Sees known ∧
      (∀ name, ((findNotebook name).perform d).1 = d.service.notebookNamed name ∧
        ∃ known', known <+: known' ∧ ((findNotebook name).perform d).2.Sees known') ∧
      ∀ d', Run (fun _ _ => True) d d' → ∃ known', known <+: known' ∧ d'.Sees known' := by
  have none : d₀.Sees [] := ⟨empty.open, empty.notebooks, List.nil_prefix⟩
  obtain ⟨known, -, sees⟩ := run.goesOn [] none
  refine ⟨known, sees, fun name => ⟨perform_findNotebook sees name, ?_⟩, fun d' later => ?_⟩
  · exact lookups_goesOn.findNotebook name d known sees
  · exact later.goesOn known sees

/-- A desk that keeps its files in a directory still to be made, with one notebook. -/
def homeDesk : Desk where
  service := ({} : Service).addNotebook { guid := "a", name := "Home" }
  store := .files .missing

/-- The desk after its notes were listed and two notebooks were added, one of them under the name of
the first. -/
def grownDesk : Desk :=
  let listed := ((Request.list none none none).work.perform homeDesk).2
  let second := listed.service.addNotebook { guid := "b", name := "Home" }
  { listed with service := second.addNotebook { guid := "c", name := "Work" } }

theorem run_grownDesk : Run (fun _ _ => True) homeDesk grownDesk := by
  have listed : Run (fun _ _ => True) homeDesk
      ((Request.list none none none).work.perform homeDesk).2 :=
    .single (.request (.list none none none) trivial)
  have second := listed.tail (.service (.addNotebook { guid := "b", name := "Home" }))
  exact second.tail (.service (.addNotebook { guid := "c", name := "Work" }))

theorem Run.findNotebook_direct_grownDesk :
    homeDesk.store.Empty ∧
      ((findNotebook "Home").perform grownDesk).1 = .ok { guid := "a", name := "Home" } ∧
      ((findNotebook "Work").perform grownDesk).1 = .ok { guid := "c", name := "Work" } ∧
      ((findNotebook "Play").perform grownDesk).1 = .error (.notebookNotFound "Play") := by
  have empty : homeDesk.store.Empty := ⟨nofun, fun _ _ => rfl⟩
  obtain ⟨known, -, found, -⟩ := Run.findNotebook_direct empty run_grownDesk
  refine ⟨empty, ?_, ?_, ?_⟩
  · rw [(found "Home").1]
    decide +kernel
  · rw [(found "Work").1]
    decide +kernel
  · rw [(found "Play").1]
    decide +kernel

end Desk
end NoteDesk
