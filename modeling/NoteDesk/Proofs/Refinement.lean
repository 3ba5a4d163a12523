import NoteDesk.Proofs.Agreement
import NoteDesk.Proofs.Reached
import NoteDesk.Proofs.Recovery

/-!
# Files serve as well as memory

A desk that keeps its local store in files, in a directory still to be made, cannot be told from one
that keeps it in memory, whatever happens at both of them.

* `Happening` is one thing that happens at a desk, `Happening.work` what it comes to there, and
  `Desk.undergo` any number of them in turn.
* `Service.InTime` is what keeps times within the 64 bits that files have room for:
  `Service.InTime.step` is the step.
* `Desk.undergo_agrees`: stores that hold the same stay alike. `Desk.files_refine_memory`: so do the
  empty store in memory and the one in files.
-/

namespace NoteDesk

namespace Service

variable {s s' : Service}

/-! ## Times of 64 bits -/

/-- As long as the clock is not beyond 64 bits, no record is. -/
structure InTime (s : Service) : Prop where
  clock : Json.minTime ≤ s.clock
  notes : s.clock ≤ Json.maxTime → s.TimesFit

namespace InTime

theorem congr (h : s.InTime) (records : s'.records = s.records) (later : s.clock ≤ s'.clock) :
    s'.InTime where
  clock := Int.le_trans h.clock later
  notes ends := by
    intro r hr
    rw [records] at hr
    exact h.notes (Int.le_trans later ends) r hr

theorem step (h : s.InTime) (step : s.Step s') : s'.InTime := by
  have starts : Json.minTime ≤ s'.clock := Int.le_trans h.clock step.le_clock
  refine ⟨starts, fun ends r hr => ?_⟩
  have fits := h.notes (Int.le_trans step.le_clock ends)
  cases step.origin hr with
  | stays was => exact fits r was
  | adds settled clock =>
    rw [clock] at starts ends
    exact ⟨⟨starts, ends⟩, ⟨starts, ends⟩⟩
  | updates old n was clock =>
    rw [clock] at starts ends
    exact ⟨(fits old was).created, ⟨starts, ends⟩⟩
  | deletes old was => exact ⟨(fits old was).created, (fits old was).updated⟩

end InTime

end Service

/-! ## Whatever happens -/

/-- One thing that happens at a desk, whichever store it has. -/
inductive Happening where
  | request (r : Request)
  /-- Someone else uses the service. -/
  | service (use : Service → Service) (h : ∀ s : Service, s.Step (use s))
  /-- The cache, the editor, the converter, the input and the configuration become others. -/
  | surroundings (cache : Cache) (editor : Editor) (converter : Converter) (input : Bytes)
      (config : Config)
  /-- The store is given a listing, a recovery point or notebooks to keep. -/
  | listed (notes : List Note) (fits : ∀ n ∈ notes, n.TimesFit)
  | kept (n : Note) (fits : n.TimesFit)
  | seen (notebooks : List Notebook)

namespace Happening

open Work

/-- What happens, as work at the desk. Only requests are answered. -/
def work : Happening → Work (Option Answer)
  | request r => some <$> r.work
  | service use _ => changeService fun s => (.ok none, use s)
  | surroundings cache editor converter input config =>
    ExceptT.mk fun d => (.ok none, { d with cache, editor, converter, input, config })
  | listed notes _ => (fun _ => none) <$> changeStore (LocalStore.saveSearch notes)
  | kept n _ => (fun _ => none) <$> changeStore (LocalStore.saveRecovery n)
  | seen notebooks => (fun _ => none) <$> changeStore (LocalStore.saveNotebooks notebooks)

/-- **Nothing that happens tells stores apart** that hold the same. -/
theorem work_agrees (h : Happening) : Agrees (fun _ => True) h.work := by
  cases h with
  | request r => exact .map r.work_agrees fun _ _ => trivial
  | service use _ =>
    rw [work]
    exact (IgnoresStore.changeService _).agrees
  | surroundings cache editor converter input config =>
    exact IgnoresStore.agrees fun _ _ => rfl
  | listed notes fits =>
    exact .map (.changeStore fun alike => alike.saveSearch fits) fun _ _ => trivial
  | kept n fits =>
    exact .map (.changeStore fun alike => alike.saveRecovery fits) fun _ _ => trivial
  | seen notebooks =>
    exact .map (.changeStore fun alike => alike.saveNotebooks notebooks) fun _ _ => trivial

/-- What is kept by whatever is done with the service is kept by all that happens. -/
theorem keeps {P : Service → Prop} (step : ∀ {s s' : Service}, s.Step s' → P s → P s')
    (counted : ∀ {s : Service} (finds : Nat), P s → P { s with finds }) (h : Happening) {d : Desk}
    (hd : P d.service) : P (h.work.perform d).2.service := by
  have stored (change : LocalStore → Except Failure LocalStore) :
      Leads (Same Desk.service) (changeStore change) :=
    .changeStore (fun _ _ _ => rfl) fun _ => rfl
  have written {change : LocalStore → Except Failure LocalStore} {w : Work (Option Answer)}
      (hw : w = (fun _ => none) <$> changeStore change) : P (w.perform d).2.service := by
    have same : (w.perform d).2.service = d.service := hw ▸ (stored change).map _ d
    rwa [same]
  cases h with
  | request r =>
    rw [work, perform_map]
    exact (r.work_events d).service step counted hd
  | service use moves => exact step (moves d.service) hd
  | surroundings cache editor converter input config => exact hd
  | listed notes fits => exact written rfl
  | kept n fits => exact written rfl
  | seen notebooks => exact written rfl

end Happening

namespace Desk

/-- What comes of things that happen one after the other, and the desk afterwards. -/
def undergo (d : Desk) : List Happening → List (Except Failure (Option Answer)) × Desk
  | [] => ([], d)
  | h :: rest =>
    let (result, d) := h.work.perform d
    let (results, d) := d.undergo rest
    (result :: results, d)

theorem undergo_cons (d : Desk) (h : Happening) (rest : List Happening) :
    d.undergo (h :: rest) =
      ((h.work.perform d).1 :: ((h.work.perform d).2.undergo rest).1,
        ((h.work.perform d).2.undergo rest).2) := rfl

theorem le_clock_undergo (d : Desk) (hs : List Happening) :
    d.service.clock ≤ (d.undergo hs).2.service.clock := by
  induction hs generalizing d with
  | nil => exact Int.le_refl _
  | cons h rest ih =>
    rw [undergo_cons]
    have first : d.service.clock ≤ (h.work.perform d).2.service.clock :=
      h.keeps (P := fun s => d.service.clock ≤ s.clock)
        (fun step before => Int.le_trans before step.le_clock) (fun _ before => before)
        (Int.le_refl _)
    exact Int.le_trans first (ih _)

/-- **Stores that hold the same stay alike**, whatever happens, and the desks cannot be told
apart. -/
theorem undergo_agrees (hs : List Happening) {d : Desk} {st : LocalStore}
    (inTime : d.service.InTime) (alike : d.store.Alike st)
    (ends : (d.undergo hs).2.service.clock ≤ Json.maxTime) :
    ∃ st', ({ d with store := st } : Desk).undergo hs =
        ((d.undergo hs).1, { (d.undergo hs).2 with store := st' }) ∧
      (d.undergo hs).2.store.Alike st' := by
  induction hs generalizing d st with
  | nil => exact ⟨st, rfl, alike⟩
  | cons h rest ih =>
    have fits := inTime.notes (Int.le_trans (d.le_clock_undergo (h :: rest)) ends)
    rw [undergo_cons] at ends
    have inTime₁ : (h.work.perform d).2.service.InTime := by
      refine h.keeps (fun step before => before.step step) ?_ inTime
      intro s finds before
      exact before.congr rfl (Int.le_refl _)
    obtain ⟨st₁, same, alike₁, -⟩ := h.work_agrees d st fits alike
    obtain ⟨st', rest_same, alike'⟩ := ih inTime₁ alike₁ ends
    refine ⟨st', ?_, alike'⟩
    rw [undergo_cons, undergo_cons, same]
    simp only [rest_same]

/-- The desks are the same, apart from stores that read the same. -/
structure ReadsAs (d d' : Desk) : Prop where
  apart : d' = { d with store := d'.store }
  search : d'.store.search = d.store.search
  recovery : d'.store.recovery = d.store.recovery
  notebooks : d'.store.notebooks = d.store.notebooks

/-- **Files serve as well as memory.** Whatever happens, in whatever order, at a desk with an empty
store in memory and at the same desk with files in a directory still to be made: the results are the
same, and so are the desks afterwards, with all that can be read from their stores, as long as no
time is beyond 64 bits. -/
theorem files_refine_memory (d : Desk) (starts : Json.minTime ≤ d.service.clock)
    (fits : d.service.TimesFit) (hs : List Happening)
    (ends : (({ d with store := .memory {} } : Desk).undergo hs).2.service.clock ≤ Json.maxTime) :
    (({ d with store := .files .missing } : Desk).undergo hs).1 =
        (({ d with store := .memory {} } : Desk).undergo hs).1 ∧
      (({ d with store := .memory {} } : Desk).undergo hs).2.ReadsAs
        (({ d with store := .files .missing } : Desk).undergo hs).2 := by
  obtain ⟨st', same, alike⟩ :=
    undergo_agrees hs (d := { d with store := .memory {} }) ⟨starts, fun _ => fits⟩
      LocalStore.alike_empty ends
  have whole : ({ d with store := .files .missing } : Desk).undergo hs = _ := same
  rw [whole]
  obtain ⟨notes, -, search, search'⟩ := alike.search
  obtain ⟨kept, -, recovery, recovery'⟩ := alike.recovery
  obtain ⟨notebooks, seen, seen'⟩ := alike.notebooks
  exact ⟨rfl, rfl, search'.trans search.symm, recovery'.trans recovery.symm, seen'.trans seen.symm⟩

/-- A note with all that a file has to escape, from the first time to the last. -/
def escapedNote : Note where
  guid := "n\\\""
  title := "\x01 \n /"
  body := "\\u0000"
  notebook := some (.named "\"")
  created := Json.minTime
  updated := Json.maxTime

/-- An edit that the service does not take, a recovery point that takes its place, a listing. -/
def offlineHours : List Happening :=
  [.request (.edit "Groceries" none {}), .kept escapedNote ⟨by decide, by decide⟩,
    .request (.list none none none)]

theorem files_refine_memory_offlineHours :
    (({ Work.offlineDesk with store := .files .missing } : Desk).undergo offlineHours).1 =
        (({ Work.offlineDesk with store := .memory {} } : Desk).undergo offlineHours).1 ∧
      (({ Work.offlineDesk with store := .files .missing } : Desk).undergo
        offlineHours).2.store.recovery = .ok (some escapedNote) := by
  have fits : Work.offlineDesk.service.TimesFit := by
    intro r hr
    rw [List.mem_singleton.1 hr]
    exact ⟨by decide, by decide⟩
  have serves := files_refine_memory Work.offlineDesk (by decide) fits offlineHours
    (by decide +kernel)
  have kept : (({ Work.offlineDesk with store := .memory {} } : Desk).undergo
      offlineHours).2.store.recovery = .ok (some escapedNote) := by
    decide +kernel
  exact ⟨serves.1, serves.2.recovery.trans kept⟩

end Desk
end NoteDesk
