import NoteDesk.Proofs.Bound
import NoteDesk.Proofs.Integrity
import NoteDesk.Proofs.Newest
import NoteDesk.Proofs.Notebooks

/-!
# Notes of a title

A title is looked up among the first notes that a search for it finds. As long as the notes that
mention the title are not too many for that, it is the newest note of exactly that title that is
found, in the notebook that was named, or none.

* `Record.Lies` and `Record.Mentions` say which notes the search is for, and `Service.mentioning` are
  their records. `Query.wants_iff`: those are the notes that the service looks for.
* `Service.Titled` is a note of the title, `Service.LatestTitled` the newest of them.
  `Service.titled_of_few`: it is the one that is found.
* `Service.Place` is the place that the name of a notebook means. `Desk.Searchable` is what the desk
  has to be like for it to be found, and `Desk.Run.searchable` says that it stays so.
* `Desk.Run.findNote_latest` is the main result.
-/

namespace NoteDesk

/-! ## What is looked for -/

/-- The note of the record is not deleted, and is in the notebook if one is given. -/
structure Record.Lies (r : Record) (place : Option Notebook) : Prop where
  live : r.note.deleted = false
  within : ∀ nb ∈ place, r.note.notebook = some (.resolved nb)

/-- The title or the wire content of the note has the words in it, in any case of their letters. -/
def Record.Mentions (r : Record) (words : String) : Prop :=
  Text.lower words.toList <:+: Text.lower r.note.title.toList ∨
    Text.lower words.toList <:+: Text.lower r.content.toList

instance (r : Record) (place : Option Notebook) : Decidable (r.Lies place) :=
  decidable_of_iff (r.note.deleted = false ∧ ∀ nb ∈ place, r.note.notebook = some (.resolved nb))
    ⟨fun h => ⟨h.1, h.2⟩, fun h => ⟨h.live, h.within⟩⟩

instance (r : Record) (words : String) : Decidable (r.Mentions words) :=
  inferInstanceAs (Decidable (_ ∨ _))

namespace Service

variable {s : Service} {place : Option Notebook} {title : String} {count : Nat} {n : Note}

/-- The records of the notes in a place that mention the words. -/
def mentioning (s : Service) (place : Option Notebook) (words : String) : List Record :=
  s.records.filter fun r => r.Lies place ∧ r.Mentions words

/-- A note in the place that has exactly this title. -/
def Titled (s : Service) (place : Option Notebook) (title : String) (n : Note) : Prop :=
  ∃ r ∈ s.records, r.Lies place ∧ r.note = n ∧ n.title = title

/-- The note of the title that was changed last. -/
structure LatestTitled (s : Service) (place : Option Notebook) (title : String) (n : Note) :
    Prop where
  titled : s.Titled place title n
  latest : ∀ other, s.Titled place title other → other ≠ n → other.updated < n.updated

/-- Every notebook that notes are looked for in is the service's, and each has an identifier that no
other has, by which the records tell their notebooks. -/
structure Placed (s : Service) (place : Option Notebook) : Prop where
  settled : s.Settled
  identified : s.Identified
  distinct : (s.notebooks.map (·.guid)).Nodup
  known : ∀ nb ∈ place, nb ∈ s.notebooks

/-- The query for a title in a place. -/
def Query.forTitle (place : Option Notebook) (title : String) : Query where
  notebook := place.map (·.guid)
  words := some title

/-! ## What is found -/

/-- **The query for a title asks for the notes in the place that mention it.** -/
theorem Query.wants_iff (placed : s.Placed place) {r : Record} (held : r ∈ s.records) :
    (Query.forTitle place title).Wants r ↔ r.Lies place ∧ r.Mentions title := by
  constructor
  · intro wants
    refine ⟨⟨wants.live, fun nb given => ?_⟩, wants.mentions title rfl⟩
    exact placed.settled.within placed.distinct (placed.known nb given) held
      (wants.within nb.guid (Option.mem_map_of_mem _ given))
  · rintro ⟨lies, mentions⟩
    refine ⟨lies.live, fun guid named => ?_, ?_⟩
    · obtain ⟨nb, given, rfl⟩ := Option.mem_map.1 named
      rw [Note.notebookGuid?, lies.within nb given]
      exact notebookGuid?_resolved placed.identified (placed.known nb given)
    · rintro _ ⟨⟩
      exact mentions

/-- The notes of the title are those of exactly that title among all that the query asks for. -/
theorem titled_iff (placed : s.Placed place) :
    s.Titled place title n ↔ n ∈ s.matching (.forTitle place title) ∧ n.title = title := by
  rw [mem_matching]
  constructor
  · rintro ⟨r, held, lies, rfl, same⟩
    have mentions : r.Mentions title := .inl (by rw [same])
    exact ⟨⟨r, held, (Query.wants_iff placed held).2 ⟨lies, mentions⟩, rfl⟩, same⟩
  · rintro ⟨⟨r, held, wants, rfl⟩, same⟩
    exact ⟨r, held, ((Query.wants_iff placed held).1 wants).1, rfl, same⟩

theorem length_matching (placed : s.Placed place) :
    (s.matching (.forTitle place title)).length = (s.mentioning place title).length := by
  rw [matching, List.length_mergeSort, List.length_map, mentioning]
  refine congrArg List.length (List.filter_congr fun r held => ?_)
  rw [Bool.eq_iff_iff, decide_eq_true_iff, Query.accepts_iff, Query.wants_iff placed held]

/-- What is found has the title, however many notes mention it. -/
theorem titled_of_titled_ok (placed : s.Placed place)
    (found : s.titled (place.map (·.guid)) title count = .ok n) : s.Titled place title n := by
  rw [Service.titled] at found
  split at found
  next n' first =>
    obtain rfl := Except.ok.inj found
    have mem := mem_matching_of_mem_find (List.mem_of_find?_eq_some first)
    exact (titled_iff placed).2 ⟨mem, by simpa using List.find?_some first⟩
  next => cases found

/-- The first note with a property among notes that are sorted, the newest first, is the newest with
that property. -/
theorem updated_lt_of_find?_eq_some {notes : List Note} {p : Note → Bool}
    (sorted : notes.Pairwise fun a b => b.updated < a.updated) (first : notes.find? p = some n)
    {other : Note} (mem : other ∈ notes) (has : p other) (apart : other ≠ n) :
    other.updated < n.updated := by
  obtain ⟨-, before, after, rfl, none⟩ := List.find?_eq_some_iff_append.1 first
  rcases List.mem_append.1 mem with earlier | later
  · have lacks := none other earlier
    rw [has] at lacks
    cases lacks
  · rcases List.mem_cons.1 later with same | later
    · exact absurd same apart
    · exact (List.pairwise_cons.1 (List.pairwise_append.1 sorted).2.1).1 other later

/-- **Where those who mention the title are few, the newest note of the title is found**, or there
is none. -/
theorem titled_of_few (dated : s.Dated) (placed : s.Placed place)
    (few : (s.mentioning place title).length ≤ count) :
    (∃ n, s.LatestTitled place title n ∧
      s.titled (place.map (·.guid)) title count = .ok n) ∨
    ((∀ n, ¬s.Titled place title n) ∧
      s.titled (place.map (·.guid)) title count = .error .noteNotFound) := by
  have whole : (s.find (.forTitle place title) 0 count).1 =
      s.matching (.forTitle place title) := by
    rw [find, List.drop_zero, List.take_of_length_le ((length_matching placed).trans_le few)]
  have timed : (Query.forTitle place title).order ≠ .title := by simp [Query.forTitle]
  have results : s.Results (.forTitle place title) (s.matching (.forTitle place title)) :=
    dated.results timed (.refl _)
  rw [Service.titled, ← Query.forTitle, whole]
  cases first : (s.matching (.forTitle place title)).find? (·.title == title) with
  | some n =>
    have mem := List.mem_of_find?_eq_some first
    have same : n.title = title := by simpa using List.find?_some first
    refine .inl ⟨n, ⟨(titled_iff placed).2 ⟨mem, same⟩, fun other titled apart => ?_⟩, rfl⟩
    obtain ⟨mem', same'⟩ := (titled_iff placed).1 titled
    exact updated_lt_of_find?_eq_some results.sorted first mem' (by simpa using same') apart
  | none =>
    refine .inr ⟨fun n titled => ?_, rfl⟩
    obtain ⟨mem, same⟩ := (titled_iff placed).1 titled
    exact absurd same (by simpa using List.find?_eq_none.1 first n mem)

/-! ## Where it is looked for -/

/-- The place that a name means: the first notebook of that name, and all notebooks if there is no
name. -/
inductive Place (s : Service) (notebook : Option String) : Option Notebook → Prop where
  | anywhere (unnamed : Work.nonEmpty notebook = none) : Place s notebook none
  | within {name : String} {nb : Notebook} (given : Work.nonEmpty notebook = some name)
      (first : Work.named name s.notebooks = some nb) : Place s notebook (some nb)

theorem Place.known {notebook : Option String} (h : s.Place notebook place) :
    ∀ nb ∈ place, nb ∈ s.notebooks := by
  cases h with
  | anywhere _ => simp
  | within _ first =>
    rintro _ ⟨⟩
    exact (Work.mem_of_named first).1

end Service

namespace Desk

variable {d₀ d : Desk}

/-- Notebooks can be found by their names and notes by their numbers and titles. -/
structure Searchable (d : Desk) : Prop extends Listed d where
  sees : ∃ known, d.Sees known
  dated : d.service.Dated
  settled : d.service.Settled

/-- **Runs lead to desks at which things can be looked up.** -/
theorem Run.searchable (unused : d₀.store.Empty) (empty : d₀.service.records = [])
    (begins : Json.minTime ≤ d₀.service.clock) (run : Run (fun _ _ => True) d₀ d) :
    d.Searchable where
  toListed := run.events.induct Listed.event (.of_empty empty begins unused.search)
  sees := by
    obtain ⟨known, -, sees⟩ := run.goesOn [] ⟨unused.open, unused.notebooks, List.nil_prefix⟩
    exact ⟨known, sees⟩
  dated := by
    refine run.events.service (fun step dated => dated.step step) (fun _ h => ?_) ?_
    · exact ⟨h.numbered, h.updated, h.created, h.since, h.timely, h.bare⟩
    · exact Service.Reached.dated ⟨d₀.service, empty, .refl⟩
  settled := Reachable.settled ⟨d₀, empty, run⟩

end Desk

namespace Work

open Desk Service

variable {d : Desk} {known : List Notebook} {notebook : Option String}

/-- A notebook is found by its name as if the service was asked for all that it has. -/
theorem perform_notebookGuid?_given (sees : d.Sees known) {name : String}
    (given : nonEmpty notebook = some name) :
    ((notebookGuid? notebook).perform d).1 =
      (d.service.notebookNamed name).map fun nb => some nb.guid := by
  rw [notebookGuid?, given, ← perform_findNotebook sees name]
  exact congrArg Prod.fst (perform_map (fun nb => some nb.guid) (findNotebook name) d)

theorem perform_notebookGuid?_place (sees : d.Sees known) {place : Option Notebook}
    (h : d.service.Place notebook place) :
    ((notebookGuid? notebook).perform d).1 = .ok (place.map (·.guid)) := by
  cases h with
  | anywhere unnamed => exact congrArg Prod.fst (perform_notebookGuid?_anywhere unnamed d)
  | within given first =>
    rw [perform_notebookGuid?_given sees given, notebookNamed, first]
    rfl

end Work

namespace Desk

open Work Service

variable {d₀ d : Desk}

/-- **Looking up a title is complete**, at every desk that a run leads to from one without notes and
with an empty store, as long as the clock of the service is within 64 bits and every notebook has an
identifier of its own. A title that is no number in the last listing is looked up in the first
notebook of the name that is given, and if the service has none of that name, that is what comes of
it. What is found is a note there that has exactly this title, and is not deleted. If the notes there
that mention the title are no more than are searched for, it is the one that was changed last, and
no note is found only if there is none. -/
theorem Run.findNote_latest {title : String} (unused : d₀.store.Empty)
    (empty : d₀.service.records = []) (begins : Json.minTime ≤ d₀.service.clock)
    (run : Run (fun _ _ => True) d₀ d) (ends : d.service.clock ≤ Json.maxTime)
    (identified : d.service.Identified) (distinct : (d.service.notebooks.map (·.guid)).Nodup)
    (unnumbered : ∀ i notes, Listing.Denotes title (i + 1) → d.lastListing = .ok notes →
      notes.length ≤ i) (notebook : Option String) :
    (∀ name, nonEmpty notebook = some name → (∀ nb ∈ d.service.notebooks, nb.name ≠ name) →
      ((findNote title notebook).perform d).1 = .error (.notebookNotFound name)) ∧
    ∀ place, d.service.Place notebook place →
      (∀ n, ((findNote title notebook).perform d).1 = .ok n → d.service.Titled place title n) ∧
      ((d.service.mentioning place title).length ≤ d.config.searchCount.toNat →
        (∃ n, d.service.LatestTitled place title n ∧
          ((findNote title notebook).perform d).1 = .ok n) ∨
        ((∀ n, ¬d.service.Titled place title n) ∧
          ((findNote title notebook).perform d).1 = .error .noteNotFound)) := by
  have searchable := Run.searchable unused empty begins run
  obtain ⟨known, sees⟩ := searchable.sees
  have asTitle : ((findNote title notebook).perform d).1 =
      ((notebookGuid? notebook).perform d).1.bind fun guid =>
        d.service.titled guid title d.config.searchCount.toNat := by
    obtain ⟨notes, last, -⟩ := searchable.known ends
    rw [perform_findNote_unnumbered fun i number => ⟨notes, last, unnumbered i notes number last⟩]
    exact perform_titledNote title notebook d
  constructor
  · intro name given unnamed
    have missing : named name d.service.notebooks = none :=
      List.find?_eq_none.2 fun nb mem => by simpa using unnamed nb mem
    rw [asTitle, perform_notebookGuid?_given sees given, notebookNamed, missing]
    rfl
  · intro place means
    have placed : d.service.Placed place := ⟨searchable.settled, identified, distinct, means.known⟩
    have found : ((findNote title notebook).perform d).1 =
        d.service.titled (place.map (·.guid)) title d.config.searchCount.toNat := by
      rw [asTitle, perform_notebookGuid?_place sees means]
      rfl
    rw [found]
    exact ⟨fun n => titled_of_titled_ok placed, titled_of_few searchable.dated placed⟩

/-- A notebook with one of two notes titled as plans, and with two notes that mention plans. -/
def plansDesk : Desk where
  service :=
    let homes := ({} : Service).addNotebook { guid := "a", name := "Home" }
    let works := homes.addNotebook { guid := "b", name := "Work" }
    let apart := (works.add "Plans" (some "a") "home").2
    let plans := (apart.add "Plans" (some "b") "work").2
    ((plans.add "Plans for May" (some "b") "").2.add "May" (some "b") "many PLANS").2

/-- The note of the plans for work. -/
def workPlans : Note where
  guid := Guid.ofNumber 2
  title := "Plans"
  notebook := some (.resolved { guid := "b", name := "Work" })
  created := 2000
  updated := 2000

theorem run_plansDesk : Run (fun _ _ => True) {} plansDesk := by
  have homes : Run (fun _ _ => True) {} { service := ({} : Service).addNotebook _ } :=
    .single (.service (.addNotebook { guid := "a", name := "Home" }))
  have works := homes.tail (.service (.addNotebook { guid := "b", name := "Work" }))
  have apart := works.tail (.service (.add "Plans" (some "a") "home"))
  have plans := apart.tail (.service (.add "Plans" (some "b") "work"))
  have later := plans.tail (.service (.add "Plans for May" (some "b") ""))
  exact later.tail (.service (.add "May" (some "b") "many PLANS"))

theorem Run.findNote_latest_plansDesk :
    ({} : Desk).store.Empty ∧ plansDesk.service.Identified ∧
      (plansDesk.service.notebooks.map (·.guid)).Nodup ∧
      ((findNote "Plans" (some "Work")).perform plansDesk).1 = .ok workPlans ∧
      ((findNote "Plan" (some "Home")).perform plansDesk).1 = .error .noteNotFound ∧
      ((findNote "Plans" (some "Play")).perform plansDesk).1 =
        .error (.notebookNotFound "Play") := by
  have unused : ({} : Desk).store.Empty := ⟨rfl, rfl, rfl⟩
  have identified : plansDesk.service.Identified := by
    rw [Identified]
    decide +kernel
  have distinct : (plansDesk.service.notebooks.map (·.guid)).Nodup := by decide +kernel
  have noNumber {title : String} (h : Listing.number? title.toList = none) (i : Nat)
      (notes : List Note) (number : Listing.Denotes title (i + 1)) :
      plansDesk.lastListing = .ok notes → notes.length ≤ i := by
    rw [← Listing.number?_eq_some_iff, h] at number
    cases number
  have found (title : String) (h : Listing.number? title.toList = none) :=
    Run.findNote_latest unused rfl (by decide) run_plansDesk (by decide +kernel) identified
      distinct (noNumber h)
  have noteWork : ((findNote "Plans" (some "Work")).perform plansDesk).1 = .ok workPlans := by
    have only : ∀ r ∈ plansDesk.service.records,
        r.Lies (some { guid := "b", name := "Work" }) → r.note.title = "Plans" →
          r.note = workPlans := by
      decide +kernel
    have means : plansDesk.service.Place (some "Work") (some { guid := "b", name := "Work" }) :=
      .within (show nonEmpty (some "Work") = some "Work" by decide) (by decide +kernel)
    rcases ((found "Plans" (by decide) _).2 _ means).2 (by decide +kernel) with
      ⟨n, latest, same⟩ | ⟨none, -⟩
    · obtain ⟨r, held, lies, rfl, titled⟩ := latest.titled
      rw [same, only r held lies titled]
    · exact absurd ⟨⟨workPlans, "work"⟩, by decide +kernel⟩ (none workPlans)
  have noPlan : ((findNote "Plan" (some "Home")).perform plansDesk).1 = .error .noteNotFound := by
    have none : ∀ r ∈ plansDesk.service.records, r.note.title ≠ "Plan" := by decide +kernel
    have means : plansDesk.service.Place (some "Home") (some { guid := "a", name := "Home" }) :=
      .within (show nonEmpty (some "Home") = some "Home" by decide) (by decide +kernel)
    rcases ((found "Plan" (by decide) _).2 _ means).2 (by decide +kernel) with
      ⟨n, latest, -⟩ | ⟨-, same⟩
    · obtain ⟨r, held, -, rfl, titled⟩ := latest.titled
      exact absurd titled (none r held)
    · exact same
  have noPlay := (found "Plans" (by decide) (some "Play")).1 "Play" (by decide)
    (by decide +kernel)
  exact ⟨unused, identified, distinct, noteWork, noPlan, noPlay⟩

end Desk
end NoteDesk
