import NoteDesk.Proofs.Atomic
import NoteDesk.Proofs.Reached

/-!
# Pages of a search

The service keeps its records in no order that a search could show: a search that goes by times
finds the same notes in the same order however the records are kept, since no two of them have the
same times.

* `Service.Dated` is the invariant. `Service.Dated.step` is the step, `Service.Reached.dated` the
  run.
* `Service.Results` are the notes that a query asks for, told without any order of the records.
  `Service.Results.unique`: a query has just one list of them. `Service.Dated.results`: it is what
  the service finds.
* `Service.pages_find`: pages that follow one another make up the whole.
* `Service.Reached.search_exact` is the main result.
-/

namespace NoteDesk

/-! ## Words in a text -/

/-- A text has another inside if that is a part of it. -/
theorem Text.hasInside_iff {needle s : List Char} : hasInside needle s ↔ needle <:+: s := by
  induction s with
  | nil => cases needle <;> simp [hasInside, breakAt]
  | cons c s ih =>
    rw [List.infix_cons_iff, ← ih, hasInside, breakAt]
    cases begins : needle.isPrefixOf? (c :: s) with
    | some rest =>
      have whole : needle ++ rest = c :: s := List.isPrefixOf?_eq_some_iff_append_eq.1 begins
      exact iff_of_true rfl (.inl ⟨rest, whole⟩)
    | none =>
      have apart : ¬needle <+: c :: s := by
        rintro ⟨rest, whole⟩
        rw [List.isPrefixOf?_eq_some_iff_append_eq.2 whole] at begins
        cases begins
      simp [apart, hasInside]

namespace Service

variable {s s' : Service} {q : Query} {notes : List Note}

/-! ## Times -/

/-- No two records are of the same note or have the same times, and none has a content beside its
wire content. -/
structure Dated (s : Service) : Prop where
  numbered : Numbered s.records
  updated : s.records.Pairwise fun a b => a.note.updated ≠ b.note.updated
  created : s.records.Pairwise fun a b => a.note.created ≠ b.note.created
  since : ∀ r ∈ s.records, r.note.created ≤ r.note.updated
  timely : ∀ r ∈ s.records, r.note.updated ≤ s.clock
  bare : ∀ r ∈ s.records, r.note.body = "" ∧ r.note.md = ""

theorem Numbered.pairwise {records : List Record} (h : Numbered records) :
    records.Pairwise fun a b => a.note.guid ≠ b.note.guid := by
  rw [List.pairwise_iff_getElem]
  intro i j hi hj before same
  have one := h.unique (List.getElem?_eq_getElem hi) (List.getElem?_eq_getElem hj) same
  omega

/-- **Times stay apart**, whatever is done with the service. -/
theorem Dated.step (h : s.Dated) (step : s.Step s') : s'.Dated := by
  have next := s.lt_nextTime
  have updated (r : Record) (hr : r ∈ s.records) : r.note.updated < s.nextTime :=
    Int.lt_of_le_of_lt (h.timely r hr) next
  have created (r : Record) (hr : r ∈ s.records) : r.note.created < s.nextTime :=
    Int.lt_of_le_of_lt (h.since r hr) (updated r hr)
  exact
    { numbered := h.numbered.step step
      updated := step.times_apart h.numbered.pairwise updated (fun _ _ _ _ => rfl)
        (fun _ _ _ => .inr rfl) (fun _ => rfl) h.updated
      created := step.times_apart h.numbered.pairwise created (fun _ _ _ _ => rfl)
        (fun _ _ _ => .inl rfl) (fun _ => rfl) h.created
      since := by
        intro r hr
        cases step.origin hr with
        | stays was => exact h.since r was
        | adds settled clock => exact Int.le_refl _
        | updates old n was clock => exact Int.le_of_lt (created old was)
        | deletes old was => exact h.since old was
      timely := Timely.step h.timely step
      bare := by
        intro r hr
        cases step.origin hr with
        | stays was => exact h.bare r was
        | adds settled clock => exact ⟨rfl, rfl⟩
        | updates old n was clock => exact h.bare old was
        | deletes old was => exact h.bare old was }

/-- Anything was done with the service since it had no notes. -/
def Reached (s : Service) : Prop :=
  ∃ s₀ : Service, s₀.records = [] ∧ Relation.ReflTransGen Step s₀ s

theorem Reached.dated (h : s.Reached) : s.Dated := by
  obtain ⟨s₀, empty, run⟩ := h
  induction run with
  | refl => constructor <;> simp [empty, Numbered]
  | tail _ last ih => exact ih.step last

/-! ## What a query asks for -/

/-- The note of the record is one that the query asks for: it is not deleted, it is in the notebook
if the query names one, and its title or its content has the words if the query has any, in
whatever case. -/
structure Query.Wants (q : Query) (r : Record) : Prop where
  live : r.note.deleted = false
  within : ∀ guid ∈ q.notebook, r.note.notebookGuid? = some guid
  mentions : ∀ words ∈ q.words, Text.lower words.toList <:+: Text.lower r.note.title.toList ∨
    Text.lower words.toList <:+: Text.lower r.content.toList

theorem Query.accepts_iff {r : Record} : q.accepts r ↔ q.Wants r := by
  have fields : q.Wants r ↔ r.note.deleted = false ∧
      (∀ guid ∈ q.notebook, r.note.notebookGuid? = some guid) ∧
      ∀ words ∈ q.words, Text.lower words.toList <:+: Text.lower r.note.title.toList ∨
        Text.lower words.toList <:+: Text.lower r.content.toList :=
    ⟨fun h => ⟨h.live, h.within, h.mentions⟩, fun h => ⟨h.1, h.2.1, h.2.2⟩⟩
  rw [fields, accepts, Bool.and_eq_true, Bool.and_eq_true, Bool.not_eq_true', and_assoc]
  refine and_congr_right' (and_congr ?_ ?_)
  · cases q.notebook <;> simp
  · cases q.words <;> simp [Query.mentions, Text.hasInside_iff]

/-- The time that notes are sorted by, if they are sorted by a time. -/
def Order.time (order : Order) (n : Note) : Int :=
  match order with
  | .created => n.created
  | _ => n.updated

/-- The notes that a query asks for, newest first. -/
structure Results (s : Service) (q : Query) (notes : List Note) : Prop where
  sorted : notes.Pairwise fun a b => q.order.time b < q.order.time a
  mem : ∀ n, n ∈ notes ↔ ∃ r ∈ s.records, q.Wants r ∧ r.note = n

theorem Results.nodup (h : s.Results q notes) : notes.Nodup := by
  refine h.sorted.imp ?_
  rintro a b before rfl
  exact Int.lt_irrefl _ before

/-- **A query has only one list of results.** -/
theorem Results.unique {others : List Note} (h : s.Results q notes) (h' : s.Results q others) :
    others = notes := by
  refine List.Perm.eq_of_pairwise ?_ h'.sorted h.sorted ?_
  · exact fun a b _ _ ab ba => absurd (Int.lt_trans ab ba) (Int.lt_irrefl _)
  · rw [List.perm_ext_iff_of_nodup h'.nodup h.nodup]
    exact fun n => (h'.mem n).trans (h.mem n).symm

/-! ## What the service finds -/

theorem mem_matching {n : Note} :
    n ∈ s.matching q ↔ ∃ r ∈ s.records, q.Wants r ∧ r.note = n := by
  simp [matching, Query.accepts_iff, and_assoc]

theorem matching_sorted (timed : q.order ≠ .title) :
    (s.matching q).Pairwise fun a b => q.order.time b ≤ q.order.time a := by
  have before (a b : Note) :
      q.order.before a b = decide (q.order.time b ≤ q.order.time a) := by
    cases horder : q.order with
    | title => exact absurd horder timed
    | _ => rfl
  have sorted : (s.matching q).Pairwise fun a b => q.order.before a b = true := by
    refine List.pairwise_mergeSort ?_ ?_ _
    · intro a b c
      simp only [before, decide_eq_true_eq]
      exact fun ab bc => Int.le_trans bc ab
    · intro a b
      simp only [before, Bool.or_eq_true, decide_eq_true_eq]
      exact Int.le_total _ _
  exact sorted.imp fun {a b} le => by simpa only [before, decide_eq_true_eq] using le

/-- **What the service finds are the results of the query**, in whatever order it keeps the
records. -/
theorem Dated.results (h : s.Dated) (timed : q.order ≠ .title) {records : List Record}
    (perm : records.Perm s.records) :
    s.Results q (({ s with records } : Service).matching q) where
  sorted := by
    have differ : s.records.Pairwise fun a b => q.order.time a.note ≠ q.order.time b.note := by
      cases q.order with
      | created => exact h.created
      | _ => exact h.updated
    have kept : records.Pairwise fun a b => q.order.time a.note ≠ q.order.time b.note :=
      (perm.pairwise_iff fun h => h.symm).2 differ
    have apart : (({ s with records } : Service).matching q).Pairwise fun a b =>
        q.order.time a ≠ q.order.time b := by
      refine ((List.mergeSort_perm _ _).pairwise_iff fun h => h.symm).2 ?_
      exact List.pairwise_map.2 (kept.sublist List.filter_sublist)
    refine ((matching_sorted timed).and apart).imp ?_
    rintro a b ⟨upTo, other⟩
    omega
  mem n := by
    rw [mem_matching]
    simp only [perm.mem_iff]

/-- Pages that follow one another are what they would be in one. -/
theorem pages_find (s : Service) (q : Query) (count pages : Nat) :
    (List.range pages).flatMap (fun page => (s.find q (page * count) count).1) =
      (s.matching q).take (pages * count) := by
  induction pages with
  | zero => simp
  | succ pages ih =>
    rw [List.range_succ, List.flatMap_append, ih, List.flatMap_singleton, find, Nat.succ_mul,
      List.take_add]

/-! ## Services reached -/

/-- **A search is exact.** Whatever was done with the service since it had no notes: its notes
differ in their times, and a query that goes by times has just one list of results, newest first,
none of which has a content. A search gives the part of this list that it asks for, in whatever
order the records are kept, so pages that follow one another make up the whole list. -/
theorem Reached.search_exact (h : s.Reached) :
    s.Dated ∧ ∀ q : Query, q.order ≠ .title → ∃ notes, s.Results q notes ∧
      (∀ others, s.Results q others → others = notes) ∧
      (∀ n ∈ notes, n.body = "" ∧ n.md = "") ∧
      (∀ records : List Record, records.Perm s.records → ∀ offset count,
        (({ s with records } : Service).find q offset count).1 =
          (notes.drop offset).take count) ∧
      ∀ count pages, notes.length ≤ pages * count →
        (List.range pages).flatMap (fun page => (s.find q (page * count) count).1) = notes := by
  have dated := h.dated
  refine ⟨dated, fun q timed => ?_⟩
  have results : s.Results q (s.matching q) := dated.results timed (.refl _)
  refine ⟨s.matching q, results, fun others h' => results.unique h', ?_, ?_, ?_⟩
  · intro n found
    obtain ⟨r, held, -, rfl⟩ := mem_matching.1 found
    exact dated.bare r held
  · intro records perm offset count
    rw [find, results.unique (dated.results timed perm)]
  · intro count pages all
    rw [pages_find, List.take_of_length_le all]

/-- A service with two notes that mention milk, of which the first was renamed after an update of a
note that there is not. -/
def milkService : Service :=
  let home : Notebook := { guid := "a", name := "Home" }
  let added := ((({} : Service).addNotebook home).add "Groceries" (some "a") "MILK and eggs").2
  let created :=
    (added.create { title := "Milk", notebook := some (.resolved home), created := 7 }).2
  let missed := (created.update { guid := "b", title := "Bread" }).2
  (missed.update { guid := Guid.ofNumber 1, title := "Shopping" }).2

theorem reached_milkService : milkService.Reached := by
  refine ⟨{}, rfl, ?_⟩
  have noted : Relation.ReflTransGen Step {} (({} : Service).addNotebook _) :=
    .single (.addNotebook { guid := "a", name := "Home" })
  have added := noted.tail (.add "Groceries" (some "a") "MILK and eggs")
  have created := added.tail (.create
    { title := "Milk", notebook := some (.resolved { guid := "a", name := "Home" }), created := 7 })
  have missed := created.tail (.update { guid := "b", title := "Bread" })
  exact missed.tail (.update { guid := Guid.ofNumber 1, title := "Shopping" })

theorem Reached.search_exact_milkService :
    milkService.Reached ∧
      (({ milkService with records := milkService.records.reverse } : Service).find
        { notebook := some "a", words := some "mILk" } 0 2).1.map (·.title) =
          ["Shopping", "Milk"] := by
  have inOrder : (milkService.find { notebook := some "a", words := some "mILk" } 0 2).1.map
      (·.title) = ["Shopping", "Milk"] := by
    rw [find, matching, List.mergeSort_of_pairwise (by decide +kernel)]
    decide +kernel
  obtain ⟨-, searches⟩ := reached_milkService.search_exact
  obtain ⟨notes, -, -, -, found, -⟩ :=
    searches { notebook := some "a", words := some "mILk" } (by decide)
  rw [found milkService.records (.refl _)] at inOrder
  rw [found _ (List.reverse_perm _)]
  exact ⟨reached_milkService, inOrder⟩

end Service
end NoteDesk
