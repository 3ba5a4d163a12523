import Mathlib.Data.List.Induction
import NoteDesk.Proofs.Tracked

/-!
# Documents side by side

Any number of documents of one cache are created, written, closed, read and ended in any order. No
other program touches them, and no document is created under the name of one that is in use.

* `Cache.Bench` is the cache with the documents, and `Cache.Run` what is done there.
* `Cache.Accounted` is all that the history tells of a bench. `Accounted.step` keeps it, so
  `Run.accounted` holds after every run.
* `Cache.run_interleaved` is the main result: what a document holds and answers is told by what was
  done with that document (`Bench.Told`), and all else in the directory is as it was.
-/

namespace NoteDesk.Cache

/-! ## The bench -/

/-- A cache and all documents that were asked for, in order. Those that ended, or could not be
created, are missing. -/
structure Bench where
  cache : Cache
  documents : List (Option Document) := []

namespace Bench

def document? (b : Bench) (i : Nat) : Option Document :=
  b.documents[i]?.join

/-- The names of the documents in use. -/
def inUse (b : Bench) : List String :=
  b.documents.filterMap fun d => d.map Document.name

def perform (b : Bench) : Action → Reply × Bench
  | .create name =>
    match b.cache.create name with
    | .error flaw => (.failed flaw, { b with documents := b.documents ++ [none] })
    | .ok (d, c) => (.created b.documents.length, ⟨c, b.documents ++ [some d]⟩)
  | .use i act =>
    match b.document? i with
    | none => (.absent, b)
    | some d =>
      let o := d.perform b.cache act
      (o.reply, ⟨o.cache, b.documents.set i o.document⟩)

end Bench

/-- The name that a document is to be created under. -/
def Action.name? : Action → Option String
  | create name => some name
  | use .. => none

/-- All that was done since the cache was `c`, up to a bench. No document is created under the name
of one that is in use. -/
inductive Run (c : Cache) : List Event → Bench → Prop where
  | start : Run c [] ⟨c, []⟩
  | step {events : List Event} {b : Bench} (h : Run c events b) (a : Action)
    (apart : ∀ name, a.name? = some name → name ∉ b.inUse) :
    Run c (events ++ [(a, (b.perform a).1)]) (b.perform a).2

section Lookup

variable {b : Bench} {i : Nat} {d : Document} {name : String}

theorem Bench.document?_lt (h : b.document? i = some d) : i < b.documents.length := by
  rw [document?, Option.join_eq_some_iff] at h
  exact (List.getElem?_eq_some_iff.1 h).1

theorem Bench.mem_inUse : name ∈ b.inUse ↔ ∃ i d, b.document? i = some d ∧ d.name = name := by
  simp only [inUse, List.mem_filterMap, Option.map_eq_some_iff, document?, Option.join_eq_some_iff]
  constructor
  · rintro ⟨x, hx, d, rfl, same⟩
    obtain ⟨i, found⟩ := List.getElem?_of_mem hx
    exact ⟨i, d, found, same⟩
  · rintro ⟨i, d, found, same⟩
    exact ⟨some d, List.mem_of_getElem? found, d, rfl, same⟩

theorem Bench.inUse_concat (c : Cache) (d : Document) :
    inUse ⟨c, b.documents ++ [some d]⟩ = b.inUse ++ [d.name] := by
  simp [inUse]

theorem Bench.document?_concat (c : Cache) (x : Option Document) (i : Nat) :
    document? ⟨c, b.documents ++ [x]⟩ i =
      if i = b.documents.length then x else b.document? i := by
  simp only [document?]
  rcases Nat.lt_trichotomy i b.documents.length with lt | rfl | gt
  · rw [List.getElem?_append_left lt, if_neg (by omega)]
  · simp
  · rw [List.getElem?_eq_none (by simp; omega), if_neg (by omega),
      List.getElem?_eq_none (by omega)]

theorem Bench.document?_set (h : b.document? i = some d) (c : Cache) (x : Option Document)
    (j : Nat) :
    document? ⟨c, b.documents.set i x⟩ j = if j = i then x else b.document? j := by
  have lt := document?_lt h
  simp only [document?, List.getElem?_set]
  by_cases same : j = i
  · subst same
    simp [lt]
  · simp [same, Ne.symm same]

theorem Bench.set_self (h : b.document? i = some d) : b.documents.set i (some d) = b.documents := by
  rw [document?, Option.join_eq_some_iff] at h
  obtain ⟨lt, found⟩ := List.getElem?_eq_some_iff.1 h
  rw [← found, List.set_getElem_self]

end Lookup

variable {c c' : Cache} {name : String} {events : List Event} {e : Event} {i : Nat} {d : Document}
  {act : Act} {b : Bench}

/-! ## What a history tells of the bench -/

/-- All that a history tells of a bench. -/
structure Accounted (c : Cache) (events : List Event) (b : Bench) : Prop where
  tracked : ∀ {i d}, b.document? i = some d → Tracked events i d b.cache
  /-- The names in use are different. -/
  apart : ∀ {i j d d'}, b.document? i = some d → b.document? j = some d' → d.name = d'.name → i = j
  /-- All other names that were used are free again. -/
  rest : ∀ name, name ∉ b.inUse →
    b.cache.find? name = if name ∈ names events then none else c.find? name
  gone : ∀ i, b.document? i = none → ¬Opened i events
  /-- Nothing happened to what is not there yet. -/
  future : ∀ i, b.documents.length ≤ i → ∀ e ∈ events, Quiet i e

theorem accounted_start (c : Cache) : Accounted c [] ⟨c, []⟩ where
  tracked := by simp [Bench.document?]
  apart := by simp [Bench.document?]
  rest _ _ := rfl
  gone _ _ := not_since_of_forall (by simp)
  future := by simp

namespace Accounted

variable (h : Accounted c events b)
include h

theorem future_concat {n : Nat} (le : b.documents.length ≤ n) (quiet : ∀ i, n ≤ i → Quiet i e)
    (i : Nat) (hi : n ≤ i) : ∀ x ∈ events ++ [e], Quiet i x := by
  refine List.forall_mem_append.2 ⟨h.future i (Nat.le_trans le hi), ?_⟩
  exact List.forall_mem_singleton.2 (quiet i hi)

/-- What makes no difference to any document. -/
theorem concat_quiet {b' : Bench} (cache : b'.cache = b.cache)
    (same : ∀ i, b'.document? i = b.document? i)
    (longer : b.documents.length ≤ b'.documents.length) (quiet : ∀ i, Quiet i e)
    (unnamed : createdIn e = none) : Accounted c (events ++ [e]) b' where
  tracked {i d} found := by
    rw [cache]
    exact (h.tracked ((same i).symm.trans found)).concat_quiet (quiet i)
  apart {i j d d'} found found' :=
    h.apart ((same i).symm.trans found) ((same j).symm.trans found')
  rest name free := by
    have free' : name ∉ b.inUse := by
      rw [Bench.mem_inUse] at free ⊢
      simpa only [same] using free
    rw [cache, h.rest name free', names_concat, unnamed, Option.toList_none, List.append_nil]
  gone i none := (quiet i).opened_concat.not.2 (h.gone i ((same i).symm.trans none))
  future := h.future_concat longer fun i _ => quiet i

theorem concat_create (free : name ∉ b.inUse) (made : b.cache.create name = .ok (d, c')) :
    Accounted c (events ++ [(.create name, .created b.documents.length)])
      ⟨c', b.documents ++ [some d]⟩ := by
  have documents := b.document?_concat c' (some d)
  have new := tracked_create (h.future b.documents.length (Nat.le_refl _)) made
  have beside := beside_create made
  obtain ⟨rfl, -, view⟩ := find?_create made
  have apart {i : Nat} {d' : Document} (found : b.document? i = some d') : d'.name ≠ d.name :=
    fun same => free (Bench.mem_inUse.2 ⟨i, d', found, same⟩)
  have quiet {i : Nat} (ne : i ≠ b.documents.length) :
      Quiet i (.create d.name, .created b.documents.length) := .of_create (Ne.symm ne)
  constructor
  case tracked =>
    intro i d' found
    rw [documents] at found
    split_ifs at found with last
    · obtain rfl := Option.some.inj found
      rwa [last]
    · exact ((h.tracked found).concat_quiet (quiet last)).of_beside beside (apart found)
  case apart =>
    intro i j d' d'' found found' same
    rw [documents] at found found'
    split_ifs at found found' with last last' last'
    · rw [last, last']
    · obtain rfl := Option.some.inj found
      exact absurd same.symm (apart found')
    · obtain rfl := Option.some.inj found'
      exact absurd same (apart found)
    · exact h.apart found found' same
  case rest =>
    intro name free'
    rw [Bench.inUse_concat, List.mem_append, List.mem_singleton, not_or] at free'
    obtain ⟨unused, ne⟩ := free'
    rw [view, if_neg ne, h.rest name unused, names_concat]
    simp [createdIn, ne]
  case gone =>
    intro i none
    rw [documents] at none
    split_ifs at none with last
    exact (quiet last).opened_concat.not.2 (h.gone i none)
  case future =>
    rw [List.length_append, List.length_singleton]
    exact h.future_concat (Nat.le_succ _) fun i le => quiet (by omega)

theorem concat_use {o : Outcome} (found : b.document? i = some d)
    (f : Follows events i d b.cache act o) :
    Accounted c (events ++ [(.use i act, o.reply)]) ⟨o.cache, b.documents.set i o.document⟩ := by
  have documents := Bench.document?_set found o.cache o.document
  have lt := Bench.document?_lt found
  have quiet {j : Nat} (ne : j ≠ i) : Quiet j (.use i act, o.reply) :=
    .of_ne (Ne.symm ne) f.notCreated
  -- a document that is still there was there, under its name
  have before {j : Nat} {d' : Document}
      (found' : Bench.document? ⟨o.cache, b.documents.set i o.document⟩ j = some d') :
      ∃ d'', b.document? j = some d'' ∧ d''.name = d'.name := by
    rw [documents] at found'
    split_ifs at found' with same
    · exact ⟨d, same ▸ found, (f.tracked d' found').1.symm⟩
    · exact ⟨d', found', rfl⟩
  constructor
  case tracked =>
    intro j d' found'
    rw [documents] at found'
    split_ifs at found' with same
    · rw [same]
      exact (f.tracked d' found').2
    · refine ((h.tracked found').concat_quiet (quiet same)).of_beside f.beside fun same' => ?_
      exact same (h.apart found' found same')
  case apart =>
    intro j k d' d'' found' found'' same
    obtain ⟨_, was, name⟩ := before found'
    obtain ⟨_, was', name'⟩ := before found''
    exact h.apart was was' (by rw [name, name', same])
  case rest =>
    intro name free
    have unnamed : names (events ++ [(.use i act, o.reply)]) = names events := by
      rw [names_concat]
      exact List.append_nil _
    rw [Bench.mem_inUse, not_exists] at free
    rw [unnamed]
    by_cases own : name = d.name
    -- the document's own name is free only once the document ended
    · have ended : o.document = none := by
        refine Option.eq_none_iff_forall_ne_some.2 fun d' here => free i ⟨d', ?_, ?_⟩
        · rw [documents, if_pos rfl, here]
        · rw [(f.tracked d' here).1, own]
      rw [own, (f.ended ended).1, if_pos (mem_names (h.tracked found).created)]
    · have free' : name ∉ b.inUse := by
        rw [Bench.mem_inUse]
        rintro ⟨j, d', found', rfl⟩
        have other : j ≠ i := by
          rintro rfl
          rw [found] at found'
          exact own (congrArg Document.name (Option.some.inj found')).symm
        exact free j ⟨d', by rw [documents, if_neg other, found'], rfl⟩
      rw [f.beside.view name own, h.rest name free']
  case gone =>
    intro j none
    rw [documents] at none
    split_ifs at none with same
    · rw [same]
      exact (f.ended none).2.not_opened (f.notCreated i)
    · exact (quiet same).opened_concat.not.2 (h.gone j none)
  case future =>
    rw [List.length_set]
    exact h.future_concat (Nat.le_refl _) fun j le => quiet (by omega)

/-- **A step keeps account**: whatever is done, the history that it is added to tells all of the
bench after it. -/
theorem step (a : Action) (apart : ∀ name, a.name? = some name → name ∉ b.inUse) :
    Accounted c (events ++ [(a, (b.perform a).1)]) (b.perform a).2 := by
  cases a with
  | create name =>
    rw [Bench.perform]
    split
    next flaw _ =>
      refine h.concat_quiet rfl (fun i => ?_) (by simp) (fun _ => .of_not_isOk rfl) rfl
      rw [Bench.document?_concat]
      split_ifs with last
      · simp [Bench.document?, last]
      · rfl
    next made => exact h.concat_create (apart name rfl) made
  | use i act =>
    rw [Bench.perform]
    split
    next absent =>
      exact h.concat_quiet rfl (fun _ => rfl) (Nat.le_refl _) (fun _ => .of_not_isOk rfl) rfl
    next d found => exact h.concat_use found ((h.tracked found).follows act)

end Accounted

theorem Run.accounted (h : Run c events b) : Accounted c events b := by
  induction h with
  | start => exact accounted_start c
  | step _ a apart ih => exact ih.step a apart

/-! ## What a run tells -/

/-- What a document holds and answers is told by what was done with it. -/
structure Bench.Told (b : Bench) (events : List Event) (i : Nat) (d : Document) : Prop where
  created : (.create d.name, .created i) ∈ events
  file : b.cache.find? d.name = some (.file (written i events))
  read : Unread i events → (b.perform (.use i .read)).1 = .content (written i events)
  /-- A document is read to its end. -/
  readAgain : ForReading i events → ¬Unread i events → (b.perform (.use i .read)).1 = .content []
  noRead : ¬ForReading i events → b.perform (.use i .read) = (.failed d.refusal, b)
  write : ∀ data, ForWriting i events ∨ data = [] → (b.perform (.use i (.write data))).1 = .done
  noWrite : ∀ data, ¬ForWriting i events → data ≠ [] →
    b.perform (.use i (.write data)) = (.failed d.refusal, b)
  reopen : (b.perform (.use i .reopen)).1 = .done
  ends : ∀ act, act = .drop ∨ act = .closeAndRemove → (b.perform (.use i act)).1 = .done ∧
    (b.perform (.use i act)).2.document? i = none ∧
    ∀ other, (b.perform (.use i act)).2.cache.find? other =
      if other = d.name then none else b.cache.find? other

theorem Bench.perform_use (found : b.document? i = some d) (act : Act) :
    b.perform (.use i act) =
      ((d.perform b.cache act).reply,
        ⟨(d.perform b.cache act).cache, b.documents.set i (d.perform b.cache act).document⟩) := by
  rw [perform, found]

theorem Bench.perform_failed {flaw : Failure} (found : b.document? i = some d)
    (failed : d.perform b.cache act = ⟨.failed flaw, some d, b.cache⟩) :
    b.perform (.use i act) = (.failed flaw, b) := by
  rw [perform_use found, failed, set_self found]

theorem Accounted.told (h : Accounted c events b) (found : b.document? i = some d) :
    b.Told events i d := by
  have tracked := h.tracked found
  have perform := Bench.perform_use found
  constructor
  case created => exact tracked.created
  case file => exact tracked.find?
  case read =>
    intro fresh
    obtain ⟨_, rest, -, first, -, performed⟩ := tracked.perform_read fresh.forReading
    rw [perform, performed, first fresh]
  case readAgain =>
    intro reopened stale
    obtain ⟨_, rest, -, -, again, performed⟩ := tracked.perform_read reopened
    rw [perform, performed, again stale]
  case noRead => exact fun h' => Bench.perform_failed found (tracked.perform_read_of_not h')
  case write =>
    intro data able
    by_cases nothing : data = []
    · rw [perform, nothing]
      rfl
    · obtain ⟨_, -, performed⟩ := tracked.perform_write (able.resolve_right nothing) nothing
      rw [perform, performed]
  case noWrite => exact fun data h' ne => Bench.perform_failed found (tracked.perform_write_of_not h' ne)
  case reopen =>
    obtain ⟨_, -, performed⟩ := tracked.perform_reopen
    rw [perform, performed]
  case ends =>
    intro act ends
    obtain ⟨c', deleted, performed⟩ := tracked.perform_end ends
    rw [perform, performed]
    refine ⟨rfl, ?_, find?_delete deleted⟩
    rw [Bench.document?_set found, if_pos rfl]

theorem Accounted.isOpen_iff (h : Accounted c events b) (i : Nat) :
    (b.document? i).any Document.isOpen ↔ Opened i events := by
  cases found : b.document? i with
  | none => simp [h.gone i found]
  | some d => exact (h.tracked found).isOpen_iff

theorem exists_newFile (apart : c.directory ≠ .plainFile) (name : String) (content : Bytes) :
    ∃ c', c.newFile name content = .ok c' := by
  rw [newFile]
  split
  next refused =>
    generalize c.directory = directory at apart refused
    cases directory with
    | plainFile => exact absurd rfl apart
    | missing => cases refused
    | holding entries => cases refused
  next => exact ⟨_, rfl⟩

/-- Nothing but its name, or a folder there, keeps a document from being created. -/
theorem exists_create (valid : isName name.toList) (flawless : nameFlaw? c.directory name = none)
    (free : c.find? name ≠ some .folder) : ∃ d c', c.create name = .ok (d, c') := by
  have apart : c.directory ≠ .plainFile := by
    intro plain
    rw [nameFlaw?, if_pos plain] at flawless
    split_ifs at flawless
  have written : ∃ file c', c.writeFile name [] = .ok (file, c') := by
    rw [writeFile]
    split
    next folder => exact absurd (by rw [find?, folder]; rfl) free
    next => exact ⟨_, _, rfl⟩
    next =>
      obtain ⟨made, new⟩ := exists_newFile apart name []
      exact ⟨_, made, by rw [new]; rfl⟩
  obtain ⟨file, c', written⟩ := written
  exact ⟨_, c', by rw [create, if_pos valid, flawless, written]⟩

/-- What is done under different names can always be done. -/
theorem exists_run (c : Cache) {actions : List Action}
    (apart : (actions.filterMap Action.name?).Nodup) :
    ∃ events b, Run c events b ∧ events.map Prod.fst = actions := by
  induction actions using List.reverseRecOn with
  | nil => exact ⟨[], ⟨c, []⟩, .start, rfl⟩
  | append_singleton actions a ih =>
    rw [List.filterMap_append, List.nodup_append] at apart
    obtain ⟨events, b, run, rfl⟩ := ih apart.1
    refine ⟨_, _, run.step a fun name named used => ?_, by simp⟩
    obtain ⟨i, d, found, rfl⟩ := Bench.mem_inUse.1 used
    have created := List.mem_map_of_mem (f := Prod.fst) (run.accounted.tracked found).created
    exact apart.2.2 d.name (List.mem_filterMap.2 ⟨_, created, rfl⟩) d.name
      (by simp [named]) rfl

/-- **Documents that are worked with side by side do not interfere.** Whatever is done under
different names, in whatever order, is a run. After every run a document can be created unless its
name or a folder is in the way; one is open from when it was created or reopened until it is closed;
what it holds and answers is told by what was done with it (`Bench.Told`); and nothing is left of
those that ended, while all other files are as they were. -/
theorem run_interleaved :
    (∀ (c : Cache) (actions : List Action), (actions.filterMap Action.name?).Nodup →
      ∃ events b, Run c events b ∧ events.map Prod.fst = actions) ∧
    ∀ {c : Cache} {events : List Event} {b : Bench}, Run c events b →
      (∀ name, isName name.toList → nameFlaw? b.cache.directory name = none →
        b.cache.find? name ≠ some .folder →
          (b.perform (.create name)).1 = .created b.documents.length) ∧
      (∀ i, (b.document? i).any Document.isOpen ↔ Opened i events) ∧
      (∀ i d, b.document? i = some d → b.Told events i d) ∧
      ∀ name, name ∉ b.inUse →
        b.cache.find? name = if name ∈ names events then none else c.find? name := by
  refine ⟨fun c _ => exists_run c, fun run => ?_⟩
  have h := run.accounted
  refine ⟨fun name valid flawless free => ?_, h.isOpen_iff, fun i d => h.told, h.rest⟩
  obtain ⟨d, c', made⟩ := exists_create valid flawless free
  rw [Bench.perform, made]

/-- A cache with two files, one of them under the name of a document to come. -/
def shelf : Cache :=
  (((empty.overwrite "kept" [7]).bind (·.overwrite "a.md" [9])).toOption).getD empty

/-- Two documents. One is reopened too early, and ends. -/
def crossed : List Action :=
  [.create "a.md", .create "b.md", .use 0 (.write [1]), .use 1 (.write [2]), .use 0 .reopen,
    .use 0 (.write [3]), .use 1 (.write [4]), .use 1 .close, .use 1 .reopen, .use 0 .drop]

theorem run_interleaved_shelf :
    (crossed.filterMap Action.name?).Nodup ∧ shelf.find? "a.md" = some (.file [9]) ∧
    (∃ events b, Run shelf events b ∧ events.map Prod.fst = crossed) ∧
    ∃ events b, Run shelf events b ∧ events.map Prod.fst = crossed ∧
      (b.perform (.create "c.md")).1 = .created 2 ∧
      Unread 1 events ∧ (b.perform (.use 1 .read)).1 = .content [2, 4] ∧
      "a.md" ∉ b.inUse ∧ b.cache.find? "a.md" = none ∧
      "kept" ∉ b.inUse ∧ b.cache.find? "kept" = some (.file [7]) := by
  have nodup : (crossed.filterMap Action.name?).Nodup := by decide
  have used {i : Nat} {act : Act} {b : Bench} :
      ∀ name, (Action.use i act).name? = some name → name ∉ b.inUse := by rintro _ ⟨⟩
  have run := ((Run.start (c := shelf)).step (.create "a.md") (by rintro _ ⟨⟩; decide)).step
    (.create "b.md") (by rintro _ ⟨⟩; decide)
      |>.step (.use 0 (.write [1])) used |>.step (.use 1 (.write [2])) used
      |>.step (.use 0 .reopen) used |>.step (.use 0 (.write [3])) used
      |>.step (.use 1 (.write [4])) used |>.step (.use 1 .close) used
      |>.step (.use 1 .reopen) used |>.step (.use 0 .drop) used
  obtain ⟨create, -, told, rest⟩ := run_interleaved.2 run
  refine ⟨nodup, by decide, run_interleaved.1 shelf crossed nodup, _, _, run, rfl, ?_, ?unread,
    (told 1 _ rfl).read ?unread, ?_, ?_, ?_, ?_⟩
  case unread =>
    refine since_concat.2 (.inr ⟨by simp [Did, Closes, Ends], since_concat.2 (.inl ⟨rfl, ?_⟩)⟩)
    decide +kernel
  · exact create "c.md" (by decide) (by decide +kernel) (by decide +kernel)
  · decide +kernel
  · exact (rest "a.md" (by decide +kernel)).trans (by decide +kernel)
  · decide +kernel
  · exact (rest "kept" (by decide +kernel)).trans (by decide +kernel)

end NoteDesk.Cache
