import NoteDesk.Proofs.History

/-!
# A document and its history

What is written to a document stands in its file, and its history tells where its handle is, as long
as nothing but the document touches the file.

* `Cache.Document.perform` does something with a document.
* `Cache.Tracked` ties a document to its history. `Tracked.perform_write`, `Tracked.perform_read`
  and the like are what it answers then.
* `Cache.Beside` is what else may change in the cache, and `Cache.Follows` one step of a document:
  `Tracked.follows` and `tracked_create` are what every run is made of.
-/

namespace NoteDesk.Cache

/-! ## What is done -/

/-- What comes of something done with a document: the reply, and the document unless it ended. -/
structure Outcome where
  reply : Reply
  document : Option Document
  cache : Cache

namespace Document

def perform (d : Document) (c : Cache) : Act → Outcome
  | .write data =>
    match d.write data c with
    | .error flaw => ⟨.failed (.io flaw), some d, c⟩
    | .ok (d, c) => ⟨.done, some d, c⟩
  | .flush =>
    match d.flush with
    | .error flaw => ⟨.failed (.io flaw), some d, c⟩
    | .ok () => ⟨.done, some d, c⟩
  | .close => ⟨.done, some d.close, c⟩
  | .reopen =>
    match d.reopen c with
    | .error flaw => ⟨.failed (.io flaw), some d, c⟩
    | .ok d => ⟨.done, some d, c⟩
  | .read =>
    match d.read c with
    | .error flaw => ⟨.failed (.io flaw), some d, c⟩
    | .ok (data, d) => ⟨.content data, some d, c⟩
  | .drop => ⟨.done, none, c.discard d.name⟩
  | .closeAndRemove =>
    match c.delete d.name with
    | .error flaw => ⟨.failed (.io flaw), none, c⟩
    | .ok c => ⟨.done, none, c⟩

/-- How a document refuses what it is not open for. -/
def refusal (d : Document) : Failure :=
  .io (if d.isOpen then .badDescriptor else .closed)

end Document

variable {c c' : Cache} {name : String} {file : Nat} {events : List Event} {e : Event} {i : Nat}
  {d : Document} {handle : Option Handle} {act : Act} {data : Bytes}

/-! ## What is left alone -/

/-- Nothing but what stands under the name is another. -/
structure Beside (name : String) (c c' : Cache) : Prop where
  entry : ∀ other, other ≠ name → c'.directory.find? other = c.directory.find? other
  view : ∀ other, other ≠ name → c'.find? other = c.find? other

theorem Beside.refl (name : String) (c : Cache) : Beside name c c :=
  ⟨fun _ _ => rfl, fun _ _ => rfl⟩

theorem beside_modify (h : c.directory.find? name = some (.file file)) (f : Bytes → Bytes) :
    Beside name c (c.modify file f) where
  entry _ _ := rfl
  view other ne := by rw [find?_modify h, if_neg ne]

theorem beside_delete (h : c.delete name = .ok c') : Beside name c c' where
  entry other ne := by
    rw [delete] at h
    split at h
    · cases h
    next directory removed =>
      obtain rfl := Except.ok.inj h
      exact (Directory.find?_remove removed other).trans (if_neg ne)
  view other ne := by rw [find?_delete h, if_neg ne]

theorem beside_writeFile (h : c.writeFile name data = .ok (file, c')) : Beside name c c' where
  entry other ne := by
    rw [writeFile] at h
    split at h
    · cases h
    · obtain ⟨-, rfl⟩ := Prod.mk.inj (Except.ok.inj h)
      rfl
    · unfold newFile at h
      split at h
      · cases h
      next directory put =>
        obtain ⟨-, rfl⟩ := Prod.mk.inj (Except.ok.inj h)
        exact (Directory.find?_put put other).trans (if_neg ne)
  view other ne := by rw [(find?_writeFile h).2, if_neg ne]

theorem beside_create (h : c.create name = .ok (d, c')) : Beside name c c' := by
  rw [create] at h
  split_ifs at h
  split at h
  · cases h
  split at h
  · cases h
  next written =>
    obtain ⟨-, rfl⟩ := Prod.mk.inj (Except.ok.inj h)
    exact beside_writeFile written

theorem exists_delete (h : c.directory.find? name = some (.file file)) :
    ∃ c', c.delete name = .ok c' := by
  rw [delete]
  split
  next refused =>
    rw [Directory.remove_of_file h] at refused
    cases refused
  next => exact ⟨_, rfl⟩

/-! ## Documents and their history -/

/-- The handle is what the history says. -/
inductive Held (events : List Event) (i file : Nat) : Option Handle → Prop where
  | closed (shut : ¬Opened i events) : Held events i file none
  | writing (asCreated : ForWriting i events) (notReopened : ¬ForReading i events) :
    Held events i file (some ⟨.file file, .writing, (written i events).length⟩)
  | unread (fresh : Unread i events) (noWriting : ¬ForWriting i events) :
    Held events i file (some ⟨.file file, .reading, 0⟩)
  | read (reopened : ForReading i events) (stale : ¬Unread i events)
    (noWriting : ¬ForWriting i events) :
    Held events i file (some ⟨.file file, .reading, (written i events).length⟩)

/-- The file is what the history says, and so is the handle. -/
structure Tracked (events : List Event) (i : Nat) (d : Document) (c : Cache) : Prop where
  created : (.create d.name, .created i) ∈ events
  held : ∃ file, c.directory.find? d.name = some (.file file) ∧
    c.contentOf file = written i events ∧ Held events i file d.handle

theorem Held.concat_quiet (h : Held events i file handle) (quiet : Quiet i e) :
    Held (events ++ [e]) i file handle := by
  have same : written i (events ++ [e]) = written i events := quiet.written_concat
  cases h with
  | closed shut => exact .closed (quiet.opened_concat.not.2 shut)
  | writing asCreated notReopened =>
    rw [← same]
    exact .writing (quiet.forWriting_concat.2 asCreated) (quiet.forReading_concat.not.2 notReopened)
  | unread fresh noWriting =>
    exact .unread (quiet.unread_concat.2 fresh) (quiet.forWriting_concat.not.2 noWriting)
  | read reopened stale noWriting =>
    rw [← same]
    exact .read (quiet.forReading_concat.2 reopened) (quiet.unread_concat.not.2 stale)
      (quiet.forWriting_concat.not.2 noWriting)

theorem Held.isSome_iff (h : Held events i file handle) : handle.isSome ↔ Opened i events := by
  cases h with
  | closed shut => simp [shut]
  | writing asCreated _ => simp [asCreated.opened]
  | unread fresh _ => simp [fresh.forReading.opened]
  | read reopened _ _ => simp [reopened.opened]

namespace Tracked

theorem concat_quiet (h : Tracked events i d c) (quiet : Quiet i e) :
    Tracked (events ++ [e]) i d c where
  created := List.mem_append_left _ h.created
  held := by
    obtain ⟨file, found, content, held⟩ := h.held
    exact ⟨file, found, by rw [content, quiet.written_concat], held.concat_quiet quiet⟩

/-- A file keeps its content while the cache changes under another name. -/
theorem of_beside (h : Tracked events i d c) (beside : Beside name c c') (ne : d.name ≠ name) :
    Tracked events i d c' where
  created := h.created
  held := by
    obtain ⟨file, found, content, held⟩ := h.held
    have found' : c'.directory.find? d.name = some (.file file) :=
      (beside.entry d.name ne).trans found
    -- the file has its number still, so what stands under the name is its content
    have view := beside.view d.name ne
    rw [find?_eq_file found, find?_eq_file found', content] at view
    exact ⟨file, found', by simpa using view, held⟩

variable (h : Tracked events i d c)
include h

theorem find? : c.find? d.name = some (.file (written i events)) := by
  obtain ⟨file, found, content, -⟩ := h.held
  rw [find?_eq_file found, content]

theorem contentOf (found : c.directory.find? d.name = some (.file file)) :
    c.contentOf file = written i events := by
  have view := h.find?
  rw [find?_eq_file found] at view
  simpa using view

theorem not_both (asCreated : ForWriting i events) : ¬ForReading i events := by
  obtain ⟨file, -, -, held⟩ := h.held
  generalize d.handle = handle at held
  cases held with
  | closed shut => exact absurd asCreated.opened shut
  | writing _ notReopened => exact notReopened
  | unread _ noWriting => exact absurd asCreated noWriting
  | read _ _ noWriting => exact absurd asCreated noWriting

theorem isOpen_iff : d.isOpen ↔ Opened i events := by
  obtain ⟨file, -, -, held⟩ := h.held
  exact held.isSome_iff

/-! ## What a document does -/

theorem perform_write (asCreated : ForWriting i events) (ne : data ≠ []) :
    ∃ file, c.directory.find? d.name = some (.file file) ∧ d.perform c (.write data) =
      ⟨.done, some ⟨d.name, some ⟨.file file, .writing, (written i events ++ data).length⟩⟩,
        c.modify file fun _ => written i events ++ data⟩ := by
  obtain ⟨name, handle⟩ := d
  obtain ⟨-, file, found, content, held⟩ := h
  cases held with
  | closed shut => exact absurd asCreated.opened shut
  | unread _ noWriting => exact absurd asCreated noWriting
  | read _ _ noWriting => exact absurd asCreated noWriting
  | writing _ _ =>
    -- the handle stands behind all that was written, so nothing is overwritten
    have appended : (c.modify file fun old => splice old (written i events).length data) =
        c.modify file fun _ => written i events ++ data := by
      refine modify_congr ?_
      rw [content]
      simp [splice]
    refine ⟨file, found, ?_⟩
    simp [Document.perform, Document.write, ne, appended]

theorem perform_write_of_not (h' : ¬ForWriting i events) (ne : data ≠ []) :
    d.perform c (.write data) = ⟨.failed d.refusal, some d, c⟩ := by
  obtain ⟨name, handle⟩ := d
  obtain ⟨-, file, found, content, held⟩ := h
  cases held with
  | writing asCreated _ => exact absurd asCreated h'
  | closed _ | unread _ _ | read _ _ _ =>
    simp [Document.perform, Document.write, ne, Document.refusal, Document.isOpen]

/-- The first time everything is read, and nothing after that. -/
theorem perform_read (reopened : ForReading i events) :
    ∃ file rest, c.directory.find? d.name = some (.file file) ∧
      (Unread i events → rest = written i events) ∧ (¬Unread i events → rest = []) ∧
      d.perform c .read = ⟨.content rest,
        some ⟨d.name, some ⟨.file file, .reading, (written i events).length⟩⟩, c⟩ := by
  obtain ⟨name, handle⟩ := d
  obtain ⟨-, file, found, content, held⟩ := h
  cases held with
  | closed shut => exact absurd reopened.opened shut
  | writing _ notReopened => exact absurd reopened notReopened
  | unread fresh _ =>
    refine ⟨file, written i events, found, fun _ => rfl, fun stale => absurd fresh stale, ?_⟩
    simp [Document.perform, Document.read, content]
  | read _ stale _ =>
    refine ⟨file, [], found, fun fresh => absurd fresh stale, fun _ => rfl, ?_⟩
    simp [Document.perform, Document.read, content]

theorem perform_read_of_not (h' : ¬ForReading i events) :
    d.perform c .read = ⟨.failed d.refusal, some d, c⟩ := by
  obtain ⟨name, handle⟩ := d
  obtain ⟨-, file, found, content, held⟩ := h
  cases held with
  | unread fresh _ => exact absurd fresh.forReading h'
  | read reopened _ _ => exact absurd reopened h'
  | closed _ | writing _ _ =>
    simp [Document.perform, Document.read, Document.refusal, Document.isOpen]

theorem perform_reopen : ∃ file, c.directory.find? d.name = some (.file file) ∧
    d.perform c .reopen = ⟨.done, some ⟨d.name, some ⟨.file file, .reading, 0⟩⟩, c⟩ := by
  obtain ⟨file, found, -, -⟩ := h.held
  exact ⟨file, found, by simp [Document.perform, Document.reopen, found]⟩

theorem perform_end (ends : act = .drop ∨ act = .closeAndRemove) :
    ∃ c', c.delete d.name = .ok c' ∧ d.perform c act = ⟨.done, none, c'⟩ := by
  obtain ⟨file, found, -, -⟩ := h.held
  obtain ⟨c', deleted⟩ := exists_delete found
  refine ⟨c', deleted, ?_⟩
  rcases ends with rfl | rfl
  · simp [Document.perform, discard, deleted]
  · simp [Document.perform, deleted]

end Tracked

/-- One step of a document: nothing else changes, and the document goes on with its history or ends
with its file. -/
structure Follows (events : List Event) (i : Nat) (d : Document) (c : Cache) (act : Act)
    (o : Outcome) : Prop where
  notCreated : ∀ j, o.reply ≠ .created j
  beside : Beside d.name c o.cache
  tracked : ∀ d', o.document = some d' →
    d'.name = d.name ∧ Tracked (events ++ [(.use i act, o.reply)]) i d' o.cache
  ended : o.document = none → o.cache.find? d.name = none ∧ Ends i (.use i act, o.reply)

namespace Tracked

variable (h : Tracked events i d c)
include h

/-- A document that stays as it was. -/
theorem follows_quiet {reply : Reply} (notCreated : ∀ j, reply ≠ .created j)
    (quiet : Quiet i (.use i act, reply)) : Follows events i d c act ⟨reply, some d, c⟩ where
  notCreated := notCreated
  beside := .refl _ _
  tracked := by
    rintro _ ⟨⟩
    exact ⟨rfl, h.concat_quiet quiet⟩
  ended := by rintro ⟨⟩

theorem follows_failed (flaw : Failure) : Follows events i d c act ⟨.failed flaw, some d, c⟩ :=
  h.follows_quiet (by simp) (.of_not_isOk rfl)

/-- A document whose file stays as it was. -/
theorem follows_held {reply : Reply} (notCreated : ∀ j, reply ≠ .created j)
    (found : c.directory.find? d.name = some (.file file))
    (nothing : writtenIn i (.use i act, reply) = [])
    (held : Held (events ++ [(.use i act, reply)]) i file handle) :
    Follows events i d c act ⟨reply, some ⟨d.name, handle⟩, c⟩ where
  notCreated := notCreated
  beside := .refl _ _
  tracked := by
    rintro _ ⟨⟩
    refine ⟨rfl, List.mem_append_left _ h.created, file, found, ?_, held⟩
    rw [written_concat, nothing, List.append_nil, h.contentOf found]
  ended := by rintro ⟨⟩

theorem follows_write : Follows events i d c (.write data) (d.perform c (.write data)) := by
  by_cases nothing : data = []
  · subst nothing
    exact h.follows_quiet (by simp) .write_nil
  by_cases asCreated : ForWriting i events
  · obtain ⟨file, found, performed⟩ := h.perform_write asCreated nothing
    have steady := Steady.write (i := i) data
    rw [performed, ← written_write]
    refine ⟨by simp, beside_modify found _, ?_, by rintro ⟨⟩⟩
    rintro _ ⟨⟩
    refine ⟨rfl, List.mem_append_left _ h.created, file, found, ?_, ?_⟩
    · rw [contentOf_modify (c.numbers.lt found), if_pos rfl]
    · exact .writing (steady.forWriting_concat.2 asCreated)
        (steady.forReading_concat.not.2 (h.not_both asCreated))
  · rw [h.perform_write_of_not asCreated nothing]
    exact h.follows_failed _

theorem follows_flush : Follows events i d c .flush (d.perform c .flush) := by
  by_cases opened : d.isOpen
  · have performed : d.perform c .flush = ⟨.done, some d, c⟩ := by
      simp [Document.perform, Document.flush, opened]
    rw [performed]
    exact h.follows_quiet (by simp) .flush
  · have performed : d.perform c .flush = ⟨.failed (.io .closed), some d, c⟩ := by
      simp [Document.perform, Document.flush, opened]
    rw [performed]
    exact h.follows_failed _

theorem follows_close : Follows events i d c .close (d.perform c .close) := by
  obtain ⟨file, found, -, -⟩ := h.held
  exact h.follows_held (by simp) found rfl (.closed not_opened_close)

theorem follows_reopen : Follows events i d c .reopen (d.perform c .reopen) := by
  obtain ⟨file, found, performed⟩ := h.perform_reopen
  rw [performed]
  exact h.follows_held (by simp) found rfl (.unread unread_reopen not_forWriting_reopen)

theorem follows_read : Follows events i d c .read (d.perform c .read) := by
  by_cases reopened : ForReading i events
  · obtain ⟨file, rest, found, -, -, performed⟩ := h.perform_read reopened
    have steady := Steady.read (i := i) rest
    have same : written i (events ++ [(.use i .read, .content rest)]) = written i events := by
      rw [written_concat]
      exact List.append_nil _
    rw [performed, ← same]
    refine h.follows_held (by simp) found rfl (.read (steady.forReading_concat.2 reopened)
      not_unread_read (steady.forWriting_concat.not.2 fun asCreated => ?_))
    exact h.not_both asCreated reopened
  · rw [h.perform_read_of_not reopened]
    exact h.follows_failed _

theorem follows_end (ends : act = .drop ∨ act = .closeAndRemove) :
    Follows events i d c act (d.perform c act) := by
  obtain ⟨c', deleted, performed⟩ := h.perform_end ends
  rw [performed]
  refine ⟨by simp, beside_delete deleted, by rintro _ ⟨⟩, fun _ => ⟨?_, ?_⟩⟩
  · rw [find?_delete deleted, if_pos rfl]
  · exact ends.imp (fun same => ⟨by rw [same], rfl⟩) fun same => ⟨by rw [same], rfl⟩

/-- **A step of a document leaves the others alone, and its history tells what becomes of it.** -/
theorem follows (act : Act) : Follows events i d c act (d.perform c act) := by
  cases act with
  | write data => exact h.follows_write
  | flush => exact h.follows_flush
  | close => exact h.follows_close
  | reopen => exact h.follows_reopen
  | read => exact h.follows_read
  | drop => exact h.follows_end (.inl rfl)
  | closeAndRemove => exact h.follows_end (.inr rfl)

end Tracked

/-- A new document is as its history says. -/
theorem tracked_create (new : ∀ e ∈ events, Quiet i e) (made : c.create name = .ok (d, c')) :
    Tracked (events ++ [(.create name, .created i)]) i d c' := by
  obtain ⟨rfl, ⟨file, handle, found, empty⟩, -⟩ := find?_create made
  have nothing : written i (events ++ [(.create d.name, .created i)]) = [] := by
    rw [written_concat, written_eq_nil new]
    rfl
  have notReopened : ¬ForReading i (events ++ [(.create d.name, .created i)]) := by
    refine not_since_of_forall (List.forall_mem_append.2 ⟨fun e he => (new e he).reopens, ?_⟩)
    exact List.forall_mem_singleton.2 (by simp [Did])
  have held := @Held.writing _ i file (forWriting_create d.name) notReopened
  rw [nothing, List.length_nil, ← handle] at held
  exact ⟨by simp, file, found, by rw [empty, nothing], held⟩

end NoteDesk.Cache
