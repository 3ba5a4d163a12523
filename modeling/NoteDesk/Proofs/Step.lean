import NoteDesk.Proofs.Run
import NoteDesk.Proofs.Service

/-!
# Steps of the service

Whatever is done with the service, of its records either all stay, or one is added, or one is
updated, or one is marked as deleted.

* `Service.Fate` tells the four apart, and `Service.Step.fate` finds which one a step comes to.
* `Service.Step.le_clock`, `Service.Step.notebooks_prefix` and `Service.Step.guids_prefix` are what
  no step takes back.
* `Service.Step.origin`: where a record comes from that the service has after a step.
* `Service.Step.times_apart`: times that are all different stay so.
-/

namespace NoteDesk.Service

variable {s s' : Service}

/-- What became of the records, the notebooks and the clock. -/
inductive Fate (s s' : Service) : Prop where
  | stays (records : s'.records = s.records) (notebooks : s.notebooks <+: s'.notebooks)
      (later : s.clock ≤ s'.clock)
  | adds {title : String} {notebook : Option NotebookRef} {deleted : Bool} {content : String}
      (settled : s.resolve notebook = notebook)
      (records : s'.records = (s.addRecord title notebook deleted content).2.records)
      (notebooks : s'.notebooks = s.notebooks) (clock : s'.clock = s.nextTime)
  | updates {n : Note}
      (records : s'.records =
        (s.change n.guid (Record.updated · n (s.resolve n.notebook) s.nextTime)).records)
      (notebooks : s'.notebooks = s.notebooks) (clock : s'.clock = s.nextTime)
  | deletes {guid : Guid}
      (records : s'.records =
        (s.change guid fun r => { r with note := { r.note with deleted := true } }).records)
      (notebooks : s'.notebooks = s.notebooks) (clock : s'.clock = s.clock)

theorem Fate.rfl : s.Fate s :=
  .stays (Eq.refl _) List.prefix_rfl (Int.le_refl _)

theorem Step.fate (step : s.Step s') : s.Fate s' := by
  cases step with
  | addNotebook nb => exact .stays rfl (List.prefix_append _ _) (Int.le_refl _)
  | add title notebook content => exact .adds (resolve_notebook? s notebook) rfl rfl rfl
  | create n =>
    rcases hcreate : s.create n with ⟨result, s'⟩
    cases result with
    | error cause => exact create_error hcreate ▸ .rfl
    | ok created =>
      obtain ⟨rfl, rfl⟩ := create_ok hcreate
      exact .adds (resolve_resolve s n.notebook) rfl rfl rfl
  | update n =>
    have notebooks := notebooks_update s n
    have later := le_clock_update s n
    rcases hupdate : s.update n with ⟨result, s'⟩
    rw [hupdate] at notebooks later
    cases result with
    | error cause => exact .stays (update_error hupdate) (notebooks ▸ List.prefix_rfl) later
    | ok _ =>
      obtain ⟨-, rfl⟩ := update_ok hupdate
      exact .updates rfl rfl rfl
  | delete guid =>
    rcases hdelete : s.delete guid with ⟨result, s'⟩
    cases result with
    | error cause => exact delete_error hdelete ▸ .rfl
    | ok _ =>
      obtain ⟨-, rfl⟩ := delete_ok hdelete
      exact .deletes rfl rfl rfl
  | find q offset count => exact .stays rfl List.prefix_rfl (Int.le_refl _)
  | refuse createRefusal updateRefusal => exact .stays rfl List.prefix_rfl (Int.le_refl _)

/-! ## What no step takes back -/

/-- The clock is never put back. -/
theorem Step.le_clock (step : s.Step s') : s.clock ≤ s'.clock := by
  have next := s.lt_nextTime
  cases step.fate with
  | stays records notebooks later => exact later
  | adds settled records notebooks clock => omega
  | updates records notebooks clock => omega
  | deletes records notebooks clock => omega

theorem Step.notebooks_prefix (step : s.Step s') : s.notebooks <+: s'.notebooks := by
  cases step.fate with
  | stays records notebooks later => exact notebooks
  | adds settled records notebooks clock => exact notebooks ▸ List.prefix_rfl
  | updates records notebooks clock => exact notebooks ▸ List.prefix_rfl
  | deletes records notebooks clock => exact notebooks ▸ List.prefix_rfl

/-- No record is ever removed. -/
theorem Step.guids_prefix (step : s.Step s') :
    s.records.map (·.note.guid) <+: s'.records.map (·.note.guid) := by
  have changed {guid : Guid} {f : Record → Record} (keeps : ∀ r, (f r).note.guid = r.note.guid) :
      s.records.map (·.note.guid) <+: (s.change guid f).records.map (·.note.guid) :=
    (guids_change keeps s).symm ▸ List.prefix_rfl
  cases step.fate with
  | stays records notebooks later => exact records ▸ List.prefix_rfl
  | adds settled records notebooks clock =>
    rw [records]
    exact (List.prefix_append _ _).map _
  | updates records notebooks clock =>
    rw [records]
    exact changed fun _ => rfl
  | deletes records notebooks clock =>
    rw [records]
    exact changed fun _ => rfl

/-! ## The records after a step -/

/-- Where a record comes from that the service has after a step. -/
inductive Origin (s s' : Service) : Record → Prop where
  | stays {r : Record} (was : r ∈ s.records) : Origin s s' r
  | adds {title : String} {notebook : Option NotebookRef} {deleted : Bool} {content : String}
      (settled : s.resolve notebook = notebook) (clock : s'.clock = s.nextTime) :
      Origin s s' ⟨(s.addRecord title notebook deleted content).1, content⟩
  | updates (old : Record) (n : Note) (was : old ∈ s.records) (clock : s'.clock = s.nextTime) :
      Origin s s' (Record.updated old n (s.resolve n.notebook) s.nextTime)
  | deletes (old : Record) (was : old ∈ s.records) :
      Origin s s' { old with note := { old.note with deleted := true } }

theorem Step.origin (step : s.Step s') {r : Record} (h : r ∈ s'.records) : s.Origin s' r := by
  cases step.fate with
  | stays records notebooks later => exact .stays (records ▸ h)
  | adds settled records notebooks clock =>
    rw [records] at h
    rcases List.mem_append.1 h with was | new
    · exact .stays was
    · rw [List.mem_singleton.1 new]
      exact .adds settled clock
  | updates records notebooks clock =>
    rw [records] at h
    obtain ⟨old, was, rfl⟩ := List.mem_map.1 h
    split_ifs
    · exact .updates old _ was clock
    · exact .stays was
  | deletes records notebooks clock =>
    rw [records] at h
    obtain ⟨old, was, rfl⟩ := List.mem_map.1 h
    split_ifs
    · exact .deletes old was
    · exact .stays was

/-- Times of records that are all different stay so, if a change keeps the time of a record or puts
the next one in its place. -/
theorem Step.times_apart (step : s.Step s') {time : Note → Int}
    (guids : s.records.Pairwise fun a b => a.note.guid ≠ b.note.guid)
    (before : ∀ r ∈ s.records, time r.note < s.nextTime)
    (added : ∀ title notebook deleted content,
      time (s.addRecord title notebook deleted content).1 = s.nextTime)
    (updated : ∀ (r : Record) (n : Note) (notebook : Option NotebookRef),
      time (Record.updated r n notebook s.nextTime).note = time r.note ∨
        time (Record.updated r n notebook s.nextTime).note = s.nextTime)
    (deleted : ∀ n : Note, time { n with deleted := true } = time n)
    (apart : s.records.Pairwise fun a b => time a.note ≠ time b.note) :
    s'.records.Pairwise fun a b => time a.note ≠ time b.note := by
  have changed {guid : Guid} {f : Record → Record}
      (hf : ∀ r, time (f r).note = time r.note ∨ time (f r).note = s.nextTime) :
      (s.change guid f).records.Pairwise fun a b => time a.note ≠ time b.note := by
    rw [change, List.pairwise_map]
    refine (guids.and apart).imp_of_mem ?_
    rintro a b ha hb ⟨other, differ⟩
    have hfa := hf a
    have hfb := hf b
    have beforeA := before a ha
    have beforeB := before b hb
    -- No two records are of one note, so only one of the two can have changed.
    split_ifs with hga hgb
    · exact absurd (hga.trans hgb.symm) other
    · omega
    · omega
    · exact differ
  cases step.fate with
  | stays records notebooks later => exact records ▸ apart
  | @adds title notebook deleted content settled records notebooks clock =>
    rw [records]
    refine List.pairwise_append.2 ⟨apart, List.pairwise_singleton _ _, fun a ha b hb => ?_⟩
    rw [List.mem_singleton.1 hb]
    exact (Int.ne_of_lt (before a ha)).trans_eq (added title notebook deleted content).symm
  | updates records notebooks clock => exact records ▸ changed fun r => updated r _ _
  | deletes records notebooks clock => exact records ▸ changed fun r => .inl (deleted r.note)

end NoteDesk.Service
