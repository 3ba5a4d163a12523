import Mathlib.Data.List.Basic
import NoteDesk.Service.Search

/-!
# What the service does

What the service finds for the notebook of a note, it finds again. Every change of the service is
told by its outcome: what it refused leaves the records as they were, and what it did is told
exactly. `Service.Replaced` is what became of the records when one of them was changed.
-/

namespace NoteDesk.Service

variable {s s' : Service} {n : Note}

/-! ## Notebooks -/

theorem guid_of_notebook? {guid : Guid} {nb : Notebook} (h : s.notebook? guid = some nb) :
    nb.guid = guid := by
  simpa using List.find?_some h

/-- A notebook that was found by its identifier means itself. -/
theorem resolve_found {guid : Guid} {nb : Notebook} (h : s.notebook? guid = some nb) :
    s.resolve (some (.resolved nb)) = some (.resolved nb) := by
  have same := guid_of_notebook? h
  simp only [resolve, NotebookRef.guid?]
  split_ifs
  · rfl
  · dsimp only
    rw [same, h]
    rfl

theorem resolve_resolve (s : Service) (r : Option NotebookRef) :
    s.resolve (s.resolve r) = s.resolve r := by
  cases r with
  | none => rfl
  | some r =>
    cases hguid : r.guid? with
    | none =>
      have kept : s.resolve (some r) = some r := by simp only [resolve, hguid]
      rw [kept, kept]
    | some guid =>
      have looked : s.resolve (some r) = (s.notebook? guid).map .resolved := by
        simp only [resolve, hguid]
      rw [looked]
      cases found : s.notebook? guid with
      | none => rfl
      | some nb => exact resolve_found found

/-- What the notebook is by its identifier, if it has one, means itself. -/
theorem resolve_notebook? (s : Service) (guid : Option Guid) :
    s.resolve ((guid.bind s.notebook?).map .resolved) = (guid.bind s.notebook?).map .resolved := by
  cases hfound : guid.bind s.notebook? with
  | none => rfl
  | some nb =>
    obtain ⟨guid, -, found⟩ := Option.bind_eq_some_iff.1 hfound
    exact resolve_found found

/-- Notebooks that come after the others do not take the place of any. -/
theorem resolve_of_prefix {r : Option NotebookRef} (before : s.notebooks <+: s'.notebooks)
    (h : s.resolve r = r) : s'.resolve r = r := by
  cases r with
  | none => rfl
  | some r =>
    cases hguid : r.guid? with
    | none => simp only [resolve, hguid]
    | some guid =>
      simp only [resolve, hguid] at h ⊢
      obtain ⟨found, hfound, rfl⟩ := Option.map_eq_some_iff.1 h
      have still : s'.notebook? guid = some found := by
        obtain ⟨more, whole⟩ := before
        rw [notebook?] at hfound
        rw [notebook?, ← whole, List.find?_append, hfound]
        rfl
      rw [still]
      rfl

/-! ## Times -/

theorem lt_nextTime (s : Service) : s.clock < s.nextTime := by
  rw [nextTime]
  omega

/-! ## Changes of one record -/

/-- The record of a note became another one, in its place, and all others are as they were. -/
structure Replaced (s s' : Service) (guid : Guid) (old new : Record) : Prop where
  was : s.record? guid = some old
  now : s'.record? guid = some new
  others : ∀ other, other ≠ guid → s'.record? other = s.record? other
  notes : s'.records.map (·.note.guid) = s.records.map (·.note.guid)

/-- Searches that were made before do not matter. -/
theorem Replaced.of_finds {finds : Nat} {guid : Guid} {old new : Record}
    (h : ({ s with finds } : Service).Replaced s' guid old new) : s.Replaced s' guid old new :=
  ⟨h.was, h.now, h.others, h.notes⟩

theorem guid_of_record? {guid : Guid} {r : Record} (h : s.record? guid = some r) :
    r.note.guid = guid := by
  simpa using List.find?_some h

theorem record?_congr (same : s'.records = s.records) (guid : Guid) :
    s'.record? guid = s.record? guid := by
  rw [record?, record?, same]

section

variable {guid : Guid} {f : Record → Record} (keeps : ∀ r, (f r).note.guid = r.note.guid)
include keeps

theorem record?_change (s : Service) (other : Guid) :
    (s.change guid f).record? other =
      if other = guid then (s.record? guid).map f else s.record? other := by
  have note (r : Record) : (if r.note.guid = guid then f r else r).note.guid = r.note.guid := by
    split_ifs
    · exact keeps r
    · rfl
  have found : (s.change guid f).record? other =
      (s.record? other).map fun r => if r.note.guid = guid then f r else r := by
    rw [record?, change, List.find?_map, record?]
    simp only [Function.comp_def, note]
  rw [found]
  split_ifs with h
  · subst h
    refine Option.map_congr fun r hr => ?_
    rw [if_pos (guid_of_record? hr)]
  · refine (Option.map_congr fun r hr => ?_).trans Option.map_id'
    rw [if_neg fun same => h ((guid_of_record? hr).symm.trans same)]

theorem guids_change (s : Service) :
    (s.change guid f).records.map (·.note.guid) = s.records.map (·.note.guid) := by
  rw [change, List.map_map]
  refine List.map_congr_left fun r _ => ?_
  rw [Function.comp_apply]
  split_ifs
  · exact keeps r
  · rfl

/-- Changing a record replaces it. -/
theorem Replaced.change {old : Record} (found : s.record? guid = some old)
    (records : s'.records = (s.change guid f).records) : Replaced s s' guid old (f old) where
  was := found
  now := by
    rw [record?_congr records, record?_change keeps, if_pos rfl, found]
    rfl
  others other apart := by
    rw [record?_congr records, record?_change keeps, if_neg apart]
  notes := by rw [records, guids_change keeps]

end

/-! ## Updates -/

theorem update_ok {x : Unit} (h : s.update n = (.ok x, s')) :
    (s.record? n.guid).isSome ∧
      s' = ({ s with updated := s.updated ++ [n], clock := s.nextTime } : Service).change n.guid
        (Record.updated · n (s.resolve n.notebook) s.nextTime) := by
  rw [update] at h
  split at h
  · cases h
  · dsimp only at h
    split at h
    · cases h
    next found =>
      obtain ⟨-, rfl⟩ := Prod.mk.inj h
      exact ⟨by rw [found]; rfl, rfl⟩

/-- An update that the service takes replaces the record of its note. -/
theorem update_replaced {x : Unit} (h : s.update n = (.ok x, s')) :
    ∃ old, Replaced s s' n.guid old (Record.updated old n (s.resolve n.notebook) s.nextTime) := by
  obtain ⟨found, rfl⟩ := update_ok h
  obtain ⟨old, hold⟩ := Option.isSome_iff_exists.1 found
  exact ⟨old, .change (f := (Record.updated · n (s.resolve n.notebook) s.nextTime))
    (fun _ => rfl) hold rfl⟩

/-- What was written is the content then. -/
theorem content_update {x : Unit} (h : s.update n = (.ok x, s')) (written : n.body ≠ "") :
    s'.content n.guid = .ok n.body := by
  obtain ⟨old, replaced⟩ := update_replaced h
  rw [content, replaced.now]
  dsimp only
  rw [Record.updated, if_neg written]

theorem update_error {cause : RemoteError} (h : s.update n = (.error cause, s')) :
    s'.records = s.records := by
  rw [update] at h
  split at h
  · rw [(Prod.mk.inj h).2]
  · dsimp only at h
    split at h
    · rw [← (Prod.mk.inj h).2]
    · cases h

theorem notebooks_update (s : Service) (n : Note) : (s.update n).2.notebooks = s.notebooks := by
  rw [update]
  split
  · rfl
  · dsimp only
    split <;> rfl

theorem le_clock_update (s : Service) (n : Note) : s.clock ≤ (s.update n).2.clock := by
  have later : s.clock ≤ s.nextTime := Int.le_of_lt s.lt_nextTime
  rw [update]
  split
  · exact Int.le_refl _
  · dsimp only
    split
    · exact later
    · exact later

/-! ## Creations -/

theorem create_ok {created : Note} (h : s.create n = (.ok created, s')) :
    created =
        { guid := s.nextGuid, title := n.title, notebook := s.resolve n.notebook,
          deleted := n.deleted, created := s.nextTime, updated := s.nextTime } ∧
      s' = { s with
        records := s.records ++ [⟨created, n.body⟩]
        clock := s.nextTime
        created := s.created ++ [n] } := by
  rw [create] at h
  split at h
  · cases h
  · obtain ⟨hnote, rfl⟩ := Prod.mk.inj h
    rw [← Except.ok.inj hnote]
    exact ⟨rfl, rfl⟩

theorem create_error {cause : RemoteError} (h : s.create n = (.error cause, s')) : s' = s := by
  rw [create] at h
  split at h
  · exact (Prod.mk.inj h).2.symm
  · cases h

/-! ## Deletions -/

theorem delete_ok {guid : Guid} {x : Unit} (h : s.delete guid = (.ok x, s')) :
    (s.record? guid).isSome ∧
      s' = { s.change guid fun r => { r with note := { r.note with deleted := true } } with
        deleted := s.deleted ++ [guid] } := by
  rw [delete] at h
  split at h
  · cases h
  next found =>
    obtain ⟨-, rfl⟩ := Prod.mk.inj h
    exact ⟨by rw [found]; rfl, rfl⟩

/-- A deletion that the service takes replaces the record of its note. -/
theorem delete_replaced {guid : Guid} {x : Unit} (h : s.delete guid = (.ok x, s')) :
    ∃ old, Replaced s s' guid old { old with note := { old.note with deleted := true } } := by
  obtain ⟨found, rfl⟩ := delete_ok h
  obtain ⟨old, hold⟩ := Option.isSome_iff_exists.1 found
  exact ⟨old, .change (f := fun r => { r with note := { r.note with deleted := true } })
    (fun _ => rfl) hold rfl⟩

theorem delete_error {guid : Guid} {cause : RemoteError} (h : s.delete guid = (.error cause, s')) :
    s' = s := by
  rw [delete] at h
  split at h
  · exact (Prod.mk.inj h).2.symm
  · cases h

/-! ## Searches -/

theorem mem_matching_of_mem_find {q : Query} {offset count : Nat} {n : Note}
    (h : n ∈ (s.find q offset count).1) : n ∈ s.matching q :=
  List.mem_of_mem_drop (List.mem_of_mem_take h)

/-- What a search finds are notes of records. -/
theorem mem_find {q : Query} {offset count : Nat} {n : Note} (h : n ∈ (s.find q offset count).1) :
    ∃ r ∈ s.records, r.note = n := by
  have matching := mem_matching_of_mem_find h
  rw [Service.matching, List.mem_mergeSort, List.mem_map] at matching
  obtain ⟨r, hr, same⟩ := matching
  exact ⟨r, List.mem_of_mem_filter hr, same⟩

end NoteDesk.Service
