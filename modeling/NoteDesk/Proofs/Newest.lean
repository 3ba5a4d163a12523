import NoteDesk.Proofs.Calls
import NoteDesk.Proofs.Numbers
import NoteDesk.Proofs.Pages

/-!
# Notes that were just written

A note that was just written is found by its title, however many other notes have the title or
mention it, as it is the newest of all.

* `Service.Newest` is a record that was changed after all others. `Service.Call.newest`: the note of
  a call that the service takes has such a record, unless it is deleted.
* `Service.Newest.matching`: a search that finds it at all finds it first.
* `Desk.Reachable.written_found` is the main result.
-/

namespace NoteDesk

namespace Service

variable {s s' : Service} {r : Record}

/-- The record was changed after all those of other notes. -/
structure Newest (s : Service) (r : Record) : Prop where
  held : r ∈ s.records
  last : ∀ other ∈ s.records, other.note.guid ≠ r.note.guid → other.note.updated < r.note.updated

/-! ## Searching -/

/-- A search that finds the newest note finds it first. -/
theorem Newest.matching (h : s.Newest r) (numbered : Numbered s.records) {q : Query}
    (order : q.order = .updated) (wanted : q.Wants r) :
    ∃ rest, s.matching q = r.note :: rest := by
  have sorted := matching_sorted (s := s) (q := q) (by rw [order]; decide)
  have mem : r.note ∈ s.matching q := mem_matching.2 ⟨r, h.held, wanted, rfl⟩
  cases first : s.matching q with
  | nil =>
    rw [first] at mem
    cases mem
  | cons n rest =>
    refine ⟨rest, ?_⟩
    obtain ⟨other, held, -, rfl⟩ := mem_matching.1 (first ▸ List.mem_cons_self)
    by_cases same : other.note.guid = r.note.guid
    · have one := numbered.record? held
      rw [same, numbered.record? h.held] at one
      rw [Option.some.inj one]
    -- A note before the newest one would have to be as new.
    · rw [first] at mem sorted
      have before := h.last other held same
      rcases List.mem_cons.1 mem with same' | later
      · exact absurd (congrArg Note.guid same'.symm) same
      · have after := (List.pairwise_cons.1 sorted).1 r.note later
        simp only [order, Order.time] at after
        omega

theorem Newest.titled (h : s.Newest r) (numbered : Numbered s.records)
    (live : r.note.deleted = false) {count : Nat} (some' : count ≠ 0) :
    s.titled none r.note.title count = .ok r.note := by
  have wanted : ({ words := some r.note.title } : Query).Wants r := by
    refine ⟨live, nofun, ?_⟩
    rintro _ ⟨⟩
    exact .inl List.infix_rfl
  obtain ⟨rest, matching⟩ := h.matching numbered (q := { words := some r.note.title }) rfl wanted
  obtain ⟨k, rfl⟩ := Nat.exists_eq_succ_of_ne_zero some'
  have first : ((s.find { words := some r.note.title } 0 (k + 1)).1.find?
      (·.title == r.note.title)) = some r.note := by
    simp [find, matching]
  rw [Service.titled, first]

/-! ## Writing -/

/-- **The note of a call that the service takes is the newest**, unless the call deletes it. -/
theorem Call.newest (timely : s.Timely) {c : Call} {guid : Guid}
    (taken : c.make s = (.ok guid, s')) :
    (∃ r, s'.Newest r ∧ r.note.guid = guid ∧ r.note.title ∈ c.title?) ∨
      ∃ r ∈ s'.records, r.note.guid = guid ∧ r.note.deleted := by
  cases c with
  | create n =>
    obtain ⟨created, hcreate, rfl⟩ := of_map_ok taken
    obtain ⟨rfl, rfl⟩ := create_ok hcreate
    refine .inl ⟨⟨_, n.body⟩, ⟨List.mem_append_right _ List.mem_cons_self, ?_⟩, rfl, rfl⟩
    intro other mem apart
    rcases List.mem_append.1 mem with old | new
    · exact Int.lt_of_le_of_lt (timely other old) s.lt_nextTime
    · exact absurd (by rw [List.mem_singleton.1 new]) apart
  | update n =>
    obtain ⟨_, hupdate, rfl⟩ := of_map_ok taken
    obtain ⟨old, replaced⟩ := update_replaced hupdate
    obtain ⟨-, rfl⟩ := update_ok hupdate
    refine .inl ⟨_, ⟨List.mem_of_find?_eq_some replaced.now, ?_⟩,
      guid_of_record? replaced.now, rfl⟩
    intro other mem apart
    obtain ⟨old', held, rfl⟩ := List.mem_map.1 mem
    split_ifs at apart ⊢ with same
    · exact absurd (same.trans (guid_of_record? replaced.was).symm) apart
    · exact Int.lt_of_le_of_lt (timely old' held) s.lt_nextTime
  | delete guid =>
    obtain ⟨_, hdelete, rfl⟩ := of_map_ok taken
    obtain ⟨old, replaced⟩ := delete_replaced hdelete
    exact .inr ⟨_, List.mem_of_find?_eq_some replaced.now, guid_of_record? replaced.now, rfl⟩

end Service

open Work Service

namespace Desk

variable {d d' : Desk}

theorem Reachable.request (h : d.Reachable) (r : Request) : (r.work.perform d).2.Reachable := by
  obtain ⟨d₀, empty, run⟩ := h
  exact ⟨d₀, empty, run.tail (.request r trivial)⟩

/-- **A note that was just written is found by its title**, at every desk that a run leads to: where
a request is done that wrote a note to the service and did not delete it, and the title is no
number in the last listing, looking up the title gives the note as its record has it, whatever other
notes there are. -/
theorem Reachable.written_found (h : d.Reachable) {r : Request} {a : Answer}
    (done : r.work.perform d = (.ok a, d')) {n : Note} (written : n ∈ a.affected) {record : Record}
    (held : d'.service.record? n.guid = some record) (live : record.note.deleted = false)
    (searches : d'.config.searchCount ≠ 0)
    (unnumbered : ∀ i, Listing.Denotes n.title (i + 1) →
      ∃ notes, d'.store.search = .ok notes ∧ notes.length ≤ i) :
    ((findNote n.title none).perform d').1 = .ok record.note ∧ record.note.guid = n.guid := by
  have numbered : Numbered d'.service.records := by
    have reachable := h.request r
    rw [done] at reachable
    exact reachable.numbered
  have asked := r.work_asks d
  rcases asked with ⟨finds, service, told⟩ | ⟨c, -, finds, service, told⟩
  · rw [told a (by rw [done])] at written
    cases written
  · obtain ⟨n', only, taken, titled⟩ := told a (by rw [done])
    rw [only] at written
    obtain rfl := List.mem_singleton.1 written
    rw [done] at service
    dsimp only at service
    have timely : ({ d.service with finds } : Service).Timely := h.timely
    have whole : c.make { d.service with finds } = (.ok n.guid, d'.service) :=
      Prod.ext taken service.symm
    rcases Call.newest timely whole with ⟨record', newest, guid, title⟩ | ⟨record', mem, guid, gone⟩
    · have same := numbered.record? newest.held
      rw [guid, held] at same
      obtain rfl := Option.some.inj same
      rw [perform_findNote_unnumbered unnumbered, perform_titledNote, titled _ title]
      exact ⟨newest.titled numbered live fun none => searches (UInt64.toNat_inj.1 none), guid⟩
    · have same := numbered.record? mem
      rw [guid, held] at same
      obtain rfl := Option.some.inj same
      rw [live] at gone
      cases gone

/-- A desk with three notes, of which two mention milk, that searches for one note at a time. -/
def milkyDesk : Desk where
  service :=
    (((({} : Service).add "Eggs" none "").2.add "Milk" none "").2.add "Porridge" none "milk").2
  config := { searchCount := 1 }

theorem reachable_milkyDesk : milkyDesk.Reachable := by
  have one : Run (fun _ _ => True) {} { service := (({} : Service).add "Eggs" none "").2 } :=
    .single (.service (.add "Eggs" none ""))
  have two := one.tail (.service (.add "Milk" none ""))
  have three := two.tail (.service (.add "Porridge" none "milk"))
  exact ⟨{}, rfl, three.tail (.surroundings rfl rfl)⟩

theorem Reachable.written_found_milkyDesk :
    milkyDesk.Reachable ∧
      ((findNote "Milk" none).perform
        ((Request.rename "Eggs" "Milk").work.perform milkyDesk).2).1 =
          .ok { guid := Guid.ofNumber 1, title := "Milk", created := 1000, updated := 4000 } := by
  let renamed : Note :=
    { guid := Guid.ofNumber 1, title := "Milk", created := 1000, updated := 1000 }
  have result : ((Request.rename "Eggs" "Milk").work.perform milkyDesk).1 =
      .ok (.report { messages := [.renamed "Eggs" "Milk"], affected := [renamed] }) := by
    decide +kernel
  have held : ((Request.rename "Eggs" "Milk").work.perform milkyDesk).2.service.record?
      renamed.guid = some ⟨{ renamed with updated := 4000 }, ""⟩ := by
    decide +kernel
  have unnumbered (i : Nat) : ¬Listing.Denotes renamed.title (i + 1) := by
    have none : Listing.number? renamed.title.toList = none := by decide
    rw [← Listing.number?_eq_some_iff, none]
    exact nofun
  have found := reachable_milkyDesk.written_found (perform_of_result result) List.mem_cons_self
    held rfl (by decide +kernel) fun i number => absurd number (unnumbered i)
  exact ⟨reachable_milkyDesk, found.1⟩

end Desk
end NoteDesk
