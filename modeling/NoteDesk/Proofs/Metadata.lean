import Mathlib.Data.List.Nodup
import NoteDesk.Proofs.Pages

/-!
# Renaming and moving

A note is renamed or moved by an update of title and notebook at once, both as they were when the
note was looked up. A note that is looked up by its number is as it was listed, so what it was
given since is taken back.

* `Work.perform_saveMetadata_ok`: what an update without content does to a record.
* `Work.perform_findNote_title`: a note found by its title is as its record has it.
* `Desk.Reachable.renameNote_effect` and `Desk.ReachableAfresh.moveNote_effect` are the main
  results. `Desk.stale_rename` and `Desk.stale_move` are a rename that moves a note back and a move
  that leaves a note where it is.
-/

namespace NoteDesk

/-! ## Records -/

namespace Service

variable {s s' : Service} {guid : Guid} {old new r : Record} {nb : Notebook}

/-- Title and time of a note are others now, and everything else is as it was. -/
def TitleBecomes (s s' : Service) (guid : Guid) (title : String) : Prop :=
  ∃ old time, s.Replaced s' guid old { old with note := { old.note with title, updated := time } }

/-- Notebook and time of a note are others now, and everything else is as it was. -/
def NotebookBecomes (s s' : Service) (guid : Guid) (nb : Notebook) : Prop :=
  ∃ old time, s.Replaced s' guid old
    { old with note := { old.note with notebook := some (.resolved nb), updated := time } }

theorem TitleBecomes.notebook {title : String} (h : s.TitleBecomes s' guid title) :
    (s'.record? guid).map (·.note.notebook) = (s.record? guid).map (·.note.notebook) := by
  obtain ⟨old, time, replaced⟩ := h
  rw [replaced.now, replaced.was]
  rfl

theorem NotebookBecomes.notebook (h : s.NotebookBecomes s' guid nb) :
    (s'.record? guid).map (·.note.notebook) = some (some (.resolved nb)) := by
  obtain ⟨old, time, replaced⟩ := h
  rw [replaced.now]
  rfl

theorem Replaced.unique {old' new' : Record} (h : s.Replaced s' guid old new)
    (h' : s.Replaced s' guid old' new') : old = old' ∧ new = new' :=
  ⟨Option.some.inj (h.was.symm.trans h'.was), Option.some.inj (h.now.symm.trans h'.now)⟩

/-- A title and a notebook that were written to a record changed just the title if the notebook was
no other one. -/
theorem titleBecomes_iff {title : String} {notebook : Option NotebookRef} {time : Int}
    (h : s.Replaced s' guid r
      ⟨{ r.note with title, notebook := notebook.or r.note.notebook, updated := time },
        r.content⟩) :
    s.TitleBecomes s' guid title ↔ notebook = none ∨ notebook = r.note.notebook := by
  have stays : notebook.or r.note.notebook = r.note.notebook ↔
      notebook = none ∨ notebook = r.note.notebook := by
    cases notebook <;> simp
  rw [← stays]
  constructor
  · rintro ⟨old, time', h'⟩
    obtain ⟨rfl, same⟩ := h.unique h'
    exact congrArg (·.note.notebook) same
  · intro same
    rw [same] at h
    exact ⟨r, time, h⟩

/-- A title and a notebook that were written to a record changed just the notebook if the title was
no other one. -/
theorem notebookBecomes_iff {title : String} {time : Int}
    (h : s.Replaced s' guid r
      ⟨{ r.note with title, notebook := some (.resolved nb), updated := time }, r.content⟩) :
    s.NotebookBecomes s' guid nb ↔ title = r.note.title := by
  constructor
  · rintro ⟨old, time', h'⟩
    obtain ⟨rfl, same⟩ := h.unique h'
    exact congrArg (·.note.title) same
  · intro same
    rw [same] at h
    exact ⟨r, time, h⟩

/-- Where nothing was written, the notebook of a note is what it was. -/
theorem notebookBecomes_of_same_iff (same : s'.records = s.records) :
    s.NotebookBecomes s' guid nb ↔
      ∃ r, s.record? guid = some r ∧ r.note.notebook = some (.resolved nb) := by
  constructor
  · rintro ⟨old, time, h⟩
    exact ⟨_, (record?_congr same guid).symm.trans h.now, rfl⟩
  · rintro ⟨r, found, within⟩
    refine ⟨r, r.note.updated, ?_⟩
    rw [← within]
    exact ⟨found, (record?_congr same guid).trans found,
      fun other _ => record?_congr same other, by rw [same]⟩

theorem Numbered.record? (h : Numbered s.records) (mem : r ∈ s.records) :
    s.record? r.note.guid = some r := by
  cases found : s.record? r.note.guid with
  | none =>
    have none := List.find?_eq_none.1 found r mem
    simp at none
  | some r' =>
    obtain ⟨i, hi, rfl⟩ := List.getElem_of_mem mem
    obtain ⟨j, hj, rfl⟩ := List.getElem_of_mem (List.mem_of_find?_eq_some found)
    have same := h.unique (List.getElem?_eq_getElem hj) (List.getElem?_eq_getElem hi)
      (guid_of_record? found)
    subst same
    rfl

theorem notebook?_of_mem (distinct : (s.notebooks.map (·.guid)).Nodup) (mem : nb ∈ s.notebooks) :
    s.notebook? nb.guid = some nb := by
  cases found : s.notebook? nb.guid with
  | none =>
    have none := List.find?_eq_none.1 found nb mem
    simp at none
  | some nb' =>
    have same := List.inj_on_of_nodup_map distinct (List.mem_of_find?_eq_some found) mem
      (guid_of_notebook? found)
    rw [same]

/-- A notebook of the service means itself. -/
theorem resolve_of_mem (distinct : (s.notebooks.map (·.guid)).Nodup) (mem : nb ∈ s.notebooks) :
    s.resolve (some (.resolved nb)) = some (.resolved nb) :=
  resolve_found (notebook?_of_mem distinct mem)

/-- A settled record with the identifier of a notebook is in that notebook. -/
theorem Settled.within (h : s.Settled) (distinct : (s.notebooks.map (·.guid)).Nodup)
    (mem : nb ∈ s.notebooks) (hr : r ∈ s.records) (same : r.note.notebookGuid? = some nb.guid) :
    r.note.notebook = some (.resolved nb) := by
  obtain ⟨ref, href, guid⟩ := Option.bind_eq_some_iff.1 same
  have settled := h r hr
  rw [href] at settled ⊢
  rw [← settled, resolve]
  simp only [guid, notebook?_of_mem distinct mem, Option.map_some]

end Service

namespace Work

open Desk Service

variable {d d' : Desk} {n : Note} {title : String}

/-! ## Finding a note -/

/-- A note is found by its title among those that a query asks for. -/
theorem perform_titledNote_matching {notebook : Option String}
    (h : (titledNote title notebook).perform d = (.ok n, d')) :
    ∃ q, n ∈ d.service.matching q := by
  obtain ⟨guid, d₁, hguid, h⟩ := perform_bind_ok.1 h
  obtain ⟨finds, service⟩ := ((notebookGuid?_looksUp notebook).of_eq hguid).service
  obtain ⟨_, d₂, ⟨⟩, h⟩ := perform_bind_ok.1 h
  obtain ⟨found, d₃, ⟨⟩, h⟩ := perform_bind_ok.1 h
  split at h
  next first =>
    have mem := mem_matching_of_mem_find (List.mem_of_find?_eq_some first)
    rw [service, Except.ok.inj (Prod.mk.inj h).1] at mem
    exact ⟨_, mem⟩
  · cases h

theorem perform_titledNote_ok {notebook : Option String}
    (h : (titledNote title notebook).perform d = (.ok n, d')) :
    ∃ r ∈ d.service.records, r.note = n := by
  obtain ⟨q, found⟩ := perform_titledNote_matching h
  obtain ⟨r, mem, -, same⟩ := mem_matching.1 found
  exact ⟨r, mem, same⟩

/-- **A note found by its title is as its record has it.** -/
theorem perform_findNote_title {notebook : Option String}
    (h : (findNote title notebook).perform d = (.ok n, d'))
    (unnumbered : (numberedNote? title).perform d = (.ok none, d)) :
    ∃ r ∈ d.service.records, r.note = n := by
  rw [findNote, perform_bind_of_ok unnumbered] at h
  exact perform_titledNote_ok h

/-! ## Updates without content -/

/-- An update of title and notebook replaces the record of the note, whose content stays. -/
theorem perform_saveMetadata_ok {x : Unit} (h : (saveMetadata n).perform d = (.ok x, d')) :
    ∃ old, d.service.Replaced d'.service n.guid old
      ⟨{ old.note with
          title := n.title
          notebook := (d.service.resolve n.notebook).or old.note.notebook
          updated := d.service.nextTime }, old.content⟩ := by
  rcases hupdate : d.service.update { n with body := "" } with ⟨result, service⟩
  rw [saveMetadata, perform_changeService hupdate] at h
  obtain ⟨same, rfl⟩ := Prod.mk.inj h
  cases result with
  | error cause => cases same
  | ok _ => exact update_replaced hupdate

end Work

open Work Service

namespace Desk

variable {d d' : Desk}

/-! ## Renaming -/

/-- **The effect of renaming a note.** At every desk that a run leads to: the record of the note
that was found gets the title, and the notebook that the note had when it was looked up. So all but
the title stays just if that notebook is not known, or is the one that the record has; it does if
the note was found by its title. -/
theorem Reachable.renameNote_effect (h : d.Reachable) {old new : String} {report : Report}
    (done : (renameNote old new).perform d = (.ok report, d')) :
    ∃ n d₁ r, (findNote old none).perform d = (.ok n, d₁) ∧
      report = { messages := [.renamed old new], affected := [{ n with title := new }] } ∧
      d.service.Replaced d'.service n.guid r
        ⟨{ r.note with
            title := new
            notebook := (d.service.resolve n.notebook).or r.note.notebook
            updated := d.service.nextTime }, r.content⟩ ∧
      (d.service.TitleBecomes d'.service n.guid new ↔
        d.service.resolve n.notebook = none ∨
          d.service.resolve n.notebook = r.note.notebook) ∧
      ((numberedNote? old).perform d = (.ok none, d) →
        d.service.TitleBecomes d'.service n.guid new) := by
  obtain ⟨n, d₁, found, renamed⟩ := perform_bind_ok.1 done
  obtain ⟨_, d₂, saved, reported⟩ := perform_bind_ok.1 renamed
  obtain ⟨same, rfl⟩ := Prod.mk.inj reported
  obtain ⟨finds, service⟩ := ((findNote_looksUp old none).of_eq found).service
  obtain ⟨r, replaced⟩ := perform_saveMetadata_ok saved
  rw [service] at replaced
  have replaced := replaced.of_finds
  have stays := titleBecomes_iff replaced
  refine ⟨n, d₁, r, found, (Except.ok.inj same).symm, replaced, stays, fun unnumbered => ?_⟩
  obtain ⟨r', mem, rfl⟩ := perform_findNote_title found unnumbered
  -- No other record has the identifier of the record that was found.
  obtain rfl : r' = r := Option.some.inj ((h.numbered.record? mem).symm.trans replaced.was)
  exact stays.2 (.inr (h.settled r' mem))

theorem Reachable.renameNote_effect_stockedDesk :
    stockedDesk.Reachable ∧ stockedDesk.service.TitleBecomes
      ((renameNote "Groceries" "Shopping").perform stockedDesk).2.service (Guid.ofNumber 1)
      "Shopping" := by
  have reachable : stockedDesk.Reachable := ⟨{}, rfl, .single (.request _ trivial)⟩
  have result : ((renameNote "Groceries" "Shopping").perform stockedDesk).1 =
      .ok { messages := [.renamed "Groceries" "Shopping"], affected := [shopping] } := by
    decide +kernel
  obtain ⟨n, d₁, r, found, reported, -, -, stays⟩ :=
    reachable.renameNote_effect (perform_of_result result)
  have guid : n.guid = Guid.ofNumber 1 := by
    have affected := congrArg (fun report => report.affected.map (·.guid)) reported
    simpa [shopping] using affected.symm
  exact ⟨reachable, guid ▸ stays rfl⟩

/-! ### A stale listing -/

def homeNotebook : Notebook := { guid := "a", name := "Home" }

def workNotebook : Notebook := { guid := "b", name := "Work" }

/-- A desk with one note, in the first of two notebooks. -/
def sortedDesk : Desk where
  service := (((({} : Service).addNotebook homeNotebook).addNotebook workNotebook).add
    "Groceries" (some "a") "milk").2

/-- The desk after the note was listed, and then moved to the other notebook. -/
def staleDesk : Desk :=
  ((Request.move "Groceries" "Work").work.perform
    ((Request.list none none none).work.perform sortedDesk).2).2

theorem run_sortedDesk : Run (fun _ _ => True) {} sortedDesk := by
  have added : Run (fun _ _ => True) {} { service := ({} : Service).addNotebook homeNotebook } :=
    .single (.service (.addNotebook homeNotebook))
  have both := added.tail (.service (.addNotebook workNotebook))
  exact both.tail (.service (.add "Groceries" (some "a") "milk"))

theorem reachableAfresh_staleDesk : staleDesk.ReachableAfresh := by
  have listed := run_sortedDesk.tail (.request (.list none none none) trivial)
  exact ⟨{}, rfl, rfl, listed.tail (.request (.move "Groceries" "Work") trivial)⟩

theorem notebooks_staleDesk : staleDesk.service.notebooks = [homeNotebook, workNotebook] := by
  decide +kernel

/-- **A rename that moves a note back**: it is found as it was listed, before it was moved. -/
theorem stale_rename :
    staleDesk.ReachableAfresh ∧ staleDesk.service.notebooks = [homeNotebook, workNotebook] ∧
      ((renameNote "1" "Shopping").perform staleDesk).1.map (·.messages) =
        .ok [.renamed "1" "Shopping"] ∧
      (((renameNote "1" "Shopping").perform staleDesk).2.service.record?
        (Guid.ofNumber 1)).map (·.note.notebook) = some (some (.resolved homeNotebook)) ∧
      ¬staleDesk.service.TitleBecomes ((renameNote "1" "Shopping").perform staleDesk).2.service
        (Guid.ofNumber 1) "Shopping" := by
  have before : (staleDesk.service.record? (Guid.ofNumber 1)).map (·.note.notebook) =
      some (some (.resolved workNotebook)) := by
    decide +kernel
  have after : (((renameNote "1" "Shopping").perform staleDesk).2.service.record?
      (Guid.ofNumber 1)).map (·.note.notebook) = some (some (.resolved homeNotebook)) := by
    decide +kernel
  refine ⟨reachableAfresh_staleDesk, notebooks_staleDesk, by decide +kernel, after, ?_⟩
  intro becomes
  have stays := becomes.notebook
  rw [after, before] at stays
  exact absurd stays (by decide)

/-! ## Moving -/

/-- **The effect of moving a note.** At every desk that a run leads to, where notebooks differ by
their identifiers: a note that was looked up in the notebook already is left as it is, and any other
gets the notebook, and the title that it had when it was looked up. So it ends up in the notebook,
and otherwise as it was, just if its record has that notebook, or that title; it does if the note
was found by its title. -/
theorem ReachableAfresh.moveNote_effect (h : d.ReachableAfresh)
    (distinct : (d.service.notebooks.map (·.guid)).Nodup) {title name : String} {report : Report}
    (done : (moveNote title name).perform d = (.ok report, d')) :
    ∃ n d₁ nb d₂, (findNote title none).perform d = (.ok n, d₁) ∧
      (findNotebook name).perform d₁ = (.ok nb, d₂) ∧
      nb ∈ d.service.notebooks ∧ nb.name = name ∧
      (report = { messages := [.alreadyIn n.title name] } ∧
          n.notebookGuid? = some nb.guid ∧
          (∃ finds, d'.service = { d.service with finds }) ∧
          (d.service.NotebookBecomes d'.service n.guid nb ↔
            ∃ r, d.service.record? n.guid = some r ∧ r.note.notebook = some (.resolved nb)) ∨
        report = { messages := [.moved n.title name]
                   affected := [{ n with notebook := some (.resolved nb) }] } ∧
          n.notebookGuid? ≠ some nb.guid ∧
          ∃ r, d.service.Replaced d'.service n.guid r
              ⟨{ r.note with
                  title := n.title
                  notebook := some (.resolved nb)
                  updated := d.service.nextTime }, r.content⟩ ∧
            (d.service.NotebookBecomes d'.service n.guid nb ↔ n.title = r.note.title)) ∧
      ((numberedNote? title).perform d = (.ok none, d) →
        d.service.NotebookBecomes d'.service n.guid nb) := by
  obtain ⟨n, d₁, found, moved⟩ := perform_bind_ok.1 done
  obtain ⟨nb, d₂, hnb, ended⟩ := perform_bind_ok.1 moved
  have looked : LooksUp d d₁ := (findNote_looksUp title none).of_eq found
  obtain ⟨mem, rfl⟩ := perform_findNotebook_ok (h.remembers.lookedUp looked) hnb
  obtain ⟨finds₁, service₁⟩ := looked.service
  rw [service₁] at mem
  obtain ⟨finds, service⟩ := (looked.trans ((findNotebook_looksUp _).of_eq hnb)).service
  refine ⟨n, d₁, nb, d₂, found, hnb, mem, rfl, ?_⟩
  split at ended
  next already =>
    obtain ⟨same, rfl⟩ := Prod.mk.inj ended
    have stays : d.service.NotebookBecomes d₂.service n.guid nb ↔
        ∃ r, d.service.record? n.guid = some r ∧ r.note.notebook = some (.resolved nb) :=
      notebookBecomes_of_same_iff (by rw [service])
    refine ⟨.inl ⟨(Except.ok.inj same).symm, already, ⟨finds, service⟩, stays⟩, ?_⟩
    intro unnumbered
    obtain ⟨r, hr, rfl⟩ := perform_findNote_title found unnumbered
    exact stays.2 ⟨r, h.reachable.numbered.record? hr,
      h.reachable.settled.within distinct mem hr already⟩
  next elsewhere =>
    obtain ⟨_, d₃, saved, reported⟩ := perform_bind_ok.1 ended
    obtain ⟨same, rfl⟩ := Prod.mk.inj reported
    obtain ⟨r, replaced⟩ := perform_saveMetadata_ok saved
    rw [service] at replaced
    have replaced := replaced.of_finds
    -- The update looks the notebook up once more, and finds it as it was found by name.
    have resolved : ({ d.service with finds } : Service).resolve (some (.resolved nb)) =
        some (.resolved nb) := resolve_of_mem distinct mem
    dsimp only at replaced
    rw [resolved, Option.some_or] at replaced
    have stays := notebookBecomes_iff replaced
    refine ⟨.inr ⟨(Except.ok.inj same).symm, elsewhere, r, replaced, stays⟩, ?_⟩
    intro unnumbered
    obtain ⟨r', hr, rfl⟩ := perform_findNote_title found unnumbered
    have old := (h.reachable.numbered.record? hr).symm.trans replaced.was
    exact stays.2 (congrArg (·.note.title) (Option.some.inj old))

theorem ReachableAfresh.moveNote_effect_staleDesk :
    staleDesk.ReachableAfresh ∧ (staleDesk.service.notebooks.map (·.guid)).Nodup ∧
      staleDesk.service.NotebookBecomes ((moveNote "Groceries" "Home").perform staleDesk).2.service
        (Guid.ofNumber 1) homeNotebook := by
  have distinct : (staleDesk.service.notebooks.map (·.guid)).Nodup := by
    rw [notebooks_staleDesk]
    decide
  have result : ((moveNote "Groceries" "Home").perform staleDesk).1 =
      .ok { messages := [.moved "Groceries" "Home"]
            affected := [{ guid := Guid.ofNumber 1, title := "Groceries", created := 1000,
                           updated := 2000, notebook := some (.resolved homeNotebook) }] } := by
    decide +kernel
  obtain ⟨n, d₁, nb, d₂, -, -, -, -, effect, stays⟩ :=
    reachableAfresh_staleDesk.moveNote_effect distinct (perform_of_result result)
  refine ⟨reachableAfresh_staleDesk, distinct, ?_⟩
  rcases effect with ⟨reported, -⟩ | ⟨reported, -⟩
  · cases reported
  · have affected := congrArg Report.affected reported
    simp only [List.cons.injEq, and_true] at affected
    have guid : n.guid = Guid.ofNumber 1 := (congrArg Note.guid affected).symm
    have notebook := congrArg Note.notebook affected
    obtain rfl : homeNotebook = nb := by simpa using notebook
    exact guid ▸ stays rfl

/-- **A move that leaves a note where it is**: it is found in the notebook that it was listed in,
and it is in the other one. -/
theorem stale_move :
    staleDesk.ReachableAfresh ∧ staleDesk.service.notebooks = [homeNotebook, workNotebook] ∧
      ((moveNote "1" "Home").perform staleDesk).1 =
        .ok { messages := [.alreadyIn "Groceries" "Home"] } ∧
      (((moveNote "1" "Home").perform staleDesk).2.service.record?
        (Guid.ofNumber 1)).map (·.note.notebook) = some (some (.resolved workNotebook)) ∧
      ¬staleDesk.service.NotebookBecomes ((moveNote "1" "Home").perform staleDesk).2.service
        (Guid.ofNumber 1) homeNotebook := by
  have after : (((moveNote "1" "Home").perform staleDesk).2.service.record?
      (Guid.ofNumber 1)).map (·.note.notebook) = some (some (.resolved workNotebook)) := by
    decide +kernel
  refine ⟨reachableAfresh_staleDesk, notebooks_staleDesk, by decide +kernel, after, ?_⟩
  intro becomes
  exact absurd (becomes.notebook.symm.trans after) (by decide)

end Desk
end NoteDesk
