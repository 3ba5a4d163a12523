import NoteDesk.Proofs.Service
import NoteDesk.Proofs.Session

/-!
# What counts as a change

A fingerprint digests the title and the content of a note as one text, so it does not tell where the
title ends. Two notes have the same fingerprint when they read alike, which is more than having the
same title and content: text may have moved from one to the other.

* `Fingerprint.changed_eq_false_iff`: what a fingerprint cannot tell apart.
* `Fingerprint.exact_iff`: where that is just what has the same title and content.
* `Work.unsaved_iff`: the edits that are not saved are exactly those. `Work.lost_edit` is one in
  which title and content did change.
-/

namespace NoteDesk

/-! ## Fingerprints -/

/-- The title of `a` runs over into the content of `b`: it goes on with the text that only the
content of `b` begins with. -/
def Note.RunsOver (a b : Note) (raw : Bool) : Prop :=
  ∃ moved, moved ≠ "" ∧ a.title = b.title ++ moved ∧ b.content raw = moved ++ a.content raw

/-- Same title and same content, up to text that moved between the two. -/
def Note.ReadsLike (a b : Note) (raw : Bool) : Prop :=
  (a.title = b.title ∧ a.content raw = b.content raw) ∨ a.RunsOver b raw ∨ b.RunsOver a raw

theorem append_eq_append_iff {s t s' t' : String} : s ++ t = s' ++ t' ↔
    (∃ u, s' = s ++ u ∧ t = u ++ t') ∨ ∃ u, s = s' ++ u ∧ t' = u ++ t := by
  constructor
  · intro h
    have lists : s.toList ++ t.toList = s'.toList ++ t'.toList := by
      rw [← String.toList_append, h, String.toList_append]
    rcases List.append_eq_append_iff.1 lists with ⟨u, hs, ht⟩ | ⟨u, hs, ht⟩
    · exact .inl ⟨.ofList u, by simp [← String.toList_inj, hs], by simp [← String.toList_inj, ht]⟩
    · exact .inr ⟨.ofList u, by simp [← String.toList_inj, hs], by simp [← String.toList_inj, ht]⟩
  · rintro (⟨u, rfl, rfl⟩ | ⟨u, rfl, rfl⟩) <;> rw [String.append_assoc]

/-- **What a fingerprint cannot tell apart.** -/
theorem Fingerprint.changed_eq_false_iff (a b : Note) (raw : Bool) :
    (Fingerprint.of a raw).changed (Fingerprint.of b raw) = false ↔ a.ReadsLike b raw := by
  have digests : (Fingerprint.of a raw).changed (Fingerprint.of b raw) = false ↔
      a.title ++ a.content raw = b.title ++ b.content raw := by
    simp [Fingerprint.changed, Fingerprint.of]
  rw [digests, append_eq_append_iff]
  constructor
  · rintro (⟨moved, htitle, hcontent⟩ | ⟨moved, htitle, hcontent⟩)
    · by_cases empty : moved = ""
      · subst empty
        exact .inl ⟨by simp [htitle], by simp [hcontent]⟩
      · exact .inr (.inr ⟨moved, empty, htitle, hcontent⟩)
    · by_cases empty : moved = ""
      · subst empty
        exact .inl ⟨by simp [htitle], by simp [hcontent]⟩
      · exact .inr (.inl ⟨moved, empty, htitle, hcontent⟩)
  · rintro (⟨htitle, hcontent⟩ | ⟨moved, -, htitle, hcontent⟩ | ⟨moved, -, htitle, hcontent⟩)
    · exact .inl ⟨"", by simp [htitle], by simp [hcontent]⟩
    · exact .inr ⟨moved, htitle, hcontent⟩
    · exact .inl ⟨moved, htitle, hcontent⟩

/-- Text that moved is missing from one of the titles. -/
theorem Note.RunsOver.title_ne {a b : Note} {raw : Bool} (h : a.RunsOver b raw) :
    a.title ≠ b.title := by
  obtain ⟨moved, nonempty, htitle, -⟩ := h
  intro same
  apply nonempty
  rw [htitle] at same
  have lists : b.title.toList ++ moved.toList = b.title.toList := by
    rw [← String.toList_append, same]
  rw [← String.toList_inj]
  simpa using lists

/-- A fingerprint tells exactly the changes of title and content where no text moved between
them. -/
theorem Fingerprint.exact_iff (a b : Note) (raw : Bool) :
    ((Fingerprint.of a raw).changed (Fingerprint.of b raw) = false ↔
        a.title = b.title ∧ a.content raw = b.content raw) ↔
      ¬a.RunsOver b raw ∧ ¬b.RunsOver a raw := by
  rw [changed_eq_false_iff, Note.ReadsLike]
  constructor
  · intro exact
    constructor
    · intro runs
      exact runs.title_ne (exact.1 (.inr (.inl runs))).1
    · intro runs
      exact runs.title_ne (exact.1 (.inr (.inr runs))).1.symm
  · rintro ⟨forth, back⟩
    simp only [forth, back, or_false]

namespace Work

/-! ## Sessions -/

theorem updated_of_saveChanges_ok {n : Note} {m : EditMode} {d d' : Desk} {x : Unit}
    (h : (saveChanges n m).perform d = (.ok x, d')) :
    d'.service.updated = d.service.updated ++ [outgoing d n m.raw] := by
  obtain ⟨service, _, hupdate, rfl⟩ := perform_saveChanges_ok h
  obtain ⟨-, rfl⟩ := Service.update_ok hupdate
  rfl

theorem unchanged_iff (s : Session) (raw : Bool) :
    s.unchanged raw = true ↔
      s.echoed.ReadsLike s.edited raw ∧ s.edited.notebookName = s.opened.notebookName := by
  rw [Session.unchanged, Bool.and_eq_true, Bool.not_eq_true', Fingerprint.changed_eq_false_iff,
    beq_iff_eq]

/-- **The edits that are not saved.** A session ends well without an update exactly if the note was
read back as it was found, up to text that moved between title and content, and its notebook has the
name that it was opened with. -/
theorem unsaved_iff (title : String) (notebook : Option String) (m : EditMode) (d : Desk) :
    (∃ report d', (editNote title notebook m).perform d = (.ok report, d') ∧
        d'.service.updated = d.service.updated) ↔
      ∃ s d₁, (session title notebook m).perform d = (.ok s, d₁) ∧
        s.echoed.ReadsLike s.edited m.raw ∧ s.edited.notebookName = s.opened.notebookName := by
  have edited {s : Session} {d₁ : Desk} (h : (session title notebook m).perform d = (.ok s, d₁)) :
      d₁.service.updated = d.service.updated := by
    obtain ⟨finds, hservice⟩ := ((session_unsaved title notebook m).of_eq h).service
    rw [hservice]
  constructor
  · rintro ⟨report, d', done, same⟩
    rw [editNote_eq] at done
    obtain ⟨s, d₁, hsession, hsettle⟩ := perform_bind_ok.1 done
    refine ⟨s, d₁, hsession, (unchanged_iff s m.raw).1 ?_⟩
    by_contra changed
    rw [settle, if_neg changed] at hsettle
    obtain ⟨_, d₂, hsave, hreport⟩ := perform_bind_ok.1 hsettle
    rw [← (Prod.mk.inj hreport).2, updated_of_saveChanges_ok hsave, edited hsession] at same
    simp at same
  · rintro ⟨s, d₁, hsession, alike⟩
    refine ⟨{ messages := [.unchanged s.edited.title] }, d₁, ?_, edited hsession⟩
    rw [editNote_eq, perform_bind_of_ok hsession, settle, if_pos ((unchanged_iff s m.raw).2 alike)]
    rfl

/-- **What counts as a change**, for any two notes and in any session: it is told exactly where no
text moved between title and content, and missed where only the end of the title moved. -/
theorem changed_eq_false_iff_and_unsaved_iff (a b : Note) (raw : Bool) (title : String)
    (notebook : Option String) (m : EditMode) (d : Desk) :
    ((Fingerprint.of a raw).changed (Fingerprint.of b raw) = false ↔ a.ReadsLike b raw) ∧
      (((Fingerprint.of a raw).changed (Fingerprint.of b raw) = false ↔
          a.title = b.title ∧ a.content raw = b.content raw) ↔
        ¬a.RunsOver b raw ∧ ¬b.RunsOver a raw) ∧
      ((∃ report d', (editNote title notebook m).perform d = (.ok report, d') ∧
          d'.service.updated = d.service.updated) ↔
        ∃ s d₁, (session title notebook m).perform d = (.ok s, d₁) ∧
          s.echoed.ReadsLike s.edited m.raw ∧ s.edited.notebookName = s.opened.notebookName) :=
  ⟨Fingerprint.changed_eq_false_iff a b raw, Fingerprint.exact_iff a b raw,
    unsaved_iff title notebook m d⟩

/-- A desk whose editor moves the end of a title to the content. -/
def movingDesk : Desk where
  store := .memory { recovery := some { guid := "n", title := "to do", md := "list" } }
  editor := fun _ => ⟨some (.file (Utf8.encode "---\ntitle: to\n---\n dolist\n".toList)), .ok ()⟩

/-- **An edit that is lost**: the title and the content changed, and nothing was saved. -/
theorem lost_edit :
    ((session "" none { recovery := true }).perform movingDesk).1 =
        .ok { echoed := { guid := "n", title := "to do", md := "list" }
              opened := { guid := "n", title := "to do", md := "list" }
              edited := { guid := "n", title := "to", md := " dolist" } } ∧
      ((editNote "" none { recovery := true }).perform movingDesk).1 =
        .ok { messages := [.unchanged "to"] } ∧
      ((editNote "" none { recovery := true }).perform movingDesk).2.service.updated = [] :=
  ⟨by decide +kernel, by decide +kernel, by decide +kernel⟩

end Work
end NoteDesk
