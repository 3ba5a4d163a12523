import NoteDesk.Proofs.Lookup
import NoteDesk.Proofs.Stable
import NoteDesk.Proofs.Tidy

/-!
# Converted markdown

Markdown that was made from markup is in a normal form, and the document of a note holds it as it
is.

* `Markup.Normal` is the form: no blanks at either end and no two blank lines in a row.
  `Markup.normal_tidy`: tidied text has it. `Markup.tidy_of_normal`: what has it is left as it is.
* `Document.Restored` is a note that came back from its own document with its markdown as it was.
  `Document.exists_restored`: so every note does whose markdown is normal and has no carriage
  return.
* `Markup.toMarkdown_normal` is the main result, for converted markup and for the notes that are
  opened.
-/

namespace NoteDesk

theorem Line.subset_of_mem_splitOn {α : Type} [BEq α] [LawfulBEq α] {a : α} {s line : List α}
    (h : line ∈ s.splitOn a) : line ⊆ s := by
  induction s generalizing line with
  | nil =>
    rw [List.splitOn_nil, List.mem_singleton] at h
    exact h ▸ List.Subset.refl _
  | cons x s ih =>
    rw [List.splitOn_cons_eq_if_modifyHead] at h
    split_ifs at h with hx
    · rcases List.mem_cons.1 h with rfl | later
      · exact List.nil_subset _
      · exact List.subset_cons_of_subset x (ih later)
    · obtain ⟨first, rest, pieces⟩ := List.exists_cons_of_ne_nil (List.splitOn_ne_nil a s)
      rw [pieces] at ih h
      rcases List.mem_cons.1 h with rfl | later
      · exact List.cons_subset_cons x (ih List.mem_cons_self)
      · exact List.subset_cons_of_subset x (ih (List.mem_cons_of_mem _ later))

namespace Markup

variable {s t : List Char}

/-- Text without blanks at its ends and without two blank lines in a row. -/
structure Normal (s : List Char) : Prop where
  first : ∀ c ∈ s.head?, Text.isBlank c = false
  last : ∀ c ∈ s.getLast?, Text.isBlank c = false
  feeds : ¬threeFeeds <:+: s

theorem limitFeeds_limitFeeds (n : Nat) (s : List Char) :
    limitFeeds n (limitFeeds n s) = limitFeeds n s := by
  induction s generalizing n with
  | nil => rfl
  | cons c s ih =>
    by_cases hc : c = '\n'
    · subst hc
      rw [limitFeeds_feed_cons]
      split_ifs with room
      · rw [limitFeeds_feed_cons, if_pos room, ih]
      · exact ih n
    · rw [limitFeeds_cons_of_ne hc, limitFeeds_cons_of_ne hc, ih]

theorem threeFeeds_not_infix_limitFeeds (s : List Char) : ¬threeFeeds <:+: limitFeeds 0 s :=
  (limitFeeds_eq_self_iff _).1 (limitFeeds_limitFeeds 0 s)

/-- **Tidied text is normal.** -/
theorem normal_tidy (s : List Char) : Normal (tidy s) where
  first _ := Text.head?_strip
  last _ := Text.getLast?_strip
  feeds inside := by
    have trimmed : tidy s <:+: limitFeeds 0 s :=
      (Text.strip_prefix_dropWhile _).isInfix.trans (List.dropWhile_suffix _).isInfix
    exact threeFeeds_not_infix_limitFeeds s (inside.trans trimmed)

/-- **Normal text is left as it is.** -/
theorem tidy_of_normal (h : Normal s) : tidy s = s := by
  rw [tidy, (limitFeeds_eq_self_iff s).2 h.feeds]
  exact Text.strip_of_ends h.first h.last

/-- The reader of a document has nothing to drop of normal text without carriage returns. -/
theorem Normal.tidy (h : Normal s) (noReturn : '\r' ∉ s) : Document.Tidy s where
  first feed := by cases h.first _ feed
  last feed := by cases h.last _ feed
  lines line hline ends :=
    noReturn (Line.subset_of_mem_splitOn hline (List.mem_of_getLast? ends))

end Markup

namespace Document

/-- The note came back from its own document with its markdown as it was. Nothing else changed than
that its title and the name of its notebook lost the blanks around them, if there were any. -/
structure Restored (n after : Note) (m : EditMode) : Prop where
  roundTrip : Document.roundTrip n m = .ok after
  md : after.md = n.md
  takesOver : TakesOver n n after m
  same : Text.trimmed n.title = n.title →
    Text.trimmed n.notebookName = "" ∨ Text.trimmed n.notebookName = n.notebookName → after = n

/-- **Normal markdown without carriage returns comes back from the document of its note.** -/
theorem exists_restored {n : Note} {m : EditMode} (normal : Markup.Normal n.md.toList)
    (noReturn : '\r' ∉ n.md.toList) (markdown : m.raw = false) (ht : '\n' ∉ n.title.toList)
    (hn : '\n' ∉ n.notebookName.toList) : ∃ after, Restored n after m := by
  have tidy : Tidy (n.content m.raw).toList := by
    rw [markdown]
    exact normal.tidy noReturn
  obtain ⟨after, parsed, takesOver⟩ := parse_render_takesOver ht hn n m
  have read : roundTrip n m = .ok after := by
    rw [roundTrip, parsed]
    rfl
  have content : after.content m.raw = n.content m.raw := by
    rw [takesOver.content, normal_withLastFeed, normal_of_tidy tidy, String.ofList_toList]
  refine ⟨after, read, ?_, takesOver, fun title notebook => ?_⟩
  · rwa [markdown] at content
  · have settled : Settled n m := ⟨title, notebook, tidy⟩
    exact Except.ok.inj (read.symm.trans (settled.roundTrip ht hn))

end Document

namespace Work

open Desk

variable {title : String} {notebook : Option String} {n : Note} {d d' : Desk}

/-- The markdown of a note that is opened is made from its markup. -/
theorem perform_openNote_md (h : (openNote title notebook).perform d = (.ok n, d')) :
    d.converter.toMarkdown n.body = .ok n.md := by
  obtain ⟨found, d₁, hfound, h⟩ := perform_bind_ok.1 h
  obtain ⟨content, d₂, asked, h⟩ := perform_bind_ok.1 h
  obtain ⟨md, d₃, converted, h⟩ := perform_bind_ok.1 h
  obtain rfl := Except.ok.inj (Prod.mk.inj h).1
  have looked := (findNote_looksUp title notebook).of_eq hfound
  obtain ⟨-, rfl⟩ := Prod.mk.inj asked
  rw [← looked.converter]
  exact (Prod.mk.inj converted).1

end Work

namespace Markup

open Desk

/-- **Converted markdown is in normal form.** It has no blanks at its ends and no three line feeds in
a row, so it is not changed by being tidied again. Without carriage returns it comes back as it is
from the document of every note with a title and a notebook name of one line, and so does the
markdown of every note that is opened. -/
theorem toMarkdown_normal :
    (∀ {markup s : String}, toMarkdown markup = .ok s →
      Normal s.toList ∧ tidy s.toList = s.toList ∧
        ('\r' ∉ s.toList → ∀ (n : Note) (m : EditMode), n.md = s → m.raw = false →
          '\n' ∉ n.title.toList → '\n' ∉ n.notebookName.toList →
          ∃ after, Document.Restored n after m)) ∧
    ∀ {d d' : Desk} {title : String} {notebook : Option String} {n : Note} {m : EditMode},
      d.converter = .markdown → (Work.openNote title notebook).perform d = (.ok n, d') →
      '\r' ∉ n.md.toList → m.raw = false → '\n' ∉ n.title.toList →
      '\n' ∉ n.notebookName.toList → ∃ after, Document.Restored n after m := by
  have normal {markup s : String} (h : toMarkdown markup = .ok s) : Normal s.toList := by
    rw [toMarkdown, toMarkdownText] at h
    cases cut : pieces markup.toList with
    | error cause =>
      rw [cut] at h
      cases h
    | ok ps =>
      rw [cut] at h
      rw [← Except.ok.inj h, String.toList_ofList]
      exact normal_tidy _
  refine ⟨fun h => ⟨normal h, tidy_of_normal (normal h), ?_⟩, ?_⟩
  · rintro noReturn n m rfl
    exact Document.exists_restored (normal h) noReturn
  · intro d d' title notebook n m converter opened noReturn
    have converted := Work.perform_openNote_md opened
    rw [converter] at converted
    exact Document.exists_restored (normal converted) noReturn

/-- Markup with blank lines from text, references, tags and layout. -/
def looseMarkup : String :=
  "\n<p>milk</p>&#10;&#10;<div>---</div><br/><br/><br/>eggs \n"

/-- A desk with one note of that markup. -/
def looseDesk : Desk where
  service := (({} : Service).add "Groceries" none (Envelope.wrap looseMarkup)).2

/-- That note when it is opened. -/
def looseNote : Note where
  guid := Guid.ofNumber 1
  title := "Groceries"
  body := looseMarkup
  md := "milk\n\n---\n\neggs"
  created := 1000
  updated := 1000

theorem toMarkdown_normal_looseDesk :
    toMarkdown looseMarkup = .ok "milk\n\n---\n\neggs" ∧ Normal "milk\n\n---\n\neggs".toList ∧
      (∃ after, Document.Restored { title := " To buy", md := "milk\n\n---\n\neggs" } after {}) ∧
      ∃ n, ((Work.openNote "Groceries" none).perform looseDesk).1 = .ok n ∧
        n.md = "milk\n\n---\n\neggs" ∧ ∃ after, Document.Restored n after {} := by
  have converted : toMarkdown looseMarkup = .ok "milk\n\n---\n\neggs" := by decide +kernel
  obtain ⟨normal, -, restored⟩ := toMarkdown_normal.1 converted
  have opened : ((Work.openNote "Groceries" none).perform looseDesk).1 = .ok looseNote := by
    decide +kernel
  have markdown : looseDesk.converter = .markdown := rfl
  refine ⟨converted, normal, ?_, looseNote, opened, rfl, ?_⟩
  · exact restored (by decide) { title := " To buy", md := "milk\n\n---\n\neggs" } {} rfl rfl
      (by decide) (by decide)
  · exact toMarkdown_normal.2 markdown (Work.perform_of_result opened) (by decide) rfl (by decide)
      (by decide)

end Markup
end NoteDesk
