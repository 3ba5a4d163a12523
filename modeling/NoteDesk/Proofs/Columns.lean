import Mathlib.Data.List.Basic
import NoteDesk.Listing
import NoteDesk.Proofs.Width

/-!
# The columns of the table of notes

A text is cut by what its characters take on their own and measured as a whole, so a text with
characters that widen (`Text.widens`) may stand out of its column: control characters and selectors
for pictures do not count against the room that a column has, and are there all the same. This holds
of every ruler of which what `Text.Ruler.Documented` says is known.

* `Listing.Cut`: what is left of a text that does not fit is the longest beginning whose
  characters do, one by one (`Listing.fitting_cut`).
* `Listing.InColumn` tells what a column shows of a text, how wide it is at most and when it fills
  its column, and `Listing.InColumns` tells it of the line of a note.
* `Listing.width_cutTo_le_add` and `Listing.width_cutTo_le`: how wide a text is once it is cut.
  `Listing.width_padTo`: padding fills a column and takes nothing away.
* `Listing.render_columns` is the main result. `Listing.weekdays` is a title that is shown complete,
  with an ellipsis, beyond its column.
-/

namespace NoteDesk.Listing

open Text

section

variable [Ruler]

/-! ## Cutting -/

/-- A text taken apart where its characters no longer fit, one by one. -/
structure Cut (columns : Nat) (s kept rest : List Char) : Prop where
  whole : kept ++ rest = s
  fits : ownWidth kept ≤ columns
  full : ∀ c ∈ rest.head?, columns < ownWidth kept + charWidth c

theorem fitting_cut (columns : Nat) (s : List Char) :
    ∃ rest, Cut columns s (fitting columns s) rest := by
  induction s generalizing columns with
  | nil => exact ⟨[], rfl, Nat.zero_le _, by simp⟩
  | cons c s ih =>
    rw [fitting]
    split_ifs with room
    · obtain ⟨rest, cut⟩ := ih (columns - charWidth c)
      refine ⟨rest, congrArg (c :: ·) cut.whole, ?_, fun d hd => ?_⟩
      · have := cut.fits
        rw [ownWidth]
        omega
      · have := cut.full d hd
        rw [ownWidth]
        omega
    · refine ⟨c :: s, rfl, Nat.zero_le _, fun d hd => ?_⟩
      obtain rfl : c = d := by simpa using hd
      exact Nat.lt_of_lt_of_le (Nat.not_le.1 room) (Nat.le_add_left _ _)

theorem cutTo_of_le {columns : Nat} {s : List Char} (h : width s ≤ columns) : cutTo columns s = s :=
  if_pos h

theorem cutTo_of_gt {columns : Nat} {s : List Char} (h : columns < width s) :
    cutTo columns s = fitting (columns - 1) s ++ ['…'] :=
  if_neg (Nat.not_le.2 h)

/-! ## What is shown -/

/-- What a column shows of a text, and how wide it is. -/
structure InColumn (columns : Nat) (s : List Char) : Prop where
  /-- A text that fits is shown as it is. -/
  whole : width s ≤ columns → cutTo columns s = s
  /-- Of any other, the longest beginning is shown that leaves room for an ellipsis by what its
  characters take on their own. -/
  cut : columns < width s → ∃ kept rest, Cut (columns - 1) s kept rest ∧
    cutTo columns s = kept ++ ['…'] ∧ (width (cutTo columns s) ≤ columns ↔ width kept < columns) ∧
    width (cutTo columns s) ≤ columns + kept.countP widens
  padded : width (padTo columns (cutTo columns s)) = max columns (width (cutTo columns s))
  /-- Without characters that widen, the text fills its column. -/
  filled : (∀ c ∈ s, widens c = false) →
    width (cutTo columns s) ≤ columns ∧ width (padTo columns (cutTo columns s)) = columns

/-- What stands on a line before the age. -/
def front (number title notebook : List Char) : List Char :=
  alignRight 4 number ++ ' ' :: ' ' :: padTo titleWidth title ++ ' ' :: ' ' ::
    padTo notebookWidth notebook ++ [' ', ' ']

theorem line_eq (number title notebook age : List Char) :
    line number title notebook age =
      front number title notebook ++ alignRight timeWidth age ++ ['\n'] := by
  simp [line, front]

/-- What the line of a note shows of its title and its notebook, and how wide its columns are. -/
structure InColumns (notebooks : List Notebook) (now : Int) (number : Nat) (n : Note) : Prop where
  cells : row notebooks now number n =
    front (toString number ++ ".").toList (cutTo titleWidth n.title.toList)
        (cutTo notebookWidth (notebookName notebooks n).toList) ++
      alignRight timeWidth (Age.words n.updated now).toList ++ ['\n']
  title : InColumn titleWidth n.title.toList
  notebook : InColumn notebookWidth (notebookName notebooks n).toList
  /-- In a short table, the ages stand below each other unless a character widens a text. -/
  aligned : (∀ c ∈ n.title.toList ++ (notebookName notebooks n).toList, widens c = false) →
    number < 1000 →
    width (front (toString number ++ ".").toList (cutTo titleWidth n.title.toList)
      (cutTo notebookWidth (notebookName notebooks n).toList)) =
        4 + 2 + titleWidth + 2 + notebookWidth + 2

theorem rows_eq (notebooks : List Notebook) (now : Int) (number : Nat) (notes : List Note) :
    rows notebooks now number notes =
      (notes.zipIdx number).flatMap fun p => row notebooks now p.2 p.1 := by
  induction notes generalizing number with
  | nil => rfl
  | cons n notes ih => rw [rows, ih, List.zipIdx_cons, List.flatMap_cons]

/-! ## Widths -/

variable (known : Ruler.Documented)
include known

theorem width_cutTo_of_gt {columns : Nat} {s : List Char} (h : columns < width s) :
    width (cutTo columns s) = width (fitting (columns - 1) s) + 1 := by
  rw [cutTo_of_gt h, known.width_concat_ellipsis]

/-- **A text that is cut stands out of its column at most by what widens in it.** -/
theorem width_cutTo_le_add {columns : Nat} {s : List Char} (room : 1 ≤ columns)
    (wide : columns < width s) :
    width (cutTo columns s) ≤ columns + (fitting (columns - 1) s).countP widens := by
  obtain ⟨rest, cut⟩ := fitting_cut (columns - 1) s
  have own := cut.fits
  have wider := known.width_le (fitting (columns - 1) s)
  rw [width_cutTo_of_gt known wide]
  omega

theorem width_cutTo_le {columns : Nat} {s : List Char} (room : 1 ≤ columns)
    (plain : ∀ c ∈ s, widens c = false) : width (cutTo columns s) ≤ columns := by
  by_cases fits : width s ≤ columns
  · rwa [cutTo_of_le fits]
  · obtain ⟨rest, cut⟩ := fitting_cut (columns - 1) s
    have none : (fitting (columns - 1) s).countP widens = 0 := List.countP_eq_zero.2 fun c hc =>
      Bool.eq_false_iff.1 (plain c (cut.whole ▸ List.mem_append_left rest hc))
    have bound := width_cutTo_le_add known room (Nat.not_le.1 fits)
    rwa [none] at bound

theorem width_padTo (columns : Nat) (s : List Char) :
    width (padTo columns s) = max columns (width s) := by
  rw [padTo, known.width_append_spaces]
  omega

theorem width_alignRight {n : Nat} {s : List Char} (h : ∀ c ∈ s, Printable c) :
    width (alignRight n s) = max n s.length := by
  rw [alignRight, known.width_of_printable, List.length_append, List.length_replicate]
  · omega
  · exact fun c hc => (List.mem_append.1 hc).elim printable_of_mem_spaces (h c)

theorem inColumn {columns : Nat} (room : 1 ≤ columns) (s : List Char) : InColumn columns s where
  whole := cutTo_of_le
  cut wide := by
    obtain ⟨rest, cut⟩ := fitting_cut (columns - 1) s
    refine ⟨_, rest, cut, cutTo_of_gt wide, ?_, width_cutTo_le_add known room wide⟩
    rw [width_cutTo_of_gt known wide]
    exact Nat.succ_le_iff
  padded := width_padTo known _ _
  filled plain := by
    have inside := width_cutTo_le known room plain
    exact ⟨inside, by rw [width_padTo known, Nat.max_eq_left inside]⟩

theorem width_front (number title notebook : List Char) :
    width (front number title notebook) =
      width (alignRight 4 number) + 2 + max titleWidth (width title) + 2 +
        max notebookWidth (width notebook) + 2 := by
  have two (s t : List Char) : width (s ++ ' ' :: ' ' :: t) = width s + 2 + width t := by
    rw [known.width_append_space, ← List.nil_append (' ' :: t), known.width_append_space,
      known.width_nil]
    omega
  rw [front, two, List.append_assoc]
  rw [List.cons_append, List.cons_append, two, two, width_padTo known, width_padTo known,
    known.width_nil]
  omega

/-- The number of a note and its full stop. -/
theorem width_number {number : Nat} (few : number < 1000) :
    width (alignRight 4 (toString number ++ ".").toList) = 4 := by
  have shown : (toString number ++ ".").toList = Nat.toDigits 10 number ++ ['.'] := by simp
  have short : (Nat.toDigits 10 number).length ≤ 3 :=
    (Nat.length_toDigits_le_iff (by decide) (by decide)).2 few
  have printable : ∀ c ∈ Nat.toDigits 10 number ++ ['.'], Printable c := by
    intro c hc
    rcases List.mem_append.1 hc with digit | stop
    · exact printable_of_isDigit (Nat.isDigit_of_mem_toDigits (by decide) (by decide) digit)
    · exact List.mem_singleton.1 stop ▸ ⟨by decide, by decide⟩
  rw [shown, width_alignRight known printable, List.length_append, List.length_singleton]
  omega

theorem inColumns (notebooks : List Notebook) (now : Int) (number : Nat) (n : Note) :
    InColumns notebooks now number n := by
  have title : InColumn titleWidth n.title.toList := inColumn known (by decide) _
  have notebook : InColumn notebookWidth (notebookName notebooks n).toList :=
    inColumn known (by decide) _
  refine ⟨line_eq _ _ _ _, title, notebook, fun plain few => ?_⟩
  have inTitle := (title.filled fun c hc => plain c (List.mem_append_left _ hc)).1
  have inNotebook := (notebook.filled fun c hc => plain c (List.mem_append_right _ hc)).1
  rw [width_front known, width_number known few, Nat.max_eq_left inTitle,
    Nat.max_eq_left inNotebook]

/-- **What the table shows of its texts**, whatever ruler they are measured with: a title or a
notebook stands out of its column at most by the characters that widen in what is left of it, and
fills the column without them. -/
theorem render_columns {columns : Nat} (room : 1 ≤ columns) (s : List Char) (notes : List Note)
    (notebooks : List Notebook) (now : Int) :
    InColumn columns s ∧
      render notes notebooks now =
        headings ++ (notes.zipIdx 1).flatMap (fun p => row notebooks now p.2 p.1) ∧
      ∀ p ∈ notes.zipIdx 1, InColumns notebooks now p.2 p.1 :=
  ⟨inColumn known room s, by rw [render, rows_eq], fun p _ => inColumns known notebooks now p.2 p.1⟩

end

/-- A title of wide characters, too long for its column. -/
def plans : Note := { title := "日本語の勉強の計画と買い物の予定と旅行の準備" }

theorem render_columns_plans :
    Ruler.Documented ∧ 1 ≤ titleWidth ∧ titleWidth < width plans.title.toList ∧
      (∀ c ∈ plans.title.toList, widens c = false) ∧
      width (padTo titleWidth (cutTo titleWidth plans.title.toList)) = titleWidth ∧
      InColumns [] 0 1 plans := by
  have room : 1 ≤ titleWidth := by decide
  have none : plans.title.toList.any widens = false := by decide +kernel
  have plain : ∀ c ∈ plans.title.toList, widens c = false := fun c hc =>
    Bool.eq_false_iff.2 (List.any_eq_false.1 none c hc)
  obtain ⟨column, -, lines⟩ :=
    render_columns Width.documented room plans.title.toList [plans] [] 0
  exact ⟨Width.documented, room, by decide +kernel, plain, (column.filled plain).2,
    lines (plans, 1) (by simp)⟩

/-- A title with tabs in it. -/
def weekdays : String :=
  "Mon\tTue\tWed\tThu\tFri\tSat\tSun\tMon\tTue\tWed\tThu"

/-- The tabs do not count when the title is cut, so that it stays complete, with an ellipsis. -/
theorem weekdays_beyond_column :
    cutTo titleWidth weekdays.toList = weekdays.toList ++ ['…'] ∧
      width (cutTo titleWidth weekdays.toList) = titleWidth + 4 ∧
      width (padTo titleWidth (cutTo titleWidth weekdays.toList)) = titleWidth + 4 := by
  decide +kernel

end NoteDesk.Listing
