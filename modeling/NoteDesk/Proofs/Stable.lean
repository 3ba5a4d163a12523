import Mathlib.Data.List.DropRight
import NoteDesk.Proofs.RoundTrip

/-!
# Round trips settle

A note that went through its own document once goes through it unchanged from then on.

* `Text.strip_of_ends`: stripping leaves what neither begins nor ends with something to strip, and
  gives such a list.
* `Document.Tidy` is a content that has nothing for the reader of a document to drop. It comes back
  as it is (`Document.normal_of_tidy`), and what comes back is one, unless a line ended in more
  carriage returns than the reader drops (`Document.tidy_normal`).
* `Document.Settled` is a note that comes back as it is, and `Document.roundTrip_stable` the main
  result.
-/

namespace NoteDesk

/-! ## Stripping -/

namespace Text

section Strip

variable {α : Type} {p : α → Bool}

theorem strip_prefix_dropWhile (s : List α) : strip p s <+: s.dropWhile p :=
  List.rdropWhile_prefix p _

theorem mem_of_mem_strip {s : List α} {x : α} (h : x ∈ strip p s) : x ∈ s :=
  (List.dropWhile_sublist p).subset ((strip_prefix_dropWhile s).subset h)

theorem head?_strip {s : List α} {x : α} (h : x ∈ (strip p s).head?) : p x = false := by
  obtain ⟨rest, begins⟩ := List.head?_eq_some_iff.1 h
  obtain ⟨tail, parts⟩ := strip_prefix_dropWhile (p := p) s
  have first := List.head?_dropWhile_not p s
  rw [← parts, begins] at first
  exact first

theorem getLast?_strip {s : List α} {x : α} (h : x ∈ (strip p s).getLast?) : p x = false := by
  obtain ⟨ne, rfl⟩ := List.mem_getLast?_eq_getLast h
  exact Bool.eq_false_iff.2 (List.rdropWhile_last_not p _ ne)

theorem strip_of_ends {s : List α} (first : ∀ x ∈ s.head?, p x = false)
    (last : ∀ x ∈ s.getLast?, p x = false) : strip p s = s := by
  have begins : s.dropWhile p = s := by
    cases s with
    | nil => rfl
    | cons x s => exact List.dropWhile_cons_of_neg (by simp [first x rfl])
  have ends : s.rdropWhile p = s := List.rdropWhile_eq_self_iff.2 fun ne => by
    simp [last _ (List.getLast?_eq_some_getLast ne)]
  rw [strip, begins]
  exact ends

theorem strip_strip (s : List α) : strip p (strip p s) = strip p s :=
  strip_of_ends (fun _ => head?_strip) (fun _ => getLast?_strip)

end Strip

theorem notMem_trimmed {c : Char} {s : String} (h : c ∉ s.toList) : c ∉ (trimmed s).toList := by
  rw [trimmed, String.toList_ofList]
  exact fun mem => h (mem_of_mem_strip mem)

theorem trimmed_trimmed (s : String) : trimmed (trimmed s) = trimmed s := by
  rw [trimmed, trimmed, String.toList_ofList, trim, trim, strip_strip]

end Text

/-! ## Lines -/

namespace Line

theorem trimReturn_concat (line : List Char) : trimReturn (line ++ ['\r']) = line :=
  dropOneEnd_concat_self '\r' line

theorem trimReturn_of_getLast?_ne {line : List Char} (h : line.getLast? ≠ some '\r') :
    trimReturn line = line :=
  dropOneEnd_of_getLast?_ne h

/-- What still ends in a carriage return had one more. -/
theorem eq_concat_of_trimReturn {line rest : List Char} (h : trimReturn line = rest ++ ['\r']) :
    line = rest ++ ['\r', '\r'] := by
  by_cases ends : line.getLast? = some '\r'
  · obtain ⟨line, rfl⟩ := List.getLast?_eq_some_iff.1 ends
    rw [trimReturn_concat] at h
    simp [h]
  · rw [trimReturn_of_getLast?_ne ends] at h
    exact absurd (h ▸ List.getLast?_concat) ends

end Line

/-! ## Contents -/

@[simp] theorem Note.withContent_content (n : Note) (raw : Bool) :
    n.withContent raw (n.content raw) = n := by
  cases raw <;> rfl

namespace Document

/-- The content has nothing for the reader of a document to drop. -/
structure Tidy (s : List Char) : Prop where
  first : s.head? ≠ some '\n'
  last : s.getLast? ≠ some '\n'
  lines : ∀ line ∈ s.splitOn '\n', line.getLast? ≠ some '\r'

/-- No line ends in three or more carriage returns. -/
def FewReturns (s : List Char) : Prop :=
  ∀ line ∈ s.splitOn '\n', ¬ ['\r', '\r', '\r'] <:+ line

instance (s : List Char) : Decidable (FewReturns s) :=
  inferInstanceAs (Decidable (∀ line ∈ s.splitOn '\n', ¬ ['\r', '\r', '\r'] <:+ line))

theorem getLast?_trimReturns_ne {line : List Char} (few : ¬ ['\r', '\r', '\r'] <:+ line) :
    (trimReturns line).getLast? ≠ some '\r' := by
  intro ends
  obtain ⟨rest, once⟩ := List.getLast?_eq_some_iff.1 ends
  have twice : Line.trimReturn line = (rest ++ ['\r']) ++ ['\r'] := by
    rw [Line.eq_concat_of_trimReturn once, List.append_assoc]
    rfl
  exact few ⟨rest, by rw [Line.eq_concat_of_trimReturn twice, List.append_assoc]; rfl⟩

theorem trimReturns_of_getLast?_ne {line : List Char} (h : line.getLast? ≠ some '\r') :
    trimReturns line = line := by
  rw [trimReturns, Line.trimReturn_of_getLast?_ne h, Line.trimReturn_of_getLast?_ne h]

theorem tidy_normal {s : List Char} (few : FewReturns s) : Tidy (normal s) where
  first h := by simpa using Text.head?_strip h
  last h := by simpa using Text.getLast?_strip h
  lines line hline := by
    by_cases ne : line = []
    · simp [ne]
    have kept : line ∈ held (normal s) := List.mem_filter.2 ⟨hline, by simpa using ne⟩
    rw [held_normal] at kept
    obtain ⟨raw, hraw, rfl⟩ := List.mem_map.1 (List.mem_of_mem_filter kept)
    exact getLast?_trimReturns_ne (few raw hraw)

theorem normal_of_tidy {s : List Char} (h : Tidy s) : normal s = s := by
  have same : (s.splitOn '\n').map trimReturns = s.splitOn '\n' := by
    rw [List.map_congr_left fun line hline => trimReturns_of_getLast?_ne (h.lines line hline),
      List.map_id']
  change trimFeeds (['\n'].intercalate ((s.splitOn '\n').map trimReturns)) = s
  rw [same, List.intercalate_splitOn]
  exact Text.strip_of_ends (fun c hc => beq_false_of_ne fun feed => h.first (feed ▸ hc))
    (fun c hc => beq_false_of_ne fun feed => h.last (feed ▸ hc))

/-! ## Notes -/

/-- The note comes back from its own document as it is. -/
structure Settled (n : Note) (m : EditMode) : Prop where
  title : Text.trimmed n.title = n.title
  notebook : Text.trimmed n.notebookName = "" ∨ Text.trimmed n.notebookName = n.notebookName
  content : Tidy (n.content m.raw).toList

variable {n : Note} {m : EditMode} (ht : '\n' ∉ n.title.toList)
  (hn : '\n' ∉ n.notebookName.toList)
include ht hn

theorem Settled.roundTrip (h : Settled n m) : Document.roundTrip n m = .ok n := by
  have same : Header.rename n (Text.trim n.notebookName.toList) = n := by
    rw [Header.rename, if_pos ((Text.trim_isEmpty_or_iff _ _).2 h.notebook)]
  have title : { n with title := Text.trimmed n.title } = n := by rw [h.title]
  rw [roundTrip_eq ht hn, title, same, normal_of_tidy h.content, String.ofList_toList,
    Note.withContent_content]

omit ht hn in
theorem TakesOver.notebook_cases {after : Note} (h : TakesOver n n after m) :
    (after.notebook = n.notebook ∧
        (Text.trimmed n.notebookName = "" ∨ Text.trimmed n.notebookName = n.notebookName)) ∨
      after.notebook = some (.named (Text.trimmed n.notebookName)) := by
  have notebook := h.notebook
  split_ifs at notebook with own
  · exact .inl ⟨notebook, own⟩
  · exact .inr notebook

omit ht hn in
/-- **What comes back settles.** -/
theorem TakesOver.settled {after : Note} (h : TakesOver n n after m)
    (few : FewReturns (n.content m.raw).toList) : Settled after m where
  title := by rw [h.title, Text.trimmed_trimmed]
  notebook := by
    rcases h.notebook_cases with ⟨own, same⟩ | named
    · rwa [Note.notebookName, own]
    · rw [Note.notebookName, named]
      exact .inr (Text.trimmed_trimmed _)
  content := by
    rw [h.content, String.toList_ofList, normal_withLastFeed]
    exact tidy_normal few

omit ht in
theorem TakesOver.notMem_notebookName {after : Note} (h : TakesOver n n after m) :
    '\n' ∉ after.notebookName.toList := by
  rcases h.notebook_cases with ⟨own, -⟩ | named
  · rwa [Note.notebookName, own]
  · rw [Note.notebookName, named]
    exact Text.notMem_trimmed hn

/-- **Round trips settle.** A note whose title and notebook name are single lines and whose content
has no line with more carriage returns at its end than the reader drops comes back from its own
document, and the note that came back comes back as it is: its title is trimmed, its content begins
and ends with no line feed and has no line that ends in a carriage return, and its notebook is the
note's own or the trimmed name of it. -/
theorem roundTrip_stable (few : FewReturns (n.content m.raw).toList) :
    ∃ after, Document.roundTrip n m = .ok after ∧ Document.roundTrip after m = .ok after ∧
      TakesOver n n after m ∧ Settled after m ∧
      (after.notebook = n.notebook ∨
        after.notebook = some (.named (Text.trimmed n.notebookName))) := by
  obtain ⟨after, parsed, takesOver⟩ := parse_render_takesOver ht hn n m
  have settled := takesOver.settled few
  have title : '\n' ∉ after.title.toList := by
    rw [takesOver.title]
    exact Text.notMem_trimmed ht
  refine ⟨after, ?_, settled.roundTrip title (takesOver.notMem_notebookName hn), takesOver, settled,
    takesOver.notebook_cases.imp_left And.left⟩
  rw [Document.roundTrip, parsed]
  rfl

omit ht hn

/-- A note with blanks around its title and the name of its notebook, and a content with line feeds
at both ends and lines that end in carriage returns, one of them only in these. -/
def frayed : Note where
  guid := "n"
  title := " Groceries\r"
  body := "\r\r\n\n---\r\nmilk\r\r\n\r\r"
  notebook := some (.resolved ⟨"b", "\tHome ", "", false⟩)

theorem roundTrip_stable_frayed :
    '\n' ∉ frayed.title.toList ∧ '\n' ∉ frayed.notebookName.toList ∧
      FewReturns (frayed.content true).toList ∧
      ∃ after, Document.roundTrip frayed { raw := true } = .ok after ∧
        Document.roundTrip after { raw := true } = .ok after ∧
        after.title = "Groceries" ∧ after.body = "---\nmilk" ∧
        after.notebook = some (.named "Home") := by
  have title : '\n' ∉ frayed.title.toList := by decide
  have name : '\n' ∉ frayed.notebookName.toList := by decide
  have few : FewReturns (frayed.content true).toList := by decide
  obtain ⟨after, once, again, takesOver, -, -⟩ :=
    roundTrip_stable (m := { raw := true }) title name few
  refine ⟨title, name, few, after, once, again, ?_, ?_, ?_⟩
  · exact takesOver.title.trans (by decide)
  · exact takesOver.content.trans (by decide +kernel)
  · exact takesOver.notebook.trans (by decide)

end Document
end NoteDesk
