import NoteDesk.Proofs.Document

/-!
# Line endings

An editor may end lines with a carriage return and a line feed, or only some of them.

* `Line.Returned` relates a text to what becomes of it if carriage returns are put before some of
  its line feeds. `Line.Returned.ofText_append`: the lines stay the same.
* `Document.parse_returned`: such a document makes of a note what the text itself makes of it.
-/

namespace NoteDesk

/-! ## Lines -/

namespace Line

/-- The second text is the first with a carriage return put before some of its line feeds, or
before all, or none. -/
inductive Returned : List Char → List Char → Prop where
  | nil : Returned [] []
  | kept (c : Char) {s s' : List Char} (rest : Returned s s') : Returned (c :: s) (c :: s')
  | put {s s' : List Char} (rest : Returned s s') : Returned ('\n' :: s) ('\r' :: '\n' :: s')

theorem trimReturn_of_notMem {line : List Char} (h : '\r' ∉ line) : trimReturn line = line :=
  dropOneEnd_of_getLast?_ne fun last => h (List.mem_of_getLast? last)

/-- **The lines stay the same.** What was read of the first line so far, `line`, stands before both
texts. -/
theorem Returned.ofText_append {s s' line : List Char} (h : Returned s s') (feed : '\n' ∉ line)
    (ret : '\r' ∉ line) (plain : '\r' ∉ s) : ofText (line ++ s') = ofText (line ++ s) := by
  induction h generalizing line with
  | nil => rfl
  | @kept c s s' _ ih =>
    have plainRest : '\r' ∉ s := List.not_mem_of_not_mem_cons plain
    by_cases hc : c = '\n'
    · subst hc
      have rest : ofText s' = ofText s := ih (List.not_mem_nil) (List.not_mem_nil) plainRest
      rw [ofText_append_cons feed, ofText_append_cons feed, rest]
    · have hret : c ≠ '\r' := fun e => plain (e ▸ List.mem_cons_self)
      have longer : ofText (line ++ [c] ++ s') = ofText (line ++ [c] ++ s) :=
        ih (by simp [feed, Ne.symm hc]) (by simp [ret, Ne.symm hret]) plainRest
      rwa [List.append_assoc, List.append_assoc] at longer
  | @put s s' _ ih =>
    have rest : ofText s' = ofText s :=
      ih (List.not_mem_nil) (List.not_mem_nil) (List.not_mem_of_not_mem_cons plain)
    have ends : line ++ '\r' :: '\n' :: s' = (line ++ ['\r']) ++ '\n' :: s' := by simp
    rw [ends, ofText_append_cons (by simp [feed]), ofText_append_cons feed, rest, trimReturn,
      dropOneEnd_concat_self, trimReturn_of_notMem ret]

end Line

/-! ## Documents -/

namespace Document

/-- **Line endings do not matter.** A text without carriage returns, and the same text with
carriage returns before some of its line feeds, give the same result and the same note, whatever the
note that they are read into. -/
theorem parse_returned {text returned : String} (plain : '\r' ∉ text.toList)
    (h : Line.Returned text.toList returned.toList) (n : Note) (m : EditMode) :
    parse (Utf8.ofString returned) n m = parse (Utf8.ofString text) n m := by
  have lines : Line.ofText returned.toList = Line.ofText text.toList :=
    h.ofText_append List.not_mem_nil List.not_mem_nil plain
  rw [Utf8.ofString, Utf8.ofString, parse, parse, Line.ofBytes_encode, Line.ofBytes_encode, lines]

/-- A note in a notebook that the service knows. -/
def shelved : Note := { notebook := some (.resolved ⟨"b", "Home", "", false⟩) }

/-- A document in which some lines end in a carriage return and a line feed, and one does not. -/
theorem parse_returned_mixed :
    '\r' ∉ "---\nnotebook: Home\n---\n\na\n".toList ∧
      Line.Returned "---\nnotebook: Home\n---\n\na\n".toList
        "---\r\nnotebook: Home\n---\r\n\r\na\r\n".toList ∧
      (parse (Utf8.ofString "---\r\nnotebook: Home\n---\r\n\r\na\r\n") shelved {}).note =
        { shelved with md := "a" } := by
  have plain : '\r' ∉ "---\nnotebook: Home\n---\n\na\n".toList := by decide
  have mixed : Line.Returned "---\nnotebook: Home\n---\n\na\n".toList
      "---\r\nnotebook: Home\n---\r\n\r\na\r\n".toList := by
    repeat constructor
  have read : (parse (Utf8.ofString "---\nnotebook: Home\n---\n\na\n") shelved {}).note =
      { shelved with md := "a" } := by decide +kernel
  exact ⟨plain, mixed, (congrArg Parsed.note (parse_returned plain mixed shelved {})).trans read⟩

end Document
end NoteDesk
