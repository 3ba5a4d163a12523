import Mathlib.Data.List.Destutter
import NoteDesk.Proofs.Document
import NoteDesk.Proofs.Draft

/-!
# Tidied text

`Markup.tidy` leaves one blank line of several, and no blanks around a text.

* `Markup.limitFeeds_eq_self_iff`: a text is left as it is if no three line feeds follow each other.
* `Markup.tidy_append_of_allBlank` and `Markup.tidy_append_allBlank`: blanks at either end do not
  matter.
* `Markup.tidy_lines`: lines are kept, but for empty lines after an empty one
  (`Markup.oneBlank`).
* `Markup.Solid` is a text with no blanks at its ends. Around it, a text is tidied on both sides
  apart (`Markup.Solid.limitFeeds_append`, `Markup.Solid.tidy_append`).
* `Markup.tidy_blockBreak`: a block break is as good as two line feeds.
-/

namespace NoteDesk

/-! ## Trimming blanks -/

namespace Text

theorem allBlank_of_sublist {s t : List Char} (h : s.Sublist t) (blank : allBlank t) :
    allBlank s := by
  rw [allBlank, List.all_eq_true] at blank ⊢
  exact fun c hc => blank c (h.subset hc)

theorem dropWhile_append_cons {c : Char} (h : isBlank c = false) (s t : List Char) :
    (s ++ c :: t).dropWhile isBlank = s.dropWhile isBlank ++ c :: t := by
  rw [List.dropWhile_append]
  split_ifs with blank
  · rw [List.isEmpty_iff.1 blank, List.dropWhile_cons_of_neg (by simp [h]), List.nil_append]
  · rfl

theorem trim_append_allBlank {t : List Char} (h : allBlank t) (s : List Char) :
    trim (s ++ t) = trim s := by
  induction t using List.reverseRecOn with
  | nil => rw [List.append_nil]
  | append_singleton t c ih =>
    rw [allBlank, List.all_append, Bool.and_eq_true] at h
    have blank : isBlank c := by simpa using h.2
    rw [← List.append_assoc, trim, strip_concat blank, ← trim, ih h.1]

end Text

namespace Markup

/-! ## Line feeds in a row -/

theorem limitFeeds_cons_of_ne {c : Char} (h : c ≠ '\n') (n : Nat) (s : List Char) :
    limitFeeds n (c :: s) = c :: limitFeeds 0 s := by
  rw [limitFeeds, if_neg h]

theorem limitFeeds_feed_cons (n : Nat) (s : List Char) :
    limitFeeds n ('\n' :: s) = if n < 2 then '\n' :: limitFeeds (n + 1) s else limitFeeds n s := by
  rw [limitFeeds, if_pos rfl]

theorem limitFeeds_sublist (n : Nat) (s : List Char) : (limitFeeds n s).Sublist s := by
  induction s generalizing n with
  | nil => exact .slnil
  | cons c s ih =>
    by_cases hc : c = '\n'
    · subst hc
      rw [limitFeeds_feed_cons]
      split_ifs
      · exact (ih _).cons_cons _
      · exact (ih _).cons _
    · rw [limitFeeds_cons_of_ne hc]
      exact (ih _).cons_cons _

theorem limitFeeds_ne_nil {s : List Char} (h : s ≠ []) : limitFeeds 0 s ≠ [] := by
  cases s with
  | nil => exact absurd rfl h
  | cons c s =>
    by_cases hc : c = '\n'
    · rw [hc, limitFeeds_feed_cons]
      exact List.cons_ne_nil _ _
    · rw [limitFeeds_cons_of_ne hc]
      exact List.cons_ne_nil _ _

/-- Between two characters of which the second is no line feed, a text can be cut. -/
theorem limitFeeds_append_cons {c : Char} (h : c ≠ '\n') (n : Nat) (s t : List Char) :
    limitFeeds n (s ++ c :: t) = limitFeeds n s ++ c :: limitFeeds 0 t := by
  induction s generalizing n with
  | nil => exact limitFeeds_cons_of_ne h n t
  | cons d s ih =>
    by_cases hd : d = '\n'
    · subst hd
      rw [List.cons_append, limitFeeds_feed_cons, limitFeeds_feed_cons, ih, ih]
      split_ifs <;> rfl
    · rw [List.cons_append, limitFeeds_cons_of_ne hd, limitFeeds_cons_of_ne hd, ih,
        List.cons_append]

/-- What comes first does not matter to how an ending can be written otherwise. -/
theorem limitFeeds_congr {t t' : List Char} (h : ∀ n, limitFeeds n t = limitFeeds n t')
    (n : Nat) (s : List Char) : limitFeeds n (s ++ t) = limitFeeds n (s ++ t') := by
  induction s generalizing n with
  | nil => exact h n
  | cons c s ih =>
    by_cases hc : c = '\n'
    · subst hc
      rw [List.cons_append, List.cons_append, limitFeeds_feed_cons, limitFeeds_feed_cons, ih, ih]
    · rw [List.cons_append, List.cons_append, limitFeeds_cons_of_ne hc, limitFeeds_cons_of_ne hc,
        ih]

/-- A third line feed is dropped. -/
theorem limitFeeds_third (n : Nat) (s : List Char) :
    limitFeeds n ('\n' :: '\n' :: '\n' :: s) = limitFeeds n ('\n' :: '\n' :: s) := by
  simp only [limitFeeds_feed_cons]
  split_ifs <;> first | rfl | omega

/-- Three line feeds in a row. -/
def threeFeeds : List Char :=
  ['\n', '\n', '\n']

/-- A text with up to two line feeds before it is left as it is unless three of them follow each
other. -/
theorem limitFeeds_eq_self_iff_replicate {n : Nat} (hn : n ≤ 2) (s : List Char) :
    limitFeeds n s = s ↔ ¬threeFeeds <:+: List.replicate n '\n' ++ s := by
  induction s generalizing n with
  | nil =>
    refine iff_of_true rfl fun inside => ?_
    have long := inside.length_le
    rw [List.append_nil, List.length_replicate] at long
    exact absurd (long.trans hn) (by decide)
  | cons c s ih =>
    by_cases hc : c = '\n'
    · subst hc
      rw [limitFeeds_feed_cons]
      split_ifs with room
      · rw [List.cons.injEq, and_iff_right rfl, ih (by omega), List.replicate_succ',
          List.append_assoc, List.singleton_append]
      · obtain rfl : n = 2 := by omega
        refine iff_of_false (fun same => ?_) (not_not.2 ⟨[], s, rfl⟩)
        have short := (limitFeeds_sublist 2 s).length_le
        rw [same, List.length_cons] at short
        omega
    · have apart : threeFeeds <:+: List.replicate n '\n' ++ c :: s ↔ threeFeeds <:+: s := by
        have hc' : '\n' ≠ c := Ne.symm hc
        obtain rfl | rfl | rfl : n = 0 ∨ n = 1 ∨ n = 2 := by omega
        all_goals simp [threeFeeds, List.infix_cons_iff, List.replicate, hc']
      rw [limitFeeds_cons_of_ne hc, List.cons.injEq, and_iff_right rfl, ih (Nat.zero_le 2), apart]
      rfl

theorem limitFeeds_eq_self_iff (s : List Char) :
    limitFeeds 0 s = s ↔ ¬threeFeeds <:+: s :=
  limitFeeds_eq_self_iff_replicate (Nat.zero_le 2) s

/-! ## Blanks at the ends -/

/-- Line feeds before a text make no difference to what it is trimmed to. -/
theorem trim_limitFeeds (n : Nat) (s : List Char) :
    Text.trim (limitFeeds n s) = tidy s := by
  rw [tidy]
  induction s generalizing n with
  | nil => rfl
  | cons c s ih =>
    by_cases hc : c = '\n'
    · subst hc
      have skip (t : List Char) : Text.trim ('\n' :: t) = Text.trim t := Text.strip_cons rfl t
      have first : limitFeeds 0 ('\n' :: s) = '\n' :: limitFeeds 1 s := rfl
      rw [first, skip, ih 1, limitFeeds_feed_cons]
      split_ifs
      · rw [skip, ih]
      · exact ih n
    · rw [limitFeeds_cons_of_ne hc, limitFeeds_cons_of_ne hc]

theorem tidy_append_of_allBlank {s : List Char} (h : Text.allBlank s) (t : List Char) :
    tidy (s ++ t) = tidy t := by
  induction s with
  | nil => rfl
  | cons c s ih =>
    rw [Text.allBlank, List.all_cons, Bool.and_eq_true] at h
    rw [List.cons_append, ← ih h.2]
    by_cases hc : c = '\n'
    · subst hc
      rw [tidy, limitFeeds_feed_cons, if_pos (by decide), Text.trim, Text.strip_cons rfl,
        ← Text.trim, trim_limitFeeds]
    · rw [tidy, limitFeeds_cons_of_ne hc, Text.trim, Text.strip_cons h.1, ← Text.trim, ← tidy]

theorem exists_limitFeeds_append (n : Nat) (s t : List Char) :
    ∃ m, limitFeeds n (s ++ t) = limitFeeds n s ++ limitFeeds m t := by
  induction s generalizing n with
  | nil => exact ⟨n, rfl⟩
  | cons c s ih =>
    by_cases hc : c = '\n'
    · subst hc
      rw [List.cons_append, limitFeeds_feed_cons, limitFeeds_feed_cons]
      split_ifs
      · obtain ⟨m, same⟩ := ih (n + 1)
        exact ⟨m, by rw [same, List.cons_append]⟩
      · exact ih n
    · obtain ⟨m, same⟩ := ih 0
      exact ⟨m, by rw [List.cons_append, limitFeeds_cons_of_ne hc, limitFeeds_cons_of_ne hc, same,
        List.cons_append]⟩

theorem tidy_append_allBlank {t : List Char} (h : Text.allBlank t) (s : List Char) :
    tidy (s ++ t) = tidy s := by
  obtain ⟨m, same⟩ := exists_limitFeeds_append 0 s t
  rw [tidy, same, Text.trim_append_allBlank (Text.allBlank_of_sublist (limitFeeds_sublist m t) h),
    ← tidy]

theorem flatMap_append_eq (gap first : List Char) (rest : List (List Char)) :
    (first :: rest).flatMap (· ++ gap) = gap.intercalate (first :: rest) ++ gap := by
  induction rest generalizing first with
  | nil => simp
  | cons next rest ih =>
    rw [List.flatMap_cons, ih, List.intercalate_cons_cons, List.append_assoc, List.append_assoc,
      List.append_assoc]

/-- Blanks after every part of a text are as good as blanks between them. -/
theorem trim_flatMap_append {gap : List Char} (h : Text.allBlank gap) (parts : List (List Char)) :
    Text.trim (parts.flatMap (· ++ gap)) = Text.trim (gap.intercalate parts) := by
  cases parts with
  | nil => rfl
  | cons first rest => rw [flatMap_append_eq, Text.trim_append_allBlank h]

theorem tidy_flatMap_append {gap : List Char} (h : Text.allBlank gap) (parts : List (List Char)) :
    tidy (parts.flatMap (· ++ gap)) = tidy (gap.intercalate parts) := by
  cases parts with
  | nil => rfl
  | cons first rest => rw [flatMap_append_eq, tidy_append_allBlank h]

/-- **A block break is as good as two line feeds**, whatever follows it. -/
theorem tidy_blockBreak (d : Draft) (s : List Char) :
    tidy (d.blockBreak.out ++ s) = tidy (d.out ++ '\n' :: '\n' :: s) := by
  rw [Draft.blockBreak]
  split_ifs with settled ended
  · rcases (by simpa [Draft.endsWith] using settled : d.out = [] ∨ ['\n', '\n'] <:+ d.out) with
      empty | ⟨front, whole⟩
    · rw [empty]
      exact (@tidy_append_of_allBlank ['\n', '\n'] rfl s).symm
    · rw [← whole, List.append_assoc, List.append_assoc, tidy, tidy]
      refine congrArg Text.trim (limitFeeds_congr (fun n => ?_) 0 front)
      simp only [List.cons_append, List.nil_append, limitFeeds_third]
  · obtain ⟨front, whole⟩ : ['\n'] <:+ d.out := List.isSuffixOf_iff_suffix.1 ended
    rw [Draft.write, ← whole]
    simp only [List.append_assoc, List.cons_append, List.nil_append, tidy]
    refine congrArg Text.trim (limitFeeds_congr (fun n => ?_) 0 front)
    rw [limitFeeds_third]
  · rw [Draft.write, List.append_assoc]
    rfl

theorem tidy_out_blockBreak (d : Draft) : tidy d.blockBreak.out = tidy d.out := by
  have read := tidy_blockBreak d []
  rwa [List.append_nil, @tidy_append_allBlank ['\n', '\n'] rfl d.out] at read

/-- At the start, layout does not matter. -/
theorem tidy_content_append (s t : List Char) : tidy (content s ++ t) = tidy (s ++ t) := by
  rw [content]
  split_ifs with layout
  · rw [isLayout, Bool.and_eq_true] at layout
    rw [List.nil_append, tidy_append_of_allBlank layout.1]
  · rfl

/-! ## Blank lines -/

/-- Lines of which not both are empty. -/
def NotBothEmpty (line next : List Char) : Prop :=
  line ≠ [] ∨ next ≠ []

instance : DecidableRel NotBothEmpty := fun _ _ => inferInstanceAs (Decidable (_ ∨ _))

/-- The lines with one empty line for each run of them. -/
def oneBlank (lines : List (List Char)) : List (List Char) :=
  lines.destutter NotBothEmpty

theorem limitFeeds_line {line : List Char} (filled : line ≠ []) (h : '\n' ∉ line) (n : Nat)
    (rest : List Char) :
    limitFeeds n (line ++ '\n' :: rest) = line ++ '\n' :: limitFeeds 1 rest := by
  induction line generalizing n with
  | nil => exact absurd rfl filled
  | cons c line ih =>
    rw [List.mem_cons, not_or] at h
    rw [List.cons_append, limitFeeds_cons_of_ne (Ne.symm h.1)]
    cases line with
    | nil => rfl
    | cons c' line => exact congrArg (c :: ·) (ih (List.cons_ne_nil _ _) h.2 0)

/-- After an empty line no other is left, and after any other line one is. -/
theorem limitFeeds_destutter {line : List Char} {lines : List (List Char)}
    (h : ∀ l ∈ lines, '\n' ∉ l) :
    line ++ '\n' :: limitFeeds (if line = [] then 2 else 1) (lines.flatMap (· ++ ['\n'])) =
      (lines.destutter' NotBothEmpty line).flatMap (· ++ ['\n']) := by
  induction lines generalizing line with
  | nil => simp [limitFeeds]
  | cons next lines ih =>
    have later : ∀ l ∈ lines, '\n' ∉ l := fun l hl => h l (List.mem_cons_of_mem _ hl)
    rw [List.flatMap_cons, List.append_assoc, List.singleton_append, List.destutter']
    by_cases empty : next = []
    · subst empty
      by_cases before : line = []
      · subst before
        have dropped := @ih [] later
        rw [if_pos rfl] at dropped ⊢
        rw [if_neg (by simp [NotBothEmpty]), ← dropped]
        rfl
      · have kept := @ih [] later
        rw [if_pos rfl] at kept
        rw [if_neg before, if_pos (.inl before), List.flatMap_cons, ← kept]
        simp [limitFeeds]
    · have kept := @ih next later
      rw [if_neg empty] at kept
      rw [limitFeeds_line empty (h next List.mem_cons_self), if_pos (.inr empty),
        List.flatMap_cons, ← kept, List.append_assoc, List.singleton_append]

/-- **Of several blank lines one is left, and all others stay.** -/
theorem tidy_lines {lines : List (List Char)} (h : ∀ line ∈ lines, '\n' ∉ line) :
    tidy (['\n'].intercalate lines) = Text.trim (['\n'].intercalate (oneBlank lines)) := by
  cases lines with
  | nil => rfl
  | cons line lines =>
    have later : ∀ l ∈ lines, '\n' ∉ l := fun l hl => h l (List.mem_cons_of_mem _ hl)
    have limited : limitFeeds 1 ((line :: lines).flatMap (· ++ ['\n'])) =
        (oneBlank (line :: lines)).flatMap (· ++ ['\n']) := by
      rw [oneBlank, List.destutter, ← limitFeeds_destutter later, List.flatMap_cons,
        List.append_assoc, List.singleton_append]
      by_cases empty : line = []
      · subst empty
        rfl
      · rw [if_neg empty, limitFeeds_line empty (h line List.mem_cons_self)]
    rw [← tidy_flatMap_append rfl, ← trim_flatMap_append rfl, ← limited, trim_limitFeeds]

/-! ## Solid text -/

/-- The text begins and ends with characters that are not blank. -/
structure Solid (s : List Char) : Prop where
  first : ∃ c rest, s = c :: rest ∧ Text.isBlank c = false
  last : ∃ front c, s = front ++ [c] ∧ Text.isBlank c = false

theorem ne_feed_of_not_isBlank {c : Char} (h : Text.isBlank c = false) : c ≠ '\n' := by
  rintro rfl
  cases h

/-- A text as it is tidied after a solid one. -/
def ending (s : List Char) : List Char :=
  Text.dropEndWhile Text.isBlank (limitFeeds 0 s)

theorem ending_of_allBlank {s : List Char} (h : Text.allBlank s) : ending s = [] := by
  have blank := Text.allBlank_of_sublist (limitFeeds_sublist 0 s) h
  rw [Text.allBlank, List.all_eq_true] at blank
  rw [ending, Text.dropEndWhile, List.dropWhile_eq_nil_iff.2, List.reverse_nil]
  exact fun c hc => blank c (List.mem_reverse.1 hc)

theorem ending_content (s : List Char) : ending (content s) = ending s := by
  rw [content]
  split_ifs with layout
  · rw [isLayout, Bool.and_eq_true] at layout
    exact (ending_of_allBlank layout.1).symm
  · rfl

namespace Solid

variable {m : List Char}

theorem append_append {m' : List Char} (h : Solid m) (h' : Solid m') (s : List Char) :
    Solid (m ++ (s ++ m')) where
  first := by
    obtain ⟨c, rest, rfl, hc⟩ := h.first
    exact ⟨c, _, rfl, hc⟩
  last := by
    obtain ⟨front, c, rfl, hc⟩ := h'.last
    exact ⟨m ++ (s ++ front), c, by simp, hc⟩

/-- **Around solid text, line feeds are counted on both sides apart.** -/
theorem limitFeeds_append (h : Solid m) (n : Nat) (s t : List Char) :
    limitFeeds n (s ++ (m ++ t)) = limitFeeds n s ++ (limitFeeds 0 m ++ limitFeeds 0 t) := by
  obtain ⟨⟨c, rest, starts, hc⟩, ⟨front, d, ends, hd⟩⟩ := h
  have after : limitFeeds 0 (m ++ t) = limitFeeds 0 m ++ limitFeeds 0 t := by
    rw [ends, List.append_assoc, List.singleton_append,
      limitFeeds_append_cons (ne_feed_of_not_isBlank hd),
      limitFeeds_append_cons (ne_feed_of_not_isBlank hd)]
    simp [limitFeeds]
  rw [← after, starts, List.cons_append, limitFeeds_append_cons (ne_feed_of_not_isBlank hc),
    limitFeeds_cons_of_ne (ne_feed_of_not_isBlank hc)]

theorem limitFeeds (h : Solid m) : Solid (limitFeeds 0 m) where
  first := by
    obtain ⟨c, rest, rfl, hc⟩ := h.first
    exact ⟨c, _, limitFeeds_cons_of_ne (ne_feed_of_not_isBlank hc) 0 rest, hc⟩
  last := by
    obtain ⟨front, d, rfl, hd⟩ := h.last
    exact ⟨_, d, limitFeeds_append_cons (ne_feed_of_not_isBlank hd) 0 front [], hd⟩

theorem dropWhile_append (h : Solid m) (s t : List Char) :
    (s ++ (m ++ t)).dropWhile Text.isBlank = s.dropWhile Text.isBlank ++ (m ++ t) := by
  obtain ⟨c, rest, rfl, hc⟩ := h.first
  exact Text.dropWhile_append_cons hc s (rest ++ t)

theorem dropEndWhile_append (h : Solid m) (s t : List Char) :
    Text.dropEndWhile Text.isBlank (s ++ (m ++ t)) =
      s ++ (m ++ Text.dropEndWhile Text.isBlank t) := by
  obtain ⟨front, d, rfl, hd⟩ := h.last
  have backwards : (s ++ (front ++ [d] ++ t)).reverse =
      t.reverse ++ d :: (front.reverse ++ s.reverse) := by
    simp
  rw [Text.dropEndWhile, backwards, Text.dropWhile_append_cons hd, Text.dropEndWhile]
  simp

/-- **Around solid text, a text is tidied on both sides apart.** -/
theorem tidy_append (h : Solid m) (s t : List Char) :
    tidy (s ++ (m ++ t)) =
      (Markup.limitFeeds 0 s).dropWhile Text.isBlank ++ (Markup.limitFeeds 0 m ++ ending t) := by
  rw [tidy, h.limitFeeds_append, Text.trim, Text.strip, h.limitFeeds.dropWhile_append,
    h.limitFeeds.dropEndWhile_append, ending]

theorem ending_append (h : Solid m) (s t : List Char) :
    ending (s ++ (m ++ t)) =
      Markup.limitFeeds 0 s ++ (Markup.limitFeeds 0 m ++ ending t) := by
  rw [ending, h.limitFeeds_append, h.limitFeeds.dropEndWhile_append, ending]

theorem tidy_eq (h : Solid m) : tidy m = Markup.limitFeeds 0 m := by
  have apart := h.tidy_append [] []
  rwa [List.nil_append, List.append_nil, show ending [] = [] from rfl, List.append_nil] at apart

end Solid

end Markup
end NoteDesk
