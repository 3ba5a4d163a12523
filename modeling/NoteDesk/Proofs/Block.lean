import NoteDesk.Proofs.Span
import NoteDesk.Proofs.Tidy

/-!
# Headings, paragraphs and lists

The markup of a list of blocks, each on lines of its own, is turned into their markdown with a blank
line between them.

* `Draft.readOn_block`: a block is written where no break is needed before it, and a break is made
  after it. `Draft.readOn_blocks` is a run over blocks.
* `toMarkdown_blocks` is the main result.
-/

namespace NoteDesk.Markup

/-- A heading of one of six levels, a paragraph, or a list with a line for each item. -/
inductive Block where
  | heading (level : Nat) (range : 1 ≤ level ∧ level ≤ 6) (inside : List Span)
  | paragraph (inside : List Span)
  | bullets (items : List (List Span))

/-- The tag of a heading. -/
def headingTag (level : Nat) : List Char :=
  ['h', Nat.digitChar level]

namespace Block

/-- The markup of an item, and of the end of its line. -/
def itemHtml (item : List Span) : List Char :=
  bracket "li".toList ++ (Span.htmlAll item ++ (close "li".toList ++ ['\n']))

/-- The markup of a block, and of the end of its last line. -/
def html : Block → List Char
  | heading level _ inside =>
    bracket (headingTag level) ++ (Span.htmlAll inside ++ (close (headingTag level) ++ ['\n']))
  | paragraph inside =>
    bracket "p".toList ++ (Span.htmlAll inside ++ (close "p".toList ++ ['\n']))
  | bullets items =>
    bracket "ul".toList ++ ('\n' :: (items.flatMap itemHtml ++ (close "ul".toList ++ ['\n'])))

def itemMarkdown (item : List Span) : List Char :=
  "- ".toList ++ Span.markdownAll item

def markdown : Block → List Char
  | heading level _ inside => List.replicate level '#' ++ ' ' :: Span.markdownAll inside
  | paragraph inside => Span.markdownAll inside
  | bullets items => ['\n'].intercalate (items.map itemMarkdown)

end Block

/-! ## Ends of lines -/

/-- Spans do not end in a line feed. -/
theorem Span.getLast?_markdownAll_ne (spans : List Span) :
    (markdownAll spans).getLast? ≠ some '\n' := by
  induction spans with
  | nil => exact nofun
  | cons x spans ih =>
    rw [markdownAll, List.getLast?_append]
    cases last : (markdownAll spans).getLast? with
    | some c => simpa [last] using ih
    | none =>
      cases x with
      | text t => exact fun feed => t.noFeed (List.mem_of_getLast? feed)
      | marked m inside =>
        rw [markdown, ← List.append_assoc, List.getLast?_append]
        cases m <;> exact fun feed => absurd (Option.some.inj feed) (by decide)
      | link target inside =>
        rw [markdown]
        simp only [← List.append_assoc, List.getLast?_append]
        exact fun feed => absurd (Option.some.inj feed) (by decide)

namespace Draft

variable {d : Draft} {total : Nat} {rest : List Char}

theorem not_atLine_itemMarkdown (d : Draft) (item : List Span) :
    ¬(d.write (Block.itemMarkdown item)).AtLine := by
  apply not_atLine_write d
  · exact List.append_ne_nil_of_left_ne_nil (by decide) _
  · rw [Block.itemMarkdown, List.getLast?_append]
    have unended := Span.getLast?_markdownAll_ne item
    cases last : (Span.markdownAll item).getLast? with
    | some c => simpa [last] using unended
    | none => exact fun feed => absurd (Option.some.inj feed) (by decide)

/-! ## Lists -/

/-- The draft after an item, on a line of its own. -/
def item (d : Draft) (i : List Span) : Draft :=
  d.lineBreak.write (Block.itemMarkdown i)

theorem foldl_item (d : Draft) (i : List Span) (items : List (List Span)) :
    (i :: items).foldl item d =
      d.lineBreak.write (['\n'].intercalate ((i :: items).map Block.itemMarkdown)) := by
  induction items generalizing d i with
  | nil => simp [item]
  | cons j items ih =>
    have joined : ['\n'].intercalate ((i :: j :: items).map Block.itemMarkdown) =
        Block.itemMarkdown i ++ ['\n'] ++
          ['\n'].intercalate ((j :: items).map Block.itemMarkdown) :=
      List.intercalate_cons_cons
    rw [List.foldl_cons, ih, item, lineBreak_of_not_atLine (not_atLine_itemMarkdown _ i),
      write_write, write_write, joined, List.append_assoc]

theorem AtLine.foldl_item (h : d.AtLine) (items : List (List Span)) :
    items.foldl item d = d.write (['\n'].intercalate (items.map Block.itemMarkdown)) := by
  cases items with
  | nil => exact (write_nil d).symm
  | cons i items => rw [Draft.foldl_item, h.lineBreak]

theorem took_item (d : Draft) : d.took "li".toList = d.lineBreak.write "- ".toList :=
  rfl

theorem took_close_item (d : Draft) : d.took ('/' :: "li".toList) = d :=
  rfl

theorem readOn_item (d : Draft) (i : List Span) (h : leading rest = []) :
    d.readOn total (Block.itemHtml i ++ rest) = (d.item i).readOn total rest := by
  have apart : '>' ∉ "li".toList := by decide
  have noFeed : '\n' ∉ leading (close "li".toList ++ ('\n' :: rest)) := List.not_mem_nil
  rw [Block.itemHtml, List.append_assoc, List.append_assoc, List.append_assoc,
    List.singleton_append, readOn_element apart apart fun d => readOn_spans d i noFeed, took_item,
    took_close_item, readOn_feed h, write_write, item, Block.itemMarkdown]

theorem readOn_items (d : Draft) (items : List (List Span)) (h : leading rest = []) :
    d.readOn total (items.flatMap Block.itemHtml ++ rest) =
      (items.foldl item d).readOn total rest := by
  induction items generalizing d with
  | nil => rfl
  | cons i items ih =>
    have next : leading (items.flatMap Block.itemHtml ++ rest) = [] := by
      cases items with
      | nil => exact h
      | cons j items => rfl
    rw [List.flatMap_cons, List.append_assoc, readOn_item d i next, ih, List.foldl_cons]

/-! ## Blocks -/

/-- The draft after a block. -/
def block (d : Draft) (b : Block) : Draft :=
  (d.write b.markdown).blockBreak

theorem took_heading (d : Draft) {level : Nat} (h : 1 ≤ level ∧ level ≤ 6) :
    d.took (headingTag level) = d.blockBreak.write (List.replicate level '#' ++ [' ']) ∧
      d.took ('/' :: headingTag level) = d.blockBreak := by
  obtain rfl | rfl | rfl | rfl | rfl | rfl :
      level = 1 ∨ level = 2 ∨ level = 3 ∨ level = 4 ∨ level = 5 ∨ level = 6 := by omega
  all_goals exact ⟨rfl, rfl⟩

theorem notMem_headingTag {level : Nat} (h : 1 ≤ level ∧ level ≤ 6) :
    '>' ∉ headingTag level := by
  obtain rfl | rfl | rfl | rfl | rfl | rfl :
      level = 1 ∨ level = 2 ∨ level = 3 ∨ level = 4 ∨ level = 5 ∨ level = 6 := by omega
  all_goals decide

theorem took_paragraph (d : Draft) : d.took "p".toList = d.blockBreak :=
  rfl

theorem took_close_paragraph (d : Draft) : d.took ('/' :: "p".toList) = d.blockBreak :=
  rfl

theorem took_bullets (d : Draft) : d.took "ul".toList = d.lineBreak :=
  rfl

theorem took_close_bullets (d : Draft) : d.took ('/' :: "ul".toList) = d.blockBreak :=
  rfl

/-- **A block is written as its markdown, and a break is made after it.** -/
theorem AtBlock.readOn_block (settled : d.AtBlock) (b : Block) (h : leading rest = []) :
    d.readOn total (b.html ++ rest) = (d.block b).readOn total rest := by
  cases b with
  | heading level range inside =>
    have apart := notMem_headingTag range
    have noFeed : '\n' ∉ leading (close (headingTag level) ++ ('\n' :: rest)) := List.not_mem_nil
    rw [Block.html, List.append_assoc, List.append_assoc, List.append_assoc,
      List.singleton_append, readOn_element apart apart fun d => readOn_spans d inside noFeed,
      (took_heading d range).1, settled.blockBreak, (took_heading _ range).2, readOn_feed h,
      write_write, block, Block.markdown, List.append_assoc, List.singleton_append]
  | paragraph inside =>
    have apart : '>' ∉ "p".toList := by decide
    have noFeed : '\n' ∉ leading (close "p".toList ++ ('\n' :: rest)) := List.not_mem_nil
    rw [Block.html, List.append_assoc, List.append_assoc, List.append_assoc,
      List.singleton_append, readOn_element apart apart fun d => readOn_spans d inside noFeed,
      took_paragraph, settled.blockBreak, took_close_paragraph, readOn_feed h, block,
      Block.markdown]
  | bullets items =>
    have apart : '>' ∉ "ul".toList := by decide
    have next : leading (items.flatMap Block.itemHtml ++
        (close "ul".toList ++ ('\n' :: rest))) = [] := by
      cases items <;> rfl
    have inside (d : Draft) :
        d.readOn total ('\n' :: items.flatMap Block.itemHtml ++
            (close "ul".toList ++ ('\n' :: rest))) =
          (items.foldl item d).readOn total (close "ul".toList ++ ('\n' :: rest)) := by
      rw [List.cons_append, readOn_feed next, readOn_items d items rfl]
    rw [Block.html, List.append_assoc, ← List.cons_append, List.append_assoc, List.append_assoc,
      List.singleton_append, readOn_element apart apart inside, took_bullets,
      settled.atLine.lineBreak, took_close_bullets, readOn_feed h, settled.atLine.foldl_item,
      block, Block.markdown]

/-- A run over blocks. -/
theorem AtBlock.readOn_blocks (settled : d.AtBlock) (blocks : List Block) :
    d.readOn total (blocks.flatMap Block.html) = .ok (blocks.foldl block d) := by
  induction blocks generalizing d with
  | nil => exact readOn_nil d total
  | cons b blocks ih =>
    have next : leading (blocks.flatMap Block.html) = [] := by
      cases blocks with
      | nil => rfl
      | cons b' blocks => cases b' <;> rfl
    have after : (d.block b).AtBlock := atBlock_blockBreak _
    rw [List.flatMap_cons, settled.readOn_block b next, ih after, List.foldl_cons]

/-- Tidied, a run over blocks leaves their markdown with two line feeds after each. -/
theorem tidy_foldl_block (d : Draft) (blocks : List Block) :
    tidy (blocks.foldl block d).out =
      tidy (d.out ++ (blocks.map Block.markdown).flatMap (· ++ ['\n', '\n'])) := by
  induction blocks generalizing d with
  | nil => simp
  | cons b blocks ih =>
    rw [List.foldl_cons, ih, block, tidy_blockBreak, List.map_cons, List.flatMap_cons, write]
    simp

end Draft

/-- **The markup of blocks is turned into their markdown**, with one blank line between blocks. No
tag, escaped character or nesting keeps it from being converted, and every link has its own
target. -/
theorem toMarkdown_blocks (blocks : List Block) :
    toMarkdown (String.ofList (blocks.flatMap Block.html)) =
      .ok (String.ofList (tidy (['\n', '\n'].intercalate (blocks.map Block.markdown)))) := by
  have start : Draft.AtBlock {} := .inl rfl
  rw [toMarkdown_of_readOn fun total => start.readOn_blocks blocks, Draft.tidy_foldl_block,
    List.nil_append, tidy_flatMap_append rfl]

example :
    String.ofList (Block.html (.bullets
        [[.link "a?b&c".toList [.marked .strong [.text ⟨"milk".toList, by decide⟩]]]])) =
      "<ul>\n<li><a href=\"a?b&amp;c\"><strong>milk</strong></a></li>\n</ul>\n" := by
  decide +kernel

end NoteDesk.Markup
