import NoteDesk.Proofs.Draft

/-!
# Marked text and links

What stands inside of a block is a list of spans: text on one line, spans between marks, and links,
nested in any way. `Span.htmlAll` is the markup of spans, with their text and their targets escaped,
and `Span.markdownAll` is their markdown.

* `Draft.readOn_spans`: the markup of spans is written as their markdown. However links are nested,
  each of them has its own target when it is closed.
-/

namespace NoteDesk.Markup

/-- The kinds of spans with the same mark at both ends. -/
inductive Mark where
  | strong
  | emphasis
  | strike
  | code
  deriving DecidableEq, Repr

namespace Mark

def tag : Mark → List Char
  | strong => "strong".toList
  | emphasis => "em".toList
  | strike => "del".toList
  | code => "code".toList

def sign : Mark → List Char
  | strong => "**".toList
  | emphasis => "*".toList
  | strike => "~~".toList
  | code => "`".toList

end Mark

inductive Span where
  | text (t : OneLine)
  | marked (m : Mark) (inside : List Span)
  | link (target : List Char) (inside : List Span)

/-- What stands between the brackets of the tag that opens a link. -/
def linkTag (target : List Char) : List Char :=
  "a href=\"".toList ++ (Markdown.escapeAttribute target ++ ['"'])

theorem notMem_linkTag (target : List Char) : '>' ∉ linkTag target := by
  have name : '>' ∉ "a href=\"".toList := by decide
  have quote : '>' ∉ ['"'] := by decide
  have value : '>' ∉ Markdown.escapeAttribute target := Markdown.notMem_escape (by decide) target
  intro mem
  rcases List.mem_append.1 mem with early | late
  · exact name early
  · rcases List.mem_append.1 late with early | last
    · exact value early
    · exact quote last

namespace Span

mutual

def html : Span → List Char
  | text t => Markdown.escapeAttribute t.chars
  | marked m inside => bracket m.tag ++ (htmlAll inside ++ close m.tag)
  | link target inside => bracket (linkTag target) ++ (htmlAll inside ++ close "a".toList)

def htmlAll : List Span → List Char
  | [] => []
  | x :: rest => html x ++ htmlAll rest

end

mutual

def markdown : Span → List Char
  | text t => t.chars
  | marked m inside => m.sign ++ (markdownAll inside ++ m.sign)
  | link target inside =>
    "[".toList ++ (markdownAll inside ++ ("](".toList ++ (target ++ ")".toList)))

def markdownAll : List Span → List Char
  | [] => []
  | x :: rest => markdown x ++ markdownAll rest

end

/-- The span is text, not something between tags. -/
def isText : Span → Bool
  | text _ => true
  | _ => false

/-- Spans do not bring a line feed to what follows them. -/
theorem feed_notMem_leading {rest : List Char} (h : '\n' ∉ leading rest) (spans : List Span) :
    '\n' ∉ leading (htmlAll spans ++ rest) := by
  induction spans with
  | nil => exact h
  | cons x spans ih =>
    rw [htmlAll, List.append_assoc]
    cases x with
    | text t =>
      rw [html, leading, List.takeWhile_append_of_pos, List.mem_append,
        Markdown.feed_mem_escape_iff, not_or]
      · exact ⟨t.noFeed, ih⟩
      · intro c hc
        simpa using fun same : c = '<' =>
          Markdown.notMem_escape (by decide) t.chars (same ▸ hc)
    | marked => exact List.not_mem_nil
    | link => exact List.not_mem_nil

end Span

namespace Draft

variable {total : Nat}

theorem took_mark (d : Draft) (m : Mark) : d.took m.tag = d.write m.sign := by
  cases m <;> rfl

theorem took_close_mark (d : Draft) (m : Mark) : d.took ('/' :: m.tag) = d.write m.sign := by
  cases m <;> rfl

theorem attribute_linkTag (target : List Char) :
    (Tag.ofText (linkTag target)).attribute? "href" = some target := by
  have quoted : Text.breakAtChar '"' (Markdown.escapeAttribute target ++ ['"']) =
      some (Markdown.escapeAttribute target, []) :=
    Text.breakAtChar_append (Markdown.notMem_escape (by decide) target) []
  have found : (Tag.ofText (linkTag target)).attribute? "href" =
      (Text.breakAtChar '"' (Markdown.escapeAttribute target ++ ['"'])).map fun value =>
        Entity.decodeAll value.1 :=
    rfl
  rw [found, quoted]
  exact congrArg some (Entity.decodeAll_escape_self target)

/-- The target of a link that is opened is kept until it is closed. -/
theorem took_link (d : Draft) (target : List Char) :
    d.took (linkTag target) = { d.write "[".toList with links := target :: d.links } := by
  have opened : d.took (linkTag target) =
      { d.write "[".toList with
        links := ((Tag.ofText (linkTag target)).attribute? "href").getD [] :: d.links } :=
    rfl
  rw [opened, attribute_linkTag, Option.getD_some]

theorem took_close_link (d : Draft) (target written : List Char) :
    ({ d.write "[".toList with links := target :: d.links }.write written).took
        ('/' :: "a".toList) =
      d.write ("[".toList ++ (written ++ ("](".toList ++ (target ++ ")".toList)))) := by
  have closed (e : Draft) : e.took ('/' :: "a".toList) =
      { e.write ("](".toList ++ e.links.headD [] ++ ")".toList) with links := e.links.tail } :=
    rfl
  rw [closed]
  simp only [write, List.headD_cons, List.tail_cons, List.append_assoc]

mutual

/-- A span that is not text is read whatever follows it. -/
theorem readOn_span (d : Draft) {rest : List Char} : (x : Span) →
    (x.isText → '\n' ∉ leading rest) →
    d.readOn total (x.html ++ rest) = (d.write x.markdown).readOn total rest
  | .text t, h => readOn_escape t.noFeed (h rfl)
  | .marked m inside, _ => by
    have apart : '>' ∉ m.tag := by cases m <;> decide
    have noFeed : '\n' ∉ leading (close m.tag ++ rest) := List.not_mem_nil
    rw [Span.html, List.append_assoc, List.append_assoc,
      readOn_element apart apart fun d => readOn_spans d inside noFeed, took_mark, took_close_mark,
      write_write, write_write, Span.markdown]
  | .link target inside, _ => by
    have apart : '>' ∉ "a".toList := by decide
    have noFeed : '\n' ∉ leading (close "a".toList ++ rest) := List.not_mem_nil
    rw [Span.html, List.append_assoc, List.append_assoc,
      readOn_element (notMem_linkTag target) apart fun d => readOn_spans d inside noFeed,
      took_link, took_close_link, Span.markdown]

/-- **The markup of spans is written as their markdown**, unless a line feed comes after them and
before the next tag. -/
theorem readOn_spans (d : Draft) {rest : List Char} : (spans : List Span) →
    '\n' ∉ leading rest →
    d.readOn total (Span.htmlAll spans ++ rest) =
      (d.write (Span.markdownAll spans)).readOn total rest
  | [], _ => by
    rw [Span.htmlAll, Span.markdownAll, write_nil, List.nil_append]
  | x :: spans, h => by
    rw [Span.htmlAll, List.append_assoc,
      readOn_span d x fun _ => Span.feed_notMem_leading h spans, readOn_spans _ spans h,
      write_write, Span.markdownAll]

end

end Draft
end NoteDesk.Markup
