import Mathlib.Logic.Relation
import NoteDesk.Proofs.Lookup
import NoteDesk.Proofs.Saving
import NoteDesk.Proofs.Service
import NoteDesk.Proofs.Wire

/-!
# Envelopes do not pile up

The markup of a note is taken out of its envelope when the note is opened, and put into an envelope
of its own when the note is saved in raw mode. What is taken out is what was put there, whatever
tags it has inside, so a note that is opened and saved again and again stays in one envelope.

* `Desk.Resaves` is one time that a note is opened and saved. `Desk.Resaves.content` is what the
  service has then, and `Desk.content_of_resaves` what it has after any number of times.
* `Envelope.unwrap_document` is the main result.
-/

namespace NoteDesk

open Work

namespace Work

variable {d d' : Desk} {title : String} {notebook : Option String} {n : Note}

/-- The body of a note that was opened is the markup in the content that the service has. -/
theorem perform_openNote_body (h : (openNote title notebook).perform d = (.ok n, d')) :
    ∃ content, d.service.content n.guid = .ok content ∧ n.body = Envelope.unwrap content := by
  obtain ⟨found, d₁, hfound, h⟩ := perform_bind_ok.1 h
  obtain ⟨content, d₂, asked, h⟩ := perform_bind_ok.1 h
  obtain ⟨md, d₃, -, h⟩ := perform_bind_ok.1 h
  obtain rfl := Except.ok.inj (Prod.mk.inj h).1
  obtain ⟨finds, service⟩ := ((findNote_looksUp title notebook).of_eq hfound).service
  have fetched : (d.service.content found.guid).mapError Failure.remote = .ok content := by
    have asked : (d₁.service.content found.guid).mapError Failure.remote = .ok content :=
      (Prod.mk.inj asked).1
    rwa [service] at asked
  refine ⟨content, ?_, rfl⟩
  cases had : d.service.content found.guid with
  | error cause =>
    rw [had] at fetched
    cases fetched
  | ok text =>
    rw [had] at fetched
    exact congrArg _ (Except.ok.inj fetched)

end Work

namespace Desk

variable {d d' : Desk} {guid : Guid} {text : String}

/-- The note was opened and then saved in raw mode with the body that it had. Its title and its
notebook may have become others. -/
inductive Resaves (guid : Guid) (d : Desk) : Desk → Prop where
  | intro {title : String} {notebook : Option String} {opened sent : Note} {d₁ d' : Desk}
      {m : EditMode} (opens : (openNote title notebook).perform d = (.ok opened, d₁))
      (found : opened.guid = guid) (note : sent.guid = guid) (body : sent.body = opened.body)
      (raw : m.raw = true) (saved : (saveChanges sent m).perform d₁ = (.ok (), d')) :
      Resaves guid d d'

/-- A note that is opened and saved is in an envelope of its own, with the markup that it had. -/
theorem Resaves.content (h : Resaves guid d d') (had : d.service.content guid = .ok text) :
    d'.service.content guid = .ok (Envelope.wrap (Envelope.unwrap text)) := by
  cases h with
  | @intro title notebook opened sent d₁ _ m opens found note body raw saved =>
    obtain ⟨service, wireConversions, taken, rfl⟩ := perform_saveChanges_ok saved
    have written : (outgoing d₁ sent m.raw).body = Envelope.wrap (Envelope.unwrap text) := by
      obtain ⟨content, fetched, unwrapped⟩ := perform_openNote_body opens
      rw [found, had] at fetched
      rw [outgoing, raw, if_pos rfl, body, unwrapped, Except.ok.inj fetched]
    rw [← written, ← note]
    exact Service.content_update taken (Envelope.wrap_ne_empty _)

/-- However often a note is opened and saved, it is in one envelope then. -/
theorem content_of_resaves (run : Relation.TransGen (Resaves guid) d d')
    (had : d.service.content guid = .ok text) :
    d'.service.content guid = .ok (Envelope.wrap (Envelope.unwrap text)) := by
  induction run with
  | single first => exact first.content had
  | tail _ last ih => rw [last.content ih, Envelope.unwrap_wrap]

end Desk

namespace Envelope

open Desk

/-- **What is taken out of an envelope is what was put there.** The markup of a document is all that
stands in its root element, whatever tags are inside, if no other root element is opened before it,
its attributes neither end nor close it, and none is closed after it. In particular it is what
`wrap` put there, so a note that is opened and saved in raw mode is in one envelope, however often
that is done. -/
theorem unwrap_document {before attributes after : String}
    (first : ¬"<en-note".toList <:+: before.toList) (open' : '>' ∉ attributes.toList)
    (notEmpty : attributes.toList.getLast? ≠ some '/')
    (last : ¬"</en-note>".toList <:+: after.toList) (inner : String) :
    unwrap (before ++ "<en-note" ++ attributes ++ ">" ++ inner ++ "</en-note>" ++ after) = inner ∧
      unwrap (wrap inner) = inner ∧
      ∀ (guid : Guid) (d d' : Desk),
        d.service.content guid = .ok
          (before ++ "<en-note" ++ attributes ++ ">" ++ inner ++ "</en-note>" ++ after) →
        Relation.TransGen (Resaves guid) d d' → d'.service.content guid = .ok (wrap inner) := by
  have taken : unwrap (before ++ "<en-note" ++ attributes ++ ">" ++ inner ++ "</en-note>" ++
      after) = inner := by
    have text : (before ++ "<en-note" ++ attributes ++ ">" ++ inner ++ "</en-note>" ++
        after).toList = before.toList ++ ("<en-note".toList ++ (attributes.toList ++
          '>' :: (inner.toList ++ ("</en-note>".toList ++ after.toList)))) := by
      simp
    rw [unwrap, text, unwrapText_enclosed first open' notEmpty last, String.ofList_toList]
  refine ⟨taken, unwrap_wrap inner, fun guid d d' had run => ?_⟩
  rw [content_of_resaves run had, taken]

/-- A desk with one note, whose document has more openings and ends of root elements than it
should. -/
def enclosedDesk : Desk where
  service := (({} : Service).add "Groceries" none
    ("<?xml?><en-not" ++ "<en-note" ++ " lang='<en-note'" ++ ">" ++ "<en-note>milk</en-note>" ++
      "</en-note>" ++ "</en-note")).2

/-- The desk after its note was opened and saved in raw mode. -/
def resaved (d : Desk) (n : Note) : Desk :=
  ((saveChanges n { raw := true }).perform ((openNote "Groceries" none).perform d).2).2

theorem resaves_resaved {d : Desk} {n : Note}
    (opens : ((openNote "Groceries" none).perform d).1 = .ok n)
    (saved : ((saveChanges n { raw := true }).perform ((openNote "Groceries" none).perform d).2).1 =
      .ok ()) : Resaves n.guid d (resaved d n) :=
  .intro (perform_of_result opens) rfl rfl rfl rfl (perform_of_result saved)

theorem unwrap_document_enclosedDesk :
    unwrap ("<?xml?><en-not" ++ "<en-note" ++ " lang='<en-note'" ++ ">" ++
      "<en-note>milk</en-note>" ++ "</en-note>" ++ "</en-note") = "<en-note>milk</en-note>" ∧
    ∃ n, (resaved (resaved enclosedDesk n) { n with updated := 2000 }).service.content n.guid =
      .ok (wrap "<en-note>milk</en-note>") := by
  let n : Note :=
    { guid := Guid.ofNumber 1, title := "Groceries", body := "<en-note>milk</en-note>"
      md := "milk", created := 1000, updated := 1000 }
  have once : Resaves n.guid enclosedDesk (resaved enclosedDesk n) :=
    resaves_resaved (by decide +kernel) (by decide +kernel)
  have again : Resaves n.guid (resaved enclosedDesk n)
      (resaved (resaved enclosedDesk n) { n with updated := 2000 }) :=
    resaves_resaved (n := { n with updated := 2000 }) (by decide +kernel) (by decide +kernel)
  have first : ¬"<en-note".toList <:+: "<?xml?><en-not".toList := by decide +kernel
  have open' : '>' ∉ " lang='<en-note'".toList := by decide +kernel
  have notEmpty : " lang='<en-note'".toList.getLast? ≠ some '/' := by decide +kernel
  have last : ¬"</en-note>".toList <:+: "</en-note".toList := by decide +kernel
  obtain ⟨taken, -, stays⟩ := unwrap_document first open' notEmpty last "<en-note>milk</en-note>"
  exact ⟨taken, n, stays n.guid enclosedDesk _ (by decide +kernel) (.tail (.single once) again)⟩

end Envelope
end NoteDesk
