import NoteDesk.Proofs.Cache

/-!
# What was done to documents

Documents of the cache are worked with side by side. What was done to them, and what came of it, is
their history.

* `Cache.Action` is what can be done and `Cache.Reply` what comes of it. A document has the number
  of its creation, also of those that failed.
* `Cache.Since` is how a history tells what holds now: `Opened`, `ForWriting`, `ForReading` and
  `Unread`. `Cache.since_concat` adds an event to it.
* `Cache.written` is all that was written to a document.
* `Cache.Steady` events leave a document open as it is, and `Cache.Quiet` events make no difference
  to it at all.
-/

namespace NoteDesk.Cache

/-- What can be done with a document. The last two end it. -/
inductive Act where
  | write (data : Bytes)
  | flush
  | close
  | reopen
  | read
  | drop
  | closeAndRemove
  deriving DecidableEq

inductive Action where
  | create (name : String)
  | use (i : Nat) (act : Act)
  deriving DecidableEq

inductive Reply where
  | created (i : Nat)
  | done
  | content (data : Bytes)
  | failed (flaw : Failure)
  /-- There is no such document, or no longer. -/
  | absent

def Reply.isOk : Reply → Bool
  | failed _ | absent => false
  | _ => true

abbrev Event := Action × Reply

variable {events : List Event} {e : Event} {i j : Nat} {p q p' q' : Event → Prop}

/-! ## What an event is -/

def Creates (i : Nat) (e : Event) : Prop :=
  e.2 = .created i

/-- It was done, and nothing failed. -/
def Did (i : Nat) (act : Act) (e : Event) : Prop :=
  e.1 = .use i act ∧ e.2.isOk

def Ends (i : Nat) (e : Event) : Prop :=
  Did i .drop e ∨ Did i .closeAndRemove e

def Closes (i : Nat) (e : Event) : Prop :=
  Did i .close e ∨ Ends i e

def writtenIn (i : Nat) : Event → Bytes
  | (.use j (.write data), reply) => if j = i ∧ reply.isOk then data else []
  | _ => []

def createdIn : Event → Option String
  | (.create name, .created _) => some name
  | _ => none

/-! ## What a history tells -/

/-- Something of the one kind happened, and nothing of the other kind since. -/
def Since (p q : Event → Prop) (events : List Event) : Prop :=
  ∃ before e after, events = before ++ e :: after ∧ p e ∧ ∀ x ∈ after, ¬q x

/-- The document was created or reopened and not closed since. -/
def Opened (i : Nat) : List Event → Prop :=
  Since (fun e => Creates i e ∨ Did i .reopen e) (Closes i)

/-- The document is open as it was created. -/
def ForWriting (i : Nat) : List Event → Prop :=
  Since (Creates i) fun e => Did i .reopen e ∨ Closes i e

/-- The document was reopened and not closed since. -/
def ForReading (i : Nat) : List Event → Prop :=
  Since (Did i .reopen) (Closes i)

/-- The document was reopened and neither read nor closed since. -/
def Unread (i : Nat) : List Event → Prop :=
  Since (Did i .reopen) fun e => Did i .read e ∨ Closes i e

/-- All that was written to the document. -/
def written (i : Nat) (events : List Event) : Bytes :=
  events.flatMap (writtenIn i)

/-- The names of the documents that were created. -/
def names (events : List Event) : List String :=
  events.filterMap createdIn

theorem not_since_of_forall (h : ∀ e ∈ events, ¬p e) : ¬Since p q events := by
  rintro ⟨before, e, after, rfl, he, -⟩
  exact h e (by simp) he

theorem since_concat : Since p q (events ++ [e]) ↔ p e ∨ ¬q e ∧ Since p q events := by
  constructor
  · rintro ⟨before, x, after, split, hx, none⟩
    rcases List.eq_nil_or_concat after with rfl | ⟨after, last, rfl⟩
    · obtain ⟨-, same⟩ := List.append_inj' split rfl
      obtain rfl : e = x := by simpa using same
      exact .inl hx
    · have split' : events ++ [e] = (before ++ x :: after) ++ [last] := by simpa using split
      obtain ⟨rfl, same⟩ := List.append_inj' split' rfl
      obtain rfl : e = last := by simpa using same
      exact .inr ⟨none e (by simp), before, x, after, rfl, hx, fun y hy => none y (by simp [hy])⟩
  · rintro (he | ⟨he, before, x, after, rfl, hx, none⟩)
    · exact ⟨events, e, [], rfl, he, by simp⟩
    · refine ⟨before, x, after ++ [e], by simp, hx, fun y hy => ?_⟩
      rcases List.mem_append.1 hy with hy | hy
      · exact none y hy
      · rwa [List.mem_singleton.1 hy]

theorem Since.mono (hp : ∀ e, p e → p' e) (hq : ∀ e, q' e → q e) (h : Since p q events) :
    Since p' q' events := by
  obtain ⟨before, e, after, rfl, he, none⟩ := h
  exact ⟨before, e, after, rfl, hp e he, fun x hx hqx => none x hx (hq x hqx)⟩

theorem ForWriting.opened (h : ForWriting i events) : Opened i events :=
  h.mono (fun _ => .inl) fun _ => .inr

theorem ForReading.opened (h : ForReading i events) : Opened i events :=
  h.mono (fun _ => .inr) fun _ => id

theorem Unread.forReading (h : Unread i events) : ForReading i events :=
  h.mono (fun _ => id) fun _ => .inr

theorem written_concat : written i (events ++ [e]) = written i events ++ writtenIn i e := by
  simp [written]

theorem mem_names {name : String} (h : (.create name, .created i) ∈ events) : name ∈ names events :=
  List.mem_filterMap.2 ⟨_, h, rfl⟩

theorem names_concat : names (events ++ [e]) = names events ++ (createdIn e).toList := by
  cases h : createdIn e <;> simp [names, h]

/-! ## What an event makes of a history -/

section Last

variable {data : Bytes}

theorem forWriting_create (name : String) : ForWriting i (events ++ [(.create name, .created i)]) :=
  since_concat.2 (.inl rfl)

theorem written_write : written i (events ++ [(.use i (.write data), .done)]) =
    written i events ++ data := by
  simp [written_concat, writtenIn, Reply.isOk]

theorem not_opened_close : ¬Opened i (events ++ [(.use i .close, .done)]) := by
  simp [Opened, since_concat, Creates, Did, Closes, Reply.isOk]

theorem Ends.not_opened (h : Ends i e) (creates : ¬Creates i e) : ¬Opened i (events ++ [e]) := by
  have reopens : ¬Did i .reopen e := by
    rintro ⟨reopen, -⟩
    rcases h with ⟨other, -⟩ | ⟨other, -⟩ <;> simp [reopen] at other
  simp [Opened, since_concat, creates, reopens, Closes, h]

theorem unread_reopen : Unread i (events ++ [(.use i .reopen, .done)]) :=
  since_concat.2 (.inl ⟨rfl, rfl⟩)

theorem not_forWriting_reopen : ¬ForWriting i (events ++ [(.use i .reopen, .done)]) := by
  simp [ForWriting, since_concat, Creates, Did, Reply.isOk]

theorem not_unread_read : ¬Unread i (events ++ [(.use i .read, .content data)]) := by
  simp [Unread, since_concat, Did, Reply.isOk]

end Last

/-- After the event the document is open as it was. -/
structure Steady (i : Nat) (e : Event) : Prop where
  creates : ¬Creates i e
  reopens : ¬Did i .reopen e
  closes : ¬Closes i e

/-- The event makes no difference to the document. -/
structure Quiet (i : Nat) (e : Event) : Prop extends Steady i e where
  reads : ¬Did i .read e
  writes : writtenIn i e = []

namespace Steady

theorem write (data : Bytes) : Steady i (.use i (.write data), .done) := by
  constructor <;> simp [Creates, Did, Closes, Ends]

theorem read (data : Bytes) : Steady i (.use i .read, .content data) := by
  constructor <;> simp [Creates, Did, Closes, Ends]

variable (h : Steady i e)
include h

theorem opened_concat : Opened i (events ++ [e]) ↔ Opened i events := by
  simp [Opened, since_concat, h.creates, h.reopens, h.closes]

theorem forWriting_concat : ForWriting i (events ++ [e]) ↔ ForWriting i events := by
  simp [ForWriting, since_concat, h.creates, h.reopens, h.closes]

theorem forReading_concat : ForReading i (events ++ [e]) ↔ ForReading i events := by
  simp [ForReading, since_concat, h.reopens, h.closes]

end Steady

namespace Quiet

variable {act : Act} {reply : Reply}

theorem of_not_did (creates : ¬Creates i e) (none : ∀ act, ¬Did i act e) : Quiet i e where
  creates := creates
  reopens := none _
  closes := by rintro (did | did | did) <;> exact none _ did
  reads := none _
  writes := by
    unfold writtenIn
    split
    next data reply =>
      refine if_neg ?_
      rintro ⟨rfl, ok⟩
      exact none _ ⟨rfl, ok⟩
    · rfl

/-- What fails makes no difference. -/
theorem of_not_isOk {a : Action} (h : reply.isOk = false) : Quiet i (a, reply) := by
  refine of_not_did ?_ fun act did => ?_
  · rintro rfl
    cases h
  · exact absurd did.2 (by simp [h])

/-- What is done with a document makes no difference to the others. -/
theorem of_ne (h : j ≠ i) (other : ∀ i, reply ≠ .created i) : Quiet i (.use j act, reply) := by
  refine of_not_did (other i) ?_
  rintro _ ⟨⟨⟩, -⟩
  exact h rfl

theorem of_create {name : String} (h : j ≠ i) : Quiet i (.create name, .created j) := by
  refine of_not_did ?_ ?_
  · rintro ⟨⟩
    exact h rfl
  · rintro _ ⟨⟨⟩, -⟩

theorem flush : Quiet i (.use i .flush, .done) := by
  refine ⟨?_, ?_, rfl⟩
  · constructor <;> simp [Creates, Did, Closes, Ends]
  · simp [Did]

theorem write_nil : Quiet i (.use i (.write []), .done) :=
  ⟨.write [], by simp [Did], by simp [writtenIn]⟩

variable (h : Quiet i e)
include h

theorem unread_concat : Unread i (events ++ [e]) ↔ Unread i events := by
  simp [Unread, since_concat, h.reopens, h.reads, h.closes]

theorem written_concat : written i (events ++ [e]) = written i events := by
  rw [Cache.written_concat, h.writes, List.append_nil]

end Quiet

theorem written_eq_nil (h : ∀ e ∈ events, Quiet i e) : written i events = [] :=
  List.flatMap_eq_nil_iff.2 fun e he => (h e he).writes

end NoteDesk.Cache
