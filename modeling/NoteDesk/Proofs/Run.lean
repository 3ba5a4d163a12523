import Mathlib.Logic.Relation
import NoteDesk.Desk.Command

/-!
# Runs

* `Request` is what a user can ask for, `Request.work` the work it takes, and `Answer` what comes
  of it.
* `Desk.Step` is one thing that happens at a desk: a request is worked on, the service is used by
  someone else, or the surroundings become different ones. `Desk.Run` is any number of them.
* `Desk.Reachable` are the desks that a run from a service without notes leads to.
-/

namespace NoteDesk

/-- What a user can ask for. -/
inductive Request where
  | edit (title : String) (notebook : Option String) (m : EditMode)
  | editRecovery (m : EditMode)
  | create (title notebook : Option String) (edited : Bool) (m : EditMode)
  | list (words notebook : Option String) (count : Option Nat)
  | rename (old new : String)
  | move (title notebook : String)
  | delete (title : String) (notebook : Option String)
  | get (title : String) (notebook : Option String)
  | getContent (title : String) (notebook : Option String)
  deriving DecidableEq, Repr

/-- What comes of a request. -/
inductive Answer where
  | report (r : Report)
  | note (n : Note)
  deriving DecidableEq, Repr

/-- Notes written to the service. -/
def Answer.affected : Answer → List Note
  | report r => r.affected
  | note _ => []

/-- The work that a request takes. -/
def Request.work [Disk] [Connection] : Request → Work Answer
  | edit title notebook m => .report <$> Work.editNote title notebook m
  | editRecovery m => .report <$> Work.editRecovery m
  | create title notebook edited m => .report <$> Work.createNote title notebook edited m
  | list words notebook count => .report <$> Work.listNotes words notebook count
  | rename old new => .report <$> Work.renameNote old new
  | move title notebook => .report <$> Work.moveNote title notebook
  | delete title notebook => .report <$> Work.deleteNote title notebook
  | get title notebook => .note <$> Work.findNote title notebook
  | getContent title notebook => .note <$> Work.openNote title notebook

/-- What anyone can do with the service, or the service itself. -/
inductive Service.Step (s : Service) : Service → Prop where
  | addNotebook (nb : Notebook) : Step s (s.addNotebook nb)
  | add (title : String) (notebook : Option Guid) (content : String) :
      Step s (s.add title notebook content).2
  | create (n : Note) : Step s (s.create n).2
  | update (n : Note) : Step s (s.update n).2
  | delete (guid : Guid) : Step s (s.delete guid).2
  | find (q : Service.Query) (offset count : Nat) : Step s (s.find q offset count).2
  | refuse (createRefusal updateRefusal : Option String) :
      Step s { s with createRefusal, updateRefusal }

namespace Desk

variable [Disk] [Connection]

/-- One thing that happens, requests being worked on only where they are allowed. -/
inductive Step (allowed : Request → Desk → Prop) (d : Desk) : Desk → Prop where
  | request (r : Request) (h : allowed r d) : Step allowed d (r.work.perform d).2
  | service {service : Service} (h : d.service.Step service) : Step allowed d { d with service }
  /-- A store in memory may begin or cease to refuse recovery points. -/
  | refusal {m : LocalStore.Memory} (h : d.store = .memory m) (refusal : Option String) :
      Step allowed d { d with store := .memory { m with refusal } }
  /-- The editor, the converter, the input, the configuration and the cache are others. -/
  | surroundings {d' : Desk} (service : d'.service = d.service) (store : d'.store = d.store) :
      Step allowed d d'

/-- Any number of things that happen. -/
def Run (allowed : Request → Desk → Prop) : Desk → Desk → Prop :=
  Relation.ReflTransGen (Step allowed)

/-- What every step keeps, a run keeps. -/
theorem Run.induct {allowed : Request → Desk → Prop} {P : Desk → Prop}
    (step : ∀ {d d'}, Step allowed d d' → P d → P d') {d d' : Desk} (h : Run allowed d d')
    (hd : P d) : P d' := by
  induction h with
  | refl => exact hd
  | tail _ last ih => exact step last ih

/-- The desks that a run from a service without notes leads to. -/
def Reachable (d : Desk) : Prop :=
  ∃ d₀ : Desk, d₀.service.records = [] ∧ Run (fun _ _ => True) d₀ d

end Desk
end NoteDesk
