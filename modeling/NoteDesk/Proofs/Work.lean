import Mathlib.Order.Defs.Unbundled
import NoteDesk.Desk

/-!
# Work, step by step

What comes of work at a desk, and what it leaves, read off its steps.

* `Work.perform_bind`, `Work.perform_tryCatch` and their like give what comes of work from what
  comes of its parts; `Work.perform_bind_ok` says how work that is done came about.
* `Work.Leads` is work that leaves every desk in a given relation to what it was before, whatever
  comes of it. For a reflexive and transitive relation it is enough to look at the parts.
  `Work.Same` is such a relation, for any part of a desk that is as it was, and `Work.Alters` tells
  which part of work altered something.
* `Work.Commutes` is work that a change of the desk makes no difference to.
* `Work.Gives` is work of which only something with a given property comes.
-/

namespace NoteDesk.Work

variable {α β : Type}

/-! ## What comes of work -/

@[simp] theorem perform_mk (f : Desk → Except Failure α × Desk) (d : Desk) :
    perform (ExceptT.mk f) d = f d := rfl

@[simp] theorem perform_liftM (x : Except Failure α) (d : Desk) :
    (liftM x : Work α).perform d = (x, d) := by
  cases x <;> rfl

theorem perform_changeService {change : Service → Except RemoteError α × Service} {d : Desk}
    {r : Except RemoteError α} {service : Service} (h : change d.service = (r, service)) :
    (changeService change).perform d = (r.mapError .remote, { d with service }) := by
  rw [changeService, perform_mk, h]

theorem perform_changeService_ok {change : Service → Except RemoteError α × Service} {d d' : Desk}
    {a : α} (h : (changeService change).perform d = (.ok a, d')) :
    ∃ service, change d.service = (.ok a, service) ∧ d' = { d with service } := by
  rcases changed : change d.service with ⟨r, service⟩
  rw [perform_changeService changed] at h
  obtain ⟨result, rfl⟩ := Prod.mk.inj h
  cases r with
  | ok b => exact ⟨service, by rw [Except.ok.inj result], rfl⟩
  | error cause => cases result

theorem perform_bind (w : Work α) (f : α → Work β) (d : Desk) :
    (w >>= f).perform d =
      match w.perform d with
      | (.ok a, d) => (f a).perform d
      | (.error cause, d) => (.error cause, d) := by
  change ExceptT.bind w f d = _
  simp only [ExceptT.bind, perform, ExceptT.run, ExceptT.mk, StateT.run, bind, StateT.bind]
  rcases w d with ⟨r, d⟩
  cases r <;> rfl

theorem perform_map (f : α → β) (w : Work α) (d : Desk) :
    (f <$> w).perform d = ((w.perform d).1.map f, (w.perform d).2) := by
  rw [← bind_pure_comp, perform_bind]
  rcases w.perform d with ⟨r, d₁⟩
  cases r <;> rfl

theorem perform_tryCatch (w : Work α) (f : Failure → Work α) (d : Desk) :
    (tryCatch w f : Work α).perform d =
      match w.perform d with
      | (.ok a, d) => (.ok a, d)
      | (.error cause, d) => (f cause).perform d := by
  change ExceptT.tryCatch w f d = _
  simp only [ExceptT.tryCatch, perform, ExceptT.run, ExceptT.mk, StateT.run, bind, StateT.bind]
  rcases w d with ⟨r, d⟩
  cases r <;> rfl

theorem perform_of_result {w : Work α} {d : Desk} {r : Except Failure α}
    (h : (w.perform d).1 = r) : w.perform d = (r, (w.perform d).2) := by
  rw [← h]

/-- Work is what comes of it at every desk. -/
theorem perform_ext {w w' : Work α} (h : ∀ d, w.perform d = w'.perform d) : w = w' :=
  funext h

/-- Work in two parts is done when both parts are. -/
theorem perform_bind_ok {w : Work α} {f : α → Work β} {d d' : Desk} {b : β} :
    (w >>= f).perform d = (.ok b, d') ↔
      ∃ a d₁, w.perform d = (.ok a, d₁) ∧ (f a).perform d₁ = (.ok b, d') := by
  rw [perform_bind]
  rcases w.perform d with ⟨r, d₁⟩
  cases r with
  | ok a =>
    constructor
    · exact fun h => ⟨a, d₁, rfl, h⟩
    · rintro ⟨_, _, ⟨⟩, h⟩
      exact h
  | error cause =>
    constructor
    · rintro ⟨⟩
    · rintro ⟨_, _, ⟨⟩, _⟩

theorem perform_map_ok {f : α → β} {w : Work α} {d d' : Desk} {b : β} :
    (f <$> w).perform d = (.ok b, d') ↔ ∃ a, w.perform d = (.ok a, d') ∧ b = f a := by
  rw [perform_map]
  rcases w.perform d with ⟨r, d₁⟩
  cases r with
  | ok a =>
    constructor
    · rintro ⟨⟩
      exact ⟨a, rfl, rfl⟩
    · rintro ⟨_, ⟨⟩, rfl⟩
      rfl
  | error cause =>
    constructor
    · rintro ⟨⟩
    · rintro ⟨_, ⟨⟩, _⟩

theorem perform_bind_of_ok {w : Work α} {d d₁ : Desk} {a : α} (h : w.perform d = (.ok a, d₁))
    (f : α → Work β) : (w >>= f).perform d = (f a).perform d₁ := by
  rw [perform_bind, h]

theorem perform_bind_of_error {w : Work α} {d d₁ : Desk} {cause : Failure}
    (h : w.perform d = (.error cause, d₁)) (f : α → Work β) :
    (w >>= f).perform d = (.error cause, d₁) := by
  rw [perform_bind, h]

/-! ## What work leaves -/

/-- Whatever comes of the work, the desk afterwards is related to the desk before. -/
def Leads (R : Desk → Desk → Prop) (w : Work α) : Prop :=
  ∀ d, R d (w.perform d).2

namespace Leads

variable {R S : Desk → Desk → Prop}

theorem mono {w : Work α} (h : ∀ {d d'}, R d d' → S d d') (hw : Leads R w) : Leads S w :=
  fun d => h (hw d)

theorem of_eq {w : Work α} (hw : Leads R w) {d d' : Desk} {r : Except Failure α}
    (h : w.perform d = (r, d')) : R d d' := by
  have := hw d
  rwa [h] at this

theorem changeStore {change : LocalStore → Except Failure LocalStore}
    {spoil : LocalStore → LocalStore}
    (h : ∀ (d : Desk) (store : LocalStore), change d.store = .ok store → R d { d with store })
    (failed : ∀ d : Desk, R d { d with store := spoil d.store }) :
    Leads R (changeStore change spoil) := by
  intro d
  rw [Work.changeStore, perform_mk]
  cases changed : change d.store with
  | ok store => exact h d store changed
  | error cause => exact failed d

variable [IsPreorder Desk R]

theorem pure (a : α) : Leads R (pure a : Work α) := fun d => refl_of R d

theorem throw (cause : Failure) : Leads R (throw cause : Work α) := fun d => refl_of R d

theorem get : Leads R (get : Work Desk) := fun d => refl_of R d

theorem liftM (x : Except Failure α) : Leads R (liftM x : Work α) := by
  intro d
  rw [perform_liftM]
  exact refl_of R d

/-- The second part need only be looked at where the first part leads. -/
theorem bind_of_ok {w : Work α} {f : α → Work β} (hw : Leads R w)
    (hf : ∀ d a d₁, w.perform d = (.ok a, d₁) → R d₁ ((f a).perform d₁).2) : Leads R (w >>= f) := by
  intro d
  rw [perform_bind]
  have first := hw d
  rcases h : w.perform d with ⟨r, d₁⟩
  rw [h] at first
  cases r with
  | ok a => exact trans_of R first (hf d a d₁ h)
  | error cause => exact first

theorem bind {w : Work α} {f : α → Work β} (hw : Leads R w) (hf : ∀ a, Leads R (f a)) :
    Leads R (w >>= f) :=
  hw.bind_of_ok fun _ a d₁ _ => hf a d₁

theorem tryCatch {w : Work α} {f : Failure → Work α} (hw : Leads R w)
    (hf : ∀ cause, Leads R (f cause)) : Leads R (tryCatch w f) := by
  intro d
  rw [perform_tryCatch]
  have first := hw d
  rcases h : w.perform d with ⟨r, d₁⟩
  rw [h] at first
  cases r with
  | ok a => exact first
  | error cause => exact trans_of R first (hf cause d₁)

theorem map {w : Work α} (f : α → β) (hw : Leads R w) : Leads R (f <$> w) := by
  rw [← bind_pure_comp]
  exact hw.bind fun a => .pure (f a)

theorem askStore (question : LocalStore → Except Failure α) : Leads R (askStore question) :=
  fun d => refl_of R d

theorem askService (question : Service → Except RemoteError α) : Leads R (askService question) :=
  fun d => refl_of R d

theorem changeCache {change : Cache → Except IoError (α × Cache)}
    (h : ∀ (d : Desk) (cache : Cache), R d { d with cache }) : Leads R (changeCache change) := by
  intro d
  rw [Work.changeCache, perform_mk]
  cases change d.cache with
  | ok changed => exact h d changed.2
  | error flaw => exact refl_of R d

end Leads

/-! ## What work leaves as it was -/

/-- The part of the desk is as it was. -/
def Same {γ : Type} (part : Desk → γ) (d d' : Desk) : Prop :=
  part d' = part d

instance {γ : Type} (part : Desk → γ) : IsPreorder Desk (Same part) where
  refl _ := rfl
  trans _ _ _ h h' := h'.trans h

/-- What the second part of work leaves as it was, the first part has made what it is. -/
theorem part_bind {γ : Type} {part : Desk → γ} {f : α → Work β}
    (hf : ∀ a, Leads (Same part) (f a)) (w : Work α) (d : Desk) :
    part ((w >>= f).perform d).2 = part (w.perform d).2 := by
  rw [perform_bind]
  rcases w.perform d with ⟨r, d₁⟩
  cases r with
  | ok a => exact hf a d₁
  | error cause => rfl

/-- Work that changes the service leaves a part as it was that the service is none of. -/
theorem Leads.changeService {γ : Type} {part : Desk → γ}
    (change : Service → Except RemoteError α × Service)
    (apart : ∀ (d : Desk) (service : Service), part { d with service } = part d) :
    Leads (Same part) (changeService change) := fun d => apart d _

/-- The work alters the part of the desk. -/
def Alters {γ : Type} (part : Desk → γ) (w : Work α) (d : Desk) : Prop :=
  part (w.perform d).2 ≠ part d

namespace Alters

variable {γ : Type} {part : Desk → γ} {w : Work α} {f : α → Work β} {d : Desk}

/-- What work in two parts altered, though not by the first, was altered by the second. -/
theorem right (h : Alters part (w >>= f) d) (hw : Leads (Same part) w) :
    ∃ a d₁, w.perform d = (.ok a, d₁) ∧ part d₁ = part d ∧ Alters part (f a) d₁ := by
  rcases first : w.perform d with ⟨r, d₁⟩
  have same : part d₁ = part d := hw.of_eq first
  cases r with
  | error cause =>
    rw [Alters, perform_bind_of_error first] at h
    exact absurd same h
  | ok a =>
    rw [Alters, perform_bind_of_ok first, ← same] at h
    exact ⟨a, d₁, rfl, same, h⟩

/-- What work in two parts altered, though not by the second, was altered by the first. -/
theorem left (h : Alters part (w >>= f) d) (hf : ∀ a, Leads (Same part) (f a)) :
    Alters part w d := by
  rwa [Alters, part_bind hf] at h

end Alters

/-! ## Work that a change of the desk does not matter to -/

/-- The change of the desk makes no difference to the work, and the work none to the change: it can
as well be made afterwards. -/
def Commutes (f : Desk → Desk) (w : Work α) : Prop :=
  ∀ d, w.perform (f d) = ((w.perform d).1, f (w.perform d).2)

namespace Commutes

variable {f : Desk → Desk}

theorem of_eq {w : Work α} (hw : Commutes f w) {d d' : Desk} {r : Except Failure α}
    (h : w.perform d = (r, d')) : w.perform (f d) = (r, f d') := by
  rw [hw, h]

theorem pure (a : α) : Commutes f (pure a : Work α) := fun _ => rfl

theorem throw (cause : Failure) : Commutes f (throw cause : Work α) := fun _ => rfl

theorem liftM (x : Except Failure α) : Commutes f (liftM x : Work α) := by
  intro d
  rw [perform_liftM, perform_liftM]

theorem bind {w : Work α} {g : α → Work β} (hw : Commutes f w) (hg : ∀ a, Commutes f (g a)) :
    Commutes f (w >>= g) := by
  intro d
  rw [perform_bind, perform_bind, hw]
  rcases w.perform d with ⟨r, d₁⟩
  cases r with
  | ok a => exact hg a d₁
  | error cause => rfl

theorem map {w : Work α} (g : α → β) (hw : Commutes f w) : Commutes f (g <$> w) := by
  rw [← bind_pure_comp]
  exact hw.bind fun a => .pure (g a)

theorem tryCatch {w : Work α} {g : Failure → Work α} (hw : Commutes f w)
    (hg : ∀ cause, Commutes f (g cause)) : Commutes f (tryCatch w g) := by
  intro d
  rw [perform_tryCatch, perform_tryCatch, hw]
  rcases w.perform d with ⟨r, d₁⟩
  cases r with
  | ok a => rfl
  | error cause => exact hg cause d₁

theorem get {g : Desk → Work β} (same : ∀ d, g (f d) = g d) (hg : ∀ d, Commutes f (g d)) :
    Commutes f (get >>= g) := by
  intro d
  have whole (d : Desk) : (MonadState.get >>= g : Work β).perform d = (g d).perform d := rfl
  rw [whole, whole, same]
  exact hg d d

end Commutes

/-! ## What comes of work that is done -/

/-- Whatever comes of the work has a property. -/
def Gives (P : α → Prop) (w : Work α) : Prop :=
  ∀ d d' a, w.perform d = (.ok a, d') → P a

namespace Gives

variable {P : α → Prop} {Q : β → Prop}

theorem of_eq {w : Work α} (hw : Gives P w) {d d' : Desk} {a : α} (h : w.perform d = (.ok a, d')) :
    P a :=
  hw d d' a h

theorem mono {P' : α → Prop} {w : Work α} (h : ∀ a, P a → P' a) (hw : Gives P w) : Gives P' w :=
  fun d d' a ha => h a (hw d d' a ha)

theorem pure {a : α} (h : P a) : Gives P (pure a : Work α) := by
  rintro d d' b ⟨⟩
  exact h

theorem any (w : Work α) : Gives (fun _ => True) w :=
  fun _ _ _ _ => trivial

theorem bind {w : Work α} {f : α → Work β} (hw : Gives P w) (hf : ∀ a, P a → Gives Q (f a)) :
    Gives Q (w >>= f) := by
  intro d d' b h
  obtain ⟨a, d₁, ha, hb⟩ := perform_bind_ok.1 h
  exact hf a (hw.of_eq ha) d₁ d' b hb

end Gives
end NoteDesk.Work
