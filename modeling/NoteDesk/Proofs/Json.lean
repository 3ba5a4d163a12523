import NoteDesk.Json.Decode
import NoteDesk.Proofs.Digits

/-!
# JSON written and read again

What `Json.render` writes, `Json.value` reads back, as long as the value is one that can be written
at all (`Json.Plain`).

* `Json.scan_escaped` and `Json.numeral_toDigits` are the texts and the numbers.
* `Json.valueFor_renderAt` is the induction over values, with what follows as a parameter.
* `Json.value_render`: a value that is written is read.
-/

namespace NoteDesk.Json

/-! ## Texts -/

theorem unit?_hexDigits {c : Char} (h : c.toNat < 0x20) :
    unit? '0' '0' (hexDigit (c.toNat / 16)) (hexDigit (c.toNat % 16)) = some c.toNat := by
  have zero : Entity.digit? 16 '0' = some 0 := by decide
  have high : Entity.digit? 16 (hexDigit (c.toNat / 16)) = some (c.toNat / 16) :=
    Entity.digit?_digitChar (Nat.le_refl 16) (by omega)
  have low : Entity.digit? 16 (hexDigit (c.toNat % 16)) = some (c.toNat % 16) :=
    Entity.digit?_digitChar (Nat.le_refl 16) (by omega)
  simp only [unit?, Entity.digits?, zero, high, low, Option.bind_some, Option.some.injEq]
  omega

theorem scan_escapeChar (c : Char) (s : List Char) :
    scan (escapeChar c ++ s) = (scan s).push c := by
  unfold escapeChar
  split_ifs with hquote hbackslash hn hr ht hb hf hlow
  · rw [hquote]
    simp [scan, escaped?]
  · rw [hbackslash]
    simp [scan, escaped?]
  · rw [hn]
    simp [scan, escaped?]
  · rw [hr]
    simp [scan, escaped?]
  · rw [ht]
    simp [scan, escaped?]
  · rw [hb]
    simp [scan, escaped?]
  · rw [hf]
    simp [scan, escaped?]
  · simp only [List.cons_append, List.nil_append]
    rw [scan]
    simp only [unit?_hexDigits hlow]
    rw [if_neg (by omega), if_neg (by omega), Char.ofNat_toNat]
  · rw [List.singleton_append, scan, if_neg hlow]
    -- what remains rules out the other forms, which begin with a quote or a backslash
    all_goals simp [hquote, hbackslash]

theorem scan_escaped (s rest : List Char) :
    scan (s.flatMap escapeChar ++ '"' :: rest) = ⟨.ok s, .ok rest⟩ := by
  induction s with
  | nil => simp [scan]
  | cons c s ih =>
    rw [List.flatMap_cons, List.append_assoc, scan_escapeChar, ih]
    rfl

/-! ## Numbers -/

/-- What follows does not go on with a number. -/
def Ends (rest : List Char) : Prop :=
  ∀ c ∈ rest.head?, c.isDigit = false ∧ c ≠ '.' ∧ c ≠ 'e' ∧ c ≠ 'E'

theorem digits_append {ds rest : List Char} (hds : ∀ c ∈ ds, c.isDigit) (h : Ends rest) :
    digits (ds ++ rest) = (ds, rest) := by
  rw [digits, List.takeWhile_append_of_pos hds, List.dropWhile_append_of_pos hds]
  cases rest with
  | nil => simp
  | cons c rest => simp [(h c rfl).1]

/-- A number of more than one digit does not begin with a zero. -/
theorem eq_zero_of_head?_toDigits {n : Nat} (h : (Nat.toDigits 10 n).head? = some '0') : n = 0 := by
  induction n using Nat.strongRecOn with
  | ind n ih =>
    by_cases small : n < 10
    · rw [Nat.toDigits_of_lt_base small] at h
      simpa using h
    · rw [Nat.toDigits_of_base_le (by omega) (by omega),
        List.head?_append_of_ne_nil _ Nat.toDigits_ne_nil] at h
      have none : n / 10 = 0 := ih _ (by omega) h
      omega

theorem afterWhole_ends (first : Char) (negative : Bool) (whole : List Char) {rest : List Char}
    (h : Ends rest) : afterWhole first negative whole rest =
      (wholeNumber first negative (number whole), some rest) := by
  cases rest with
  | nil => rfl
  | cons c rest =>
    obtain ⟨-, point, lower, upper⟩ := h c rfl
    rw [afterWhole, if_neg (by simp [lower, upper])]
    simp [point]

theorem numeral_toDigits (first : Char) (negative : Bool) (n : Nat) {rest : List Char}
    (h : Ends rest) :
    numeral first negative (Nat.toDigits 10 n ++ rest) =
      (wholeNumber first negative n, some rest) := by
  have decimal : ∀ c ∈ Nat.toDigits 10 n, c.isDigit := fun c hc =>
    Nat.isDigit_of_mem_toDigits (by omega) (Nat.le_refl 10) hc
  have value : number (Nat.toDigits 10 n) = n := by
    rw [number, Entity.digits?_toDigits (by omega) (by omega), Option.getD_some]
  rw [numeral, digits_append decimal h]
  dsimp only
  split
  next none => exact absurd none Nat.toDigits_ne_nil
  next zero =>
    obtain rfl := eq_zero_of_head?_toDigits (by rw [zero]; rfl)
    simp [Nat.toDigits_zero] at zero
  · rw [afterWhole_ends first negative _ h, value]

/-! ## Values -/

mutual

/-- The value can be written: nothing is wrong with it, and its numbers are whole, of 64 bits. -/
def Plain : Json → Prop
  | null => True
  | bool _ => True
  | integer n => -0x8000000000000000 ≤ n ∧ n < 0x10000000000000000
  | real => False
  | text _ => True
  | list items ending => PlainItems items ∧ ending = none
  | object fields ending => PlainFields fields ∧ ending = none
  | broken .. => False

def PlainItems : List Json → Prop
  | [] => True
  | j :: rest => Plain j ∧ PlainItems rest

def PlainFields : List (Json × Json) → Prop
  | [] => True
  | (key, j) :: rest => Plain key ∧ Plain j ∧ PlainFields rest

end

theorem skipSpace_cons {c : Char} (h : isSpace c = false) (s : List Char) :
    skipSpace (c :: s) = c :: s := by
  rw [skipSpace, List.dropWhile_cons, h]
  rfl

theorem skipSpace_newLine (level : Nat) (s : List Char) :
    skipSpace (newLine level ++ s) = skipSpace s := by
  have spaces : ∀ c ∈ newLine level, isSpace c := by
    intro c hc
    rw [newLine, List.mem_cons, List.mem_replicate] at hc
    rcases hc with rfl | ⟨-, rfl⟩ <;> rfl
  rw [skipSpace, List.dropWhile_append_of_pos spaces, skipSpace]

theorem valueFor_skipSpace (fuel : Nat) {s t : List Char} (h : skipSpace s = skipSpace t) :
    valueFor fuel s = valueFor fuel t := by
  cases fuel with
  | zero => rfl
  | succ fuel => rw [valueFor, valueFor, h]

theorem render_integer (level : Nat) (n : Int) : renderAt level (integer n) =
    if 0 ≤ n then Nat.toDigits 10 n.toNat else '-' :: Nat.toDigits 10 (-n).toNat := by
  rw [renderAt, Int.toString_eq_repr, Int.repr_eq_if]
  split_ifs <;> simp

theorem toDigits_head (n : Nat) : ∃ c s, Nat.toDigits 10 n = c :: s ∧ c.isDigit := by
  obtain ⟨c, s, hs⟩ := List.exists_cons_of_ne_nil (Nat.toDigits_ne_nil (b := 10) (n := n))
  have first : c ∈ Nat.toDigits 10 n := by simp [hs]
  exact ⟨c, s, hs, Nat.isDigit_of_mem_toDigits (by omega) (Nat.le_refl 10) first⟩

theorem ne_of_isDigit {c x : Char} (h : c.isDigit) (hx : x.isDigit = false) : c ≠ x := by
  rintro rfl
  rw [h] at hx
  cases hx

theorem isSpace_of_isDigit {c : Char} (h : c.isDigit) : isSpace c = false := by
  have other (x : Char) (hx : x.isDigit = false) : c ≠ x := ne_of_isDigit h hx
  simp [isSpace, other ' ' rfl, other '\n' rfl, other '\t' rfl, other '\r' rfl]

/-- A value that can be written begins with a character that no bracket ends with. -/
theorem renderAt_head {j : Json} (h : j.Plain) (level : Nat) :
    ∃ c s, renderAt level j = c :: s ∧ isSpace c = false ∧ c ≠ ']' ∧ c ≠ '\x7d' := by
  cases j with
  | null => exact ⟨'n', _, rfl, by decide⟩
  | bool b => cases b <;> exact ⟨_, _, rfl, by decide⟩
  | integer n =>
    rw [render_integer]
    split_ifs
    · obtain ⟨c, s, hs, digit⟩ := toDigits_head n.toNat
      exact ⟨c, s, hs, isSpace_of_isDigit digit, ne_of_isDigit digit rfl,
        ne_of_isDigit digit rfl⟩
    · exact ⟨'-', _, rfl, by decide⟩
  | real => exact h.elim
  | text s => exact ⟨'"', _, by rw [renderAt, quote]; rfl, by decide⟩
  | list items ending => cases items <;> exact ⟨'[', _, rfl, by decide⟩
  | object fields ending => cases fields <;> exact ⟨'\x7b', _, rfl, by decide⟩
  | broken => exact h.elim

/-- The text is read as the value, whatever follows, with fuel for twice its length. -/
def ReadsAs (s : List Char) (j : Json) : Prop :=
  ∀ fuel rest, 2 * s.length ≤ fuel → Ends rest → valueFor fuel (s ++ rest) = (j, some rest)

theorem readsAs_cons {c : Char} {s : List Char} {j : Json}
    (h : ∀ fuel rest, 2 * s.length < fuel → Ends rest →
      valueFor (fuel + 1) (c :: (s ++ rest)) = (j, some rest)) : ReadsAs (c :: s) j := by
  intro fuel rest hf hr
  rw [List.length_cons] at hf
  obtain ⟨fuel, rfl⟩ : ∃ f, fuel = f + 1 := Nat.exists_eq_add_one.2 (by omega)
  exact h fuel rest (by omega) hr

theorem readsAs_null (level : Nat) : ReadsAs (renderAt level null) null :=
  readsAs_cons fun _ _ _ _ => rfl

theorem readsAs_bool (level : Nat) (b : Bool) : ReadsAs (renderAt level (bool b)) (bool b) := by
  cases b <;> exact readsAs_cons fun _ _ _ _ => rfl

theorem readsAs_text (level : Nat) (s : List Char) :
    ReadsAs (renderAt level (text s)) (text s) := by
  refine readsAs_cons fun fuel rest _ _ => ?_
  have scanned := scan_escaped s rest
  rw [valueFor, skipSpace_cons rfl]
  simp [quoted, scanned]

theorem wholeNumber_of_nonneg (first : Char) {n : Int} (sign : 0 ≤ n) (h : (integer n).Plain) :
    wholeNumber first false n.toNat = integer n := by
  have greatest : n < 0x10000000000000000 := h.2
  rw [wholeNumber, if_neg Bool.false_ne_true, if_pos (by omega), Int.toNat_of_nonneg sign]

theorem wholeNumber_of_neg (first : Char) {n : Int} (sign : ¬0 ≤ n) (h : (integer n).Plain) :
    wholeNumber first true (-n).toNat = integer n := by
  have least : -0x8000000000000000 ≤ n := h.1
  have fits : ((-n).toNat = 0 || 0x8000000000000000 < (-n).toNat) = false := by simp; omega
  rw [wholeNumber, if_pos rfl, fits, if_neg Bool.false_ne_true]
  rw [Int.toNat_of_nonneg (by omega), Int.neg_neg]

theorem readsAs_integer (level : Nat) {n : Int} (h : (integer n).Plain) :
    ReadsAs (renderAt level (integer n)) (integer n) := by
  rw [render_integer]
  split_ifs with sign
  · obtain ⟨c, s, hs, digit⟩ := toDigits_head n.toNat
    have other (x : Char) (hx : x.isDigit = false) : c ≠ x := ne_of_isDigit digit hx
    rw [hs]
    refine readsAs_cons fun fuel rest _ hr => ?_
    have read := numeral_toDigits c false n.toNat hr
    rw [hs, List.cons_append, wholeNumber_of_nonneg c sign h] at read
    rw [valueFor, skipSpace_cons (isSpace_of_isDigit digit)]
    simp only [other '"' rfl, other '[' rfl, other '\x7b' rfl, other '-' rfl, digit, if_true,
      if_false, read]
  · refine readsAs_cons fun fuel rest _ hr => ?_
    have read := numeral_toDigits '-' true (-n).toNat hr
    rw [wholeNumber_of_neg '-' sign h] at read
    rw [valueFor, skipSpace_cons rfl]
    simp only [Char.reduceEq, if_true, if_false, read]

/-! ## Lists and objects -/

theorem ends_of_notDigit {c : Char} (h : c = ',' ∨ c = '\n' ∨ c = ':') (s : List Char) :
    Ends (c :: s) := by
  rintro x ⟨⟩
  rcases h with rfl | rfl | rfl <;> decide

/-- The items after the first are read as the items, up to the closing bracket. -/
def ItemsReadAs (level : Nat) (xs : List Json) : Prop :=
  ∀ {s : List Char} {x : Json}, ReadsAs s x → ∀ (outer fuel : Nat) (rest : List Char),
    2 * (s.length + (renderItems level xs).length) < fuel →
    itemsFor fuel (s ++ renderItems level xs ++ newLine outer ++ ']' :: rest) =
      (x :: xs, none, some rest)

theorem itemsReadAs_nil (level : Nat) : ItemsReadAs level [] := by
  intro s x hx outer fuel rest hf
  obtain ⟨fuel, rfl⟩ : ∃ f, fuel = f + 1 := Nat.exists_eq_add_one.2 (by omega)
  have ends : Ends (newLine outer ++ ']' :: rest) := ends_of_notDigit (.inr (.inl rfl)) _
  have read := hx fuel (newLine outer ++ ']' :: rest) (by omega) ends
  rw [renderItems, List.append_nil, List.append_assoc, itemsFor, read]
  dsimp only
  rw [skipSpace_newLine, skipSpace_cons rfl]
  rfl

theorem itemsFor_newLine (fuel level : Nat) (s : List Char) :
    itemsFor fuel (newLine level ++ s) = itemsFor fuel s := by
  cases fuel with
  | zero => rfl
  | succ fuel => rw [itemsFor, itemsFor, valueFor_skipSpace fuel (skipSpace_newLine level s)]

theorem itemsReadAs_cons {level : Nat} {y : Json} {ys : List Json}
    (hy : ReadsAs (renderAt level y) y) (hys : ItemsReadAs level ys) :
    ItemsReadAs level (y :: ys) := by
  intro s x hx outer fuel rest hf
  obtain ⟨fuel, rfl⟩ : ∃ f, fuel = f + 1 := Nat.exists_eq_add_one.2 (by omega)
  have text : s ++ renderItems level (y :: ys) ++ newLine outer ++ ']' :: rest =
      s ++ ',' :: (newLine level ++
        (renderAt level y ++ renderItems level ys ++ newLine outer ++ ']' :: rest)) := by
    simp [renderItems]
  have length : (renderItems level (y :: ys)).length =
      1 + (newLine level).length + (renderAt level y).length + (renderItems level ys).length := by
    simp [renderItems]
    omega
  have read := hx fuel _ (by omega) (ends_of_notDigit (.inl rfl) (newLine level ++
    (renderAt level y ++ renderItems level ys ++ newLine outer ++ ']' :: rest)))
  have others := hys hy outer fuel rest (by omega)
  rw [text, itemsFor, read]
  dsimp only
  rw [skipSpace_cons rfl]
  simp only [itemsFor_newLine, others]

theorem valueFor_list {c : Char} {s t : List Char} (h : skipSpace s = c :: t) (hc : c ≠ ']')
    (fuel : Nat) : valueFor (fuel + 1) ('[' :: s) =
      (list (itemsFor fuel (c :: t)).1 (itemsFor fuel (c :: t)).2.1,
        (itemsFor fuel (c :: t)).2.2) := by
  rw [valueFor, skipSpace_cons rfl]
  simp only [Char.reduceEq, if_true, if_false, h]
  split
  next same => exact absurd (List.cons.inj same).1 hc
  next none => cases none
  · rfl

/-- A list is read from its first item and what follows it. -/
theorem readsAs_list {level : Nat} {x : Json} {xs : List Json} (plain : x.Plain)
    (hx : ReadsAs (renderAt (level + 1) x) x) (hxs : ItemsReadAs (level + 1) xs) :
    ReadsAs (renderAt level (list (x :: xs) none)) (list (x :: xs) none) := by
  have text : renderAt level (list (x :: xs) none) =
      '[' :: (newLine (level + 1) ++ (renderAt (level + 1) x ++ renderItems (level + 1) xs ++
        newLine level ++ [']'])) := by
    simp [renderAt]
  rw [text]
  refine readsAs_cons fun fuel rest hf _ => ?_
  obtain ⟨c, t, hc, space, bracket, -⟩ := renderAt_head plain (level + 1)
  have items := hxs hx level fuel rest (by simp at hf; omega)
  have first : renderAt (level + 1) x ++ renderItems (level + 1) xs ++ newLine level ++
      ']' :: rest = c :: (t ++ renderItems (level + 1) xs ++ newLine level ++ ']' :: rest) := by
    simp [hc]
  have skipped : skipSpace (newLine (level + 1) ++ (renderAt (level + 1) x ++
      renderItems (level + 1) xs ++ newLine level ++ [']']) ++ rest) =
        c :: (t ++ renderItems (level + 1) xs ++ newLine level ++ ']' :: rest) := by
    rw [List.append_assoc, skipSpace_newLine, ← skipSpace_cons space, ← first]
    simp
  rw [valueFor_list skipped bracket, ← first, items]

theorem valueFor_space (fuel : Nat) (s : List Char) : valueFor fuel (' ' :: s) = valueFor fuel s :=
  valueFor_skipSpace fuel rfl

/-- A field is read, and then what follows it. -/
theorem fieldsFor_field {s t rest : List Char} {k v : Json} (hk : ReadsAs s k) (hv : ReadsAs t v)
    {fuel : Nat} (hf : 2 * (s.length + t.length) ≤ fuel) (hr : Ends rest) :
    fieldsFor (fuel + 1) (s ++ ':' :: ' ' :: (t ++ rest)) =
      match skipSpace rest with
      | ',' :: s =>
        let (fields, ending, rest) := fieldsFor fuel s
        ((k, v) :: fields, ending, rest)
      | '\x7d' :: s => ([(k, v)], none, some s)
      | [] => ([(k, v)], some .truncated, none)
      | _ => ([(k, v)], some .malformed, none) := by
  have key := hk fuel (':' :: ' ' :: (t ++ rest)) (by omega) (ends_of_notDigit (.inr (.inr rfl)) _)
  have value := hv fuel rest (by omega) hr
  rw [fieldsFor, key]
  dsimp only
  rw [skipSpace_cons rfl]
  dsimp only
  rw [if_pos rfl, valueFor_space]
  generalize valueFor fuel (t ++ rest) = read at value
  subst value
  rfl

/-- The fields after the first are read as the fields, up to the closing brace. -/
def FieldsReadAs (level : Nat) (fields : List (Json × Json)) : Prop :=
  ∀ {s t : List Char} {k v : Json}, ReadsAs s k → ReadsAs t v →
    ∀ (outer fuel : Nat) (rest : List Char),
      2 * (s.length + t.length + (renderFields level fields).length) < fuel →
      fieldsFor fuel (s ++ ':' :: ' ' :: (t ++ (renderFields level fields ++ newLine outer ++
        '\x7d' :: rest))) = ((k, v) :: fields, none, some rest)

theorem fieldsReadAs_nil (level : Nat) : FieldsReadAs level [] := by
  intro s t k v hk hv outer fuel rest hf
  obtain ⟨fuel, rfl⟩ : ∃ f, fuel = f + 1 := Nat.exists_eq_add_one.2 (by omega)
  have ends : Ends (newLine outer ++ '\x7d' :: rest) := ends_of_notDigit (.inr (.inl rfl)) _
  rw [renderFields, List.nil_append, fieldsFor_field hk hv (by omega) ends, skipSpace_newLine,
    skipSpace_cons rfl]
  rfl

theorem fieldsFor_newLine (fuel level : Nat) (s : List Char) :
    fieldsFor fuel (newLine level ++ s) = fieldsFor fuel s := by
  cases fuel with
  | zero => rfl
  | succ fuel => rw [fieldsFor, fieldsFor, valueFor_skipSpace fuel (skipSpace_newLine level s)]

theorem fieldsReadAs_cons {level : Nat} {k' v' : Json} {fields : List (Json × Json)}
    (hk' : ReadsAs (renderAt level k') k') (hv' : ReadsAs (renderAt level v') v')
    (hfields : FieldsReadAs level fields) : FieldsReadAs level ((k', v') :: fields) := by
  intro s t k v hk hv outer fuel rest hf
  obtain ⟨fuel, rfl⟩ : ∃ f, fuel = f + 1 := Nat.exists_eq_add_one.2 (by omega)
  have text : renderFields level ((k', v') :: fields) ++ newLine outer ++ '\x7d' :: rest =
      ',' :: (newLine level ++ (renderAt level k' ++ ':' :: ' ' :: (renderAt level v' ++
        (renderFields level fields ++ newLine outer ++ '\x7d' :: rest)))) := by
    simp [renderFields]
  have length : (renderFields level ((k', v') :: fields)).length =
      3 + (newLine level).length + (renderAt level k').length + (renderAt level v').length +
        (renderFields level fields).length := by
    simp [renderFields]
    omega
  have others := hfields hk' hv' outer fuel rest (by omega)
  rw [text, fieldsFor_field hk hv (by omega) (ends_of_notDigit (.inl rfl) _), skipSpace_cons rfl]
  simp only [fieldsFor_newLine, others]

theorem valueFor_object {c : Char} {s t : List Char} (h : skipSpace s = c :: t) (hc : c ≠ '\x7d')
    (fuel : Nat) : valueFor (fuel + 1) ('\x7b' :: s) =
      (object (fieldsFor fuel (c :: t)).1 (fieldsFor fuel (c :: t)).2.1,
        (fieldsFor fuel (c :: t)).2.2) := by
  rw [valueFor, skipSpace_cons rfl]
  simp only [Char.reduceEq, if_true, if_false, h]
  split
  next same => exact absurd (List.cons.inj same).1 hc
  next none => cases none
  · rfl

/-- An object is read from its first field and what follows it. -/
theorem readsAs_object {level : Nat} {k v : Json} {fields : List (Json × Json)} (plain : k.Plain)
    (hk : ReadsAs (renderAt (level + 1) k) k) (hv : ReadsAs (renderAt (level + 1) v) v)
    (hfields : FieldsReadAs (level + 1) fields) :
    ReadsAs (renderAt level (object ((k, v) :: fields) none)) (object ((k, v) :: fields) none) := by
  have text : renderAt level (object ((k, v) :: fields) none) =
      '\x7b' :: (newLine (level + 1) ++ (renderAt (level + 1) k ++ ':' :: ' ' ::
        (renderAt (level + 1) v ++ (renderFields (level + 1) fields ++ newLine level ++
          ['\x7d'])))) := by
    simp [renderAt]
  rw [text]
  refine readsAs_cons fun fuel rest hf _ => ?_
  obtain ⟨c, t, hc, space, -, brace⟩ := renderAt_head plain (level + 1)
  have read := hfields hk hv level fuel rest (by simp at hf; omega)
  have first : renderAt (level + 1) k ++ ':' :: ' ' :: (renderAt (level + 1) v ++
      (renderFields (level + 1) fields ++ newLine level ++ '\x7d' :: rest)) =
        c :: (t ++ ':' :: ' ' :: (renderAt (level + 1) v ++
          (renderFields (level + 1) fields ++ newLine level ++ '\x7d' :: rest))) := by
    rw [hc]
    rfl
  have skipped : skipSpace (newLine (level + 1) ++ (renderAt (level + 1) k ++ ':' :: ' ' ::
      (renderAt (level + 1) v ++ (renderFields (level + 1) fields ++ newLine level ++
        ['\x7d']))) ++ rest) =
          c :: (t ++ ':' :: ' ' :: (renderAt (level + 1) v ++
            (renderFields (level + 1) fields ++ newLine level ++ '\x7d' :: rest))) := by
    rw [List.append_assoc, skipSpace_newLine, ← skipSpace_cons space, ← first]
    simp
  rw [valueFor_object skipped brace, ← first, read]

/-! ## All values -/

mutual

/-- **A value that is written is read back**, whatever follows. -/
theorem readsAs_renderAt (level : Nat) : (j : Json) → j.Plain → ReadsAs (renderAt level j) j
  | null, _ => readsAs_null level
  | bool b, _ => readsAs_bool level b
  | integer _, h => readsAs_integer level h
  | real, h => h.elim
  | text s, _ => readsAs_text level s
  | list [] _, ⟨_, hend⟩ => by
    rw [hend]
    exact readsAs_cons fun fuel rest _ _ => rfl
  | list (x :: xs) _, ⟨⟨hx, hxs⟩, hend⟩ => by
    rw [hend]
    have first := readsAs_renderAt (level + 1) x hx
    exact readsAs_list hx first (itemsReadAs_render (level + 1) xs hxs)
  | object [] _, ⟨_, hend⟩ => by
    rw [hend]
    exact readsAs_cons fun fuel rest _ _ => rfl
  | object ((k, v) :: fields) _, ⟨⟨hk, hv, hfields⟩, hend⟩ => by
    rw [hend]
    exact readsAs_object hk (readsAs_renderAt (level + 1) k hk) (readsAs_renderAt (level + 1) v hv)
      (fieldsReadAs_render (level + 1) fields hfields)
  | broken .., h => h.elim

theorem itemsReadAs_render (level : Nat) :
    (xs : List Json) → PlainItems xs → ItemsReadAs level xs
  | [], _ => itemsReadAs_nil level
  | y :: ys, ⟨hy, hys⟩ =>
    itemsReadAs_cons (readsAs_renderAt level y hy) (itemsReadAs_render level ys hys)

theorem fieldsReadAs_render (level : Nat) :
    (fields : List (Json × Json)) → PlainFields fields → FieldsReadAs level fields
  | [], _ => fieldsReadAs_nil level
  | (k, v) :: fields, ⟨hk, hv, hfields⟩ =>
    fieldsReadAs_cons (readsAs_renderAt level k hk) (readsAs_renderAt level v hv)
      (fieldsReadAs_render level fields hfields)

end

/-- The text of a value holds that value and nothing else. -/
theorem value_render {j : Json} (h : j.Plain) : value j.render = (j, some []) := by
  have read := readsAs_renderAt 0 j h (2 * j.render.length + 1) [] (by rw [render]; omega)
    (fun _ hc => by cases hc)
  rwa [List.append_nil] at read

/-- What is written is decoded. -/
theorem decode_render {α : Type} {d : Decoder α} {j : Json} (h : j.Plain) :
    decode d j.render = d j := by
  rw [decode, value_render h]
  cases decoded : d j with
  | ok x => simp only [decoded]; rfl
  | error f => simp only [decoded]

end NoteDesk.Json
