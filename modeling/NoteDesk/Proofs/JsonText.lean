import Mathlib.Data.List.Forall2
import NoteDesk.Proofs.Json
import NoteDesk.Proofs.Utf8

/-!
# JSON as others write it

An object can be written in many ways: with blanks around everything that it is made of, and with
each character of its texts as it is or escaped.

* `Json.Escapes` are the ways to write a character within quotes, `Json.Spells` those to write a
  value that holds no others, and `Json.SpellsObject` those to write an object of such values.
* `Json.scan_escapes` and `Json.Spells.readsAs`: they are all read as what they write.
* `Json.decode_object`: so is a text that holds an object and nothing else.
-/

namespace NoteDesk.Json

variable {c : Char} {n : Nat} {s rest digits : List Char}

/-! ## Texts -/

/-- The characters that are written by a letter after a backslash. -/
def letters : List (Char × Char) :=
  [('"', '"'), ('\\', '\\'), ('/', '/'), ('\x08', 'b'), ('\x0C', 'f'), ('\n', 'n'), ('\r', 'r'),
    ('\t', 't')]

/-- A number of 16 bits in four hexadecimal digits. -/
def hexUnit (n : Nat) : List Char :=
  [hexDigit (n / 0x1000), hexDigit (n / 0x100 % 16), hexDigit (n / 16 % 16), hexDigit (n % 16)]

/-- The ways to write a character within quotes. One of more than 16 bits has two units. -/
inductive Escapes (c : Char) : List Char → Prop where
  | plain (noQuote : c ≠ '"') (noBackslash : c ≠ '\\') (high : 0x20 ≤ c.toNat) : Escapes c [c]
  | letter {x : Char} (h : (c, x) ∈ letters) : Escapes c ['\\', x]
  | unit {digits : List Char} (small : c.toNat < 0x10000)
    (h : digits.map Char.toLower = hexUnit c.toNat) : Escapes c ('\\' :: 'u' :: digits)
  | pair {first second : List Char} (large : 0x10000 ≤ c.toNat)
    (h : first.map Char.toLower = hexUnit (0xD800 + (c.toNat - 0x10000) / 0x400))
    (h' : second.map Char.toLower = hexUnit (0xDC00 + (c.toNat - 0x10000) % 0x400)) :
    Escapes c ('\\' :: 'u' :: (first ++ '\\' :: 'u' :: second))

theorem exists_unit? (hn : n < 0x10000) (h : digits.map Char.toLower = hexUnit n) :
    ∃ w x y z, digits = [w, x, y, z] ∧ unit? w x y z = some n := by
  have length : digits.length = 4 := by rw [← List.length_map Char.toLower, h]; rfl
  obtain ⟨w, x, y, z, rfl⟩ : ∃ w x y z, digits = [w, x, y, z] := by
    match digits, length with
    | [w, x, y, z], _ => exact ⟨w, x, y, z, rfl⟩
  refine ⟨w, x, y, z, rfl, ?_⟩
  have digit {d : Nat} (hd : d < 16) : Entity.digit? 16 (hexDigit d) = some d :=
    Entity.digit?_digitChar (Nat.le_refl 16) hd
  rw [unit?, ← Entity.digits?_map_toLower, h, hexUnit]
  simp only [Entity.digits?, digit (show n / 0x1000 < 16 by omega),
    digit (show n / 0x100 % 16 < 16 by omega), digit (show n / 16 % 16 < 16 by omega),
    digit (show n % 16 < 16 by omega), Option.bind_some, Option.some.injEq]
  omega

theorem scan_letter : ∀ e ∈ letters, ∀ s, scan ('\\' :: e.2 :: s) = (scan s).push e.1 := by
  simp [letters, scan, escaped?]

theorem not_surrogate (c : Char) : ¬(0xD800 ≤ c.toNat ∧ c.toNat ≤ 0xDFFF) := by
  have valid := c.valid
  simp only [UInt32.isValidChar, Nat.isValidChar, Char.toNat_val] at valid
  omega

/-- **However a character is escaped, it is read as itself.** -/
theorem scan_escapes {written : List Char} (h : Escapes c written) (s : List Char) :
    scan (written ++ s) = (scan s).push c := by
  have whole := not_surrogate c
  cases h with
  | plain noQuote noBackslash high =>
    rw [List.singleton_append, scan, if_neg (by omega)]
    all_goals simp [noQuote, noBackslash]
  | letter h => exact scan_letter _ h s
  | unit small h =>
    obtain ⟨w, x, y, z, rfl, read⟩ := exists_unit? small h
    simp only [List.cons_append, List.nil_append]
    rw [scan]
    simp only [read]
    rw [if_neg (by omega), if_neg (by omega), Char.ofNat_toNat]
  | pair large h h' =>
    have bound := Utf8.toNat_lt c
    obtain ⟨w, x, y, z, rfl, first⟩ := exists_unit? (by omega) h
    obtain ⟨w', x', y', z', rfl, second⟩ := exists_unit? (by omega) h'
    have half : secondHalf ('\\' :: 'u' :: w' :: x' :: y' :: z' :: s) =
        .ok (0xDC00 + (c.toNat - 0x10000) % 0x400) := by
      simp only [secondHalf, second]
      rw [if_pos (by omega)]
    have sum : (0xD800 + (c.toNat - 0x10000) / 0x400 - 0xD800) * 0x400 +
        (0xDC00 + (c.toNat - 0x10000) % 0x400 - 0xDC00) + 0x10000 = c.toNat := by
      omega
    simp only [List.cons_append, List.nil_append]
    rw [scan]
    simp only [first, half]
    rw [if_neg (by omega), if_pos (by omega), sum, Char.ofNat_toNat]
    rfl

theorem scan_flatten {parts : List (List Char)} (h : List.Forall₂ Escapes s parts)
    (rest : List Char) : scan (parts.flatten ++ '"' :: rest) = ⟨.ok s, .ok rest⟩ := by
  induction h with
  | nil => simp [scan]
  | cons first _ ih =>
    rw [List.flatten_cons, List.append_assoc, scan_escapes first, ih]
    rfl

/-! ## Values -/

/-- The ways to write a value that holds no others. Whole numbers are in decimal digits. -/
inductive Spells : Json → List Char → Prop where
  | null : Spells null "null".toList
  | bool (b : Bool) : Spells (bool b) (if b then "true" else "false").toList
  | integer {n : Int} (h : (integer n).Plain) : Spells (integer n) (toString n).toList
  | text {s : List Char} {parts : List (List Char)} (h : List.Forall₂ Escapes s parts) :
    Spells (text s) ('"' :: (parts.flatten ++ ['"']))

theorem readsAs_quoted {parts : List (List Char)} (h : List.Forall₂ Escapes s parts) :
    ReadsAs ('"' :: (parts.flatten ++ ['"'])) (text s) := by
  refine readsAs_cons fun fuel rest _ _ => ?_
  have scanned := scan_flatten h rest
  rw [List.append_assoc, List.singleton_append, valueFor, skipSpace_cons rfl]
  simp [quoted, scanned]

/-- **However a value is written, it is read**, whatever follows. -/
theorem Spells.readsAs {j : Json} (h : Spells j s) : ReadsAs s j := by
  cases h with
  | null => simpa only [renderAt] using readsAs_null 0
  | bool b => simpa only [renderAt] using readsAs_bool 0 b
  | integer h => simpa only [renderAt] using readsAs_integer 0 h
  | text h => exact readsAs_quoted h

/-- A text can be written as it is, unless it has characters that must be escaped. -/
theorem spells_unescaped (h : ∀ c ∈ s, c ≠ '"' ∧ c ≠ '\\' ∧ 0x20 ≤ c.toNat) :
    Spells (text s) ('"' :: (s ++ ['"'])) := by
  have parts : List.Forall₂ Escapes s (s.map fun c => [c]) :=
    (List.forall₂_map_right_iff (R := Escapes)).2
      (List.forall₂_same.2 fun c hc => .plain (h c hc).1 (h c hc).2.1 (h c hc).2.2)
  have flat : (s.map fun c => [c]).flatten = s := by
    rw [← List.flatMap_def, List.flatMap_singleton']
  simpa only [flat] using Spells.text parts

/-! ## Objects -/

/-- The text may stand wherever JSON leaves room. -/
def Spaces (s : List Char) : Prop :=
  ∀ c ∈ s, isSpace c

/-- The ways to write a field. -/
inductive SpellsField : Json × Json → List Char → Prop where
  | intro {name key value before between after behind : List Char} {j : Json}
    (hkey : Spells (text name) key) (hvalue : Spells j value) (hbefore : Spaces before)
    (hbetween : Spaces between) (hafter : Spaces after) (hbehind : Spaces behind) :
    SpellsField (text name, j)
      (before ++ (key ++ (between ++ ':' :: (after ++ (value ++ behind)))))

/-- The ways to write an object of values that hold no others. -/
inductive SpellsObject : List (Json × Json) → List Char → Prop where
  | empty {room : List Char} (h : Spaces room) : SpellsObject [] ('\x7b' :: (room ++ ['\x7d']))
  | fields {fields : List (Json × Json)} {parts : List (List Char)}
    (h : List.Forall₂ SpellsField fields parts) (ne : parts ≠ []) :
    SpellsObject fields ('\x7b' :: ([','].intercalate parts ++ ['\x7d']))

theorem skipSpace_append (h : Spaces s) (t : List Char) : skipSpace (s ++ t) = skipSpace t :=
  List.dropWhile_append_of_pos h

theorem ends_append (h : Spaces s) (hrest : Ends rest) : Ends (s ++ rest) := by
  cases s with
  | nil => exact hrest
  | cons c s =>
    rintro x ⟨⟩
    have space := h c List.mem_cons_self
    simp only [isSpace, Bool.or_eq_true, beq_iff_eq] at space
    rcases space with ((rfl | rfl) | rfl) | rfl <;> decide

theorem fieldsFor_skipSpace (fuel : Nat) {s t : List Char} (h : skipSpace s = skipSpace t) :
    fieldsFor fuel s = fieldsFor fuel t := by
  cases fuel with
  | zero => rfl
  | succ fuel => rw [fieldsFor, fieldsFor, valueFor_skipSpace fuel h]

section Field

variable {k j : Json} {fuel : Nat}

/-- A field is read as its key, a colon and its value. -/
theorem SpellsField.reads (h : SpellsField (k, j) s) (hf : 2 * s.length ≤ fuel)
    (hrest : Ends rest) : ∃ between after behind, Spaces between ∧ Spaces behind ∧
      valueFor fuel (s ++ rest) = (k, some (between ++ ':' :: after)) ∧
      valueFor fuel after = (j, some (behind ++ rest)) := by
  cases h with
  | @intro name key value before between after behind _ hkey hvalue hbefore hbetween hafter hbehind =>
    simp only [List.length_append, List.length_cons] at hf
    refine ⟨between, after ++ (value ++ (behind ++ rest)), behind, hbetween, hbehind, ?_, ?_⟩
    · rw [valueFor_skipSpace fuel (t := key ++ (between ++ ':' :: (after ++ (value ++ (behind ++
        rest))))) (by simpa using skipSpace_append hbefore _)]
      exact hkey.readsAs fuel _ (by omega)
        (ends_append hbetween (ends_of_notDigit (.inr (.inr rfl)) _))
    · rw [valueFor_skipSpace fuel (skipSpace_append hafter _)]
      exact hvalue.readsAs fuel _ (by omega) (ends_append hbehind hrest)

theorem fieldsFor_comma (h : SpellsField (k, j) s) (hf : 2 * s.length ≤ fuel) (rest : List Char) :
    fieldsFor (fuel + 1) (s ++ ',' :: rest) =
      ((k, j) :: (fieldsFor fuel rest).1, (fieldsFor fuel rest).2) := by
  obtain ⟨between, after, behind, hbetween, hbehind, key, value⟩ :=
    h.reads hf (ends_of_notDigit (.inl rfl) rest)
  rw [fieldsFor, key]
  dsimp only
  rw [skipSpace_append hbetween, skipSpace_cons rfl]
  simp only [if_true, value]
  rw [skipSpace_append hbehind, skipSpace_cons rfl]
  rfl

theorem fieldsFor_brace (h : SpellsField (k, j) s) (hf : 2 * s.length ≤ fuel) (rest : List Char) :
    fieldsFor (fuel + 1) (s ++ '\x7d' :: rest) = ([(k, j)], none, some rest) := by
  have ends : Ends ('\x7d' :: rest) := by
    rintro x ⟨⟩
    decide
  obtain ⟨between, after, behind, hbetween, hbehind, key, value⟩ := h.reads hf ends
  rw [fieldsFor, key]
  dsimp only
  rw [skipSpace_append hbetween, skipSpace_cons rfl]
  simp only [if_true, value]
  rw [skipSpace_append hbehind, skipSpace_cons rfl]
  rfl

end Field

/-- Fields are read up to the closing brace. -/
theorem fieldsFor_spelled {fields : List (Json × Json)} {parts : List (List Char)}
    (h : List.Forall₂ SpellsField fields parts) (ne : parts ≠ []) {fuel : Nat}
    (hf : 2 * ([','].intercalate parts).length < fuel) (rest : List Char) :
    fieldsFor fuel ([','].intercalate parts ++ '\x7d' :: rest) = (fields, none, some rest) := by
  induction h generalizing fuel with
  | nil => exact absurd rfl ne
  | @cons f part fields parts first others ih =>
    obtain ⟨fuel, rfl⟩ : ∃ g, fuel = g + 1 := Nat.exists_eq_add_one.2 (by omega)
    cases others with
    | nil =>
      rw [List.intercalate_singleton] at hf ⊢
      exact fieldsFor_brace first (by omega) rest
    | @cons _ next _ parts _ _ =>
      rw [List.intercalate_cons_cons] at hf ⊢
      simp only [List.length_append, List.length_singleton] at hf
      have enough : 2 * ([','].intercalate (next :: parts)).length < fuel := by omega
      have later := ih (List.cons_ne_nil _ _) enough
      rw [List.append_assoc, List.append_assoc, List.singleton_append,
        fieldsFor_comma first (by omega), later]

/-- A field begins with a quote, and so do fields. -/
theorem SpellsField.quoted {f : Json × Json} (h : SpellsField f s) (rest : List Char) :
    ∃ t, skipSpace (s ++ rest) = '"' :: t := by
  cases h with
  | intro hkey _ hbefore _ _ _ =>
    rw [List.append_assoc, skipSpace_append hbefore]
    cases hkey with
    | text _ => exact ⟨_, rfl⟩

theorem skipSpace_fields {fields : List (Json × Json)} {parts : List (List Char)}
    (h : List.Forall₂ SpellsField fields parts) (ne : parts ≠ []) (rest : List Char) :
    ∃ t, skipSpace ([','].intercalate parts ++ rest) = '"' :: t := by
  cases h with
  | nil => exact absurd rfl ne
  | cons first others =>
    cases others with
    | nil =>
      rw [List.intercalate_singleton]
      exact first.quoted rest
    | cons next others =>
      rw [List.intercalate_cons_cons, List.append_assoc, List.append_assoc]
      exact first.quoted _

/-- **However an object is written, it is read**, whatever follows. -/
theorem valueFor_spelled {fields : List (Json × Json)} (h : SpellsObject fields s) {fuel : Nat}
    (hf : 2 * s.length ≤ fuel) (rest : List Char) :
    valueFor (fuel + 1) (s ++ rest) = (object fields none, some rest) := by
  cases h with
  | @empty room h =>
    have skipped : skipSpace (room ++ ['\x7d'] ++ rest) = '\x7d' :: rest := by
      rw [List.append_assoc, skipSpace_append h]
      rfl
    rw [List.cons_append, valueFor, skipSpace_cons rfl]
    simp only [Char.reduceEq, if_true, if_false, skipped]
  | @fields fields parts h ne =>
    have text : '\x7b' :: ([','].intercalate parts ++ ['\x7d']) ++ rest =
        '\x7b' :: ([','].intercalate parts ++ '\x7d' :: rest) := by
      simp
    have enough : 2 * ([','].intercalate parts).length < fuel := by
      simp only [List.length_cons, List.length_append] at hf
      omega
    have read := fieldsFor_spelled h ne enough rest
    obtain ⟨t, quote⟩ := skipSpace_fields h ne ('\x7d' :: rest)
    have same : skipSpace ('"' :: t) = '"' :: t := rfl
    rw [← fieldsFor_skipSpace fuel (same.trans quote.symm)] at read
    rw [text, valueFor_object quote (by decide), read]

/-- **A text that holds an object and nothing else is decoded as that object.** -/
theorem decode_object {α : Type} {d : Decoder α} {fields : List (Json × Json)}
    {before after : List Char} (h : SpellsObject fields s) (hbefore : Spaces before)
    (hafter : Spaces after) : decode d (before ++ (s ++ after)) = d (object fields none) := by
  have length : 2 * s.length ≤ 2 * (before ++ (s ++ after)).length := by
    simp only [List.length_append]
    omega
  have read : value (before ++ (s ++ after)) = (object fields none, some after) := by
    rw [value, valueFor_skipSpace _ (skipSpace_append hbefore _), valueFor_spelled h length]
  have blank : skipSpace after = [] := by
    rw [← List.append_nil after, skipSpace_append hafter]
    rfl
  rw [decode, read]
  cases decoded : d (object fields none) with
  | ok x => simp only [decoded, blank]; rfl
  | error f => simp only [decoded]

end NoteDesk.Json
