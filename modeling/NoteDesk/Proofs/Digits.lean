import Mathlib.Data.List.Basic
import NoteDesk.Json.Parse
import NoteDesk.Json.Render
import NoteDesk.Service

/-!
# Digits

* `Entity.digits?_toDigits`: the digits of a number write that number, in bases up to sixteen, and
  so they do in capitals (`Entity.digits?_map_toLower`).
* `Guid.ofNumber_inj`: so identifiers of different numbers differ.
-/

namespace NoteDesk

namespace Entity

variable {b : Nat}

theorem toNat_digitChar :
    ∀ d < 16, (Nat.digitChar d).toNat = if d < 10 then 0x30 + d else 0x57 + d := by
  decide

theorem digit?_digitChar (hb : b ≤ 16) {d : Nat} (h : d < b) :
    digit? b (Nat.digitChar d) = some d := by
  have number := toNat_digitChar d (by omega)
  unfold digit?
  by_cases decimal : d < 10
  · rw [if_pos decimal] at number
    simp only [number]
    rw [if_pos (by omega)]
    simp [h]
  · rw [if_neg decimal] at number
    simp only [number]
    rw [if_neg (by omega), if_neg (by omega), if_pos (by omega)]
    simp [h]

theorem digits?_append (n : Nat) (s t : List Char) :
    digits? b n (s ++ t) = (digits? b n s).bind fun n => digits? b n t := by
  induction s generalizing n with
  | nil => rfl
  | cons c s ih =>
    rw [List.cons_append, digits?, digits?, Option.bind_assoc]
    exact congrArg _ (funext fun d => ih _)

/-- **The digits of a number write that number.** -/
theorem digits?_toDigits (hb : 1 < b) (hb' : b ≤ 16) (n : Nat) :
    digits? b 0 (Nat.toDigits b n) = some n := by
  induction n using Nat.strongRecOn with
  | ind n ih =>
    by_cases small : n < b
    · rw [Nat.toDigits_of_lt_base small, digits?, digit?_digitChar hb' small]
      simp [digits?]
    · have last : n % b < b := Nat.mod_lt n (by omega)
      have fewer : n / b < n := Nat.div_lt_self (by omega) hb
      rw [Nat.toDigits_of_base_le hb (by omega), digits?_append, ih _ fewer, Option.bind_some]
      rw [digits?, digit?_digitChar hb' last, Option.bind_some, digits?, Nat.mul_comm, Nat.div_add_mod]

theorem digits?_replicate_zero (count : Nat) (s : List Char) :
    digits? 16 0 (List.replicate count '0' ++ s) = digits? 16 0 s := by
  induction count with
  | zero => rfl
  | succ count ih =>
    have zero : digit? 16 '0' = some 0 := by decide
    rw [List.replicate_succ, List.cons_append, digits?, zero]
    exact ih

/-! ## Capitals -/

theorem toNat_toLower (c : Char) :
    c.toLower.toNat = if 65 ≤ c.toNat ∧ c.toNat ≤ 90 then c.toNat + 32 else c.toNat := by
  have capital : c.val ≥ 'A'.val ∧ c.val ≤ 'Z'.val ↔ 65 ≤ c.toNat ∧ c.toNat ≤ 90 := by
    simp only [ge_iff_le, UInt32.le_iff_toNat_le]
    rfl
  unfold Char.toLower
  split_ifs with h h' h'
  · have sum : (c.val + ('a'.val - 'A'.val)).toNat = (c.val.toNat + 32) % 2 ^ 32 := by
      rw [UInt32.toNat_add]
      rfl
    exact sum.trans (Nat.mod_eq_of_lt (by change c.toNat + 32 < _; omega))
  · exact absurd (capital.1 h) h'
  · exact absurd (capital.2 h') h
  · rfl

theorem digit?_toLower (b : Nat) (c : Char) : digit? b c.toLower = digit? b c := by
  have lower := toNat_toLower c
  by_cases capital : 65 ≤ c.toNat ∧ c.toNat ≤ 90
  · rw [if_pos capital] at lower
    simp only [digit?, lower]
    rw [if_neg (by omega), if_neg (by omega)]
    -- of the capitals, those up to F are digits
    by_cases digit : c.toNat ≤ 0x46
    · rw [if_pos (by omega), if_neg (by omega), if_pos (by omega)]
      exact congrArg _ (congrArg some (by omega))
    · rw [if_neg (by omega), if_neg (by omega), if_neg (by omega), if_neg (by omega)]
  · rw [if_neg capital] at lower
    simp only [digit?, lower]

/-- Capitals write the same number. -/
theorem digits?_map_toLower (n : Nat) (s : List Char) :
    digits? b n (s.map Char.toLower) = digits? b n s := by
  induction s generalizing n with
  | nil => rfl
  | cons c s ih =>
    rw [List.map_cons, digits?, digits?, digit?_toLower]
    exact congrArg _ (funext fun d => ih _)

/-- What writes a number is digits. -/
theorem isSome_digit?_of_mem {n m : Nat} {s : List Char} (h : digits? b n s = some m) {c : Char}
    (hc : c ∈ s) : (digit? b c).isSome := by
  induction s generalizing n with
  | nil => cases hc
  | cons d s ih =>
    obtain ⟨value, hd, rest⟩ := Option.bind_eq_some_iff.1 h
    rcases List.mem_cons.1 hc with rfl | hc
    · rw [hd]
      rfl
    · exact ih rest hc

end Entity

namespace Guid

/-- Identifiers of different numbers differ. -/
theorem ofNumber_inj {i j : Nat} (h : ofNumber i = ofNumber j) : i = j := by
  have same : digits i = digits j := List.append_cancel_left (String.ofList_injective h)
  have number (n : Nat) : Entity.digits? 16 0 (digits n) = some n := by
    rw [digits, Entity.digits?_replicate_zero, Entity.digits?_toDigits (by omega) (by omega)]
  exact Option.some.inj ((number i).symm.trans (same ▸ number j))

theorem ofNumber_ne_empty (n : Nat) : ofNumber n ≠ "" := by
  intro empty
  have nothing : "00000000-0000-4000-8000-".toList ++ digits n = [] :=
    String.ofList_injective (empty.trans String.ofList_nil.symm)
  exact absurd (List.append_eq_nil_iff.1 nothing).1 (by decide)

end Guid
end NoteDesk
