import Mathlib.Data.List.Induction
import Mathlib.Data.Nat.Digits.Defs
import Mathlib.Tactic.Common

/-!
# Decimal numerals

Numbers in a text, as a grammar has them: one or more decimal digits, with no
sign and no white space, and zeros in front as they come. The value of a numeral
is that of its digits in base ten, which a reader computes from the left
(`foldl_value`).
-/

namespace Decimal

/-- The byte is a decimal digit. -/
def IsDigit (c : UInt8) : Prop := 0x30 ≤ c ∧ c ≤ 0x39

instance (c : UInt8) : Decidable (IsDigit c) := inferInstanceAs (Decidable (_ ∧ _))

/-- One or more digits. -/
def Numeral (s : List UInt8) : Prop := s ≠ [] ∧ ∀ c ∈ s, IsDigit c

instance (s : List UInt8) : Decidable (Numeral s) := inferInstanceAs (Decidable (_ ∧ _))

/-- The value of a digit. -/
def digit (c : UInt8) : Nat := (c - 0x30).toNat

/-- The value of a numeral. -/
def value (s : List UInt8) : Nat := Nat.ofDigits 10 (s.reverse.map digit)

variable {s : List UInt8} {c : UInt8}

/-- A numeral starts with a digit. -/
theorem Numeral.exists_cons (h : Numeral s) : ∃ d rest, s = d :: rest ∧ IsDigit d := by
  obtain ⟨d, rest, rfl⟩ := List.exists_cons_of_ne_nil h.1
  exact ⟨d, rest, rfl, h.2 d List.mem_cons_self⟩

theorem digit_lt (h : IsDigit c) : digit c < 10 := by
  have hle : 0x30 ≤ c := h.1
  have hto := UInt8.le_iff_toNat_le.1 h.2
  rw [digit, UInt8.toNat_sub_of_le _ _ hle]
  have h30 : (0x30 : UInt8).toNat = 48 := rfl
  have h39 : (0x39 : UInt8).toNat = 57 := rfl
  omega

theorem value_append_digit : value (s ++ [c]) = 10 * value s + digit c := by
  rw [value, List.reverse_append, List.reverse_singleton, List.singleton_append, List.map_cons,
    Nat.ofDigits_cons, value, Nat.add_comm]

/-- The value, digit by digit from the left. -/
theorem foldl_value : s.foldl (fun n d => 10 * n + digit d) 0 = value s := by
  induction s using List.reverseRecOn with
  | nil => rfl
  | append_singleton s c ih => rw [List.foldl_append, ih, value_append_digit]; rfl

theorem value_lt (h : ∀ c ∈ s, IsDigit c) : value s < 10 ^ s.length := by
  have hlt := Nat.ofDigits_lt_base_pow_length (b := 10) (l := s.reverse.map digit) (by decide)
  rw [List.length_map, List.length_reverse] at hlt
  refine hlt fun x hx => ?_
  obtain ⟨c, hc, rfl⟩ := List.mem_map.1 hx
  exact digit_lt (h c (List.mem_reverse.1 hc))

end Decimal
