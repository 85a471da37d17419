import Mathlib.Algebra.Order.Ring.Int
import Mathlib.Tactic.Common

/-!
# Masks over machine words

A condition as a word: all ones where it holds, zero where it does not. Code
that must not branch on a secret computes with such masks. The conditions are
read off the top bit of a word (`neg_top`), which is the borrow of a
subtraction for the order (`msb_lt`), and for equality the borrow of one from
the difference. The latter says more than equality: a difference above half the
range has the top bit too (`msb_eq`).
-/

namespace Words

variable {w : Nat}

/-- All ones for a condition that holds, zero for one that does not. -/
def mask (w : Nat) (b : Bool) : BitVec w := if b then BitVec.allOnes w else 0#w

@[simp] theorem mask_true : mask w true = BitVec.allOnes w := rfl

@[simp] theorem mask_false : mask w false = 0#w := rfl

@[simp] theorem not_mask (b : Bool) : ~~~mask w b = mask w !b := by
  cases b <;> simp

@[simp] theorem mask_and (b c : Bool) : mask w b &&& mask w c = mask w (b && c) := by
  cases b <;> cases c <;> simp

theorem mask_and_word (b : Bool) (x : BitVec w) : mask w b &&& x = if b then x else 0#w := by
  cases b <;> simp

/-- A mask that is cut is a mask. -/
theorem setWidth_mask {v : Nat} (h : v ≤ w) (b : Bool) : (mask w b).setWidth v = mask v b := by
  cases b with
  | false => simp
  | true =>
    refine BitVec.eq_of_getElem_eq fun i hi => ?_
    simp [mask, show i < w by omega]

/-! ## The top bit -/

section Top

variable {x a b : BitVec w}

/-- The top bit as a word. -/
theorem top_eq (hw : 0 < w) : x >>> (w - 1) = if x.msb then 1#w else 0#w := by
  refine BitVec.eq_of_getElem_eq fun i hi => ?_
  simp only [BitVec.getElem_ushiftRight]
  rcases Nat.eq_zero_or_pos i with rfl | hpos
  · rw [Nat.add_zero, ← BitVec.msb_eq_getLsbD_last]
    cases x.msb <;> simp
  · rw [BitVec.getLsbD_of_ge x (w - 1 + i) (by omega)]
    split <;> simp [BitVec.getElem_one, Nat.ne_of_gt hpos]

/-- The top bit as a mask. -/
theorem neg_top (hw : 0 < w) : 0#w - x >>> (w - 1) = mask w x.msb := by
  rw [top_eq hw]
  cases x.msb with
  | false => simp
  | true => simp [← BitVec.neg_one_eq_allOnes]

/-- The range is twice its half. -/
theorem two_pow_half (hw : 0 < w) : ∃ p, 2 ^ w = 2 * p ∧ 2 ^ (w - 1) = p := by
  refine ⟨2 ^ (w - 1), ?_, rfl⟩
  rw [← Nat.pow_succ', Nat.succ_eq_add_one, Nat.sub_add_cancel hw]

/-- The borrow of a subtraction is the order. -/
theorem msb_lt (hw : 0 < w) : (a ^^^ ((a ^^^ b) ||| ((a - b) ^^^ b))).msb = a.ult b := by
  obtain ⟨p, hp, hp'⟩ := two_pow_half hw
  have ha : a.msb = decide (p ≤ a.toNat) := by rw [BitVec.msb_eq_decide, hp']
  have hb : b.msb = decide (p ≤ b.toNat) := by rw [BitVec.msb_eq_decide, hp']
  have hd : (a - b).msb = decide (p ≤ (2 * p - b.toNat + a.toNat) % (2 * p)) := by
    rw [BitVec.msb_eq_decide, hp', BitVec.toNat_sub, hp]
  have hlt : a.toNat < 2 * p ∧ b.toNat < 2 * p := ⟨hp ▸ a.isLt, hp ▸ b.isLt⟩
  have hmod : (2 * p - b.toNat + a.toNat) % (2 * p) =
      if a.toNat < b.toNat then 2 * p - b.toNat + a.toNat else a.toNat - b.toNat := by
    split
    · exact Nat.mod_eq_of_lt (by omega)
    · rw [show 2 * p - b.toNat + a.toNat = a.toNat - b.toNat + 2 * p by omega, Nat.add_mod_right]
      exact Nat.mod_eq_of_lt (by omega)
  rw [BitVec.msb_xor, BitVec.msb_or, BitVec.msb_xor, BitVec.msb_xor, ha, hb, hd, hmod, BitVec.ult]
  generalize a.toNat = m at *
  generalize b.toNat = n at *
  -- which of the words are in the upper half, and which of them is smaller
  by_cases h₁ : p ≤ m <;> by_cases h₂ : p ≤ n <;> by_cases h₃ : m < n <;>
    simp [h₁, h₂, h₃] <;> omega

/-- The borrow of one from a difference: the words are the same, or they differ by more than
    half the range. -/
theorem msb_eq (hw : 0 < w) :
    ((a ^^^ b) - 1#w).msb = decide (a = b ∨ 2 ^ (w - 1) < (a ^^^ b).toNat) := by
  obtain ⟨p, hp, hp'⟩ := two_pow_half hw
  have hx : a = b ↔ (a ^^^ b).toNat = 0 := by
    rw [← BitVec.xor_eq_zero_iff, ← BitVec.toNat_inj]
    simp
  have hone : (1#w).toNat = 1 := by
    simp [Nat.mod_eq_of_lt, show 1 < 2 ^ w by omega]
  have hlt : (a ^^^ b).toNat < 2 * p := hp ▸ (a ^^^ b).isLt
  rw [BitVec.msb_eq_decide, BitVec.toNat_sub, hp, hp', hone, decide_eq_decide, hx]
  generalize (a ^^^ b).toNat = d at *
  rcases Nat.eq_zero_or_pos d with rfl | hd
  · rw [Nat.add_zero, Nat.mod_eq_of_lt (by omega)]
    omega
  · rw [show 2 * p - 1 + d = d - 1 + 2 * p by omega, Nat.add_mod_right,
      Nat.mod_eq_of_lt (by omega)]
    omega

end Top

end Words
