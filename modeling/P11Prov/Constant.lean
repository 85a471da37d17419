import P11Prov.Words.Mask
import P11Prov.Pkcs11

/-!
# Comparisons in constant time

The helpers of `util.h` that compare and select without a branch, for words of
any width. The comparison for the order is right for all words. The one for
equality takes words for equal that differ by more than half the range
(`constantEqual_eq`), so it is right for words that are near each other.

The selection between buffers counts their bytes with an `int`
(`constantSelectFrom_eq`). What the names of the helpers say is `HelpersRight`,
and `helpersRight_iff` is when they do it.
-/

namespace P11Prov

open Words

variable {w : Nat}

/-! ## Masks -/

/-- `constant_smaller_mask` -/
def constantSmallerMask (a b : BitVec w) : BitVec w :=
  0#w - ((a ^^^ ((a ^^^ b) ||| ((a - b) ^^^ b))) >>> (w - 1))

/-- `constant_equal` -/
def constantEqual (a b : BitVec w) : BitVec w := ((a ^^^ b) - 1#w) >>> (w - 1)

/-- `constant_equal_mask` -/
def constantEqualMask (a b : BitVec w) : BitVec w := 0#w - constantEqual a b

/-- What `constant_equal` takes for equal. -/
def LooksEqual (a b : BitVec w) : Prop := a = b ∨ 2 ^ (w - 1) < (a ^^^ b).toNat

instance (a b : BitVec w) : Decidable (LooksEqual a b) := inferInstanceAs (Decidable (_ ∨ _))

section

variable {a b : BitVec w}

theorem constantSmallerMask_eq (hw : 0 < w) : constantSmallerMask a b = mask w (a.ult b) := by
  rw [constantSmallerMask, neg_top hw, msb_lt hw]

theorem constantEqual_eq (hw : 0 < w) :
    constantEqual a b = if LooksEqual a b then 1#w else 0#w := by
  rw [constantEqual, top_eq hw, msb_eq hw]
  simp only [decide_eq_true_eq]
  rfl

theorem constantEqualMask_eq (hw : 0 < w) :
    constantEqualMask a b = mask w (decide (LooksEqual a b)) := by
  rw [constantEqualMask, constantEqual, neg_top hw, msb_eq hw]
  rfl

/-- Words below half the range look equal only if they are. -/
theorem looksEqual_iff (ha : a.toNat < 2 ^ (w - 1)) (hb : b.toNat < 2 ^ (w - 1)) :
    LooksEqual a b ↔ a = b := by
  refine ⟨fun h => h.resolve_right ?_, .inl⟩
  rw [BitVec.toNat_xor]
  exact Nat.not_lt.2 (Nat.le_of_lt (Nat.xor_lt_two_pow ha hb))

end

/-! ## Selections -/

/-- `constant_select_int`, with the `int`s as words. -/
def constantSelectInt (cond : BitVec w) (a b : BitVec 32) : BitVec 32 :=
  let mask := -(cond.setWidth 32)
  (a &&& mask) ||| (b &&& ~~~mask)

/-- `constant_select_byte_mask` -/
def constantSelectByteMask (a b mask : UInt8) : UInt8 := (a &&& mask) ||| (b &&& ~~~mask)

/-- The bytes that `constant_select_buf` writes. -/
def constantSelectBuf (cond : BitVec w) (size : Nat) (a b : Bytes) : Bytes :=
  (List.range size).map fun i => constantSelectByteMask (a.getD i 0) (b.getD i 0)
    (-(UInt8.ofBitVec (cond.setWidth 8)))

/-- The mask of a condition on bytes. -/
def byteMask (b : Bool) : UInt8 := UInt8.ofBitVec (mask 8 b)

theorem byte_and_mask (x : UInt8) (b : Bool) : x &&& byteMask b = if b then x else 0 := by
  rw [← UInt8.toBitVec_inj, UInt8.toBitVec_and, byteMask, BitVec.and_comm]
  exact (mask_and_word b x.toBitVec).trans (apply_ite UInt8.toBitVec _ _ _).symm

theorem not_byteMask (b : Bool) : ~~~byteMask b = byteMask !b := by
  cases b <;> rfl

theorem constantSelectByteMask_eq (a b : UInt8) (c : Bool) :
    constantSelectByteMask a b (byteMask c) = if c then a else b := by
  rw [constantSelectByteMask, not_byteMask, byte_and_mask, byte_and_mask]
  cases c <;> simp

/-- A condition that is cut to a width and negated is its mask. -/
theorem neg_setWidth_cond (v : Nat) (c : Prop) [Decidable c] (hw : 0 < w) :
    -((if c then 1#w else 0#w).setWidth v) = mask v (decide c) := by
  by_cases hc : c
  · have hone : (1#w).setWidth v = 1#v := by
      have hlt : 1 < 2 ^ w := Nat.one_lt_two_pow (Nat.ne_of_gt hw)
      exact BitVec.eq_of_toNat_eq (by simp [Nat.mod_eq_of_lt hlt])
    simp [hc, hone, BitVec.neg_one_eq_allOnes]
  · simp [hc]

theorem constantSelectInt_eq (c : Prop) [Decidable c] (hw : 0 < w) (a b : BitVec 32) :
    constantSelectInt (if c then 1#w else 0#w) a b = if c then a else b := by
  simp only [constantSelectInt, neg_setWidth_cond 32 c hw, not_mask]
  rw [BitVec.and_comm a, BitVec.and_comm b, mask_and_word, mask_and_word]
  by_cases hc : c <;> simp [hc]

theorem byteMask_cond (c : Prop) [Decidable c] (hw : 0 < w) :
    -(UInt8.ofBitVec ((if c then 1#w else 0#w).setWidth 8)) = byteMask (decide c) := by
  rw [byteMask, ← neg_setWidth_cond 8 c hw]
  rfl

/-! ### The loop over two buffers -/

/-- The rounds of `constant_select_buf` from an index on, with the bytes they write. The index is an
    `int`: what counting it past `INT_MAX` does is undefined. -/
def constantSelectFrom (cond size : BitVec w) (a b : Bytes) (i : Nat) : Option Bytes :=
  if i < size.toNat then
    let byte := constantSelectByteMask (a.getD i 0) (b.getD i 0)
      (-(UInt8.ofBitVec (cond.setWidth 8)))
    -- the bytes of this round are written, but there is no `i++`
    if i = 0x7FFFFFFF then none
    else (constantSelectFrom cond size a b (i + 1)).map (byte :: ·)
  else some []
termination_by size.toNat - i

section Buffers

variable {cond size : BitVec w} {a b : Bytes} {i : Nat}

/-- While the index is an `int`, the rounds write what `constantSelectBuf` says. -/
theorem constantSelectFrom_eq (hsize : size.toNat ≤ 0x7FFFFFFF) (hi : i ≤ size.toNat) :
    constantSelectFrom cond size a b i = some ((constantSelectBuf cond size.toNat a b).drop i) := by
  have hlen : (constantSelectBuf cond size.toNat a b).length = size.toNat := by
    simp [constantSelectBuf]
  induction h : size.toNat - i generalizing i with
  | zero =>
    rw [constantSelectFrom, if_neg (by omega), List.drop_of_length_le (by omega)]
  | succ n ih =>
    have hlt : i < size.toNat := by omega
    have hcons := List.drop_eq_getElem_cons (l := constantSelectBuf cond size.toNat a b) (i := i)
      (hlen.symm ▸ hlt)
    rw [constantSelectFrom, if_pos hlt, if_neg (by omega), ih hlt (by omega), hcons]
    simp [constantSelectBuf]

/-- With more bytes than an `int` counts, the loop gets to the end of its range. -/
theorem constantSelectFrom_overflow (hsize : 0x7FFFFFFF < size.toNat) (hi : i ≤ 0x7FFFFFFF) :
    constantSelectFrom cond size a b i = none := by
  induction h : 0x7FFFFFFF - i generalizing i with
  | zero =>
    rw [constantSelectFrom, if_pos (by omega), if_pos (by omega)]
  | succ n ih =>
    rw [constantSelectFrom, if_pos (by omega), if_neg (by omega), ih (by omega) (by omega)]
    rfl

/-- The selection between two buffers takes the start of one of them. -/
theorem constantSelectBuf_eq (c : Prop) [Decidable c] (hw : 0 < w) {n : Nat} (ha : n ≤ a.length)
    (hb : n ≤ b.length) :
    constantSelectBuf (if c then 1#w else 0#w) n a b = (if c then a else b).take n := by
  have hlen : ((if c then a else b).take n).length = n := by
    split <;> simp [ha, hb]
  refine List.ext_getElem (by rw [hlen]; simp [constantSelectBuf]) fun i hi _ => ?_
  have hi : i < n := by simpa [constantSelectBuf] using hi
  have hia : i < a.length := by omega
  have hib : i < b.length := by omega
  simp only [constantSelectBuf, List.getElem_map, List.getElem_range, byteMask_cond c hw,
    constantSelectByteMask_eq, List.getElem_take]
  by_cases hc : c <;> simp [hc, hia, hib]

end Buffers

/-! ## What the names say -/

/-- The helpers do what their names say, for two words, a condition and what is selected by it: two
    `int`s, or the bytes of two buffers. -/
structure HelpersRight (a b : BitVec w) (cond : Bool) (x y : BitVec 32) (size : BitVec w)
    (p q : Bytes) : Prop where
  smaller : constantSmallerMask a b = if a.toNat < b.toNat then BitVec.allOnes w else 0#w
  equal : constantEqual a b = if a = b then 1#w else 0#w
  equalMask : constantEqualMask a b = if a = b then BitVec.allOnes w else 0#w
  selectInt : constantSelectInt (if cond then 1#w else 0#w) x y = if cond then x else y
  selectBuf : constantSelectFrom (if cond then 1#w else 0#w) size p q 0 =
    some ((if cond then p else q).take size.toNat)

/-- The helpers do what their names say exactly if the words do not differ by more than half the
    range, and the size of the buffers is an `int`. -/
theorem helpersRight_iff (hw : w = 32 ∨ w = 64) (a b : BitVec w) (cond : Bool) (x y : BitVec 32)
    (size : BitVec w) (p q : Bytes) (hp : size.toNat ≤ p.length) (hq : size.toNat ≤ q.length) :
    HelpersRight a b cond x y size p q ↔
      (a ^^^ b).toNat ≤ 2 ^ (w - 1) ∧ size.toNat ≤ 0x7FFFFFFF := by
  have hpos : 0 < w := by omega
  have hone : (1#w) ≠ 0#w := by
    rcases hw with rfl | rfl <;> decide
  constructor
  · intro h
    refine ⟨Nat.not_lt.1 fun hlt => ?_, Nat.not_lt.1 fun hlt => ?_⟩
    · -- words that differ by more than half the range are not equal, but look so
      have hne : a ≠ b := by
        rintro rfl
        simp at hlt
      have heq := h.equal
      rw [constantEqual_eq hpos, if_pos (show LooksEqual a b from .inr hlt), if_neg hne] at heq
      exact hone heq
    · have hbuf := h.selectBuf
      rw [constantSelectFrom_overflow hlt (Nat.zero_le _)] at hbuf
      cases hbuf
  · rintro ⟨hnear, hsize⟩
    have hlooks : LooksEqual a b ↔ a = b := or_iff_left (Nat.not_lt.2 hnear)
    refine ⟨?_, ?_, ?_, constantSelectInt_eq _ hpos x y, ?_⟩
    · rw [constantSmallerMask_eq hpos, mask, BitVec.ult]
      simp only [decide_eq_true_eq]
    · rw [constantEqual_eq hpos]
      simp only [hlooks]
    · rw [constantEqualMask_eq hpos, mask]
      simp only [hlooks, decide_eq_true_eq]
    · rw [constantSelectFrom_eq hsize (Nat.zero_le _), constantSelectBuf_eq _ hpos hp hq,
        List.drop_zero]

/-- Two lengths of a record, and two buffers of two bytes. -/
theorem helpersRight_lengths :
    HelpersRight 48#64 49#64 true 1#32 0#32 2#64 [1, 2] [3, 4] :=
  (helpersRight_iff (.inr rfl) 48#64 49#64 true 1#32 0#32 2#64 [1, 2] [3, 4] (by decide)
    (by decide)).2 (by decide)

/-- Zero and a word just above half the range look equal. -/
theorem not_helpersRight_top : ¬∀ (w : Nat) (a b : BitVec w) (cond : Bool) (x y : BitVec 32)
    (size : BitVec w) (p q : Bytes), w = 32 ∨ w = 64 → size.toNat ≤ p.length →
      size.toNat ≤ q.length → HelpersRight a b cond x y size p q := by
  intro h
  have hr := h 64 0#64 0x8000000000000001#64 true 0#32 0#32 0#64 [] [] (.inr rfl) (by decide)
    (by decide)
  exact absurd hr.equal (by decide)

end P11Prov
