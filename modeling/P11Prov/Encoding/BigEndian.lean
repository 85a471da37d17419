import Mathlib.Algebra.Order.Ring.Int
import Mathlib.Data.Nat.Digits.Lemmas
import P11Prov.Encoding.Der

/-!
# Numbers as bytes

The number that a sequence of bytes stands for, most significant byte first
(`value`), and the bytes of a number in a given width (`bytes`). In one width,
each of them is the inverse of the other (`bytes_value`, `value_bytes`). The
octets of a number, which have no leading zeros, are as many as the number needs
(`length_octets_le`).
-/

namespace Encoding.BigEndian

/-- The number that the bytes stand for. -/
def value : List UInt8 → Nat
  | [] => 0
  | b :: bs => b.toNat * 256 ^ bs.length + value bs

/-- The bytes of a number in the given width, and of what is left of one that does not fit. -/
def bytes : Nat → Nat → List UInt8
  | 0, _ => []
  | k + 1, n => (n / 256 ^ k).toUInt8 :: bytes k n

variable {k m n : Nat} {bs cs : List UInt8}

@[simp] theorem value_nil : value [] = 0 := rfl

@[simp] theorem length_bytes : (bytes k n).length = k := by
  induction k with
  | zero => rfl
  | succ k ih => simp [bytes, ih]

theorem value_append : value (bs ++ cs) = value bs * 256 ^ cs.length + value cs := by
  induction bs with
  | nil => simp
  | cons b bs ih =>
    simp only [List.cons_append, value, ih, List.length_append, pow_add]
    ring

theorem value_lt (bs : List UInt8) : value bs < 256 ^ bs.length := by
  induction bs with
  | nil => simp
  | cons b bs ih =>
    have hb : b.toNat * 256 ^ bs.length ≤ 255 * 256 ^ bs.length :=
      Nat.mul_le_mul_right _ (Nat.le_of_lt_succ b.toNat_lt)
    simp only [value, List.length_cons, pow_succ]
    omega

/-- What does not fit is lost. -/
theorem value_bytes_mod : value (bytes k n) = n % 256 ^ k := by
  induction k with
  | zero => simp [bytes, Nat.mod_one]
  | succ k ih =>
    have hb : (n / 256 ^ k).toUInt8.toNat = n / 256 ^ k % 256 := by simp
    rw [bytes, value, hb, ih, length_bytes, Nat.mod_pow_succ, Nat.mul_comm, Nat.add_comm]

theorem value_bytes (h : n < 256 ^ k) : value (bytes k n) = n := by
  rw [value_bytes_mod, Nat.mod_eq_of_lt h]

/-- Only the part that fits is looked at. -/
theorem bytes_add_mul : bytes k (m * 256 ^ k + n) = bytes k n := by
  induction k generalizing m with
  | zero => rfl
  | succ k ih =>
    have hm : m * 256 ^ (k + 1) + n = m * 256 * 256 ^ k + n := by ring
    have hd : (m * 256 * 256 ^ k + n) / 256 ^ k = m * 256 + n / 256 ^ k := by
      rw [Nat.add_comm, Nat.add_mul_div_right _ _ (by positivity), Nat.add_comm]
    rw [bytes, bytes, hm, hd, ih]
    congr 1
    apply UInt8.toNat_inj.1
    simp

theorem bytes_value (bs : List UInt8) : bytes bs.length (value bs) = bs := by
  induction bs with
  | nil => rfl
  | cons b bs ih =>
    have hd : (b.toNat * 256 ^ bs.length + value bs) / 256 ^ bs.length = b.toNat := by
      rw [Nat.add_comm, Nat.add_mul_div_right _ _ (by positivity), Nat.div_eq_of_lt (value_lt bs),
        Nat.zero_add]
    rw [List.length_cons, value, bytes, hd, bytes_add_mul, ih]
    simp

/-! ## Octets -/

open Der (octets)

theorem value_reverse (ds : List Nat) (h : ∀ d ∈ ds, d < 256) :
    value (ds.reverse.map Nat.toUInt8) = Nat.ofDigits 256 ds := by
  induction ds with
  | nil => rfl
  | cons d ds ih =>
    have hd : d.toUInt8.toNat = d := by
      simpa using Nat.mod_eq_of_lt (h d List.mem_cons_self)
    rw [List.reverse_cons, List.map_append, value_append,
      ih fun d' hd' => h d' (List.mem_cons_of_mem d hd'), Nat.ofDigits_cons]
    simp only [List.map_cons, List.map_nil, value, hd, List.length_cons, List.length_nil]
    ring

@[simp] theorem value_octets : value (octets 256 n) = n := by
  rw [octets, value_reverse _ fun d hd => Nat.digits_lt_base (by norm_num) hd, Nat.ofDigits_digits]

theorem length_octets_le : (octets 256 n).length ≤ k ↔ n < 256 ^ k := by
  simp only [octets, List.length_map, List.length_reverse]
  exact Nat.digits_length_le_iff (by norm_num) n

/-- Bytes without a leading zero are the octets of their number. -/
theorem octets_value (h : bs.head? ≠ some 0) : octets 256 (value bs) = bs := by
  have hds : ∀ d ∈ (bs.map UInt8.toNat).reverse, d < 256 := by
    intro d hd
    obtain ⟨b, -, rfl⟩ := List.mem_map.1 (List.mem_reverse.1 hd)
    exact b.toNat_lt
  have hlast : ∀ hne : (bs.map UInt8.toNat).reverse ≠ [],
      (bs.map UInt8.toNat).reverse.getLast hne ≠ 0 := by
    intro hne hzero
    cases bs with
    | nil => exact hne rfl
    | cons b bs =>
      refine h (congrArg some (UInt8.toNat_inj.1 ?_))
      simpa using hzero
  have hmap : ((bs.map UInt8.toNat).reverse.reverse).map Nat.toUInt8 = bs := by
    rw [List.reverse_reverse, List.map_map]
    simp [Function.comp_def]
  have hvalue := value_reverse _ hds
  rw [hmap] at hvalue
  rw [hvalue, octets, Nat.digits_ofDigits 256 (by norm_num) _ hds hlast, hmap]

theorem value_inj_of_head (hb : bs.head? ≠ some 0) (hc : cs.head? ≠ some 0)
    (h : value bs = value cs) : bs = cs := by
  rw [← octets_value hb, h, octets_value hc]

theorem value_inj_of_length (hlen : bs.length = cs.length) (h : value bs = value cs) : bs = cs := by
  rw [← bytes_value bs, hlen, h, bytes_value]

/-- An odd number does not end with a zero. -/
theorem getLast_of_odd (h : value bs % 2 = 1) : bs.getLast? ≠ some 0 := by
  intro hlast
  obtain ⟨ds, rfl⟩ := List.getLast?_eq_some_iff.1 hlast
  rw [value_append] at h
  simp [value] at h
  omega

end Encoding.BigEndian
