import Mathlib.Data.List.Basic
import Mathlib.Tactic.Common

/-!
# Base64

Bytes in a text of letters: three bytes are written as four letters, each of
them six bits, and one or two bytes that are left over are filled up with `=`.
A text decodes to what was encoded (`decode_encode`). Where a text is wrapped
at a number of columns, the line ends can be left out again (`filter_wrap`),
as none of the letters is one (`mem_encode`).
-/

namespace Base64

/-- `=` -/
abbrev pad : UInt8 := 0x3D

/-- The end of a line. -/
abbrev newline : UInt8 := 0x0A

/-- The letter of six bits. -/
def letter (n : Nat) : UInt8 :=
  if n < 26 then (0x41 + n).toUInt8
  else if n < 52 then (0x61 + (n - 26)).toUInt8
  else if n < 62 then (0x30 + (n - 52)).toUInt8
  else if n = 62 then 0x2B
  else 0x2F

/-- The six bits of a letter. -/
def value (c : UInt8) : Option Nat :=
  if 0x41 ≤ c ∧ c ≤ 0x5A then some (c.toNat - 0x41)
  else if 0x61 ≤ c ∧ c ≤ 0x7A then some (c.toNat - 0x61 + 26)
  else if 0x30 ≤ c ∧ c ≤ 0x39 then some (c.toNat - 0x30 + 52)
  else if c = 0x2B then some 62
  else if c = 0x2F then some 63
  else none

/-- Writes the bytes. -/
def encode : List UInt8 → List UInt8
  | a :: b :: c :: bs =>
    [letter (a.toNat / 4), letter (a.toNat % 4 * 16 + b.toNat / 16),
      letter (b.toNat % 16 * 4 + c.toNat / 64), letter (c.toNat % 64)] ++ encode bs
  | [a, b] => [letter (a.toNat / 4), letter (a.toNat % 4 * 16 + b.toNat / 16),
      letter (b.toNat % 16 * 4), pad]
  | [a] => [letter (a.toNat / 4), letter (a.toNat % 4 * 16), pad, pad]
  | [] => []

/-- Reads bytes, and none if a letter is missing or unknown. -/
def decode : List UInt8 → Option (List UInt8)
  | [] => some []
  | c :: d :: e :: f :: cs => do
    let v ← value c
    let w ← value d
    if e = pad then return [(v * 4 + w / 16).toUInt8]
    let x ← value e
    if f = pad then return [(v * 4 + w / 16).toUInt8, (w % 16 * 16 + x / 4).toUInt8]
    let y ← value f
    return [(v * 4 + w / 16).toUInt8, (w % 16 * 16 + x / 4).toUInt8, (x % 4 * 64 + y).toUInt8] ++
      (← decode cs)
  | _ => none

/-- A text in lines of `n` columns, of which `k` are left in the first one. -/
def wrap (n : Nat) : Nat → List UInt8 → List UInt8
  | _, [] => [newline]
  | 0, c :: cs => newline :: c :: wrap n (n - 1) cs
  | k + 1, c :: cs => c :: wrap n k cs

/-! ## Letters -/

variable {n k : Nat} {a b c : UInt8} {bs : List UInt8}

theorem value_letter (h : n < 64) : value (letter n) = some n := by
  have hall : ∀ i : Fin 64, value (letter i) = some i.1 := by decide
  exact hall ⟨n, h⟩

theorem letter_ne_pad (h : n < 64) : letter n ≠ pad := by
  have hall : ∀ i : Fin 64, letter i ≠ pad := by decide
  exact hall ⟨n, h⟩

theorem toNat_lt (a : UInt8) : a.toNat < 256 := a.toBitVec.isLt

theorem first_lt (a : UInt8) : a.toNat / 4 < 64 := by
  have := toNat_lt a
  omega

theorem second_lt (a b : UInt8) : a.toNat % 4 * 16 + b.toNat / 16 < 64 := by
  have := toNat_lt b
  omega

theorem third_lt (b c : UInt8) : b.toNat % 16 * 4 + c.toNat / 64 < 64 := by
  have := toNat_lt c
  omega

/-- A byte is put together from what two letters have of it. -/
theorem toUInt8_eq (h : n = a.toNat) : n.toUInt8 = a := by
  rw [h]
  exact UInt8.ofNat_toNat

/-! ## Texts -/

/-- What is encoded is decoded again. -/
theorem decode_encode (bs : List UInt8) : decode (encode bs) = some bs := by
  induction bs using encode.induct with
  | case1 a b c bs ih =>
    have ha : (a.toNat / 4 * 4 + (a.toNat % 4 * 16 + b.toNat / 16) / 16).toUInt8 = a := by
      have := toNat_lt b
      exact toUInt8_eq (by omega)
    have hb : ((a.toNat % 4 * 16 + b.toNat / 16) % 16 * 16 +
        (b.toNat % 16 * 4 + c.toNat / 64) / 4).toUInt8 = b := by
      have hb := toNat_lt b
      have hc := toNat_lt c
      exact toUInt8_eq (by omega)
    have hc : ((b.toNat % 16 * 4 + c.toNat / 64) % 4 * 64 + c.toNat % 64).toUInt8 = c := by
      have := toNat_lt c
      exact toUInt8_eq (by omega)
    have hlast : c.toNat % 64 < 64 := Nat.mod_lt _ (by decide)
    simp only [encode, List.cons_append, List.nil_append, decode, value_letter (first_lt a),
      value_letter (second_lt a b), value_letter (third_lt b c), value_letter hlast,
      letter_ne_pad (third_lt b c), letter_ne_pad hlast, if_false, ih, ha, hb, hc,
      Option.bind_eq_bind, Option.bind_some, Option.pure_def]
  | case2 a b =>
    have ha : (a.toNat / 4 * 4 + (a.toNat % 4 * 16 + b.toNat / 16) / 16).toUInt8 = a := by
      have := toNat_lt b
      exact toUInt8_eq (by omega)
    have hb : ((a.toNat % 4 * 16 + b.toNat / 16) % 16 * 16 + b.toNat % 16 * 4 / 4).toUInt8 = b := by
      have := toNat_lt b
      exact toUInt8_eq (by omega)
    have hthird : b.toNat % 16 * 4 < 64 := by omega
    simp only [encode, decode, value_letter (first_lt a), value_letter (second_lt a b),
      value_letter hthird, letter_ne_pad hthird, if_false, if_true, ha, hb,
      Option.bind_eq_bind, Option.bind_some, Option.pure_def]
  | case3 a =>
    have ha : (a.toNat / 4 * 4 + a.toNat % 4 * 16 / 16).toUInt8 = a := toUInt8_eq (by omega)
    have hsecond : a.toNat % 4 * 16 < 64 := by omega
    simp only [encode, decode, value_letter (first_lt a), value_letter hsecond, if_true, ha,
      Option.bind_eq_bind, Option.bind_some, Option.pure_def]
  | case4 => rfl

/-- A text is made of letters and `=`. -/
theorem mem_encode (h : c ∈ encode bs) : (∃ n < 64, c = letter n) ∨ c = pad := by
  have hmem : ∀ {l : List Nat}, (∀ n ∈ l, n < 64) → c ∈ l.map letter →
      (∃ n < 64, c = letter n) ∨ c = pad := by
    intro l hl hc
    obtain ⟨n, hn, rfl⟩ := List.mem_map.1 hc
    exact .inl ⟨n, hl n hn, rfl⟩
  induction bs using encode.induct with
  | case1 a b d bs ih =>
    have hlast : d.toNat % 64 < 64 := Nat.mod_lt _ (by decide)
    rw [encode, List.mem_append] at h
    rcases h with h | h
    · refine hmem (l := [_, _, _, _]) ?_ h
      simp only [List.forall_mem_cons, first_lt, second_lt, third_lt, hlast, true_and]
      simp
    · exact ih h
  | case2 a b =>
    have hthird : b.toNat % 16 * 4 < 64 := by omega
    rw [encode, List.mem_cons, List.mem_cons, List.mem_cons, List.mem_singleton] at h
    rcases h with rfl | rfl | rfl | rfl
    · exact .inl ⟨_, first_lt a, rfl⟩
    · exact .inl ⟨_, second_lt a b, rfl⟩
    · exact .inl ⟨_, hthird, rfl⟩
    · exact .inr rfl
  | case3 a =>
    have hsecond : a.toNat % 4 * 16 < 64 := by omega
    rw [encode, List.mem_cons, List.mem_cons, List.mem_cons, List.mem_singleton] at h
    rcases h with rfl | rfl | rfl | rfl
    · exact .inl ⟨_, first_lt a, rfl⟩
    · exact .inl ⟨_, hsecond, rfl⟩
    · exact .inr rfl
    · exact .inr rfl
  | case4 => exact absurd h List.not_mem_nil

/-- A byte that is no letter and not `=` is in no text. -/
theorem not_mem_encode (hv : value c = none) (hp : c ≠ pad) : c ∉ encode bs := by
  intro h
  rcases mem_encode h with ⟨n, hn, rfl⟩ | rfl
  · rw [value_letter hn] at hv
    cases hv
  · exact hp rfl

/-- The text is what is between the ends of the lines. -/
theorem filter_wrap (n k : Nat) {cs : List UInt8} (h : newline ∉ cs) :
    (wrap n k cs).filter (· ≠ newline) = cs := by
  induction cs generalizing k with
  | nil => rfl
  | cons c cs ih =>
    rw [List.mem_cons, not_or] at h
    have hc (cs : List UInt8) : (c :: cs).filter (· ≠ newline) = c :: cs.filter (· ≠ newline) :=
      List.filter_cons_of_pos (decide_eq_true (Ne.symm h.1))
    cases k with
    | zero =>
      rw [wrap, List.filter_cons_of_neg (by decide), hc, ih _ h.2]
    | succ k => rw [wrap, hc, ih _ h.2]

/-- Nothing but ends of lines is added to a text. -/
theorem mem_wrap {cs : List UInt8} (h : c ∈ wrap n k cs) : c ∈ cs ∨ c = newline := by
  induction cs generalizing k with
  | nil => exact .inr (List.mem_singleton.1 h)
  | cons d cs ih =>
    cases k with
    | zero =>
      rw [wrap, List.mem_cons, List.mem_cons] at h
      rcases h with rfl | rfl | h
      · exact .inr rfl
      · exact .inl List.mem_cons_self
      · exact (ih h).imp_left (List.mem_cons_of_mem d)
    | succ k =>
      rw [wrap, List.mem_cons] at h
      rcases h with rfl | h
      · exact .inl List.mem_cons_self
      · exact (ih h).imp_left (List.mem_cons_of_mem d)

end Base64
