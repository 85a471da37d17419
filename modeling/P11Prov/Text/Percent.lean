import Mathlib.Tactic.Common

/-!
# Percent encoding

Bytes in a text in which some bytes are delimiters: those that must not appear
as themselves are written as `%` and two hexadecimal digits. What is escaped is
a parameter of `encode`; decoding takes digits of either case. A text decodes to
what was encoded if `%` itself is escaped (`decode_encode`), and no escaped byte
is left in it, digits and `%` apart (`not_mem_encode`), so that it can be cut at
them.
-/

namespace Percent

/-- `%` -/
abbrev mark : UInt8 := 0x25

/-- The value of a hexadecimal digit. -/
def value (c : UInt8) : Option UInt8 :=
  if 0x30 ≤ c ∧ c ≤ 0x39 then some (c - 0x30)
  else if 0x61 ≤ c ∧ c ≤ 0x66 then some (c - 0x61 + 10)
  else if 0x41 ≤ c ∧ c ≤ 0x46 then some (c - 0x41 + 10)
  else none

/-- The hexadecimal digit of a value, in upper case. -/
def digit (n : UInt8) : UInt8 := if n < 10 then 0x30 + n else 0x41 + (n - 10)

/-- The byte that two digits stand for. -/
def byte (hi lo : UInt8) : Option UInt8 := do
  let h ← value hi
  let l ← value lo
  return h <<< 4 ||| l

/-- A byte as `%` and two digits. -/
def escape (c : UInt8) : List UInt8 := [mark, digit (c / 16), digit (c % 16)]

/-- Writes the bytes, those that `esc` says by their digits. -/
def encode (esc : UInt8 → Bool) (bs : List UInt8) : List UInt8 :=
  bs.flatMap fun c => if esc c then escape c else [c]

/-- Reads bytes, and none if `%` is not followed by two digits. -/
def decode : List UInt8 → Option (List UInt8)
  | [] => some []
  | c :: cs =>
    if c = mark then
      match cs with
      | hi :: lo :: cs => do
        let b ← byte hi lo
        return b :: (← decode cs)
      | _ => none
    else (decode cs).map (c :: ·)

/-! ## Bytes -/

/-- What holds of all values of a byte, one by one, holds of bytes. -/
theorem forall_byte {p : UInt8 → Prop} (h : ∀ n : Fin 256, p ⟨⟨n⟩⟩) (c : UInt8) : p c :=
  h c.toBitVec.toFin

theorem byte_digit (c : UInt8) : byte (digit (c / 16)) (digit (c % 16)) = some c := by
  revert c
  exact forall_byte (by decide +kernel)

theorem value_digit_ne_none (c : UInt8) :
    (value (digit (c / 16))).isSome ∧ (value (digit (c % 16))).isSome := by
  revert c
  exact forall_byte (by decide +kernel)

/-! ## Texts -/

variable {esc : UInt8 → Bool}

@[simp] theorem encode_nil : encode esc [] = [] := rfl

theorem encode_cons (c : UInt8) (bs : List UInt8) :
    encode esc (c :: bs) = (if esc c then escape c else [c]) ++ encode esc bs := by
  simp [encode]

theorem decode_cons_of_ne {c : UInt8} (h : c ≠ mark) (cs : List UInt8) :
    decode (c :: cs) = (decode cs).map (c :: ·) := by
  rw [decode.eq_def]
  simp [h]

/-- What is encoded is decoded again, if `%` is escaped. -/
theorem decode_encode (h : esc mark) (bs : List UInt8) : decode (encode esc bs) = some bs := by
  induction bs with
  | nil => rfl
  | cons c bs ih =>
    rw [encode_cons]
    by_cases hc : esc c
    · simp [hc, escape, decode, byte_digit, ih]
    · have hm : c ≠ mark := fun e => hc (e ▸ h)
      simp [hc, decode_cons_of_ne hm, ih]

/-- A text in which all bytes are escaped has three times their number. -/
theorem length_encode_of_forall {bs : List UInt8} (h : ∀ c ∈ bs, esc c) :
    (encode esc bs).length = 3 * bs.length := by
  induction bs with
  | nil => rfl
  | cons c bs ih =>
    rw [encode_cons, if_pos (h c List.mem_cons_self), List.length_append,
      ih fun d hd => h d (List.mem_cons_of_mem c hd), List.length_cons]
    simp only [escape, List.length_cons, List.length_nil]
    omega

/-- A byte that is escaped, and is neither `%` nor a digit, is not in an encoded text. -/
theorem not_mem_encode {d : UInt8} (hd : esc d) (hm : d ≠ mark) (hv : value d = none)
    (bs : List UInt8) : d ∉ encode esc bs := by
  intro hmem
  obtain ⟨c, -, hc⟩ := List.mem_flatMap.1 hmem
  split at hc
  · have hdig := value_digit_ne_none c
    simp only [escape, List.mem_cons, List.not_mem_nil, or_false] at hc
    rcases hc with rfl | rfl | rfl
    · exact hm rfl
    · simp [hv] at hdig
    · simp [hv] at hdig
  · rename_i hesc
    obtain rfl := List.mem_singleton.1 hc
    exact hesc hd

end Percent
