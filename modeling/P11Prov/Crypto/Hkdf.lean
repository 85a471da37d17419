import P11Prov.Encoding.BigEndian

/-!
# HKDF and its labels

The key derivation of RFC 5869 over a keyed hash function, and the labels that
TLS 1.3 expands with (`Label`, the `HkdfLabel` of RFC 8446). A label is written
as a length in two bytes and two vectors, each of them led by its length in a
byte. What is within these bounds reads back (`Label.decode_encode`), and only
what was written reads at all (`Label.eq_encode_of_decode`).
-/

namespace Hkdf

open Encoding.BigEndian

/-! ## Derivation -/

section Derivation

-- the keyed hash function, and the length of what it returns
variable (hmac : List UInt8 → List UInt8 → List UInt8) (hashLen : Nat)

/-- HKDF-Extract -/
def extract (salt ikm : List UInt8) : List UInt8 := hmac salt ikm

/-- The blocks `T(0)`, `T(1)`, ... of HKDF-Expand. -/
def block (prk info : List UInt8) : Nat → List UInt8
  | 0 => []
  | i + 1 => hmac prk (block prk info i ++ info ++ [(i + 1).toUInt8])

/-- HKDF-Expand -/
def expand (prk info : List UInt8) (len : Nat) : List UInt8 :=
  ((List.range ((len + hashLen - 1) / hashLen)).flatMap fun i => block hmac prk info (i + 1)).take
    len

end Derivation

/-! ## Labels -/

/-- `HkdfLabel` -/
structure Label where
  length : Nat
  label : List UInt8
  context : List UInt8
  deriving DecidableEq

/-- The label can be written. -/
structure Label.Fits (l : Label) : Prop where
  length : l.length ≤ 65535
  label : l.label.length ≤ 255
  context : l.context.length ≤ 255

/-- A vector of at most 255 bytes, led by its length. -/
def vector (bs : List UInt8) : List UInt8 := bs.length.toUInt8 :: bs

/-- Reads a vector, and returns what follows it. -/
def readVector : List UInt8 → Option (List UInt8 × List UInt8)
  | [] => none
  | n :: bs => if n.toNat ≤ bs.length then some (bs.take n.toNat, bs.drop n.toNat) else none

/-- Writes a label. -/
def Label.encode (l : Label) : List UInt8 := bytes 2 l.length ++ vector l.label ++ vector l.context

/-- Reads a label, after which nothing may follow. -/
def Label.decode (bs : List UInt8) : Option Label :=
  if bs.length < 2 then none
  else
    (readVector (bs.drop 2)).bind fun r =>
      (readVector r.2).bind fun r' =>
        if r'.2 = [] then some ⟨value (bs.take 2), r.1, r'.1⟩ else none

variable {bs cs rest : List UInt8} {l l' : Label}

theorem readVector_vector (h : bs.length ≤ 255) :
    readVector (vector bs ++ rest) = some (bs, rest) := by
  have hn : bs.length.toUInt8.toNat = bs.length := by
    simpa using Nat.mod_eq_of_lt (Nat.lt_succ_of_le h)
  simp [vector, readVector, hn]

theorem eq_vector_of_readVector (h : readVector bs = some (cs, rest)) :
    cs.length ≤ 255 ∧ bs = vector cs ++ rest := by
  cases bs with
  | nil => simp [readVector] at h
  | cons n bs =>
    have hn := n.toNat_lt
    simp only [readVector] at h
    split at h
    · simp only [Option.some.injEq, Prod.mk.injEq] at h
      obtain ⟨rfl, rfl⟩ := h
      have hlen : (bs.take n.toNat).length = n.toNat := by
        rw [List.length_take]
        omega
      refine ⟨by omega, ?_⟩
      rw [vector, hlen, List.cons_append, List.take_append_drop]
      simp
    · simp at h

/-- A label that was written reads back. -/
theorem Label.decode_encode (h : l.Fits) : decode l.encode = some l := by
  have hlen : ¬l.encode.length < 2 := by
    simp only [encode, List.length_append, length_bytes]
    omega
  have htake : l.encode.take 2 = bytes 2 l.length := by
    rw [encode, List.append_assoc, List.take_left' length_bytes]
  have hdrop : l.encode.drop 2 = vector l.label ++ vector l.context := by
    rw [encode, List.append_assoc, List.drop_left' length_bytes]
  have hctx : readVector (vector l.context ++ []) = some (l.context, []) :=
    readVector_vector h.context
  rw [List.append_nil] at hctx
  have hvalue : value (bytes 2 l.length) = l.length :=
    value_bytes (Nat.lt_of_le_of_lt h.length (by norm_num))
  simp [decode, hlen, htake, hdrop, readVector_vector h.label, hctx, hvalue]

/-- What reads as a label is that label, written. -/
theorem Label.eq_encode_of_decode (h : decode bs = some l) : l.Fits ∧ bs = l.encode := by
  unfold decode at h
  split at h
  · simp at h
  · rename_i hlen
    obtain ⟨r, hr, h⟩ := Option.bind_eq_some_iff.1 h
    obtain ⟨r', hr', h⟩ := Option.bind_eq_some_iff.1 h
    split at h
    · rename_i hnil
      obtain ⟨label, rest⟩ := r
      obtain ⟨context, rest'⟩ := r'
      simp only [Option.some.injEq] at h
      subst h hnil
      obtain ⟨hlabel, hdrop⟩ := eq_vector_of_readVector hr
      obtain ⟨hcontext, hrest⟩ := eq_vector_of_readVector hr'
      have htake : (bs.take 2).length = 2 := by
        rw [List.length_take]
        omega
      have hvalue := value_lt (bs.take 2)
      rw [htake] at hvalue
      refine ⟨⟨by simpa using Nat.le_of_lt_succ hvalue, hlabel, hcontext⟩, ?_⟩
      have hbytes : bytes 2 (value (bs.take 2)) = bs.take 2 := by
        have hb := bytes_value (bs.take 2)
        rwa [htake] at hb
      simp only [encode, hbytes]
      rw [List.append_assoc, ← List.append_nil (vector context), ← hrest, ← hdrop,
        List.take_append_drop]
    · simp at h

end Hkdf
