import P11Prov.Encoding.BigEndian

/-!
# Integers in the distinguished encoding

The `INTEGER` of ASN.1 has the two's complement of a number as its contents, of
any size and in the fewest bytes. `readPair` reads a sequence of two integers at
the start of its input: it finds the numbers where an encoding would have them,
and accepts them if that is their encoding. So what it accepts starts with an
encoding (`readPair_eq_some`), and every encoding is accepted, whatever follows
it. Lengths are those of an input of less than `2 ^ 64` bytes.
-/

namespace Encoding.Der

open BigEndian (value bytes)

/-! ## Contents -/

/-- The shortest contents of a number that is not negative: the first bit is zero. -/
def unsignedContents (m : Nat) : List UInt8 :=
  if (octets 256 m).head?.any (· < 0x80) then octets 256 m else 0 :: octets 256 m

/-- The shortest two's complement. -/
def integerContents : Int → List UInt8
  | .ofNat m => unsignedContents m
  | .negSucc m => (unsignedContents m).map (~~~ ·)

/-- The number that a two's complement stands for. -/
def ofContents (c : List UInt8) : Int :=
  if c.head?.any (0x80 ≤ ·) then .negSucc (value (c.map (~~~ ·))) else .ofNat (value c)

variable {m n k : Nat} {z r s : Int} {c bs rest der : List UInt8}

@[simp] theorem value_unsignedContents : value (unsignedContents m) = m := by
  rw [unsignedContents]
  split
  · simp
  · simp [value]

theorem head_unsignedContents : ∃ b bs, unsignedContents m = b :: bs ∧ b < 0x80 := by
  rw [unsignedContents]
  cases ho : octets 256 m with
  | nil => exact ⟨0, [], by simp⟩
  | cons b bs =>
    by_cases hb : b < 0x80
    · exact ⟨b, bs, by simp [hb]⟩
    · exact ⟨0, b :: bs, by simp [hb]⟩

theorem length_unsignedContents_le (h : m < 256 ^ n) : (unsignedContents m).length ≤ n + 1 := by
  have hl := BigEndian.length_octets_le.2 h
  rw [unsignedContents]
  split
  · omega
  · simpa using hl

theorem length_integerContents_le (h : m < 256 ^ n) : (integerContents m).length ≤ n + 1 :=
  length_unsignedContents_le h

theorem ofContents_integerContents : ofContents (integerContents z) = z := by
  cases z with
  | ofNat m =>
    obtain ⟨b, bs, hc, hb⟩ := head_unsignedContents (m := m)
    have hv : value (b :: bs) = m := hc ▸ value_unsignedContents
    simp [integerContents, ofContents, hc, hv, UInt8.not_le.2 hb]
  | negSucc m =>
    obtain ⟨b, bs, hc, hb⟩ := head_unsignedContents (m := m)
    have hb' : 0x80 ≤ ~~~b := by
      rw [UInt8.le_iff_toNat_le, UInt8.toNat_not]
      have := UInt8.lt_iff_toNat_lt.1 hb
      simp at this ⊢
      omega
    have hv : value (b :: bs) = m := hc ▸ value_unsignedContents
    simp [integerContents, ofContents, hc, hb', hv, Function.comp_def]

/-! ## Encodings -/

def integer (z : Int) : List UInt8 := tlv 0x02 (integerContents z)

/-- A sequence of two integers. -/
def pair (r s : Int) : List UInt8 := sequence (integer r ++ integer s)

/-- Reads a length. -/
def readLength : List UInt8 → Option (Nat × List UInt8)
  | [] => none
  | b :: bs =>
    if b < 0x80 then some (b.toNat, bs)
    else some (value (bs.take (b.toNat - 0x80)), bs.drop (b.toNat - 0x80))

/-- Reads a tag and a length: the contents and what follows them. -/
def readTlv (tag : UInt8) : List UInt8 → Option (List UInt8 × List UInt8)
  | [] => none
  | t :: bs =>
    if t = tag then (readLength bs).map fun p => (p.2.take p.1, p.2.drop p.1) else none

/-- Reads a sequence of two integers at the start of the input. -/
def readPair (der : List UInt8) : Option (Int × Int) := do
  let seq ← readTlv 0x30 der
  let r ← readTlv 0x02 seq.1
  let s ← readTlv 0x02 r.2
  let (r, s) := (ofContents r.1, ofContents s.1)
  if (pair r s).isPrefixOf der then some (r, s) else none

theorem readLength_length (h : n < 2 ^ 64) : readLength (length n ++ rest) = some (n, rest) := by
  rw [length]
  split
  · have hn : n.toUInt8.toNat = n := by simp; omega
    have hlt : n.toUInt8 < 0x80 := by
      rw [UInt8.lt_iff_toNat_lt, hn]
      simpa using ‹n < 128›
    simp [readLength, hlt, hn]
  · have hk : (octets 256 n).length ≤ 8 := BigEndian.length_octets_le.2 (by simpa using h)
    have hb : (0x80 + (octets 256 n).length).toUInt8.toNat = 0x80 + (octets 256 n).length := by
      simp
      omega
    have hge : ¬(0x80 + (octets 256 n).length).toUInt8 < 0x80 := by
      rw [UInt8.lt_iff_toNat_lt, hb]
      simp
    simp only [List.cons_append, readLength, hge, if_false, hb, Nat.add_sub_cancel_left,
      List.take_left', List.drop_left', BigEndian.value_octets]

theorem readTlv_tlv {tag : UInt8} (h : c.length < 2 ^ 64) :
    readTlv tag (tlv tag c ++ rest) = some (c, rest) := by
  simp [tlv, readTlv, readLength_length h]

theorem length_tlv_le {tag : UInt8} : c.length < (tlv tag c).length := by
  simp only [tlv, List.length_append, List.length_cons]
  omega

/-- What is read is an encoding at the start of the input, and every encoding is read. -/
theorem readPair_eq_some (h : der.length < 2 ^ 64) :
    readPair der = some (r, s) ↔ ∃ rest, der = pair r s ++ rest := by
  constructor
  · intro hp
    simp only [readPair, Option.bind_eq_bind, Option.bind_eq_some_iff, Option.ite_none_right_eq_some,
      List.isPrefixOf_iff_prefix] at hp
    obtain ⟨seq, -, r', -, s', -, ⟨rest, hrest⟩, hrs⟩ := hp
    obtain ⟨rfl, rfl⟩ := Prod.mk.inj (Option.some.inj hrs)
    exact ⟨rest, hrest.symm⟩
  · rintro ⟨rest, rfl⟩
    have hpair : (pair r s).length < 2 ^ 64 := by
      simp only [List.length_append] at h
      omega
    have hseq : (integer r ++ integer s).length < 2 ^ 64 := length_tlv_le.trans hpair
    have hints : (integer r).length < 2 ^ 64 ∧ (integer s).length < 2 ^ 64 := by
      simp only [List.length_append] at hseq
      omega
    have hr : readTlv 0x02 (integer r ++ integer s) = some (integerContents r, integer s) :=
      readTlv_tlv (length_tlv_le.trans hints.1)
    have hs : readTlv 0x02 (integer s) = some (integerContents s, []) := by
      have h2 : readTlv 0x02 (tlv 0x02 (integerContents s) ++ []) = some (integerContents s, []) :=
        readTlv_tlv (length_tlv_le.trans hints.2)
      rwa [List.append_nil] at h2
    have hread : readTlv 0x30 (pair r s ++ rest) = some (integer r ++ integer s, rest) :=
      readTlv_tlv hseq
    simp [readPair, hread, hr, hs, ofContents_integerContents, List.isPrefixOf_iff_prefix]

/-- An encoding tells the numbers. -/
theorem pair_inj {r' s' : Int} {rest' : List UInt8} (h : (pair r s ++ rest).length < 2 ^ 64)
    (he : pair r s ++ rest = pair r' s' ++ rest') : r = r' ∧ s = s' ∧ rest = rest' := by
  have hr := (readPair_eq_some h).2 ⟨rest, rfl⟩
  obtain ⟨rfl, rfl⟩ := Prod.mk.inj (Option.some.inj
    (hr.symm.trans ((readPair_eq_some h).2 ⟨rest', he⟩)))
  exact ⟨rfl, rfl, List.append_cancel_left he⟩

/-! ## One byte -/

theorem unsignedContents_small (h : m < 128) : unsignedContents m = [m.toUInt8] := by
  have hlt : m.toUInt8 < 0x80 := by
    rw [UInt8.lt_iff_toNat_lt]
    simp
    omega
  by_cases h0 : m = 0
  · subst h0
    rfl
  · have ho : octets 256 m = [m.toUInt8] := by
      rw [octets, Nat.digits_of_lt 256 m h0 (by omega)]
      rfl
    simp [unsignedContents, ho, hlt]

/-- Any byte is the shortest contents of a number. -/
theorem integerContents_byte (b : UInt8) : integerContents (ofContents [b]) = [b] := by
  by_cases hb : b < 0x80
  · have hlt : b.toNat < 128 := by simpa [UInt8.lt_iff_toNat_lt] using hb
    have hz : ofContents [b] = .ofNat b.toNat := by
      simp [ofContents, UInt8.not_le.2 hb, value]
    rw [hz, integerContents, unsignedContents_small hlt]
    simp
  · have hge : 0x80 ≤ b := UInt8.not_lt.1 hb
    have hlt : (~~~b).toNat < 128 := by
      have := UInt8.le_iff_toNat_le.1 hge
      rw [UInt8.toNat_not]
      simp at this ⊢
      omega
    have hz : ofContents [b] = .negSucc (~~~b).toNat := by
      simp [ofContents, hge, value]
    have hb' : (~~~b).toNat.toUInt8 = ~~~b := UInt8.ofNat_toNat
    rw [hz, integerContents, unsignedContents_small hlt, hb']
    simp

theorem integer_byte (b : UInt8) : integer (ofContents [b]) = [0x02, 0x01, b] := by
  rw [integer, integerContents_byte]
  rfl

/-- A byte is the contents of a number of less than 128 only. -/
theorem ofContents_byte (h : n < 2 ^ 64) : ofContents [n.toUInt8] = n ↔ n < 128 := by
  have hn : n.toUInt8.toNat = n % 256 := by simp
  by_cases hb : n.toUInt8 < 0x80
  · have hlt : n % 256 < 128 := by
      rw [UInt8.lt_iff_toNat_lt, hn] at hb
      simpa using hb
    have hz : ofContents [n.toUInt8] = (n % 256 : Nat) := by
      simp [ofContents, UInt8.not_le.2 hb, value]
    rw [hz]
    omega
  · have hge : 128 ≤ n % 256 := by
      rw [UInt8.lt_iff_toNat_lt, hn] at hb
      simpa using hb
    have hz : ∃ k, ofContents [n.toUInt8] = .negSucc k := by
      simp [ofContents, UInt8.not_lt.1 hb]
    obtain ⟨k, hk⟩ := hz
    rw [hk]
    omega

/-! ## Sizes -/

theorem length_length_le (h : n < 256 ^ k) : (length n).length ≤ k + 1 := by
  rw [length]
  split
  · simp
  · simpa using BigEndian.length_octets_le.2 h

theorem length_length_short (h : n < 128) : (length n).length = 1 := by
  rw [length, if_pos h]
  rfl

end Encoding.Der
