import P11Prov.Encoding.Integer

/-!
# The algorithm identifier of RSASSA-PSS

The identifier names the algorithm and gives its parameters: the digest, the
mask generation function with its digest, and the length of the salt, each with
a default. `decode` reads an identifier that is all of its input. The digests
may come with the parameters `NULL` or with none. What `encode` writes, with all
parameters but the trailer, is read as what it was written for
(`decode_encode`).
-/

namespace Encoding.RsassaPss

open Der

/-- The contents of an object identifier. -/
def oidContents : List Nat → List UInt8
  | a :: b :: arcs => ((40 * a + b) :: arcs).flatMap arc
  | _ => []

/-- `id-RSASSA-PSS` -/
def idRsassaPss : List UInt8 := oidContents [1, 2, 840, 113549, 1, 1, 10]

/-- `id-mgf1` -/
def idMgf1 : List UInt8 := oidContents [1, 2, 840, 113549, 1, 1, 8]

/-- `id-sha1` -/
def idSha1 : List UInt8 := oidContents [1, 3, 14, 3, 2, 26]

/-- The parameters, with object identifiers by their contents. -/
structure Params where
  hash : List UInt8 := idSha1
  mgf : List UInt8 := idMgf1
  mgfHash : List UInt8 := idSha1
  saltLen : Int := 20
  deriving DecidableEq

/-! ## Reading -/

/-- Reads a tag, a length and contents of this length: the contents and what follows them. -/
def readElement (tag : UInt8) (bs : List UInt8) : Option (List UInt8 × List UInt8) :=
  (readTlv tag bs).filter fun p => tlv tag p.1 ++ p.2 = bs

/-- Reads an element that is all of the input. -/
def readAll (tag : UInt8) (bs : List UInt8) : Option (List UInt8) :=
  (readElement tag bs).bind fun p => if p.2 = [] then some p.1 else none

/-- Reads an element that may be left out. -/
def readOptional {α : Type} (tag : UInt8) (default : α) (read : List UInt8 → Option α)
    (bs : List UInt8) : Option (α × List UInt8) :=
  match readElement tag bs with
  | none => some (default, bs)
  | some (c, rest) => (read c).map (·, rest)

/-- Reads the identifier of a digest. -/
def readHash (bs : List UInt8) : Option (List UInt8) := do
  let (oid, params) ← readElement 0x06 (← readAll 0x30 bs)
  if params = [] ∨ params = null then some oid else none

/-- Reads the identifier of a mask generation function and of its digest. -/
def readMgf (bs : List UInt8) : Option (List UInt8 × List UInt8) := do
  let (oid, params) ← readElement 0x06 (← readAll 0x30 bs)
  return (oid, ← readHash params)

def readInteger (bs : List UInt8) : Option Int := do
  let c ← readAll 0x02 bs
  if integerContents (ofContents c) = c then some (ofContents c) else none

/-- Reads the parameters. The trailer has one value only. -/
def readParams (bs : List UInt8) : Option Params := do
  let (hash, bs) ← readOptional 0xA0 idSha1 readHash (← readAll 0x30 bs)
  let (mgf, bs) ← readOptional 0xA1 (idMgf1, idSha1) readMgf bs
  let (saltLen, bs) ← readOptional 0xA2 20 readInteger bs
  let (trailer, bs) ← readOptional 0xA3 1 readInteger bs
  if trailer = 1 ∧ bs = [] then
    some { hash, mgf := mgf.1, mgfHash := mgf.2, saltLen }
  else none

/-- Reads an algorithm identifier of RSASSA-PSS. -/
def decode (bs : List UInt8) : Option Params := do
  let (oid, params) ← readElement 0x06 (← readAll 0x30 bs)
  if oid = idRsassaPss then readParams params else none

/-! ## Writing -/

def hashAlgorithm (hash : List UInt8) : List UInt8 := sequence (tlv 0x06 hash)

def mgfAlgorithm (p : Params) : List UInt8 :=
  sequence (tlv 0x06 p.mgf ++ hashAlgorithm p.mgfHash)

/-- The contents of the parameters. -/
def paramsContents (p : Params) : List UInt8 :=
  tlv 0xA0 (hashAlgorithm p.hash) ++
    (tlv 0xA1 (mgfAlgorithm p) ++ tlv 0xA2 (integer p.saltLen))

/-- The identifier with these parameters. -/
def encode (p : Params) : List UInt8 :=
  sequence (tlv 0x06 idRsassaPss ++ sequence (paramsContents p))

variable {tag : UInt8} {c rest bs : List UInt8} {p : Params}

theorem readElement_tlv (h : c.length < 2 ^ 64) :
    readElement tag (tlv tag c ++ rest) = some (c, rest) := by
  simp [readElement, readTlv_tlv h]

theorem readElement_tlv_self (h : c.length < 2 ^ 64) : readElement tag (tlv tag c) = some (c, []) := by
  have hr : readElement tag (tlv tag c ++ []) = some (c, []) := readElement_tlv h
  rwa [List.append_nil] at hr

theorem readAll_tlv (h : c.length < 2 ^ 64) : readAll tag (tlv tag c) = some c := by
  simp [readAll, readElement_tlv_self h]

/-- What is read as all of the input is what the input is an element of. -/
theorem eq_tlv_of_readAll (h : readAll tag bs = some c) : bs = tlv tag c := by
  simp only [readAll, readElement, Option.bind_eq_some_iff, Option.filter_eq_some_iff,
    decide_eq_true_eq, Option.ite_none_right_eq_some] at h
  obtain ⟨p, ⟨-, hp⟩, hnil, hc⟩ := h
  rw [← hp, hnil, List.append_nil, Option.some.inj hc]

theorem readHash_hashAlgorithm (h : (hashAlgorithm c).length < 2 ^ 64) :
    readHash (hashAlgorithm c) = some c := by
  have hseq : (tlv 0x06 c).length < 2 ^ 64 := length_tlv_le.trans h
  simp [readHash, hashAlgorithm, Der.sequence, readAll_tlv hseq,
    readElement_tlv_self (length_tlv_le.trans hseq)]

theorem readMgf_mgfAlgorithm (h : (mgfAlgorithm p).length < 2 ^ 64) :
    readMgf (mgfAlgorithm p) = some (p.mgf, p.mgfHash) := by
  have hseq : (tlv 0x06 p.mgf ++ hashAlgorithm p.mgfHash).length < 2 ^ 64 := length_tlv_le.trans h
  have hparts : (tlv 0x06 p.mgf).length < 2 ^ 64 ∧ (hashAlgorithm p.mgfHash).length < 2 ^ 64 := by
    simp only [List.length_append] at hseq
    omega
  simp [readMgf, mgfAlgorithm, Der.sequence, readAll_tlv hseq,
    readElement_tlv (length_tlv_le.trans hparts.1), readHash_hashAlgorithm hparts.2]

theorem readInteger_integer {z : Int} (h : (integer z).length < 2 ^ 64) :
    readInteger (integer z) = some z := by
  simp [readInteger, integer, readAll_tlv (length_tlv_le.trans h), ofContents_integerContents]

theorem readOptional_tlv {α : Type} {default a : α} {read : List UInt8 → Option α}
    (h : c.length < 2 ^ 64) (hr : read c = some a) :
    readOptional tag default read (tlv tag c ++ rest) = some (a, rest) := by
  simp [readOptional, readElement_tlv h, hr]

theorem readOptional_nil {α : Type} {default : α} {read : List UInt8 → Option α} :
    readOptional tag default read [] = some (default, []) := rfl

theorem readParams_paramsContents (h : (sequence (paramsContents p)).length < 2 ^ 64) :
    readParams (sequence (paramsContents p)) = some p := by
  have hseq : (paramsContents p).length < 2 ^ 64 := length_tlv_le.trans h
  have hparts : (tlv 0xA0 (hashAlgorithm p.hash)).length < 2 ^ 64 ∧
      (tlv 0xA1 (mgfAlgorithm p)).length < 2 ^ 64 ∧ (tlv 0xA2 (integer p.saltLen)).length < 2 ^ 64 := by
    simp only [paramsContents, List.length_append] at hseq
    omega
  have h₀ := length_tlv_le.trans hparts.1
  have h₁ := length_tlv_le.trans hparts.2.1
  have h₂ := length_tlv_le.trans hparts.2.2
  have hsalt : readOptional 0xA2 20 readInteger (tlv 0xA2 (integer p.saltLen) ++ []) =
      some (p.saltLen, []) := readOptional_tlv h₂ (readInteger_integer h₂)
  rw [List.append_nil] at hsalt
  have hall : readAll 0x30 (sequence (paramsContents p)) = some (paramsContents p) :=
    readAll_tlv hseq
  rw [readParams, hall]
  simp [paramsContents, readOptional_tlv h₀ (readHash_hashAlgorithm h₀),
    readOptional_tlv h₁ (readMgf_mgfAlgorithm h₁), hsalt, readOptional_nil]

/-- An identifier is read as what it was written for. -/
theorem decode_encode (h : (encode p).length < 2 ^ 64) : decode (encode p) = some p := by
  have hseq : (tlv 0x06 idRsassaPss ++ sequence (paramsContents p)).length < 2 ^ 64 :=
    length_tlv_le.trans h
  have hparts : (tlv 0x06 idRsassaPss).length < 2 ^ 64 ∧
      (sequence (paramsContents p)).length < 2 ^ 64 := by
    simp only [List.length_append] at hseq
    omega
  have hall : readAll 0x30 (encode p) = some (tlv 0x06 idRsassaPss ++ sequence (paramsContents p)) :=
    readAll_tlv hseq
  simp [decode, hall, readElement_tlv (length_tlv_le.trans hparts.1),
    readParams_paramsContents hparts.2]

/-- What is decoded is a sequence. -/
theorem eq_sequence_of_decode (h : decode bs = some p) : ∃ c, bs = sequence c := by
  simp only [decode, Option.bind_eq_bind, Option.bind_eq_some_iff] at h
  obtain ⟨c, hc, -⟩ := h
  exact ⟨c, eq_tlv_of_readAll hc⟩

end Encoding.RsassaPss
