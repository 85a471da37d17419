import P11Prov.Encoding.Integer
import P11Prov.Signature.Params

/-!
# ECDSA signatures

A token takes and gives an ECDSA signature as its two numbers in the width of
the field, OpenSSL as the DER encoding of the two. The functions are those of
`ecdsa.c` that convert the one to the other, and those that sign and verify in
one call. The functions of OpenSSL that they use are parameters (`EcdsaLib`),
and memory can always be had.

What OpenSSL reads at the start of a signature is converted, whatever follows
it. A number that does not fit the field is not written, which nobody notices:
what was in the buffer before is then a part of the raw signature. The functions
here do not look at the sign of a number, so that a negative one would be
converted like its opposite: that it is refused is up to `d2i_ECDSA_SIG`. So the
decoding is strict for those strings only that are free of all this
(`ecdsaDerToRaw_strict_iff`). Encoding a raw signature and decoding it again gives
it back, within the bound on the length that is announced to the caller
(`ecdsaRawToDer_decodes`).

What is taken to be known of `d2i_ECDSA_SIG` (`EcdsaLib.Documented`) is an
idealisation: a parser of DER in which any two integers are a signature. The one
of OpenSSL refuses negative integers, and accepts lengths that take more bytes
than they need.
-/

namespace P11Prov

open Interaction
open Encoding (Der.pair)
open Encoding.BigEndian (bytes value)

/-! ## Conversions -/

/-- `OPENSSL_ECC_MAX_FIELD_BITS` -/
abbrev opensslEccMaxFieldBits : Nat := 661

/-- `P11PROV_MAX_RAW_ECC_SIG_SIZE` -/
abbrev p11provMaxRawEccSigSize : Nat := 2 * (opensslEccMaxFieldBits + 7) / 8

/-- The functions of OpenSSL: `BN_bin2bn`, `BN_bn2binpad`, which may fail, `i2d_ECDSA_SIG` and
    `d2i_ECDSA_SIG`. -/
structure EcdsaLib where
  bnBin2bn : Bytes → Int
  bnBn2binpad : Int → Nat → Option Bytes
  i2dEcdsaSig : Int → Int → Bytes
  d2iEcdsaSig : Bytes → Option (Int × Int)

/-- What is taken to be known of these functions. The sign of a number is not converted; a
    signature is read at the start of the input, where it is in DER. -/
structure EcdsaLib.Documented (X : EcdsaLib) : Prop where
  bin2bn (bs : Bytes) : X.bnBin2bn bs = value bs
  bn2binpad (v : Int) (n : Nat) :
    X.bnBn2binpad v n = if v.natAbs < 256 ^ n then some (bytes n v.natAbs) else none
  i2d (r s : Int) : X.i2dEcdsaSig r s = Der.pair r s
  d2i (der : Bytes) (r s : Int) (h : der.length < 2 ^ 64) :
    X.d2iEcdsaSig der = some (r, s) ↔ ∃ rest, der = Der.pair r s ++ rest

/-- Writes to a buffer at an index, unless there is nothing to write. -/
def writeAt (buf : Bytes) (i : Nat) : Option Bytes → Bytes
  | none => buf
  | some bs => buf.take i ++ bs ++ buf.drop (i + bs.length)

section Conversions

variable (X : EcdsaLib)

/-- `convert_ecdsa_raw_to_der`: the result, what was written to `der`, and `*derlen`. -/
def convertEcdsaRawToDer (raw : Bytes) (dersize : Nat) : Nat × Bytes × Nat :=
  let fieldlen := raw.length / 2
  let r := X.bnBin2bn (raw.take fieldlen)
  let s := X.bnBin2bn ((raw.drop fieldlen).take fieldlen)
  let der := X.i2dEcdsaSig r s
  if der.length ≤ dersize then (retOsslOk, der, der.length) else (retOsslErr, [], der.length)

/-- `convert_ecdsa_der_to_raw`: the result, and what is in the buffer `raw` then. The result of
    `BN_bn2binpad` is not looked at. -/
def convertEcdsaDerToRaw (der raw : Bytes) (fieldlen : Nat) : Nat × Bytes :=
  if fieldlen = ckUnavailableInformation then (retOsslErr, raw)
  else if raw.length < 2 * fieldlen % 2 ^ 64 then (retOsslErr, raw)
  else match X.d2iEcdsaSig der with
    | none => (retOsslErr, raw)
    | some (r, s) =>
      let raw := writeAt raw 0 (X.bnBn2binpad r fieldlen)
      (retOsslOk, writeAt raw fieldlen (X.bnBn2binpad s fieldlen))

/-! ## Signing and verifying -/

/-- `p11prov_ecdsa_sig_size` -/
def ecdsaSigSize (key : Option Obj) : Except CkRv Nat :=
  let size := keyMember key (·.size)
  if keyMember key (·.type) = ckkEc ∧ size ≠ ckUnavailableInformation then
    .ok ((3 + (size + 4) * 2) % 2 ^ 64)
  else .error Ckr.keyIndigestible

/-- The size of a signature, asked for without a buffer. -/
def sigSizeQuery (c : SigCtx) (size : Except CkRv Nat) : Nat × SigCtx × Bytes × Nat :=
  match size with
  | .error _ => (retOsslErr, c, [], 0)
  | .ok siglen => (retOsslOk, c, [], siglen)

/-- `p11prov_ecdsa_sign`: the result, the context, the signature and `*siglen`. Without a buffer
    of a size, only the length is asked for. -/
def ecdsaSign (ctx : Ctx) (c : SigCtx) (sigsize : Option Nat) (tbs : Bytes) :
    P (Nat × SigCtx × Bytes × Nat) := do
  match sigsize with
  | none => return sigSizeQuery c (ecdsaSigSize (← sigKey c))
  | some sigsize =>
    let (ret, c, raw) ← ecdsaOperate ctx c (some []) p11provMaxRawEccSigSize tbs
    if ret ≠ Ckr.ok then
      return (retOsslErr, c, [], 0)
    let (err, sig, siglen) := convertEcdsaRawToDer X raw sigsize
    return (err, c, sig, siglen)

/-- `p11prov_ecdsa_verify`, for a field of the given length, and with the given bytes in the
    buffer that is not initialised. -/
def ecdsaVerifyWith (ctx : Ctx) (c : SigCtx) (sig stack : Bytes) (tbs : Bytes) (flen : Nat) :
    P (Nat × SigCtx) := do
  let (err, raw) := convertEcdsaDerToRaw X sig stack flen
  if err ≠ retOsslOk then
    return (err, c)
  let (ret, c, _) ← ecdsaOperate ctx c (some (raw.take (2 * flen))) (2 * flen) tbs
  return (if ret ≠ Ckr.ok then retOsslErr else retOsslOk, c)

/-- `p11prov_ecdsa_verify` -/
def ecdsaVerify (ctx : Ctx) (c : SigCtx) (sig stack : Bytes) (tbs : Bytes) : P (Nat × SigCtx) := do
  let key ← sigKey c
  ecdsaVerifyWith X ctx c sig stack tbs (keyMember key (·.size))

end Conversions

/-! ## Decoding -/

/-- OpenSSL, as far as the conversions use it. -/
def derLib : EcdsaLib where
  bnBin2bn bs := value bs
  bnBn2binpad v n := if v.natAbs < 256 ^ n then some (bytes n v.natAbs) else none
  i2dEcdsaSig := Der.pair
  d2iEcdsaSig := Encoding.Der.readPair

theorem documented_derLib : derLib.Documented where
  bin2bn _ := rfl
  bn2binpad _ _ := rfl
  i2d _ _ := rfl
  d2i _ _ _ h := Encoding.Der.readPair_eq_some h

variable {X : EcdsaLib} {der raw : Bytes} {fieldlen : Nat}

/-- The string is the encoding of two numbers that the field has room for. -/
def EncodesPair (der : Bytes) (fieldlen r s : Nat) : Prop :=
  der = Der.pair r s ∧ r < 256 ^ fieldlen ∧ s < 256 ^ fieldlen

/-- The decoding is strict: encodings of two numbers of the field are accepted and nothing else,
    and the two numbers are what is written. -/
structure StrictlyDecoded (X : EcdsaLib) (der raw : Bytes) (fieldlen : Nat) : Prop where
  accepts : (convertEcdsaDerToRaw X der raw fieldlen).1 = retOsslOk ↔
    ∃ r s, EncodesPair der fieldlen r s
  decodes (r s : Nat) (h : EncodesPair der fieldlen r s) :
    (convertEcdsaDerToRaw X der raw fieldlen).2 =
      bytes fieldlen r ++ bytes fieldlen s ++ raw.drop (2 * fieldlen)

/-- Where the string starts with an encoding of two integers, it ends with it, and the integers
    are numbers that the field has room for. -/
def OnlyInRange (der : Bytes) (fieldlen : Nat) : Prop :=
  ∀ (r s : Int) (rest : Bytes), der = Der.pair r s ++ rest →
    rest = [] ∧ (0 ≤ r ∧ r < 256 ^ fieldlen) ∧ 0 ≤ s ∧ s < 256 ^ fieldlen

/-- What is read is converted. -/
theorem convertEcdsaDerToRaw_of_read (hf : 2 * fieldlen ≤ raw.length) (hraw : raw.length < 2 ^ 64)
    {r s : Int} (h : X.d2iEcdsaSig der = some (r, s)) :
    convertEcdsaDerToRaw X der raw fieldlen = (retOsslOk,
      writeAt (writeAt raw 0 (X.bnBn2binpad r fieldlen)) fieldlen (X.bnBn2binpad s fieldlen)) := by
  have hne : fieldlen ≠ ckUnavailableInformation := by
    unfold ckUnavailableInformation
    omega
  have hroom : ¬raw.length < 2 * fieldlen % 2 ^ 64 := by
    rw [Nat.mod_eq_of_lt (hf.trans_lt hraw)]
    exact Nat.not_lt.2 hf
  rw [convertEcdsaDerToRaw, if_neg hne, if_neg hroom, h]

theorem convertEcdsaDerToRaw_accepts (hf : 2 * fieldlen ≤ raw.length)
    (hraw : raw.length < 2 ^ 64) :
    (convertEcdsaDerToRaw X der raw fieldlen).1 = retOsslOk ↔
      ∃ r s, X.d2iEcdsaSig der = some (r, s) := by
  constructor
  · intro h
    cases hd : X.d2iEcdsaSig der with
    | some p => exact ⟨p.1, p.2, rfl⟩
    | none =>
      rw [convertEcdsaDerToRaw, hd] at h
      split at h
      · exact absurd h retOsslErr_ne
      · split at h <;> exact absurd h retOsslErr_ne
  · rintro ⟨r, s, h⟩
    rw [convertEcdsaDerToRaw_of_read hf hraw h]

/-- The first half and the second half of a buffer are written one after the other. -/
theorem writeAt_writeAt {as bs : Bytes} (ha : as.length = fieldlen) (hb : bs.length = fieldlen) :
    writeAt (writeAt raw 0 (some as)) fieldlen (some bs) =
      as ++ bs ++ raw.drop (2 * fieldlen) := by
  have hd : fieldlen + fieldlen = 2 * fieldlen := by omega
  have hd' : fieldlen + (2 * fieldlen - fieldlen) = 2 * fieldlen := by omega
  have has : as.drop (2 * fieldlen) = [] := List.drop_eq_nil_of_le (by omega)
  simp [writeAt, ha, hb, List.take_left', List.drop_append, hd, hd', has]

/-- The two numbers of the field that are read are what is written. -/
theorem convertEcdsaDerToRaw_of_inRange (hX : X.Documented) (hf : 2 * fieldlen ≤ raw.length)
    (hraw : raw.length < 2 ^ 64) {r s : Nat} (h : X.d2iEcdsaSig der = some ((r : Int), (s : Int)))
    (hr : r < 256 ^ fieldlen) (hs : s < 256 ^ fieldlen) :
    convertEcdsaDerToRaw X der raw fieldlen =
      (retOsslOk, bytes fieldlen r ++ bytes fieldlen s ++ raw.drop (2 * fieldlen)) := by
  have hwrite : ∀ {v : Nat}, v < 256 ^ fieldlen →
      X.bnBn2binpad v fieldlen = some (bytes fieldlen v) := by
    intro v hv
    rw [hX.bn2binpad, Int.natAbs_natCast, if_pos hv]
  rw [convertEcdsaDerToRaw_of_read hf hraw h, hwrite hr, hwrite hs,
    writeAt_writeAt Encoding.BigEndian.length_bytes Encoding.BigEndian.length_bytes]

/-- An encoding of two numbers is read as these. -/
theorem EncodesPair.read (hX : X.Documented) (hder : der.length < 2 ^ 64) {r s : Nat}
    (h : EncodesPair der fieldlen r s) : X.d2iEcdsaSig der = some ((r : Int), (s : Int)) :=
  (hX.d2i der r s hder).2 ⟨[], by rw [List.append_nil, h.1]⟩

/-- Where the string meets the condition, what is accepted is an encoding of two numbers. -/
theorem OnlyInRange.encodes (h : OnlyInRange der fieldlen) (hX : X.Documented)
    (hder : der.length < 2 ^ 64) {r s : Int} (hd : X.d2iEcdsaSig der = some (r, s)) :
    EncodesPair der fieldlen r.toNat s.toNat := by
  obtain ⟨rest, he⟩ := (hX.d2i der r s hder).1 hd
  obtain ⟨rfl, ⟨hr₀, hr⟩, hs₀, hs⟩ := h r s rest he
  have hr' : ((r.toNat : Nat) : Int) = r := Int.toNat_of_nonneg hr₀
  have hs' : ((s.toNat : Nat) : Int) = s := Int.toNat_of_nonneg hs₀
  refine ⟨by rw [he, hr', hs', List.append_nil], ?_, ?_⟩
  · exact Int.ofNat_lt.1 (by rw [hr']; exact_mod_cast hr)
  · exact Int.ofNat_lt.1 (by rw [hs']; exact_mod_cast hs)

theorem EncodesPair.onlyInRange (hder : der.length < 2 ^ 64) {r s : Nat}
    (h : EncodesPair der fieldlen r s) : OnlyInRange der fieldlen := by
  intro r' s' rest he
  have heq : Der.pair r' s' ++ rest = Der.pair r s ++ [] := by
    rw [← he, h.1, List.append_nil]
  obtain ⟨rfl, rfl, rfl⟩ := Encoding.Der.pair_inj (he ▸ hder) heq
  exact ⟨rfl, ⟨Int.natCast_nonneg r, by exact_mod_cast h.2.1⟩, Int.natCast_nonneg s,
    by exact_mod_cast h.2.2⟩

theorem StrictlyDecoded.onlyInRange (hX : X.Documented) (hder : der.length < 2 ^ 64)
    (hf : 2 * fieldlen ≤ raw.length) (hraw : raw.length < 2 ^ 64)
    (h : StrictlyDecoded X der raw fieldlen) : OnlyInRange der fieldlen := by
  intro r s rest he
  have hread := (hX.d2i der r s hder).2 ⟨rest, he⟩
  obtain ⟨r', s', hpair⟩ :=
    h.accepts.1 ((convertEcdsaDerToRaw_accepts hf hraw).2 ⟨r, s, hread⟩)
  exact hpair.onlyInRange hder r s rest he

theorem OnlyInRange.strictlyDecoded (hX : X.Documented) (hder : der.length < 2 ^ 64)
    (hf : 2 * fieldlen ≤ raw.length) (hraw : raw.length < 2 ^ 64)
    (h : OnlyInRange der fieldlen) : StrictlyDecoded X der raw fieldlen where
  accepts := by
    rw [convertEcdsaDerToRaw_accepts hf hraw]
    constructor
    · rintro ⟨r, s, hd⟩
      exact ⟨_, _, h.encodes hX hder hd⟩
    · rintro ⟨r, s, hp⟩
      exact ⟨r, s, hp.read hX hder⟩
  decodes r s hp := by
    rw [convertEcdsaDerToRaw_of_inRange hX hf hraw (hp.read hX hder) hp.2.1 hp.2.2]

/-- Two encodings of numbers of the field that are decoded to one raw signature are one. -/
theorem EncodesPair.eq_of_raw {der' raw' : Bytes} {r s r' s' : Nat}
    (h : EncodesPair der fieldlen r s) (h' : EncodesPair der' fieldlen r' s')
    (he : (bytes fieldlen r ++ bytes fieldlen s ++ raw).take (2 * fieldlen) =
      (bytes fieldlen r' ++ bytes fieldlen s' ++ raw').take (2 * fieldlen)) : der = der' := by
  have hlen : ∀ a b : Nat, (bytes fieldlen a ++ bytes fieldlen b).length = 2 * fieldlen := by
    intro a b
    simp [Nat.two_mul]
  rw [List.take_left' (hlen r s), List.take_left' (hlen r' s')] at he
  obtain ⟨hr, hs⟩ := List.append_inj he (by simp)
  have hr' : r = r' := by
    rw [← Encoding.BigEndian.value_bytes h.2.1, hr, Encoding.BigEndian.value_bytes h'.2.1]
  have hs' : s = s' := by
    rw [← Encoding.BigEndian.value_bytes h.2.2, hs, Encoding.BigEndian.value_bytes h'.2.2]
  rw [h.1, h'.1, hr', hs']

/-- Strings that are decoded strictly are accepted for one raw signature only if they are
    equal. -/
theorem StrictlyDecoded.eq_of_raw {der' raw' : Bytes} (h : StrictlyDecoded X der raw fieldlen)
    (h' : StrictlyDecoded X der' raw' fieldlen)
    (ha : (convertEcdsaDerToRaw X der raw fieldlen).1 = retOsslOk)
    (ha' : (convertEcdsaDerToRaw X der' raw' fieldlen).1 = retOsslOk)
    (he : (convertEcdsaDerToRaw X der raw fieldlen).2.take (2 * fieldlen) =
      (convertEcdsaDerToRaw X der' raw' fieldlen).2.take (2 * fieldlen)) : der = der' := by
  obtain ⟨r, s, hp⟩ := h.accepts.1 ha
  obtain ⟨r', s', hp'⟩ := h'.accepts.1 ha'
  rw [h.decodes r s hp, h'.decodes r' s' hp'] at he
  exact hp.eq_of_raw hp' he

/-- The bytes that are handed to the token do not depend on what was in the buffer. -/
theorem OnlyInRange.verify_eq (hX : X.Documented) (hder : der.length < 2 ^ 64) {flen : Nat}
    (h : OnlyInRange der flen) {ctx : Ctx} {c : SigCtx} {tbs stack stack' : Bytes}
    (hs : 2 * flen ≤ stack.length) (hs' : 2 * flen ≤ stack'.length)
    (hl : stack.length < 2 ^ 64) (hl' : stack'.length < 2 ^ 64) :
    ecdsaVerifyWith X ctx c der stack tbs flen = ecdsaVerifyWith X ctx c der stack' tbs flen := by
  by_cases ha : ∃ r s, EncodesPair der flen r s
  · obtain ⟨r, s, hp⟩ := ha
    have hlen : (bytes flen r ++ bytes flen s).length = 2 * flen := by
      simp [Nat.two_mul]
    have hread := hp.read hX hder
    simp only [ecdsaVerifyWith, convertEcdsaDerToRaw_of_inRange hX hs hl hread hp.2.1 hp.2.2,
      convertEcdsaDerToRaw_of_inRange hX hs' hl' hread hp.2.1 hp.2.2, List.take_left' hlen]
  · have hno : X.d2iEcdsaSig der = none := by
      cases hd : X.d2iEcdsaSig der with
      | none => rfl
      | some p => exact absurd ⟨_, _, h.encodes hX hder hd⟩ ha
    have hfail : ∀ buf, (convertEcdsaDerToRaw X der buf flen).1 = retOsslErr := by
      intro buf
      simp only [convertEcdsaDerToRaw, hno]
      split
      · rfl
      · split <;> rfl
    simp only [ecdsaVerifyWith, hfail, retOsslErr_ne, ne_eq, not_false_eq_true, if_true]

/-- The decoding of a string is strict if and only if where the string starts with an encoding
    of two integers, this is all of it, and the integers are numbers of the field. Of the
    strings that meet this, no two are accepted for one raw signature, and what the token is
    given to verify is determined by the string. -/
theorem ecdsaDerToRaw_strict_iff (hX : X.Documented) (hder : der.length < 2 ^ 64)
    (hf : 2 * fieldlen ≤ raw.length) (hraw : raw.length < 2 ^ 64) :
    (StrictlyDecoded X der raw fieldlen ↔ OnlyInRange der fieldlen) ∧
    (OnlyInRange der fieldlen →
      (∀ der' raw', der'.length < 2 ^ 64 → 2 * fieldlen ≤ raw'.length → raw'.length < 2 ^ 64 →
        OnlyInRange der' fieldlen →
        (convertEcdsaDerToRaw X der raw fieldlen).1 = retOsslOk →
        (convertEcdsaDerToRaw X der' raw' fieldlen).1 = retOsslOk →
        (convertEcdsaDerToRaw X der raw fieldlen).2.take (2 * fieldlen) =
          (convertEcdsaDerToRaw X der' raw' fieldlen).2.take (2 * fieldlen) → der = der') ∧
      ∀ ctx c tbs stack stack', stack.length = p11provMaxRawEccSigSize →
        stack'.length = p11provMaxRawEccSigSize → 2 * fieldlen ≤ p11provMaxRawEccSigSize →
        ecdsaVerifyWith X ctx c der stack tbs fieldlen =
          ecdsaVerifyWith X ctx c der stack' tbs fieldlen) := by
  refine ⟨⟨fun h => h.onlyInRange hX hder hf hraw, fun h => h.strictlyDecoded hX hder hf hraw⟩,
    fun h => ⟨?_, ?_⟩⟩
  · intro der' raw' hder' hf' hraw' h' ha ha' he
    have hs := h.strictlyDecoded hX hder hf hraw
    exact hs.eq_of_raw (h'.strictlyDecoded hX hder' hf' hraw') ha ha' he
  · intro ctx c tbs stack stack' hl hl' hsize
    have hbuf : p11provMaxRawEccSigSize < 2 ^ 64 := by decide
    exact h.verify_eq hX hder (hl ▸ hsize) (hl' ▸ hsize) (hl ▸ hbuf) (hl' ▸ hbuf)

/-- The signature of the numbers 1 and 2, in fields of one byte. -/
theorem ecdsaDerToRaw_strict_one_two :
    EncodesPair [0x30, 0x06, 0x02, 0x01, 0x01, 0x02, 0x01, 0x02] 1 1 2 ∧
    StrictlyDecoded derLib [0x30, 0x06, 0x02, 0x01, 0x01, 0x02, 0x01, 0x02] [0xAA, 0xBB] 1 := by
  have hp : EncodesPair [0x30, 0x06, 0x02, 0x01, 0x01, 0x02, 0x01, 0x02] 1 1 2 :=
    ⟨by decide, by decide, by decide⟩
  exact ⟨hp, (ecdsaDerToRaw_strict_iff documented_derLib (by decide) (by decide) (by decide)).1.2
    (hp.onlyInRange (by decide))⟩

/-- The same signature is accepted with a byte after it. A number that does not fit the field
    leaves a byte of the buffer in the raw signature. -/
theorem ecdsaDerToRaw_lenient :
    ¬StrictlyDecoded derLib [0x30, 0x06, 0x02, 0x01, 0x01, 0x02, 0x01, 0x02, 0x00]
      [0xAA, 0xBB] 1 ∧
    convertEcdsaDerToRaw derLib [0x30, 0x06, 0x02, 0x01, 0x01, 0x02, 0x01, 0x02, 0x00]
      [0xAA, 0xBB] 1 = (retOsslOk, [0x01, 0x02]) ∧
    convertEcdsaDerToRaw derLib [0x30, 0x07, 0x02, 0x02, 0x01, 0x00, 0x02, 0x01, 0x02]
      [0xAA, 0xBB] 1 = (retOsslOk, [0xAA, 0x02]) := by
  refine ⟨fun h => ?_, by decide, by decide⟩
  have hr := h.onlyInRange documented_derLib (by decide) (by decide) (by decide)
  exact absurd (hr 1 2 [0x00] (by decide)).1 (by decide)

/-! ## Encoding -/

/-- The two halves of a raw signature are encoded. -/
theorem convertEcdsaRawToDer_of_room (hX : X.Documented) {dersize n : Nat}
    (hlen : raw.length = 2 * n)
    (hroom : (Der.pair (value (raw.take n) : Nat) (value (raw.drop n) : Nat)).length ≤ dersize) :
    convertEcdsaRawToDer X raw dersize =
      (retOsslOk, Der.pair (value (raw.take n) : Nat) (value (raw.drop n) : Nat),
        (Der.pair (value (raw.take n) : Nat) (value (raw.drop n) : Nat)).length) := by
  have hn : raw.length / 2 = n := by omega
  have hs : (raw.drop n).take n = raw.drop n := List.take_of_length_le (by simp; omega)
  simp only [convertEcdsaRawToDer, hn, hs, hX.bin2bn, hX.i2d, hroom, if_true]

/-- The announced length is enough for two numbers of the field. -/
theorem length_pair_le {n r s : Nat} (hn : 2 * n ≤ p11provMaxRawEccSigSize) (hr : r < 256 ^ n)
    (hs : s < 256 ^ n) : (Der.pair r s).length ≤ 3 + (n + 4) * 2 := by
  have hbound : 2 * n ≤ 167 := hn
  have hint : ∀ {v : Nat}, v < 256 ^ n → (Encoding.Der.integer v).length ≤ n + 3 := by
    intro v hv
    have hc := Encoding.Der.length_integerContents_le hv
    have hl : (Encoding.Der.length (Encoding.Der.integerContents v).length).length = 1 :=
      Encoding.Der.length_length_short (by omega)
    simp only [Encoding.Der.integer, Encoding.Der.tlv, List.length_append, List.length_cons, hl]
    have : Encoding.Der.integerContents (Int.ofNat v) = Encoding.Der.integerContents v := rfl
    omega
  have hcontents : (Encoding.Der.integer r ++ Encoding.Der.integer s).length ≤ 2 * n + 6 := by
    have := hint hr
    have := hint hs
    simp only [List.length_append]
    omega
  have hl : (Encoding.Der.length
      (Encoding.Der.integer r ++ Encoding.Der.integer s).length).length ≤ 2 :=
    Encoding.Der.length_length_le (by omega)
  simp only [Der.pair, Encoding.Der.sequence, Encoding.Der.tlv, List.length_append,
    List.length_cons] at hl hcontents ⊢
  omega

/-- A raw signature that is encoded for a key is decoded to the same, and the announced length is
    enough for its encoding. -/
theorem ecdsaRawToDer_decodes (hX : X.Documented) {n siglen dersize : Nat} {key : Option Obj}
    {buf : Bytes} (hn : 2 * n ≤ p11provMaxRawEccSigSize) (hlen : raw.length = 2 * n)
    (hkey : keyMember key (·.size) = n) (hsize : ecdsaSigSize key = .ok siglen)
    (hder : siglen ≤ dersize) (hbuf : 2 * n ≤ buf.length) (hbuf' : buf.length < 2 ^ 64) :
    ∃ der, convertEcdsaRawToDer X raw dersize = (retOsslOk, der, der.length) ∧
      der.length ≤ siglen ∧
      convertEcdsaDerToRaw X der buf n = (retOsslOk, raw ++ buf.drop (2 * n)) := by
  have hbound : 2 * n ≤ 167 := hn
  have hsiglen : siglen = 3 + (n + 4) * 2 := by
    rw [ecdsaSigSize, hkey] at hsize
    split at hsize
    · rw [← Except.ok.inj hsize]
      exact Nat.mod_eq_of_lt (by omega)
    · cases hsize
  have hl₁ : (raw.take n).length = n := by
    rw [List.length_take]
    omega
  have hl₂ : (raw.drop n).length = n := by
    rw [List.length_drop]
    omega
  have hr : value (raw.take n) < 256 ^ n := by
    simpa only [hl₁] using Encoding.BigEndian.value_lt (raw.take n)
  have hs : value (raw.drop n) < 256 ^ n := by
    simpa only [hl₂] using Encoding.BigEndian.value_lt (raw.drop n)
  have hle := hsiglen ▸ length_pair_le hn hr hs
  refine ⟨_, convertEcdsaRawToDer_of_room hX hlen (hle.trans hder), hle, ?_⟩
  have hread : X.d2iEcdsaSig (Der.pair (value (raw.take n) : Nat) (value (raw.drop n) : Nat)) =
      some ((value (raw.take n) : Int), (value (raw.drop n) : Int)) :=
    (hX.d2i _ _ _ (by omega)).2 ⟨[], (List.append_nil _).symm⟩
  have hb₁ : bytes n (value (raw.take n)) = raw.take n := by
    simpa only [hl₁] using Encoding.BigEndian.bytes_value (raw.take n)
  have hb₂ : bytes n (value (raw.drop n)) = raw.drop n := by
    simpa only [hl₂] using Encoding.BigEndian.bytes_value (raw.drop n)
  rw [convertEcdsaDerToRaw_of_inRange hX hbuf hbuf' hread hr hs, hb₁, hb₂, List.take_append_drop]

/-- A key of a field of two bytes. -/
def smallEcKey : Obj where
  slotid := 1
  handle := 5
  cls := Cko.publicKey
  key := { type := ckkEc, bitSize := 16, size := 2 }

/-- Two numbers, of which one has a leading zero and one needs a sign byte. -/
theorem ecdsaRawToDer_decodes_small : ∃ der,
    convertEcdsaRawToDer derLib [0x00, 0x7F, 0x80, 0x01] 15 = (retOsslOk, der, der.length) ∧
      der.length ≤ 15 ∧
      convertEcdsaDerToRaw derLib der [0, 0, 0, 0] 2 = (retOsslOk, [0x00, 0x7F, 0x80, 0x01]) :=
  ecdsaRawToDer_decodes documented_derLib (by decide) rfl (rfl : keyMember (some smallEcKey) _ = 2)
    rfl (by decide) (by decide) (by decide)

end P11Prov
