import P11Prov.Signature

/-!
# Signature algorithms

What the signature algorithms add to the context they share: the mechanism they
choose, how they encode what is signed, and the parameters they take. The
functions are those of `rsasig.c`, `ecdsa.c`, `eddsa.c` and `mldsa.c`.

The values that are `CK_ULONG`s in an attribute are those of a little-endian
host with eight bytes each.
-/

namespace P11Prov

open Interaction

/-! ## RSA -/

/-- The bytes of the object identifiers of the digests, `DER_NIST_HASHALGS`. -/
def derNistHashalgs : Bytes := [0x60, 0x86, 0x48, 0x01, 0x65, 0x03, 0x04, 0x02]

/-- `DEFINE_DER_DIGESTINFO`: all of a `DigestInfo` but the digest. -/
def defineDerDigestinfo (algId digestSize : UInt8) : Bytes :=
  [0x30, 8 + 9 + digestSize, 0x30, 8 + 5, 0x06, 8 + 1] ++ derNistHashalgs ++
    [algId, 0x05, 0, 0x04, digestSize]

/-- `der_digestinfo_sha1` -/
def derDigestinfoSha1 : Bytes :=
  [0x30, 0x0D + 20, 0x30, 0x09, 0x06, 4 + 1, 1 * 40 + 3, 14, 3, 2, 26, 0x05, 0x00, 0x04, 20]

/-- `struct rsasig_data` -/
structure RsasigData where
  digest : Nat
  pkcsMech : Nat
  pkcsPss : Nat
  mgf : Nat
  derDigestinfo : Bytes
  deriving DecidableEq, Repr

/-- `rsasig_mech_map` -/
def rsasigMechMap : List RsasigData := [
  ⟨Ckm.sha1, Ckm.sha1RsaPkcs, Ckm.sha1RsaPkcsPss, Ckg.mgf1Sha1, derDigestinfoSha1⟩,
  ⟨Ckm.sha224, Ckm.sha224RsaPkcs, Ckm.sha224RsaPkcsPss, Ckg.mgf1Sha224,
    defineDerDigestinfo 0x04 28⟩,
  ⟨Ckm.sha256, Ckm.sha256RsaPkcs, Ckm.sha256RsaPkcsPss, Ckg.mgf1Sha256,
    defineDerDigestinfo 0x01 32⟩,
  ⟨Ckm.sha384, Ckm.sha384RsaPkcs, Ckm.sha384RsaPkcsPss, Ckg.mgf1Sha384,
    defineDerDigestinfo 0x02 48⟩,
  ⟨Ckm.sha512, Ckm.sha512RsaPkcs, Ckm.sha512RsaPkcsPss, Ckg.mgf1Sha512,
    defineDerDigestinfo 0x03 64⟩,
  ⟨Ckm.sha3_224, Ckm.sha3_224RsaPkcs, Ckm.sha3_224RsaPkcsPss, Ckg.mgf1Sha3_224,
    defineDerDigestinfo 0x07 28⟩,
  ⟨Ckm.sha3_256, Ckm.sha3_256RsaPkcs, Ckm.sha3_256RsaPkcsPss, Ckg.mgf1Sha3_256,
    defineDerDigestinfo 0x08 32⟩,
  ⟨Ckm.sha3_384, Ckm.sha3_384RsaPkcs, Ckm.sha3_384RsaPkcsPss, Ckg.mgf1Sha3_384,
    defineDerDigestinfo 0x09 48⟩,
  ⟨Ckm.sha3_512, Ckm.sha3_512RsaPkcs, Ckm.sha3_512RsaPkcsPss, Ckg.mgf1Sha3_512,
    defineDerDigestinfo 0x0A 64⟩]

/-- `rsasig_digest_map` -/
def rsasigDigestMap (digest : Nat) : Option RsasigData := rsasigMechMap.find? (·.digest = digest)

/-- `p11prov_sig_map_mgf` -/
def sigMapMgf (name : Bytes) : Nat :=
  match digestGetByName name with
  | .error _ => ckUnavailableInformation
  | .ok digest => (rsasigDigestMap digest).elim ckUnavailableInformation (·.mgf)

/-- The `CK_ULONG` values in a sequence of bytes; the bytes left over at the end are not one. -/
def ulongs : Bytes → List Nat
  | b₀ :: b₁ :: b₂ :: b₃ :: b₄ :: b₅ :: b₆ :: b₇ :: bs =>
    [b₀, b₁, b₂, b₃, b₄, b₅, b₆, b₇].foldr (fun b n => b.toNat + 256 * n) 0 :: ulongs bs
  | _ => []

/-- `p11prov_sig_pss_restrictions` -/
def sigPssRestrictions (c : SigCtx) (mechanism : Nat) : P CkRv := do
  match c.key with
  | none => return Ckr.ok
  | some key =>
    let obj ← mem (.loadObj key)
    let (ret, supported) ← call (.supportsAllowedMechanisms obj.slotid)
    if ret ≠ Ckr.ok then
      return ret
    if !supported then
      return Ckr.ok
    match obj.getAttr ckaAllowedMechanisms with
    | none => return Ckr.ok
    | some value =>
      -- no mechanisms at all is a bogus answer of the token
      if (ulongs value).isEmpty ∨ mechanism ∈ ulongs value then
        return Ckr.ok
      return Ckr.actionProhibited

/-- `pss_defaults` -/
def pssDefaults (c : SigCtx) : CkRv × SigCtx :=
  match rsasigDigestMap c.digest with
  | none => (Ckr.mechanismInvalid, c)
  | some data =>
    let p := { c.pssParams with hashAlg := data.digest }
    let p := if p.mgf = 0 then { p with mgf := data.mgf } else p
    if p.sLen = 0 then
      match digestGetDigestSize data.digest with
      | .error ret => (ret, { c with pssParams := p })
      | .ok size => (Ckr.ok, { c with pssParams := { p with sLen := size } })
    else (Ckr.ok, { c with pssParams := p })

/-- The mechanism for the digest of a digest operation, and else the raw one. -/
def rsasigMech (c : SigCtx) (f : RsasigData → Nat) : Nat :=
  if c.digestOp then (rsasigDigestMap c.digest).elim c.mechtype f else c.mechtype

/-- `p11prov_rsasig_set_mechanism` -/
def rsasigSetMechanism (c : SigCtx) : P (CkRv × SigCtx) := do
  let c := c.setMech c.mechtype .null
  if c.digestOp ∧ rsasigDigestMap c.digest = none then
    return (Ckr.mechanismInvalid, c)
  if c.mechtype = Ckm.rsaPkcs then
    return (Ckr.ok, c.setMech (rsasigMech c (·.pkcsMech)) .null)
  else if c.mechtype = Ckm.rsaX509 then
    return (Ckr.ok, c)
  else if c.mechtype = Ckm.rsaPkcsPss then
    let (ret, c) := pssDefaults c
    if ret ≠ Ckr.ok then
      return (ret, c)
    let c := c.setMech (rsasigMech c (·.pkcsPss)) .pssParams
    if c.digestOp then
      return (← sigPssRestrictions c c.mechanism, c)
    return (Ckr.ok, c)
  else
    return (Ckr.dataInvalid, c)

/-- The size of the buffer of `p11prov_rsasig_operate`: `EVP_MAX_MD_SIZE + 64`. -/
abbrev rsasigDataSize : Nat := 64 + 64

/-- `p11prov_rsasig_encode_data` -/
def rsasigEncodeData (c : SigCtx) (tbs : Bytes) : Except CkRv Bytes :=
  match rsasigDigestMap c.digest with
  | none => .error Ckr.mechanismInvalid
  | some data =>
    match digestGetDigestSize c.digest with
    | .error ret => .error ret
    | .ok size =>
      if tbs.length ≠ size ∨ rsasigDataSize ≤ tbs.length + data.derDigestinfo.length then
        .error Ckr.signatureLenRange
      else .ok (data.derDigestinfo ++ tbs)

/-- The data that `p11prov_rsasig_operate` signs. -/
def rsasigData (c : SigCtx) (sigsize : Nat) (tbs : Bytes) : Except CkRv Bytes :=
  if c.operation = Ckf.sign ∧ c.mechtype = Ckm.rsaX509 ∧ tbs.length < sigsize then
    .error Ckr.dataLenRange
  else if c.mechtype = Ckm.rsaPkcs ∧ c.digest ≠ 0 then rsasigEncodeData c tbs
  else .ok tbs

/-- `p11prov_rsasig_operate`. Where no mechanism can be set, the result is the `RET_OSSL_ERR`
    of a function that returns a `CK_RV`. -/
def rsasigOperate (ctx : Ctx) (c : SigCtx) (sig : Option Bytes) (sigsize : Nat) (tbs : Bytes) :
    P (CkRv × SigCtx × Bytes) := do
  match rsasigData c sigsize tbs with
  | .error ret => return (ret, c, [])
  | .ok tbs =>
    let (ret, c) ← rsasigSetMechanism c
    if ret ≠ Ckr.ok then
      return (retOsslErr, c, [])
    sigOperate ctx c sig sigsize tbs

/-! ## ECDSA -/

/-- `struct ecdsa_data` -/
structure EcdsaData where
  digest : Nat
  mech : Nat
  deriving DecidableEq, Repr

/-- `ecdsa_mech_map` -/
def ecdsaMechMap : List EcdsaData := [
  ⟨Ckm.sha1, Ckm.ecdsaSha1⟩,
  ⟨Ckm.sha224, Ckm.ecdsaSha224⟩,
  ⟨Ckm.sha256, Ckm.ecdsaSha256⟩,
  ⟨Ckm.sha384, Ckm.ecdsaSha384⟩,
  ⟨Ckm.sha512, Ckm.ecdsaSha512⟩,
  ⟨Ckm.sha3_224, Ckm.ecdsaSha3_224⟩,
  ⟨Ckm.sha3_256, Ckm.ecdsaSha3_256⟩,
  ⟨Ckm.sha3_384, Ckm.ecdsaSha3_384⟩,
  ⟨Ckm.sha3_512, Ckm.ecdsaSha3_512⟩]

/-- `ecdsa_digest_map` -/
def ecdsaDigestMap (digest : Nat) : Option EcdsaData := ecdsaMechMap.find? (·.digest = digest)

/-- `p11prov_ecdsa_set_mechanism` -/
def ecdsaSetMechanism (c : SigCtx) : CkRv × SigCtx :=
  let c := c.setMech c.mechtype .null
  if c.mechtype = Ckm.ecdsa then
    if c.digestOp then
      match ecdsaDigestMap c.digest with
      | none => (Ckr.mechanismInvalid, c)
      | some data => (Ckr.ok, c.setMech data.mech .null)
    else (Ckr.ok, c)
  else (Ckr.dataInvalid, c)

/-- `p11prov_ecdsa_operate`, with the same result where no mechanism can be set. -/
def ecdsaOperate (ctx : Ctx) (c : SigCtx) (sig : Option Bytes) (sigsize : Nat) (tbs : Bytes) :
    P (CkRv × SigCtx × Bytes) :=
  let (ret, c) := ecdsaSetMechanism c
  if ret ≠ Ckr.ok then pure (retOsslErr, c, []) else sigOperate ctx c sig sigsize tbs

/-! ## EdDSA -/

/-- `p11prov_eddsa_set_mechanism` -/
def eddsaSetMechanism (c : SigCtx) : CkRv × SigCtx :=
  let c := c.setMech c.mechtype .null
  if c.mechtype = Ckm.eddsa then
    (Ckr.ok, if c.useEddsaParams then c.setMech c.mechtype .eddsaParams else c)
  else (Ckr.dataInvalid, c)

/-- The end of `p11prov_eddsa_sign` and `p11prov_eddsa_verify`. -/
def eddsaOperate (ctx : Ctx) (c : SigCtx) (sig : Option Bytes) (sigsize : Nat) (tbs : Bytes) :
    P (CkRv × SigCtx × Bytes) :=
  let (ret, c) := eddsaSetMechanism c
  if ret ≠ Ckr.ok then pure (ret, c, []) else sigOperate ctx c sig sigsize tbs

/-! ## ML-DSA -/

/-- `p11prov_mldsa_set_mechanism`: the parameters of the context are not attached. -/
def mldsaSetMechanism (c : SigCtx) : CkRv × SigCtx :=
  (Ckr.ok, c.setMech Ckm.mlDsa .null)

/-- `p11prov_mldsa_operate` -/
def mldsaOperate (ctx : Ctx) (c : SigCtx) (sig : Option Bytes) (sigsize : Nat) (tbs : Bytes) :
    P (CkRv × SigCtx × Bytes) :=
  let (ret, c) := mldsaSetMechanism c
  if ret ≠ Ckr.ok then pure (ret, c, []) else sigOperate ctx c sig sigsize tbs

end P11Prov
