import P11Prov.Encoding.RsassaPss
import P11Prov.Signature.Fallback

/-!
# The identifier of an RSASSA-PSS signature

What `p11prov_rsasig_get_ctx_params` tells of an RSA signature. The identifier
of the algorithm is a constant for PKCS #1 v1.5. For PSS it is a template for
the digest, whose last byte becomes the salt length. That only fits a salt of
less than 128 bytes, and any other is cut to a byte. In the template of SHA-1
the lengths are those of an object identifier of four bytes, but it has five. So
the identifier is that of the signature if and only if the digest is another one
and the salt is short (`pssIdentifier_iff`).
-/

namespace P11Prov

open Interaction
open Encoding (RsassaPss.Params RsassaPss.oidContents RsassaPss.idMgf1 RsassaPss.decode
  RsassaPss.encode)

/-! ## The tables -/

/-- `DER_RSADSI_PKCS1` -/
def derRsadsiPkcs1 : Bytes := [0x2A, 0x86, 0x48, 0x86, 0xF7, 0x0D, 0x01, 0x01]

/-- `DER_NIST_SIGALGS` -/
def derNistSigalgs : Bytes := [0x60, 0x86, 0x48, 0x01, 0x65, 0x03, 0x04, 0x03]

/-- `DER_SECSIG_ALGO` -/
def derSecsigAlgo : Bytes := [1 * 40 + 3, 14, 3, 2]

/-- `DEFINE_DER_RSA_PSS_PARAMS`, with the bytes of the object identifier of the digest and the
    length that they are taken to have. -/
def defineDerRsaPssParams (obj : Bytes) (objLen digestLen : UInt8) : Bytes :=
  [0x30, 25 + (8 + 1) + (8 + 1) + objLen + objLen,
    0x06, 8 + 1] ++ derRsadsiPkcs1 ++ [0x0A,
    0x30, 21 + (8 + 1) + objLen + objLen,
      0xA0, 4 + objLen,
        0x30, 2 + objLen,
          0x06, objLen] ++ obj ++ [
      0xA1, 8 + (8 + 1) + objLen,
        0x30, 6 + (8 + 1) + objLen,
          0x06, 8 + 1] ++ derRsadsiPkcs1 ++ [0x08,
          0x30, 2 + objLen,
            0x06, objLen] ++ obj ++ [
      0xA2, 3,
        0x02, 1, digestLen]

/-- The members `der_rsa_pss_params` of `rsasig_mech_map`, by the digest. -/
def derRsaPssParams : List (Nat × Bytes) := [
  (Ckm.sha1, defineDerRsaPssParams (derSecsigAlgo ++ [26]) 4 20),
  (Ckm.sha224, defineDerRsaPssParams (derNistHashalgs ++ [0x04]) (8 + 1) 28),
  (Ckm.sha256, defineDerRsaPssParams (derNistHashalgs ++ [0x01]) (8 + 1) 32),
  (Ckm.sha384, defineDerRsaPssParams (derNistHashalgs ++ [0x02]) (8 + 1) 48),
  (Ckm.sha512, defineDerRsaPssParams (derNistHashalgs ++ [0x03]) (8 + 1) 64),
  (Ckm.sha3_224, defineDerRsaPssParams (derNistHashalgs ++ [0x07]) (8 + 1) 28),
  (Ckm.sha3_256, defineDerRsaPssParams (derNistHashalgs ++ [0x08]) (8 + 1) 32),
  (Ckm.sha3_384, defineDerRsaPssParams (derNistHashalgs ++ [0x09]) (8 + 1) 48),
  (Ckm.sha3_512, defineDerRsaPssParams (derNistHashalgs ++ [0x0A]) (8 + 1) 64)]

/-- `der_rsa_sha##bits` and `der_rsa_sha1` -/
def derRsaSha (algid : UInt8) : Bytes :=
  [0x30, 8 + 5, 0x06, 8 + 1] ++ derRsadsiPkcs1 ++ [algid, 0x05, 0]

/-- `der_rsa_sha3_##bits` -/
def derRsaSha3 (algid : UInt8) : Bytes :=
  [0x30, 8 + 5, 0x06, 8 + 1] ++ derNistSigalgs ++ [algid, 0x05, 0]

/-- The members `der_rsa_algorithm_id` of `rsasig_mech_map`, by the digest. -/
def derRsaAlgorithmId : List (Nat × Bytes) := [
  (Ckm.sha1, derRsaSha 0x05), (Ckm.sha224, derRsaSha 0x0E), (Ckm.sha256, derRsaSha 0x0B),
  (Ckm.sha384, derRsaSha 0x0C), (Ckm.sha512, derRsaSha 0x0D), (Ckm.sha3_224, derRsaSha3 0x0D),
  (Ckm.sha3_256, derRsaSha3 0x0E), (Ckm.sha3_384, derRsaSha3 0x0F), (Ckm.sha3_512, derRsaSha3 0x10)]

/-- The bytes that a digest has in a table. -/
def derOf (table : List (Nat × Bytes)) (data : RsasigData) : Bytes :=
  ((table.find? (·.1 = data.digest)).map (·.2)).getD []

/-- `rsasig_mgf_map` -/
def rsasigMgfMap (mgf : Nat) : Option RsasigData := rsasigMechMap.find? (·.mgf = mgf)

/-- `rsasig_pss_map` -/
def rsasigPssMap (pssmech : Nat) : Option RsasigData := rsasigMechMap.find? (·.pkcsPss = pssmech)

/-- `p11prov_sig_mgf_name` -/
def sigMgfName (mgf : Nat) : Option Bytes :=
  (rsasigMgfMap mgf).bind fun data => (digestGetName data.digest).toOption

/-! ## Reading parameters -/

/-- `p11prov_encode_rsa_pss_algorithm_id`: the salt length becomes the last byte. -/
def encodeRsaPssAlgorithmId (digest saltlen : Nat) : Option Bytes :=
  (rsasigDigestMap digest).map fun data =>
    (derOf derRsaPssParams data).dropLast ++ [saltlen.toUInt8]

/-- `p11prov_rsapss_encode_algorithm_id`. The defaults stay in the context. -/
def rsapssEncodeAlgorithmId (c : SigCtx) : Option Bytes × SigCtx :=
  let (ret, c) := pssDefaults c
  if ret ≠ Ckr.ok then (none, c)
  else match rsasigDigestMap c.pssParams.hashAlg, rsasigMgfMap c.pssParams.mgf with
    | some data, some mgfData =>
      -- the digest and that of the mask function are assumed to be the same
      if data = mgfData then
        (encodeRsaPssAlgorithmId c.pssParams.hashAlg c.pssParams.sLen, c)
      else (none, c)
    | _, _ => (none, c)

/-- The types of the parameters that can be asked for. -/
inductive OutType
  | octetString
  | utf8String
  | integer
  deriving DecidableEq, Repr

/-- An `OSSL_PARAM` to be filled in: its key, its type and the size of its buffer. -/
structure OutParam where
  key : Bytes
  type : OutType
  size : Nat

/-- `OSSL_PARAM_set_octet_string` and `OSSL_PARAM_set_utf8_string`: bytes of the type go to the
    buffer if they fit. -/
def OutParam.setBytes (p : OutParam) (type : OutType) (bs : Bytes) : Option OsslData :=
  if p.type = type ∧ bs.length ≤ p.size then
    some (if type = .utf8String then .utf8String (some bs) else .octetString (some bs))
  else none

/-- `OSSL_SIGNATURE_PARAM_ALGORITHM_ID` -/
def rsasigGetAlgorithmId (p : OutParam) (c : SigCtx) : Option OsslData × SigCtx :=
  if c.mechtype = Ckm.rsaPkcs then
    ((rsasigDigestMap c.digest).bind fun data =>
      p.setBytes .octetString (derOf derRsaAlgorithmId data), c)
  else if c.mechtype = Ckm.rsaX509 then (none, c)
  else if c.mechtype = Ckm.rsaPkcsPss then
    let (id, c) := rsapssEncodeAlgorithmId c
    (id.bind (p.setBytes .octetString), c)
  else (some (.octetString none), c)

/-- `OSSL_SIGNATURE_PARAM_DIGEST` -/
def rsasigGetDigest (p : OutParam) (c : SigCtx) : Option OsslData × SigCtx :=
  ((digestGetName c.digest).toOption.bind (p.setBytes .utf8String), c)

/-- `OSSL_SIGNATURE_PARAM_PAD_MODE` -/
def rsasigGetPadMode (p : OutParam) (c : SigCtx) : Option OsslData × SigCtx :=
  ((paddingMap.find? (·.type = c.mechtype)).bind fun pad =>
    if p.type = .integer then some (.integer pad.osslId) else p.setBytes .utf8String pad.string, c)

/-- `OSSL_SIGNATURE_PARAM_MGF1_DIGEST` -/
def rsasigGetMgf1Digest (p : OutParam) (c : SigCtx) : Option OsslData × SigCtx :=
  let name := if c.pssParams.mgf ≠ 0 then sigMgfName c.pssParams.mgf
    else (rsasigPssMap c.mechtype).bind fun data => (digestGetName data.digest).toOption
  (name.bind (p.setBytes .utf8String), c)

/-- The parameters of `p11prov_rsasig_get_ctx_params`, in their order. -/
def rsasigGetters : List (Bytes × (OutParam → SigCtx → Option OsslData × SigCtx)) := [
  (ascii "algorithm-id", rsasigGetAlgorithmId), (ascii "digest", rsasigGetDigest),
  (ascii "pad-mode", rsasigGetPadMode), (ascii "mgf1-digest", rsasigGetMgf1Digest)]

/-- Fills in the parameters that are asked for, up to the first one that fails. -/
def getAll (params : List OutParam) :
    List (Bytes × (OutParam → SigCtx → Option OsslData × SigCtx)) → SigCtx →
      Nat × List OsslParam × SigCtx
  | [], c => (retOsslOk, [], c)
  | (key, get) :: getters, c =>
    match params.find? (·.key = key) with
    | none => getAll params getters c
    | some p =>
      match get p c with
      | (none, c) => (retOsslErr, [], c)
      | (some data, c) =>
        let (ret, out, c) := getAll params getters c
        (ret, ⟨key, data⟩ :: out, c)

/-- What every getter keeps is kept by all of them. -/
theorem getAll_keeps {I : SigCtx → Prop} {params : List OutParam}
    {getters : List (Bytes × (OutParam → SigCtx → Option OsslData × SigCtx))}
    (h : ∀ g ∈ getters, ∀ p c, I c → I (g.2 p c).2) {c : SigCtx} (hc : I c) :
    I (getAll params getters c).2.2 := by
  induction getters generalizing c with
  | nil => exact hc
  | cons g getters ih =>
    have hrest : ∀ g' ∈ getters, ∀ p c, I c → I (g'.2 p c).2 :=
      fun g' hg' => h g' (List.mem_cons_of_mem g hg')
    obtain ⟨key, get⟩ := g
    simp only [getAll]
    cases params.find? (·.key = key) with
    | none => exact ih hrest hc
    | some p =>
      have hget : I (get p c).2 := h (key, get) List.mem_cons_self p c hc
      dsimp only
      generalize get p c = r at hget ⊢
      obtain ⟨data, c'⟩ := r
      cases data with
      | none => exact hget
      | some data => exact ih hrest hget

/-- `p11prov_rsasig_get_ctx_params` -/
def rsasigGetCtxParams (params : Option (List OutParam)) (c : SigCtx) :
    Nat × List OsslParam × SigCtx :=
  match params with
  | none => (retOsslOk, [], c)
  | some params => getAll params rsasigGetters c

/-! ## The templates -/

/-- The object identifier of a digest. -/
def digestOidContents (digest : Nat) : Bytes := RsassaPss.oidContents (digestOid digest)

/-- What the parameters of a mechanism stand for in an identifier. -/
def PssParams.identifier (p : PssParams) : RsassaPss.Params where
  hash := digestOidContents p.hashAlg
  mgf := RsassaPss.idMgf1
  mgfHash := digestOidContents ((rsasigMgfMap p.mgf).elim 0 (·.digest))
  saltLen := p.sLen

open Encoding.Der (ofContents)

/-- The template with the right length is the identifier, whatever its last byte. -/
theorem defineDerRsaPssParams_eq {obj : Bytes} (h : obj.length = 9) (b : UInt8) :
    defineDerRsaPssParams obj 9 b = RsassaPss.encode
      { hash := obj, mgf := RsassaPss.idMgf1, mgfHash := obj, saltLen := ofContents [b] } := by
  have hmgf : RsassaPss.idMgf1 = derRsadsiPkcs1 ++ [0x08] := by decide
  have hpss : Encoding.RsassaPss.idRsassaPss = derRsadsiPkcs1 ++ [0x0A] := by decide
  simp [RsassaPss.encode, Encoding.RsassaPss.paramsContents, Encoding.RsassaPss.hashAlgorithm,
    Encoding.RsassaPss.mgfAlgorithm, Encoding.Der.integer_byte, Encoding.Der.sequence,
    Encoding.Der.tlv, Encoding.Der.length, defineDerRsaPssParams, derRsadsiPkcs1, hmgf, hpss, h]

/-- The bytes of the table are the template for the object identifier of the digest. -/
theorem derRsaPssParams_template {data : RsasigData} (h : data ∈ rsasigMechMap)
    (hd : data.digest ≠ Ckm.sha1) :
    (digestOidContents data.digest).length = 9 ∧
      (derOf derRsaPssParams data).dropLast =
        (defineDerRsaPssParams (digestOidContents data.digest) 9 0).dropLast := by
  have hall : ∀ data ∈ rsasigMechMap, data.digest ≠ Ckm.sha1 →
      (digestOidContents data.digest).length = 9 ∧
        (derOf derRsaPssParams data).dropLast =
          (defineDerRsaPssParams (digestOidContents data.digest) 9 0).dropLast := by
    decide +kernel
  exact hall data h hd

theorem dropLast_template (obj : Bytes) (n b : UInt8) :
    (defineDerRsaPssParams obj n 0).dropLast ++ [b] = defineDerRsaPssParams obj n b := by
  simp [defineDerRsaPssParams, List.dropLast_append_of_ne_nil, List.dropLast_cons_of_ne_nil]

/-- With the last byte set, the bytes of the table are an identifier. -/
theorem decode_template {data : RsasigData} (h : data ∈ rsasigMechMap)
    (hd : data.digest ≠ Ckm.sha1) (b : UInt8) :
    RsassaPss.decode ((derOf derRsaPssParams data).dropLast ++ [b]) = some
      { hash := digestOidContents data.digest, mgf := RsassaPss.idMgf1
        mgfHash := digestOidContents data.digest, saltLen := ofContents [b] } := by
  obtain ⟨hlen, htempl⟩ := derRsaPssParams_template h hd
  rw [htempl, dropLast_template, defineDerRsaPssParams_eq hlen]
  refine Encoding.RsassaPss.decode_encode ?_
  rw [← defineDerRsaPssParams_eq hlen]
  simp [defineDerRsaPssParams, derRsadsiPkcs1, hlen]

/-- The outer length of the template of SHA-1 is two bytes short. -/
theorem decode_template_sha1 {data : RsasigData} (h : data.digest = Ckm.sha1) (b : UInt8) :
    RsassaPss.decode ((derOf derRsaPssParams data).dropLast ++ [b]) = none := by
  have htempl : (derOf derRsaPssParams data).dropLast ++ [b] =
      0x30 :: 51 :: ((derOf derRsaPssParams data).drop 2).dropLast ++ [b] := by
    simp [derOf, derRsaPssParams, h, defineDerRsaPssParams, derRsadsiPkcs1, derSecsigAlgo]
  have hlen : ((derOf derRsaPssParams data).drop 2).dropLast.length = 52 := by
    simp [derOf, derRsaPssParams, h, defineDerRsaPssParams, derRsadsiPkcs1, derSecsigAlgo]
  rw [htempl]
  cases hdec : RsassaPss.decode
      (0x30 :: 51 :: ((derOf derRsaPssParams data).drop 2).dropLast ++ [b]) with
  | none => rfl
  | some p =>
    obtain ⟨c, hc⟩ := Encoding.RsassaPss.eq_sequence_of_decode hdec
    have hlong : c.length < (Encoding.Der.sequence c).length := Encoding.Der.length_tlv_le
    have htotal : (Encoding.Der.sequence c).length = 55 := by
      rw [← hc]
      simpa using hlen
    have hshort : c.length < 128 := by omega
    simp only [Encoding.Der.sequence, Encoding.Der.tlv, Encoding.Der.length, hshort, if_true,
      List.cons_append, List.cons.injEq, true_and, List.nil_append, List.length_cons] at hc htotal
    have hc1 := congrArg UInt8.toNat hc.1
    simp at hc1
    omega

/-! ## The identifier of the next signature -/

/-- The digest has a size of at most 64 bytes. -/
theorem withDefaults_sLen_lt {data : RsasigData} (h : data ∈ rsasigMechMap) (p : PssParams) :
    (p.withDefaults data).sLen < 128 ↔ p.sLen < 128 := by
  have hall : ∀ data ∈ rsasigMechMap, ((digestGetDigestSize data.digest).toOption).getD 0 < 128 := by
    decide
  have hsize := hall data h
  simp only [PssParams.withDefaults]
  split
  · omega
  · rfl

theorem withDefaults_sLen_lt_word {data : RsasigData} (h : data ∈ rsasigMechMap) {p : PssParams}
    (hp : p.sLen < 2 ^ 64) : (p.withDefaults data).sLen < 2 ^ 64 := by
  by_cases hs : p.sLen < 128
  · have := (withDefaults_sLen_lt h p).2 hs
    omega
  · have h0 : p.sLen ≠ 0 := by omega
    simpa [PssParams.withDefaults, h0] using hp

/-- A buffer is returned for a digest that is also the one of the mask function. -/
theorem rsapssEncodeAlgorithmId_some {c c' : SigCtx} {buf : Bytes}
    (h : rsapssEncodeAlgorithmId c = (some buf, c')) :
    ∃ data, rsasigDigestMap c.digest = some data ∧
      c' = { c with pssParams := c.pssParams.withDefaults data } ∧
      rsasigMgfMap (c.pssParams.withDefaults data).mgf = some data ∧
      buf = (derOf derRsaPssParams data).dropLast ++ [(c.pssParams.withDefaults data).sLen.toUInt8] := by
  cases hdata : rsasigDigestMap c.digest with
  | none =>
    have hne := pssDefaults_none hdata
    simp [rsapssEncodeAlgorithmId, hne] at h
  | some data =>
    obtain ⟨-, hdig⟩ := rsasigDigestMap_some hdata
    have hhash : rsasigDigestMap (c.pssParams.withDefaults data).hashAlg = some data := by
      rw [← hdata, ← hdig]
      rfl
    simp only [rsapssEncodeAlgorithmId, pssDefaults_eq hdata, hhash, ne_eq, not_true, if_false] at h
    cases hmgf : rsasigMgfMap (c.pssParams.withDefaults data).mgf with
    | none => simp [hmgf] at h
    | some mgfData =>
      simp only [hmgf] at h
      split at h
      · rename_i heq
        obtain ⟨hbuf, rfl⟩ := Prod.mk.inj h
        simp only [encodeRsaPssAlgorithmId, hhash, Option.map_some, Option.some.injEq] at hbuf
        exact ⟨data, rfl, rfl, by rw [hmgf, heq], hbuf.symm⟩
      · simp at h

/-- The identifier is the one of the parameters that the next signature is made with. -/
def IdentifiesSignature (c : SigCtx) (buf : Bytes) : Prop :=
  ∀ d, rsasigChosen c = some d → RsassaPss.decode buf = some d.pssParams.identifier

/-- What a context with a PSS padding hands to the token. -/
theorem rsasigChosen_pss {c : SigCtx} {data : RsasigData} (hm : c.mechtype = Ckm.rsaPkcsPss)
    (h : rsasigDigestMap c.digest = some data) :
    rsasigChosen c = some { c.setMech (rsasigMech c (·.pkcsPss)) .pssParams with
      pssParams := c.pssParams.withDefaults data } := by
  simp [rsasigChosen, hm, h]

/-- Where an identifier is returned, it is the one of the next signature if and only if the digest
    is not SHA-1 and the salt has less than 128 bytes. -/
theorem pssIdentifier_iff {c c' : SigCtx} {buf : Bytes} (hm : c.mechtype = Ckm.rsaPkcsPss)
    (hs : c.pssParams.sLen < 2 ^ 64) (h : rsapssEncodeAlgorithmId c = (some buf, c')) :
    IdentifiesSignature c buf ↔ c.digest ≠ Ckm.sha1 ∧ c.pssParams.sLen < 128 := by
  obtain ⟨data, hdata, -, hmgf, rfl⟩ := rsapssEncodeAlgorithmId_some h
  obtain ⟨hmem, hdig⟩ := rsasigDigestMap_some hdata
  have hid : (c.pssParams.withDefaults data).identifier =
      { hash := digestOidContents data.digest, mgf := RsassaPss.idMgf1
        mgfHash := digestOidContents data.digest
        saltLen := (c.pssParams.withDefaults data).sLen } := by
    simp only [PssParams.identifier, hmgf, Option.elim_some]
    rfl
  have hchosen : IdentifiesSignature c ((derOf derRsaPssParams data).dropLast ++
        [(c.pssParams.withDefaults data).sLen.toUInt8]) ↔
      RsassaPss.decode ((derOf derRsaPssParams data).dropLast ++
        [(c.pssParams.withDefaults data).sLen.toUInt8]) =
          some (c.pssParams.withDefaults data).identifier := by
    simp [IdentifiesSignature, rsasigChosen_pss hm hdata]
  rw [hchosen, ← hdig, hid]
  by_cases hsha : data.digest = Ckm.sha1
  · simp [decode_template_sha1 hsha, hsha]
  · rw [decode_template hmem hsha]
    have hbyte := Encoding.Der.ofContents_byte (withDefaults_sLen_lt_word hmem hs)
    simp [hsha, hbyte, withDefaults_sLen_lt hmem]

/-- A salt of 20 bytes with SHA-256. -/
theorem pssIdentifier_sha256 :
    IdentifiesSignature { mechtype := Ckm.rsaPkcsPss, digest := Ckm.sha256, pssParams := { sLen := 20 } }
      (defineDerRsaPssParams (derNistHashalgs ++ [0x01]) 9 20) :=
  (pssIdentifier_iff rfl (by decide) rfl).2 ⟨by decide, by decide⟩

/-- The identifier for SHA-1 cannot be decoded, and that of a salt of 200 bytes has another
    length. -/
theorem pssIdentifier_wrong :
    RsassaPss.decode ((rsapssEncodeAlgorithmId
      { mechtype := Ckm.rsaPkcsPss, digest := Ckm.sha1 }).1.getD []) = none ∧
    (rsapssEncodeAlgorithmId { mechtype := Ckm.rsaPkcsPss, digest := Ckm.sha1 }).1.isSome ∧
    ¬IdentifiesSignature { mechtype := Ckm.rsaPkcsPss, digest := Ckm.sha1 }
      ((rsapssEncodeAlgorithmId { mechtype := Ckm.rsaPkcsPss, digest := Ckm.sha1 }).1.getD []) ∧
    (RsassaPss.decode ((rsapssEncodeAlgorithmId
      { mechtype := Ckm.rsaPkcsPss, digest := Ckm.sha256
        pssParams := { sLen := 200 } }).1.getD [])).map (·.saltLen) = some (-56) := by
  have hnone : RsassaPss.decode ((rsapssEncodeAlgorithmId
      { mechtype := Ckm.rsaPkcsPss, digest := Ckm.sha1 }).1.getD []) = none := by
    decide +kernel
  refine ⟨hnone, by decide, fun h => ?_, by decide +kernel⟩
  have hid := h _ (rsasigChosen_pss rfl rfl)
  rw [hnone] at hid
  simp at hid

end P11Prov
