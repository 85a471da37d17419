import P11Prov.Buffer
import P11Prov.Constant
import P11Prov.Signature

/-!
# RSA encryption

The contexts of RSA encryption with their parameters, and decryption. The
functions are those of `asymmetric_cipher.c`. A context that was once given the
padding mode of TLS has a flag beside its mechanism that says so. With it, the
key is decrypted to a temporary buffer, and what is copied to the caller is 48
bytes of it or of a random buffer.

The decisions after a decryption with PKCS #1 padding are not to depend on its
outcome by a branch. They are made on words of the type `CK_ULONG`, which has 32
or 64 bits.
-/

namespace P11Prov

open Interaction

/-! ## Contexts -/

/-- `struct tls_padding` -/
structure TlsPadding where
  enabled : Bool := false
  clientVerMajor : UInt8 := 0
  clientVerMinor : UInt8 := 0
  altVerMajor : UInt8 := 0
  altVerMinor : UInt8 := 0
  deriving DecidableEq, Repr

/-- `struct p11prov_rsaenc_ctx`. PKCS #1 v1.5 is the default. -/
structure RsaencCtx where
  key : Option ObjId := none
  mechtype : Nat := Ckm.rsaPkcs
  oaepParams : OaepParams := {}
  tlsPadding : TlsPadding := {}
  deriving DecidableEq, Repr

/-- `p11prov_rsaenc_set_mechanism`. The source is set each time the parameters are sent. -/
def RsaencCtx.mech (c : RsaencCtx) : Mechanism where
  mechanism := c.mechtype
  parameter :=
    if c.mechtype = Ckm.rsaPkcsOaep then .oaep { c.oaepParams with source := ckzDataSpecified }
    else .null

/-! ## Parameters -/

/-- `padding_map` of the asymmetric ciphers. -/
def rsaencPaddingMap : List Padding := [
  ⟨Ckm.rsaX509, 3, ascii "none"⟩,
  ⟨Ckm.rsaPkcs, 1, ascii "pkcs1"⟩,
  ⟨Ckm.rsaPkcs, 7, ascii "pkcs1"⟩,
  ⟨Ckm.rsaPkcsOaep, 4, ascii "oaep"⟩,
  ⟨Ckm.rsaX9_31, 5, ascii "x931"⟩]

/-- `RSA_PKCS1_WITH_TLS_PADDING` -/
abbrev rsaPkcs1WithTlsPadding : Int := 7

/-- The mechanism of a padding mode, given by its number or its name. -/
def rsaencPaddingType : OsslData → Option Nat
  | .integer v => (OsslData.integer v).getInt.bind fun mode =>
    (rsaencPaddingMap.find? (·.osslId = mode)).map (·.type)
  | .utf8String s => s.bind fun mode => (rsaencPaddingMap.find? (·.string = mode)).map (·.type)
  | _ => none

/-- The padding mode is that of TLS, which is given by its number only. -/
def isTlsPadMode (p : OsslData) : Bool := p = .integer rsaPkcs1WithTlsPadding

/-- The flag of the TLS padding mode is set by it, but no other mode clears it. -/
def RsaencCtx.enableTls (c : RsaencCtx) (p : OsslData) : RsaencCtx :=
  { c with tlsPadding := { c.tlsPadding with enabled := isTlsPadMode p || c.tlsPadding.enabled } }

/-- `OSSL_ASYM_CIPHER_PARAM_PAD_MODE` -/
def rsaencPadModeSetter : Setter RsaencCtx where
  key := ascii "pad-mode"
  set c p :=
    match rsaencPaddingType p with
    | none => (retOsslErr, c.enableTls p)
    | some mechtype => (retOsslOk, { c.enableTls p with mechtype })

/-- `OSSL_ASYM_CIPHER_PARAM_OAEP_DIGEST` -/
def oaepDigestSetter : Setter RsaencCtx where
  key := ascii "digest"
  set c p :=
    match p.getUtf8StringPtr with
    | none => (retOsslErr, c)
    | some name =>
      match digestGetByName name with
      | .error _ => (retOsslErr, c)
      | .ok hashAlg => (retOsslOk, { c with oaepParams := { c.oaepParams with hashAlg } })

/-- `mfg_map` -/
def mgfMap : List (Nat × Nat) := [
  (Ckm.sha3_512, Ckg.mgf1Sha3_512), (Ckm.sha3_384, Ckg.mgf1Sha3_384),
  (Ckm.sha3_256, Ckg.mgf1Sha3_256), (Ckm.sha3_224, Ckg.mgf1Sha3_224),
  (Ckm.sha512, Ckg.mgf1Sha512), (Ckm.sha384, Ckg.mgf1Sha384),
  (Ckm.sha256, Ckg.mgf1Sha256), (Ckm.sha224, Ckg.mgf1Sha224), (Ckm.sha1, Ckg.mgf1Sha1)]

/-- `p11prov_rsaenc_map_mgf` -/
def rsaencMapMgf (name : Bytes) : Nat :=
  match digestGetByName name with
  | .error _ => ckUnavailableInformation
  | .ok digest => ((mgfMap.find? (·.1 = digest)).map (·.2)).getD ckUnavailableInformation

/-- `OSSL_ASYM_CIPHER_PARAM_MGF1_DIGEST`: what the name maps to is assigned before it is checked. -/
def oaepMgf1DigestSetter : Setter RsaencCtx where
  key := ascii "mgf1-digest"
  set c p :=
    match p.getUtf8StringPtr with
    | none => (retOsslErr, c)
    | some name =>
      let c := { c with oaepParams := { c.oaepParams with mgf := rsaencMapMgf name } }
      if rsaencMapMgf name = ckUnavailableInformation then (retOsslErr, c) else (retOsslOk, c)

/-- `OSSL_ASYM_CIPHER_PARAM_OAEP_LABEL` -/
def oaepLabelSetter : Setter RsaencCtx where
  key := ascii "oaep-label"
  set c p :=
    match p.getOctetString with
    | none => (retOsslErr, c)
    | some label => (retOsslOk, { c with oaepParams := { c.oaepParams with
        pSourceData := some label, ulSourceDataLen := label.length } })

/-- `OSSL_ASYM_CIPHER_PARAM_TLS_CLIENT_VERSION` -/
def tlsClientVersionSetter : Setter RsaencCtx where
  key := ascii "tls-client-version"
  set c p :=
    match p.getUint with
    | none => (retOsslErr, c)
    | some v => (retOsslOk, { c with tlsPadding := { c.tlsPadding with
        clientVerMajor := .ofNat (v / 0x100), clientVerMinor := .ofNat v } })

/-- `OSSL_ASYM_CIPHER_PARAM_TLS_NEGOTIATED_VERSION` -/
def tlsNegotiatedVersionSetter : Setter RsaencCtx where
  key := ascii "tls-negotiated-version"
  set c p :=
    match p.getUint with
    | none => (retOsslErr, c)
    | some v => (retOsslOk, { c with tlsPadding := { c.tlsPadding with
        altVerMajor := .ofNat (v / 0x100), altVerMinor := .ofNat v } })

/-- The parameters of a context, in the order in which they are looked for. -/
def rsaencSetters : List (Setter RsaencCtx) :=
  [rsaencPadModeSetter, oaepDigestSetter, oaepMgf1DigestSetter, oaepLabelSetter,
    tlsClientVersionSetter, tlsNegotiatedVersionSetter]

/-- `p11prov_rsaenc_set_ctx_params` -/
def rsaencSetCtxParams (params : Option (List OsslParam)) (c : RsaencCtx) : Nat × RsaencCtx :=
  match params with
  | none => (retOsslOk, c)
  | some params => setAll params rsaencSetters c

/-- `p11prov_rsaenc_decrypt_init`, up to the parameters: the context with its key, and whether the
    parameters are to be set. -/
def rsaencDecryptKey (ctx : Ctx) (c : RsaencCtx) (key : Option ObjId) : P (Bool × RsaencCtx) := do
  let ret ← call .ctxStatus
  if ret ≠ Ckr.ok then
    return (false, c)
  match ← objRef? ctx key with
  | none => return (false, { c with key := none })
  | some key =>
    let c := { c with key := some key }
    let obj ← mem (.loadObj key)
    return (obj.cls = Cko.privateKey, c)

/-- `p11prov_rsaenc_decrypt_init` -/
def rsaencDecryptInit (ctx : Ctx) (c : RsaencCtx) (key : Option ObjId)
    (params : Option (List OsslParam)) : P (Nat × RsaencCtx) := do
  let (ok, c) ← rsaencDecryptKey ctx c key
  return if ok then rsaencSetCtxParams params c else (retOsslErr, c)

/-! ## TLS padding -/

/-- `SSL_MAX_MASTER_KEY_LENGTH` -/
abbrev sslMaxMasterKeyLength : Nat := 48

/-- Whether a byte is the one expected, as a condition. -/
def byteEqual (w : Nat) (a b : UInt8) : BitVec w :=
  constantEqual (a.toBitVec.setWidth w) (b.toBitVec.setWidth w)

/-- The version at the start of the key is that of the client, or the alternative one if it is
    configured. -/
def versionCond (w : Nat) (t : TlsPadding) (major minor : UInt8) : BitVec w :=
  let verCond := byteEqual w major t.clientVerMajor &&& byteEqual w minor t.clientVerMinor
  if t.altVerMajor ≠ 0 then
    verCond ||| (byteEqual w major t.altVerMajor &&& byteEqual w minor t.altVerMinor)
  else verCond

/-- `p11prov_tls_constant_time_depadding`, with its random bytes: the condition, and what it writes
    to `out`. -/
def tlsConstantTimeDepadding {w : Nat} (t : TlsPadding) (buf : Bytes) (outSize : BitVec w)
    (randbuf : Vector UInt8 sslMaxMasterKeyLength) : Buffered (BitVec w × Bytes) := do
  let cond := constantEqual outSize (.ofNat w sslMaxMasterKeyLength)
  let major ← readByte buf 0
  let minor ← readByte buf 1
  let cond := cond &&& versionCond w t major minor
  let bytes ← (List.range sslMaxMasterKeyLength).mapM fun i => readByte buf (.ofNat 64 i)
  return (cond, constantSelectBuf cond sslMaxMasterKeyLength bytes randbuf.toList)

/-! ## Decryption -/

/-- What a decryption returns, with the buffer of the caller and `*outlen`, if it is set. -/
structure RsaencDecrypted where
  ret : Nat
  out : Bytes
  outlen : Option Nat := none
  deriving DecidableEq

/-- The branch of `p11prov_rsaenc_decrypt` for PKCS #1 padding, after `C_Decrypt` returned the code
    `ret` and the length `outSize`, and left `buf` in the buffer it was given. With TLS padding this
    is the temporary buffer. -/
def rsaencPkcsResult {w : Nat} (t : TlsPadding) (out buf : Bytes) (ret outSize : BitVec w)
    (randbuf : Option (Vector UInt8 sslMaxMasterKeyLength)) : RsaencDecrypted :=
  let cond := constantEqual ret (.ofNat w Ckr.ok)
  if t.enabled then
    match randbuf with
    | none => { ret := retOsslErr, out }
    | some randbuf =>
      let (tlsCond, bytes) := (tlsConstantTimeDepadding t buf outSize randbuf).val
      { ret := (constantSelectInt (cond &&& tlsCond) retOsslOk retOsslErr).toNat
        out := overwrite out bytes
        outlen := some sslMaxMasterKeyLength }
  else
    { ret := (constantSelectInt cond retOsslOk retOsslErr).toNat
      out := buf
      outlen := some outSize.toNat }

/-- The buffer that `C_Decrypt` gets, temporary or of the caller, with its size and the length that
    is announced for it. -/
structure DecryptBuffer where
  tmp : Bool
  size : Nat
  announced : Nat
  deriving DecidableEq, Repr

/-- The buffer of `p11prov_rsaenc_decrypt`. Only the branch for PKCS #1 uses `outbuf`, but both use
    `out_size`. -/
def RsaencCtx.decryptBuffer (c : RsaencCtx) (keySize outsize : Nat) : DecryptBuffer :=
  let outSize := if c.tlsPadding.enabled then keySize else outsize
  if c.mechtype = Ckm.rsaPkcs ∧ c.tlsPadding.enabled then
    { tmp := true, size := keySize, announced := outSize }
  else { tmp := false, size := outsize, announced := outSize }

/-- The test of `p11prov_rsaenc_decrypt` on the size of the output. -/
def RsaencCtx.fits (c : RsaencCtx) (keySize outsize : Nat) : Bool :=
  keySize ≤ outsize || c.tlsPadding.enabled && sslMaxMasterKeyLength ≤ outsize

/-- The part of `p11prov_rsaenc_decrypt` that has a session with the operation started. -/
def rsaencDecryptOn (w : Nat) (c : RsaencCtx) (keySize : Nat) (h : Handle) (out inp : Bytes) :
    P RsaencDecrypted := do
  let b := c.decryptBuffer keySize out.length
  let (ret, r) ← call (.crypto h (.crypt .decrypt inp b.announced))
  if c.mechtype = Ckm.rsaPkcs then
    let buf := overwrite (if b.tmp then .replicate keySize 0 else out) r.written
    let randbuf ← if c.tlsPadding.enabled then call (.randBytes sslMaxMasterKeyLength)
      else pure none
    return rsaencPkcsResult c.tlsPadding out buf (.ofNat w ret) (.ofNat w r.len) randbuf
  else
    let out := overwrite out r.written
    if ret ≠ Ckr.ok then
      return { ret := retOsslErr, out }
    return { ret := retOsslOk, out, outlen := some r.len }

/-- The part of `p11prov_rsaenc_decrypt` that has a session. -/
def rsaencDecryptWith (w : Nat) (ctx : Ctx) (c : RsaencCtx) (key : ObjId) (keySize : Nat)
    (handle : ObjectHandle) (s : SessId) (out inp : Bytes) : P RsaencDecrypted := do
  let h ← sessionHandle s
  let (ret, _) ← call (.crypto h (.init .decrypt c.mech handle))
  if ret ≠ Ckr.ok then
    return { ret := retOsslErr, out }
  let obj ← mem (.loadObj key)
  let ret ← if obj.getBool ckaAlwaysAuthenticate false then contextSpecificLogin ctx s none false
    else pure Ckr.ok
  if ret ≠ Ckr.ok then
    return { ret := retOsslErr, out }
  rsaencDecryptOn w c keySize h out inp

/-- `p11prov_rsaenc_decrypt`. The output may be `NULL`, and its size is that of the buffer. -/
def rsaencDecrypt (w : Nat) (ctx : Ctx) (c : RsaencCtx) (out : Option Bytes) (inp : Bytes) :
    P RsaencDecrypted := do
  let failed : RsaencDecrypted := { ret := retOsslErr, out := out.getD [] }
  match c.key with
  | none => return failed
  | some key =>
    let keySize := keyMember (some (← mem (.loadObj key))) (·.size)
    if keySize = ckUnavailableInformation then
      return failed
    match out with
    | none =>
      let outlen := if c.tlsPadding.enabled then sslMaxMasterKeyLength else keySize
      return { ret := retOsslOk, out := [], outlen := some outlen }
    | some out =>
      if !c.fits keySize out.length then
        return failed
      if c.tlsPadding.enabled then
        if !(← mem .alloc) then
          return failed
      let handle ← objGetHandle ctx key
      if handle = ckInvalidHandle then
        return failed
      match ← trySessionRef ctx (← mem (.loadObj key)) c.mechtype true false with
      | .error _ => return failed
      | .ok s =>
        let r ← rsaencDecryptWith w ctx c key keySize handle s out inp
        returnSession ctx s
        return r

end P11Prov
