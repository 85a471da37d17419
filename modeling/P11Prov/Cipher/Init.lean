import P11Prov.Cipher
import P11Prov.Digests

/-!
# Cipher contexts from their creation to their end

The functions of `cipher.c` around the updates: a context is created for a
mechanism, takes a key, an IV and parameters in any number of initialisations,
and is finalized or freed. The session of an operation is not got by an
initialisation, but by the first update after it.
-/

namespace P11Prov

open Interaction

/-! ## Parameters -/

namespace CipherCtx

/-- Assigns the type of the mechanism. -/
def withMechanism (c : CipherCtx) (mechanism : Nat) : CipherCtx :=
  { c with mech := { c.mech with mechanism } }

/-- Assigns the parameter of the mechanism. -/
def withParameter (c : CipherCtx) (parameter : MechParameter) : CipherCtx :=
  { c with mech := { c.mech with parameter } }

end CipherCtx

/-- `OSSL_CIPHER_PARAM_PADDING`, which chooses between the mechanisms of CBC mode. There is no
    padding in other modes. -/
def cipherPaddingSetter : Setter CipherCtx where
  key := ascii "padding"
  set c p :=
    match p.getUint with
    | none => (retOsslErr, c)
    | some pad =>
      if 1 < pad then (retOsslErr, c)
      else
        let c := { c with pad := pad == 1 }
        if c.mech.mechanism = Ckm.aesCbc then
          (retOsslOk, if c.pad then c.withMechanism Ckm.aesCbcPad else c)
        else if c.mech.mechanism = Ckm.aesCbcPad then
          (retOsslOk, if c.pad then c else c.withMechanism Ckm.aesCbc)
        else if c.pad then (retOsslErr, c)
        else (retOsslOk, c)

/-- `OSSL_CIPHER_PARAM_CTS_MODE`, which is looked at for one mechanism only. -/
def ctsModeSetter : Setter CipherCtx where
  key := ascii "cts_mode"
  set c p :=
    if c.mech.mechanism = Ckm.aesCts then
      match p.getUtf8Ptr with
      | none => (retOsslErr, c)
      | some mode => if mode = ascii "CS1" then (retOsslOk, c) else (retOsslErr, c)
    else (retOsslOk, c)

/-- The versions of TLS, by their numbers. -/
def tlsVersionOf : Nat → Option TlsVersion
  | 0x301 => some .tls10
  | 0x302 => some .tls11
  | 0x303 => some .tls12
  | _ => none

/-- `OSSL_CIPHER_PARAM_TLS_VERSION` -/
def tlsVersionSetter : Setter CipherCtx where
  key := ascii "tls-version"
  set c p :=
    match p.getUint.bind tlsVersionOf with
    | none => (retOsslErr, c)
    | some v => (retOsslOk, { c with tlsver := some v })

/-- `OSSL_CIPHER_PARAM_TLS_MAC_SIZE` -/
def tlsMacSizeSetter : Setter CipherCtx where
  key := ascii "tls-mac-size"
  set c p :=
    match p.getSizeT with
    | none => (retOsslErr, c)
    | some macsize =>
      if h : macsize ≤ evpMaxMdSize then
        (retOsslOk, { c with tlsmacsize := macsize, tlsmacsize_le := h })
      else (retOsslErr, c)

/-- The parameters of a context, in their order. -/
def cipherSetters : List (Setter CipherCtx) :=
  [cipherPaddingSetter, ctsModeSetter, tlsVersionSetter, tlsMacSizeSetter]

/-- `p11prov_aes_set_ctx_params` -/
def aesSetCtxParams (c : CipherCtx) (params : List OsslParam) : Nat × CipherCtx :=
  if c.session.isSome then (retOsslErr, c) else setAll params cipherSetters c

/-! ## Contexts -/

/-- The context that `p11prov_cipher_newctx` makes for a mechanism, with nothing set. -/
def freshCipher (mechanism : Nat) : CipherCtx := { mech := { mechanism } }

/-! ## Initialisation -/

/-- `set_iv`. No IV, or an empty one, clears the parameter. -/
def setIv (c : CipherCtx) (iv : Bytes) : P (CkRv × CipherCtx) := do
  let c := c.withParameter .null
  if iv = [] then
    return (Ckr.ok, c)
  if !(← mem .alloc) then
    return (Ckr.hostMemory, c)
  return (Ckr.ok, c.withParameter (.iv iv))

/-- The mechanisms whose parameter is the IV. -/
def ivMechanisms : List Nat := [Ckm.aesCbc, Ckm.aesCbcPad, Ckm.aesCts]

/-- The part of `p11prov_cipher_prep_mech` that takes the parameters. -/
def prepParams (c : CipherCtx) (params : List OsslParam) : CkRv × CipherCtx :=
  let r := aesSetCtxParams c params
  (if r.1 = retOsslOk then Ckr.ok else Ckr.mechanismParamInvalid, r.2)

/-- `p11prov_cipher_prep_mech`. The other modes are yet to be done. -/
def cipherPrepMech (c : CipherCtx) (iv : Bytes) (params : List OsslParam) :
    P (CkRv × CipherCtx) := do
  if c.mech.mechanism = Ckm.aesEcb then
    return prepParams c params
  else if c.mech.mechanism ∈ ivMechanisms then
    let (rv, c) ← setIv c iv
    if rv ≠ Ckr.ok then
      return (rv, c)
    return prepParams c params
  else
    return (Ckr.mechanismInvalid, c)

/-- The part of `p11prov_cipher_op_init` that takes the key. -/
def opInitCipherKey (ctx : Ctx) (c : CipherCtx) : Option ObjId → P (CkRv × CipherCtx)
  -- it is passed later
  | none => return (Ckr.ok, c)
  | some key => do
    let key ← objRef ctx key
    return (if key = none then Ckr.keyNeeded else Ckr.ok, { c with key })

/-- `p11prov_cipher_op_init` -/
def cipherOpInit (ctx : Ctx) (c : CipherCtx) (key : Option ObjId) (op : Flags) (iv : Bytes)
    (params : List OsslParam) : P (CkRv × CipherCtx) := do
  let rv ← call .ctxStatus
  if rv ≠ Ckr.ok then
    return (rv, c)
  let (rv, c) ← cipherPrepMech { c with operation := op } iv params
  if rv ≠ Ckr.ok then
    return (rv, c)
  opInitCipherKey ctx c key

/-- `p11prov_cipher_encrypt_skey_init` and `p11prov_cipher_decrypt_skey_init` -/
def cipherSkeyInit (ctx : Ctx) (c : CipherCtx) (key : Option ObjId) (op : Flags) (iv : Bytes)
    (params : List OsslParam) : P (Nat × CipherCtx) := do
  let (rv, c) ← cipherOpInit ctx c key op iv params
  return (if rv = Ckr.ok then retOsslOk else retOsslErr, c)

/-- `p11prov_cipher_legacy_init`, with the bytes of the key, which may be none. They become a
    session object. -/
def cipherLegacyInit (ctx : Ctx) (c : CipherCtx) (op : Flags) (key iv : Bytes)
    (params : List OsslParam) : P (Nat × CipherCtx) := do
  let rv ← call .ctxStatus
  if rv ≠ Ckr.ok then
    return (retOsslErr, c)
  let skey ← if key = [] then pure none else objImportSecretKey ctx ckkAes key.length
  if key ≠ [] ∧ skey = none then
    return (retOsslErr, c)
  let r ← cipherSkeyInit ctx c skey op iv params
  objFree? ctx skey
  return r

/-! ## The end of an operation -/

/-- The call that ends an operation, with the output buffer and the length. -/
def cipherFinalOn (c : CipherCtx) (s : SessId) (out : Bytes) : P (CkRv × Bytes × Nat) :=
  match c.fn with
  | none => pure (Ckr.generalError, out, out.length)
  | some fn => do
    let h ← sessionHandle s
    let (rv, r) ← call (.crypto h (.cryptFinal fn out.length))
    return (rv, overwrite out r.written, r.len)

/-- `p11prov_cipher_final`, on a buffer of `outsize` bytes. -/
def cipherFinal (ctx : Ctx) (c : CipherCtx) (out : Bytes) : P Updated := do
  match c.session with
  | none => return { ret := retOsslErr, ctx := c, out }
  | some s =>
    let (rv, out, outlen) ← cipherFinalOn c s out
    returnSession ctx s
    if rv ≠ Ckr.ok then
      return { ret := retOsslErr, ctx := c.finalized, out }
    return { ret := retOsslOk, ctx := c.finalized, out, outl := some (.ofNat 64 outlen) }

end P11Prov
