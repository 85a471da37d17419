import P11Prov.Derive

/-!
# Key derivation functions

The contexts of HKDF and of the TLS 1.3 KDF, those of `kdf.c`. A key comes to a
context as an object or as secret bytes, which are made a key on the session of
the context. The session is taken when it is first needed, on any slot if it is
for secret bytes, and kept until the context is reset.

Of the mechanism of a derivation the calls carry the type, and of the template
nothing. The parameter `info` is only looked at for whether it is accepted.
-/

namespace P11Prov

open Interaction

/-- `EVP_KDF_HKDF_MODE_EXTRACT_AND_EXPAND` -/
abbrev modeExtractAndExpand : Int := 0
/-- `EVP_KDF_HKDF_MODE_EXTRACT_ONLY` -/
abbrev modeExtractOnly : Int := 1
/-- `EVP_KDF_HKDF_MODE_EXPAND_ONLY` -/
abbrev modeExpandOnly : Int := 2

/-- `struct p11prov_kdf_ctx`, with the uses of handles so far. A buffer that is `NULL` is
    `none`. -/
structure KdfCtx where
  key : Option ObjId := none
  mode : Int := modeExtractAndExpand
  hashMech : Nat := 0
  salt : Option Bytes := none
  prefixData : Option Bytes := none
  label : Option Bytes := none
  data : Option Bytes := none
  session : Option SessId := none
  isTls13Kdf : Bool := false
  uses : List Use := []
  deriving DecidableEq

/-- Notes uses. -/
def KdfCtx.note (c : KdfCtx) (uses : List Use) : KdfCtx := { c with uses := c.uses ++ uses }

/-- The two algorithms with contexts of `kdf.c`. -/
inductive KdfAlg
  | hkdf
  | tls13Kdf
  deriving DecidableEq, Repr

/-! ## Contexts -/

/-- `p11prov_hkdf_newctx` -/
def hkdfNewctx : P (Option KdfCtx) := do
  let ret ← call .ctxStatus
  if ret ≠ Ckr.ok then
    return none
  return if ← mem .alloc then some {} else none

/-- `p11prov_tls13_kdf_newctx` -/
def tls13KdfNewctx : P (Option KdfCtx) := do
  return (← hkdfNewctx).map fun c => { c with isTls13Kdf := true }

/-- `p11prov_hkdf_reset`: only the provider context is kept. -/
def hkdfReset (ctx : Ctx) (c : KdfCtx) : P KdfCtx := do
  objFree? ctx c.key
  returnSession? ctx c.session
  return { uses := c.uses }

/-- `p11prov_hkdf_freectx` -/
def hkdfFreectx (ctx : Ctx) (c : KdfCtx) : P Unit := do
  let _ ← hkdfReset ctx c

/-! ## Keys -/

/-- The session of `inner_pkcs11_key`: the one of the context, else one on any slot. -/
def kdfSession (ctx : Ctx) (mechtype : Nat) : Option SessId → P (Except CkRv SessId)
  | some s => pure (.ok s)
  | none => getSession ctx ckUnavailableInformation { mechtype }

/-- `inner_pkcs11_key`: the code, what `*keyobj` is then and the context. -/
def innerPkcs11Key (ctx : Ctx) (c : KdfCtx) (mechtype keylen : Nat) (keyobj : Option ObjId) :
    P (CkRv × Option ObjId × KdfCtx) := do
  match ← kdfSession ctx mechtype c.session with
  | .error ret => return (ret, keyobj, c)
  | .ok s =>
    let c := { c with session := some s }
    match ← createSecretKey ctx s keylen with
    | none => return (Ckr.keyHandleInvalid, none, c)
    | some o => return (Ckr.ok, some o, c)

/-- `p11prov_hkdf_set_skey` -/
def hkdfSetSkey (ctx : Ctx) (c : KdfCtx) (key : Option ObjId) (paramname : Bytes) :
    P (Nat × KdfCtx) := do
  if paramname ≠ ascii "key" then
    -- anything but a key is ignored
    return (retOsslOk, c)
  objFree? ctx c.key
  let key ← objRef? ctx key
  return (retOsslOk, { c with key })

/-! ## Parameters -/

/-- `OSSL_KDF_PARAM_DIGEST` -/
def hashSetter : Setter KdfCtx where
  key := ascii "digest"
  set c p :=
    match p.getUtf8StringPtr with
    | none => (retOsslErr, c)
    | some name =>
      match digestGetByName name with
      | .error _ => (retOsslErr, c)
      | .ok hashMech => (retOsslOk, { c with hashMech })

/-- The mode of a name. -/
def modeOfName (s : Bytes) : Option Int :=
  if strcasecmpEq s (ascii "EXTRACT_AND_EXPAND") then some modeExtractAndExpand
  else if strcasecmpEq s (ascii "EXTRACT_ONLY") then some modeExtractOnly
  else if strcasecmpEq s (ascii "EXPAND_ONLY") then some modeExpandOnly
  else none

/-- The mode that a parameter gives, by its number or its name. -/
def modeValue : OsslData → Option Int
  | .utf8String s => s.bind modeOfName
  | p => p.getInt

/-- `OSSL_KDF_PARAM_MODE`. A number that is no mode is assigned before it is refused. -/
def modeSetter : Setter KdfCtx where
  key := ascii "mode"
  set c p :=
    match modeValue p with
    | none => (retOsslErr, c)
    | some mode =>
      let c := { c with mode }
      if mode ∈ [modeExtractAndExpand, modeExtractOnly, modeExpandOnly] then (retOsslOk, c)
      else (retOsslErr, c)

/-- A parameter that is kept in a buffer. The buffer is freed first. -/
def bufferSetter (key : Bytes) (assign : KdfCtx → Option Bytes → KdfCtx) : Setter KdfCtx where
  key
  set c p :=
    match p.getOctetString with
    | none => (retOsslErr, assign c none)
    | some value => (retOsslOk, assign c (some value))

/-- `OSSL_KDF_PARAM_SALT` -/
def saltSetter : Setter KdfCtx := bufferSetter (ascii "salt") fun c salt => { c with salt }

/-- `OSSL_KDF_PARAM_PREFIX` -/
def prefixSetter : Setter KdfCtx :=
  bufferSetter (ascii "prefix") fun c prefixData => { c with prefixData }

/-- `OSSL_KDF_PARAM_LABEL` -/
def labelSetter : Setter KdfCtx := bufferSetter (ascii "label") fun c label => { c with label }

/-- `OSSL_KDF_PARAM_DATA` -/
def dataSetter : Setter KdfCtx := bufferSetter (ascii "data") fun c data => { c with data }

/-- The value of a parameter as it is in memory is there, and not empty. -/
def OsslData.hasData : OsslData → Bool
  | utf8String s | utf8Ptr s | octetString s => s.any (· ≠ [])
  | integer _ | unsignedInteger _ => true

/-- The parameters `OSSL_KDF_PARAM_INFO`, which are concatenated. -/
def infosAccepted (params : List OsslParam) : P Bool :=
  match (params.filter (·.key = ascii "info")).map (·.data) with
  | [] => pure true
  | p :: infos => do
    if !p.hasData then
      return false
    -- one allocation for each of them
    let ok ← infos.foldlM (fun ok p => if ok && p.hasData then mem .alloc else pure false)
      (← mem .alloc)
    return ok

/-- The parameters of `p11prov_hkdf_set_ctx_params` after the key and the salt. -/
def setRest (c : KdfCtx) (params : List OsslParam) : P (Nat × KdfCtx) := do
  if c.isTls13Kdf then
    if c.mode = modeExtractAndExpand then
      return (retOsslErr, c)
    return setAll params [prefixSetter, labelSetter, dataSetter] c
  return (if ← infosAccepted params then retOsslOk else retOsslErr, c)

/-- `OSSL_KDF_PARAM_KEY`: the secret becomes a key. The pointer to the key before, which is
    freed, stays if there is no session. -/
def setKey (ctx : Ctx) (c : KdfCtx) (params : List OsslParam) : P (Nat × KdfCtx) :=
  match locate params (ascii "key") with
  | none => return (retOsslOk, c)
  | some p =>
    match p.getOctetString with
    | none => return (retOsslErr, c)
    | some secret => do
      objFree? ctx c.key
      let (ret, key, c) ← innerPkcs11Key ctx c Ckm.hkdfDerive secret.length c.key
      return (if ret = Ckr.ok then retOsslOk else retOsslErr, { c with key })

/-- `p11prov_hkdf_set_ctx_params` -/
def hkdfSetCtxParams (ctx : Ctx) (c : KdfCtx) : Option (List OsslParam) → P (Nat × KdfCtx)
  | none => return (retOsslOk, c)
  | some params => do
    let (ret, c) := setAll params [hashSetter, modeSetter] c
    if ret ≠ retOsslOk then
      return (ret, c)
    let (ret, c) ← setKey ctx c params
    if ret ≠ retOsslOk then
      return (ret, c)
    let (ret, c) := saltSetter.run params c
    if ret ≠ retOsslOk then
      return (ret, c)
    setRest c params

/-! ## Derivation on the token -/

/-- `inner_derive_key` -/
def innerDeriveKey (ctx : Ctx) (c : KdfCtx) (key : ObjId) (mechtype : Nat) :
    P (Except CkRv Derived × KdfCtx) := do
  if mechtype ≠ Ckm.hkdfDerive ∧ mechtype ≠ Ckm.hkdfData then
    return (.error Ckr.argumentsBad, c)
  let (r, uses) ← deriveKeyNoted ctx key mechtype c.session
  let c := c.note uses
  match r with
  | .error ret => return (.error ret, c)
  | .ok (dkey, s) => return (.ok ⟨dkey, s.slot⟩, { c with session := some s })

/-- `inner_extract_key_value` -/
def innerExtractKeyValue (c : KdfCtx) (dkey : Derived) (keylen : Nat) : P (CkRv × KdfCtx) := do
  let (ret, keySize, uses) ← fetchValue dkey.handle dkey.slotid c.session
  let c := c.note uses
  if ret ≠ Ckr.ok then
    return (ret, c)
  return (if keySize = keylen then Ckr.ok else Ckr.generalError, c)

/-- The object of `p11prov_obj_from_handle` on the session of the context. -/
def kdfObjFromHandle (ctx : Ctx) (c : KdfCtx) (dkey : Derived) : P (Option ObjId × KdfCtx) := do
  let (r, uses) ← objFromDerived ctx dkey c.session
  return (r.toOption, c.note uses)

/-! ## HKDF -/

/-- `p11prov_hkdf_format_params`: without a digest there are none. -/
def hkdfFormatParams (c : KdfCtx) : CkRv := if c.hashMech = 0 then Ckr.argumentsBad else Ckr.ok

/-- `p11prov_hkdf_derive` after its parameters, into a buffer if there is one. -/
def hkdfDeriveOn (ctx : Ctx) (c : KdfCtx) (hasBuffer : Bool) (keylen : Nat) :
    P (Nat × KdfCtx) := do
  match c.key with
  | none => return (retOsslErr, c)
  | some key =>
    if !hasBuffer ∨ keylen = 0 ∨ hkdfFormatParams c ≠ Ckr.ok then
      return (retOsslErr, c)
    match ← innerDeriveKey ctx c key Ckm.hkdfData with
    | (.error _, c) => return (retOsslErr, c)
    | (.ok dkey, c) =>
      let (ret, c) ← innerExtractKeyValue c dkey keylen
      return (if ret = Ckr.ok then retOsslOk else retOsslErr, c)

/-- `p11prov_hkdf_derive` -/
def hkdfDerive (ctx : Ctx) (c : KdfCtx) (hasBuffer : Bool) (keylen : Nat)
    (params : Option (List OsslParam)) : P (Nat × KdfCtx) := do
  let (ret, c) ← hkdfSetCtxParams ctx c params
  if ret ≠ retOsslOk then
    return (ret, c)
  hkdfDeriveOn ctx c hasBuffer keylen

/-- `p11prov_hkdf_derive_skey` after its parameters. -/
def hkdfDeriveSkeyOn (ctx : Ctx) (c : KdfCtx) (keyType : Option Bytes) (keylen : Nat) :
    P (Option ObjId × KdfCtx) := do
  match c.key with
  | none => return (none, c)
  | some key =>
    if keylen = 0 ∨ hkdfFormatParams c ≠ Ckr.ok ∨
        getKeyTypeFromString keyType = ckUnavailableInformation then
      return (none, c)
    match ← innerDeriveKey ctx c key Ckm.hkdfDerive with
    | (.error _, c) => return (none, c)
    | (.ok dkey, c) => kdfObjFromHandle ctx c dkey

/-- `p11prov_hkdf_derive_skey` -/
def hkdfDeriveSkey (ctx : Ctx) (c : KdfCtx) (keyType : Option Bytes) (keylen : Nat)
    (params : Option (List OsslParam)) : P (Option ObjId × KdfCtx) := do
  let (ret, c) ← hkdfSetCtxParams ctx c params
  if ret ≠ retOsslOk then
    return (none, c)
  hkdfDeriveSkeyOn ctx c keyType keylen

/-! ## TLS 1.3 -/

/-- The checks of `p11prov_tls13_expand_label`, after which the label fits its buffer. -/
def KdfCtx.labelOk (c : KdfCtx) (data : Option Bytes) (keylen : Nat) : Bool :=
  let prefixlen := (c.prefixData.getD []).length
  let labellen := (c.label.getD []).length
  prefixlen ≠ 0 ∧ labellen ≠ 0 ∧ prefixlen + labellen ≤ 255 ∧ data ≠ some [] ∧
    (data.getD []).length ≤ 255 ∧ keylen ≤ 65535

/-- `p11prov_tls13_expand_label`, with the prefix and the label of the context. -/
def tls13ExpandLabel (ctx : Ctx) (c : KdfCtx) (keyobj : ObjId) (data : Option Bytes)
    (keylen mechtype : Nat) : P (Except CkRv Derived × KdfCtx) :=
  if c.labelOk data keylen then innerDeriveKey ctx c keyobj mechtype
  else return (.error Ckr.argumentsBad, c)

/-- `p11prov_digest_util` on no data, into a buffer of the size. -/
def digestUtil (digest size : Nat) : P (Except CkRv Bytes) := do
  if !(← call (.evpFetch digest)) then
    return .error Ckr.generalError
  if !(← mem .alloc) then
    return .error Ckr.generalError
  if !(← call (.evpInit digest)) then
    return .error Ckr.generalError
  match ← call (.evpFinal digest []) with
  | none | some [] => return .error Ckr.generalError
  | some dgst => return if size < dgst.length then .error Ckr.generalError else .ok dgst

/-- The derivation of a salt in `p11prov_tls13_derive_secret`, from the key `ek`. -/
def tls13SaltOn (ctx : Ctx) (c : KdfCtx) (ek : ObjId) (info : Bytes) (hashlen : Nat) :
    P (CkRv × KdfCtx) := do
  let (r, c) ← tls13ExpandLabel ctx c ek (some info) hashlen Ckm.hkdfData
  objFree ctx ek
  match r with
  | .error ret => return (ret, c)
  | .ok dkey => innerExtractKeyValue c dkey hashlen

/-- The salt of `p11prov_tls13_derive_secret`. The one of the context is the key that the salt
    is derived from. -/
def tls13Salt (ctx : Ctx) (c : KdfCtx) (hashlen : Nat) : P (CkRv × KdfCtx) :=
  match c.salt with
  | none => return (Ckr.ok, c)
  | some salt =>
    match digestGetName c.hashMech with
    | .error ret => return (ret, c)
    | .ok _ => do
      match ← digestUtil c.hashMech hashlen with
      | .error ret => return (ret, c)
      | .ok info =>
        match ← innerPkcs11Key ctx c Ckm.hkdfData salt.length none with
        | (ret, none, c) => return (ret, c)
        | (_, some ek, c) => tls13SaltOn ctx c ek info hashlen

/-- The derivation of `p11prov_tls13_derive_secret` from a key, and from zeros without one. -/
def tls13DeriveFrom (ctx : Ctx) (c : KdfCtx) (keyobj : Option ObjId) (hashlen mechtype : Nat) :
    P (Except CkRv Derived × KdfCtx) :=
  match keyobj with
  | some key => innerDeriveKey ctx c key mechtype
  | none => do
    match ← innerPkcs11Key ctx c mechtype hashlen none with
    | (ret, none, c) => return (.error ret, c)
    | (_, some zerokey, c) =>
      let (r, c) ← innerDeriveKey ctx c zerokey mechtype
      objFree ctx zerokey
      return (r, c)

/-- `p11prov_tls13_derive_secret` -/
def tls13DeriveSecret (ctx : Ctx) (c : KdfCtx) (keyobj : Option ObjId) (mechtype : Nat) :
    P (Except CkRv Derived × KdfCtx) :=
  match digestGetDigestSize c.hashMech with
  | .error ret => return (.error ret, c)
  | .ok hashlen => do
    let (ret, c) ← tls13Salt ctx c hashlen
    if ret ≠ Ckr.ok then
      return (.error ret, c)
    tls13DeriveFrom ctx c keyobj hashlen mechtype

/-- The derivation of the TLS 1.3 KDF by its mode. -/
def tls13DeriveBy (ctx : Ctx) (c : KdfCtx) (keylen mechtype : Nat) :
    P (Except CkRv Derived × KdfCtx) :=
  if c.mode = modeExpandOnly then
    match c.key with
    | none => return (.error Ckr.keyHandleInvalid, c)
    | some key => tls13ExpandLabel ctx c key c.data keylen mechtype
  else if c.mode = modeExtractOnly then
    -- the key can be missing here
    tls13DeriveSecret ctx c c.key mechtype
  else return (.error Ckr.argumentsBad, c)

/-- `p11prov_tls13_kdf_derive`, into a buffer if there is one. -/
def tls13KdfDerive (ctx : Ctx) (c : KdfCtx) (hasBuffer : Bool) (keylen : Nat)
    (params : Option (List OsslParam)) : P (Nat × KdfCtx) := do
  let (ret, c) ← hkdfSetCtxParams ctx c params
  if ret ≠ retOsslOk ∨ !hasBuffer ∨ keylen = 0 then
    return (retOsslErr, c)
  match ← tls13DeriveBy ctx c keylen Ckm.hkdfData with
  | (.error _, c) => return (retOsslErr, c)
  | (.ok dkey, c) =>
    let (ret, c) ← innerExtractKeyValue c dkey keylen
    return (if ret = Ckr.ok then retOsslOk else retOsslErr, c)

/-- `p11prov_tls13_kdf_derive_skey` -/
def tls13KdfDeriveSkey (ctx : Ctx) (c : KdfCtx) (keyType : Option Bytes) (keylen : Nat)
    (params : Option (List OsslParam)) : P (Option ObjId × KdfCtx) := do
  let (ret, c) ← hkdfSetCtxParams ctx c params
  if ret ≠ retOsslOk ∨ keylen = 0 ∨ getKeyTypeFromString keyType = ckUnavailableInformation then
    return (none, c)
  match ← tls13DeriveBy ctx c keylen Ckm.hkdfDerive with
  | (.error _, c) => return (none, c)
  | (.ok dkey, c) => kdfObjFromHandle ctx c dkey

end P11Prov
