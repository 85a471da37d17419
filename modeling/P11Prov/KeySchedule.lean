import P11Prov.Crypto.Hkdf
import P11Prov.Kdf
import P11Prov.Interaction.Traced

/-!
# The TLS 1.3 key schedule

The functions of `kdf.c` for TLS 1.3 once more, now with the bytes they work on:
the label that is written to a local buffer, the parameters of the mechanisms
and the values that are read back. The contexts are the same.

Sessions and objects are left to their calls (`TokenCall`). What a token holds
under a handle and the slot of an object are the state that the calls work on
(`Tokens`), and derivations compute what RFC 5869 says (`tokenEnv`).
-/

namespace P11Prov.KeySchedule

open Interaction

/-! ## Calls -/

/-- `CKF_HKDF_SALT_DATA` -/
abbrev ckfHkdfSaltData : Nat := 2

/-- `CKO_DATA` -/
abbrev ckoData : Nat := 0

/-- `CK_HKDF_PARAMS`. A pointer that is `NULL` is `none`. -/
structure CkHkdfParams where
  bExtract : Bool
  bExpand : Bool
  prfHashMechanism : Nat
  ulSaltType : Nat := 0
  pSalt : Option Bytes := none
  pInfo : Option Bytes := none
  deriving DecidableEq

/-- `CK_MECHANISM`, for a derivation. -/
structure HkdfMechanism where
  mechanism : Nat
  params : CkHkdfParams
  deriving DecidableEq

/-- The template of a derived object. The attributes that are only there for a key are left out
    with its type. -/
structure DeriveTemplate where
  cls : Nat
  valueLen : Nat
  keyType : Option Nat
  deriving DecidableEq

/-- The functions that are called. The second component of a new key is its handle. -/
inductive TokenCall
  | getSession (mechtype : Nat)
  | trySessionRef (key : ObjId) (mechtype : Nat)
  | createSecretKey (s : SessId) (secret : Bytes)
  | objGetHandle (key : ObjId)
  | deriveKey (s : SessId) (mechanism : HkdfMechanism) (handle : ObjectHandle)
      (template : DeriveTemplate)
  | returnSession (s : SessId)
  | fetchValue (s : SessId) (handle : ObjectHandle) (size : Nat)
  | digestUtil (digest size : Nat)
  | objFree (key : ObjId)
  | alloc

/-- The type of the answers to a call. -/
@[reducible] def TokenCall.Resp : TokenCall → Type
  | getSession _ | trySessionRef _ _ => Except CkRv SessId
  | createSecretKey _ _ => Option (ObjId × ObjectHandle)
  | objGetHandle _ => ObjectHandle
  | deriveKey _ _ _ _ => Except CkRv ObjectHandle
  | fetchValue _ _ _ | digestUtil _ _ => Except CkRv Bytes
  | returnSession _ | objFree _ => Unit
  | alloc => Bool

/-- The programs of the key schedule. -/
abbrev T := Prog TokenCall.Resp

/-- Makes a call. -/
abbrev ask (c : TokenCall) : T c.Resp := .perform c

/-! ## What the calls do -/

/-- The objects that are alive, with their slots and handles, and what the token of a slot holds
    under a handle. The handle of an object is one of its token. -/
structure Tokens where
  obj : ObjId → Option (SlotId × ObjectHandle)
  value : SlotId → ObjectHandle → Option Bytes
  held : ∀ o k, obj o = some k → (value k.1 k.2).isSome

namespace Tokens

/-- The value of a key. -/
def keyValue (st : Tokens) (o : ObjId) : Option Bytes := (st.obj o).bind fun k => st.value k.1 k.2

/-- The slot of a key. -/
def keySlot (st : Tokens) (o : ObjId) : Option SlotId := (st.obj o).map (·.1)

/-- What the tokens hold after a value was put under a handle. -/
def put (value : SlotId → ObjectHandle → Option Bytes) (slot : SlotId) (h : ObjectHandle)
    (v : Bytes) (slot' : SlotId) (h' : ObjectHandle) : Option Bytes :=
  if slot' = slot ∧ h' = h then some v else value slot' h'

/-- A token holds a value under a handle from now on. -/
def hold (st : Tokens) (slot : SlotId) (h : ObjectHandle) (v : Bytes) : Tokens where
  obj := st.obj
  value := put st.value slot h v
  held o k hk := by
    unfold put
    split
    · rfl
    · exact st.held o k hk

/-- A new object. -/
def create (st : Tokens) (o : ObjId) (slot : SlotId) (h : ObjectHandle) (v : Bytes) : Tokens where
  obj := Function.update st.obj o (some (slot, h))
  value := put st.value slot h v
  held o' k hk := by
    by_cases ho : o' = o
    · subst ho
      rw [Function.update_self, Option.some.injEq] at hk
      subst hk
      simp [put]
    · rw [Function.update_of_ne ho] at hk
      exact (st.hold slot h v).held o' k hk

/-- An object is gone. -/
def free (st : Tokens) (o : ObjId) : Tokens where
  obj := Function.update st.obj o none
  value := st.value
  held o' k hk := by
    by_cases ho : o' = o
    · subst ho
      simp at hk
    · rw [Function.update_of_ne ho] at hk
      exact st.held o' k hk

end Tokens

section Env

-- `HMAC-Hash` and `Hash` of each digest, and the slots on which a session for a mechanism can be had
variable (hmac : Nat → Bytes → Bytes → Bytes) (hash : Nat → Bytes → Bytes)
  (offers : Nat → SlotId → Prop)

/-- What RFC 5869 says that a mechanism computes from a key. -/
def rfc5869 (p : CkHkdfParams) (key : Bytes) (len : Nat) : Bytes :=
  let hashLen := digestSizeOf p.prfHashMechanism
  let prk := if p.bExtract then
      Hkdf.extract (hmac p.prfHashMechanism) (p.pSalt.getD (List.replicate hashLen 0)) key
    else key
  if p.bExpand then Hkdf.expand (hmac p.prfHashMechanism) hashLen prk (p.pInfo.getD []) len else prk

/-- A result that satisfies a condition, or an error. -/
def Result {α : Type} (r : Except CkRv α) (φ : α → Prop) : Prop :=
  match r with
  | .ok a => φ a
  | .error ret => ret ≠ Ckr.ok

/-- What the calls may answer. A handle or an object that is new is not in use. -/
def Answers (st : Tokens) : (c : TokenCall) → c.Resp → Prop
  | .getSession mechtype, r => Result r fun s => offers mechtype s.slot
  | .trySessionRef key _, r => Result r fun s => st.keySlot key = some s.slot
  | .createSecretKey s _, r => ∀ o h, r = some (o, h) → st.obj o = none ∧ st.value s.slot h = none
  | .objGetHandle key, h => h = ckInvalidHandle ∨ ∃ slot, st.obj key = some (slot, h)
  | .deriveKey s _ handle _, r => Result r fun h =>
      (st.value s.slot handle).isSome ∧ st.value s.slot h = none
  | .fetchValue s h size, r => Result r fun v => st.value s.slot h = some v ∧ v.length ≤ size
  | .digestUtil digest _, r => Result r fun d =>
      d = hash digest [] ∧ d.length = digestSizeOf digest
  | .returnSession _, _ | .objFree _, _ => True
  | .alloc, _ => True

/-- The state after a call. -/
def after (st : Tokens) : (c : TokenCall) → c.Resp → Tokens
  | .createSecretKey s secret, some (o, h) => st.create o s.slot h secret
  | .deriveKey s mechanism handle template, .ok h =>
    st.hold s.slot h (rfc5869 hmac mechanism.params ((st.value s.slot handle).getD [])
      template.valueLen)
  | .objFree o, _ => st.free o
  | _, _ => st

/-- Tokens that compute RFC 5869. -/
def tokenEnv : Env Tokens TokenCall.Resp where
  adm := Answers hash offers
  next := after hmac

end Env

/-! ## Keys -/

/-- The session of `inner_pkcs11_key`. -/
def kdfSession (mechtype : Nat) : Option SessId → T (Except CkRv SessId)
  | some s => pure (.ok s)
  | none => ask (.getSession mechtype)

/-- `inner_pkcs11_key`: the code, what `*keyobj` is then and the context. -/
def innerPkcs11Key (c : KdfCtx) (mechtype : Nat) (key : Bytes) (keyobj : Option ObjId) :
    T (CkRv × Option ObjId × KdfCtx) := do
  match ← kdfSession mechtype c.session with
  | .error ret => return (ret, keyobj, c)
  | .ok s =>
    let c := { c with session := some s }
    match ← ask (.createSecretKey s key) with
    | none => return (Ckr.keyHandleInvalid, none, c)
    | some (o, _) => return (Ckr.ok, some o, c)

/-- The session of `p11prov_derive_key`. -/
def deriveSession (key : ObjId) (mechtype : Nat) : Option SessId → T (Except CkRv SessId)
  | some s => pure (.ok s)
  | none => ask (.trySessionRef key mechtype)

/-- The part of `p11prov_derive_key` that has a session. -/
def deriveOn (mechanism : HkdfMechanism) (handle : ObjectHandle) (template : DeriveTemplate)
    (session : Option SessId) (s : SessId) : T (Except CkRv (ObjectHandle × SessId)) := do
  match ← ask (.deriveKey s mechanism handle template) with
  | .ok dkey => return .ok (dkey, s)
  | .error ret =>
    if session = none then
      ask (.returnSession s)
    return .error ret

/-- `p11prov_derive_key` -/
def deriveKey (key : ObjId) (mechanism : HkdfMechanism) (template : DeriveTemplate)
    (session : Option SessId) : T (Except CkRv (ObjectHandle × SessId)) := do
  -- first, as it may refresh the object
  let handle ← ask (.objGetHandle key)
  if handle = ckInvalidHandle then
    return .error Ckr.keyHandleInvalid
  match ← deriveSession key mechanism.mechanism session with
  | .error ret => return .error ret
  | .ok s => deriveOn mechanism handle template session s

/-- `inner_derive_key` -/
def innerDeriveKey (c : KdfCtx) (key : ObjId) (mechanism : HkdfMechanism) (keyType keylen : Nat) :
    T (Except CkRv ObjectHandle × KdfCtx) := do
  let template : Option DeriveTemplate :=
    if mechanism.mechanism = Ckm.hkdfDerive then some ⟨Cko.secretKey, keylen, some keyType⟩
    else if mechanism.mechanism = Ckm.hkdfData then some ⟨ckoData, keylen, none⟩
    else none
  match template with
  | none => return (.error Ckr.argumentsBad, c)
  | some template =>
    match ← deriveKey key mechanism template c.session with
    | .error ret => return (.error ret, c)
    | .ok (dkey, s) => return (.ok dkey, { c with session := some s })

/-- `inner_extract_key_value`: the code, and the value that is in the buffer then. -/
def innerExtractKeyValue (c : KdfCtx) (dkey : ObjectHandle) (keylen : Nat) : T (CkRv × Bytes) :=
  match c.session with
  | none => return (Ckr.sessionHandleInvalid, [])
  | some s => do
    match ← ask (.fetchValue s dkey keylen) with
    | .error ret => return (ret, [])
    | .ok v => return (if v.length ≠ keylen then Ckr.generalError else Ckr.ok, v)

/-! ## Labels -/

/-- `TLS13_HKDF_LABEL_MAX_SIZE` -/
abbrev tls13HkdfLabelMaxSize : Nat := 2 + 1 + 255 + 1 + 255

/-- The local buffer for a label. It is not initialised. -/
abbrev LabelBuffer := { info : Bytes // info.length = tls13HkdfLabelMaxSize }

/-- A place in a buffer that is written: where it starts, and how many bytes it has. -/
structure Write where
  start : Nat
  length : Nat
  deriving DecidableEq

/-- `memcpy` to a place in a buffer. -/
def writeAt (info : Bytes) (i : Nat) (bs : Bytes) : Traced Write Bytes :=
  ⟨info.take i ++ bs ++ info.drop (i + bs.length), [⟨i, bs.length⟩]⟩

/-- The part of `p11prov_tls13_expand_label` that writes the label: the buffer, and the index
    after it. -/
def writeLabel (info prefixData label data : Bytes) (keylen : Nat) : Traced Write (Bytes × Nat) := do
  let i := 0
  -- `htobe16`
  let info ← writeAt info i (Encoding.BigEndian.bytes 2 keylen)
  let i := i + 2
  let info ← writeAt info i [(prefixData.length + label.length).toUInt8]
  let i := i + 1
  let info ← writeAt info i prefixData
  let i := i + prefixData.length
  let info ← writeAt info i label
  let i := i + label.length
  let info ← writeAt info i [data.length.toUInt8]
  let i := i + 1
  if 0 < data.length then
    let info ← writeAt info i data
    return (info, i + data.length)
  return (info, i)

/-- The length of a label, as it is computed before the label is written. -/
def labelInfoLen (prefixData label data : Bytes) : Nat :=
  2 + 1 + prefixData.length + label.length + 1 + data.length

/-- The parameters of an expansion. -/
def expandParams (c : KdfCtx) (info : Bytes) : CkHkdfParams where
  bExtract := false
  bExpand := true
  prfHashMechanism := c.hashMech
  pInfo := some info

/-- `p11prov_tls13_expand_label`, with the prefix and the label of the context. -/
def tls13ExpandLabel (c : KdfCtx) (keyobj : ObjId) (data : Option Bytes)
    (keylen mechtype keyType : Nat) (info : LabelBuffer) : T (Except CkRv ObjectHandle × KdfCtx) :=
  if !c.labelOk data keylen then return (.error Ckr.argumentsBad, c)
  else
    let prefixData := c.prefixData.getD []
    let label := c.label.getD []
    let data := data.getD []
    let ulInfoLen := labelInfoLen prefixData label data
    if tls13HkdfLabelMaxSize < ulInfoLen then return (.error Ckr.argumentsBad, c)
    else
      let r := (writeLabel info.1 prefixData label data keylen).val
      if ulInfoLen ≠ r.2 then return (.error Ckr.hostMemory, c)
      else
        innerDeriveKey c keyobj ⟨mechtype, expandParams c (r.1.take ulInfoLen)⟩ keyType keylen

/-! ## Derivation -/

/-- The parameters of an extraction. -/
def extractParams (c : KdfCtx) (salt : Bytes) : CkHkdfParams where
  bExtract := true
  bExpand := false
  prfHashMechanism := c.hashMech
  ulSaltType := ckfHkdfSaltData
  pSalt := some salt

/-- The part of `p11prov_tls13_derive_secret` that has the salt as a key. -/
def tls13SaltOn (c : KdfCtx) (ek : ObjId) (digest : Bytes) (hashlen : Nat) (info : LabelBuffer) :
    T (CkRv × Bytes × KdfCtx) := do
  let (r, c) ← tls13ExpandLabel c ek (some digest) hashlen Ckm.hkdfData ckUnavailableInformation
    info
  ask (.objFree ek)
  match r with
  | .error ret => return (ret, [], c)
  | .ok skey =>
    let (ret, saltbuf) ← innerExtractKeyValue c skey hashlen
    return (ret, saltbuf, c)

/-- The salt of `p11prov_tls13_derive_secret`: zeros, or what is derived from the salt of the
    context. -/
def tls13Salt (c : KdfCtx) (hashlen : Nat) (info : LabelBuffer) : T (CkRv × Bytes × KdfCtx) :=
  match c.salt with
  | none => return (Ckr.ok, List.replicate hashlen 0, c)
  | some salt =>
    match digestGetName c.hashMech with
    | .error ret => return (ret, [], c)
    | .ok _ => do
      -- the digest of an empty message
      match ← ask (.digestUtil c.hashMech hashlen) with
      | .error ret => return (ret, [], c)
      | .ok digest =>
        match ← innerPkcs11Key c Ckm.hkdfData salt none with
        | (ret, none, c) => return (ret, [], c)
        | (_, some ek, c) => tls13SaltOn c ek digest hashlen info

/-- The derivation of `p11prov_tls13_derive_secret` from a key, and from zeros without one. -/
def tls13DeriveFrom (c : KdfCtx) (keyobj : Option ObjId) (salt : Bytes)
    (hashlen keylen mechtype keyType : Nat) : T (Except CkRv ObjectHandle × KdfCtx) :=
  let mechanism : HkdfMechanism := ⟨mechtype, extractParams c salt⟩
  match keyobj with
  | some key => innerDeriveKey c key mechanism keyType keylen
  | none => do
    match ← innerPkcs11Key c mechtype (List.replicate hashlen 0) none with
    | (ret, none, c) => return (.error ret, c)
    | (_, some zerokey, c) =>
      let (r, c) ← innerDeriveKey c zerokey mechanism keyType keylen
      ask (.objFree zerokey)
      return (r, c)

/-- `p11prov_tls13_derive_secret` -/
def tls13DeriveSecret (c : KdfCtx) (keyobj : Option ObjId) (keylen mechtype keyType : Nat)
    (info : LabelBuffer) : T (Except CkRv ObjectHandle × KdfCtx) :=
  match digestGetDigestSize c.hashMech with
  | .error ret => return (.error ret, c)
  | .ok hashlen => do
    let (ret, salt, c) ← tls13Salt c hashlen info
    if ret ≠ Ckr.ok then
      return (.error ret, c)
    tls13DeriveFrom c keyobj salt hashlen keylen mechtype keyType

/-- The derivation of `p11prov_tls13_kdf_derive` by its mode. -/
def tls13DeriveBy (c : KdfCtx) (keylen : Nat) (info : LabelBuffer) :
    T (Except CkRv ObjectHandle × KdfCtx) :=
  if c.mode = modeExpandOnly then
    match c.key with
    | none => return (.error Ckr.keyHandleInvalid, c)
    | some key =>
      tls13ExpandLabel c key c.data keylen Ckm.hkdfData ckUnavailableInformation info
  else if c.mode = modeExtractOnly then
    -- the key can be missing here
    tls13DeriveSecret c c.key keylen Ckm.hkdfData ckUnavailableInformation info
  else return (.error Ckr.argumentsBad, c)

/-- `p11prov_tls13_kdf_derive` after its parameters: the code, and what is in the buffer. -/
def tls13KdfDeriveOn (c : KdfCtx) (hasBuffer : Bool) (keylen : Nat) (info : LabelBuffer) :
    T (Nat × Bytes × KdfCtx) := do
  if !hasBuffer ∨ keylen = 0 then
    return (retOsslErr, [], c)
  match ← tls13DeriveBy c keylen info with
  | (.error _, c) => return (retOsslErr, [], c)
  | (.ok dkey, c) =>
    let (ret, key) ← innerExtractKeyValue c dkey keylen
    return (if ret = Ckr.ok then retOsslOk else retOsslErr, key, c)

/-! ## Parameters -/

/-- The parameters `OSSL_KDF_PARAM_INFO`, which are concatenated. -/
def infosAccepted (params : List OsslParam) : T Bool :=
  match (params.filter (·.key = ascii "info")).map (·.data) with
  | [] => pure true
  | p :: infos => do
    if !p.hasData then
      return false
    let ok ← infos.foldlM (fun ok p => if ok && p.hasData then ask .alloc else pure false)
      (← ask .alloc)
    return ok

/-- The parameters of `p11prov_hkdf_set_ctx_params` after the key and the salt. -/
def setRest (c : KdfCtx) (params : List OsslParam) : T (Nat × KdfCtx) := do
  if c.isTls13Kdf then
    if c.mode = modeExtractAndExpand then
      return (retOsslErr, c)
    return setAll params [prefixSetter, labelSetter, dataSetter] c
  return (if ← infosAccepted params then retOsslOk else retOsslErr, c)

/-- Frees a key, if there is one. -/
def objFree? : Option ObjId → T Unit
  | none => pure ()
  | some o => ask (.objFree o)

/-- `OSSL_KDF_PARAM_KEY` -/
def setKey (c : KdfCtx) (params : List OsslParam) : T (Nat × KdfCtx) :=
  match locate params (ascii "key") with
  | none => return (retOsslOk, c)
  | some p =>
    match p.getOctetString with
    | none => return (retOsslErr, c)
    | some secret => do
      objFree? c.key
      let (ret, key, c) ← innerPkcs11Key c Ckm.hkdfDerive secret c.key
      return (if ret = Ckr.ok then retOsslOk else retOsslErr, { c with key })

/-- `p11prov_hkdf_set_ctx_params` -/
def hkdfSetCtxParams (c : KdfCtx) : Option (List OsslParam) → T (Nat × KdfCtx)
  | none => return (retOsslOk, c)
  | some params => do
    let (ret, c) := setAll params [hashSetter, modeSetter] c
    if ret ≠ retOsslOk then
      return (ret, c)
    let (ret, c) ← setKey c params
    if ret ≠ retOsslOk then
      return (ret, c)
    let (ret, c) := saltSetter.run params c
    if ret ≠ retOsslOk then
      return (ret, c)
    setRest c params

/-- `p11prov_tls13_kdf_derive`: the code, what is in the buffer, if there is one, and the
    context. -/
def tls13KdfDerive (c : KdfCtx) (hasBuffer : Bool) (keylen : Nat)
    (params : Option (List OsslParam)) (info : LabelBuffer) : T (Nat × Bytes × KdfCtx) := do
  let (ret, c) ← hkdfSetCtxParams c params
  if ret ≠ retOsslOk then
    return (retOsslErr, [], c)
  tls13KdfDeriveOn c hasBuffer keylen info

end P11Prov.KeySchedule
