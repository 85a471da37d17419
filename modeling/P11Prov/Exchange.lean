import P11Prov.Derive

/-!
# Key exchange

The contexts of ECDH, those of `exchange.c`. A context keeps the session of its
first derivation, whatever key it is given later.

Of the mechanism of a derivation the calls carry the type, and of the template
nothing. The decoder of ASN.1 octet strings, `d2i_ASN1_OCTET_STRING`, is a
parameter.
-/

namespace P11Prov

open Interaction

/-! ## The public point of the peer -/

/-- `prep_get_pub_key`: the object that has the public part of a key. -/
def prepGetPubKey (o : ObjId) (type : Nat) : P (Option ObjId) := do
  let key ← mem (.loadObj o)
  if key.cls ≠ Cko.privateKey ∧ key.cls ≠ Cko.publicKey then
    return none
  if key.key.type ≠ type then
    return none
  match key.assocObj with
  | none => return some o
  | some a =>
    let assoc ← mem (.loadObj a)
    return some (if key.cls = Cko.privateKey ∧ assoc.cls = Cko.publicKey then a else o)

section

variable (d2iAsn1OctetString : Bytes → Option Bytes)

/-- `decode_ec_point`. The points of Edwards and Montgomery curves may come undecoded. -/
def decodeEcPoint (keyType : Nat) (value : Bytes) : P (Option Bytes) := do
  match d2iAsn1OctetString value with
  | some octet => return some octet
  | none =>
    if keyType = ckkEc then
      return none
    return if ← mem .alloc then some value else none

/-- `p11prov_obj_get_ec_public_raw` -/
def objGetEcPublicRaw (o : ObjId) : P (Option Bytes) := do
  match ← prepGetPubKey o ckkEc with
  | none => return none
  | some o =>
    let key ← mem (.loadObj o)
    match key.getAttr ckaP11provPubKey, key.getAttr ckaEcPoint with
    | some pubKey, _ => return some pubKey
    | none, none => return none
    | none, some ecPoint =>
      match ← decodeEcPoint d2iAsn1OctetString key.key.type ecPoint with
      | none => return none
      | some pubKey =>
        if !(← mem .alloc) then
          return none
        mem (.storeObj o fun obj => { obj with attrs := obj.attrs ++ [(ckaP11provPubKey, pubKey)] })
        return some pubKey

end

/-! ## Contexts -/

/-- `CKD_NULL` -/
abbrev ckdNull : Nat := 0x1
/-- `CKF_DIGEST`, which stands for a KDF whose digest is not known yet. -/
abbrev ckfDigest : Nat := 0x400

/-- `struct p11prov_exch_ctx` of ECDH, with the uses of handles so far. -/
structure ExchCtx where
  key : Option ObjId := none
  peerKey : Option ObjId := none
  mechtype : Nat := Ckm.ecdh1Derive
  digest : Nat := 0
  kdf : Nat := ckdNull
  sharedData : Bytes := []
  publicData : Bytes := []
  kdfOutlen : Nat := 0
  session : Option SessId := none
  uses : List Use := []
  deriving DecidableEq

/-- Notes uses. -/
def ExchCtx.note (c : ExchCtx) (uses : List Use) : ExchCtx := { c with uses := c.uses ++ uses }

/-- `kdf_map` -/
def kdfMap : List (Nat × Nat) := [
  (Ckm.sha3_256, 0xB), (Ckm.sha3_512, 0xD), (Ckm.sha3_384, 0xC), (Ckm.sha3_224, 0xA),
  (Ckm.sha256, 0x6), (Ckm.sha512, 0x8), (Ckm.sha384, 0x7), (Ckm.sha224, 0x5), (Ckm.sha1, 0x2)]

/-- `p11prov_ecdh_digest_to_kdf` -/
def ecdhDigestToKdf (digest : Nat) : Nat :=
  ((kdfMap.find? (·.1 = digest)).map (·.2)).getD ckUnavailableInformation

/-- `p11prov_ecdh_newctx` -/
def ecdhNewctx : P (Option ExchCtx) := do
  return if ← mem .alloc then some {} else none

/-- `p11prov_ecdh_freectx` -/
def ecdhFreectx (ctx : Ctx) (c : ExchCtx) : P Unit := do
  returnSession? ctx c.session
  objFree? ctx c.key
  objFree? ctx c.peerKey

/-- `OPENSSL_memdup`, where there is something to copy. -/
def memdup (data : Bytes) : P Bool :=
  if data = [] then pure true else mem .alloc

/-- The fields that `p11prov_ecdh_dupctx` copies besides the keys. -/
def ExchCtx.copyTo (c new : ExchCtx) : ExchCtx :=
  { new with
    mechtype := c.mechtype, kdf := c.kdf, sharedData := c.sharedData, publicData := c.publicData
    session := c.session }

/-- `p11prov_ecdh_dupctx` -/
def ecdhDupctx (ctx : Ctx) (c : ExchCtx) : P (Option ExchCtx) := do
  match ← ecdhNewctx with
  | none => return none
  | some new =>
    let key ← objRef? ctx c.key
    let peerKey ← objRef? ctx c.peerKey
    let new := { new with key, peerKey }
    if !(← memdup c.sharedData) then
      ecdhFreectx ctx new
      return none
    if !(← memdup c.publicData) then
      ecdhFreectx ctx new
      return none
    return some (c.copyTo new)

/-! ## Parameters -/

/-- `OSSL_EXCHANGE_PARAM_EC_ECDH_COFACTOR_MODE` -/
def cofactorModeSetter : Setter ExchCtx where
  key := ascii "ecdh-cofactor-mode"
  set c p :=
    match p.getInt with
    | none => (retOsslErr, c)
    | some mode =>
      if mode < -1 ∨ 1 < mode then (retOsslErr, c)
      else
        let mechtype := if mode = 0 then Ckm.ecdh1Derive else Ckm.ecdh1CofactorDerive
        (retOsslOk, { c with mechtype })

/-- `OSSL_EXCHANGE_PARAM_KDF_TYPE` -/
def kdfTypeSetter : Setter ExchCtx where
  key := ascii "kdf-type"
  set c p :=
    match p.getUtf8StringPtr with
    | none => (retOsslErr, c)
    | some name =>
      if name = [] then (retOsslOk, { c with kdf := ckdNull })
      else if name = ascii "X963KDF" then (retOsslOk, { c with kdf := ckfDigest })
      else (retOsslErr, c)

/-- `OSSL_EXCHANGE_PARAM_KDF_DIGEST` -/
def kdfDigestSetter : Setter ExchCtx where
  key := ascii "kdf-digest"
  set c p :=
    match p.getUtf8StringPtr with
    | none => (retOsslErr, c)
    | some name =>
      match digestGetByName name with
      | .error _ => (retOsslErr, c)
      | .ok digest => (retOsslOk, { c with digest })

/-- `OSSL_EXCHANGE_PARAM_KDF_OUTLEN` -/
def kdfOutlenSetter : Setter ExchCtx where
  key := ascii "kdf-outlen"
  set c p :=
    match p.getSizeT with
    | none => (retOsslErr, c)
    | some kdfOutlen => (retOsslOk, { c with kdfOutlen })

/-- `OSSL_EXCHANGE_PARAM_KDF_UKM` -/
def kdfUkmSetter : Setter ExchCtx where
  key := ascii "kdf-ukm"
  set c p :=
    match p.getOctetString with
    | none => (retOsslErr, c)
    | some sharedData => (retOsslOk, { c with sharedData })

/-- The parameters of a context, in their order. -/
def ecdhSetters : List (Setter ExchCtx) :=
  [cofactorModeSetter, kdfTypeSetter, kdfDigestSetter, kdfOutlenSetter, kdfUkmSetter]

/-- `p11prov_ecdh_set_ctx_params` -/
def ecdhSetCtxParams (c : ExchCtx) (params : List OsslParam) : Nat × ExchCtx :=
  setAll params ecdhSetters c

/-! ## Keys -/

/-- The class of the key behind a pointer is `cls`; the part of the functions that take a key
    after they replaced the one before. -/
def checkClass (key : Option ObjId) (cls : Nat) : P Bool :=
  match key with
  | none => pure false
  | some o => do
    let obj ← mem (.loadObj o)
    return obj.cls = cls

/-- `p11prov_ecdh_init` -/
def ecdhInit (ctx : Ctx) (c : ExchCtx) (key : ObjId) (params : List OsslParam) :
    P (Nat × ExchCtx) := do
  let ret ← call .ctxStatus
  if ret ≠ Ckr.ok then
    return (retOsslErr, c)
  objFree? ctx c.key
  let key ← objRef ctx key
  let c := { c with key }
  if !(← checkClass key Cko.privateKey) then
    return (retOsslErr, c)
  return ecdhSetCtxParams c params

/-- `p11prov_ecdh_set_peer` -/
def ecdhSetPeer (ctx : Ctx) (c : ExchCtx) (key : ObjId) : P (Nat × ExchCtx) := do
  objFree? ctx c.peerKey
  let peerKey ← objRef ctx key
  let c := { c with peerKey }
  if !(← checkClass peerKey Cko.publicKey) then
    return (retOsslErr, c)
  return (retOsslOk, c)

/-! ## Derivation -/

/-- Settles the KDF of the digest, if one is wanted. -/
def ExchCtx.setKdf (c : ExchCtx) : Bool × ExchCtx :=
  if c.kdf = ckfDigest then
    let kdf := ecdhDigestToKdf c.digest
    (kdf != ckUnavailableInformation, { c with kdf })
  else (true, c)

/-- The part of `p11prov_ecdh_derive_skey` from `p11prov_derive_key` on. -/
def ecdhDeriveOn (ctx : Ctx) (c : ExchCtx) (key : ObjId) : P (Option ObjId × ExchCtx) := do
  let (r, uses) ← deriveKeyNoted ctx key c.mechtype c.session
  let c := c.note uses
  match r with
  | .error _ => return (none, c)
  | .ok (dkey, s) =>
    let c := { c with session := some s }
    let (r, uses) ← objFromDerived ctx ⟨dkey, s.slot⟩ c.session
    return (r.toOption, c.note uses)

section

variable (d2iAsn1OctetString : Bytes → Option Bytes)

/-- `p11prov_ecdh_derive_skey` -/
def ecdhDeriveSkey (ctx : Ctx) (c : ExchCtx) (keyType : Option Bytes) :
    P (Option ObjId × ExchCtx) := do
  match c.key, c.peerKey with
  | some key, some peer =>
    if getKeyTypeFromString keyType = ckUnavailableInformation then
      return (none, c)
    let (ok, c) := c.setKdf
    if !ok then
      return (none, c)
    match ← objGetEcPublicRaw d2iAsn1OctetString peer with
    | none => return (none, c)
    | some publicData => ecdhDeriveOn ctx { c with publicData } key
  | _, _ => return (none, c)

/-- `p11prov_ecdh_derive`, into a buffer of the length if there is one: the result, the length
    of the secret, if it is set, and the context. -/
def ecdhDerive (ctx : Ctx) (c : ExchCtx) (outlen : Option Nat) :
    P (Nat × Option Nat × ExchCtx) := do
  match outlen with
  | none =>
    let key ← c.key.elim (pure none) fun o => some <$> mem (.loadObj o)
    return (retOsslOk, some (keyMember key (·.size)), c)
  | some _ =>
    match ← ecdhDeriveSkey d2iAsn1OctetString ctx c (some (ascii "GENERIC-SECRET")) with
    | (none, c) => return (retOsslErr, none, c)
    | (some skey, c) =>
      let handle ← objGetHandle ctx skey
      if handle = ckInvalidHandle then
        objFree ctx skey
        return (retOsslErr, none, c)
      let obj ← mem (.loadObj skey)
      let (ret, len, uses) ← fetchValue handle obj.slotid c.session
      objFree ctx skey
      let c := c.note uses
      if ret ≠ Ckr.ok then
        return (retOsslErr, none, c)
      return (retOsslOk, some len, c)

end

end P11Prov
