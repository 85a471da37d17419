import P11Prov.Signature.Digest

/-!
# Parameters of a signature context

The `set_ctx_params` functions and the initialisation functions of the
signature algorithms. A `set_ctx_params` function looks for its parameters in a
fixed order, and ends at the first one that it refuses. What it assigned before
that stays.

A parameter may be checked against the key of the context. The key is read once
at the start here, as nothing in between changes it.
-/

namespace P11Prov

open Interaction

/-! ## Parameters -/

/-- `OSSL_SIGNATURE_PARAM_DIGEST` -/
def digestSetter : Setter SigCtx where
  key := ascii "digest"
  set c p :=
    match p.getUtf8StringPtr with
    | none => (retOsslErr, c)
    | some name =>
      match digestGetByName name with
      | .error _ => (retOsslErr, c)
      | .ok digest => (retOsslOk, { c with digest })

/-- `OSSL_SIGNATURE_PARAM_SIGNATURE` -/
def signatureSetter : Setter SigCtx where
  key := ascii "signature"
  set c p :=
    match p.getOctetString with
    | none => (retOsslErr, { c with signature := none })
    | some sig => (retOsslOk, { c with signature := some sig })

/-! ## RSA -/

/-- `padding_map` -/
def paddingMap : List Padding := [
  ⟨Ckm.rsaX509, 3, ascii "none"⟩,
  ⟨Ckm.rsaPkcs, 1, ascii "pkcs1"⟩,
  ⟨Ckm.rsaX9_31, 5, ascii "x931"⟩,
  ⟨Ckm.rsaPkcsPss, 6, ascii "pss"⟩]

/-- The mechanism of a padding mode, given by its number or its name. -/
def paddingType : OsslData → Option Nat
  | .integer v => (OsslData.integer v).getInt.bind fun mode =>
    (paddingMap.find? (·.osslId = mode)).map (·.type)
  | .utf8String s => s.bind fun mode => (paddingMap.find? (·.string = mode)).map (·.type)
  | _ => none

/-- The slot of a key, and the default slot for one that is not on a token. -/
def keySlot (ctx : Ctx) (key : Option Obj) : SlotId :=
  let slotid := key.elim ckUnavailableInformation (·.slotid)
  if slotid = ckUnavailableInformation then ctx.defaultSlot else slotid

/-- `OSSL_SIGNATURE_PARAM_PAD_MODE` -/
def padModeSetter (ctx : Ctx) (key : Option Obj) : Setter SigCtx where
  key := ascii "pad-mode"
  set c p :=
    match paddingType p with
    | none => (retOsslErr, c)
    | some mechtype =>
      -- some modules do not support PSS
      if mechtype = Ckm.rsaPkcsPss ∧
          ctx.checkMechanism (keySlot ctx key) Ckm.rsaPkcsPss ≠ Ckr.ok then
        (retOsslErr, c)
      else (retOsslOk, { c with mechtype })

/-- The difference of two `CK_ULONG`s. -/
def ulongSub (a b : Nat) : Nat := (a + (0x10000000000000000 - b)) % 0x10000000000000000

/-- Assigns the salt length. -/
def SigCtx.setSaltlen (c : SigCtx) (sLen : Nat) : SigCtx :=
  { c with pssParams := { c.pssParams with sLen } }

/-- `p11prov_rsasig_set_pss_saltlen_from_digest` -/
def setPssSaltlenFromDigest (c : SigCtx) : Nat × SigCtx :=
  if c.digest = 0 then (retOsslErr, c)
  else match digestGetDigestSize c.digest with
    | .error _ => (retOsslErr, c)
    | .ok digestSize => (retOsslOk, c.setSaltlen digestSize)

/-- The longest salt for a key. -/
def maxSaltlen (keySize keyBitSize digestSize : Nat) : Nat :=
  let sLen := ulongSub (ulongSub keySize digestSize) 2
  if keyBitSize % 8 = 1 then ulongSub sLen 1 else sLen

/-- `p11prov_rsasig_set_pss_saltlen_max` -/
def setPssSaltlenMax (key : Option Obj) (c : SigCtx) (maxToDigest : Bool) : Nat × SigCtx :=
  if c.digest = 0 then (retOsslErr, c)
  else match digestGetDigestSize c.digest with
    | .error _ => (retOsslErr, c)
    | .ok digestSize =>
      let keySize := keyMember key (·.size)
      let keyBitSize := keyMember key (·.bitSize)
      if keySize = ckUnavailableInformation ∨ keyBitSize = ckUnavailableInformation then
        (retOsslErr, c)
      else
        let sLen := maxSaltlen keySize keyBitSize digestSize
        (retOsslOk, c.setSaltlen (if maxToDigest ∧ digestSize < sLen then digestSize else sLen))

/-- `rsasig_set_saltlen` -/
def rsasigSetSaltlen (key : Option Obj) (c : SigCtx) (saltlen : Int) : Nat × SigCtx :=
  if 0 ≤ saltlen then (retOsslOk, c.setSaltlen saltlen.toNat)
  else if saltlen = -1 then setPssSaltlenFromDigest c
  else if saltlen = -2 ∨ saltlen = -3 then setPssSaltlenMax key c false
  else if saltlen = -4 then setPssSaltlenMax key c true
  else (retOsslErr, c)

/-- The salt length that a parameter gives, by its number or its name. -/
def saltlenValue : OsslData → Option Int
  | .integer v => (OsslData.integer v).getInt
  | .utf8String s => s.map fun s =>
    if s = ascii "digest" then -1
    else if s = ascii "max" then -3
    else if s = ascii "auto" then -2
    else if s = ascii "auto-digestmax" then -4
    else atoi s
  | _ => none

/-- `OSSL_SIGNATURE_PARAM_PSS_SALTLEN` -/
def saltlenSetter (key : Option Obj) : Setter SigCtx where
  key := ascii "saltlen"
  set c p :=
    if c.mechtype ≠ Ckm.rsaPkcsPss then (retOsslErr, c)
    else match saltlenValue p with
      | none => (retOsslErr, c)
      | some saltlen => rsasigSetSaltlen key c saltlen

/-- `OSSL_SIGNATURE_PARAM_MGF1_DIGEST`: a name that is not one of a digest is assigned too. -/
def mgf1DigestSetter : Setter SigCtx where
  key := ascii "mgf1-digest"
  set c p :=
    match p.getUtf8StringPtr with
    | none => (retOsslErr, c)
    | some name =>
      let mgf := sigMapMgf name
      let c := { c with pssParams := { c.pssParams with mgf } }
      (if mgf = ckUnavailableInformation then retOsslErr else retOsslOk, c)

/-- The parameters of `p11prov_rsasig_set_ctx_params`. -/
def rsasigSetters (ctx : Ctx) (key : Option Obj) : List (Setter SigCtx) :=
  [digestSetter, padModeSetter ctx key, saltlenSetter key, mgf1DigestSetter, signatureSetter]

/-- `p11prov_rsasig_set_ctx_params` -/
def rsasigSetCtxParams (ctx : Ctx) (key : Option Obj) (params : Option (List OsslParam))
    (c : SigCtx) : Nat × SigCtx :=
  match params with
  | none => (retOsslOk, c)
  | some params => setAll params (rsasigSetters ctx key) c

/-! ## ECDSA -/

/-- `p11prov_ecdsa_set_ctx_params` -/
def ecdsaSetCtxParams (params : Option (List OsslParam)) (c : SigCtx) : Nat × SigCtx :=
  match params with
  | none => (retOsslOk, c)
  | some params => setAll params [digestSetter, signatureSetter] c

/-! ## EdDSA -/

/-- The names of the instances. -/
def edInstances : List (Bytes × EdInstance) := [
  (ascii "Ed25519", .ed25519),
  (ascii "Ed25519ph", .ed25519ph),
  (ascii "Ed25519ctx", .ed25519ctx),
  (ascii "Ed448", .ed448),
  (ascii "Ed448ph", .ed448ph)]

/-- `OSSL_SIGNATURE_PARAM_INSTANCE` -/
def instanceSetter : Setter SigCtx where
  key := ascii "instance"
  set c p :=
    match p.getUtf8StringPtr with
    | none => (retOsslErr, c)
    | some name =>
      match edInstances.find? fun i => strcasecmpEq name i.1 with
      | none => (retOsslErr, c)
      | some i => (retOsslOk, { c with edInstance := i.2 })

/-- `OSSL_SIGNATURE_PARAM_CONTEXT_STRING` of EdDSA: the old one is gone in any case, but its
    length is not. -/
def edContextStringSetter : Setter SigCtx where
  key := ascii "context-string"
  set c p :=
    match p.getOctetString with
    | none => (retOsslErr, { c with eddsaParams := { c.eddsaParams with pContextData := none } })
    | some s => (retOsslOk, { c with eddsaParams :=
        { c.eddsaParams with pContextData := some s, ulContextDataLen := s.length } })

/-- `p11prov_eddsa_instance_to_params` -/
def eddsaInstanceToParams (c : SigCtx) : Nat × SigCtx :=
  match c.edInstance with
  | .ed25519 => (retOsslOk, { c with useEddsaParams := false })
  | .ed25519ph | .ed448ph => (retOsslOk,
      { c with useEddsaParams := true, eddsaParams := { c.eddsaParams with phFlag := true } })
  | .ed25519ctx | .ed448 => (retOsslOk,
      { c with useEddsaParams := true, eddsaParams := { c.eddsaParams with phFlag := false } })
  | .unset => (retOsslErr, c)

/-- `p11prov_eddsa_set_ctx_params` -/
def eddsaSetCtxParams (params : Option (List OsslParam)) (c : SigCtx) : Nat × SigCtx :=
  let r := setAll (params.getD []) [instanceSetter, edContextStringSetter] c
  if r.1 ≠ retOsslOk then r else eddsaInstanceToParams r.2

/-! ## ML-DSA -/

/-- `CKH_HEDGE_REQUIRED` and `CKH_DETERMINISTIC_REQUIRED` -/
abbrev ckhHedgeRequired : Nat := 1
abbrev ckhDeterministicRequired : Nat := 2

/-- `OSSL_SIGNATURE_PARAM_CONTEXT_STRING` of ML-DSA -/
def mlContextStringSetter : Setter SigCtx where
  key := ascii "context-string"
  set c p :=
    match p.getOctetString with
    | none => (retOsslErr, { c with mldsaParams := { c.mldsaParams with pContext := none } })
    | some s => (retOsslOk, { c with mldsaParams :=
        { c.mldsaParams with pContext := some s, ulContextLen := s.length } })

/-- `OSSL_SIGNATURE_PARAM_DETERMINISTIC` -/
def deterministicSetter : Setter SigCtx where
  key := ascii "deterministic"
  set c p :=
    match p.getInt with
    | none => (retOsslErr, c)
    | some v =>
      if v = 0 then
        (retOsslOk, { c with mldsaParams := { c.mldsaParams with hedgeVariant := ckhHedgeRequired } })
      else if v = 1 then
        (retOsslOk,
          { c with mldsaParams := { c.mldsaParams with hedgeVariant := ckhDeterministicRequired } })
      else (retOsslErr, c)

/-- A parameter that must have the one value that is supported. -/
def fixedSetter (key : Bytes) (v : Int) : Setter SigCtx where
  key
  set c p := (if p.getInt = some v then retOsslOk else retOsslErr, c)

/-- The parameters of `p11prov_mldsa_set_ctx_params`. -/
def mldsaSetters : List (Setter SigCtx) :=
  [mlContextStringSetter, deterministicSetter, fixedSetter (ascii "message-encoding") 1,
    fixedSetter (ascii "mu") 0, signatureSetter]

/-- `p11prov_mldsa_set_ctx_params` -/
def mldsaSetCtxParams (params : Option (List OsslParam)) (c : SigCtx) : Nat × SigCtx :=
  match params with
  | none => (retOsslOk, c)
  | some params => setAll params mldsaSetters c

/-! ## Contexts and their initialisation -/

/-- The families of signature algorithms. -/
inductive SigAlg
  | rsasig
  | ecdsa
  | eddsa
  | mldsa
  deriving DecidableEq, Repr

/-- The `set_ctx_params` function of an algorithm, with the key of the context. -/
def SigAlg.setCtxParams (ctx : Ctx) (key : Option Obj) (params : Option (List OsslParam)) :
    SigAlg → SigCtx → Nat × SigCtx
  | rsasig => rsasigSetCtxParams ctx key params
  | ecdsa => ecdsaSetCtxParams params
  | eddsa => eddsaSetCtxParams params
  | mldsa => mldsaSetCtxParams params

/-- The key of a context. -/
def sigKey (c : SigCtx) : P (Option Obj) :=
  match c.key with
  | none => pure none
  | some key => do return some (← mem (.loadObj key))

/-- A call of the `set_ctx_params` function of an algorithm. -/
def sigSetCtxParams (alg : SigAlg) (ctx : Ctx) (c : SigCtx) (params : Option (List OsslParam)) :
    P (Nat × SigCtx) := do
  let key ← sigKey c
  return alg.setCtxParams ctx key params c

/-- The body of the `sign_init` and `verify_init` functions. -/
def sigInit (alg : SigAlg) (operation : Flags) (ctx : Ctx) (c : SigCtx) (key : ObjId)
    (params : Option (List OsslParam)) : P (Nat × SigCtx) := do
  let (ret, c) ← sigOpInit ctx c key operation none
  if ret ≠ Ckr.ok then
    return (retOsslErr, c)
  sigSetCtxParams alg ctx c params

/-- The body of the `digest_sign_init` and `digest_verify_init` functions, with the digest to
    use if none is given. -/
def sigDigestInit (alg : SigAlg) (default : Option Bytes) (operation : Flags) (ctx : Ctx)
    (c : SigCtx) (digest : Option Bytes) (key : ObjId) (params : Option (List OsslParam)) :
    P (Nat × SigCtx) := do
  let (ret, c) ← sigOpInit ctx c key operation (digest.or default)
  if ret ≠ Ckr.ok then
    return (retOsslErr, c)
  sigSetCtxParams alg ctx { c with digestOp := true } params

/-- `p11prov_rsasig_newctx`, with PKCS#1 until the padding is set. -/
def rsasigNewctx : P (Option SigCtx) := do
  return (← sigNewctx Ckm.rsaPkcs).map fun c => { c with fallbackOperate := some .rsasig }

/-- `p11prov_rsasig_sign_init` -/
def rsasigSignInit := sigInit .rsasig Ckf.sign
/-- `p11prov_rsasig_verify_init` -/
def rsasigVerifyInit := sigInit .rsasig Ckf.verify
/-- `p11prov_rsasig_digest_sign_init` -/
def rsasigDigestSignInit := sigDigestInit .rsasig (some (ascii "sha256")) Ckf.sign
/-- `p11prov_rsasig_digest_verify_init` -/
def rsasigDigestVerifyInit := sigDigestInit .rsasig (some (ascii "sha256")) Ckf.verify

/-- `p11prov_ecdsa_newctx` -/
def ecdsaNewctx : P (Option SigCtx) := do
  return (← sigNewctx Ckm.ecdsa).map fun c => { c with fallbackOperate := some .ecdsa }

/-- `p11prov_ecdsa_sign_init` -/
def ecdsaSignInit := sigInit .ecdsa Ckf.sign
/-- `p11prov_ecdsa_verify_init` -/
def ecdsaVerifyInit := sigInit .ecdsa Ckf.verify
/-- `p11prov_ecdsa_digest_sign_init` -/
def ecdsaDigestSignInit := sigDigestInit .ecdsa (some (ascii "sha256")) Ckf.sign
/-- `p11prov_ecdsa_digest_verify_init` -/
def ecdsaDigestVerifyInit := sigDigestInit .ecdsa (some (ascii "sha256")) Ckf.verify

/-- `p11prov_mldsa_newctx` -/
def mldsaNewctx (paramset : Nat) : P (Option SigCtx) := do
  return (← sigNewctx Ckm.mlDsa).map fun c =>
    { c with mldsaParamset := paramset, fallbackOperate := some .mldsa }

/-- `p11prov_mldsa_sign_init` -/
def mldsaSignInit := sigInit .mldsa Ckf.sign
/-- `p11prov_mldsa_verify_init` -/
def mldsaVerifyInit := sigInit .mldsa Ckf.verify
/-- `p11prov_mldsa_digest_sign_init`, which has no digest to use if none is given. -/
def mldsaDigestSignInit := sigDigestInit .mldsa none Ckf.sign
/-- `p11prov_mldsa_digest_verify_init` -/
def mldsaDigestVerifyInit := sigDigestInit .mldsa none Ckf.verify

/-- `p11prov_eddsa_newctx` -/
def eddsaNewctx : P (Option SigCtx) := sigNewctx Ckm.eddsa

/-- `p11prov_eddsa_init_instance` -/
def eddsaInitInstance (c : SigCtx) : P (CkRv × SigCtx) := do
  if c.edInstance ≠ .unset then
    return (Ckr.ok, c)
  let key ← sigKey c
  let size := keyMember key (·.bitSize)
  if size = 256 then
    return (Ckr.ok, { c with edInstance := .ed25519 })
  else if size = 456 then
    return (Ckr.ok, { c with edInstance := .ed448 })
  else
    return (Ckr.keyTypeInconsistent, c)

/-- The body of `p11prov_eddsa_digest_sign_init` and `p11prov_eddsa_digest_verify_init`. -/
def eddsaDigestInit (operation : Flags) (ctx : Ctx) (c : SigCtx) (digest : Option Bytes)
    (key : ObjId) (params : Option (List OsslParam)) : P (Nat × SigCtx) := do
  if digest.any (· ≠ []) then
    return (retOsslErr, c)
  let (ret, c) ← sigOpInit ctx c key operation digest
  if ret ≠ Ckr.ok then
    return (retOsslErr, c)
  let (ret, c) ← eddsaInitInstance c
  if ret ≠ Ckr.ok then
    return (retOsslErr, c)
  sigSetCtxParams .eddsa ctx c params

/-- `p11prov_eddsa_digest_sign_init` -/
def eddsaDigestSignInit := eddsaDigestInit Ckf.sign
/-- `p11prov_eddsa_digest_verify_init` -/
def eddsaDigestVerifyInit := eddsaDigestInit Ckf.verify

/-- `p11prov_ed25519_digest_sign_init` and the other initialisation functions of the dispatch
    tables, which set the instance first. The message functions have no digest. -/
def edInstanceInit (inst : EdInstance) (operation : Flags) (ctx : Ctx) (c : SigCtx)
    (digest : Option Bytes) (key : ObjId) (params : Option (List OsslParam)) :
    P (Nat × SigCtx) :=
  eddsaDigestInit operation ctx { c with edInstance := inst } digest key params

end P11Prov
