import P11Prov.Signature.Algorithms

/-!
# Signatures of data that is digested

Data can be given to a context piece by piece. The token digests and signs it
with one mechanism, if it has that mechanism. If not, the context falls back to
a digest of OpenSSL, and signs that digest with the raw mechanism through a
second context (`mechFallbackFinal`). The functions are those of `signature.c`
that the update and final functions of the algorithms call.
-/

namespace P11Prov

open Interaction

/-- `fallback_operate` -/
def FallbackOperate.operate : FallbackOperate → Ctx → SigCtx → Option Bytes → Nat → Bytes →
    P (CkRv × SigCtx × Bytes)
  | rsasig => rsasigOperate
  | ecdsa => ecdsaOperate
  | mldsa => mldsaOperate

/-- The signature or verification of a digest by `mech_fallback_final`. -/
def fallbackOperateOn (ctx : Ctx) (f : Option FallbackOperate) (c : SigCtx) (sig : Option Bytes)
    (sigsize : Nat) (digest : Bytes) : P (CkRv × SigCtx × Bytes) :=
  match f with
  | some f => f.operate ctx c sig sigsize digest
  | none => sigOperate ctx c sig sigsize digest

/-- The part of `mech_fallback_final` that has a second context, to be freed at the end. -/
def fallbackSubctx (ctx : Ctx) (c : SigCtx) (key : ObjId) (sig : Option Bytes) (sigsize : Nat)
    (digest : Bytes) (subctx : SigCtx) : P (CkRv × SigCtx × Bytes) := do
  match digestGetName c.digest with
  | .error ret => return (ret, subctx, [])
  | .ok name =>
    let (ret, subctx) ← sigOpInit ctx subctx key c.operation (some name)
    if ret ≠ Ckr.ok then
      return (ret, subctx, [])
    fallbackOperateOn ctx c.fallbackOperate subctx sig sigsize digest

/-- `EVP_DigestFinal_ex` on the context of the fallback. -/
def fallbackDigestFinal (c : SigCtx) : P (Option Bytes) :=
  match c.fallbackDigest with
  | some (.running digest data) => call (.evpFinal digest data)
  | _ => pure none

/-- `mech_fallback_final` -/
def mechFallbackFinal (ctx : Ctx) (c : SigCtx) (sig : Option Bytes) (sigsize mdsize : Nat) :
    P (CkRv × Bytes) := do
  match ← fallbackDigestFinal c with
  | none => return (Ckr.generalError, [])
  | some digest =>
    if digest.length ≠ mdsize then
      return (Ckr.generalError, [])
    match c.key with
    | none => return (Ckr.keyHandleInvalid, [])
    | some key =>
      let handle ← objGetHandle ctx key
      if handle = ckInvalidHandle then
        return (Ckr.keyHandleInvalid, [])
      match ← sigNewctx c.mechtype with
      | none => return (Ckr.hostMemory, [])
      | some subctx =>
        let (ret, subctx, out) ← fallbackSubctx ctx c key sig sigsize digest subctx
        sigFreectx ctx subctx
        return (ret, out)

/-- The session or the fallback that `p11prov_sig_digest_update` needs. -/
def digestStart (ctx : Ctx) (c : SigCtx) : P (CkRv × SigCtx) := do
  if c.fallbackDigest = none ∧ c.session = none then
    let (ret, c, session) ← sigOperateInit ctx c true
    return (ret, if ret = Ckr.ok then { c with session } else c)
  return (Ckr.ok, c)

/-- `EVP_DigestUpdate` on the context of the fallback. -/
def fallbackDigestUpdate (c : SigCtx) (md : EvpMdCtx) (data : Bytes) : P (Nat × SigCtx) := do
  match md with
  | .running digest acc =>
    if ← call (.evpUpdate digest data) then
      return (retOsslOk, { c with fallbackDigest := some (.running digest (acc ++ data)) })
    return (retOsslErr, c)
  | _ => return (retOsslErr, c)

/-- `C_SignUpdate` or `C_VerifyUpdate` on the session of the context. A session that fails is
    given back. -/
def sessionDigestUpdate (ctx : Ctx) (c : SigCtx) (s : SessId) (data : Bytes) :
    P (Nat × SigCtx) := do
  let h ← sessionHandle s
  let (ret, _) ← call (.crypto h (.update c.fn data))
  if ret ≠ Ckr.ok then
    returnSession ctx s
    return (retOsslErr, { c with session := none })
  return (retOsslOk, c)

/-- The data goes to the fallback, or to the session. -/
def digestUpdateOn (ctx : Ctx) (c : SigCtx) (data : Bytes) : P (Nat × SigCtx) :=
  match c.fallbackDigest, c.session with
  | some md, _ => fallbackDigestUpdate c md data
  | none, none => return (retOsslErr, c)
  | none, some s => sessionDigestUpdate ctx c s data

/-- `p11prov_sig_digest_update` -/
def sigDigestUpdate (ctx : Ctx) (c : SigCtx) (data : Bytes) : P (Nat × SigCtx) := do
  let (ret, c) ← digestStart ctx c
  if ret ≠ Ckr.ok then
    return (retOsslErr, c)
  digestUpdateOn ctx c data

/-- `C_SignFinal` or `C_VerifyFinal`: the code and the signature. -/
def signOrVerifyFinal (c : SigCtx) (h : Handle) (sig : Bytes) (sigsize : Nat) : P (CkRv × Bytes) := do
  if c.operation = Ckf.sign then
    call (.crypto h (.signFinal sigsize))
  else
    let (ret, _) ← call (.crypto h (.verifyFinal sig))
    return (ret, [])

/-- The part of `p11prov_sig_digest_final` that has a signature. -/
def digestFinalOn (ctx : Ctx) (c : SigCtx) (sig : Bytes) (sigsize : Nat) :
    P (Nat × SigCtx × Bytes) := do
  match c.fallbackDigest, c.session with
  | some _, _ =>
    match digestGetDigestSize c.digest with
    | .error _ => return (retOsslErr, c, [])
    | .ok mdsize =>
      let (ret, out) ← mechFallbackFinal ctx c (some sig) sigsize mdsize
      let c := { c with fallbackDigest := some .finished }
      return if ret = Ckr.ok then (retOsslOk, c, out) else (retOsslErr, c, [])
  | none, none => return (retOsslErr, c, [])
  | none, some s =>
    let h ← sessionHandle s
    let (ret, out) ← signOrVerifyFinal c h sig sigsize
    let c := { c with sessionState := .finalized }
    return if ret = Ckr.ok then (retOsslOk, c, out) else (retOsslErr, c, [])

/-- The result of `p11prov_sig_digest_final`, before the session is given back. -/
def digestFinalResult (ctx : Ctx) (c : SigCtx) (sig : Option Bytes) (sigsize : Nat) :
    P (Nat × SigCtx × Bytes) :=
  match sig with
  | none => pure (retOsslErr, c, [])
  | some sig =>
    if c.operation = Ckf.verify ∧ sigsize = 0 then pure (retOsslErr, c, [])
    else digestFinalOn ctx c sig sigsize

/-- `p11prov_sig_digest_final`: the result, the context and the signature. -/
def sigDigestFinal (ctx : Ctx) (c : SigCtx) (sig : Option Bytes) (sigsize : Nat) :
    P (Nat × SigCtx × Bytes) := do
  let (result, c, out) ← digestFinalResult ctx c sig sigsize
  returnSession? ctx c.session
  return (result, { c with session := none }, out)

/-- The body of the update functions of the algorithms: the mechanism is set once. -/
def digestUpdateWith (setMechanism : SigCtx → P (CkRv × SigCtx)) (ctx : Ctx) (c : SigCtx)
    (data : Bytes) : P (Nat × SigCtx) := do
  if c.mechanism = ckUnavailableInformation then
    let (ret, c) ← setMechanism c
    if ret ≠ Ckr.ok then
      return (retOsslErr, c)
    sigDigestUpdate ctx c data
  else
    sigDigestUpdate ctx c data

/-- `p11prov_rsasig_digest_sign_update` and `p11prov_rsasig_digest_verify_update` -/
def rsasigDigestUpdate := digestUpdateWith rsasigSetMechanism

/-- `p11prov_ecdsa_digest_sign_update` and `p11prov_ecdsa_digest_verify_update` -/
def ecdsaDigestUpdate := digestUpdateWith fun c => pure (ecdsaSetMechanism c)

/-- `p11prov_mldsa_digest_sign_update` and `p11prov_mldsa_digest_verify_update` -/
def mldsaDigestUpdate := digestUpdateWith fun c => pure (mldsaSetMechanism c)

end P11Prov
