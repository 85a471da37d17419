import P11Prov.Interaction.Owners
import P11Prov.Object.Held
import P11Prov.Signature.Verify

/-!
# Signature contexts in use

The functions that end the signature of a message that was given in pieces, and
the one that duplicates a context on its way. A duplicate takes the session
with it, and the original is given another one, onto which the state of the
operation is restored if the token can save it. If not, the original is left
without a session, and its next update starts anew.

OpenSSL has any number of contexts at a time: `SigCall` are its calls on them,
by the name of the context. What a context took is kept beside it, with the
operation that its first update started (`TrackedSig`).
-/

namespace P11Prov

open Interaction

/-! ## The end of a message -/

/-- The body of the `digest_sign_final` functions: the result, the context, the signature and
    `*siglen`. Without a buffer of a size, only the length is asked for. -/
def digestSignFinalWith (size : SigCtx → Option Obj → Except CkRv Nat) (ctx : Ctx) (c : SigCtx)
    (sigsize : Option Nat) : P (Nat × SigCtx × Bytes × Nat) := do
  match sigsize with
  | none => return sigSizeQuery c (size c (← sigKey c))
  | some sigsize =>
    if sigsize = 0 then
      return (retOsslErr, c, [], 0)
    let (ret, c, sig) ← sigDigestFinal ctx c (some []) sigsize
    return (ret, c, sig, sig.length)

/-- `p11prov_rsasig_digest_sign_final` -/
def rsasigDigestSignFinal := digestSignFinalWith fun _ => rsaSigSize

/-- `p11prov_mldsa_digest_sign_final` -/
def mldsaDigestSignFinal := digestSignFinalWith fun c _ => mldsaSigSize c

/-- `p11prov_rsasig_digest_verify_final` and `p11prov_mldsa_digest_verify_final` -/
def rsasigDigestVerifyFinal (ctx : Ctx) (c : SigCtx) (sig : Bytes) : P (Nat × SigCtx) := do
  let (ret, c, _) ← sigDigestFinal ctx c (some sig) sig.length
  return (ret, c)

section Ecdsa

variable (X : EcdsaLib)

/-- `p11prov_ecdsa_digest_sign_final` -/
def ecdsaDigestSignFinal (ctx : Ctx) (c : SigCtx) (sigsize : Option Nat) :
    P (Nat × SigCtx × Bytes × Nat) := do
  match sigsize with
  | none => return sigSizeQuery c (ecdsaSigSize (← sigKey c))
  | some sigsize =>
    if sigsize = 0 then
      return (retOsslErr, c, [], 0)
    let (ret, c, raw) ← sigDigestFinal ctx c (some []) p11provMaxRawEccSigSize
    if ret ≠ retOsslOk then
      return (ret, c, [], 0)
    let (err, sig, siglen) := convertEcdsaRawToDer X raw sigsize
    return (err, c, sig, siglen)

/-- `p11prov_ecdsa_digest_verify_final`, with what is in its buffer before. -/
def ecdsaDigestVerifyFinal (stack : Bytes) (ctx : Ctx) (c : SigCtx) (sig : Bytes) :
    P (Nat × SigCtx) := do
  let key ← sigKey c
  let flen := keyMember key (·.size)
  let (err, raw) := convertEcdsaDerToRaw X sig stack flen
  if err ≠ retOsslOk then
    return (err, c)
  let (ret, c, _) ← sigDigestFinal ctx c (some (raw.take (2 * flen))) (2 * flen)
  return (ret, c)

end Ecdsa

/-- The body of the `verify_message_final` functions: the signature is the one that was set. -/
def verifyMessageFinalWith (final : Ctx → SigCtx → Bytes → P (Nat × SigCtx)) (ctx : Ctx)
    (c : SigCtx) : P (Nat × SigCtx) :=
  match c.signature with
  | none => pure (retOsslErr, c)
  | some sig => final ctx c sig

namespace SigAlg

variable (X : EcdsaLib)

/-- The `newctx` function of a family. -/
def newctx (paramset : Nat) : SigAlg → P (Option SigCtx)
  | rsasig => rsasigNewctx
  | ecdsa => ecdsaNewctx
  | eddsa => eddsaNewctx
  | mldsa => mldsaNewctx paramset

/-- The `digest_sign_init` and `digest_verify_init` functions of a family. -/
def digestInit (operation : Flags) : SigAlg → Ctx → SigCtx → Option Bytes → ObjId →
    Option (List OsslParam) → P (Nat × SigCtx)
  | rsasig => sigDigestInit .rsasig (some (ascii "sha256")) operation
  | ecdsa => sigDigestInit .ecdsa (some (ascii "sha256")) operation
  | eddsa => eddsaDigestInit operation
  | mldsa => sigDigestInit .mldsa none operation

/-- The `digest_sign_final` function of a family. There is none for EdDSA. -/
def digestSignFinal : SigAlg → Ctx → SigCtx → Option Nat → P (Nat × SigCtx × Bytes × Nat)
  | rsasig => rsasigDigestSignFinal
  | ecdsa => ecdsaDigestSignFinal X
  | eddsa => fun _ c _ => pure (retOsslErr, c, [], 0)
  | mldsa => mldsaDigestSignFinal

/-- The `digest_verify_final` function of a family. -/
def digestVerifyFinal (stack : Bytes) : SigAlg → Ctx → SigCtx → Bytes → P (Nat × SigCtx)
  | rsasig | mldsa => rsasigDigestVerifyFinal
  | ecdsa => ecdsaDigestVerifyFinal X stack
  | eddsa => fun _ c _ => pure (retOsslErr, c)

/-- The `verify_message_final` function of a family. -/
def verifyMessageFinal (stack : Bytes) (alg : SigAlg) : Ctx → SigCtx → P (Nat × SigCtx) :=
  verifyMessageFinalWith (alg.digestVerifyFinal X stack)

end SigAlg

/-! ## Duplicates -/

/-- `OPENSSL_memdup` of a buffer that may be `NULL`. There is no copy of nothing. -/
def bufDup (p : Option Bytes) (len : Nat) : P (Option Bytes) := do
  match p with
  | none => return none
  | some bs =>
    if len = 0 then
      return none
    if !(← mem .alloc) then
      return none
    return some (bs.take len)

/-- `EVP_MD_CTX_new` and `EVP_MD_CTX_copy_ex`, of a context that may be `NULL`. -/
def evpMdCtxDup (md : Option EvpMdCtx) : P (Option (Option EvpMdCtx)) := do
  match md with
  | none => return some none
  | some md =>
    if !(← mem .alloc) then
      return none
    if !(← mem .alloc) then
      return none
    return some (some md)

/-- The copy of the signature in `p11prov_sig_dupctx`. -/
def signatureDup (signature : Option Bytes) : P (Option (Option Bytes)) := do
  match signature with
  | none => return some none
  | some sig =>
    match ← bufDup (some sig) sig.length with
    | none => return none
    | some sig => return some (some sig)

/-- The part of `p11prov_sig_dupctx` that copies the fields to the new context. If it fails,
    the new context has been freed. -/
def sigCopy (ctx : Ctx) (c new : SigCtx) : P (Option SigCtx) := do
  let key ← objRef? ctx c.key
  let pContextData ← bufDup c.eddsaParams.pContextData c.eddsaParams.ulContextDataLen
  let pContext ← bufDup c.mldsaParams.pContext c.mldsaParams.ulContextLen
  let new := { new with
    key, digest := c.digest, pssParams := c.pssParams, operation := c.operation
    eddsaParams := { c.eddsaParams with pContextData }
    useEddsaParams := c.useEddsaParams
    mldsaParamset := c.mldsaParamset
    mldsaParams := { c.mldsaParams with pContext } }
  match ← signatureDup c.signature with
  | none =>
    sigFreectx ctx new
    return none
  | some signature =>
    let new := { new with signature, digestOp := c.digestOp }
    match ← evpMdCtxDup c.fallbackDigest with
    | none =>
      sigFreectx ctx new
      return none
    | some fallbackDigest =>
      return some { new with fallbackDigest, fallbackOperate := c.fallbackOperate }

/-- The part of `p11prov_sig_dupctx` that restores a saved state: the session the original
    context is left with. -/
def sigRestore (ctx : Ctx) (slotid : SlotId) (mechtype : Nat) (reqlogin : Bool)
    (handle : ObjectHandle) (state : Option TokenOp) : P (Option SessId) := do
  match ← getSession ctx slotid { mechtype, reqlogin } with
  | .error _ => return none
  | .ok s =>
    let h ← sessionHandle s
    let (ret, _) ← call (.crypto h (.setOperationState state handle))
    if ret ≠ Ckr.ok then
      returnSession ctx s
      return none
    return some s

/-- The part of `p11prov_sig_dupctx` that saves the state of the session that moved to the
    duplicate, and restores it. -/
def sigSplit (ctx : Ctx) (slotid : SlotId) (mechtype : Nat) (reqlogin : Bool)
    (handle : ObjectHandle) (s : SessId) : P (Option SessId) := do
  if slotid = ckUnavailableInformation ∨ handle = ckInvalidHandle then
    return none
  let h ← sessionHandle s
  let (ret, _) ← call (.crypto h .getOperationState)
  if ret ≠ Ckr.ok then
    return none
  if !(← mem .alloc) then
    return none
  let (ret, state) ← call (.crypto h .getOperationState)
  if ret ≠ Ckr.ok then
    return none
  sigRestore ctx slotid mechtype reqlogin handle state

/-- The slot of the key of a context, and the handle of the key. -/
def sigKeyHandle (ctx : Ctx) (c : SigCtx) : P (SlotId × ObjectHandle) := do
  match c.key with
  | none => return (ckUnavailableInformation, ckInvalidHandle)
  | some key =>
    let obj ← mem (.loadObj key)
    let handle ← objGetHandle ctx key
    return (obj.slotid, handle)

/-- `p11prov_sig_dupctx`: the duplicate, and what is left of the original. -/
def sigDupctx (ctx : Ctx) (c : SigCtx) : P (Option SigCtx × SigCtx) := do
  if c.operation ≠ Ckf.sign ∧ c.operation ≠ Ckf.verify then
    return (none, c)
  let (slotid, handle) ← sigKeyHandle ctx c
  match ← sigNewctx c.mechtype with
  | none => return (none, c)
  | some new =>
    match ← sigCopy ctx c new with
    | none => return (none, c)
    | some new =>
      match c.session with
      | none => return (some new, c)
      | some s =>
        let left ← sigSplit ctx slotid c.mechtype (c.operation == Ckf.sign) handle s
        let sessionState := if left = none then .unused else c.sessionState
        return (some { new with session := some s, sessionState := c.sessionState },
          { c with session := left, sessionState })

/-! ## Calls on contexts -/

/-- No operation is in flight. -/
def SigCtx.fresh (c : SigCtx) : Bool := c.session.isNone && c.fallbackDigest.isNone

/-- The operation that a context started on the token. It is not known to have started if the key
    asks for a login of its own. -/
inductive Begun
  | nothing
  | unsure
  | op (op : TokenOp)
  deriving DecidableEq

/-- A context, with the operation that its first update started, and the data of the successful
    updates since then (`data`) and since it was initialised (`given`). The two are the same as
    long as it is `clean`: no operation was in flight when it was initialised, no update failed
    since, and it neither came to its end nor lost its session to a duplicate. -/
structure TrackedSig where
  alg : SigAlg
  ctx : SigCtx
  begun : Begun := .nothing
  data : Bytes := []
  given : Bytes := []
  clean : Bool := false
  deriving DecidableEq

/-- The contexts that there are, by name. -/
abbrev SigCtxs := Nat → Option TrackedSig

/-- The operation that a context starts, on its key as it is then. -/
def sigBegun (c : SigCtx) : P Begun := do
  match c.key with
  | none => return .nothing
  | some key =>
    let obj ← mem (.loadObj key)
    return if obj.asksLogin c.operation then .unsure
      else .op { fn := c.fn, mech := c.mech, key := obj.current }

/-- What is known of a context after an update. -/
def TrackedSig.took (c : TrackedSig) (ctx : SigCtx) (begun : Begun) (ok : Bool)
    (data : Bytes) : TrackedSig :=
  { c with
    ctx
    begun := if c.ctx.fresh then begun else c.begun
    data := (if c.ctx.fresh then [] else c.data) ++ if ok then data else []
    given := c.given ++ if ok then data else []
    clean := c.clean && ok }

/-- The calls of OpenSSL. A new context has a name that is not in use. -/
inductive SigCall
  | newctx (j : Nat) (alg : SigAlg) (paramset : Nat)
  | dupctx (i j : Nat)
  | freectx (i : Nat)
  | init (i : Nat) (operation : Flags) (key : ObjId) (params : Option (List OsslParam))
  | digestInit (i : Nat) (operation : Flags) (digest : Option Bytes) (key : ObjId)
    (params : Option (List OsslParam))
  | setCtxParams (i : Nat) (params : Option (List OsslParam))
  | operate (i : Nat) (sig : Bytes) (sigsize : Nat) (tbs : Bytes)
  | update (i : Nat) (data : Bytes)
  | final (i : Nat) (sig : Bytes) (sigsize : Nat)

/-- The call on the context, if there is one of the name. -/
def onSig (cs : SigCtxs) (i : Nat) (f : TrackedSig → P SigCtxs) : P SigCtxs :=
  match cs i with
  | none => pure cs
  | some c => f c

/-- A call, with the contexts before and after it. The functions that sign or verify in one call,
    and those that end a message, differ in what they make of the signature only. -/
def SigCall.prog (ctx : Ctx) (cs : SigCtxs) : SigCall → P SigCtxs
  | newctx j alg paramset => do
    if (cs j).isSome then
      return cs
    let new ← alg.newctx paramset
    return Function.update cs j (new.map ({ alg, ctx := · }))
  | dupctx i j => onSig cs i fun c => do
    if (cs j).isSome then
      return cs
    let (new, left) ← sigDupctx ctx c.ctx
    let cs := Function.update cs i
      (some { c with ctx := left, clean := c.clean && left.fresh == c.ctx.fresh })
    return Function.update cs j (new.map ({ c with ctx := · }))
  | freectx i => onSig cs i fun c => do
    sigFreectx ctx c.ctx
    return Function.update cs i none
  | init i operation key params => onSig cs i fun c => do
    let (_, ctx) ← sigInit c.alg operation ctx c.ctx key params
    return Function.update cs i (some { c with ctx, given := [], clean := c.ctx.fresh })
  | digestInit i operation digest key params => onSig cs i fun c => do
    let (_, ctx) ← c.alg.digestInit operation ctx c.ctx digest key params
    return Function.update cs i (some { c with ctx, given := [], clean := c.ctx.fresh })
  | setCtxParams i params => onSig cs i fun c => do
    let (_, ctx) ← sigSetCtxParams c.alg ctx c.ctx params
    return Function.update cs i (some { c with ctx })
  | operate i sig sigsize tbs => onSig cs i fun c => do
    let (_, ctx, _) ← c.alg.operate ctx c.ctx (some sig) sigsize tbs
    return Function.update cs i (some { c with ctx })
  | update i data => onSig cs i fun c => do
    let (ret, ctx) ← c.alg.digestUpdate ctx c.ctx data
    let begun ← sigBegun ctx
    return Function.update cs i (some (c.took ctx begun (ret = retOsslOk) data))
  | final i sig sigsize => onSig cs i fun c => do
    let (_, ctx, _) ← sigDigestFinal ctx c.ctx (some sig) sigsize
    return Function.update cs i (some { c with ctx, clean := false })

/-- The sessions of the contexts. -/
abbrev sigSessions (cs : SigCtxs) : Set SessId := resources (fun c => c.ctx.session) cs

/-- The contexts and states that calls lead to. In between, the rest of the provider does what it
    does, but leaves the sessions of the contexts to them. -/
inductive SigReached (O : Oracle) (ctx : Ctx) : SigCtxs → State → Prop
  | start : SigReached O ctx (fun _ => none) {}
  | call {cs cs' : SigCtxs} {st st' : State} (c : SigCall) (h : SigReached O ctx cs st)
      (hrun : Runs (env O) (c.prog ctx cs) st cs' st') : SigReached O ctx cs' st'
  | other {cs : SigCtxs} {st st' : State} (h : SigReached O ctx cs st)
      (hs : Undisturbed (sigSessions cs) st st') (hp : RefsPooled st') : SigReached O ctx cs st'

end P11Prov
