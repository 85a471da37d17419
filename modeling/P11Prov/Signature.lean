import P11Prov.Object
import P11Prov.Digests

/-!
# Signature contexts

The part of the signature layer that the algorithms share: the context, its
initialisation with a key, the operation it starts on a session of the token
and the one-shot signature or verification. The functions are those of
`signature.c`.

A context belongs to its caller, so a function takes it and returns it with its
result. What a mechanism points to is a member of the context, and is looked up
when the mechanism is handed to the token.
-/

namespace P11Prov

open Interaction

/-! ## Contexts -/

/-- `enum instance` -/
inductive EdInstance
  | unset
  | ed25519
  | ed25519ph
  | ed25519ctx
  | ed448
  | ed448ph
  deriving DecidableEq, Repr

/-- The members of a context that the parameter of its mechanism may point to. -/
inductive ParamPtr
  | null
  | pssParams
  | eddsaParams
  deriving DecidableEq, Repr

/-- `CK_SIGN_ADDITIONAL_CONTEXT` -/
structure SignAdditionalContext where
  hedgeVariant : Nat := 0
  pContext : Option Bytes := none
  ulContextLen : Nat := 0
  deriving DecidableEq, Repr

/-- An `EVP_MD_CTX`: without a digest, with the data it took so far, or finished. -/
inductive EvpMdCtx
  | empty
  | running (digest : Nat) (data : Bytes)
  | finished
  deriving DecidableEq, Repr

/-- The functions that `fallback_operate` points to. -/
inductive FallbackOperate
  | rsasig
  | ecdsa
  | mldsa
  deriving DecidableEq, Repr

/-- `struct p11prov_sig_ctx` -/
structure SigCtx where
  key : Option ObjId := none
  mechtype : Nat
  digest : Nat := 0
  operation : Flags := 0
  session : Option SessId := none
  sessionState : SessionState := .unused
  pssParams : PssParams := {}
  edInstance : EdInstance := .unset
  eddsaParams : EddsaParams := {}
  useEddsaParams : Bool := false
  mldsaParamset : Nat := 0
  mldsaParams : SignAdditionalContext := {}
  signature : Option Bytes := none
  digestOp : Bool := false
  /-- `mechanism.mechanism` and `mechanism.pParameter` -/
  mechanism : Nat := ckUnavailableInformation
  pParameter : ParamPtr := .null
  fallbackDigest : Option EvpMdCtx := none
  fallbackOperate : Option FallbackOperate := none
  deriving DecidableEq

namespace SigCtx

/-- The parameter block of the mechanism. -/
def parameter (c : SigCtx) : MechParameter :=
  match c.pParameter with
  | .null => .null
  | .pssParams => .pss c.pssParams
  | .eddsaParams => .eddsa c.eddsaParams

/-- The mechanism as it is handed to the token. -/
def mech (c : SigCtx) : Mechanism := ⟨c.mechanism, c.parameter⟩

/-- Assigns the mechanism, whose parameter points to a member of the context. -/
def setMech (c : SigCtx) (mechanism : Nat) (pParameter : ParamPtr) : SigCtx :=
  { c with mechanism, pParameter }

/-- The function of the token that the operation of the context uses. -/
def fn (c : SigCtx) : Fn := if c.operation = Ckf.sign then .sign else .verify

end SigCtx

/-- `p11prov_sig_newctx` -/
def sigNewctx (mechtype : Nat) : P (Option SigCtx) := do
  if ← mem .alloc then
    return some { mechtype }
  return none

/-- The cancellation of `p11prov_sig_freectx`: an operation that cannot be cancelled leaves
    the session broken. -/
def sigCancel (c : SigCtx) (s : SessId) : P Unit := do
  let h ← sessionHandle s
  let (ret, _) ← call (.crypto h (.cancel c.fn))
  if ret ≠ Ckr.ok then
    let (ret, _) ← call (.crypto h (.sessionCancel c.fn))
    if ret ≠ Ckr.ok then
      sessionMarkBroken s

/-- `p11prov_sig_freectx` -/
def sigFreectx (ctx : Ctx) (c : SigCtx) : P Unit := do
  match c.session with
  | none => pure ()
  | some s =>
    if c.sessionState = .initialized then
      sigCancel c s
    returnSession ctx s
  objFree? ctx c.key

/-! ## Initialisation -/

/-- The key that `p11prov_sig_op_init` uses: the one given, or the public key associated with
    it. -/
def opInitKey (ctx : Ctx) (key : ObjId) (operation : Flags) : P (Except CkRv ObjId) := do
  let obj ← mem (.loadObj key)
  if operation = Ckf.sign then
    if obj.cls ≠ Cko.privateKey then
      return .error Ckr.keyTypeInconsistent
    return .ok key
  else if operation = Ckf.verify then
    if obj.cls ≠ Cko.publicKey then
      match ← objFindAssociated ctx key Cko.publicKey with
      | none => return .error Ckr.keyTypeInconsistent
      | some key => return .ok key
    return .ok key
  else
    return .error Ckr.generalError

/-- `p11prov_sig_op_init` -/
def sigOpInit (ctx : Ctx) (c : SigCtx) (key : ObjId) (operation : Flags) (digest : Option Bytes) :
    P (CkRv × SigCtx) := do
  let ret ← call .ctxStatus
  if ret ≠ Ckr.ok then
    return (ret, c)
  match ← opInitKey ctx key operation with
  | .error ret => return (ret, c)
  | .ok key =>
    match ← objRef ctx key with
    | none => return (Ckr.keyNeeded, { c with key := none })
    | some key =>
      let c := { c with key := some key, operation }
      match digest with
      | none => return (Ckr.ok, c)
      | some name =>
        match digestGetByName name with
        | .error ret => return (ret, c)
        | .ok digest => return (Ckr.ok, { c with digest })

/-! ## Operations -/

/-- `p11prov_obj_get_bool`: the last of the attributes of the type counts. -/
def Obj.getBool (obj : Obj) (type : Nat) (default : Bool) : Bool :=
  match obj.attrs.reverse.find? (·.1 = type) with
  | some (_, [b]) => b != 0
  | _ => default

/-- `mech_fallback_init` -/
def mechFallbackInit (c : SigCtx) : P (CkRv × SigCtx) := do
  match digestGetName c.digest with
  | .error ret => return (ret, c)
  | .ok _ =>
    if !(← call (.evpFetch c.digest)) then
      return (Ckr.generalError, c)
    if !(← mem .alloc) then
      return (Ckr.hostMemory, { c with fallbackDigest := none })
    if !(← call (.evpInit c.digest)) then
      return (Ckr.generalError, { c with fallbackDigest := some .empty })
    return (Ckr.ok, { c with fallbackDigest := some (.running c.digest []) })

/-- The login that a key may ask for once its operation has started. The login decides then. -/
def operateLogin (ctx : Ctx) (obj : Obj) (reqlogin : Bool) (s : SessId) (ret : CkRv) : P CkRv :=
  if reqlogin && obj.getBool ckaAlwaysAuthenticate false then
    contextSpecificLogin ctx s none false
  else pure ret

/-- The part of `p11prov_sig_operate_init` that has a session. -/
def operateInitOn (ctx : Ctx) (c : SigCtx) (key : ObjId) (handle : ObjectHandle) (reqlogin : Bool)
    (s : SessId) : P (CkRv × SigCtx × Option SessId) := do
  let h ← sessionHandle s
  let (ret, _) ← call (.crypto h (.init c.fn c.mech handle))
  let c := if ret = Ckr.ok then { c with sessionState := .initialized } else c
  let obj ← mem (.loadObj key)
  let ret ← operateLogin ctx obj reqlogin s ret
  if ret ≠ Ckr.ok then
    returnSession ctx s
    return (ret, c, none)
  return (Ckr.ok, c, some s)

/-- `p11prov_sig_operate_init` -/
def sigOperateInit (ctx : Ctx) (c : SigCtx) (digestOp : Bool) :
    P (CkRv × SigCtx × Option SessId) := do
  let ret ← call .ctxStatus
  if ret ≠ Ckr.ok then
    return (ret, c, none)
  match c.key with
  | none => return (Ckr.keyHandleInvalid, c, none)
  | some key =>
    let handle ← objGetHandle ctx key
    if handle = ckInvalidHandle then
      return (Ckr.keyHandleInvalid, c, none)
    -- only now, as the object may have been refreshed
    let obj ← mem (.loadObj key)
    if obj.slotid = ckUnavailableInformation then
      return (Ckr.slotIdInvalid, c, none)
    let reqlogin := c.operation == Ckf.sign
    match ← trySessionRef ctx obj c.mechanism reqlogin false with
    | .ok s => operateInitOn ctx c key handle reqlogin s
    | .error ret =>
      if ret = Ckr.mechanismInvalid ∧ digestOp ∧ c.mechanism ≠ c.mechtype then
        -- the token does not combine digest and signature
        let (ret, c) ← mechFallbackInit c
        return (ret, c, none)
      return (ret, c, none)

/-- `C_Sign` or `C_Verify`: the code and the signature. -/
def signOrVerify (c : SigCtx) (h : Handle) (sig : Bytes) (sigsize : Nat) (tbs : Bytes) :
    P (CkRv × Bytes) := do
  if c.operation = Ckf.sign then
    call (.crypto h (.sign tbs sigsize))
  else
    let (ret, _) ← call (.crypto h (.verify tbs sig))
    return (ret, [])

/-- `p11prov_sig_operate`: the code, the context and the signature. A raw operation has a
    session or fails. -/
def sigOperate (ctx : Ctx) (c : SigCtx) (sig : Option Bytes) (sigsize : Nat) (tbs : Bytes) :
    P (CkRv × SigCtx × Bytes) := do
  match sig with
  | none => return (Ckr.argumentsBad, c, [])
  | some sig =>
    match ← sigOperateInit ctx c false with
    | (ret, c, none) => return (ret, c, [])
    | (_, c, some s) =>
      let h ← sessionHandle s
      let (ret, out) ← signOrVerify c h sig sigsize tbs
      returnSession ctx s
      return (ret, { c with sessionState := .finalized }, out)

end P11Prov
