import P11Prov.Buffer
import P11Prov.Digests
import P11Prov.Session.Held

/-!
# Digest contexts

The functions of a digest context. The running hash is an operation of a token
session that the context holds. A duplicate takes the session with it, and the
original is given another one, onto which the state of the operation is
restored if the token can save it.

OpenSSL has any number of contexts at a time: `DigestCall` are its calls on
them, by the name of the context. What a context took since it was started is
kept beside it.
-/

namespace P11Prov

open Interaction

/-! ## The functions of a context -/

/-- `struct p11prov_digest_ctx` -/
structure DigestCtx where
  mechtype : Nat
  session : Option SessId := none
  deriving DecidableEq

namespace Key

/-- `P11PROV_PARAM_SLOT_ID` -/
def slotIdParam : Bytes := ascii "pkcs11_slot_id"

end Key

/-- `p11prov_session_handle`, on a session that may be `NULL`. -/
def sessionHandle? : Option SessId → P Handle
  | none => pure ckInvalidHandle
  | some s => sessionHandle s

/-- The slot that the parameters of `p11prov_digest_init` ask for. -/
def digestSlot (params : List OsslParam) : Option SlotId :=
  match locate params Key.slotIdParam with
  | none => some ckUnavailableInformation
  | some p => p.getUlong

/-- `p11prov_digest_init` -/
def digestInit (ctx : Ctx) (params : List OsslParam) (c : DigestCtx) : P (Nat × DigestCtx) := do
  if (← call .ctxStatus) ≠ Ckr.ok then
    return (retOsslErr, c)
  match digestSlot params with
  | none => return (retOsslErr, c)
  | some slotid =>
    -- a session that the context has is not given back
    match ← getSession ctx slotid { mechtype := c.mechtype } with
    | .error _ => return (retOsslErr, c)
    | .ok s =>
      let h ← sessionHandle s
      let (ret, _) ← call (.crypto h (.init .digest { mechanism := c.mechtype } ckInvalidHandle))
      if ret ≠ Ckr.ok then
        returnSession ctx s
        return (retOsslErr, { c with session := none })
      return (retOsslOk, { c with session := some s })

/-- `p11prov_digest_update` -/
def digestUpdate (c : DigestCtx) (data : Bytes) : P Nat := do
  if data = [] then
    return retOsslOk
  let h ← sessionHandle? c.session
  let (ret, _) ← call (.crypto h (.update .digest data))
  return if ret = Ckr.ok then retOsslOk else retOsslErr

/-- What `p11prov_digest_final` returns, with the output buffer and `*size`, if that is set. -/
structure DigestFinal where
  ret : Nat
  out : Bytes
  size : Option Nat := none
  deriving DecidableEq

/-- `p11prov_digest_final`, on a buffer of `buf_size` bytes. -/
def digestFinal (c : DigestCtx) (out : Bytes) : P DigestFinal := do
  match digestGetDigestSize c.mechtype with
  | .error _ => return { ret := retOsslErr, out }
  | .ok digestSize =>
    -- probing for the size of the buffer
    if out.length = 0 then
      return { ret := retOsslOk, out, size := some digestSize }
    else if out.length < digestSize then
      return { ret := retOsslOk, out }
    let h ← sessionHandle? c.session
    let (ret, r) ← call (.crypto h (.cryptFinal .digest digestSize))
    let out := overwrite out r.written
    if ret ≠ Ckr.ok then
      return { ret := retOsslErr, out }
    return { ret := retOsslOk, out, size := some r.len }

/-- The part of `p11prov_digest_dupctx` that restores a saved state: the session the original
    context is left with. -/
def digestRestore (ctx : Ctx) (mechtype : Nat) (state : Option TokenOp) : P (Option SessId) := do
  match ← getSession ctx ckUnavailableInformation { mechtype } with
  | .error _ => return none
  | .ok s =>
    let h ← sessionHandle s
    let (ret, _) ← call (.crypto h (.setOperationState state ckInvalidHandle))
    if ret ≠ Ckr.ok then
      returnSession ctx s
      return none
    return some s

/-- The part of `p11prov_digest_dupctx` that saves the state of the session that moved to the
    duplicate, and restores it. -/
def digestSplit (ctx : Ctx) (mechtype : Nat) (s : SessId) : P (Option SessId) := do
  let h ← sessionHandle s
  let (ret, _) ← call (.crypto h .getOperationState)
  if ret ≠ Ckr.ok then
    return none
  if !(← mem .alloc) then
    return none
  let (ret, state) ← call (.crypto h .getOperationState)
  if ret ≠ Ckr.ok then
    return none
  digestRestore ctx mechtype state

/-- `p11prov_digest_dupctx`: the duplicate, and what is left of the original. -/
def digestDupctx (ctx : Ctx) (c : DigestCtx) : P (Option DigestCtx × DigestCtx) := do
  if !(← mem .alloc) then
    return (none, c)
  match c.session with
  | none => return (some { mechtype := c.mechtype }, c)
  | some s =>
    let left ← digestSplit ctx c.mechtype s
    return (some { mechtype := c.mechtype, session := some s }, { c with session := left })

/-- `p11prov_digest_freectx` -/
def digestFreectx (ctx : Ctx) (c : DigestCtx) : P Unit := returnSession? ctx c.session

/-! ## Calls on contexts -/

/-- A context, with the data of the successful updates since it was started. -/
structure TrackedDigest where
  ctx : DigestCtx
  data : Bytes := []
  deriving DecidableEq

/-- The contexts that there are, by name. -/
abbrev DigestCtxs := Nat → Option TrackedDigest

/-- The calls of OpenSSL. A new context has a name that is not in use. -/
inductive DigestCall
  | newctx (j mechtype : Nat)
  | dupctx (i j : Nat)
  | freectx (i : Nat)
  | init (i : Nat) (params : List OsslParam)
  | update (i : Nat) (data : Bytes)
  | final (i : Nat) (out : Bytes)

/-- The call on the context, if there is one of the name. -/
def onDigest (cs : DigestCtxs) (i : Nat) (f : TrackedDigest → P DigestCtxs) : P DigestCtxs :=
  match cs i with
  | none => pure cs
  | some c => f c

/-- A call, with the contexts before and after it. -/
def DigestCall.prog (ctx : Ctx) (cs : DigestCtxs) : DigestCall → P DigestCtxs
  | newctx j mechtype => do
    if (cs j).isSome || !(← mem .alloc) then
      return cs
    return Function.update cs j (some { ctx := { mechtype } })
  | dupctx i j => onDigest cs i fun c => do
    if (cs j).isSome then
      return cs
    let (new, left) ← digestDupctx ctx c.ctx
    let cs := Function.update cs i (some { c with ctx := left })
    return Function.update cs j (new.map ({ c with ctx := · }))
  | freectx i => onDigest cs i fun c => do
    digestFreectx ctx c.ctx
    return Function.update cs i none
  | init i params => onDigest cs i fun c => do
    let (ret, ctx) ← digestInit ctx params c.ctx
    return Function.update cs i (some { ctx, data := if ret = retOsslOk then [] else c.data })
  | update i data => onDigest cs i fun c => do
    let ret ← digestUpdate c.ctx data
    let data := if ret = retOsslOk then c.data ++ data else c.data
    return Function.update cs i (some { c with data })
  | final i out => onDigest cs i fun c => do
    let _ ← digestFinal c.ctx out
    return cs

/-- The sessions of the contexts. -/
def digestSessions (cs : DigestCtxs) : Set SessId :=
  {s | ∃ i c, cs i = some c ∧ c.ctx.session = some s}

/-- The contexts and states that calls lead to. In between, the rest of the provider does what it
    does, but leaves the sessions of the contexts alone. -/
inductive DigestReached (O : Oracle) (ctx : Ctx) : DigestCtxs → State → Prop
  | start : DigestReached O ctx (fun _ => none) {}
  | call {cs cs' : DigestCtxs} {st st' : State} (c : DigestCall) (h : DigestReached O ctx cs st)
      (hrun : Runs (env O) (c.prog ctx cs) st cs' st') : DigestReached O ctx cs' st'
  | other {cs : DigestCtxs} {st st' : State} (h : DigestReached O ctx cs st)
      (hs : Spared (digestSessions cs) st st') : DigestReached O ctx cs st'

end P11Prov
