import P11Prov.Digests
import P11Prov.Object

/-!
# Deriving keys

What the contexts of the key exchanges and of the key derivation functions
share: the derivation on the token, the key that is made of secret bytes on a
session, and the object that is made of a derived handle.

A handle means something to one token only. So every call that passes the handle
of a key or of a derived object notes the slot which the handle is of and the
session that the call is made on (`Use`). The notes are not part of the source.
-/

namespace P11Prov

open Interaction

/-- A handle passed in a call: the slot of its object, and the session of the call. -/
structure Use where
  slotid : SlotId
  session : SessId
  deriving DecidableEq, Repr

/-- The call is made on a session of the slot that the handle is of. -/
def Use.OwnSlot (u : Use) : Prop := u.session.slot = u.slotid

instance (u : Use) : Decidable u.OwnSlot := inferInstanceAs (Decidable (_ = _))

/-- A handle that was derived, with the slot of the session it was derived on. -/
structure Derived where
  handle : ObjectHandle
  slotid : SlotId

/-! ## Key types -/

/-- `p11prov_get_key_type_from_string` -/
def getKeyTypeFromString : Option Bytes → Nat
  | none => ckkGenericSecret
  | some s =>
    if s = ascii "AES" then ckkAes
    else if s = ascii "GENERIC-SECRET" then ckkGenericSecret
    else ckUnavailableInformation

/-! ## Derivation -/

/-- The session of `p11prov_derive_key`: the one given, else one for the key. -/
def deriveSession (ctx : Ctx) (key : ObjId) (mechtype : Nat) :
    Option SessId → P (Except CkRv SessId)
  | some s => pure (.ok s)
  | none => do trySessionRef ctx (← mem (.loadObj key)) mechtype false false

/-- The part of `p11prov_derive_key` that has a session. -/
def deriveOn (ctx : Ctx) (mechtype : Nat) (handle : ObjectHandle) (session : Option SessId)
    (s : SessId) : P (Except CkRv (ObjectHandle × SessId)) := do
  let h ← sessionHandle s
  let (ret, dkey) ← call (.deriveKey h mechtype handle)
  if ret = Ckr.ok then
    return .ok (dkey, s)
  if session = none then
    returnSession ctx s
  return .error ret

/-- `p11prov_derive_key`, with the use of the handle of the key. -/
def deriveKeyNoted (ctx : Ctx) (key : ObjId) (mechtype : Nat) (session : Option SessId) :
    P (Except CkRv (ObjectHandle × SessId) × List Use) := do
  -- first, as it may refresh the object
  let handle ← objGetHandle ctx key
  if handle = ckInvalidHandle then
    return (.error Ckr.keyHandleInvalid, [])
  match ← deriveSession ctx key mechtype session with
  | .error ret => return (.error ret, [])
  | .ok s =>
    let obj ← mem (.loadObj key)
    let r ← deriveOn ctx mechtype handle session s
    return (r, [⟨obj.slotid, s⟩])

/-- `p11prov_derive_key` in its two parts. -/
theorem deriveKey_eq (ctx : Ctx) (key : ObjId) (mechtype : Nat) (session : Option SessId) :
    deriveKey ctx key mechtype session = (do
      let handle ← objGetHandle ctx key
      if handle = ckInvalidHandle then
        return .error Ckr.keyHandleInvalid
      match ← deriveSession ctx key mechtype session with
      | .error ret => return .error ret
      | .ok s => deriveOn ctx mechtype handle session s) := by
  unfold deriveKey
  congr 1
  funext handle
  cases session <;> rfl

/-- The notes change nothing. -/
theorem wp_deriveKeyNoted {O : Oracle} {ctx : Ctx} {key : ObjId} {mechtype : Nat}
    {session : Option SessId} {st : State}
    {Q : Except CkRv (ObjectHandle × SessId) → State → Prop} :
    wp (env O) (deriveKeyNoted ctx key mechtype session) (fun r => Q r.1) st ↔
      wp (env O) (deriveKey ctx key mechtype session) Q st := by
  rw [deriveKeyNoted, deriveKey_eq, wp_bind, wp_bind]
  refine wp_congr fun handle st' => ?_
  rw [wp_ite, wp_ite, wp_bind, wp_bind]
  refine and_congr_right fun _ => imp_congr_right fun _ => wp_congr fun r st' => ?_
  cases r with
  | error ret => rfl
  | ok s =>
    simp only [Prog.perform_eq, Prog.call_bind, Prog.ret_bind, wp_loadObj, wp_bind, wp_pure]

/-- `p11prov_obj_from_handle` for a derived handle, on the session of a context. -/
def objFromDerived (ctx : Ctx) (dkey : Derived) :
    Option SessId → P (Except CkRv ObjId × List Use)
  | none => return (.error Ckr.argumentsBad, [])
  | some s => do
    let h ← sessionHandle s
    let r ← objFromHandle ctx s dkey.handle (some h)
    return (r, [⟨dkey.slotid, s⟩])

/-- Reads `CKA_VALUE` of an object on the session of a context: the code, and the length of
    the value. Without a session, the call has no session handle and fails. -/
def fetchValue (handle : ObjectHandle) (slotid : SlotId) :
    Option SessId → P (CkRv × Nat × List Use)
  | none => return (Ckr.sessionHandleInvalid, 0, [])
  | some s => do
    let h ← sessionHandle s
    let (ret, a) ← call (.fetchAttributes h handle)
    let value := (a.attrs.find? (·.1 = ckaValue)).map (·.2)
    return (ret, (value.getD []).length, [⟨slotid, s⟩])

/-- The part of `p11prov_create_secret_key` that has an object. -/
def fillSecretKey (ctx : Ctx) (o : ObjId) (h : Handle) (handle : ObjectHandle) (secretlen : Nat) :
    P (Option ObjId) := do
  mem (.storeObj o fun obj =>
    { obj with key := { type := ckkGenericSecret, size := secretlen }, home := some h })
  if !(← mem .alloc) then
    objFree ctx o
    return none
  let (ret, a) ← call (.fetchAttributes h handle)
  if ret ≠ Ckr.ok then
    objFree ctx o
    return none
  mem (.storeObj o fun obj => { obj with attrs := a.attrs.filter (·.1 ∈ [ckaId, ckaLabel]) })
  return some o

/-- `p11prov_create_secret_key`, for a session key. `C_GetSessionInfo` is relied upon to
    report the slot of the session. -/
def createSecretKey (ctx : Ctx) (s : SessId) (secretlen : Nat) : P (Option ObjId) := do
  let h ← sessionHandle s
  let (ret, _) ← call (.getSessionInfo h)
  if ret ≠ Ckr.ok then
    return none
  let (ret, handle) ← call (.createObject h)
  if ret ≠ Ckr.ok then
    return none
  match ← objNew s.slot handle Cko.secretKey with
  | none => return none
  | some o => fillSecretKey ctx o h handle secretlen

end P11Prov
