import P11Prov.Session

/-!
# Objects

The object layer, as far as it takes, references and gives back sessions: the
reference counts of objects, the cache of a key on the token, the refresh of an
object after a fork, the handle of a key that was only imported so far, and the
ways in which the provider makes new objects on the token.

Reading the attributes of an object from the token is one call. The recursion
over associated objects is bounded by the number of objects.
-/

namespace P11Prov

open Interaction

/-! ## Creation and references -/

/-- `p11prov_obj_new` -/
def objNew (slotid : SlotId) (handle : ObjectHandle) (cls : Nat) : P (Option ObjId) := do
  match ← mem (.objAlloc { slotid, handle, cls }) with
  | none => return none
  | some o =>
    if handle = ckP11provImportedHandle then
      -- mock object, not added to the pool
      return some o
    let ret ← mem (.objAddToPool o)
    if ret ≠ Ckr.ok then
      mem (.objDelete o)
      return none
    return some o

/-- `p11prov_obj_ref_no_cache` -/
def objRefNoCache (o : ObjId) : P Bool := do
  let n ← mem (.objFetchAdd o)
  return 0 < n

/-- `p11prov_session_handle` -/
def sessionHandle (s : SessId) : P Handle := do
  let x ← mem (.loadSess s)
  return x.session

/-- `destroy_key_cache` on a session that is held. -/
def destroyKeyCacheOn (o : ObjId) (s : SessId) : P Unit := do
  let obj ← mem (.loadObj o)
  if obj.cached ≠ ckInvalidHandle then
    let h ← sessionHandle s
    let _ ← call (.destroyObject h obj.cached)
    mem (.storeObj o fun obj => { obj with cached := ckInvalidHandle })

/-- `destroy_key_cache` without a session, on an object that is being freed. -/
def destroyKeyCache (ctx : Ctx) (obj : Obj) : P Unit := do
  if obj.cached ≠ ckInvalidHandle then
    match ← takeLoginSession ctx obj.slotid with
    | .error _ => pure ()
    | .ok s =>
      let h ← sessionHandle s
      let _ ← call (.destroyObject h obj.cached)
      returnSession ctx s

/-- `p11prov_obj_free`; the first argument bounds the chain of associated objects. -/
def objFreeChain (ctx : Ctx) : Nat → ObjId → P Unit
  | 0, _ => pure ()
  | n + 1, o => do
    match ← mem (.objUnref o) with
    | none => pure ()
    | some obj =>
      match obj.refSession with
      | none => pure ()
      | some s => mem (.deref s)
      destroyKeyCache ctx obj
      match obj.assocObj with
      | none => pure ()
      | some a => objFreeChain ctx n a

/-- `p11prov_obj_free` -/
def objFree (ctx : Ctx) (o : ObjId) : P Unit := do
  let n ← mem .numObjs
  objFreeChain ctx (n + 1) o

/-- `p11prov_obj_free`, on a pointer that may be `NULL`. -/
def objFree? (ctx : Ctx) : Option ObjId → P Unit
  | none => pure ()
  | some o => objFree ctx o

/-- `p11prov_obj_set_session_ref` -/
def objSetSessionRef (o : ObjId) (s : SessId) : P Unit := do
  mem (.ref s)
  mem (.storeObj o fun obj => { obj with refSession := some s })

/-! ## Objects of the token -/

/-- `p11prov_obj_from_handle`. The last argument is the session handle the object
    was created on, if it is a session object that the caller just created. -/
def objFromHandle (ctx : Ctx) (s : SessId) (handle : ObjectHandle) (home : Option Handle) :
    P (Except CkRv ObjId) := do
  match ← objNew s.slot handle ckUnavailableInformation with
  | none => return .error Ckr.hostMemory
  | some o =>
    let h ← sessionHandle s
    let (ret, a) ← call (.fetchAttributes h handle)
    if ret ≠ Ckr.ok then
      objFree ctx o
      return .error ret
    if a.cls ≠ Cko.certificate ∧ a.cls ≠ Cko.publicKey ∧ a.cls ≠ Cko.privateKey ∧
        a.cls ≠ Cko.secretKey then
      objFree ctx o
      return .error Ckr.cancel
    mem (.storeObj o fun obj => { obj with
      cls := a.cls, ckaCopyable := a.ckaCopyable, ckaToken := a.ckaToken, key := a.key
      attrs := a.attrs, home })
    return .ok o

/-- The attribute of the given type, `p11prov_obj_get_attr`. -/
def Obj.getAttr (obj : Obj) (type : Nat) : Option Bytes :=
  (obj.attrs.find? (·.1 = type)).map (·.2)

/-- `p11prov_obj_get_key_size` and `p11prov_obj_get_key_bit_size` -/
def keyMember (key : Option Obj) (f : Key → Nat) : Nat :=
  match key with
  | none => ckUnavailableInformation
  | some obj =>
    if obj.cls ∈ [Cko.privateKey, Cko.publicKey, Cko.domainParameters, Cko.secretKey] then
      f obj.key
    else ckUnavailableInformation

/-- The attributes of the given types that the object has. -/
def Obj.template (obj : Obj) (types : List Nat) : List (Nat × Bytes) :=
  types.filterMap fun type => (obj.getAttr type).map (type, ·)

/-- Searches one object on a session: `C_FindObjectsInit`, `C_FindObjects` with
    room for one handle, and `C_FindObjectsFinal`. -/
def findOne (h : Handle) (cls : Nat) (attrs : List (Nat × Bytes)) :
    P (Except CkRv (List ObjectHandle)) := do
  let ret ← call (.findObjectsInit h cls attrs)
  if ret ≠ Ckr.ok then
    return .error ret
  let (ret, handles) ← call (.findObjects h)
  -- finalizing is not fatal
  let _ ← call (.findObjectsFinal h)
  if ret ≠ Ckr.ok then
    return .error ret
  return .ok handles

/-- The part of `p11prov_obj_refresh` that works on the session. -/
def objRefreshOn (ctx : Ctx) (o : ObjId) (obj : Obj) (s : SessId) : P Unit := do
  let h ← sessionHandle s
  match ← findOne h obj.cls (obj.template [ckaId, ckaLabel]) with
  | .ok [handle] =>
    match ← objFromHandle ctx s handle none with
    | .error _ => pure ()
    | .ok t =>
      -- move over all the object data, then free the temporary one
      let tmp ← mem (.loadObj t)
      mem (.storeObj o fun obj => { obj with
        handle := tmp.handle, cached := tmp.cached, ckaCopyable := tmp.ckaCopyable
        ckaToken := tmp.ckaToken, key := tmp.key, home := none })
      objFree ctx t
      mem (.storeObj o fun obj => { obj with raf := false })
  | _ => pure ()

/-- The login that `p11prov_obj_refresh` asks for. -/
def refreshLogin (ctx : Ctx) (obj : Obj) : Bool :=
  obj.cls == Cko.privateKey || obj.cls == Cko.secretKey || ctx.loginBehavior == .always

/-- `p11prov_obj_refresh`; the first argument bounds the chain of associated objects.
    The associated object is refreshed while the session is still held. -/
def objRefresh (ctx : Ctx) : Nat → ObjId → P Unit
  | 0, _ => pure ()
  | n + 1, o => do
    let obj ← mem (.loadObj o)
    match ← trySessionRef ctx obj ckUnavailableInformation (refreshLogin ctx obj) false with
    | .error _ => pure ()
    | .ok s =>
      objRefreshOn ctx o obj s
      let obj ← mem (.loadObj o)
      match obj.raf, obj.assocObj with
      | false, some a =>
        let assoc ← mem (.loadObj a)
        if assoc.raf then
          objRefresh ctx n a
      | _, _ => pure ()
      returnSession ctx s

/-! ## Storing a key on the token -/

/-- `store_key` -/
def storeKey (ctx : Ctx) (key : ObjId) : P CkRv := do
  if ctx.defaultSlot = ckUnavailableInformation then
    return Ckr.generalError
  let obj ← mem (.loadObj key)
  match ← getSession ctx ctx.defaultSlot { uri := obj.refreshUri, rw := true } with
  | .error ret => return ret
  | .ok s =>
    let h ← sessionHandle s
    let (ret, handle) ← call (.createObject h)
    if ret = Ckr.ok then
      mem (.storeObj key fun obj => { obj with handle, slotid := ctx.defaultSlot, home := some h })
      -- an ephemeral key: the session must stay open until the key goes away
      objSetSessionRef key s
    returnSession ctx s
    return ret

/-- The key types `p11prov_obj_store_public_key` knows. -/
def storableKeyTypes : List Nat := [0x0, 0x3, 0x40, 0x4A, 0x49]

/-- `p11prov_obj_store_public_key` -/
def objStorePublicKey (ctx : Ctx) (key : ObjId) : P CkRv := do
  let obj ← mem (.loadObj key)
  if obj.cls ≠ Cko.publicKey then
    return Ckr.objectHandleInvalid
  if obj.key.type ∉ storableKeyTypes then
    return Ckr.generalError
  let ret ← storeKey ctx key
  if ret = Ckr.ok then
    -- a real object now, but failing to pool it is not fatal
    let _ ← mem (.objAddToPool key)
  return ret

/-- `p11prov_obj_import_secret_key`, from the point where the template is set. -/
def objImportSecretKey (ctx : Ctx) (type size : Nat) : P (Option ObjId) := do
  match ← objNew ckUnavailableInformation ckP11provImportedHandle Cko.secretKey with
  | none => return none
  | some key =>
    mem (.storeObj key fun obj => { obj with key := { type, bitSize := size * 8, size } })
    let ret ← storeKey ctx key
    if ret ≠ Ckr.ok then
      objFree ctx key
      return none
    return some key

/-- `p11prov_obj_get_handle` -/
def objGetHandle (ctx : Ctx) (o : ObjId) : P ObjectHandle := do
  let obj ← mem (.loadObj o)
  if obj.raf then
    objRefresh ctx ((← mem .numObjs) + 1) o
  let obj ← mem (.loadObj o)
  if obj.cached ≠ ckInvalidHandle then
    return obj.cached
  if obj.handle = ckP11provImportedHandle then
    let ret ← objStorePublicKey ctx o
    if ret ≠ Ckr.ok then
      return ckInvalidHandle
  let obj ← mem (.loadObj o)
  return obj.handle

/-! ## Caching a key -/

/-- The part of `cache_key` that works on the login session. -/
def cacheKeyOn (ctx : Ctx) (o : ObjId) (s : SessId) : P Unit := do
  -- if already cached, release and cache again
  destroyKeyCacheOn o s
  let h ← sessionHandle s
  let (ret, cached) ← call (.copyObject h (← objGetHandle ctx o))
  if ret = Ckr.ok then
    mem (.storeObj o fun obj => { obj with cached })
  else
    mem (.storeObj o fun obj => { obj with ckaCopyable := false })

/-- `cache_key` -/
def cacheKey (ctx : Ctx) (o : ObjId) : P Unit := do
  if ctx.cacheKeys = .never then
    return
  let obj ← mem (.loadObj o)
  if (obj.cls ≠ Cko.privateKey ∧ obj.cls ≠ Cko.publicKey) ∨ !obj.ckaToken ∨ !obj.ckaCopyable then
    return
  let canCache ← call (.supportsCaching obj.slotid)
  if !canCache then
    mem (.storeObj o fun obj => { obj with ckaCopyable := false })
    return
  match ← takeLoginSession ctx obj.slotid with
  | .error _ => return
  | .ok s =>
    cacheKeyOn ctx o s
    returnSession ctx s

/-- `p11prov_obj_ref` -/
def objRef (ctx : Ctx) (o : ObjId) : P (Option ObjId) := do
  if ← objRefNoCache o then
    let obj ← mem (.loadObj o)
    if obj.cached = ckInvalidHandle then
      cacheKey ctx o
    return some o
  else
    return none

/-- `p11prov_obj_ref`, on a pointer that may be `NULL`. -/
def objRef? (ctx : Ctx) : Option ObjId → P (Option ObjId)
  | none => pure none
  | some o => objRef ctx o

/-! ## Other ways to make an object -/

/-- `return_dup_key`, up to the copy of the attributes, which may fail. -/
def returnDupKey (dst src : ObjId) : P CkRv := do
  let d ← mem (.loadObj dst)
  if d.pooled then
    -- real key objects are not overwritten
    return Ckr.generalError
  let x ← mem (.loadObj src)
  mem (.storeObj dst fun obj => { obj with
    slotid := x.slotid, handle := x.handle, cls := x.cls, ckaCopyable := x.ckaCopyable
    ckaToken := x.ckaToken, key := x.key, home := x.home })
  let ret ← mem (.objAddToPool dst)
  if ret ≠ Ckr.ok then
    return ret
  mem (.storeObj dst fun obj => { obj with attrs := x.attrs })
  return Ckr.ok

/-- `p11prov_obj_import_key`, with the object that the search of the pools found, if any. A
    public key that was not found only gets its attributes. -/
def objImportKey (ctx : Ctx) (key : ObjId) (found : Option ObjId) (attrs : List (Nat × Bytes)) :
    P CkRv := do
  let obj ← mem (.loadObj key)
  -- only on new mock objects, not over an existing one
  if obj.handle ≠ ckP11provImportedHandle then
    return Ckr.argumentsBad
  if obj.cls ≠ Cko.publicKey ∧ obj.cls ≠ Cko.privateKey then
    return Ckr.keyIndigestible
  match found with
  | some src => returnDupKey key src
  | none =>
    if obj.cls = Cko.privateKey then
      let ret ← storeKey ctx key
      if ret ≠ Ckr.ok then
        return ret
    mem (.storeObj key fun obj => { obj with attrs })
    return Ckr.ok

/-- The two kinds of keys that can be generated as secret keys. -/
inductive SkeyType
  | aes
  | genericSecret
  deriving DecidableEq, Repr

/-- `CKM_AES_KEY_GEN` and `CKM_GENERIC_SECRET_KEY_GEN`. -/
def SkeyType.mechtype : SkeyType → Nat
  | aes => 0x1080
  | genericSecret => 0x350

/-- `p11prov_aes_generate` and `p11prov_generic_secret_generate`, after their parameters
    were read. -/
def skeyGenerate (ctx : Ctx) (type : SkeyType) (uri : Option Uri) (ephemeral : Bool) :
    P (Option ObjId) := do
  match ← getSession ctx ckUnavailableInformation
    { uri, mechtype := type.mechtype, reqlogin := true, rw := true } with
  | .error _ => return none
  | .ok s =>
    let h ← sessionHandle s
    let (ret, handle) ← call (.generateKey h type.mechtype (!ephemeral))
    let key ← if ret ≠ Ckr.ok then pure none else do
      match ← objFromHandle ctx s handle (if ephemeral then some h else none) with
      | .error _ => pure none
      | .ok key => pure (some key)
    returnSession ctx s
    return key

/-- `p11prov_derive_key`: the derived key and the session it was derived on, which is the
    one given, if any. -/
def deriveKey (ctx : Ctx) (key : ObjId) (mechtype : Nat) (session : Option SessId) :
    P (Except CkRv (ObjectHandle × SessId)) := do
  -- first, as it may refresh the object
  let handle ← objGetHandle ctx key
  if handle = ckInvalidHandle then
    return .error Ckr.keyHandleInvalid
  let r ← match session with
    | some s => pure (.ok s)
    | none => do trySessionRef ctx (← mem (.loadObj key)) mechtype false false
  match r with
  | .error ret => return .error ret
  | .ok s =>
    let h ← sessionHandle s
    let (ret, dkey) ← call (.deriveKey h mechtype handle)
    if ret = Ckr.ok then
      return .ok (dkey, s)
    if session = none then
      returnSession ctx s
    return .error ret

/-- The end of `p11prov_ecdh_derive_skey` and of the `derive_skey` functions of the KDFs: the
    derived key becomes an object; the session stays with the context. -/
def deriveSkey (ctx : Ctx) (key : ObjId) (mechtype : Nat) (session : Option SessId) :
    P (Option ObjId × Option SessId) := do
  match ← deriveKey ctx key mechtype session with
  | .error _ => return (none, session)
  | .ok (dkey, s) =>
    let h ← sessionHandle s
    match ← objFromHandle ctx s dkey (some h) with
    | .error _ => return (none, some s)
    | .ok skey => return (some skey, some s)

/-- Associates an object with the one it was found for, so that it is not searched
    again. -/
def associate (o a : ObjId) : P Unit := do
  let obj ← mem (.loadObj o)
  if obj.assocObj = none then
    let _ ← objRefNoCache a
    mem (.storeObj o fun obj => { obj with assocObj := some a })

/-- The part of `p11prov_obj_find_associated` that works on the session. -/
def findAssociatedOn (ctx : Ctx) (o : ObjId) (cls : Nat) (id : Bytes) (s : SessId) :
    P (Option ObjId) := do
  let h ← sessionHandle s
  match ← findOne h cls [(ckaId, id)] with
  | .ok [handle] =>
    match ← objFromHandle ctx s handle none with
    | .error _ => return none
    | .ok a =>
      associate o a
      return some a
  | _ => return none

/-- The object associated with one already, if it is of the class. -/
def knownAssociated (obj : Obj) (cls : Nat) : P (Option ObjId) :=
  match obj.assocObj with
  | none => pure none
  | some a => do
    let assoc ← mem (.loadObj a)
    return if assoc.cls = cls then some a else none

/-- `p11prov_obj_find_associated` -/
def objFindAssociated (ctx : Ctx) (o : ObjId) (cls : Nat) : P (Option ObjId) := do
  let obj ← mem (.loadObj o)
  match ← knownAssociated obj cls with
  | some a => return if ← objRefNoCache a then some a else none
  | none =>
    match obj.getAttr ckaId with
    | none | some [] => return none
    | some id =>
      match ← trySessionRef ctx obj ckUnavailableInformation false false with
      | .error _ => return none
      | .ok s =>
        let found ← findAssociatedOn ctx o cls id s
        returnSession ctx s
        return found

end P11Prov
