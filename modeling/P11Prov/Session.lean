import P11Prov.State

/-!
# Sessions

The session layer: how a session of a pool is found, taken, checked, opened,
logged in and given back. The functions are those of `session.c`, under their
names, as programs over the commands of the provider.

A session pointer that may be `NULL` is an `Option SessId`. What a function
returns through a pointer argument is part of its result.
-/

namespace P11Prov

open Interaction

/-! ## Token sessions -/

namespace Session

/-- The fields as they are without a token session. -/
def reset (x : Session) : Session :=
  { x with
    session := ckInvalidHandle, flags := defltSessionFlags, state := ckUnavailableInformation }

/-- The assignments of `token_session_close`. -/
def closed (x : Session) : Session := { x.reset with isBroken := false }

/-- The assignments of `session_check` on a session that is gone. -/
def lost (x : Session) : Session :=
  { x with session := ckInvalidHandle, state := ckUnavailableInformation }

end Session

/-- The attempts of `token_session_open`: again while the token has too many
    sessions and the clock allows it. -/
def openAttempts (slotid : SlotId) (flags : Flags) : Nat → P (CkRv × Handle)
  | 0 => call (.openSession slotid flags)
  | n + 1 => do
    let r ← call (.openSession slotid flags)
    if r.1 = Ckr.sessionCount then openAttempts slotid flags n else pure r

/-- `token_session_open` -/
def tokenSessionOpen (s : SessId) (flags : Flags) : P CkRv := do
  let n ← call .cyclewait
  let (ret, h) ← openAttempts s.slot flags n
  if ret ≠ Ckr.ok then
    mem (.storeSess s .reset)
    return ret
  mem (.storeSess s fun x => { x with session := h, flags := flags })
  let (ret, info) ← call (.getSessionInfo h)
  if ret = Ckr.ok then
    mem (.storeSess s fun x => { x with flags := info.flags, state := info.state })
  return ret

/-- `token_session_close` -/
def tokenSessionClose (s : SessId) : P Unit := do
  let x ← mem (.loadSess s)
  if x.session ≠ ckInvalidHandle then
    -- regardless of the result the session is gone
    let _ ← call (.closeSession x.session)
    mem (.storeSess s .closed)

/-- `session_check` -/
def sessionCheck (s : SessId) (flags : Flags) : P CkRv := do
  let x ← mem (.loadSess s)
  if x.inUse = false then
    return Ckr.generalError
  -- no handle, nothing to check
  if x.session = ckInvalidHandle then
    return Ckr.ok
  let (ret, info) ← call (.getSessionInfo x.session)
  if ret = Ckr.ok then
    mem (.storeSess s fun x => { x with state := info.state })
    if flags = info.flags &&& flags then
      return Ckr.ok
    let y ← mem (.loadSess s)
    if y.refcnt ≠ 0 then
      return Ckr.sessionReadOnly
    let _ ← call (.closeSession x.session)
    mem (.storeSess s .lost)
    return Ckr.sessionClosed
  -- closed elsewhere, or otherwise unusable
  mem (.storeSess s .lost)
  return ret

/-- `p11prov_session_mark_broken` -/
def sessionMarkBroken (s : SessId) : P Unit :=
  mem (.storeSess s fun x => { x with isBroken := true })

/-! ## Giving a session back -/

/-- `p11prov_get_slot_by_id` -/
def Ctx.getSlotById (ctx : Ctx) (id : SlotId) : Option Slot := ctx.slots.find? (·.id = id)

/-- The number of sessions a pool keeps open when they are not used. -/
def Ctx.poolMaxCached (ctx : Ctx) (id : SlotId) : Nat :=
  (ctx.getSlotById id).elim 0 ctx.maxCachedSessions

/-- The sessions of the pool of a slot, in order. -/
def poolSessions (slotid : SlotId) : P (List SessId) := do
  let n ← mem (.numSessions slotid)
  return (List.range n).map (⟨slotid, ·⟩)

/-- The number of sessions with a handle among those given. -/
def countOpen : List SessId → P Nat
  | [] => pure 0
  | s :: ss => do
    let x ← mem (.loadSess s)
    let n ← countOpen ss
    return if x.session ≠ ckInvalidHandle then n + 1 else n

/-- `p11prov_return_session`, on a session that is not `NULL`. -/
def returnSession (ctx : Ctx) (s : SessId) : P Unit := do
  let x ← mem (.loadSess s)
  if x.refcnt ≤ 0 then
    let x ← mem (.loadSess s)
    if x.isBroken then
      tokenSessionClose s
    else
      let openSessions ← countOpen (← poolSessions s.slot)
      -- outside the lock: a few sessions more than necessary may be closed
      if ctx.poolMaxCached s.slot ≤ openSessions then
        tokenSessionClose s
  mem (.release s)

/-- `p11prov_return_session` -/
def returnSession? (ctx : Ctx) : Option SessId → P Unit
  | none => pure ()
  | some s => returnSession ctx s

/-! ## Logging in -/

/-- `check_pin_flags_ok` -/
def checkPinFlagsOk (slotid : SlotId) : P CkRv := do
  let (ret, flags) ← call (.getTokenInfo slotid)
  if ret ≠ Ckr.ok then
    return ret
  if flags.has Ckf.userPinFinalTry then
    return Ckr.cancel
  else if flags.has Ckf.userPinLocked then
    return Ckr.pinLocked
  else if flags.has Ckf.userPinToBeChanged then
    return Ckr.pinExpired
  else
    return Ckr.ok

/-- The PIN `token_login` finds stored: of the URI, else of the configuration,
    else the one cached for the slot, and none if that one failed before. -/
def storedPin (ctx : Ctx) (uri : Option Uri) (pins : Pins) : Option Pin :=
  let pin := (uri.bind (·.pin)).or (ctx.pin.or pins.cachedPin)
  if pin.isSome ∧ pin = pins.badPin then none else pin

/-- The PIN of `token_login`, and whether it is to be cached. -/
def loginPin (ctx : Ctx) (uri : Option Uri) (pwCb : Bool) (slot : Slot) :
    P (Except CkRv (Option Pin × Bool)) := do
  if slot.tokenFlags.has Ckf.protectedAuthenticationPath then
    return .ok (none, false)
  let pins ← mem (.loadPins slot.id)
  match storedPin ctx uri pins with
  | some pin => return .ok (some pin, false)
  | none =>
    match ← call (.promptPin pwCb) with
    | none => return .error Ckr.generalError
    | some [] => return .error Ckr.cancel
    | some pin => return .ok (some pin, ctx.cachePins)

/-- What `token_login` remembers of a PIN after a login attempt: it is bad if it was
    refused, or we may end up locking the token, and cached if it was accepted. -/
def notePin (slotid : SlotId) (pin : Option Pin) (cache : Bool) (ret : CkRv) : P Unit :=
  match pin with
  | none => pure ()
  | some pin => do
    if ret = Ckr.pinIncorrect then
      let _ ← mem (.setBadPin slotid pin)
    if (ret = Ckr.ok ∨ ret = Ckr.userAlreadyLoggedIn) ∧ cache then
      let _ ← mem (.setCachedPin slotid pin)

/-- `token_login` -/
def tokenLogin (ctx : Ctx) (s : SessId) (uri : Option Uri) (pwCb : Bool) (slot : Slot)
    (userType : UserType) : P CkRv := do
  match ← loginPin ctx uri pwCb slot with
  | .error ret => return ret
  | .ok (pin, cache) =>
    let ret ← checkPinFlagsOk s.slot
    if ret ≠ Ckr.ok then
      return ret
    let x ← mem (.loadSess s)
    let ret ← call (.login x.session userType pin)
    if ret = Ckr.ok ∧ userType = .user then
      mem (.ref s)
      mem (.storeSess s fun x => { x with isLogin := true })
    notePin slot.id pin cache ret
    return if ret = Ckr.userAlreadyLoggedIn then Ckr.ok else ret

/-- `p11prov_context_specific_login` -/
def contextSpecificLogin (ctx : Ctx) (s : SessId) (uri : Option Uri) (pwCb : Bool) : P CkRv :=
  match ctx.getSlotById s.slot with
  | none => pure Ckr.generalError
  | some slot => tokenLogin ctx s uri pwCb slot .contextSpecific

/-! ## Slots -/

/-- A URI component is absent or equal to that of the token. -/
def uriMatch (n : Nat) (a : Option Bytes) (b : Bytes) : Bool :=
  a.all (strncmpEq n · b)

/-- `p11prov_uri_match_token` -/
def Uri.matchToken (uri : Uri) (slot : Slot) : CkRv :=
  if (uri.slotId = ckUnavailableInformation ∨ uri.slotId = slot.id) ∧
      uriMatch 64 uri.slotDescription slot.slotDescription ∧
      uriMatch 32 uri.slotManufacturer slot.slotManufacturer ∧
      uriMatch 16 uri.model slot.model ∧
      uriMatch 32 uri.manufacturer slot.manufacturer ∧
      uriMatch 32 uri.token slot.label ∧
      uriMatch 16 uri.serial slot.serialNumber then
    Ckr.ok
  else Ckr.cancel

/-- `p11prov_check_mechanism` -/
def Ctx.checkMechanism (ctx : Ctx) (id : SlotId) (mechtype : Nat) : CkRv :=
  if ctx.slots.any fun slot => slot.id = id ∧ slot.mechs.contains mechtype then Ckr.ok
  else Ckr.mechanismInvalid

/-- `check_slot` -/
def checkSlot (ctx : Ctx) (slot : Slot) (uri : Option Uri) (mechtype : Nat) (rw : Bool) : CkRv :=
  if !slot.flags.has Ckf.tokenPresent then Ckr.tokenNotPresent
  else if !slot.tokenFlags.has Ckf.tokenInitialized then Ckr.tokenNotPresent
  else if rw && slot.tokenFlags.has Ckf.writeProtected then Ckr.tokenWriteProtected
  else
    let ret := uri.elim Ckr.ok (·.matchToken slot)
    if ret ≠ Ckr.ok then ret
    else if mechtype ≠ ckUnavailableInformation then ctx.checkMechanism slot.id mechtype
    else Ckr.ok

/-- `is_login_state` -/
def isLoginState (state : Nat) : Bool :=
  state = Cks.roUserFunctions ∨ state = Cks.rwUserFunctions ∨ state = Cks.rwSoFunctions

/-! ## Taking a session -/

/-- The session has a handle and exactly the given flags. -/
def Session.cached (flags : Flags) (x : Session) : Bool :=
  x.flags == flags && x.session != ckInvalidHandle

/-- A session that can be taken: free, and neither a login nor a broken session. -/
def Session.free (x : Session) : Bool := !x.inUse && !x.isLogin && !x.isBroken

/-- A broken session that can be recycled: free and not referenced. -/
def Session.recyclable (x : Session) : Bool := !x.inUse && x.isBroken && x.refcnt == 0

/-- One step of the loop of `fetch_session` over the login sessions. -/
def takeLogin (s : SessId) : P (Option (Except CkRv SessId)) := do
  let x ← mem (.loadSess s)
  if !x.isLogin then
    return none
  let x ← mem (.tryTake s fun x => x.isLogin && !x.inUse && !x.isBroken)
  if !x.isLogin then
    return none
  else if x.inUse then
    return some (.error (if isLoginState x.state then Ckr.userAlreadyLoggedIn else Ckr.cantLock))
  else if x.isBroken then
    return some (.error Ckr.cantLock)
  else
    return some (.ok s)

/-- One step of the loops of `fetch_session` over the sessions that are neither
    login sessions nor broken and satisfy `test`. -/
def takeFree (test : Session → Bool) (s : SessId) : P (Option (Except CkRv SessId)) := do
  let x ← mem (.loadSess s)
  if x.isLogin || x.isBroken || !test x then
    return none
  let x ← mem (.tryTake s Session.free)
  return if x.free then some (.ok s) else none

/-- One step of the loop of `fetch_session` over the broken sessions. The lock
    of the session is held from the test to the end, so that it is taken first
    and cleaned up then makes no difference to the others. -/
def takeBroken (s : SessId) : P (Option (Except CkRv SessId)) := do
  let x ← mem (.loadSess s)
  if !x.isBroken then
    return none
  let x ← mem (.tryTake s Session.recyclable)
  if x.recyclable then
    tokenSessionClose s
    return some (.ok s)
  else
    return none

/-- A loop of `fetch_session` over the pool, and what follows if it finds nothing. -/
def orElse (slotid : SlotId) (f : SessId → P (Option (Except CkRv SessId)))
    (k : P (Except CkRv SessId)) : P (Except CkRv SessId) := do
  match ← Prog.firstM f (← poolSessions slotid) with
  | some r => return r
  | none => k

/-- `session_new`, as the last resort of `fetch_session`. -/
def takeNew (slot : Slot) : P (Except CkRv SessId) := do
  let (ret, s) ← mem (.sessionNew slot)
  return if ret = Ckr.ok then .ok s else .error ret

/-- `fetch_session` -/
def fetchSession (slot : Slot) (flags : Flags) (loginSession : Bool) : P (Except CkRv SessId) :=
  (if loginSession then orElse slot.id takeLogin else id) <|
    -- a cached handle and a reference first, to keep the referenced sessions few
    orElse slot.id (takeFree fun x => x.cached flags && x.refcnt != 0) <|
    orElse slot.id (takeFree (·.cached flags)) <|
    orElse slot.id (takeFree fun _ => true) <|
    orElse slot.id takeBroken <|
    takeNew slot

/-- The attempts of `slot_login` to get a login session. -/
def fetchAttempts (slot : Slot) : Nat → P (Except CkRv SessId)
  | 0 => fetchSession slot defltSessionFlags true
  | n + 1 => do
    match ← fetchSession slot defltSessionFlags true with
    | .ok s => return .ok s
    | .error _ => fetchAttempts slot n

/-- `slot_login` from the point where the session was taken: checks it, opens it
    if need be and logs in, unless it is logged in. -/
def loginSession (ctx : Ctx) (slot : Slot) (uri : Option Uri) (pwCb : Bool) (s : SessId) :
    P CkRv := do
  let x ← mem (.loadSess s)
  let ret ← sessionCheck s x.flags
  if ret ≠ Ckr.ok ∧ ret ≠ Ckr.sessionClosed then
    return ret
  let x ← mem (.loadSess s)
  let ret ← if x.session = ckInvalidHandle then tokenSessionOpen s defltSessionFlags
    else pure Ckr.ok
  if ret ≠ Ckr.ok then
    return ret
  let x ← mem (.loadSess s)
  if isLoginState x.state then
    return Ckr.ok
  else
    tokenLogin ctx s uri pwCb slot .user

/-- A login session that could not be used is no longer marked as one. -/
def unmarkLogin (s : SessId) : P Unit := do
  let x ← mem (.loadSess s)
  if x.isLogin then
    mem (.deref s)
    mem (.storeSess s fun x => { x with isLogin := false })

/-- The end of `slot_login`, with the result of the attempt. -/
def finishLogin (ctx : Ctx) (keep : Bool) (s : SessId) (ret : CkRv) :
    P (CkRv × Option SessId) := do
  if ret = Ckr.ok then
    if keep then
      return (Ckr.ok, some s)
    returnSession ctx s
    return (Ckr.ok, none)
  unmarkLogin s
  returnSession ctx s
  return (ret, none)

/-- `slot_login` after its attempts to get a login session. -/
def loginWith (ctx : Ctx) (slot : Slot) (uri : Option Uri) (pwCb keep : Bool) :
    Except CkRv SessId → P (CkRv × Option SessId)
  | .error ret => return (ret, none)
  | .ok s => do
    let ret ← loginSession ctx slot uri pwCb s
    finishLogin ctx keep s ret

/-- `slot_login`; the session is returned to the caller if `keep` is set (the
    argument `_session` of the source is not `NULL`). -/
def slotLogin (ctx : Ctx) (slot : Slot) (uri : Option Uri) (pwCb reqlogin keep : Bool) :
    P (CkRv × Option SessId) := do
  let r ← fetchSession slot defltSessionFlags true
  if r = .error Ckr.userAlreadyLoggedIn ∧ !keep then
    return (Ckr.ok, none)
  if r.isOk || !reqlogin then
    loginWith ctx slot uri pwCb keep r
  else
    let n ← call .cyclewait
    loginWith ctx slot uri pwCb keep (← fetchAttempts slot n)

/-- `check_skip_login` -/
def checkSkipLogin (ctx : Ctx) (slot : Slot) : Bool :=
  ctx.loginBehavior != .always && !slot.tokenFlags.has Ckf.loginRequired

/-- The condition under which `p11prov_get_session` logs in. -/
def needsLogin (ctx : Ctx) (slot : Slot) (reqlogin : Bool) : Bool :=
  (reqlogin && !checkSkipLogin ctx slot) || ctx.loginBehavior == .always

/-- The arguments of `p11prov_get_session` besides the slots. -/
structure Request where
  uri : Option Uri := none
  mechtype : Nat := ckUnavailableInformation
  pwCb : Bool := false
  reqlogin : Bool := false
  rw : Bool := false

/-- The session flags of a request. -/
def Request.flags (req : Request) : Flags :=
  if req.rw then defltSessionFlags ||| Ckf.rwSession else defltSessionFlags

/-- The checks of `p11prov_get_session` on one slot: `check_slot`, then the login
    if it is needed. -/
def trySlot (ctx : Ctx) (req : Request) (slot : Slot) : P CkRv := do
  let ret := checkSlot ctx slot req.uri req.mechtype req.rw
  if ret ≠ Ckr.ok then
    return ret
  if needsLogin ctx slot req.reqlogin then
    return (← slotLogin ctx slot req.uri req.pwCb req.reqlogin false).1
  return Ckr.ok

/-- The end of `p11prov_get_session`, on the session that was taken: checks it and opens
    it if need be. -/
def openTaken (ctx : Ctx) (req : Request) (s : SessId) : P (Except CkRv SessId) := do
  let ret ← sessionCheck s req.flags
  if ret ≠ Ckr.ok ∧ ret ≠ Ckr.sessionClosed then
    returnSession ctx s
    return .error ret
  let x ← mem (.loadSess s)
  if x.session ≠ ckInvalidHandle then
    return .ok s
  let ret ← tokenSessionOpen s req.flags
  if ret ≠ Ckr.ok then
    returnSession ctx s
    return .error ret
  return .ok s

/-- `p11prov_get_session` on the slot that passed the checks. -/
def openOnSlot (ctx : Ctx) (req : Request) (slot : Slot) : P (Except CkRv SessId) := do
  match ← fetchSession slot req.flags false with
  | .error ret => return .error ret
  | .ok s => openTaken ctx req s

/-- The loop of `p11prov_get_session` over the slots, from the slot `id` on: the
    slot that passed the checks and those after it. -/
def cycleSlots (ctx : Ctx) (req : Request) :
    SlotId → CkRv → List Slot → P (Except CkRv (Slot × List Slot))
  | _, ret, [] => return .error ret
  | id, ret, slot :: slots => do
    if id ≠ ckUnavailableInformation ∧ id ≠ slot.id then
      -- seek to the next slot to check
      cycleSlots ctx req id ret slots
    else
      let ret ← trySlot ctx req slot
      if ret = Ckr.ok then
        return .ok (slot, slots)
      cycleSlots ctx req ckUnavailableInformation ret slots

/-- `p11prov_get_session` with `next_slotid` not `NULL` or without a slot: the
    first viable slot from `slotid` on. Returns the session with its slot, and
    the slot to continue with. -/
def getSessionNext (ctx : Ctx) (slotid : SlotId) (req : Request) :
    P (Except CkRv (SessId × SlotId) × SlotId) := do
  match ← cycleSlots ctx req slotid Ckr.cancel ctx.slots with
  | .error ret => return (.error ret, ckUnavailableInformation)
  | .ok (slot, slots) =>
    let next := (slots.head?.map (·.id)).getD ckUnavailableInformation
    match ← openOnSlot ctx req slot with
    | .error ret => return (.error ret, next)
    | .ok s => return (.ok (s, slot.id), next)

/-- `p11prov_get_session` with `next_slotid == NULL`: one shot on a slot, or the
    first viable slot if none is given. -/
def getSession (ctx : Ctx) (slotid : SlotId) (req : Request) : P (Except CkRv SessId) := do
  if slotid = ckUnavailableInformation then
    return (← getSessionNext ctx slotid req).1.map (·.1)
  match ctx.getSlotById slotid with
  | none => return .error Ckr.slotIdInvalid
  | some slot =>
    let ret ← trySlot ctx req slot
    if ret ≠ Ckr.ok then
      return .error ret
    openOnSlot ctx req slot

/-- The part of `p11prov_try_session_ref` that tries the referenced session. -/
def tryRef (s : SessId) (req : Request) : P Bool := do
  let x ← mem (.tryTake s fun x => !x.inUse && !x.isBroken)
  if x.inUse || x.isBroken then
    -- lost the race
    return false
  let ret ← sessionCheck s req.flags
  let ret ← if ret ≠ Ckr.ok ∧ ret ≠ Ckr.sessionReadOnly then tokenSessionOpen s req.flags
    else pure ret
  if ret = Ckr.ok then
    return true
  mem (.release s)
  return false

/-- `p11prov_try_session_ref` -/
def trySessionRef (ctx : Ctx) (obj : Obj) (mechtype : Nat) (reqlogin rw : Bool) :
    P (Except CkRv SessId) := do
  let req : Request := { uri := obj.refreshUri, mechtype, reqlogin, rw }
  if mechtype ≠ ckUnavailableInformation ∧ ctx.checkMechanism obj.slotid mechtype ≠ Ckr.ok then
    return .error (ctx.checkMechanism obj.slotid mechtype)
  match obj.refSession with
  | none => getSession ctx obj.slotid req
  | some s =>
    if ← tryRef s req then
      return .ok s
    getSession ctx obj.slotid req

/-- `p11prov_take_login_session` -/
def takeLoginSession (ctx : Ctx) (slotid : SlotId) : P (Except CkRv SessId) := do
  match ctx.getSlotById slotid with
  | none => return .error Ckr.slotIdInvalid
  | some slot =>
    match ← slotLogin ctx slot none false false true with
    | (_, some s) => return .ok s
    | (ret, none) => return .error ret

/-! ## Sessions of contexts -/

/-- The states of the session of a context. -/
inductive SessionState
  | unused
  | initialized
  | finalized
  deriving DecidableEq, Repr

end P11Prov
