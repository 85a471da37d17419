import P11Prov.Sequence.Walk
import P11Prov.Object

/-!
# The store

`store_fetch` goes through the slots and collects the objects that a URI names.
It is a loop around `p11prov_get_session`, which finds the next viable slot, and
`p11prov_obj_find`, which searches it; if nothing was found at all it runs a
second time, with a login.

The loop need not end, so the passes take the number of rounds they may run.
Besides what the source computes, a pass returns the steps it took along the
slots: which slot was skipped by the checks, on which one the session could not
be had, and which one was searched.
-/

namespace P11Prov

open Interaction

/-! ## Searching a slot -/

/-- `MAX_OBJS_IN_STORE` -/
abbrev maxObjsInStore : Nat := 1024

/-- The loop of `p11prov_obj_find` over `C_FindObjects`: the result and the objects found, or
    nothing when the memory for them cannot be had. Every round finds an object, so that as
    many rounds as there may be objects are enough. -/
def findObjects (h : Handle) : Nat → List ObjectHandle → P (Option (CkRv × List ObjectHandle))
  | 0, objects => return some (Ckr.generalError, objects)
  | n + 1, objects => do
    let room ← mem .alloc
    if !room then
      return none
    let (ret, found) ← call (.findObjects h)
    if ret ≠ Ckr.ok ∨ found = [] then
      return some (ret, objects)
    if (objects ++ found).length < maxObjsInStore then
      findObjects h n (objects ++ found)
    else
      return some (Ckr.generalError, objects ++ found)

/-- `struct p11prov_store_ctx`, as far as `store_fetch` uses it. -/
structure StoreCtx where
  parsedUri : Uri
  /-- `expect` is 0 or `OSSL_STORE_INFO_PKEY`. -/
  expectKey : Bool
  session : Option SessId := none
  loaded : Int := 0
  objects : List ObjId := []

/-- `p11prov_store_ctx_add_obj`; the array grows by eight entries at a time. -/
def storeCtxAddObj (ctx : Ctx) (sc : StoreCtx) (o : ObjId) : P (CkRv × StoreCtx) := do
  let room ← if sc.objects.length % 8 = 0 then mem .alloc else pure true
  if room then
    return (Ckr.ok, { sc with objects := sc.objects ++ [o] })
  objFree ctx o
  return (Ckr.hostMemory, sc)

/-- The loop of `p11prov_obj_find` over the objects found. -/
def addObjects (ctx : Ctx) (s : SessId) (result : CkRv) :
    List ObjectHandle → StoreCtx → P (CkRv × StoreCtx)
  | [], sc => return (result, sc)
  | handle :: handles, sc => do
    match ← objFromHandle ctx s handle none with
    | .error ret =>
      -- an unknown object or another error to ignore
      if ret = Ckr.cancel then
        addObjects ctx s result handles sc
      else
        return (ret, sc)
    | .ok o =>
      -- for refreshes, as it may contain a PIN
      let copied ← mem .alloc
      mem (.storeObj o fun obj => { obj with refreshUri := if copied then sc.parsedUri else none })
      let (ret, sc) ← storeCtxAddObj ctx sc o
      if ret ≠ Ckr.ok then
        return (ret, sc)
      addObjects ctx s result handles sc

/-- The classes that `p11prov_obj_find` searches; no class means all of them. -/
def findableClass (cls : Nat) : Bool :=
  cls = Cko.certificate ∨ cls = Cko.publicKey ∨ cls = Cko.privateKey ∨ cls = Cko.secretKey ∨
    cls = ckUnavailableInformation

/-- A component of a URI as an attribute to search for, if it is not empty. -/
def findAttr (type : Nat) (val : Option Bytes) : List (Nat × Bytes) :=
  if (val.getD []).length ≠ 0 then [(type, val.getD [])] else []

/-- `p11prov_obj_find` -/
def objFind (ctx : Ctx) (s : SessId) (sc : StoreCtx) : P (CkRv × StoreCtx) := do
  let uri := sc.parsedUri
  if !findableClass uri.type then
    -- nothing to find for us
    return (Ckr.ok, sc)
  let h ← sessionHandle s
  let template := findAttr ckaId uri.id ++ findAttr ckaLabel uri.object
  let ret ← call (.findObjectsInit h uri.type template)
  if ret ≠ Ckr.ok then
    return (ret, sc)
  let r ← findObjects h maxObjsInStore []
  -- failing to end the search is not fatal
  let _ ← call (.findObjectsFinal h)
  match r with
  | none => return (Ckr.hostMemory, sc)
  | some (result, handles) => addObjects ctx s result handles sc

/-! ## Going through the slots -/

/-- A step along the slots. -/
abbrev SlotStep := WalkStep SlotId

/-- `cycleSlots`, with the slots that did not pass the checks. -/
def visitSlots (ctx : Ctx) (req : Request) :
    SlotId → CkRv → List Slot → P (List SlotStep × Except CkRv (Slot × List Slot))
  | _, ret, [] => return ([], .error ret)
  | id, ret, slot :: slots => do
    if id ≠ ckUnavailableInformation ∧ id ≠ slot.id then
      visitSlots ctx req id ret slots
    else
      let ret ← trySlot ctx req slot
      if ret = Ckr.ok then
        return ([], .ok (slot, slots))
      let (steps, r) ← visitSlots ctx req ckUnavailableInformation ret slots
      return (.skip slot.id :: steps, r)

/-- What `p11prov_get_session` leaves in `slotid` and `next_slotid` when a slot passed the
    checks, whether or not a session could be had on it. -/
structure SlotCursor where
  slotid : SlotId
  nextid : SlotId

/-- `p11prov_get_session` as the store calls it: the steps, the session, and the cursor. -/
def getSessionCursor (ctx : Ctx) (slotid : SlotId) (req : Request) :
    P (List SlotStep × Except CkRv SessId × SlotCursor) := do
  match ← visitSlots ctx req slotid Ckr.cancel ctx.slots with
  | (steps, .error ret) =>
    return (steps, .error ret, { slotid, nextid := ckUnavailableInformation })
  | (steps, .ok (slot, slots)) =>
    let nextid := (slots.head?.map (·.id)).getD ckUnavailableInformation
    match ← openOnSlot ctx req slot with
    | .error ret => return (steps ++ [.stall slot.id], .error ret, { slotid := slot.id, nextid })
    | .ok s => return (steps ++ [.visit slot.id], .ok s, { slotid := slot.id, nextid })

theorem cycleSlots_eq (ctx : Ctx) (req : Request) (id : SlotId) (ret : CkRv) (slots : List Slot) :
    cycleSlots ctx req id ret slots = Prod.snd <$> visitSlots ctx req id ret slots := by
  induction slots generalizing id ret with
  | nil => rfl
  | cons slot slots ih =>
    simp only [cycleSlots, visitSlots, ih]
    split
    · rfl
    · simp only [map_bind]
      congr 1
      funext ret
      split
      · rfl
      · simp only [map_eq_pure_bind, bind_assoc, pure_bind]

/-- `getSessionNext` is what the store calls, with the slot id of a session only. -/
theorem getSessionNext_eq (ctx : Ctx) (slotid : SlotId) (req : Request) :
    getSessionNext ctx slotid req =
      (fun r => (r.2.1.map (·, r.2.2.slotid), r.2.2.nextid)) <$> getSessionCursor ctx slotid req := by
  simp only [getSessionNext, getSessionCursor, cycleSlots_eq, bind_map_left, map_bind]
  congr 1
  funext x
  obtain ⟨steps, ret | ⟨slot, slots⟩⟩ := x
  · rfl
  · simp only [map_bind]
    congr 1
    funext r
    rcases r with ret | s <;> rfl

/-- One round of the loop of `store_fetch`. -/
def storeRound (ctx : Ctx) (pwCb login : Bool) (sc : StoreCtx) (slotid : SlotId) :
    P (List SlotStep × StoreCtx × SlotCursor) := do
  returnSession? ctx sc.session
  let req : Request := { uri := sc.parsedUri, pwCb, reqlogin := login }
  match ← getSessionCursor ctx slotid req with
  | (steps, .error _, cur) =>
    -- may be recoverable with a PIN prompter, but if we already had one, this is it
    let loaded := if pwCb ∧ sc.loaded = 0 then -1 else sc.loaded
    return (steps, { sc with session := none, loaded }, cur)
  | (steps, .ok s, cur) =>
    let (ret, sc) ← objFind ctx s { sc with session := some s }
    let loaded := if ret = Ckr.ok then 1 else sc.loaded
    return (steps, { sc with loaded }, { cur with slotid := cur.nextid })

/-- The loop of `store_fetch`, for at most so many rounds. -/
def storePass (ctx : Ctx) (pwCb login : Bool) :
    Nat → StoreCtx → SlotId → P (List SlotStep × Option StoreCtx)
  | 0, _, _ => return ([], none)
  | n + 1, sc, slotid => do
    let (steps, sc, cur) ← storeRound ctx pwCb login sc slotid
    if cur.nextid ≠ ckUnavailableInformation then
      let (rest, r) ← storePass ctx pwCb login n sc cur.slotid
      return (steps ++ rest, r)
    else
      return (steps, some sc)

/-- The login that the first pass of `store_fetch` asks for. -/
def storeLogin (ctx : Ctx) (sc : StoreCtx) : Bool :=
  if (sc.parsedUri.type = Cko.publicKey ∨ sc.parsedUri.type = Cko.certificate) ∧
      ctx.loginBehavior ≠ .always then false
  else sc.expectKey || ctx.loginBehavior == .always

/-- The end of `store_fetch`: if nothing was loaded, all has been tried. -/
def storeDone (sc : StoreCtx) : StoreCtx := if sc.loaded = 0 then { sc with loaded := -1 } else sc

/-- `store_fetch`: the steps of its passes, and its result unless a pass did not end in the
    given number of rounds. -/
def storeFetch (ctx : Ctx) (pwCb : Bool) (n : Nat) (sc : StoreCtx) :
    P (List (List SlotStep) × Option StoreCtx) := do
  let login := storeLogin ctx sc
  match ← storePass ctx pwCb login n sc ckUnavailableInformation with
  | (steps, none) => return ([steps], none)
  | (steps, some sc) =>
    -- this accounts for hardware that requires a login even for public objects
    if login = false ∧ sc.objects = [] ∧ ctx.loginBehavior ≠ .never then
      let (again, r) ← storePass ctx pwCb true n { sc with loaded := 0 } ckUnavailableInformation
      return ([steps, again], r.map storeDone)
    else
      return ([steps], some (storeDone sc))

end P11Prov
