import P11Prov.Interaction.Threads
import P11Prov.Pkcs11

/-!
# The state of the provider and its commands

The state has two halves. The *memory* of the provider holds what its C
structures hold: the sessions of every pool, the PINs remembered for a slot
and the objects. The *token* side records what the calls answered so far have
established there: which session handles are open, who is logged in, which
operation each session runs, on which session an object was created.

The code reaches either half by a `Cmd` only. One command is one atomic step
of the source: a read or a write of the fields of a structure, a section under
one lock, or a `C_*` call. `env` says what a command answers and changes; what
the token answers is a parameter, the `Oracle`, so that a result can be stated
for every behaviour of the token or for those that keep a contract.

Mutexes are taken to work: a lock that cannot be taken is not modelled.
-/

namespace P11Prov

open Interaction

/-! ## Configuration -/

/-- `CK_VERSION` -/
structure Version where
  major : UInt8 := 0
  minor : UInt8 := 0
  deriving DecidableEq, Repr

/-- `struct p11prov_uri`: a parsed PKCS#11 URI. A component that is `NULL` in the source, or
    an attribute whose `pValue` is, is `none`. -/
structure Uri where
  libraryDescription : Option Bytes := none
  libraryManufacturer : Option Bytes := none
  libraryVersion : Version := {}
  token : Option Bytes := none
  manufacturer : Option Bytes := none
  model : Option Bytes := none
  serial : Option Bytes := none
  slotDescription : Option Bytes := none
  slotId : SlotId := ckUnavailableInformation
  slotManufacturer : Option Bytes := none
  id : Option Bytes := none
  object : Option Bytes := none
  type : Nat := ckUnavailableInformation
  pin : Option Pin := none
  deriving DecidableEq

/-- A slot: what was read of it, of its token and of the token's mechanisms
    when the module was loaded. -/
structure Slot where
  id : SlotId
  flags : Flags
  slotDescription : Bytes := []
  slotManufacturer : Bytes := []
  tokenFlags : Flags
  ulMaxSessionCount : Nat
  label : Bytes := []
  manufacturer : Bytes := []
  model : Bytes := []
  serialNumber : Bytes := []
  mechs : List Nat

/-- `pkcs11-module-login-behavior`. -/
inductive LoginBehavior
  | auto
  | always
  | never
  deriving DecidableEq, Repr

/-- `pkcs11-module-cache-keys`. -/
inductive CacheKeys
  | never
  | inSessionObject
  deriving DecidableEq, Repr

/-- The provider context: its slots and its configuration. -/
structure Ctx where
  slots : List Slot
  defaultSlot : SlotId := ckUnavailableInformation
  loginBehavior : LoginBehavior := .auto
  pin : Option Pin := none
  cachePins : Bool := false
  cacheSessions : Nat := 5
  cacheKeys : CacheKeys := .never

/-- The bound on the number of sessions of a pool, set by
    `p11prov_session_pool_init`. -/
def Slot.maxSessions (slot : Slot) : Nat :=
  if slot.ulMaxSessionCount ≠ ckEffectivelyInfinite ∧
      slot.ulMaxSessionCount ≠ ckUnavailableInformation then
    slot.ulMaxSessionCount
  else maxConcurrentSessions

/-- The number of sessions a pool keeps open when they are not used, set by
    `p11prov_session_pool_init`. -/
def Ctx.maxCachedSessions (ctx : Ctx) (slot : Slot) : Nat :=
  if slot.maxSessions < ctx.cacheSessions then slot.maxSessions - 1 else ctx.cacheSessions

/-! ## Memory -/

/-- A session pointer: sessions are only ever appended to the array of their
    pool, so the pool and the index name one. -/
structure SessId where
  slot : SlotId
  idx : Nat
  deriving DecidableEq, Repr

/-- `DEFLT_SESSION_FLAGS`. -/
abbrev defltSessionFlags : Flags := Ckf.serialSession

/-- `struct p11prov_session`. The fields start as `session_new_bare` sets them. -/
structure Session where
  session : Handle := ckInvalidHandle
  state : Nat := ckUnavailableInformation
  flags : Flags := defltSessionFlags
  inUse : Bool := false
  refcnt : Int := 0
  isLogin : Bool := false
  isBroken : Bool := false
  deriving DecidableEq, Repr

/-- The PINs remembered for a slot. -/
structure Pins where
  cachedPin : Option Pin := none
  badPin : Option Pin := none
  deriving DecidableEq, Repr

/-- An object pointer. -/
abbrev ObjId := Nat

/-- `struct p11prov_key`. -/
structure Key where
  type : Nat := 0
  alwaysAuth : Bool := false
  bitSize : Nat := 0
  size : Nat := 0
  paramSet : Nat := 0
  deriving DecidableEq, Repr

/-- `struct p11prov_obj`. The member `key` is the `key` side of the union
    `data`; `pooled` is `poolid != -1`. The member `home` is not one of the
    source: it records, for a session object that the provider created, the
    session handle it was created on. -/
structure Obj where
  raf : Bool := false
  slotid : SlotId
  handle : ObjectHandle
  cls : Nat
  cached : ObjectHandle := ckInvalidHandle
  ckaCopyable : Bool := false
  ckaToken : Bool := false
  refreshUri : Option Uri := none
  key : Key := {}
  attrs : List (Nat × Bytes) := []
  refcnt : Int := 1
  pooled : Bool := false
  assocObj : Option ObjId := none
  refSession : Option SessId := none
  home : Option Handle := none

/-- What a dangling pointer reads as; no claim is made about such reads. -/
def Obj.freed : Obj :=
  { slotid := ckUnavailableInformation, handle := ckInvalidHandle, cls := ckUnavailableInformation }

/-- The memory of the provider. The pool of a slot is the first `num slot`
    sessions of that slot; a freed object leaves `none` behind. -/
structure Mem where
  sess : SessId → Session := fun _ => {}
  num : SlotId → Nat := fun _ => 0
  pins : SlotId → Pins := fun _ => {}
  objs : List (Option Obj) := []

namespace Mem

/-- The sessions in the pool of a slot. -/
def pool (m : Mem) (slot : SlotId) : List SessId := (List.range (m.num slot)).map (⟨slot, ·⟩)

/-- The session is in the pool of its slot. -/
def Pooled (m : Mem) (s : SessId) : Prop := s.idx < m.num s.slot

instance (m : Mem) (s : SessId) : Decidable (m.Pooled s) := inferInstanceAs (Decidable (_ < _))

theorem mem_pool {m : Mem} {slot : SlotId} {s : SessId} :
    s ∈ m.pool slot ↔ s.slot = slot ∧ m.Pooled s := by
  cases s
  simp only [pool, Pooled, List.mem_map, List.mem_range, SessId.mk.injEq]
  constructor
  · rintro ⟨i, hi, rfl, rfl⟩
    exact ⟨rfl, hi⟩
  · rintro ⟨rfl, hi⟩
    exact ⟨_, hi, rfl, rfl⟩

/-- Changes the record of a session. -/
def setSess (m : Mem) (s : SessId) (f : Session → Session) : Mem :=
  { m with sess := Function.update m.sess s (f (m.sess s)) }

section setSess

variable {m : Mem} {s s' : SessId} {f : Session → Session}

@[simp] theorem setSess_sess : (m.setSess s f).sess s = f (m.sess s) := by
  simp [setSess]

theorem setSess_sess_ne (h : s' ≠ s) : (m.setSess s f).sess s' = m.sess s' := by
  simp [setSess, h]

@[simp] theorem setSess_setSess {g : Session → Session} :
    (m.setSess s f).setSess s g = m.setSess s (g ∘ f) := by
  simp [setSess]

/-- An assignment that keeps the handle of a session keeps all handles. -/
theorem session_setSess (h : ∀ x, (f x).session = x.session) :
    ((m.setSess s f).sess s').session = (m.sess s').session := by
  by_cases hs : s' = s
  · subst hs
    rw [setSess_sess, h]
  · rw [setSess_sess_ne hs]

@[simp] theorem setSess_num : (m.setSess s f).num = m.num := rfl

@[simp] theorem setSess_objs : (m.setSess s f).objs = m.objs := rfl

@[simp] theorem setSess_pool {slot : SlotId} : (m.setSess s f).pool slot = m.pool slot := rfl

@[simp] theorem setSess_pooled : (m.setSess s f).Pooled s' ↔ m.Pooled s' := Iff.rfl

end setSess

/-- Appends a session, in use, to the pool of a slot. -/
def addSess (m : Mem) (slot : SlotId) : Mem :=
  { m with
    sess := Function.update m.sess ⟨slot, m.num slot⟩ { inUse := true }
    num := Function.update m.num slot (m.num slot + 1) }

@[simp] theorem addSess_sess {m : Mem} {slot : SlotId} :
    (m.addSess slot).sess ⟨slot, m.num slot⟩ = { inUse := true } := by
  simp [addSess]

theorem addSess_sess_ne {m : Mem} {slot : SlotId} {s : SessId} (h : s ≠ ⟨slot, m.num slot⟩) :
    (m.addSess slot).sess s = m.sess s := by
  simp [addSess, h]

/-- `p11prov_session_pool_fork_reset`, on the pools of all slots. -/
def sessForkReset (m : Mem) : Mem :=
  { m with sess := fun s =>
      { m.sess s with
        session := ckInvalidHandle, flags := defltSessionFlags
        state := ckUnavailableInformation, inUse := false, isLogin := false } }

/-- The object behind a pointer, if it was not freed. -/
def obj (m : Mem) (o : ObjId) : Option Obj := m.objs[o]?.join

theorem getElem?_objs {m : Mem} {o : ObjId} {x : Obj} (h : m.obj o = some x) :
    m.objs[o]? = some (some x) := by
  rw [obj] at h
  cases hi : m.objs[o]? with
  | none => simp [hi] at h
  | some y => simpa [hi] using h

/-- Changes the object behind a pointer, or frees it. -/
def setObj (m : Mem) (o : ObjId) (f : Obj → Option Obj) : Mem :=
  { m with objs := m.objs.modify o (Option.bind · f) }

section setObj

variable {m : Mem} {o o' : ObjId} {f : Obj → Option Obj}

theorem obj_setObj : (m.setObj o f).obj o' = if o' = o then (m.obj o).bind f else m.obj o' := by
  simp only [obj, setObj, List.getElem?_modify]
  by_cases h : o' = o
  · subst h
    cases m.objs[o']? <;> simp
  · simp [h, Ne.symm h]

theorem obj_setObj_self {x : Obj} (h : m.obj o = some x) : (m.setObj o f).obj o = f x := by
  rw [obj_setObj, if_pos rfl, h]
  rfl

@[simp] theorem setObj_sess : (m.setObj o f).sess = m.sess := rfl

@[simp] theorem setObj_num : (m.setObj o f).num = m.num := rfl

@[simp] theorem setObj_pooled {s : SessId} : (m.setObj o f).Pooled s ↔ m.Pooled s := Iff.rfl

/-- Changes are the same if they do the same to the object that is there, if there is one. -/
theorem setObj_ext {g : Obj → Option Obj} (h : ∀ x, m.obj o = some x → f x = g x) :
    m.setObj o f = m.setObj o g := by
  simp only [setObj]
  congr 1
  apply List.ext_getElem?
  intro i
  simp only [List.getElem?_modify]
  split
  · subst_vars
    rcases hi : m.objs[i]? with _ | _ | x
    · rfl
    · rfl
    · exact congrArg some (h x (by rw [obj, hi, Option.join_some]))
  · rfl

@[simp] theorem setObj_some : m.setObj o some = m := by
  have hsome : (fun x : Option Obj => x.bind some) = id := by
    funext x
    cases x <;> rfl
  rw [setObj, hsome, List.modify_id]

theorem setObj_of_none (h : m.obj o = none) : m.setObj o f = m := by
  rw [setObj_ext (g := some), setObj_some]
  intro x hx
  rw [h] at hx
  cases hx

theorem setObj_congr {x : Obj} {g : Obj → Option Obj} (h : m.obj o = some x) (hf : f x = g x) :
    m.setObj o f = m.setObj o g := by
  refine setObj_ext fun y hy => ?_
  obtain rfl : x = y := Option.some.inj (h.symm.trans hy)
  exact hf

theorem setObj_setObj {g : Obj → Option Obj} :
    (m.setObj o f).setObj o g = m.setObj o fun x => (f x).bind g := by
  simp only [setObj]
  congr 1
  apply List.ext_getElem?
  intro i
  simp only [List.getElem?_modify]
  split
  · cases m.objs[i]? <;> simp [Option.bind_assoc]
  · simp

theorem setObj_setSess {s : SessId} {g : Session → Session} :
    (m.setSess s g).setObj o f = (m.setObj o f).setSess s g := rfl

end setObj

/-- All objects are changed, and none is freed. -/
theorem obj_map {m : Mem} {o : ObjId} {f : Obj → Obj} :
    Mem.obj { m with objs := m.objs.map (Option.map f) } o = (m.obj o).map f := by
  simp only [obj, List.getElem?_map]
  cases m.objs[o]? with
  | none => rfl
  | some x => rfl

/-- `p11prov_obj_pool_fork_reset`, on the pools of all slots; no session object
    of the parent process is left. -/
def objForkReset (m : Mem) : Mem :=
  { m with objs := m.objs.map <| Option.map fun obj =>
      if obj.pooled then
        { obj with
          raf := true, handle := ckInvalidHandle, cached := ckInvalidHandle, home := none }
      else { obj with home := none } }

end Mem

/-! ## The token -/

/-- The multi-part functions of a token session. -/
inductive Fn
  | sign
  | verify
  | encrypt
  | decrypt
  | digest
  deriving DecidableEq, Repr

/-- An operation a token session runs: its function, its mechanism, its key and the data
    the token took so far. -/
structure TokenOp where
  fn : Fn
  mech : Mechanism
  key : ObjectHandle
  data : Bytes := []
  deriving DecidableEq, Repr

/-- The calls that run an operation on a session. -/
inductive CryptoCall
  /-- `C_SignInit` and its siblings. -/
  | init (fn : Fn) (mech : Mechanism) (key : ObjectHandle)
  /-- The same with a `NULL` mechanism, and `C_SessionCancel`. -/
  | cancel (fn : Fn)
  | sessionCancel (fn : Fn)
  | sign (data : Bytes) (size : Nat)
  | verify (data sig : Bytes)
  | update (fn : Fn) (data : Bytes)
  | signFinal (size : Nat)
  | verifyFinal (sig : Bytes)
  | getOperationState
  | setOperationState (state : Option TokenOp) (key : ObjectHandle)
  /-- `C_Encrypt` and `C_Decrypt`, into a buffer of the size. -/
  | crypt (fn : Fn) (data : Bytes) (size : Nat)
  /-- `C_EncryptUpdate` and `C_DecryptUpdate`, and the calls that end them. `C_DigestFinal` is
      such a call too. -/
  | cryptUpdate (fn : Fn) (data : Bytes) (size : Nat)
  | cryptFinal (fn : Fn) (size : Nat)
  deriving DecidableEq, Repr

/-- What the token leaves in a buffer and in its length, which need not agree after an error. -/
structure Crypted where
  written : Bytes
  len : Nat
  deriving DecidableEq, Repr

/-- What a call returns besides its code: a signature, an operation that is saved, or data that
    is encrypted or decrypted. -/
@[reducible] def CryptoCall.Out : CryptoCall → Type
  | sign _ _ | signFinal _ => Bytes
  | crypt _ _ _ | cryptUpdate _ _ _ | cryptFinal _ _ => Crypted
  | getOperationState => Option TokenOp
  | _ => Unit

/-- The operation of a session after a call that returned the code `ret`. -/
def CryptoCall.opAfter (c : CryptoCall) (op : Option TokenOp) (ret : CkRv) : Option TokenOp :=
  match c with
  | init fn mech key => if ret = Ckr.ok then some { fn, mech, key } else op
  | cancel _ | sessionCancel _ => if ret = Ckr.ok then none else op
  | sign _ _ | signFinal _ | crypt _ _ _ | cryptFinal _ _ =>
    if ret = Ckr.bufferTooSmall then op else none
  | verify _ _ | verifyFinal _ => none
  | update _ data | cryptUpdate _ data _ =>
    if ret = Ckr.ok then op.map fun o => { o with data := o.data ++ data } else none
  | getOperationState => op
  | setOperationState state _ => if ret = Ckr.ok then state else op

/-- A call on a session, with the code it returned. -/
structure CryptoEvent where
  handle : Handle
  call : CryptoCall
  ret : CkRv
  deriving DecidableEq, Repr

/-- What `C_OpenSession` was asked for. -/
structure OpenSession where
  slot : SlotId
  flags : Flags
  deriving DecidableEq, Repr

/-- What the answers of the token have established so far. -/
structure Token where
  /-- The open sessions: returned by `C_OpenSession` and not closed since. Calls on a session
      that the token dropped on its own fail, as any answer may. -/
  sessions : List (Handle × OpenSession) := []
  /-- The session handle that logged into a slot, while it is open. -/
  login : SlotId → Option Handle := fun _ => none
  /-- The operation a session handle runs. -/
  op : Handle → Option TokenOp := fun _ => none
  /-- The calls that ran operations so far. -/
  log : List CryptoEvent := []

namespace Token

/-- The open session behind a handle. -/
def opened (t : Token) (h : Handle) : Option OpenSession :=
  (t.sessions.find? (·.1 = h)).map (·.2)

/-- The effect of `C_OpenSession` returning the handle `h`. -/
def openHandle (t : Token) (h : Handle) (o : OpenSession) : Token :=
  { t with
    sessions := (h, o) :: t.sessions
    op := Function.update t.op h none }

/-- The effect of `C_CloseSession`: the handle, its operation and its login are gone. -/
def closeHandle (t : Token) (h : Handle) : Token :=
  { t with
    sessions := t.sessions.filter (·.1 ≠ h)
    login := fun slot => if t.login slot = some h then none else t.login slot
    op := Function.update t.op h none }

section

variable {t : Token} {h h' : Handle} {o : OpenSession}

@[simp] theorem opened_openHandle : (t.openHandle h o).opened h = some o := by
  simp [openHandle, opened]

theorem opened_openHandle_ne (hh : h' ≠ h) : (t.openHandle h o).opened h' = t.opened h' := by
  simp [openHandle, opened, Ne.symm hh]

theorem opened_closeHandle_ne (hh : h' ≠ h) : (t.closeHandle h).opened h' = t.opened h' := by
  simp only [closeHandle, opened, List.find?_filter]
  congr 2
  funext x
  by_cases hx : x.1 = h'
  · simp [hx, hh]
  · simp [hx]

end

/-- The effect of a successful user login on the session handle `h`. -/
def loginHandle (t : Token) (h : Handle) : Token :=
  match t.opened h with
  | none => t
  | some o => { t with login := Function.update t.login o.slot (some h) }

end Token

/-- The state: the memory of the provider and the token side. -/
structure State where
  mem : Mem := {}
  tok : Token := {}

/-! ## Commands -/

/-- `CK_SESSION_INFO`, as far as it is read. -/
structure SessionInfo where
  state : Nat
  flags : Flags
  deriving DecidableEq, Repr

/-- What is read of an object when it is first seen. -/
structure ObjAttrs where
  cls : Nat
  ckaCopyable : Bool := false
  ckaToken : Bool := false
  key : Key := {}
  attrs : List (Nat × Bytes) := []

/-- The atomic steps of the code on the memory of the provider. -/
inductive MemCmd
  /-- Reads the fields of a session. -/
  | loadSess (s : SessId)
  /-- Assigns fields of a session. -/
  | storeSess (s : SessId) (f : Session → Session)
  /-- Under the lock of the session: takes it if the test holds of it. -/
  | tryTake (s : SessId) (test : Session → Bool)
  /-- Under the lock of the session: clears `in_use`. -/
  | release (s : SessId)
  /-- `p11prov_session_ref` and `p11prov_session_deref`, atomic on the counter. -/
  | ref (s : SessId)
  | deref (s : SessId)
  /-- Reads `num_sessions` of the pool of a slot. -/
  | numSessions (slot : SlotId)
  /-- `session_new`, under the lock of the pool. -/
  | sessionNew (slot : Slot)
  /-- Reads and replaces the PINs of a slot. -/
  | loadPins (slot : SlotId)
  | setBadPin (slot : SlotId) (pin : Pin)
  | setCachedPin (slot : SlotId) (pin : Pin)
  /-- Reads the fields of an object. -/
  | loadObj (o : ObjId)
  /-- Assigns fields of an object. -/
  | storeObj (o : ObjId) (f : Obj → Obj)
  /-- Allocates an object. -/
  | objAlloc (obj : Obj)
  /-- `obj_add_to_pool` -/
  | objAddToPool (o : ObjId)
  /-- Adds one to the counter of an object, atomically, and returns its value before. -/
  | objFetchAdd (o : ObjId)
  /-- Subtracts one from the counter of an object, atomically. At zero the object
      is gone; its fields are returned for what is left to be cleaned up. -/
  | objUnref (o : ObjId)
  /-- Frees the memory of an object. -/
  | objDelete (o : ObjId)
  /-- The number of objects ever allocated, a bound on how far one object can
      refer to another. -/
  | numObjs
  /-- Whether memory can be had for something that is not part of the state. -/
  | alloc

/-- The calls of the code to what is outside of the provider: the token, the
    clock and the user. -/
inductive Call
  /-- How often `cyclewait_with_timeout` tells a loop to try again. -/
  | cyclewait
  /-- The PIN the passphrase callback or the user interface gives, if any. -/
  | promptPin (withCallback : Bool)
  | openSession (slot : SlotId) (flags : Flags)
  | closeSession (h : Handle)
  | getSessionInfo (h : Handle)
  | getTokenInfo (slot : SlotId)
  | login (h : Handle) (as : UserType) (pin : Option Pin)
  /-- Creates a session object or a token object on a session. -/
  | createObject (h : Handle)
  | generateKey (h : Handle) (mechtype : Nat) (tokenObj : Bool)
  | deriveKey (h : Handle) (mechtype : Nat) (key : ObjectHandle)
  | copyObject (h : Handle) (object : ObjectHandle)
  | destroyObject (h : Handle) (object : ObjectHandle)
  /-- `C_FindObjectsInit` for the objects of a class with the given attributes. -/
  | findObjectsInit (h : Handle) (cls : Nat) (attrs : List (Nat × Bytes))
  | findObjects (h : Handle)
  | findObjectsFinal (h : Handle)
  /-- The `C_GetAttributeValue` calls that read an object. -/
  | fetchAttributes (h : Handle) (object : ObjectHandle)
  /-- The quirk of a slot that says whether keys can be cached. -/
  | supportsCaching (slot : SlotId)
  /-- The quirk of a slot that says whether `CKA_ALLOWED_MECHANISMS` can be read. -/
  | supportsAllowedMechanisms (slot : SlotId)
  /-- `p11prov_ctx_status` -/
  | ctxStatus
  /-- The digests of OpenSSL: whether the implementation is found, whether it can be started,
      whether it takes more data, and the digest of the data. -/
  | evpFetch (digest : Nat)
  | evpInit (digest : Nat)
  | evpUpdate (digest : Nat) (data : Bytes)
  | evpFinal (digest : Nat) (data : Bytes)
  /-- `RAND_bytes_ex` and `RAND_priv_bytes_ex` -/
  | randBytes (n : Nat)
  /-- A call that runs an operation on a session. -/
  | crypto (h : Handle) (c : CryptoCall)

/-- The type of the answers to a memory command. -/
@[reducible] def MemCmd.Resp : MemCmd → Type
  | loadSess _ => Session
  | storeSess _ _ => Unit
  | tryTake _ _ => Session
  | release _ => Unit
  | ref _ => Unit
  | deref _ => Unit
  | numSessions _ => Nat
  | sessionNew _ => CkRv × SessId
  | loadPins _ => Pins
  | setBadPin _ _ => CkRv
  | setCachedPin _ _ => CkRv
  | loadObj _ => Obj
  | storeObj _ _ => Unit
  | objAlloc _ => Option ObjId
  | objAddToPool _ => CkRv
  | objFetchAdd _ => Int
  | objUnref _ => Option Obj
  | objDelete _ => Unit
  | numObjs => Nat
  | alloc => Bool

/-- The type of the answers to a call. -/
@[reducible] def Call.Resp : Call → Type
  | cyclewait => Nat
  | promptPin _ => Option Pin
  | openSession _ _ => CkRv × Handle
  | closeSession _ => CkRv
  | getSessionInfo _ => CkRv × SessionInfo
  | getTokenInfo _ => CkRv × Flags
  | login _ _ _ => CkRv
  | createObject _ => CkRv × ObjectHandle
  | generateKey _ _ _ => CkRv × ObjectHandle
  | deriveKey _ _ _ => CkRv × ObjectHandle
  | copyObject _ _ => CkRv × ObjectHandle
  | destroyObject _ _ => CkRv
  | findObjectsInit _ _ _ => CkRv
  | findObjects _ => CkRv × List ObjectHandle
  | findObjectsFinal _ => CkRv
  | fetchAttributes _ _ => CkRv × ObjAttrs
  | supportsCaching _ => Bool
  | supportsAllowedMechanisms _ => CkRv × Bool
  | ctxStatus => CkRv
  | evpFetch _ => Bool
  | evpInit _ => Bool
  | evpUpdate _ _ => Bool
  | evpFinal _ _ => Option Bytes
  | randBytes n => Option (Vector UInt8 n)
  | crypto _ c => CkRv × c.Out

/-- The commands of the provider. -/
inductive Cmd
  | mem (c : MemCmd)
  | call (c : Call)

/-- The type of the answers to a command. -/
@[reducible] def Cmd.Resp : Cmd → Type
  | mem c => c.Resp
  | call c => c.Resp

/-- The programs of the provider. -/
abbrev P := Prog Cmd.Resp

/-- Issues a memory command. -/
abbrev mem (c : MemCmd) : P c.Resp := .perform (Cmd.mem c)

/-- Issues a call. -/
abbrev call (c : Call) : P c.Resp := .perform (Cmd.call c)

/-! ## What the commands do -/

namespace Mem

/-- The answers that the memory determines; those left open are the allocator's. -/
def Answers (m : Mem) : (c : MemCmd) → c.Resp → Prop
  | .loadSess s, r => r = m.sess s
  | .tryTake s _, r => r = m.sess s
  | .numSessions slot, r => r = m.num slot
  | .sessionNew slot, r =>
    (slot.maxSessions ≤ m.num slot.id ∧ r.1 = Ckr.sessionCount) ∨
      (m.num slot.id < slot.maxSessions ∧
        (r.1 = Ckr.hostMemory ∨ r = (Ckr.ok, ⟨slot.id, m.num slot.id⟩)))
  | .loadPins slot, r => r = m.pins slot
  | .setBadPin _ _, r => r = Ckr.ok ∨ r = Ckr.hostMemory
  | .setCachedPin _ _, r => r = Ckr.ok ∨ r = Ckr.hostMemory
  | .loadObj o, r => r = (m.obj o).getD .freed
  | .objAlloc _, r => r = none ∨ r = some m.objs.length
  | .objFetchAdd o, r => r = (m.obj o).elim 0 (·.refcnt)
  | .objUnref o, r => r = (m.obj o).filter (·.refcnt = 1)
  | .numObjs, r => r = m.objs.length
  | .storeSess _ _, _ | .release _, _ | .ref _, _ | .deref _, _ | .storeObj _ _, _
  | .objAddToPool _, _ | .objDelete _, _ | .alloc, _ => True

/-- The memory after a command. -/
def after (m : Mem) : (c : MemCmd) → c.Resp → Mem
  | .loadSess _, _ | .numSessions _, _ | .loadPins _, _ | .loadObj _, _ | .numObjs, _
  | .alloc, _ => m
  | .storeSess s f, _ => m.setSess s f
  | .tryTake s test, r => if test r then m.setSess s ({ · with inUse := true }) else m
  | .release s, _ => m.setSess s ({ · with inUse := false })
  | .ref s, _ => m.setSess s fun x => { x with refcnt := x.refcnt + 1 }
  | .deref s, _ => m.setSess s fun x => { x with refcnt := x.refcnt - 1 }
  | .sessionNew slot, r => if r.1 = Ckr.ok then m.addSess slot.id else m
  | .setBadPin slot pin, r =>
    let badPin := if r = Ckr.ok then some pin else none
    { m with pins := Function.update m.pins slot { m.pins slot with badPin } }
  | .setCachedPin slot pin, r =>
    let cachedPin := if r = Ckr.ok then some pin else none
    { m with pins := Function.update m.pins slot { m.pins slot with cachedPin } }
  | .storeObj o f, _ => m.setObj o fun obj => some (f obj)
  | .objAlloc obj, r => if r.isSome then { m with objs := m.objs ++ [some obj] } else m
  | .objAddToPool o, r =>
    if r = Ckr.ok then m.setObj o fun obj => some { obj with pooled := true } else m
  | .objFetchAdd o, _ => m.setObj o fun obj => some { obj with refcnt := obj.refcnt + 1 }
  | .objUnref o, _ => m.setObj o fun obj =>
    if obj.refcnt = 1 then none else some { obj with refcnt := obj.refcnt - 1 }
  | .objDelete o, _ => m.setObj o fun _ => none

end Mem

/-- What an answer of the token establishes. -/
def Token.after (t : Token) : (c : Call) → c.Resp → Token
  | .openSession slot flags, r => if r.1 = Ckr.ok then t.openHandle r.2 ⟨slot, flags⟩ else t
  | .closeSession h, _ => t.closeHandle h
  | .login h as _, r => if r = Ckr.ok ∧ as = .user then t.loginHandle h else t
  | .crypto h c, r => { t with
    op := Function.update t.op h (c.opAfter (t.op h) r.1)
    log := t.log ++ [⟨h, c, r.1⟩] }
  | _, _ => t

/-- Which answers the outside gives to a call. -/
abbrev Oracle := State → (c : Call) → c.Resp → Prop

/-- `fork_child`: the pools are reset, and the module is initialised again, so that
    nothing of the parent process is left on the token side. -/
def State.fork (st : State) : State := ⟨st.mem.sessForkReset.objForkReset, {}⟩

/-- The environment of the provider under an oracle. -/
def env (O : Oracle) : Env State Cmd.Resp where
  adm st
    | .mem c, r => st.mem.Answers c r
    | .call c, r => O st c r
  next st
    | .mem c, r => { st with mem := st.mem.after c r }
    | .call c, r => { st with tok := st.tok.after c r }

/-! ## Rules for the commands -/

section Rules

variable {O : Oracle} {st : State} {α : Type} {Q : α → State → Prop}

theorem wp_mem {c : MemCmd} {k : c.Resp → P α} :
    wp (env O) (.call (Cmd.mem c) k) Q st ↔
      ∀ r, st.mem.Answers c r → wp (env O) (k r) Q ⟨st.mem.after c r, st.tok⟩ := Iff.rfl

@[simp] theorem wp_loadSess {s : SessId} {k : Session → P α} :
    wp (env O) (.call (Cmd.mem (.loadSess s)) k) Q st ↔ wp (env O) (k (st.mem.sess s)) Q st :=
  wp_mem.trans forall_eq

@[simp] theorem wp_storeSess {s : SessId} {f : Session → Session} {k : Unit → P α} :
    wp (env O) (.call (Cmd.mem (.storeSess s f)) k) Q st ↔
      wp (env O) (k ()) Q ⟨st.mem.setSess s f, st.tok⟩ :=
  ⟨fun h => h () trivial, fun h _ _ => h⟩

@[simp] theorem wp_tryTake {s : SessId} {test : Session → Bool} {k : Session → P α} :
    wp (env O) (.call (Cmd.mem (.tryTake s test)) k) Q st ↔
      wp (env O) (k (st.mem.sess s)) Q
        ⟨if test (st.mem.sess s) then st.mem.setSess s ({ · with inUse := true }) else st.mem,
          st.tok⟩ :=
  wp_mem.trans forall_eq

@[simp] theorem wp_release {s : SessId} {k : Unit → P α} :
    wp (env O) (.call (Cmd.mem (.release s)) k) Q st ↔
      wp (env O) (k ()) Q ⟨st.mem.setSess s ({ · with inUse := false }), st.tok⟩ :=
  ⟨fun h => h () trivial, fun h _ _ => h⟩

@[simp] theorem wp_ref {s : SessId} {k : Unit → P α} :
    wp (env O) (.call (Cmd.mem (.ref s)) k) Q st ↔
      wp (env O) (k ()) Q ⟨st.mem.setSess s fun x => { x with refcnt := x.refcnt + 1 }, st.tok⟩ :=
  ⟨fun h => h () trivial, fun h _ _ => h⟩

@[simp] theorem wp_deref {s : SessId} {k : Unit → P α} :
    wp (env O) (.call (Cmd.mem (.deref s)) k) Q st ↔
      wp (env O) (k ()) Q ⟨st.mem.setSess s fun x => { x with refcnt := x.refcnt - 1 }, st.tok⟩ :=
  ⟨fun h => h () trivial, fun h _ _ => h⟩

@[simp] theorem wp_numSessions {slot : SlotId} {k : Nat → P α} :
    wp (env O) (.call (Cmd.mem (.numSessions slot)) k) Q st ↔
      wp (env O) (k (st.mem.num slot)) Q st :=
  wp_mem.trans forall_eq

@[simp] theorem wp_loadPins {slot : SlotId} {k : Pins → P α} :
    wp (env O) (.call (Cmd.mem (.loadPins slot)) k) Q st ↔
      wp (env O) (k (st.mem.pins slot)) Q st :=
  wp_mem.trans forall_eq

@[simp] theorem wp_loadObj {o : ObjId} {k : Obj → P α} :
    wp (env O) (.call (Cmd.mem (.loadObj o)) k) Q st ↔
      wp (env O) (k ((st.mem.obj o).getD .freed)) Q st :=
  wp_mem.trans forall_eq

@[simp] theorem wp_storeObj {o : ObjId} {f : Obj → Obj} {k : Unit → P α} :
    wp (env O) (.call (Cmd.mem (.storeObj o f)) k) Q st ↔
      wp (env O) (k ()) Q ⟨st.mem.setObj o fun obj => some (f obj), st.tok⟩ :=
  ⟨fun h => h () trivial, fun h _ _ => h⟩

@[simp] theorem wp_objAlloc {obj : Obj} {k : Option ObjId → P α} :
    wp (env O) (.call (Cmd.mem (.objAlloc obj)) k) Q st ↔ wp (env O) (k none) Q st ∧
      wp (env O) (k (some st.mem.objs.length)) Q
        ⟨{ st.mem with objs := st.mem.objs ++ [some obj] }, st.tok⟩ := by
  refine wp_mem.trans ⟨fun h => ⟨h none (.inl rfl), h _ (.inr rfl)⟩, ?_⟩
  rintro ⟨h₁, h₂⟩ r (rfl | rfl)
  · exact h₁
  · exact h₂

@[simp] theorem wp_objAddToPool {o : ObjId} {k : CkRv → P α} :
    wp (env O) (.call (Cmd.mem (.objAddToPool o)) k) Q st ↔ ∀ r, wp (env O) (k r) Q
      ⟨if r = Ckr.ok then st.mem.setObj o fun obj => some { obj with pooled := true } else st.mem,
        st.tok⟩ :=
  ⟨fun h r => h r trivial, fun h r _ => h r⟩

@[simp] theorem wp_objFetchAdd {o : ObjId} {k : Int → P α} :
    wp (env O) (.call (Cmd.mem (.objFetchAdd o)) k) Q st ↔
      wp (env O) (k ((st.mem.obj o).elim 0 (·.refcnt))) Q
        ⟨st.mem.setObj o fun obj => some { obj with refcnt := obj.refcnt + 1 }, st.tok⟩ :=
  wp_mem.trans forall_eq

@[simp] theorem wp_objDelete {o : ObjId} {k : Unit → P α} :
    wp (env O) (.call (Cmd.mem (.objDelete o)) k) Q st ↔
      wp (env O) (k ()) Q ⟨st.mem.setObj o fun _ => none, st.tok⟩ :=
  ⟨fun h => h () trivial, fun h _ _ => h⟩

@[simp] theorem wp_objUnref {o : ObjId} {k : Option Obj → P α} :
    wp (env O) (.call (Cmd.mem (.objUnref o)) k) Q st ↔
      wp (env O) (k ((st.mem.obj o).filter (·.refcnt = 1))) Q ⟨st.mem.setObj o fun obj =>
        if obj.refcnt = 1 then none else some { obj with refcnt := obj.refcnt - 1 }, st.tok⟩ :=
  wp_mem.trans forall_eq

@[simp] theorem wp_numObjs {k : Nat → P α} :
    wp (env O) (.call (Cmd.mem .numObjs) k) Q st ↔ wp (env O) (k st.mem.objs.length) Q st :=
  wp_mem.trans forall_eq

@[simp] theorem wp_alloc {k : Bool → P α} :
    wp (env O) (.call (Cmd.mem .alloc) k) Q st ↔ ∀ r, wp (env O) (k r) Q st :=
  ⟨fun h r => h r trivial, fun h r _ => h r⟩

@[simp] theorem wp_callExt {c : Call} {k : c.Resp → P α} :
    wp (env O) (.call (Cmd.call c) k) Q st ↔
      ∀ r, O st c r → wp (env O) (k r) Q ⟨st.mem, st.tok.after c r⟩ := Iff.rfl

/-- Memory is there for what is not an object or a session. -/
def Cmd.Remembers : (c : Cmd) → c.Resp → Prop
  | .mem .alloc, r => r = true
  | _, _ => True

theorem wp_alloc_remembers {k : Bool → P α} :
    wp ((env O).restrict Cmd.Remembers) (.call (Cmd.mem .alloc) k) Q st ↔
      wp ((env O).restrict Cmd.Remembers) (k true) Q st :=
  ⟨fun h => h true ⟨trivial, rfl⟩, fun h _ hr => hr.2 ▸ h⟩

end Rules

end P11Prov
