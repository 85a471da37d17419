import P11Prov.Object

/-!
# Key encapsulation

The contexts of ML-KEM, those of `kem.c`. With the key of a context, the token
makes a shared secret on a session of the slot of the key. The secret is an
object on this session; its value is read, and then it is destroyed.

The rest of the provider is left to its calls (`KemCall`). What the tokens hold
is the state they work on (`KemState`), and the tokens compute ML-KEM, which is
a parameter (`MlKem`).
-/

namespace P11Prov

open Interaction

/-! ## Calls -/

/-- `EVP_PKEY_OP_ENCAPSULATE` and `EVP_PKEY_OP_DECAPSULATE` -/
inductive KemOperation
  | encapsulate
  | decapsulate
  deriving DecidableEq

/-- `P11PROV_KEM_CTX` -/
structure KemCtx where
  key : Option ObjId := none
  op : Option KemOperation := none
  deriving DecidableEq

/-- The template of a shared secret. -/
structure SecretTemplate where
  cls : Nat := Cko.secretKey
  keyType : Nat := ckkGenericSecret
  valueLen : Nat
  sensitive : Bool := false
  extractable : Bool := true
  token : Bool := false
  deriving DecidableEq

/-- What `C_EncapsulateKey` leaves: its code, what it wrote, and the handle of the secret. -/
structure Encapsulated where
  rv : CkRv
  ct : Bytes
  secret : ObjectHandle

/-- The functions that are called. The code of `C_DecapsulateKey` comes with the handle of the
    secret, and the one of `C_GetAttributeValue` with the value. -/
inductive KemCall
  | ctxStatus
  | objRef (key : ObjId)
  | objFree (key : ObjId)
  | loadObj (key : ObjId)
  | objGetHandle (key : ObjId)
  | getSession (slot : SlotId) (mechtype : Nat)
  | encapsulateKey (s : SessId) (mechtype : Nat) (key : ObjectHandle) (template : SecretTemplate)
      (ctLen : Nat)
  | decapsulateKey (s : SessId) (mechtype : Nat) (key : ObjectHandle) (template : SecretTemplate)
      (ct : Bytes)
  | getValue (s : SessId) (secret : ObjectHandle) (size : Nat)
  | destroyObject (s : SessId) (secret : ObjectHandle)
  | returnSession (s : SessId)

/-- The type of the answers to a call. -/
@[reducible] def KemCall.Resp : KemCall → Type
  | ctxStatus | destroyObject _ _ => CkRv
  | objRef _ => Option ObjId
  | objFree _ | returnSession _ => Unit
  | loadObj _ => Obj
  | objGetHandle _ => ObjectHandle
  | getSession _ _ => Except CkRv SessId
  | encapsulateKey _ _ _ _ _ => Encapsulated
  | decapsulateKey _ _ _ _ _ => CkRv × ObjectHandle
  | getValue _ _ _ => CkRv × Bytes

/-- The programs of the key encapsulation. -/
abbrev K := Prog KemCall.Resp

/-- Makes a call. -/
abbrev kemCall (c : KemCall) : K c.Resp := .perform c

/-! ## What the calls do -/

/-- The objects with the references to them, the secrets on the tokens, the sessions that are taken,
    how often a random value was drawn, and the secrets that a token refused to destroy. -/
structure KemState where
  obj : ObjId → Option Obj
  refs : ObjId → Nat := fun _ => 0
  secret : SlotId × ObjectHandle → Option Bytes := fun _ => none
  taken : List SessId := []
  drawn : Nat := 0
  undestroyed : List (SlotId × ObjectHandle) := []

/-- ML-KEM on the values of keys: the ciphertext and the secret that are made of a random value,
    and the secret that a ciphertext is decapsulated to. -/
structure MlKem (κ : Type) where
  encaps : κ → Bytes → Bytes × Bytes
  decaps : κ → Bytes → Bytes

/-- The values of the keys on the tokens. -/
structure KemKeys (κ : Type) where
  value : SlotId → ObjectHandle → Option κ
  invalid : ∀ slot, value slot ckInvalidHandle = none

section Env

variable {κ : Type} (kem : MlKem κ) (keys : KemKeys κ) (coins : Nat → Bytes)

/-- The handle of a new secret. It is only set where the call succeeds. -/
def KemState.NewSecret (st : KemState) (s : SessId) (rv : CkRv) (secret : ObjectHandle) : Prop :=
  if rv = Ckr.ok then secret ≠ ckInvalidHandle ∧ st.secret (s.slot, secret) = none
  else secret = ckInvalidHandle

/-- What the calls may answer. -/
def KemAnswers (st : KemState) : (c : KemCall) → c.Resp → Prop
  | .objRef key, r => ∀ o, r = some o → o = key
  | .loadObj key, obj => obj = (st.obj key).getD Obj.freed
  | .objGetHandle key, h => h = ckInvalidHandle ∨ ∃ obj, st.obj key = some obj ∧ h = obj.handle
  | .getSession slot _, r => ∀ s, r = .ok s → s.slot = slot ∧ s ∉ st.taken
  | .encapsulateKey s _ h _ ctLen, r => st.NewSecret s r.rv r.secret ∧
      (r.rv = Ckr.ok → r.ct.length ≤ ctLen ∧
        ∃ key, keys.value s.slot h = some key ∧ r.ct = (kem.encaps key (coins st.drawn)).1)
  | .decapsulateKey s _ h _ _, r => st.NewSecret s r.1 r.2 ∧
      (r.1 = Ckr.ok → ∃ key, keys.value s.slot h = some key)
  | .getValue s h size, r => r.1 = Ckr.ok →
      st.secret (s.slot, h) = some r.2 ∧ r.2.length ≤ size
  | _, _ => True

/-- The state after a call. -/
def kemAfter (st : KemState) : (c : KemCall) → c.Resp → KemState
  | .objRef _, some o => { st with refs := Function.update st.refs o (st.refs o + 1) }
  | .objFree key, _ => { st with refs := Function.update st.refs key (st.refs key - 1) }
  | .getSession _ _, .ok s => { st with taken := s :: st.taken }
  | .encapsulateKey s _ h _ _, r =>
    if r.rv = Ckr.ok then
      { st with
        secret := Function.update st.secret (s.slot, r.secret)
          ((keys.value s.slot h).map fun key => (kem.encaps key (coins st.drawn)).2)
        drawn := st.drawn + 1 }
    else st
  | .decapsulateKey s _ h _ ct, r =>
    if r.1 = Ckr.ok then
      { st with
        secret := Function.update st.secret (s.slot, r.2)
          ((keys.value s.slot h).map fun key => kem.decaps key ct) }
    else st
  | .destroyObject s h, rv =>
    if rv = Ckr.ok then { st with secret := Function.update st.secret (s.slot, h) none }
    else { st with undestroyed := (s.slot, h) :: st.undestroyed }
  | .returnSession s, _ => { st with taken := st.taken.erase s }
  | _, _ => st

/-- Tokens that compute ML-KEM. -/
def kemEnv : Env KemState KemCall.Resp where
  adm := KemAnswers kem keys coins
  next := kemAfter kem keys coins

end Env

/-! ## Contexts -/

/-- `p11prov_mlkem_set_ctx_params`: the code, by whether `ikme` is among the parameters. -/
def mlkemSetCtxParams (ikme : Bool) : Nat := if ikme then retOsslErr else retOsslOk

/-- `p11prov_mlkem_freectx` -/
def mlkemFreectx (c : KemCtx) : K Unit :=
  match c.key with
  | none => return ()
  | some key => kemCall (.objFree key)

/-- `p11prov_mlkem_init`, on a context that is not `NULL`. -/
def mlkemInit (c : KemCtx) (op : KemOperation) (key : ObjId) (ikme : Bool) : K (Nat × KemCtx) := do
  if (← kemCall .ctxStatus) ≠ Ckr.ok then
    return (retOsslErr, c)
  -- the reference to the old key is gone, also where the new key is refused
  mlkemFreectx c
  match ← kemCall (.objRef key) with
  | none => return (retOsslErr, { c with key := none })
  | some key =>
    let obj ← kemCall (.loadObj key)
    if keyMember (some obj) Key.type ≠ ckkMlKem then
      return (retOsslErr, { c with key := some key })
    return (mlkemSetCtxParams ikme, { key := some key, op := some op })

/-- `p11prov_mlkem_encapsulate_init` and `p11prov_mlkem_decapsulate_init`, by the class of the keys
    that they take. -/
def mlkemOperationInit (op : KemOperation) (cls : Nat) (c : KemCtx) (key : Option ObjId)
    (ikme : Bool) : K (Nat × KemCtx) :=
  match key with
  | none => return (retOsslErr, c)
  | some key => do
    let obj ← kemCall (.loadObj key)
    if obj.cls ≠ cls then
      return (retOsslErr, c)
    mlkemInit c op key ikme

/-- `p11prov_mlkem_encapsulate_init` -/
def mlkemEncapsulateInit := mlkemOperationInit .encapsulate Cko.publicKey

/-- `p11prov_mlkem_decapsulate_init` -/
def mlkemDecapsulateInit := mlkemOperationInit .decapsulate Cko.privateKey

/-! ## Encapsulation and decapsulation -/

/-- `p11prov_mlkem_get_lengths`, of a ciphertext. -/
def mlkemCtLen (key : Obj) : Option Nat :=
  match keyMember (some key) Key.size with
  | 800 => some 768
  | 1184 => some 1088
  | 1568 => some 1568
  | _ => none

/-- `p11prov_mlkem_get_lengths`, of a shared secret. -/
abbrev mlkemSsLen : Nat := 32

/-- What a function leaves to its caller: the code, what it wrote to the buffers, and the lengths. -/
structure KemOut where
  ret : Nat
  ct : Bytes := []
  ctLen : Nat
  ss : Bytes := []
  ssLen : Nat

/-- The end of both functions: the value of the secret is read, the secret is destroyed, and the
    session is given back. -/
def takeSecret (s : SessId) (rv : CkRv) (secret : ObjectHandle) (ssLen : Nat) :
    K (CkRv × Bytes) := do
  let r ← if rv = Ckr.ok then kemCall (.getValue s secret ssLen) else pure (rv, [])
  if secret ≠ ckInvalidHandle then
    let _ ← kemCall (.destroyObject s secret)
  kemCall (.returnSession s)
  return r

/-- The part of `p11prov_mlkem_encapsulate` that works on a session. -/
def mlkemEncapsulateOn (s : SessId) (key : ObjId) (ctLen ssLen : Nat) : K KemOut := do
  let handle ← kemCall (.objGetHandle key)
  let e ← kemCall (.encapsulateKey s Ckm.mlKem handle { valueLen := mlkemSsLen } ctLen)
  let r ← takeSecret s e.rv e.secret ssLen
  -- the ciphertext is there even if the secret cannot be read
  let out : KemOut :=
    if e.rv = Ckr.ok then { ret := retOsslErr, ct := e.ct, ctLen := e.ct.length, ssLen }
    else { ret := retOsslErr, ctLen, ssLen }
  return if r.1 = Ckr.ok then { out with ret := retOsslOk, ss := r.2, ssLen := r.2.length } else out

/-- `p11prov_mlkem_encapsulate`. Of the two buffers, `ct` and `ss` say whether they are there. -/
def mlkemEncapsulate (c : KemCtx) (ct : Bool) (ctLen : Nat) (ss : Bool) (ssLen : Nat) :
    K KemOut :=
  let fail : KemOut := { ret := retOsslErr, ctLen, ssLen }
  match c.key with
  | none => return fail
  | some key => do
    let obj ← kemCall (.loadObj key)
    match mlkemCtLen obj with
    | none => return fail
    | some mlkemCtLen =>
      -- only the lengths are asked for
      if !ct || !ss then
        return { ret := retOsslOk, ctLen := mlkemCtLen, ssLen := mlkemSsLen }
      if ctLen < mlkemCtLen ∨ ssLen < mlkemSsLen then
        return fail
      if obj.slotid = ckUnavailableInformation then
        return fail
      match ← kemCall (.getSession obj.slotid Ckm.mlKem) with
      | .error _ => return fail
      | .ok s => mlkemEncapsulateOn s key ctLen ssLen

/-- The part of `p11prov_mlkem_decapsulate` that works on a session. -/
def mlkemDecapsulateOn (s : SessId) (key : ObjId) (ssLen : Nat) (ct : Bytes) : K KemOut := do
  let handle ← kemCall (.objGetHandle key)
  let e ← kemCall (.decapsulateKey s Ckm.mlKem handle { valueLen := mlkemSsLen } ct)
  let r ← takeSecret s e.1 e.2 ssLen
  return if r.1 = Ckr.ok then
      { ret := retOsslOk, ctLen := ct.length, ss := r.2, ssLen := r.2.length }
    else { ret := retOsslErr, ctLen := ct.length, ssLen }

/-- `p11prov_mlkem_decapsulate`. The length of the ciphertext is not looked at. -/
def mlkemDecapsulate (c : KemCtx) (ss : Bool) (ssLen : Nat) (ct : Bytes) : K KemOut :=
  let fail : KemOut := { ret := retOsslErr, ctLen := ct.length, ssLen }
  match c.key with
  | none => return fail
  | some key => do
    let obj ← kemCall (.loadObj key)
    match mlkemCtLen obj with
    | none => return fail
    | some _ =>
      if !ss then
        return { ret := retOsslOk, ctLen := ct.length, ssLen := mlkemSsLen }
      if ssLen < mlkemSsLen then
        return fail
      if obj.slotid = ckUnavailableInformation then
        return fail
      match ← kemCall (.getSession obj.slotid Ckm.mlKem) with
      | .error _ => return fail
      | .ok s => mlkemDecapsulateOn s key ssLen ct

end P11Prov
