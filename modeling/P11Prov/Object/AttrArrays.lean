import P11Prov.Object.PrivateImport
import P11Prov.Sequence.Filling

/-!
# The attributes of an object as an array

`obj->attrs` is allocated once, with room for what is thought to come, and nothing that
stores an attribute looks whether there still is room: for a key of the token, the room
comes from `key_attrs_list`, and `fetch_key`, `pre_process_ec_key_data` and
`p11prov_obj_from_handle` store into it; for an imported one, it comes from the template
of the search, an array of `MAX_ATTRS_SIZE` entries on the stack.

Here these functions are computations on the array. What the objects look like that they
make is in `Fetch`, `Import` and `PrivateImport`; these are the same functions, and in the
end the array has the attributes of the object (`objFromHandle_outcome`, `prepFind_outcome`,
`prepPrivateFind_outcome`).
-/

namespace P11Prov

namespace AttrArrays

open Encoding Filling Interaction

/-- A computation on an array of attributes. -/
abbrev AttrFiller : Type → Type := Filler CkRv (Nat × Bytes)

/-- Whether there is memory: for an array, for the value of an attribute, by its type, and for a copy
    of one, by its index. -/
structure Memory where
  array : Bool
  value : Nat → Bool
  copy : Nat → Bool

/-- Memory for everything. -/
def Memory.enough : Memory where
  array := true
  value _ := true
  copy _ := true

/-- `p11prov_obj_get_attr` -/
def getAttr (type : Nat) : AttrFiller (Option Bytes) := do
  let s ← get
  return (s.items.find? (·.1 = type)).map (·.2)

/-- `p11prov_copy_attr` to the entry that is next; a value without bytes needs no memory. -/
def copyAttr (room : Bool) (a : Nat × Bytes) : AttrFiller Unit :=
  storeCopy (a.2.isEmpty || room) Ckr.hostMemory a

/-- The allocation of an array, which fails for one without entries. -/
def allocAttrs (mem : Memory) (n : Nat) : AttrFiller Unit :=
  allocate (mem.array && n ≠ 0) Ckr.hostMemory n

/-! ## Objects of a token -/

section Fetch

/-- `MAX_ATTRS_NUM` -/
abbrev maxAttrsNum : Nat := 6

/-- `EXTRA_EC_PARAMS` -/
abbrev extraEcParams : Nat := 3

/-- `CERT_ATTRS_NUM` -/
abbrev certAttrsNum : Nat := 9

/-- What the token says of an object in the calls for its fields, for its attributes, and for
    `CKA_ALLOWED_MECHANISMS`. -/
structure Answers where
  object : TokenAttrs
  data : TokenAttrs
  mechanisms : TokenAttrs

variable (lib : EcLib) (mem : Memory)

/-- The extra allocations of an entry of `key_attrs_list`: for `CKA_ALLOWED_MECHANISMS`, and for the
    synthetic attributes of EC keys. -/
def extraAlloc (type : Nat) : Nat :=
  if type = ckkEc ∨ type = ckkEcEdwards then 1 + extraEcParams else 1

/-- `prep_key_attrs`, given the room for the requests: these, and the number of entries that are to be
    allocated. -/
def prepKeyAttrs (cls type size : Nat) : Except CkRv (List AttrRequest × Nat) :=
  match P11Prov.prepKeyAttrs cls type with
  | none => .error Ckr.generalError
  | some asked =>
    if size < asked.length then .error Ckr.generalError
    else .ok (asked, asked.length + extraAlloc type)

/-- Requests, with the memory there is. -/
def withMemory (asked : List AttrRequest) : List AttrRequest :=
  asked.map fun r => { r with alloc := mem.value r.type }

/-- `p11prov_fetch_attributes`, and `p11prov_move_alloc_attrs` if that succeeds. -/
def fetchAttrs (tok : TokenAttrs) (asked : List AttrRequest) : AttrFiller Unit :=
  let out := fetchAttributes tok ((withMemory mem asked).map (·.set)) []
  if out.ret ≠ Ckr.ok then throw out.ret else storeAll out.moveAllocAttrs

/-- `decode_ec_point`. The value is copied if it is not in DER. -/
def decodeEcPoint (type : Nat) (ecPoint : Bytes) : Except CkRv Bytes :=
  match lib.octetString ecPoint with
  | some point => .ok point
  | none =>
    if type = ckkEc then .error Ckr.keyIndigestible
    else if mem.value ckaP11provPubKey then .ok ecPoint
    else .error Ckr.hostMemory

/-- The name of a curve. -/
def storeCurveName (curve : Curve) : AttrFiller Unit :=
  match curve.name with
  | none => pure ()
  | some name => do
    ensure (mem.value ckaP11provCurveName) Ckr.hostMemory
    store (ckaP11provCurveName, name ++ [0])

/-- The public key of an EC key with `CKA_EC_POINT`. -/
def storePubKey (type : Nat) : Option Bytes → AttrFiller Unit
  -- not available on private keys, so not fatal if absent
  | none => pure ()
  | some ecPoint => do
    let point ← ofExcept (decodeEcPoint lib mem type ecPoint)
    store (ckaP11provPubKey, point)

/-- `pre_process_ec_key_data` -/
def preProcessEcKeyData (type : Nat) : AttrFiller Unit := do
  let attr ← getAttr ckaEcParams
  let ecparams ← expect attr Ckr.keyIndigestible
  let curve ← expect (ecCurve lib type ecparams) Ckr.keyIndigestible
  ensure (mem.value ckaP11provCurveNid) Ckr.hostMemory
  store (ckaP11provCurveNid, intBytes curve.nid)
  storeCurveName mem curve
  let attr ← getAttr ckaEcPoint
  storePubKey lib mem type attr

/-- The cases of `fetch_key`, once the attributes are there. -/
def fetchKeyData (type paramSet : Nat) : AttrFiller Unit :=
  if type = ckkRsa then do
    let a ← getAttr ckaModulus
    ensure a.isSome Ckr.generalError
  else if type = ckkEc ∨ type = ckkEcEdwards then preProcessEcKeyData lib mem type
  else if type = ckkMlDsa then ensure (mldsaPkSize paramSet).isSome Ckr.keyIndigestible
  else if type = ckkMlKem then ensure (mlkemPkSize paramSet).isSome Ckr.keyIndigestible
  else do
    let a ← getAttr ckaValueLen
    ensure (a.all (·.length = 8)) Ckr.generalError

/-- `fetch_key` -/
def fetchKey (tok : TokenAttrs) (cls type paramSet : Nat) : AttrFiller Unit := do
  let prep ← ofExcept (prepKeyAttrs cls type maxAttrsNum)
  allocAttrs mem prep.2
  fetchAttrs mem tok prep.1
  fetchKeyData lib mem type paramSet

/-- `fetch_certificate` -/
def fetchCertificate (tok : TokenAttrs) : AttrFiller Unit := do
  allocAttrs mem certAttrsNum
  fetchAttrs mem tok certificateAttrs

/-- `CKA_ALLOWED_MECHANISMS`, if the token is known to support it. An error is no error of the
    object. -/
def fetchAllowedMechanisms (tok : TokenAttrs) (supported : Bool) : AttrFiller Unit :=
  if supported then
    let out := fetchAttributes tok
      ((withMemory mem [fetchAlloc ckaAllowedMechanisms false]).map (·.set)) []
    if out.ret = Ckr.ok then
      store (ckaAllowedMechanisms, ((out.attrs.head?.bind (·.value)).getD []))
    else pure ()
  else pure ()

/-- The cases of `p11prov_obj_from_handle`, by the class of the object. -/
def fetchByClass (ans : Answers) (supported : Bool) (cls type paramSet : Nat) : AttrFiller Unit :=
  if cls = Cko.certificate then fetchCertificate mem ans.data
  else if cls = Cko.publicKey ∨ cls = Cko.privateKey ∨ cls = Cko.secretKey then do
    fetchKey lib mem ans.data cls type paramSet
    fetchAllowedMechanisms mem ans.mechanisms supported
  else throw Ckr.cancel

/-- `p11prov_obj_from_handle`, on the array of a new object. -/
def objFromHandle (ans : Answers) (supported : Bool) : AttrFiller Unit :=
  let out := fetchAttributes ans.object (objectAttrs.map (·.set)) []
  if out.ret ≠ Ckr.ok then throw out.ret
  else
    let number (type : Nat) := ulongValue ((out.var type).getD [])
    fetchByClass lib mem ans supported (number ckaClass) (number ckaKeyType) (number ckaParameterSet)

/-- `mock_pub_ec_key`, on the array of a new object. -/
def mockPubEcKey (type : Nat) (ecParams : Nat × Bytes) : AttrFiller Unit := do
  allocAttrs mem extraEcParams
  copyAttr (mem.copy 0) ecParams
  preProcessEcKeyData lib mem type

end Fetch

/-! ## The template of an imported key -/

/-- `MAX_ATTRS_SIZE` -/
abbrev maxAttrsSize : Nat := 4

/-- The parameters of a key, public or private. -/
structure ImportParams extends PrivateParams where
  pub : Option Bytes := none

/-- Those of a public key. -/
def ImportParams.toKeyParams (params : ImportParams) : KeyParams where
  n := params.n.map (·.data)
  e := params.e.map (·.data)
  pub := params.pub
  group := params.group

@[simp] theorem ImportParams.toKeyParams_pub (params : ImportParams) :
    params.toKeyParams.pub = params.pub := rfl

@[simp] theorem ImportParams.toKeyParams_group (params : ImportParams) :
    params.toKeyParams.group = params.group := rfl

/-- What goes on around an import: whether there is a provider context, what memory there is, what
    OpenSSL computes, what the search for the key comes to, whether the key is in a pool, and what
    `obj_add_to_pool` and `store_key` return. -/
structure ImportCall where
  ctx : Bool
  mem : Memory
  /-- `OSSL_EC_curve_nid2name` -/
  nid2name : Nat → Option Bytes
  /-- `p11prov_digest_util` with SHA-256 -/
  digest : Bytes → Except CkRv Bytes
  search : Except CkRv (Option (List (Nat × Bytes)))
  pooled : Bool
  added : CkRv
  stored : CkRv

section Template

variable (call : ImportCall) (params : ImportParams)

/-- `param_data_to_attr` -/
def paramDataToAttr (type : Nat) (data : Bytes) (byteswap : Bool) : AttrFiller Unit := do
  let s ← get
  ensure (s.num < maxAttrsSize) Ckr.generalError
  copyAttr (call.mem.value type) (type, if byteswap then data.reverse else data)

/-- `params_to_attr` -/
def paramsToAttr (p : Option Bytes) (type : Nat) (byteswap : Bool) : AttrFiller Unit := do
  let data ← expect p Ckr.keyIndigestible
  paramDataToAttr call type data byteswap

/-- `private_key_to_id` -/
def privateKeyToId (data : List Bytes) : AttrFiller Unit := do
  let id ← ofExcept (call.digest (ascii "PrivKey" :: data).flatten)
  store (ckaId, id)

/-- The length of the attribute that was added last. -/
def lastLength : AttrFiller Nat := do
  let s ← get
  return ((s.items.getLast?.map (·.2)).getD []).length

/-- `prep_rsa_find`; this and those that follow return the size of the key in bytes and in bits. -/
def prepRsaFind (cls : Nat) : AttrFiller (Nat × Nat) :=
  if cls = Cko.publicKey then do
    paramsToAttr call params.toKeyParams.n ckaModulus true
    let keySize ← lastLength
    paramsToAttr call params.toKeyParams.e ckaPublicExponent true
    return (keySize, keySize * 8)
  else if cls = Cko.privateKey then do
    let n ← expect params.n Ckr.keyIndigestible
    let e ← expect params.e Ckr.keyIndigestible
    let d ← expect params.d Ckr.keyIndigestible
    privateKeyToId call [n.data, e.data, d.data]
    return (n.data.length, n.data.length * 8)
  else throw Ckr.generalError

/-- What `prep_ec_find` adds first, by the class of the key. -/
def ecFindKey (cls : Nat) (group : EcGroup) (name : Option Bytes) (ecparams : Bytes) :
    AttrFiller Unit :=
  if cls = Cko.publicKey then do
    let data ← expect params.pub Ckr.keyIndigestible
    let point ← ofExcept (ecFindPoint group data)
    paramDataToAttr call ckaP11provPubKey point false
  else if cls = Cko.privateKey then do
    let priv ← expect params.priv Ckr.keyIndigestible
    privateKeyToId call (match name with
      | some name => [name, ecparams, priv.data]
      | none => [ecparams, priv.data])
  else throw Ckr.generalError

/-- The name of the curve, if it has one. -/
def findCurveName : Option Bytes → AttrFiller Unit
  | none => pure ()
  | some name => paramDataToAttr call ckaP11provCurveName (name ++ [0]) false

/-- `prep_ec_find` -/
def prepEcFind (cls : Nat) : AttrFiller (Nat × Nat) := do
  let group ← expect params.group Ckr.keyIndigestible
  let name ← ofExcept (curveName call.nid2name group)
  let ecparams ← expect group.ecparams Ckr.keyIndigestible
  ecFindKey call params cls group name ecparams
  paramDataToAttr call ckaEcParams ecparams false
  paramDataToAttr call ckaP11provCurveNid (intBytes group.curveNid) false
  findCurveName call name
  return ((group.orderBits + 7) / 8, group.orderBits)

/-- A curve of `prep_ed_find`. -/
structure EdCurve where
  name : Bytes
  ecparams : Bytes
  byteSize : Nat
  bitSize : Nat

/-- The curve for keys of a length. -/
def edCurve (length : Nat) : Option EdCurve :=
  if length = 32 then some ⟨ascii "ED25519", ed25519EcParams, 32, 256⟩
  else if length = 57 then some ⟨ascii "ED448", ed448EcParams, 57, 456⟩
  else none

/-- What `prep_ed_find` adds first, by the class of the key. -/
def edFindKey (cls : Nat) : AttrFiller EdCurve :=
  if cls = Cko.publicKey then do
    let data ← expect params.pub Ckr.keyIndigestible
    let curve ← expect (edCurve data.length) Ckr.keyIndigestible
    paramsToAttr call params.pub ckaP11provPubKey false
    return curve
  else if cls = Cko.privateKey then do
    let priv ← expect params.priv Ckr.keyIndigestible
    let curve ← expect (edCurve priv.data.length) Ckr.keyIndigestible
    privateKeyToId call [curve.name, curve.ecparams, priv.data]
    return curve
  else throw Ckr.generalError

/-- `prep_ed_find` -/
def prepEdFind (cls : Nat) : AttrFiller (Nat × Nat) := do
  let curve ← edFindKey call params cls
  paramDataToAttr call ckaEcParams curve.ecparams false
  return (curve.byteSize, curve.bitSize)

/-- What `prep_mldsa_find` and `prep_mlkem_find` add first, by the class of the key. -/
def mlFindKey (cls paramSet : Nat) (name : Bytes) (keySize : Nat) : AttrFiller Unit :=
  if cls = Cko.publicKey then do
    paramsToAttr call params.pub ckaValue false
    let length ← lastLength
    ensure (keySize = length) Ckr.keyIndigestible
  else if cls = Cko.privateKey then do
    let priv ← expect params.priv Ckr.keyIndigestible
    privateKeyToId call [name, ulongBytes paramSet, priv.data]
  else throw Ckr.generalError

/-- `prep_mldsa_find` and `prep_mlkem_find`, with the sizes of the keys and the name of the
    algorithm. -/
def prepMlFind (size : Nat → Option Nat) (name : Bytes) (cls paramSet : Nat) :
    AttrFiller (Nat × Nat) := do
  let keySize ← expect (size paramSet) Ckr.keyIndigestible
  mlFindKey call params cls paramSet name keySize
  -- the type is written before the allocation
  storeCopy (call.mem.value ckaParameterSet) Ckr.hostMemory (ckaParameterSet, ulongBytes paramSet)
  return (keySize, keySize * 8)

/-- `prep_mldsa_find` -/
def prepMldsaFind : Nat → Nat → AttrFiller (Nat × Nat) :=
  prepMlFind call params mldsaPkSize (ascii "ML-DSA")

/-- `prep_mlkem_find` -/
def prepMlkemFind : Nat → Nat → AttrFiller (Nat × Nat) :=
  prepMlFind call params mlkemPkSize (ascii "ML-KEM")

/-- The template for a key. -/
def prepFind (cls type paramSet : Nat) : AttrFiller (Nat × Nat) :=
  if type = ckkRsa then prepRsaFind call params cls
  else if type = ckkEc then prepEcFind call params cls
  else if type = ckkEcEdwards then prepEdFind call params cls
  else if type = ckkMlDsa then prepMldsaFind call params cls paramSet
  else if type = ckkMlKem then prepMlkemFind call params cls paramSet
  else throw Ckr.keyIndigestible

end Template

/-! ## Imported keys -/

section Import

variable (call : ImportCall) (params : ImportParams)

/-- The loop that copies attributes. -/
def copyAttrs (mem : Memory) : List (Nat × Bytes) → AttrFiller Unit
  | [] => pure ()
  | a :: attrs => do
    let s ← get
    copyAttr (mem.copy s.num) a
    copyAttrs mem attrs

/-- `return_dup_key`, given the attributes of the source. -/
def returnDupKey (src : List (Nat × Bytes)) : AttrFiller Unit := do
  ensure (!call.pooled) Ckr.generalError
  ensure (call.added = Ckr.ok) call.added
  allocAttrs call.mem src.length
  copyAttrs call.mem src

/-- `fix_ec_key_import` -/
def fixEcKeyImport (allocattrs : Nat) : AttrFiller Unit := do
  let s ← get
  ensure (s.num < allocattrs) Ckr.generalError
  let attr ← getAttr ckaP11provPubKey
  let pub ← expect attr Ckr.keyIndigestible
  ensure (call.mem.value ckaEcPoint) Ckr.keyIndigestible
  store (ckaEcPoint, Der.octetString pub)

/-- What is done with a public key that is not found, given the template: the attributes are moved
    to the array of the object. -/
def importMock (type : Nat) (find : Cells (Nat × Bytes)) : AttrFiller Unit :=
  if type = ckkEc ∨ type = ckkEcEdwards then do
    -- for `CKA_EC_POINT`
    allocAttrs call.mem (find.num + 1)
    storeAll find.items
    fixEcKeyImport call (find.num + 1)
  else do
    allocAttrs call.mem find.num
    storeAll find.items

/-- What both imports do first: the template is made in an array of its own, and the search goes
    through the pools. -/
def importFind (cls type paramSet : Nat) (found : List (Nat × Bytes) → AttrFiller Unit)
    (absent : Cells (Nat × Bytes) → AttrFiller Unit) : AttrFiller Unit := do
  ensure call.ctx Ckr.generalError
  let find ← within { alloc := maxAttrsSize } (prepFind call params cls type paramSet)
  let _ ← ofExcept find.1
  let src ← ofExcept (call.search.mapError fun _ => Ckr.generalError)
  match src with
  | some src => found src
  | none => absent find.2

/-- `p11prov_obj_import_public_key` -/
def objImportPublicKey (type paramSet : Nat) : AttrFiller Unit :=
  importFind call params Cko.publicKey type paramSet (returnDupKey call) (importMock call type)

/-- `get_bn` for the value of an attribute, with the memory there is for it. -/
def getBn (type : Nat) (p : Option ParamValue) : Except CkRv Bytes := do
  let bin ← P11Prov.getBn p
  if call.mem.value type then .ok bin else .error Ckr.hostMemory

/-- `p11prov_store_rsa_private_key` -/
def storeRsaPrivateKey (find : Cells (Nat × Bytes)) : AttrFiller Unit := do
  let n ← ofExcept (getBn call ckaModulus params.n)
  let e ← ofExcept (getBn call ckaPublicExponent params.e)
  let _ ← ofExcept (getBn call ckaPrivateExponent params.d)
  ensure (call.stored = Ckr.ok) call.stored
  allocAttrs call.mem 3
  -- the attributes of the template are not there for this one, but for the first
  copyAttr (call.mem.copy 0) (ckaId, (find.items.head?.map (·.2)).getD [])
  store (ckaModulus, n)
  store (ckaPublicExponent, e)

/-- What the other keys have once the token has stored them: the attributes of the template. -/
def storeFindAttrs (find : Cells (Nat × Bytes)) : AttrFiller Unit := do
  ensure (call.stored = Ckr.ok) call.stored
  allocAttrs call.mem find.num
  copyAttrs call.mem find.items

/-- `p11prov_store_ec_private_key` -/
def storeEcPrivateKey (find : Cells (Nat × Bytes)) : AttrFiller Unit := do
  let _ ← ofExcept (getBn call ckaValue params.priv)
  storeFindAttrs call find

/-- `p11prov_store_mldsa_private_key` and `p11prov_store_mlkem_private_key`, which differ in what
    they tell the token. -/
def storeMlPrivateKey (find : Cells (Nat × Bytes)) : AttrFiller Unit := do
  let _ ← expect params.priv Ckr.keyIndigestible
  storeFindAttrs call find

/-- What is done with a private key that is not found, given the template. -/
def storePrivateKey (type : Nat) (find : Cells (Nat × Bytes)) : AttrFiller Unit :=
  if type = ckkRsa then storeRsaPrivateKey call params find
  else if type = ckkEc ∨ type = ckkEcEdwards then storeEcPrivateKey call params find
  else if type = ckkMlDsa ∨ type = ckkMlKem then storeMlPrivateKey call params find
  else throw Ckr.generalError

/-- `p11prov_obj_import_private_key` -/
def objImportPrivateKey (type paramSet : Nat) : AttrFiller Unit :=
  importFind call params Cko.privateKey type paramSet (returnDupKey call)
    (storePrivateKey call params type)

end Import

/-! ## The same attributes -/

section Outcome

variable {β : Type} {s : Cells (Nat × Bytes)} {lib : EcLib} {tok : TokenAttrs} {key : Obj}

@[simp] theorem Memory.enough_value (type : Nat) : Memory.enough.value type = true := rfl

theorem outcome_getAttr_bind {type : Nat} {f : Option Bytes → AttrFiller β} :
    outcome (getAttr type >>= f) s = outcome (f ((s.items.find? (·.1 = type)).map (·.2))) s :=
  outcome_bind_ok rfl

theorem outcome_getAttr_bind_of_eq (hs : s.items = key.attrs) {type : Nat}
    {f : Option Bytes → AttrFiller β} :
    outcome (getAttr type >>= f) s = outcome (f (key.getAttr type)) s := by
  rw [outcome_getAttr_bind, hs, Obj.getAttr]

theorem outcome_allocAttrs_bind {n : Nat} {f : Unit → AttrFiller β} (hn : n ≠ 0) :
    outcome (allocAttrs .enough n >>= f) s = outcome (f ()) { alloc := n } := by
  rw [allocAttrs, Memory.enough, Bool.true_and, decide_eq_true hn]
  exact outcome_allocate_bind

theorem withMemory_enough {asked : List AttrRequest} (h : ∀ r ∈ asked, r.alloc = true) :
    withMemory .enough asked = asked := by
  refine (List.map_congr_left fun r hr => ?_).trans asked.map_id
  rw [id, Memory.enough, ← h r hr]

theorem outcome_fetchAttrs_bind {asked : List AttrRequest} {f : Unit → AttrFiller β}
    (h : ∀ r ∈ asked, r.alloc = true) : outcome (fetchAttrs .enough tok asked >>= f) s =
    if (fetchAttributes tok (asked.map (·.set)) []).ret ≠ Ckr.ok then
      .error (fetchAttributes tok (asked.map (·.set)) []).ret
    else outcome (f ()) (s.append (fetchAttributes tok (asked.map (·.set)) []).moveAllocAttrs) := by
  rw [fetchAttrs, withMemory_enough h]
  split
  · exact outcome_bind_error rfl
  · exact outcome_storeAll_bind

theorem outcome_storeCurveName_bind {curve : Curve} {f : Unit → AttrFiller β} :
    outcome (storeCurveName .enough curve >>= f) s = outcome (f ())
      (s.append (curve.name.map fun name => (ckaP11provCurveName, name ++ [0])).toList) := by
  rw [storeCurveName]
  rcases curve.name with - | name
  · rw [Option.map_none, Option.toList_none, Cells.append, List.append_nil]
    exact outcome_bind_ok rfl
  · exact outcome_bind_ok rfl

theorem storePubKey_outcome {type : Nat} {ecPoint : Option Bytes} :
    outcome (storePubKey lib .enough type ecPoint) s =
      match ecPoint with
      | none => .ok ((), s.items)
      | some ecPoint =>
        match ecPointOf lib type ecPoint with
        | none => .error Ckr.keyIndigestible
        | some point => .ok ((), s.items ++ [(ckaP11provPubKey, point)]) := by
  rcases ecPoint with - | ecPoint
  · rfl
  · rw [storePubKey, outcome_ofExcept_bind, decodeEcPoint]
    dsimp only [ecPointOf]
    rcases lib.octetString ecPoint with - | point
    · dsimp only
      by_cases h : type = ckkEc
      · rw [if_pos h, if_pos h]
      · rw [if_neg h, if_neg h]
        rfl
    · rfl

theorem preProcessEcKeyData_outcome (hs : s.items = key.attrs) :
    outcome (preProcessEcKeyData lib .enough key.key.type) s =
      (P11Prov.preProcessEcKeyData lib key).map fun key => ((), key.attrs) := by
  rw [preProcessEcKeyData, P11Prov.preProcessEcKeyData, outcome_getAttr_bind_of_eq hs,
    outcome_expect_bind]
  rcases key.getAttr ckaEcParams with - | ecparams
  · rfl
  dsimp only
  rw [outcome_expect_bind]
  rcases ecCurve lib key.key.type ecparams with - | curve
  · rfl
  dsimp only
  have hitems : (s.append ([(ckaP11provCurveNid, intBytes curve.nid)] ++
      (curve.name.map fun name => (ckaP11provCurveName, name ++ [0])).toList)).items =
        (key.setCurve curve).attrs := by
    rw [Cells.append, hs, Obj.setCurve, Curve.attrs]
    rfl
  have htype : (key.setCurve curve).key.type = key.key.type := rfl
  rw [outcome_ensure_bind, Memory.enough_value, if_pos rfl, outcome_store_bind,
    outcome_storeCurveName_bind, Cells.append_append, outcome_getAttr_bind_of_eq hitems,
    storePubKey_outcome, hitems, htype]
  rcases (key.setCurve curve).getAttr ckaEcPoint with - | ecPoint
  · rfl
  dsimp only
  rcases ecPointOf lib key.key.type ecPoint with - | point
  · rfl
  · rfl

theorem fetchKeyData_outcome (hs : s.items = key.attrs) :
    outcome (fetchKeyData lib .enough key.key.type key.key.paramSet) s =
      (P11Prov.fetchKeyData lib key).map fun key => ((), key.attrs) := by
  rw [fetchKeyData, P11Prov.fetchKeyData]
  split
  · rw [outcome_getAttr_bind_of_eq hs, outcome_ensure, hs]
    rcases key.getAttr ckaModulus with - | a
    · rfl
    · rfl
  split
  · exact preProcessEcKeyData_outcome hs
  split
  · rw [outcome_ensure, hs]
    rcases mldsaPkSize key.key.paramSet with - | size
    · rfl
    · rfl
  split
  · rw [outcome_ensure, hs]
    rcases mlkemPkSize key.key.paramSet with - | size
    · rfl
    · rfl
  · rw [outcome_getAttr_bind_of_eq hs, outcome_ensure, hs]
    rcases key.getAttr ckaValueLen with - | a
    · rfl
    · by_cases h : a.length = 8
      · simp [h, Except.map, Obj.setKeySize]
      · simp [h, Except.map]

/-- The attribute lists of `key_attrs_list`. -/
def keyAttrTables : List (List AttrRequest) :=
  [rsaPublicAttrs, rsaPrivateAttrs, ecPublicAttrs, ecPrivateAttrs, mlDsaPublicAttrs, mlDsaPrivateAttrs,
    secretKeyAttrs]

theorem prepKeyAttrs_mem_tables {cls type : Nat} {asked : List AttrRequest}
    (h : P11Prov.prepKeyAttrs cls type = some asked) : asked ∈ keyAttrTables := by
  rw [P11Prov.prepKeyAttrs] at h
  repeat' split at h
  all_goals
    cases h
    try simp only [keyAttrTables, List.mem_cons, true_or, or_true]

/-- There is room for the requests of every key. -/
theorem prepKeyAttrs_eq (cls type : Nat) : prepKeyAttrs cls type maxAttrsNum =
    match P11Prov.prepKeyAttrs cls type with
    | none => .error Ckr.generalError
    | some asked => .ok (asked, asked.length + extraAlloc type) := by
  have hmax : ∀ asked ∈ keyAttrTables, ¬maxAttrsNum < asked.length := by decide
  rw [prepKeyAttrs]
  rcases hprep : P11Prov.prepKeyAttrs cls type with - | asked
  · rfl
  · exact if_neg (hmax asked (prepKeyAttrs_mem_tables hprep))

theorem extraAlloc_pos (type : Nat) : 0 < extraAlloc type := by
  rw [extraAlloc]
  split
  · decide
  · decide

theorem fetchKey_outcome (lib : EcLib) (tok : TokenAttrs) (key : Obj) (s : Cells (Nat × Bytes)) :
    outcome (fetchKey lib .enough tok key.cls key.key.type key.key.paramSet) s =
      (P11Prov.fetchKey lib tok key).map fun key => ((), key.attrs) := by
  rw [fetchKey, P11Prov.fetchKey, outcome_ofExcept_bind, prepKeyAttrs_eq]
  rcases hprep : P11Prov.prepKeyAttrs key.cls key.key.type with - | asked
  · rfl
  have hne : asked.length + extraAlloc key.key.type ≠ 0 :=
    Nat.ne_of_gt (Nat.add_pos_right _ (extraAlloc_pos _))
  dsimp only
  rw [outcome_allocAttrs_bind hne, outcome_fetchAttrs_bind (prepKeyAttrs_alloc hprep)]
  generalize fetchAttributes tok (asked.map (·.set)) [] = out
  by_cases hok : out.ret = Ckr.ok
  · have hitems : (({ alloc := asked.length + extraAlloc key.key.type } : Cells _).append
        out.moveAllocAttrs).items = ({ key with attrs := out.moveAllocAttrs } : Obj).attrs := rfl
    rw [if_neg (not_not_intro hok), if_neg (not_not_intro hok)]
    exact fetchKeyData_outcome hitems
  · rw [if_pos hok, if_pos hok]
    rfl

theorem fetchCertificate_outcome (s : Cells (Nat × Bytes)) :
    outcome (fetchCertificate .enough tok) s =
      (P11Prov.fetchCertificate tok key).map fun key => ((), key.attrs) := by
  rw [fetchCertificate, P11Prov.fetchCertificate, outcome_allocAttrs_bind (by decide), fetchAttrs,
    withMemory_enough certificateAttrs_alloc]
  generalize fetchAttributes tok (certificateAttrs.map (·.set)) [] = out
  by_cases hok : out.ret = Ckr.ok
  · rw [if_neg (not_not_intro hok), if_neg (not_not_intro hok), outcome_storeAll]
    rfl
  · rw [if_pos hok, if_pos hok]
    rfl

theorem fetchAllowedMechanisms_outcome {supported : Bool} (hs : s.items = key.attrs) :
    outcome (fetchAllowedMechanisms .enough tok supported) s =
      .ok ((), (P11Prov.fetchAllowedMechanisms tok supported key).1.attrs) := by
  rw [fetchAllowedMechanisms, P11Prov.fetchAllowedMechanisms, withMemory_enough (by decide)]
  rcases supported
  · rw [if_neg Bool.false_ne_true, if_neg Bool.false_ne_true, outcome_pure, hs]
  · rw [if_pos rfl, if_pos rfl]
    rw [List.map_singleton]
    generalize fetchAttributes tok [(fetchAlloc ckaAllowedMechanisms false).set] [] = out
    by_cases hok : out.ret = Ckr.ok
    · rw [if_pos hok, if_pos hok, outcome_store, hs]
    · rw [if_neg hok, if_neg hok, outcome_pure, hs]

theorem fetchByClass_outcome (s : Cells (Nat × Bytes)) (key : Obj) (supported : Bool) :
    outcome (fetchByClass lib .enough ⟨tok, tok, tok⟩ supported key.cls key.key.type
      key.key.paramSet) s =
        (P11Prov.fetchByClass lib tok supported key).1.map fun key => ((), key.attrs) := by
  rw [fetchByClass, P11Prov.fetchByClass]
  split
  · exact fetchCertificate_outcome s
  split
  · have hkey := fetchKey_outcome lib tok key s
    rcases hf : P11Prov.fetchKey lib tok key with e | obj
    · rw [hf] at hkey
      exact outcome_bind_of_error hkey
    · rw [hf] at hkey
      exact outcome_bind_of_ok hkey fun _ hs => fetchAllowedMechanisms_outcome hs
  · rfl

theorem objFromHandle_outcome (slotid : SlotId) (handle : ObjectHandle) (supported : Bool) :
    outcome (objFromHandle lib .enough ⟨tok, tok, tok⟩ supported) {} =
      (objFromToken lib slotid handle tok supported).1.map fun key => ((), key.attrs) := by
  rw [objFromHandle, objFromToken]
  generalize fetchAttributes tok (objectAttrs.map (·.set)) [] = out
  by_cases hok : out.ret = Ckr.ok
  · rw [if_neg (not_not_intro hok), if_neg (not_not_intro hok)]
    dsimp only
    refine Eq.trans ?_ (fetchByClass_outcome {} _ supported)
    rfl
  · rw [if_pos hok, if_pos hok]
    rfl

variable {call : ImportCall} {params : ImportParams}

theorem outcome_paramDataToAttr_bind {type : Nat} {data : Bytes} {byteswap : Bool}
    {f : Unit → AttrFiller β} (hmem : call.mem = .enough) (hroom : s.num < maxAttrsSize) :
    outcome (paramDataToAttr call type data byteswap >>= f) s =
      outcome (f ()) (s.append [(type, if byteswap then data.reverse else data)]) := by
  rw [paramDataToAttr, bind_assoc, outcome_get_bind, bind_assoc, outcome_ensure_bind,
    decide_eq_true hroom, if_pos rfl, copyAttr, hmem, Memory.enough_value, Bool.or_true,
    outcome_storeCopy_bind]

theorem outcome_paramsToAttr_bind {p : Option Bytes} {type : Nat} {byteswap : Bool}
    {f : Unit → AttrFiller β} (hmem : call.mem = .enough) (hroom : s.num < maxAttrsSize) :
    outcome (paramsToAttr call p type byteswap >>= f) s =
      match p with
      | none => .error Ckr.keyIndigestible
      | some data => outcome (f ()) (s.append [(type, if byteswap then data.reverse else data)]) := by
  rw [paramsToAttr, bind_assoc, outcome_expect_bind]
  rcases p with - | data
  · rfl
  · exact outcome_paramDataToAttr_bind hmem hroom

theorem outcome_lastLength_bind {f : Nat → AttrFiller β} : outcome (lastLength >>= f) s =
    outcome (f ((s.items.getLast?.map (·.2)).getD []).length) s := outcome_bind_ok rfl

theorem prepRsaFind_outcome (hmem : call.mem = .enough) {type paramSet : Nat} :
    outcome (prepRsaFind call params Cko.publicKey) { alloc := maxAttrsSize } =
      (prepRsaPublicFind params.toKeyParams { type, paramSet }).map
        fun find => ((find.keySize, find.bitSize), find.attrs) := by
  rw [prepRsaFind, if_pos rfl, outcome_paramsToAttr_bind hmem (by decide), prepRsaPublicFind]
  rcases params.toKeyParams.n with - | n
  · rfl
  dsimp only
  rw [outcome_lastLength_bind, outcome_paramsToAttr_bind hmem (by simp [Cells.append, maxAttrsSize])]
  rcases params.toKeyParams.e with - | e
  · rfl
  · rfl

theorem prepEcFind_outcome (hmem : call.mem = .enough) {type paramSet : Nat} :
    outcome (prepEcFind call params Cko.publicKey) { alloc := maxAttrsSize } =
      (P11Prov.prepEcFind call.nid2name params.toKeyParams { type, paramSet }).map
        fun find => ((find.keySize, find.bitSize), find.attrs) := by
  rw [prepEcFind, P11Prov.prepEcFind, outcome_expect_bind]
  simp only [ImportParams.toKeyParams_group, ImportParams.toKeyParams_pub]
  rcases params.group with - | group
  · rfl
  dsimp only
  rw [outcome_ofExcept_bind]
  rcases curveName call.nid2name group with rv | name
  · rfl
  dsimp only
  rw [outcome_expect_bind]
  rcases group.ecparams with - | ecparams
  · rfl
  dsimp only
  rw [ecFindKey, if_pos rfl, bind_assoc, outcome_expect_bind]
  rcases params.pub with - | data
  · rfl
  dsimp only
  rw [bind_assoc, outcome_ofExcept_bind]
  rcases ecFindPoint group data with rv | point
  · rfl
  dsimp only
  rw [outcome_paramDataToAttr_bind hmem (by decide),
    outcome_paramDataToAttr_bind hmem (by simp [Cells.append, maxAttrsSize]),
    outcome_paramDataToAttr_bind hmem (by simp [Cells.append, maxAttrsSize])]
  rcases name with - | name
  · rfl
  · rw [findCurveName, outcome_paramDataToAttr_bind hmem (by simp [Cells.append, maxAttrsSize])]
    rfl

theorem prepEdFind_outcome (hmem : call.mem = .enough) {type paramSet : Nat} :
    outcome (prepEdFind call params Cko.publicKey) { alloc := maxAttrsSize } =
      (P11Prov.prepEdFind params.toKeyParams { type, paramSet }).map
        fun find => ((find.keySize, find.bitSize), find.attrs) := by
  rw [prepEdFind, P11Prov.prepEdFind, edFindKey, if_pos rfl, bind_assoc, outcome_expect_bind,
    ImportParams.toKeyParams_pub]
  rcases params.pub with - | data
  · rfl
  dsimp only
  have hcurve (curve : EdCurve) : outcome ((do
      let _ ← paramsToAttr call (some data) ckaP11provPubKey false
      return curve) >>= fun curve => do
        paramDataToAttr call ckaEcParams curve.ecparams false
        return (curve.byteSize, curve.bitSize)) { alloc := maxAttrsSize } =
          .ok ((curve.byteSize, curve.bitSize),
            [(ckaP11provPubKey, data), (ckaEcParams, curve.ecparams)]) := by
    rw [bind_assoc, outcome_paramsToAttr_bind hmem (by decide)]
    dsimp only
    rw [pure_bind, outcome_paramDataToAttr_bind hmem (by simp [Cells.append, maxAttrsSize])]
    rfl
  rw [bind_assoc, outcome_expect_bind, edCurve]
  by_cases h25519 : data.length = 32
  · rw [if_pos h25519, if_pos h25519]
    exact hcurve ⟨ascii "ED25519", ed25519EcParams, 32, 256⟩
  by_cases h448 : data.length = 57
  · rw [if_neg h25519, if_pos h448, if_neg h25519, if_pos h448]
    exact hcurve ⟨ascii "ED448", ed448EcParams, 57, 456⟩
  · rw [if_neg h25519, if_neg h448, if_neg h25519, if_neg h448]
    rfl

theorem prepMlFind_outcome (hmem : call.mem = .enough) {size : Nat → Option Nat} {name : Bytes}
    {type paramSet : Nat} :
    outcome (prepMlFind call params size name Cko.publicKey paramSet) { alloc := maxAttrsSize } =
      (P11Prov.prepMlFind params.toKeyParams { type, paramSet } size).map
        fun find => ((find.keySize, find.bitSize), find.attrs) := by
  rw [prepMlFind, P11Prov.prepMlFind, outcome_expect_bind]
  dsimp only
  rcases size paramSet with - | keySize
  · rfl
  dsimp only
  rw [mlFindKey, if_pos rfl, bind_assoc, outcome_paramsToAttr_bind hmem (by decide),
    ImportParams.toKeyParams_pub]
  rcases params.pub with - | data
  · rfl
  dsimp only
  have hlast : ((({ alloc := maxAttrsSize } : Cells (Nat × Bytes)).append
      [(ckaValue, data)]).items.getLast?.map (·.2)).getD [] = data := rfl
  rw [bind_assoc, outcome_lastLength_bind, outcome_ensure_bind, hmem, Memory.enough_value,
    outcome_storeCopy_bind, if_neg Bool.false_ne_true, hlast]
  by_cases h : keySize = data.length
  · rw [decide_eq_true h, if_pos rfl]
    simp [keyParamsToAttr, h, Except.map, bind, Except.bind, pure, Except.pure, Cells.append]
    rfl
  · rw [decide_eq_false h, if_neg Bool.false_ne_true]
    simp [keyParamsToAttr, h, Except.map, bind, Except.bind]

theorem prepFind_outcome (hmem : call.mem = .enough) {type paramSet : Nat} :
    outcome (prepFind call params Cko.publicKey type paramSet) { alloc := maxAttrsSize } =
      (P11Prov.prepFind call.nid2name params.toKeyParams { type, paramSet }).map
        fun find => ((find.keySize, find.bitSize), find.attrs) := by
  rw [prepFind, P11Prov.prepFind]
  split
  · exact prepRsaFind_outcome hmem
  split
  · exact prepEcFind_outcome hmem
  split
  · exact prepEdFind_outcome hmem
  split
  · exact prepMlFind_outcome hmem
  split
  · exact prepMlFind_outcome hmem
  · rfl

/-! ### Private keys -/

theorem outcome_privateKeyToId_bind {data : List Bytes} {f : Unit → AttrFiller β} :
    outcome (privateKeyToId call data >>= f) s =
      match call.digest (ascii "PrivKey" :: data).flatten with
      | .error rv => .error rv
      | .ok id => outcome (f ()) (s.append [(ckaId, id)]) := by
  rw [privateKeyToId, bind_assoc, outcome_ofExcept_bind]
  rcases call.digest (ascii "PrivKey" :: data).flatten with rv | id
  · rfl
  · exact outcome_store_bind

/-- What a private key is searched with. -/
theorem prepRsaPrivateFind_outcome {type paramSet : Nat} :
    outcome (prepRsaFind call params Cko.privateKey) { alloc := maxAttrsSize } =
      (prepRsaPrivateFind call.digest params.toPrivateParams
        { type, cls := Cko.privateKey, paramSet }).map
          fun find => ((find.keySize, find.bitSize), find.attrs) := by
  rw [prepRsaFind, if_neg (by decide), if_pos rfl, prepRsaPrivateFind, outcome_expect_bind]
  rcases params.n with - | n
  · rfl
  dsimp only
  rw [outcome_expect_bind]
  rcases params.e with - | e
  · rfl
  dsimp only
  rw [outcome_expect_bind]
  rcases params.d with - | d
  · rfl
  dsimp only
  have hdata : (ascii "PrivKey" :: [n.data, e.data, d.data]).flatten =
      ascii "PrivKey" ++ n.data ++ e.data ++ d.data := by simp
  rw [outcome_privateKeyToId_bind, hdata, keyToId]
  rcases call.digest (ascii "PrivKey" ++ n.data ++ e.data ++ d.data) with rv | id
  · rfl
  · rfl

theorem ecKeyToId_eq {sha256 : Bytes → Except CkRv Bytes} {find : KeyFindCtx} {name : Option Bytes}
    {ecparams priv : Bytes} : ecKeyToId sha256 find name ecparams priv =
      (sha256 (ascii "PrivKey" :: match name with
        | some name => [name, ecparams, priv]
        | none => [ecparams, priv]).flatten).map
          fun id => { find with attrs := find.attrs ++ [(ckaId, id)] } := by
  rcases name with - | name
  · simp only [ecKeyToId, keyToId, List.flatten_cons, List.flatten_nil, List.append_nil,
      List.append_assoc]
    rfl
  · simp only [ecKeyToId, keyToId, List.flatten_cons, List.flatten_nil, List.append_nil,
      List.append_assoc]
    rfl

theorem prepEcPrivateFind_outcome (hmem : call.mem = .enough) {type paramSet : Nat} :
    outcome (prepEcFind call params Cko.privateKey) { alloc := maxAttrsSize } =
      (prepEcPrivateFind call.digest call.nid2name params.toPrivateParams
        { type, cls := Cko.privateKey, paramSet }).map
          fun find => ((find.keySize, find.bitSize), find.attrs) := by
  rw [prepEcFind, prepEcPrivateFind, outcome_expect_bind]
  rcases params.group with - | group
  · rfl
  dsimp only
  rw [outcome_ofExcept_bind]
  rcases curveName call.nid2name group with rv | name
  · rfl
  dsimp only
  rw [outcome_expect_bind]
  rcases group.ecparams with - | ecparams
  · rfl
  dsimp only
  rw [ecFindKey, if_neg (by decide), if_pos rfl, bind_assoc, outcome_expect_bind]
  rcases params.priv with - | priv
  · rfl
  dsimp only
  rw [outcome_privateKeyToId_bind]
  change _ = Except.map _ (ecKeyToId call.digest _ name ecparams priv.data >>= _)
  rw [ecKeyToId_eq]
  rcases call.digest _ with rv | id
  · rfl
  dsimp only
  rw [outcome_paramDataToAttr_bind hmem (by simp [Cells.append, maxAttrsSize]),
    outcome_paramDataToAttr_bind hmem (by simp [Cells.append, maxAttrsSize])]
  rcases name with - | name
  · rfl
  · rw [findCurveName, outcome_paramDataToAttr_bind hmem (by simp [Cells.append, maxAttrsSize])]
    rfl

theorem prepEdPrivateFind_outcome (hmem : call.mem = .enough) {type paramSet : Nat} :
    outcome (prepEdFind call params Cko.privateKey) { alloc := maxAttrsSize } =
      (prepEdPrivateFind call.digest params.toPrivateParams
        { type, cls := Cko.privateKey, paramSet }).map
          fun find => ((find.keySize, find.bitSize), find.attrs) := by
  rw [prepEdFind, prepEdPrivateFind, edFindKey, if_neg (by decide), if_pos rfl, bind_assoc,
    outcome_expect_bind]
  rcases params.priv with - | priv
  · rfl
  dsimp only
  have hcurve (curve : EdCurve) (hsize : curve.byteSize = priv.data.length)
      (hbits : curve.bitSize = priv.data.length * 8) : outcome ((do
      privateKeyToId call [curve.name, curve.ecparams, priv.data]
      return curve) >>= fun curve => do
        paramDataToAttr call ckaEcParams curve.ecparams false
        return (curve.byteSize, curve.bitSize)) { alloc := maxAttrsSize } =
      (do
        let find ← keyToId call.digest { type, cls := Cko.privateKey, paramSet } curve.name
          curve.ecparams priv.data
        return { find with
          attrs := find.attrs ++ [(ckaEcParams, curve.ecparams)]
          bitSize := priv.data.length * 8, keySize := priv.data.length } :
        Except CkRv KeyFindCtx).map fun find => ((find.keySize, find.bitSize), find.attrs) := by
    have hdata : (ascii "PrivKey" :: [curve.name, curve.ecparams, priv.data]).flatten =
        ascii "PrivKey" ++ curve.name ++ curve.ecparams ++ priv.data := by simp
    rw [bind_assoc, outcome_privateKeyToId_bind, hdata, keyToId]
    rcases call.digest (ascii "PrivKey" ++ curve.name ++ curve.ecparams ++ priv.data) with rv | id
    · rfl
    dsimp only
    rw [pure_bind, outcome_paramDataToAttr_bind hmem (by simp [Cells.append, maxAttrsSize]), hsize,
      hbits]
    rfl
  rw [bind_assoc, outcome_expect_bind, edCurve, edwardsCurve]
  by_cases h25519 : priv.data.length = 32
  · rw [if_pos h25519, if_pos h25519]
    exact hcurve ⟨ascii "ED25519", ed25519EcParams, 32, 256⟩ h25519.symm (by rw [h25519])
  by_cases h448 : priv.data.length = 57
  · rw [if_neg h25519, if_pos h448, if_neg h25519, if_pos h448]
    exact hcurve ⟨ascii "ED448", ed448EcParams, 57, 456⟩ h448.symm (by rw [h448])
  · rw [if_neg h25519, if_neg h448, if_neg h25519, if_neg h448]
    rfl

theorem prepMlPrivateFind_outcome (hmem : call.mem = .enough) {size : Nat → Option Nat}
    {name : String} {type paramSet : Nat} :
    outcome (prepMlFind call params size (ascii name) Cko.privateKey paramSet)
        { alloc := maxAttrsSize } =
      (prepMlPrivateFind call.digest params.toPrivateParams
        { type, cls := Cko.privateKey, paramSet } name size).map
          fun find => ((find.keySize, find.bitSize), find.attrs) := by
  rw [prepMlFind, prepMlPrivateFind, outcome_expect_bind]
  dsimp only
  rcases size paramSet with - | keySize
  · rfl
  dsimp only
  rw [mlFindKey, if_neg (by decide), if_pos rfl, bind_assoc, outcome_expect_bind]
  rcases params.priv with - | priv
  · rfl
  dsimp only
  have hdata : (ascii "PrivKey" :: [ascii name, ulongBytes paramSet, priv.data]).flatten =
      ascii "PrivKey" ++ ascii name ++ ulongBytes paramSet ++ priv.data := by simp
  rw [outcome_privateKeyToId_bind, hdata, keyToId]
  rcases call.digest (ascii "PrivKey" ++ ascii name ++ ulongBytes paramSet ++ priv.data) with rv | id
  · rfl
  dsimp only
  rw [hmem, Memory.enough_value, outcome_storeCopy_bind]
  rfl

theorem prepPrivateFind_outcome (hmem : call.mem = .enough) {type paramSet : Nat} :
    outcome (prepFind call params Cko.privateKey type paramSet) { alloc := maxAttrsSize } =
      (prepPrivateFind call.digest call.nid2name params.toPrivateParams
        { type, cls := Cko.privateKey, paramSet }).map
          fun find => ((find.keySize, find.bitSize), find.attrs) := by
  rw [prepFind, prepPrivateFind]
  split
  · exact prepRsaPrivateFind_outcome
  split
  · exact prepEcPrivateFind_outcome hmem
  split
  · exact prepEdPrivateFind_outcome hmem
  split
  · exact prepMlPrivateFind_outcome hmem
  split
  · exact prepMlPrivateFind_outcome hmem
  · rfl

end Outcome

end AttrArrays

end P11Prov
