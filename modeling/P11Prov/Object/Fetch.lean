import P11Prov.Attributes
import P11Prov.Object
import P11Prov.Object.Import

/-!
# Objects of a token

`p11prov_obj_from_handle` makes an object from what the token says of a handle.
The class decides which other attributes are fetched, and the values of these must
be what the provider can digest: a key type it knows, parameters it can read.

Here an object of the token is the answers it gives (`TokenAttrs`); there is
memory for everything. `objFromToken_spec` says for which objects an object is
made, which ones are of a class that is to be ignored, and that all others are
errors.
-/

namespace P11Prov

open Encoding

/-! ## Attributes to fetch -/

/-- The number in a variable of type `CK_ULONG`. -/
def ulongValue (v : Bytes) : Nat := BigEndian.value v.reverse

/-- An attribute to be allocated. -/
def fetchAlloc (type : Nat) (required : Bool) : AttrRequest := { type, required }

/-- An attribute for a variable. -/
def fetchVar (type : Nat) (value : Bytes) (required : Bool) : AttrRequest :=
  { type, dest := some value, required }

/-- What `p11prov_obj_from_handle` asks for first, into the fields of a new object. -/
def objectAttrs : List AttrRequest :=
  [fetchVar ckaClass (ulongBytes ckUnavailableInformation) true,
    fetchVar ckaKeyType (ulongBytes ckUnavailableInformation) false,
    fetchVar ckaCopyable [0] false,
    fetchVar ckaToken [0] false,
    fetchVar ckaParameterSet (ulongBytes 0) false]

/-- `RSA_public_attrs` -/
def rsaPublicAttrs : List AttrRequest :=
  [fetchAlloc ckaModulus true, fetchAlloc ckaPublicExponent true, fetchAlloc ckaId false,
    fetchAlloc ckaLabel false]

/-- `RSA_private_attrs` -/
def rsaPrivateAttrs : List AttrRequest :=
  [fetchAlloc ckaModulus true, fetchAlloc ckaPublicExponent false, fetchAlloc ckaId false,
    fetchAlloc ckaLabel false, fetchAlloc ckaAlwaysAuthenticate false]

/-- `EC_public_attrs` -/
def ecPublicAttrs : List AttrRequest :=
  [fetchAlloc ckaEcParams true, fetchAlloc ckaEcPoint true, fetchAlloc ckaId false,
    fetchAlloc ckaLabel false]

/-- `EC_private_attrs` -/
def ecPrivateAttrs : List AttrRequest :=
  [fetchAlloc ckaEcParams true, fetchAlloc ckaEcPoint false, fetchAlloc ckaId false,
    fetchAlloc ckaLabel false, fetchAlloc ckaAlwaysAuthenticate false]

/-- `ML_DSA_public_attrs` -/
def mlDsaPublicAttrs : List AttrRequest :=
  [fetchAlloc ckaValue true, fetchAlloc ckaId false, fetchAlloc ckaLabel false]

/-- `ML_DSA_private_attrs` -/
def mlDsaPrivateAttrs : List AttrRequest :=
  [fetchAlloc ckaId false, fetchAlloc ckaLabel false, fetchAlloc ckaAlwaysAuthenticate false]

/-- `secret_key_attrs` -/
def secretKeyAttrs : List AttrRequest :=
  [fetchAlloc ckaId false, fetchAlloc ckaLabel false, fetchAlloc ckaAlwaysAuthenticate false,
    fetchAlloc ckaSensitive false, fetchAlloc ckaExtractable false, fetchAlloc ckaValueLen false]

/-- `FILL_KNOWN_SECRETS`: generic secrets, AES, and keys for HMAC. -/
def knownSecrets : List Nat :=
  [ckkGenericSecret, ckkAes, 0x28, 0x2E, 0x2B, 0x2C, 0x2D, 0x43, 0x44, 0x36, 0x37, 0x38, 0x39]

/-- `prep_key_attrs`: the entry of `key_attrs_list`. -/
def prepKeyAttrs (cls type : Nat) : Option (List AttrRequest) :=
  if cls = Cko.publicKey then
    if type = ckkRsa then some rsaPublicAttrs
    else if type = ckkEc ∨ type = ckkEcEdwards then some ecPublicAttrs
    else if type = ckkMlDsa ∨ type = ckkMlKem then some mlDsaPublicAttrs
    else none
  else if cls = Cko.privateKey then
    if type = ckkRsa then some rsaPrivateAttrs
    else if type = ckkEc ∨ type = ckkEcEdwards then some ecPrivateAttrs
    else if type = ckkMlDsa ∨ type = ckkMlKem then some mlDsaPrivateAttrs
    else none
  else if cls = Cko.secretKey then
    if type ∈ knownSecrets then some secretKeyAttrs else none
  else none

/-- What `fetch_certificate` asks for. The variables are members of `data.crt`. -/
def certificateAttrs : List AttrRequest :=
  [fetchVar ckaCertificateType (ulongBytes 0) true, fetchVar ckaTrusted [0] false,
    fetchVar ckaCertificateCategory (ulongBytes 0) false, fetchAlloc ckaSubject true,
    fetchAlloc ckaId false, fetchAlloc ckaIssuer false, fetchAlloc ckaSerialNumber false,
    fetchAlloc ckaValue false, fetchAlloc ckaPublicKeyInfo false]

/-! ## The functions -/

/-- What OpenSSL reads from the parameters and the point of an EC key. -/
structure EcLib where
  /-- `d2i_ECPKParameters` -/
  group : Bytes → Option EcGroup
  /-- `OSSL_EC_curve_nid2name` -/
  nid2name : Nat → Option Bytes
  /-- `d2i_ASN1_OBJECT` and `OBJ_obj2nid` -/
  objectNid : Bytes → Option Nat
  /-- `d2i_ASN1_OCTET_STRING` -/
  octetString : Bytes → Option Bytes

/-- `NID_ED25519` -/
abbrev nidEd25519 : Nat := 1087
/-- `NID_ED448` -/
abbrev nidEd448 : Nat := 1088

/-- What `pre_process_ec_key_data` finds out about a curve: its number, its name, and the number of
    bits of its keys. -/
structure Curve where
  nid : Nat
  name : Option Bytes
  bits : Nat

/-- The curve of `CKA_EC_PARAMS`. -/
def ecCurve (lib : EcLib) (type : Nat) (ecparams : Bytes) : Option Curve :=
  let ed25519 : Curve := { nid := nidEd25519, name := some (ascii "ED25519"), bits := 256 }
  let ed448 : Curve := { nid := nidEd448, name := some (ascii "ED448"), bits := 456 }
  if type = ckkEc then
    match lib.group ecparams with
    | none => none
    | some group =>
      if group.curveNid ≠ 0 then
        (lib.nid2name group.curveNid).map fun name =>
          { nid := group.curveNid, name := some name, bits := group.orderBits }
      else some { nid := 0, name := none, bits := group.orderBits }
  else if type = ckkEcEdwards then
    if ecparams = ed25519EcParams then some ed25519
    else if ecparams = ed448EcParams then some ed448
    else
      match lib.objectNid ecparams with
      | none => none
      | some nid =>
        if nid = nidEd25519 then some ed25519
        else if nid = nidEd448 then some ed448
        else none
  else none

/-- `decode_ec_point` -/
def ecPointOf (lib : EcLib) (type : Nat) (ecPoint : Bytes) : Option Bytes :=
  match lib.octetString ecPoint with
  | some point => some point
  | none => if type = ckkEc then none else some ecPoint

/-- The attributes that tell the curve of a key. -/
def Curve.attrs (curve : Curve) : List (Nat × Bytes) :=
  (ckaP11provCurveNid, intBytes curve.nid) ::
    (curve.name.map fun name => (ckaP11provCurveName, name ++ [0])).toList

/-- A key with what is known of its curve. -/
def Obj.setCurve (key : Obj) (curve : Curve) : Obj :=
  { key with
    key := { key.key with bitSize := curve.bits, size := (curve.bits + 7) / 8 }
    attrs := key.attrs ++ curve.attrs }

/-- `pre_process_ec_key_data` -/
def preProcessEcKeyData (lib : EcLib) (key : Obj) : Except CkRv Obj :=
  match key.getAttr ckaEcParams with
  | none => .error Ckr.keyIndigestible
  | some ecparams =>
    match ecCurve lib key.key.type ecparams with
    | none => .error Ckr.keyIndigestible
    | some curve =>
      let key := key.setCurve curve
      match key.getAttr ckaEcPoint with
      -- not available on private keys, so not fatal if absent
      | none => .ok key
      | some ecPoint =>
        match ecPointOf lib key.key.type ecPoint with
        | none => .error Ckr.keyIndigestible
        | some point => .ok { key with attrs := key.attrs ++ [(ckaP11provPubKey, point)] }

/-- Assigns the sizes of a key from the number of its bytes. -/
def Obj.setKeySize (key : Obj) (size : Nat) : Obj :=
  { key with key := { key.key with size, bitSize := size * 8 } }

/-- The cases of `fetch_key`, once the attributes are there. -/
def fetchKeyData (lib : EcLib) (key : Obj) : Except CkRv Obj :=
  if key.key.type = ckkRsa then
    match key.getAttr ckaModulus with
    | none => .error Ckr.generalError
    | some a => .ok (key.setKeySize a.length)
  else if key.key.type = ckkEc ∨ key.key.type = ckkEcEdwards then preProcessEcKeyData lib key
  else if key.key.type = ckkMlDsa then
    match mldsaPkSize key.key.paramSet with
    | none => .error Ckr.keyIndigestible
    | some size => .ok (key.setKeySize size)
  else if key.key.type = ckkMlKem then
    match mlkemPkSize key.key.paramSet with
    | none => .error Ckr.keyIndigestible
    | some size => .ok (key.setKeySize size)
  else
    match key.getAttr ckaValueLen with
    -- not all tokens support this attribute
    | none => .ok key
    | some a =>
      if a.length ≠ 8 then .error Ckr.generalError else .ok (key.setKeySize (ulongValue a))

/-- `fetch_key` -/
def fetchKey (lib : EcLib) (tok : TokenAttrs) (key : Obj) : Except CkRv Obj :=
  match prepKeyAttrs key.cls key.key.type with
  | none => .error Ckr.generalError
  | some attrs =>
    let out := fetchAttributes tok (attrs.map (·.set)) []
    if out.ret ≠ Ckr.ok then .error out.ret
    else fetchKeyData lib { key with attrs := out.moveAllocAttrs }

/-- `fetch_certificate` -/
def fetchCertificate (tok : TokenAttrs) (crt : Obj) : Except CkRv Obj :=
  let out := fetchAttributes tok (certificateAttrs.map (·.set)) []
  if out.ret ≠ Ckr.ok then .error out.ret else .ok { crt with attrs := out.moveAllocAttrs }

/-- `CKA_ALLOWED_MECHANISMS`, and whether the token is known to support it; it is fetched at the end
    as it often will not be. -/
def fetchAllowedMechanisms (tok : TokenAttrs) (supported : Bool) (obj : Obj) : Obj × Bool :=
  if supported then
    let out := fetchAttributes tok [(fetchAlloc ckaAllowedMechanisms false).set] []
    if out.ret = Ckr.ok then
      ({ obj with attrs := obj.attrs ++
          [(ckaAllowedMechanisms, ((out.attrs.head?.bind (·.value)).getD []))] }, true)
    else (obj, out.ret ≠ Ckr.attributeTypeInvalid)
  else (obj, false)

/-- The cases of `p11prov_obj_from_handle`, by the class of the object. -/
def fetchByClass (lib : EcLib) (tok : TokenAttrs) (supported : Bool) (obj : Obj) :
    Except CkRv Obj × Bool :=
  if obj.cls = Cko.certificate then (fetchCertificate tok obj, supported)
  else if obj.cls = Cko.publicKey ∨ obj.cls = Cko.privateKey ∨ obj.cls = Cko.secretKey then
    match fetchKey lib tok obj with
    | .error ret => (.error ret, supported)
    | .ok obj =>
      let (obj, supported) := fetchAllowedMechanisms tok supported obj
      (.ok obj, supported)
  else (.error Ckr.cancel, supported)

/-- `p11prov_obj_from_handle`, and whether the token of the slot is known to support
    `CKA_ALLOWED_MECHANISMS`. -/
def objFromToken (lib : EcLib) (slotid : SlotId) (handle : ObjectHandle) (tok : TokenAttrs)
    (supported : Bool) : Except CkRv Obj × Bool :=
  let out := fetchAttributes tok (objectAttrs.map (·.set)) []
  if out.ret ≠ Ckr.ok then (.error out.ret, supported)
  else
    let number (type : Nat) := ulongValue ((out.var type).getD [])
    let flag (type : Nat) := (out.var type).getD [] ≠ [0]
    fetchByClass lib tok supported
      { slotid, handle, cls := number ckaClass
        ckaCopyable := flag ckaCopyable, ckaToken := flag ckaToken
        key := { type := number ckaKeyType, paramSet := number ckaParameterSet } }

/-! ## Searching -/

/-- The objects of a token that a session sees, in the order in which they are found. -/
structure TokenObjects where
  handles : List ObjectHandle
  attrs : ObjectHandle → TokenAttrs

/-- An object is found if it has all attributes of the template. -/
def TokenAttrs.matchesAll (tok : TokenAttrs) (template : List (Nat × Bytes)) : Bool :=
  template.all fun a => tok.answer a.1 = .value a.2

/-- The objects that a search finds. -/
def TokenObjects.matching (objs : TokenObjects) (template : List (Nat × Bytes)) :
    List ObjectHandle :=
  objs.handles.filter fun h => (objs.attrs h).matchesAll template

/-! ## What is expected -/

namespace TokenAttrs

variable (tok : TokenAttrs)

/-- The value of an attribute, if the object has it. -/
def valueOf (type : Nat) : Option Bytes :=
  match tok.answer type with
  | .value v => some v
  | _ => none

/-- The number that a variable holds after it was asked for. -/
def number (type init : Nat) : Nat :=
  ulongValue (((fetchVar type (ulongBytes init) true).expected tok).getD [])

/-- The class of the object, as it is read. -/
def cls : Nat := tok.number ckaClass ckUnavailableInformation

/-- The type of the key, as it is read. -/
def keyType : Nat := tok.number ckaKeyType ckUnavailableInformation

/-- The parameter set of the key, as it is read. -/
def paramSet : Nat := tok.number ckaParameterSet 0

/-- The attributes of the object and of its kind are returned. -/
structure AttrsReturned : Prop where
  object : tok.Returns objectAttrs
  certificate : tok.cls = Cko.certificate → tok.Returns certificateAttrs
  key : ∀ attrs, prepKeyAttrs tok.cls tok.keyType = some attrs → tok.Returns attrs

/-- The object says that it is of none of the classes that the provider knows. -/
structure Ignored : Prop where
  object : tok.Returns objectAttrs
  cls : tok.cls ∉ [Cko.certificate, Cko.publicKey, Cko.privateKey, Cko.secretKey]

/-- The class and the type of the object are supported, and its parameters are well formed. -/
inductive Supported (lib : EcLib) : Prop
  | certificate (hcls : tok.cls = Cko.certificate)
  | rsa (hcls : tok.cls ∈ [Cko.publicKey, Cko.privateKey]) (htype : tok.keyType = ckkRsa)
      (hmodulus : (tok.valueOf ckaModulus).isSome = true)
  | ec (hcls : tok.cls ∈ [Cko.publicKey, Cko.privateKey])
      (htype : tok.keyType = ckkEc ∨ tok.keyType = ckkEcEdwards)
      (hcurve : ∃ ecparams ∈ tok.valueOf ckaEcParams,
        (ecCurve lib tok.keyType ecparams).isSome = true)
      (hpoint : ∀ point ∈ tok.valueOf ckaEcPoint, (ecPointOf lib tok.keyType point).isSome = true)
  | mlDsa (hcls : tok.cls ∈ [Cko.publicKey, Cko.privateKey]) (htype : tok.keyType = ckkMlDsa)
      (hset : (mldsaPkSize tok.paramSet).isSome = true)
  | mlKem (hcls : tok.cls ∈ [Cko.publicKey, Cko.privateKey]) (htype : tok.keyType = ckkMlKem)
      (hset : (mlkemPkSize tok.paramSet).isSome = true)
  | secret (hcls : tok.cls = Cko.secretKey) (htype : tok.keyType ∈ knownSecrets)
      (hlen : ∀ v ∈ tok.valueOf ckaValueLen, v.length = 8)

/-- The provider can make an object of it. -/
structure Digestible (lib : EcLib) : Prop where
  attrs : tok.AttrsReturned
  supported : tok.Supported lib

end TokenAttrs

/-! ## The values that were fetched -/

variable {tok : TokenAttrs} {lib : EcLib} {rs : List AttrRequest} {type : Nat} {key : Obj}

theorem AttrRequest.expected_alloc {r : AttrRequest} (hr : r.dest = none) :
    r.expected tok = tok.valueOf r.type := by
  rw [AttrRequest.expected, TokenAttrs.valueOf]
  cases tok.answer r.type with
  | value v =>
    have hfits : r.Fits v := by
      intro b hb
      rw [hr] at hb
      cases hb
    simp only [if_pos hfits]
    simp [AttrRequest.full, hr]
  | _ => exact hr

/-- Of attributes that were asked for to be allocated, those that the object has are retained. -/
theorem getAttr_fetched (h : (fetchAttributes tok (rs.map (·.set)) []).ret = Ckr.ok) {obj : Obj}
    (hattrs : obj.attrs = (fetchAttributes tok (rs.map (·.set)) []).moveAllocAttrs)
    (hmem : ∃ r ∈ rs, r.type = type ∧ r.dest = none) : obj.getAttr type = tok.valueOf type := by
  rw [Obj.getAttr, hattrs, moveAllocAttrs_eq h]
  clear h hattrs
  induction rs with
  | nil => simp at hmem
  | cons r rs ih =>
    by_cases hr : r.type = type ∧ r.dest = none
    · obtain ⟨rfl, hd⟩ := hr
      rw [List.filterMap_cons, AttrRequest.expected_alloc hd]
      cases hv : tok.valueOf r.type with
      | some v => simp [hd]
      | none =>
        simp only [hd, Option.isNone_none, if_true, Option.map_none, Option.map_eq_none_iff,
          List.find?_eq_none, List.mem_filterMap]
        rintro x ⟨r', -, hx⟩
        split at hx
        · rename_i hd'
          rw [Option.isNone_iff_eq_none] at hd'
          rw [AttrRequest.expected_alloc hd', Option.map_eq_some_iff] at hx
          obtain ⟨v, hv', rfl⟩ := hx
          rw [decide_eq_true_eq]
          rintro heq
          rw [show r'.type = r.type from heq, hv] at hv'
          cases hv'
        · cases hx
    · have htail : ∃ r ∈ rs, r.type = type ∧ r.dest = none := by
        obtain ⟨r', hr', h'⟩ := hmem
        rcases List.mem_cons.1 hr' with rfl | hr'
        · exact absurd h' hr
        · exact ⟨r', hr', h'⟩
      rw [List.filterMap_cons, ← ih htail]
      split
      · rfl
      · rename_i x hx
        split at hx
        · rename_i hd
          rw [Option.isNone_iff_eq_none] at hd
          rw [Option.map_eq_some_iff] at hx
          obtain ⟨v, -, rfl⟩ := hx
          rw [List.find?_cons_of_neg (by simpa using fun heq => hr ⟨heq, hd⟩)]
        · cases hx

/-- What the token says of a variable, as `p11prov_obj_from_handle` reads it. -/
theorem objectAttrs_var (h : (fetchAttributes tok (objectAttrs.map (·.set)) []).ret = Ckr.ok)
    {init : Bytes} {b : Bool} (hmem : fetchVar type init b ∈ objectAttrs) :
    (fetchAttributes tok (objectAttrs.map (·.set)) []).var type =
      (fetchVar type init true).expected tok := by
  obtain ⟨before, after, hrs⟩ := List.append_of_mem hmem
  have hnodup : (objectAttrs.map (·.type)).Nodup := by decide
  refine var_eq hrs h rfl fun r' hr' heq => ?_
  rw [hrs, List.map_append, List.map_cons] at hnodup
  exact (List.nodup_append.1 hnodup).2.2 _ (List.mem_map_of_mem hr') _ List.mem_cons_self heq

/-- The object as it is before the attributes of its kind are fetched. -/
def tokenObj (slotid : SlotId) (handle : ObjectHandle) (tok : TokenAttrs) : Obj :=
  let flag (type : Nat) := ((fetchVar type [0] true).expected tok).getD [] ≠ [0]
  { slotid, handle, cls := tok.cls, ckaCopyable := flag ckaCopyable, ckaToken := flag ckaToken
    key := { type := tok.keyType, paramSet := tok.paramSet } }

/-- An object is as it was, except for sizes and attributes. -/
structure Obj.Extends (obj key : Obj) : Prop where
  handle : obj.handle = key.handle
  slotid : obj.slotid = key.slotid
  cls : obj.cls = key.cls
  cached : obj.cached = key.cached
  type : obj.key.type = key.key.type
  paramSet : obj.key.paramSet = key.key.paramSet

/-- An object is made if `good`, and else the error is not one to ignore. -/
def Reads (r : Except CkRv Obj) (key : Obj) (good : Prop) : Prop :=
  (good ∧ ∃ obj, r = .ok obj ∧ obj.Extends key) ∨
    (¬good ∧ ∃ ret, r = .error ret ∧ ret ≠ Ckr.cancel ∧ ret ≠ Ckr.ok)

variable {good : Prop}

theorem Obj.Extends.refl : key.Extends key := ⟨rfl, rfl, rfl, rfl, rfl, rfl⟩

theorem Reads.ok {obj : Obj} (hobj : obj.Extends key) (h : good) : Reads (.ok obj) key good :=
  .inl ⟨h, obj, rfl, hobj⟩

theorem Reads.error {ret : CkRv} (h : ¬good) (hret : ret ∈ Ckr.keyIndigestible :: fetchCodes)
    (hne : ret ≠ Ckr.ok) : Reads (.error ret) key good := by
  refine .inr ⟨h, ret, rfl, ?_, hne⟩
  rintro rfl
  exact absurd hret (by decide)

/-- When what is asked for is not returned. -/
theorem Reads.fetch {rs : List AttrRequest} (h : ¬good)
    (hne : (fetchAttributes tok (rs.map (·.set)) []).ret ≠ Ckr.ok) :
    Reads (.error (fetchAttributes tok (rs.map (·.set)) []).ret) key good :=
  .error h (List.mem_cons_of_mem _ fetchAttributes_mem) hne

theorem Reads.congr {r : Except CkRv Obj} {p : Prop} (h : Reads r key p) (hiff : p ↔ good) :
    Reads r key good := by rwa [← propext hiff]

/-! ## Reading a key -/

theorem Obj.setKeySize_extends (size : Nat) : (key.setKeySize size).Extends key :=
  ⟨rfl, rfl, rfl, rfl, rfl, rfl⟩

/-- The attributes of the curve come after those of the token. -/
theorem getAttr_setCurve {curve : Curve} (h : type ∉ [ckaP11provCurveNid, ckaP11provCurveName]) :
    (key.setCurve curve).getAttr type = key.getAttr type := by
  have hnone : curve.attrs.find? (·.1 = type) = none := by
    rw [List.find?_eq_none]
    intro a ha heq
    refine h ?_
    rw [Curve.attrs, List.mem_cons, Option.mem_toList, Option.map_eq_some_iff] at ha
    obtain rfl | ⟨name, -, rfl⟩ := ha
    · rw [← of_decide_eq_true heq]
      exact List.mem_cons_self
    · rw [← of_decide_eq_true heq]
      exact List.mem_cons_of_mem _ List.mem_cons_self
  rw [Obj.getAttr, Obj.getAttr, Obj.setCurve, List.find?_append, hnone, Option.or_none]

/-- An EC key can be read if its curve can, and its point if it has one. -/
theorem preProcessEcKeyData_reads : Reads (preProcessEcKeyData lib key) key
    ((∃ ecparams ∈ key.getAttr ckaEcParams, (ecCurve lib key.key.type ecparams).isSome = true) ∧
      ∀ point ∈ key.getAttr ckaEcPoint, (ecPointOf lib key.key.type point).isSome = true) := by
  rw [preProcessEcKeyData]
  cases hparams : key.getAttr ckaEcParams with
  | none => exact .error (by simp) (by decide) (by decide)
  | some ecparams =>
    dsimp only
    cases hcurve : ecCurve lib key.key.type ecparams with
    | none => exact .error (by simp [hcurve]) (by decide) (by decide)
    | some curve =>
      have hpoint : (key.setCurve curve).getAttr ckaEcPoint = key.getAttr ckaEcPoint :=
        getAttr_setCurve (by decide)
      simp only [hpoint]
      cases key.getAttr ckaEcPoint with
      | none => exact .ok ⟨rfl, rfl, rfl, rfl, rfl, rfl⟩ (by simp [hcurve])
      | some point =>
        dsimp only
        rw [show (key.setCurve curve).key.type = key.key.type from rfl]
        cases hof : ecPointOf lib key.key.type point with
        | none => exact .error (by simp [hof]) (by decide) (by decide)
        | some p => exact .ok ⟨rfl, rfl, rfl, rfl, rfl, rfl⟩ (by simp [hcurve, hof])

/-- What must be there of a key with these attributes, by its type. -/
def KeyReadable (lib : EcLib) (type paramSet : Nat) (value : Nat → Option Bytes) : Prop :=
  if type = ckkRsa then (value ckaModulus).isSome = true
  else if type = ckkEc ∨ type = ckkEcEdwards then
    (∃ ecparams ∈ value ckaEcParams, (ecCurve lib type ecparams).isSome = true) ∧
      ∀ point ∈ value ckaEcPoint, (ecPointOf lib type point).isSome = true
  else if type = ckkMlDsa then (mldsaPkSize paramSet).isSome = true
  else if type = ckkMlKem then (mlkemPkSize paramSet).isSome = true
  else ∀ v ∈ value ckaValueLen, v.length = 8

theorem fetchKeyData_reads : Reads (fetchKeyData lib key) key
    (KeyReadable lib key.key.type key.key.paramSet key.getAttr) := by
  rw [fetchKeyData, KeyReadable]
  split
  · cases hv : key.getAttr ckaModulus with
    | none => exact .error (by simp) (by decide) (by decide)
    | some a => exact .ok (key.setKeySize_extends _) rfl
  split
  · exact preProcessEcKeyData_reads
  split
  · cases hs : mldsaPkSize key.key.paramSet with
    | none => exact .error (by simp) (by decide) (by decide)
    | some size => exact .ok (key.setKeySize_extends _) rfl
  split
  · cases hs : mlkemPkSize key.key.paramSet with
    | none => exact .error (by simp) (by decide) (by decide)
    | some size => exact .ok (key.setKeySize_extends _) rfl
  cases hv : key.getAttr ckaValueLen with
  | none => exact .ok .refl (by simp)
  | some a =>
    simp only
    split
    · exact .error (by simpa) (by decide) (by decide)
    · rename_i hlen
      exact .ok (key.setKeySize_extends _) (by simpa using hlen)

/-- The attributes that `fetch_key` reads, by the type of the key. -/
def keyDataTypes (type : Nat) : List Nat :=
  if type = ckkRsa then [ckaModulus]
  else if type = ckkEc ∨ type = ckkEcEdwards then [ckaEcParams, ckaEcPoint]
  else if type = ckkMlDsa ∨ type = ckkMlKem then []
  else [ckaValueLen]

theorem KeyReadable.congr {paramSet : Nat} {value value' : Nat → Option Bytes}
    (h : ∀ t ∈ keyDataTypes type, value t = value' t) :
    KeyReadable lib type paramSet value ↔ KeyReadable lib type paramSet value' := by
  rw [keyDataTypes] at h
  rw [KeyReadable, KeyReadable]
  split at h
  · simp_all
  split at h
  · simp_all
  split at h
  · rename_i h₁ h₂ h₃
    simp only [if_neg h₁, if_neg h₂]
    split
    · rfl
    · rw [if_pos (h₃.resolve_left (by assumption)), if_pos (h₃.resolve_left (by assumption))]
  · simp_all

theorem knownSecrets_ne (h : type ∈ knownSecrets) :
    type ≠ ckkRsa ∧ type ≠ ckkEc ∧ type ≠ ckkEcEdwards ∧ type ≠ ckkMlDsa ∧ type ≠ ckkMlKem := by
  have hne : ∀ t ∈ knownSecrets,
      t ≠ ckkRsa ∧ t ≠ ckkEc ∧ t ≠ ckkEcEdwards ∧ t ≠ ckkMlDsa ∧ t ≠ ckkMlKem := by decide
  exact hne type h

/-- Each of them is asked for. -/
theorem exists_asked {types : List Nat} {asked : List AttrRequest}
    (h : ∀ t ∈ types, fetchAlloc t true ∈ asked ∨ fetchAlloc t false ∈ asked) :
    ∀ t ∈ types, ∃ r ∈ asked, r.type = t ∧ r.dest = none := by
  intro t ht
  obtain hmem | hmem := h t ht
  · exact ⟨_, hmem, rfl, rfl⟩
  · exact ⟨_, hmem, rfl, rfl⟩

/-- Public and private keys are asked for the same data of a key type. -/
theorem pairAttrs_mem {rsa ec mlDsa attrs : List AttrRequest}
    (hrsa : ∀ t ∈ [ckaModulus], ∃ r ∈ rsa, r.type = t ∧ r.dest = none)
    (hec : ∀ t ∈ [ckaEcParams, ckaEcPoint], ∃ r ∈ ec, r.type = t ∧ r.dest = none)
    (h : (if type = ckkRsa then some rsa
      else if type = ckkEc ∨ type = ckkEcEdwards then some ec
      else if type = ckkMlDsa ∨ type = ckkMlKem then some mlDsa
      else none) = some attrs) :
    ∀ t ∈ keyDataTypes type, ∃ r ∈ attrs, r.type = t ∧ r.dest = none := by
  rw [keyDataTypes]
  split at h
  · rename_i htype
    cases h
    rwa [if_pos htype]
  split at h
  · rename_i hne htype
    cases h
    rwa [if_neg hne, if_pos htype]
  split at h
  · rename_i hne hne' htype
    rw [if_neg hne, if_neg hne', if_pos htype]
    simp
  · cases h

theorem prepKeyAttrs_mem {cls : Nat} {attrs : List AttrRequest}
    (h : prepKeyAttrs cls type = some attrs) :
    ∀ t ∈ keyDataTypes type, ∃ r ∈ attrs, r.type = t ∧ r.dest = none := by
  rw [prepKeyAttrs] at h
  split at h
  · exact pairAttrs_mem (exists_asked (by decide)) (exists_asked (by decide)) h
  split at h
  · exact pairAttrs_mem (exists_asked (by decide)) (exists_asked (by decide)) h
  split at h
  · split at h
    · rename_i htype
      obtain ⟨hrsa, hec, hed, hdsa, hkem⟩ := knownSecrets_ne htype
      cases h
      rw [keyDataTypes, if_neg hrsa, if_neg (not_or.2 ⟨hec, hed⟩), if_neg (not_or.2 ⟨hdsa, hkem⟩)]
      exact exists_asked (by decide)
    · cases h
  · cases h

theorem Reads.trans {r : Except CkRv Obj} {obj : Obj} (h : Reads r obj good)
    (hobj : obj.Extends key) : Reads r key good := by
  obtain ⟨hgood, obj', rfl, hobj'⟩ | hbad := h
  · exact .ok ⟨hobj'.handle.trans hobj.handle, hobj'.slotid.trans hobj.slotid,
      hobj'.cls.trans hobj.cls, hobj'.cached.trans hobj.cached, hobj'.type.trans hobj.type,
      hobj'.paramSet.trans hobj.paramSet⟩ hgood
  · exact .inr hbad

/-- There is memory for all attributes that are asked for. -/
theorem fetchAttributes_ok (tok : TokenAttrs) (hrs : ∀ r ∈ rs, r.alloc = true) :
    (fetchAttributes tok (rs.map (·.set)) []).ret = Ckr.ok ↔ tok.Returns rs := by
  refine fetchAttributes_ok_iff ?_
  rintro r hr ⟨-, halloc, -⟩
  rw [hrs r hr] at halloc
  cases halloc

theorem objectAttrs_alloc : ∀ r ∈ objectAttrs, r.alloc = true := by decide

theorem certificateAttrs_alloc : ∀ r ∈ certificateAttrs, r.alloc = true := by decide

theorem prepKeyAttrs_alloc {cls : Nat} {attrs : List AttrRequest}
    (h : prepKeyAttrs cls type = some attrs) : ∀ r ∈ attrs, r.alloc = true := by
  rw [prepKeyAttrs] at h
  repeat' split at h
  all_goals
    cases h
    try decide

theorem fetchKey_reads (lib : EcLib) (key : Obj) (hcls : key.cls = tok.cls)
    (htype : key.key.type = tok.keyType) (hset : key.key.paramSet = tok.paramSet) :
    Reads (fetchKey lib tok key) key ((∃ attrs, prepKeyAttrs tok.cls tok.keyType = some attrs ∧
      tok.Returns attrs) ∧ KeyReadable lib tok.keyType tok.paramSet tok.valueOf) := by
  rw [fetchKey, hcls, htype]
  cases hprep : prepKeyAttrs tok.cls tok.keyType with
  | none => exact .error (by simp) (by decide) (by decide)
  | some attrs =>
    have hiff := fetchAttributes_ok tok (prepKeyAttrs_alloc hprep)
    simp only [Option.some.injEq, exists_eq_left']
    by_cases hok : (fetchAttributes tok (attrs.map (·.set)) []).ret = Ckr.ok
    · rw [if_neg (not_not_intro hok)]
      refine .congr (.trans fetchKeyData_reads ⟨rfl, rfl, hcls.symm, rfl, rfl, rfl⟩) ?_
      simp only [htype, hset, ← hiff, hok, true_and]
      exact KeyReadable.congr fun t ht => getAttr_fetched hok rfl (prepKeyAttrs_mem hprep t ht)
    · rw [if_pos hok]
      exact .fetch (fun h => hok (hiff.2 h.1)) hok

theorem prepKeyAttrs_isSome {cls : Nat} : (prepKeyAttrs cls type).isSome = true ↔
    (cls ∈ [Cko.publicKey, Cko.privateKey] ∧
        type ∈ [ckkRsa, ckkEc, ckkEcEdwards, ckkMlDsa, ckkMlKem]) ∨
      (cls = Cko.secretKey ∧ type ∈ knownSecrets) := by
  have hpub : Cko.publicKey ≠ Cko.secretKey := by decide
  have hpriv : Cko.privateKey ≠ Cko.secretKey := by decide
  rw [prepKeyAttrs]
  split
  · rename_i hcls
    grind
  split
  · rename_i hcls
    grind
  · grind

/-- The object is supported as a key. -/
theorem supported_key_iff (hcls : tok.cls ≠ Cko.certificate) :
    tok.Supported lib ↔ (prepKeyAttrs tok.cls tok.keyType).isSome = true ∧
      KeyReadable lib tok.keyType tok.paramSet tok.valueOf := by
  have hdistinct : [ckkRsa, ckkEc, ckkEcEdwards, ckkMlDsa, ckkMlKem].Nodup := by decide
  simp only [List.nodup_cons, List.mem_cons, List.not_mem_nil, or_false, not_or] at hdistinct
  rw [prepKeyAttrs_isSome, KeyReadable]
  constructor
  · rintro (hcrt | ⟨hc, htype, hmodulus⟩ | ⟨hc, htype, hcurve, hpoint⟩ | ⟨hc, htype, hset⟩ |
      ⟨hc, htype, hset⟩ | ⟨hc, htype, hlen⟩)
    · exact absurd hcrt hcls
    · exact ⟨.inl ⟨hc, by simp [htype]⟩, by rwa [if_pos htype]⟩
    · refine ⟨.inl ⟨hc, by rcases htype with h | h <;> simp [h]⟩, ?_⟩
      rw [if_neg (by grind), if_pos htype]
      exact ⟨hcurve, hpoint⟩
    · refine ⟨.inl ⟨hc, by simp [htype]⟩, ?_⟩
      rwa [if_neg (by grind), if_neg (by grind), if_pos htype]
    · refine ⟨.inl ⟨hc, by simp [htype]⟩, ?_⟩
      rwa [if_neg (by grind), if_neg (by grind), if_neg (by grind), if_pos htype]
    · obtain ⟨hrsa, hec, hed, hdsa, hkem⟩ := knownSecrets_ne htype
      refine ⟨.inr ⟨hc, htype⟩, ?_⟩
      rwa [if_neg hrsa, if_neg (not_or.2 ⟨hec, hed⟩), if_neg hdsa, if_neg hkem]
  · rintro ⟨⟨hc, htype⟩ | ⟨hc, htype⟩, hread⟩
    · split at hread
      · exact .rsa hc (by assumption) hread
      split at hread
      · exact .ec hc (by assumption) hread.1 hread.2
      split at hread
      · exact .mlDsa hc (by assumption) hread
      split at hread
      · exact .mlKem hc (by assumption) hread
      · grind
    · obtain ⟨hrsa, hec, hed, hdsa, hkem⟩ := knownSecrets_ne htype
      rw [if_neg hrsa, if_neg (not_or.2 ⟨hec, hed⟩), if_neg hdsa, if_neg hkem] at hread
      exact .secret hc htype hread

theorem objFromToken_eq (h : (fetchAttributes tok (objectAttrs.map (·.set)) []).ret = Ckr.ok)
    {slotid : SlotId} {handle : ObjectHandle} {supported : Bool} :
    objFromToken lib slotid handle tok supported =
      fetchByClass lib tok supported (tokenObj slotid handle tok) := by
  have hcls : fetchVar ckaClass (ulongBytes ckUnavailableInformation) true ∈ objectAttrs := by
    simp [objectAttrs]
  have htype : fetchVar ckaKeyType (ulongBytes ckUnavailableInformation) false ∈ objectAttrs := by
    simp [objectAttrs]
  have hcopy : fetchVar ckaCopyable [0] false ∈ objectAttrs := by simp [objectAttrs]
  have htoken : fetchVar ckaToken [0] false ∈ objectAttrs := by simp [objectAttrs]
  have hset : fetchVar ckaParameterSet (ulongBytes 0) false ∈ objectAttrs := by simp [objectAttrs]
  rw [objFromToken]
  simp only [if_neg (not_not_intro h), objectAttrs_var h hcls, objectAttrs_var h htype,
    objectAttrs_var h hcopy, objectAttrs_var h htoken, objectAttrs_var h hset]
  rfl

theorem fetchAllowedMechanisms_extends {supported : Bool} :
    (fetchAllowedMechanisms tok supported key).1.Extends key := by
  rw [fetchAllowedMechanisms]
  split
  · simp only
    split <;> exact ⟨rfl, rfl, rfl, rfl, rfl, rfl⟩
  · exact .refl

theorem digestible_key_iff (hobject : tok.Returns objectAttrs) (hcls : tok.cls ≠ Cko.certificate) :
    tok.Digestible lib ↔ (∃ attrs, prepKeyAttrs tok.cls tok.keyType = some attrs ∧
      tok.Returns attrs) ∧ KeyReadable lib tok.keyType tok.paramSet tok.valueOf := by
  constructor
  · rintro ⟨hattrs, hsupported⟩
    obtain ⟨hprep, hread⟩ := (supported_key_iff hcls).1 hsupported
    obtain ⟨attrs, hprep⟩ := Option.isSome_iff_exists.1 hprep
    exact ⟨⟨attrs, hprep, hattrs.key attrs hprep⟩, hread⟩
  · rintro ⟨⟨attrs, hprep, hreturns⟩, hread⟩
    refine ⟨⟨hobject, fun h => absurd h hcls, fun attrs' hprep' => ?_⟩, ?_⟩
    · rw [hprep, Option.some.injEq] at hprep'
      exact hprep' ▸ hreturns
    · exact (supported_key_iff hcls).2 ⟨by rw [hprep]; rfl, hread⟩

theorem digestible_certificate_iff (hobject : tok.Returns objectAttrs)
    (hcls : tok.cls = Cko.certificate) : tok.Digestible lib ↔ tok.Returns certificateAttrs := by
  refine ⟨fun h => h.attrs.certificate hcls, fun h =>
    ⟨⟨hobject, fun _ => h, ?_⟩, .certificate hcls⟩⟩
  intro attrs hprep
  have hsome := prepKeyAttrs_isSome.1 (Option.isSome_of_eq_some hprep)
  rw [hcls] at hsome
  rcases hsome with ⟨h, -⟩ | ⟨h, -⟩ <;> exact absurd h (by decide)

theorem TokenAttrs.Ignored.not_digestible (h : tok.Ignored) : ¬tok.Digestible lib := by
  have hsub : [Cko.publicKey, Cko.privateKey] ⊆
      [Cko.certificate, Cko.publicKey, Cko.privateKey, Cko.secretKey] := by decide
  rintro ⟨-, hcls | ⟨hcls, -⟩ | ⟨hcls, -⟩ | ⟨hcls, -⟩ | ⟨hcls, -⟩ | ⟨hcls, -⟩⟩
  · exact h.cls (by simp [hcls])
  all_goals first | exact h.cls (hsub hcls) | exact h.cls (by simp [hcls])

/-- What becomes of an object of the token, by what the token says of it. -/
theorem objFromToken_spec (lib : EcLib) (tok : TokenAttrs) (slotid : SlotId) (handle : ObjectHandle)
    (supported : Bool) :
    (tok.Ignored ∧ (objFromToken lib slotid handle tok supported).1 = .error Ckr.cancel) ∨
      (¬tok.Ignored ∧ Reads (objFromToken lib slotid handle tok supported).1
        (tokenObj slotid handle tok) (tok.Digestible lib)) := by
  have hiff := fetchAttributes_ok tok objectAttrs_alloc
  by_cases hobject : (fetchAttributes tok (objectAttrs.map (·.set)) []).ret = Ckr.ok
  · rw [objFromToken_eq hobject, fetchByClass,
      show (tokenObj slotid handle tok).cls = tok.cls from rfl]
    split
    · rename_i hcls
      have hcrt := fetchAttributes_ok tok certificateAttrs_alloc
      refine .inr ⟨fun h => h.cls (by simp [hcls]), ?_⟩
      rw [fetchCertificate]
      by_cases hok : (fetchAttributes tok (certificateAttrs.map (·.set)) []).ret = Ckr.ok
      · simp only [if_neg (not_not_intro hok)]
        exact .ok ⟨rfl, rfl, rfl, rfl, rfl, rfl⟩
          ((digestible_certificate_iff (hiff.1 hobject) hcls).2 (hcrt.1 hok))
      · simp only [if_pos hok]
        exact .fetch (fun h => hok (hcrt.2 (h.attrs.certificate hcls))) hok
    split
    · rename_i hcrt hcls
      refine .inr ⟨fun h => h.cls (List.mem_cons_of_mem _ (by simpa using hcls)), ?_⟩
      refine .congr ?_ (digestible_key_iff (hiff.1 hobject) hcrt).symm
      obtain ⟨hgood, obj, hobj, hext⟩ | ⟨hbad, ret, hret, hne⟩ :=
        fetchKey_reads lib (tokenObj slotid handle tok) rfl rfl rfl
      · rw [hobj]
        exact .trans (.ok fetchAllowedMechanisms_extends hgood) hext
      · rw [hret]
        exact .inr ⟨hbad, ret, rfl, hne⟩
    · rename_i hcrt hcls
      exact .inl ⟨⟨hiff.1 hobject, by simpa [hcrt] using hcls⟩, rfl⟩
  · refine .inr ⟨fun h => hobject (hiff.2 h.object), ?_⟩
    rw [objFromToken]
    simp only [if_pos hobject]
    exact .fetch (fun h => hobject (hiff.2 h.attrs.object)) hobject

/-! ## A bare key -/

/-- What is known of a key where only the class and the type are. -/
def bareAnswer (cls keyType type : Nat) : AttrAnswer :=
  if type = ckaClass then .value (ulongBytes cls)
  else if type = ckaKeyType then .value (ulongBytes keyType)
  else .unavailable

theorem bareAnswer_short {cls keyType type : Nat} {v : Bytes}
    (h : bareAnswer cls keyType type = .value v) : v.length < ckUnavailableInformation := by
  have hlen (n : Nat) : (ulongBytes n).length < ckUnavailableInformation := by
    rw [ulongBytes, List.length_reverse, BigEndian.length_bytes]
    decide
  rw [bareAnswer] at h
  repeat' split at h
  all_goals
    cases h
    try exact hlen _

theorem headD_mem {codes : List CkRv} (h : codes ≠ []) : codes.headD Ckr.ok ∈ codes := by
  cases codes with
  | nil => exact absurd rfl h
  | cons c codes => exact List.mem_cons_self

/-- A key of which only the class and the type are known. -/
def bareKey (cls keyType : Nat) : TokenAttrs where
  answer := bareAnswer cls keyType
  short := bareAnswer_short
  pick codes := codes.headD Ckr.ok
  pick_mem := headD_mem

/-- An OpenSSL that reads nothing. -/
def noEcLib : EcLib where
  group _ := none
  nid2name _ := none
  objectNid _ := none
  octetString _ := none

end P11Prov
