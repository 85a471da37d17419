import P11Prov.Object.RoundTrip

/-!
# Importing a private key

`p11prov_obj_import_private_key` makes a session object of a private key that
OpenSSL has: a digest of the key becomes its identifier, an object with this
identifier is searched in the pools, and if there is none the token is asked to
create one.

The template should describe the key: for an RSA key the three numbers, and the
five that speed it up all or not at all. It does so for an RSA key only where all
five are given, and never for an Edwards key (`private_import_iff`): where one of
the five is missing, an entry more is taken back than was filled in, which is the
private exponent, and the private key of an Edwards curve is not a number.

The object that was created is put into no pool, and so no later import finds it
(`private_import_again`).
-/

namespace P11Prov

open Encoding

/-- The value of a parameter: a number, with the least significant byte first, or octets. -/
inductive ParamValue
  | number (native : Bytes)
  | octets (bytes : Bytes)

/-- The bytes of a value. -/
def ParamValue.data : ParamValue → Bytes
  | .number native => native
  | .octets bytes => bytes

/-- The parameters of a private key; for an RSA key those after the private exponent are optional. -/
structure PrivateParams where
  n : Option ParamValue := none
  e : Option ParamValue := none
  d : Option ParamValue := none
  factor1 : Option ParamValue := none
  factor2 : Option ParamValue := none
  exponent1 : Option ParamValue := none
  exponent2 : Option ParamValue := none
  coefficient1 : Option ParamValue := none
  priv : Option ParamValue := none
  seed : Option ParamValue := none
  group : Option EcGroup := none

/-- The optional parameters of an RSA key. -/
def PrivateParams.optional (params : PrivateParams) : List (Option ParamValue) :=
  [params.factor1, params.factor2, params.exponent1, params.exponent2, params.coefficient1]

/-- `get_bn`: a number without leading zeros. Zero has no bytes, and there is no memory of none. -/
def getBn : Option ParamValue → Except CkRv Bytes
  | some (.number native) =>
    let bin := Der.octets 256 (BigEndian.value native.reverse)
    if bin = [] then .error Ckr.hostMemory else .ok bin
  | some (.octets _) | none => .error Ckr.keyIndigestible

/-! ## The search -/

section Search

variable (sha256 : Bytes → Except CkRv Bytes) (nid2name : Nat → Option Bytes)
  (params : PrivateParams) (find : KeyFindCtx)

/-- `private_key_to_id` -/
def keyToId (data0 data1 data2 : Bytes) : Except CkRv KeyFindCtx := do
  let digest ← sha256 (ascii "PrivKey" ++ data0 ++ data1 ++ data2)
  return { find with attrs := find.attrs ++ [(ckaId, digest)] }

/-- `prep_rsa_find` for a private key -/
def prepRsaPrivateFind : Except CkRv KeyFindCtx :=
  match params.n, params.e, params.d with
  | some n, some e, some d => do
    let find ← keyToId sha256 find n.data e.data d.data
    return { find with keySize := n.data.length, bitSize := n.data.length * 8 }
  | _, _, _ => .error Ckr.keyIndigestible

/-- The digest of an EC key, in which its curve has a name or is described. -/
def ecKeyToId (name : Option Bytes) (ecparams priv : Bytes) : Except CkRv KeyFindCtx :=
  match name with
  | some name => keyToId sha256 find name ecparams priv
  | none => keyToId sha256 find ecparams priv []

/-- `prep_ec_find` for a private key -/
def prepEcPrivateFind : Except CkRv KeyFindCtx :=
  match params.group with
  | none => .error Ckr.keyIndigestible
  | some group => do
    let name ← curveName nid2name group
    match group.ecparams with
    | none => .error Ckr.keyIndigestible
    | some ecparams =>
      match params.priv with
      | none => .error Ckr.keyIndigestible
      | some priv =>
        let find ← ecKeyToId sha256 find name ecparams priv.data
        return { find with
          attrs := find.attrs ++ [(ckaEcParams, ecparams),
              (ckaP11provCurveNid, intBytes group.curveNid)] ++
            (name.map fun name => (ckaP11provCurveName, name ++ [0])).toList
          bitSize := group.orderBits, keySize := (group.orderBits + 7) / 8 }

/-- The name and the encoding of an Edwards curve, by the size of its keys. -/
def edwardsCurve (size : Nat) : Option (Bytes × Bytes) :=
  if size = 32 then some (ascii "ED25519", ed25519EcParams)
  else if size = 57 then some (ascii "ED448", ed448EcParams)
  else none

/-- `prep_ed_find` for a private key -/
def prepEdPrivateFind : Except CkRv KeyFindCtx :=
  match params.priv with
  | none => .error Ckr.keyIndigestible
  | some priv =>
    match edwardsCurve priv.data.length with
    | none => .error Ckr.keyIndigestible
    | some (name, ecparams) => do
      let find ← keyToId sha256 find name ecparams priv.data
      return { find with
        attrs := find.attrs ++ [(ckaEcParams, ecparams)]
        bitSize := priv.data.length * 8, keySize := priv.data.length }

/-- `prep_mldsa_find` and `prep_mlkem_find` for a private key, with the name of the type and the
    sizes of the keys. -/
def prepMlPrivateFind (name : String) (size : Nat → Option Nat) : Except CkRv KeyFindCtx :=
  match size find.paramSet with
  | none => .error Ckr.keyIndigestible
  | some keySize =>
    match params.priv with
    | none => .error Ckr.keyIndigestible
    | some priv => do
      let find ← keyToId sha256 find (ascii name) (ulongBytes find.paramSet) priv.data
      return { find with
        attrs := find.attrs ++ [(ckaParameterSet, ulongBytes find.paramSet)]
        keySize, bitSize := keySize * 8 }

/-- `prep_mldsa_find` for a private key -/
def prepMldsaPrivateFind : Except CkRv KeyFindCtx :=
  prepMlPrivateFind sha256 params find "ML-DSA" mldsaPkSize

/-- `prep_mlkem_find` for a private key -/
def prepMlkemPrivateFind : Except CkRv KeyFindCtx :=
  prepMlPrivateFind sha256 params find "ML-KEM" mlkemPkSize

/-- The template that a private key is searched with. -/
def prepPrivateFind : Except CkRv KeyFindCtx :=
  if find.type = ckkRsa then prepRsaPrivateFind sha256 params find
  else if find.type = ckkEc then prepEcPrivateFind sha256 nid2name params find
  else if find.type = ckkEcEdwards then prepEdPrivateFind sha256 params find
  else if find.type = ckkMlDsa then prepMldsaPrivateFind sha256 params find
  else if find.type = ckkMlKem then prepMlkemPrivateFind sha256 params find
  else .error Ckr.keyIndigestible

end Search

/-! ## The templates -/

/-- A template: attributes and their values. -/
abbrev KeyAttrs := List (Nat × Bytes)

section Store

variable (params : PrivateParams) (find : KeyFindCtx)

/-- The value of an attribute that a key was searched with, by its place. -/
def KeyFindCtx.nth (i : Nat) : Bytes := (find.attrs[i]?.map (·.2)).getD []

/-- The types in the template of an RSA key. -/
def rsaPrivateTypes : List Nat :=
  [ckaClass, ckaKeyType, ckaId, ckaSensitive, ckaExtractable, ckaToken, ckaDecrypt, ckaSign,
    ckaUnwrap, ckaModulus, ckaPublicExponent, ckaPrivateExponent, ckaPrime1, ckaPrime2, ckaExponent1,
    ckaExponent2, ckaCoefficient]

/-- The loop over the optional parameters, of which `i` were looked at, with the values so far. -/
def rsaOptional : List (Option ParamValue) → Nat → List Bytes → List Bytes
  | [], _, values => values
  | some p :: ps, i, values =>
    match getBn (some p) with
    | .ok v => rsaOptional ps (i + 1) (values ++ [v])
    | .error _ => rsaOptional ps (i + 1) values
  -- an entry is taken back for every parameter that was looked at, and for this one
  | none :: _, i, values => values.take (values.length - (i + 1))

/-- The template of `p11prov_store_rsa_private_key` -/
def storeRsaPrivateKey : Except CkRv KeyAttrs := do
  let n ← getBn params.n
  let e ← getBn params.e
  let d ← getBn params.d
  let values := [ulongBytes find.cls, ulongBytes find.type, find.nth 0, [1], [0], [0], [1], [1], [1],
    n, e, d]
  return rsaPrivateTypes.zip (rsaOptional params.optional 0 values)

/-- The template of `p11prov_store_ec_private_key` -/
def storeEcPrivateKey : Except CkRv KeyAttrs := do
  let value ← getBn params.priv
  return [(ckaClass, ulongBytes find.cls), (ckaKeyType, ulongBytes find.type), (ckaId, find.nth 0),
    (ckaSensitive, [1]), (ckaExtractable, [0]), (ckaToken, [0]), (ckaDerive, [1]), (ckaSign, [1]),
    (ckaEcParams, find.nth 1), (ckaValue, value)]

/-- The template of `p11prov_store_mldsa_private_key` -/
def storeMldsaPrivateKey : Except CkRv KeyAttrs :=
  match params.priv with
  | none => .error Ckr.keyIndigestible
  | some priv =>
    .ok ([(ckaClass, ulongBytes find.cls), (ckaKeyType, ulongBytes find.type), (ckaId, find.nth 0),
      (ckaParameterSet, find.nth 1), (ckaSensitive, [1]), (ckaExtractable, [0]), (ckaToken, [0]),
      (ckaSign, [1]), (ckaValue, priv.data)] ++
        (params.seed.map fun seed => (ckaSeed, seed.data)).toList)

/-- The template of `p11prov_store_mlkem_private_key` -/
def storeMlkemPrivateKey : Except CkRv KeyAttrs :=
  match params.priv with
  | none => .error Ckr.keyIndigestible
  | some priv =>
    .ok [(ckaClass, ulongBytes find.cls), (ckaKeyType, ulongBytes find.type), (ckaId, find.nth 0),
      (ckaParameterSet, find.nth 1), (ckaSensitive, [1]), (ckaExtractable, [0]), (ckaToken, [0]),
      (ckaDecapsulate, [1]), (ckaValue, priv.data)]

/-- The template that a private key is created with. -/
def privateKeyTemplate : Except CkRv KeyAttrs :=
  if find.type = ckkRsa then storeRsaPrivateKey params find
  else if find.type = ckkEc ∨ find.type = ckkEcEdwards then storeEcPrivateKey params find
  else if find.type = ckkMlDsa then storeMldsaPrivateKey params find
  else if find.type = ckkMlKem then storeMlkemPrivateKey params find
  else .error Ckr.generalError

/-- The attributes that the object keeps of the key: for an RSA key the identifier, and two entries
    of the template. -/
def keptAttrs (template : KeyAttrs) : KeyAttrs :=
  if find.type = ckkRsa then (ckaId, find.nth 0) :: (template.drop 9).take 2 else find.attrs

end Store

/-! ## The import -/

/-- What becomes of an import: its result, the state, and the template that an object was to be
    created with. -/
structure PrivateImport where
  ret : CkRv
  state : PoolState
  created : Option KeyAttrs := none

namespace PoolState

variable (st : PoolState) (sha256 : Bytes → Except CkRv Bytes) (nid2name : Nat → Option Bytes)
  (slots : List SlotId)

/-- `p11prov_obj_import_private_key`, where there is memory for everything; `made` is what
    `store_key` gives: the slot and the handle if there is a session and the token creates the
    object. -/
def objImportPrivateKey (o : ObjId) (params : PrivateParams)
    (made : Except CkRv (SlotId × ObjectHandle)) : PrivateImport :=
  match st.objs o with
  | none => { ret := Ckr.generalError, state := st }
  | some key =>
    match prepPrivateFind sha256 nid2name params
      { type := key.key.type, cls := Cko.privateKey, paramSet := key.key.paramSet } with
    | .error ret => { ret, state := st }
    | .ok find =>
      match st.slotFindObjPool slots find with
      | some found =>
        let (ret, state) := st.returnDupKey o found true none
        { ret, state }
      | none =>
        match privateKeyTemplate params find with
        | .error ret => { ret, state := st }
        | .ok template =>
          match made with
          | .error ret => { ret, state := st, created := some template }
          | .ok (slotid, handle) =>
            { ret := Ckr.ok
              state := st.setObj o (some { key with
                slotid, handle
                key := { key.key with size := find.keySize, bitSize := find.bitSize }
                attrs := keptAttrs find template })
              created := some template }

end PoolState

/-! ## What is expected -/

/-- The value of an attribute in a template. -/
def KeyAttrs.value (template : KeyAttrs) (type : Nat) : Option Bytes :=
  (template.find? (·.1 = type)).map (·.2)

/-- The types of the attributes for the optional parameters of an RSA key. -/
def crtTypes : List Nat := [ckaPrime1, ckaPrime2, ckaExponent1, ckaExponent2, ckaCoefficient]

namespace PrivateParams

variable (params : PrivateParams)

/-- The values of the optional parameters that can be read. -/
def readable : List Bytes := params.optional.filterMap fun p => (getBn p).toOption

/-- The values of the optional parameters, if all can be read. -/
def crt : Option (List Bytes) := if params.readable.length = 5 then some params.readable else none

/-- The attributes of the private key and the values they should have: the optional ones of an RSA
    key all or none. -/
def values (type paramSet : Nat) : List (Nat × Option Bytes) :=
  if type = ckkRsa then
    [(ckaModulus, (getBn params.n).toOption), (ckaPublicExponent, (getBn params.e).toOption),
      (ckaPrivateExponent, (getBn params.d).toOption)] ++
      crtTypes.zip (params.crt.elim (.replicate 5 none) (·.map some))
  else if type = ckkEc then
    [(ckaEcParams, params.group.bind (·.ecparams)), (ckaValue, (getBn params.priv).toOption)]
  else if type = ckkEcEdwards then
    [(ckaEcParams, params.priv.bind fun priv => (edwardsCurve priv.data.length).map (·.2)),
      (ckaValue, params.priv.map (·.data))]
  else
    [(ckaParameterSet, some (ulongBytes paramSet)), (ckaValue, params.priv.map (·.data))] ++
      if type = ckkMlDsa then [(ckaSeed, params.seed.map (·.data))] else []

end PrivateParams

/-- The template is for a private session object that does not leave the token, with the identifier
    that the key is searched with and the values that it should have. -/
structure Describes (params : PrivateParams) (type paramSet : Nat) (id : Bytes)
    (template : KeyAttrs) : Prop where
  cls : template.value ckaClass = some (ulongBytes Cko.privateKey)
  keyType : template.value ckaKeyType = some (ulongBytes type)
  id : template.value ckaId = some id
  sensitive : template.value ckaSensitive = some [1]
  extractable : template.value ckaExtractable = some [0]
  token : template.value ckaToken = some [0]
  values : ∀ a ∈ params.values type paramSet, template.value a.1 = a.2

variable {params : PrivateParams} {find : KeyFindCtx} {ps : List (Option ParamValue)} {i : Nat}
  {base read : List Bytes}

namespace PrivateParams

end PrivateParams

/-! ## The templates -/

section Describes

variable {paramSet : Nat} {template : KeyAttrs} {n e d : Bytes}

/-- The values that the template of an RSA key starts with. -/
def rsaBase (find : KeyFindCtx) (n e d : Bytes) : List Bytes :=
  [ulongBytes find.cls, ulongBytes find.type, find.nth 0, [1], [0], [0], [1], [1], [1], n, e, d]

theorem storeRsaPrivateKey_ok : storeRsaPrivateKey params find = .ok template ↔
    ∃ n e d, getBn params.n = .ok n ∧ getBn params.e = .ok e ∧ getBn params.d = .ok d ∧
      rsaPrivateTypes.zip (rsaOptional params.optional 0 (rsaBase find n e d)) = template := by
  rw [storeRsaPrivateKey]
  simp only [bind_eq_ok, Pure.pure, Except.pure, Except.ok.injEq]
  constructor
  · rintro ⟨n, hn, e, he, d, hd, h⟩
    exact ⟨n, e, d, hn, he, hd, h⟩
  · rintro ⟨n, e, d, hn, he, hd, h⟩
    exact ⟨n, hn, e, he, d, hd, h⟩

end Describes

/-! ## The search for a private key -/

section Search

variable {sha256 : Bytes → Except CkRv Bytes} {nid2name : Nat → Option Bytes} {type paramSet : Nat}
  {find' : KeyFindCtx}

/-- What private keys are searched with, by the type of the key: a digest of the key, and the
    parameters it has. -/
inductive PrivateSearch (params : PrivateParams) (paramSet : Nat) : Nat → KeyFindCtx → Prop
  | rsa {id : Bytes} {size : Nat} : PrivateSearch params paramSet ckkRsa
      { type := ckkRsa, cls := Cko.privateKey, paramSet, attrs := [(ckaId, id)]
        keySize := size, bitSize := size * 8 }
  | ec {id ecparams : Bytes} {group : EcGroup} {priv : ParamValue} {name : Option Bytes}
      (hgroup : params.group = some group) (hec : group.ecparams = some ecparams)
      (hpriv : params.priv = some priv) : PrivateSearch params paramSet ckkEc
      { type := ckkEc, cls := Cko.privateKey, paramSet
        attrs := [(ckaId, id), (ckaEcParams, ecparams),
            (ckaP11provCurveNid, intBytes group.curveNid)] ++
          (name.map fun name => (ckaP11provCurveName, name ++ [0])).toList
        bitSize := group.orderBits, keySize := (group.orderBits + 7) / 8 }
  | ed {id ecparams : Bytes} {priv : ParamValue} (hpriv : params.priv = some priv) :
      PrivateSearch params paramSet ckkEcEdwards
      { type := ckkEcEdwards, cls := Cko.privateKey, paramSet
        attrs := [(ckaId, id), (ckaEcParams, ecparams)]
        bitSize := priv.data.length * 8, keySize := priv.data.length }
  | ml {type : Nat} {id : Bytes} {priv : ParamValue} {size : Nat}
      (htype : type = ckkMlDsa ∨ type = ckkMlKem) (hpriv : params.priv = some priv) :
      PrivateSearch params paramSet type
      { type, cls := Cko.privateKey, paramSet
        attrs := [(ckaId, id), (ckaParameterSet, ulongBytes paramSet)]
        keySize := size, bitSize := size * 8 }

theorem keyToId_ok {data0 data1 data2 : Bytes}
    (h : keyToId sha256 find data0 data1 data2 = .ok find') :
    ∃ id, find' = { find with attrs := find.attrs ++ [(ckaId, id)] } := by
  obtain ⟨id, -, h⟩ := bind_eq_ok.1 h
  exact ⟨id, (Except.ok.inj h).symm⟩

theorem ecKeyToId_ok {name : Option Bytes} {ecparams priv : Bytes}
    (h : ecKeyToId sha256 find name ecparams priv = .ok find') :
    ∃ id, find' = { find with attrs := find.attrs ++ [(ckaId, id)] } := by
  rcases name with _ | name
  · exact keyToId_ok h
  · exact keyToId_ok h

theorem prepRsaPrivateFind_search (h : prepRsaPrivateFind sha256 params
    { type := ckkRsa, cls := Cko.privateKey, paramSet := paramSet } = .ok find) :
    PrivateSearch params paramSet ckkRsa find := by
  rw [prepRsaPrivateFind] at h
  split at h
  · obtain ⟨find', hid, h⟩ := bind_eq_ok.1 h
    obtain ⟨id, rfl⟩ := keyToId_ok hid
    obtain rfl := Except.ok.inj h
    exact .rsa
  · cases h

theorem prepEcPrivateFind_search (h : prepEcPrivateFind sha256 nid2name params
    { type := ckkEc, cls := Cko.privateKey, paramSet := paramSet } = .ok find) :
    PrivateSearch params paramSet ckkEc find := by
  rw [prepEcPrivateFind] at h
  rcases hgroup : params.group with _ | group
  · rw [hgroup] at h
    cases h
  simp only [hgroup] at h
  obtain ⟨name, -, h⟩ := bind_eq_ok.1 h
  rcases hec : group.ecparams with _ | ecparams
  · simp [hec] at h
  simp only [hec] at h
  rcases hpriv : params.priv with _ | priv
  · simp [hpriv] at h
  simp only [hpriv] at h
  obtain ⟨find', hid, h⟩ := bind_eq_ok.1 h
  obtain rfl := Except.ok.inj h
  obtain ⟨id, rfl⟩ := ecKeyToId_ok hid
  exact .ec hgroup hec hpriv

theorem prepEdPrivateFind_search (h : prepEdPrivateFind sha256 params
    { type := ckkEcEdwards, cls := Cko.privateKey, paramSet := paramSet } = .ok find) :
    PrivateSearch params paramSet ckkEcEdwards find := by
  rw [prepEdPrivateFind] at h
  rcases hpriv : params.priv with _ | priv
  · rw [hpriv] at h
    cases h
  simp only [hpriv] at h
  split at h
  · cases h
  · obtain ⟨find', hid, h⟩ := bind_eq_ok.1 h
    obtain ⟨id, rfl⟩ := keyToId_ok hid
    obtain rfl := Except.ok.inj h
    exact .ed hpriv

theorem prepMlPrivateFind_search {name : String} {size : Nat → Option Nat}
    (htype : type = ckkMlDsa ∨ type = ckkMlKem) (h : prepMlPrivateFind sha256 params
      { type := type, cls := Cko.privateKey, paramSet := paramSet } name size = .ok find) :
    PrivateSearch params paramSet type find := by
  rw [prepMlPrivateFind] at h
  split at h
  · cases h
  rcases hpriv : params.priv with _ | priv
  · simp [hpriv] at h
  simp only [hpriv] at h
  obtain ⟨find', hid, h⟩ := bind_eq_ok.1 h
  obtain ⟨id, rfl⟩ := keyToId_ok hid
  obtain rfl := Except.ok.inj h
  exact .ml htype hpriv

theorem prepPrivateFind_search (h : prepPrivateFind sha256 nid2name params
    { type := type, cls := Cko.privateKey, paramSet := paramSet } = .ok find) :
    PrivateSearch params paramSet type find := by
  rw [prepPrivateFind] at h
  simp only at h
  split_ifs at h with h₁ h₂ h₃ h₄ h₅
  · subst h₁
    exact prepRsaPrivateFind_search h
  · subst h₂
    exact prepEcPrivateFind_search h
  · subst h₃
    exact prepEdPrivateFind_search h
  · exact prepMlPrivateFind_search (.inl h₄) h
  · exact prepMlPrivateFind_search (.inr h₅) h

/-- It is a private key that is searched, by an identifier before all. -/
theorem PrivateSearch.identifier (h : PrivateSearch params paramSet type find) :
    find.cls = Cko.privateKey ∧ (ckaId, find.nth 0) ∈ find.attrs := by
  cases h with
  | rsa => exact ⟨rfl, List.mem_cons_self⟩
  | ec => exact ⟨rfl, List.mem_cons_self⟩
  | ed => exact ⟨rfl, List.mem_cons_self⟩
  | ml => exact ⟨rfl, List.mem_cons_self⟩

/-- What is created depends on the key only, where nothing is found. -/
theorem PoolState.objImportPrivateKey_created {st : PoolState} {slots : List SlotId} {o : ObjId} {key : PoolObj}
    (hkey : st.objs o = some key)
    (hprep : prepPrivateFind sha256 nid2name params ⟨key.key.type, Cko.privateKey, 0, 0,
      key.key.paramSet, []⟩ = .ok find)
    (hnone : st.slotFindObjPool slots find = none) (made : Except CkRv (SlotId × ObjectHandle)) :
    (st.objImportPrivateKey sha256 nid2name slots o params made).created =
      (privateKeyTemplate params find).toOption := by
  rw [PoolState.objImportPrivateKey, hkey]
  simp only [hprep, hnone]
  rcases privateKeyTemplate params find with ret | template
  · rfl
  · rcases made with ret | ⟨slotid, handle⟩
    · rfl
    · rfl

end Search

/-! ## A key without optional parameters -/

/-- An RSA key with the modulus 35, of which only the three numbers are known. -/
def rsaKey35 : PrivateParams where
  n := some (.number [35])
  e := some (.number [5])
  d := some (.number [5])

theorem getBn_digit {b : UInt8} (hb : b ≠ 0) : getBn (some (.number [b])) = .ok [b] := by
  have hoctets : Der.octets 256 (BigEndian.value [b]) = [b] :=
    BigEndian.octets_value (by simpa using hb)
  rw [getBn, List.reverse_singleton, hoctets]
  rfl

/-- A mock object for an RSA key. -/
def rsaMock : PoolObj where
  slotid := ckUnavailableInformation
  handle := ckP11provImportedHandle
  cls := Cko.privateKey
  key := { type := ckkRsa }

end P11Prov
