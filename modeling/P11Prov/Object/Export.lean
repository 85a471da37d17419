import P11Prov.Object
import P11Prov.Object.Fetch

/-!
# Exporting a public key

`p11prov_obj_export_public_key` hands the public key of an object to OpenSSL as a
list of parameters. A public key has the values itself. A private key may lack
them: then those of the public key on the token with the same identifier are
taken, and if there is none, those of the certificate with this identifier.

Tokens have the most significant byte of a number first, OpenSSL has it last, so
the numbers of an RSA key are turned round. OpenSSL has turned those of a
certificate before, and they are turned once more: `export_certificate_iff`.

The functions are the same whether the associated objects are searched on a token
or given, so they are written for any monad. The host has the least significant
byte first, and there is memory for everything.
-/

namespace P11Prov

open Interaction Encoding

/-- The parameters of a key as they are handed to OpenSSL, by their names. -/
abbrev KeyOsslParams := List (Bytes × Bytes)

/-- The value of a parameter. -/
def KeyOsslParams.find (params : KeyOsslParams) (name : String) : Option Bytes :=
  (params.find? (·.1 = ascii name)).map (·.2)

/-- The key in a certificate: the parameters that `EVP_PKEY_get_params` has for it. -/
inductive CertKey
  | rsa (n e : Nat)
  | ec (group : Option Bytes) (pub : Bytes)
  | ed (pub : Bytes)
  | other

/-- The parameters of a group as OpenSSL describes it; a number may be missing, as may the
    generator. -/
structure EcDomain where
  fieldType : Nat
  curve : Option (Int × Int × Int)
  order : Option Int
  generator : Option Bytes
  cofactor : Option Int
  seed : Option Bytes

/-- `NID_X9_62_prime_field` -/
abbrev nidPrimeField : Nat := 406
/-- `NID_X9_62_characteristic_two_field` -/
abbrev nidCharacteristicTwoField : Nat := 407
/-- `CKC_X_509` -/
abbrev ckcX509 : Nat := 0

/-- What OpenSSL reads from the parameters of a curve and from a certificate. -/
structure ExportLib extends EcLib where
  /-- `EC_GROUP_get_curve` and the like. -/
  domain : EcGroup → EcDomain
  /-- `d2i_X509` and `X509_get0_pubkey` -/
  x509 : Bytes → Option (Option CertKey)

/-- `BN_bn2nativepad` into as many bytes as the number has, but at least one. -/
def bnNative (n : Nat) : Bytes := if n = 0 then [0] else (Der.octets 256 n).reverse

/-! ## The attributes of a certificate -/

/-- The parameter that an attribute is asked for as, and its value; there is none for attributes
    that the key is not asked for. -/
def CertKey.param : CertKey → Nat → Option (Option Bytes)
  | .rsa n e, type =>
    if type = ckaModulus then some (some (bnNative n))
    else if type = ckaPublicExponent then some (some (bnNative e))
    else none
  | .ec group pub, type =>
    if type = ckaP11provCurveName then some group
    else if type = ckaP11provPubKey then some (some pub)
    else none
  | .ed pub, type => if type = ckaP11provPubKey then some (some pub) else none
  | .other, _ => none

/-- The values of the parameters. Of these only the first is known to be set, and where one is not,
    its size is the largest there is. -/
def certParams : List (Nat × Option Bytes) → Except CkRv (List (Nat × Bytes))
  | [] => .error Ckr.argumentsBad
  | (_, none) :: _ => .error Ckr.generalError
  | params => params.mapM fun p =>
    match p.2 with
    | none => .error Ckr.hostMemory
    | some [] => .error Ckr.generalError
    | some v => .ok (p.1, v)

/-- The part of `get_attrs_from_cert` that works on the key of the certificate. -/
def certKeyAttrs (key : CertKey) (types : List Nat) : Except CkRv (List Bytes) := do
  let values ← certParams (types.filterMap fun type => (key.param type).map (type, ·))
  types.mapM fun type =>
    match values.find? (·.1 = type) with
    | none => .error Ckr.argumentsBad
    | some v => .ok v.2

/-- `get_attrs_from_cert`, for the attributes of the given types. -/
def getAttrsFromCert (x509 : Bytes → Option (Option CertKey)) (crt : Nat → Option Bytes)
    (types : List Nat) : Except CkRv (List Bytes) :=
  if (crt ckaCertificateType).any (· ≠ ulongBytes ckcX509) then .error Ckr.objectHandleInvalid
  else
    match crt ckaValue with
    | none => .error Ckr.generalError
    | some value =>
      match x509 value with
      | none | some none => .error Ckr.generalError
      | some (some .other) => .error Ckr.objectHandleInvalid
      | some (some key) => certKeyAttrs key types

/-! ## The attributes of an object -/

/-- `get_all_attrs` -/
def getAllAttrs (obj : Nat → Option Bytes) (types : List Nat) : Except CkRv (List Bytes) :=
  types.mapM fun type =>
    match obj type with
    | none => .error Ckr.cancel
    | some v => .ok v

section Export

variable {m : Type → Type} [Monad m] (lib : ExportLib)

/-- `get_public_attrs` of an object, where `find` finds the associated object of a class. -/
def getPublicAttrs (find : Nat → m (Option (Nat → Option Bytes))) (cls : Nat)
    (obj : Nat → Option Bytes) (types : List Nat) : m (Except CkRv (List Bytes)) := do
  if cls = Cko.publicKey ∨ cls = Cko.secretKey then
    return getAllAttrs obj types
  else if cls = Cko.privateKey then
    match getAllAttrs obj types with
    | .ok values => return .ok values
    | .error _ =>
      -- public attributes unavailable, try to find the public key
      match ← find Cko.publicKey with
      | some pub => return getAllAttrs pub types
      | none =>
        -- no public key, try to find a certificate
        match ← find Cko.certificate with
        | some crt => return getAttrsFromCert lib.x509 crt types
        | none => return .error Ckr.cancel
  else if cls = Cko.certificate then
    return getAttrsFromCert lib.x509 obj types
  else
    return .error Ckr.cancel

/-! ## The parameters -/

/-- `ossl_param_construct_bn` -/
def osslParamConstructBn (name : String) (val : Int) : Option (Bytes × Bytes) :=
  if val < 0 then none else some (ascii name, bnNative val.toNat)

/-- `ec_group_explicit_to_params` -/
def ecGroupExplicitToParams (dom : EcDomain) : Option KeyOsslParams := do
  let fieldType ← if dom.fieldType = nidPrimeField then some (ascii "prime-field")
    else if dom.fieldType = nidCharacteristicTwoField then some (ascii "characteristic-two-field")
    else none
  let (p, a, b) ← dom.curve
  let p ← osslParamConstructBn "p" p
  let a ← osslParamConstructBn "a" a
  let b ← osslParamConstructBn "b" b
  let order ← osslParamConstructBn "order" (← dom.order)
  let generator ← dom.generator
  let cofactor ← osslParamConstructBn "cofactor" (← dom.cofactor)
  let seed := (dom.seed.filter (· ≠ [])).map (ascii "seed", ·)
  return [(ascii "field-type", fieldType), p, a, b, order, (ascii "generator", generator),
    cofactor] ++ seed.toList

variable (attrs : List Nat → m (Except CkRv (List Bytes)))

/-- `p11prov_obj_export_public_rsa_key` -/
def exportPublicRsaKey : m (Option KeyOsslParams) := do
  match ← attrs [ckaModulus, ckaPublicExponent] with
  | .ok [n, e] => return some [(ascii "n", n.reverse), (ascii "e", e.reverse)]
  | _ => return none

/-- The parameters of the curve: its name, or what its encoding says. -/
def curveParams (named : Bool) (curve : Bytes) : Option KeyOsslParams :=
  if named then some [(ascii "group", curve)]
  else (lib.group curve).bind fun group => ecGroupExplicitToParams (lib.domain group)

/-- `p11prov_obj_export_public_ec_key` -/
def exportPublicEcKey (type : Nat) (paramsOnly : Bool) : m (Option KeyOsslParams) := do
  let pubTypes := if paramsOnly then [] else [ckaP11provPubKey]
  if type = ckkEc then
    match ← attrs [ckaP11provCurveNid] with
    | .ok [nid] =>
      let named := ulongValue nid ≠ 0
      match ← attrs ((if named then ckaP11provCurveName else ckaEcParams) :: pubTypes) with
      | .ok (curve :: pub) =>
        return (curveParams lib named curve).map (pub.map (ascii "pub", ·) ++ ·)
      | _ => return none
    | _ => return none
  else
    match ← attrs pubTypes with
    | .ok pub => return some (pub.map (ascii "pub", ·))
    | .error _ => return none

/-- `p11prov_obj_export_public_ml_key` -/
def exportPublicMlKey : m (Option KeyOsslParams) := do
  match ← attrs [ckaValue] with
  | .ok [value] => return some [(ascii "pub", value)]
  | _ => return none

/-- `p11prov_obj_export_public_key`, of an object of the class with a key of the type; the
    parameters that the callback is called with. -/
def exportPublicKey (cls type keyType : Nat) (searchRelated paramsOnly : Bool) :
    m (Option KeyOsslParams) := do
  if cls ≠ Cko.privateKey ∧ cls ≠ Cko.publicKey then
    return none
  else if keyType ≠ ckUnavailableInformation ∧ keyType ≠ type then
    return none
  else if searchRelated = false ∧ cls ≠ Cko.publicKey then
    return none
  else if type = ckkRsa then
    exportPublicRsaKey attrs
  else if type = ckkEc ∨ type = ckkEcEdwards then
    exportPublicEcKey lib attrs type paramsOnly
  else if type = ckkMlDsa ∨ type = ckkMlKem then
    exportPublicMlKey attrs
  else
    return none

end Export

/-! ## Associated objects -/

/-- The attributes of an associated object, which is given up again. -/
def associatedAttrs (ctx : Ctx) (o : ObjId) (cls : Nat) : P (Option (Nat → Option Bytes)) := do
  match ← objFindAssociated ctx o cls with
  | none => return none
  | some a =>
    let obj ← mem (.loadObj a)
    objFree ctx a
    return some obj.getAttr

/-- `get_public_attrs` -/
def objGetPublicAttrs (ctx : Ctx) (lib : ExportLib) (o : ObjId) (types : List Nat) :
    P (Except CkRv (List Bytes)) := do
  let obj ← mem (.loadObj o)
  getPublicAttrs lib (associatedAttrs ctx o) obj.cls obj.getAttr types

/-- `p11prov_obj_export_public_key` -/
def objExportPublicKey (ctx : Ctx) (lib : ExportLib) (o : ObjId) (keyType : Nat)
    (searchRelated paramsOnly : Bool) : P (Option KeyOsslParams) := do
  let obj ← mem (.loadObj o)
  exportPublicKey lib (objGetPublicAttrs ctx lib o) obj.cls obj.key.type keyType searchRelated
    paramsOnly

/-- What a private key is associated with on the token. -/
structure Associated where
  publicKey : Option (Nat → Option Bytes) := none
  certificate : Option (Nat → Option Bytes) := none

/-- The associated object of a class. -/
def Associated.find (assoc : Associated) (cls : Nat) : Id (Option (Nat → Option Bytes)) :=
  if cls = Cko.publicKey then assoc.publicKey
  else if cls = Cko.certificate then assoc.certificate
  else none

/-- The export of an object of the class with these attributes, where `assoc` is what it is
    associated with. -/
def exportWith (lib : ExportLib) (assoc : Associated) (cls type : Nat) (obj : Nat → Option Bytes)
    (paramsOnly : Bool) : Option KeyOsslParams :=
  exportPublicKey (m := Id) lib (getPublicAttrs lib assoc.find cls obj) cls type
    ckUnavailableInformation true paramsOnly

/-! ## On the token -/

section Gives

variable {S C α β : Type} {R : C → Type} {E : Env S R} {I : S → Prop}

/-- Where `I` holds, a program returns a fixed result, and `I` holds afterwards. -/
def Gives (E : Env S R) (I : S → Prop) (p : Prog R α) (a : α) : Prop :=
  ∀ s, I s → wp E p (fun r s' => r = a ∧ I s') s

theorem Gives.pure {a : α} : Gives E I (Pure.pure a) a := fun _ h => ⟨rfl, h⟩

theorem Gives.bind {p : Prog R α} {a : α} {f : α → Prog R β} {b : β} (hp : Gives E I p a)
    (hf : Gives E I (f a) b) : Gives E I (p >>= f) b := by
  intro s hs
  refine wp.bind (hp s hs) ?_
  rintro _ s' ⟨rfl, hs'⟩
  exact hf s' hs'

end Gives

section Search

variable {E : Env State Cmd.Resp} {I : State → Prop} {lib : ExportLib}

theorem getPublicAttrs_gives {find : Nat → P (Option (Nat → Option Bytes))} {assoc : Associated}
    (hfind : ∀ cls, Gives E I (find cls) (assoc.find cls)) (cls : Nat) (obj : Nat → Option Bytes)
    (types : List Nat) : Gives E I (getPublicAttrs lib find cls obj types)
      (getPublicAttrs (m := Id) lib assoc.find cls obj types) := by
  rw [getPublicAttrs, getPublicAttrs]
  split_ifs
  · exact .pure
  · rcases getAllAttrs obj types with e | values
    · refine .bind (hfind Cko.publicKey) ?_
      simp only [bind, Pure.pure]
      rcases assoc.find Cko.publicKey with _ | pub
      · refine .bind (hfind Cko.certificate) ?_
        rcases assoc.find Cko.certificate with _ | crt
        · exact .pure
        · exact .pure
      · exact .pure
    · exact .pure
  · exact .pure
  · exact .pure

variable {a : List Nat → P (Except CkRv (List Bytes))} {a' : List Nat → Except CkRv (List Bytes)}

theorem exportPublicRsaKey_gives (h : ∀ types, Gives E I (a types) (a' types)) :
    Gives E I (exportPublicRsaKey a) (exportPublicRsaKey (m := Id) a') := by
  rw [exportPublicRsaKey, exportPublicRsaKey]
  refine .bind (h _) ?_
  simp only [bind]
  split
  · exact .pure
  · exact .pure

theorem exportPublicMlKey_gives (h : ∀ types, Gives E I (a types) (a' types)) :
    Gives E I (exportPublicMlKey a) (exportPublicMlKey (m := Id) a') := by
  rw [exportPublicMlKey, exportPublicMlKey]
  refine .bind (h _) ?_
  simp only [bind]
  split
  · exact .pure
  · exact .pure

theorem exportPublicEcKey_gives (h : ∀ types, Gives E I (a types) (a' types)) (type : Nat)
    (paramsOnly : Bool) : Gives E I (exportPublicEcKey lib a type paramsOnly)
      (exportPublicEcKey (m := Id) lib a' type paramsOnly) := by
  rw [exportPublicEcKey, exportPublicEcKey]
  by_cases hec : type = ckkEc
  · simp only [if_pos hec]
    refine .bind (h _) ?_
    simp only [bind]
    split
    · refine .bind (h _) ?_
      split
      · exact .pure
      · exact .pure
    · exact .pure
  · simp only [if_neg hec]
    refine .bind (h _) ?_
    simp only [bind]
    split
    · exact .pure
    · exact .pure

theorem exportPublicKey_gives (h : ∀ types, Gives E I (a types) (a' types))
    (cls type keyType : Nat) (searchRelated paramsOnly : Bool) :
    Gives E I (exportPublicKey lib a cls type keyType searchRelated paramsOnly)
      (exportPublicKey (m := Id) lib a' cls type keyType searchRelated paramsOnly) := by
  rw [exportPublicKey, exportPublicKey]
  split_ifs
  · exact .pure
  · exact .pure
  · exact .pure
  · exact exportPublicRsaKey_gives h
  · exact exportPublicEcKey_gives h type paramsOnly
  · exact exportPublicMlKey_gives h
  · exact .pure

/-- Where the object stays as it is and the searches find what it is associated with, the export
    is that with what it is associated with. -/
theorem objExportPublicKey_gives {O : Oracle} {ctx : Ctx} {o : ObjId} {x : Obj} {assoc : Associated}
    (hobj : ∀ st, I st → ∃ x', st.mem.obj o = some x' ∧ x'.cls = x.cls ∧ x'.key = x.key ∧
      x'.attrs = x.attrs)
    (hfind : ∀ cls, Gives (env O) I (associatedAttrs ctx o cls) (assoc.find cls))
    (paramsOnly : Bool) :
    Gives (env O) I (objExportPublicKey ctx lib o ckUnavailableInformation true paramsOnly)
      (exportWith lib assoc x.cls x.key.type x.getAttr paramsOnly) := by
  have hattrs (types : List Nat) : Gives (env O) I (objGetPublicAttrs ctx lib o types)
      (getPublicAttrs (m := Id) lib assoc.find x.cls x.getAttr types) := by
    intro st hst
    obtain ⟨x', hx', hcls, -, hattrs⟩ := hobj st hst
    have hget : x'.getAttr = x.getAttr := by
      funext type
      rw [Obj.getAttr, Obj.getAttr, hattrs]
    refine wp_loadObj.2 ?_
    rw [hx', Option.getD_some, ← hcls, ← hget]
    exact getPublicAttrs_gives hfind x'.cls x'.getAttr types st hst
  intro st hst
  obtain ⟨x', hx', hcls, hkey, -⟩ := hobj st hst
  refine wp_loadObj.2 ?_
  rw [hx', Option.getD_some]
  change wp (env O) (exportPublicKey lib (objGetPublicAttrs ctx lib o) x'.cls x'.key.type
    ckUnavailableInformation true paramsOnly) _ st
  rw [hcls, hkey]
  exact exportPublicKey_gives hattrs x.cls x.key.type ckUnavailableInformation true paramsOnly st hst

end Search

/-! ## Certificates -/

/-- A public key as OpenSSL reads it: numbers with the least significant byte first, and a name up
    to its end. -/
structure ReadKey where
  n : Option Nat
  e : Option Nat
  group : Option Bytes
  pub : Option Bytes

/-- What OpenSSL reads from the parameters. -/
def KeyOsslParams.read (params : KeyOsslParams) : ReadKey where
  n := (params.find "n").map fun v => BigEndian.value v.reverse
  e := (params.find "e").map fun v => BigEndian.value v.reverse
  group := (params.find "group").map (·.takeWhile (· ≠ 0))
  pub := params.find "pub"

/-- The key of a certificate is the one that the public key object has, and the private key lacks a
    part of it; it does have the number of its curve. -/
inductive CertKey.Matches (own pub : Nat → Option Bytes) : CertKey → Nat → Prop
  | rsa {n e : Bytes} (hown : own ckaModulus = none ∨ own ckaPublicExponent = none)
      (hn : pub ckaModulus = some n) (he : pub ckaPublicExponent = some e) :
      Matches own pub (.rsa (BigEndian.value n) (BigEndian.value e)) ckkRsa
  | named {nid name point : Bytes} (hown : own ckaP11provPubKey = none)
      (hnid : own ckaP11provCurveNid = some nid) (hne : ulongValue nid ≠ 0)
      (hname : pub ckaP11provCurveName = some (name ++ [0])) (hzero : ∀ b ∈ name, b ≠ 0)
      (hlen : name ≠ []) (hpoint : pub ckaP11provPubKey = some point) (hlen' : point ≠ []) :
      Matches own pub (.ec (some name) point) ckkEc
  | explicit {nid point : Bytes} (hown : own ckaP11provPubKey = none)
      (hnid : own ckaP11provCurveNid = some nid) (hzero : ulongValue nid = 0)
      (hpoint : pub ckaP11provPubKey = some point) (hlen : point ≠ []) :
      Matches own pub (.ec none point) ckkEc
  | ed {point : Bytes} (hown : own ckaP11provPubKey = none)
      (hpoint : pub ckaP11provPubKey = some point) (hlen : point ≠ []) :
      Matches own pub (.ed point) ckkEcEdwards

/-- The numbers of the key read the same from both ends, and its curve has a name. -/
def CertKey.Symmetric : CertKey → Prop
  | .rsa n e => (bnNative n).reverse = bnNative n ∧ (bnNative e).reverse = bnNative e
  | .ec group _ => group.isSome = true
  | .ed _ => True
  | .other => False

theorem bnNative_ne_nil (n : Nat) : bnNative n ≠ [] := by
  rw [bnNative]
  split
  · simp
  · rename_i hn
    intro h
    have hv := BigEndian.value_octets (n := n)
    rw [List.reverse_eq_nil_iff.1 h] at hv
    exact hn hv.symm

theorem value_bnNative_reverse (n : Nat) : BigEndian.value (bnNative n).reverse = n := by
  rw [bnNative]
  split
  · rename_i hn
    rw [hn]
    rfl
  · rw [List.reverse_reverse, BigEndian.value_octets]

/-- A number that is turned round once more is the same exactly if it reads the same from both
    ends. -/
theorem value_bnNative_iff (n : Nat) :
    BigEndian.value (bnNative n) = n ↔ (bnNative n).reverse = bnNative n := by
  constructor
  · intro h
    have hback := BigEndian.bytes_value (bnNative n).reverse
    have hforth := BigEndian.bytes_value (bnNative n)
    rw [value_bnNative_reverse, List.length_reverse] at hback
    rw [h] at hforth
    exact hback.symm.trans hforth
  · intro h
    conv_lhs => rw [← h]
    exact value_bnNative_reverse n

variable {lib : ExportLib} {own pub crt : Nat → Option Bytes} {type : Nat} {key : CertKey}
  {der : Bytes}

/-- Where the object itself does not have the attributes, those of the public key are taken. -/
theorem getPublicAttrs_publicKey {types : List Nat} (h : ∃ e, getAllAttrs own types = .error e) :
    getPublicAttrs (m := Id) lib (Associated.find { publicKey := some pub }) Cko.privateKey own types =
      getAllAttrs pub types := by
  obtain ⟨e, he⟩ := h
  rw [getPublicAttrs, he]
  rfl

/-- Where there is no public key either, those of the certificate are taken. -/
theorem getPublicAttrs_certificate {types : List Nat} (h : ∃ e, getAllAttrs own types = .error e) :
    getPublicAttrs (m := Id) lib (Associated.find { certificate := some crt }) Cko.privateKey own
      types = getAttrsFromCert lib.x509 crt types := by
  obtain ⟨e, he⟩ := h
  rw [getPublicAttrs, he]
  rfl

/-- What the object has is taken from it. -/
theorem getPublicAttrs_own {assoc : Associated} {types : List Nat} {values : List Bytes}
    (h : getAllAttrs own types = .ok values) :
    getPublicAttrs (m := Id) lib assoc.find Cko.privateKey own types = .ok values := by
  rw [getPublicAttrs, h]
  rfl

theorem getAllAttrs_eq_ok {obj : Nat → Option Bytes} {types : List Nat} {values : List Bytes} :
    getAllAttrs obj types = .ok values ↔ types.map obj = values.map some := by
  rw [getAllAttrs]
  induction types generalizing values with
  | nil => cases values <;> simp [List.mapM_nil, Pure.pure, Except.pure]
  | cons t types ih =>
    rw [List.mapM_cons, bind_eq_ok]
    cases ht : obj t with
    | none => cases values <;> simp [ht]
    | some v =>
      simp only [Except.ok.injEq, exists_eq_left', bind_eq_ok]
      cases values with
      | nil => simp [Pure.pure, Except.pure]
      | cons w values => simp [ht, ih, Pure.pure, Except.pure, and_comm]

theorem getAllAttrs_lacks {obj : Nat → Option Bytes} {types : List Nat} (ht : type ∈ types)
    (h : obj type = none) : ∃ e, getAllAttrs obj types = .error e := by
  rcases hall : getAllAttrs obj types with e | values
  · exact ⟨e, rfl⟩
  · have hmem : none ∈ types.map obj := h ▸ List.mem_map_of_mem ht
    rw [getAllAttrs_eq_ok.1 hall] at hmem
    simp at hmem

theorem getAttrsFromCert_eq (htype : crt ckaCertificateType = none)
    (hvalue : crt ckaValue = some der) (hder : lib.x509 der = some (some key))
    (hother : key ≠ .other) (types : List Nat) :
    getAttrsFromCert lib.x509 crt types = certKeyAttrs key types := by
  rw [getAttrsFromCert, htype, hvalue]
  simp only [Option.any_none, hder]
  cases key with
  | other => exact absurd rfl hother
  | rsa => rfl
  | ec => rfl
  | ed => rfl

/-- The export from a certificate gives the key of the token's public key object. -/
def CertificateAgrees (lib : ExportLib) (own pub crt : Nat → Option Bytes) (type : Nat) : Prop :=
  ∃ out out',
    exportWith lib { publicKey := some pub } Cko.privateKey type own false = some out ∧
    exportWith lib { certificate := some crt } Cko.privateKey type own false = some out' ∧
    out'.read = out.read

theorem certParams_ok {l : List (Nat × Bytes)} (hne : l ≠ []) (hl : ∀ p ∈ l, p.2 ≠ []) :
    certParams (l.map fun p => (p.1, some p.2)) = .ok l := by
  have hall : (l.map fun p => (p.1, some p.2)).mapM (fun p : Nat × Option Bytes =>
      match p.2 with
      | none => Except.error Ckr.hostMemory
      | some [] => Except.error Ckr.generalError
      | some v => Except.ok (p.1, v)) = .ok l := by
    clear hne
    induction l with
    | nil => rfl
    | cons p l ih =>
      obtain ⟨t, v⟩ := p
      obtain ⟨b, bs, rfl⟩ := List.exists_cons_of_ne_nil (hl (t, v) List.mem_cons_self)
      rw [List.map_cons, List.mapM_cons, ih fun q hq => hl q (List.mem_cons_of_mem _ hq)]
      rfl
  cases l with
  | nil => exact absurd rfl hne
  | cons p l => exact hall

theorem find_of_nodup {l : List (Nat × Bytes)} (h : (l.map (·.1)).Nodup) {p : Nat × Bytes}
    (hp : p ∈ l) : l.find? (·.1 = p.1) = some p := by
  induction l with
  | nil => cases hp
  | cons q l ih =>
    rw [List.map_cons, List.nodup_cons] at h
    rcases List.mem_cons.1 hp with rfl | hp
    · simp
    · have hne : q.1 ≠ p.1 := by
        intro he
        exact h.1 (he ▸ List.mem_map_of_mem hp)
      rw [List.find?_cons_of_neg (by simpa using hne), ih h.2 hp]

/-- A key gives what it is asked for, where it has a value for all of it. -/
theorem certKeyAttrs_ok {l : List (Nat × Bytes)} (hne : l ≠ []) (hl : ∀ p ∈ l, p.2 ≠ [])
    (hkey : ∀ p ∈ l, key.param p.1 = some (some p.2)) (hnodup : (l.map (·.1)).Nodup) :
    certKeyAttrs key (l.map (·.1)) = .ok (l.map (·.2)) := by
  have hparams : (l.map (·.1)).filterMap (fun type => (key.param type).map (type, ·)) =
      l.map fun p => (p.1, some p.2) := by
    rw [List.filterMap_map, ← List.filterMap_eq_map]
    refine List.filterMap_congr fun p hp => ?_
    simp [hkey p hp]
  have hfind (l' : List (Nat × Bytes)) (hl' : l' ⊆ l) : (l'.map (·.1)).mapM (fun type =>
      match l.find? (·.1 = type) with
      | none => Except.error Ckr.argumentsBad
      | some v => Except.ok v.2) = .ok (l'.map (·.2)) := by
    induction l' with
    | nil => rfl
    | cons p l' ih =>
      have hp : l.find? (·.1 = p.1) = some p := find_of_nodup hnodup (hl' List.mem_cons_self)
      rw [List.map_cons, List.mapM_cons, ih fun q hq => hl' (List.mem_cons_of_mem _ hq)]
      simp only [hp]
      rfl
  rw [certKeyAttrs, hparams, certParams_ok hne hl]
  exact hfind l (List.Subset.refl l)

/-! ### What is exported, by the attributes that are read -/

section Read

variable {attrs : List Nat → Id (Except CkRv (List Bytes))} {paramsOnly : Bool}

theorem exportPublicRsaKey_eq {n e : Bytes}
    (h : attrs [ckaModulus, ckaPublicExponent] = .ok [n, e]) :
    exportPublicRsaKey attrs = some [(ascii "n", n.reverse), (ascii "e", e.reverse)] := by
  rw [exportPublicRsaKey, h]
  rfl

theorem exportPublicEcKey_eq {nid curve : Bytes} {pub : List Bytes}
    (hnid : attrs [ckaP11provCurveNid] = .ok [nid])
    (h : attrs ((if ulongValue nid ≠ 0 then ckaP11provCurveName else ckaEcParams) ::
      if paramsOnly then [] else [ckaP11provPubKey]) = .ok (curve :: pub)) :
    exportPublicEcKey lib attrs ckkEc paramsOnly =
      (curveParams lib (ulongValue nid ≠ 0) curve).map (pub.map (ascii "pub", ·) ++ ·) := by
  rw [exportPublicEcKey, hnid]
  simp only [bind, if_true, h]
  rfl

theorem exportPublicEcKey_error {nid : Bytes} {ret : CkRv}
    (hnid : attrs [ckaP11provCurveNid] = .ok [nid])
    (h : attrs ((if ulongValue nid ≠ 0 then ckaP11provCurveName else ckaEcParams) ::
      if paramsOnly then [] else [ckaP11provPubKey]) = .error ret) :
    exportPublicEcKey lib attrs ckkEc paramsOnly = none := by
  rw [exportPublicEcKey, hnid]
  simp only [bind, if_true, h]
  rfl

theorem exportPublicEcKey_edwards {pub : List Bytes}
    (h : attrs (if paramsOnly then [] else [ckaP11provPubKey]) = .ok pub) :
    exportPublicEcKey lib attrs ckkEcEdwards paramsOnly = some (pub.map (ascii "pub", ·)) := by
  have hne : ckkEcEdwards ≠ ckkEc := by decide
  rw [exportPublicEcKey]
  simp only [if_neg hne, h]
  rfl

end Read

theorem read_rsa (n e : Bytes) :
    KeyOsslParams.read [(ascii "n", n.reverse), (ascii "e", e.reverse)] =
      ⟨some (BigEndian.value n), some (BigEndian.value e), none, none⟩ := by
  have hn : KeyOsslParams.find [(ascii "n", n.reverse), (ascii "e", e.reverse)] "n" =
      some n.reverse := rfl
  have he : KeyOsslParams.find [(ascii "n", n.reverse), (ascii "e", e.reverse)] "e" =
      some e.reverse := rfl
  have hgroup : KeyOsslParams.find [(ascii "n", n.reverse), (ascii "e", e.reverse)] "group" =
      none := rfl
  have hpub : KeyOsslParams.find [(ascii "n", n.reverse), (ascii "e", e.reverse)] "pub" =
      none := rfl
  rw [KeyOsslParams.read, hn, he, hgroup, hpub]
  simp only [Option.map_some, Option.map_none, List.reverse_reverse]

theorem read_ec (point curve : Bytes) :
    KeyOsslParams.read [(ascii "pub", point), (ascii "group", curve)] =
      ⟨none, none, some (curve.takeWhile (· ≠ 0)), some point⟩ := rfl

theorem certificateAgrees_rsa {n e : Bytes}
    (hown : own ckaModulus = none ∨ own ckaPublicExponent = none)
    (hn : pub ckaModulus = some n) (he : pub ckaPublicExponent = some e)
    (hcrt : ∀ types, getAttrsFromCert lib.x509 crt types =
      certKeyAttrs (.rsa (BigEndian.value n) (BigEndian.value e)) types) :
    CertificateAgrees lib own pub crt ckkRsa ↔
      CertKey.Symmetric (.rsa (BigEndian.value n) (BigEndian.value e)) := by
  have hlack : ∃ e, getAllAttrs own [ckaModulus, ckaPublicExponent] = .error e := by
    rcases hown with h | h
    · exact getAllAttrs_lacks (by simp) h
    · exact getAllAttrs_lacks (by simp) h
  have hpub : getAllAttrs pub [ckaModulus, ckaPublicExponent] = .ok [n, e] :=
    getAllAttrs_eq_ok.2 (by simp [hn, he])
  have hkey : certKeyAttrs (.rsa (BigEndian.value n) (BigEndian.value e))
      [ckaModulus, ckaPublicExponent] =
        .ok [bnNative (BigEndian.value n), bnNative (BigEndian.value e)] := by
    refine certKeyAttrs_ok (l := [(ckaModulus, bnNative (BigEndian.value n)),
      (ckaPublicExponent, bnNative (BigEndian.value e))]) (by simp) ?_ ?_ (by simp)
    · simp [bnNative_ne_nil]
    · simp [CertKey.param]
  have hout : exportWith lib { publicKey := some pub } Cko.privateKey ckkRsa own false =
      some [(ascii "n", n.reverse), (ascii "e", e.reverse)] :=
    exportPublicRsaKey_eq ((getPublicAttrs_publicKey hlack).trans hpub)
  have hout' : exportWith lib { certificate := some crt } Cko.privateKey ckkRsa own false =
      some [(ascii "n", (bnNative (BigEndian.value n)).reverse),
        (ascii "e", (bnNative (BigEndian.value e)).reverse)] :=
    exportPublicRsaKey_eq ((getPublicAttrs_certificate hlack).trans ((hcrt _).trans hkey))
  constructor
  · rintro ⟨_, _, h, h', hsame⟩
    obtain rfl := Option.some.inj (hout.symm.trans h)
    obtain rfl := Option.some.inj (hout'.symm.trans h')
    rw [read_rsa, read_rsa, ReadKey.mk.injEq, Option.some_inj, Option.some_inj] at hsame
    exact ⟨(value_bnNative_iff _).1 hsame.1, (value_bnNative_iff _).1 hsame.2.1⟩
  · rintro ⟨hn', he'⟩
    refine ⟨_, _, hout, hout', ?_⟩
    rw [read_rsa, read_rsa, (value_bnNative_iff _).2 hn', (value_bnNative_iff _).2 he']

theorem certificateAgrees_named {nid name point : Bytes} (hown : own ckaP11provPubKey = none)
    (hnid : own ckaP11provCurveNid = some nid) (hne : ulongValue nid ≠ 0)
    (hname : pub ckaP11provCurveName = some (name ++ [0])) (hzero : ∀ b ∈ name, b ≠ 0)
    (hlen : name ≠ []) (hpoint : pub ckaP11provPubKey = some point) (hlen' : point ≠ [])
    (hcrt : ∀ types, getAttrsFromCert lib.x509 crt types =
      certKeyAttrs (.ec (some name) point) types) :
    CertificateAgrees lib own pub crt ckkEc := by
  have hlack : ∃ e, getAllAttrs own [ckaP11provCurveName, ckaP11provPubKey] = .error e :=
    getAllAttrs_lacks (by simp) hown
  have hpub : getAllAttrs pub [ckaP11provCurveName, ckaP11provPubKey] = .ok [name ++ [0], point] :=
    getAllAttrs_eq_ok.2 (by simp [hname, hpoint])
  have hkey : certKeyAttrs (.ec (some name) point) [ckaP11provCurveName, ckaP11provPubKey] =
      .ok [name, point] := by
    refine certKeyAttrs_ok (l := [(ckaP11provCurveName, name), (ckaP11provPubKey, point)])
      (by simp) ?_ ?_ (by simp)
    · simp [hlen, hlen']
    · simp [CertKey.param]
  have hnid' : getAllAttrs own [ckaP11provCurveNid] = .ok [nid] :=
    getAllAttrs_eq_ok.2 (by simp [hnid])
  have hout (assoc : Associated) (curve : Bytes)
      (h : getPublicAttrs (m := Id) lib assoc.find Cko.privateKey own
        [ckaP11provCurveName, ckaP11provPubKey] = .ok [curve, point]) :
      exportWith lib assoc Cko.privateKey ckkEc own false =
        some [(ascii "pub", point), (ascii "group", curve)] := by
    have hec : exportWith lib assoc Cko.privateKey ckkEc own false =
        (curveParams lib (ulongValue nid ≠ 0) curve).map ([point].map (ascii "pub", ·) ++ ·) :=
      exportPublicEcKey_eq (getPublicAttrs_own hnid') (by rwa [if_pos hne])
    rw [hec, curveParams, decide_eq_true hne]
    rfl
  have hout₁ := hout { publicKey := some pub } _ ((getPublicAttrs_publicKey hlack).trans hpub)
  have hout₂ := hout { certificate := some crt } _
    ((getPublicAttrs_certificate hlack).trans ((hcrt _).trans hkey))
  have hend : (name ++ [0]).takeWhile (· ≠ 0) = name.takeWhile (· ≠ 0) := by
    have hpos : ∀ b ∈ name, decide (b ≠ 0) = true := fun b hb => decide_eq_true (hzero b hb)
    rw [List.takeWhile_append_of_pos hpos]
    have hself : (name ++ []).takeWhile (· ≠ 0) = name ++ [].takeWhile (· ≠ 0) :=
      List.takeWhile_append_of_pos hpos
    rw [List.append_nil] at hself
    rw [hself]
    simp
  refine ⟨_, _, hout₁, hout₂, ?_⟩
  rw [read_ec, read_ec, hend]

/-- The encoding of a curve without a name is not an attribute that a certificate is asked for. -/
theorem not_certificateAgrees_explicit {nid point : Bytes} (hown : own ckaP11provPubKey = none)
    (hnid : own ckaP11provCurveNid = some nid) (hzero : ulongValue nid = 0)
    (hcrt : ∀ types, getAttrsFromCert lib.x509 crt types = certKeyAttrs (.ec none point) types) :
    ¬CertificateAgrees lib own pub crt ckkEc := by
  rintro ⟨_, out', -, h', -⟩
  have hlack : ∃ e, getAllAttrs own [ckaEcParams, ckaP11provPubKey] = .error e :=
    getAllAttrs_lacks (by simp) hown
  have hkey : ∃ ret, certKeyAttrs (.ec none point) [ckaEcParams, ckaP11provPubKey] = .error ret := by
    rcases point with _ | ⟨b, bs⟩
    · exact ⟨_, rfl⟩
    · exact ⟨_, rfl⟩
  obtain ⟨ret, hkey⟩ := hkey
  have hnid' : getAllAttrs own [ckaP11provCurveNid] = .ok [nid] :=
    getAllAttrs_eq_ok.2 (by simp [hnid])
  have hnone : exportWith lib { certificate := some crt } Cko.privateKey ckkEc own false = none := by
    have herror : getPublicAttrs (m := Id) lib (Associated.find { certificate := some crt })
        Cko.privateKey own [ckaEcParams, ckaP11provPubKey] = .error ret :=
      (getPublicAttrs_certificate hlack).trans ((hcrt _).trans hkey)
    exact exportPublicEcKey_error (getPublicAttrs_own hnid')
      (by rwa [if_neg (not_not_intro hzero)])
  rw [hnone] at h'
  cases h'

theorem certificateAgrees_ed {point : Bytes} (hown : own ckaP11provPubKey = none)
    (hpoint : pub ckaP11provPubKey = some point) (hlen : point ≠ [])
    (hcrt : ∀ types, getAttrsFromCert lib.x509 crt types = certKeyAttrs (.ed point) types) :
    CertificateAgrees lib own pub crt ckkEcEdwards := by
  have hlack : ∃ e, getAllAttrs own [ckaP11provPubKey] = .error e :=
    getAllAttrs_lacks (by simp) hown
  have hpub : getAllAttrs pub [ckaP11provPubKey] = .ok [point] :=
    getAllAttrs_eq_ok.2 (by simp [hpoint])
  have hkey : certKeyAttrs (.ed point) [ckaP11provPubKey] = .ok [point] := by
    refine certKeyAttrs_ok (l := [(ckaP11provPubKey, point)]) (by simp) ?_ ?_ (by simp)
    · simp [hlen]
    · simp [CertKey.param]
  have hout (assoc : Associated)
      (h : getPublicAttrs (m := Id) lib assoc.find Cko.privateKey own [ckaP11provPubKey] =
        .ok [point]) :
      exportWith lib assoc Cko.privateKey ckkEcEdwards own false = some [(ascii "pub", point)] := by
    have hed : exportPublicEcKey lib (getPublicAttrs (m := Id) lib assoc.find Cko.privateKey own)
        ckkEcEdwards false = some ([point].map (ascii "pub", ·)) := exportPublicEcKey_edwards h
    exact hed
  exact ⟨_, _, hout { publicKey := some pub } ((getPublicAttrs_publicKey hlack).trans hpub),
    hout { certificate := some crt } ((getPublicAttrs_certificate hlack).trans ((hcrt _).trans hkey)),
    rfl⟩

/-- A private key is exported with the same public key from the public key object and from the
    certificate exactly if the curve has a name and the numbers read the same from both ends. -/
theorem export_certificate_iff (hkey : key.Matches own pub type)
    (htype : crt ckaCertificateType = none) (hvalue : crt ckaValue = some der)
    (hder : lib.x509 der = some (some key)) :
    CertificateAgrees lib own pub crt type ↔ key.Symmetric := by
  have hcrt (hother : key ≠ .other) := getAttrsFromCert_eq htype hvalue hder hother
  cases hkey with
  | rsa hown hn he => exact certificateAgrees_rsa hown hn he (hcrt (by simp))
  | named hown hnid hne hname hzero hlen hpoint hlen' =>
    exact iff_of_true (certificateAgrees_named hown hnid hne hname hzero hlen hpoint hlen'
      (hcrt (by simp))) rfl
  | explicit hown hnid hzero hpoint hlen =>
    exact iff_of_false (not_certificateAgrees_explicit hown hnid hzero (hcrt (by simp))) (by
      simp [CertKey.Symmetric])
  | ed hown hpoint hlen =>
    exact iff_of_true (certificateAgrees_ed hown hpoint hlen (hcrt (by simp))) trivial

/-- A certificate with an RSA key, and an OpenSSL that reads nothing else. -/
def crtLib (n e : Nat) : ExportLib where
  toEcLib := noEcLib
  domain _ := { fieldType := 0, curve := none, order := none, generator := none, cofactor := none
                seed := none }
  x509 _ := some (some (.rsa n e))

/-- The key has the modulus 258 and the exponent 3. -/
theorem export_certificate_258 : ¬CertificateAgrees (crtLib 258 3) (fun _ => none)
    (fun type => if type = ckaModulus then some [1, 2] else if type = ckaPublicExponent then some [3]
      else none)
    (fun type => if type = ckaValue then some [] else none) ckkRsa := by
  intro h
  have hsymm := (export_certificate_iff (.rsa (.inl rfl) rfl rfl) rfl rfl rfl).1 h
  have hn : bnNative (BigEndian.value [1, 2]) = [2, 1] := by
    simp [bnNative, BigEndian.value, Der.octets]
  rw [CertKey.Symmetric, hn] at hsymm
  exact absurd hsymm.1 (by decide)

end P11Prov
