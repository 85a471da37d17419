import Mathlib.Logic.Function.Iterate
import P11Prov.Object.EcPoint
import P11Prov.Sequence.Cursor
import P11Prov.Store

/-!
# Loading from the store

The first `p11prov_store_load` of a context lets `store_fetch` collect the
objects. Every load then goes on to the next object that the search filters let
through and hands it to the callback, unless its type has no name. A caller loads
until `p11prov_store_eof`, as `p11prov_store_direct_fetch` does.

A context is modelled with the objects it was delivered as they are, and with
what was handed to the callback so far.
-/

namespace P11Prov

open Interaction

/-- What OpenSSL reads, whether it knows objects that are secret keys (`OSSL_OBJECT_SKEY`), and
    `p11prov_obj_is_rsa_pss`. -/
structure StoreLib (ν : Type) where
  d2iX509Name : Bytes → Option ν
  x509NameCmp : ν → ν → Int
  /-- `d2i_ASN1_INTEGER` and `ASN1_INTEGER_to_BN` -/
  asn1Integer : Bytes → Option Int
  skey : Bool
  isRsaPss : Obj → Bool

/-- The search filters set via parameters. -/
structure StoreSearch where
  subject : Option Bytes := none
  issuer : Option Bytes := none
  serial : Option Int := none
  aliasName : Option Bytes := none

/-- The bytes of a C string. -/
def cStr (s : Bytes) : Bytes := s.takeWhile (· ≠ 0)

/-- What the callback gets: the parameters type, data type, and reference or data. -/
inductive StoreInfo where
  | pkey (dataType : String) (reference : Obj)
  | skey (dataType : String) (reference : Obj)
  | cert (dataType : String) (data : Bytes)

/-! ## The functions -/

section Functions

variable {ν : Type} (lib : StoreLib ν) (search : StoreSearch)

/-- `p11prov_x509_names_are_equal` -/
def x509NamesAreEqual (a b : Bytes) : Bool :=
  match lib.d2iX509Name a with
  | none => false
  | some xa =>
    match lib.d2iX509Name b with
    | none => false
    | some xb => lib.x509NameCmp xa xb = 0

/-- One filter for a name. -/
def nameMatches (filter : Option Bytes) (type : Nat) (obj : Obj) : Bool :=
  match filter with
  | none => true
  | some name =>
    match obj.getAttr type with
    | none => false
    | some attr => x509NamesAreEqual lib name attr

/-- The filter for the serial number, which compares magnitudes. -/
def serialMatches (obj : Obj) : Bool :=
  match search.serial with
  | none => true
  | some serial =>
    match obj.getAttr ckaSerialNumber with
    | none => false
    | some val =>
      match lib.asn1Integer val with
      | none => false
      | some bn => serial.natAbs = bn.natAbs

/-- The filter for the label. -/
def aliasMatches (obj : Obj) : Bool :=
  match search.aliasName with
  | none => true
  | some name =>
    match obj.getAttr ckaLabel with
    | none => false
    | some label => cStr name = cStr label

/-- An object that the loop of `p11prov_store_load` does not skip. -/
def storeMatches (obj : Obj) : Bool :=
  if obj.cls = Cko.certificate then
    nameMatches lib search.subject ckaSubject obj && nameMatches lib search.issuer ckaIssuer obj &&
      serialMatches lib search obj
  else if obj.cls = Cko.publicKey ∨ obj.cls = Cko.privateKey then aliasMatches search obj
  else if lib.skey ∧ obj.cls = Cko.secretKey then aliasMatches search obj
  else false

/-- The name of the type of a public or private key. -/
def pkeyDataType (obj : Obj) : Option String :=
  if obj.key.type = ckkRsa then some (if lib.isRsaPss obj then "RSA-PSS" else "RSA")
  else if obj.key.type = ckkEc then some "EC"
  else if obj.key.type = ckkEcEdwards then
    match obj.key.bitSize with
    | 456 => some "ED448"
    | 256 => some "ED25519"
    | _ => none
  else if obj.key.type = ckkMlDsa then
    match obj.key.paramSet with
    | 1 => some "ML-DSA-44"
    | 2 => some "ML-DSA-65"
    | 3 => some "ML-DSA-87"
    | _ => none
  else if obj.key.type = ckkMlKem then
    match obj.key.paramSet with
    | 1 => some "ML-KEM-512"
    | 2 => some "ML-KEM-768"
    | 3 => some "ML-KEM-1024"
    | _ => none
  else none

/-- What the second half of `p11prov_store_load` hands to the callback, if anything. -/
def storeInfo (obj : Obj) : Option StoreInfo :=
  if obj.cls = Cko.publicKey ∨ obj.cls = Cko.privateKey then
    (pkeyDataType lib obj).map (.pkey · obj)
  else if lib.skey ∧ obj.cls = Cko.secretKey then
    if obj.key.type = ckkGenericSecret then some (.skey "GENERIC-SECRET" obj)
    else if obj.key.type = ckkAes then some (.skey "AES" obj)
    else none
  else if obj.cls = Cko.certificate then (obj.getAttr ckaValue).map (.cert "CERTIFICATE")
  else none

/-- What `store_fetch` leaves: the objects, and whether it succeeded (`loaded` is 1 or -1). -/
structure Delivery where
  objects : List Obj
  ok : Bool

/-- `struct p11prov_store_ctx`, with what the callback was called with so far. -/
structure StoreIter where
  search : StoreSearch
  loaded : Int := 0
  objects : List Obj := []
  fetched : Nat := 0
  handed : List StoreInfo := []

/-- A callback, whose answer may depend on what it got before. -/
abbrev ObjectCb := List StoreInfo → StoreInfo → Nat

/-- The first load calls `store_fetch`. -/
def StoreIter.fetch (d : Delivery) (it : StoreIter) : StoreIter :=
  if it.loaded = 0 then { it with loaded := if d.ok then 1 else -1, objects := d.objects } else it

/-- `p11prov_store_load` -/
def storeLoad (d : Delivery) (cb : ObjectCb) (it : StoreIter) : Nat × StoreIter :=
  let it := it.fetch d
  if it.loaded ≠ 1 then (retOsslErr, it)
  else
    let next := nextFit (storeMatches lib it.search) (it.objects.drop it.fetched)
    let it := { it with fetched := it.fetched + next.2 }
    match next.1.bind (storeInfo lib) with
    | none => (retOsslErr, it)
    | some info => (cb it.handed info, { it with handed := it.handed ++ [info] })

/-- `p11prov_store_eof` -/
def storeEof (it : StoreIter) : Bool :=
  it.loaded = -1 || (it.loaded ≠ 0 && it.objects.length ≤ it.fetched)

/-- The loop of `p11prov_store_direct_fetch`, for at most so many rounds. -/
def directFetchLoop (d : Delivery) (cb : ObjectCb) : Nat → Nat → StoreIter → Option (Nat × StoreIter)
  | 0, _, _ => none
  | n + 1, ret, it =>
    let (loadRet, it) := storeLoad lib d cb it
    let ret := if loadRet ≠ retOsslOk then retOsslErr else ret
    if storeEof it then some (ret, it) else directFetchLoop d cb n ret it

/-- The context after so many loads. -/
def storeLoads (d : Delivery) (cb : ObjectCb) (n : Nat) : StoreIter :=
  (fun it => (storeLoad lib d cb it).2)^[n] { search }

end Functions

/-! ## What is expected -/

section Expected

variable {ν : Type} (lib : StoreLib ν) (search : StoreSearch)

/-- Two encodings of one name. -/
def SameName (a b : Bytes) : Prop :=
  ∃ x y, lib.d2iX509Name a = some x ∧ lib.d2iX509Name b = some y ∧ lib.x509NameCmp x y = 0

/-- The object satisfies the filters of its class: names, serial number and label, as far as they
    are searched for. -/
structure Satisfies (obj : Obj) : Prop where
  subject : obj.cls = Cko.certificate → ∀ name ∈ search.subject, ∃ attr,
    obj.getAttr ckaSubject = some attr ∧ SameName lib name attr
  issuer : obj.cls = Cko.certificate → ∀ name ∈ search.issuer, ∃ attr,
    obj.getAttr ckaIssuer = some attr ∧ SameName lib name attr
  serial : obj.cls = Cko.certificate → ∀ serial ∈ search.serial, ∃ val bn,
    obj.getAttr ckaSerialNumber = some val ∧ lib.asn1Integer val = some bn ∧
      serial.natAbs = bn.natAbs
  aliasName : obj.cls ≠ Cko.certificate → ∀ name ∈ search.aliasName, ∃ label,
    obj.getAttr ckaLabel = some label ∧ cStr name = cStr label

/-- A public or a private key. -/
def Obj.IsPkey (obj : Obj) : Prop := obj.cls = Cko.publicKey ∨ obj.cls = Cko.privateKey

/-- The types that are supported, and what OpenSSL gets for an object of each: a key with the name
    of its type, or the value of a certificate. -/
inductive Supports (obj : Obj) : StoreInfo → Prop
  | rsa (hcls : obj.IsPkey) (htype : obj.key.type = ckkRsa) (hpss : lib.isRsaPss obj = false) :
    Supports obj (.pkey "RSA" obj)
  | rsaPss (hcls : obj.IsPkey) (htype : obj.key.type = ckkRsa) (hpss : lib.isRsaPss obj = true) :
    Supports obj (.pkey "RSA-PSS" obj)
  | ec (hcls : obj.IsPkey) (htype : obj.key.type = ckkEc) : Supports obj (.pkey "EC" obj)
  | edwards {size : Nat} {name : String} (hcls : obj.IsPkey) (htype : obj.key.type = ckkEcEdwards)
    (hsize : obj.key.bitSize = size)
    (hname : (size, name) ∈ [(456, "ED448"), (256, "ED25519")]) :
    Supports obj (.pkey name obj)
  | mlDsa {paramSet : Nat} {name : String} (hcls : obj.IsPkey) (htype : obj.key.type = ckkMlDsa)
    (hset : obj.key.paramSet = paramSet)
    (hname : (paramSet, name) ∈ [(1, "ML-DSA-44"), (2, "ML-DSA-65"), (3, "ML-DSA-87")]) :
    Supports obj (.pkey name obj)
  | mlKem {paramSet : Nat} {name : String} (hcls : obj.IsPkey) (htype : obj.key.type = ckkMlKem)
    (hset : obj.key.paramSet = paramSet)
    (hname : (paramSet, name) ∈ [(1, "ML-KEM-512"), (2, "ML-KEM-768"), (3, "ML-KEM-1024")]) :
    Supports obj (.pkey name obj)
  | generic (hlib : lib.skey = true) (hcls : obj.cls = Cko.secretKey)
    (htype : obj.key.type = ckkGenericSecret) : Supports obj (.skey "GENERIC-SECRET" obj)
  | aes (hlib : lib.skey = true) (hcls : obj.cls = Cko.secretKey)
    (htype : obj.key.type = ckkAes) : Supports obj (.skey "AES" obj)
  | cert {data : Bytes} (hcls : obj.cls = Cko.certificate) (hdata : obj.getAttr ckaValue = some data) :
    Supports obj (.cert "CERTIFICATE" data)

open Classical in
/-- What OpenSSL gets for an object, if its type is supported. -/
noncomputable def supported (obj : Obj) : Option StoreInfo :=
  if h : ∃ info, Supports lib obj info then some h.choose else none

open Classical in
/-- What is to be handed to the callback: the objects that satisfy the filters of their class and
    have a supported type. -/
noncomputable def wanted (objects : List Obj) : List StoreInfo :=
  (objects.filter fun obj => Satisfies lib search obj).filterMap (supported lib)

/-- Loading until the end terminates and hands out exactly what is wanted, in order, and the end is
    where every object was visited or the loading failed. -/
structure IteratesOnce (d : Delivery) (cb : ObjectCb) : Prop where
  ends : ∃ n ≤ d.objects.length + 1, storeEof (storeLoads lib search d cb n) = true
  handed : ∀ n, storeEof (storeLoads lib search d cb n) = true →
    (storeLoads lib search d cb n).handed = if d.ok then wanted lib search d.objects else []
  visited : ∀ n, d.ok = true → (storeLoads lib search d cb n).handed =
    wanted lib search (d.objects.take (storeLoads lib search d cb n).fetched)
  eof : ∀ n, storeEof (storeLoads lib search d cb n) = true ↔
    0 < n ∧ (d.ok = false ∨ (storeLoads lib search d cb n).fetched = d.objects.length)
  direct : ∀ m, d.objects.length < m → ∃ ret n, directFetchLoop lib d cb m retOsslOk { search } =
    some (ret, storeLoads lib search d cb n) ∧ storeEof (storeLoads lib search d cb n) = true

end Expected

variable {ν : Type} {lib : StoreLib ν} {search : StoreSearch} {obj : Obj} {d : Delivery}
  {cb : ObjectCb} {it : StoreIter} {n : Nat}

/-! ## What is delivered -/

section Delivered

variable {O : Oracle} {ctx : Ctx} {s : SessId} {sc : StoreCtx} {st : State} {login pwCb : Bool}

/-- What `store_fetch` left in its context. -/
def StoreCtx.delivery (sc : StoreCtx) (m : Mem) : Delivery :=
  { objects := sc.objects.map fun o => (m.obj o).getD .freed, ok := sc.loaded = 1 }

/-- `loaded` has one of its three values. -/
def StoreCtx.Tristate (sc : StoreCtx) : Prop := sc.loaded = 0 ∨ sc.loaded = 1 ∨ sc.loaded = -1

theorem addObjects_loaded {ret : CkRv} {handles : List ObjectHandle} :
    wp (env O) (addObjects ctx s ret handles sc) (fun r _ => r.2.loaded = sc.loaded) st := by
  induction handles generalizing sc st with
  | nil => rfl
  | cons handle handles ih =>
    refine wp.bind wp_true ?_
    rintro (code | o) st₁ -
    · exact wp_ite.2 ⟨fun _ => ih, fun _ => rfl⟩
    · refine wp.bind wp_true fun copied st₂ _ => wp.bind wp_true fun _ st₃ _ => ?_
      have hadd : wp (env O) (storeCtxAddObj ctx sc o) (fun r _ => r.2.loaded = sc.loaded) st₃ := by
        refine wp_ite.2 ⟨fun _ => ?_, fun _ => ?_⟩ <;>
          refine wp.bind wp_true fun room st₄ _ => wp_ite.2 ⟨fun _ => ?_, fun _ => ?_⟩
        · rfl
        · exact wp.bind wp_true fun _ _ _ => rfl
        · rfl
        · exact wp.bind wp_true fun _ _ _ => rfl
      refine wp.bind hadd ?_
      rintro ⟨code, sc'⟩ st₄ hsc
      refine wp_ite.2 ⟨fun _ => hsc, fun _ => ?_⟩
      exact wp_mono ih fun _ _ h => h.trans hsc

theorem objFind_loaded : wp (env O) (objFind ctx s sc) (fun r _ => r.2.loaded = sc.loaded) st := by
  refine wp_ite.2 ⟨fun _ => rfl, fun _ => ?_⟩
  refine wp.bind wp_true fun h st₁ _ => wp.bind wp_true fun ret st₂ _ => ?_
  refine wp_ite.2 ⟨fun _ => rfl, fun _ => ?_⟩
  refine wp.bind wp_true ?_
  rintro (_ | ⟨result, handles⟩) st₃ - <;> refine wp.bind wp_true fun _ st₄ _ => ?_
  · rfl
  · exact addObjects_loaded

theorem storeRound_tristate {slotid : SlotId} (h : sc.Tristate) :
    wp (env O) (storeRound ctx pwCb login sc slotid) (fun r _ => r.2.1.Tristate) st := by
  refine wp.bind wp_true fun _ st₁ _ => wp.bind wp_true ?_
  rintro ⟨steps, ret | s, cur⟩ st₂ -
  · show StoreCtx.Tristate { sc with session := none, loaded := if pwCb ∧ sc.loaded = 0 then -1 else
      sc.loaded }
    by_cases hc : pwCb = true ∧ sc.loaded = 0
    · exact .inr (.inr (if_pos hc))
    · rw [if_neg hc]
      exact h
  · refine wp.bind objFind_loaded ?_
    rintro ⟨ret, sc'⟩ st₃ hsc
    show StoreCtx.Tristate { sc' with loaded := if ret = Ckr.ok then 1 else sc'.loaded }
    by_cases hc : ret = Ckr.ok
    · exact .inr (.inl (if_pos hc))
    · rw [if_neg hc, hsc]
      exact h

theorem storePass_tristate {slotid : SlotId} (h : sc.Tristate) :
    wp (env O) (storePass ctx pwCb login n sc slotid) (fun r _ => ∀ sc' ∈ r.2, sc'.Tristate) st := by
  induction n generalizing sc slotid st with
  | zero =>
    rintro sc' ⟨⟩
  | succ n ih =>
    refine wp.bind (storeRound_tristate h) ?_
    rintro ⟨steps, sc₁, cur⟩ st₁ h₁
    refine wp_ite.2 ⟨fun _ => wp.bind (ih h₁) fun _ _ h₂ => h₂, fun _ => ?_⟩
    rintro sc' ⟨⟩
    exact h₁

theorem storeDone_loaded (h : sc.Tristate) :
    (storeDone sc).loaded = 1 ∨ (storeDone sc).loaded = -1 := by
  rw [storeDone]
  by_cases h0 : sc.loaded = 0
  · rw [if_pos h0]
    exact .inr rfl
  · rw [if_neg h0]
    exact h.resolve_left h0

/-- `store_fetch` leaves `loaded` as the first load of a context takes it from what is delivered. -/
theorem storeFetch_delivers (h : sc.loaded = 0) {it : StoreIter} (hit : it.loaded = 0) :
    wp (env O) (storeFetch ctx pwCb n sc) (fun r st' => ∀ sc' ∈ r.2,
      (it.fetch (sc'.delivery st'.mem)).loaded = sc'.loaded) st := by
  have hdone {sc' : StoreCtx} (h : sc'.loaded = 1 ∨ sc'.loaded = -1) (m : Mem) :
      (it.fetch (sc'.delivery m)).loaded = sc'.loaded := by
    rw [StoreIter.fetch, if_pos hit]
    rcases h with h | h <;> simp [StoreCtx.delivery, h]
  refine wp.bind (storePass_tristate (.inl h)) ?_
  rintro ⟨steps, _ | sc₁⟩ st₁ h₁
  · rintro sc' ⟨⟩
  · refine wp_ite.2 ⟨fun _ => wp.bind (storePass_tristate (.inl rfl)) ?_, fun _ => ?_⟩
    · rintro ⟨again, _ | sc₂⟩ st₂ h₂
      · rintro sc' ⟨⟩
      · rintro sc' ⟨⟩
        exact hdone (storeDone_loaded (h₂ sc₂ rfl)) _
    · rintro sc' ⟨⟩
      exact hdone (storeDone_loaded (h₁ sc₁ rfl)) _

end Delivered

/-! ## The filters -/

theorem x509NamesAreEqual_iff {a b : Bytes} : x509NamesAreEqual lib a b = true ↔ SameName lib a b := by
  rw [x509NamesAreEqual, SameName]
  cases ha : lib.d2iX509Name a with
  | none => simp
  | some x =>
    cases hb : lib.d2iX509Name b with
    | none => simp
    | some y => simp

theorem nameMatches_iff {filter : Option Bytes} {type : Nat} : nameMatches lib filter type obj = true ↔
    ∀ name ∈ filter, ∃ attr, obj.getAttr type = some attr ∧ SameName lib name attr := by
  unfold nameMatches
  cases filter with
  | none => simp
  | some name =>
    cases obj.getAttr type with
    | none => simp
    | some attr => simp [x509NamesAreEqual_iff]

theorem serialMatches_iff : serialMatches lib search obj = true ↔ ∀ serial ∈ search.serial, ∃ val bn,
    obj.getAttr ckaSerialNumber = some val ∧ lib.asn1Integer val = some bn ∧
      serial.natAbs = bn.natAbs := by
  unfold serialMatches
  cases search.serial with
  | none => simp
  | some serial =>
    cases obj.getAttr ckaSerialNumber with
    | none => simp
    | some val => cases h : lib.asn1Integer val <;> simp [h]

theorem aliasMatches_iff : aliasMatches search obj = true ↔ ∀ name ∈ search.aliasName, ∃ label,
    obj.getAttr ckaLabel = some label ∧ cStr name = cStr label := by
  unfold aliasMatches
  cases search.aliasName with
  | none => simp
  | some name => cases obj.getAttr ckaLabel <;> simp

theorem Supports.of_pkeyDataType (hcls : obj.IsPkey) {name : String}
    (h : pkeyDataType lib obj = some name) : Supports lib obj (.pkey name obj) := by
  unfold pkeyDataType at h
  split at h
  · rename_i htype
    obtain rfl := Option.some.inj h
    cases hpss : lib.isRsaPss obj with
    | false => exact .rsa hcls htype hpss
    | true => exact .rsaPss hcls htype hpss
  split at h
  · rename_i htype
    obtain rfl := Option.some.inj h
    exact .ec hcls htype
  split at h
  · rename_i htype
    refine .edwards hcls htype rfl ?_
    split at h <;> simp_all
  split at h
  · rename_i htype
    refine .mlDsa hcls htype rfl ?_
    split at h <;> simp_all
  split at h
  · rename_i htype
    refine .mlKem hcls htype rfl ?_
    split at h <;> simp_all
  · cases h

theorem Supports.of_storeInfo {info : StoreInfo} (h : storeInfo lib obj = some info) :
    Supports lib obj info := by
  unfold storeInfo at h
  split at h
  · rename_i hcls
    obtain ⟨name, hname, rfl⟩ := Option.map_eq_some_iff.1 h
    exact .of_pkeyDataType hcls hname
  split at h
  · rename_i hcls
    split at h
    · rename_i htype
      obtain rfl := Option.some.inj h
      exact .generic hcls.1 hcls.2 htype
    split at h
    · rename_i htype
      obtain rfl := Option.some.inj h
      exact .aes hcls.1 hcls.2 htype
    · cases h
  split at h
  · rename_i hcls
    obtain ⟨data, hdata, rfl⟩ := Option.map_eq_some_iff.1 h
    exact .cert hcls hdata
  · cases h

/-- A load hands out exactly the objects of the types that are supported. -/
theorem storeInfo_eq_some_iff {info : StoreInfo} :
    storeInfo lib obj = some info ↔ Supports lib obj info := by
  refine ⟨.of_storeInfo, fun h => ?_⟩
  have hpkey : ∀ {name}, obj.IsPkey → pkeyDataType lib obj = some name →
      storeInfo lib obj = some (.pkey name obj) := by
    intro name hcls hname
    rw [storeInfo, if_pos (show obj.cls = Cko.publicKey ∨ obj.cls = Cko.privateKey from hcls), hname,
      Option.map_some]
  cases h with
  | rsa hcls htype hpss | rsaPss hcls htype hpss =>
    exact hpkey hcls (by simp [pkeyDataType, htype, hpss])
  | ec hcls htype => exact hpkey hcls (by simp [pkeyDataType, htype])
  | edwards hcls htype hsize hname =>
    refine hpkey hcls ?_
    simp only [List.mem_cons, Prod.mk.injEq, List.not_mem_nil, or_false] at hname
    rcases hname with ⟨rfl, rfl⟩ | ⟨rfl, rfl⟩ <;> simp [pkeyDataType, htype, hsize]
  | mlDsa hcls htype hset hname | mlKem hcls htype hset hname =>
    refine hpkey hcls ?_
    simp only [List.mem_cons, Prod.mk.injEq, List.not_mem_nil, or_false] at hname
    rcases hname with ⟨rfl, rfl⟩ | ⟨rfl, rfl⟩ | ⟨rfl, rfl⟩ <;> simp [pkeyDataType, htype, hset]
  | generic hlib hcls htype | aes hlib hcls htype => simp [storeInfo, hlib, hcls, htype]
  | cert hcls hdata => simp [storeInfo, hcls, hdata]

theorem supported_eq : supported lib = storeInfo lib := by
  funext obj
  rw [supported]
  split
  · rename_i h
    exact (storeInfo_eq_some_iff.2 h.choose_spec).symm
  · rename_i h
    refine (Option.eq_none_iff_forall_ne_some.2 fun info hinfo => h ?_).symm
    exact ⟨info, storeInfo_eq_some_iff.1 hinfo⟩

/-- For an object whose type has a name, the loop decides the filters of its class. -/
theorem storeMatches_iff (h : (storeInfo lib obj).isSome = true) :
    storeMatches lib search obj = true ↔ Satisfies lib search obj := by
  rw [storeMatches]
  by_cases hcert : obj.cls = Cko.certificate
  · rw [if_pos hcert, Bool.and_eq_true, Bool.and_eq_true, nameMatches_iff, nameMatches_iff,
      serialMatches_iff]
    exact ⟨fun h => ⟨fun _ => h.1.1, fun _ => h.1.2, fun _ => h.2, fun hne => absurd hcert hne⟩,
      fun h => ⟨⟨h.subject hcert, h.issuer hcert⟩, h.serial hcert⟩⟩
  · have halias : aliasMatches search obj = true ↔ Satisfies lib search obj :=
      aliasMatches_iff.trans ⟨fun h => ⟨fun h => absurd h hcert, fun h => absurd h hcert,
        fun h => absurd h hcert, fun _ => h⟩, fun h => h.aliasName hcert⟩
    rw [if_neg hcert]
    by_cases hkey : obj.cls = Cko.publicKey ∨ obj.cls = Cko.privateKey
    · rw [if_pos hkey, halias]
    · rw [if_neg hkey]
      by_cases hskey : lib.skey ∧ obj.cls = Cko.secretKey
      · rw [if_pos hskey, halias]
      · rw [storeInfo, if_neg hkey, if_neg hskey, if_neg hcert] at h
        cases h

theorem wanted_eq (objects : List Obj) : wanted lib search objects =
    (objects.filter (storeMatches lib search)).filterMap (storeInfo lib) := by
  rw [wanted, supported_eq]
  induction objects with
  | nil => rfl
  | cons obj objects ih =>
    rw [List.filter_cons, List.filter_cons]
    cases h : storeInfo lib obj with
    | none =>
      split <;> split <;> simp only [List.filterMap_cons, h, ih]
    | some info =>
      have hiff : storeMatches lib search obj = true ↔ Satisfies lib search obj :=
        storeMatches_iff (h ▸ rfl)
      by_cases hm : storeMatches lib search obj = true
      · rw [if_pos hm, if_pos (by simpa using hiff.1 hm)]
        simp only [List.filterMap_cons, h, ih]
      · have hs : ¬Satisfies lib search obj := fun hs => hm (hiff.2 hs)
        rw [if_neg hm, if_neg (by simpa using hs), ih]

theorem wanted_append (l l' : List Obj) :
    wanted lib search (l ++ l') = wanted lib search l ++ wanted lib search l' := by
  simp only [wanted_eq, List.filter_append, List.filterMap_append]

/-! ## Loading until the end -/

/-- A context with its objects: so much of what was delivered was visited, and what of it was wanted
    was handed out. -/
structure Loading (lib : StoreLib ν) (search : StoreSearch) (d : Delivery) (it : StoreIter) :
    Prop where
  filters : it.search = search
  loaded : it.loaded = if d.ok then 1 else -1
  objects : it.objects = d.objects
  fetched : it.fetched ≤ d.objects.length
  failed : d.ok = false → it.handed = []
  handed : d.ok = true → it.handed = wanted lib search (d.objects.take it.fetched)

theorem loading_fetch : Loading lib search d (StoreIter.fetch d { search }) :=
  ⟨rfl, rfl, rfl, Nat.zero_le _, fun _ => rfl, fun _ => by rw [wanted_eq]; rfl⟩

theorem Loading.fetch_eq (h : Loading lib search d it) : it.fetch d = it := by
  have hne : it.loaded ≠ 0 := by
    rw [h.loaded]
    split <;> decide
  exact if_neg hne

/-- A load where there are objects. -/
theorem storeLoad_eq (h : (it.fetch d).loaded = 1) : (storeLoad lib d cb it).2 = { it.fetch d with
    fetched := (it.fetch d).fetched +
      (nextFit (storeMatches lib (it.fetch d).search)
        ((it.fetch d).objects.drop (it.fetch d).fetched)).2
    handed := (it.fetch d).handed ++
      ((nextFit (storeMatches lib (it.fetch d).search)
        ((it.fetch d).objects.drop (it.fetch d).fetched)).1.bind (storeInfo lib)).toList } := by
  rw [storeLoad]
  simp only [h, ne_eq, not_true_eq_false, if_false]
  split
  · rename_i hnone
    simp [hnone]
  · rename_i info hsome
    simp [hsome]

/-- A load visits one object more, if there is any, and hands out what of it is wanted. -/
theorem Loading.load (h : Loading lib search d (it.fetch d)) (cb : ObjectCb) :
    Loading lib search d (storeLoad lib d cb it).2 ∧ (d.ok = true →
      (storeLoad lib d cb it).2.fetched = d.objects.length ∨
        (it.fetch d).fetched < (storeLoad lib d cb it).2.fetched) := by
  by_cases hok : d.ok = true
  · have hloaded : (it.fetch d).loaded = 1 := by rw [h.loaded, if_pos hok]
    rw [storeLoad_eq hloaded, h.filters, h.objects]
    have hlen : (d.objects.drop (it.fetch d).fetched).length =
      d.objects.length - (it.fetch d).fetched := List.length_drop
    have hle := nextFit_le (p := storeMatches lib search) (l := d.objects.drop (it.fetch d).fetched)
    have hfits := filter_take_nextFit (p := storeMatches lib search)
      (l := d.objects.drop (it.fetch d).fetched)
    have hfetched := h.fetched
    refine ⟨⟨h.filters, h.loaded, h.objects, ?_, fun hno => ?_, fun _ => ?_⟩, fun _ => ?_⟩
    · rw [hlen] at hle
      simp only
      omega
    · rw [hok] at hno
      cases hno
    · simp only [h.handed hok, List.take_add, wanted_append]
      rw [wanted_eq (List.take _ (List.drop _ _)), hfits]
      cases (nextFit (storeMatches lib search) (d.objects.drop (it.fetch d).fetched)).1 with
      | none => rfl
      | some obj => cases hinfo : storeInfo lib obj <;> simp [hinfo]
    · by_cases hend : (it.fetch d).fetched = d.objects.length
      · refine .inl ?_
        rw [hlen] at hle
        simp only
        omega
      · refine .inr (Nat.lt_add_of_pos_right (nextFit_pos fun hnil => hend ?_))
        rw [hnil] at hlen
        have hzero : ([] : List Obj).length = 0 := rfl
        omega
  · have hne : (it.fetch d).loaded ≠ 1 := by
      rw [h.loaded, if_neg hok]
      decide
    have heq : (storeLoad lib d cb it).2 = it.fetch d := by
      rw [storeLoad]
      simp only [if_pos hne]
    rw [heq]
    exact ⟨h, fun h => absurd h hok⟩

theorem storeLoads_succ : storeLoads lib search d cb (n + 1) =
    (storeLoad lib d cb (storeLoads lib search d cb n)).2 := Function.iterate_succ_apply' _ _ _

theorem loading_storeLoads : Loading lib search d ((storeLoads lib search d cb n).fetch d) ∧
    (d.ok = true → ((storeLoads lib search d cb n).fetch d).fetched = d.objects.length ∨
      n ≤ ((storeLoads lib search d cb n).fetch d).fetched) := by
  induction n with
  | zero => exact ⟨loading_fetch, fun _ => .inr (Nat.zero_le _)⟩
  | succ n ih =>
    obtain ⟨hload, hpos⟩ := ih.1.load cb
    rw [storeLoads_succ, hload.fetch_eq]
    refine ⟨hload, fun hok => ?_⟩
    rcases hpos hok with hend | hlt
    · exact .inl hend
    · rcases ih.2 hok with hend | hle
      · have := hload.fetched
        omega
      · exact .inr (Nat.lt_of_le_of_lt hle hlt)

/-- The context after at least one load. -/
theorem loading_storeLoads_succ : Loading lib search d (storeLoads lib search d cb (n + 1)) := by
  rw [storeLoads_succ]
  exact (loading_storeLoads.1.load cb).1

theorem storeEof_iff (h : Loading lib search d it) :
    storeEof it = true ↔ d.ok = false ∨ it.fetched = d.objects.length := by
  have hle := h.fetched
  rw [storeEof, h.loaded, h.objects]
  cases d.ok with
  | false => simp
  | true => simp [Nat.le_antisymm_iff, hle]

theorem directFetchLoop_spec (ret : Nat) (m : Nat)
    (h : storeEof (storeLoads lib search d cb (n + m + 1)) = true) :
    ∃ ret' k, directFetchLoop lib d cb (m + 1) ret (storeLoads lib search d cb n) =
      some (ret', storeLoads lib search d cb k) ∧ storeEof (storeLoads lib search d cb k) = true := by
  induction m generalizing n ret with
  | zero =>
    rw [directFetchLoop]
    simp only [← storeLoads_succ]
    rw [if_pos h]
    exact ⟨_, n + 1, rfl, h⟩
  | succ m ih =>
    rw [directFetchLoop]
    simp only [← storeLoads_succ]
    by_cases heof : storeEof (storeLoads lib search d cb (n + 1)) = true
    · rw [if_pos heof]
      exact ⟨_, n + 1, rfl, heof⟩
    · rw [if_neg heof]
      refine ih (n := n + 1) _ ?_
      rw [Nat.add_right_comm n 1 m]
      exact h

/-- Loading goes through the objects once, whatever the filters, the objects and the callback. -/
theorem iteratesOnce : IteratesOnce lib search d cb := by
  have heof (n : Nat) : storeEof (storeLoads lib search d cb n) = true ↔
      0 < n ∧ (d.ok = false ∨ (storeLoads lib search d cb n).fetched = d.objects.length) := by
    cases n with
    | zero => exact ⟨fun h => by simp [storeLoads, storeEof] at h, fun h => absurd h.1 (Nat.lt_irrefl _)⟩
    | succ n => rw [storeEof_iff loading_storeLoads_succ, and_iff_right n.succ_pos]
  have hends (n : Nat) (h : d.objects.length ≤ n) :
      storeEof (storeLoads lib search d cb (n + 1)) = true := by
    have hload : Loading lib search d (storeLoads lib search d cb (n + 1)) := loading_storeLoads_succ
    rw [storeEof_iff hload]
    by_cases hok : d.ok = true
    · have hpos : ((storeLoads lib search d cb (n + 1)).fetch d).fetched = d.objects.length ∨
          n + 1 ≤ ((storeLoads lib search d cb (n + 1)).fetch d).fetched := loading_storeLoads.2 hok
      rw [hload.fetch_eq] at hpos
      have := hload.fetched
      exact .inr (by omega)
    · exact .inl (by simpa using hok)
  refine ⟨⟨_, Nat.le_refl _, hends _ (Nat.le_refl _)⟩, fun n h => ?_, fun n hok => ?_, heof,
    fun m hm => ?_⟩
  · obtain ⟨hpos, hend⟩ := (heof n).1 h
    cases n with
    | zero => exact absurd hpos (Nat.lt_irrefl _)
    | succ n =>
      have hload : Loading lib search d (storeLoads lib search d cb (n + 1)) := loading_storeLoads_succ
      by_cases hok : d.ok = true
      · rcases hend with hno | hend
        · rw [hok] at hno
          cases hno
        · rw [hload.handed hok, hend, List.take_length, if_pos hok]
      · rw [hload.failed (by simpa using hok), if_neg hok]
  · cases n with
    | zero => rw [wanted_eq]; rfl
    | succ n => exact loading_storeLoads_succ.handed hok
  · obtain ⟨m, rfl⟩ := Nat.exists_eq_succ_of_ne_zero (Nat.ne_zero_of_lt hm)
    refine directFetchLoop_spec (n := 0) retOsslOk m ?_
    rw [Nat.zero_add]
    exact hends m (Nat.le_of_lt_succ hm)

end P11Prov
