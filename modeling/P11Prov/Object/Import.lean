import P11Prov.Encoding.BigEndian
import P11Prov.Object.Pool

/-!
# Importing a public key

`p11prov_obj_import_public_key` first looks for the key in the object pools: the
parameters of the key become a template, and the entries of the pools are
compared with it. If one fits, the key becomes a duplicate of it, and otherwise a
mock object.

An object denotes the key if it is a public key with its values
(`PoolObj.Denotes`). The search goes through as many entries of a pool as there
are objects in it, and the template of an ML-DSA or ML-KEM key has an attribute
that objects of a token do not have, so the search finds the key exactly if an
object that denotes it stands that far in front and has what the template asks for
(`importsRight_iff`).
-/

namespace P11Prov

open Encoding

/-- A `CK_ULONG` as the value of an attribute. -/
def ulongBytes (n : Nat) : Bytes := (BigEndian.bytes 8 n).reverse

/-- A C `int` as the value of an attribute. -/
def intBytes (n : Nat) : Bytes := (BigEndian.bytes 4 n).reverse

/-- `ED25519_EC_PARAMS` -/
def ed25519EcParams : Bytes :=
  [0x13, 0x0c, 0x65, 0x64, 0x77, 0x61, 0x72, 0x64, 0x73, 0x32, 0x35, 0x35, 0x31, 0x39]

/-- `ED448_EC_PARAMS` -/
def ed448EcParams : Bytes :=
  [0x13, 0x0a, 0x65, 0x64, 0x77, 0x61, 0x72, 0x64, 0x73, 0x34, 0x34, 0x38]

/-- An `EC_GROUP` as OpenSSL describes it: the number of its curve, the size of its order, the
    encoding of its parameters, and the uncompressed form of an encoded point. -/
structure EcGroup where
  curveNid : Nat
  orderBits : Nat
  ecparams : Option Bytes
  uncompress : Bytes → Option Bytes

/-- The parameters of a public key. -/
structure KeyParams where
  n : Option Bytes := none
  e : Option Bytes := none
  pub : Option Bytes := none
  group : Option EcGroup := none

/-- `struct pool_find_ctx`, with the members that the search for a public key of any type uses. -/
structure KeyFindCtx where
  type : Nat
  cls : Nat := Cko.publicKey
  keySize : Nat := 0
  bitSize : Nat := 0
  paramSet : Nat
  attrs : List (Nat × Bytes) := []

/-! ## The template -/

section Template

variable (nid2name : Nat → Option Bytes) (params : KeyParams) (find : KeyFindCtx)

/-- `params_to_attr` -/
def keyParamsToAttr (p : Option Bytes) (type : Nat) (byteswap : Bool) : Except CkRv KeyFindCtx :=
  match p with
  | none => .error Ckr.keyIndigestible
  | some data =>
    .ok { find with attrs := find.attrs ++ [(type, if byteswap then data.reverse else data)] }

/-- `prep_rsa_find` for a public key -/
def prepRsaPublicFind : Except CkRv KeyFindCtx := do
  let find ← keyParamsToAttr find params.n ckaModulus true
  let keySize := ((find.attrs.getLast?.map (·.2)).getD []).length
  let find ← keyParamsToAttr find params.e ckaPublicExponent true
  return { find with keySize, bitSize := keySize * 8 }

/-- The point of `prep_ec_find`, which is never in compressed form. -/
def ecFindPoint (group : EcGroup) (data : Bytes) : Except CkRv Bytes :=
  if data.head? = some 0x02 ∨ data.head? = some 0x03 then
    match group.uncompress data with
    | none => .error Ckr.keyIndigestible
    | some point => .ok point
  else .ok data

/-- The name of the curve of a group; a curve without a number has none. -/
def curveName (group : EcGroup) : Except CkRv (Option Bytes) :=
  if group.curveNid = 0 then .ok none
  else
    match nid2name group.curveNid with
    | none => .error Ckr.keyIndigestible
    | some name => .ok (some name)

/-- `prep_ec_find` for a public key -/
def prepEcFind : Except CkRv KeyFindCtx :=
  match params.group with
  | none => .error Ckr.keyIndigestible
  | some group => do
    let name ← curveName nid2name group
    match group.ecparams with
    | none => .error Ckr.keyIndigestible
    | some ecparams =>
      match params.pub with
      | none => .error Ckr.keyIndigestible
      | some data =>
        let point ← ecFindPoint group data
        return { find with
          attrs := find.attrs ++ [(ckaP11provPubKey, point), (ckaEcParams, ecparams),
              (ckaP11provCurveNid, intBytes group.curveNid)] ++
            (name.map fun name => (ckaP11provCurveName, name ++ [0])).toList
          bitSize := group.orderBits, keySize := (group.orderBits + 7) / 8 }

/-- `prep_ed_find` for a public key -/
def prepEdFind : Except CkRv KeyFindCtx :=
  match params.pub with
  | none => .error Ckr.keyIndigestible
  | some data =>
    if data.length = 32 then
      .ok { find with
        attrs := find.attrs ++ [(ckaP11provPubKey, data), (ckaEcParams, ed25519EcParams)]
        bitSize := 256, keySize := 32 }
    else if data.length = 57 then
      .ok { find with
        attrs := find.attrs ++ [(ckaP11provPubKey, data), (ckaEcParams, ed448EcParams)]
        bitSize := 456, keySize := 57 }
    else .error Ckr.keyIndigestible

/-- `prep_mldsa_find` and `prep_mlkem_find` for a public key, with the sizes of the keys. -/
def prepMlFind (size : Nat → Option Nat) : Except CkRv KeyFindCtx :=
  match size find.paramSet with
  | none => .error Ckr.keyIndigestible
  | some keySize => do
    let find ← keyParamsToAttr find params.pub ckaValue false
    if keySize ≠ ((find.attrs.getLast?.map (·.2)).getD []).length then
      .error Ckr.keyIndigestible
    else
      return { find with
        attrs := find.attrs ++ [(ckaParameterSet, ulongBytes find.paramSet)]
        keySize, bitSize := keySize * 8 }

/-- The sizes of ML-DSA keys, by `CKP_ML_DSA_44` and so on. -/
def mldsaPkSize : Nat → Option Nat
  | 1 => some 1312
  | 2 => some 1952
  | 3 => some 2592
  | _ => none

/-- The sizes of ML-KEM keys, by `CKP_ML_KEM_512` and so on. -/
def mlkemPkSize : Nat → Option Nat
  | 1 => some 800
  | 2 => some 1184
  | 3 => some 1568
  | _ => none

/-- `prep_mldsa_find` -/
def prepMldsaFind : Except CkRv KeyFindCtx := prepMlFind params find mldsaPkSize

/-- `prep_mlkem_find` -/
def prepMlkemFind : Except CkRv KeyFindCtx := prepMlFind params find mlkemPkSize

/-- The template for a key. -/
def prepFind : Except CkRv KeyFindCtx :=
  if find.type = ckkRsa then prepRsaPublicFind params find
  else if find.type = ckkEc then prepEcFind nid2name params find
  else if find.type = ckkEcEdwards then prepEdFind params find
  else if find.type = ckkMlDsa then prepMldsaFind params find
  else if find.type = ckkMlKem then prepMlkemFind params find
  else .error Ckr.keyIndigestible

end Template

/-! ## The search -/

/-- `obj_match_attrs` -/
def PoolObj.matchAttrs (obj : PoolObj) (attrs : List (Nat × Bytes)) : Bool :=
  attrs.all fun a => obj.getAttr a.1 = some a.2

/-- The checks of `p11prov_obj_pool_find` on an object. -/
def KeyFindCtx.fits (find : KeyFindCtx) (obj : PoolObj) : Bool :=
  if obj.cls ≠ find.cls then false
  else if find.type ≠ ckUnavailableInformation ∧ obj.key.type ≠ find.type then false
  else if find.paramSet ≠ ckUnavailableInformation ∧ obj.key.paramSet ≠ find.paramSet then false
  else if find.bitSize ≠ ckUnavailableInformation ∧ obj.key.bitSize ≠ find.bitSize then false
  else obj.matchAttrs find.attrs

namespace PoolState

variable (st : PoolState) (nid2name : Nat → Option Bytes) (slots : List SlotId)

/-- An entry of a pool that fits. -/
def entryFits (find : KeyFindCtx) (entry : Option ObjId) : Option ObjId := do
  let o ← entry
  let obj ← st.objs o
  if find.fits obj then some o else none

/-- `p11prov_obj_pool_find` -/
def objPoolFind (pool : SlotArray ObjId) (find : KeyFindCtx) : Option ObjId :=
  (pool.entries.take pool.num).findSome? (st.entryFits find)

/-- `p11prov_slot_find_obj_pool`, in the order of the slots. -/
def slotFindObjPool (find : KeyFindCtx) : Option ObjId :=
  slots.findSome? fun slot => (st.pools slot).bind fun pool => st.objPoolFind pool find

/-- `fix_ec_key_import` -/
def fixEcKeyImport (attrs : List (Nat × Bytes)) : Except CkRv (List (Nat × Bytes)) :=
  match (attrs.find? (·.1 = ckaP11provPubKey)).map (·.2) with
  | none => .error Ckr.keyIndigestible
  | some pub => .ok (attrs ++ [(ckaEcPoint, Der.octetString pub)])

/-- `p11prov_obj_import_public_key`, where there is memory for everything. -/
def objImportPublicKey (o : ObjId) (params : KeyParams) : CkRv × PoolState :=
  match st.objs o with
  | none => (Ckr.generalError, st)
  | some key =>
    match prepFind nid2name params { type := key.key.type, paramSet := key.key.paramSet } with
    | .error rv => (rv, st)
    | .ok find =>
      match st.slotFindObjPool slots find with
      | some found => st.returnDupKey o found true none
      | none =>
        let sizes := { key.key with size := find.keySize, bitSize := find.bitSize }
        let attrs := if find.type = ckkEc ∨ find.type = ckkEcEdwards then fixEcKeyImport find.attrs
          else .ok find.attrs
        match attrs with
        | .error rv => (rv, st.setObj o (some { key with key := sizes, attrs := find.attrs }))
        | .ok attrs => (Ckr.ok, st.setObj o (some { key with key := sizes, attrs }))

end PoolState

/-! ## What is expected -/

/-- The object is the public key that the parameters describe, with its values in the encoding they
    are imported in. -/
structure PoolObj.Denotes (obj : PoolObj) (keyType paramSet : Nat) (params : KeyParams) : Prop where
  cls : obj.cls = Cko.publicKey
  type : obj.key.type = keyType
  rsa : keyType = ckkRsa → ∃ n e, params.n = some n ∧ params.e = some e ∧
    obj.getAttr ckaModulus = some n.reverse ∧ obj.getAttr ckaPublicExponent = some e.reverse
  ec : keyType = ckkEc → ∃ group ecparams pub point, params.group = some group ∧
    group.ecparams = some ecparams ∧ params.pub = some pub ∧ ecFindPoint group pub = .ok point ∧
      obj.getAttr ckaEcParams = some ecparams ∧ obj.getAttr ckaP11provPubKey = some point
  ed : keyType = ckkEcEdwards → ∃ pub, params.pub = some pub ∧
    obj.getAttr ckaP11provPubKey = some pub ∧
      obj.getAttr ckaEcParams = some (if pub.length = 32 then ed25519EcParams else ed448EcParams)
  ml : keyType = ckkMlDsa ∨ keyType = ckkMlKem → obj.key.paramSet = paramSet ∧
    ∃ pub, params.pub = some pub ∧ obj.getAttr ckaValue = some pub

namespace PoolState

variable (st : PoolState) (nid2name : Nat → Option Bytes) (slots : List SlotId)

/-- An object in a pool is the public key. -/
def Held (key : PoolObj) (params : KeyParams) : Prop :=
  ∃ o obj, st.objs o = some obj ∧ st.Pooled o ∧ obj.Denotes key.key.type key.key.paramSet params

/-- The import recognises a key that is held: the key becomes a duplicate, in a pool, with the
    handle and the slot of an object that is the key; and it becomes a mock object exactly if there
    is none. -/
structure ImportsRight (o : ObjId) (key : PoolObj) (params : KeyParams) : Prop where
  dup : st.Held key params → (st.objImportPublicKey nid2name slots o params).1 = Ckr.ok ∧
    ∃ src obj key', st.objs src = some obj ∧ st.Pooled src ∧
      obj.Denotes key.key.type key.key.paramSet params ∧
      (st.objImportPublicKey nid2name slots o params).2.objs o = some key' ∧
      key'.handle = obj.handle ∧ key'.slotid = obj.slotid ∧ key'.poolid ≠ none
  mock : ((st.objImportPublicKey nid2name slots o params).1 = Ckr.ok ∧
    ∃ key', (st.objImportPublicKey nid2name slots o params).2.objs o = some key' ∧
      key'.handle = ckP11provImportedHandle ∧ key'.poolid = none) ↔ ¬st.Held key params

/-- The entry of a pool is an object with all that the search asks for. -/
def EntryFits (pool : SlotArray ObjId) (find : KeyFindCtx) (i : Nat) : Prop :=
  ∃ o obj, pool.entries[i]? = some (some o) ∧ st.objs o = some obj ∧ find.fits obj = true

/-- In the first pool that has such an entry among as many as there are objects in it, there is room
    for the duplicate. -/
def FitsInFront (find : KeyFindCtx) : Prop :=
  ∃ before slot after pool, slots = before ++ slot :: after ∧ st.pools slot = some pool ∧
    (∃ i < pool.num, st.EntryFits pool find i) ∧ pool.num < poolMaxSize ∧
      ∀ slot' ∈ before, ∀ pool', st.pools slot' = some pool' →
        ∀ i < pool'.num, ¬st.EntryFits pool' find i

end PoolState

/-! ## The template and the key -/

variable {nid2name : Nat → Option Bytes} {params : KeyParams} {find : KeyFindCtx} {obj : PoolObj}
  {keyType paramSet : Nat}

theorem KeyFindCtx.fits_iff : find.fits obj = true ↔ obj.cls = find.cls ∧
    (find.type ≠ ckUnavailableInformation → obj.key.type = find.type) ∧
    (find.paramSet ≠ ckUnavailableInformation → obj.key.paramSet = find.paramSet) ∧
    (find.bitSize ≠ ckUnavailableInformation → obj.key.bitSize = find.bitSize) ∧
    ∀ a ∈ find.attrs, obj.getAttr a.1 = some a.2 := by
  unfold fits
  split_ifs <;> simp_all [PoolObj.matchAttrs]

/-- The template is for the same kind of key. -/
def KeyFindCtx.SameKind (find find' : KeyFindCtx) : Prop :=
  find'.type = find.type ∧ find'.cls = find.cls ∧ find'.paramSet = find.paramSet

variable {find' : KeyFindCtx}

theorem keyParamsToAttr_ok {p : Option Bytes} {type : Nat} {byteswap : Bool}
    (h : keyParamsToAttr find p type byteswap = .ok find') : ∃ data, p = some data ∧ find' =
      { find with attrs := find.attrs ++ [(type, if byteswap then data.reverse else data)] } := by
  rcases p with _ | data
  · cases h
  · exact ⟨data, rfl, (Except.ok.inj h).symm⟩

theorem prepRsaPublicFind_ok (h : prepRsaPublicFind params find = .ok find') : find.SameKind find' ∧
    ∃ n e, params.n = some n ∧ params.e = some e ∧ (ckaModulus, n.reverse) ∈ find'.attrs ∧
      (ckaPublicExponent, e.reverse) ∈ find'.attrs := by
  rw [prepRsaPublicFind] at h
  obtain ⟨f₁, h₁, h⟩ := bind_eq_ok.1 h
  obtain ⟨f₂, h₂, h⟩ := bind_eq_ok.1 h
  obtain ⟨n, hn, rfl⟩ := keyParamsToAttr_ok h₁
  obtain ⟨e, he, rfl⟩ := keyParamsToAttr_ok h₂
  obtain rfl := Except.ok.inj h
  exact ⟨⟨rfl, rfl, rfl⟩, n, e, hn, he, by simp, by simp⟩

theorem prepEcFind_ok (h : prepEcFind nid2name params find = .ok find') : find.SameKind find' ∧
    ∃ group ecparams pub point, params.group = some group ∧ group.ecparams = some ecparams ∧
      params.pub = some pub ∧ ecFindPoint group pub = .ok point ∧
        (ckaEcParams, ecparams) ∈ find'.attrs ∧ (ckaP11provPubKey, point) ∈ find'.attrs := by
  rw [prepEcFind] at h
  cases hgroup : params.group with
  | none => simp [hgroup] at h
  | some group =>
    simp only [hgroup] at h
    obtain ⟨name, -, h⟩ := bind_eq_ok.1 h
    cases hec : group.ecparams with
    | none => simp [hec] at h
    | some ecparams =>
      simp only [hec] at h
      cases hpub : params.pub with
      | none => simp [hpub] at h
      | some pub =>
        simp only [hpub] at h
        obtain ⟨point, hpoint, h⟩ := bind_eq_ok.1 h
        obtain rfl := Except.ok.inj h
        exact ⟨⟨rfl, rfl, rfl⟩, group, ecparams, pub, point, rfl, hec, rfl, hpoint, by simp, by simp⟩

theorem prepEdFind_ok (h : prepEdFind params find = .ok find') : find.SameKind find' ∧
    ∃ pub, params.pub = some pub ∧ (ckaP11provPubKey, pub) ∈ find'.attrs ∧
      (ckaEcParams, if pub.length = 32 then ed25519EcParams else ed448EcParams) ∈ find'.attrs := by
  rw [prepEdFind] at h
  cases hpub : params.pub with
  | none => simp [hpub] at h
  | some pub =>
    simp only [hpub] at h
    by_cases h32 : pub.length = 32
    · rw [if_pos h32] at h
      obtain rfl := Except.ok.inj h
      exact ⟨⟨rfl, rfl, rfl⟩, pub, rfl, by simp, by simp [h32]⟩
    · rw [if_neg h32] at h
      by_cases h57 : pub.length = 57
      · rw [if_pos h57] at h
        obtain rfl := Except.ok.inj h
        exact ⟨⟨rfl, rfl, rfl⟩, pub, rfl, by simp, by simp [h57]⟩
      · rw [if_neg h57] at h
        cases h

theorem prepMlFind_ok {size : Nat → Option Nat} (h : prepMlFind params find size = .ok find') :
    find.SameKind find' ∧ (size find.paramSet).isSome = true ∧
      (∃ pub, params.pub = some pub ∧ (ckaValue, pub) ∈ find'.attrs) ∧
        (ckaParameterSet, ulongBytes find.paramSet) ∈ find'.attrs := by
  rw [prepMlFind] at h
  cases hsize : size find.paramSet with
  | none => simp [hsize] at h
  | some keySize =>
    simp only [hsize] at h
    obtain ⟨f₁, h₁, h⟩ := bind_eq_ok.1 h
    obtain ⟨pub, hpub, hf₁⟩ := keyParamsToAttr_ok h₁
    by_cases hlen : keySize ≠ ((f₁.attrs.getLast?.map (·.2)).getD []).length
    · rw [if_pos hlen] at h
      cases h
    · rw [if_neg hlen] at h
      obtain rfl := Except.ok.inj h
      subst hf₁
      exact ⟨⟨rfl, rfl, rfl⟩, rfl, ⟨pub, hpub, by simp⟩, by simp⟩

/-- What fits the template of a key is the key. -/
theorem denotes_of_fits (hfind : prepFind nid2name params
    { type := keyType, paramSet := paramSet } = .ok find) (hfits : find.fits obj = true) :
    obj.Denotes keyType paramSet params := by
  obtain ⟨hcls, htype, hset, -, hattrs⟩ := KeyFindCtx.fits_iff.1 hfits
  have hattr {type : Nat} {v : Bytes} (h : (type, v) ∈ find.attrs) : obj.getAttr type = some v :=
    hattrs _ h
  have hml {size : Nat → Option Nat} (hsome : ∀ n, (size n).isSome = true →
      n ≠ ckUnavailableInformation) (hkind : keyType = ckkMlDsa ∨ keyType = ckkMlKem)
      (h : prepMlFind params { type := keyType, paramSet := paramSet } size = .ok find) :
      obj.Denotes keyType paramSet params := by
    obtain ⟨⟨hft, hfc, hfp⟩, hsize, hpub, -⟩ := prepMlFind_ok h
    obtain ⟨pub, hpub, hmem⟩ := hpub
    have hne : keyType ≠ ckUnavailableInformation := by
      rcases hkind with rfl | rfl <;> decide
    refine ⟨hcls.trans hfc, (htype (by rw [hft]; exact hne)).trans hft, fun h => ?_, fun h => ?_,
      fun h => ?_, fun _ => ⟨(hset ?_).trans hfp, pub, hpub, hattr hmem⟩⟩
    · subst h
      exact absurd hkind (by decide)
    · subst h
      exact absurd hkind (by decide)
    · subst h
      exact absurd hkind (by decide)
    · rw [hfp]
      exact hsome _ hsize
  rw [prepFind] at hfind
  simp only at hfind
  split_ifs at hfind with h₁ h₂ h₃ h₄ h₅
  · have hne : ckkRsa ≠ ckUnavailableInformation := by decide
    subst h₁
    obtain ⟨⟨hft, hfc, -⟩, n, e, hn, he, hmod, hexp⟩ := prepRsaPublicFind_ok hfind
    refine ⟨hcls.trans hfc, (htype (by rw [hft]; exact hne)).trans hft,
      fun _ => ⟨n, e, hn, he, hattr hmod, hattr hexp⟩, fun h => ?_, fun h => ?_, fun h => ?_⟩
    all_goals exact absurd h (by decide)
  · have hne : ckkEc ≠ ckUnavailableInformation := by decide
    subst h₂
    obtain ⟨⟨hft, hfc, -⟩, group, ecparams, pub, point, hg, hec, hpub, hpoint, hmem, hmem'⟩ :=
      prepEcFind_ok hfind
    refine ⟨hcls.trans hfc, (htype (by rw [hft]; exact hne)).trans hft, fun h => ?_,
      fun _ => ⟨group, ecparams, pub, point, hg, hec, hpub, hpoint, hattr hmem, hattr hmem'⟩,
      fun h => ?_, fun h => ?_⟩
    all_goals exact absurd h (by decide)
  · have hne : ckkEcEdwards ≠ ckUnavailableInformation := by decide
    subst h₃
    obtain ⟨⟨hft, hfc, -⟩, pub, hpub, hmem, hmem'⟩ := prepEdFind_ok hfind
    refine ⟨hcls.trans hfc, (htype (by rw [hft]; exact hne)).trans hft, fun h => ?_, fun h => ?_,
      fun _ => ⟨pub, hpub, hattr hmem, hattr hmem'⟩, fun h => ?_⟩
    all_goals exact absurd h (by decide)
  · refine hml (fun n hn he => ?_) (.inl h₄) hfind
    rw [he] at hn
    cases hn
  · refine hml (fun n hn he => ?_) (.inr h₅) hfind
    rw [he] at hn
    cases hn

namespace PoolState

variable {st : PoolState} {slots : List SlotId} {pool : SlotArray ObjId} {o : ObjId} {key : PoolObj}

/-! ## The search in the pools -/

theorem entryFits_eq_some {entry : Option ObjId} : st.entryFits find entry = some o ↔
    entry = some o ∧ ∃ obj, st.objs o = some obj ∧ find.fits obj = true := by
  rw [entryFits]
  cases entry with
  | none => simp
  | some o' =>
    cases h : st.objs o' with
    | none =>
      simp only [Option.bind_eq_bind, Option.bind_some, h, Option.bind_none, Option.some_inj]
      refine iff_of_false (by simp) ?_
      rintro ⟨rfl, obj, hobj, -⟩
      rw [h] at hobj
      cases hobj
    | some obj =>
      simp only [Option.bind_eq_bind, Option.bind_some, h, Option.some_inj]
      by_cases hf : find.fits obj = true
      · rw [if_pos hf, Option.some_inj]
        refine ⟨fun he => ⟨he, obj, he ▸ h, hf⟩, fun he => he.1⟩
      · rw [if_neg hf]
        refine iff_of_false (by simp) ?_
        rintro ⟨rfl, obj', hobj, hf'⟩
        rw [h, Option.some_inj] at hobj
        exact hf (hobj ▸ hf')

theorem objPoolFind_some (h : st.objPoolFind pool find = some o) : ∃ i < pool.num,
    pool.entries[i]? = some (some o) ∧ ∃ obj, st.objs o = some obj ∧ find.fits obj = true := by
  obtain ⟨l₁, e, l₂, hl, he, -⟩ := List.findSome?_eq_some_iff.1 h
  obtain ⟨rfl, hobj⟩ := entryFits_eq_some.1 he
  have hi : (pool.entries.take pool.num)[l₁.length]? = some (some o) := by
    rw [hl, List.getElem?_append_right (Nat.le_refl _), Nat.sub_self]
    rfl
  rw [List.getElem?_take] at hi
  split at hi
  · rename_i hlt
    exact ⟨_, hlt, hi, hobj⟩
  · cases hi

theorem objPoolFind_none : st.objPoolFind pool find = none ↔
    ∀ i < pool.num, ¬st.EntryFits pool find i := by
  rw [objPoolFind, List.findSome?_eq_none_iff]
  constructor
  · rintro h i hi ⟨o, obj, hentry, hobj, hfits⟩
    have hmem : some o ∈ pool.entries.take pool.num := by
      refine List.mem_iff_getElem?.2 ⟨i, ?_⟩
      rw [List.getElem?_take, if_pos hi, hentry]
    have hsome := entryFits_eq_some.2 ⟨rfl, obj, hobj, hfits⟩
    rw [h _ hmem] at hsome
    cases hsome
  · intro h e he
    obtain ⟨i, hi⟩ := List.mem_iff_getElem?.1 he
    rw [List.getElem?_take] at hi
    split at hi
    · rename_i hlt
      by_contra hne
      obtain ⟨o, ho⟩ := Option.ne_none_iff_exists'.1 hne
      obtain ⟨rfl, obj, hobj, hfits⟩ := entryFits_eq_some.1 ho
      exact h i hlt ⟨o, obj, hi, hobj, hfits⟩
    · cases hi

/-- What is found is the first entry that fits, in the first pool that has one in front. -/
theorem slotFindObjPool_some (h : st.slotFindObjPool slots find = some o) :
    ∃ before slot after pool i obj, slots = before ++ slot :: after ∧ st.pools slot = some pool ∧
      i < pool.num ∧ pool.entries[i]? = some (some o) ∧ st.objs o = some obj ∧
        find.fits obj = true ∧ ∀ slot' ∈ before, ∀ pool', st.pools slot' = some pool' →
          ∀ i < pool'.num, ¬st.EntryFits pool' find i := by
  obtain ⟨before, slot, after, hslots, hslot, hbefore⟩ := List.findSome?_eq_some_iff.1 h
  obtain ⟨pool, hpool, hfind⟩ := Option.bind_eq_some_iff.1 hslot
  obtain ⟨i, hi, hentry, obj, hobj, hfits⟩ := objPoolFind_some hfind
  refine ⟨before, slot, after, pool, i, obj, hslots, hpool, hi, hentry, hobj, hfits,
    fun slot' hs pool' hp => ?_⟩
  have hnone := hbefore slot' hs
  rw [hp, Option.bind_some] at hnone
  exact objPoolFind_none.1 hnone

theorem slotFindObjPool_none (h : st.slotFindObjPool slots find = none) {slot : SlotId}
    (hslot : slot ∈ slots) (hpool : st.pools slot = some pool) :
    ∀ i < pool.num, ¬st.EntryFits pool find i := by
  have hnone := List.findSome?_eq_none_iff.1 h slot hslot
  rw [hpool, Option.bind_some] at hnone
  exact objPoolFind_none.1 hnone

/-! ## The result -/

/-- Where there is memory, a duplicate is made exactly if its pool has room. -/
theorem returnDupKey_ok (h : st.Inv) {src : ObjId} (hkey : st.objs o = some key)
    (hid : key.poolid = none) (hobj : st.objs src = some obj)
    (hpool : st.pools obj.slotid = some pool) :
    ((st.returnDupKey o src true none).1 = Ckr.ok ↔ pool.num < poolMaxSize) ∧
      (pool.num < poolMaxSize → ∃ key', (st.returnDupKey o src true none).2.objs o = some key' ∧
        key'.handle = obj.handle ∧ key'.slotid = obj.slotid ∧ key'.poolid ≠ none) := by
  have hdup : (st.setObj o (some (key.dup obj))).Inv :=
    h.setObj (fun x hx => by rw [hkey, Option.some_inj] at hx; rw [← hx, hid])
      (fun x hx => by rw [Option.mem_some_iff] at hx; rw [← hx]; exact hid)
      fun ho => by rw [h.fresh o ho] at hkey; cases hkey
  have hwf := h.pool _ _ hpool
  have hle : pool.num ≤ poolMaxSize := hwf.1.num_le.trans hwf.2.2
  rw [returnDupKey, hkey, hobj]
  simp only [hid, ne_eq, not_true_eq_false, if_false]
  rcases hdup.objAddToPool (o := o) setObj_objs hid true with
    ⟨hret, -, -, i, hobjs⟩ | ⟨hret, -, hwhy⟩
  · have ho : ((st.setObj o (some (key.dup obj))).objAddToPool o true).2.objs o =
        some { key.dup obj with poolid := some i } := by
      rw [hobjs]
      exact Function.update_self _ _ _
    have hnum : pool.num < poolMaxSize := by
      by_contra hfull
      have hmax : pool.num = poolMaxSize := Nat.le_antisymm hle (Nat.le_of_not_lt hfull)
      have hsize : pool.size = poolMaxSize :=
        Nat.le_antisymm hwf.2.2 (hmax ▸ hwf.1.num_le)
      have hpool' : (st.setObj o (some (key.dup obj))).pools (key.dup obj).slotid = some pool := hpool
      have hne : Ckr.hostMemory ≠ Ckr.ok := by decide
      rw [objAddToPool, setObj_objs] at hret
      simp only [hpool', hmax, hsize, Nat.le_refl, if_true] at hret
      exact hne hret
    simp only [hret, not_true_eq_false, if_false, ho]
    exact ⟨iff_of_true rfl hnum, fun _ => ⟨_, setObj_objs, rfl, rfl, by simp⟩⟩
  · have hnum : ¬pool.num < poolMaxSize := by
      rcases hwhy with hnone | hmem | ⟨p, hp, hmax⟩
      · rw [show (st.setObj o (some (key.dup obj))).pools (key.dup obj).slotid = some pool from hpool]
          at hnone
        cases hnone
      · cases hmem
      · rw [show (st.setObj o (some (key.dup obj))).pools (key.dup obj).slotid = some pool from hpool,
          Option.some_inj] at hp
        rw [hp, hmax]
        exact Nat.lt_irrefl _
    simp only [if_pos hret]
    exact ⟨iff_of_false hret hnum, fun h => absurd h hnum⟩

/-- Where nothing is found, the key becomes a mock object. -/
theorem objImportPublicKey_mock (hkey : st.objs o = some key)
    (hfind : prepFind nid2name params { type := key.key.type, paramSet := key.key.paramSet } =
      .ok find) (hnone : st.slotFindObjPool slots find = none) :
    (st.objImportPublicKey nid2name slots o params).1 = Ckr.ok ∧
      ∃ key', (st.objImportPublicKey nid2name slots o params).2.objs o = some key' ∧
        key'.handle = key.handle ∧ key'.poolid = key.poolid := by
  have hattrs : ∃ attrs, (if find.type = ckkEc ∨ find.type = ckkEcEdwards then
      fixEcKeyImport find.attrs else .ok find.attrs) = .ok attrs := by
    by_cases hec : find.type = ckkEc ∨ find.type = ckkEcEdwards
    · rw [if_pos hec]
      have hpub : ∃ v, (ckaP11provPubKey, v) ∈ find.attrs := by
        rw [prepFind] at hfind
        simp only at hfind
        split_ifs at hfind with h₁ h₂ h₃ h₄ h₅
        · obtain ⟨⟨hft, -⟩, -⟩ := prepRsaPublicFind_ok hfind
          have hne : ¬(ckkRsa = ckkEc ∨ ckkRsa = ckkEcEdwards) := by decide
          rw [hft, h₁] at hec
          exact absurd hec hne
        · obtain ⟨-, -, -, -, point, -, -, -, -, -, hmem⟩ := prepEcFind_ok hfind
          exact ⟨point, hmem⟩
        · obtain ⟨-, pub, -, hmem, -⟩ := prepEdFind_ok hfind
          exact ⟨pub, hmem⟩
        · obtain ⟨⟨hft, -⟩, -⟩ := prepMlFind_ok hfind
          have hne : ¬(ckkMlDsa = ckkEc ∨ ckkMlDsa = ckkEcEdwards) := by decide
          rw [hft, h₄] at hec
          exact absurd hec hne
        · obtain ⟨⟨hft, -⟩, -⟩ := prepMlFind_ok hfind
          have hne : ¬(ckkMlKem = ckkEc ∨ ckkMlKem = ckkEcEdwards) := by decide
          rw [hft, h₅] at hec
          exact absurd hec hne
      obtain ⟨v, hv⟩ := hpub
      have hsome : (find.attrs.find? (·.1 = ckaP11provPubKey)).isSome = true :=
        List.find?_isSome.2 ⟨_, hv, by simp⟩
      obtain ⟨a, ha⟩ := Option.isSome_iff_exists.1 hsome
      rw [fixEcKeyImport, ha]
      exact ⟨_, rfl⟩
    · exact ⟨_, if_neg hec⟩
  obtain ⟨attrs, hattrs⟩ := hattrs
  rw [objImportPublicKey, hkey]
  simp only [hfind, hnone, hattrs]
  exact ⟨trivial, _, setObj_objs, rfl, rfl⟩

/-- The import recognises a key that is held exactly if one of the first entries of a pool, as many
    as there are objects in it, has all that the search asks for, and the first such pool has room
    for the duplicate. -/
theorem importsRight_iff (h : Reached (· ∈ slots) st) (hkey : st.objs o = some key)
    (hmock : key.handle = ckP11provImportedHandle)
    (hfind : prepFind nid2name params { type := key.key.type, paramSet := key.key.paramSet } =
      .ok find) :
    st.ImportsRight nid2name slots o key params ↔
      (st.Held key params → st.FitsInFront slots find) := by
  have hinv := h.inv
  have hid : key.poolid = none := by
    by_contra hid
    exact (hinv.home o key hkey hid).2 hmock
  cases hfound : st.slotFindObjPool slots find with
  | none =>
    obtain ⟨hret, key', hkey', hhandle, hpoolid⟩ := objImportPublicKey_mock hkey hfind hfound
    constructor
    · intro hright hheld
      exact absurd hheld (hright.mock.1 ⟨hret, key', hkey', hhandle.trans hmock, hpoolid.trans hid⟩)
    · intro hcond
      have hno : ¬st.Held key params := by
        intro hheld
        obtain ⟨before, slot, after, pool, rfl, hpool, ⟨i, hi, hfits⟩, -⟩ := hcond hheld
        exact slotFindObjPool_none hfound (by simp) hpool i hi hfits
      exact ⟨fun hheld => absurd hheld hno,
        iff_of_true ⟨hret, key', hkey', hhandle.trans hmock, hpoolid.trans hid⟩ hno⟩
  | some src =>
    obtain ⟨before, slot, after, pool, i, obj, hslots, hpool, hi, hentry, hobj, hfits, hbefore⟩ :=
      slotFindObjPool_some hfound
    obtain ⟨obj', hobj', hoid, hslot⟩ := (hinv.entry slot pool i src hpool).1 hentry
    obtain rfl := Option.some.inj (hobj.symm.trans hobj')
    have hpooled : st.Pooled src := ⟨slot, pool, hpool, List.mem_iff_getElem?.2 ⟨i, hentry⟩⟩
    have hheld : st.Held key params := ⟨src, obj, hobj, hpooled, denotes_of_fits hfind hfits⟩
    have himport :
        st.objImportPublicKey nid2name slots o params = st.returnDupKey o src true none := by
      rw [objImportPublicKey, hkey]
      simp only [hfind, hfound]
    obtain ⟨hret, hdup⟩ := returnDupKey_ok hinv hkey hid hobj (hslot ▸ hpool)
    constructor
    · intro hright _
      have hok := (hright.dup hheld).1
      rw [himport] at hok
      exact ⟨before, slot, after, pool, hslots, hpool, ⟨i, hi, src, obj, hentry, hobj, hfits⟩,
        hret.1 hok, hbefore⟩
    · intro hcond
      obtain ⟨before', slot', after', pool', hslots', hpool', ⟨i', hi', hfits'⟩, hnum, hbefore'⟩ :=
        hcond hheld
      have hfirst : slot' = slot := by
        rw [hslots] at hslots'
        rcases List.append_eq_append_iff.1 hslots' with ⟨l, rfl, hl⟩ | ⟨l, rfl, hl⟩
        · rcases l with _ | ⟨s, l⟩
          · exact (List.cons.inj hl).1.symm
          · obtain rfl := (List.cons.inj hl).1
            exact absurd ⟨src, obj, hentry, hobj, hfits⟩ (hbefore' slot (by simp) pool hpool i hi)
        · rcases l with _ | ⟨s, l⟩
          · exact (List.cons.inj hl).1
          · obtain rfl := (List.cons.inj hl).1
            exact absurd hfits' (hbefore slot' (by simp) pool' hpool' i' hi')
      rw [hfirst, hpool, Option.some_inj] at hpool'
      rw [← hpool'] at hnum
      obtain ⟨key', hkey', hhandle, hslotid, hpoolid⟩ := hdup hnum
      refine ⟨fun _ => ?_, ?_⟩
      · rw [himport]
        exact ⟨hret.2 hnum, src, obj, key', hobj, hpooled, denotes_of_fits hfind hfits, hkey',
          hhandle, hslotid, hpoolid⟩
      · refine iff_of_false ?_ (not_not.2 hheld)
        rw [himport, hkey']
        rintro ⟨-, key'', hkey'', -, hnone⟩
        rw [Option.some_inj] at hkey''
        rw [hkey''] at hpoolid
        exact hpoolid hnone

/-! ## A pool without a hole and a pool with one -/

/-- The new key, before it has any attributes. -/
def freshRsaKey : PoolObj where
  slotid := ckUnavailableInformation
  handle := ckP11provImportedHandle
  cls := Cko.publicKey
  key := { type := ckkRsa }

/-- A public key of a token, and a new key that is about to be imported. -/
def heldState : PoolState :=
  ((((PoolState.mk (fun _ => none) 0 (fun slot => if slot ∈ [7] then some {} else none) false).step
    (.new 7 41 Cko.publicKey true true)).step
    (.fill 0 Cko.publicKey { type := ckkRsa, bitSize := 8, size := 1 }
      [(ckaModulus, [35]), (ckaPublicExponent, [3])])).step
    (.new ckUnavailableInformation ckP11provImportedHandle Cko.publicKey true true)).step
    (.fill 1 Cko.publicKey { type := ckkRsa } [])

theorem reached_heldState : Reached (· ∈ [7]) heldState :=
  .step (.step (.step (.step .start trivial) trivial) trivial) trivial

/-- Two public keys of a token on one slot, of which the first was given up, and a new key that is
    about to be imported. -/
def holeState : PoolState :=
  ((((((PoolState.mk (fun _ => none) 0 (fun slot => if slot ∈ [7] then some {} else none) false).step
    (.new 7 40 Cko.publicKey true true)).step
    (.new 7 41 Cko.publicKey true true)).step
    (.fill 1 Cko.publicKey { type := ckkRsa, bitSize := 8, size := 1 }
      [(ckaModulus, [35]), (ckaPublicExponent, [3])])).step
    (.free 0)).step
    (.new ckUnavailableInformation ckP11provImportedHandle Cko.publicKey true true)).step
    (.fill 2 Cko.publicKey { type := ckkRsa } [])

theorem reached_holeState : Reached (· ∈ [7]) holeState :=
  .step (.step (.step (.step (.step (.step .start trivial) trivial) trivial) trivial) trivial) trivial

/-- What is searched for when the key of the token is imported. -/
def rsaFind : KeyFindCtx where
  type := ckkRsa
  keySize := 1
  bitSize := 8
  paramSet := 0
  attrs := [(ckaModulus, [35]), (ckaPublicExponent, [3])]

theorem fitsInFront_heldState : heldState.FitsInFront [7] rsaFind := by
  refine ⟨[], 7, [], _, rfl, rfl, ⟨0, ?_, 0, _, rfl, rfl, rfl⟩, ?_, ?_⟩
  · decide
  · decide
  · intro slot hslot
    cases hslot

/-- Without a hole the key is found, and with the hole all depends on the entries in front of it. -/
theorem importsRight_rsa :
    heldState.ImportsRight (fun _ => none) [7] 1 freshRsaKey { n := some [35], e := some [3] } ∧
    (holeState.ImportsRight (fun _ => none) [7] 2 freshRsaKey { n := some [35], e := some [3] } ↔
      (holeState.Held freshRsaKey { n := some [35], e := some [3] } →
        holeState.FitsInFront [7] rsaFind)) :=
  ⟨(importsRight_iff reached_heldState rfl rfl rfl).2 fun _ => fitsInFront_heldState,
    importsRight_iff reached_holeState rfl rfl rfl⟩

/-- The second key is imported, and the object that holds it is behind the entries that are
    searched. -/
theorem not_importsRight_holeState :
    ¬holeState.ImportsRight (fun _ => none) [7] 2 freshRsaKey { n := some [35], e := some [3] } := by
  intro h
  have hheld : holeState.Held freshRsaKey { n := some [35], e := some [3] } :=
    ⟨1, _, rfl, ⟨7, _, rfl, List.mem_iff_getElem?.2 ⟨1, rfl⟩⟩, rfl, rfl,
      fun _ => ⟨_, _, rfl, rfl, rfl, rfl⟩, fun h => absurd h (by decide),
      fun h => absurd h (by decide), fun h => absurd h (by decide)⟩
  obtain ⟨-, -, -, key', -, -, -, hkey', -, -, hpoolid⟩ := h.dup hheld
  have hmock : ((holeState.objImportPublicKey (fun _ => none) [7] 2
      { n := some [35], e := some [3] }).2.objs 2).map (·.poolid) = some none := by decide
  rw [hkey', Option.map_some, Option.some_inj] at hmock
  exact hpoolid hmock

end PoolState

end P11Prov
