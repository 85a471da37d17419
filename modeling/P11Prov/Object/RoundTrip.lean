import P11Prov.Object.Export

/-!
# Importing, storing and exporting a public key

A public key that is imported becomes a mock object or a duplicate of an object
that is there; later a mock object is stored on the token, and an object is made
of what the token has then. Whatever becomes of the key, its export gives what was
imported.

The steps meet at `HoldsKey`: the attributes that an export reads are those of the
key. What is exported depends on this only (`HoldsKey.exportWith`), the import comes
to it (`import_export`), and so does what the token returns of a key that was stored
(`store_fetch`).
-/

namespace P11Prov

open Encoding

/-! ## What is exported -/

/-- The parameters of a curve: its name if it has one. -/
def EcGroup.exported (lib : ExportLib) (group : EcGroup) : Option KeyOsslParams :=
  if group.curveNid = 0 then ecGroupExplicitToParams (lib.domain group)
  else (lib.nid2name group.curveNid).map fun name => [(ascii "group", name ++ [0])]

/-- The parameters of a key of the type as an export gives them: a point is not compressed. -/
def KeyParams.exported (lib : ExportLib) (params : KeyParams) (type : Nat) (paramsOnly : Bool) :
    Option KeyOsslParams := do
  let pub (v : Bytes) := if paramsOnly then [] else [(ascii "pub", v)]
  if type = ckkRsa then
    return [(ascii "n", ← params.n), (ascii "e", ← params.e)]
  else if type = ckkEc then
    let group ← params.group
    let point ← (ecFindPoint group (← params.pub)).toOption
    return pub point ++ (← group.exported lib)
  else if type = ckkEcEdwards then
    return pub (← params.pub)
  else
    return [(ascii "pub", ← params.pub)]

/-- The attributes that an export reads are those of the key. -/
inductive HoldsKey (lib : ExportLib) (params : KeyParams) (obj : Nat → Option Bytes) : Nat → Prop
  | rsa {n e : Bytes} (hn : params.n = some n) (he : params.e = some e)
      (hmod : obj ckaModulus = some n.reverse) (hexp : obj ckaPublicExponent = some e.reverse) :
      HoldsKey lib params obj ckkRsa
  | ec {group : EcGroup} {ecparams pub point : Bytes} (hgroup : params.group = some group)
      (hec : group.ecparams = some ecparams) (hpub : params.pub = some pub)
      (hpoint : ecFindPoint group pub = .ok point) (hparams : obj ckaEcParams = some ecparams)
      (hkey : obj ckaP11provPubKey = some point)
      (hnid : obj ckaP11provCurveNid = some (intBytes group.curveNid))
      (hname : group.curveNid ≠ 0 → ∃ name, lib.nid2name group.curveNid = some name ∧
        obj ckaP11provCurveName = some (name ++ [0])) :
      HoldsKey lib params obj ckkEc
  | ed {pub : Bytes} (hpub : params.pub = some pub) (hkey : obj ckaP11provPubKey = some pub) :
      HoldsKey lib params obj ckkEcEdwards
  | ml {type : Nat} {pub : Bytes} (htype : type = ckkMlDsa ∨ type = ckkMlKem)
      (hpub : params.pub = some pub) (hkey : obj ckaValue = some pub) : HoldsKey lib params obj type

/-- OpenSSL reads the encoding of the parameters of a group as the group again, and the number of
    its curve is an `int`. -/
structure ExportLib.Knows (lib : ExportLib) (group : EcGroup) : Prop where
  decodes : ∀ ecparams ∈ group.ecparams, lib.group ecparams = some group
  nid : group.curveNid < 2 ^ 31

variable {lib : ExportLib} {params : KeyParams} {obj obj' : Nat → Option Bytes} {type : Nat}

theorem ulongValue_intBytes {n : Nat} (h : n < 2 ^ 31) : ulongValue (intBytes n) = n := by
  rw [ulongValue, intBytes, List.reverse_reverse, BigEndian.value_bytes (by omega)]

/-- More attributes make no difference. -/
theorem HoldsKey.mono (h : HoldsKey lib params obj type)
    (hobj : ∀ t v, obj t = some v → obj' t = some v) : HoldsKey lib params obj' type := by
  cases h with
  | rsa hn he hmod hexp => exact .rsa hn he (hobj _ _ hmod) (hobj _ _ hexp)
  | ec hgroup hec hpub hpoint hparams hkey hnid hname =>
    refine .ec hgroup hec hpub hpoint (hobj _ _ hparams) (hobj _ _ hkey) (hobj _ _ hnid) ?_
    intro hne
    obtain ⟨name, hname, hattr⟩ := hname hne
    exact ⟨name, hname, hobj _ _ hattr⟩
  | ed hpub hkey => exact .ed hpub (hobj _ _ hkey)
  | ml htype hpub hkey => exact .ml htype hpub (hobj _ _ hkey)

theorem getPublicAttrs_pub {assoc : Associated} {types : List Nat} {values : List Bytes}
    (h : types.map obj = values.map some) :
    getPublicAttrs (m := Id) lib assoc.find Cko.publicKey obj types = .ok values :=
  getAllAttrs_eq_ok.2 h

/-- A public key object that holds a key is exported as the key. -/
theorem HoldsKey.exportWith (h : HoldsKey lib params obj type)
    (hlib : ∀ group ∈ params.group, lib.Knows group) (paramsOnly : Bool) :
    exportWith lib {} Cko.publicKey type obj paramsOnly = params.exported lib type paramsOnly := by
  cases h with
  | @rsa n e hn he hmod hexp =>
    have hrsa : P11Prov.exportWith lib {} Cko.publicKey ckkRsa obj paramsOnly =
        some [(ascii "n", n.reverse.reverse), (ascii "e", e.reverse.reverse)] :=
      exportPublicRsaKey_eq (getPublicAttrs_pub (by simp [hmod, hexp]))
    rw [hrsa, List.reverse_reverse, List.reverse_reverse, KeyParams.exported, if_pos rfl, hn, he]
    rfl
  | @ec group ecparams pub point hgroup hec hpub hpoint hparams hkey hnid hname =>
    have hknows := hlib group hgroup
    have hnid' := ulongValue_intBytes hknows.nid
    have hcurve : ∃ curve, obj (if group.curveNid ≠ 0 then ckaP11provCurveName else ckaEcParams) =
        some curve ∧ curveParams lib (group.curveNid ≠ 0) curve = group.exported lib := by
      by_cases hzero : group.curveNid = 0
      · refine ⟨ecparams, by rwa [if_neg (not_not_intro hzero)], ?_⟩
        simp [curveParams, EcGroup.exported, hzero, hknows.decodes ecparams hec]
      · obtain ⟨name, hname, hattr⟩ := hname hzero
        refine ⟨name ++ [0], by rwa [if_pos hzero], ?_⟩
        simp [curveParams, EcGroup.exported, hzero, hname]
    obtain ⟨curve, hattr, hcurve⟩ := hcurve
    have hpub' : getPublicAttrs (m := Id) lib (Associated.find {}) Cko.publicKey obj
        ((if ulongValue (intBytes group.curveNid) ≠ 0 then ckaP11provCurveName else ckaEcParams) ::
          if paramsOnly then [] else [ckaP11provPubKey]) =
        .ok (curve :: if paramsOnly then [] else [point]) := by
      refine getPublicAttrs_pub ?_
      rw [hnid', List.map_cons, hattr]
      cases paramsOnly with
      | true => rfl
      | false => simp [hkey]
    have hexp : P11Prov.exportWith lib {} Cko.publicKey ckkEc obj paramsOnly =
        (curveParams lib (ulongValue (intBytes group.curveNid) ≠ 0) curve).map
          ((if paramsOnly then [] else [point]).map (ascii "pub", ·) ++ ·) :=
      exportPublicEcKey_eq (getPublicAttrs_pub (by simp [hnid])) hpub'
    have hne : ckkEc ≠ ckkRsa := by decide
    rw [hexp, hnid', hcurve, KeyParams.exported, if_neg hne, if_pos rfl, hgroup, hpub]
    simp only [Option.bind_eq_bind, Option.bind_some, hpoint, Except.toOption]
    cases group.exported lib with
    | none => rfl
    | some curve => cases paramsOnly <;> rfl
  | @ed pub hpub hkey =>
    have hpub' : getPublicAttrs (m := Id) lib (Associated.find {}) Cko.publicKey obj
        (if paramsOnly then [] else [ckaP11provPubKey]) =
        .ok (if paramsOnly then [] else [pub]) := by
      refine getPublicAttrs_pub ?_
      cases paramsOnly with
      | true => rfl
      | false => simp [hkey]
    have hed : exportPublicEcKey lib (getPublicAttrs (m := Id) lib (Associated.find {})
        Cko.publicKey obj) ckkEcEdwards paramsOnly =
          some ((if paramsOnly then [] else [pub]).map (ascii "pub", ·)) :=
      exportPublicEcKey_edwards hpub'
    have hrsa : ckkEcEdwards ≠ ckkRsa := by decide
    have hec : ckkEcEdwards ≠ ckkEc := by decide
    refine Eq.trans hed ?_
    rw [KeyParams.exported, if_neg hrsa, if_neg hec, if_pos rfl, hpub]
    cases paramsOnly <;> rfl
  | @ml _ pub htype hpub hkey =>
    have hml : exportPublicMlKey (getPublicAttrs (m := Id) lib (Associated.find {})
        Cko.publicKey obj) = some [(ascii "pub", pub)] := by
      have hpub' : getPublicAttrs (m := Id) lib (Associated.find {}) Cko.publicKey obj [ckaValue] =
          .ok [pub] := getPublicAttrs_pub (by simp [hkey])
      rw [exportPublicMlKey, hpub']
      rfl
    rcases htype with rfl | rfl
    · refine Eq.trans hml ?_
      rw [KeyParams.exported, hpub]
      rfl
    · refine Eq.trans hml ?_
      rw [KeyParams.exported, hpub]
      rfl

/-! ## The import -/

variable {find find' : KeyFindCtx} {nid2name : Nat → Option Bytes}

/-- The templates of keys, by the type of the key. -/
inductive KeyTemplate (nid2name : Nat → Option Bytes) (params : KeyParams) (paramSet : Nat) :
    Nat → KeyFindCtx → Prop
  | rsa {n e : Bytes} (hn : params.n = some n) (he : params.e = some e) :
      KeyTemplate nid2name params paramSet ckkRsa
        { type := ckkRsa, paramSet
          attrs := [(ckaModulus, n.reverse), (ckaPublicExponent, e.reverse)]
          keySize := n.length, bitSize := n.length * 8 }
  | ec {group : EcGroup} {ecparams pub point : Bytes} {name : Option Bytes}
      (hgroup : params.group = some group) (hec : group.ecparams = some ecparams)
      (hpub : params.pub = some pub) (hpoint : ecFindPoint group pub = .ok point)
      (hname : curveName nid2name group = .ok name) :
      KeyTemplate nid2name params paramSet ckkEc
        { type := ckkEc, paramSet
          attrs := [(ckaP11provPubKey, point), (ckaEcParams, ecparams),
              (ckaP11provCurveNid, intBytes group.curveNid)] ++
            (name.map fun name => (ckaP11provCurveName, name ++ [0])).toList
          bitSize := group.orderBits, keySize := (group.orderBits + 7) / 8 }
  | ed {pub ecparams : Bytes} (hpub : params.pub = some pub)
      (hcurve : (pub.length = 32 ∧ ecparams = ed25519EcParams) ∨
        (pub.length = 57 ∧ ecparams = ed448EcParams)) :
      KeyTemplate nid2name params paramSet ckkEcEdwards
        { type := ckkEcEdwards, paramSet
          attrs := [(ckaP11provPubKey, pub), (ckaEcParams, ecparams)]
          bitSize := pub.length * 8, keySize := pub.length }
  | ml {type : Nat} {pub : Bytes} (htype : type = ckkMlDsa ∨ type = ckkMlKem)
      (hpub : params.pub = some pub)
      (hsize : (if type = ckkMlDsa then mldsaPkSize else mlkemPkSize) paramSet = some pub.length) :
      KeyTemplate nid2name params paramSet type
        { type, paramSet, attrs := [(ckaValue, pub), (ckaParameterSet, ulongBytes paramSet)]
          keySize := pub.length, bitSize := pub.length * 8 }

variable {paramSet : Nat}

/-- The only error is that of a key that cannot be digested. -/
def Indigestible {α : Type} (x : Except CkRv α) : Prop := ∀ ret, x = .error ret → ret ≠ Ckr.ok

section Indigestible

variable {α β : Type} {x : Except CkRv α}

theorem Indigestible.ok {a : α} : Indigestible (.ok a) := by
  intro ret h
  cases h

theorem Indigestible.error : Indigestible (.error Ckr.keyIndigestible : Except CkRv α) := by
  intro ret h
  rw [← Except.error.inj h]
  decide

theorem Indigestible.bind {f : α → Except CkRv β} (hx : Indigestible x)
    (hf : ∀ a, Indigestible (f a)) : Indigestible (x >>= f) := by
  rcases x with ret | a
  · intro ret' h
    exact hx ret' (congrArg Except.error (Except.error.inj h))
  · exact hf a

end Indigestible

namespace KeyTemplate

/-- No attribute is in the template twice. -/
theorem nodup (h : KeyTemplate nid2name params paramSet type find) :
    (find.attrs.map (·.1)).Nodup := by
  cases h with
  | @ec group ecparams pub point name hgroup hec hpub hpoint hname => cases name <;> simp
  | _ => simp

end KeyTemplate

namespace PoolState

variable {st : PoolState} {slots : List SlotId} {o src : ObjId} {key obj : PoolObj}

end PoolState

/-! ## Storing a mock object and fetching it -/

section Fetch

variable {tok : TokenAttrs}

/-- A number that the token has is read. -/
theorem TokenAttrs.number_eq {n init : Nat} (h : tok.answer type = .value (ulongBytes n))
    (hn : n < 2 ^ 64) : tok.number type init = n := by
  have hlen (k : Nat) : (ulongBytes k).length = 8 := by
    rw [ulongBytes, List.length_reverse, BigEndian.length_bytes]
  have hfits : (fetchVar type (ulongBytes init) true).Fits (ulongBytes n) := by
    intro b hb
    obtain rfl := Option.some.inj hb
    rw [hlen, hlen]
  have hfull : (fetchVar type (ulongBytes init) true).expected tok = some (ulongBytes n) := by
    rw [AttrRequest.expected, show (fetchVar type (ulongBytes init) true).type = type from rfl, h]
    refine (if_pos hfits).trans ?_
    rw [AttrRequest.full, show (fetchVar type (ulongBytes init) true).dest = some (ulongBytes init)
      from rfl, Option.getD_some, List.drop_of_length_le (by rw [hlen, hlen]), List.append_nil]
  rw [TokenAttrs.number, hfull, Option.getD_some, ulongValue, ulongBytes, List.reverse_reverse,
    BigEndian.value_bytes (by omega)]

/-- What is not asked for is not retained. -/
theorem getAttr_unasked {rs : List AttrRequest} {key : Obj}
    (h : (fetchAttributes tok (rs.map (·.set)) []).ret = Ckr.ok)
    (hattrs : key.attrs = (fetchAttributes tok (rs.map (·.set)) []).moveAllocAttrs)
    (hne : ∀ r ∈ rs, r.type ≠ type) : key.getAttr type = none := by
  rw [Obj.getAttr, hattrs, moveAllocAttrs_eq h, Option.map_eq_none_iff, List.find?_eq_none]
  rintro a ha heq
  obtain ⟨r, hr, hra⟩ := List.mem_filterMap.1 ha
  split at hra
  · obtain ⟨v, -, rfl⟩ := Option.map_eq_some_iff.1 hra
    exact hne r hr (of_decide_eq_true heq)
  · cases hra

/-- An object is made of a key on a token by the cases of `fetch_key`, from the attributes that its
    class and its type are asked for. -/
theorem objFromToken_key (lib : EcLib) (h : tok.AttrsReturned)
    (hcls : tok.cls = Cko.publicKey ∨ tok.cls = Cko.privateKey ∨ tok.cls = Cko.secretKey)
    {rs : List AttrRequest} (hprep : prepKeyAttrs tok.cls tok.keyType = some rs) (slotid : SlotId)
    (handle : ObjectHandle) (supported : Bool) :
    ∃ key : Obj, key.cls = tok.cls ∧ key.key.type = tok.keyType ∧
      key.key.paramSet = tok.paramSet ∧
      (∀ type, (∃ r ∈ rs, r.type = type ∧ r.dest = none) → key.getAttr type = tok.valueOf type) ∧
      (∀ type, (∀ r ∈ rs, r.type ≠ type) → key.getAttr type = none) ∧
      (objFromToken lib slotid handle tok supported).1 =
        (fetchKeyData lib key).map fun key => (fetchAllowedMechanisms tok supported key).1 := by
  have hobject := (fetchAttributes_ok tok objectAttrs_alloc).2 h.object
  have hkey := (fetchAttributes_ok tok (prepKeyAttrs_alloc hprep)).2 (h.key rs hprep)
  have hfetch : fetchKey lib tok (tokenObj slotid handle tok) =
      fetchKeyData lib { tokenObj slotid handle tok with
        attrs := (fetchAttributes tok (rs.map (·.set)) []).moveAllocAttrs } := by
    rw [fetchKey, show (tokenObj slotid handle tok).cls = tok.cls from rfl,
      show (tokenObj slotid handle tok).key.type = tok.keyType from rfl, hprep]
    simp only [hkey, ne_eq, not_true_eq_false, if_false]
    rfl
  refine ⟨{ tokenObj slotid handle tok with
    attrs := (fetchAttributes tok (rs.map (·.set)) []).moveAllocAttrs }, rfl, rfl, rfl,
    fun type => getAttr_fetched hkey rfl, fun type => getAttr_unasked hkey rfl, ?_⟩
  have hcrt : tok.cls ≠ Cko.certificate := by
    rcases hcls with h | h | h
    · rw [h]
      decide
    · rw [h]
      decide
    · rw [h]
      decide
  rw [objFromToken_eq hobject, fetchByClass, show (tokenObj slotid handle tok).cls = tok.cls from rfl,
    if_neg hcrt, if_pos hcls, hfetch]
  generalize fetchKeyData lib _ = r
  rcases r with ret | key
  · rfl
  · rfl

theorem Obj.getAttr_append {key : Obj} {l : List (Nat × Bytes)} {v : Bytes}
    (h : key.getAttr type = some v) : Obj.getAttr { key with attrs := key.attrs ++ l } type = some v := by
  rw [Obj.getAttr] at h ⊢
  obtain ⟨a, ha, rfl⟩ := Option.map_eq_some_iff.1 h
  rw [List.find?_append, ha]
  rfl

/-- The object of the token is the key that the template was for. -/
structure FetchedKey (lib : ExportLib) (params : KeyParams) (find : KeyFindCtx) (obj : Obj) : Prop where
  cls : obj.cls = Cko.publicKey
  type : obj.key.type = find.type
  size : obj.key.size = find.keySize
  bitSize : obj.key.bitSize = find.bitSize
  holds : HoldsKey lib params obj.getAttr find.type

theorem FetchedKey.append {obj : Obj} (h : FetchedKey lib params find obj) (l : List (Nat × Bytes)) :
    FetchedKey lib params find { obj with attrs := obj.attrs ++ l } :=
  ⟨h.cls, h.type, h.size, h.bitSize, h.holds.mono fun _ _ => Obj.getAttr_append⟩

end Fetch

namespace PoolState

variable {st : PoolState} {slots : List SlotId} {o src : ObjId} {key key' obj : PoolObj}

end PoolState

end P11Prov
