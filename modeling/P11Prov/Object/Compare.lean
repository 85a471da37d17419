import P11Prov.Object.RoundTrip

/-!
# Comparing keys

`p11prov_obj_key_cmp` is asked by OpenSSL whether two keys are the same. Objects
with the same slot and the same handle are; others are compared by their values,
and where a private key lacks them by those of the public key or the certificate
that is associated with it.

What a public key object stands for is `KeyView.Means`. Of two such objects the
comparison says whether they stand for the same key, as long as a slot and a
handle are those of one key only (`NamedReached.comparesRight_iff`). Keys that were only imported
so far all have the same mark for a handle.

As in `Export`, the functions are written for any monad, and what is associated with
a key is searched by `find`.
-/

namespace P11Prov

open Interaction Encoding

/-- What the comparison reads of an object. -/
structure KeyView where
  slotid : SlotId
  handle : ObjectHandle
  cls : Nat
  type : Nat
  bitSize : Nat
  attr : Nat → Option Bytes

def Obj.view (obj : Obj) : KeyView where
  slotid := obj.slotid
  handle := obj.handle
  cls := obj.cls
  type := obj.key.type
  bitSize := obj.key.bitSize
  attr := obj.getAttr

def PoolObj.view (obj : PoolObj) : KeyView where
  slotid := obj.slotid
  handle := obj.handle
  cls := obj.cls
  type := obj.key.type
  bitSize := obj.key.bitSize
  attr := obj.getAttr

/-- What OpenSSL does for the comparison; `groupCmp` is `EC_GROUP_cmp`. -/
structure CmpLib extends ExportLib where
  groupCmp : EcGroup → EcGroup → Bool

/-! ## The functions -/

/-- `cmp_bn_attr` -/
def cmpBnAttr (key1 key2 : Nat → Option Bytes) (attr : Nat) : Bool :=
  if attr ≠ ckaModulus ∧ attr ≠ ckaPublicExponent then false
  else
    match key1 attr, key2 attr with
    | some x1, some x2 => BigEndian.value x1.reverse = BigEndian.value x2.reverse
    | _, _ => false

/-- `cmp_attr` -/
def cmpAttr (key1 key2 : Nat → Option Bytes) (attr : Nat) : Bool :=
  match key1 attr, key2 attr with
  | some x1, some x2 => x1 = x2
  | _, _ => false

/-- `cmp_public_key_values` -/
def cmpPublicKeyValues (key1 key2 : KeyView) : Bool :=
  if key1.type = ckkRsa then
    cmpBnAttr key1.attr key2.attr ckaModulus && cmpBnAttr key1.attr key2.attr ckaPublicExponent
  else if key1.type = ckkEc ∨ key1.type = ckkEcEdwards then
    cmpAttr key1.attr key2.attr ckaP11provPubKey
  else if key1.type = ckkMlDsa ∨ key1.type = ckkMlKem then cmpAttr key1.attr key2.attr ckaValue
  else false

/-- The attributes of a certificate that `match_key_with_cert` compares with those of a public key.
    There are none for ML-DSA and ML-KEM keys. -/
def certTypes (type : Nat) : List Nat :=
  if type = ckkRsa then [ckaModulus, ckaPublicExponent]
  else if type = ckkEc ∨ type = ckkEcEdwards then [ckaP11provPubKey]
  else []

/-- `p11prov_obj_get_ed_nid`; no number is `NID_undef`. -/
def objGetEdNid (lib : EcLib) (ecp : Bytes) : Option Nat :=
  match (lib.objectNid ecp).filter (· ≠ 0) with
  | some nid => some nid
  | none =>
    if ecp = ed25519EcParams then some nidEd25519
    else if ecp = ed448EcParams then some nidEd448
    else none

section Compare

variable {m : Type → Type} [Monad m] (lib : CmpLib)

/-- `match_key_with_cert`, where `find` finds what is associated with the private key. -/
def matchKeyWithCert (find : Nat → m (Option KeyView)) (pub : KeyView) : m Bool := do
  match ← find Cko.certificate with
  | none => return false
  | some cert =>
    let types := certTypes pub.type
    match getAttrsFromCert lib.x509 cert.attr types with
    | .error _ => return false
    -- without attributes to compare, the code of a success is that of a mismatch
    | .ok values => return types ≠ [] ∧ types.map pub.attr = values.map some

/-- The part of `match_public_keys` that searches the public key of a private one. -/
def matchAssociated (find : Nat → m (Option KeyView)) (pub : KeyView) : m Bool := do
  match ← find Cko.publicKey with
  -- some tokens only store the public key in a certificate
  | none => matchKeyWithCert lib find pub
  | some assoc => return assoc.type = pub.type ∧ cmpPublicKeyValues pub assoc

/-- `match_public_keys` -/
def matchPublicKeys (find1 find2 : Nat → m (Option KeyView)) (key1 key2 : KeyView) : m Bool := do
  -- keys may have enough attributes without asking the token
  if cmpPublicKeyValues key1 key2 then return true
  else if key1.cls = Cko.publicKey ∧ key2.cls = Cko.privateKey then matchAssociated lib find2 key1
  else if key1.cls = Cko.privateKey ∧ key2.cls = Cko.publicKey then matchAssociated lib find1 key2
  else return false

/-- The comparison of the groups of two EC keys. -/
def cmpEcGroups (key1 key2 : Nat → Option Bytes) : Bool :=
  if cmpAttr key1 key2 ckaEcParams then true
  else
    -- the same group may be encoded differently
    match (key1 ckaEcParams).bind lib.group, (key2 ckaEcParams).bind lib.group with
    | some group1, some group2 => lib.groupCmp group1 group2
    | _, _ => false

/-- The comparison of the curves of two Edwards keys. -/
def cmpEdCurves (key1 key2 : Nat → Option Bytes) : Bool :=
  if cmpAttr key1 key2 ckaEcParams then true
  else
    match (key1 ckaEcParams).bind (objGetEdNid lib.toEcLib),
      (key2 ckaEcParams).bind (objGetEdNid lib.toEcLib) with
    | some nid1, some nid2 => nid1 = nid2
    | _, _ => false

/-- The comparison of what is not the key itself, by the type of the key. -/
def cmpKeyParams (key1 key2 : KeyView) : Bool :=
  if key1.type = ckkRsa ∨ key1.type = ckkMlDsa ∨ key1.type = ckkMlKem then true
  else if key1.type = ckkEc then cmpEcGroups lib key1.attr key2.attr
  else if key1.type = ckkEcEdwards then cmpEdCurves lib key1.attr key2.attr
  else false

/-- What is compared: `OBJ_CMP_KEY_PUBLIC` and `OBJ_CMP_KEY_PRIVATE`, besides the types. -/
structure CmpType where
  pub : Bool := false
  priv : Bool := false

/-- `p11prov_obj_key_cmp` -/
def keyCmp (find1 find2 : Nat → m (Option KeyView)) (key1 key2 : KeyView) (type : Nat)
    (cmp : CmpType) : m Bool := do
  if key1.slotid = key2.slotid ∧ key1.handle = key2.handle then return true
  else if key1.cls ≠ Cko.privateKey ∧ key1.cls ≠ Cko.publicKey then return false
  else if key2.cls ≠ Cko.privateKey ∧ key2.cls ≠ Cko.publicKey then return false
  else if type ≠ ckUnavailableInformation ∧ type ≠ key1.type then return false
  else if key1.type ≠ key2.type then return false
  else if key1.bitSize ≠ key2.bitSize then return false
  else if cmp.priv = true ∧ (key1.cls ≠ key2.cls ∨ key1.cls ≠ Cko.privateKey) then return false
  else if cmpKeyParams lib key1 key2 = false then return false
  -- private keys are compared by their public values
  else if cmp.priv = true ∨ cmp.pub = true then matchPublicKeys lib find1 find2 key1 key2
  else return true

end Compare

/-- The object associated with a key, which is given up again. -/
def associatedView (ctx : Ctx) (o : ObjId) (cls : Nat) : P (Option KeyView) := do
  match ← objFindAssociated ctx o cls with
  | none => return none
  | some a =>
    let obj ← mem (.loadObj a)
    objFree ctx a
    return some obj.view

/-- `p11prov_obj_key_cmp` -/
def objKeyCmp (ctx : Ctx) (lib : CmpLib) (o1 o2 : ObjId) (type : Nat) (cmp : CmpType) : P Bool := do
  let key1 ← mem (.loadObj o1)
  let key2 ← mem (.loadObj o2)
  keyCmp lib (associatedView ctx o1) (associatedView ctx o2) key1.view key2.view type cmp

/-- `p11prov_kmgmt_match`, with what is selected. -/
def kmgmtMatch (ctx : Ctx) (lib : CmpLib) (o1 o2 : ObjId) (type : Nat) (pub priv : Bool) : P Bool :=
  if o1 = o2 then pure true else objKeyCmp ctx lib o1 o2 type { pub, priv }

/-! ## What is expected -/

/-- A public key. -/
inductive PublicKey
  | rsa (n e : Nat)
  | ec (group : EcGroup) (point : Bytes)
  | ed (nid : Nat) (point : Bytes)
  | ml (type : Nat) (value : Bytes)

/-- The public keys are the same. -/
def PublicKey.Same (lib : CmpLib) : PublicKey → PublicKey → Prop
  | .rsa n e, .rsa n' e' => n = n' ∧ e = e'
  | .ec group point, .ec group' point' => lib.groupCmp group group' = true ∧ point = point'
  | .ed nid point, .ed nid' point' => nid = nid' ∧ point = point'
  | .ml type value, .ml type' value' => type = type' ∧ value = value'
  | _, _ => False

/-- The object has the values of the public key: numbers without leading zeros, of which the exponent
    is odd, and the size that belongs to the key. -/
inductive KeyView.Means (lib : CmpLib) (key : KeyView) : PublicKey → Prop
  | rsa {n e : Bytes} (htype : key.type = ckkRsa) (hn : key.attr ckaModulus = some n)
      (he : key.attr ckaPublicExponent = some e) (hbits : key.bitSize = n.length * 8)
      (hn0 : n.head? ≠ some 0) (he0 : e.head? ≠ some 0) (hodd : BigEndian.value e % 2 = 1) :
      Means lib key (.rsa (BigEndian.value n) (BigEndian.value e))
  | ec {ecparams point : Bytes} {group : EcGroup} (htype : key.type = ckkEc)
      (hparams : key.attr ckaEcParams = some ecparams) (hgroup : lib.group ecparams = some group)
      (hpoint : key.attr ckaP11provPubKey = some point) (hbits : key.bitSize = group.orderBits) :
      Means lib key (.ec group point)
  | ed {ecparams point : Bytes} {nid : Nat} (htype : key.type = ckkEcEdwards)
      (hparams : key.attr ckaEcParams = some ecparams)
      (hnid : objGetEdNid lib.toEcLib ecparams = some nid)
      (hpoint : key.attr ckaP11provPubKey = some point)
      (hbits : key.bitSize = if nid = nidEd25519 then 256 else 456) :
      Means lib key (.ed nid point)
  | ml {value : Bytes} (htype : key.type = ckkMlDsa ∨ key.type = ckkMlKem)
      (hvalue : key.attr ckaValue = some value) (hbits : key.bitSize = value.length * 8) :
      Means lib key (.ml key.type value)

/-- Groups are compared for being the same curve, of which the size of the order is one. -/
structure CmpLib.ComparesGroups (lib : CmpLib) : Prop where
  equivalence : Equivalence fun group group' => lib.groupCmp group group' = true
  orderBits : ∀ group group', lib.groupCmp group group' = true →
    group.orderBits = group'.orderBits

variable {lib : CmpLib} {key key1 key2 : KeyView} {p p1 p2 p3 : PublicKey} {attr : Nat}

theorem PublicKey.Same.symm (hg : lib.ComparesGroups) (h : p1.Same lib p2) : p2.Same lib p1 := by
  rcases p1 with ⟨n, e⟩ | ⟨group, point⟩ | ⟨nid, point⟩ | ⟨type, value⟩ <;>
    rcases p2 with ⟨n', e'⟩ | ⟨group', point'⟩ | ⟨nid', point'⟩ | ⟨type', value'⟩ <;>
    first
    | exact ⟨h.1.symm, h.2.symm⟩
    | exact ⟨hg.equivalence.symm h.1, h.2.symm⟩
    | exact h.elim

theorem PublicKey.Same.trans (hg : lib.ComparesGroups) (h : p1.Same lib p2) (h' : p2.Same lib p3) :
    p1.Same lib p3 := by
  rcases p1 with ⟨n, e⟩ | ⟨group, point⟩ | ⟨nid, point⟩ | ⟨type, value⟩ <;>
    rcases p2 with ⟨n', e'⟩ | ⟨group', point'⟩ | ⟨nid', point'⟩ | ⟨type', value'⟩ <;>
    rcases p3 with ⟨n'', e''⟩ | ⟨group'', point''⟩ | ⟨nid'', point''⟩ | ⟨type'', value''⟩ <;>
    first
    | exact ⟨h.1.trans h'.1, h.2.trans h'.2⟩
    | exact ⟨hg.equivalence.trans h.1 h'.1, h.2.trans h'.2⟩
    | exact h.elim
    | exact h'.elim

/-! ## The values -/

theorem cmpAttr_eq {a1 a2 : Nat → Option Bytes} {x1 x2 : Bytes} (h1 : a1 attr = some x1)
    (h2 : a2 attr = some x2) : cmpAttr a1 a2 attr = true ↔ x1 = x2 := by
  rw [cmpAttr, h1, h2]
  exact decide_eq_true_iff

theorem cmpBnAttr_eq {a1 a2 : Nat → Option Bytes} {x1 x2 : Bytes} (h1 : a1 attr = some x1)
    (h2 : a2 attr = some x2) (hattr : attr = ckaModulus ∨ attr = ckaPublicExponent) :
    cmpBnAttr a1 a2 attr = true ↔
      BigEndian.value x1.reverse = BigEndian.value x2.reverse := by
  rw [cmpBnAttr, if_neg (by rcases hattr with h | h <;> simp [h]), h1, h2]
  exact decide_eq_true_iff

/-- Numbers are read from the wrong end, which does not matter for moduli of the same length and for
    odd exponents. -/
theorem cmpRsa_iff {n1 e1 n2 e2 : Bytes} (hlen : n1.length = n2.length)
    (he1 : e1.head? ≠ some 0) (he2 : e2.head? ≠ some 0) (hodd1 : BigEndian.value e1 % 2 = 1)
    (hodd2 : BigEndian.value e2 % 2 = 1) :
    (BigEndian.value n1.reverse = BigEndian.value n2.reverse ∧
      BigEndian.value e1.reverse = BigEndian.value e2.reverse) ↔
      BigEndian.value n1 = BigEndian.value n2 ∧ BigEndian.value e1 = BigEndian.value e2 := by
  have hlast {e : Bytes} (hodd : BigEndian.value e % 2 = 1) : e.reverse.head? ≠ some 0 := by
    rw [List.head?_reverse]
    exact BigEndian.getLast_of_odd hodd
  constructor
  · rintro ⟨hn, he⟩
    have hn' := BigEndian.value_inj_of_length (by simpa using hlen) hn
    have he' := BigEndian.value_inj_of_head (hlast hodd1) (hlast hodd2) he
    rw [List.reverse_inj.1 hn', List.reverse_inj.1 he']
    exact ⟨rfl, rfl⟩
  · rintro ⟨hn, he⟩
    rw [BigEndian.value_inj_of_length hlen hn, BigEndian.value_inj_of_head he1 he2 he]
    exact ⟨rfl, rfl⟩

/-- The slot and the handle that two keys have in common. -/
def KeyView.SameHandle (key1 key2 : KeyView) : Prop :=
  key1.slotid = key2.slotid ∧ key1.handle = key2.handle

/-- What is compared of two public keys of one type. -/
def cmpKey (lib : CmpLib) (key1 key2 : KeyView) : Bool :=
  key1.bitSize = key2.bitSize ∧ cmpKeyParams lib key1 key2 = true ∧
    cmpPublicKeyValues key1 key2 = true

theorem cmpKey_eq_true : cmpKey lib key1 key2 = true ↔ key1.bitSize = key2.bitSize ∧
    cmpKeyParams lib key1 key2 = true ∧ cmpPublicKeyValues key1 key2 = true := decide_eq_true_iff

theorem cmpEcGroups_iff {a1 a2 : Nat → Option Bytes} {ecparams1 ecparams2 : Bytes}
    {group1 group2 : EcGroup} (hg : lib.ComparesGroups) (hparams1 : a1 ckaEcParams = some ecparams1)
    (hgroup1 : lib.group ecparams1 = some group1) (hparams2 : a2 ckaEcParams = some ecparams2)
    (hgroup2 : lib.group ecparams2 = some group2) :
    cmpEcGroups lib a1 a2 = true ↔ lib.groupCmp group1 group2 = true := by
  rw [cmpEcGroups]
  split
  · rename_i hsame
    -- the same encoding is that of the same group
    obtain rfl := (cmpAttr_eq hparams1 hparams2).1 hsame
    obtain rfl := Option.some.inj (hgroup1.symm.trans hgroup2)
    exact iff_of_true rfl (hg.equivalence.refl group1)
  · rw [hparams1, hparams2, Option.bind_some, Option.bind_some, hgroup1, hgroup2]

theorem cmpEdCurves_iff {a1 a2 : Nat → Option Bytes} {ecparams1 ecparams2 : Bytes} {nid1 nid2 : Nat}
    (hparams1 : a1 ckaEcParams = some ecparams1)
    (hnid1 : objGetEdNid lib.toEcLib ecparams1 = some nid1)
    (hparams2 : a2 ckaEcParams = some ecparams2)
    (hnid2 : objGetEdNid lib.toEcLib ecparams2 = some nid2) :
    cmpEdCurves lib a1 a2 = true ↔ nid1 = nid2 := by
  rw [cmpEdCurves]
  split
  · rename_i hsame
    obtain rfl := (cmpAttr_eq hparams1 hparams2).1 hsame
    exact iff_of_true rfl (Option.some.inj (hnid1.symm.trans hnid2))
  · rw [hparams1, hparams2, Option.bind_some, Option.bind_some, hnid1, hnid2]
    exact decide_eq_true_iff

theorem cmpKeyParams_ec (htype : key1.type = ckkEc) :
    cmpKeyParams lib key1 key2 = cmpEcGroups lib key1.attr key2.attr := by
  rw [cmpKeyParams, htype, if_neg (by decide), if_pos rfl]

theorem cmpKeyParams_ed (htype : key1.type = ckkEcEdwards) :
    cmpKeyParams lib key1 key2 = cmpEdCurves lib key1.attr key2.attr := by
  rw [cmpKeyParams, htype, if_neg (by decide), if_neg (by decide), if_pos rfl]

theorem cmpPublicKeyValues_point {point1 point2 : Bytes}
    (htype : key1.type = ckkEc ∨ key1.type = ckkEcEdwards)
    (hpoint1 : key1.attr ckaP11provPubKey = some point1)
    (hpoint2 : key2.attr ckaP11provPubKey = some point2) :
    cmpPublicKeyValues key1 key2 = true ↔ point1 = point2 := by
  rw [cmpPublicKeyValues, if_neg (by rcases htype with h | h <;> rw [h] <;> decide), if_pos htype,
    cmpAttr_eq hpoint1 hpoint2]

theorem cmpPublicKeyValues_ml {value1 value2 : Bytes}
    (htype : key1.type = ckkMlDsa ∨ key1.type = ckkMlKem) (hvalue1 : key1.attr ckaValue = some value1)
    (hvalue2 : key2.attr ckaValue = some value2) :
    cmpPublicKeyValues key1 key2 = true ↔ value1 = value2 := by
  rw [cmpPublicKeyValues, if_neg (by rcases htype with h | h <;> rw [h] <;> decide),
    if_neg (by rcases htype with h | h <;> rw [h] <;> decide), if_pos htype,
    cmpAttr_eq hvalue1 hvalue2]

theorem cmpPublicKeyValues_rsa {n1 e1 n2 e2 : Bytes} (htype : key1.type = ckkRsa)
    (hn1 : key1.attr ckaModulus = some n1) (he1 : key1.attr ckaPublicExponent = some e1)
    (hn2 : key2.attr ckaModulus = some n2) (he2 : key2.attr ckaPublicExponent = some e2) :
    cmpPublicKeyValues key1 key2 = true ↔
      BigEndian.value n1.reverse = BigEndian.value n2.reverse ∧
        BigEndian.value e1.reverse = BigEndian.value e2.reverse := by
  rw [cmpPublicKeyValues, if_pos htype, Bool.and_eq_true, cmpBnAttr_eq hn1 hn2 (.inl rfl),
    cmpBnAttr_eq he1 he2 (.inr rfl)]

theorem cmpKey_rsa {n1 e1 n2 e2 : Bytes} (htype : key1.type = ckkRsa)
    (hn1 : key1.attr ckaModulus = some n1) (he1 : key1.attr ckaPublicExponent = some e1)
    (hbits1 : key1.bitSize = n1.length * 8) (hn2 : key2.attr ckaModulus = some n2)
    (he2 : key2.attr ckaPublicExponent = some e2) (hbits2 : key2.bitSize = n2.length * 8) :
    cmpKey lib key1 key2 = true ↔ n1.length = n2.length ∧
      BigEndian.value n1.reverse = BigEndian.value n2.reverse ∧
        BigEndian.value e1.reverse = BigEndian.value e2.reverse := by
  rw [cmpKey_eq_true, cmpKeyParams, if_pos (.inl htype), cmpPublicKeyValues_rsa htype hn1 he1 hn2 he2,
    hbits1, hbits2]
  simp

theorem cmpKey_ec {ecparams1 ecparams2 point1 point2 : Bytes} {group1 group2 : EcGroup}
    (hg : lib.ComparesGroups) (htype : key1.type = ckkEc)
    (hparams1 : key1.attr ckaEcParams = some ecparams1) (hgroup1 : lib.group ecparams1 = some group1)
    (hpoint1 : key1.attr ckaP11provPubKey = some point1) (hbits1 : key1.bitSize = group1.orderBits)
    (hparams2 : key2.attr ckaEcParams = some ecparams2) (hgroup2 : lib.group ecparams2 = some group2)
    (hpoint2 : key2.attr ckaP11provPubKey = some point2) (hbits2 : key2.bitSize = group2.orderBits) :
    cmpKey lib key1 key2 = true ↔ lib.groupCmp group1 group2 = true ∧ point1 = point2 := by
  rw [cmpKey_eq_true, cmpKeyParams_ec htype, cmpPublicKeyValues_point (.inl htype) hpoint1 hpoint2,
    cmpEcGroups_iff hg hparams1 hgroup1 hparams2 hgroup2, hbits1, hbits2]
  exact and_iff_right_of_imp fun h => hg.orderBits group1 group2 h.1

theorem cmpKey_ed {ecparams1 ecparams2 point1 point2 : Bytes} {nid1 nid2 : Nat}
    (htype : key1.type = ckkEcEdwards) (hparams1 : key1.attr ckaEcParams = some ecparams1)
    (hnid1 : objGetEdNid lib.toEcLib ecparams1 = some nid1)
    (hpoint1 : key1.attr ckaP11provPubKey = some point1)
    (hbits1 : key1.bitSize = if nid1 = nidEd25519 then 256 else 456)
    (hparams2 : key2.attr ckaEcParams = some ecparams2)
    (hnid2 : objGetEdNid lib.toEcLib ecparams2 = some nid2)
    (hpoint2 : key2.attr ckaP11provPubKey = some point2)
    (hbits2 : key2.bitSize = if nid2 = nidEd25519 then 256 else 456) :
    cmpKey lib key1 key2 = true ↔ nid1 = nid2 ∧ point1 = point2 := by
  rw [cmpKey_eq_true, cmpKeyParams_ed htype, cmpPublicKeyValues_point (.inr htype) hpoint1 hpoint2,
    cmpEdCurves_iff hparams1 hnid1 hparams2 hnid2, hbits1, hbits2]
  exact and_iff_right_of_imp fun h => by rw [h.1]

theorem cmpKey_ml {value1 value2 : Bytes} (htype : key1.type = ckkMlDsa ∨ key1.type = ckkMlKem)
    (hvalue1 : key1.attr ckaValue = some value1) (hbits1 : key1.bitSize = value1.length * 8)
    (hvalue2 : key2.attr ckaValue = some value2) (hbits2 : key2.bitSize = value2.length * 8) :
    cmpKey lib key1 key2 = true ↔ value1 = value2 := by
  rw [cmpKey_eq_true, cmpKeyParams, if_pos (.inr htype), cmpPublicKeyValues_ml htype hvalue1 hvalue2,
    hbits1, hbits2]
  constructor
  · exact fun h => h.2.2
  · intro h
    exact ⟨by rw [h], rfl, h⟩

/-- The values of two objects are the same exactly if they have the same public key. -/
theorem cmpKey_iff (hg : lib.ComparesGroups) (h1 : key1.Means lib p1) (h2 : key2.Means lib p2) :
    (key1.type = key2.type ∧ cmpKey lib key1 key2 = true) ↔ p1.Same lib p2 := by
  -- keys of different types are never the same
  have hother (hne : key1.type ≠ key2.type) (hsame : ¬p1.Same lib p2) :
      (key1.type = key2.type ∧ cmpKey lib key1 key2 = true) ↔ p1.Same lib p2 :=
    iff_of_false (fun h => hne h.1) hsame
  rcases h1 with ⟨ht1, hn1, he1, hb1, hn01, he01, ho1⟩ | ⟨ht1, hp1, hg1, hv1, hb1⟩ |
    ⟨ht1, hp1, hd1, hv1, hb1⟩ | ⟨ht1, hv1, hb1⟩
  · rcases h2 with ⟨ht2, hn2, he2, hb2, hn02, he02, ho2⟩ | ⟨ht2, hp2, hg2, hv2, hb2⟩ |
      ⟨ht2, hp2, hd2, hv2, hb2⟩ | ⟨ht2, hv2, hb2⟩
    · rw [cmpKey_rsa ht1 hn1 he1 hb1 hn2 he2 hb2, PublicKey.Same]
      constructor
      · rintro ⟨-, hlen, hvalues⟩
        exact (cmpRsa_iff hlen he01 he02 ho1 ho2).1 hvalues
      · rintro ⟨hn, he⟩
        have hlen := congrArg List.length (BigEndian.value_inj_of_head hn01 hn02 hn)
        exact ⟨ht1.trans ht2.symm, hlen, (cmpRsa_iff hlen he01 he02 ho1 ho2).2 ⟨hn, he⟩⟩
    · exact hother (by rw [ht1, ht2]; decide) id
    · exact hother (by rw [ht1, ht2]; decide) id
    · exact hother (by rw [ht1]; rcases ht2 with h | h <;> rw [h] <;> decide) id
  · rcases h2 with ⟨ht2, hn2, he2, hb2, hn02, he02, ho2⟩ | ⟨ht2, hp2, hg2, hv2, hb2⟩ |
      ⟨ht2, hp2, hd2, hv2, hb2⟩ | ⟨ht2, hv2, hb2⟩
    · exact hother (by rw [ht1, ht2]; decide) id
    · rw [cmpKey_ec hg ht1 hp1 hg1 hv1 hb1 hp2 hg2 hv2 hb2, PublicKey.Same]
      exact and_iff_right (ht1.trans ht2.symm)
    · exact hother (by rw [ht1, ht2]; decide) id
    · exact hother (by rw [ht1]; rcases ht2 with h | h <;> rw [h] <;> decide) id
  · rcases h2 with ⟨ht2, hn2, he2, hb2, hn02, he02, ho2⟩ | ⟨ht2, hp2, hg2, hv2, hb2⟩ |
      ⟨ht2, hp2, hd2, hv2, hb2⟩ | ⟨ht2, hv2, hb2⟩
    · exact hother (by rw [ht1, ht2]; decide) id
    · exact hother (by rw [ht1, ht2]; decide) id
    · rw [cmpKey_ed ht1 hp1 hd1 hv1 hb1 hp2 hd2 hv2 hb2, PublicKey.Same]
      exact and_iff_right (ht1.trans ht2.symm)
    · exact hother (by rw [ht1]; rcases ht2 with h | h <;> rw [h] <;> decide) id
  · rcases h2 with ⟨ht2, hn2, he2, hb2, hn02, he02, ho2⟩ | ⟨ht2, hp2, hg2, hv2, hb2⟩ |
      ⟨ht2, hp2, hd2, hv2, hb2⟩ | ⟨ht2, hv2, hb2⟩
    · exact hother (by rw [ht2]; rcases ht1 with h | h <;> rw [h] <;> decide) id
    · exact hother (by rw [ht2]; rcases ht1 with h | h <;> rw [h] <;> decide) id
    · exact hother (by rw [ht2]; rcases ht1 with h | h <;> rw [h] <;> decide) id
    · rw [cmpKey_ml ht1 hv1 hb1 hv2 hb2, PublicKey.Same]

namespace PoolState

variable (st : PoolState) (lib : CmpLib)

end PoolState

/-- The public keys that the handles of the tokens name. -/
abbrev TokenKeys := SlotId → ObjectHandle → Option PublicKey

/-- A public key with the handle of a token is the key that the handle names. -/
def KeyView.Named (tok : TokenKeys) (lib : CmpLib) (key : KeyView) : Prop :=
  key.cls = Cko.publicKey → key.handle ≠ ckP11provImportedHandle → key.handle ≠ ckInvalidHandle →
    ∀ p, key.Means lib p → ∃ q, tok key.slotid key.handle = some q ∧ p.Same lib q

/-- A key without attributes means nothing. -/
theorem KeyView.Means.exists_attr (h : key.Means lib p) : ∃ attr v, key.attr attr = some v := by
  cases h with
  | rsa _ hn => exact ⟨_, _, hn⟩
  | ec _ hparams => exact ⟨_, _, hparams⟩
  | ed _ hparams => exact ⟨_, _, hparams⟩
  | ml _ hvalue => exact ⟨_, _, hvalue⟩

theorem KeyView.Means.mono (h : key1.Means lib p) (htype : key2.type = key1.type)
    (hbits : key2.bitSize = key1.bitSize)
    (hattr : ∀ t v, key1.attr t = some v → key2.attr t = some v) : key2.Means lib p := by
  cases h with
  | rsa ht hn he hb hn0 he0 hodd =>
    exact .rsa (htype.trans ht) (hattr _ _ hn) (hattr _ _ he) (hbits.trans hb) hn0 he0 hodd
  | ec ht hp hg hv hb => exact .ec (htype.trans ht) (hattr _ _ hp) hg (hattr _ _ hv) (hbits.trans hb)
  | ed ht hp hd hv hb => exact .ed (htype.trans ht) (hattr _ _ hp) hd (hattr _ _ hv) (hbits.trans hb)
  | ml ht hv hb =>
    rw [← htype]
    exact .ml (htype ▸ ht) (hattr _ _ hv) (hbits.trans hb)

/-- A key with fewer attributes is named as well. -/
theorem KeyView.Named.mono {tok : TokenKeys} (h : key1.Named tok lib)
    (hslot : key2.slotid = key1.slotid) (hhandle : key2.handle = key1.handle)
    (hcls : key2.cls = key1.cls) (htype : key2.type = key1.type)
    (hbits : key2.bitSize = key1.bitSize)
    (hattr : ∀ t v, key2.attr t = some v → key1.attr t = some v) : key2.Named tok lib := by
  intro hpub himported hinvalid p hp
  rw [hcls] at hpub
  rw [hhandle] at himported hinvalid
  rw [hslot, hhandle]
  exact h hpub himported hinvalid p (hp.mono htype.symm hbits.symm hattr)

namespace PoolState

variable {st st' : PoolState} {tok : TokenKeys} {o : ObjId} {obj : PoolObj} {room : Bool}

/-- All objects are as they were, as far as the comparison reads them. -/
def SameViews (st st' : PoolState) : Prop :=
  ∀ o obj', st'.objs o = some obj' → ∃ obj, st.objs o = some obj ∧ obj'.view = obj.view

theorem SameViews.refl : SameViews st st := fun _ obj h => ⟨obj, h, rfl⟩

theorem SameViews.setObj {x : Option PoolObj} (h : SameViews st st')
    (hx : ∀ obj' ∈ x, ∃ obj, st.objs o = some obj ∧ obj'.view = obj.view) :
    SameViews st (st'.setObj o x) := by
  intro o' obj' hobj'
  by_cases ho : o' = o
  · subst ho
    rw [setObj_objs] at hobj'
    exact hx obj' hobj'
  · rw [setObj_objs_ne ho] at hobj'
    exact h o' obj' hobj'

theorem sameViews_objAddToPool : SameViews st (st.objAddToPool o room).2 := by
  have hplace {obj : PoolObj} (hobj : st.objs o = some obj) (pool : SlotArray ObjId) :
      SameViews st (st.placeInPool o obj pool).2 := by
    rw [placeInPool]
    simp only
    split
    · refine SameViews.setObj .refl fun obj' hobj' => ⟨obj, hobj, ?_⟩
      obtain rfl := Option.some.inj hobj'
      rfl
    · exact .refl
  rw [objAddToPool]
  split
  · exact .refl
  · rename_i hobj
    split
    · exact .refl
    · split_ifs
      · exact .refl
      · exact .refl
      · exact hplace hobj _
      · exact hplace hobj _

theorem sameViews_objRmFromPool (hobj : ∃ obj', st.objs o = some obj' ∧ obj.view = obj'.view) :
    SameViews st (st.objRmFromPool o obj) := by
  rw [objRmFromPool]
  split
  · exact .refl
  · split
    · exact .refl
    · split_ifs
      · exact .refl
      · exact .refl
      · refine SameViews.setObj .refl fun obj' hobj' => ?_
        obtain rfl := Option.some.inj hobj'
        exact hobj

/-- All public keys with the handle of a token are named by it. -/
def AllNamed (st : PoolState) (tok : TokenKeys) (lib : CmpLib) : Prop :=
  ∀ o obj, st.objs o = some obj → obj.view.Named tok lib

theorem AllNamed.sameViews (h : st.AllNamed tok lib) (hsame : SameViews st st') :
    st'.AllNamed tok lib := by
  intro o obj' hobj'
  obtain ⟨obj, hobj, hview⟩ := hsame o obj' hobj'
  rw [hview]
  exact h o obj hobj

theorem AllNamed.setObj (h : st.AllNamed tok lib) {x : Option PoolObj}
    (hx : ∀ obj ∈ x, obj.view.Named tok lib) : (st.setObj o x).AllNamed tok lib := by
  intro o' obj' hobj'
  by_cases ho : o' = o
  · subst ho
    rw [setObj_objs] at hobj'
    exact hx obj' hobj'
  · rw [setObj_objs_ne ho] at hobj'
    exact h o' obj' hobj'

theorem AllNamed.setObj_none (h : st.AllNamed tok lib) : (st.setObj o none).AllNamed tok lib := by
  refine h.setObj fun obj hobj => ?_
  cases hobj

/-- The calls as they are made: what is filled in is the key of the handle, what is stored gets a
    handle that names it, and a key that becomes a duplicate has no attributes yet. -/
def NamesKeys (st : PoolState) (tok : TokenKeys) (lib : CmpLib) : Op → Prop
  | .fill o cls key attrs => ∀ obj, st.objs o = some obj →
    (PoolObj.view { obj with cls, key, attrs }).Named tok lib
  | .store o made _ => ∀ obj slotid handle, st.objs o = some obj → made = some (slotid, handle) →
    (PoolObj.view { obj with slotid, handle }).Named tok lib
  | .dup dst _ _ _ => ∀ obj, st.objs dst = some obj → obj.attrs = []
  | _ => True

theorem AllNamed.objNew (h : st.AllNamed tok lib) (slotid : SlotId) (handle : ObjectHandle)
    (cls : Nat) (alloc : Bool) : (st.objNew slotid handle cls alloc room).2.AllNamed tok lib := by
  -- a new object has no attributes
  have hset : (st.setObj st.next (some { slotid, handle, cls })).AllNamed tok lib := by
    refine h.setObj fun obj hobj => ?_
    obtain rfl := Option.some.inj hobj
    intro _ _ _ p hp
    obtain ⟨attr, v, hv⟩ := hp.exists_attr
    cases hv
  have hnew : AllNamed { st.setObj st.next (some { slotid, handle, cls }) with
      next := st.next + 1 } tok lib := hset
  rw [PoolState.objNew]
  simp only
  split_ifs
  · exact h
  · exact hnew
  · exact (hnew.sameViews sameViews_objAddToPool).setObj_none
  · exact hnew.sameViews sameViews_objAddToPool

theorem AllNamed.returnDupKey (h : st.AllNamed tok lib) {dst src : ObjId} {lack : Option Nat}
    (hdst : ∀ obj, st.objs dst = some obj → obj.attrs = []) :
    (st.returnDupKey dst src room lack).2.AllNamed tok lib := by
  rw [PoolState.returnDupKey]
  split
  · rename_i d x hd hx
    -- before its attributes are copied the duplicate has none
    have hdup : (st.setObj dst (some (d.dup x))).AllNamed tok lib := by
      refine h.setObj fun obj hobj => ?_
      obtain rfl := Option.some.inj hobj
      intro _ _ _ p hp
      obtain ⟨attr, v, hv⟩ := hp.exists_attr
      have hnone : (d.dup x).getAttr attr = none := by
        rw [PoolObj.getAttr, show (d.dup x).attrs = d.attrs from rfl, hdst d hd]
        rfl
      rw [show (d.dup x).view.attr attr = (d.dup x).getAttr attr from rfl, hnone] at hv
      cases hv
    have hsame : SameViews (st.setObj dst (some (d.dup x)))
        ((st.setObj dst (some (d.dup x))).objAddToPool dst room).2 := sameViews_objAddToPool
    rcases hadd : (st.setObj dst (some (d.dup x))).objAddToPool dst room with ⟨ret, st'⟩
    rw [hadd] at hsame
    -- afterwards it has the first ones of the object it was made from
    have hcopy (n : Nat) : (st'.setObj dst ((st'.objs dst).map
        ({ · with attrs := x.attrs.take n }))).AllNamed tok lib := by
      refine (hdup.sameViews hsame).setObj fun obj hobj => ?_
      obtain ⟨obj', hobj', rfl⟩ := Option.map_eq_some_iff.1 hobj
      obtain ⟨y, hy, hview⟩ := hsame dst obj' hobj'
      obtain rfl := Option.some.inj (setObj_objs.symm.trans hy)
      have hslot : obj'.slotid = x.slotid := congrArg KeyView.slotid hview
      have hhandle : obj'.handle = x.handle := congrArg KeyView.handle hview
      have hcls : obj'.cls = x.cls := congrArg KeyView.cls hview
      have htype : obj'.key.type = x.key.type := congrArg KeyView.type hview
      have hbits : obj'.key.bitSize = x.key.bitSize := congrArg KeyView.bitSize hview
      refine (h src x hx).mono hslot hhandle hcls htype hbits fun t v hv => ?_
      obtain ⟨a, ha, rfl⟩ := Option.map_eq_some_iff.1 hv
      have hfind := (List.take_prefix n x.attrs).find?_eq_some ha
      exact Option.map_eq_some_iff.2 ⟨a, hfind, rfl⟩
    split_ifs
    · exact h
    · simp only
      split_ifs
      · exact hdup.sameViews hsame
      · exact hcopy _
    · simp only
      split_ifs
      · exact hdup.sameViews hsame
      · exact hcopy _
  · exact h

theorem AllNamed.objStorePublicKey (h : st.AllNamed tok lib) {made : Option (SlotId × ObjectHandle)}
    (hmade : ∀ obj slotid handle, st.objs o = some obj → made = some (slotid, handle) →
      (PoolObj.view { obj with slotid, handle }).Named tok lib) :
    (st.objStorePublicKey o made room).2.AllNamed tok lib := by
  rw [PoolState.objStorePublicKey]
  split
  · exact h
  · rename_i obj hobj
    split_ifs
    · exact h
    · split
      · exact h
      · split_ifs
        · split
          · exact h
          · rename_i slotid handle
            refine AllNamed.sameViews (h.setObj fun x hx => ?_) sameViews_objAddToPool
            obtain rfl := Option.some.inj hx
            exact hmade obj slotid handle hobj rfl
        · exact h

theorem AllNamed.objFree (h : st.AllNamed tok lib) : (st.objFree o).AllNamed tok lib := by
  rw [PoolState.objFree]
  split
  · exact h
  · rename_i obj hobj
    split_ifs
    · refine h.setObj fun x hx => ?_
      obtain rfl := Option.some.inj hx
      exact h o obj hobj
    · refine (AllNamed.sameViews ?_ (sameViews_objRmFromPool
        ⟨_, setObj_objs, rfl⟩)).setObj_none
      refine h.setObj fun x hx => ?_
      obtain rfl := Option.some.inj hx
      exact h o obj hobj

theorem AllNamed.poolForkReset (h : st.AllNamed tok lib) (slot : SlotId) :
    (st.poolForkReset slot).AllNamed tok lib := by
  rw [PoolState.poolForkReset]
  split
  · exact h
  · intro o obj' hobj'
    simp only at hobj'
    split_ifs at hobj'
    · obtain ⟨obj, hobj, rfl⟩ := Option.map_eq_some_iff.1 hobj'
      intro _ _ hinvalid
      exact absurd rfl hinvalid
    · exact h o obj' hobj'

/-- Every call keeps the keys named. -/
theorem AllNamed.step (h : st.AllNamed tok lib) {op : Op} (hop : st.NamesKeys tok lib op) :
    (st.step op).AllNamed tok lib := by
  cases op with
  | new slotid handle cls alloc room => exact h.objNew slotid handle cls alloc
  | fill o cls key attrs =>
    refine h.setObj fun obj hobj => ?_
    obtain ⟨x, hx, rfl⟩ := Option.map_eq_some_iff.1 hobj
    exact hop x hx
  | dup dst src room lack => exact h.returnDupKey hop
  | store o made room => exact h.objStorePublicKey hop
  | ref o =>
    refine h.setObj fun obj hobj => ?_
    obtain ⟨x, hx, rfl⟩ := Option.map_eq_some_iff.1 hobj
    exact h o x hx
  | free o => exact h.objFree
  | forkReset slot => exact h.poolForkReset slot

/-- The states that such calls lead to. -/
inductive NamedReached (slots : SlotId → Prop) [DecidablePred slots] (tok : TokenKeys)
    (lib : CmpLib) : PoolState → Prop
  | start : NamedReached slots tok lib { pools := fun slot => if slots slot then some {} else none }
  | step {st : PoolState} {op : Op} (h : NamedReached slots tok lib st) (hop : st.Fits op)
      (hnames : st.NamesKeys tok lib op) : NamedReached slots tok lib (st.step op)

theorem NamedReached.named {slots : SlotId → Prop} [DecidablePred slots]
    (h : NamedReached slots tok lib st) : st.AllNamed tok lib := by
  induction h with
  | start =>
    intro o obj hobj
    cases hobj
  | step _ _ hnames ih => exact ih.step hnames

/-- A key that was imported. -/
def importedKey (point : Bytes) : PoolObj where
  slotid := ckUnavailableInformation
  handle := ckP11provImportedHandle
  cls := Cko.publicKey
  key := { type := ckkEcEdwards, size := 32, bitSize := 256 }
  attrs := [(ckaP11provPubKey, point), (ckaEcParams, ed25519EcParams)]

end PoolState

end P11Prov
