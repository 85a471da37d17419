import P11Prov.Encoding.Der
import P11Prov.Exchange
import P11Prov.Object.Import

/-!
# The coordinates of EC keys

An EC key keeps what was computed from its attributes with them: the public key
(`CKA_P11PROV_PUB_KEY`) from `CKA_EC_POINT`, and the coordinates
(`CKA_P11PROV_PUB_KEY_X` and `_Y`) from the public key. The setter replaces the
public key and the point, and leaves the coordinates.

`runsRight_fits` says for which calls the attributes stay in step with each other.
The calls come with what memory there is. They are those on objects in memory:
`objGetEcPublicRaw_spec`.
-/

namespace P11Prov

open Encoding Encoding.Der

/-! ## The functions -/

/-- What OpenSSL reads. -/
structure PointLib where
  /-- `d2i_ECPKParameters`, `EC_POINT_oct2point` and `EC_POINT_get_affine_coordinates`: the numbers
      as `BN_bn2nativepad` writes them into as many bytes as they have. -/
  coordinates : Bytes → Bytes → Option (Bytes × Bytes)
  /-- `d2i_ASN1_OCTET_STRING` -/
  octetString : Bytes → Option Bytes

/-- The memory for `p11prov_obj_get_ec_public_x_y`: for what it computes with, for more attributes,
    and for the two values. -/
structure CoordMem where
  setup : Bool
  grow : Bool
  x : Bool
  y : Bool

/-- The memory for `p11prov_obj_get_ec_public_raw`: for a copy of a point that is not in DER, and for
    another attribute. -/
structure RawMem where
  copy : Bool
  grow : Bool

/-- The memory for `p11prov_obj_set_ec_encoded_public_key`: for more attributes, and whether they are
    moved; for the copy of the key, and for its encoding. -/
structure SetPubMem where
  grow : Bool
  moved : Bool
  copy : Bool
  der : Bool

namespace Obj

variable (obj : Obj)

/-- An attribute at the end. -/
def addAttr (a : Nat × Bytes) : Obj := { obj with attrs := obj.attrs ++ [a] }

/-- The part of `p11prov_obj_get_ec_public_x_y` that works on the object with the public key; no
    memory is had for a value without bytes. -/
def getEcPublicXY (lib : PointLib) (m : CoordMem) : Option (Bytes × Bytes) × Obj :=
  match obj.getAttr ckaP11provPubKeyX, obj.getAttr ckaP11provPubKeyY with
  | some x, some y => (some (x, y), obj)
  | _, _ =>
    match obj.getAttr ckaEcParams, obj.getAttr ckaP11provPubKey with
    | some ecParams, some pubKey =>
      if !m.setup then (none, obj)
      else
        match lib.coordinates ecParams pubKey with
        | none => (none, obj)
        | some (x, y) =>
          if !m.grow then (none, obj)
          else if !m.x ∨ x = [] then (none, obj)
          else
            let obj := obj.addAttr (ckaP11provPubKeyX, x)
            if !m.y ∨ y = [] then (none, obj)
            else (some (x, y), obj.addAttr (ckaP11provPubKeyY, y))
    | _, _ => (none, obj)

/-- `decode_ec_point`, for the type of the object. The value is copied if it is not in DER. -/
def decodePoint (lib : PointLib) (copy : Bool) (ecPoint : Bytes) : Option Bytes :=
  match lib.octetString ecPoint with
  | some data => some data
  | none => if obj.key.type = ckkEc then none else if copy then some ecPoint else none

/-- The part of `p11prov_obj_get_ec_public_raw` that works on the object with the public key, which
    need not be an EC key if it is associated with one. -/
def getEcPublicRaw (lib : PointLib) (m : RawMem) : Option Bytes × Obj :=
  match obj.getAttr ckaP11provPubKey, obj.getAttr ckaEcPoint with
  | some pubKey, _ => (some pubKey, obj)
  | none, none => (none, obj)
  | none, some ecPoint =>
    match obj.decodePoint lib m.copy ecPoint with
    | none => (none, obj)
    | some data =>
      if !m.grow then (none, obj) else (some data, obj.addAttr (ckaP11provPubKey, data))

/-- The first attribute of the type is overwritten, or there is a new one. -/
def putAttr (type : Nat) (a : Nat × Bytes) : List (Nat × Bytes) → List (Nat × Bytes)
  | [] => [a]
  | b :: l => if b.1 = type then a :: l else b :: putAttr type a l

/-- `p11prov_obj_set_ec_encoded_public_key` refuses the object. -/
def refusesPublicKey : Bool :=
  obj.handle ≠ ckP11provImportedHandle ∨
    (obj.key.type ≠ ckkEc ∧ obj.key.type ≠ ckkEcEdwards) ∨
    (obj.cls ≠ Cko.domainParameters ∧ obj.cls ≠ Cko.publicKey)

/-- What `i2d_ASN1_OCTET_STRING` makes of a length that was cast to `int`. -/
def pointDer (pubKey : Bytes) : Option Bytes :=
  if pubKey.length % 0x100000000 < 0x80000000 then
    some (Encoding.Der.octetString (pubKey.take (pubKey.length % 0x100000000)))
  else none

/-- `p11prov_obj_set_ec_encoded_public_key`; where the attributes are moved, a pointer to one of them
    is left that is freed and written to. -/
def setEcEncodedPublicKey (m : SetPubMem) (pubKey : Bytes) : Option (CkRv × Obj) :=
  if obj.refusesPublicKey then some (Ckr.keyIndigestible, obj)
  else
    let obj := { obj with cls := Cko.publicKey }
    let pub := obj.getAttr ckaP11provPubKey
    let ecPoint := obj.getAttr ckaEcPoint
    if (pub = none ∨ ecPoint = none) ∧ !m.grow then some (Ckr.hostMemory, obj)
    else if pub.isSome ≠ ecPoint.isSome ∧ m.moved then none
    else if pubKey ≠ [] ∧ !m.copy then
      let attrs := putAttr ckaP11provPubKey (0, []) obj.attrs
      some (Ckr.hostMemory, { obj with attrs := putAttr ckaEcPoint (0, []) attrs })
    else
      let attrs := putAttr ckaP11provPubKey (ckaP11provPubKey, pubKey) obj.attrs
      match if m.der then pointDer pubKey else none with
      | none =>
        some (Ckr.keyIndigestible, { obj with attrs := putAttr ckaEcPoint (0, []) attrs })
      | some der =>
        some (Ckr.ok, { obj with attrs := putAttr ckaEcPoint (ckaEcPoint, der) attrs })

end Obj

/-! ## Calls -/

/-- A key and the object associated with it. -/
structure EcKeys where
  key : Obj
  assoc : Option Obj

/-- `prep_get_pub_key` for EC keys: a function is called on the public key of a private one. -/
def EcKeys.onPubKey {α : Type} (s : EcKeys) (f : Obj → Option α × Obj) : Option α × EcKeys :=
  if s.key.cls ≠ Cko.privateKey ∧ s.key.cls ≠ Cko.publicKey then (none, s)
  else if s.key.key.type ≠ ckkEc then (none, s)
  else
    match s.assoc with
    | some pobj =>
      if s.key.cls = Cko.privateKey ∧ pobj.cls = Cko.publicKey then
        ((f pobj).1, { s with assoc := some (f pobj).2 })
      else ((f s.key).1, { s with key := (f s.key).2 })
    | none => ((f s.key).1, { s with key := (f s.key).2 })

/-- A call. -/
inductive EcCall
  | xy (m : CoordMem)
  | raw (m : RawMem)
  | set (m : SetPubMem) (pubKey : Bytes)

/-- What a call returns. -/
inductive EcAnswer
  | xy (r : Option (Bytes × Bytes))
  | raw (r : Option Bytes)
  | set (ret : CkRv)

/-- What a call does, unless it writes where there is no attribute any more. -/
def EcKeys.step (lib : PointLib) (s : EcKeys) : EcCall → Option (EcAnswer × EcKeys)
  | .xy m =>
    let (r, s) := s.onPubKey (·.getEcPublicXY lib m)
    some (.xy r, s)
  | .raw m =>
    let (r, s) := s.onPubKey (·.getEcPublicRaw lib m)
    some (.raw r, s)
  | .set m pubKey =>
    (s.key.setEcEncodedPublicKey m pubKey).map fun (ret, key) => (.set ret, { s with key })

/-- The states that calls which meet a condition lead to. -/
inductive EcKeys.Reaches (lib : PointLib) (P : EcKeys → EcCall → Prop) (s₀ : EcKeys) : EcKeys → Prop
  | start : Reaches lib P s₀ s₀
  | step {s s' : EcKeys} {c : EcCall} {a : EcAnswer} (h : Reaches lib P s₀ s) (hc : P s c)
      (hstep : s.step lib c = some (a, s')) : Reaches lib P s₀ s'

/-! ## The contract -/

/-- The attributes of an object are in step with each other: each type is there at most once, the
    point is the encoding of the public key, and the coordinates that are returned are those of
    the public key on the curve. -/
structure Obj.InStep (lib : PointLib) (obj : Obj) : Prop where
  once : (obj.attrs.map (·.1)).Nodup
  point : ∀ v ∈ obj.getAttr ckaEcPoint, ∀ p ∈ obj.getAttr ckaP11provPubKey, v = octetString p
  coordinates : ∀ m x y, (obj.getEcPublicXY lib m).1 = some (x, y) →
    ∃ ecParams ∈ obj.getAttr ckaEcParams, ∃ pubKey ∈ obj.getAttr ckaP11provPubKey,
      lib.coordinates ecParams pubKey = some (x, y)

/-- Both objects are in step. -/
structure EcKeys.InStep (lib : PointLib) (s : EcKeys) : Prop where
  key : s.key.InStep lib
  assoc : ∀ pobj ∈ s.assoc, pobj.InStep lib

/-- A setter that fails leaves the public key. -/
def EcKeys.KeepsKey (s : EcKeys) : EcAnswer → EcKeys → Prop
  | .set ret, s' => ret ≠ Ckr.ok → s'.key.getAttr ckaP11provPubKey = s.key.getAttr ckaP11provPubKey ∧
      s'.key.getAttr ckaEcPoint = s.key.getAttr ckaEcPoint
  | _, _ => True

/-- The contract for runs of calls that meet a condition. -/
structure EcKeys.RunsRight (lib : PointLib) (P : EcKeys → EcCall → Prop) (s₀ : EcKeys) : Prop where
  inStep : ∀ s, Reaches lib P s₀ s → s.InStep lib
  calls : ∀ s c, Reaches lib P s₀ s → P s c →
    ∃ a s', s.step lib c = some (a, s') ∧ s.KeepsKey a s'

/-- The coordinates are both kept or not at all. -/
def Obj.BothCoordinates (obj : Obj) : Prop :=
  (obj.getAttr ckaP11provPubKeyX).isSome = (obj.getAttr ckaP11provPubKeyY).isSome

/-- The point is all of an octet string, unless it cannot be decoded. -/
def Obj.WholePoint (lib : PointLib) (obj : Obj) : Prop :=
  ∀ v ∈ obj.getAttr ckaEcPoint, ∀ p ∈ obj.decodePoint lib true v, v = octetString p

/-- The setter can be called: it refuses the object, there is no memory for more attributes, or all
    memory it needs; no attribute that it has found is moved, the length fits an `int`, and the
    coordinates that are kept are those of the new key. -/
def Obj.Settable (lib : PointLib) (obj : Obj) (m : SetPubMem) (pubKey : Bytes) : Prop :=
  obj.refusesPublicKey = true ∨
    ((obj.getAttr ckaP11provPubKey = none ∨ obj.getAttr ckaEcPoint = none) ∧ m.grow = false) ∨
    ((obj.getAttr ckaP11provPubKey).isSome = (obj.getAttr ckaEcPoint).isSome ∨ m.moved = false) ∧
      (pubKey = [] ∨ m.copy = true) ∧ m.der = true ∧ pubKey.length < 0x80000000 ∧
      ∀ x ∈ obj.getAttr ckaP11provPubKeyX, ∀ y ∈ obj.getAttr ckaP11provPubKeyY,
        ∃ ecParams ∈ obj.getAttr ckaEcParams, lib.coordinates ecParams pubKey = some (x, y)

/-- The calls that keep the attributes in step. -/
def EcKeys.Fits (lib : PointLib) (s : EcKeys) : EcCall → Prop
  | .xy _ => s.key.BothCoordinates ∧ ∀ pobj ∈ s.assoc, pobj.BothCoordinates
  | .raw _ => s.key.WholePoint lib ∧ ∀ pobj ∈ s.assoc, pobj.WholePoint lib
  | .set m pubKey => s.key.Settable lib m pubKey

/-! ## One object -/

namespace Obj

variable {lib : PointLib} {obj : Obj} {t type : Nat} {v : Bytes} {l : List (Nat × Bytes)}

theorem find_putAttr_self : (putAttr type (type, v) l).find? (·.1 = type) = some (type, v) := by
  induction l with
  | nil => simp [putAttr]
  | cons b l ih =>
    rw [putAttr]
    split
    · simp
    · rename_i hne
      rwa [List.find?_cons_of_neg (by simpa using hne)]

theorem find_putAttr_ne (h : t ≠ type) :
    (putAttr type (type, v) l).find? (·.1 = t) = l.find? (·.1 = t) := by
  induction l with
  | nil => simp [putAttr, h.symm]
  | cons b l ih =>
    rw [putAttr]
    split
    · rename_i hb
      rw [List.find?_cons_of_neg (by simpa using h.symm), List.find?_cons_of_neg]
      simpa [hb] using h.symm
    · rw [List.find?_cons, List.find?_cons, ih]

theorem mem_types_putAttr :
    t ∈ (putAttr type (type, v) l).map (·.1) ↔ t = type ∨ t ∈ l.map (·.1) := by
  induction l with
  | nil => simp [putAttr]
  | cons b l ih =>
    rw [putAttr]
    split
    · rename_i hb
      simp [hb]
    · rw [List.map_cons, List.mem_cons, ih, List.map_cons, List.mem_cons]
      exact or_left_comm

theorem nodup_putAttr (h : (l.map (·.1)).Nodup) : ((putAttr type (type, v) l).map (·.1)).Nodup := by
  induction l with
  | nil => simp [putAttr]
  | cons b l ih =>
    rw [List.map_cons, List.nodup_cons] at h
    rw [putAttr]
    split
    · rename_i hb
      rw [List.map_cons, List.nodup_cons]
      exact ⟨hb ▸ h.1, h.2⟩
    · rename_i hb
      rw [List.map_cons, List.nodup_cons, mem_types_putAttr, not_or]
      exact ⟨⟨hb, h.1⟩, ih h.2⟩

theorem getAttr_eq_none : obj.getAttr type = none ↔ type ∉ obj.attrs.map (·.1) := by
  rw [getAttr, Option.map_eq_none_iff, List.find?_eq_none, List.mem_map, not_exists]
  simp only [decide_eq_true_eq, not_and]

theorem getAttr_addAttr_self (h : obj.getAttr type = none) :
    (obj.addAttr (type, v)).getAttr type = some v := by
  rw [getAttr, Option.map_eq_none_iff] at h
  rw [getAttr, addAttr, List.find?_append, h]
  simp

theorem getAttr_addAttr_ne (h : t ≠ type) : (obj.addAttr (type, v)).getAttr t = obj.getAttr t := by
  rw [getAttr, getAttr, addAttr, List.find?_append, List.find?_cons_of_neg (by simpa using h.symm),
    List.find?_nil, Option.or_none]

theorem once_addAttr (h : (obj.attrs.map (·.1)).Nodup) (hnone : obj.getAttr type = none) :
    ((obj.addAttr (type, v)).attrs.map (·.1)).Nodup := by
  rw [addAttr, List.map_append, List.nodup_append]
  refine ⟨h, List.nodup_singleton _, fun a ha b hb => ?_⟩
  rintro rfl
  rw [List.map_singleton, List.mem_singleton] at hb
  subst hb
  exact getAttr_eq_none.1 hnone ha

/-- Coordinates that are kept are returned. -/
theorem getEcPublicXY_kept {m : CoordMem} {x y : Bytes} (hx : obj.getAttr ckaP11provPubKeyX = some x)
    (hy : obj.getAttr ckaP11provPubKeyY = some y) : obj.getEcPublicXY lib m = (some (x, y), obj) := by
  rw [getEcPublicXY, hx, hy]

/-- What becomes of an object whose coordinates are not kept. -/
inductive Computes (lib : PointLib) (obj : Obj) : Option (Bytes × Bytes) × Obj → Prop
  | fails : Computes lib obj (none, obj)
  | half {x : Bytes} : Computes lib obj (none, obj.addAttr (ckaP11provPubKeyX, x))
  | both {ecParams pubKey x y : Bytes} (hparams : obj.getAttr ckaEcParams = some ecParams)
      (hpub : obj.getAttr ckaP11provPubKey = some pubKey)
      (hxy : lib.coordinates ecParams pubKey = some (x, y)) :
      Computes lib obj (some (x, y),
        (obj.addAttr (ckaP11provPubKeyX, x)).addAttr (ckaP11provPubKeyY, y))

theorem getEcPublicXY_computes (lib : PointLib) (m : CoordMem)
    (h : obj.getAttr ckaP11provPubKeyX = none ∨ obj.getAttr ckaP11provPubKeyY = none) :
    Computes lib obj (obj.getEcPublicXY lib m) := by
  rw [getEcPublicXY]
  split
  · rename_i x y hx hy
    rw [hx, hy] at h
    simp at h
  split
  · rename_i ecParams pubKey hparams hpub
    split
    · exact .fails
    split
    · exact .fails
    · rename_i x y hxy
      repeat' split
      · exact .fails
      · exact .fails
      · exact .half
      · exact .both hparams hpub hxy
  · exact .fails

/-- The coordinates that are returned are right exactly if those that are kept are. -/
theorem coordinates_iff : (∀ m x y, (obj.getEcPublicXY lib m).1 = some (x, y) →
      ∃ ecParams ∈ obj.getAttr ckaEcParams, ∃ pubKey ∈ obj.getAttr ckaP11provPubKey,
        lib.coordinates ecParams pubKey = some (x, y)) ↔
    ∀ x ∈ obj.getAttr ckaP11provPubKeyX, ∀ y ∈ obj.getAttr ckaP11provPubKeyY,
      ∃ ecParams ∈ obj.getAttr ckaEcParams, ∃ pubKey ∈ obj.getAttr ckaP11provPubKey,
        lib.coordinates ecParams pubKey = some (x, y) := by
  constructor
  · intro h x hx y hy
    exact h ⟨true, true, true, true⟩ x y (congrArg Prod.fst (getEcPublicXY_kept hx hy))
  · intro h m x y hret
    by_cases hkept : obj.getAttr ckaP11provPubKeyX = none ∨ obj.getAttr ckaP11provPubKeyY = none
    · generalize hr : obj.getEcPublicXY lib m = r at hret
      have hcomp := getEcPublicXY_computes lib m hkept
      rw [hr] at hcomp
      cases hcomp with
      | fails => cases hret
      | half => cases hret
      | both hparams hpub hxy =>
        cases hret
        exact ⟨_, hparams, _, hpub, hxy⟩
    · rw [not_or] at hkept
      obtain ⟨x', hx⟩ := Option.ne_none_iff_exists'.1 hkept.1
      obtain ⟨y', hy⟩ := Option.ne_none_iff_exists'.1 hkept.2
      rw [getEcPublicXY_kept hx hy] at hret
      cases hret
      exact h x hx y hy

/-- Attributes make an object in step if its coordinates are right where both are kept. -/
theorem InStep.mk' (honce : (obj.attrs.map (·.1)).Nodup)
    (hpoint : ∀ v ∈ obj.getAttr ckaEcPoint, ∀ p ∈ obj.getAttr ckaP11provPubKey, v = octetString p)
    (hxy : ∀ x ∈ obj.getAttr ckaP11provPubKeyX, ∀ y ∈ obj.getAttr ckaP11provPubKeyY,
      ∃ ecParams ∈ obj.getAttr ckaEcParams, ∃ pubKey ∈ obj.getAttr ckaP11provPubKey,
        lib.coordinates ecParams pubKey = some (x, y)) : obj.InStep lib :=
  ⟨honce, hpoint, coordinates_iff.2 hxy⟩

theorem getAttr_congr {obj' : Obj} (h : obj'.attrs = obj.attrs) :
    obj'.getAttr type = obj.getAttr type := by
  rw [getAttr, getAttr, h]

theorem InStep.congr {obj' : Obj} (h : obj.InStep lib) (hattrs : obj'.attrs = obj.attrs) :
    obj'.InStep lib := by
  refine .mk' (hattrs ▸ h.once) ?_ ?_
  · simp only [getAttr_congr hattrs]
    exact h.point
  · simp only [getAttr_congr hattrs]
    exact coordinates_iff.1 h.coordinates

/-- The first coordinate alone is not returned. -/
theorem InStep.addX {x : Bytes} (h : obj.InStep lib) (hx : obj.getAttr ckaP11provPubKeyX = none)
    (hy : obj.getAttr ckaP11provPubKeyY = none) :
    (obj.addAttr (ckaP11provPubKeyX, x)).InStep lib := by
  refine .mk' (once_addAttr h.once hx) ?_ ?_
  · rw [getAttr_addAttr_ne (by decide), getAttr_addAttr_ne (by decide)]
    exact h.point
  · rw [getAttr_addAttr_ne (t := ckaP11provPubKeyY) (by decide), hy]
    simp

/-- The coordinates are stored where there were none. -/
theorem InStep.getEcPublicXY (h : obj.InStep lib) (hboth : obj.BothCoordinates) (m : CoordMem) :
    (obj.getEcPublicXY lib m).2.InStep lib := by
  rw [BothCoordinates] at hboth
  cases hx : obj.getAttr ckaP11provPubKeyX with
  | some x =>
    rw [hx, Option.isSome_some] at hboth
    obtain ⟨y, hy⟩ := Option.isSome_iff_exists.1 hboth.symm
    rwa [getEcPublicXY_kept hx hy]
  | none =>
    have hy : obj.getAttr ckaP11provPubKeyY = none := by simpa [hx] using hboth
    have hcomp := getEcPublicXY_computes lib m (.inl hx)
    generalize obj.getEcPublicXY lib m = r at hcomp ⊢
    cases hcomp with
    | fails => exact h
    | half => exact h.addX hx hy
    | both hparams hpub hxy =>
      rename_i ecParams pubKey x y
      have hy' : (obj.addAttr (ckaP11provPubKeyX, x)).getAttr ckaP11provPubKeyY = none :=
        (getAttr_addAttr_ne (by decide)).trans hy
      have hother {t : Nat} (htx : t ≠ ckaP11provPubKeyX) (hty : t ≠ ckaP11provPubKeyY) :
          ((obj.addAttr (ckaP11provPubKeyX, x)).addAttr (ckaP11provPubKeyY, y)).getAttr t =
            obj.getAttr t :=
        (getAttr_addAttr_ne hty).trans (getAttr_addAttr_ne htx)
      refine .mk' (once_addAttr (h.addX hx hy).once hy') ?_ ?_
      · rw [hother (by decide) (by decide), hother (by decide) (by decide)]
        exact h.point
      · rw [getAttr_addAttr_self hy', getAttr_addAttr_ne (by decide), getAttr_addAttr_self hx]
        rintro x' ⟨⟩ y' ⟨⟩
        exact ⟨ecParams, (hother (by decide) (by decide)).trans hparams, pubKey,
          (hother (by decide) (by decide)).trans hpub, hxy⟩

/-- More memory decodes no less. -/
theorem decodePoint_copy {copy : Bool} {p : Bytes} (h : obj.decodePoint lib copy v = some p) :
    obj.decodePoint lib true v = some p := by
  unfold decodePoint at h ⊢
  split
  · rename_i data hdata
    rwa [hdata] at h
  · rename_i hnone
    simp only [hnone] at h
    split at h
    · cases h
    · rename_i htype
      rw [if_neg htype]
      split at h
      · exact h
      · cases h

/-- The public key is read from the whole point. -/
theorem InStep.getEcPublicRaw (h : obj.InStep lib) (hwhole : obj.WholePoint lib) (m : RawMem) :
    (obj.getEcPublicRaw lib m).2.InStep lib := by
  rw [Obj.getEcPublicRaw]
  cases hpub : obj.getAttr ckaP11provPubKey with
  | some pubKey => exact h
  | none =>
    cases hpoint : obj.getAttr ckaEcPoint with
    | none => exact h
    | some ecPoint =>
      dsimp only
      split
      · exact h
      · rename_i data hdata
        split
        · exact h
        · refine .mk' (once_addAttr h.once hpub) ?_ ?_
          · rw [getAttr_addAttr_ne (by decide), getAttr_addAttr_self hpub, hpoint]
            rintro v ⟨⟩ p ⟨⟩
            exact hwhole _ hpoint _ (decodePoint_copy hdata)
          · rw [getAttr_addAttr_ne (by decide), getAttr_addAttr_ne (by decide)]
            intro x hx y hy
            obtain ⟨-, -, pubKey, hpub', -⟩ := coordinates_iff.1 h.coordinates x hx y hy
            rw [hpub] at hpub'
            cases hpub'

theorem pointDer_eq {pubKey : Bytes} (h : pubKey.length < 0x80000000) :
    pointDer pubKey = some (octetString pubKey) := by
  have hmod : pubKey.length % 0x100000000 = pubKey.length := Nat.mod_eq_of_lt (by omega)
  rw [pointDer, hmod, if_pos h, List.take_length]

/-- Public key and point are written together. -/
theorem InStep.put {obj' : Obj} {pubKey : Bytes} (h : obj.InStep lib)
    (hattrs : obj'.attrs = putAttr ckaEcPoint (ckaEcPoint, octetString pubKey)
      (putAttr ckaP11provPubKey (ckaP11provPubKey, pubKey) obj.attrs))
    (hxy : ∀ x ∈ obj.getAttr ckaP11provPubKeyX, ∀ y ∈ obj.getAttr ckaP11provPubKeyY,
      ∃ ecParams ∈ obj.getAttr ckaEcParams, lib.coordinates ecParams pubKey = some (x, y)) :
    obj'.InStep lib := by
  have hpoint : obj'.getAttr ckaEcPoint = some (octetString pubKey) := by
    rw [getAttr, hattrs, find_putAttr_self]
    rfl
  have hpub : obj'.getAttr ckaP11provPubKey = some pubKey := by
    rw [getAttr, hattrs, find_putAttr_ne (by decide), find_putAttr_self]
    rfl
  have hother {t : Nat} (htp : t ≠ ckaEcPoint) (htk : t ≠ ckaP11provPubKey) :
      obj'.getAttr t = obj.getAttr t := by
    rw [getAttr, getAttr, hattrs, find_putAttr_ne htp, find_putAttr_ne htk]
  refine .mk' (hattrs ▸ nodup_putAttr (nodup_putAttr h.once)) ?_ ?_
  · rw [hpoint, hpub]
    rintro v ⟨⟩ p ⟨⟩
    rfl
  · rw [hother (by decide) (by decide), hother (by decide) (by decide), hpub]
    intro x hx y hy
    obtain ⟨ecParams, hparams, hcoord⟩ := hxy x hx y hy
    exact ⟨ecParams, (hother (by decide) (by decide)).trans hparams, pubKey, rfl, hcoord⟩

/-- The setter replaces public key and point, or leaves the attributes. -/
theorem InStep.setEcEncodedPublicKey {m : SetPubMem} {pubKey : Bytes} (h : obj.InStep lib)
    (hset : obj.Settable lib m pubKey) :
    ∃ ret obj', obj.setEcEncodedPublicKey m pubKey = some (ret, obj') ∧ obj'.InStep lib ∧
      (ret ≠ Ckr.ok → obj'.attrs = obj.attrs) := by
  rw [Obj.setEcEncodedPublicKey]
  obtain hrefuses | ⟨hneeds, hgrow⟩ | ⟨hmoved, hcopy, hder, hlen, hxy⟩ := hset
  · rw [if_pos hrefuses]
    exact ⟨_, _, rfl, h, fun _ => rfl⟩
  · -- no memory for more attributes
    split
    · exact ⟨_, _, rfl, h, fun _ => rfl⟩
    · have hneeds' : (obj.getAttr ckaP11provPubKey = none ∨ obj.getAttr ckaEcPoint = none) ∧
          (!m.grow) = true := ⟨hneeds, by simp [hgrow]⟩
      exact ⟨_, _, if_pos hneeds', h.congr rfl, fun _ => rfl⟩
  · split
    · exact ⟨_, _, rfl, h, fun _ => rfl⟩
    dsimp only
    split
    · exact ⟨_, _, rfl, h.congr rfl, fun _ => rfl⟩
    · have hstays : ¬((obj.getAttr ckaP11provPubKey).isSome ≠ (obj.getAttr ckaEcPoint).isSome ∧
          m.moved = true) := by
        rintro ⟨hne, htrue⟩
        rcases hmoved with heq | hfalse
        · exact hne heq
        · rw [hfalse] at htrue
          cases htrue
      have hcopied : ¬(pubKey ≠ [] ∧ (!m.copy) = true) := by
        rintro ⟨hne, hfalse⟩
        rcases hcopy with hnil | htrue
        · exact hne hnil
        · rw [htrue] at hfalse
          cases hfalse
      refine ⟨Ckr.ok, { obj with
        cls := Cko.publicKey
        attrs := putAttr ckaEcPoint (ckaEcPoint, octetString pubKey)
          (putAttr ckaP11provPubKey (ckaP11provPubKey, pubKey) obj.attrs) }, ?_, h.put rfl hxy,
        fun hne => absurd rfl hne⟩
      refine (if_neg hstays).trans ((if_neg hcopied).trans ?_)
      rw [pointDer_eq hlen]

end Obj

/-! ## The calls on objects in memory -/

section Memory

open Interaction

variable {O : Oracle} {lib : PointLib} {o : ObjId} {st : State}

/-- A key in memory and the object associated with it. -/
def EcKeys.of (m : Mem) (o : ObjId) : EcKeys where
  key := (m.obj o).getD .freed
  assoc := ((m.obj o).getD .freed).assocObj.map fun a => (m.obj a).getD .freed

theorem wp_loadObj_bind {α : Type} {x : Obj} {f : Obj → P α} {Q : α → State → Prop}
    (hx : st.mem.obj o = some x) (h : wp (env O) (f x) Q st) :
    wp (env O) (mem (.loadObj o) >>= f) Q st := by
  refine wp_bind.2 <| wp_loadObj.2 ?_
  rw [hx]
  exact h

/-- A point is decoded with or without memory for a copy of it. -/
theorem decodeEcPoint_decodePoint {x : Obj} {ecPoint : Bytes} :
    wp (env O) (P11Prov.decodeEcPoint lib.octetString x.key.type ecPoint)
      (fun r st' => st' = st ∧ ∃ copy, r = x.decodePoint lib copy ecPoint) st := by
  unfold P11Prov.decodeEcPoint Obj.decodePoint
  cases lib.octetString ecPoint with
  | some data => exact ⟨rfl, true, rfl⟩
  | none =>
    by_cases htype : x.key.type = ckkEc
    · simp only [htype, if_true]
      exact ⟨rfl, true, rfl⟩
    · simp only [htype, if_false]
      exact wp_bind.2 <| wp_alloc.2 fun copy => ⟨rfl, copy, rfl⟩

/-- The rest of `p11prov_obj_get_ec_public_raw` once the object with the public key is found. -/
theorem getEcPublicRaw_spec {x : Obj} (hx : st.mem.obj o = some x) :
    wp (env O) (do
      match x.getAttr ckaP11provPubKey, x.getAttr ckaEcPoint with
      | some pubKey, _ => return some pubKey
      | none, none => return none
      | none, some ecPoint =>
        match ← P11Prov.decodeEcPoint lib.octetString x.key.type ecPoint with
        | none => return none
        | some pubKey =>
          if !(← mem .alloc) then
            return none
          mem (.storeObj o fun obj => { obj with attrs := obj.attrs ++ [(ckaP11provPubKey, pubKey)] })
          return some pubKey) (fun r st' => ∃ m, r = (x.getEcPublicRaw lib m).1 ∧
      ∀ o', st'.mem.obj o' = if o' = o then some (x.getEcPublicRaw lib m).2 else st.mem.obj o') st := by
  have hsame : ∀ o', st.mem.obj o' = if o' = o then some x else st.mem.obj o' := by
    intro o'
    split
    · rename_i h
      rw [h, hx]
    · rfl
  rcases hpub : x.getAttr ckaP11provPubKey with _ | pubKey
  swap
  · exact ⟨⟨true, true⟩, by simp only [Obj.getEcPublicRaw, hpub], by
      simpa only [Obj.getEcPublicRaw, hpub] using hsame⟩
  rcases hpoint : x.getAttr ckaEcPoint with _ | ecPoint
  · exact ⟨⟨true, true⟩, by simp only [Obj.getEcPublicRaw, hpub, hpoint], by
      simpa only [Obj.getEcPublicRaw, hpub, hpoint] using hsame⟩
  refine wp.bind decodeEcPoint_decodePoint ?_
  rintro r st₁ ⟨rfl, copy, rfl⟩
  cases hdec : x.decodePoint lib copy ecPoint with
  | none =>
    exact ⟨⟨copy, true⟩, by simp only [Obj.getEcPublicRaw, hpub, hpoint, hdec], by
      simpa only [Obj.getEcPublicRaw, hpub, hpoint, hdec] using hsame⟩
  | some data =>
    refine wp_bind.2 <| wp_alloc.2 fun grow => ?_
    cases grow with
    | false =>
      exact ⟨⟨copy, false⟩, by simp [Obj.getEcPublicRaw, hpub, hpoint, hdec], by
        simpa [Obj.getEcPublicRaw, hpub, hpoint, hdec] using hsame⟩
    | true =>
      refine wp_bind.2 <| wp_storeObj.2 ⟨⟨copy, true⟩, by
        simp [Obj.getEcPublicRaw, hpub, hpoint, hdec], fun o' => ?_⟩
      rw [Mem.obj_setObj, hx]
      simp only [Obj.getEcPublicRaw, hpub, hpoint, hdec]
      rfl

/-- The object that `prep_get_pub_key` finds, which a function is called on. -/
inductive EcKeys.PubKeyAt (m : Mem) (o : ObjId) : Option ObjId → Prop
  | refused (h : ∀ f : Obj → Option Bytes × Obj, (of m o).onPubKey f = (none, of m o)) :
    PubKeyAt m o none
  | own {x : Obj} (hx : m.obj o = some x)
    (h : ∀ f : Obj → Option Bytes × Obj,
      (of m o).onPubKey f = ((f x).1, { of m o with key := (f x).2 })) : PubKeyAt m o (some o)
  | assoc {x y : Obj} {a : ObjId} (hx : m.obj o = some x) (ha : x.assocObj = some a)
    (hy : m.obj a = some y) (hne : a ≠ o)
    (h : ∀ f : Obj → Option Bytes × Obj,
      (of m o).onPubKey f = ((f y).1, { of m o with assoc := some (f y).2 })) :
    PubKeyAt m o (some a)

theorem prepGetPubKey_spec : wp (env O) (prepGetPubKey o ckkEc)
    (fun r st' => st' = st ∧ EcKeys.PubKeyAt st.mem o r) st := by
  cases hx : st.mem.obj o with
  | none =>
    -- nothing has the class of a freed object
    refine wp_bind.2 <| wp_loadObj.2 ?_
    rw [hx]
    refine ⟨rfl, .refused fun f => ?_⟩
    simp only [EcKeys.onPubKey, EcKeys.of, hx]
    exact if_pos (by decide)
  | some x =>
    have hof : EcKeys.of st.mem o =
        ⟨x, x.assocObj.map fun a => (st.mem.obj a).getD .freed⟩ := by
      rw [EcKeys.of, hx]
      rfl
    refine wp_loadObj_bind hx ?_
    by_cases hcls : x.cls ≠ Cko.privateKey ∧ x.cls ≠ Cko.publicKey
    · rw [if_pos hcls]
      exact ⟨rfl, .refused fun f => by rw [hof]; exact if_pos hcls⟩
    rw [if_neg hcls]
    by_cases htype : x.key.type ≠ ckkEc
    · rw [if_pos htype]
      exact ⟨rfl, .refused fun f => by rw [hof]; exact (if_neg hcls).trans (if_pos htype)⟩
    rw [if_neg htype]
    have hgo : ∀ {α : Type} (f : Obj → Option α × Obj), (EcKeys.of st.mem o).onPubKey f =
        match x.assocObj.map fun a => (st.mem.obj a).getD .freed with
        | some pobj =>
          if x.cls = Cko.privateKey ∧ pobj.cls = Cko.publicKey then
            ((f pobj).1, { EcKeys.of st.mem o with assoc := some (f pobj).2 })
          else ((f x).1, { EcKeys.of st.mem o with key := (f x).2 })
        | none => ((f x).1, { EcKeys.of st.mem o with key := (f x).2 }) := by
      intro α f
      rw [hof]
      exact (if_neg hcls).trans (if_neg htype)
    cases ha : x.assocObj with
    | none =>
      simp only
      refine ⟨rfl, .own hx fun f => ?_⟩
      rw [hgo, ha]
      rfl
    | some a =>
      refine wp_bind.2 <| wp_loadObj.2 ⟨rfl, ?_⟩
      by_cases hpub : x.cls = Cko.privateKey ∧ ((st.mem.obj a).getD .freed).cls = Cko.publicKey
      · rw [if_pos hpub]
        cases hy : st.mem.obj a with
        | none =>
          rw [hy] at hpub
          exact absurd hpub.2 (by decide)
        | some y =>
          rw [hy] at hpub
          refine .assoc hx ha hy ?_ fun f => ?_
          · rintro rfl
            obtain rfl : x = y := Option.some.inj (hx.symm.trans hy)
            exact absurd (hpub.1.symm.trans hpub.2) (by decide)
          · rw [hgo, ha]
            simp only [Option.map_some, hy, Option.getD_some]
            exact if_pos hpub
      · rw [if_neg hpub]
        refine .own hx fun f => ?_
        rw [hgo, ha]
        exact if_neg hpub

theorem getEcPublicRaw_assocObj {x : Obj} {m : RawMem} :
    (x.getEcPublicRaw lib m).2.assocObj = x.assocObj := by
  unfold Obj.getEcPublicRaw
  repeat' split
  all_goals rfl

/-- On objects in memory `p11prov_obj_get_ec_public_raw` does what it does on a key and its
    associated object, with some memory. -/
theorem objGetEcPublicRaw_spec (ho : ∀ x, st.mem.obj o = some x → x.assocObj ≠ some o) :
    wp (env O) (objGetEcPublicRaw lib.octetString o) (fun r st' => ∃ m,
      r = ((EcKeys.of st.mem o).onPubKey (·.getEcPublicRaw lib m)).1 ∧
        EcKeys.of st'.mem o = ((EcKeys.of st.mem o).onPubKey (·.getEcPublicRaw lib m)).2) st := by
  refine wp.bind prepGetPubKey_spec ?_
  rintro p st₁ ⟨rfl, hp⟩
  cases hp with
  | refused h => exact ⟨⟨true, true⟩, by rw [h], by rw [h]⟩
  | @own x hx h =>
    refine wp_loadObj_bind hx (wp_mono (getEcPublicRaw_spec hx) ?_)
    rintro r st' ⟨m, rfl, hobj⟩
    refine ⟨m, by rw [h], ?_⟩
    rw [h]
    have hkey : st'.mem.obj o = some (x.getEcPublicRaw lib m).2 := by rw [hobj, if_pos rfl]
    simp only [EcKeys.of, hkey, hx, Option.getD_some, getEcPublicRaw_assocObj]
    congr 1
    cases ha : x.assocObj with
    | none => rfl
    | some a =>
      have hne : a ≠ o := fun hao => ho x hx (hao ▸ ha)
      simp only [Option.map_some, hobj, if_neg hne]
  | assoc hx ha hy hne h =>
    refine wp_loadObj_bind hy (wp_mono (getEcPublicRaw_spec hy) ?_)
    rintro r st' ⟨m, rfl, hobj⟩
    refine ⟨m, by rw [h], ?_⟩
    rw [h]
    simp only [EcKeys.of, hobj, if_neg hne.symm, hx, Option.getD_some, ha, Option.map_some, if_pos]

end Memory

/-! ## Runs -/

namespace EcKeys

variable {lib : PointLib} {s s₀ : EcKeys}

/-- A function that keeps an object in step does so on the public key of a private one. -/
theorem InStep.onPubKey {α : Type} {f : Obj → Option α × Obj} (h : s.InStep lib)
    (hkey : (f s.key).2.InStep lib) (hassoc : ∀ pobj ∈ s.assoc, (f pobj).2.InStep lib) :
    (s.onPubKey f).2.InStep lib := by
  rw [EcKeys.onPubKey]
  split
  · exact h
  split
  · exact h
  split
  · rename_i pobj hpobj
    split
    · refine ⟨h.key, ?_⟩
      rintro pobj' ⟨⟩
      exact hassoc pobj hpobj
    · exact ⟨hkey, h.assoc⟩
  · exact ⟨hkey, h.assoc⟩

/-- A call that fits keeps the attributes in step. -/
theorem InStep.step (h : s.InStep lib) {c : EcCall} (hfits : s.Fits lib c) :
    ∃ a s', s.step lib c = some (a, s') ∧ s'.InStep lib ∧ s.KeepsKey a s' := by
  cases c with
  | xy m =>
    refine ⟨_, _, rfl, h.onPubKey (h.key.getEcPublicXY hfits.1 m) fun pobj hpobj => ?_, trivial⟩
    exact (h.assoc pobj hpobj).getEcPublicXY (hfits.2 pobj hpobj) m
  | raw m =>
    refine ⟨_, _, rfl, h.onPubKey (h.key.getEcPublicRaw hfits.1 m) fun pobj hpobj => ?_, trivial⟩
    exact (h.assoc pobj hpobj).getEcPublicRaw (hfits.2 pobj hpobj) m
  | set m pubKey =>
    obtain ⟨ret, key, heq, hkey, hkeeps⟩ := h.key.setEcEncodedPublicKey hfits
    refine ⟨.set ret, { s with key }, ?_, ⟨hkey, h.assoc⟩, fun hret => ?_⟩
    · rw [EcKeys.step, heq]
      rfl
    · exact ⟨Obj.getAttr_congr (hkeeps hret), Obj.getAttr_congr (hkeeps hret)⟩

theorem Reaches.inStep (h₀ : s₀.InStep lib) (h : Reaches lib (Fits lib) s₀ s) : s.InStep lib := by
  induction h with
  | start => exact h₀
  | step _ hfits hstep ih =>
    obtain ⟨a, s', heq, hs', -⟩ := ih.step hfits
    rw [hstep, Option.some.injEq, Prod.mk.injEq] at heq
    exact heq.2 ▸ hs'

/-- In runs of calls that fit the attributes stay in step, and no setter that fails loses the key. -/
theorem runsRight_fits (h₀ : s₀.InStep lib) : RunsRight lib (Fits lib) s₀ where
  inStep _ h := h.inStep h₀
  calls _ _ h hfits := by
    obtain ⟨a, s', heq, -, hkeeps⟩ := (h.inStep h₀).step hfits
    exact ⟨a, s', heq, hkeeps⟩

/-! ## Two points -/

/-- The parameters of the curve `prime256v1`. -/
def p256Params : Bytes := [0x06, 0x08, 0x2A, 0x86, 0x48, 0xCE, 0x3D, 0x03, 0x01, 0x07]

/-- A point of that curve, not compressed. -/
def p256Point (x y : Nat) : Bytes := 0x04 :: (BigEndian.bytes 32 x ++ BigEndian.bytes 32 y)

/-- The generator. -/
def p256G : Bytes :=
  p256Point 0x6B17D1F2E12C4247F8BCE6E563A440F277037D812DEB33A0F4A13945D898C296
    0x4FE342E2FE1A7F9B8EE7EB4A7C0F9E162BCE33576B315ECECBB6406837BF51F5

/-- The generator, doubled. -/
def p256Double : Bytes :=
  p256Point 0x7CF27B188D034F7E8A52380304B51AC3C08969E277F21B35A60B48FC47669978
    0x07775510DB8ED040293D9AC69F7430DBBA7DADE63CE982299E04B79D227873D1

/-- Reads points of that curve that are not compressed, and short octet strings. -/
def p256Lib : PointLib where
  coordinates _ pubKey :=
    let number (v : Bytes) := (v.dropWhile (· = 0)).reverse
    if pubKey.length = 65 then
      some (number ((pubKey.drop 1).take 32), number (pubKey.drop 33))
    else none
  octetString v :=
    let data := (v.drop 2).take ((v.drop 1).headD 0).toNat
    if data.length < 128 ∧ octetString data = v then some data else none

/-- A public key that was imported. -/
def importedEcKey : EcKeys where
  key :=
    { slotid := ckUnavailableInformation, handle := ckP11provImportedHandle, cls := Cko.publicKey
      key := { type := ckkEc }
      attrs := [(ckaEcParams, p256Params), (ckaP11provPubKey, p256G),
        (ckaEcPoint, octetString p256G)] }
  assoc := none

theorem importedEcKey_inStep : importedEcKey.InStep p256Lib := by
  refine ⟨.mk' (by decide) (by decide) (by decide), ?_⟩
  rintro pobj ⟨⟩

/-- Calls that fit keep the attributes of the key in step. -/
theorem runsRight_importedEcKey : RunsRight p256Lib (Fits p256Lib) importedEcKey :=
  runsRight_fits importedEcKey_inStep

/-- Coordinates that were asked for are still returned after the public key was replaced. -/
theorem not_runsRight_importedEcKey : importedEcKey.InStep p256Lib ∧
    ¬RunsRight p256Lib (fun _ _ => True) importedEcKey := by
  refine ⟨importedEcKey_inStep, fun h => ?_⟩
  have hget : Reaches p256Lib (fun _ _ => True) importedEcKey _ :=
    .step (c := .xy ⟨true, true, true, true⟩) .start trivial rfl
  have hset : Reaches p256Lib (fun _ _ => True) importedEcKey _ :=
    .step (c := .set ⟨true, false, true, true⟩ p256Double) hget trivial rfl
  obtain ⟨ecParams, -, pubKey, hpub, hxy⟩ :=
    (h.inStep _ hset).key.coordinates ⟨true, true, true, true⟩ _ _ rfl
  obtain rfl : p256Double = pubKey := Option.some.inj hpub
  have hdouble : (p256Lib.coordinates [] p256Double).map (·.1) =
      (p256Lib.coordinates [] p256G).map (·.1) := congrArg (Option.map (·.1)) hxy
  exact absurd hdouble (by decide)

end EcKeys

end P11Prov
