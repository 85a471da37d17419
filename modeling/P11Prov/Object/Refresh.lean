import P11Prov.Object.Fetch

/-!
# Refreshing an object

After a fork an object has to be found again: `p11prov_obj_refresh` searches for its
class, ID and label, and takes the handle of what it finds. It asks for one handle
only, and does not look at the attributes of the object that it finds.

`refreshesRight_iff` says when this cannot go wrong. The object associated with the
object is refreshed in the same way, on its own.
-/

namespace P11Prov

/-! ## The function -/

/-- How the calls of a refresh go: whether there is a session, what the search calls return and how
    many handles at most, and whether the object is made from the handle as far as it depends on
    anything but its attributes. -/
structure RefreshCalls where
  session : Bool
  init : CkRv
  find : CkRv
  count : Nat
  load : Bool
  supported : Bool

/-- The template of `p11prov_obj_refresh`. -/
def Obj.refreshTemplate (obj : Obj) : List (Nat × Bytes) :=
  (ckaClass, ulongBytes obj.cls) :: obj.template [ckaId, ckaLabel]

/-- The part of `p11prov_obj_refresh` that has found a handle. -/
def refreshFrom (lib : EcLib) (objs : TokenObjects) (calls : RefreshCalls) (handle : ObjectHandle)
    (obj : Obj) : Obj :=
  if !calls.load then obj
  else
    match (objFromToken lib obj.slotid handle (objs.attrs handle) calls.supported).1 with
    | .error _ => obj
    | .ok tmp =>
      -- move over all the object data, then free tmp; the attributes are not refreshed
      { obj with
        handle := tmp.handle, cached := tmp.cached, ckaCopyable := tmp.ckaCopyable
        ckaToken := tmp.ckaToken
        key := if obj.cls ∈ [Cko.publicKey, Cko.privateKey, Cko.secretKey] then tmp.key else obj.key
        raf := false }

/-- `p11prov_obj_refresh` -/
def refreshObj (lib : EcLib) (objs : TokenObjects) (calls : RefreshCalls) (obj : Obj) : Obj :=
  if !calls.session then obj
  else if calls.init ≠ Ckr.ok then obj
  else
    -- there is room for one handle
    let found := (objs.matching obj.refreshTemplate).take (min 1 calls.count)
    if calls.find ≠ Ckr.ok then obj
    else
      match found with
      | [handle] => refreshFrom lib objs calls handle obj
      -- none, or too many
      | _ => obj

/-! ## The contract -/

/-- The public values that an object of the class may retain. -/
def publicValueTypes (cls : Nat) : List Nat :=
  if cls = Cko.publicKey then [ckaModulus, ckaPublicExponent, ckaEcParams, ckaEcPoint, ckaValue]
  else if cls = Cko.privateKey then [ckaModulus, ckaPublicExponent, ckaEcParams, ckaEcPoint]
  else if cls = Cko.certificate then [ckaValue]
  else []

/-- The object of the token has the type of key and the public values that are retained. -/
structure Obj.SameAs (obj : Obj) (tok : TokenAttrs) : Prop where
  type : obj.cls ≠ Cko.certificate → tok.keyType = obj.key.type
  values : ∀ t ∈ publicValueTypes obj.cls, ∀ v ∈ obj.getAttr t, tok.valueOf t = some v

/-- There is exactly one object that is found for an object, and it is the same. -/
def OnlySame (objs : TokenObjects) (obj : Obj) : Prop :=
  ∃ h, objs.matching obj.refreshTemplate = [h] ∧ obj.SameAs (objs.attrs h)

/-- The contract: the object is left as it is, unless exactly one object of the token is found for
    it, and that is the same. -/
def RefreshesRight (lib : EcLib) (objs : TokenObjects) (calls : RefreshCalls) (obj : Obj) : Prop :=
  ¬OnlySame objs obj → refreshObj lib objs calls obj = obj

/-- All calls succeed, and the search returns a handle. -/
structure RefreshCalls.Succeed (calls : RefreshCalls) : Prop where
  session : calls.session = true
  init : calls.init = Ckr.ok
  find : calls.find = Ckr.ok
  count : 0 < calls.count
  load : calls.load = true

/-! ## When it is kept -/

variable {lib : EcLib} {objs : TokenObjects} {calls : RefreshCalls} {obj : Obj}

/-- The handle that is bound. -/
theorem refreshObj_succeed (h : calls.Succeed) : refreshObj lib objs calls obj =
    ((objs.matching obj.refreshTemplate).head?.map (refreshFrom lib objs calls · obj)).getD obj := by
  have hone : min 1 calls.count = 1 := Nat.min_eq_left h.count
  rw [refreshObj, h.session, h.init, h.find, hone]
  cases objs.matching obj.refreshTemplate <;> rfl

/-- A call that fails leaves the object alone. -/
theorem refreshObj_fail (h : ¬calls.Succeed) : refreshObj lib objs calls obj = obj := by
  rw [refreshObj]
  split
  · rfl
  split
  · rfl
  simp only
  split
  · rfl
  split
  · rename_i hsession hinit hfind _ handle hfound
    rw [refreshFrom, if_pos]
    by_contra hload
    refine h ⟨by simpa using hsession, by simpa using hinit, by simpa using hfind, ?_,
      by simpa using hload⟩
    have hlen := congrArg List.length hfound
    rw [List.length_take, List.length_singleton] at hlen
    omega
  · rfl

/-- An object that the provider cannot digest is not bound. -/
theorem refreshFrom_not_digestible {handle : ObjectHandle}
    (h : ¬(objs.attrs handle).Digestible lib) : refreshFrom lib objs calls handle obj = obj := by
  rw [refreshFrom]
  split
  · rfl
  obtain ⟨-, hr⟩ | ⟨-, ⟨hdig, -⟩ | ⟨-, ret, hr, -⟩⟩ :=
    objFromToken_spec lib (objs.attrs handle) obj.slotid handle calls.supported
  · rw [hr]
  · exact absurd hdig h
  · rw [hr]

/-- One that it can digest is. -/
theorem refreshFrom_digestible {handle : ObjectHandle} (hload : calls.load = true)
    (h : (objs.attrs handle).Digestible lib) :
    (refreshFrom lib objs calls handle obj).raf = false ∧
      (refreshFrom lib objs calls handle obj).handle = handle := by
  rw [refreshFrom, if_neg (by simp [hload])]
  obtain ⟨hign, -⟩ | ⟨-, ⟨-, tmp, hr, htmp⟩ | ⟨hnot, -⟩⟩ :=
    objFromToken_spec lib (objs.attrs handle) obj.slotid handle calls.supported
  · exact absurd h hign.not_digestible
  · rw [hr]
    exact ⟨rfl, htmp.handle⟩
  · exact absurd h hnot

/-- The contract is kept exactly if the first object that a search without failures finds, if the
    provider can digest it, is the only one and the same. -/
theorem refreshesRight_iff (hraf : obj.raf = true) : RefreshesRight lib objs calls obj ↔
    (calls.Succeed → ∀ h hs, objs.matching obj.refreshTemplate = h :: hs →
      (objs.attrs h).Digestible lib → hs = [] ∧ obj.SameAs (objs.attrs h)) := by
  constructor
  · intro hright hcalls h hs hfound hdig
    have hbound : (refreshFrom lib objs calls h obj).raf = false :=
      (refreshFrom_digestible hcalls.load hdig).1
    have honly : OnlySame objs obj := by
      by_contra hnot
      have hsame := hright hnot
      rw [refreshObj_succeed hcalls, hfound] at hsame
      simp only [List.head?_cons, Option.map_some, Option.getD_some] at hsame
      rw [hsame, hraf] at hbound
      cases hbound
    obtain ⟨h', hfound', hsame⟩ := honly
    rw [hfound, List.cons.injEq] at hfound'
    exact ⟨hfound'.2, hfound'.1 ▸ hsame⟩
  · intro hcond hnot
    by_cases hcalls : calls.Succeed
    · rw [refreshObj_succeed hcalls]
      cases hfound : objs.matching obj.refreshTemplate with
      | nil => rfl
      | cons h hs =>
        refine refreshFrom_not_digestible fun hdig => hnot ?_
        obtain ⟨rfl, hsame⟩ := hcond hcalls h hs hfound hdig
        exact ⟨h, hfound, hsame⟩
    · exact refreshObj_fail hcalls

/-! ## Two tokens -/

/-- A secret key after a fork. -/
def staleKey : Obj :=
  { raf := true, slotid := 0, handle := 3, cls := Cko.secretKey
    key := { type := ckkGenericSecret } }

/-- A token with secret keys. -/
def tokenOfKeys (handles : List ObjectHandle) : TokenObjects where
  handles
  attrs _ := bareKey Cko.secretKey ckkGenericSecret

/-- Nothing fails. -/
def noFailure : RefreshCalls where
  session := true
  init := Ckr.ok
  find := Ckr.ok
  count := 1
  load := true
  supported := false

/-- The only secret key is found again. -/
theorem refreshesRight_staleKey : RefreshesRight noEcLib (tokenOfKeys [5]) noFailure staleKey := by
  refine (refreshesRight_iff rfl).2 fun _ h hs hfound _ => ?_
  have hmatching : (tokenOfKeys [5]).matching staleKey.refreshTemplate = [5] := by decide
  have htype : (bareKey Cko.secretKey ckkGenericSecret).keyType = staleKey.key.type := by decide
  have hnone : publicValueTypes staleKey.cls = [] := by decide
  rw [hmatching, List.cons.injEq] at hfound
  refine ⟨hfound.2.symm, fun _ => htype, fun t ht => ?_⟩
  rw [hnone] at ht
  cases ht

/-- Of two secret keys the first is taken. -/
theorem not_refreshesRight_staleKey :
    ¬RefreshesRight noEcLib (tokenOfKeys [5, 6]) noFailure staleKey := by
  intro h
  have hmatching : (tokenOfKeys [5, 6]).matching staleKey.refreshTemplate = [5, 6] := by decide
  have hnot : ¬OnlySame (tokenOfKeys [5, 6]) staleKey := by
    rintro ⟨h, hfound, -⟩
    rw [hmatching] at hfound
    cases hfound
  exact absurd (congrArg Obj.handle (h hnot)) (by decide)

end P11Prov
