import Mathlib.Logic.Relation
import P11Prov.Object.PrivateImport

/-!
# Importing a private key again

`p11prov_obj_import_private_key` searches the pools, so that a key that was made a
session object before is used again. But the object that it makes is put into no
pool, and nothing puts it there later: a step of another call leaves it where it is
(`Unpooled.step`). So in a whole run no search finds it, and another import of the
key creates another object, unless an object that came to a pool some other way has
its identifier (`private_import_again`).
-/

namespace P11Prov

open Relation Encoding

namespace PoolState

variable {st st' : PoolState} {o o' dst : ObjId} {obj : PoolObj} {room : Bool} {slots : List SlotId}

/-! ## What a call does to other objects -/

/-- Another object is as it was. -/
def Leaves (st st' : PoolState) (o : ObjId) : Prop := st'.objs o = st.objs o ∧ st.next ≤ st'.next

theorem Leaves.refl : Leaves st st o := ⟨rfl, Nat.le_refl _⟩

theorem Leaves.trans {st'' : PoolState} (h : Leaves st st' o) (h' : Leaves st' st'' o) :
    Leaves st st'' o := ⟨h'.1.trans h.1, h.2.trans h'.2⟩

theorem leaves_setObj {x : Option PoolObj} (hne : o ≠ o') : Leaves st (st.setObj o' x) o :=
  ⟨setObj_objs_ne hne, Nat.le_refl _⟩

theorem leaves_objAddToPool (hne : o ≠ o') : Leaves st (st.objAddToPool o' room).2 o := by
  have hplace (obj : PoolObj) (pool : SlotArray ObjId) : Leaves st (st.placeInPool o' obj pool).2 o := by
    rw [placeInPool]
    simp only
    split
    · exact leaves_setObj hne
    · exact .refl
  rw [objAddToPool]
  split
  · exact .refl
  · split
    · exact .refl
    · split_ifs
      · exact .refl
      · exact .refl
      · exact hplace _ _
      · exact hplace _ _

theorem leaves_objRmFromPool (hne : o ≠ o') : Leaves st (st.objRmFromPool o' obj) o := by
  rw [objRmFromPool]
  split
  · exact .refl
  · split
    · exact .refl
    · split_ifs
      · exact .refl
      · exact .refl
      · exact leaves_setObj hne

theorem leaves_objNew {slotid : SlotId} {handle : ObjectHandle} {cls : Nat} {alloc : Bool}
    (ho : o < st.next) : Leaves st (st.objNew slotid handle cls alloc room).2 o := by
  have hne : o ≠ st.next := Nat.ne_of_lt ho
  have hnew : Leaves st { st.setObj st.next (some { slotid, handle, cls }) with
      next := st.next + 1 } o := ⟨setObj_objs_ne hne, Nat.le_succ _⟩
  rw [objNew]
  simp only
  split_ifs
  · exact .refl
  · exact hnew
  · exact (hnew.trans (leaves_objAddToPool hne)).trans (leaves_setObj hne)
  · exact hnew.trans (leaves_objAddToPool hne)

theorem leaves_returnDupKey {src : ObjId} {lack : Option Nat} (hne : o ≠ dst) :
    Leaves st (st.returnDupKey dst src room lack).2 o := by
  rw [returnDupKey]
  split
  · rename_i d x hd hx
    have hadd : Leaves st ((st.setObj dst (some (d.dup x))).objAddToPool dst room).2 o :=
      (leaves_setObj hne).trans (leaves_objAddToPool hne)
    split_ifs
    · exact .refl
    · simp only
      split_ifs
      · exact hadd
      · exact hadd.trans (leaves_setObj hne)
    · simp only
      split_ifs
      · exact hadd
      · exact hadd.trans (leaves_setObj hne)
  · exact .refl

theorem leaves_objStorePublicKey {made : Option (SlotId × ObjectHandle)} (hne : o ≠ o') :
    Leaves st (st.objStorePublicKey o' made room).2 o := by
  rw [objStorePublicKey]
  split
  · exact .refl
  · split_ifs
    · exact .refl
    · split
      · exact .refl
      · split_ifs
        · split
          · exact .refl
          · exact (leaves_setObj hne).trans (leaves_objAddToPool hne)
        · exact .refl

theorem leaves_objFree (hne : o ≠ o') : Leaves st (st.objFree o') o := by
  rw [objFree]
  split
  · exact .refl
  · split_ifs
    · exact leaves_setObj hne
    · exact ((leaves_setObj hne).trans (leaves_objRmFromPool hne)).trans (leaves_setObj hne)

/-! ## The object of a private key -/

/-- The object has a handle of a token and is in no pool, if it is still there. -/
structure Unpooled (st : PoolState) (o : ObjId) : Prop where
  old : o < st.next
  outside : ∀ obj, st.objs o = some obj → obj.poolid = none ∧ obj.handle ≠ ckP11provImportedHandle

theorem Unpooled.leaves (h : st.Unpooled o) (hl : Leaves st st' o) : st'.Unpooled o where
  old := Nat.lt_of_lt_of_le h.old hl.2
  outside obj hobj := h.outside obj (hl.1 ▸ hobj)

theorem Unpooled.map (h : st.Unpooled o) {f : PoolObj → PoolObj}
    (hid : ∀ obj, (f obj).poolid = obj.poolid) (hhandle : ∀ obj, (f obj).handle = obj.handle) :
    (st.setObj o' ((st.objs o').map f)).Unpooled o := by
  by_cases ho : o = o'
  · subst ho
    refine ⟨h.old, fun obj hobj => ?_⟩
    rw [setObj_objs] at hobj
    obtain ⟨x, hx, rfl⟩ := Option.map_eq_some_iff.1 hobj
    rw [hid, hhandle]
    exact h.outside x hx
  · exact h.leaves (leaves_setObj ho)

/-- A mock object is another one. -/
theorem Unpooled.ne (h : st.Unpooled o) (hobj : st.objs o' = some obj)
    (hmock : obj.handle = ckP11provImportedHandle) : o ≠ o' := by
  rintro rfl
  exact (h.outside obj hobj).2 hmock

theorem Unpooled.objFree (h : st.Unpooled o) : (st.objFree o').Unpooled o := by
  by_cases ho : o = o'
  · subst ho
    rw [PoolState.objFree]
    split
    · exact h
    · rename_i obj hobj
      obtain ⟨hid, hhandle⟩ := h.outside obj hobj
      split_ifs
      · refine ⟨h.old, fun x hx => ?_⟩
        obtain rfl := Option.some.inj (setObj_objs.symm.trans hx)
        exact ⟨hid, hhandle⟩
      · refine ⟨?_, fun x hx => ?_⟩
        · rw [objRmFromPool, hid]
          exact h.old
        · rw [setObj_objs] at hx
          cases hx
  · exact h.leaves (leaves_objFree ho)

theorem Unpooled.poolForkReset (h : st.Unpooled o) (slot : SlotId) :
    (st.poolForkReset slot).Unpooled o := by
  rw [PoolState.poolForkReset]
  split
  · exact h
  · refine ⟨h.old, fun obj hobj => ?_⟩
    simp only at hobj
    split_ifs at hobj
    · obtain ⟨x, hx, rfl⟩ := Option.map_eq_some_iff.1 hobj
      exact ⟨(h.outside x hx).1, (by decide : ckInvalidHandle ≠ ckP11provImportedHandle)⟩
    · exact h.outside obj hobj

/-- The calls as they are made, where only a mock object becomes a duplicate. -/
def FitsMock (st : PoolState) (op : Op) : Prop :=
  st.Fits op ∧ ∀ dst src room lack, op = .dup dst src room lack →
    ∃ obj, st.objs dst = some obj ∧ obj.handle = ckP11provImportedHandle

/-- No call puts the object into a pool. -/
theorem Unpooled.step (h : st.Unpooled o) {op : Op} (hop : st.FitsMock op) :
    (st.step op).Unpooled o := by
  obtain ⟨hfits, hmock⟩ := hop
  rcases op with ⟨slotid, handle, cls, alloc, room⟩ | ⟨o', cls, key, attrs⟩ |
    ⟨dst, src, room, lack⟩ | ⟨o', made, room⟩ | o' | o' | slot
  · exact h.leaves (leaves_objNew h.old)
  · exact h.map (fun _ => rfl) fun _ => rfl
  · obtain ⟨obj, hobj, hhandle⟩ := hmock dst src room lack rfl
    exact h.leaves (leaves_returnDupKey (h.ne hobj hhandle))
  · obtain ⟨⟨obj, hobj, hhandle⟩, -⟩ := hfits
    exact h.leaves (leaves_objStorePublicKey (h.ne hobj hhandle))
  · exact h.map (fun _ => rfl) fun _ => rfl
  · exact h.objFree
  · exact h.poolForkReset slot

/-- What is in no pool is found by no search. -/
theorem Unpooled.not_found (h : st.Unpooled o) (hinv : st.Inv) (find : KeyFindCtx) :
    st.slotFindObjPool slots find ≠ some o := by
  intro hfound
  obtain ⟨-, slot, -, pool, i, obj, -, hpool, -, hentry, hobj, -, -⟩ := slotFindObjPool_some hfound
  obtain ⟨x, hx, hid, -⟩ := (hinv.entry slot pool i o hpool).1 hentry
  rw [(h.outside x hx).1] at hid
  cases hid

/-! ## Runs -/

section Runs

variable (sha256 : Bytes → Except CkRv Bytes) (nid2name : Nat → Option Bytes) (slots : List SlotId)

/-- A call, or the import of a private key over a mock object; the token does not give out the mark
    of these. -/
inductive CallStep : PoolState → PoolState → Prop
  | call {st : PoolState} {op : Op} (hop : st.FitsMock op) : CallStep st (st.step op)
  | importPrivate {st : PoolState} {o : ObjId} {key : PoolObj} {params : PrivateParams}
      {made : Except CkRv (SlotId × ObjectHandle)} (hkey : st.objs o = some key)
      (hmock : key.handle = ckP11provImportedHandle)
      (hmade : ∀ m, made = .ok m → m.2 ≠ ckP11provImportedHandle) :
      CallStep st (st.objImportPrivateKey sha256 nid2name slots o params made).state

end Runs

variable {sha256 : Bytes → Except CkRv Bytes} {nid2name : Nat → Option Bytes} {params : PrivateParams}
  {find : KeyFindCtx} {key key' : PoolObj} {template : KeyAttrs}

/-- The import makes the key a duplicate of what is found, leaves it, or gives it a handle. -/
theorem objImportPrivateKey_cases (sha256 : Bytes → Except CkRv Bytes)
    (nid2name : Nat → Option Bytes) (slots : List SlotId) (params : PrivateParams)
    (hkey : st.objs o = some key) (made : Except CkRv (SlotId × ObjectHandle)) :
    (∃ find src, st.slotFindObjPool slots find = some src ∧
      (st.objImportPrivateKey sha256 nid2name slots o params made).state =
        st.step (.dup o src true none)) ∨
    (st.objImportPrivateKey sha256 nid2name slots o params made).state = st ∨
    ∃ slotid handle data attrs, made = .ok (slotid, handle) ∧
      (st.objImportPrivateKey sha256 nid2name slots o params made).state =
        st.setObj o (some { key with slotid, handle, key := data, attrs }) := by
  rw [objImportPrivateKey, hkey]
  simp only
  split
  · exact .inr (.inl rfl)
  · rename_i find hprep
    split
    · rename_i src hfound
      exact .inl ⟨find, src, hfound, rfl⟩
    · split
      · exact .inr (.inl rfl)
      · split
        · exact .inr (.inl rfl)
        · exact .inr (.inr ⟨_, _, _, _, rfl, rfl⟩)

theorem pooled_of_found (h : st.slotFindObjPool slots find = some o) : st.Pooled o := by
  obtain ⟨-, slot, -, pool, i, -, -, hpool, -, hentry, -⟩ := slotFindObjPool_some h
  exact ⟨slot, pool, hpool, List.mem_iff_getElem?.2 ⟨i, hentry⟩⟩

/-- A mock object is in no pool. -/
theorem Inv.mock (h : st.Inv) (hkey : st.objs o = some key)
    (hmock : key.handle = ckP11provImportedHandle) : key.poolid = none := by
  by_contra hid
  exact (h.home o key hkey hid).2 hmock

theorem Inv.callStep (h : st.Inv) (hstep : CallStep sha256 nid2name slots st st') : st'.Inv := by
  rcases hstep with hop | ⟨hkey, hmock, hmade⟩
  · exact h.step hop.1
  · rename_i o key params made
    rcases objImportPrivateKey_cases sha256 nid2name slots params hkey made with
      ⟨find, src, hfound, hst⟩ | hst | ⟨slotid, handle, data, attrs, -, hst⟩
    · rw [hst]
      exact h.step (pooled_of_found hfound)
    · rwa [hst]
    · have hid := h.mock hkey hmock
      rw [hst]
      refine h.setObj (fun x hx => ?_) (fun x hx => ?_) fun ho => ?_
      · obtain rfl := Option.some.inj (hkey.symm.trans hx)
        exact hid
      · obtain rfl := Option.some.inj hx
        exact hid
      · rw [h.fresh o ho] at hkey
        cases hkey

theorem Unpooled.callStep (h : st.Unpooled o) (hstep : CallStep sha256 nid2name slots st st') :
    st'.Unpooled o := by
  rcases hstep with hop | ⟨hkey, hmock, hmade⟩
  · exact h.step hop
  · rename_i o' key params made
    have hne := h.ne hkey hmock
    rcases objImportPrivateKey_cases sha256 nid2name slots params hkey made with
      ⟨find, src, -, hst⟩ | hst | ⟨slotid, handle, data, attrs, -, hst⟩
    · rw [hst]
      exact h.leaves (leaves_returnDupKey hne)
    · rwa [hst]
    · rw [hst]
      exact h.leaves (leaves_setObj hne)

/-- In a run, the object stays outside of the pools. -/
theorem Unpooled.run (h : st.Unpooled o) (hinv : st.Inv)
    (hrun : ReflTransGen (CallStep sha256 nid2name slots) st st') : st'.Unpooled o ∧ st'.Inv := by
  induction hrun with
  | refl => exact ⟨h, hinv⟩
  | tail _ hstep ih => exact ⟨ih.1.callStep hstep, ih.2.callStep hstep⟩

/-- The object that was created has its handle and is in no pool. -/
theorem objImportPrivateKey_unpooled (hinv : st.Inv) (hkey : st.objs o = some key)
    (hmock : key.handle = ckP11provImportedHandle) {slotid : SlotId} {handle : ObjectHandle}
    (hprep : prepPrivateFind sha256 nid2name params ⟨key.key.type, Cko.privateKey, 0, 0,
      key.key.paramSet, []⟩ = .ok find)
    (hcreated : (st.objImportPrivateKey sha256 nid2name slots o params (.ok (slotid, handle))).created =
      some template) (hhandle : handle ≠ ckP11provImportedHandle) :
    st.slotFindObjPool slots find = none ∧
      (st.objImportPrivateKey sha256 nid2name slots o params (.ok (slotid, handle))).state.Unpooled o := by
  have hold : o < st.next := by
    by_contra ho
    rw [hinv.fresh o (Nat.le_of_not_lt ho)] at hkey
    cases hkey
  rw [objImportPrivateKey, hkey] at hcreated ⊢
  simp only [hprep] at hcreated ⊢
  split at hcreated
  · cases hcreated
  · rename_i hnone
    split at hcreated
    · cases hcreated
    · rename_i template' htemplate
      have hid := hinv.mock hkey hmock
      refine ⟨hnone, hold, fun x hx => ?_⟩
      obtain rfl := Option.some.inj (setObj_objs.symm.trans hx)
      exact ⟨hid, hhandle⟩

/-- A private key that is imported again, after any calls, is created again, unless an object that
    came to a pool some other way has the identifier that was made of it. -/
theorem private_import_again (h : Reached (· ∈ slots) st) (hkey : st.objs o = some key)
    (hmock : key.handle = ckP11provImportedHandle) {slotid : SlotId} {handle : ObjectHandle}
    (hprep : prepPrivateFind sha256 nid2name params ⟨key.key.type, Cko.privateKey, 0, 0,
      key.key.paramSet, []⟩ = .ok find)
    (hcreated : (st.objImportPrivateKey sha256 nid2name slots o params (.ok (slotid, handle))).created =
      some template) (hhandle : handle ≠ ckP11provImportedHandle)
    (hrun : ReflTransGen (CallStep sha256 nid2name slots)
      (st.objImportPrivateKey sha256 nid2name slots o params (.ok (slotid, handle))).state st')
    (hkey' : st'.objs o' = some key') (htype : key'.key.type = key.key.type)
    (hparamSet : key'.key.paramSet = key.key.paramSet) (made : Except CkRv (SlotId × ObjectHandle)) :
    (st'.objImportPrivateKey sha256 nid2name slots o' params made).created = some template ∨
      ∃ src obj, src ≠ o ∧ st'.Pooled src ∧ st'.objs src = some obj ∧ obj.cls = Cko.privateKey ∧
        obj.getAttr ckaId = some (find.nth 0) := by
  have hinv := h.inv
  obtain ⟨hnone, hunpooled⟩ := objImportPrivateKey_unpooled hinv hkey hmock hprep hcreated hhandle
  have hstep : CallStep sha256 nid2name slots st
      (st.objImportPrivateKey sha256 nid2name slots o params (.ok (slotid, handle))).state :=
    .importPrivate hkey hmock fun m hm => by
      obtain rfl := Except.ok.inj hm
      exact hhandle
  obtain ⟨hunpooled', hinv'⟩ := hunpooled.run (hinv.callStep hstep) hrun
  have hprep' : prepPrivateFind sha256 nid2name params ⟨key'.key.type, Cko.privateKey, 0, 0,
      key'.key.paramSet, []⟩ = .ok find := by rwa [htype, hparamSet]
  rcases hfound : st'.slotFindObjPool slots find with _ | src
  · left
    rw [objImportPrivateKey_created hkey' hprep' hfound,
      ← objImportPrivateKey_created hkey hprep hnone (.ok (slotid, handle)), hcreated]
  · right
    obtain ⟨-, -, -, -, -, obj, -, -, -, -, hobj, hfits, -⟩ := slotFindObjPool_some hfound
    obtain ⟨hcls, -, -, -, hattrs⟩ := KeyFindCtx.fits_iff.1 hfits
    obtain ⟨hfcls, hid⟩ := (prepPrivateFind_search hprep).identifier
    refine ⟨src, obj, ?_, pooled_of_found hfound, hobj, hcls.trans hfcls, hattrs _ hid⟩
    rintro rfl
    exact hunpooled'.not_found hinv' find hfound

/-! ### The same key twice -/

/-- Two mock objects for an RSA key. -/
def twoMocks : PoolState :=
  (((PoolState.mk (fun _ => none) 0 (fun slot => if slot ∈ [7] then some {} else none) false).step
    (.new ckUnavailableInformation ckP11provImportedHandle Cko.privateKey true true)).step
    (.fill 0 Cko.privateKey { type := ckkRsa } []) |>.step
    (.new ckUnavailableInformation ckP11provImportedHandle Cko.privateKey true true)).step
    (.fill 1 Cko.privateKey { type := ckkRsa } [])

theorem twoMocks_reached : Reached (· ∈ [7]) twoMocks :=
  .step (.step (.step (.step .start trivial) trivial) trivial) trivial

/-- The import of the key over one of them. -/
def import35 (st : PoolState) (o : ObjId) (handle : ObjectHandle) : PrivateImport :=
  st.objImportPrivateKey (fun _ => .ok [1]) (fun _ => none) [7] o rsaKey35 (.ok (7, handle))

/-- What the key is searched with. -/
def find35 : KeyFindCtx := ⟨ckkRsa, Cko.privateKey, 1, 8, rsaMock.key.paramSet, [(ckaId, [1])]⟩

/-- What the key is created with. -/
def template35 : KeyAttrs :=
  rsaPrivateTypes.zip ((rsaBase find35 [35] [5] [5]).take 11)

theorem template35_eq : privateKeyTemplate rsaKey35 find35 = .ok template35 :=
  storeRsaPrivateKey_ok.2 ⟨[35], [5], [5], getBn_digit (by decide), getBn_digit (by decide),
    getBn_digit (by decide), rfl⟩

theorem import35_created : (import35 twoMocks 0 3).created = some template35 := by
  have hkey : twoMocks.objs 0 = some rsaMock := rfl
  have hnone : twoMocks.slotFindObjPool [7] find35 = none := rfl
  rw [import35, objImportPrivateKey_created hkey rfl hnone, template35_eq]
  rfl

theorem import35_state : ∃ x, (import35 twoMocks 0 3).state = twoMocks.setObj 0 x := by
  have hkey : twoMocks.objs 0 = some rsaMock := rfl
  rcases objImportPrivateKey_cases (fun _ => .ok [1]) (fun _ => none) [7] rsaKey35 hkey (.ok (7, 3))
    with ⟨find, src, hfound, -⟩ | hst | ⟨slotid, handle, data, attrs, -, hst⟩
  · cases hfound
  · refine ⟨some rsaMock, hst.trans ?_⟩
    rw [setObj, ← hkey, Function.update_eq_self]
  · exact ⟨_, hst⟩

/-- The second import creates a second object. -/
theorem private_import_again_35 :
    (import35 (import35 twoMocks 0 3).state 1 4).created = some template35 := by
  have hkey : twoMocks.objs 0 = some rsaMock := rfl
  have hprep : prepPrivateFind (fun _ => .ok [1]) (fun _ => none) rsaKey35
      ⟨rsaMock.key.type, Cko.privateKey, 0, 0, rsaMock.key.paramSet, []⟩ = .ok find35 := rfl
  obtain ⟨x, hx⟩ := import35_state
  have hkey' : (import35 twoMocks 0 3).state.objs 1 = some rsaMock := by
    rw [hx]
    rfl
  rcases private_import_again twoMocks_reached hkey rfl hprep import35_created (by decide) .refl
    hkey' rfl rfl (.ok (7, 4)) with h | ⟨src, obj, -, ⟨slot, pool, hpool, hmem⟩, -⟩
  · exact h
  · -- the pool of the slot is empty
    have hpool' : (if slot ∈ [7] then some {} else none) = some pool := by
      rw [← hpool, ← import35, hx]
      rfl
    split at hpool'
    · obtain rfl := Option.some.inj hpool'
      cases hmem
    · cases hpool'

end PoolState

end P11Prov
