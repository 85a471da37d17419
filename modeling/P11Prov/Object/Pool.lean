import P11Prov.Sequence.SlotArray
import P11Prov.State

/-!
# Object pools

Every slot has a pool, an array of the objects that live on it. An object is put
into the pool of its slot when it is made, a mock object when it gets a handle;
an imported key that is found in a pool becomes a duplicate of what was found and
goes into the same pool. An object leaves the pool when its last reference is
given up.

The memory for the objects is a function from addresses. Whether there is memory
for something, and what the token answers, comes with each call.
-/

namespace P11Prov

/-- `POOL_ALLOC_SIZE` -/
abbrev poolAllocSize : Nat := 32

/-- `POOL_MAX_SIZE` -/
abbrev poolMaxSize : Nat := poolAllocSize * 65536

/-- `struct p11prov_obj`, as far as the pools use it; no `poolid` stands for -1. -/
structure PoolObj where
  slotid : SlotId
  handle : ObjectHandle
  cached : ObjectHandle := ckInvalidHandle
  cls : Nat
  ckaCopyable : Bool := false
  ckaToken : Bool := false
  key : Key := {}
  attrs : List (Nat × Bytes) := []
  raf : Bool := false
  refcnt : Nat := 1
  poolid : Option Nat := none

/-- `p11prov_obj_get_attr` -/
def PoolObj.getAttr (obj : PoolObj) (type : Nat) : Option Bytes :=
  (obj.attrs.find? (·.1 = type)).map (·.2)

/-- What `return_dup_key` copies before the attributes. -/
def PoolObj.dup (dst src : PoolObj) : PoolObj :=
  { dst with
    slotid := src.slotid, handle := src.handle, cls := src.cls, ckaCopyable := src.ckaCopyable
    ckaToken := src.ckaToken, key := src.key }

/-- What `p11prov_obj_pool_fork_reset` does to an object. -/
def PoolObj.reset (obj : PoolObj) : PoolObj :=
  { obj with raf := true, handle := ckInvalidHandle, cached := ckInvalidHandle }

/-- The attributes that the template of `p11prov_obj_store_public_key` takes from the key. -/
def storeTemplate (keyType : Nat) : Option (List Nat) :=
  if keyType = ckkRsa then some [ckaModulus, ckaPublicExponent]
  else if keyType = ckkEc ∨ keyType = ckkEcEdwards then some [ckaEcParams, ckaEcPoint]
  else if keyType = ckkMlDsa ∨ keyType = ckkMlKem then some [ckaParameterSet, ckaValue]
  else none

/-- The objects, the pools of the slots there are, and whether a call found a pool in an
    inconsistent state. -/
structure PoolState where
  objs : ObjId → Option PoolObj := fun _ => none
  next : ObjId := 0
  pools : SlotId → Option (SlotArray ObjId)
  inconsistent : Bool := false

namespace PoolState

variable (st : PoolState)

/-- Writes an object. -/
def setObj (o : ObjId) (obj : Option PoolObj) : PoolState :=
  { st with objs := Function.update st.objs o obj }

/-- Writes the pool of a slot. -/
def setPool (slot : SlotId) (pool : SlotArray ObjId) : PoolState :=
  { st with pools := Function.update st.pools slot (some pool) }

/-! ## The functions -/

/-- The scan of `obj_add_to_pool` in a pool that has room. -/
def placeInPool (o : ObjId) (obj : PoolObj) (pool : SlotArray ObjId) : CkRv × PoolState :=
  let pool := pool.wrap
  match pool.findFree with
  | some i =>
    (Ckr.ok, (st.setPool obj.slotid (pool.put i o)).setObj o (some { obj with poolid := some i }))
  | none => (Ckr.generalError, { st.setPool obj.slotid pool with inconsistent := true })

/-- `obj_add_to_pool`, and whether there is memory for a larger pool. -/
def objAddToPool (o : ObjId) (room : Bool) : CkRv × PoolState :=
  match st.objs o with
  | none => (Ckr.generalError, st)
  | some obj =>
    match st.pools obj.slotid with
    | none => (Ckr.slotIdInvalid, st)
    | some pool =>
      if pool.size ≤ pool.num then
        if poolMaxSize ≤ pool.size then (Ckr.hostMemory, st)
        else if !room then (Ckr.hostMemory, st)
        else st.placeInPool o obj (pool.grow poolAllocSize)
      else st.placeInPool o obj pool

/-- `obj_rm_from_pool` -/
def objRmFromPool (o : ObjId) (obj : PoolObj) : PoolState :=
  match obj.poolid with
  | none => st
  | some i =>
    match st.pools obj.slotid with
    | none => st
    | some pool =>
      if pool.size ≤ i then { st with inconsistent := true }
      else if pool.entries[i]? ≠ some (some o) then { st with inconsistent := true }
      else (st.setPool obj.slotid (pool.remove i)).setObj o (some { obj with poolid := none })

/-- `p11prov_obj_new`, and whether there is memory for the object and for a larger pool. -/
def objNew (slotid : SlotId) (handle : ObjectHandle) (cls : Nat) (alloc room : Bool) :
    Option ObjId × PoolState :=
  if !alloc then (none, st)
  else
    let o := st.next
    let st := { st.setObj o (some { slotid, handle, cls }) with next := o + 1 }
    if handle = ckP11provImportedHandle then (some o, st)
    else
      let (ret, st) := st.objAddToPool o room
      if ret ≠ Ckr.ok then (none, st.setObj o none) else (some o, st)

/-- `return_dup_key`, whether there is memory for a larger pool, and which allocation for the
    attributes fails, if any: that of the array (0) or that of a value. -/
def returnDupKey (dst src : ObjId) (room : Bool) (lack : Option Nat) : CkRv × PoolState :=
  match st.objs dst, st.objs src with
  | some d, some s =>
    if d.poolid ≠ none then (Ckr.generalError, st)
    else
      let (ret, st) := (st.setObj dst (some (d.dup s))).objAddToPool dst room
      if ret ≠ Ckr.ok then (ret, st)
      else
        let attrs := s.attrs.take ((lack.getD (s.attrs.length + 1)) - 1)
        let st := st.setObj dst ((st.objs dst).map ({ · with attrs }))
        if lack.any (· ≤ s.attrs.length) then (Ckr.hostMemory, st) else (Ckr.ok, st)
  | _, _ => (Ckr.generalError, st)

/-- `p11prov_obj_store_public_key`, with the slot and the handle if the token made the key, and
    whether there is memory for a larger pool. -/
def objStorePublicKey (o : ObjId) (made : Option (SlotId × ObjectHandle)) (room : Bool) :
    CkRv × PoolState :=
  match st.objs o with
  | none => (Ckr.generalError, st)
  | some obj =>
    if obj.cls ≠ Cko.publicKey then (Ckr.objectHandleInvalid, st)
    else
      match storeTemplate obj.key.type with
      | none => (Ckr.generalError, st)
      | some types =>
        if types.all fun type => (obj.getAttr type).isSome then
          match made with
          | none => (Ckr.generalError, st)
          | some (slotid, handle) =>
            -- a real object now; it does not matter if the pool does not take it
            (Ckr.ok, ((st.setObj o (some { obj with slotid, handle })).objAddToPool o room).2)
        else (Ckr.generalError, st)

/-- `p11prov_obj_ref_no_cache` -/
def objRef (o : ObjId) : PoolState :=
  st.setObj o ((st.objs o).map fun obj => { obj with refcnt := obj.refcnt + 1 })

/-- `p11prov_obj_free` -/
def objFree (o : ObjId) : PoolState :=
  match st.objs o with
  | none => st
  | some obj =>
    if obj.refcnt - 1 ≠ 0 then st.setObj o (some { obj with refcnt := obj.refcnt - 1 })
    else ((st.setObj o (some { obj with refcnt := 0 })).objRmFromPool o { obj with refcnt := 0 }).setObj
      o none

/-- `p11prov_obj_pool_fork_reset` -/
def poolForkReset (slot : SlotId) : PoolState :=
  match st.pools slot with
  | none => st
  | some pool =>
    { st with objs := fun o =>
        if some o ∈ pool.entries then (st.objs o).map PoolObj.reset else st.objs o }

/-! ## Runs -/

/-- A call, with what it is answered. The other fields of an object are filled in by those that make
    or import it. -/
inductive Op where
  | new (slotid : SlotId) (handle : ObjectHandle) (cls : Nat) (alloc room : Bool)
  | fill (o : ObjId) (cls : Nat) (key : Key) (attrs : List (Nat × Bytes))
  | dup (dst src : ObjId) (room : Bool) (lack : Option Nat)
  | store (o : ObjId) (made : Option (SlotId × ObjectHandle)) (room : Bool)
  | ref (o : ObjId)
  | free (o : ObjId)
  | forkReset (slot : SlotId)

/-- What a call does. -/
def step : Op → PoolState
  | .new slotid handle cls alloc room => (st.objNew slotid handle cls alloc room).2
  | .fill o cls key attrs => st.setObj o ((st.objs o).map ({ · with cls, key, attrs }))
  | .dup dst src room lack => (st.returnDupKey dst src room lack).2
  | .store o made room => (st.objStorePublicKey o made room).2
  | .ref o => st.objRef o
  | .free o => st.objFree o
  | .forkReset slot => st.poolForkReset slot

/-- The object is in a pool. -/
def Pooled (o : ObjId) : Prop := ∃ slot pool, st.pools slot = some pool ∧ some o ∈ pool.entries

/-- The calls as they are made: what is duplicated was found in a pool, a key is stored where its
    handle is the mark of an imported key, and the token does not give out this mark. -/
def Fits : Op → Prop
  | .dup _ src _ _ => st.Pooled src
  | .store o made _ => (∃ obj, st.objs o = some obj ∧ obj.handle = ckP11provImportedHandle) ∧
      ∀ m ∈ made, m.2 ≠ ckP11provImportedHandle
  | _ => True

/-- The states that calls lead to, from empty pools of the slots there are. -/
inductive Reached (slots : SlotId → Prop) [DecidablePred slots] : PoolState → Prop
  | start : Reached slots { pools := fun slot => if slots slot then some {} else none }
  | step {st : PoolState} {op : Op} (h : Reached slots st) (hop : st.Fits op) :
      Reached slots (st.step op)

/-! ## The invariant -/

/-- What the calls keep: the entries of the pools are the objects that say so, an object in a pool
    is on a slot there is and has a handle, and no call found a pool in an inconsistent state. -/
structure Inv : Prop where
  pool : ∀ slot pool, st.pools slot = some pool →
    pool.WF ∧ poolAllocSize ∣ pool.size ∧ pool.size ≤ poolMaxSize
  entry : ∀ slot pool i o, st.pools slot = some pool → (pool.entries[i]? = some (some o) ↔
    ∃ obj, st.objs o = some obj ∧ obj.poolid = some i ∧ obj.slotid = slot)
  home : ∀ o obj, st.objs o = some obj → obj.poolid ≠ none →
    (st.pools obj.slotid).isSome = true ∧ obj.handle ≠ ckP11provImportedHandle
  fresh : ∀ o, st.next ≤ o → st.objs o = none
  consistent : st.inconsistent = false

variable {st} {o : ObjId} {obj obj' : PoolObj} {i : Nat} {room : Bool} {slot : SlotId}
  {pool pool₀ : SlotArray ObjId}

@[simp] theorem setObj_objs {x : Option PoolObj} : (st.setObj o x).objs o = x :=
  Function.update_self _ _ _

theorem setObj_objs_ne {x : Option PoolObj} {o' : ObjId} (h : o' ≠ o) :
    (st.setObj o x).objs o' = st.objs o' := Function.update_of_ne h _ _

/-- Outside the pools objects may come, go and change. -/
theorem Inv.setObj (h : st.Inv) (hold : ∀ obj, st.objs o = some obj → obj.poolid = none)
    {x : Option PoolObj} (hnew : ∀ obj ∈ x, obj.poolid = none) (hnext : st.next ≤ o → x = none) :
    (st.setObj o x).Inv where
  pool := h.pool
  entry slot pool i o' hp := by
    refine (h.entry slot pool i o' hp).trans ?_
    by_cases ho : o' = o
    · subst ho
      rw [setObj_objs]
      constructor
      · rintro ⟨obj, hobj, hi, -⟩
        rw [hold obj hobj] at hi
        cases hi
      · rintro ⟨obj, hobj, hi, -⟩
        rw [hnew obj hobj] at hi
        cases hi
    · rw [setObj_objs_ne ho]
  home o' obj hobj hi := by
    by_cases ho : o' = o
    · subst ho
      rw [setObj_objs] at hobj
      exact absurd (hnew obj hobj) hi
    · rw [setObj_objs_ne ho] at hobj
      exact h.home o' obj hobj hi
  fresh o' ho' := by
    by_cases ho : o' = o
    · subst ho
      rw [setObj_objs]
      exact hnext ho'
    · rw [setObj_objs_ne ho]
      exact h.fresh o' ho'
  consistent := h.consistent

/-- A live object changes without the fields that the pools depend on. -/
theorem Inv.setObj_same (h : st.Inv) (hobj : st.objs o = some obj) (hid : obj'.poolid = obj.poolid)
    (hslot : obj'.slotid = obj.slotid)
    (hhandle : obj.handle ≠ ckP11provImportedHandle → obj'.handle ≠ ckP11provImportedHandle) :
    (st.setObj o (some obj')).Inv where
  pool := h.pool
  entry slot pool i o' hp := by
    refine (h.entry slot pool i o' hp).trans ?_
    by_cases ho : o' = o
    · subst ho
      simp only [setObj_objs, hobj, Option.some_inj, exists_eq_left', hid, hslot]
    · rw [setObj_objs_ne ho]
  home o' x hx hi := by
    by_cases ho : o' = o
    · subst ho
      rw [setObj_objs, Option.some_inj] at hx
      subst hx
      rw [hslot]
      rw [hid] at hi
      obtain ⟨hsome, hne⟩ := h.home o' obj hobj hi
      exact ⟨hsome, hhandle hne⟩
    · rw [setObj_objs_ne ho] at hx
      exact h.home o' x hx hi
  fresh o' ho' := by
    by_cases ho : o' = o
    · subst ho
      rw [h.fresh o' ho'] at hobj
      cases hobj
    · rw [setObj_objs_ne ho]
      exact h.fresh o' ho'
  consistent := h.consistent

/-- What is added to a pool with room gets a free entry of it. -/
theorem Inv.placeInPool (h : st.Inv) (hobj : st.objs o = some obj) (hid : obj.poolid = none)
    (hpool : st.pools obj.slotid = some pool₀) (hwf : pool.WF) (hchunk : poolAllocSize ∣ pool.size)
    (hmax : pool.size ≤ poolMaxSize) (hlt : pool.num < pool.size)
    (hsame : ∀ (i : Nat) (o : ObjId),
      pool.entries[i]? = some (some o) ↔ pool₀.entries[i]? = some (some o)) :
    (st.placeInPool o obj pool).1 = Ckr.ok ∧
      (obj.handle ≠ ckP11provImportedHandle → (st.placeInPool o obj pool).2.Inv) ∧
      (st.placeInPool o obj pool).2.next = st.next ∧
      ∃ i, (st.placeInPool o obj pool).2.objs =
        Function.update st.objs o (some { obj with poolid := some i }) := by
  obtain ⟨i, hi, hisize, hfree, hbelow⟩ := hwf.findFree hlt
  have heq : st.placeInPool o obj pool = (Ckr.ok,
      (st.setPool obj.slotid (pool.put i o)).setObj o (some { obj with poolid := some i })) := by
    rw [PoolState.placeInPool]
    simp only [hwf.wrap hlt, hi]
  rw [heq]
  refine ⟨rfl, fun hhandle => ⟨fun slot p hp => ?_, fun slot p j o' hp => ?_,
    fun o' x hx hxi => ?_, fun o' ho' => ?_, h.consistent⟩, rfl, i, rfl⟩
  · by_cases hs : slot = obj.slotid
    · subst hs
      obtain rfl : pool.put i o = p := by simpa [PoolState.setPool, PoolState.setObj] using hp
      exact ⟨hwf.put hfree hbelow, by rwa [SlotArray.size_put], by rwa [SlotArray.size_put]⟩
    · exact h.pool slot p (by simpa [PoolState.setPool, PoolState.setObj, hs] using hp)
  · by_cases hs : slot = obj.slotid
    · subst hs
      obtain rfl : pool.put i o = p := by simpa [PoolState.setPool, PoolState.setObj] using hp
      have hentry := h.entry obj.slotid pool₀ j o' hpool
      rw [← hsame] at hentry
      by_cases ho : o' = o
      · subst ho
        rw [setObj_objs]
        simp only [Option.some_inj, exists_eq_left', and_true]
        by_cases hj : i = j
        · subst hj
          exact iff_of_true (List.getElem?_set_self hisize) rfl
        · simp only [SlotArray.put, List.getElem?_set_ne hj, hentry, hobj, Option.some_inj,
            exists_eq_left', hid]
          simp [hj]
      · rw [setObj_objs_ne ho]
        refine Iff.trans ?_ hentry
        by_cases hj : i = j
        · subst hj
          simp only [SlotArray.put, List.getElem?_set_self hisize, hfree]
          simp [Ne.symm ho]
        · simp only [SlotArray.put, List.getElem?_set_ne hj]
    · have hp' : st.pools slot = some p := by
        simpa [PoolState.setPool, PoolState.setObj, hs] using hp
      refine (h.entry slot p j o' hp').trans ?_
      by_cases ho : o' = o
      · subst ho
        rw [setObj_objs]
        simp only [hobj, Option.some_inj, exists_eq_left', hid]
        simp [Ne.symm hs]
      · rw [setObj_objs_ne ho]
        rfl
  · have hpools (slot : SlotId) (hs : (st.pools slot).isSome = true) :
        ((st.setPool obj.slotid (pool.put i o)).pools slot).isSome = true := by
      by_cases he : slot = obj.slotid
      · subst he
        simp [PoolState.setPool]
      · simpa [PoolState.setPool, he] using hs
    by_cases ho : o' = o
    · subst ho
      rw [setObj_objs, Option.some_inj] at hx
      subst hx
      exact ⟨hpools _ (by rw [hpool]; rfl), hhandle⟩
    · rw [setObj_objs_ne ho] at hx
      obtain ⟨hsome, hne⟩ := h.home o' x hx hxi
      exact ⟨hpools _ hsome, hne⟩
  · by_cases ho : o' = o
    · subst ho
      rw [h.fresh o' ho'] at hobj
      cases hobj
    · rw [setObj_objs_ne ho]
      exact h.fresh o' ho'

/-- Where an object is added to its pool, it gets an entry there; else nothing happens, for lack of
    a slot, of memory or of room. -/
theorem Inv.objAddToPool (h : st.Inv) (hobj : st.objs o = some obj) (hid : obj.poolid = none)
    (room : Bool) :
    ((st.objAddToPool o room).1 = Ckr.ok ∧
      (obj.handle ≠ ckP11provImportedHandle → (st.objAddToPool o room).2.Inv) ∧
      (st.objAddToPool o room).2.next = st.next ∧
      ∃ i, (st.objAddToPool o room).2.objs =
        Function.update st.objs o (some { obj with poolid := some i })) ∨
    ((st.objAddToPool o room).1 ≠ Ckr.ok ∧ (st.objAddToPool o room).2 = st ∧
      (st.pools obj.slotid = none ∨ room = false ∨
        ∃ pool, st.pools obj.slotid = some pool ∧ pool.num = poolMaxSize)) := by
  have hslot : Ckr.slotIdInvalid ≠ Ckr.ok := by decide
  have hmem : Ckr.hostMemory ≠ Ckr.ok := by decide
  rw [PoolState.objAddToPool, hobj]
  cases hpool : st.pools obj.slotid with
  | none =>
    simp only [hpool]
    exact .inr ⟨hslot, trivial, .inl trivial⟩
  | some pool =>
    obtain ⟨hwf, hchunk, hmax⟩ := h.pool _ _ hpool
    simp only [hpool]
    by_cases hfull : pool.size ≤ pool.num
    · rw [if_pos hfull]
      by_cases hlimit : poolMaxSize ≤ pool.size
      · rw [if_pos hlimit]
        refine .inr ⟨hmem, rfl, .inr (.inr ⟨pool, rfl, ?_⟩)⟩
        have := hwf.num_le
        omega
      · rw [if_neg hlimit]
        by_cases hroom : (!room) = true
        · rw [if_pos hroom]
          exact .inr ⟨hmem, rfl, .inr (.inl (by simpa using hroom))⟩
        · rw [if_neg hroom]
          have hnum := hwf.num_le
          refine .inl (h.placeInPool hobj hid hpool hwf.grow ?_ ?_ ?_ fun i o' => ?_)
          · rw [SlotArray.size_grow]
            exact Nat.dvd_add hchunk (Nat.dvd_refl _)
          · obtain ⟨k, hk⟩ := hchunk
            rw [SlotArray.size_grow]
            simp only [poolMaxSize, poolAllocSize] at hk hlimit ⊢
            omega
          · rw [SlotArray.size_grow, SlotArray.grow]
            simp only [poolAllocSize]
            omega
          · rw [SlotArray.grow, List.getElem?_append]
            by_cases hi : i < pool.entries.length
            · rw [if_pos hi]
            · rw [if_neg hi, List.getElem?_replicate, List.getElem?_eq_none (Nat.le_of_not_lt hi)]
              split <;> simp
    · rw [if_neg hfull]
      exact .inl (h.placeInPool hobj hid hpool hwf hchunk hmax (Nat.lt_of_not_le hfull)
        fun i o' => Iff.rfl)

/-- An object that leaves its pool is there, and nothing else is changed. -/
theorem Inv.objRmFromPool (h : st.Inv) (hobj : st.objs o = some obj) :
    (st.objRmFromPool o obj).Inv ∧ (st.objRmFromPool o obj).next = st.next ∧
      ∃ obj', (st.objRmFromPool o obj).objs o = some obj' ∧ obj'.poolid = none := by
  rw [PoolState.objRmFromPool]
  cases hid : obj.poolid with
  | none => exact ⟨h, rfl, obj, hobj, hid⟩
  | some i =>
    obtain ⟨hsome, -⟩ := h.home o obj hobj (by simp [hid])
    obtain ⟨pool, hpool⟩ := Option.isSome_iff_exists.1 hsome
    obtain ⟨hwf, hchunk, hmax⟩ := h.pool _ _ hpool
    have hentry : pool.entries[i]? = some (some o) :=
      (h.entry _ _ i o hpool).2 ⟨obj, hobj, hid, rfl⟩
    have hi : ¬pool.size ≤ i := Nat.not_le_of_lt (List.getElem?_eq_some_iff.1 hentry).1
    simp only [hpool, if_neg hi, hentry, ne_eq, not_true_eq_false, if_false]
    refine ⟨⟨fun slot p hp => ?_, fun slot p j o' hp => ?_, fun o' x hx hxi => ?_, fun o' ho' => ?_,
      h.consistent⟩, rfl, _, setObj_objs, rfl⟩
    · by_cases hs : slot = obj.slotid
      · subst hs
        obtain rfl : pool.remove i = p := by simpa [PoolState.setPool, PoolState.setObj] using hp
        exact ⟨hwf.remove hentry, by rwa [SlotArray.size_remove], by rwa [SlotArray.size_remove]⟩
      · exact h.pool slot p (by simpa [PoolState.setPool, PoolState.setObj, hs] using hp)
    · by_cases hs : slot = obj.slotid
      · subst hs
        obtain rfl : pool.remove i = p := by simpa [PoolState.setPool, PoolState.setObj] using hp
        have hj := h.entry obj.slotid pool j o' hpool
        by_cases hij : i = j
        · subst hij
          simp only [SlotArray.remove, List.getElem?_set_self (Nat.lt_of_not_le hi)]
          refine iff_of_false (by simp) ?_
          rintro ⟨x, hx, hxi, hxs⟩
          by_cases ho : o' = o
          · subst ho
            rw [setObj_objs, Option.some_inj] at hx
            subst hx
            cases hxi
          · rw [setObj_objs_ne ho] at hx
            have he := hj.2 ⟨x, hx, hxi, hxs⟩
            rw [hentry, Option.some_inj, Option.some_inj] at he
            exact ho he.symm
        · simp only [SlotArray.remove, List.getElem?_set_ne hij, hj]
          by_cases ho : o' = o
          · subst ho
            rw [setObj_objs]
            simp [hobj, hid, hij]
          · rw [setObj_objs_ne ho]
            rfl
      · have hp' : st.pools slot = some p := by
          simpa [PoolState.setPool, PoolState.setObj, hs] using hp
        refine (h.entry slot p j o' hp').trans ?_
        by_cases ho : o' = o
        · subst ho
          rw [setObj_objs]
          simp [hobj, Ne.symm hs]
        · rw [setObj_objs_ne ho]
          rfl
    · by_cases ho : o' = o
      · subst ho
        rw [setObj_objs, Option.some_inj] at hx
        subst hx
        exact absurd rfl hxi
      · rw [setObj_objs_ne ho] at hx
        obtain ⟨hsome', hne⟩ := h.home o' x hx hxi
        refine ⟨?_, hne⟩
        by_cases hs : x.slotid = obj.slotid
        · simp [PoolState.setPool, PoolState.setObj, hs]
        · simpa [PoolState.setPool, PoolState.setObj, hs] using hsome'
    · by_cases ho : o' = o
      · subst ho
        rw [h.fresh o' ho'] at hobj
        cases hobj
      · rw [setObj_objs_ne ho]
        exact h.fresh o' ho'

/-! ## Steps -/

theorem Inv.objNew (h : st.Inv) {handle : ObjectHandle} {cls : Nat} {alloc : Bool} :
    (st.objNew slot handle cls alloc room).2.Inv := by
  have hnew : ({ st.setObj st.next (some { slotid := slot, handle, cls }) with
      next := st.next + 1 } : PoolState).Inv := by
    have hnone := h.fresh st.next (Nat.le_refl _)
    have hset : ({ st with next := st.next + 1 } : PoolState).Inv :=
      { h with fresh := fun o ho => h.fresh o (Nat.le_of_succ_le ho) }
    refine hset.setObj (o := st.next) (fun obj hobj => ?_) (fun obj hobj => ?_) fun ho => ?_
    · rw [show st.objs st.next = some obj from hobj] at hnone
      cases hnone
    · rw [Option.mem_some_iff] at hobj
      rw [← hobj]
    · exact absurd ho (Nat.not_succ_le_self _)
  rw [PoolState.objNew]
  by_cases halloc : (!alloc) = true
  · rw [if_pos halloc]
    exact h
  · rw [if_neg halloc]
    simp only
    by_cases hmock : handle = ckP11provImportedHandle
    · rw [if_pos hmock]
      exact hnew
    · rw [if_neg hmock]
      have hadd := hnew.objAddToPool (o := st.next) setObj_objs rfl room
      rcases hadd with ⟨hret, hinv, -⟩ | ⟨hret, he, -⟩
      · rw [if_neg (not_not.2 hret)]
        exact hinv hmock
      · rw [if_pos hret, he]
        refine hnew.setObj (fun obj hobj => ?_) (fun obj hobj => ?_) fun _ => rfl
        · rw [setObj_objs, Option.some_inj] at hobj
          rw [← hobj]
        · cases hobj

theorem Inv.pooled (h : st.Inv) (hp : st.Pooled o) :
    ∃ obj, st.objs o = some obj ∧ obj.handle ≠ ckP11provImportedHandle := by
  obtain ⟨slot, pool, hpool, hmem⟩ := hp
  obtain ⟨i, hi⟩ := List.mem_iff_getElem?.1 hmem
  obtain ⟨obj, hobj, hid, -⟩ := (h.entry slot pool i o hpool).1 hi
  exact ⟨obj, hobj, (h.home o obj hobj (by simp [hid])).2⟩

theorem Inv.returnDupKey (h : st.Inv) {dst src : ObjId} (hsrc : st.Pooled src)
    {lack : Option Nat} : (st.returnDupKey dst src room lack).2.Inv := by
  obtain ⟨s, hs, hhandle⟩ := h.pooled hsrc
  rw [PoolState.returnDupKey, hs]
  cases hd : st.objs dst with
  | none => exact h
  | some d =>
    simp only
    by_cases hid : d.poolid = none
    · rw [if_neg (not_not.2 hid)]
      have hdup : (st.setObj dst (some (d.dup s))).Inv :=
        h.setObj (fun obj hobj => by rw [hd, Option.some_inj] at hobj; rw [← hobj, hid])
          (fun obj hobj => by rw [Option.mem_some_iff] at hobj; rw [← hobj]; exact hid)
          fun ho => by rw [h.fresh dst ho] at hd; cases hd
      have hadd := hdup.objAddToPool (o := dst) setObj_objs hid room
      rcases hadd with ⟨hret, hinv, -, i, hobjs⟩ | ⟨hret, he, -⟩
      · rw [if_neg (not_not.2 hret)]
        have hdst : ((st.setObj dst (some (d.dup s))).objAddToPool dst room).2.objs dst =
            some { d.dup s with poolid := some i } := by
          rw [hobjs]
          exact Function.update_self _ _ _
        have hattrs : (((st.setObj dst (some (d.dup s))).objAddToPool dst room).2.setObj dst
            (some { d.dup s with
              poolid := some i, attrs := s.attrs.take (lack.getD (s.attrs.length + 1) - 1) })).Inv :=
          (hinv hhandle).setObj_same hdst rfl rfl id
        rw [hdst, Option.map_some]
        split <;> exact hattrs
      · rw [if_pos hret, he]
        exact hdup
    · rw [if_pos hid]
      exact h

theorem Inv.objStorePublicKey (h : st.Inv) (hobj : st.objs o = some obj)
    (hmock : obj.handle = ckP11provImportedHandle) {made : Option (SlotId × ObjectHandle)}
    (hmade : ∀ m ∈ made, m.2 ≠ ckP11provImportedHandle) :
    (st.objStorePublicKey o made room).2.Inv := by
  have hid : obj.poolid = none := by
    by_contra hid
    exact (h.home o obj hobj hid).2 hmock
  rw [PoolState.objStorePublicKey, hobj]
  simp only
  split
  · exact h
  · split
    · exact h
    · split
      · rcases made with _ | ⟨slotid, handle⟩
        · exact h
        · have hset : (st.setObj o (some { obj with slotid, handle })).Inv :=
            h.setObj (fun x hx => by rw [hobj, Option.some_inj] at hx; rw [← hx, hid])
              (fun x hx => by rw [Option.mem_some_iff] at hx; rw [← hx]; exact hid)
              fun ho => by rw [h.fresh o ho] at hobj; cases hobj
          have hadd := hset.objAddToPool (o := o) setObj_objs hid room
          rcases hadd with ⟨-, hinv, -⟩ | ⟨-, he, -⟩
          · exact hinv (hmade _ rfl)
          · simp only [he]
            exact hset
      · exact h

/-- The other fields of an object may change. -/
theorem Inv.map (h : st.Inv) {f : PoolObj → PoolObj} (hid : ∀ obj, (f obj).poolid = obj.poolid)
    (hslot : ∀ obj, (f obj).slotid = obj.slotid) (hhandle : ∀ obj, (f obj).handle = obj.handle) :
    (st.setObj o ((st.objs o).map f)).Inv := by
  cases hobj : st.objs o with
  | none =>
    exact h.setObj (fun x hx => by rw [hobj] at hx; cases hx) (fun x hx => by cases hx) fun _ => rfl
  | some obj => exact h.setObj_same hobj (hid obj) (hslot obj) fun hne => by rwa [hhandle]

theorem Inv.objFree (h : st.Inv) : (st.objFree o).Inv := by
  rw [PoolState.objFree]
  cases hobj : st.objs o with
  | none => exact h
  | some obj =>
    simp only
    split
    · exact h.setObj_same hobj rfl rfl id
    · have hzero : (st.setObj o (some { obj with refcnt := 0 })).Inv :=
        h.setObj_same hobj rfl rfl id
      obtain ⟨hinv, -, x, hx, hid⟩ := hzero.objRmFromPool setObj_objs
      exact hinv.setObj (fun y hy => by rw [hx, Option.some_inj] at hy; rw [← hy, hid])
        (fun y hy => by cases hy) fun _ => rfl

theorem Inv.poolForkReset (h : st.Inv) : (st.poolForkReset slot).Inv := by
  rw [PoolState.poolForkReset]
  cases hpool : st.pools slot with
  | none => exact h
  | some pool =>
    simp only
    refine ⟨h.pool, fun slot' p i o hp => ?_, fun o x hx hid => ?_, fun o ho => ?_, h.consistent⟩
    · refine (h.entry slot' p i o hp).trans ?_
      simp only
      split
      · cases st.objs o with
        | none => simp
        | some obj => simp [PoolObj.reset]
      · rfl
    · simp only at hx
      split at hx
      · obtain ⟨obj, hobj, rfl⟩ := Option.map_eq_some_iff.1 hx
        exact ⟨(h.home o obj hobj hid).1, (by decide : ckInvalidHandle ≠ ckP11provImportedHandle)⟩
      · exact h.home o x hx hid
    · simp only [h.fresh o ho]
      split <;> rfl

/-- Every call keeps the invariant. -/
theorem Inv.step (h : st.Inv) {op : Op} (hop : st.Fits op) : (st.step op).Inv := by
  cases op with
  | new slotid handle cls alloc room => exact h.objNew
  | fill o cls key attrs => exact h.map (fun _ => rfl) (fun _ => rfl) fun _ => rfl
  | dup dst src room lack => exact h.returnDupKey hop
  | store o made room =>
    obtain ⟨⟨obj, hobj, hmock⟩, hmade⟩ := hop
    exact h.objStorePublicKey hobj hmock hmade
  | ref o => exact h.map (fun _ => rfl) (fun _ => rfl) fun _ => rfl
  | free o => exact h.objFree
  | forkReset slot => exact h.poolForkReset

/-- It holds of every state that calls lead to. -/
theorem Reached.inv {slots : SlotId → Prop} [DecidablePred slots] (h : Reached slots st) :
    st.Inv := by
  induction h with
  | start =>
    have hempty {slot : SlotId} {p : SlotArray ObjId}
        (hp : (if slots slot then some {} else none) = some p) : p = {} := by
      split at hp
      · exact (Option.some.inj hp).symm
      · cases hp
    refine ⟨fun slot p hp => ?_, fun slot p i o hp => ?_, fun o x hx => ?_, fun o _ => rfl, rfl⟩
    · rw [hempty hp]
      exact ⟨.empty, Nat.dvd_zero _, Nat.zero_le _⟩
    · rw [hempty hp]
      simp
    · cases hx
  | step _ hop ih => exact ih.step hop

/-! ## What the pools represent -/

/-- The pools represent the objects: the entry `i` of the pool of a slot is an object exactly if the
    object is live and says so, in one place at most; a pool knows how many entries are occupied,
    has the sizes it may have and no free entry below its hint; no call found an inconsistent
    state; and adding to a pool fails for lack of room, of memory or of the slot only. -/
structure Represents (st : PoolState) : Prop where
  entry : ∀ slot pool (i : Nat) o, st.pools slot = some pool → (pool.entries[i]? = some (some o) ↔
    ∃ obj, st.objs o = some obj ∧ obj.poolid = some i ∧ obj.slotid = slot)
  pooled : ∀ o obj, st.objs o = some obj → obj.poolid ≠ none → (st.pools obj.slotid).isSome = true
  once : ∀ slot pool (i : Nat) slot' pool' (i' : Nat) o, st.pools slot = some pool → st.pools slot' = some pool' →
    pool.entries[i]? = some (some o) → pool'.entries[i']? = some (some o) → slot = slot' ∧ i = i'
  num : ∀ slot pool, st.pools slot = some pool → pool.num = pool.entries.countP Option.isSome
  size : ∀ slot pool, st.pools slot = some pool →
    poolAllocSize ∣ pool.size ∧ pool.size ≤ poolMaxSize
  hint : ∀ slot pool (i : Nat), st.pools slot = some pool → i < pool.firstFree →
    ∃ o, pool.entries[i]? = some (some o)
  consistent : st.inconsistent = false
  add : ∀ o obj room, st.objs o = some obj → obj.poolid = none →
    (st.objAddToPool o room).1 ≠ Ckr.ok →
      st.pools obj.slotid = none ∨ room = false ∨
        ∃ pool, st.pools obj.slotid = some pool ∧ pool.num = poolMaxSize

theorem Reached.represents {slots : SlotId → Prop} [DecidablePred slots] (h : Reached slots st) :
    st.Represents := by
  have hinv := h.inv
  refine ⟨hinv.entry, fun o obj hobj hid => (hinv.home o obj hobj hid).1, ?_, ?_, ?_, ?_,
    hinv.consistent, ?_⟩
  · intro slot pool i slot' pool' i' o hp hp' hi hi'
    obtain ⟨obj, hobj, hid, hslot⟩ := (hinv.entry slot pool i o hp).1 hi
    obtain ⟨obj', hobj', hid', hslot'⟩ := (hinv.entry slot' pool' i' o hp').1 hi'
    obtain rfl := Option.some.inj (hobj.symm.trans hobj')
    exact ⟨hslot.symm.trans hslot', Option.some.inj (hid.symm.trans hid')⟩
  · exact fun slot pool hp => (hinv.pool slot pool hp).1.num
  · exact fun slot pool hp => (hinv.pool slot pool hp).2
  · exact fun slot pool i hp hi => (hinv.pool slot pool hp).1.hint i hi
  · intro o obj room hobj hid hne
    have hadd := hinv.objAddToPool hobj hid room
    rcases hadd with ⟨hok, -⟩ | ⟨-, -, hwhy⟩
    · exact absurd hok hne
    · exact hwhy

/-- A slot with a pool that is empty. -/
def emptyPool : PoolState := { pools := fun slot => if slot = 7 then some {} else none }

/-- Two objects on the slot: one of the token, and one that was imported and found to be a duplicate
    of it. -/
def dupPool : PoolState :=
  ((emptyPool.step (.new 7 40 Cko.publicKey true true)).step
    (.new ckUnavailableInformation ckP11provImportedHandle Cko.publicKey true true)).step
      (.dup 1 0 true none)

/-- A third object that was imported, an RSA key, is stored on the token. -/
def storedPool : PoolState :=
  ((dupPool.step
    (.new ckUnavailableInformation ckP11provImportedHandle Cko.publicKey true true)).step
      (.fill 2 Cko.publicKey { type := ckkRsa } [(ckaModulus, [35]), (ckaPublicExponent, [3])])).step
        (.store 2 (some (7, 42)) true)

theorem dupPool_reached : Reached (· = 7) dupPool := by
  refine .step (.step (.step .start trivial) trivial) ?_
  exact ⟨7, _, rfl, by decide⟩

theorem storedPool_reached : Reached (· = 7) storedPool := by
  refine .step (.step (.step dupPool_reached trivial) trivial) ⟨⟨_, rfl, rfl⟩, ?_⟩
  rintro _ ⟨⟩
  decide

/-- The first object is given up, and its entry is free again; then the process forks. -/
theorem reached_represents :
    ((storedPool.step (.free 0)).step (.forkReset 7)).Represents ∧
      (((storedPool.step (.free 0)).step (.forkReset 7)).pools 7).map (·.entries.take 4) =
        some [none, some 1, some 2, none] :=
  ⟨Reached.represents (.step (.step storedPool_reached trivial) trivial), by decide⟩

end PoolState

end P11Prov
